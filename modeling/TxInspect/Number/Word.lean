/-!
# Words

A word of some number of bits holds the numbers below `Word.limit`.
-/

namespace TxInspect.Word

/-- The least number that a word of `bits` bits cannot hold. -/
def limit (bits : Nat) : Nat :=
  Nat.pow 2 bits

end TxInspect.Word
