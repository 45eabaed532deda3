import TxInspect.Text.Columns.Emoji
import TxInspect.Text.Columns.Ligature

/-!
# Terminal columns

How many columns a text takes on a terminal (`columns`). A character takes the columns it has by
itself (`columnsOf`) unless it belongs to an emoji sequence (`EmojiSequence`) or to a sign of
several letters (`Ligature`), or a selector after it chooses another form. The text is read from
its end: `Context.step` gives the columns of a character before what follows it, and the context of
the character on its left.
-/

namespace TxInspect.Text

/-- A mark that chooses the form of the character before it. -/
inductive Selector where
  /-- The picture. -/
  | picture
  /-- The text form. -/
  | text
  /-- The full-width form. -/
  | wide
deriving DecidableEq, Repr

/-- The selector that a character is. -/
def Selector.ofChar? (c : Char) : Option Selector :=
  if c.toNat = 0xFE0F then some .picture
  else if c.toNat = 0xFE0E then some .text
  else if c.toNat = 0xFE01 then some .wide
  else none

/-- The character is a quotation mark with a full-width form. -/
def isWideQuote (c : Char) : Bool :=
  c == '‘' || c == '’' || c == '“' || c == '”'

/-- What the text to the right of a character starts with. -/
inductive Follower where
  | plain
  | sequence (s : EmojiSequence)
  | ligature (l : Ligature)
deriving DecidableEq, Repr

namespace Follower

/-- What a text starts with whose first character stands for itself. -/
def ofChar (c : Char) : Follower :=
  match EmojiSequence.ofChar? c, Ligature.ofChar? c with
  | some s, _ => .sequence s
  | none, some l => .ligature l
  | none, none => .plain

/-- The start of the text with one more character at its left, if that belongs to it, and the change
of the width. -/
def extend? (f : Follower) (c : Char) : Option (Int × Follower) :=
  match f with
  | .plain => none
  | .sequence s => (s.extend? c).map fun (n, s) => (n, .sequence s)
  | .ligature l => (l.extend? c).map fun (n, l) => (n, (l.map ligature).getD plain)

/-- A picture goes on to the right, so another one that is put in front takes no columns. -/
def awaitsPicture (f : Follower) : Bool :=
  f == .sequence .joined || f == .sequence .joinedKeycap

end Follower

/-- What stands to the right of a character: perhaps a selector, and then the text. -/
structure Context where
  selector : Option Selector
  follower : Follower
deriving DecidableEq, Repr

namespace Context

/-- The context of a last character. -/
def ending : Context := ⟨none, .plain⟩

/-- The columns and the context of the next character, where the selector counts for this one. -/
def chosen? (k : Context) (c : Char) : Option (Int × Context) :=
  match k.selector with
  | some .picture =>
    if isStyled c then
      some (if k.follower.awaitsPicture then 0 else 2, ⟨none, .sequence .picture⟩)
    else none
  | some .text => if isNarrowedByStyle c then some (1, ending) else none
  | some .wide => if isWideQuote c then some (2, ending) else none
  | none => none

/-- The context without its selector: a ligature goes on through it, a sequence does not. -/
def passSelector (k : Context) : Context :=
  match k.selector, k.follower with
  | none, _ => k
  | some _, .ligature l => ⟨none, .ligature l⟩
  | some _, _ => ending

/-- The context with a selector in front: a ligature goes on through it, and a sequence that awaits
a picture goes on if it selects one. -/
def select (k : Context) (s : Selector) : Context :=
  match k.follower with
  | .ligature l => ⟨some s, .ligature l⟩
  | f => if s = .picture && f.awaitsPicture then ⟨some s, f⟩ else ⟨some s, .plain⟩

/-- The columns of a character in its context, and the context of the character on its left. -/
def step (k : Context) (c : Char) : Int × Context :=
  match k.chosen? c with
  | some r => r
  | none =>
    let k := k.passSelector
    match Selector.ofChar? c with
    | some s => (0, k.select s)
    | none =>
      match k.follower.extend? c with
      | some (n, f) => (n, ⟨none, f⟩)
      | none => (columnsOf c, ⟨none, .ofChar c⟩)

end Context

/-- The columns of a text and the context of a character on its left. -/
def measure (cs : List Char) : Int × Context :=
  cs.foldr (fun c right =>
    let (n, k) := right.2.step c
    (right.1 + n, k)) (0, .ending)

/-- The columns a text takes. -/
def columns (cs : List Char) : Nat :=
  (measure cs).1.toNat

end TxInspect.Text
