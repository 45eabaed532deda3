import TxInspect.Json.Value

/-!
# Printing JSON

Values are printed over several lines, two blanks for each level, and empty arrays and objects as
`[]` and `{}` (`Json.pretty`). In strings the quote, the backslash and control characters are
escaped (`quotedChars`), and everything else stands for itself.
-/

namespace TxInspect.Json

/-- A control character as an escape with four digits. -/
def controlEscape (c : Char) : List Char :=
  ['\\', 'u', '0', '0', Digit.hexadecimal (c.toNat / 16), Digit.hexadecimal (c.toNat % 16)]

/-- A character inside a string. -/
def escapedChar (c : Char) : List Char :=
  match c with
  | '\"' => ['\\', '\"']
  | '\\' => ['\\', '\\']
  | '\x08' => ['\\', 'b']
  | '\x0C' => ['\\', 'f']
  | '\n' => ['\\', 'n']
  | '\r' => ['\\', 'r']
  | '\t' => ['\\', 't']
  | c => if c.toNat < 0x20 then controlEscape c else [c]

/-- A string between quotes. -/
def quotedChars (s : String) : List Char :=
  '\"' :: s.toList.flatMap escapedChar ++ ['\"']

/-- The digits as characters. -/
def digitChars (digits : List Nat) : List Char :=
  digits.map Digit.hexadecimal

/-- A number as it is written. -/
def Numeral.chars (n : Numeral) : List Char :=
  (if n.negative then ['-'] else []) ++ digitChars n.whole
    ++ (if n.fraction = [] then [] else '.' :: digitChars n.fraction)
    ++ match n.exponent with
      | none => []
      | some (negative, digits) => 'e' :: (if negative then ['-'] else []) ++ digitChars digits

/-- A line break before a line at a level. -/
def newLine (level : Nat) : List Char :=
  '\n' :: List.replicate (2 * level) ' '

mutual

/-- The value at a level. -/
def prettyChars (level : Nat) : Json → List Char
  | .null => "null".toList
  | .bool true => "true".toList
  | .bool false => "false".toList
  | .number n => n.chars
  | .text s => quotedChars s
  | .array [] => ['[', ']']
  | .array (item :: items) =>
    '[' :: newLine (level + 1) ++ prettyChars (level + 1) item
      ++ prettyItems (level + 1) items ++ newLine level ++ [']']
  | .object [] => ['\x7B', '\x7D']
  | .object ((name, value) :: members) =>
    '\x7B' :: newLine (level + 1) ++ quotedChars name ++ ':' :: ' ' :: prettyChars (level + 1) value
      ++ prettyMembers (level + 1) members ++ newLine level ++ ['\x7D']
termination_by structural value => value

/-- The items after the first one, each after a comma. -/
def prettyItems (level : Nat) : List Json → List Char
  | [] => []
  | item :: items => ',' :: newLine level ++ prettyChars level item ++ prettyItems level items
termination_by structural items => items

/-- The members after the first one, each after a comma. -/
def prettyMembers (level : Nat) : List (String × Json) → List Char
  | [] => []
  | (name, value) :: members =>
    ',' :: newLine level ++ quotedChars name ++ ':' :: ' ' :: prettyChars level value
      ++ prettyMembers level members
termination_by structural members => members

end

/-- The value over several lines, without a line break at the end. -/
def pretty (value : Json) : String :=
  String.ofList (prettyChars 0 value)

end TxInspect.Json
