import TxInspect.Text.Combining
import TxInspect.Text.Printable

/-!
# Quoted texts

The forms in which logs and messages quote a text (`quoted`) or a single character
(`quotedChar`): between its quotes, with a backslash form for the quote itself, the backslash, NUL,
tab, line feed and carriage return, and a code-point form for every character that is not printable
or joins the one before it.
-/

namespace TxInspect.Text

/-- A code point in the form `\u{1f}`. -/
def codePointForm (n : Nat) : List Char :=
  ['\\', 'u', Char.ofNat 0x7B] ++ Nat.toDigits 16 n ++ [Char.ofNat 0x7D]

/-- A character inside quotes of the form `quote`. -/
def quotedForm (quote c : Char) : List Char :=
  if c = quote ∨ c = '\\' then ['\\', c]
  else if c.toNat = 0 then ['\\', '0']
  else if c = '\t' then ['\\', 't']
  else if c = '\n' then ['\\', 'n']
  else if c = '\r' then ['\\', 'r']
  else if isExtending c || !isPrintable c then codePointForm c.toNat
  else [c]

/-- A text between double quotes. -/
def quoted (s : String) : String :=
  String.ofList ('\"' :: s.toList.flatMap (quotedForm '\"') ++ ['\"'])

/-- A character between single quotes. -/
def quotedChar (c : Char) : String :=
  String.ofList ('\'' :: quotedForm '\'' c ++ ['\''])

end TxInspect.Text
