/-!
# Styled text

A styled text is a list of pieces, each with a style or without one (`Span`). Without colors only
the texts remain (`Styled.plain`); with colors a styled piece stands between the code of its style
and the code that ends all styles (`Styled.colored`).
-/

namespace TxInspect.Report

/-- How a piece of text stands out. -/
inductive Style where
  | heading
  | bold
  | dim
  | red
  | green
  | yellow
deriving DecidableEq, Repr

/-- A code of a terminal: its number between `ESC [` and `m`. -/
def terminalCode (number : List Char) : List Char :=
  '\x1B' :: '[' :: number ++ ['m']

/-- The number of a style. -/
def Style.number : Style → List Char
  | .heading => ['1', ';', '3', '6']
  | .bold => ['1']
  | .dim => ['2']
  | .red => ['3', '1']
  | .green => ['3', '2']
  | .yellow => ['3', '3']

/-- The code that starts a style. -/
def Style.start (s : Style) : List Char := terminalCode s.number

/-- The code that ends all styles. -/
def endOfStyles : List Char := terminalCode ['0']

/-- The text with a style started again wherever the text itself ends all styles. -/
def keepStyle (s : Style) : List Char → List Char
  | '\x1B' :: '[' :: '0' :: 'm' :: cs => endOfStyles ++ s.start ++ keepStyle s cs
  | c :: cs => c :: keepStyle s cs
  | [] => []

/-- A text in a style. -/
def painted (s : Style) (cs : List Char) : List Char :=
  s.start ++ keepStyle s cs ++ endOfStyles

/-- A piece of text. -/
structure Span where
  style : Option Style
  text : String
deriving DecidableEq, Repr

/-- The piece with colors. -/
def Span.colored (s : Span) : List Char :=
  match s.style with
  | some style => painted style s.text.toList
  | none => s.text.toList

/-- A text in pieces. -/
abbrev Styled := List Span

namespace Styled

/-- A text without a style. -/
def ofText (s : String) : Styled := [⟨none, s⟩]

/-- A text with a style. -/
def ofStyle (style : Style) (s : String) : Styled := [⟨some style, s⟩]

/-- The text without colors. -/
def plain (s : Styled) : List Char :=
  s.flatMap (·.text.toList)

/-- The text with colors. -/
def colored (s : Styled) : List Char :=
  s.flatMap Span.colored

/-- The text, with colors or without. -/
def render (s : Styled) (color : Bool) : String :=
  String.ofList (if color then s.colored else s.plain)

end Styled

end TxInspect.Report
