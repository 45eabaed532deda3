import Mathlib.Tactic.Common
import TxInspect.Report.Styled

/-!
# Codes in a text

A code is `ESC [`, digits and semicolons, and `m` (`codeAt?_eq_some_iff`).  A text is read from its
start: where a code begins it is passed over, and any other character is shown (`signs`).  Pieces of
text without `ESC` are read as they have been styled (`signs_colored`).  So deleting the codes of a
text with colors leaves the text without colors (`withoutCodes_render`), and each of its styles is
ended before the next one starts (`codes_render`).
-/

namespace TxInspect.Report

/-! ### Reading codes -/

/-- A digit or a semicolon. -/
def isParameter (c : Char) : Bool :=
  c.isDigit || c == ';'

/-- The number of the code that a text starts with. -/
def codeAt? : List Char → Option (List Char)
  | '\x1B' :: '[' :: cs =>
    match cs.dropWhile isParameter with
    | 'm' :: _ => some (cs.takeWhile isParameter)
    | _ => none
  | _ => none

/-- What is found in a text. -/
inductive Sign where
  | shown (c : Char)
  | code (number : List Char)
deriving DecidableEq, Repr

/-- What is found in a text, the first characters passed over. -/
def signs : Nat → List Char → List Sign
  | _, [] => []
  | n + 1, _ :: cs => signs n cs
  | 0, c :: cs =>
    match codeAt? (c :: cs) with
    -- The rest of the code is its number, with `[` before and `m` behind it.
    | some number => .code number :: signs (number.length + 2) cs
    | none => .shown c :: signs 0 cs

/-- The character that is shown. -/
def Sign.shown? : Sign → Option Char
  | .shown c => some c
  | .code _ => none

/-- The number of the code. -/
def Sign.number? : Sign → Option (List Char)
  | .shown _ => none
  | .code number => some number

/-- The text with every code deleted. -/
def withoutCodes (text : String) : String :=
  String.ofList ((signs 0 text.toList).filterMap Sign.shown?)

/-- The numbers of the codes in a text. -/
def codes (text : String) : List (List Char) :=
  (signs 0 text.toList).filterMap Sign.number?

variable {cs : List Char} {number : List Char}

/-- A text starts with a code if it starts with `ESC [`, digits and semicolons, and `m`. -/
theorem codeAt?_eq_some_iff : codeAt? cs = some number ↔
    number.all isParameter = true ∧ ∃ rest, cs = terminalCode number ++ rest := by
  constructor
  · intro h
    unfold codeAt? at h
    split at h
    · next cs =>
      split at h
      · next rest hrest =>
        cases h
        have whole := List.takeWhile_append_dropWhile (p := isParameter) (l := cs)
        refine ⟨List.all_takeWhile, rest, ?_⟩
        rw [hrest] at whole
        simp only [terminalCode, List.cons_append, List.append_assoc, List.nil_append, whole]
      · cases h
    · cases h
  · rintro ⟨parameters, rest, rfl⟩
    have each := List.all_eq_true.1 parameters
    have other : isParameter 'm' = false := by decide
    simp [terminalCode, codeAt?, List.dropWhile_append_of_pos each,
      List.takeWhile_append_of_pos each, other]

theorem codeAt?_of_ne {c : Char} (h : c ≠ '\x1B') (cs : List Char) : codeAt? (c :: cs) = none := by
  cases hcode : codeAt? (c :: cs) with
  | none => rfl
  | some number =>
    obtain ⟨-, rest, same⟩ := codeAt?_eq_some_iff.1 hcode
    exact absurd (List.head_eq_of_cons_eq same) h

theorem signs_passed (passed cs : List Char) : signs passed.length (passed ++ cs) = signs 0 cs := by
  induction passed with
  | nil => rfl
  | cons c passed ih => rw [List.length_cons, List.cons_append, signs, ih]

theorem signs_terminalCode (parameters : number.all isParameter = true) (cs : List Char) :
    signs 0 (terminalCode number ++ cs) = .code number :: signs 0 cs := by
  have code := codeAt?_eq_some_iff.2 ⟨parameters, cs, rfl⟩
  have passed := signs_passed ('[' :: number ++ ['m']) cs
  rw [List.length_append, List.length_cons, List.length_singleton] at passed
  rw [terminalCode, List.cons_append, List.cons_append] at code ⊢
  rw [signs, code]
  exact congrArg _ passed

/-- A text without `ESC` is shown. -/
theorem signs_append_of_notMem (h : '\x1B' ∉ cs) (ds : List Char) :
    signs 0 (cs ++ ds) = cs.map .shown ++ signs 0 ds := by
  induction cs with
  | nil => rfl
  | cons c cs ih =>
    rw [List.mem_cons, not_or] at h
    rw [List.cons_append, signs, codeAt?_of_ne (Ne.symm h.1), ih h.2]
    rfl

/-! ### Styled text -/

theorem all_isParameter_number (s : Style) : s.number.all isParameter = true := by
  cases s <;> decide

theorem keepStyle_of_notMem (s : Style) (h : '\x1B' ∉ cs) : keepStyle s cs = cs := by
  fun_induction keepStyle s cs with
  | case1 cs ih => exact absurd List.mem_cons_self h
  | case2 c cs _ ih => rw [ih (List.not_mem_of_not_mem_cons h)]
  | case3 => rfl

/-- What is found in a piece of text with colors: its own characters, between a code that starts its
style and one that ends it. -/
def Span.signs (s : Span) : List Sign :=
  match s.style with
  | some style => .code style.number :: s.text.toList.map .shown ++ [.code ['0']]
  | none => s.text.toList.map .shown

/-- No piece of the text holds an `ESC`. -/
def Styled.NoEscape (s : Styled) : Prop :=
  ∀ span ∈ s, '\x1B' ∉ span.text.toList

theorem signs_span {span : Span} (h : '\x1B' ∉ span.text.toList) (cs : List Char) :
    signs 0 (span.colored ++ cs) = span.signs ++ signs 0 cs := by
  obtain ⟨style, text⟩ := span
  cases style with
  | none => exact signs_append_of_notMem h cs
  | some style =>
    have ending : ['0'].all isParameter = true := by decide
    simp only [Span.colored, Span.signs, painted, Style.start, endOfStyles, List.append_assoc,
      keepStyle_of_notMem style h, signs_terminalCode (all_isParameter_number style),
      signs_append_of_notMem h, signs_terminalCode ending, List.cons_append, List.nil_append]

variable {s : Styled}

theorem signs_colored (h : s.NoEscape) : signs 0 s.colored = s.flatMap Span.signs := by
  induction s with
  | nil => rfl
  | cons span s ih =>
    obtain ⟨first, rest⟩ := List.forall_mem_cons.1 h
    have tail := ih rest
    rw [Styled.colored] at tail ⊢
    rw [List.flatMap_cons, List.flatMap_cons, signs_span first, tail]

theorem signs_render (h : s.NoEscape) : signs 0 (s.render true).toList = s.flatMap Span.signs := by
  rw [Styled.render, String.toList_ofList, if_pos rfl, signs_colored h]

theorem filterMap_shown?_signs (span : Span) :
    span.signs.filterMap Sign.shown? = span.text.toList := by
  obtain ⟨_ | style, text⟩ := span <;>
    simp [Span.signs, Sign.shown?, List.filterMap_cons, List.filterMap_map, Function.comp_def]

theorem filterMap_number?_signs (span : Span) :
    span.signs.filterMap Sign.number? =
      span.style.toList.flatMap fun style => [style.number, ['0']] := by
  obtain ⟨_ | style, text⟩ := span <;>
    simp [Span.signs, Sign.number?, List.filterMap_map, Function.comp_def]

/-- The codes of a text are deleted, and the text without colors is left. -/
theorem withoutCodes_render (h : s.NoEscape) : withoutCodes (s.render true) = s.render false := by
  rw [withoutCodes, signs_render h, List.filterMap_flatMap]
  simp only [filterMap_shown?_signs]
  rfl

example : withoutCodes "\x1B[1;36mCall\x1B[0m \x1B[x" = "Call \x1B[x" := by decide +kernel

/-- The codes of a text with colors are the styles of its pieces, each with the end of all styles
right behind it. -/
theorem codes_render (h : s.NoEscape) : codes (s.render true) =
    (s.flatMap (·.style.toList)).flatMap fun style => [style.number, ['0']] := by
  rw [codes, signs_render h, List.filterMap_flatMap, List.flatMap_assoc]
  simp only [filterMap_number?_signs]

end TxInspect.Report
