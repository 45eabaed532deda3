import Mathlib.Data.List.Chain
import TxInspect.Failure
import TxInspect.Proofs.Report.Layout

/-!
# Reports of failures

The text of a failure ends with the text of its cause, which ends with the text of the next one
(`causes_isChain`).  So no cause says more than has been said before it, and the report of a failure
is its text behind the word `error` (`render_report`), one line unless the text itself holds line
breaks (`count_newline_report`).
-/

namespace TxInspect

/-- A text that another one ends with. -/
def EndsWith (text part : String) : Prop :=
  part.toList <:+ text.toList

theorem endsWith_append (start part : String) : EndsWith (start ++ part) part := by
  rw [EndsWith, String.toList_append]
  exact List.suffix_append start.toList part.toList

namespace Address

theorem Fault.causes_isChain (e : Fault) :
    List.IsChain EndsWith (e.message :: e.cause?.toList) := by
  cases e with
  | notHex cause => exact .cons_cons (endsWith_append _ _) (.singleton _)
  | notBech32 cause => exact .singleton _
  | wrongPrefix expected found => exact .singleton _
  | wrongLength expected found => exact .singleton _

end Address

namespace Transaction

theorem Fault.causes_isChain (wording : Json.Wording) (e : Fault) :
    List.IsChain EndsWith (e.message wording :: e.causes wording) := by
  cases e with
  | badData cause => exact .cons_cons (endsWith_append _ _) (.singleton _)
  | badHex argument cause => exact .cons_cons (endsWith_append _ _) (.singleton _)
  | badPayload cause => exact .cons_cons (endsWith_append _ _) (.singleton _)
  -- The text of this fault is the text of its cause, so that its causes are the cause's.
  | address cause => exact cause.causes_isChain
  | badValue => exact .singleton _
  | badNumber argument text => exact .singleton _
  | fewArguments kind required found => exact .singleton _
  | badAddress => exact .singleton _
  | tooDeep max => exact .singleton _

end Transaction

namespace Failure

/-- Each text ends with the next one. -/
theorem causes_isChain (wording : Json.Wording) (f : Failure) :
    List.IsChain EndsWith (f.message wording :: f.causes wording) := by
  cases f with
  | noInput => exact .singleton _
  | fileNotFound path => exact .singleton _
  | unreadable path reason =>
    cases path with
    | none => exact .cons_cons (endsWith_append _ _) (.singleton _)
    | some path => exact .cons_cons (endsWith_append _ _) (.singleton _)
  | document cause => exact .cons_cons (endsWith_append _ _) (.singleton _)
  | address cause => exact .cons_cons (endsWith_append _ _) cause.causes_isChain
  | transaction cause => exact .cons_cons (endsWith_append _ _) (cause.causes_isChain wording)
  | outcome cause => exact .cons_cons (endsWith_append _ _) (.singleton _)
  | layout => exact .singleton _

theorem isWithin_iff (part text : List Char) : isWithin part text = true ↔ part <:+: text := by
  induction text with
  | nil => rw [isWithin, List.isEmpty_iff, List.infix_nil]
  | cons c cs ih => rw [isWithin, Bool.or_eq_true, List.isPrefixOf_iff_prefix, ih,
      List.infix_cons_iff]

theorem newCauses_of_isChain {said : String} {causes : List String}
    (h : List.IsChain EndsWith (said :: causes)) : newCauses said causes = [] := by
  induction causes generalizing said with
  | nil => rfl
  | cons cause causes ih =>
    obtain ⟨ends, chain⟩ := List.isChain_cons_cons.1 h
    rw [newCauses, if_pos ((isWithin_iff _ _).2 ends.isInfix), ih chain]

/-- Every text of a cause is part of the failure's own text. -/
theorem endsWith_of_mem_causes {wording : Json.Wording} {f : Failure} {cause : String}
    (h : cause ∈ f.causes wording) : EndsWith (f.message wording) cause := by
  have : Trans EndsWith EndsWith EndsWith := ⟨fun first second => second.trans first⟩
  exact (f.causes_isChain wording).rel_cons h

/-- The word in front of a failure, red if there are colors. -/
def errorWord (color : Bool) : String :=
  if color then "\x1B[31merror\x1B[0m" else "error"

/-- The report of a failure is its text behind the word. -/
theorem render_report (f : Failure) (wording : Json.Wording) (color : Bool) :
    (f.report wording).render color = errorWord color ++ (": " ++ f.message wording ++ "\n") := by
  have word : (Report.Styled.ofStyle .red "error").render color = errorWord color := by
    cases color <;> decide
  rw [report, newCauses_of_isChain (f.causes_isChain wording), List.flatMap_nil, List.append_nil,
    Report.Styled.render_append, Report.Styled.render_ofText, word]

/-- Only the text of a failure breaks the line of its report. -/
theorem count_newline_report (message : String) (color : Bool) :
    (errorWord color ++ (": " ++ message ++ "\n")).toList.count '\n' = 1 ↔
      '\n' ∉ message.toList := by
  have word : (errorWord color).toList.count '\n' = 0 := by cases color <;> decide
  have mark : ": ".toList.count '\n' = 0 := by decide
  have ending : "\n".toList.count '\n' = 1 := by decide
  simp only [String.toList_append, List.count_append, word, mark, ending, Nat.zero_add]
  rw [Nat.add_eq_right, List.count_eq_zero]

end Failure

end TxInspect
