import Mathlib.Tactic.Common
import TxInspect.Proofs.Report.Layout
import TxInspect.Proofs.Transaction.Shape

/-!
# Arguments as they are shown

The arguments of a description are hexadecimal, whatever it has been taken from, so the report on it
can always be laid out (`describe_shown`).  Each argument has a row: the argument itself if it is
short, and else its two ends (`IsShownAs`), and the text that it states in printable ASCII
characters, if it states one (`IsTextOf`).
-/

namespace TxInspect.Report

variable {arg text hex : String} {args : List String} {m : Metadata}

/-! ### The text of an argument -/

/-- The text is one or more printable ASCII characters, and the argument states their bytes. -/
def IsTextOf (arg text : String) : Prop :=
  text ≠ "" ∧ (∀ c ∈ text.toList, 0x20 ≤ c.toNat ∧ c.toNat ≤ 0x7E) ∧
    Hex.ofText arg = .ok (Utf8.bytes text)

theorem isPrintableByte_iff (b : UInt8) :
    isPrintableByte b = true ↔ 0x20 ≤ b.toNat ∧ b.toNat ≤ 0x7E := by
  simp [isPrintableByte, UInt8.le_iff_toNat_le]

theorem printable?_eq_some_iff : printable? arg = some text ↔ IsTextOf arg text := by
  unfold printable? IsTextOf
  constructor
  · intro h
    split at h
    · next bs hbs =>
      split_ifs at h with shown
      obtain ⟨nonempty, all⟩ := shown
      have printable : ∀ b ∈ bs, 0x20 ≤ b.toNat ∧ b.toNat ≤ 0x7E := fun b hb =>
        (isPrintableByte_iff b).1 (List.all_eq_true.1 all b hb)
      have ascii : ∀ b ∈ bs, b.toNat < 0x80 := fun b hb => by
        have := printable b hb
        omega
      cases h
      refine ⟨fun empty => ?_, ?_, ?_⟩
      · simpa [nonempty] using congrArg String.toList empty
      · simpa [Hex.toNat_ofByte] using printable
      · rw [Utf8.bytes, String.toList_ofList, Utf8.encode_map_ofByte ascii, hbs]
    · cases h
  · rintro ⟨nonempty, printable, hbytes⟩
    have bytes : Utf8.bytes text = text.toList.map fun c => UInt8.ofNat c.toNat :=
      Utf8.encode_of_lt fun c hc => by
        have := printable c hc
        omega
    have whole : ∀ c ∈ text.toList, (UInt8.ofNat c.toNat).toNat = c.toNat := fun c hc => by
      have := printable c hc
      exact Utf8.toNat_ofNat_of_lt (by omega)
    have shown : Utf8.bytes text ≠ [] ∧ (Utf8.bytes text).all isPrintableByte = true := by
      rw [bytes]
      refine ⟨by simpa using nonempty, List.all_eq_true.2 (List.forall_mem_map.2 fun c hc => ?_)⟩
      rw [isPrintableByte_iff, whole c hc]
      exact printable c hc
    have same : (Utf8.bytes text).map Digit.ofByte = text.toList := by
      rw [bytes, List.map_map]
      refine (List.map_congr_left fun c hc => ?_).trans (List.map_id _)
      rw [Function.comp_apply, Digit.ofByte, whole c hc, Char.ofNat_toNat, id]
    rw [hbytes]
    dsimp only
    rw [if_pos shown, same, String.ofList_toList]

/-- The text of an argument's cell is empty, or it is the one text that the argument states. -/
theorem getD_printable? (arg : String) :
    ((printable? arg).getD "" ≠ "" ↔ ∃ text, IsTextOf arg text) ∧
      ∀ text, IsTextOf arg text → (printable? arg).getD "" = text := by
  simp only [← printable?_eq_some_iff]
  cases h : printable? arg with
  | none => simp
  | some text => simpa using (printable?_eq_some_iff.1 h).1

/-! ### The digits of an argument -/

/-- The form of an argument: itself if it is not longer than 32 characters, and else its first and
its last 14 characters, which are 14 bytes each and do not overlap. -/
def IsShownAs (arg hex : String) : Prop :=
  arg.length ≤ 32 ∧ hex = arg ∨
    32 < arg.length ∧ ∃ first middle last : String, arg = first ++ middle ++ last ∧
      first.length = 14 ∧ (Utf8.bytes first).length = 14 ∧
      last.length = 14 ∧ (Utf8.bytes last).length = 14 ∧ hex = first ++ "..." ++ last

theorem isShownAs_shownForm (ascii : ∀ c ∈ arg.toList, c.toNat < 0x80) :
    IsShownAs arg (shownForm arg) := by
  have bytes : ∀ cs : List Char, (∀ c ∈ cs, c ∈ arg.toList) →
      (Utf8.bytes (String.ofList cs)).length = cs.length := fun cs sub => by
    rw [Utf8.bytes, String.toList_ofList, Utf8.length_encode_of_lt fun c hc => ascii c (sub c hc)]
  rw [shownForm, IsShownAs, ← String.length_toList]
  split_ifs with short
  · exact Or.inl ⟨short, rfl⟩
  · have long : 32 < arg.toList.length := Nat.lt_of_not_le short
    have first : (arg.toList.take 14).length = 14 := by
      rw [List.length_take]
      omega
    have last : (arg.toList.drop (arg.toList.length - 14)).length = 14 := by
      rw [List.length_drop]
      omega
    have rest : arg.toList.drop 14 = (arg.toList.drop 14).take (arg.toList.length - 28) ++
        arg.toList.drop (arg.toList.length - 14) := by
      have place : 14 + (arg.toList.length - 28) = arg.toList.length - 14 := by omega
      rw [← place, ← List.drop_drop, List.take_append_drop]
    refine Or.inr ⟨long, .ofList (arg.toList.take 14),
      .ofList ((arg.toList.drop 14).take (arg.toList.length - 28)),
      .ofList (arg.toList.drop (arg.toList.length - 14)), ?_, ?_, ?_, ?_, ?_, ?_⟩
    · rw [← String.ofList_append, ← String.ofList_append, List.append_assoc, ← rest,
        List.take_append_drop, String.ofList_toList]
    · rw [String.length_ofList, first]
    · rw [bytes _ fun c => List.mem_of_mem_take, first]
    · rw [String.length_ofList, last]
    · rw [bytes _ fun c => List.mem_of_mem_drop, last]
    · rw [String.ofList_append, String.ofList_append]
      rfl

/-- An argument has one form. -/
theorem IsShownAs.eq_shownForm (h : IsShownAs arg hex) : hex = shownForm arg := by
  rw [shownForm, maxArgumentBytes, shownBytes, String.length_toList]
  obtain ⟨short, rfl⟩ | ⟨long, first, middle, last, rfl, hfirst, -, hlast, -, rfl⟩ := h
  · rw [if_pos short]
  · rw [← String.length_toList] at hfirst hlast
    have front : (first ++ middle ++ last).toList.take 14 = first.toList := by
      rw [String.append_assoc, String.toList_append, List.take_left' hfirst]
    have behind : (first ++ middle ++ last).toList.drop ((first ++ middle ++ last).length - 14) =
        last.toList := by
      rw [← String.length_toList, String.toList_append]
      apply List.drop_left'
      rw [List.length_append, hlast, Nat.add_sub_cancel]
    rw [if_neg (Nat.not_le_of_lt long), front, behind, ← String.toList_inj]
    simp

/-! ### Whole reports -/

theorem ofText_infix_callSection {name : String} (call : m.call? = some (name, args))
    (nonempty : args ≠ []) {table : Table} (htable : argumentTable? args = some table) :
    ∃ styled, callSection? Table.draw m = some styled ∧
      Styled.ofText table.draw <:+: styled := by
  have arguments : argumentSection? Table.draw args =
      some (countedHeading "Arguments" args.length ++ .ofText table.draw) := by
    unfold argumentSection?
    rw [if_neg nonempty, htable]
    rfl
  unfold callSection?
  rw [call]
  dsimp only
  rw [arguments]
  refine ⟨_, rfl, ?_⟩
  have last := List.suffix_append (countedHeading "Arguments" args.length)
    (Styled.ofText table.draw)
  exact last.isInfix.trans (List.infix_append _ _ _)

/-- The report on a call holds the table of its arguments. -/
theorem exists_render?_table {name : String} (call : m.call? = some (name, args))
    (nonempty : args ≠ []) {table : Table} (htable : argumentTable? args = some table)
    (color : Bool) : ∃ before behind,
      render? (.metadata m) ⟨false, color⟩ = some (before ++ table.draw ++ behind) := by
  obtain ⟨own, hown, inside⟩ := ofText_infix_callSection call nonempty htable
  obtain ⟨styled, hstyled, whole⟩ :
      ∃ styled, ofMetadata? Table.draw m = some styled ∧ own <:+: styled := by
    unfold ofMetadata?
    rw [hown]
    exact ⟨_, rfl, List.infix_append _ _ _⟩
  obtain ⟨before, behind, rfl⟩ := inside.trans whole
  refine ⟨Styled.render before color, Styled.render behind color, ?_⟩
  rw [render?, renderWith?, if_neg Bool.false_ne_true, styled?, hstyled, Option.map_some,
    Styled.render_append, Styled.render_append, Styled.render_ofText]

/-- A description can be shown in every layout.  The arguments of its call are ASCII, and its report
holds a table with a row for each of them: its place, its digits, of which the two ends are shown if
they are more than 32, and the text that it states, if it states printable ASCII characters. -/
theorem describe_shown (settings : Settings) (tx : Transaction) (m : Metadata)
    (h : (Transaction.describe settings tx).result = .ok m) :
    (∀ layout, ∃ text, render? (.metadata m) layout = some text) ∧
    ∀ name args, m.call? = some (name, args) →
      (∀ arg ∈ args, ∀ c ∈ arg.toList, c.toNat < 0x80) ∧
      ∃ table : Table,
        (args ≠ [] → ∀ color, ∃ before behind,
          render? (.metadata m) ⟨false, color⟩ = some (before ++ table.draw ++ behind)) ∧
        table.rows.length = args.length ∧
        ∀ (i : Nat) (arg : String), args[i]? = some arg → ∃ hex text,
          table.rows[i]? = some [Cell.ofText (toString i), Cell.ofText hex, Cell.ofText text] ∧
            IsShownAs arg hex ∧ (text ≠ "" ↔ ∃ s, IsTextOf arg s) ∧
            ∀ s, IsTextOf arg s → text = s := by
  have shaped := Transaction.isShaped_of_describeWith h
  refine ⟨exists_renderWith?_metadata Table.draw shaped.isRun_args, fun name args call => ?_⟩
  have own := (Transaction.call?_eq_some_iff.1 call).2
  have ascii : ∀ arg ∈ args, ∀ c ∈ arg.toList, c.toNat < 0x80 := fun arg harg c hc =>
    ((shaped.isRun_args args own arg harg).2 c hc).toNat_lt
  have htable := argumentTable?_of_lt ascii
  refine ⟨ascii, _, fun nonempty => exists_render?_table call nonempty htable, ?_, ?_⟩
  · rw [List.length_map, List.length_zipIdx]
  · intro i arg harg
    have row : (args.zipIdx.map fun row => shownRow row.2 row.1)[i]? = some (shownRow i arg) := by
      simp [harg]
    obtain ⟨stated, unique⟩ := getD_printable? arg
    exact ⟨_, _, row, isShownAs_shownForm (ascii arg (List.mem_of_getElem? harg)), stated, unique⟩

/-- A token that is moved with a call: the first argument of the call is long and states no text,
and the second one is short and states `hi`. -/
def sampleCall : Transaction where
  sender := "a"
  receiver := "b"
  data := Base64.toText (Transaction.callBytes "ESDTTransfer"
    ["54", "05", "66", "000102030405060708090a0b0c0d0e0f10", "6869"])
  value := "0"

theorem describe_shown_sampleCall : ∃ m,
    (Transaction.describe ⟨"erd", 1, 1⟩ sampleCall).result = .ok m ∧
      m.call? = some ("f", ["000102030405060708090a0b0c0d0e0f10", "6869"]) ∧
      (∀ layout, ∃ text, render? (.metadata m) layout = some text) ∧
      ∃ table : Table,
        (∀ color, ∃ before behind,
          render? (.metadata m) ⟨false, color⟩ = some (before ++ table.draw ++ behind)) ∧
        table.rows =
          [[.ofText "0", .ofText "00010203040506...0a0b0c0d0e0f10", .ofText ""],
            [.ofText "1", .ofText "6869", .ofText "hi"]] := by
  have described : (Transaction.describe ⟨"erd", 1, 1⟩ sampleCall).result =
      .ok ⟨"a", "b", 5, some "f",
        some ["000102030405060708090a0b0c0d0e0f10", "6869"], [⟨5, ⟨"T", "", ""⟩⟩]⟩ := by
    decide +kernel
  obtain ⟨shown, arguments⟩ := describe_shown ⟨"erd", 1, 1⟩ sampleCall _ described
  obtain ⟨-, table, inside, count, rows⟩ := arguments _ _ rfl
  refine ⟨_, described, rfl, shown, table, inside (List.cons_ne_nil _ _), ?_⟩
  obtain ⟨long, nothing, first, isLong, noText, -⟩ :=
    rows 0 "000102030405060708090a0b0c0d0e0f10" rfl
  obtain ⟨short, text, second, isShort, -, unique⟩ := rows 1 "6869" rfl
  have unstated : ¬ ∃ s, IsTextOf "000102030405060708090a0b0c0d0e0f10" s := by
    have silent : printable? "000102030405060708090a0b0c0d0e0f10" = none := by decide +kernel
    simp [← printable?_eq_some_iff, silent]
  have stated : IsTextOf "6869" "hi" := printable?_eq_some_iff.1 (by decide +kernel)
  have ends : shownForm "000102030405060708090a0b0c0d0e0f10" =
      "00010203040506...0a0b0c0d0e0f10" := by decide +kernel
  rw [isLong.eq_shownForm, ends, not_ne_iff.1 (mt noText.1 unstated)] at first
  rw [isShort.eq_shownForm, unique "hi" stated] at second
  match table.rows, count, first, second with
  | [_, _], _, first, second =>
    cases first
    cases second
    rfl

end TxInspect.Report
