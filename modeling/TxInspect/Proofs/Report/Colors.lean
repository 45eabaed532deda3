import Mathlib.Tactic.Common
import TxInspect.Proofs.Number.Decimal
import TxInspect.Proofs.Report.Arguments
import TxInspect.Proofs.Report.Codes
import TxInspect.Proofs.Report.Grouping
import TxInspect.Proofs.Text.Pieces

/-!
# Colors change nothing but colors

What a report is laid out in, the box characters of its tables and the digits of its amounts among
it, holds an `ESC` only where one of its texts does (`noEscape_styled?`).  Without one, deleting
the codes from the report with colors leaves the report without colors, and every style is ended
before the next one starts (`render?_color`).
-/

namespace TxInspect.Report

/-! ### Amounts -/

@[simp] theorem escape_notMem_text (n : Nat) : '\x1B' ∉ (Decimal.text n).toList := by
  intro h
  exact absurd (Decimal.isDigit_of_mem_text h) (by decide)

@[simp] theorem escape_notMem_grouped (n : Nat) : '\x1B' ∉ (grouped n).toList := by
  intro h
  exact absurd (isDigit_or_comma_of_mem_grouped h) (by decide)

/-! ### Tables -/

/-- No line of the cell holds an `ESC`. -/
def Cell.NoEscape (c : Cell) : Prop :=
  ∀ line ∈ c, '\x1B' ∉ line

theorem Cell.NoEscape.ofText {s : String} (h : '\x1B' ∉ s.toList) : (Cell.ofText s).NoEscape :=
  fun _ hline hmem => h (Text.subset_of_mem_pieces hline hmem)

theorem Cell.noEscape_of_texts {texts : List String} (h : ∀ text ∈ texts, '\x1B' ∉ text.toList) :
    ∀ c ∈ texts.map Cell.ofText, c.NoEscape :=
  List.forall_mem_map.2 fun text htext => .ofText (h text htext)

theorem Cell.escape_notMem_lineAt {cell : Cell} (h : cell.NoEscape) (width height : Nat) :
    '\x1B' ∉ cell.lineAt width height := by
  rw [Cell.lineAt, List.mem_append, not_or]
  refine ⟨?_, fun hmem => absurd (List.eq_of_mem_replicate hmem) (by decide)⟩
  rw [List.getD_eq_getElem?_getD]
  cases hline : cell[height]? with
  | none => exact List.not_mem_nil
  | some line => exact h line (List.mem_of_getElem? hline)

namespace Table

theorem escape_notMem_intercalate {x : Char} (h : '\x1B' ≠ x) {columns : List (List Char)}
    (each : ∀ column ∈ columns, '\x1B' ∉ column) : '\x1B' ∉ [x].intercalate columns := by
  induction columns with
  | nil => simp
  | cons column columns ih =>
    obtain ⟨first, rest⟩ := List.forall_mem_cons.1 each
    cases columns with
    | nil => simpa using first
    | cons next columns =>
      have tail := ih rest
      simp only [List.intercalate_cons_cons, List.mem_append, List.mem_singleton, not_or]
      exact ⟨⟨first, h⟩, tail⟩

theorem escape_notMem_join {j : Joint} (h : '\x1B' ∉ [j.left, j.middle, j.right])
    {columns : List (List Char)} (each : ∀ column ∈ columns, '\x1B' ∉ column) :
    '\x1B' ∉ j.join columns := by
  simp only [List.mem_cons, List.not_mem_nil, or_false, not_or] at h
  have inside := escape_notMem_intercalate h.2.1 each
  simp [Joint.join, h.1, h.2.2, inside]

theorem escape_notMem_border {j : Joint} {stroke : Char} (h : '\x1B' ∉ [j.left, j.middle, j.right])
    (hstroke : '\x1B' ≠ stroke) (widths : List Nat) : '\x1B' ∉ border j stroke widths :=
  escape_notMem_join h <| List.forall_mem_map.2 fun _ _ hmem =>
    hstroke (List.eq_of_mem_replicate hmem)

theorem forall_mem_zipWith {α β γ : Type} {f : α → β → γ} {P : γ → Prop} {as : List α} {bs : List β}
    (h : ∀ a, ∀ b ∈ bs, P (f a b)) : ∀ c ∈ List.zipWith f as bs, P c := by
  induction as generalizing bs with
  | nil => simp
  | cons a as ih =>
    cases bs with
    | nil => simp
    | cons b bs =>
      rw [List.zipWith_cons_cons]
      refine List.forall_mem_cons.2 ⟨h a b List.mem_cons_self, ih fun a' b' hb' => ?_⟩
      exact h a' b' (List.mem_cons_of_mem b hb')

theorem escape_notMem_of_mem_rowLines {row : List Cell} (h : ∀ c ∈ row, c.NoEscape)
    (widths : List Nat) : ∀ line ∈ rowLines widths row, '\x1B' ∉ line := by
  refine List.forall_mem_map.2 fun height _ => escape_notMem_join (by decide) ?_
  refine forall_mem_zipWith fun width c hc => ?_
  have line := Cell.escape_notMem_lineAt (h c hc) width height
  simp [line]

/-- A drawing holds an `ESC` only where a cell does. -/
theorem escape_notMem_draw {t : Table} (header : ∀ c ∈ t.header, c.NoEscape)
    (rows : ∀ row ∈ t.rows, ∀ c ∈ row, c.NoEscape) : '\x1B' ∉ t.draw.toList := by
  have lines : ∀ line ∈ t.lines, '\x1B' ∉ line := by
    intro line hline
    simp only [Table.lines, List.cons_append, List.mem_cons, List.mem_append, List.mem_flatMap,
      List.not_mem_nil, or_false] at hline
    rcases hline with rfl | (hheader | rfl | ⟨row, hrow, hmem⟩) | rfl
    · exact escape_notMem_border (by decide) (by decide) _
    · exact escape_notMem_of_mem_rowLines header _ line hheader
    · exact escape_notMem_border (by decide) (by decide) _
    · exact escape_notMem_of_mem_rowLines (rows row hrow) _ line hmem
    · exact escape_notMem_border (by decide) (by decide) _
  rw [Table.draw, String.toList_ofList, List.mem_flatMap]
  rintro ⟨line, hline, hmem⟩
  exact lines line hline (by simpa using hmem)

end Table

/-! ### Arguments and transfers -/

theorem subset_of_takeBytes? {n : Nat} {cs first : List Char} (h : takeBytes? n cs = some first) :
    first ⊆ cs := by
  fun_induction takeBytes? n cs generalizing first with
  | case1 => cases h; simp
  | case2 => cases h
  | case3 n c cs _ ih =>
    obtain ⟨rest, hrest, rfl⟩ := Option.map_eq_some_iff.1 h
    exact List.cons_subset_cons c (ih hrest)
  | case4 => cases h

variable {arg : String} {args : List String}

theorem escape_notMem_of_shortened? {hex : String} (h : '\x1B' ∉ arg.toList)
    (hhex : shortened? arg = some hex) : '\x1B' ∉ hex.toList := by
  unfold shortened? at hhex
  dsimp only at hhex
  split_ifs at hhex
  · cases hhex
    exact h
  · obtain ⟨first, hfirst, hhex⟩ := Option.bind_eq_some_iff.1 hhex
    obtain ⟨last, hlast, hhex⟩ := Option.bind_eq_some_iff.1 hhex
    cases hhex
    have front : '\x1B' ∉ first := fun hmem => h (subset_of_takeBytes? hfirst hmem)
    have back : '\x1B' ∉ last := fun hmem =>
      h (List.mem_reverse.1 (subset_of_takeBytes? hlast hmem))
    simp [front, back]

theorem escape_notMem_getD_printable? (arg : String) :
    '\x1B' ∉ ((printable? arg).getD "").toList := by
  cases h : printable? arg with
  | none => decide
  | some text =>
    intro hmem
    have low := ((printable?_eq_some_iff.1 h).2.1 _ hmem).1
    exact absurd low (by decide)

theorem noEscape_argumentRow? {index : Nat} {row : List Cell} (h : '\x1B' ∉ arg.toList)
    (hrow : argumentRow? index arg = some row) : ∀ c ∈ row, c.NoEscape := by
  obtain ⟨hex, hhex, hrow⟩ := Option.bind_eq_some_iff.1 hrow
  cases hrow
  show ∀ c ∈ [Decimal.text index, hex, (printable? arg).getD ""].map Cell.ofText, c.NoEscape
  apply Cell.noEscape_of_texts
  simp [escape_notMem_of_shortened? h hhex, escape_notMem_getD_printable?]

theorem forall_of_mapM_eq_some {α β : Type} {f : α → Option β} {P : β → Prop} {as : List α}
    {bs : List β} (h : as.mapM f = some bs) (each : ∀ a ∈ as, ∀ b, f a = some b → P b) :
    ∀ b ∈ bs, P b := by
  induction as generalizing bs with
  | nil =>
    cases h
    simp
  | cons a as ih =>
    rw [List.mapM_cons] at h
    obtain ⟨b, hb, h⟩ := Option.bind_eq_some_iff.1 h
    obtain ⟨rest, hrest, h⟩ := Option.bind_eq_some_iff.1 h
    cases h
    refine List.forall_mem_cons.2 ⟨each a List.mem_cons_self b hb, ?_⟩
    exact ih hrest fun c hc => each c (List.mem_cons_of_mem a hc)

theorem escape_notMem_argumentTable? {table : Table} (h : ∀ arg ∈ args, '\x1B' ∉ arg.toList)
    (htable : argumentTable? args = some table) : '\x1B' ∉ table.draw.toList := by
  obtain ⟨rows, hrows, htable⟩ := Option.bind_eq_some_iff.1 htable
  cases htable
  refine Table.escape_notMem_draw (Cell.noEscape_of_texts (by decide)) ?_
  exact forall_of_mapM_eq_some hrows fun arg harg row hrow =>
    noEscape_argumentRow? (h arg.1 (List.fst_mem_of_mem_zipIdx harg)) hrow

theorem noEscape_transferRow {t : TokenTransfer} (h : '\x1B' ∉ (tokenName t.token).toList)
    (index : Nat) : ∀ c ∈ transferRow index t, c.NoEscape := by
  show ∀ c ∈ [Decimal.text index, tokenName t.token, grouped t.value].map Cell.ofText, c.NoEscape
  apply Cell.noEscape_of_texts
  simp [h]

/-! ### Lines -/

namespace Styled.NoEscape

variable {s t value : Styled} {text label title : String}

theorem append (hs : s.NoEscape) (ht : t.NoEscape) : Styled.NoEscape (s ++ t) :=
  List.forall_mem_append.2 ⟨hs, ht⟩

theorem nil : Styled.NoEscape [] :=
  List.forall_mem_nil _

theorem ofText (h : '\x1B' ∉ text.toList) : (Styled.ofText text).NoEscape :=
  List.forall_mem_singleton.2 h

theorem ofStyle {style : Style} (h : '\x1B' ∉ text.toList) : (Styled.ofStyle style text).NoEscape :=
  List.forall_mem_singleton.2 h

theorem headingLine (h : '\x1B' ∉ title.toList) : (headingLine title).NoEscape :=
  (ofStyle h).append (ofText (by decide))

theorem countedHeading (h : '\x1B' ∉ title.toList) (count : Nat) :
    (countedHeading title count).NoEscape :=
  (ofStyle h).append (ofText (by simp))

/-- A line with a styled label in front of a value. -/
theorem line {style : Style} {mark : String} (hlabel : '\x1B' ∉ label.toList)
    (hmark : '\x1B' ∉ mark.toList) (h : value.NoEscape) : Styled.NoEscape
      (Styled.ofText "  " ++ .ofStyle style label ++ .ofText mark ++ value ++ .ofText "\n") :=
  ((((ofText (by decide)).append (ofStyle hlabel)).append (ofText hmark)).append h).append
    (ofText (by decide))

theorem labelled (hlabel : '\x1B' ∉ label.toList) (h : value.NoEscape) :
    (labelled label value).NoEscape :=
  line hlabel (by decide) h

theorem named (hname : '\x1B' ∉ label.toList) (h : value.NoEscape) : (named label value).NoEscape :=
  line hname (by decide) h

end Styled.NoEscape

/-! ### Whole reports -/

theorem noEscape_argumentSection? {styled : Styled} (h : ∀ arg ∈ args, '\x1B' ∉ arg.toList)
    (hstyled : argumentSection? Table.draw args = some styled) : styled.NoEscape := by
  unfold argumentSection? at hstyled
  split_ifs at hstyled
  · cases hstyled
    exact .nil
  · obtain ⟨table, htable, hstyled⟩ := Option.bind_eq_some_iff.1 hstyled
    cases hstyled
    exact (Styled.NoEscape.countedHeading (by decide) _).append
      (.ofText (escape_notMem_argumentTable? h htable))

theorem noEscape_callSection? {m : Metadata} {styled : Styled}
    (hname : ∀ name ∈ m.functionName, '\x1B' ∉ name.toList)
    (hargs : ∀ args ∈ m.functionArgs, ∀ arg ∈ args, '\x1B' ∉ arg.toList)
    (hstyled : callSection? Table.draw m = some styled) : styled.NoEscape := by
  unfold callSection? at hstyled
  split at hstyled
  · cases hstyled
    exact .nil
  · next name args hcall =>
    obtain ⟨arguments, harguments, hstyled⟩ := Option.bind_eq_some_iff.1 hstyled
    cases hstyled
    obtain ⟨own, ownArgs⟩ := Transaction.call?_eq_some_iff.1 hcall
    have function := hname name own
    have inside := noEscape_argumentSection? (hargs args ownArgs) harguments
    exact (((Styled.NoEscape.headingLine (by decide)).append
      (.labelled (by decide) (.ofStyle function))).append inside).append (.ofText (by decide))

theorem noEscape_transferSection {transfers : List TokenTransfer}
    (h : ∀ t ∈ transfers, '\x1B' ∉ (tokenName t.token).toList) :
    (transferSection Table.draw transfers).NoEscape := by
  have rows : ∀ row ∈ transfers.zipIdx.map fun t => transferRow t.2 t.1, ∀ c ∈ row, c.NoEscape :=
    List.forall_mem_map.2 fun t ht =>
      noEscape_transferRow (h t.1 (List.fst_mem_of_mem_zipIdx ht)) t.2
  unfold transferSection
  split_ifs
  · exact .nil
  · exact (Styled.NoEscape.countedHeading (by decide) _).append
      (.ofText (Table.escape_notMem_draw (Cell.noEscape_of_texts (by decide)) rows))

/-- The texts of a description. -/
def textsOfMetadata (m : Metadata) : List String :=
  m.sender :: m.receiver :: m.functionName.toList ++ m.functionArgs.getD [] ++
    m.transfers.flatMap fun t => [t.token.token, t.token.collection, t.token.identifier]

theorem noEscape_ofMetadata? {m : Metadata} {styled : Styled}
    (h : ∀ text ∈ textsOfMetadata m, '\x1B' ∉ text.toList)
    (hstyled : ofMetadata? Table.draw m = some styled) : styled.NoEscape := by
  obtain ⟨call, hcall, hstyled⟩ := Option.bind_eq_some_iff.1 hstyled
  cases hstyled
  have sender := h m.sender (by simp [textsOfMetadata])
  have receiver := h m.receiver (by simp [textsOfMetadata])
  have inside := noEscape_callSection?
    (fun name hname => h name (by simp [textsOfMetadata, Option.mem_def.1 hname]))
    (fun args hargs arg harg => h arg (by simp [textsOfMetadata, Option.mem_def.1 hargs, harg]))
    hcall
  have transfers : (transferSection Table.draw m.transfers).NoEscape := by
    refine noEscape_transferSection fun t ht => h (tokenName t.token) ?_
    refine List.mem_append_right _ (List.mem_flatMap.2 ⟨t, ht, ?_⟩)
    rw [tokenName]
    split_ifs <;> simp
  exact ((((((Styled.NoEscape.headingLine (by decide)).append
    (.labelled (by decide) (.ofText sender))).append
    (.labelled (by decide) (.ofText receiver))).append
    (.labelled (by decide) (.ofStyle (escape_notMem_grouped m.value)))).append
    (.ofText (by decide))).append inside).append transfers

theorem escape_notMem_codeText {code : ReturnCode} (h : '\x1B' ∉ code.text.toList) :
    '\x1B' ∉ (codeText code).toList := by
  rw [codeText]
  split_ifs
  · decide
  · exact h

theorem noEscape_valueSection {values : List (List UInt8)}
    (h : ∀ bs ∈ values, '\x1B' ∉ (Utf8.lossy bs).toList) : (valueSection values).NoEscape := by
  unfold valueSection
  split_ifs
  · exact .nil
  · refine ((Styled.NoEscape.ofText (by decide)).append (.countedHeading (by decide) _)).append ?_
    refine List.forall_mem_flatMap.2 fun value hvalue => ?_
    exact Styled.NoEscape.labelled (by simp)
      (.ofText (h value.1 (List.fst_mem_of_mem_zipIdx hvalue)))

/-- The texts of an outcome; those of its values are as they are shown. -/
def textsOfOutcome : Option Outcome → List String
  | none => []
  | some o => o.returnCode.text :: o.returnMessage :: o.values.map Utf8.lossy

theorem noEscape_ofOutcome {o : Option Outcome}
    (h : ∀ text ∈ textsOfOutcome o, '\x1B' ∉ text.toList) : (ofOutcome o).NoEscape := by
  cases o with
  | none => exact (Styled.NoEscape.ofStyle (by decide)).append (.ofText (by decide))
  | some o =>
    obtain ⟨code, message, values⟩ :=
      (List.forall_mem_cons.1 h).imp_right List.forall_mem_cons.1
    have inside := noEscape_valueSection fun bs hbs => values _ (List.mem_map_of_mem hbs)
    exact (((Styled.NoEscape.headingLine (by decide)).append
      (.labelled (by decide) (.ofStyle (escape_notMem_codeText code)))).append
      (.labelled (by decide) (.ofText message))).append inside

theorem noEscape_ofForms {f : Address.Forms} (hbech32 : '\x1B' ∉ f.bech32.toList)
    (hhex : '\x1B' ∉ f.hex.toList) : (ofForms f).NoEscape := by
  have type : '\x1B' ∉ (if f.isContract then "smart contract" else "account").toList := by
    split_ifs <;> decide
  exact (((Styled.NoEscape.headingLine (by decide)).append
    (.named (by decide) (.ofText hbech32))).append
    (.named (by decide) (.ofStyle hhex))).append
    (.named (by decide) (.ofStyle type))

/-- The texts of a report. -/
def texts : Report → List String
  | .metadata m => textsOfMetadata m
  | .outcome o => textsOfOutcome o
  | .address f => [f.bech32, f.hex]

/-- A report is laid out without an `ESC` of its own. -/
theorem noEscape_styled? {r : Report} {styled : Styled} (h : ∀ text ∈ r.texts, '\x1B' ∉ text.toList)
    (hstyled : r.styled? Table.draw = some styled) : styled.NoEscape := by
  cases r with
  | metadata m => exact noEscape_ofMetadata? h hstyled
  | outcome o =>
    cases hstyled
    exact noEscape_ofOutcome h
  | address f =>
    cases hstyled
    exact noEscape_ofForms (h f.bech32 (by simp [texts])) (h f.hex (by simp [texts]))

theorem Style.number_ne_zero (s : Style) : s.number ≠ ['0'] := by
  cases s <;> decide

/-- Colors change nothing but colors: with every code deleted the report with colors is the report
without them.  Its codes start a style and end all styles in turn, so that no style reaches beyond
its text. -/
theorem render?_color (r : Report) (h : ∀ text ∈ r.texts, '\x1B' ∉ text.toList) :
    r.render? ⟨false, false⟩ = (r.render? ⟨false, true⟩).map withoutCodes ∧
      ∀ text, r.render? ⟨false, true⟩ = some text → ∃ styles : List Style,
        codes text = (styles.flatMap fun style => [style.number, ['0']]) ∧
          ∀ style ∈ styles, style.number ≠ ['0'] := by
  simp only [render?, renderWith?, Bool.false_eq_true, if_false]
  cases hstyled : r.styled? Table.draw with
  | none => simp
  | some styled =>
    have clean := noEscape_styled? h hstyled
    refine ⟨congrArg some (withoutCodes_render clean).symm, fun text htext => ?_⟩
    cases htext
    exact ⟨_, codes_render clean, fun style _ => style.number_ne_zero⟩

/-- A call with an argument, and a transfer. -/
def sampleMetadata : Metadata :=
  ⟨"a", "b", 5000, some "f", some ["6869"], [⟨5000, ⟨"T", "", ""⟩⟩]⟩

theorem render?_color_sampleMetadata :
    (∀ text ∈ (Report.metadata sampleMetadata).texts, '\x1B' ∉ text.toList) ∧
      (Report.metadata sampleMetadata).render? ⟨false, false⟩ =
        ((Report.metadata sampleMetadata).render? ⟨false, true⟩).map withoutCodes ∧
      ∃ text, (Report.metadata sampleMetadata).render? ⟨false, true⟩ = some text ∧
        ∃ styles : List Style, codes text = (styles.flatMap fun style => [style.number, ['0']]) ∧
          ∀ style ∈ styles, style.number ≠ ['0'] := by
  have clean : ∀ text ∈ (Report.metadata sampleMetadata).texts, '\x1B' ∉ text.toList := by decide
  obtain ⟨same, turns⟩ := render?_color (.metadata sampleMetadata) clean
  have shown : (Report.metadata sampleMetadata).render? ⟨false, true⟩ = some _ := rfl
  exact ⟨clean, same, _, shown, turns _ shown⟩

end TxInspect.Report
