import Mathlib.Tactic.Common
import TxInspect.Proofs.Execution.ReturnCodes
import TxInspect.Proofs.Text.Pieces

/-!
# The grammar of return data

Return data has the sign `@` in front of the digits of its code and of each value (`written`), and
what is written so is read back, values and code (`ofText_written`).  Every other text is refused:
an empty one, one that has nothing after its first sign (`HasNoCode`), and one whose code cannot be
read (`IsUnreadable`).  No text is two of these (`ofText_grammar`).
-/

namespace TxInspect.ReturnData

/-- The digits of a code and some values, the sign in front of each. -/
def written (digits : String) (values : List String) : String :=
  String.ofList ((digits :: values).flatMap fun s => separator :: s.toList)

/-- Nothing stands between the first sign and what ends the code. -/
def HasNoCode (d : String) : Prop :=
  ∃ first rest, Text.pieces separator d.toList = first :: [] :: rest

/-- Some text without a sign, or a text with something after its first sign that is no code: there
is a text before the sign, or it is not an even number of hexadecimal digits. -/
def IsUnreadable (d : String) : Prop :=
  d ≠ "" ∧ separator ∉ d.toList ∨
    ∃ first second rest, Text.pieces separator d.toList = first :: second :: rest ∧
      second ≠ [] ∧ (first ≠ [] ∨ ¬ Hex.IsRun second)

variable {d digits : String} {values : List String} {bs : List UInt8}

/-! ### What is written -/

theorem separator_notMem_of_ofText (h : Hex.ofText digits = .ok bs) :
    separator ∉ digits.toList := by
  intro hmem
  have := Hex.isSome_hexadecimal?_of_ofText h separator hmem
  exact absurd this (by decide)

/-- The pieces of what is written: nothing, the digits, and the values. -/
theorem pieces_written (hdigits : Hex.ofText digits = .ok bs)
    (hvalues : ∀ v ∈ values, separator ∉ v.toList) :
    Text.pieces separator (written digits values).toList =
      [] :: digits.toList :: values.map String.toList := by
  have text : (written digits values).toList =
      Text.joined separator ([] :: (digits :: values).map String.toList) := by
    rw [written, String.toList_ofList, Text.joined_cons, List.flatMap_map, List.nil_append]
  rw [text]
  refine Text.pieces_joined fun q hq => ?_
  rcases List.mem_cons.1 hq with rfl | hq
  · exact List.not_mem_nil
  obtain ⟨s, hs, rfl⟩ := List.mem_map.1 hq
  rcases List.mem_cons.1 hs with rfl | hs
  · exact separator_notMem_of_ofText hdigits
  · exact hvalues s hs

/-- A text with nothing before its first sign is written. -/
theorem eq_written_of_pieces {second : List Char} {rest : List (List Char)}
    (h : Text.pieces separator d.toList = [] :: second :: rest) :
    d = written (String.ofList second) (rest.map String.ofList) := by
  have whole := Text.joined_pieces separator d.toList
  rw [h, Text.joined_cons, List.nil_append] at whole
  rw [← String.toList_inj, written, String.toList_ofList, ← whole, ← List.map_cons,
    List.flatMap_map]
  simp only [String.toList_ofList]

/-! ### What is read -/

theorem code?_toList (s : String) :
    code? s.toList = (Hex.ofText s).toOption.map fun bs => .ofText (Utf8.lossy bs) := by
  rw [code?, ← Utf8.bytes, ← Hex.ofText]
  cases Hex.ofText s <;> rfl

theorem ne_empty_of_pieces {first second : List Char} {rest : List (List Char)}
    (h : Text.pieces separator d.toList = first :: second :: rest) : d ≠ "" := by
  rintro rfl
  cases h

theorem HasNoCode.ofText_eq (h : HasNoCode d) : ofText d = .error .noReturnCode := by
  obtain ⟨first, rest, hpieces⟩ := h
  rw [ofText, if_neg (ne_empty_of_pieces hpieces), hpieces]

theorem IsUnreadable.ofText_eq (h : IsUnreadable d) : ofText d = .error .unreadableData := by
  obtain ⟨nonempty, noSign⟩ | ⟨first, second, rest, hpieces, nonempty, reason⟩ := h
  · rw [ofText, if_neg nonempty, Text.pieces_of_notMem noSign]
  · rw [ofText, if_neg (ne_empty_of_pieces hpieces), hpieces]
    obtain ⟨c, cs, rfl⟩ := List.exists_cons_of_ne_nil nonempty
    cases first with
    | cons x xs => rfl
    | nil =>
      have noRun : ¬ Hex.IsRun (c :: cs) := reason.resolve_left fun h => h rfl
      have refused : Hex.isText (String.ofList (c :: cs)) = false := by
        rw [← Bool.not_eq_true, Hex.isText_iff, String.toList_ofList]
        exact noRun
      have code := code?_toList (String.ofList (c :: cs))
      rw [String.toList_ofList] at code
      rw [Hex.isText] at refused
      dsimp only
      rw [code]
      cases hread : Hex.ofText (String.ofList (c :: cs)) with
      | error e => rfl
      | ok bs =>
        rw [hread] at refused
        cases refused

/-- What is written is read back. -/
theorem ofText_written (nonempty : digits ≠ "") (hdigits : Hex.ofText digits = .ok bs)
    (hvalues : ∀ v ∈ values, separator ∉ v.toList) :
    ofText (written digits values) = .ok ⟨.ofText (Utf8.lossy bs), values.map Utf8.bytes⟩ := by
  have hpieces := pieces_written hdigits hvalues
  have code := code?_toList digits
  rw [hdigits] at code
  rw [ofText, if_neg (ne_empty_of_pieces hpieces), hpieces]
  obtain ⟨c, cs, hcs⟩ := List.exists_cons_of_ne_nil (mt String.toList_eq_nil_iff.1 nonempty)
  rw [hcs] at code ⊢
  dsimp only
  rw [code, List.map_map]
  rfl

/-- Every text is empty, has no code, cannot be read, or is written. -/
theorem eq_written_of_not (nonempty : d ≠ "") (readable : ¬ IsUnreadable d)
    (hasCode : ¬ HasNoCode d) :
    ∃ digits bs values, d = written digits values ∧ digits ≠ "" ∧ Hex.ofText digits = .ok bs ∧
      ∀ v ∈ values, separator ∉ v.toList := by
  have free : ∀ p ∈ Text.pieces separator d.toList, separator ∉ p :=
    fun p hp => Text.notMem_of_mem_pieces hp
  match hpieces : Text.pieces separator d.toList with
  | [] => exact absurd hpieces (Text.pieces_ne_nil separator d.toList)
  | [p] =>
    have whole := Text.joined_pieces separator d.toList
    rw [hpieces] at whole
    refine absurd (Or.inl ⟨nonempty, ?_⟩) readable
    rw [← whole]
    exact free p (by rw [hpieces]; exact List.mem_cons_self)
  | first :: second :: rest =>
    have code : second ≠ [] := by
      rintro rfl
      exact hasCode ⟨first, rest, hpieces⟩
    have good : first = [] ∧ Hex.IsRun second := by
      by_contra bad
      refine readable (Or.inr ⟨first, second, rest, hpieces, code, ?_⟩)
      by_cases h : first = []
      · exact Or.inr fun run => bad ⟨h, run⟩
      · exact Or.inl h
    obtain ⟨rfl, run⟩ := good
    have hex : Hex.isText (String.ofList second) = true := by
      rw [Hex.isText_iff, String.toList_ofList]
      exact run
    obtain ⟨bs, hbs⟩ := Results.isOk_iff.1 hex
    refine ⟨String.ofList second, bs, rest.map String.ofList, eq_written_of_pieces hpieces, ?_,
      hbs, ?_⟩
    · rw [Ne, ← String.toList_eq_nil_iff, String.toList_ofList]
      exact code
    · refine List.forall_mem_map.2 fun p hp => ?_
      rw [String.toList_ofList]
      exact free p (by simp [hpieces, hp])

/-- A fault tells what is wrong with the text. -/
theorem kind_of_error {e : Outcome.Fault} (h : ofText d = .error e) :
    e = .emptyData ∧ d = "" ∨ e = .unreadableData ∧ IsUnreadable d ∨
      e = .noReturnCode ∧ HasNoCode d := by
  by_cases nonempty : d = ""
  · subst nonempty
    cases h
    exact Or.inl ⟨rfl, rfl⟩
  by_cases unreadable : IsUnreadable d
  · rw [unreadable.ofText_eq] at h
    cases h
    exact Or.inr (Or.inl ⟨rfl, unreadable⟩)
  by_cases noCode : HasNoCode d
  · rw [noCode.ofText_eq] at h
    cases h
    exact Or.inr (Or.inr ⟨rfl, noCode⟩)
  obtain ⟨digits, bs, values, rfl, hne, hdigits, hvalues⟩ :=
    eq_written_of_not nonempty unreadable noCode
  rw [ofText_written hne hdigits hvalues] at h
  cases h

theorem toText_bytes_ne_empty {code : String} (h : code ≠ "") :
    Hex.toText (Utf8.bytes code) ≠ "" := by
  intro empty
  have read := Hex.ofText_toText (Utf8.bytes code)
  have nothing : Hex.ofText "" = .ok [] := rfl
  rw [empty, nothing, Except.ok.injEq] at read
  have text := Utf8.lossy_bytes code
  rw [← read] at text
  exact h text.symm

/-- Return data by its grammar.  A text is refused as empty exactly if it is, for want of a code
exactly if nothing stands between its first sign and the next one or the end, and as unreadable
exactly if it has no sign, or something before the sign or other than digits after it.  Each other
text is read, and nothing of it is lost: it is the digits and the values with the sign in front of
each, and the text of the code is what the digits state.  Every code and all values without a sign
can be written, and are read back in order. -/
theorem ofText_grammar (d : String) :
    (ofText d = .error .emptyData ↔ d = "") ∧
    (ofText d = .error .unreadableData ↔ IsUnreadable d) ∧
    (ofText d = .error .noReturnCode ↔ HasNoCode d) ∧
    (d ≠ "" → ¬ IsUnreadable d → ¬ HasNoCode d → ∃ digits bs values,
      d = written digits values ∧ (∀ v ∈ values, '@' ∉ v.toList) ∧
      Text.pieces '@' d.toList = [] :: digits.toList :: values.map String.toList ∧
      Hex.ofText digits = .ok bs ∧ ∃ parts, ofText d = .ok parts ∧
        parts.code.text = Utf8.lossy bs ∧ parts.values = values.map Utf8.bytes) ∧
    (∀ code values, code ≠ "" → (∀ v ∈ values, '@' ∉ v.toList) →
      ofText (written (Hex.toText (Utf8.bytes code)) values) =
          .ok ⟨.ofText code, values.map Utf8.bytes⟩ ∧
        (ReturnCode.ofText code).text = code) := by
  refine ⟨⟨fun h => ?_, ?_⟩, ⟨fun h => ?_, IsUnreadable.ofText_eq⟩,
    ⟨fun h => ?_, HasNoCode.ofText_eq⟩, ?_, ?_⟩
  · simpa using kind_of_error h
  · rintro rfl
    rfl
  · simpa using kind_of_error h
  · simpa using kind_of_error h
  · intro nonempty readable hasCode
    obtain ⟨digits, bs, values, rfl, hne, hdigits, hvalues⟩ :=
      eq_written_of_not nonempty readable hasCode
    exact ⟨digits, bs, values, rfl, hvalues, pieces_written hdigits hvalues, hdigits, _,
      ofText_written hne hdigits hvalues, ReturnCode.text_ofText _, rfl⟩
  · intro code values nonempty hvalues
    have read := ofText_written (toText_bytes_ne_empty nonempty)
      (Hex.ofText_toText (Utf8.bytes code)) hvalues
    rw [Utf8.lossy_bytes] at read
    exact ⟨read, ReturnCode.text_ofText code⟩

/-- A code in capital digits with two values, the last of them empty, and a text that lacks a code
and has something before its first sign. -/
theorem ofText_grammar_sample :
    (∃ digits bs values, "@6F6B@03@" = written digits values ∧ Hex.ofText digits = .ok bs ∧
      ∃ parts, ofText "@6F6B@03@" = .ok parts ∧ parts.code.text = Utf8.lossy bs) ∧
    ofText (written (Hex.toText (Utf8.bytes "ok")) ["03", ""]) = .ok ⟨.ok, [[0x30, 0x33], []]⟩ ∧
    ofText "aaa@@" = .error .noReturnCode := by
  obtain ⟨-, unreadable, noCode, accepts, reads⟩ := ofText_grammar "@6F6B@03@"
  refine ⟨?_, ?_, ?_⟩
  · obtain ⟨digits, bs, values, whole, -, -, hdigits, parts, hparts, code, -⟩ :=
      accepts (by decide) (mt unreadable.2 (by decide)) (mt noCode.2 (by decide))
    exact ⟨digits, bs, values, whole, hdigits, parts, hparts, code⟩
  · exact (reads "ok" ["03", ""] (by decide) (by decide)).1
  · exact (ofText_grammar "aaa@@").2.2.1.2 ⟨"aaa".toList, [[]], by decide⟩

end TxInspect.ReturnData
