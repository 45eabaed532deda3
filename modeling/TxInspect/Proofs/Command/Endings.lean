import Mathlib.Tactic.Common
import TxInspect.Command.Run
import TxInspect.Proofs.Failure
import TxInspect.Proofs.Results
import TxInspect.Proofs.Text.Blank
import TxInspect.Proofs.Text.Utf8
import TxInspect.Proofs.Transaction.Shape

/-!
# How runs end

A run goes through three stages: it gets the text of a document, reads the text as a record, and
works out something about it.  The exit code tells at which stage the run has failed
(`code_stages`), and never that a report cannot be laid out; the standard output holds a whole
report or nothing; and a failure adds its text to the standard error, behind a word whose color
depends on the host (`run_contract`).
-/

namespace TxInspect.Command

open Results

/-! ### Texts of documents -/

/-- The text that has been found, if it is one. -/
def Content.text? : Content → Option String
  | .bytes bs => Utf8.text? bs
  | _ => none

namespace Source

/-- The text at a source. -/
def text? : Source → Content → Option String
  | .inline text, _ => some text
  | _, content => content.text?

/-- The text at a source is a document: it can be read, and it is not all white space. -/
def Holds (source : Source) (content : Content) (text : String) : Prop :=
  source.text? content = some text ∧ ∃ c ∈ text.toList, Text.isBlank c = false

variable {source : Source} {content : Content} {text : String}

theorem found_of_text? (source : Source) (h : content.text? = some text) :
    source.found content = .ok text := by
  cases content with
  | bytes bs =>
    rw [Content.text?] at h
    rw [found, h]
  | missing => cases h
  | unreadable reason => cases h

theorem exists_failure_of_text? (source : Source) (h : content.text? = none) :
    ∃ failure, source.found content = .error failure ∧ failure.exitCode = 3 := by
  cases content with
  | bytes bs =>
    rw [Content.text?] at h
    rw [found, h]
    exact ⟨_, rfl, rfl⟩
  | missing => cases source <;> exact ⟨_, rfl, rfl⟩
  | unreadable reason => exact ⟨_, rfl, rfl⟩

theorem document_of_ne_inline (h : ∀ text, source ≠ .inline text) (content : Content) :
    source.text? content = content.text? ∧ source.document content = source.found content >>=
      fun text => if Document.isBlank text then .error .noInput else .ok text := by
  cases source with
  | inline text => exact absurd rfl (h text)
  | stdin => exact ⟨rfl, rfl⟩
  | file path => exact ⟨rfl, rfl⟩

/-- A source has a text, which is refused if it is blank, or it has none. -/
theorem document_cases (source : Source) (content : Content) :
    (∃ text, source.text? content = some text ∧
      source.document content =
        if Document.isBlank text then .error .noInput else .ok text) ∨
    source.text? content = none ∧
      ∃ failure, source.document content = .error failure ∧ failure.exitCode = 3 := by
  by_cases inside : ∃ text, source = .inline text
  · obtain ⟨text, rfl⟩ := inside
    exact Or.inl ⟨text, rfl, rfl⟩
  · obtain ⟨text, document⟩ := document_of_ne_inline (fun text h => inside ⟨text, h⟩) content
    rw [text, document]
    cases h : content.text? with
    | some text =>
      rw [found_of_text? source h]
      exact Or.inl ⟨text, rfl, rfl⟩
    | none =>
      obtain ⟨failure, hfailure, code⟩ := exists_failure_of_text? source h
      rw [hfailure]
      exact Or.inr ⟨rfl, failure, rfl, code⟩

theorem isBlank_eq_false_iff :
    Document.isBlank text = false ↔ ∃ c ∈ text.toList, Text.isBlank c = false := by
  simp [Document.isBlank, Text.isBlankText]

theorem document_eq_ok_iff : source.document content = .ok text ↔ source.Holds content text := by
  rw [Holds, ← isBlank_eq_false_iff]
  obtain ⟨own, htext, document⟩ | ⟨htext, failure, document, -⟩ := document_cases source content
  · rw [htext, document]
    cases blank : Document.isBlank own with
    | true =>
      simp only [if_true, Option.some.injEq]
      refine iff_of_false nofun ?_
      rintro ⟨rfl, whole⟩
      rw [blank] at whole
      cases whole
    | false =>
      simp only [Bool.false_eq_true, if_false, Except.ok.injEq, Option.some.injEq]
      refine ⟨?_, And.left⟩
      rintro rfl
      exact ⟨rfl, blank⟩
  · rw [htext, document]
    exact iff_of_false nofun (fun h => nomatch h.1)

theorem failsOnly_document (source : Source) (content : Content) :
    FailsOnly (fun failure => failure.exitCode = 3) (source.document content) := by
  obtain ⟨own, -, document⟩ | ⟨-, failure, document, code⟩ := document_cases source content
  · rw [document]
    split_ifs
    · exact failsOnly_error rfl
    · exact failsOnly_ok own
  · rw [document]
    exact failsOnly_error code

end Source

/-! ### Stages -/

/-- The exit code of a run with this result. -/
def code {α : Type} : Except Failure α → Nat
  | .ok _ => 0
  | .error failure => failure.exitCode

theorem code_eq_zero_iff {α : Type} {result : Except Failure α} :
    code result = 0 ↔ ∃ a, result = .ok a := by
  cases result with
  | ok a => exact iff_of_true rfl ⟨a, rfl⟩
  | error failure =>
    refine iff_of_false ?_ (fun h => nomatch h)
    cases failure <;> exact Nat.succ_ne_zero _

section Stages

variable {σ α β : Type} {source : Source} {content : Content} {read : String → Except Json.Fault α}
  {work : α → Except σ β} {report : β → Report} {blame : σ → Failure}

/-- The stages of a command with a document: the text is found, read, and worked on. -/
def stages (source : Source) (content : Content) (read : String → Except Json.Fault α)
    (work : α → Except σ β) (report : β → Report) (blame : σ → Failure) :
    Except Failure Report := do
  let text ← source.document content
  let record ← (read text).mapError .document
  ((work record).map report).mapError blame

theorem stages_eq_ok_iff {r : Report} : stages source content read work report blame = .ok r ↔
    ∃ text a b, source.Holds content text ∧ read text = .ok a ∧ work a = .ok b ∧ r = report b := by
  simp only [stages, bind_eq_ok_iff, mapError_eq_ok_iff, map_eq_ok_iff, Source.document_eq_ok_iff]
  constructor
  · rintro ⟨text, htext, a, ha, b, hb, rfl⟩
    exact ⟨text, a, b, htext, ha, hb, rfl⟩
  · rintro ⟨text, a, b, htext, ha, hb, rfl⟩
    exact ⟨text, htext, a, ha, b, hb, rfl⟩

/-- The exit code is 3 if there is no text, 2 if the text cannot be read, 1 if the work on it fails,
and 0 otherwise. -/
theorem code_stages (hblame : ∀ cause, (blame cause).exitCode = 1) :
    (code (stages source content read work report blame) = 3 ↔
      ∀ text, ¬ source.Holds content text) ∧
    (code (stages source content read work report blame) = 2 ↔
      ∃ text, source.Holds content text ∧ ∀ a, read text ≠ .ok a) ∧
    (code (stages source content read work report blame) = 1 ↔
      ∃ text a, source.Holds content text ∧ read text = .ok a ∧ ∀ b, work a ≠ .ok b) ∧
    code (stages source content read work report blame) ≤ 3 := by
  simp only [← Source.document_eq_ok_iff, stages]
  cases hdocument : source.document content with
  | error failure =>
    have fails := Source.failsOnly_document source content failure hdocument
    simp [bind, Except.bind, code, fails]
  | ok text =>
    cases hread : read text with
    | error cause =>
      simp [bind, Except.bind, Except.mapError, code, hread, Failure.exitCode]
    | ok a =>
      cases hwork : work a with
      | error cause =>
        simp [bind, Except.bind, Except.mapError, Except.map, code, hread, hwork, hblame cause]
      | ok b => simp [bind, Except.bind, Except.mapError, Except.map, code, hread, hwork]

end Stages

/-! ### Hosts -/

namespace Host

variable (host : Host)

theorem forcesColor_iff :
    host.forcesColor = true ↔ ∃ value, host.env "CLICOLOR_FORCE" = some value ∧ value ≠ "0" := by
  unfold forcesColor
  cases host.env "CLICOLOR_FORCE" <;> simp

theorem allowsColor_iff : host.allowsColor = true ↔
    host.terminal ≠ none ∧ host.env "NO_COLOR" = none ∧ host.env "CLICOLOR" ≠ some "0" := by
  unfold allowsColor
  cases host.terminal <;> simp

theorem draw_eq_elim : host.draw = host.terminal.elim Report.Table.draw Terminal.draw := by
  unfold draw
  cases host.terminal <;> rfl

end Host

/-! ### What commands find -/

namespace Invocation

variable {i : Invocation} {content : Content} {report : Report}

/-- No document has been found for the command. -/
def HasNoText (i : Invocation) (content : Content) : Prop :=
  ∃ source, i.source? = some source ∧ ∀ text, ¬ source.Holds content text

/-- The document states no transaction, or the address is none. -/
def HasNoRecord (i : Invocation) (content : Content) : Prop :=
  match i.action with
  | .metadata input => ∃ text, (Source.ofArgument input).Holds content text ∧
      ∀ tx, Document.transaction text ≠ .ok tx
  | .outcome input => ∃ text, (Source.ofArgument input).Holds content text ∧
      ∀ tx, Document.executedTransaction text ≠ .ok tx
  | .address text => ∀ forms, i.settings.format.resolve text ≠ .ok forms

/-- The transaction in the document has no description or outcome. -/
def HasNoAnswer (i : Invocation) (content : Content) : Prop :=
  match i.action with
  | .metadata input => ∃ text tx, (Source.ofArgument input).Holds content text ∧
      Document.transaction text = .ok tx ∧
      ∀ m, (Transaction.describe i.settings tx).result ≠ .ok m
  | .outcome input => ∃ text tx, (Source.ofArgument input).Holds content text ∧
      Document.executedTransaction text = .ok tx ∧
      ∀ o, (Outcome.find i.settings tx).result ≠ .ok o
  | .address _ => False

/-- What the command finds out about its input. -/
def Finds (i : Invocation) (content : Content) (report : Report) : Prop :=
  match i.action with
  | .metadata input => ∃ text tx m, (Source.ofArgument input).Holds content text ∧
      Document.transaction text = .ok tx ∧
      (Transaction.describe i.settings tx).result = .ok m ∧ report = .metadata m
  | .outcome input => ∃ text tx o, (Source.ofArgument input).Holds content text ∧
      Document.executedTransaction text = .ok tx ∧
      (Outcome.find i.settings tx).result = .ok o ∧ report = .outcome o
  | .address text => ∃ forms, i.settings.format.resolve text = .ok forms ∧
      report = .address forms

theorem result_account_metadata {input : Option String} (h : i.action = .metadata input) :
    (i.account content).result = stages (.ofArgument input) content Document.transaction
      (fun tx => (Transaction.describe i.settings tx).result) .metadata .transaction := by
  rw [account, h]
  dsimp only
  rw [Log.Account.result_bind]
  refine bind_congr fun text => ?_
  rw [describe]
  cases Document.transaction text with
  | error cause => rfl
  | ok tx =>
    dsimp only [bind, Except.bind, Except.mapError]
    cases (Transaction.describe i.settings tx).result <;> rfl

theorem result_account_outcome {input : Option String} (h : i.action = .outcome input) :
    (i.account content).result = stages (.ofArgument input) content Document.executedTransaction
      (fun tx => (Outcome.find i.settings tx).result) .outcome .outcome := by
  rw [account, h]
  dsimp only
  rw [Log.Account.result_bind]
  refine bind_congr fun text => ?_
  rw [tellOutcome]
  cases Document.executedTransaction text with
  | error cause => rfl
  | ok tx =>
    dsimp only [bind, Except.bind, Except.mapError]
    cases (Outcome.find i.settings tx).result <;> rfl

theorem result_account_address {text : String} (h : i.action = .address text) :
    (i.account content).result =
      ((i.settings.format.resolve text).map .address).mapError .address := by
  rw [account, h]
  dsimp only
  cases i.settings.format.resolve text <;> rfl

theorem account_eq_ok_iff : (i.account content).result = .ok report ↔ i.Finds content report := by
  rw [Finds]
  cases h : i.action with
  | metadata input => rw [result_account_metadata h, stages_eq_ok_iff]
  | outcome input => rw [result_account_outcome h, stages_eq_ok_iff]
  | address text =>
    rw [result_account_address h, mapError_eq_ok_iff, map_eq_ok_iff]
    exact exists_congr fun forms => and_congr_right' eq_comm

theorem hasNoText_iff {source : Source} (h : i.source? = some source) :
    i.HasNoText content ↔ ∀ text, ¬ source.Holds content text := by
  simp [HasNoText, h]

/-- The exit code of what a command has come to. -/
theorem code_account (i : Invocation) (content : Content) :
    (code (i.account content).result = 3 ↔ i.HasNoText content) ∧
    (code (i.account content).result = 2 ↔ i.HasNoRecord content) ∧
    (code (i.account content).result = 1 ↔ i.HasNoAnswer content) ∧
    code (i.account content).result ≤ 3 := by
  rw [HasNoRecord, HasNoAnswer]
  cases h : i.action with
  | metadata input =>
    rw [result_account_metadata h, hasNoText_iff (by rw [source?, h])]
    exact code_stages fun _ => rfl
  | outcome input =>
    rw [result_account_outcome h, hasNoText_iff (by rw [source?, h])]
    exact code_stages fun _ => rfl
  | address text =>
    have nowhere : i.source? = none := by rw [source?, h]
    rw [result_account_address h, HasNoText, nowhere]
    cases resolved : i.settings.format.resolve text with
    | ok forms => simp [code, Except.map, Except.mapError, resolved]
    | error cause => simp [code, Except.map, Except.mapError, Failure.exitCode, resolved]

/-! ### Endings -/

variable (host : Host)

/-- Colors have not been switched off, and they are forced or there is a terminal for them. -/
theorem hasColor_iff : i.hasColor host = true ↔ i.noColor = false ∧
    ((∃ value, host.env "CLICOLOR_FORCE" = some value ∧ value ≠ "0") ∨
      host.terminal ≠ none ∧ host.env "NO_COLOR" = none ∧ host.env "CLICOLOR" ≠ some "0") := by
  rw [hasColor, Bool.and_eq_true, Bool.or_eq_true, host.forcesColor_iff, host.allowsColor_iff,
    Bool.not_eq_true']

/-- Whatever a command finds out can be laid out. -/
theorem exists_renderWith? (h : i.Finds content report) (layout : Report.Layout) :
    ∃ text, report.renderWith? host.draw layout = some text := by
  unfold Finds at h
  split at h
  · obtain ⟨text, tx, m, -, -, described, rfl⟩ := h
    exact Report.exists_renderWith?_metadata host.draw
      (Transaction.isShaped_of_describeWith described).isRun_args layout
  · obtain ⟨text, tx, o, -, -, -, rfl⟩ := h
    unfold Report.renderWith?
    split_ifs <;> exact ⟨_, rfl⟩
  · obtain ⟨forms, -, rfl⟩ := h
    unfold Report.renderWith?
    split_ifs <;> exact ⟨_, rfl⟩

theorem run_of_finds (h : i.Finds content report) :
    ∃ text shown, report.renderWith? (host.terminal.elim Report.Table.draw Terminal.draw)
        ⟨i.json, i.hasColor host⟩ = some text ∧ Text.IsTrimmedEnd text.toList shown ∧
      i.run host content = ⟨0, String.ofList (shown ++ ['\n']), i.log content, ""⟩ := by
  rw [← host.draw_eq_elim]
  obtain ⟨text, htext⟩ := exists_renderWith? host h ⟨i.json, i.hasColor host⟩
  refine ⟨text, Text.trimEnd text.toList, htext, Text.isTrimmedEnd_trimEnd _, ?_⟩
  rw [run, account_eq_ok_iff.2 h]
  simp only [bind, Except.bind, printed, htext]

theorem run_of_error {failure : Failure} (h : (i.account content).result = .error failure) :
    i.run host content = ⟨failure.exitCode, "", i.log content,
      Failure.errorWord (i.hasColor host) ++ (": " ++ failure.message host.wording ++ "\n")⟩ := by
  rw [run, h, ← Failure.render_report]
  rfl

theorem exitCode_run (i : Invocation) (content : Content) :
    (i.run host content).exitCode = code (i.account content).result := by
  cases h : (i.account content).result with
  | error failure => rw [run_of_error host h, code]
  | ok report =>
    obtain ⟨text, shown, -, -, ending⟩ := run_of_finds host (account_eq_ok_iff.1 h)
    rw [ending, code]

/-- The complaint stands behind the log. -/
theorem stderr_run (i : Invocation) (content : Content) (write : List Log.Entry → String) :
    (i.run host content).stderr write =
      write (i.log content) ++ (i.run host content).complaint := by
  cases h : (i.account content).result with
  | error failure => rw [run_of_error host h, Ending.stderr]
  | ok report =>
    obtain ⟨text, shown, -, -, ending⟩ := run_of_finds host (account_eq_ok_iff.1 h)
    rw [ending, Ending.stderr]

/-- A text that starts like an object is the same document on the command line and on the standard
input. -/
theorem document_inline {text : String}
    (h : (Text.trimStart text.toList).head? = some '\x7B') (content : Content) :
    (Source.ofArgument (some text)).document content =
      Source.stdin.document (.bytes (Utf8.bytes text)) := by
  have inline : Source.ofArgument (some text) = .inline text := by
    rw [Source.ofArgument, Source.ofText, if_pos h, if_neg]
    rintro rfl
    exact absurd h (by decide)
  have own : (Content.bytes (Utf8.bytes text)).text? = some text := by
    simp [Content.text?, Utf8.text?, Utf8.bytes, Utf8.decode?_encode]
  have stdin : ∀ other, Source.stdin ≠ .inline other := by
    intro other h
    cases h
  rw [inline, (Source.document_of_ne_inline stdin _).2, Source.found_of_text? .stdin own]
  rfl

variable {text : String} {stdin : Option String}

theorem account_inline (h : (Text.trimStart text.toList).head? = some '\x7B')
    (hstdin : Source.ofArgument stdin = .stdin) (i : Invocation) (content : Content) :
    ({ i with action := .metadata (some text) }).account content =
        ({ i with action := .metadata stdin }).account (.bytes (Utf8.bytes text)) ∧
      ({ i with action := .outcome (some text) }).account content =
        ({ i with action := .outcome stdin }).account (.bytes (Utf8.bytes text)) := by
  simp only [account, document_inline h content, hstdin]
  exact ⟨rfl, rfl⟩

end Invocation

/-! ### The contract -/

/-- How a run ends.  A command that finds something out ends with exit code 0, prints the report
alone, its tables drawn in the terminal's way if there is a terminal, without white space at its end
and with a line break, and complains of nothing.  Every other command prints nothing, and its
complaint is the text of the failure behind the word `error`, in one line unless the text itself
breaks it.  The complaint stands on the standard error, behind the log.  The word is red if there
are colors: they have not been switched off, and they are forced, or there is a terminal and no
variable keeps colors from it.  There are no lines for causes, since the text of every failure ends
with the texts of its causes, whatever is said about faults of JSON.  The exit code is 3 if there is
no document, 2 if the document states no transaction or the address is none, and 1 if the
transaction has no description or outcome; it is never 5.  A document that starts like an object
does the same on the command line and on the standard input. -/
theorem run_contract (host : Host) (i : Invocation) (content : Content) :
    (∀ report, i.Finds content report →
      ∃ text shown, report.renderWith? (host.terminal.elim Report.Table.draw Terminal.draw)
          ⟨i.json, i.hasColor host⟩ = some text ∧ Text.IsTrimmedEnd text.toList shown ∧
        i.run host content = ⟨0, String.ofList (shown ++ ['\n']), i.log content, ""⟩) ∧
    (∀ failure, (i.account content).result = .error failure →
      i.run host content = ⟨failure.exitCode, "", i.log content,
        (if i.hasColor host then "\x1B[31merror\x1B[0m" else "error") ++
          (": " ++ failure.message host.wording ++ "\n")⟩ ∧
      ((i.run host content).complaint.toList.count '\n' = 1 ↔
        '\n' ∉ (failure.message host.wording).toList)) ∧
    (∀ write, (i.run host content).stderr write =
      write (i.log content) ++ (i.run host content).complaint) ∧
    (i.hasColor host = true ↔ i.noColor = false ∧
      ((∃ value, host.env "CLICOLOR_FORCE" = some value ∧ value ≠ "0") ∨
        host.terminal ≠ none ∧ host.env "NO_COLOR" = none ∧
          host.env "CLICOLOR" ≠ some "0")) ∧
    (∀ (wording : Json.Wording) (failure : Failure),
      Failure.newCauses (failure.message wording) (failure.causes wording) = [] ∧
        ∀ cause ∈ failure.causes wording, EndsWith (failure.message wording) cause) ∧
    ((i.run host content).exitCode = 0 ↔ ∃ report, i.Finds content report) ∧
    ((i.run host content).exitCode = 3 ↔ i.HasNoText content) ∧
    ((i.run host content).exitCode = 2 ↔ i.HasNoRecord content) ∧
    ((i.run host content).exitCode = 1 ↔ i.HasNoAnswer content) ∧
    (i.run host content).exitCode ≠ 5 ∧
    (∀ (text : String) (before rest : List Char) (stdin : Option String),
      text.toList = before ++ '\x7B' :: rest → (∀ c ∈ before, Text.isBlank c = true) →
      stdin = none ∨ stdin = some "-" →
      ({ i with action := .metadata (some text) }).run host content =
          ({ i with action := .metadata stdin }).run host (.bytes (Utf8.bytes text)) ∧
        ({ i with action := .outcome (some text) }).run host content =
          ({ i with action := .outcome stdin }).run host (.bytes (Utf8.bytes text))) := by
  obtain ⟨noText, noRecord, noAnswer, bound⟩ := i.code_account content
  rw [Invocation.exitCode_run]
  refine ⟨fun report => Invocation.run_of_finds host, fun failure hfailure => ?_,
    Invocation.stderr_run host i content, Invocation.hasColor_iff host, fun wording failure => ?_,
    ?_, noText, noRecord, noAnswer, ?_, ?_⟩
  · have ending := Invocation.run_of_error host hfailure
    refine ⟨ending, ?_⟩
    rw [ending]
    exact Failure.count_newline_report _ _
  · have chain := failure.causes_isChain wording
    exact ⟨Failure.newCauses_of_isChain chain, fun cause => Failure.endsWith_of_mem_causes⟩
  · rw [code_eq_zero_iff]
    exact exists_congr fun report => Invocation.account_eq_ok_iff
  · omega
  · intro text before rest stdin object blank hstdin
    have start : (Text.trimStart text.toList).head? = some '\x7B' := by
      rw [object]
      exact Text.head?_trimStart blank (by decide) rest
    have source : Source.ofArgument stdin = .stdin := by
      obtain rfl | rfl := hstdin <;> rfl
    obtain ⟨metadata, outcome⟩ := Invocation.account_inline start source i content
    constructor
    · simp only [Invocation.run, Invocation.log, metadata]
      rfl
    · simp only [Invocation.run, Invocation.log, outcome]
      rfl

/-- A file that is missing, without a terminal and on one, and a document that is cut short. -/
theorem run_contract_missing :
    (Invocation.mk (.metadata (some "tx.json")) false false "erd" 8 "warn").run
        ⟨fun _ => none, none, fun _ => ""⟩ .missing =
      ⟨3, "", [], "error: File not found: tx.json\n"⟩ ∧
    (Invocation.mk (.metadata (some "tx.json")) false false "erd" 8 "warn").run
        ⟨fun _ => none, some ⟨Report.Table.draw⟩, fun _ => ""⟩ .missing =
      ⟨3, "", [], "\x1B[31merror\x1B[0m: File not found: tx.json\n"⟩ ∧
    (Invocation.mk (.metadata (some "\x7B")) true false "erd" 8 "trace").run
        ⟨fun _ => none, none, fun _ => "EOF"⟩ .missing =
      (Invocation.mk (.metadata (some "-")) true false "erd" 8 "trace").run
        ⟨fun _ => none, none, fun _ => "EOF"⟩ (.bytes [0x7B]) := by
  obtain ⟨-, plain, -⟩ := run_contract ⟨fun _ => none, none, fun _ => ""⟩
    ⟨.metadata (some "tx.json"), false, false, "erd", 8, "warn"⟩ .missing
  obtain ⟨-, red, -⟩ := run_contract ⟨fun _ => none, some ⟨Report.Table.draw⟩, fun _ => ""⟩
    ⟨.metadata (some "tx.json"), false, false, "erd", 8, "warn"⟩ .missing
  obtain ⟨-, -, -, -, -, -, -, -, -, -, inline⟩ := run_contract ⟨fun _ => none, none, fun _ => "EOF"⟩
    ⟨.metadata none, true, false, "erd", 8, "trace"⟩ .missing
  exact ⟨(plain (.fileNotFound "tx.json") rfl).1, (red (.fileNotFound "tx.json") rfl).1,
    (inline "\x7B" [] [] (some "-") rfl (List.forall_mem_nil _) (Or.inr rfl)).1⟩

/-- Where colors are forced, the word `error` is not the plain one, and a path with a line break
makes two lines. -/
theorem not_forall_plain_error :
    (¬ ∀ (host : Host) (args : List String) (i : Invocation) (content : Content)
      (failure : Failure), Request.ofArguments host.env args = .run i →
        (i.account content).result = .error failure →
        (i.run host content).complaint = "error: " ++ failure.message host.wording ++ "\n") ∧
    ¬ ∀ (host : Host) (args : List String) (i : Invocation) (content : Content)
      (failure : Failure), Request.ofArguments host.env args = .run i →
        (i.account content).result = .error failure →
        (i.run host content).complaint.toList.count '\n' = 1 := by
  constructor
  · intro h
    have plain := h
      ⟨fun name => if name = "CLICOLOR_FORCE" then some "1" else none, none, fun _ => ""⟩
      ["metadata", "nofile.json"]
      ⟨.metadata (some "nofile.json"), false, false, "erd", 8, "warn"⟩ .missing
      (.fileNotFound "nofile.json") (by decide) rfl
    exact absurd plain (by decide)
  · intro h
    have single := h ⟨fun _ => none, none, fun _ => ""⟩ ["metadata", "no\nfile.json"]
      ⟨.metadata (some "no\nfile.json"), false, false, "erd", 8, "warn"⟩ .missing
      (.fileNotFound "no\nfile.json") (by decide) rfl
    exact absurd single (by decide)

end TxInspect.Command
