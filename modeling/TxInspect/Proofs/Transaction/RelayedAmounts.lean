import Mathlib.Tactic.Common
import TxInspect.Proofs.Json.Places
import TxInspect.Proofs.Json.Records
import TxInspect.Proofs.Transaction.Envelopes

/-!
# Amounts in envelopes, as strings and as numbers

The amount in the JSON of an envelope is a string of digits or a number.  A number of 64 bits counts
as much as the string of its digits, in the same object and so in the description of the envelope.
Greater numbers are refused, though there is no limit for the string (`describe_relayedAmount`).
-/

namespace TxInspect.Transaction

open Results

variable {format : Address.Format} {tx other : Transaction} {n : Nat} {json : List UInt8}

/-! ### One amount -/

namespace Inner

theorem ofNode_amount_text {q : Json.Literal} (h : q.read = .ok (Decimal.text n)) :
    amount.ofNode (.text q) = .ok n := by
  simp only [amount, Json.Reader.whole, Json.Node.value, h, bind, Except.bind, Except.map,
    Decimal.amount?_text, Json.orMismatch]

section Number

variable {num : Json.PartialNumeral}

theorem ofNode_amount_number (h : num.IsNumber n) (small : n < Word.limit 64) :
    amount.ofNode (.number num.numeral) = .ok n := by
  simp [amount, Json.Reader.whole, Json.Node.value, h.isOutOfRange_eq small, h.unsigned?_eq, small,
    bind, Except.bind, Json.orMismatch, Option.filter]

/-- The reader of numbers takes 64 bits, whatever the rest of the value is. -/
theorem exists_error_of_amount_number (h : num.IsNumber n) (great : Word.limit 64 ≤ n) :
    ∃ fault, amount.ofNode (.number num.numeral) = .error fault := by
  have wide : ¬ n < Word.limit 64 := Nat.not_lt.2 great
  by_cases range : num.numeral.isOutOfRange = true
  · refine ⟨.malformed, ?_⟩
    simp [amount, Json.Reader.whole, Json.Node.value, range, bind, Except.bind]
  · refine ⟨.mismatch, ?_⟩
    simp [amount, Json.Reader.whole, Json.Node.value, range, h.unsigned?_eq, wide, bind,
      Except.bind, Json.orMismatch, Option.filter]

end Number

/-! ### The JSON around it -/

/-- Another node for the amount that is read as the same number. -/
theorem IsReadFrom.exchange {get get' : String → Option Json.Node} {inner : Inner}
    (h : IsReadFrom get inner) (same : ∀ name, name ≠ "value" → get' name = get name)
    (value : (Json.Record.field "value" amount (some 0)).ofNodes get' = .ok inner.value) :
    IsReadFrom get' inner := by
  have others {α : Type} {name : String} (r : Json.Reader α) (default : Option α)
      (ne : name ≠ "value") : (Json.Record.field name r default).ofNodes get' =
        (Json.Record.field name r default).ofNodes get :=
    Json.Record.ofNodes_field_congr r default (same name ne)
  constructor
  case value => exact value
  case nonce => rw [others _ _ (by decide), h.nonce]
  case sender => rw [others _ _ (by decide), h.sender]
  case receiver => rw [others _ _ (by decide), h.receiver]
  case gasPrice => rw [others _ _ (by decide), h.gasPrice]
  case gasLimit => rw [others _ _ (by decide), h.gasLimit]
  case data => rw [others _ _ (by decide), h.data]
  case signature => rw [others _ _ (by decide), h.signature]
  case chainID => rw [others _ _ (by decide), h.chainID]
  case version => rw [others _ _ (by decide), h.version]

/-- An object that reads with the amount as a string, and the same object with a number. -/
theorem ofText_filled (place : Json.Place "value") {written : List UInt8}
    (quoted : Json.IsQuoted written (Decimal.text n)) {inner : Inner}
    (h : ofText (place.filled (Json.quotation written)) = .ok inner) :
    inner.value = n ∧
      (n < Word.limit 64 →
        ofText (place.filled (Utf8.bytes (Decimal.text n))) = .ok inner) ∧
      (Word.limit 64 ≤ n →
        ∃ fault, ofText (place.filled (Utf8.bytes (Decimal.text n))) = .error fault) := by
  obtain ⟨rest, ending, hasMore, texts, numbers⟩ := place.exists_members
  obtain ⟨q, hq, text⟩ := texts written _ quoted
  rw [ofText, Json.Reader.ofText, text] at h
  obtain ⟨inner, hread, h⟩ := bind_eq_ok_iff.1 h
  split_ifs at h with more
  cases h
  have checked : record.fields.lookup "value" =
      some fun node => amount.ofNode node >>= fun _ => .ok () := rfl
  obtain ⟨whole, get, own, hget, exchange⟩ :=
    Json.Record.ofNode_exchange place.read_key checked hread
  have fields := ofNodes_record_eq_ok.1 hget
  have value : inner.value = n := by
    have read := fields.value
    rw [Json.Record.ofNodes_field_of_some _ _ own, ofNode_amount_text hq] at read
    exact (Except.ok.inj read).symm
  obtain ⟨num, number, digits⟩ := numbers whole n
  obtain ⟨fails, reads⟩ := exchange (.number num.numeral)
  rw [ofText, Json.Reader.ofText, digits, whole]
  refine ⟨value, fun small => ?_, fun great => ?_⟩
  · have amount_eq := ofNode_amount_number number small
    obtain ⟨get', own', same, hreader⟩ := reads (by rw [amount_eq]; rfl)
    have read : record.reader.ofNode (.object
        (place.members.reverse ++ (place.key, .number num.numeral) :: rest) none) = .ok inner := by
      rw [hreader, ofNodes_record_eq_ok]
      apply fields.exchange same
      rw [Json.Record.ofNodes_field_of_some _ _ own', amount_eq, value]
    simp only [read, bind, Except.bind]
    exact if_neg more
  · obtain ⟨fault, amount_eq⟩ := exists_error_of_amount_number number great
    refine ⟨fault, ?_⟩
    simp only [fails fault (by rw [amount_eq]; rfl), bind, Except.bind]

end Inner

/-! ### The envelope around it -/

/-- The data field is a call with this JSON. -/
def HoldsJson (tx : Transaction) (json : List UInt8) : Prop :=
  ∃ payload, Hex.ofText payload = .ok json ∧
    Base64.ofText tx.data = .ok (callBytes "relayedTx" [payload])

theorem unwrapPayload_congr {payload payload' : String} {json' : List UInt8}
    (hjson : Hex.ofText payload = .ok json) (hjson' : Hex.ofText payload' = .ok json')
    (same : Inner.ofText json' = Inner.ofText json) :
    unwrapPayload format payload' = unwrapPayload format payload := by
  rw [unwrapPayload, unwrapPayload, hexBytes, hexBytes, hjson, hjson']
  simp only [Except.mapError, bind, Except.bind, same]

namespace HoldsJson

theorem inside?_ne_none (h : tx.HoldsJson json) (format : Address.Format) :
    inside? format tx ≠ .ok none := by
  obtain ⟨payload, hjson, hdata⟩ := h
  rw [inside?_payload format hdata (isText_of_ofText hjson)]
  intro none
  obtain ⟨_, -, none⟩ := bind_eq_ok_iff.1 none
  obtain ⟨_, -, none⟩ := map_eq_ok_iff.1 none
  cases none

/-- Two envelopes with the same amount and with JSON that reads alike are described alike. -/
theorem result_describe_congr {json' : List UInt8} (h : tx.HoldsJson json)
    (h' : other.HoldsJson json') (value : other.value = tx.value)
    (same : Inner.ofText json' = Inner.ofText json) (settings : Settings) :
    (describe settings other).result = (describe settings tx).result := by
  have envelope := h.inside?_ne_none settings.format
  obtain ⟨payload, hjson, hdata⟩ := h
  obtain ⟨payload', hjson', hdata'⟩ := h'
  have inside : inside? settings.format other = inside? settings.format tx := by
    rw [inside?_payload settings.format hdata (isText_of_ofText hjson),
      inside?_payload settings.format hdata' (isText_of_ofText hjson'), value,
      unwrapPayload_congr hjson hjson' same]
  unfold describe
  rw [result_describeWith, result_describeWith, result_describeInner_congr inside envelope]

/-- An envelope with JSON that does not read. -/
theorem result_describe_of_error {fault : Json.Fault} (h : tx.HoldsJson json)
    (refused : Inner.ofText json = .error fault)
    (readable : ∃ value, readValue tx.value = .ok value) (settings : Settings) :
    (describe settings tx).result = .error (.badPayload fault) := by
  obtain ⟨payload, hjson, hdata⟩ := h
  obtain ⟨value, hvalue⟩ := readable
  have closed : inside? settings.format tx = .error (.badPayload fault) := by
    rw [inside?_payload settings.format hdata (isText_of_ofText hjson), hvalue, unwrapPayload,
      hexBytes, hjson]
    simp only [Except.mapError, bind, Except.bind, refused]
    rfl
  unfold describe
  rw [result_describeWith, result_describeInner_of_error closed]
  rfl

end HoldsJson

/-- The amount of a transaction in an envelope with JSON, where the JSON reads with the amount as
the string of the digits of `n`: this is its amount.  If `n` fits in 64 bits, the same object with
the number `n` reads as the same transaction, and the two envelopes have the same description.  If
not, the object with the number is refused, and so is the envelope. -/
theorem describe_relayedAmount (place : Json.Place "value") (n : Nat) {written : List UInt8}
    (quoted : Json.IsQuoted written (Decimal.text n)) {inner : Inner}
    (reads : Inner.ofText (place.filled (Json.quotation written)) = .ok inner) :
    inner.value = n ∧
      (n < Word.limit 64 →
        Inner.ofText (place.filled (Utf8.bytes (Decimal.text n))) = .ok inner ∧
          ∀ (settings : Settings) (tx other : Transaction),
            tx.HoldsJson (place.filled (Json.quotation written)) →
            other.HoldsJson (place.filled (Utf8.bytes (Decimal.text n))) →
            other.value = tx.value →
              (describe settings other).result = (describe settings tx).result) ∧
      (Word.limit 64 ≤ n → ∃ fault,
        Inner.ofText (place.filled (Utf8.bytes (Decimal.text n))) = .error fault ∧
          ∀ (settings : Settings) (tx : Transaction),
            tx.HoldsJson (place.filled (Utf8.bytes (Decimal.text n))) →
            (∃ value, readValue tx.value = .ok value) →
              (describe settings tx).result = .error (.badPayload fault)) := by
  obtain ⟨value, fits, exceeds⟩ := Inner.ofText_filled place quoted reads
  refine ⟨value, fun small => ?_, fun great => ?_⟩
  · have number := fits small
    refine ⟨number, fun settings tx other h h' same => ?_⟩
    exact h.result_describe_congr h' same (number.trans reads.symm) settings
  · obtain ⟨fault, refused⟩ := exceeds great
    refine ⟨fault, refused, fun settings tx h readable => ?_⟩
    exact h.result_describe_of_error refused readable settings

/-- The text of a string without escapes. -/
def sampleLiteral (s : String) : Json.Literal :=
  (Utf8.bytes s).map .byte

/-- The place of the amount between two addresses of one byte. -/
def sampleAmount : Json.Place "value" where
  before := Utf8.bytes "\x7b\"sender\":\"AA==\",\"value\":"
  after := Utf8.bytes ",\"receiver\":\"AQ==\"\x7d"
  members := [(sampleLiteral "sender", .text (sampleLiteral "AA=="))]
  key := sampleLiteral "value"
  foldl_before := by rfl
  read_key := by rfl

/-- An envelope with this amount in its JSON. -/
def sampleRelay (value : List UInt8) : Transaction :=
  ⟨"x", "y", Base64.toText (callBytes "relayedTx" [Hex.toText (sampleAmount.filled value)]), ""⟩

theorem ofText_data_sampleRelay (value : List UInt8) : Base64.ofText (sampleRelay value).data =
    .ok (callBytes "relayedTx" [Hex.toText (sampleAmount.filled value)]) :=
  Base64.ofText_toText _

theorem holdsJson_sampleRelay (value : List UInt8) :
    (sampleRelay value).HoldsJson (sampleAmount.filled value) :=
  ⟨_, Hex.ofText_toText _, ofText_data_sampleRelay value⟩

theorem ofText_sampleAmount_five :
    Inner.ofText (sampleAmount.filled (Json.quotation (Utf8.bytes (Decimal.text 5)))) =
      .ok ⟨0, "AA==", "AQ==", 5, 0, 0, "", "", "", 0⟩ := by
  decide +kernel

theorem ofText_sampleAmount_wide : Inner.ofText (sampleAmount.filled
    (Json.quotation (Utf8.bytes (Decimal.text 18446744073709551616)))) =
      .ok ⟨0, "AA==", "AQ==", 18446744073709551616, 0, 0, "", "", "", 0⟩ := by
  decide +kernel

theorem describe_sampleRelay : (describe ⟨"erd", 1, 1⟩
    (sampleRelay (Json.quotation (Utf8.bytes (Decimal.text 5))))).result =
      .ok ⟨"erd1qq7428nh", "erd1qy3lgpud", 5, none, none, []⟩ := by
  have opens : Opens (Settings.format ⟨"erd", 1, 1⟩)
      (sampleRelay (Json.quotation (Utf8.bytes (Decimal.text 5))))
      ⟨"erd1qq7428nh", "erd1qy3lgpud", "", "5"⟩ := by
    refine opens_payload readValue_zero (ofText_data_sampleRelay _) ?_
    rw [unwrapPayload, hexBytes, Hex.ofText_toText]
    simp only [Except.mapError, bind, Except.bind, ofText_sampleAmount_five]
    decide +kernel
  show (describeWith _ (0 + 1) _).result = _
  rw [result_describeWith, result_describeInner_succ opens]
  decide +kernel

theorem describe_relayedAmount_samples :
    (describe ⟨"erd", 1, 1⟩ (sampleRelay (Utf8.bytes (Decimal.text 5)))).result =
        .ok ⟨"erd1qq7428nh", "erd1qy3lgpud", 5, none, none, []⟩ ∧
      ∃ fault, (describe ⟨"erd", 1, 1⟩
          (sampleRelay (Utf8.bytes (Decimal.text 18446744073709551616)))).result =
        .error (.badPayload fault) := by
  constructor
  · obtain ⟨-, fits, -⟩ :=
      describe_relayedAmount sampleAmount 5 (Json.isQuoted_text 5) ofText_sampleAmount_five
    obtain ⟨-, same⟩ := fits (by decide)
    rw [← describe_sampleRelay]
    exact same _ _ _ (holdsJson_sampleRelay _) (holdsJson_sampleRelay _) rfl
  · obtain ⟨-, -, exceeds⟩ := describe_relayedAmount sampleAmount 18446744073709551616
      (Json.isQuoted_text _) ofText_sampleAmount_wide
    obtain ⟨fault, -, refused⟩ := exceeds (by decide)
    exact ⟨fault, refused _ _ (holdsJson_sampleRelay _) ⟨0, readValue_zero⟩⟩

/-- A number of more than 64 bits is not read. -/
theorem not_forall_relayedAmount :
    ¬ ∀ (place : Json.Place "value") (n : Nat) (written : List UInt8) (inner : Inner),
      Json.IsQuoted written (Decimal.text n) →
      Inner.ofText (place.filled (Json.quotation written)) = .ok inner →
        ∃ again, Inner.ofText (place.filled (Utf8.bytes (Decimal.text n))) = .ok again ∧
          again.value = n := by
  intro h
  obtain ⟨again, reads, -⟩ := h sampleAmount 18446744073709551616 _ _ (Json.isQuoted_text _)
    ofText_sampleAmount_wide
  have refused : Inner.ofText (sampleAmount.filled
      (Utf8.bytes (Decimal.text 18446744073709551616))) = .error .mismatch := by
    decide +kernel
  cases refused.symm.trans reads

end TxInspect.Transaction
