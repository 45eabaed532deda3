import TxInspect.Log.Entry
import TxInspect.Number.Decimal
import TxInspect.Text.Alphanumeric
import TxInspect.Text.Blank
import TxInspect.Text.Pieces

/-!
# Log filters

A filter says which entries are shown. It is written as directives between commas (`Filter.ofText`):
a level, a target, `target=level`, or a target with a span in brackets, which may name a field. Of
the directives that fit an entry the most specific one decides (`Filter.shows`): the one with the
longest target, then the one that names a field. Without directives only errors are shown, and a
filter that cannot be read counts as `warn`.
-/

namespace TxInspect.Log

/-- The least important level that is shown, or `none` if nothing is. -/
abbrev Threshold := Option Level

/-- The entries of a level are shown. -/
def admits (t : Threshold) (level : Level) : Bool :=
  match t with
  | some least => level.rank ≤ least.rank
  | none => false

/-- The threshold with a number. -/
def thresholdOfNumber? : Nat → Option Threshold
  | 0 => some none
  | 1 => some (some .error)
  | 2 => some (some .warn)
  | 3 => some (some .info)
  | 4 => some (some .debug)
  | 5 => some (some .trace)
  | _ => none

/-- The threshold with a name in small letters. -/
def thresholdOfName? : String → Option Threshold
  | "off" => some none
  | "error" => some (some .error)
  | "warn" => some (some .warn)
  | "info" => some (some .info)
  | "debug" => some (some .debug)
  | "trace" => some (some .trace)
  | _ => none

/-- Reads a threshold: a number from 0 to 5, or a name in any case. -/
def threshold? (cs : List Char) : Option Threshold :=
  match Decimal.amount? (String.ofList cs) with
  | some n => thresholdOfNumber? n
  | none => thresholdOfName? (String.ofList (cs.map Char.toLower))

/-- The field that a directive names. -/
structure FieldName where
  name : String
  /-- The field has to have a certain value. -/
  hasValue : Bool
deriving DecidableEq, Repr

/-- A part of a filter. -/
structure Directive where
  /-- What the targets of entries start with. -/
  target : Option String
  /-- The entries have to be noted inside a certain span. -/
  inSpan : Bool
  field : Option FieldName
  threshold : Threshold
deriving DecidableEq, Repr

namespace Directive

/-- A character that a target or a level may start with. -/
def isStart (c : Char) : Bool :=
  c == '-' || c == ':' || c == '_' || Text.isAlphanumeric c

/-- The field in braces. -/
def fieldName (cs : List Char) : FieldName where
  name := String.ofList (cs.takeWhile (· ≠ '='))
  hasValue := cs.contains '='

/-- The threshold after an equals sign; none at all means everything. -/
def thresholdAfterSign? : List Char → Option Threshold
  | [] => some (some .trace)
  | cs => threshold? cs

/-- What follows the closing bracket of a span, with the text of it that counts: nothing, or a
threshold after an equals sign. -/
def afterSpan? (shape text : List Char) : Option Threshold :=
  match shape with
  | [] => some (some .trace)
  | '=' :: _ => thresholdAfterSign? (text.drop 1)
  | _ => none

/-- The directive with a span, given what follows the opening bracket. -/
def ofSpan? (target : Option String) (shape text : List Char) : Option Directive :=
  let name := shape.takeWhile fun c => c ≠ ']' && c ≠ '\x7B'
  let n := name.length
  match shape.drop n with
  | ']' :: rest =>
    (afterSpan? rest (text.drop (n + 1))).map fun threshold => ⟨target, true, none, threshold⟩
  | '\x7B' :: rest =>
    let field := rest.takeWhile (· ≠ '\x7D')
    let m := field.length
    match rest.drop m with
    | '\x7D' :: ']' :: rest =>
      if m = 0 then none
      else (afterSpan? rest (text.drop (n + m + 3))).map fun threshold =>
        ⟨target, n ≠ 0, some (fieldName ((text.drop (n + 1)).take m)), threshold⟩
    | _ => none
  | _ => none

/-- Reads a directive. Its shape is found in the text without white space around it, and the parts
are then taken at the same places out of the whole text. -/
def ofText? (text : List Char) : Option Directive :=
  let shape := Text.trim text
  let head := shape.takeWhile fun c => c ≠ '=' && c ≠ '['
  let n := head.length
  let target := String.ofList (text.take n)
  match head.head?, shape.drop n with
  | none, '[' :: rest => ofSpan? none rest (text.drop 1)
  | none, _ => none
  | some c, rest =>
    if isStart c then
      match rest with
      | [] => match threshold? text with
        | some threshold => some ⟨none, false, none, threshold⟩
        | none => some ⟨some (String.ofList text), false, none, some .trace⟩
      | '[' :: rest => ofSpan? (some target) rest (text.drop (n + 1))
      | _ => (thresholdAfterSign? (text.drop (n + 1))).map fun threshold =>
        ⟨some target, false, none, threshold⟩
    else none

/-- The directive says something about entries outside every span. -/
def isGeneral (d : Directive) : Bool :=
  !d.inSpan && !(d.field.any (·.hasValue))

/-- The entry has a field, its message included. -/
def hasField (e : Entry) (name : String) : Bool :=
  name == "message" || e.fields.any (·.1 == name)

/-- The directive fits an entry outside every span. -/
def fits (d : Directive) (e : Entry) : Bool :=
  d.isGeneral && (d.target.all fun t => t.toList.isPrefixOf e.target.toList)
    && d.field.all fun f => hasField e f.name

/-- How specific a directive is: the length of its target, the number of its fields, and their
names. -/
def rank (d : Directive) : Nat × Nat × String :=
  ((d.target.map fun t => t.utf8ByteSize + 1).getD 0, if d.field.isSome then 1 else 0,
    (d.field.map FieldName.name).getD "")

/-- The first directive is no more specific than the second. -/
def isBelow (a b : Directive) : Bool :=
  let (x, y, z) := a.rank
  let (x', y', z') := b.rank
  x < x' || (x = x' && (y < y' || (y = y' && z ≤ z')))

end Directive

/-- A filter. -/
abbrev Filter := List Directive

namespace Filter

/-- The filter without directives: errors alone. -/
def errors : Filter := [⟨none, false, none, some .error⟩]

/-- The filter for those that cannot be read. -/
def warnings : Filter := [⟨none, false, none, some .warn⟩]

/-- The directives between commas, or nothing if one of them cannot be read. -/
def directives? (s : String) : Option (List Directive) :=
  ((Text.pieces ',' s.toList).filter (· ≠ [])).mapM Directive.ofText?

/-- Reads a filter. -/
def ofText (s : String) : Filter :=
  match directives? s with
  | some [] => errors
  | some ds => ds
  | none => warnings

/-- The most specific of the directives that fit an entry, of several the last one. -/
def deciding? (f : Filter) (e : Entry) : Option Directive :=
  (f.filter (·.fits e)).foldl (fun best d => match best with
    | none => some d
    | some b => if b.isBelow d then some d else some b) none

/-- The entry is shown. -/
def shows (f : Filter) (e : Entry) : Bool :=
  match f.deciding? e with
  | some d => admits d.threshold e.level
  | none => false

/-- The entries that are shown. -/
def shown (f : Filter) (entries : List Entry) : List Entry :=
  entries.filter f.shows

end Filter

end TxInspect.Log
