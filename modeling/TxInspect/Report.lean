import TxInspect.Report.Json
import TxInspect.Report.Terminal

/-!
# Reports

What the program has found out, ready to be shown (`Report`): as styled text or as JSON
(`Report.renderWith?`). Where there is no terminal, tables are drawn as `Table.draw` does
(`Report.render?`).
-/

namespace TxInspect

/-- What the program has found out. -/
inductive Report where
  | metadata (m : Metadata)
  /-- An outcome, if it could be told. -/
  | outcome (o : Option Outcome)
  | address (f : Address.Forms)

/-- How a report is shown. -/
structure Report.Layout where
  json : Bool
  color : Bool

namespace Report

/-- The report as styled text, given how tables are drawn; none if an argument cannot be
shortened. -/
def styled? (draw : Table → String) : Report → Option Styled
  | .metadata m => ofMetadata? draw m
  | .outcome o => some (ofOutcome o)
  | .address f => some (ofForms f)

/-- The report as JSON. -/
def json : Report → Json
  | .metadata m => metadataJson m
  | .outcome o => outcomeJson o
  | .address f => formsJson f

/-- The report as a text, given how tables are drawn; none if an argument cannot be shortened. -/
def renderWith? (draw : Table → String) (r : Report) (layout : Layout) : Option String :=
  if layout.json then some r.json.pretty else (r.styled? draw).map (·.render layout.color)

/-- The report as a text with plain tables. -/
def render? (r : Report) (layout : Layout) : Option String :=
  r.renderWith? Table.draw layout

end Report

end TxInspect
