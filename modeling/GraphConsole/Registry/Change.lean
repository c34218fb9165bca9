import GraphConsole.Json.Decode
import GraphConsole.Json.Printer
import GraphConsole.Text.Decimal

/-! Changes that a new schema makes to the old one. -/

namespace GraphConsole.Registry

open GraphConsole.Text

structure ChangeCounts where
  additions : Int := 0
  removals : Int := 0
  edits : Int := 0
deriving DecidableEq, Repr

namespace ChangeCounts

def isEmpty (counts : ChangeCounts) : Bool :=
  counts.additions == 0 && counts.removals == 0 && counts.edits == 0

def counts (changes : ChangeCounts) : List Int :=
  [changes.additions, changes.removals, changes.edits]

def toText (counts : ChangeCounts) : String :=
  "+" ++ intText counts.additions ++ " -" ++ intText counts.removals ++ " △ "
    ++ intText counts.edits

def ofJson : Json → Json.Checked ChangeCounts :=
  Json.record fun fields =>
    ChangeCounts.mk <$> Json.defaulted "additions" 0 Json.int fields
      <*> Json.defaulted "removals" 0 Json.int fields
      <*> Json.defaulted "edits" 0 Json.int fields

def toJson (counts : ChangeCounts) : Json :=
  .object [("additions", .integer counts.additions), ("removals", .integer counts.removals),
    ("edits", .integer counts.edits)]

end ChangeCounts

structure ChangeSummary where
  fields : ChangeCounts := {}
  types : ChangeCounts := {}
deriving DecidableEq, Repr

namespace ChangeSummary

def isEmpty (summary : ChangeSummary) : Bool :=
  summary.fields.isEmpty && summary.types.isEmpty

/-- All six counts, those of the fields first. -/
def counts (summary : ChangeSummary) : List Int :=
  summary.fields.counts ++ summary.types.counts

def toText (summary : ChangeSummary) : String :=
  if summary.isEmpty then "[No Changes]"
  else "[Fields: " ++ summary.fields.toText ++ ", Types: " ++ summary.types.toText ++ "]"

/-- The text of a summary, unless it has to name a count that is too long. -/
def print (summary : ChangeSummary) : Except Json.Overrun String :=
  if summary.isEmpty || summary.counts.all isConvertible then .ok summary.toText
  else .error .digits

def ofJson : Json → Json.Checked ChangeSummary :=
  Json.record fun fields =>
    ChangeSummary.mk <$> Json.defaulted "field_changes" {} ChangeCounts.ofJson fields
      <*> Json.defaulted "type_changes" {} ChangeCounts.ofJson fields

def toJson (summary : ChangeSummary) : Json :=
  .object [("field_changes", summary.fields.toJson), ("type_changes", summary.types.toJson)]

end ChangeSummary

inductive Verdict
  | pass
  | fail
deriving DecidableEq, Repr

namespace Verdict

def name : Verdict → String
  | .pass => "PASS"
  | .fail => "FAIL"

def all : List Verdict := [.pass, .fail]

def ofName? (name : String) : Option Verdict :=
  all.find? fun verdict => verdict.name == name

def ofJson : Json → Json.Checked Verdict :=
  Json.oneOf (all.map fun verdict => (verdict.name, verdict))

end Verdict

structure SchemaChange where
  code : String
  description : String
  verdict : Verdict
deriving DecidableEq, Repr

namespace SchemaChange

def ofJson : Json → Json.Checked SchemaChange :=
  Json.record fun fields =>
    SchemaChange.mk <$> Json.required "code" Json.text fields
      <*> Json.required "description" Json.text fields
      <*> Json.required "severity" Verdict.ofJson fields

def toJson (change : SchemaChange) : Json :=
  .object [("code", .string change.code), ("description", .string change.description),
    ("severity", .string change.verdict.name)]

def failing (changes : List SchemaChange) : List SchemaChange :=
  changes.filter fun change => change.verdict = .fail

end SchemaChange

end GraphConsole.Registry
