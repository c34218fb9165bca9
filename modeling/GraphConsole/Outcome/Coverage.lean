import GraphConsole.Outcome.Output
import GraphConsole.Text.Lines
import GraphConsole.Text.Quoted

/-! Whether a table of renderers has exactly one entry for every kind of output. -/

namespace GraphConsole.Output.Variant

open GraphConsole.Text

def missingFrom (table : List String) : List String :=
  (all.map name).filter fun name => !table.contains name

/-- The entries of a table that are no kinds of output, each once, in the order of the table. -/
def extraIn (table : List String) : List String :=
  (table.filter fun name => !(all.map Variant.name).contains name).eraseDups

def listed (names : List String) : String :=
  "[" ++ joined ", " (names.map quoted) ++ "]"

def coverageComplaint (tableName : String) (table : List String) : Option String :=
  let missing := missingFrom table
  let extra := extraIn table
  if missing.isEmpty && extra.isEmpty then none
  else some (tableName ++ " is out of sync with OUTPUT_VARIANTS: missing=" ++ listed missing
    ++ " extra=" ++ listed extra)

end GraphConsole.Output.Variant
