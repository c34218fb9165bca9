import GraphConsole.Json.Decode
import GraphConsole.Text.Blank
import GraphConsole.Text.Lines

/-! References to one variant of a graph. -/

namespace GraphConsole.Registry

open GraphConsole.Text

structure GraphRef where
  name : String
  variant : String := "current"
deriving DecidableEq, Repr

namespace GraphRef

def isLetter (c : Char) : Bool :=
  (65 ≤ c.toNat && c.toNat ≤ 90) || (97 ≤ c.toNat && c.toNat ≤ 122)

def isNameChar (c : Char) : Bool :=
  isLetter c || isDigit c || c == '_' || c == '-'

def isVariantChar (c : Char) : Bool :=
  isNameChar c || c == '.'

/-- A letter and at most 63 letters, digits, underscores and hyphens. -/
def validName : List Char → Bool
  | [] => false
  | c :: rest => isLetter c && rest.length ≤ 63 && rest.all isNameChar

/-- Between one and 63 letters, digits, underscores, hyphens and dots. -/
def validVariant (s : List Char) : Bool :=
  1 ≤ s.length && s.length ≤ 63 && s.all isVariantChar

/-- Reads `name` or `name@variant`, with blanks around it. -/
def parse? (value : String) : Option GraphRef :=
  let s := trim value.toList
  match cutAt '@' s with
  | none => if validName s then some { name := String.ofList s } else none
  | some (name, variant) =>
      if validName name && validVariant variant then
        some ⟨String.ofList name, String.ofList variant⟩
      else none

def toText (graph : GraphRef) : String :=
  graph.name ++ "@" ++ graph.variant

def ofJson : Json → Json.Checked GraphRef :=
  Json.record fun fields =>
    GraphRef.mk <$> Json.required "name" Json.text fields
      <*> Json.defaulted "variant" "current" Json.text fields

def toJson (graph : GraphRef) : Json :=
  .object [("name", .string graph.name), ("variant", .string graph.variant)]

end GraphRef

end GraphConsole.Registry
