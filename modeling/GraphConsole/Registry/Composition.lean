import GraphConsole.Json.Decode

/-! Supergraphs composed from subgraph schemas. -/

namespace GraphConsole.Registry

structure CompositionHint where
  message : String
  code : Option String := none
deriving DecidableEq, Repr

namespace CompositionHint

def ofJson : Json → Json.Checked CompositionHint :=
  Json.record fun fields =>
    CompositionHint.mk <$> Json.required "message" Json.text fields
      <*> Json.optional "code" Json.text fields

def toJson (hint : CompositionHint) : Json :=
  .object [("message", .string hint.message), ("code", Json.optionalString hint.code)]

end CompositionHint

structure Composition where
  supergraph : String
  hints : List CompositionHint := []
  federationVersion : Option String := none
deriving DecidableEq, Repr

namespace Composition

def ofJson : Json → Json.Checked Composition :=
  Json.record fun fields =>
    Composition.mk <$> Json.required "supergraph_sdl" Json.text fields
      <*> Json.defaulted "hints" [] (Json.listOf CompositionHint.ofJson) fields
      <*> Json.optional "federation_version" Json.text fields

def toJson (composition : Composition) : Json :=
  .object [("supergraph_sdl", .string composition.supergraph),
    ("hints", .array (composition.hints.map CompositionHint.toJson)),
    ("federation_version", Json.optionalString composition.federationVersion)]

end Composition

end GraphConsole.Registry
