import GraphConsole.Proofs.Console.Showing
import GraphConsole.Proofs.Outcome.EnvelopeReading

/-! Outputs that carry a document. People get its text on standard output and nothing else there;
scripts that read the envelope find the same text in it. -/

namespace GraphConsole

open GraphConsole.Json
open GraphConsole.Registry
open GraphConsole.Text

/-- The output carries a text, which the data of its envelope hold at a path. -/
inductive Output.Carries : Output → List String → String → Prop
  | fetch (schema : Schema) : Carries (.fetch schema) ["sdl", "contents"] schema.contents
  | supergraphSchema (coreSchema : String) :
      Carries (.supergraphSchema coreSchema) ["core_schema"] coreSchema
  | compositionResult (composition : Composition) :
      Carries (.compositionResult composition) ["core_schema"] composition.supergraph
  | introspection (response : String) :
      Carries (.introspection response) ["introspection_response"] response
  | readmeFetch (graph : GraphRef) (content : String) (lastUpdated : Option String) :
      Carries (.readmeFetch graph content lastUpdated) ["readme"] content

/-- An envelope without an error goes two levels further down than its fields. -/
theorem Envelope.nesting_toJson_le {envelope : Envelope} {levels : Nat}
    (shallow : ∀ field ∈ envelope.fields, field.2.nesting ≤ levels)
    (clean : envelope.error = none) : envelope.toJson.nesting ≤ levels + 2 := by
  have flag : (Json.bool envelope.success).nesting ≤ levels := Nat.zero_le levels
  have data : nestingOfFields envelope.data ≤ levels :=
    nestingOfFields_le
      (Entries.forall_put (P := fun value : Json => value.nesting ≤ levels) "success" shallow flag)
  simp only [toJson, clean, ofOption, nesting, nestingOfFields]
  omega

theorem Json.nesting_optionalString (value : Option String) :
    (optionalString value).nesting = 0 := by
  cases value with
  | none => rfl
  | some value => rfl

namespace Registry.CompositionHint

theorem shaped_toJson (hint : CompositionHint) (digits : Nat) : hint.toJson.Shaped digits := by
  refine .object (by simp) ?_
  simp [shaped_optionalString, Shaped.string]

theorem nesting_toJson (hint : CompositionHint) : hint.toJson.nesting = 1 := by
  simp [toJson, nesting, nestingOfFields, nesting_optionalString]

end Registry.CompositionHint

namespace Output.Carries

variable {output : Output} {path : List String} {text : String}

theorem body (carries : output.Carries path text) : (Report.ofOutput output).body = some text := by
  cases carries with
  | fetch schema => rfl
  | supergraphSchema coreSchema => rfl
  | compositionResult composition => rfl
  | introspection response => rfl
  | readmeFetch graph content lastUpdated => rfl

theorem clean (carries : output.Carries path text) : output.envelope.error = none := by
  cases carries with
  | fetch schema => rfl
  | supergraphSchema coreSchema => rfl
  | compositionResult composition => rfl
  | introspection response => rfl
  | readmeFetch graph content lastUpdated => rfl

theorem envelope_at? (carries : output.Carries path text) :
    output.envelope.toJson.at? ("data" :: path) = some (.string text) := by
  cases carries with
  | fetch schema => rfl
  | supergraphSchema coreSchema => rfl
  | compositionResult composition => rfl
  | introspection response => rfl
  | readmeFetch graph content lastUpdated => rfl

theorem distinct (carries : output.Carries path text) : (output.fields.map Prod.fst).Nodup := by
  cases carries with
  | compositionResult composition =>
      cases version : composition.federationVersion with
      | none => simp [fields, version]
      | some version => simp [fields, version]
  | _ => simp [fields]

theorem shaped_fields (carries : output.Carries path text) (digits : Nat) :
    ∀ field ∈ output.fields, field.2.Shaped digits := by
  cases carries with
  | fetch schema =>
      have contents : (Json.object [("contents", .string schema.contents)]).Shaped digits :=
        .object (by simp) (by simp [Shaped.string])
      simpa [fields] using contents
  | compositionResult composition =>
      have hints : (Json.array (composition.hints.map CompositionHint.toJson)).Shaped digits :=
        .array (by simp [CompositionHint.shaped_toJson])
      cases version : composition.federationVersion with
      | none => simpa [fields, version, Shaped.string] using hints
      | some version => simpa [fields, version, Shaped.string] using hints
  | _ => simp [fields, Shaped.string, shaped_optionalString]

theorem shallow_fields (carries : output.Carries path text) :
    ∀ field ∈ output.fields, field.2.nesting ≤ 2 := by
  cases carries with
  | compositionResult composition =>
      have hints : nestingOfItems (composition.hints.map CompositionHint.toJson) ≤ 1 :=
        nestingOfItems_le (by simp [CompositionHint.nesting_toJson])
      cases version : composition.federationVersion with
      | none => simp [fields, version, nesting, hints]
      | some version => simp [fields, version, nesting, hints]
  | _ => simp [fields, nesting, nestingOfFields, nesting_optionalString]

theorem shaped (carries : output.Carries path text) : output.envelope.Shaped where
  distinct := carries.distinct
  fields := carries.shaped_fields _
  details := by
    intro entry details present _
    rw [carries.clean] at present
    cases present

/-- Scripts that read the line with the envelope have the envelope. -/
theorem read_line (carries : output.Carries path text) :
    read .standard (output.envelope.toText.toList ++ ['\n']) = .ok output.envelope.toJson := by
  have shallow : output.envelope.toJson.nesting ≤ Limits.standard.depth :=
    Nat.le_trans (Envelope.nesting_toJson_le carries.shallow_fields carries.clean) (by decide)
  rw [Envelope.toText, toIndented, String.toList_ofList]
  exact read_printIndented_append .standard carries.shaped.toJson shallow ['\n'] rfl rfl

end Output.Carries

namespace Dispatcher

/-- A document as people get it and as scripts do: its text and a line feed, and the same text in
the data of the envelope. -/
structure Documents (path : List String) (text : String) (printed written : Emission) : Prop where
  people : printed.output = if text = "" then [] else text.toList ++ ['\n']
  scripts : ∃ document, read .standard written.output = .ok document ∧
    document.at? ("data" :: path) = some (.string text)
  same : text ≠ "" → ∀ document field, read .standard written.output = .ok document →
    document.at? ("data" :: path) = some (.string field) → printed.output = field.toList ++ ['\n']

theorem output_of_carries {dispatcher : Dispatcher} (plain : dispatcher.format = .plain)
    {output : Output} {path : List String} {text : String} (carries : output.Carries path text)
    (uncontrolled : '\x1b' ∉ text.toList) :
    (dispatcher.shown (.success (.known output))).output =
      if text = "" then [] else text.toList ++ ['\n'] := by
  rw [shown_plain plain, dispatcher.output_of_body carries.body, writtenBody,
    withoutControls_of_notMem _ uncontrolled, ite_self]

/-- A document without control sequences is the same in both formats, whatever goes to standard
error beside it. -/
theorem run_documents {people scripts : Dispatcher} (plain : people.format = .plain)
    (json : scripts.format = .json) {output : Output} {path : List String} {text : String}
    (carries : output.Carries path text) (uncontrolled : '\x1b' ∉ text.toList) :
    ∃ printed written, people.run (.ok (.known output)) true = .ok (0, printed) ∧
      scripts.run (.ok (.known output)) true = .ok (0, written) ∧
      Documents path text printed written := by
  have printed := output_of_carries plain carries uncontrolled
  have written : (scripts.shown (.success (.known output))).output =
      output.envelope.toText.toList ++ ['\n'] := by
    rw [shown_json json rfl output.whole_envelope]
  refine ⟨_, _, people.run_known output true, scripts.run_known output true, ?_⟩
  constructor
  case people => exact printed
  case scripts =>
    refine ⟨output.envelope.toJson, ?_, carries.envelope_at?⟩
    rw [if_pos rfl, written]
    exact carries.read_line
  case same =>
    intro told document field decoded found
    rw [if_pos rfl, written, carries.read_line] at decoded
    cases decoded
    rw [carries.envelope_at?] at found
    cases found
    rw [if_pos rfl, printed, if_neg told]

/-- A supergraph with quotes, a null character, a character beyond the basic plane and blanks at its
end, and a hint beside it. -/
def hintedComposition : Composition where
  supergraph := "schema \x7b \"\x00\\😀\t\" \x7d\r\n\n"
  hints := [⟨"[UNUSED]: \x1b[1mnobody uses it\x1b[0m", some "UNUSED"⟩]
  federationVersion := some "2.3"

theorem run_documents_hinted :
    '\x1b' ∉ hintedComposition.supergraph.toList ∧
      ∃ printed written,
        run ⟨.plain, true, false⟩ (.ok (.known (.compositionResult hintedComposition))) true =
          .ok (0, printed) ∧
        run ⟨.json, true, false⟩ (.ok (.known (.compositionResult hintedComposition))) true =
          .ok (0, written) ∧
        Documents ["core_schema"] hintedComposition.supergraph printed written := by
  have uncontrolled : '\x1b' ∉ hintedComposition.supergraph.toList := by decide
  exact ⟨uncontrolled, run_documents rfl rfl (.compositionResult hintedComposition) uncontrolled⟩

end Dispatcher

end GraphConsole
