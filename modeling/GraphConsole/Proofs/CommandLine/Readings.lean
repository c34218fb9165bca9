import GraphConsole.CommandLine.Invocation
import GraphConsole.Proofs.Files.Veil

/-! What the reading of a command line depends on besides its words: on the variables that
parameters know, the API key not being among them, and on what kinds of files there are. -/

namespace GraphConsole.CommandLine

open GraphConsole.Files

def keyVariable : String := "ROVER_API_KEY"

/-- Settings in which no parameter finds a difference. -/
structure Setting.Alike (first second : Setting) : Prop where
  lookups : ∀ name, name ≠ keyVariable →
    second.environment.lookup name = first.environment.lookup name
  complaints : ∀ shape text, textComplaint second shape text = textComplaint first shape text

theorem textComplaint_of_covers {veil : Veil} {left right : Tree} (covers : veil.Covers left right)
    (environment other : List (String × String)) (shape : Shape) (text : String) :
    textComplaint ⟨other, right⟩ shape text = textComplaint ⟨environment, left⟩ shape text := by
  cases shape with
  | inputFile =>
      rw [textComplaint, textComplaint]
      rcases covers.statusOfText_cases text with same | ⟨first, second, one, two⟩
      · rw [same]
      · rw [one, two]
  | directory =>
      rw [textComplaint, textComplaint]
      rcases covers.statusOfText_cases text with same | ⟨first, second, one, two⟩
      · rw [same]
      · rw [one, two]
  | _ => rfl

theorem mem_of_mem_bindingOrder {parameters : List Parameter} {scan : Scan}
    {pair : Parameter × List (Option String)} (member : pair ∈ bindingOrder parameters scan) :
    pair.1 ∈ parameters := by
  rw [bindingOrder, List.mem_append, List.mem_append] at member
  rcases member with (given | positional) | rest
  · obtain ⟨name, _, found⟩ := List.mem_filterMap.mp given
    obtain ⟨parameter, known, rfl⟩ := Option.map_eq_some_iff.mp found
    exact List.mem_of_find?_eq_some known
  · obtain ⟨⟨parameter, index⟩, member, rfl⟩ := List.mem_map.mp positional
    exact (List.mem_filter.mp (List.fst_mem_of_mem_zipIdx member)).1
  · obtain ⟨parameter, member, rfl⟩ := List.mem_map.mp rest
    exact (List.mem_filter.mp member).1

/-- No parameter takes its value from the variable of the key. -/
def Keyless (parameters : List Parameter) : Prop :=
  ∀ parameter ∈ parameters, parameter.environment ≠ some keyVariable

theorem keyless_globalOptions : Keyless globalOptions := by
  unfold Keyless
  decide +kernel

theorem keyless_commandForms : ∀ form ∈ commandForms, Keyless form.allParameters := by
  unfold Keyless
  decide +kernel

namespace Setting.Alike

variable {first second : Setting}

theorem valueFor_eq (alike : first.Alike second) {parameter : Parameter}
    (keyless : parameter.environment ≠ some keyVariable) :
    second.valueFor parameter = first.valueFor parameter := by
  unfold Setting.valueFor
  split
  · rfl
  · next name given =>
      rw [alike.lookups name]
      rintro rfl
      exact keyless given

theorem bindOne_eq (alike : first.Alike second) (usage : Usage) {parameter : Parameter}
    (keyless : parameter.environment ≠ some keyVariable) (given : List (Option String)) :
    bindOne usage second parameter given = bindOne usage first parameter given := by
  have value : valueOf second parameter given = valueOf first parameter given := by
    rw [valueOf, valueOf, alike.valueFor_eq keyless]
  simp only [bindOne, value, alike.complaints]

theorem bindAll_eq (alike : first.Alike second) (usage : Usage)
    {pairs : List (Parameter × List (Option String))}
    (keyless : ∀ pair ∈ pairs, pair.1.environment ≠ some keyVariable) :
    bindAll usage second pairs = bindAll usage first pairs := by
  induction pairs with
  | nil => rfl
  | cons pair rest induction =>
      obtain ⟨parameter, given⟩ := pair
      obtain ⟨here, others⟩ := List.forall_mem_cons.mp keyless
      rw [bindAll, bindAll, alike.bindOne_eq usage here, induction others]

theorem bindAll_bindingOrder_eq (alike : first.Alike second) (usage : Usage)
    {parameters : List Parameter} (keyless : Keyless parameters) (scan : Scan) :
    bindAll usage second (bindingOrder parameters scan) =
      bindAll usage first (bindingOrder parameters scan) :=
  alike.bindAll_eq usage fun pair member => keyless pair.1 (mem_of_mem_bindingOrder member)

theorem readGlobals_eq (alike : first.Alike second) (words : List String) :
    readGlobals second words = readGlobals first words := by
  unfold readGlobals
  simp only [alike.bindAll_bindingOrder_eq _ keyless_globalOptions]

theorem readTask_eq (alike : first.Alike second) {form : CommandForm}
    (member : form ∈ commandForms) (words : List String) :
    readTask second form words = readTask first form words := by
  unfold readTask
  simp only [alike.bindAll_bindingOrder_eq _ (keyless_commandForms form member)]

theorem findCommand_eq (alike : first.Alike second) (words : List String) :
    findCommand second words = findCommand first words := by
  have found : findFirst second words = findFirst first words := by
    unfold findFirst
    simp only [alike.readGlobals_eq]
  rw [findCommand, findCommand, found]

end Setting.Alike

theorem mem_of_findFirst {setting : Setting} {words rest : List String} {form : CommandForm}
    (found : findFirst setting words = .ok (.command form rest)) : form ∈ commandForms := by
  cases words with
  | nil => cases found
  | cons word others =>
      rw [findFirst] at found
      split at found
      · next known =>
          cases found
          exact List.mem_of_find?_eq_some known
      · split at found <;> cases found

theorem mem_of_findInGroup {group : String} {words rest : List String} {form : CommandForm}
    (found : findInGroup group words = .ok (form, rest)) : form ∈ commandForms := by
  cases words with
  | nil => cases found
  | cons word others =>
      rw [findInGroup] at found
      split at found
      · next known =>
          cases found
          exact List.mem_of_find?_eq_some known
      · cases found

theorem mem_of_findCommand {setting : Setting} {words rest : List String} {form : CommandForm}
    (found : findCommand setting words = .ok (form, rest)) : form ∈ commandForms := by
  unfold findCommand at found
  cases first : findFirst setting words with
  | error halt =>
      rw [first] at found
      cases found
  | ok command =>
      rw [first] at found
      cases command with
      | command known others =>
          cases found
          exact mem_of_findFirst first
      | group group others =>
          cases within : readGroup group others with
          | error halt =>
              simp only [Bind.bind, Except.bind, within] at found
              cases found
          | ok operands =>
              simp only [Bind.bind, Except.bind, within] at found
              exact mem_of_findInGroup found

namespace Setting.Alike

variable {first second : Setting}

theorem settingsOf_eq (alike : first.Alike second) (bound : Bound) :
    settingsOf second.environment bound = settingsOf first.environment bound := by
  have home : standardConfigHome second.environment = standardConfigHome first.environment := by
    rw [standardConfigHome, standardConfigHome, alike.lookups "HOME" (by decide),
      alike.lookups "XDG_CONFIG_HOME" (by decide)]
  rw [settingsOf, settingsOf, home]

/-- In settings that are alike, the same words ask for the same. -/
theorem readInvocation_eq (alike : first.Alike second) (words : List String) :
    readInvocation second words = readInvocation first words := by
  unfold readInvocation
  simp only [Bind.bind, Except.bind]
  rw [alike.readGlobals_eq]
  cases readGlobals first words with
  | error halt => dsimp only
  | ok globals =>
      obtain ⟨bound, operands⟩ := globals
      simp only [alike.findCommand_eq]
      cases found : findCommand first operands with
      | error halt => dsimp only
      | ok command =>
          obtain ⟨form, rest⟩ := command
          simp only [alike.readTask_eq (mem_of_findCommand found), alike.settingsOf_eq]

end Setting.Alike

end GraphConsole.CommandLine
