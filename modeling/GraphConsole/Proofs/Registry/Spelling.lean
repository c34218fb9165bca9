import GraphConsole.Failure.Basic
import GraphConsole.Proofs.Text.Cuts

/-! How references to graphs are spelled. Reading accepts what the grammar does and nothing else,
and a reference that is printed reads back as itself. -/

namespace GraphConsole.Registry.GraphRef

open GraphConsole.Text

/-- A letter, and up to 63 letters, digits, underscores and hyphens behind it. -/
def SpellsName (s : List Char) : Prop :=
  ∃ first rest, s = first :: rest ∧ first.isAlpha = true ∧ rest.length ≤ 63 ∧
    ∀ c ∈ rest, c.isAlphanum = true ∨ c = '_' ∨ c = '-'

/-- One to 63 letters, digits, underscores, dots and hyphens. -/
def SpellsVariant (s : List Char) : Prop :=
  1 ≤ s.length ∧ s.length ≤ 63 ∧ ∀ c ∈ s, c.isAlphanum = true ∨ c = '_' ∨ c = '.' ∨ c = '-'

/-- The two spellings of a reference: with the variant, or without it for the current one. -/
inductive Spells : List Char → GraphRef → Prop
  | bare {name : List Char} (named : SpellsName name) :
      Spells name ⟨String.ofList name, "current"⟩
  | full {name variant : List Char} (named : SpellsName name) (varied : SpellsVariant variant) :
      Spells (name ++ '@' :: variant) ⟨String.ofList name, String.ofList variant⟩

/-- References whose parts keep to the grammar, however they came about. -/
def Grammatical (graph : GraphRef) : Prop :=
  SpellsName graph.name.toList ∧ SpellsVariant graph.variant.toList

theorem isLetter_eq (c : Char) : isLetter c = c.isAlpha := by
  rw [Bool.eq_iff_iff, isAlpha_iff]
  simp [isLetter]

theorem isDigit_eq (c : Char) : isDigit c = c.isDigit := by
  rw [Bool.eq_iff_iff, isDigit_iff]
  simp [isDigit]

theorem isNameChar_iff (c : Char) :
    isNameChar c = true ↔ c.isAlphanum = true ∨ c = '_' ∨ c = '-' := by
  simp [isNameChar, isLetter_eq, isDigit_eq, isAlphanum_iff, or_assoc]

theorem isVariantChar_iff (c : Char) :
    isVariantChar c = true ↔ c.isAlphanum = true ∨ c = '_' ∨ c = '.' ∨ c = '-' := by
  rw [isVariantChar, Bool.or_eq_true, isNameChar_iff, beq_iff_eq]
  tauto

theorem validName_iff (s : List Char) : validName s = true ↔ SpellsName s := by
  cases s with
  | nil => simp [validName, SpellsName]
  | cons first rest =>
      simp only [validName, Bool.and_eq_true, decide_eq_true_eq, List.all_eq_true, isNameChar_iff,
        isLetter_eq, and_assoc]
      constructor
      · exact fun valid => ⟨first, rest, rfl, valid⟩
      · rintro ⟨_, _, ⟨rfl, rfl⟩, valid⟩
        exact valid

theorem validVariant_iff (s : List Char) : validVariant s = true ↔ SpellsVariant s := by
  simp [validVariant, SpellsVariant, isVariantChar_iff, and_assoc]

theorem SpellsName.notMem_at {s : List Char} (named : SpellsName s) : '@' ∉ s := by
  obtain ⟨first, rest, rfl, letter, _, others⟩ := named
  rintro (_ | ⟨_, member⟩)
  · exact absurd letter (by decide)
  · exact absurd (others '@' member) (by decide)

theorem isBlank_of_isVariantChar {c : Char} (valid : isVariantChar c = true) :
    isBlank c = false := by
  simp only [isVariantChar, isNameChar, isLetter, isDigit, Bool.or_eq_true, Bool.and_eq_true,
    decide_eq_true_eq, beq_iff_eq] at valid
  have visible : 33 ≤ c.toNat ∧ c.toNat ≤ 126 := by
    obtain ((((upper | lower) | digit) | rfl) | rfl) | rfl := valid
    case inr | inl.inr | inl.inl.inr => decide
    all_goals omega
  simp [isBlank]
  omega

theorem parse?_eq_some_iff {value : String} {graph : GraphRef} :
    parse? value = some graph ↔ Spells (trim value.toList) graph := by
  simp only [parse?]
  generalize trim value.toList = core
  constructor
  · intro read
    cases cut : cutAt '@' core with
    | none =>
        by_cases named : validName core = true
        · obtain rfl : _ = graph := by simpa [cut, named] using read
          exact .bare ((validName_iff core).mp named)
        · simp [cut, named] at read
    | some parts =>
        obtain ⟨name, variant⟩ := parts
        by_cases valid : validName name = true ∧ validVariant variant = true
        · obtain rfl : _ = graph := by simpa [cut, valid] using read
          rw [eq_append_of_cutAt cut]
          exact .full ((validName_iff name).mp valid.1) ((validVariant_iff variant).mp valid.2)
        · simp [cut, valid] at read
  · intro spelled
    cases spelled with
    | bare named =>
        rw [cutAt_of_notMem named.notMem_at]
        exact if_pos ((validName_iff _).mpr named)
    | @full name variant named varied =>
        rw [cutAt_append named.notMem_at]
        exact if_pos (by simp [validName_iff, validVariant_iff, named, varied])

theorem parse_eq_ok_iff {value : String} {graph : GraphRef} :
    parse value = .ok graph ↔ Spells (trim value.toList) graph := by
  rw [← parse?_eq_some_iff, parse]
  cases parse? value <;> simp

theorem parse_eq_error_iff {value : String} {failure : Failure} :
    parse value = .error failure ↔
      failure = .invalidGraphRef value ∧ ¬ ∃ graph, Spells (trim value.toList) graph := by
  simp only [← parse?_eq_some_iff, parse]
  cases parse? value <;> simp [eq_comm]

theorem toList_toText (graph : GraphRef) :
    graph.toText.toList = graph.name.toList ++ '@' :: graph.variant.toList := by
  simp [toText]

theorem Spells.grammatical {core : List Char} {graph : GraphRef} (spelled : Spells core graph) :
    graph.Grammatical := by
  cases spelled with
  | bare named =>
      have current : SpellsVariant "current".toList := (validVariant_iff _).mp (by decide)
      exact ⟨by simpa using named, current⟩
  | full named varied => exact ⟨by simpa using named, by simpa using varied⟩

namespace Grammatical

variable {graph other : GraphRef}

theorem spells (grammatical : graph.Grammatical) : Spells graph.toText.toList graph := by
  have spelled := Spells.full grammatical.1 grammatical.2
  rw [String.ofList_toList, String.ofList_toList] at spelled
  rwa [toList_toText]

theorem isBlank_eq_false (grammatical : graph.Grammatical) :
    ∀ c ∈ graph.toText.toList, isBlank c = false := by
  obtain ⟨⟨first, rest, name, letter, _, others⟩, _, _, varied⟩ := grammatical
  intro c member
  rw [toList_toText, name, List.mem_append, List.mem_cons, List.mem_cons] at member
  obtain (rfl | inName) | rfl | inVariant := member
  · exact isBlank_of_isVariantChar (by simp [isVariantChar, isNameChar, isLetter_eq, letter])
  · have valid := (isNameChar_iff c).mpr (others c inName)
    exact isBlank_of_isVariantChar (by simp [isVariantChar, valid])
  · decide
  · exact isBlank_of_isVariantChar ((isVariantChar_iff c).mpr (varied c inVariant))

theorem parse_toText (grammatical : graph.Grammatical) :
    parse graph.toText = .ok graph := by
  rw [parse_eq_ok_iff, trim_of_whole grammatical.isBlank_eq_false]
  exact grammatical.spells

theorem eq_of_toText_eq (grammatical : graph.Grammatical) (otherwise : other.Grammatical)
    (same : graph.toText = other.toText) : graph = other := by
  have read := grammatical.parse_toText
  rw [same, otherwise.parse_toText] at read
  cases read
  rfl

end Grammatical

/-- A text is read as a reference if and only if what stands between the blanks at its ends spells
one, else it is complained of as it was given. What is printed is read again, and the references
that can be read are told apart by their texts. -/
theorem parse_inverts_toText :
    (∀ value, ∃ core, Core value.toList core ∧
      (∀ graph, parse value = .ok graph ↔ Spells core graph) ∧
      ∀ failure, parse value = .error failure ↔
        failure = .invalidGraphRef value ∧ ¬ ∃ graph, Spells core graph) ∧
    (∀ value graph, parse value = .ok graph → parse graph.toText = .ok graph) ∧
    (∀ graph : GraphRef, graph.Grammatical → parse graph.toText = .ok graph) ∧
    ∀ value other graph graph', parse value = .ok graph → parse other = .ok graph' →
      (graph.toText = graph'.toText ↔ graph = graph') := by
  have grammatical {value graph} (read : parse value = .ok graph) : graph.Grammatical :=
    (parse_eq_ok_iff.mp read).grammatical
  refine ⟨?_, ?_, fun graph => Grammatical.parse_toText, ?_⟩
  · intro value
    exact ⟨trim value.toList, core_trim _, fun _ => parse_eq_ok_iff, fun _ => parse_eq_error_iff⟩
  · intro value graph read
    exact (grammatical read).parse_toText
  · intro value other graph graph' read readOther
    constructor
    · exact (grammatical read).eq_of_toText_eq (grammatical readOther)
    · exact congrArg toText

/-- As long as the parts of a reference may be. -/
def longest : GraphRef :=
  ⟨String.ofList ('g' :: List.replicate 63 '-'), String.ofList (List.replicate 63 '.')⟩

theorem grammatical_longest : longest.Grammatical := by
  have name : longest.name.toList = 'g' :: List.replicate 63 '-' := String.toList_ofList
  have variant : longest.variant.toList = List.replicate 63 '.' := String.toList_ofList
  constructor
  · exact ⟨'g', List.replicate 63 '-', name, by decide, by simp,
      fun _ member => .inr (.inr (List.eq_of_mem_replicate member))⟩
  · unfold SpellsVariant
    rw [variant, List.length_replicate]
    exact ⟨by decide, le_refl 63,
      fun _ member => .inr (.inr (.inl (List.eq_of_mem_replicate member)))⟩

theorem parse_inverts_toText_padded :
    parse "\u2003my-graph@v1.0\n" = .ok ⟨"my-graph", "v1.0"⟩ ∧
      parse (toText ⟨"my-graph", "v1.0"⟩) = .ok ⟨"my-graph", "v1.0"⟩ ∧
      parse "my-graph" = .ok ⟨"my-graph", "current"⟩ ∧
      toText ⟨"my-graph", "v1.0"⟩ ≠ toText ⟨"my-graph", "current"⟩ ∧
      longest.Grammatical ∧ parse longest.toText = .ok longest := by
  have read : parse "\u2003my-graph@v1.0\n" = .ok ⟨"my-graph", "v1.0"⟩ := by decide +kernel
  have bare : parse "my-graph" = .ok ⟨"my-graph", "current"⟩ := by decide +kernel
  obtain ⟨_, again, inverted, apart⟩ := parse_inverts_toText
  refine ⟨read, again _ _ read, bare, fun same => ?_, grammatical_longest,
    inverted longest grammatical_longest⟩
  have equal := (apart _ _ _ _ read bare).mp same
  exact absurd equal (by decide)

end GraphConsole.Registry.GraphRef
