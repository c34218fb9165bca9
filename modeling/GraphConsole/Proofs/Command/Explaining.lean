import GraphConsole.Command.Catalog
import GraphConsole.Proofs.Outcome.Correspondence
import GraphConsole.Proofs.Service.Conduct
import GraphConsole.Proofs.Text.Capitals

/-! Explanations of codes. Whatever the case of its letter and the blanks around it, a code is
explained in the same way; what is shown of a failure as its code is explained by its kind. -/

namespace GraphConsole

open GraphConsole.Text
open GraphConsole.Service

namespace Failure.Kind

/-- A text spells the code of a kind: in either case, and with nothing but blanks around it. -/
inductive Spells (text : String) (kind : Kind) : Prop
  | intro {before digits after : List Char} {letter : Char}
      (coded : kind.code = some (String.ofList ('E' :: digits)))
      (cased : letter = 'E' ∨ letter = 'e')
      (whole : text.toList = before ++ letter :: digits ++ after)
      (blankBefore : ∀ c ∈ before, isBlank c = true)
      (blankAfter : ∀ c ∈ after, isBlank c = true) : Spells text kind

theorem eq_of_code {kind other : Kind} {code : String} (coded : kind.code = some code)
    (same : other.code = some code) : kind = other := by
  have different : ∀ kind ∈ all, ∀ other ∈ all, kind.code = other.code → kind.code ≠ none →
      kind = other := by decide
  refine different kind kind.mem_all other other.mem_all (coded.trans same.symm) ?_
  rw [coded]
  exact nofun

theorem code_form {kind : Kind} {code : String} (coded : kind.code = some code) :
    ∃ digits, code = String.ofList ('E' :: digits) ∧ ∀ c ∈ digits, isDigit c = true := by
  have form : ∀ kind ∈ all, ∀ code ∈ kind.code,
      code.toList.head? = some 'E' ∧ code.toList.tail.all isDigit = true := by decide
  obtain ⟨first, digital⟩ := form kind kind.mem_all code coded
  obtain ⟨digits, split⟩ := List.head?_eq_some_iff.mp first
  rw [split] at digital
  exact ⟨digits, by rw [← split, String.ofList_toList], List.all_eq_true.mp digital⟩

theorem explanation_ne {kind : Kind} {code : String} (coded : kind.code = some code) :
    kind.explanation ≠ "" := by
  have filled : ∀ kind ∈ all, kind.code ≠ none → kind.explanation ≠ "" := by decide
  exact filled kind kind.mem_all (by rw [coded]; exact nofun)

theorem ofCode?_eq_some_iff (text : String) (kind : Kind) :
    ofCode? text = some kind ↔ kind.code = some (canonical text) := by
  rw [ofCode?]
  constructor
  · intro found
    simpa using List.find?_some found
  · intro coded
    cases found : all.find? fun other => other.code == some (canonical text) with
    | none =>
        have absent := List.find?_eq_none.mp found kind kind.mem_all
        simp [coded] at absent
    | some other =>
        have same : other.code = some (canonical text) := by simpa using List.find?_some found
        rw [eq_of_code coded same]

/-- Blanks and the letter's case are all in which the spellings of a code differ. -/
theorem code_eq_canonical_iff (text : String) (kind : Kind) :
    kind.code = some (canonical text) ↔ Spells text kind := by
  constructor
  · intro coded
    obtain ⟨digits, form, digital⟩ := code_form coded
    obtain ⟨letter, cased, core⟩ :=
      (capitals_eq_letter_digits_iff digital).mp (String.ofList_injective form)
    obtain ⟨⟨before, after, whole, blankBefore, blankAfter⟩, _, _⟩ := core_trim text.toList
    rw [core] at whole
    rw [form] at coded
    exact .intro coded cased whole blankBefore blankAfter
  · rintro @⟨before, digits, after, letter, coded, cased, whole, blankBefore, blankAfter⟩
    obtain ⟨_, form, digital⟩ := code_form coded
    cases String.ofList_injective form
    have filled : ∀ c ∈ letter :: digits, isBlank c = false :=
      List.forall_mem_cons.mpr ⟨by rcases cased with rfl | rfl <;> decide,
        fun c member => isBlank_of_isDigit (digital c member)⟩
    have core : trim text.toList = letter :: digits :=
      Core.trim_eq {
        around := ⟨before, after, whole, blankBefore, blankAfter⟩
        first := fun c found => filled c (List.mem_of_mem_head? found)
        last := fun c found => filled c (List.mem_of_mem_getLast? found) }
    rw [coded, canonical, core, (capitals_eq_letter_digits_iff digital).mpr ⟨letter, cased, rfl⟩]

/-- A code is the first of its own spellings. -/
theorem ofCode?_code {code : String} {kind : Kind} (coded : kind.code = some code) :
    ofCode? code = some kind := by
  obtain ⟨digits, rfl, _⟩ := code_form coded
  have whole : (String.ofList ('E' :: digits)).toList = [] ++ 'E' :: digits ++ [] := by simp
  rw [ofCode?_eq_some_iff, code_eq_canonical_iff]
  exact .intro coded (.inl rfl) whole nofun nofun

end Failure.Kind

/-- A code is shown for a failure: to scripts in the envelope, to people before the message. -/
structure Failure.ShowsCode (failure : Failure) (code : String) : Prop where
  scripts : failure.envelope.toJson.at? ["error", "code"] = some (.string code)
  people : failure.headline.Labelled ("error[" ++ code ++ "]:") failure.message

theorem Failure.showsCode {failure : Failure} {code : String} (coded : failure.code = some code) :
    failure.ShowsCode code := by
  have kind : failure.kind.code = some code := coded
  have labelled := failure.labelled_headline
  rw [kind] at labelled
  refine ⟨?_, labelled⟩
  rw [at?_error]
  change some (Json.optionalString failure.code) = _
  rw [coded]
  rfl

namespace Command

open GraphConsole.Failure

/-- What comes of having a text explained in a world: the explanation of a kind, under its code. -/
def Explains (text code : String) (kind : Kind) : Prop :=
  ∀ world, runIn (explain text) world =
    (.ok (.errorExplanation ("**" ++ code ++ "**\n\n" ++ kind.explanation)), world)

theorem explains_of_code {text code : String} {kind : Kind} (coded : kind.code = some code)
    (found : Kind.ofCode? text = some kind) : Explains text code kind := by
  have canonical : some (Kind.canonical text) = some code :=
    ((Kind.ofCode?_eq_some_iff text kind).mp found).symm.trans coded
  intro world
  rw [explain, explanationOf, found]
  dsimp only
  rw [Option.some.inj canonical]
  exact runIn_pure _

theorem runIn_explain_unknown {text : String} (unknown : Kind.ofCode? text = none) (world : World) :
    runIn (explain text) world = (.error (.failure (.unknownErrorCode text)), world) := by
  rw [explain, explanationOf, unknown]
  exact runIn_throw _

/-- A text is explained just when it is a code but for blanks around it and the case of its letter,
and in the same way for all its spellings; unclassified failures have no code. Whatever is shown as
the code of a failure is explained by the kind of this failure. -/
theorem explain_answers (text : String) :
    (∀ kind, Kind.ofCode? text = some kind ↔ kind.code = some (Kind.canonical text)) ∧
      (∀ kind, Kind.ofCode? text = some kind ↔ Kind.Spells text kind) ∧
      Kind.ofCode? text ≠ some .unclassified ∧
      (∀ kind, Kind.ofCode? text = some kind → kind.explanation ≠ "" ∧
        ∃ code, kind.code = some code ∧ Explains text code kind) ∧
      (Kind.ofCode? text = none → ∀ world,
        runIn (explain text) world = (.error (.failure (.unknownErrorCode text)), world)) ∧
      ∀ (failure : Failure) (code : String), failure.code = some code →
        failure.ShowsCode code ∧ Explains code code failure.kind := by
  have decides := Kind.ofCode?_eq_some_iff text
  refine ⟨decides, fun kind => (decides kind).trans (Kind.code_eq_canonical_iff text kind), ?_, ?_,
    runIn_explain_unknown, ?_⟩
  · intro found
    cases (decides .unclassified).mp found
  · intro kind found
    have coded := (decides kind).mp found
    exact ⟨Kind.explanation_ne coded, _, coded, explains_of_code coded found⟩
  · intro failure code coded
    exact ⟨Failure.showsCode coded, explains_of_code coded (Kind.ofCode?_code coded)⟩

end Command

end GraphConsole
