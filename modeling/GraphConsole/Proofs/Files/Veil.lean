import GraphConsole.Proofs.Files.Growth
import Mathlib.Data.List.Forall2

/-! Two trees that differ in the content of one file. Only who reads that very file can tell them
apart, and whatever is done to both leaves them as they were or takes the difference away. -/

namespace GraphConsole.Files

open GraphConsole.Text

/-- A file and two contents of it. -/
structure Veil where
  place : Location
  first : List UInt8
  second : List UInt8

namespace Veil

/-- None of the paths leads to the veiled file, or there is nothing behind the veil. -/
def Spares (veil : Veil) (paths : List Path) : Prop :=
  ∀ path ∈ paths, path.place = veil.place → veil.first = veil.second

variable {veil : Veil} {left right : Tree}

inductive Hides (veil : Veil) : Location × Entry → Location × Entry → Prop
  | same (entry : Location × Entry) : Hides veil entry entry
  | veiled : Hides veil (veil.place, .file veil.first) (veil.place, .file veil.second)

theorem hides_mk (place : Location) (first second : List UInt8) :
    Hides ⟨place, first, second⟩ (place, .file first) (place, .file second) :=
  .veiled

/-- Behind the veil the trees are the same: they differ at most in the content of its file. -/
def Covers (veil : Veil) (left right : Tree) : Prop :=
  List.Forall₂ veil.Hides left.entries right.entries

theorem covers_refl (veil : Veil) (tree : Tree) : veil.Covers tree tree :=
  List.forall₂_same.mpr fun entry _ => .same entry

/-- A veil over nothing. -/
theorem Covers.eq (covers : veil.Covers left right) (same : veil.first = veil.second) :
    left = right := by
  obtain ⟨entries⟩ := left
  obtain ⟨others⟩ := right
  congr 1
  refine List.forall₂_eq_eq_eq ▸ covers.imp ?_
  rintro _ _ (_ | _)
  · rfl
  · rw [same]

namespace Covers

theorem find?_cases (covers : veil.Covers left right) (location : Location) :
    right.find? location = left.find? location ∨
      location = veil.place ∧ left.find? location = some (.file veil.first) ∧
        right.find? location = some (.file veil.second) := by
  obtain ⟨entries⟩ := left
  obtain ⟨others⟩ := right
  unfold Tree.find?
  split
  · exact .inl rfl
  · change List.Forall₂ veil.Hides entries others at covers
    induction covers with
    | nil => exact .inl rfl
    | @cons entry _ _ _ hides _ induction =>
        obtain ⟨place, old⟩ := entry
        cases hides with
        | same =>
            rw [List.lookup_cons, List.lookup_cons]
            split
            · exact .inl rfl
            · exact induction
        | veiled =>
            rw [List.lookup_cons, List.lookup_cons]
            split
            · next same => exact .inr ⟨eq_of_beq same, rfl, rfl⟩
            · exact induction

theorem walk_eq (covers : veil.Covers left right) (here : Location) (parts : List String) :
    right.walk here parts = left.walk here parts := by
  induction parts generalizing here with
  | nil => rfl
  | cons name rest induction =>
      simp only [Tree.walk, induction]
      rcases covers.find?_cases (here ++ [name]) with same | ⟨_, first, second⟩
      · rw [same]
      · rw [first, second]

theorem locate_eq (covers : veil.Covers left right) (path : Path) :
    right.locate path = left.locate path := by
  rw [Tree.locate, Tree.locate, covers.walk_eq]

theorem status_cases (covers : veil.Covers left right) (path : Path) :
    right.status path = left.status path ∨
      path.place = veil.place ∧ left.status path = .ok (.file veil.first) ∧
        right.status path = .ok (.file veil.second) := by
  unfold Tree.status
  rw [covers.locate_eq]
  cases located : left.locate path with
  | error error => exact .inl rfl
  | ok location =>
      rcases covers.find?_cases location with same | ⟨here, first, second⟩
      · exact .inl (by simp only [same])
      · refine .inr ⟨(Tree.place_of_locate located).symm.trans here, ?_, ?_⟩
        · simp only [first]
        · simp only [second]

theorem inspect_cases (covers : veil.Covers left right) (path : Path) :
    right.inspect path = left.inspect path ∨
      ∃ first second, left.inspect path = .ok (some (.file first)) ∧
        right.inspect path = .ok (some (.file second)) := by
  unfold Tree.inspect
  split
  · exact .inl rfl
  · rcases covers.status_cases path with same | ⟨_, first, second⟩
    · rw [same]
      exact .inl rfl
    · rw [first, second]
      exact .inr ⟨_, _, rfl, rfl⟩

theorem isDirectory_eq (covers : veil.Covers left right) (path : Path) :
    right.isDirectory path = left.isDirectory path := by
  rw [Tree.isDirectory, Tree.isDirectory]
  rcases covers.inspect_cases path with same | ⟨first, second, one, two⟩
  · rw [same]
  · rw [one, two]
    rfl

/-- Names and directories at a place, the same on both sides. -/
theorem children_eq (covers : veil.Covers left right) (here : Location) :
    (right.children here).map (fun (name, entry) => (name, entry == Entry.directory)) =
      (left.children here).map fun (name, entry) => (name, entry == Entry.directory) := by
  obtain ⟨entries⟩ := left
  obtain ⟨others⟩ := right
  change List.Forall₂ veil.Hides entries others at covers
  simp only [Tree.children]
  induction covers with
  | nil => rfl
  | cons hides _ induction =>
      rw [List.filterMap_cons, List.filterMap_cons]
      cases hides with
      | same =>
          split
          · exact induction
          · rw [List.map_cons, List.map_cons, induction]
      | veiled =>
          by_cases child : veil.place.dropLast = here
          · cases veil.place.getLast? with
            | none => simpa [child] using induction
            | some name => simpa [child] using induction
          · simp only [if_neg child, induction]

theorem directories_eq (covers : veil.Covers left right) (here : Location) :
    right.directories here = left.directories here := by
  have same := covers.children_eq here
  have told (tree : Tree) : tree.directories here =
      (((tree.children here).map fun (name, entry) => (name, entry == Entry.directory)).filter
        Prod.snd).map Prod.fst := by
    rw [List.filter_map, List.map_map, Tree.directories]
    rfl
  rw [told, told, same]

theorem isEmptyAt_eq (covers : veil.Covers left right) (path : Path) :
    right.isEmptyAt path = left.isEmptyAt path := by
  have same (here : Location) : (right.children here).isEmpty = (left.children here).isEmpty := by
    rw [← List.isEmpty_map, covers.children_eq here, List.isEmpty_map]
  unfold Tree.isEmptyAt
  rw [covers.locate_eq]
  cases left.locate path with
  | error error => rfl
  | ok location => simp only [same]

theorem octets_cases (covers : veil.Covers left right) (path : Path) :
    right.octets path = left.octets path ∨
      path.place = veil.place ∧ left.octets path = .ok veil.first ∧
        right.octets path = .ok veil.second := by
  unfold Tree.octets
  split
  · exact .inl rfl
  · rcases covers.status_cases path with same | ⟨here, first, second⟩
    · rw [same]
      exact .inl rfl
    · rw [first, second]
      exact .inr ⟨here, rfl, rfl⟩

/-- Who does not read the veiled file reads the same. -/
theorem text_eq (covers : veil.Covers left right) {path : Path}
    (spared : path.place = veil.place → veil.first = veil.second) :
    right.text path = left.text path := by
  rw [Tree.text, Tree.text]
  rcases covers.octets_cases path with same | ⟨here, first, second⟩
  · rw [same]
  · rw [first, second, spared here]

theorem statusOfText_cases (covers : veil.Covers left right) (text : String) :
    right.statusOfText text = left.statusOfText text ∨
      ∃ first second, left.statusOfText text = .ok (.file first) ∧
        right.statusOfText text = .ok (.file second) := by
  unfold Tree.statusOfText
  split
  · exact .inl rfl
  · rcases covers.status_cases (Path.ofText text) with same | ⟨_, first, second⟩
    · rw [same]
      exact .inl rfl
    · simp only [first, second]
      split
      · exact .inl rfl
      · exact .inl rfl
      · exact .inr ⟨_, _, rfl, rfl⟩

/-! Changes. -/

theorem put (covers : veil.Covers left right) {location : Location} {first second : Entry}
    (hides : veil.Hides (location, first) (location, second)) :
    veil.Covers (left.put location first) (right.put location second) := by
  obtain ⟨entries⟩ := left
  obtain ⟨others⟩ := right
  change List.Forall₂ veil.Hides entries others at covers
  change List.Forall₂ veil.Hides (Entries.put location first entries)
    (Entries.put location second others)
  induction covers with
  | nil => exact .cons hides .nil
  | @cons entry other _ _ hidden rest induction =>
      have same : other.1 = entry.1 := by
        cases hidden <;> rfl
      obtain ⟨place, old⟩ := entry
      obtain ⟨_, older⟩ := other
      obtain rfl := same
      rw [Entries.put, Entries.put]
      split
      · next here =>
          subst here
          exact .cons hides rest
      · exact .cons hidden induction

end Covers

/-- Two trees that were made in one way, or could not be made for one reason. -/
inductive Made (veil : Veil) : Except Trouble Tree → Except Trouble Tree → Prop
  | failed (trouble : Trouble) : Made veil (.error trouble) (.error trouble)
  | done {left right : Tree} (covers : veil.Covers left right) : Made veil (.ok left) (.ok right)

/-- The same answer, with trees behind it that may still be told apart by the veiled file only. -/
structure SameAnswer (veil : Veil) (left right : Except ε α × Tree) : Prop where
  answer : left.1 = right.1
  covers : veil.Covers left.2 right.2

namespace Covers

theorem makeDirectory (covers : veil.Covers left right) (path : Path) :
    veil.Made (left.makeDirectory path) (right.makeDirectory path) := by
  unfold Tree.makeDirectory
  split
  · exact .failed _
  · rw [covers.locate_eq]
    cases left.locate path with
    | error error => exact .failed _
    | ok location =>
        rcases covers.find?_cases location with same | ⟨_, first, second⟩
        · simp only [same]
          split
          · exact .failed _
          · exact .done (covers.put (.same _))
        · simp only [first, second]
          exact .failed _

theorem writeOctets (covers : veil.Covers left right) (path : Path) {first second : List UInt8}
    (hides : veil.Hides (path.place, .file first) (path.place, .file second)) :
    veil.Made (left.writeOctets path first) (right.writeOctets path second) := by
  unfold Tree.writeOctets
  split
  · exact .failed _
  · rw [covers.locate_eq]
    cases located : left.locate path with
    | error error => exact .failed _
    | ok location =>
        obtain rfl := Tree.place_of_locate located
        rcases covers.find?_cases path.place with same | ⟨_, one, two⟩
        · simp only [same]
          split
          · exact .failed _
          · exact .done (covers.put hides)
        · simp only [one, two]
          exact .done (covers.put hides)

theorem ensureDirectory (covers : veil.Covers left right) (path : Path) :
    veil.SameAnswer (left.ensureDirectory path) (right.ensureDirectory path) := by
  have made := covers.makeDirectory path
  unfold Tree.ensureDirectory
  rw [covers.isDirectory_eq]
  generalize left.makeDirectory path = one at made ⊢
  generalize right.makeDirectory path = two at made ⊢
  cases made with
  | done covers => exact ⟨rfl, covers⟩
  | failed trouble =>
      cases trouble with
      | nulInPath => exact ⟨rfl, covers⟩
      | _ =>
          dsimp only
          split <;> exact ⟨rfl, covers⟩

theorem ensureParts (covers : veil.Covers left right) (anchor : Anchor) (backward : List String) :
    veil.SameAnswer (left.ensureParts anchor backward) (right.ensureParts anchor backward) := by
  induction backward with
  | nil => exact covers.ensureDirectory _
  | cons last before induction =>
      have made := covers.makeDirectory ⟨anchor, (last :: before).reverse⟩
      have whole := covers.ensureDirectory ⟨anchor, (last :: before).reverse⟩
      rw [Tree.ensureParts, Tree.ensureParts]
      generalize left.makeDirectory ⟨anchor, (last :: before).reverse⟩ = one at made ⊢
      generalize right.makeDirectory ⟨anchor, (last :: before).reverse⟩ = two at made ⊢
      cases made with
      | done => exact whole
      | failed trouble =>
          split
          · obtain ⟨same, covers⟩ := induction
            generalize left.ensureParts anchor before = early at same covers ⊢
            generalize right.ensureParts anchor before = other at same covers ⊢
            obtain ⟨answer, _⟩ := early
            obtain ⟨_, _⟩ := other
            obtain rfl := same
            cases answer with
            | ok => exact covers.ensureDirectory _
            | error trouble => exact ⟨rfl, covers⟩
          · exact whole

theorem ensureDirectories (covers : veil.Covers left right) (path : Path) :
    veil.SameAnswer (left.ensureDirectories path) (right.ensureDirectories path) :=
  covers.ensureParts path.anchor path.parts.reverse

end Covers

end Veil

end GraphConsole.Files
