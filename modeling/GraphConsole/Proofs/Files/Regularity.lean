import GraphConsole.Proofs.Files.Growth
import Mathlib.Data.List.Nodup

/-! Trees as a file system holds them: a place has one entry, and that stands in a directory. Making
directories and writing files keep them so, whether they come to an end or not. -/

namespace GraphConsole.Files

namespace Tree

variable {tree before middle after : Tree} {path : Path} {name : String}
variable {here location : Location}

structure Regular (tree : Tree) : Prop where
  distinct : (tree.entries.map Prod.fst).Nodup
  rooted : ∀ place ∈ tree.entries.map Prod.fst, tree.find? place.dropLast = some .directory

def Missing (tree : Tree) (places : List Location) : Prop :=
  ∃ place ∈ places, tree.find? place = none

theorem not_missing {places : List Location} (present : ¬ tree.Missing places) :
    ∀ place ∈ places, tree.find? place ≠ none :=
  fun place member missing => present ⟨place, member, missing⟩

/-- Where nothing is missing nothing is made. -/
theorem Grown.eq_of_not_missing {places : List Location} (grown : Grown places before after)
    (present : ¬ before.Missing places) : after = before :=
  grown.eq_of_present (Tree.not_missing present)

namespace Regular

theorem parent_of_find? (regular : tree.Regular) {entry : Entry}
    (found : tree.find? location = some entry) :
    tree.find? location.dropLast = some .directory := by
  cases outward : location.isOutward with
  | true =>
      rw [Location.isOutward, List.all_eq_true] at outward
      apply find?_of_outward
      rw [Location.isOutward, List.all_eq_true]
      exact fun name member => outward name (List.dropLast_subset location member)
  | false =>
      exact regular.rooted location (List.mem_map_of_mem (mem_entries_of_find? outward found))

/-- What leads to a place where something stands is a directory. -/
theorem directory_above (regular : tree.Regular) {rest : List String} {entry : Entry}
    (below : rest ≠ []) (found : tree.find? (here ++ rest) = some entry) :
    tree.find? here = some .directory := by
  induction rest using List.reverseRecOn generalizing entry with
  | nil => exact absurd rfl below
  | append_singleton front last induction =>
      have parent := regular.parent_of_find? found
      rw [← List.append_assoc, List.dropLast_concat] at parent
      cases front with
      | nil => rwa [List.append_nil] at parent
      | cons first others => exact induction (List.cons_ne_nil first others) parent

theorem none_below (regular : tree.Regular) (noDirectory : tree.find? here ≠ some .directory)
    {rest : List String} (below : rest ≠ []) : tree.find? (here ++ rest) = none := by
  cases found : tree.find? (here ++ rest) with
  | none => rfl
  | some entry => exact absurd (regular.directory_above below found) noDirectory

theorem directories_of_none (regular : tree.Regular) (missing : tree.find? here = none) :
    tree.directories here = [] := by
  have none : tree.children here = [] := by
    rw [children, List.filterMap_eq_nil_iff]
    rintro ⟨place, entry⟩ member
    have parent := regular.rooted place (List.mem_map_of_mem member)
    refine if_neg ?_
    rintro rfl
    rw [missing] at parent
    cases parent
  rw [directories, none]
  rfl

theorem nodup_directories (regular : tree.Regular) (here : Location) :
    (tree.directories here).Nodup := by
  have names : (tree.children here).map Prod.fst = (tree.entries.map Prod.fst).filterMap
      fun place => if place.dropLast = here then place.getLast? else none := by
    rw [children, List.map_filterMap, List.filterMap_map]
    refine List.filterMap_congr ?_
    rintro ⟨place, entry⟩ _
    dsimp only [Function.comp_apply]
    split
    · simp [Option.map_map, Function.comp_def]
    · rfl
  have told : ∀ place name, name ∈ (if place.dropLast = here then place.getLast? else none) →
      place = here ++ [name] := by
    intro place name member
    split at member
    · next parent =>
        rw [← List.dropLast_append_getLast? name member, parent]
    · cases member
  have nodup : ((tree.children here).map Prod.fst).Nodup := by
    rw [names]
    exact List.Nodup.filterMap (fun first second name member memberToo =>
      (told first name member).trans (told second name memberToo).symm) regular.distinct
  exact nodup.sublist (List.filter_sublist.map Prod.fst)

/-- Into a directory that is there something can be put, but for a file instead of a directory. -/
theorem put (regular : tree.Regular) {entry : Entry}
    (parent : tree.find? location.dropLast = some .directory)
    (spared : entry = .directory ∨ tree.find? location ≠ some .directory) :
    (tree.put location entry).Regular := by
  have kept : ∀ place, tree.find? place = some .directory →
      (tree.put location entry).find? place = some .directory := by
    intro place found
    by_cases same : place = location
    · subst same
      rcases spared with rfl | free
      · exact find?_put_directory tree place
      · exact absurd found free
    · rwa [find?_put_of_ne same]
  constructor
  case distinct => exact Entries.nodup_put location entry regular.distinct
  case rooted =>
    intro place member
    apply kept
    rw [Tree.put, Entries.keys_put] at member
    split at member
    · exact regular.rooted place member
    · rcases List.mem_append.mp member with old | new
      · exact regular.rooted place old
      · rwa [List.mem_singleton.mp new]

end Regular

/-! Directories that are made, and what is there if that fails. -/

/-- What is left by an attempt to make a directory with all that lead to it. Should it fail, the
last of them is not made. -/
structure Attempt (path : Path) (before : Tree) (answer : Except Trouble Unit × Tree) : Prop where
  grown : Grown path.way before answer.2
  regular : before.Regular → answer.2.Regular
  made : answer.1 = .ok () → path.Fits ∧ answer.2.Open path.way
  failed : ∀ trouble, answer.1 = .error trouble → Grown path.parent.way before answer.2

theorem grown_of_makeDirectory (made : tree.makeDirectory path = .ok after) :
    Grown path.way tree after ∧ (tree.Regular → after.Regular) ∧
      path.Fits ∧ after.Open path.way := by
  rw [makeDirectory] at made
  split at made
  · cases made
  · next noNul =>
    split at made
    · cases made
    · next location located =>
      obtain rfl := place_of_locate located
      have fits := fits_of_locate (by simpa using noNul) located
      split at made
      · cases made
      · next absent =>
        obtain rfl := Except.ok.inj made
        rcases path.noParts_or_child with none | ⟨parent, name, rfl⟩
        · rw [Path.place, none, Location.follow,
            find?_of_outward (Location.isOutward_start path)] at absent
          cases absent
        · have opened : tree.Open parent.way := open_of_locate located
          have settled := settled_of_open opened
          have named : name ≠ ".." := by
            rintro rfl
            rw [Path.place_child_up, settled.parent _ (List.prefix_refl _)] at absent
            cases absent
          have last : (parent.child name).place ∈ (parent.child name).way := by
            simp [Path.way_child parent named, Path.place_child parent named]
          have grown : Grown (parent.child name).way tree _ := .put last absent
          refine ⟨grown, fun regular => regular.put ?_ (.inl rfl), fits, ?_⟩
          · rw [Path.place_child parent named, List.dropLast_concat]
            exact settled _ (List.prefix_refl _)
          · rw [Path.way_child parent named, ← Path.place_child parent named]
            exact List.forall_mem_append.mpr
              ⟨grown.opened opened, List.forall_mem_singleton.mpr (find?_put_directory tree _)⟩

theorem attempt_ensureDirectory (tree : Tree) (path : Path) :
    Attempt path tree (tree.ensureDirectory path) := by
  have refused (trouble : Trouble) : Attempt path tree (.error trouble, tree) :=
    ⟨.refl _ tree, id, fun made => (by cases made), fun _ _ => .refl _ tree⟩
  rw [ensureDirectory]
  split
  · next made =>
      obtain ⟨grown, regular, done⟩ := grown_of_makeDirectory made
      exact ⟨grown, regular, fun _ => done, fun _ failed => (by cases failed)⟩
  · exact refused .nulInPath
  · split
    · next present =>
        exact ⟨.refl _ tree, id, fun _ => open_of_isDirectory present,
          fun _ failed => (by cases failed)⟩
    · exact refused _
    · exact refused _

theorem attempt_ensureParts (tree : Tree) (anchor : Anchor) (backward : List String) :
    Attempt ⟨anchor, backward.reverse⟩ tree (tree.ensureParts anchor backward) := by
  induction backward with
  | nil => exact attempt_ensureDirectory tree ⟨anchor, []⟩
  | cons last before induction =>
      have path : (⟨anchor, (last :: before).reverse⟩ : Path) =
          Path.child ⟨anchor, before.reverse⟩ last := by
        rw [List.reverse_cons]
        rfl
      have earlier := Path.way_subset_child ⟨anchor, before.reverse⟩ last
      have parent := Path.parent_child ⟨anchor, before.reverse⟩ last
      rw [ensureParts, path]
      split
      · generalize tree.ensureParts anchor before = answer at induction ⊢
        obtain ⟨outcome, middle⟩ := answer
        cases outcome with
        | ok _ =>
            -- the directories before the last are there now
            have next := attempt_ensureDirectory middle (Path.child ⟨anchor, before.reverse⟩ last)
            constructor
            case grown => exact (induction.grown.mono earlier).trans next.grown
            case regular => exact fun regular => next.regular (induction.regular regular)
            case made => exact next.made
            case failed =>
              intro trouble failed
              have more := next.failed trouble failed
              rw [parent] at more ⊢
              exact induction.grown.trans more
        | error trouble =>
            refine ⟨induction.grown.mono earlier, induction.regular, fun made => (by cases made),
              fun _ _ => ?_⟩
            rw [parent]
            exact induction.grown
      · exact attempt_ensureDirectory tree _

theorem attempt_ensureDirectories (tree : Tree) (path : Path) :
    Attempt path tree (tree.ensureDirectories path) := by
  obtain ⟨anchor, parts⟩ := path
  have attempt := attempt_ensureParts tree anchor parts.reverse
  rwa [List.reverse_reverse] at attempt

/-! Files that are written. -/

theorem put_of_writeText {text : String} (written : tree.writeText path text = .ok after) :
    path.Fits ∧ tree.locate path = .ok path.place ∧ tree.find? path.place ≠ some .directory ∧
      after = tree.put path.place (.file (Text.Utf8.encode text.toList)) := by
  rw [writeText, writeOctets] at written
  split at written
  · cases written
  · next noNul =>
    split at written
    · cases written
    · next location located =>
      obtain rfl := place_of_locate located
      split at written
      · cases written
      · next free =>
        exact ⟨fits_of_locate (by simpa using noNul) located, located, free,
          (Except.ok.inj written).symm⟩

/-- In a directory that is there, a file with a short name is written unless the path has no room
for the name or a directory has its place. -/
theorem writeText_error (opened : tree.Open path.way) (fits : path.Fits)
    (noNul : name.toList.contains '\x00' = false) (short : name.utf8ByteSize ≤ 255)
    {text : String} {trouble : Trouble}
    (failed : tree.writeText (path.child name) text = .error trouble) :
    4096 ≤ (path.child name).toText.utf8ByteSize ∨
      tree.find? (path.child name).place = some .directory := by
  by_cases room : 4096 ≤ (path.child name).toText.utf8ByteSize
  · exact .inl room
  · by_cases found : tree.find? (path.child name).place = some .directory
    · exact .inr found
    · have whole : (path.child name).Fits := by
        refine ⟨by rw [Path.holdsNul_child, fits.noNul, noNul, Bool.or_false], ?_, by omega⟩
        exact List.forall_mem_append.mpr ⟨fits.short, List.forall_mem_singleton.mpr short⟩
      rw [writeText_of_open opened whole found] at failed
      cases failed

end Tree

end GraphConsole.Files
