import GraphConsole.Proofs.Files.Ways
import GraphConsole.Proofs.Text.Cuts

/-! Making a directory with all that are missing on the way to it. The tree keeps what it had, and
gets these directories behind it. -/

namespace GraphConsole

open GraphConsole.Files

namespace Text

theorem joined_concat (mark last : String) {pieces : List String} (someFront : pieces ≠ []) :
    joined mark (pieces ++ [last]) = joined mark pieces ++ mark ++ last := by
  have someTexts : pieces.map String.toList ≠ [] := by simpa using someFront
  rw [joined, List.map_append, List.map_singleton, join_concat _ _ someTexts]
  simp only [joined, String.ofList_append, String.ofList_toList]

end Text

namespace Files

open GraphConsole.Text

namespace Path

/-- The places on the way along a path, the last of them where it leads. -/
def way (path : Path) : List Location :=
  (Location.start path).way path.parts

def place (path : Path) : Location :=
  (Location.start path).follow path.parts

theorem place_child (path : Path) {name : String} (named : name ≠ "..") :
    (path.child name).place = path.place ++ [name] :=
  Location.follow_named _ _ named

theorem way_child (path : Path) {name : String} (named : name ≠ "..") :
    (path.child name).way = path.way ++ [path.place ++ [name]] :=
  Location.way_named _ _ named

theorem way_child_up (path : Path) : (path.child "..").way = path.way := by
  rw [way, parts_child, Location.way_append, Location.way, if_pos rfl, Location.way,
    List.append_nil]
  rfl

theorem place_child_up (path : Path) : (path.child "..").place = path.place.parent := by
  rw [place, parts_child, Location.follow_append]
  rfl

theorem way_subset_child (path : Path) (name : String) : path.way ⊆ (path.child name).way := by
  rw [way, way, parts_child, Location.way_append]
  exact List.subset_append_left _ _

theorem noParts_or_child (path : Path) :
    path.parts = [] ∨ ∃ parent name, path = child parent name := by
  obtain ⟨anchor, parts⟩ := path
  rcases List.eq_nil_or_concat parts with none | ⟨front, name, rfl⟩
  · exact .inl none
  · exact .inr ⟨⟨anchor, front⟩, name, by simp [child]⟩

theorem toText_child (path : Path) (name : String) :
    (path.child name).toText =
      if path.parts = [] then path.anchor.toText ++ name else path.toText ++ "/" ++ name := by
  obtain ⟨anchor, parts⟩ := path
  cases parts with
  | nil => cases anchor <;> simp [child, toText, joined]
  | cons first rest =>
      have joined := joined_concat "/" name (List.cons_ne_nil first rest)
      rw [List.cons_append] at joined
      cases anchor <;> simp [child, toText, joined, String.append_assoc]

theorem toText_of_noParts {path : Path} (noParts : path.parts = []) :
    path.toText = "." ∧ path.anchor.toText = "" ∨ path.toText = path.anchor.toText := by
  obtain ⟨anchor, parts⟩ := path
  obtain rfl : parts = [] := noParts
  cases anchor <;> simp [toText, Anchor.toText, joined]

theorem size_toText_child_of_parts {path : Path} (someParts : path.parts ≠ []) (name : String) :
    (path.child name).toText.utf8ByteSize =
      path.toText.utf8ByteSize + 1 + name.utf8ByteSize := by
  rw [toText_child, if_neg someParts, String.utf8ByteSize_append, String.utf8ByteSize_append]
  rfl

theorem size_toText_child (path : Path) (name : String) :
    (path.child name).toText.utf8ByteSize ≤ path.toText.utf8ByteSize + 1 + name.utf8ByteSize := by
  by_cases noParts : path.parts = []
  · rw [toText_child, if_pos noParts]
    rcases toText_of_noParts noParts with ⟨_, empty⟩ | same
    · rw [empty, String.utf8ByteSize_append]
      simp
    · rw [same, String.utf8ByteSize_append]
      omega
  · exact Nat.le_of_eq (size_toText_child_of_parts noParts name)

/-- What the system takes as a path. -/
structure Fits (path : Path) : Prop where
  noNul : path.holdsNul = false
  short : ∀ part ∈ path.parts, part.utf8ByteSize ≤ 255
  room : path.toText.utf8ByteSize < 4096

theorem room_of_child {path : Path} {name : String}
    (room : (path.child name).toText.utf8ByteSize < 4096) : path.toText.utf8ByteSize < 4096 := by
  rw [toText_child] at room
  split at room
  · next noParts =>
      rcases toText_of_noParts noParts with ⟨dot, _⟩ | same
      · rw [dot]
        decide
      · rw [same]
        cases path.anchor <;> decide
  · rw [String.utf8ByteSize_append, String.utf8ByteSize_append] at room
    omega

theorem holdsNul_child (path : Path) (name : String) :
    (path.child name).holdsNul = (path.holdsNul || name.toList.contains '\x00') := by
  rw [holdsNul, parts_child, List.any_append, ← holdsNul, List.any_cons, List.any_nil,
    Bool.or_false]

theorem Fits.of_child {path : Path} {name : String} (fits : (path.child name).Fits) :
    path.Fits where
  noNul := by
    have noNul := fits.noNul
    rw [holdsNul_child, Bool.or_eq_false_iff] at noNul
    exact noNul.1
  short part member := fits.short part (List.mem_append_left _ member)
  room := room_of_child fits.room

theorem Fits.child {path : Path} {name : String} (fits : path.Fits)
    (noNul : name.toList.contains '\x00' = false) (short : name.utf8ByteSize ≤ 255)
    (room : path.toText.utf8ByteSize + 1 + name.utf8ByteSize < 4096) : (path.child name).Fits where
  noNul := by rw [holdsNul_child, fits.noNul, noNul, Bool.or_false]
  short part member := by
    rcases List.mem_append.mp member with before | last
    · exact fits.short part before
    · rwa [List.mem_singleton.mp last]
  room := Nat.lt_of_le_of_lt (size_toText_child path name) room

end Path

namespace Tree

/-- The tree after is the tree before and further directories, at some of the places. -/
def Grown (places : List Location) (before after : Tree) : Prop :=
  ∃ added : List Location, added.Nodup ∧
    (∀ place ∈ added, place ∈ places ∧ before.find? place = none) ∧
    after.entries = before.entries ++ added.map fun place => (place, .directory)

namespace Grown

variable {places others : List Location} {before middle after : Tree}

theorem refl (places : List Location) (tree : Tree) : Grown places tree tree :=
  ⟨[], List.nodup_nil, nofun, by simp⟩

theorem find?_eq {added : List Location}
    (grown : after.entries = before.entries ++ added.map fun place => (place, Entry.directory))
    (location : Location) :
    after.find? location =
      (before.find? location).or (if location ∈ added then some .directory else none) := by
  have told : (added.map fun place => (place, Entry.directory)).lookup location =
      if location ∈ added then some .directory else none := by
    clear grown
    induction added with
    | nil => rfl
    | cons place rest induction =>
        rw [List.map_cons, List.lookup_cons, induction]
        by_cases same : location = place
        · simp [same]
        · simp [same, beq_eq_false_iff_ne.mpr same]
  unfold find?
  split
  · rfl
  · rw [grown, List.lookup_append, told]

theorem find?_of_some (grown : Grown places before after) {location : Location} {entry : Entry}
    (found : before.find? location = some entry) : after.find? location = some entry := by
  obtain ⟨added, _, _, grown⟩ := grown
  rw [find?_eq grown, found, Option.some_or]

theorem find?_of_notMem (grown : Grown places before after) {location : Location}
    (apart : location ∉ places) : after.find? location = before.find? location := by
  obtain ⟨added, _, new, grown⟩ := grown
  have absent : location ∉ added := fun member => apart (new location member).1
  rw [find?_eq grown, if_neg absent, Option.or_none]

theorem kept_or (grown : Grown places before after) (location : Location) :
    after.find? location = before.find? location ∨
      location ∈ places ∧ before.find? location = none ∧
        after.find? location = some .directory := by
  obtain ⟨added, _, new, grown⟩ := grown
  rw [find?_eq grown]
  split
  · next member =>
      obtain ⟨way, missing⟩ := new location member
      exact .inr ⟨way, missing, by rw [missing, Option.none_or]⟩
  · exact .inl Option.or_none

theorem directory_or (grown : Grown places before after) (location : Location) :
    after.find? location = before.find? location ∨ after.find? location = some .directory :=
  (grown.kept_or location).imp_right fun made => made.2.2

theorem opened (grown : Grown places before after) (opened : before.Open others) :
    after.Open others :=
  fun place member => grown.find?_of_some (opened place member)

theorem clear (grown : Grown places before after) (clear : before.Clear others) :
    after.Clear others := by
  intro place member octets file
  rcases grown.directory_or place with same | made
  · exact clear place member octets (same ▸ file)
  · rw [made] at file
    cases file

theorem trans (first : Grown places before middle) (second : Grown places middle after) :
    Grown places before after := by
  obtain ⟨early, earlyNodup, earlyNew, earlyGrown⟩ := first
  obtain ⟨late, lateNodup, lateNew, lateGrown⟩ := second
  have absent : ∀ place ∈ late, before.find? place = none ∧ place ∉ early := by
    intro place member
    have new := (lateNew place member).2
    rw [find?_eq earlyGrown, Option.or_eq_none_iff] at new
    exact ⟨new.1, fun made => by simp [made] at new⟩
  refine ⟨early ++ late, ?_, ?_, by simp [lateGrown, earlyGrown]⟩
  · refine List.nodup_append.mpr ⟨earlyNodup, lateNodup, ?_⟩
    rintro place made _ member rfl
    exact (absent place member).2 made
  · intro place member
    rcases List.mem_append.mp member with made | member
    · exact earlyNew place made
    · exact ⟨(lateNew place member).1, (absent place member).1⟩

theorem mono (grown : Grown places before after) (more : places ⊆ others) :
    Grown others before after := by
  obtain ⟨added, nodup, new, grown⟩ := grown
  exact ⟨added, nodup, fun place member => ⟨more (new place member).1, (new place member).2⟩, grown⟩

theorem eq_of_present (grown : Grown places before after)
    (present : ∀ place ∈ places, before.find? place ≠ none) : after = before := by
  obtain ⟨added, _, new, grown⟩ := grown
  have none : added = [] := by
    rw [List.eq_nil_iff_forall_not_mem]
    exact fun place member => present place (new place member).1 (new place member).2
  rw [none, List.map_nil, List.append_nil] at grown
  cases after
  cases before
  exact congrArg Tree.mk grown

theorem put {location : Location} (member : location ∈ places)
    (absent : before.find? location = none) :
    Grown places before (before.put location .directory) := by
  refine ⟨[location], by simp, by simpa using ⟨member, absent⟩, ?_⟩
  have missing : before.entries.lookup location = none := by
    unfold find? at absent
    split at absent
    · cases absent
    · exact absent
  simp [Tree.put, Entries.put_of_notMem _ _ _ (Entries.notMem_of_lookup missing)]

end Grown

/-! Directories in a directory. -/

def directories (tree : Tree) (here : Location) : List String :=
  ((tree.children here).filter fun (_, entry) => entry = .directory).map Prod.fst

theorem mem_entries_of_find? {tree : Tree} {location : Location} {entry : Entry}
    (inward : location.isOutward = false) (found : tree.find? location = some entry) :
    (location, entry) ∈ tree.entries := by
  rw [find?, if_neg (by simp [inward]), List.lookup_eq_some_iff] at found
  obtain ⟨before, after, entries, _⟩ := found
  simp [entries]

theorem mem_children_of_find? {tree : Tree} {here : Location} {name : String} {entry : Entry}
    (inward : (here ++ [name]).isOutward = false)
    (found : tree.find? (here ++ [name]) = some entry) :
    (name, entry) ∈ tree.children here := by
  rw [children, List.mem_filterMap]
  exact ⟨(here ++ [name], entry), mem_entries_of_find? inward found, by simp⟩

theorem mem_directories {tree : Tree} {here : Location} {name : String}
    (inward : (here ++ [name]).isOutward = false)
    (found : tree.find? (here ++ [name]) = some .directory) : name ∈ tree.directories here := by
  rw [directories, List.mem_map]
  exact ⟨(name, .directory),
    List.mem_filter.mpr ⟨mem_children_of_find? inward found, by simp⟩, rfl⟩

theorem children_put {here location : Location} (elsewhere : location.dropLast ≠ here)
    (tree : Tree) (entry : Entry) :
    (tree.put location entry).children here = tree.children here := by
  obtain ⟨entries⟩ := tree
  simp only [put, children]
  induction entries with
  | nil => simp [elsewhere]
  | cons first rest induction =>
      obtain ⟨place, old⟩ := first
      rw [Entries.put]
      split
      · next same => simp [same, elsewhere]
      · rw [List.filterMap_cons, List.filterMap_cons, induction]

theorem directories_put {here location : Location} (elsewhere : location.dropLast ≠ here)
    (tree : Tree) (entry : Entry) :
    (tree.put location entry).directories here = tree.directories here := by
  rw [directories, children_put elsewhere, directories]

/-- Of directories that are made, the one that stands here is a child. -/
theorem children_made {here : Location} {name : String} {added : List Location}
    (distinct : added.Nodup)
    (only : ∀ place ∈ added, place.dropLast = here → place = here ++ [name]) :
    children ⟨added.map fun place => (place, .directory)⟩ here =
      if here ++ [name] ∈ added then [(name, .directory)] else [] := by
  rw [children]
  induction added with
  | nil => rfl
  | cons place rest induction =>
      rw [List.nodup_cons] at distinct
      rw [List.forall_mem_cons] at only
      rw [List.map_cons, List.filterMap_cons, induction distinct.2 only.2]
      by_cases below : place.dropLast = here
      · obtain rfl := only.1 below
        simp [distinct.1]
      · have other : here ++ [name] ≠ place := by
          rintro rfl
          exact below (by simp)
        simp [below, other]

/-- At the place of the one directory that can be new there, the list of directories grows by it. -/
theorem Grown.directories_eq {places : List Location} {before after : Tree} {here : Location}
    {name : String} (grown : Grown places before after)
    (only : ∀ place ∈ places, before.find? place = none → place.dropLast = here →
      place = here ++ [name])
    (present : after.find? (here ++ [name]) = some .directory) :
    after.directories here =
      before.directories here ++ if before.find? (here ++ [name]) = none then [name] else [] := by
  obtain ⟨added, distinct, new, grown⟩ := grown
  have made : here ++ [name] ∈ added ↔ before.find? (here ++ [name]) = none := by
    refine ⟨fun member => (new _ member).2, fun absent => ?_⟩
    rw [find?_eq grown, absent, Option.none_or] at present
    split at present
    · next member => exact member
    · cases present
  have further := children_made distinct fun place member =>
    only place (new place member).1 (new place member).2
  rw [children] at further
  rw [directories, children, grown, List.filterMap_append, further, List.filter_append,
    List.map_append, directories, children]
  congr 1
  by_cases absent : before.find? (here ++ [name]) = none
  · simp [made.mpr absent, absent]
  · simp [mt made.mp absent, absent]

theorem Grown.directories_of_apart {places : List Location} {before after : Tree} {here : Location}
    (grown : Grown places before after)
    (apart : ∀ place ∈ places, before.find? place = none → place.dropLast ≠ here) :
    after.directories here = before.directories here := by
  obtain ⟨added, distinct, new, grown⟩ := grown
  have further : children ⟨added.map fun place => (place, .directory)⟩ here = [] := by
    rw [children, List.filterMap_eq_nil_iff]
    intro entry member
    obtain ⟨place, made, rfl⟩ := List.mem_map.mp member
    exact if_neg (apart place (new place made).1 (new place made).2)
  rw [children] at further
  rw [directories, children, grown, List.filterMap_append, further, List.append_nil, ← children,
    ← directories]

variable {tree : Tree} {path : Path} {name : String}

theorem settled_of_open (opened : tree.Open path.way) : tree.Settled path.place :=
  (settled_of_outward (Location.isOutward_start path)).follow opened

theorem locate_of_clear (clear : tree.Clear path.way) (fits : (path.child name).Fits) :
    tree.Open path.way ∧ tree.locate (path.child name) = .ok (path.child name).place ∨
      ¬ tree.Open path.way ∧ tree.locate (path.child name) = .error .notFound := by
  have room := fits.room
  rw [locate, if_neg (by omega)]
  exact walk_of_clear clear fits.short

theorem place_of_locate {location : Location} (located : tree.locate path = .ok location) :
    location = path.place := by
  rw [locate] at located
  split at located
  · cases located
  · exact follow_of_walk located

theorem locate_of_open (opened : tree.Open path.way) (fits : (path.child name).Fits) :
    tree.locate (path.child name) = .ok (path.child name).place := by
  rcases locate_of_clear opened.clear fits with ⟨_, located⟩ | ⟨closed, _⟩
  · exact located
  · exact absurd opened closed

/-- A path is lost at once where its first directory is missing. -/
theorem locate_of_missing {first last : String} {between : List String}
    (parts : path.parts = first :: (between ++ [last])) (named : first ≠ "..")
    (short : first.utf8ByteSize ≤ 255)
    (missing : tree.find? (Location.start path ++ [first]) = none)
    (room : path.toText.utf8ByteSize < 4096) : tree.locate path = .error .notFound := by
  rw [locate, if_neg (by omega), parts, walk_cons tree _ named short, missing]

theorem isDirectory_of_missing (located : tree.locate path = .error .notFound) :
    tree.isDirectory path = .ok false := by
  rw [isDirectory, inspect, status, located]
  split <;> rfl

theorem isDirectory_of_tooLong (located : tree.locate path = .error .nameTooLong)
    (noNul : path.holdsNul = false) :
    tree.isDirectory path = .error (.system .nameTooLong path.toText) := by
  rw [isDirectory, inspect, noNul, if_neg (by simp), status, located]
  rfl

theorem inspect_of_open (opened : tree.Open path.way) (fits : (path.child name).Fits) :
    tree.inspect (path.child name) = .ok (tree.find? (path.child name).place) := by
  rw [inspect, if_neg (by simp [fits.noNul]), status, locate_of_open opened fits]
  cases found : tree.find? (path.child name).place <;> simp [found]

theorem octets_of_open (opened : tree.Open path.way) (fits : (path.child name).Fits) :
    tree.octets (path.child name) =
      match tree.find? (path.child name).place with
      | some (.file octets) => .ok octets
      | some .directory => .error (.system .isDirectory (path.child name).toText)
      | none => .error (.system .notFound (path.child name).toText) := by
  rw [octets, if_neg (by simp [fits.noNul]), status, locate_of_open opened fits]
  rcases found : tree.find? (path.child name).place with _ | _ | octets <;> simp [found]

theorem inspect_of_closed (clear : tree.Clear path.way) (closed : ¬ tree.Open path.way)
    (fits : (path.child name).Fits) : tree.inspect (path.child name) = .ok none := by
  rcases locate_of_clear clear fits with ⟨opened, _⟩ | ⟨_, located⟩
  · exact absurd opened closed
  · rw [inspect, if_neg (by simp [fits.noNul]), status, located]

theorem isDirectory_of_open (opened : tree.Open path.way) (fits : (path.child name).Fits) :
    tree.isDirectory (path.child name) =
      .ok (tree.find? (path.child name).place == some .directory) := by
  rw [isDirectory, inspect_of_open opened fits]
  rcases tree.find? (path.child name).place with _ | _ | octets <;> rfl

theorem isDirectory_of_closed (clear : tree.Clear path.way) (closed : ¬ tree.Open path.way)
    (fits : (path.child name).Fits) : tree.isDirectory (path.child name) = .ok false := by
  rw [isDirectory, inspect_of_closed clear closed fits]
  rfl

theorem locate_of_status {entry : Entry} (found : tree.status path = .ok entry) :
    tree.locate path = .ok path.place ∧ tree.find? path.place = some entry := by
  rw [status] at found
  split at found
  · cases found
  · next located =>
      obtain rfl := place_of_locate located
      split at found
      · next stands => exact ⟨located, stands.trans (congrArg some (Except.ok.inj found))⟩
      · cases found

theorem status_of_inspect {entry : Entry} (inspected : tree.inspect path = .ok (some entry)) :
    path.holdsNul = false ∧ tree.status path = .ok entry := by
  rw [inspect] at inspected
  split at inspected
  · cases inspected
  · next noNul =>
      refine ⟨by simpa using noNul, ?_⟩
      split at inspected
      · next found stood =>
          obtain rfl : found = entry := by simpa using inspected
          exact stood
      · cases inspected
      · cases inspected
      · cases inspected

theorem inspect_of_isDirectory (present : tree.isDirectory path = .ok true) :
    tree.inspect path = .ok (some .directory) := by
  rw [isDirectory] at present
  cases told : tree.inspect path with
  | error trouble =>
      rw [told] at present
      cases present
  | ok found =>
      rw [told] at present
      rcases found with _ | _ | octets
      · cases present
      · rfl
      · cases present

theorem open_of_locate {location : Location}
    (located : tree.locate (path.child name) = .ok location) : tree.Open path.way := by
  rw [locate] at located
  split at located
  · cases located
  · exact open_of_walk located

theorem fits_of_locate {location : Location} (noNul : path.holdsNul = false)
    (located : tree.locate path = .ok location) : path.Fits := by
  rw [locate] at located
  split at located
  · cases located
  · next room => exact ⟨noNul, short_of_walk located, by omega⟩

/-- A directory that can be seen is one whose way is open as far as it. -/
theorem open_of_isDirectory (present : tree.isDirectory path = .ok true) :
    path.Fits ∧ tree.Open path.way := by
  obtain ⟨noNul, stood⟩ := status_of_inspect (inspect_of_isDirectory present)
  obtain ⟨located, found⟩ := locate_of_status stood
  refine ⟨fits_of_locate noNul located, ?_⟩
  rcases path.noParts_or_child with none | ⟨parent, name, rfl⟩
  · rw [Path.way, none]
    nofun
  · by_cases up : name = ".."
    · subst up
      rw [Path.way_child_up]
      exact open_of_locate located
    · rw [Path.way_child parent up, ← Path.place_child parent up]
      exact List.forall_mem_append.mpr
        ⟨open_of_locate located, List.forall_mem_singleton.mpr found⟩

/-- Names and paths within the limits of the system can be looked at in any tree. -/
theorem inspect_of_short (tree : Tree) (short : ∀ part ∈ path.parts, part.utf8ByteSize ≤ 255)
    (room : path.toText.utf8ByteSize < 4096) : ∃ found, tree.inspect path = .ok found := by
  rw [inspect]
  split
  · exact ⟨none, rfl⟩
  · rw [status, locate, if_neg (by omega)]
    cases walked : tree.walk (Location.start path) path.parts with
    | ok location =>
        cases found : tree.find? location with
        | some entry => exact ⟨some entry, by simp [found]⟩
        | none => exact ⟨none, by simp [found]⟩
    | error error =>
        rcases walk_error_of_short short walked with rfl | rfl
        · exact ⟨none, rfl⟩
        · exact ⟨none, rfl⟩

theorem isDirectory_of_short (tree : Tree) (short : ∀ part ∈ path.parts, part.utf8ByteSize ≤ 255)
    (room : path.toText.utf8ByteSize < 4096) : ∃ seen, tree.isDirectory path = .ok seen := by
  obtain ⟨found, inspected⟩ := inspect_of_short tree short room
  rw [isDirectory, inspected]
  exact ⟨_, rfl⟩

theorem find?_of_isDirectory (present : tree.isDirectory path = .ok true) :
    tree.find? path.place = some .directory :=
  (locate_of_status (status_of_inspect (inspect_of_isDirectory present)).2).2

theorem isDirectory_of_absent (short : ∀ part ∈ path.parts, part.utf8ByteSize ≤ 255)
    (room : path.toText.utf8ByteSize < 4096)
    (absent : tree.find? path.place ≠ some .directory) : tree.isDirectory path = .ok false := by
  obtain ⟨seen, told⟩ := isDirectory_of_short tree short room
  cases seen with
  | false => exact told
  | true => exact absurd (find?_of_isDirectory told) absent

theorem isDirectory_of_long (tree : Tree) (long : ¬ path.toText.utf8ByteSize < 4096) :
    tree.isDirectory path =
      if path.holdsNul then .ok false else .error (.system .nameTooLong path.toText) := by
  rw [isDirectory, inspect]
  split
  · rfl
  · rw [status, locate, if_pos (by omega)]
    rfl

theorem isDirectory_of_absent_both {before after : Tree}
    (short : ∀ part ∈ path.parts, part.utf8ByteSize ≤ 255)
    (absent : before.find? path.place ≠ some .directory)
    (absentToo : after.find? path.place ≠ some .directory) :
    after.isDirectory path = before.isDirectory path := by
  by_cases room : path.toText.utf8ByteSize < 4096
  · rw [isDirectory_of_absent short room absent, isDirectory_of_absent short room absentToo]
  · rw [isDirectory_of_long before room, isDirectory_of_long after room]

/-! What is seen by a path is decided by what stands on the way to it and where it leads. -/

section Agreement

variable {before after : Tree}

theorem status_congr (way : ∀ place ∈ path.way, after.find? place = before.find? place)
    (last : after.find? (path.child name).place = before.find? (path.child name).place) :
    after.status (path.child name) = before.status (path.child name) := by
  have located : after.locate (path.child name) = before.locate (path.child name) := by
    rw [locate, locate]
    split
    · rfl
    · exact walk_congr way
  rw [status, status, located]
  cases led : before.locate (path.child name) with
  | error error => rfl
  | ok location =>
      obtain rfl := place_of_locate led
      simp only [last]

theorem isDirectory_congr (way : ∀ place ∈ path.way, after.find? place = before.find? place)
    (last : after.find? (path.child name).place = before.find? (path.child name).place) :
    after.isDirectory (path.child name) = before.isDirectory (path.child name) := by
  rw [isDirectory, isDirectory, inspect, inspect, status_congr way last]

theorem text_congr (way : ∀ place ∈ path.way, after.find? place = before.find? place)
    (last : after.find? (path.child name).place = before.find? (path.child name).place) :
    after.text (path.child name) = before.text (path.child name) := by
  rw [text, text, octets, octets, status_congr way last]

end Agreement

/-! Directories that are made. -/

theorem makeDirectory_of_open (opened : tree.Open path.way) (fits : (path.child name).Fits) :
    tree.makeDirectory (path.child name) =
      match tree.find? (path.child name).place with
      | some _ => .error (.system .exists (path.child name).toText)
      | none => .ok (tree.put (path.child name).place .directory) := by
  have located := locate_of_open opened fits
  cases found : tree.find? (path.child name).place <;>
    simp [makeDirectory, fits.noNul, located, found]

theorem ensureDirectory_of_present (opened : tree.Open path.way) (fits : (path.child name).Fits)
    (present : tree.find? (path.child name).place = some .directory) :
    tree.ensureDirectory (path.child name) = (.ok (), tree) := by
  rw [ensureDirectory, makeDirectory_of_open opened fits, isDirectory_of_open opened fits, present]
  rfl

theorem ensureDirectory_of_absent (opened : tree.Open path.way) (fits : (path.child name).Fits)
    (absent : tree.find? (path.child name).place = none) :
    tree.ensureDirectory (path.child name) =
      (.ok (), tree.put (path.child name).place .directory) := by
  rw [ensureDirectory, makeDirectory_of_open opened fits, absent]

theorem makeDirectory_of_missing (located : tree.locate path = .error .notFound)
    (noNul : path.holdsNul = false) :
    tree.makeDirectory path = .error (.system .notFound path.toText) := by
  rw [makeDirectory, noNul, if_neg (by simp), located]

theorem ensureDirectory_of_tooLong (located : tree.locate path = .error .nameTooLong)
    (noNul : path.holdsNul = false) :
    tree.ensureDirectory path = (.error (.system .nameTooLong path.toText), tree) := by
  have made : tree.makeDirectory path = .error (.system .nameTooLong path.toText) := by
    rw [makeDirectory, noNul, if_neg (by simp), located]
  rw [ensureDirectory, made, isDirectory_of_tooLong located noNul]

/-- A directory in one that is missing is made after that. -/
theorem ensureDirectories_of_missing (located : tree.locate (path.child name) = .error .notFound)
    (noNul : (path.child name).holdsNul = false) :
    tree.ensureDirectories (path.child name) =
      match tree.ensureDirectories path with
      | (.ok (), tree) => tree.ensureDirectory (path.child name)
      | (.error trouble, tree) => (.error trouble, tree) := by
  have whole : (⟨path.anchor, (name :: path.parts.reverse).reverse⟩ : Path) = path.child name := by
    simp [Path.child]
  rw [ensureDirectories, Path.parts_child, List.reverse_concat, Path.anchor_child, ensureParts,
    whole, makeDirectory_of_missing located noNul]
  rfl

theorem find?_put_directory (tree : Tree) (location : Location) :
    (tree.put location .directory).find? location = some .directory := by
  unfold find?
  split
  · rfl
  · exact Entries.lookup_put_self location .directory tree.entries

theorem find?_put_self {location : Location} (inward : location.isOutward = false) (tree : Tree)
    (entry : Entry) : (tree.put location entry).find? location = some entry := by
  rw [find?, if_neg (by simp [inward])]
  exact Entries.lookup_put_self location entry tree.entries

theorem find?_put_of_ne {location other : Location} (different : other ≠ location) (tree : Tree)
    (entry : Entry) : (tree.put location entry).find? other = tree.find? other := by
  rw [find?, find?, put, Entries.lookup_put, if_neg different]

theorem writeText_of_open (opened : tree.Open path.way) (fits : (path.child name).Fits)
    (noDirectory : tree.find? (path.child name).place ≠ some .directory) (text : String) :
    tree.writeText (path.child name) text =
      .ok (tree.put (path.child name).place (.file (Utf8.encode text.toList))) := by
  rw [writeText, writeOctets, if_neg (by simp [fits.noNul]), locate_of_open opened fits]
  split
  · next error => cases error
  · next located =>
      obtain rfl := Except.ok.inj located
      split
      · next found => exact absurd found noDirectory
      · rfl

/-- The answer to a request for all directories on a way. -/
def Cleared (places : List Location) (before : Tree) (answer : Except Trouble Unit × Tree) : Prop :=
  answer.1 = .ok () ∧ Grown places before answer.2 ∧ answer.2.Open places

theorem cleared_ensureDirectory (opened : tree.Open path.way)
    (clear : tree.Clear (path.child name).way)
    (fits : (path.child name).Fits) :
    Cleared (path.child name).way tree (tree.ensureDirectory (path.child name)) := by
  by_cases up : name = ".."
  · subst up
    have present : tree.find? (path.child "..").place = some .directory := by
      rw [Path.place_child_up]
      exact (settled_of_open opened).parent _ (List.prefix_refl _)
    rw [ensureDirectory_of_present opened fits present, Path.way_child_up]
    exact ⟨rfl, .refl _ tree, opened⟩
  · have last : (path.child name).place ∈ (path.child name).way := by
      simp [Path.way_child path up, Path.place_child path up]
    have all {other : Tree} (others : other.Open path.way)
        (there : other.find? (path.child name).place = some .directory) :
        other.Open (path.child name).way := by
      rw [Path.way_child path up, ← Path.place_child path up]
      intro place member
      rcases List.mem_append.mp member with before | same
      · exact others place before
      · rwa [List.mem_singleton.mp same]
    cases found : tree.find? (path.child name).place with
    | none =>
        have grown : Grown (path.child name).way tree
            (tree.put (path.child name).place .directory) := .put last found
        rw [ensureDirectory_of_absent opened fits found]
        exact ⟨rfl, grown, all (grown.opened opened) (find?_put_directory tree _)⟩
    | some entry =>
        cases entry with
        | file octets => exact absurd found (clear _ last octets)
        | directory =>
            rw [ensureDirectory_of_present opened fits found]
            exact ⟨rfl, .refl _ tree, all opened found⟩

theorem ensureDirectory_start (tree : Tree) (anchor : Anchor) (fits : Path.Fits ⟨anchor, []⟩) :
    tree.ensureDirectory ⟨anchor, []⟩ = (.ok (), tree) := by
  have located : tree.locate ⟨anchor, []⟩ = .ok (Location.start ⟨anchor, []⟩) := by
    have room := fits.room
    rw [locate, if_neg (by omega), walk]
  have found : tree.find? (Location.start ⟨anchor, []⟩) = some .directory :=
    find?_of_outward (Location.isOutward_start ⟨anchor, []⟩)
  have made : tree.makeDirectory ⟨anchor, []⟩ =
      .error (.system .exists (Path.toText ⟨anchor, []⟩)) := by
    rw [makeDirectory, if_neg (by simp [fits.noNul]), located]
    simp only [found]
  have inspected : tree.inspect ⟨anchor, []⟩ = .ok (some .directory) := by
    rw [inspect, if_neg (by simp [fits.noNul]), status, located]
    simp only [found]
  rw [ensureDirectory, made, isDirectory, inspected]
  rfl

theorem cleared_ensureParts (tree : Tree) (anchor : Anchor) (backward : List String)
    (clear : tree.Clear (Path.way ⟨anchor, backward.reverse⟩))
    (fits : Path.Fits ⟨anchor, backward.reverse⟩) :
    Cleared (Path.way ⟨anchor, backward.reverse⟩) tree (tree.ensureParts anchor backward) := by
  induction backward with
  | nil =>
      rw [ensureParts, ensureDirectory_start tree anchor fits]
      exact ⟨rfl, .refl _ tree, nofun⟩
  | cons last before induction =>
      have path : (⟨anchor, (last :: before).reverse⟩ : Path) =
          Path.child ⟨anchor, before.reverse⟩ last := by
        rw [List.reverse_cons]
        rfl
      rw [path] at clear fits ⊢
      have earlier := Path.way_subset_child ⟨anchor, before.reverse⟩ last
      have clearBefore : tree.Clear (Path.way ⟨anchor, before.reverse⟩) :=
        fun place member => clear place (earlier member)
      rw [ensureParts, path]
      rcases locate_of_clear clearBefore fits with ⟨opened, _⟩ | ⟨_, located⟩
      · have there : ∀ text, tree.makeDirectory (Path.child ⟨anchor, before.reverse⟩ last) ≠
            .error (.system .notFound text) := by
          intro text
          rw [makeDirectory_of_open opened fits]
          split <;> simp
        split
        · next text missing => exact absurd missing (there text)
        · exact cleared_ensureDirectory opened clear fits
      · have missing : tree.makeDirectory (Path.child ⟨anchor, before.reverse⟩ last) =
            .error (.system .notFound (Path.child ⟨anchor, before.reverse⟩ last).toText) := by
          rw [makeDirectory, if_neg (by simp [fits.noNul]), located]
        obtain ⟨made, grown, opened⟩ := induction clearBefore fits.of_child
        rw [missing]
        generalize tree.ensureParts anchor before = answer at made grown opened ⊢
        obtain ⟨_, middle⟩ := answer
        obtain rfl := made
        obtain ⟨madeToo, grownToo, openedToo⟩ :=
          cleared_ensureDirectory opened (grown.clear clear) fits
        exact ⟨madeToo, (grown.mono earlier).trans grownToo, openedToo⟩

/-- Where no file stands in the way, a directory can be made with all that lead to it. -/
theorem cleared_ensureDirectories (tree : Tree) {path : Path} (clear : tree.Clear path.way)
    (fits : path.Fits) : Cleared path.way tree (tree.ensureDirectories path) := by
  obtain ⟨anchor, parts⟩ := path
  have made := cleared_ensureParts tree anchor parts.reverse
  rw [List.reverse_reverse] at made
  exact made clear fits

end Tree

end Files

end GraphConsole
