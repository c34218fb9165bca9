import GraphConsole.Proofs.Files.Regularity
import Mathlib.Logic.Relation

/-! Writing under a path. Whoever does nothing else to a tree leaves alone what stands elsewhere,
and every file if there is nothing at the path, or an empty directory. Only a path that turns back
behind a missing directory leads to files that cannot be seen by it before that has been made. -/

namespace GraphConsole.Files

namespace Location

/-- Names that lead down, and stand for no other directory. -/
def Onward (names : List String) : Prop :=
  ∀ name ∈ names, name ≠ ".." ∧ name ≠ "/"

theorem onward_nil : Onward [] :=
  List.forall_mem_nil _

/-- A place is this one, or lies under it. -/
def Holds (here there : Location) : Prop :=
  ∃ names, Onward names ∧ there = here ++ names

theorem follow_onward {names : List String} (onward : Onward names) (here : Location) :
    here.follow names = here ++ names := by
  induction names generalizing here with
  | nil => simp [follow]
  | cons name rest induction =>
      obtain ⟨first, others⟩ := List.forall_mem_cons.mp onward
      rw [follow, if_neg first.1, induction others, List.append_assoc, List.singleton_append]

theorem Holds.trans {here there further : Location} (one : here.Holds there)
    (two : there.Holds further) : here.Holds further := by
  obtain ⟨names, onward, rfl⟩ := one
  obtain ⟨others, onwardToo, rfl⟩ := two
  refine ⟨names ++ others, ?_, List.append_assoc here names others⟩
  exact List.forall_mem_append.mpr ⟨onward, onwardToo⟩

end Location

open Location

namespace Path

/-- The path with further names behind it. -/
def below (path : Path) (names : List String) : Path :=
  { path with parts := path.parts ++ names }

theorem below_nil (path : Path) : path.below [] = path := by
  simp [below]

theorem below_concat (path : Path) (names : List String) (name : String) :
    path.below (names ++ [name]) = (path.below names).child name := by
  simp [below, child]

theorem place_below (path : Path) {names : List String} (onward : Onward names) :
    (path.below names).place = path.place ++ names := by
  rw [place, below, follow_append, follow_onward onward]
  rfl

theorem holdsNul_below {path : Path} (names : List String) (holds : path.holdsNul = true) :
    (path.below names).holdsNul = true := by
  rw [holdsNul] at holds
  rw [holdsNul, below, List.any_append, holds, Bool.true_or]

theorem room_of_below {path : Path} {names : List String}
    (room : (path.below names).toText.utf8ByteSize < 4096) : path.toText.utf8ByteSize < 4096 := by
  induction names using List.reverseRecOn with
  | nil => rwa [below_nil] at room
  | append_singleton front name induction =>
      rw [below_concat] at room
      exact induction (room_of_child room)

/-- What becomes of a tree in one step of somebody who writes under a path: directories are made
that lead there, or there is a change at a place that can be reached then by such a path, or under
it. -/
inductive Writes (path : Path) : Tree → Tree → Prop
  | directories {names : List String} (onward : Onward names) (tree : Tree) :
      Writes path tree (tree.ensureDirectories (path.below names)).2
  | inside {names : List String} {location : Location} {before after : Tree}
      (onward : Onward names) (noNul : (path.below names).holdsNul = false)
      (located : before.locate (path.below names) = .ok location)
      (elsewhere : ∀ place, ¬ location.Holds place → after.find? place = before.find? place) :
      Writes path before after

/-- Something can be seen at a path. -/
def Stands (path : Path) (tree : Tree) (entry : Entry) : Prop :=
  path.holdsNul = false ∧ tree.status path = .ok entry

/-- The path goes up again behind a directory that is missing. -/
def TurnsBack (path : Path) (tree : Tree) : Prop :=
  ∃ front back, path.parts = front ++ ".." :: back ∧
    tree.status ⟨path.anchor, front⟩ = .error .notFound

/-- The path leads through a file, or no system takes it. Nothing is ever found behind that. -/
def Blocked (path : Path) (tree : Tree) : Prop :=
  path.holdsNul = true ∨ tree.locate path = .error .notDirectory

end Path

/-- Nothing stands in a directory. Those around the working directory hold that at least. -/
structure Tree.Bare (tree : Tree) (location : Location) : Prop where
  inside : location.isOutward = true → location = []
  nothing : ∀ name entry, (location ++ [name], entry) ∉ tree.entries

/-- There is nothing at a path, or an empty directory. -/
inductive Path.Free (path : Path) (tree : Tree) : Prop
  | missing (absent : ∀ entry, ¬ path.Stands tree entry)
  | empty (directory : path.Stands tree .directory) (bare : tree.Bare path.place)

namespace Tree

open Files.Path

variable {tree before after : Tree} {path : Path} {here : Location}

theorem stands_iff {entry : Entry} :
    path.Stands tree entry ↔ tree.inspect path = .ok (some entry) := by
  refine ⟨fun stands => ?_, status_of_inspect⟩
  rw [inspect, if_neg (by simp [stands.1]), stands.2]

theorem children_eq_nil_iff {location : Location} :
    tree.children location = [] ↔ ∀ name entry, (location ++ [name], entry) ∉ tree.entries := by
  rw [children, List.filterMap_eq_nil_iff]
  constructor
  · intro none name entry member
    simpa using none _ member
  · rintro nothing ⟨place, entry⟩ member
    dsimp only
    split
    · next parent =>
        cases last : place.getLast? with
        | none => rfl
        | some name =>
            have whole := List.dropLast_append_getLast? name last
            rw [parent] at whole
            exact absurd (whole ▸ member) (nothing name entry)
    · rfl

theorem isEmptyAt_iff (located : tree.locate path = .ok path.place) :
    tree.isEmptyAt path = true ↔ tree.Bare path.place := by
  rw [isEmptyAt, located]
  dsimp only
  split
  · next outside =>
      simp only [Bool.and_eq_true, bne_iff_ne] at outside
      simp only [Bool.false_eq_true, false_iff]
      exact fun bare => outside.2 (bare.inside outside.1)
  · next inside =>
      simp only [Bool.and_eq_true, bne_iff_ne, not_and, not_not] at inside
      rw [List.isEmpty_iff, children_eq_nil_iff]
      exact ⟨fun nothing => ⟨inside, nothing⟩, fun bare => bare.nothing⟩

/-! Steps. -/

theorem kept_of_writes (step : path.Writes before after) {place : Location} {entry : Entry}
    (apart : ¬ path.place.Holds place) (found : before.find? place = some entry) :
    after.find? place = some entry := by
  cases step with
  | directories onward tree =>
      exact (attempt_ensureDirectories before _).grown.find?_of_some found
  | @inside names location _ _ onward noNul located elsewhere =>
      obtain rfl := place_of_locate located
      rw [elsewhere place, found]
      intro under
      rw [path.place_below onward] at under
      exact apart (Holds.trans ⟨names, onward, rfl⟩ under)

theorem ensureDirectory_of_refused {trouble : Trouble}
    (refused : tree.makeDirectory path = .error trouble) :
    (tree.ensureDirectory path).2 = tree := by
  rw [ensureDirectory, refused]
  split
  · next made => cases made
  · rfl
  · split <;> rfl

theorem ensureDirectories_of_refused {trouble : Trouble}
    (refused : tree.makeDirectory path = .error trouble)
    (other : ∀ text, trouble ≠ .system .notFound text) :
    (tree.ensureDirectories path).2 = tree := by
  obtain ⟨anchor, parts⟩ := path
  rw [ensureDirectories]
  cases backward : parts.reverse with
  | nil =>
      obtain rfl := List.reverse_eq_nil_iff.mp backward
      exact ensureDirectory_of_refused refused
  | cons last before =>
      obtain rfl : parts = (last :: before).reverse := by rw [← backward, List.reverse_reverse]
      rw [ensureParts]
      split
      · next text missing =>
          rw [refused] at missing
          exact absurd (Except.error.inj missing) (other text)
      · exact ensureDirectory_of_refused refused

theorem walk_append_of_error {parts : List String} {error : SystemError}
    (failed : tree.walk here parts = .error error) (more : List String) :
    tree.walk here (parts ++ more) = .error error := by
  induction parts generalizing here with
  | nil => cases failed
  | cons name rest induction =>
      rw [walk] at failed
      rw [List.cons_append, walk]
      split
      · next up =>
          rw [if_pos up] at failed
          exact induction failed
      · next down =>
          rw [if_neg down] at failed
          split
          · next long => rwa [if_pos long] at failed
          · next short =>
              rw [if_neg short] at failed
              dsimp only at failed ⊢
              cases rest with
              | nil => cases failed
              | cons second others =>
                  rw [List.cons_append]
                  dsimp only at failed ⊢
                  split
                  · next missing => rwa [missing] at failed
                  · next found => rwa [found] at failed
                  · next found =>
                      rw [found] at failed
                      exact induction failed

theorem locate_below_of_blocked (blocked : path.Blocked tree) (names : List String) :
    (path.below names).holdsNul = true ∨
      ∃ error, tree.locate (path.below names) = .error error ∧ error ≠ .notFound := by
  rcases blocked with holds | blocked
  · exact .inl (holdsNul_below names holds)
  · right
    rw [locate] at blocked ⊢
    split
    · exact ⟨.nameTooLong, rfl, by decide⟩
    · next room =>
        rw [if_neg (by have := room_of_below (Nat.lt_of_not_le room); omega)] at blocked
        exact ⟨.notDirectory, walk_append_of_error blocked names, by decide⟩

theorem refused_of_blocked (blocked : path.Blocked tree) (names : List String) :
    ∃ trouble, tree.makeDirectory (path.below names) = .error trouble ∧
      ∀ text, trouble ≠ .system .notFound text := by
  rw [makeDirectory]
  split
  · exact ⟨.nulInPath, rfl, by simp⟩
  · next noNul =>
    rcases locate_below_of_blocked blocked names with holds | ⟨error, failed, other⟩
    · exact absurd holds noNul
    · rw [failed]
      exact ⟨_, rfl, fun text same => other (Trouble.system.inj same).1⟩

theorem eq_of_writes_of_blocked (blocked : path.Blocked before) (step : path.Writes before after) :
    after = before := by
  cases step with
  | @directories names onward tree =>
      obtain ⟨trouble, refused, other⟩ := refused_of_blocked blocked names
      exact ensureDirectories_of_refused refused other
  | @inside names location _ _ onward noNul located elsewhere =>
      rcases locate_below_of_blocked blocked names with holds | ⟨error, failed, _⟩
      · rw [noNul] at holds
        cases holds
      · rw [located] at failed
        cases failed

/-! Places where there is nothing that could be spoiled. -/

/-- Neither at a place nor under it there is a file. -/
def Fileless (tree : Tree) (location : Location) : Prop :=
  ∀ place, location.Holds place → ∀ octets, tree.find? place ≠ some (.file octets)

/-- In a regular tree a file can only lie under a place through a directory with entries. -/
theorem fileless_of_none (regular : tree.Regular) {location : Location}
    (missing : tree.find? location = none) (names : List String) (octets : List UInt8) :
    tree.find? (location ++ names) ≠ some (.file octets) := by
  cases names with
  | nil => simp [missing]
  | cons name rest =>
      rw [regular.none_below (by simp [missing]) (List.cons_ne_nil name rest)]
      exact nofun

theorem isOutward_concat {name : String} (up : name ≠ "..") (top : name ≠ "/")
    (location : Location) : Location.isOutward (location ++ [name]) = false := by
  simp [isOutward, up, top]

theorem fileless_of_bare (regular : tree.Regular) {location : Location} (bare : tree.Bare location)
    (directory : tree.find? location = some .directory) : tree.Fileless location := by
  rintro _ ⟨names, onward, rfl⟩ octets found
  cases names with
  | nil =>
      rw [List.append_nil, directory] at found
      cases found
  | cons name rest =>
      have first := (onward name List.mem_cons_self)
      have inward := isOutward_concat first.1 first.2 location
      rw [List.append_cons] at found
      cases rest with
      | nil =>
          rw [List.append_nil] at found
          exact bare.nothing name _ (mem_entries_of_find? inward found)
      | cons second others =>
          have above := regular.directory_above (List.cons_ne_nil second others) found
          exact bare.nothing name _ (mem_entries_of_find? inward above)

theorem walk_open {front more : List String} (opened : tree.Open (here.way front))
    (short : ∀ part ∈ front, part.utf8ByteSize ≤ 255) (further : more ≠ []) :
    tree.walk here (front ++ more) = tree.walk (here.follow front) more := by
  induction front generalizing here with
  | nil => rfl
  | cons name rest induction =>
      obtain ⟨first, others⟩ := List.forall_mem_cons.mp short
      rw [Location.way] at opened
      rw [List.cons_append, walk, follow]
      by_cases up : name = ".."
      · rw [if_pos up] at opened ⊢
        rw [if_pos up]
        exact induction opened others
      · rw [if_neg up, open_cons] at opened
        rw [if_neg up, if_neg (by omega), if_neg up]
        dsimp only
        split
        · next none => simp [further] at none
        · rw [opened.1]
          exact induction opened.2 others

/-- A way that is lost comes to a name that is missing in a directory. -/
theorem missing_of_walk {parts : List String} (lost : tree.walk here parts = .error .notFound) :
    ∃ front name rest, parts = front ++ name :: rest ∧ name ≠ ".." ∧
      tree.Open (here.way front) ∧ tree.find? (here.follow front ++ [name]) = none := by
  induction parts generalizing here with
  | nil => cases lost
  | cons first others induction =>
      rw [walk] at lost
      split at lost
      · next up =>
          obtain ⟨front, name, rest, rfl, named, opened, missing⟩ := induction lost
          refine ⟨first :: front, name, rest, rfl, named, ?_, ?_⟩
          · rwa [Location.way, if_pos up]
          · rwa [follow, if_pos up]
      · next down =>
        split at lost
        · cases lost
        · dsimp only at lost
          split at lost
          · cases lost
          · split at lost
            · next missing =>
                exact ⟨[], first, others, rfl, down, List.forall_mem_nil _, missing⟩
            · cases lost
            · next found =>
                obtain ⟨front, name, rest, same, named, opened, missing⟩ := induction lost
                refine ⟨first :: front, name, rest, by rw [same, List.cons_append], named, ?_, ?_⟩
                · rw [Location.way, if_neg down, open_cons]
                  exact ⟨found, opened⟩
                · rwa [follow, if_neg down]

theorem status_of_missing {anchor : Anchor} {front rest : List String} {name : String}
    (opened : tree.Open ((Location.start ⟨anchor, front⟩).way front)) (named : name ≠ "..")
    (missing : tree.find? ((Location.start ⟨anchor, front⟩).follow front ++ [name]) = none)
    (short : ∀ part ∈ front ++ name :: rest, part.utf8ByteSize ≤ 255)
    (room : (Path.mk anchor (front ++ name :: rest)).toText.utf8ByteSize < 4096) :
    tree.status ⟨anchor, front ++ name :: rest⟩ = .error .notFound := by
  obtain ⟨before, behind⟩ := List.forall_mem_append.mp short
  have brief := behind name List.mem_cons_self
  have start : Location.start ⟨anchor, front ++ name :: rest⟩ =
    Location.start ⟨anchor, front⟩ := rfl
  rw [status, locate, if_neg (by omega), start, walk_open opened before (List.cons_ne_nil _ _),
    walk, if_neg named, if_neg (by omega)]
  cases rest with
  | nil => simp only [missing]
  | cons second others => simp only [missing]

/-- A path that is lost and does not turn back leads to where there is nothing. -/
theorem fileless_of_lost (regular : tree.Regular)
    (short : ∀ part ∈ path.parts, part.utf8ByteSize ≤ 255)
    (room : path.toText.utf8ByteSize < 4096) (lost : tree.locate path = .error .notFound)
    (forward : ¬ path.TurnsBack tree) : tree.Fileless path.place := by
  obtain ⟨anchor, parts⟩ := path
  rw [locate, if_neg (by omega)] at lost
  obtain ⟨front, name, rest, rfl, named, opened, missing⟩ := missing_of_walk lost
  have onward : ".." ∉ rest := by
    intro member
    obtain ⟨before, behind, rfl⟩ := List.mem_iff_append.mp member
    have whole : front ++ name :: (before ++ ".." :: behind) =
        front ++ name :: before ++ ".." :: behind := by simp
    have shortBefore : ∀ part ∈ front ++ name :: before, part.utf8ByteSize ≤ 255 := by
      rw [whole] at short
      exact (List.forall_mem_append.mp short).1
    have roomBefore : (Path.mk anchor (front ++ name :: before)).toText.utf8ByteSize < 4096 := by
      rw [whole] at room
      exact @room_of_below ⟨anchor, front ++ name :: before⟩ (".." :: behind) room
    exact forward ⟨front ++ name :: before, behind, whole,
      status_of_missing opened named missing shortBefore roomBefore⟩
  rintro _ ⟨names, _, rfl⟩ octets
  obtain ⟨more, led⟩ : ∃ more, Path.place ⟨anchor, front ++ name :: rest⟩ =
      (Location.start ⟨anchor, front⟩).follow front ++ [name] ++ more := by
    rw [Path.place, follow_append, follow, if_neg named]
    obtain ⟨more, led⟩ := prefix_follow onward
    exact ⟨more, led.symm⟩
  rw [led, List.append_assoc]
  exact fileless_of_none regular missing _ octets

/-- A path with nothing to be seen at it, or an empty directory, leads to where there is no file. A
path that is blocked need not, but nobody gets there by it, nor one that turns back. -/
theorem fileless_of_free (regular : tree.Regular)
    (short : ∀ part ∈ path.parts, part.utf8ByteSize ≤ 255)
    (room : path.toText.utf8ByteSize < 4096) (free : path.Free tree)
    (passable : ¬ path.Blocked tree) (forward : ¬ path.TurnsBack tree) :
    tree.Fileless path.place := by
  have noNul : path.holdsNul = false := by
    simpa using fun holds => passable (.inl holds)
  cases free with
  | empty directory bare =>
      exact fileless_of_bare regular bare (locate_of_status directory.2).2
  | missing absent =>
      cases located : tree.locate path with
      | ok location =>
          obtain rfl := place_of_locate located
          cases found : tree.find? path.place with
          | none =>
              rintro _ ⟨names, _, rfl⟩ octets
              exact fileless_of_none regular found names octets
          | some entry =>
              have stood : tree.status path = .ok entry := by simp only [status, located, found]
              exact absurd ⟨noNul, stood⟩ (absent entry)
      | error error =>
          have lost := located
          rw [locate, if_neg (by omega)] at lost
          rcases walk_error_of_short short lost with rfl | rfl
          · exact fileless_of_lost regular short room located forward
          · exact absurd (.inr located) passable

/-! Runs. -/

theorem kept_of_run (run : Relation.ReflTransGen path.Writes before after) {place : Location}
    {entry : Entry} (apart : ¬ path.place.Holds place) (found : before.find? place = some entry) :
    after.find? place = some entry := by
  induction run with
  | refl => exact found
  | tail _ step induction => exact kept_of_writes step apart induction

theorem eq_of_run_of_blocked (run : Relation.ReflTransGen path.Writes before after)
    (blocked : path.Blocked before) : after = before := by
  induction run with
  | refl => rfl
  | tail _ step induction =>
      subst induction
      exact eq_of_writes_of_blocked blocked step

/-- Whoever writes under a path where there is nothing, or an empty directory, keeps every file but
those that the path only leads to by turning back. -/
theorem file_kept_of_run (run : Relation.ReflTransGen path.Writes before after)
    (regular : before.Regular) (short : ∀ part ∈ path.parts, part.utf8ByteSize ≤ 255)
    (room : path.toText.utf8ByteSize < 4096) (free : path.Free before) {place : Location}
    {octets : List UInt8} (found : before.find? place = some (.file octets))
    (reached : path.TurnsBack before → ¬ path.place.Holds place) :
    after.find? place = some (.file octets) := by
  by_cases blocked : path.Blocked before
  · rwa [eq_of_run_of_blocked run blocked]
  · refine kept_of_run run (fun holds => ?_) found
    have forward : ¬ path.TurnsBack before := fun turns => reached turns holds
    exact fileless_of_free regular short room free blocked forward place holds octets found

end Tree

end GraphConsole.Files
