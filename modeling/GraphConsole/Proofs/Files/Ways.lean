import GraphConsole.Files.Tree

/-! The way along a path: the directories that it leads through, how far a tree follows it, and how
a tree grows when they are made. -/

namespace GraphConsole.Files

open GraphConsole.Text

namespace Location

/-- Where the parts of a path lead, whether or not there is anything. -/
def follow (here : Location) : List String → Location
  | [] => here
  | name :: rest => if name = ".." then follow here.parent rest else follow (here ++ [name]) rest

/-- The places that the parts of a path enter by name, in order. -/
def way (here : Location) : List String → List Location
  | [] => []
  | name :: rest =>
      if name = ".." then way here.parent rest
      else (here ++ [name]) :: way (here ++ [name]) rest

theorem follow_append (here : Location) (front more : List String) :
    here.follow (front ++ more) = (here.follow front).follow more := by
  induction front generalizing here with
  | nil => rfl
  | cons name rest induction =>
      rw [List.cons_append, follow, follow]
      split
      · exact induction _
      · exact induction _

theorem way_append (here : Location) (front more : List String) :
    here.way (front ++ more) = here.way front ++ (here.follow front).way more := by
  induction front generalizing here with
  | nil => rfl
  | cons name rest induction =>
      rw [List.cons_append, way, way, follow]
      split
      · exact induction _
      · rw [induction, List.cons_append]

theorem follow_named (here : Location) (front : List String) {name : String}
    (named : name ≠ "..") : here.follow (front ++ [name]) = here.follow front ++ [name] := by
  rw [follow_append, follow, if_neg named, follow]

theorem way_named (here : Location) (front : List String) {name : String} (named : name ≠ "..") :
    here.way (front ++ [name]) = here.way front ++ [here.follow front ++ [name]] := by
  rw [way_append, way, if_neg named, way]

theorem prefix_follow {here : Location} {parts : List String} (onward : ".." ∉ parts) :
    here <+: here.follow parts := by
  induction parts generalizing here with
  | nil => exact List.prefix_refl here
  | cons name rest induction =>
      rw [List.mem_cons, not_or] at onward
      rw [follow, if_neg (Ne.symm onward.1)]
      exact (List.prefix_append here [name]).trans (induction onward.2)

/-- A way that never turns back leads on from each place that it enters. -/
theorem prefix_of_mem_way {here : Location} {parts : List String} (onward : ".." ∉ parts)
    {place : Location} (member : place ∈ here.way parts) : place <+: here.follow parts := by
  induction parts generalizing here with
  | nil => cases member
  | cons name rest induction =>
      rw [List.mem_cons, not_or] at onward
      have down : name ≠ ".." := Ne.symm onward.1
      rw [way, if_neg down] at member
      rw [follow, if_neg down]
      rcases List.mem_cons.mp member with rfl | later
      · exact prefix_follow onward.2
      · exact induction onward.2 later

theorem isOutward_start (path : Path) : (start path).isOutward = true := by
  unfold start
  split <;> rfl

end Location

namespace Tree

variable {tree : Tree} {here : Location}

theorem find?_of_outward {location : Location} (outward : location.isOutward = true) :
    tree.find? location = some .directory := by
  rw [find?, if_pos outward]

def Open (tree : Tree) (places : List Location) : Prop :=
  ∀ place ∈ places, tree.find? place = some .directory

/-- No file stands in the way. -/
def Clear (tree : Tree) (places : List Location) : Prop :=
  ∀ place ∈ places, ∀ octets, tree.find? place ≠ some (.file octets)

/-- A directory in directories. -/
def Settled (tree : Tree) (here : Location) : Prop :=
  ∀ front, front <+: here → tree.find? front = some .directory

theorem settled_of_outward {location : Location} (outward : location.isOutward = true) :
    tree.Settled location := by
  intro front initial
  apply find?_of_outward
  obtain ⟨more, rfl⟩ := initial
  rw [Location.isOutward, List.all_append, Bool.and_eq_true] at outward
  exact outward.1

theorem Settled.parent (settled : tree.Settled here) : tree.Settled here.parent := by
  unfold Location.parent
  split
  · exact settled
  · split
    · next outward => exact settled_of_outward (by simpa [Location.isOutward] using outward)
    · intro front initial
      exact settled front (initial.trans (List.dropLast_prefix here))

theorem Settled.child (settled : tree.Settled here) {name : String}
    (found : tree.find? (here ++ [name]) = some .directory) : tree.Settled (here ++ [name]) := by
  intro front initial
  rcases List.prefix_concat_iff.mp initial with rfl | earlier
  · exact found
  · exact settled front earlier

theorem Settled.follow (settled : tree.Settled here) {parts : List String}
    (opened : tree.Open (here.way parts)) : tree.Settled (here.follow parts) := by
  induction parts generalizing here with
  | nil => exact settled
  | cons name rest induction =>
      rw [Location.way] at opened
      rw [Location.follow]
      split at opened
      · next up =>
          rw [if_pos up]
          exact induction settled.parent opened
      · next down =>
          rw [if_neg down]
          exact induction (settled.child (opened _ (by simp)))
            fun place member => opened place (by simp [member])

theorem walk_cons (tree : Tree) (here : Location) {name : String} (named : name ≠ "..")
    (short : name.utf8ByteSize ≤ 255) (rest : List String) (last : String) :
    tree.walk here (name :: (rest ++ [last])) =
      match tree.find? (here ++ [name]) with
      | none => .error .notFound
      | some (.file _) => .error .notDirectory
      | some .directory => tree.walk (here ++ [name]) (rest ++ [last]) := by
  rw [walk, if_neg named, if_neg (by omega)]
  cases more : rest ++ [last] with
  | nil => simp at more
  | cons second others => rfl

theorem walk_last (tree : Tree) (here : Location) {last : String}
    (short : last.utf8ByteSize ≤ 255) : tree.walk here [last] = .ok (here.follow [last]) := by
  rw [walk, Location.follow]
  split
  · rfl
  · rw [if_neg (by omega)]
    rfl

theorem Open.clear {places : List Location} (opened : tree.Open places) : tree.Clear places := by
  intro place member octets file
  rw [opened place member] at file
  cases file

theorem open_cons {place : Location} {others : List Location} :
    tree.Open (place :: others) ↔ tree.find? place = some .directory ∧ tree.Open others :=
  List.forall_mem_cons

theorem follow_of_walk {parts : List String} {location : Location}
    (walked : tree.walk here parts = .ok location) : location = here.follow parts := by
  induction parts generalizing here with
  | nil =>
      rw [walk] at walked
      exact (Except.ok.inj walked).symm
  | cons name rest induction =>
      rw [walk] at walked
      rw [Location.follow]
      split at walked
      · next up =>
          rw [if_pos up]
          exact induction walked
      · next down =>
          rw [if_neg down]
          split at walked
          · cases walked
          · dsimp only at walked
            split at walked
            · exact (Except.ok.inj walked).symm
            · split at walked
              · cases walked
              · cases walked
              · exact induction walked

/-- As far as the last part, a way without files is open and can be walked, or ends in a place
where there is nothing. -/
theorem walk_of_clear {front : List String} {last : String}
    (clear : tree.Clear (here.way front))
    (short : ∀ part ∈ front ++ [last], part.utf8ByteSize ≤ 255) :
    tree.Open (here.way front) ∧
        tree.walk here (front ++ [last]) = .ok (here.follow (front ++ [last])) ∨
      ¬ tree.Open (here.way front) ∧ tree.walk here (front ++ [last]) = .error .notFound := by
  induction front generalizing here with
  | nil => exact .inl ⟨by simp [Location.way, Open], walk_last tree here (short last (by simp))⟩
  | cons name rest induction =>
      rw [List.cons_append, List.forall_mem_cons] at short
      rw [Location.way] at clear ⊢
      rw [List.cons_append, Location.follow]
      by_cases up : name = ".."
      · rw [if_pos up] at clear ⊢
        rw [if_pos up, walk, if_pos up]
        exact induction clear short.2
      · rw [if_neg up] at clear ⊢
        rw [if_neg up, walk_cons tree here up short.1, open_cons]
        cases found : tree.find? (here ++ [name]) with
        | none => exact .inr ⟨nofun, rfl⟩
        | some entry =>
            cases entry with
            | file octets => exact absurd found (clear _ List.mem_cons_self octets)
            | directory =>
                simp only [true_and]
                exact induction (fun place member => clear place (List.mem_cons_of_mem _ member))
                  short.2

theorem walk_of_long (tree : Tree) (here : Location) {name : String} (named : name ≠ "..")
    (long : ¬ name.utf8ByteSize ≤ 255) (rest : List String) :
    tree.walk here (name :: rest) = .error .nameTooLong := by
  rw [walk, if_neg named, if_pos (by omega)]

theorem walk_of_tooLong {front : List String} (opened : tree.Open (here.way front)) {name : String}
    (named : name ≠ "..") (long : 255 < name.utf8ByteSize) (rest : List String) :
    tree.walk here (front ++ name :: rest) = .error .nameTooLong := by
  induction front generalizing here with
  | nil => exact walk_of_long tree here named (by omega) rest
  | cons first others induction =>
      rw [Location.way] at opened
      rw [List.cons_append]
      by_cases up : first = ".."
      · rw [if_pos up] at opened
        rw [walk, if_pos up]
        exact induction opened
      · rw [if_neg up, open_cons] at opened
        rw [walk, if_neg up]
        split
        · rfl
        · dsimp only
          split
          · next none => simp at none
          · rw [opened.1]
            exact induction opened.2

/-- Only what stands on the way to it decides where the last part leads. -/
theorem walk_congr {before after : Tree} {front : List String} {last : String}
    (same : ∀ place ∈ here.way front, after.find? place = before.find? place) :
    after.walk here (front ++ [last]) = before.walk here (front ++ [last]) := by
  induction front generalizing here with
  | nil => rw [List.nil_append, walk, walk, walk, walk]
  | cons name rest induction =>
      rw [Location.way] at same
      rw [List.cons_append]
      by_cases up : name = ".."
      · rw [if_pos up] at same
        rw [walk, walk, if_pos up, if_pos up]
        exact induction same
      · rw [if_neg up, List.forall_mem_cons] at same
        by_cases short : name.utf8ByteSize ≤ 255
        · rw [walk_cons after here up short, walk_cons before here up short, same.1,
            induction same.2]
        · rw [walk_of_long after here up short, walk_of_long before here up short]

/-! What it takes for a way to be walked. -/

/-- One step along a way, with more to come behind it or not. -/
theorem walk_step (tree : Tree) (here : Location) {name : String} (named : name ≠ "..")
    {rest : List String} {location : Location}
    (walked : tree.walk here (name :: rest) = .ok location) :
    name.utf8ByteSize ≤ 255 ∧
      (rest = [] ∧ location = here ++ [name] ∨
        tree.find? (here ++ [name]) = some .directory ∧
          tree.walk (here ++ [name]) rest = .ok location) := by
  rw [walk, if_neg named] at walked
  split at walked
  · cases walked
  · next short =>
    refine ⟨by omega, ?_⟩
    dsimp only at walked
    split at walked
    · exact .inl ⟨rfl, (Except.ok.inj walked).symm⟩
    · split at walked
      · cases walked
      · cases walked
      · next found => exact .inr ⟨found, walked⟩

theorem short_of_walk {parts : List String} {location : Location}
    (walked : tree.walk here parts = .ok location) : ∀ part ∈ parts, part.utf8ByteSize ≤ 255 := by
  induction parts generalizing here with
  | nil => nofun
  | cons name rest induction =>
      rw [List.forall_mem_cons]
      by_cases up : name = ".."
      · rw [walk, if_pos up] at walked
        exact ⟨by rw [up]; decide, induction walked⟩
      · obtain ⟨short, ⟨rfl, _⟩ | ⟨_, more⟩⟩ := walk_step tree here up walked
        · exact ⟨short, nofun⟩
        · exact ⟨short, induction more⟩

theorem open_of_walk {front : List String} {last : String} {location : Location}
    (walked : tree.walk here (front ++ [last]) = .ok location) : tree.Open (here.way front) := by
  induction front generalizing here with
  | nil => nofun
  | cons name rest induction =>
      rw [List.cons_append] at walked
      rw [Location.way]
      by_cases up : name = ".."
      · rw [walk, if_pos up] at walked
        rw [if_pos up]
        exact induction walked
      · obtain ⟨_, ⟨none, _⟩ | ⟨found, more⟩⟩ := walk_step tree here up walked
        · simp at none
        · rw [if_neg up, open_cons]
          exact ⟨found, induction more⟩

/-- A way whose names are short is lost only where something is missing or a file in its way. -/
theorem walk_error_of_short {parts : List String} {error : SystemError}
    (short : ∀ part ∈ parts, part.utf8ByteSize ≤ 255)
    (failed : tree.walk here parts = .error error) :
    error = .notFound ∨ error = .notDirectory := by
  induction parts generalizing here with
  | nil => cases failed
  | cons name rest induction =>
      rw [List.forall_mem_cons] at short
      rw [walk] at failed
      split at failed
      · exact induction short.2 failed
      · rw [if_neg (by omega)] at failed
        dsimp only at failed
        split at failed
        · cases failed
        · split at failed
          · exact .inl (Except.error.inj failed).symm
          · exact .inr (Except.error.inj failed).symm
          · exact induction short.2 failed

end Tree

end GraphConsole.Files
