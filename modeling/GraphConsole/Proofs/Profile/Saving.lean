import GraphConsole.Proofs.Files.Regularity
import GraphConsole.Proofs.Profile.Keyring

/-! Saving a profile, step by step: what it can come to in any tree, what it may change there, and
how far a change can be seen in what the store shows. -/

namespace GraphConsole

open GraphConsole.Files
open GraphConsole.Text

namespace Profile.Store

/-- What a save may have done at a place. -/
inductive Change (store : Store) (name key : String) (before : Tree)
    (answer : Except Fault Path × Tree) (place : Location) : Prop
  | kept (same : answer.2.find? place = before.find? place)
  | made (missing : before.find? place = none)
      (made : answer.2.find? place = some .directory)
      (way : place ∈ store.configHome.way ∨ place = store.directory.place ∨
        place = store.directory.place ++ [name])
  | stored (done : answer.1 = .ok (sensitiveFile (store.directory.child name)))
      (here : place = store.directory.place ++ [name, ".sensitive"])
      (free : before.find? place ≠ some .directory)
      (stored : answer.2.find? place = some (.file (Utf8.encode (document key).toList)))

/-- All that a save can come to: the name is refused, a directory on the way to the profile or its
own cannot be made, its file cannot be written, or the key is stored. -/
inductive Course (store : Store) (name key : String) (before : Tree) :
    Except Fault Path × Tree → Prop
  | refused (invalid : validName name = false) :
      Course store name key before (.error (.failure (.profileNotFound name)), before)
  | blocked (incident : Incident) (after : Tree) (valid : validName name = true)
      (grown : Tree.Grown store.directory.way before after)
      (regular : before.Regular → after.Regular) :
      Course store name key before (.error (.incident incident), after)
  | unwritten (incident : Incident) (after : Tree) (valid : validName name = true)
      (grown : Tree.Grown (store.directory.child name).way before after)
      (regular : before.Regular → after.Regular)
      (fits : (store.directory.child name).Fits)
      (closed : 4096 ≤ (sensitiveFile (store.directory.child name)).toText.utf8ByteSize ∨
        after.find? (store.directory.place ++ [name, ".sensitive"]) = some .directory) :
      Course store name key before (.error (.incident incident), after)
  | stored (middle : Tree) (valid : validName name = true)
      (grown : Tree.Grown (store.directory.child name).way before middle)
      (regular : before.Regular → middle.Regular)
      (fits : (sensitiveFile (store.directory.child name)).Fits)
      (opened : middle.Open (store.directory.child name).way)
      (free : middle.find? (store.directory.place ++ [name, ".sensitive"]) ≠ some .directory) :
      Course store name key before (.ok (sensitiveFile (store.directory.child name)),
        middle.put (store.directory.place ++ [name, ".sensitive"])
          (.file (Utf8.encode (document key).toList)))

variable {store : Store} {environmentKey : Option String} {name key other : String}
variable {before middle after tree : Tree} {answer : Except Fault Path × Tree}

theorem course_save (store : Store) (name key : String) (tree : Tree) :
    store.Course name key tree (store.save name key tree) := by
  cases valid : validName name with
  | false =>
      rw [save_of_invalid valid]
      exact .refused valid
  | true =>
      have attempt := Tree.attempt_ensureDirectories tree (store.directory.child name)
      rw [save, profileDirectory, if_pos valid]
      dsimp only
      generalize tree.ensureDirectories (store.directory.child name) = answer at attempt ⊢
      obtain ⟨outcome, middle⟩ := answer
      cases outcome with
      | error trouble =>
          have grown := attempt.failed trouble rfl
          rw [Path.parent_child] at grown
          exact .blocked _ middle valid grown attempt.regular
      | ok _ =>
          obtain ⟨fits, opened⟩ := attempt.made rfl
          have place := place_sensitiveFile store (named_of_validName valid)
          cases written : middle.writeText (sensitiveFile (store.directory.child name))
              (document key) with
          | error trouble =>
              have closed := Tree.writeText_error opened fits (by decide) (by decide) written
              rw [← sensitiveFile, place] at closed
              simp only [written]
              exact .unwritten _ middle valid attempt.grown attempt.regular fits closed
          | ok after =>
              obtain ⟨fits, _, free, rfl⟩ := Tree.put_of_writeText written
              simp only [written]
              rw [place] at free ⊢
              exact .stored middle valid attempt.grown attempt.regular fits opened free

section Changes

theorem change_of_grown (named : name ≠ "..")
    (grown : Tree.Grown (store.directory.child name).way before answer.2) (place : Location) :
    store.Change name key before answer place := by
  rcases grown.kept_or place with same | ⟨way, missing, made⟩
  · exact .kept same
  · exact .made missing made ((mem_way_profile named).mp way)

theorem Course.change (course : store.Course name key before answer) (place : Location) :
    store.Change name key before answer place := by
  cases course with
  | refused invalid => exact .kept rfl
  | blocked incident after valid grown regular =>
      exact change_of_grown (named_of_validName valid)
        (grown.mono (Path.way_subset_child store.directory name)) place
  | unwritten incident after valid grown regular fits closed =>
      exact change_of_grown (named_of_validName valid) grown place
  | stored middle valid grown regular fits opened free =>
      have named := named_of_validName valid
      by_cases here : place = store.directory.place ++ [name, ".sensitive"]
      · subst here
        refine .stored rfl rfl ?_ (Tree.find?_put_self (outward_below store _) middle _)
        intro directory
        exact free (grown.find?_of_some directory)
      · rcases grown.kept_or place with same | ⟨way, missing, made⟩
        · exact .kept ((Tree.find?_put_of_ne here middle _).trans same)
        · exact .made missing ((Tree.find?_put_of_ne here middle _).trans made)
            ((mem_way_profile named).mp way)

theorem Course.regular (course : store.Course name key before answer)
    (regular : before.Regular) : answer.2.Regular := by
  cases course with
  | refused invalid => exact regular
  | blocked incident after valid grown kept => exact kept regular
  | unwritten incident after valid grown kept fits closed => exact kept regular
  | stored middle valid grown kept fits opened free =>
      have profile : middle.find? (store.directory.place ++ [name]) = some .directory :=
        opened _ ((mem_way_profile (named_of_validName valid)).mpr (.inr (.inr rfl)))
      refine (kept regular).put ?_ (.inr free)
      rwa [List.append_cons, List.dropLast_concat]

end Changes

/-! What is missing on the way to the profiles. -/

/-- On the way to the profiles no directory is missing if they are there, and none that is missing
stands below them: the way does not turn back from a missing one. -/
structure Direct (store : Store) (tree : Tree) : Prop where
  led : tree.Missing store.configHome.way → tree.find? store.directory.place = none
  aside : ∀ place ∈ store.configHome.way, tree.find? place = none →
    ∀ child rest, place ≠ store.directory.place ++ child :: rest

/-- A configuration home that is written without `..` does not turn back. -/
theorem direct_of_onward (regular : tree.Regular) (onward : ".." ∉ store.configHome.parts) :
    store.Direct tree where
  led := by
    rintro ⟨place, member, missing⟩
    obtain ⟨rest, home⟩ := Location.prefix_of_mem_way onward member
    have directory : store.directory.place = place ++ (rest ++ ["profiles"]) := by
      rw [place_directory, Path.place, ← home, List.append_assoc]
    rw [directory]
    exact regular.none_below (by simp [missing]) (by simp)
  aside place member _ child rest below := by
    have short := (Location.prefix_of_mem_way onward member).length_le
    rw [below, place_directory, ← Path.place, List.length_append, List.length_append,
      List.length_singleton] at short
    omega

theorem Direct.vacant (direct : store.Direct tree) (missing : tree.Missing store.directory.way) :
    tree.find? store.directory.place = none := by
  obtain ⟨place, member, missing⟩ := missing
  rw [way_directory] at member
  rcases List.mem_append.mp member with home | directory
  · exact direct.led ⟨place, home, missing⟩
  · rwa [List.mem_singleton.mp directory] at missing

theorem Direct.notMem_way (direct : store.Direct tree) {child : String} {rest : List String}
    (missing : tree.find? (store.directory.place ++ child :: rest) = none) :
    store.directory.place ++ child :: rest ∉ store.directory.way := by
  intro member
  rw [way_directory] at member
  rcases List.mem_append.mp member with home | directory
  · exact direct.aside _ home missing child rest rfl
  · simp at directory

theorem Direct.apart (direct : store.Direct tree) (named : name ≠ "..") :
    store.Apart name tree := by
  intro child rest member missing
  rw [Path.way_child _ named] at member
  rcases List.mem_append.mp member with way | profile
  · exact absurd way (direct.notMem_way missing)
  · simpa using profile

/-- Below the profiles nothing is made on the way to them. -/
theorem Direct.kept_below (direct : store.Direct before)
    (grown : Tree.Grown store.directory.way before after) (child : String) (rest : List String) :
    after.find? (store.directory.place ++ child :: rest) =
      before.find? (store.directory.place ++ child :: rest) := by
  rcases grown.kept_or (store.directory.place ++ child :: rest) with same | ⟨way, missing, _⟩
  · exact same
  · exact absurd way (direct.notMem_way missing)

theorem Direct.directories_kept (direct : store.Direct before)
    (grown : Tree.Grown store.directory.way before after) :
    after.directories store.directory.place = before.directories store.directory.place := by
  refine grown.directories_of_apart fun place member missing below => ?_
  obtain ⟨child, rfl⟩ := eq_child_of_dropLast below
  exact direct.notMem_way missing member

/-! What the store shows. -/

theorem names_of_noDirectories (short : ∀ part ∈ store.directory.parts, part.utf8ByteSize ≤ 255)
    (room : store.directory.toText.utf8ByteSize < 4096)
    (none : tree.directories store.directory.place = []) : store.names tree = .ok [] := by
  obtain ⟨seen, told⟩ := Tree.isDirectory_of_short tree short room
  cases seen with
  | false => rw [names, told]
  | true =>
      obtain ⟨fits, opened⟩ := Tree.open_of_isDirectory told
      rw [names_of_open fits opened, none, List.mergeSort_nil]

theorem names_of_noDirectories_both
    (short : ∀ part ∈ store.directory.parts, part.utf8ByteSize ≤ 255)
    (none : before.directories store.directory.place = [])
    (noneAfter : after.directories store.directory.place = []) :
    store.names after = store.names before := by
  by_cases room : store.directory.toText.utf8ByteSize < 4096
  · rw [names_of_noDirectories short room none, names_of_noDirectories short room noneAfter]
  · rw [names, names, Tree.isDirectory_of_long before room, Tree.isDirectory_of_long after room]
    cases store.directory.holdsNul <;> rfl

section Loads

variable (environmentKey)

theorem load_congr
    (seen : validName other = true → after.isDirectory (store.directory.child other) =
      before.isDirectory (store.directory.child other))
    (read : validName other = true →
      before.isDirectory (store.directory.child other) = .ok true →
      after.text (sensitiveFile (store.directory.child other)) =
        before.text (sensitiveFile (store.directory.child other))) :
    store.load environmentKey after other = store.load environmentKey before other := by
  cases valid : validName other with
  | false => rw [load_of_invalid store after valid, load_of_invalid store before valid]
  | true =>
      by_cases blank : trimmed (environmentKey.getD "") = ""
      · rw [load_of_blank store after valid blank, load_of_blank store before valid blank,
          seen valid]
        cases told : before.isDirectory (store.directory.child other) with
        | error trouble => rfl
        | ok there =>
            cases there with
            | false => rfl
            | true => simp only [storedKey, read valid told]
      · rw [load_of_filled store after valid blank, load_of_filled store before valid blank]

/-- Where there are no profiles and none is made, there is no difference between trees. -/
theorem load_of_vacant (regular : before.Regular)
    (vacant : before.find? store.directory.place = none)
    (short : ∀ part ∈ (store.directory.child other).parts, part.utf8ByteSize ≤ 255)
    (below : after.find? (store.directory.place ++ [other]) =
      before.find? (store.directory.place ++ [other])) :
    store.load environmentKey after other = store.load environmentKey before other := by
  have none : before.find? (store.directory.place ++ [other]) = none :=
    regular.none_below (by simp [vacant]) (by simp)
  have absent {tree : Tree} (gone : tree.find? (store.directory.place ++ [other]) = Option.none)
      (valid : validName other = true) :
      tree.find? (store.directory.child other).place ≠ some .directory := by
    rw [Path.place_child _ (named_of_validName valid), gone]
    nofun
  refine load_congr environmentKey (fun valid => ?_) fun valid there => ?_
  · exact Tree.isDirectory_of_absent_both short (absent none valid)
      (absent (below.trans none) valid)
  · exact absurd (Tree.find?_of_isDirectory there) (absent none valid)

theorem load_of_agreement
    (way : ∀ place ∈ store.directory.way, after.find? place = before.find? place)
    (below : ∀ rest, after.find? (store.directory.place ++ other :: rest) =
      before.find? (store.directory.place ++ other :: rest)) :
    store.load environmentKey after other = store.load environmentKey before other := by
  refine load_congr environmentKey (fun valid => Tree.isDirectory_congr way ?_) fun valid _ =>
    Tree.text_congr ?_ ?_
  · rw [Path.place_child _ (named_of_validName valid), below]
  · rw [Path.way_child _ (named_of_validName valid)]
    exact List.forall_mem_append.mpr ⟨way, List.forall_mem_singleton.mpr (below [])⟩
  · rw [← sensitiveFile, place_sensitiveFile store (named_of_validName valid), below]

end Loads

theorem short_of_home (short : ∀ part ∈ store.configHome.parts, part.utf8ByteSize ≤ 255) :
    ∀ part ∈ store.directory.parts, part.utf8ByteSize ≤ 255 := by
  rw [directory, Path.parts_child, List.forall_mem_append, List.forall_mem_singleton]
  exact ⟨short, by decide⟩

theorem short_of_name (short : ∀ part ∈ store.configHome.parts, part.utf8ByteSize ≤ 255)
    (shortName : name.utf8ByteSize ≤ 255) :
    ∀ part ∈ (store.directory.child name).parts, part.utf8ByteSize ≤ 255 := by
  rw [Path.parts_child, List.forall_mem_append, List.forall_mem_singleton]
  exact ⟨short_of_home short, shortName⟩

end Profile.Store

end GraphConsole
