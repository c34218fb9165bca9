import GraphConsole.Command.Credentials
import GraphConsole.Proofs.Profile.Saving
import GraphConsole.Proofs.Service.Conduct

/-! Saving a profile is confined to it. It writes its file and makes the directories that lead to
it, and nothing else. All that the store shows of other profiles stays as it was, and when saving
fails, all that it shows, unless a way turns back or goes beyond the limits of the system. -/

namespace GraphConsole

open GraphConsole.Files
open GraphConsole.Text

namespace Command

open GraphConsole.Service

/-- A blank key ends the command before it touches anything. -/
theorem runIn_saveProfile_blank (store : Profile.Store) (name : String) {key : String}
    (blank : trimmed key = "") (world : World) :
    runIn (saveProfile store name key) world =
      (.error (.failure (.authenticationFailed name "the provided API key was empty")), world) := by
  have empty : (trimmed key).isEmpty = true := by simp [blank]
  unfold saveProfile
  rw [if_pos empty]
  rfl

theorem files_saveProfile (store : Profile.Store) (name : String) {key : String}
    (filled : trimmed key ≠ "") (world : World) :
    (runIn (saveProfile store name key) world).2.files =
      (store.save name (trimmed key) world.files).2 := by
  have given : ¬ (trimmed key).isEmpty = true := by simpa using filled
  unfold saveProfile
  rw [if_neg given]
  have run := runIn_onFiles (store.save name (trimmed key)) world
  cases saved : (store.save name (trimmed key) world.files).1 with
  | error fault =>
      rw [saved] at run
      rw [runIn_bind_error run]
  | ok path =>
      rw [saved] at run
      obtain ⟨record, told⟩ := runIn_info
        ("Saved API key for profile " ++ name ++ " to " ++ path.toText)
        { world with files := (store.save name (trimmed key) world.files).2 }
      rw [runIn_bind_ok run, runIn_bind_ok told]
      rfl

end Command

namespace Profile.Store

open GraphConsole.Service

/-- What the system takes as names on a way where directories are missing, and as the path of the
file of a profile that is missing where it takes that of its directory. -/
structure Roomy (store : Store) (name : String) (tree : Tree) : Prop where
  short : tree.Missing store.directory.way → ∀ part ∈ store.configHome.parts,
    part.utf8ByteSize ≤ 255
  room : tree.find? (store.directory.place ++ [name]) = none →
    (store.directory.child name).Fits →
    (sensitiveFile (store.directory.child name)).toText.utf8ByteSize < 4096

/-- Names in ascending order, before and after one is put among them. -/
structure Inserted (name : String) (before after : List String) : Prop where
  ascending : before.Pairwise (· < ·)
  ascendingAfter : after.Pairwise (· < ·)
  members : ∀ other, other ∈ after ↔ other = name ∨ other ∈ before

/-- What saving a profile does to a tree and to what a store shows of it. -/
structure Confined (store : Store) (environmentKey : Option String) (name key : String)
    (before : Tree) (answer : Except Fault Path × Tree) : Prop where
  changes : ∀ place, store.Change name key before answer place
  regular : answer.2.Regular
  files : ∀ fault, answer.1 = .error fault → ∀ place octets,
    before.find? place = some (.file octets) → answer.2.find? place = some (.file octets)
  refused : validName name = false →
    answer = (.error (.failure (.profileNotFound name)), before)
  stored : ∀ file, answer.1 = .ok file →
    file = sensitiveFile (store.directory.child name) ∧
      answer.2.find? (store.directory.place ++ [name, ".sensitive"]) =
        some (.file (Utf8.encode (document key).toList))
  listed : ∀ file, answer.1 = .ok file → store.Direct before →
    ∃ names more, store.names before = .ok names ∧ store.names answer.2 = .ok more ∧
      Inserted name names more
  others : ∀ file, answer.1 = .ok file → store.Direct before → ∀ other, other ≠ name →
    (before.Missing store.directory.way → other.utf8ByteSize ≤ 255) →
    store.load environmentKey answer.2 other = store.load environmentKey before other
  unlisted : ∀ fault, answer.1 = .error fault → store.Direct before → store.Roomy name before →
    store.names answer.2 = store.names before
  unloaded : ∀ fault, answer.1 = .error fault → store.Direct before → store.Roomy name before →
    ∀ other, (before.Missing store.directory.way → other.utf8ByteSize ≤ 255) →
    store.load environmentKey answer.2 other = store.load environmentKey before other

variable {store : Store} {environmentKey : Option String} {name key other : String}
variable {before middle after tree : Tree} {answer : Except Fault Path × Tree}

/-! A save that comes to its end. -/

section Stored

variable (regular : before.Regular) (direct : store.Direct before) (named : name ≠ "..")
  (grown : Tree.Grown (store.directory.child name).way before middle)
  (opened : middle.Open (store.directory.child name).way)

include grown opened in
theorem open_before (present : ¬ before.Missing store.directory.way) :
    before.Open store.directory.way := by
  intro place member
  have way := Path.way_subset_child store.directory name member
  rcases grown.kept_or place with same | ⟨_, missing, _⟩
  · rw [← same]
    exact opened place way
  · exact absurd missing (Tree.not_missing present place member)

include regular direct grown opened in
theorem names_before (fits : store.directory.Fits) : store.names before =
    .ok ((before.directories store.directory.place).mergeSort fun a b => decide (a ≤ b)) := by
  by_cases missing : before.Missing store.directory.way
  · have none := regular.directories_of_none (direct.vacant missing)
    rw [names_of_noDirectories fits.short fits.room none, none, List.mergeSort_nil]
  · exact names_of_open fits (open_before grown opened missing)

include named grown opened in
theorem mem_directories_after (saved : store.Saved name key before after) (other : String) :
    other ∈ after.directories store.directory.place ↔
      other = name ∨ other ∈ before.directories store.directory.place := by
  rw [saved.directories, List.mem_append]
  split
  · rw [List.mem_singleton, or_comm]
  · next present =>
    have among : name ∈ before.directories store.directory.place := by
      have made := opened _ ((mem_way_profile named).mpr (.inr (.inr rfl)))
      rcases grown.kept_or (store.directory.place ++ [name]) with same | ⟨_, missing, _⟩
      · exact Tree.mem_directories (outward_below store _) (same.symm.trans made)
      · exact absurd missing present
    simp only [List.not_mem_nil, or_false]
    constructor
    · exact .inr
    · rintro (rfl | member)
      · exact among
      · exact member

variable (fits : (sensitiveFile (store.directory.child name)).Fits)
  (saved : store.Saved name key before after)

include saved in
theorem open_after : after.Open store.directory.way :=
  fun place member => saved.opened place (Path.way_subset_child store.directory name member)

include regular direct named grown opened fits saved in
theorem names_inserted (regularAfter : after.Regular) :
    ∃ names more, store.names before = .ok names ∧ store.names after = .ok more ∧
      Inserted name names more := by
  have fitsDirectory := fits.of_child.of_child
  refine ⟨_, _, names_before regular direct grown opened fitsDirectory,
    names_of_open fitsDirectory (open_after saved),
    Sequence.pairwise_lt_mergeSort id (regular.nodup_directories _),
    Sequence.pairwise_lt_mergeSort id (regularAfter.nodup_directories _), fun other => ?_⟩
  rw [List.mem_mergeSort, List.mem_mergeSort]
  exact mem_directories_after named grown opened saved other

include regular direct grown opened fits saved in
theorem load_kept (different : other ≠ name)
    (short : before.Missing store.directory.way → other.utf8ByteSize ≤ 255) :
    store.load environmentKey after other = store.load environmentKey before other := by
  by_cases missing : before.Missing store.directory.way
  · have home := fits.of_child.of_child.of_child.short
    exact load_of_vacant environmentKey regular (direct.vacant missing)
      (short_of_name home (short missing)) (saved.others other [] different)
  · refine load_of_agreement environmentKey (fun place member => ?_)
      fun rest => saved.others other rest different
    rw [open_before grown opened missing place member]
    exact open_after saved place member

end Stored

/-! A save that fails. -/

/-- Where saving fails nothing has changed, or some of the directories that lead to the profiles
have been made of which there were none yet. -/
theorem Course.undone {fault : Fault} (course : store.Course name key before answer)
    (failed : answer.1 = .error fault) (regular : before.Regular) (direct : store.Direct before)
    (roomy : store.Roomy name before) :
    answer.2 = before ∨
      before.Missing store.directory.way ∧ Tree.Grown store.directory.way before answer.2 := by
  cases course with
  | refused invalid => exact .inl rfl
  | blocked incident after valid grown kept =>
      by_cases missing : before.Missing store.directory.way
      · exact .inr ⟨missing, grown⟩
      · exact .inl (grown.eq_of_not_missing missing)
  | unwritten incident after valid grown kept fits closed =>
      have named := named_of_validName valid
      have present : before.find? (store.directory.place ++ [name]) ≠ none := by
        intro absent
        -- there is room for the file, so a directory has its place, and none of these is new
        have occupied := closed.resolve_left (Nat.not_le.mpr (roomy.room absent fits))
        have none : before.find? (store.directory.place ++ [name, ".sensitive"]) = none := by
          rw [List.append_cons]
          exact regular.none_below (by simp [absent]) (by simp)
        rcases grown.kept_or (store.directory.place ++ [name, ".sensitive"]) with
          same | ⟨way, missing, _⟩
        · rw [same, none] at occupied
          cases occupied
        · exact absurd (direct.apart named _ _ way missing).2 (by simp)
      obtain ⟨entry, found⟩ := Option.ne_none_iff_exists'.mp present
      have directory := regular.directory_above (by simp) found
      refine .inl (grown.eq_of_not_missing ?_)
      rintro ⟨place, member, missing⟩
      rcases (mem_way_profile named).mp member with home | rfl | rfl
      · rw [direct.led ⟨place, home, missing⟩] at directory
        cases directory
      · rw [missing] at directory
        cases directory
      · exact present missing
  | stored middle valid grown kept fits opened free => cases failed

theorem Course.unlisted {fault : Fault} (course : store.Course name key before answer)
    (failed : answer.1 = .error fault) (regular : before.Regular) (direct : store.Direct before)
    (roomy : store.Roomy name before) : store.names answer.2 = store.names before := by
  rcases course.undone failed regular direct roomy with same | ⟨missing, grown⟩
  · rw [same]
  · have none := regular.directories_of_none (direct.vacant missing)
    exact names_of_noDirectories_both (short_of_home (roomy.short missing)) none
      ((direct.directories_kept grown).trans none)

theorem Course.unloaded {fault : Fault} (course : store.Course name key before answer)
    (failed : answer.1 = .error fault) (regular : before.Regular) (direct : store.Direct before)
    (roomy : store.Roomy name before)
    (short : before.Missing store.directory.way → other.utf8ByteSize ≤ 255) :
    store.load environmentKey answer.2 other = store.load environmentKey before other := by
  rcases course.undone failed regular direct roomy with same | ⟨missing, grown⟩
  · rw [same]
  · exact load_of_vacant environmentKey regular (direct.vacant missing)
      (short_of_name (roomy.short missing) (short missing)) (direct.kept_below grown other [])

theorem Course.confined (course : store.Course name key before answer)
    (regular : before.Regular) (environmentKey : Option String) :
    store.Confined environmentKey name key before answer := by
  constructor
  case changes => exact course.change
  case regular => exact course.regular regular
  case unlisted => exact fun fault failed => course.unlisted failed regular
  case unloaded =>
    exact fun fault failed direct roomy other short =>
      course.unloaded failed regular direct roomy short
  case files =>
    intro fault failed place octets found
    cases course.change place with
    | kept same => exact same.trans found
    | made missing made way =>
        rw [found] at missing
        cases missing
    | stored done here free stored =>
        rw [failed] at done
        cases done
  case refused =>
    intro invalid
    cases course with
    | refused _ => rfl
    | blocked incident after valid grown kept => simp [invalid] at valid
    | unwritten incident after valid grown kept fits closed => simp [invalid] at valid
    | stored middle valid grown kept fits opened free => simp [invalid] at valid
  case stored =>
    intro file done
    cases course with
    | refused invalid => cases done
    | blocked incident after valid grown kept => cases done
    | unwritten incident after valid grown kept fits closed => cases done
    | stored middle valid grown kept fits opened free =>
        exact ⟨(Except.ok.inj done).symm,
          Tree.find?_put_self (outward_below store _) middle _⟩
  case listed =>
    intro file done direct
    have regularAfter := course.regular regular
    cases course with
    | refused invalid => cases done
    | blocked incident after valid grown kept => cases done
    | unwritten incident after valid grown kept fits closed => cases done
    | stored middle valid grown kept fits opened free =>
        have named := named_of_validName valid
        exact names_inserted regular direct named grown opened fits
          ((direct.apart named).saved_put named grown opened free key) regularAfter
  case others =>
    intro file done direct other different short
    cases course with
    | refused invalid => cases done
    | blocked incident after valid grown kept => cases done
    | unwritten incident after valid grown kept fits closed => cases done
    | stored middle valid grown kept fits opened free =>
        have named := named_of_validName valid
        exact load_kept regular direct grown opened fits
          ((direct.apart named).saved_put named grown opened free key) different short

/-- Whatever its name and its key, saving a profile is confined to it, and with a blank key the
command that saves it leaves the world as it is. -/
theorem save_confined (store : Store) (environmentKey : Option String) (tree : Tree)
    (name key : String) (regular : tree.Regular) :
    store.Confined environmentKey name key tree (store.save name key tree) ∧
      ∀ world : World,
        (trimmed key = "" → runIn (Command.saveProfile store name key) world =
          (.error (.failure (.authenticationFailed name "the provided API key was empty")),
            world)) ∧
        (trimmed key ≠ "" → (runIn (Command.saveProfile store name key) world).2.files =
          (store.save name (trimmed key) world.files).2) :=
  ⟨(course_save store name key tree).confined regular environmentKey, fun world =>
    ⟨fun blank => Command.runIn_saveProfile_blank store name blank world,
      fun filled => Command.files_saveProfile store name filled world⟩⟩

theorem regular_sharedTree : sharedTree.Regular :=
  ⟨by decide, by decide⟩

/-- A profile that cannot be made since a file has its place, and one that can. -/
theorem save_confined_shared :
    sharedTree.Regular ∧ shared.Direct sharedTree ∧ shared.Roomy "notes" sharedTree ∧
      (∃ fault, (shared.save "notes" "k" sharedTree).1 = .error fault) ∧
      shared.names (shared.save "notes" "k" sharedTree).2 = shared.names sharedTree ∧
      ∃ names more, shared.names sharedTree = .ok names ∧
        shared.names (shared.save "b" "k" sharedTree).2 = .ok more ∧ Inserted "b" names more := by
  have direct : shared.Direct sharedTree := direct_of_onward regular_sharedTree (by decide)
  have roomy : shared.Roomy "notes" sharedTree := ⟨fun _ => by decide, fun _ _ => by decide⟩
  have refused : ∃ fault, (shared.save "notes" "k" sharedTree).1 = .error fault := ⟨_, rfl⟩
  have done : (shared.save "b" "k" sharedTree).1 =
      .ok (sensitiveFile (shared.directory.child "b")) := rfl
  obtain ⟨fault, failed⟩ := refused
  exact ⟨regular_sharedTree, direct, roomy, ⟨fault, failed⟩,
    (save_confined shared none sharedTree "notes" "k" regular_sharedTree).1.unlisted fault failed
      direct roomy,
    (save_confined shared none sharedTree "b" "k" regular_sharedTree).1.listed _ done direct⟩

/-! What comes to light beyond the limits of the system and where a way turns back. -/

/-- A profile whose directory can be made, but whose file has no room in a path, is half made. -/
theorem half_made (valid : validName name = true) (fits : (store.directory.child name).Fits)
    (clear : tree.Clear (store.directory.child name).way)
    (long : 4096 ≤ (sensitiveFile (store.directory.child name)).toText.utf8ByteSize)
    (blank : trimmed (environmentKey.getD "") = "") (key : String) :
    ∃ incident after raised, store.save name key tree = (.error (.incident incident), after) ∧
      store.load environmentKey after name = .error (.incident raised) := by
  obtain ⟨made, _, opened⟩ := Tree.cleared_ensureDirectories tree clear fits
  generalize ensured : tree.ensureDirectories (store.directory.child name) = answer
    at made opened
  obtain ⟨_, middle⟩ := answer
  obtain rfl := made
  have noNul : (sensitiveFile (store.directory.child name)).holdsNul = false := by
    rw [sensitiveFile, Path.holdsNul_child, fits.noNul]
    decide
  have located : middle.locate (sensitiveFile (store.directory.child name)) =
      .error .nameTooLong := by
    rw [Tree.locate, if_pos long]
  have unwritten : middle.writeText (sensitiveFile (store.directory.child name)) (document key) =
      .error (.system .nameTooLong (sensitiveFile (store.directory.child name)).toText) := by
    rw [Tree.writeText, Tree.writeOctets, noNul, if_neg (by simp), located]
  have unread : middle.text (sensitiveFile (store.directory.child name)) =
      .error (.system .nameTooLong (sensitiveFile (store.directory.child name)).toText) := by
    rw [Tree.text, Tree.octets, noNul, if_neg (by simp), Tree.status, located]
  have place : (store.directory.child name).place = store.directory.place ++ [name] :=
    Path.place_child _ (named_of_validName valid)
  have there : middle.isDirectory (store.directory.child name) = .ok true := by
    have way : middle.Open store.directory.way := fun place member =>
      opened place (Path.way_subset_child store.directory name member)
    rw [Tree.isDirectory_of_open way fits, place,
      opened _ ((mem_way_profile (named_of_validName valid)).mpr (.inr (.inr rfl)))]
    rfl
  have saved : store.save name key tree = (.error (.incident
      (Trouble.system .nameTooLong
        (sensitiveFile (store.directory.child name)).toText).toIncident), middle) := by
    rw [save, profileDirectory, if_pos valid]
    simp only [ensured, unwritten]
  have loaded : store.load environmentKey middle name = .error (.incident
      (Trouble.system .nameTooLong
        (sensitiveFile (store.directory.child name)).toText).toIncident) := by
    rw [load_of_blank store middle valid blank, there]
    simp only [storedKey, unread]
    rfl
  exact ⟨_, middle, _, saved, loaded⟩

/-- A name that is too long is told of as soon as there are profiles. -/
theorem load_of_tooLong (opened : tree.Open store.directory.way) (valid : validName other = true)
    (blank : trimmed (environmentKey.getD "") = "") (long : 255 < other.utf8ByteSize)
    (noNul : (store.directory.child other).holdsNul = false) :
    ∃ incident, store.load environmentKey tree other = .error (.incident incident) := by
  have located : tree.locate (store.directory.child other) = .error .nameTooLong := by
    rw [Tree.locate]
    split
    · rfl
    · exact Tree.walk_of_tooLong opened (named_of_validName valid) long []
  rw [load_of_blank store tree valid blank, Tree.isDirectory_of_tooLong located noNul]
  exact ⟨_, rfl⟩

def repeated (n : Nat) : String :=
  String.ofList (List.replicate n 'n')

theorem size_repeated (n : Nat) : (repeated n).utf8ByteSize = n := by
  induction n with
  | zero => rfl
  | succ n induction =>
      rw [repeated, List.replicate_succ, ← List.singleton_append, String.ofList_append,
        String.utf8ByteSize_append, ← repeated, induction]
      exact Nat.add_comm 1 n

theorem notMem_repeated {c : Char} (other : c ≠ 'n') (n : Nat) : c ∉ (repeated n).toList := by
  simp [repeated, List.mem_replicate, other]

theorem repeated_ne {n : Nat} {s : String} (short : s.utf8ByteSize < n) : repeated n ≠ s := by
  rintro rfl
  rw [size_repeated] at short
  omega

theorem validName_repeated {n : Nat} (long : 2 < n) : validName (repeated n) = true := by
  have empty : repeated n ≠ "" := repeated_ne (Nat.lt_of_le_of_lt (by decide) long)
  have dot : repeated n ≠ "." := repeated_ne (Nat.lt_of_le_of_lt (by decide) long)
  have dots : repeated n ≠ ".." := repeated_ne (Nat.lt_of_le_of_lt (by decide) long)
  have slash := notMem_repeated (c := '/') (by decide) n
  have backslash := notMem_repeated (c := '\\') (by decide) n
  simp [validName, slash, backslash, empty, dot, dots]

theorem save_of_blocked (valid : validName name = true) {trouble : Trouble}
    (ensured : tree.ensureDirectories (store.directory.child name) = (.error trouble, after))
    (key : String) : store.save name key tree = (.error (.incident trouble.toIncident), after) := by
  rw [save, profileDirectory, if_pos valid]
  simp only [ensured]

theorem load_of_missing (located : tree.locate (store.directory.child name) = .error .notFound)
    (valid : validName name = true) (blank : trimmed (environmentKey.getD "") = "") :
    store.load environmentKey tree name = .error (.failure (.profileNotFound name)) := by
  rw [load_of_blank store tree valid blank, Tree.isDirectory_of_missing located]

/-- With the first profile a name that is too long is no longer just unknown. -/
theorem load_changes_tooLong :
    ∃ file after, shared.save "a" "k" ⟨[]⟩ = (.ok file, after) ∧
      shared.load none after (repeated 256) ≠ shared.load none ⟨[]⟩ (repeated 256) := by
  have blank : trimmed ((none : Option String).getD "") = "" := by decide
  have valid : validName (repeated 256) = true := validName_repeated (by decide)
  have size := size_repeated 256
  have noNul : (shared.directory.child (repeated 256)).holdsNul = false := by
    rw [Path.holdsNul_child]
    simpa using ⟨by decide, notMem_repeated (by decide) 256⟩
  have room : (shared.directory.child (repeated 256)).toText.utf8ByteSize < 4096 := by
    have bound := Path.size_toText_child shared.directory (repeated 256)
    have home : shared.directory.toText.utf8ByteSize = 12 := by decide
    omega
  have parts : (shared.directory.child (repeated 256)).parts =
      "cfg" :: (["profiles"] ++ [repeated 256]) := rfl
  have unknown : shared.load none ⟨[]⟩ (repeated 256) = _ :=
    load_of_missing (Tree.locate_of_missing parts (by decide) (by decide) rfl room) valid blank
  have saved : ∃ after, shared.save "a" "k" ⟨[]⟩ =
      (.ok (sensitiveFile (shared.directory.child "a")), after) ∧
        after.Open shared.directory.way := by
    refine ⟨_, rfl, ?_⟩
    unfold Tree.Open
    decide
  obtain ⟨after, saved, opened⟩ := saved
  obtain ⟨incident, raised⟩ := load_of_tooLong opened valid blank (by omega) noNul
  refine ⟨_, after, saved, ?_⟩
  rw [unknown, raised]
  intro same
  cases same

def winding : Store := ⟨⟨.relative, ["a", ".."]⟩⟩

def windingTree : Tree :=
  ⟨[(["profiles"], .directory), (["profiles", "p"], .directory)]⟩

def lengthy : Store := ⟨⟨.relative, ["a", repeated 256]⟩⟩

theorem noNul_lengthy : (lengthy.directory.child "b").holdsNul = false := by
  simpa [lengthy, directory, Path.child, Path.holdsNul] using notMem_repeated (by decide) 256

theorem room_lengthy : (lengthy.directory.child "b").toText.utf8ByteSize < 4096 := by
  have size := size_repeated 256
  have sizes : (Path.toText ⟨.relative, ["a"]⟩).utf8ByteSize = 1 ∧
      "profiles".utf8ByteSize = 8 ∧ "b".utf8ByteSize = 1 := by decide
  have home : lengthy.configHome.toText.utf8ByteSize ≤ _ :=
    Path.size_toText_child ⟨.relative, ["a"]⟩ (repeated 256)
  have directory : lengthy.directory.toText.utf8ByteSize ≤ _ :=
    Path.size_toText_child lengthy.configHome "profiles"
  have profile := Path.size_toText_child lengthy.directory "b"
  omega

theorem lost_lengthy {path : Path} (between : List String) (last : String)
    (spelled : path = ⟨.relative, "a" :: (between ++ [last])⟩)
    (room : path.toText.utf8ByteSize < 4096) : Tree.locate ⟨[]⟩ path = .error .notFound := by
  subst spelled
  exact Tree.locate_of_missing rfl (by decide) (by decide) rfl room

theorem tooLong_lengthy {path : Path} {rest : List String}
    (spelled : path = ⟨.relative, ["a"] ++ repeated 256 :: rest⟩)
    (room : path.toText.utf8ByteSize < 4096) :
    (⟨[(["a"], .directory)]⟩ : Tree).locate path = .error .nameTooLong := by
  have opened : (⟨[(["a"], .directory)]⟩ : Tree).Open (Location.way [] ["a"]) := by
    unfold Tree.Open
    decide
  subst spelled
  rw [Tree.locate, if_neg (by omega)]
  exact Tree.walk_of_tooLong opened (repeated_ne (by decide)) (by rw [size_repeated]; decide) rest

/-- A directory is made on the way to one that cannot be. -/
theorem names_change_lengthy :
    ∃ fault after, lengthy.save "b" "k" ⟨[]⟩ = (.error fault, after) ∧
      lengthy.names after ≠ lengthy.names ⟨[]⟩ := by
  have noNul := noNul_lengthy
  have noNulDirectory : lengthy.directory.holdsNul = false := by
    rw [Path.holdsNul_child, Bool.or_eq_false_iff] at noNul
    exact noNul.1
  have noNulHome : lengthy.configHome.holdsNul = false := by
    rw [directory, Path.holdsNul_child, Bool.or_eq_false_iff] at noNulDirectory
    exact noNulDirectory.1
  have room := room_lengthy
  have roomDirectory := Path.room_of_child room
  have roomHome := Path.room_of_child roomDirectory
  have lostProfile : Tree.locate ⟨[]⟩ (lengthy.directory.child "b") = .error .notFound :=
    lost_lengthy [repeated 256, "profiles"] "b" rfl room
  have lostDirectory : Tree.locate ⟨[]⟩ lengthy.directory = .error .notFound :=
    lost_lengthy [repeated 256] "profiles" rfl roomDirectory
  have lostHome : Tree.locate ⟨[]⟩ lengthy.configHome = .error .notFound :=
    lost_lengthy [] (repeated 256) rfl roomHome
  have first : Tree.ensureDirectories ⟨[]⟩ ⟨.relative, ["a"]⟩ =
      (.ok (), ⟨[(["a"], .directory)]⟩) := rfl
  have home : Tree.ensureDirectories ⟨[]⟩ lengthy.configHome =
      (.error (.system .nameTooLong lengthy.configHome.toText), ⟨[(["a"], .directory)]⟩) := by
    have spelled : lengthy.configHome = Path.child ⟨.relative, ["a"]⟩ (repeated 256) := rfl
    rw [spelled] at lostHome noNulHome roomHome ⊢
    rw [Tree.ensureDirectories_of_missing lostHome noNulHome, first]
    exact Tree.ensureDirectory_of_tooLong (tooLong_lengthy rfl roomHome) noNulHome
  have directory : Tree.ensureDirectories ⟨[]⟩ lengthy.directory =
      (.error (.system .nameTooLong lengthy.configHome.toText), ⟨[(["a"], .directory)]⟩) := by
    have ensured : Tree.ensureDirectories ⟨[]⟩ lengthy.directory = _ :=
      Tree.ensureDirectories_of_missing lostDirectory noNulDirectory
    rw [ensured, home]
  have saved : lengthy.save "b" "k" ⟨[]⟩ = (.error (.incident
      (Trouble.system .nameTooLong lengthy.configHome.toText).toIncident),
      ⟨[(["a"], .directory)]⟩) := by
    refine save_of_blocked (by decide) ?_ "k"
    rw [Tree.ensureDirectories_of_missing lostProfile noNul, directory]
  have before : lengthy.names ⟨[]⟩ = .ok [] := by
    rw [names, Tree.isDirectory_of_missing lostDirectory]
  have after : lengthy.names ⟨[(["a"], .directory)]⟩ = .error (.incident
      (Trouble.system .nameTooLong lengthy.directory.toText).toIncident) := by
    have found : Tree.locate _ lengthy.directory = _ := tooLong_lengthy rfl roomDirectory
    rw [names, Tree.isDirectory_of_tooLong found noNulDirectory]
  refine ⟨_, _, saved, ?_⟩
  rw [before, after]
  intro same
  cases same

def tall : Store := ⟨⟨.relative, List.replicate 16 (repeated 254)⟩⟩

theorem size_toText_replicate (part : String) (n : Nat) :
    (Path.toText ⟨.relative, List.replicate (n + 1) part⟩).utf8ByteSize =
      (n + 1) * part.utf8ByteSize + n := by
  induction n with
  | zero => simp [Path.toText, joined, Anchor.toText]
  | succ n induction =>
      have next : (⟨.relative, List.replicate (n + 1 + 1) part⟩ : Path) =
          Path.child ⟨.relative, List.replicate (n + 1) part⟩ part := by
        rw [List.replicate_succ']
        rfl
      rw [next, Path.size_toText_child_of_parts (by simp), induction, Nat.succ_mul (n + 1)]
      omega

theorem fits_tall : (tall.directory.child "b").Fits ∧
    4096 ≤ (sensitiveFile (tall.directory.child "b")).toText.utf8ByteSize := by
  have home : tall.configHome.toText.utf8ByteSize = 4079 := by
    rw [tall, size_toText_replicate, size_repeated]
  have sizes : "profiles".utf8ByteSize = 8 ∧ "b".utf8ByteSize = 1 ∧
      ".sensitive".utf8ByteSize = 10 := by decide
  have directory : tall.directory.toText.utf8ByteSize = _ :=
    Path.size_toText_child_of_parts (by simp [tall]) "profiles"
  have profile : (tall.directory.child "b").toText.utf8ByteSize = _ :=
    Path.size_toText_child_of_parts (by simp [Store.directory]) "b"
  have file : (sensitiveFile (tall.directory.child "b")).toText.utf8ByteSize = _ :=
    Path.size_toText_child_of_parts (by simp) ".sensitive"
  refine ⟨⟨?_, ?_, by omega⟩, by omega⟩
  · simpa [tall, Store.directory, Path.child, Path.holdsNul, List.mem_replicate] using
      notMem_repeated (by decide) 254
  · have part : (repeated 254).utf8ByteSize ≤ 255 := by
      rw [size_repeated]
      decide
    refine short_of_name (fun name member => ?_) (by decide)
    rwa [List.eq_of_mem_replicate member]

theorem load_changes_tall :
    ∃ fault after, tall.save "b" "k" ⟨[]⟩ = (.error fault, after) ∧
      tall.load none after "b" ≠ tall.load none ⟨[]⟩ "b" := by
  have blank : trimmed ((none : Option String).getD "") = "" := by decide
  have valid : validName "b" = true := by decide
  obtain ⟨fits, long⟩ := fits_tall
  have clear : Tree.Clear ⟨[]⟩ (tall.directory.child "b").way := by
    intro place _ octets found
    rw [Tree.find?] at found
    split at found <;> cases found
  obtain ⟨incident, after, raised, saved, loaded⟩ := half_made valid fits clear long blank "k"
  have parts : (tall.directory.child "b").parts =
      repeated 254 :: ((List.replicate 15 (repeated 254) ++ ["profiles"]) ++ ["b"]) := rfl
  have up : repeated 254 ≠ ".." := repeated_ne (by decide)
  have root : repeated 254 ≠ "/" := repeated_ne (by decide)
  have missing : Tree.find? ⟨[]⟩ (Location.start (tall.directory.child "b") ++ [repeated 254]) =
      none := by
    simp [Tree.find?, Location.isOutward, Location.start, tall, Store.directory, Path.child, up,
      root]
  have unknown : tall.load none ⟨[]⟩ "b" = _ :=
    load_of_missing (Tree.locate_of_missing parts up (by rw [size_repeated]; decide) missing
      fits.room) valid blank
  refine ⟨_, after, saved, ?_⟩
  rw [unknown, loaded]
  intro same
  cases same

/-- What the store shows changes with a name that is too long, with a way that turns back from a
missing directory, to the profiles or out of them, and with names and paths on the way that the
system does not take. -/
theorem not_confined_everywhere :
    (∃ file after, shared.save "a" "k" ⟨[]⟩ = (.ok file, after) ∧
        shared.load none after (repeated 256) ≠ shared.load none ⟨[]⟩ (repeated 256)) ∧
      (windingTree.Regular ∧ ∃ file after, winding.save "b" "k" windingTree = (.ok file, after) ∧
        winding.load none after "p" ≠ winding.load none windingTree "p") ∧
      (∃ file after, wayward.save "b" "k" ⟨[]⟩ = (.ok file, after) ∧
        wayward.load none after "a" ≠ wayward.load none ⟨[]⟩ "a") ∧
      (∃ fault after, lengthy.save "b" "k" ⟨[]⟩ = (.error fault, after) ∧
        lengthy.names after ≠ lengthy.names ⟨[]⟩) ∧
      ∃ fault after, tall.save "b" "k" ⟨[]⟩ = (.error fault, after) ∧
        tall.load none after "b" ≠ tall.load none ⟨[]⟩ "b" := by
  refine ⟨load_changes_tooLong, ⟨⟨by decide, by decide⟩, _, _, rfl, ?_⟩, ⟨_, _, rfl, ?_⟩,
    names_change_lengthy, load_changes_tall⟩
  · have unknown : winding.load none windingTree "p" =
        .error (.failure (.profileNotFound "p")) := rfl
    have found : winding.load none (winding.save "b" "k" windingTree).2 "p" =
        .error (.failure (.noKeyFound "p")) := rfl
    intro same
    have same := found.symm.trans (same.trans unknown)
    simp [Failure.noKeyFound] at same
  · have unknown : wayward.load none ⟨[]⟩ "a" = .error (.failure (.profileNotFound "a")) := rfl
    have found : wayward.load none (wayward.save "b" "k" ⟨[]⟩).2 "a" =
        .error (.failure (.noKeyFound "a")) := rfl
    intro same
    have same := found.symm.trans (same.trans unknown)
    simp [Failure.noKeyFound] at same

end Profile.Store

end GraphConsole
