import GraphConsole.Proofs.Files.Growth
import GraphConsole.Proofs.Profile.Document
import GraphConsole.Proofs.Profile.Loading
import GraphConsole.Proofs.Sequence

/-! A store of profiles behaves as a map from names to keys does: requests in any order are answered
from the last key that was saved under each name. -/

namespace GraphConsole

open GraphConsole.Files
open GraphConsole.Text

namespace Profile

inductive Request
  | save (name key : String)
  | load (name : String)
  | names

inductive Reply
  | saved (outcome : Except Fault Path)
  | loaded (outcome : Except Fault Profile)
  | listed (outcome : Except Fault (List String))

namespace Store

def reply (store : Store) (environmentKey : Option String) (tree : Tree) : Request → Reply × Tree
  | .save name key =>
      let (outcome, tree) := store.save name key tree
      (.saved outcome, tree)
  | .load name => (.loaded (store.load environmentKey tree name), tree)
  | .names => (.listed (store.names tree), tree)

/-- The reply to each request and the tree behind it. -/
def replies (store : Store) (environmentKey : Option String) :
    Tree → List Request → List (Reply × Tree)
  | _, [] => []
  | tree, request :: rest =>
      let answer := store.reply environmentKey tree request
      answer :: replies store environmentKey answer.2 rest

end Store

/-- The keys that were saved, by the names of their profiles. -/
abbrev Keyring := String → Option String

namespace Keyring

def empty : Keyring := fun _ => none

def put (keys : Keyring) (name key : String) : Keyring :=
  fun other => if other = name then some key else keys other

def after (keys : Keyring) : Request → Keyring
  | .save name key => if validName name then keys.put name key else keys
  | _ => keys

def load (keys : Keyring) (name : String) : Except Fault Profile :=
  if validName name then
    match keys name with
    | none => .error (.failure (.profileNotFound name))
    | some key =>
        if trimmed key = "" then .error (.failure (.noKeyFound name)) else .ok ⟨name, trimmed key⟩
  else .error (.failure (.profileNotFound name))

/-- What may be said to a request. -/
def Answers (keys : Keyring) (store : Store) : Request → Reply → Prop
  | .save name _, reply =>
      reply = .saved (if validName name then .ok (Store.sensitiveFile (store.directory.child name))
        else .error (.failure (.profileNotFound name)))
  | .load name, reply => reply = .loaded (keys.load name)
  | .names, reply =>
      ∃ names, reply = .listed (.ok names) ∧ names.Pairwise (· < ·) ∧
        ∀ name, name ∈ names ↔ (keys name).isSome

/-- Every reply is what the keys saved so far say, and only a save of a valid name changes any
file. -/
inductive Describes (store : Store) : Keyring → Tree → List Request → List (Reply × Tree) → Prop
  | done (keys : Keyring) (tree : Tree) : Describes store keys tree [] []
  | next {keys : Keyring} {tree after : Tree} {request : Request} {reply : Reply}
      {requests : List Request} {replies : List (Reply × Tree)}
      (answers : keys.Answers store request reply)
      (kept : (∀ name key, request = .save name key → validName name = false) → after = tree)
      (rest : Describes store (keys.after request) after requests replies) :
      Describes store keys tree (request :: requests) ((reply, after) :: replies)

end Keyring

namespace Store

/-- A place for profiles that holds none yet: the system takes the path and those of the files
below it, no file stands in its way, and it does not lead through a profile of its own. -/
structure Fresh (store : Store) (tree : Tree) : Prop where
  fits : store.configHome.Fits
  room : store.configHome.toText.utf8ByteSize + 276 < 4096
  clear : tree.Clear store.directory.way
  aside : ∀ place ∈ store.configHome.way, ∀ name rest, place ≠ store.directory.place ++ name :: rest
  noProfiles : ∀ child ∈ tree.children store.directory.place, child.2 ≠ .directory

/-- What the system takes as the name of a file. -/
structure Holdable (name : String) : Prop where
  noNul : name.toList.contains '\x00' = false
  short : name.utf8ByteSize ≤ 255

/-- The valid names in a request can be held; nothing has the place of a profile to be saved. -/
def Sound (store : Store) (tree : Tree) : Request → Prop
  | .save name _ => validName name = true → Holdable name ∧
      ∀ rest, tree.find? (store.directory.place ++ name :: rest) = none
  | .load name => validName name = true → Holdable name
  | .names => True

variable {store : Store} {initial tree : Tree} {keys : Keyring}

theorem named_of_validName {name : String} (valid : validName name = true) : name ≠ ".." := by
  rintro rfl
  exact absurd valid (by decide)

theorem place_directory (store : Store) :
    store.directory.place = store.configHome.place ++ ["profiles"] :=
  Path.place_child _ (by decide)

theorem way_directory (store : Store) :
    store.directory.way = store.configHome.way ++ [store.directory.place] := by
  rw [place_directory]
  exact Path.way_child _ (by decide)

theorem place_sensitiveFile (store : Store) {name : String} (named : name ≠ "..") :
    (sensitiveFile (store.directory.child name)).place =
      store.directory.place ++ [name, ".sensitive"] := by
  rw [sensitiveFile, Path.place_child _ (by decide), Path.place_child _ named]
  simp

/-- Where the directory of profiles is there, the names of directories in it are listed. -/
theorem names_of_open (fits : store.directory.Fits) (opened : tree.Open store.directory.way) :
    store.names tree =
      .ok ((tree.directories store.directory.place).mergeSort fun a b => decide (a ≤ b)) := by
  rw [way_directory] at opened
  have home : tree.Open store.configHome.way :=
    fun place member => opened place (List.mem_append_left _ member)
  have present : tree.find? store.directory.place = some .directory :=
    opened _ (List.mem_append_right _ List.mem_cons_self)
  have located : tree.locate store.directory = .ok store.directory.place :=
    Tree.locate_of_open home fits
  have told : tree.isDirectory store.directory =
      .ok (tree.find? store.directory.place == some .directory) :=
    Tree.isDirectory_of_open home fits
  rw [Store.names, told, present]
  simp [Tree.names, located, Tree.directories]

theorem Fresh.fits_directory (fresh : store.Fresh initial) : store.directory.Fits :=
  fresh.fits.child (by decide) (by decide) <| by
    have room := fresh.room
    have size : "profiles".utf8ByteSize = 8 := by decide
    omega

theorem Fresh.fits_sensitiveFile (fresh : store.Fresh initial) {name : String}
    (holdable : Holdable name) : (sensitiveFile (store.directory.child name)).Fits := by
  have room := fresh.room
  have short := holdable.short
  have size : "profiles".utf8ByteSize = 8 := by decide
  have sizeToo : ".sensitive".utf8ByteSize = 10 := by decide
  have toDirectory := Path.size_toText_child store.configHome "profiles"
  have toProfile := Path.size_toText_child store.directory name
  rw [← directory] at toDirectory
  exact (fresh.fits_directory.child holdable.noNul short (by omega)).child (by decide) (by decide)
    (by omega)

/-- The files of a store hold the keys, and of other profiles what the initial tree had. -/
structure Holds (store : Store) (initial : Tree) (keys : Keyring) (tree : Tree) : Prop where
  clear : tree.Clear store.directory.way
  opened : ∀ name key, keys name = some key → tree.Open store.directory.way
  kept : ∀ name key, keys name = some key →
    tree.find? (store.directory.place ++ [name]) = some .directory ∧
      tree.find? (store.directory.place ++ [name, ".sensitive"]) =
        some (.file (Utf8.encode (document key).toList))
  spare : ∀ name, keys name = none → ∀ rest,
    tree.find? (store.directory.place ++ name :: rest) =
      initial.find? (store.directory.place ++ name :: rest)
  distinct : (tree.directories store.directory.place).Nodup
  listed : ∀ name, name ∈ tree.directories store.directory.place ↔ (keys name).isSome

theorem outward_below (store : Store) (rest : List String) :
    Location.isOutward (store.directory.place ++ rest) = false := by
  rw [place_directory]
  simp [Location.isOutward]

theorem Fresh.directories (fresh : store.Fresh initial) :
    initial.directories store.directory.place = [] := by
  rw [Tree.directories, List.map_eq_nil_iff, List.filter_eq_nil_iff]
  intro child member
  simpa using fresh.noProfiles child member

theorem Fresh.noDirectory (fresh : store.Fresh initial) (name : String) :
    initial.find? (store.directory.place ++ [name]) ≠ some .directory := by
  intro found
  exact fresh.noProfiles _ (Tree.mem_children_of_find? (outward_below store _) found) rfl

theorem Fresh.holds (fresh : store.Fresh initial) : store.Holds initial .empty initial where
  clear := fresh.clear
  opened := nofun
  kept := nofun
  spare _ _ _ := rfl
  distinct := by simp [fresh.directories]
  listed := by simp [fresh.directories, Keyring.empty]

namespace Holds

theorem clear_home (holds : store.Holds initial keys tree) : tree.Clear store.configHome.way :=
  fun place member => holds.clear place (Path.way_subset_child store.configHome "profiles" member)

theorem there (holds : store.Holds initial keys tree) {name key : String}
    (saved : keys name = some key) :
    tree.Open store.configHome.way ∧ tree.find? store.directory.place = some .directory := by
  have opened := holds.opened name key saved
  rw [way_directory] at opened
  exact ⟨fun place member => opened place (List.mem_append_left _ member),
    opened _ (List.mem_append_right _ List.mem_cons_self)⟩

theorem names (holds : store.Holds initial keys tree) (fresh : store.Fresh initial) :
    ∃ names, store.names tree = .ok names ∧ names.Pairwise (· < ·) ∧
      ∀ name, name ∈ names ↔ (keys name).isSome := by
  have fits := fresh.fits_directory
  have missing (none : store.names tree = .ok [])
      (gone : ¬ (tree.Open store.configHome.way ∧
        tree.find? store.directory.place = some .directory)) :
      ∃ names, store.names tree = .ok names ∧ names.Pairwise (· < ·) ∧
        ∀ name, name ∈ names ↔ (keys name).isSome := by
    refine ⟨[], none, .nil, fun name => ?_⟩
    cases saved : keys name with
    | none => simp
    | some key => exact absurd (holds.there saved) gone
  by_cases opened : tree.Open store.configHome.way
  · by_cases present : tree.find? store.directory.place = some .directory
    · have there : tree.Open store.directory.way := by
        rw [way_directory]
        exact List.forall_mem_append.mpr ⟨opened, List.forall_mem_singleton.mpr present⟩
      refine ⟨_, names_of_open fits there,
        Sequence.pairwise_lt_mergeSort id holds.distinct, fun name => ?_⟩
      rw [List.mem_mergeSort, holds.listed]
    · have told : tree.isDirectory store.directory =
          .ok (tree.find? store.directory.place == some .directory) :=
        Tree.isDirectory_of_open opened fits
      have none : store.names tree = .ok [] := by
        rw [Store.names, told, beq_eq_false_iff_ne.mpr present]
      exact missing none fun there => present there.2
  · have told : tree.isDirectory store.directory = .ok false :=
      Tree.isDirectory_of_closed holds.clear_home opened fits
    have none : store.names tree = .ok [] := by
      rw [Store.names, told]
    exact missing none fun there => opened there.1

theorem storedKey (holds : store.Holds initial keys tree) (fresh : store.Fresh initial)
    {name key : String} (valid : validName name = true) (holdable : Holdable name)
    (saved : keys name = some key) :
    Store.storedKey name tree (store.directory.child name) =
      if trimmed key = "" then .error (.failure (.noKeyFound name)) else .ok (trimmed key) := by
  have named := named_of_validName valid
  have kept := holds.kept name key saved
  have opened : tree.Open (store.directory.child name).way := by
    rw [Path.way_child _ named]
    intro place member
    rcases List.mem_append.mp member with before | last
    · exact holds.opened name key saved place before
    · rw [List.mem_singleton.mp last]
      exact kept.1
  have octets : tree.octets (sensitiveFile (store.directory.child name)) =
      .ok (Utf8.encode (document key).toList) := by
    have octets : tree.octets (sensitiveFile (store.directory.child name)) = _ :=
      Tree.octets_of_open opened (fresh.fits_sensitiveFile holdable)
    rw [octets, ← sensitiveFile, place_sensitiveFile store named, kept.2]
  have text : tree.text (sensitiveFile (store.directory.child name)) = .ok (document key) := by
    rw [Tree.text, octets]
    simp only [decode_document, unifyNewlines_document, String.ofList_toList]
  have field : (Json.object [("api_key", .string key)]).field? "api_key" = some (.string key) := rfl
  rw [Store.storedKey, text]
  simp only [read_document, keyOf, field, String.isEmpty_iff]

theorem load (holds : store.Holds initial keys tree) (fresh : store.Fresh initial)
    {environmentKey : Option String} (blank : trimmed (environmentKey.getD "") = "") {name : String}
    (holdable : validName name = true → Holdable name) :
    store.load environmentKey tree name = keys.load name := by
  rw [Keyring.load]
  cases valid : validName name with
  | false => rw [load_of_invalid store tree valid, if_neg (by simp)]
  | true =>
      have named := named_of_validName valid
      have fits := (fresh.fits_sensitiveFile (holdable valid)).of_child
      have clear := holds.clear
      have place := Path.place_child store.directory named
      rw [load_of_blank store tree valid blank, if_pos rfl]
      cases saved : keys name with
      | none =>
          have noProfile : tree.isDirectory (store.directory.child name) = .ok false := by
            by_cases opened : tree.Open store.directory.way
            · have noDirectory := fresh.noDirectory name
              rw [← holds.spare name saved, ← place] at noDirectory
              rw [Tree.isDirectory_of_open opened fits, beq_eq_false_iff_ne.mpr noDirectory]
            · exact Tree.isDirectory_of_closed clear opened fits
          rw [noProfile]
      | some key =>
          have present : tree.isDirectory (store.directory.child name) = .ok true := by
            rw [Tree.isDirectory_of_open (holds.opened name key saved) fits, place,
              (holds.kept name key saved).1]
            rfl
          rw [present]
          simp only [holds.storedKey fresh valid (holdable valid) saved]
          by_cases blankKey : trimmed key = ""
          · simp only [if_pos blankKey, Except.map]
          · simp only [if_neg blankKey, Except.map]

end Holds

theorem eq_child_of_dropLast {place : Location}
    (below : place.dropLast = store.directory.place) :
    ∃ child, place = store.directory.place ++ [child] := by
  have inhabited : place ≠ [] := by
    rintro rfl
    simp [place_directory] at below
  exact ⟨place.getLast inhabited, by rw [← below, List.dropLast_concat_getLast]⟩

theorem mem_way_profile {name : String} (named : name ≠ "..") {place : Location} :
    place ∈ (store.directory.child name).way ↔
      place ∈ store.configHome.way ∨ place = store.directory.place ∨
        place = store.directory.place ++ [name] := by
  rw [Path.way_child _ named, way_directory, List.mem_append, List.mem_append, List.mem_singleton,
    List.mem_singleton, or_assoc]

/-- Of all places below the profiles, the way to one of them enters that one alone. -/
theorem Fresh.eq_of_mem_way (fresh : store.Fresh initial) {name : String} (named : name ≠ "..")
    {other : String} {rest : List String}
    (member : store.directory.place ++ other :: rest ∈ (store.directory.child name).way) :
    other = name ∧ rest = [] := by
  rcases (mem_way_profile named).mp member with home | directory | profile
  · exact absurd rfl (fresh.aside _ home other rest)
  · simp at directory
  · simpa using profile

theorem Fresh.file_notMem_way (fresh : store.Fresh initial) {name : String} (named : name ≠ "..") :
    store.directory.place ++ [name, ".sensitive"] ∉ (store.directory.child name).way :=
  fun member => by simpa using (fresh.eq_of_mem_way named member).2

/-- Every directory on the way to a profile is there or can be made. -/
theorem Holds.clear_profile (holds : store.Holds initial keys tree) {name : String}
    (named : name ≠ "..")
    (vacant : ∀ rest, initial.find? (store.directory.place ++ name :: rest) = none) :
    tree.Clear (store.directory.child name).way := by
  rw [Path.way_child _ named]
  intro place member octets file
  rcases List.mem_append.mp member with before | last
  · exact holds.clear place before octets file
  · rw [List.mem_singleton.mp last] at file
    cases saved : keys name with
    | none =>
        rw [holds.spare name saved, vacant] at file
        cases file
    | some key =>
        rw [(holds.kept name key saved).1] at file
        cases file

/-- On the way to a profile no directory but its own is missing below the profiles. -/
def Apart (store : Store) (name : String) (tree : Tree) : Prop :=
  ∀ child rest, store.directory.place ++ child :: rest ∈ (store.directory.child name).way →
    tree.find? (store.directory.place ++ child :: rest) = none → child = name ∧ rest = []

theorem Fresh.apart (fresh : store.Fresh initial) {name : String} (named : name ≠ "..")
    (tree : Tree) : store.Apart name tree :=
  fun _ _ member _ => fresh.eq_of_mem_way named member

/-- What a save leaves: the profile with its key is there, and below the profiles all else is as
before. -/
structure Saved (store : Store) (name key : String) (before after : Tree) : Prop where
  opened : after.Open (store.directory.child name).way
  stored : after.find? (store.directory.place ++ [name, ".sensitive"]) =
    some (.file (Utf8.encode (document key).toList))
  others : ∀ other rest, other ≠ name →
    after.find? (store.directory.place ++ other :: rest) =
      before.find? (store.directory.place ++ other :: rest)
  directories : after.directories store.directory.place =
    before.directories store.directory.place ++
      if before.find? (store.directory.place ++ [name]) = none then [name] else []

section Apart

variable {name : String} {middle : Tree} (apart : store.Apart name tree) (named : name ≠ "..")
  (grown : Tree.Grown (store.directory.child name).way tree middle)
  (opened : middle.Open (store.directory.child name).way)

include apart grown in
theorem Apart.kept {other : String} (different : other ≠ name) (rest : List String) :
    middle.find? (store.directory.place ++ other :: rest) =
      tree.find? (store.directory.place ++ other :: rest) := by
  rcases grown.kept_or (store.directory.place ++ other :: rest) with same | ⟨way, missing, _⟩
  · exact same
  · exact absurd (apart other rest way missing).1 different

include apart named grown opened in
theorem Apart.directories_grown :
    middle.directories store.directory.place = tree.directories store.directory.place ++
      if tree.find? (store.directory.place ++ [name]) = none then [name] else [] := by
  refine grown.directories_eq (fun place member missing below => ?_)
    (opened _ ((mem_way_profile named).mpr (.inr (.inr rfl))))
  obtain ⟨child, rfl⟩ := eq_child_of_dropLast below
  rw [(apart child [] member missing).1]

include apart named grown opened in
/-- The key of a profile whose directory has been made is put into its file. -/
theorem Apart.saved_put
    (free : middle.find? (store.directory.place ++ [name, ".sensitive"]) ≠ some .directory)
    (key : String) :
    store.Saved name key tree (middle.put (store.directory.place ++ [name, ".sensitive"])
      (.file (Utf8.encode (document key).toList))) := by
  constructor
  case opened =>
    intro place member
    have different : place ≠ store.directory.place ++ [name, ".sensitive"] := by
      rintro rfl
      exact free (opened _ member)
    rw [Tree.find?_put_of_ne different]
    exact opened place member
  case stored => exact Tree.find?_put_self (outward_below store _) middle _
  case others =>
    intro other rest different
    rw [Tree.find?_put_of_ne (by simp [different]), apart.kept grown different]
  case directories =>
    rw [Tree.directories_put (by simp), apart.directories_grown named grown opened]

end Apart

/-- After a save the files hold the new key as well. -/
theorem Holds.put (holds : store.Holds initial keys tree) {name : String} (named : name ≠ "..")
    (vacant : ∀ rest, initial.find? (store.directory.place ++ name :: rest) = none) {key : String}
    {after : Tree} (saved : store.Saved name key tree after) :
    store.Holds initial (keys.put name key) after := by
  have opened : after.Open store.directory.way := fun place member =>
    saved.opened place (Path.way_subset_child store.directory name member)
  have absent : tree.find? (store.directory.place ++ [name]) = none ↔ keys name = none := by
    cases unsaved : keys name with
    | none => simp [holds.spare name unsaved, vacant]
    | some stored => simp [(holds.kept name stored unsaved).1]
  have directories := saved.directories
  simp only [absent] at directories
  constructor
  case clear => exact Tree.Open.clear opened
  case opened => exact fun _ _ _ => opened
  case kept =>
    intro other stored kept
    by_cases same : other = name
    · subst same
      obtain rfl : key = stored := by simpa [Keyring.put] using kept
      exact ⟨saved.opened _ (by simp [Path.way_child _ named]), saved.stored⟩
    · have kept := holds.kept other stored (by simpa [Keyring.put, same] using kept)
      exact ⟨(saved.others other [] same).trans kept.1,
        (saved.others other [".sensitive"] same).trans kept.2⟩
  case spare =>
    intro other unsaved rest
    have different : other ≠ name := by
      rintro rfl
      simp [Keyring.put] at unsaved
    rw [saved.others other rest different]
    exact holds.spare other (by simpa [Keyring.put, different] using unsaved) rest
  case distinct =>
    rw [directories, List.nodup_append]
    refine ⟨holds.distinct, by split <;> simp, ?_⟩
    rintro other listed _ new rfl
    have kept := (holds.listed other).mp listed
    split at new
    · next unsaved =>
        rw [List.mem_singleton.mp new, unsaved] at kept
        cases kept
    · cases new
  case listed =>
    intro other
    rw [directories, List.mem_append, holds.listed]
    by_cases same : other = name
    · subst same
      cases keys other <;> simp [Keyring.put]
    · simp only [Keyring.put, if_neg same]
      split <;> simp [same]

/-- Nothing but the profile that is saved, its file and the directories on the way changes. -/
theorem Holds.save (holds : store.Holds initial keys tree) (fresh : store.Fresh initial)
    {name : String} (valid : validName name = true) (holdable : Holdable name)
    (vacant : ∀ rest, initial.find? (store.directory.place ++ name :: rest) = none) (key : String) :
    ∃ after, store.save name key tree = (.ok (sensitiveFile (store.directory.child name)), after) ∧
      store.Holds initial (keys.put name key) after := by
  have named := named_of_validName valid
  have fits := fresh.fits_sensitiveFile holdable
  have place := place_sensitiveFile store named
  obtain ⟨made, grown, opened⟩ :=
    Tree.cleared_ensureDirectories tree (holds.clear_profile named vacant) fits.of_child
  generalize ensured : tree.ensureDirectories (store.directory.child name) = answer
    at made grown opened
  obtain ⟨_, middle⟩ := answer
  obtain rfl := made
  have free : middle.find? (store.directory.place ++ [name, ".sensitive"]) ≠ some .directory := by
    rw [grown.find?_of_notMem (fresh.file_notMem_way named)]
    cases saved : keys name with
    | none => simp [holds.spare name saved, vacant]
    | some key => simp [(holds.kept name key saved).2]
  have written : middle.writeText (sensitiveFile (store.directory.child name)) (document key) = _ :=
    Tree.writeText_of_open opened fits (place ▸ free) (document key)
  rw [← sensitiveFile, place] at written
  refine ⟨_, ?_,
    holds.put named vacant ((fresh.apart named tree).saved_put named grown opened free key)⟩
  simp only [Store.save, profileDirectory, if_pos valid, ensured, written]

theorem save_of_invalid {name : String} (invalid : validName name = false) (key : String) :
    store.save name key tree = (.error (.failure (.profileNotFound name)), tree) := by
  simp [save, profileDirectory, invalid]

theorem Holds.reply (holds : store.Holds initial keys tree) (fresh : store.Fresh initial)
    {environmentKey : Option String} (blank : trimmed (environmentKey.getD "") = "")
    {request : Request} (sound : store.Sound initial request) :
    keys.Answers store request (store.reply environmentKey tree request).1 ∧
      ((∀ name key, request = .save name key → validName name = false) →
        (store.reply environmentKey tree request).2 = tree) ∧
      store.Holds initial (keys.after request) (store.reply environmentKey tree request).2 := by
  cases request with
  | save name key =>
      rw [Store.reply, Keyring.after, Keyring.Answers]
      cases valid : validName name with
      | false =>
          rw [save_of_invalid valid]
          exact ⟨rfl, fun _ => rfl, holds⟩
      | true =>
          obtain ⟨holdable, vacant⟩ := sound valid
          obtain ⟨after, saved, holdsAfter⟩ := holds.save fresh valid holdable vacant key
          rw [saved]
          exact ⟨rfl, fun never => absurd (never name key rfl) (by simp [valid]), holdsAfter⟩
  | load name =>
      exact ⟨congrArg Reply.loaded (holds.load fresh blank sound), fun _ => rfl, holds⟩
  | names =>
      obtain ⟨names, listed, sorted, members⟩ := holds.names fresh
      exact ⟨⟨names, congrArg Reply.listed listed, sorted, members⟩, fun _ => rfl, holds⟩

theorem Holds.describes (holds : store.Holds initial keys tree) (fresh : store.Fresh initial)
    {environmentKey : Option String} (blank : trimmed (environmentKey.getD "") = "")
    {requests : List Request} (sound : ∀ request ∈ requests, store.Sound initial request) :
    Keyring.Describes store keys tree requests (store.replies environmentKey tree requests) := by
  induction requests generalizing keys tree with
  | nil => exact .done keys tree
  | cons request rest induction =>
      rw [List.forall_mem_cons] at sound
      obtain ⟨answers, kept, holdsAfter⟩ := holds.reply fresh blank sound.1
      exact .next answers kept (induction holdsAfter sound.2)

/-- From a place that holds no profile yet, a store answers all requests as a map of keys does. -/
theorem describes_replies (store : Store) (environmentKey : Option String) (tree : Tree)
    (requests : List Request) (blank : trimmed (environmentKey.getD "") = "")
    (fresh : store.Fresh tree) (sound : ∀ request ∈ requests, store.Sound tree request) :
    Keyring.Describes store .empty tree requests (store.replies environmentKey tree requests) :=
  fresh.holds.describes fresh blank sound

def shared : Store := ⟨⟨.relative, ["cfg"]⟩⟩

def sharedTree : Tree :=
  ⟨[(["cfg"], .directory), (["cfg", "profiles"], .directory),
    (["cfg", "profiles", "notes"], .file [])]⟩

def sharedRequests : List Request :=
  [.names, .save "b" " k\u2003", .save "a/b" "x", .load "b", .save "ä" "", .load "ä", .load "c",
    .save "b" "😀\n\"", .names, .load "b"]

theorem vacant_sharedTree {name : String} (free : name ≠ "notes") (rest : List String) :
    sharedTree.find? (shared.directory.place ++ name :: rest) = none := by
  have place : shared.directory.place = ["cfg", "profiles"] := by decide
  have other : (name == "notes") = false := beq_eq_false_iff_ne.mpr free
  simp [Tree.find?, Location.isOutward, sharedTree, place, List.lookup_cons, other]

theorem describes_replies_shared :
    trimmed ((none : Option String).getD "") = "" ∧ shared.Fresh sharedTree ∧
      (∀ request ∈ sharedRequests, shared.Sound sharedTree request) ∧
      Keyring.Describes shared .empty sharedTree sharedRequests
        (shared.replies none sharedTree sharedRequests) := by
  have blank : trimmed ((none : Option String).getD "") = "" := by decide
  have fresh : shared.Fresh sharedTree := by
    constructor
    case fits => exact ⟨by decide, by decide, by decide⟩
    case room => decide
    case clear =>
      have opened : ∀ place ∈ shared.directory.way, sharedTree.find? place = some .directory := by
        decide
      exact Tree.Open.clear opened
    case aside =>
      have way : shared.configHome.way = [["cfg"]] := by decide
      have place : shared.directory.place = ["cfg", "profiles"] := by decide
      simp [way, place]
    case noProfiles => decide
  have sound : ∀ request ∈ sharedRequests, shared.Sound sharedTree request := by
    have holdable : ∀ name ∈ ["b", "ä", "c"], Holdable name := by
      simp only [List.forall_mem_cons, List.not_mem_nil, false_imp_iff, implies_true, and_true]
      exact ⟨⟨by decide, by decide⟩, ⟨by decide, by decide⟩, ⟨by decide, by decide⟩⟩
    have free : ∀ name ∈ ["b", "ä"], name ≠ "notes" := by decide
    simp only [sharedRequests, List.forall_mem_cons, Sound, List.not_mem_nil, false_imp_iff,
      implies_true, and_true, true_and]
    refine ⟨fun _ => ⟨holdable _ (by simp), vacant_sharedTree (free _ (by simp))⟩, ?_,
      fun _ => holdable _ (by simp),
      fun _ => ⟨holdable _ (by simp), vacant_sharedTree (free _ (by simp))⟩,
      fun _ => holdable _ (by simp), fun _ => holdable _ (by simp),
      fun _ => ⟨holdable _ (by simp), vacant_sharedTree (free _ (by simp))⟩,
      fun _ => holdable _ (by simp)⟩
    intro valid
    exact absurd valid (by decide)
  exact ⟨blank, fresh, sound,
    describes_replies shared none sharedTree sharedRequests blank fresh sound⟩

def wayward : Store := ⟨⟨.relative, ["profiles", "a", "..", ".."]⟩⟩

/-- Without a file in its way, a path through a directory of profiles makes one that no one saved.
Where a file stands in the way, nothing can be saved. -/
theorem not_describes_everywhere :
    ¬ Keyring.Describes wayward .empty ⟨[]⟩ [.save "b" "k", .load "a"]
        (wayward.replies none ⟨[]⟩ [.save "b" "k", .load "a"]) ∧
      ¬ Keyring.Describes shared .empty ⟨[(["cfg"], .file [])]⟩ [.save "b" "k"]
        (shared.replies none ⟨[(["cfg"], .file [])]⟩ [.save "b" "k"]) := by
  constructor
  case left =>
    have found : wayward.load none (wayward.save "b" "k" ⟨[]⟩).2 "a" =
        .error (.failure (.noKeyFound "a")) := rfl
    have expected : (Keyring.empty.after (.save "b" "k")).load "a" =
        .error (.failure (.profileNotFound "a")) := rfl
    intro described
    cases described with
    | next _ _ rest =>
        cases rest with
        | next answers _ _ =>
            have same := found.symm.trans ((Reply.loaded.inj answers).trans expected)
            simp [Failure.noKeyFound] at same
  case right =>
    have refused : ∃ incident, (shared.save "b" "k" ⟨[(["cfg"], .file [])]⟩).1 =
        .error (.incident incident) := ⟨_, rfl⟩
    have expected : validName "b" = true := rfl
    obtain ⟨incident, refused⟩ := refused
    intro described
    cases described with
    | next answers _ _ =>
        have same := refused.symm.trans (Reply.saved.inj answers)
        rw [if_pos expected] at same
        cases same

end Store

end Profile

end GraphConsole
