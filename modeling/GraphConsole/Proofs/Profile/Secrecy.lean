import GraphConsole.Proofs.Files.Veil
import GraphConsole.Proofs.Profile.Keyring

/-! Profiles on two sides that differ in a key. Which key it is shows in the profile that is loaded
with it and in the file that it is stored in, and nowhere else. -/

namespace GraphConsole.Profile

open GraphConsole.Files
open GraphConsole.Text

/-- A file that gives a profile its key. -/
def Keeps (octets : List UInt8) (key : String) : Prop :=
  ∃ s document, Utf8.decode octets = .ok s ∧
    Json.read .standard (unifyNewlines s) = .ok document ∧
    document.field? "api_key" = some (.string key)

theorem keeps_document (key : String) :
    Keeps (Utf8.encode (Store.document key).toList) key := by
  refine ⟨(Store.document key).toList, .object [("api_key", .string key)],
    Store.decode_document key, ?_, rfl⟩
  rw [Store.unifyNewlines_document, Store.read_document]

namespace Store

variable {veil : Veil} {left right : Tree} {first second : String}

theorem names_eq (covers : veil.Covers left right) (store : Store) :
    store.names right = store.names left := by
  rw [names, names, covers.isDirectory_eq, Tree.names, Tree.names, covers.locate_eq]
  cases left.locate store.directory with
  | error error => rfl
  | ok location =>
      have listed := covers.directories_eq location
      rw [Tree.directories, Tree.directories] at listed
      simp only [listed]

theorem storedKey_of_keeps {tree : Tree} {directory : Path} {octets : List UInt8} {key : String}
    (found : tree.octets (sensitiveFile directory) = .ok octets) (keeps : Keeps octets key)
    (filled : trimmed key ≠ "") (name : String) :
    storedKey name tree directory = .ok (trimmed key) := by
  obtain ⟨s, document, decoded, read, field⟩ := keeps
  have text : tree.text (sensitiveFile directory) = .ok (String.ofList (unifyNewlines s)) := by
    rw [Tree.text, found]
    simp only [decoded]
  rw [storedKey, text]
  simp only [String.toList_ofList, read, keyOf, field]
  rw [if_neg (by simpa using filled)]

/-- With one key or another in the environment, the same profile is loaded from all trees. -/
theorem names_load_of_environment (filledFirst : trimmed first ≠ "")
    (filledSecond : trimmed second ≠ "") (store : Store) (left right : Tree) (name : String) :
    (store.load (some second) right name).map Profile.name =
      (store.load (some first) left name).map Profile.name := by
  cases valid : validName name with
  | false => rw [load_of_invalid store right valid, load_of_invalid store left valid]
  | true =>
      have one : store.load (some first) left name = .ok ⟨name, trimmed first⟩ :=
        load_of_filled store left valid filledFirst
      have two : store.load (some second) right name = .ok ⟨name, trimmed second⟩ :=
        load_of_filled store right valid filledSecond
      rw [one, two]
      rfl

theorem names_load_of_keeps (covers : veil.Covers left right) (keepsFirst : Keeps veil.first first)
    (keepsSecond : Keeps veil.second second) (filledFirst : trimmed first ≠ "")
    (filledSecond : trimmed second ≠ "") (store : Store) (environmentKey : Option String)
    (name : String) :
    (store.load environmentKey right name).map Profile.name =
      (store.load environmentKey left name).map Profile.name := by
  unfold load
  split
  · rfl
  · next directory _ =>
      dsimp only
      split
      · rfl
      · rw [covers.isDirectory_eq]
        split
        · rfl
        · rfl
        · rcases covers.octets_cases (sensitiveFile directory) with same | ⟨_, one, two⟩
          · rw [storedKey, storedKey, Tree.text, Tree.text, same]
          · rw [storedKey_of_keeps one keepsFirst filledFirst,
              storedKey_of_keeps two keepsSecond filledSecond]
            rfl

/-- The file of a profile, with one key or another stored in it. -/
def keyVeil (store : Store) (name first second : String) : Veil where
  place := (sensitiveFile (store.directory.child name)).place
  first := Utf8.encode (document first).toList
  second := Utf8.encode (document second).toList

/-- A key is saved as any other, and shows in the file of its profile at most. -/
theorem save_apart (covers : veil.Covers left right) (store : Store) (name : String)
    (keys : first = second ∨ veil = store.keyVeil name first second) :
    veil.SameAnswer (store.save name first left) (store.save name second right) := by
  have hides : veil.Hides
      ((sensitiveFile (store.directory.child name)).place,
        .file (Utf8.encode (document first).toList))
      ((sensitiveFile (store.directory.child name)).place,
        .file (Utf8.encode (document second).toList)) := by
    rcases keys with rfl | rfl
    · exact .same _
    · exact Veil.hides_mk _ _ _
  cases valid : validName name with
  | false =>
      rw [save_of_invalid valid, save_of_invalid valid]
      exact ⟨rfl, covers⟩
  | true =>
      obtain ⟨made, covers⟩ := covers.ensureDirectories (store.directory.child name)
      rw [save, save, profileDirectory, if_pos valid]
      dsimp only
      generalize left.ensureDirectories (store.directory.child name) = one at made covers ⊢
      generalize right.ensureDirectories (store.directory.child name) = two at made covers ⊢
      obtain ⟨answer, one⟩ := one
      obtain ⟨_, two⟩ := two
      obtain rfl := made
      cases answer with
      | error trouble => exact ⟨rfl, covers⟩
      | ok =>
          have written : veil.Made
              (one.writeText (sensitiveFile (store.directory.child name)) (document first))
              (two.writeText (sensitiveFile (store.directory.child name)) (document second)) :=
            covers.writeOctets _ hides
          dsimp only
          generalize one.writeText _ (document first) = early at written ⊢
          generalize two.writeText _ (document second) = late at written ⊢
          cases written with
          | failed trouble => exact ⟨rfl, covers⟩
          | done covers => exact ⟨rfl, covers⟩

end Store

end GraphConsole.Profile
