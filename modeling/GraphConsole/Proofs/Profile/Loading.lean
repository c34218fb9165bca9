import GraphConsole.Profile.Store
import GraphConsole.Proofs.Console.Showing

/-! What loading a profile comes to: first its name counts, then the key in the environment, then
its directory, and last what is stored there. -/

namespace GraphConsole.Profile

open GraphConsole.Files
open GraphConsole.Text

/-- A file that no key can be had from: it is missing, it is no text or no document, or there is no
key in the document. -/
inductive Keyless (tree : Tree) (file : Path) : Prop
  | missing (path : String) (unread : tree.text file = .error (.system .notFound path))
  | notText (broken : Utf8.Broken) (unread : tree.text file = .error (.notText broken))
  | malformed (text : String) (stored : tree.text file = .ok text)
      (unread : Json.read .standard text.toList = .error .malformed)
  | unkeyed (text : String) (document : Json) (stored : tree.text file = .ok text)
      (read : Json.read .standard text.toList = .ok document)
      (blank : ∀ key, document.field? "api_key" = some (.string key) → trimmed key = "")

/-- Faults that a dispatcher deals with. -/
def Reported (fault : Fault) : Prop :=
  ∃ failure, fault.reported? = some failure

theorem reported_failure (failure : Failure) : Reported (.failure failure) :=
  ⟨failure, rfl⟩

theorem reported_incident (incident : Incident) : Reported (.incident incident) :=
  ⟨_, Fault.reported?_incident incident⟩

theorem keyOf_of_blank {name : String} {document : Json}
    (blank : ∀ key, document.field? "api_key" = some (.string key) → trimmed key = "") :
    keyOf name document = .error (.failure (.noKeyFound name)) := by
  unfold keyOf
  split
  · next key found =>
    have empty : (trimmed key).isEmpty = true := by simp [blank key found]
    rw [if_pos empty]
  · rfl

theorem keyOf_reported {name : String} {document : Json} {fault : Fault}
    (failed : keyOf name document = .error fault) : Reported fault := by
  unfold keyOf at failed
  split at failed
  · dsimp only at failed
    split at failed
    · cases failed
      exact reported_failure _
    · cases failed
  · cases failed
    exact reported_failure _

theorem unreadable_reported (name : String) (refusal : Json.Refusal) :
    Reported (unreadable name refusal) := by
  cases refusal with
  | malformed => exact reported_failure _
  | tooDeep shape =>
      cases shape with
      | array => exact reported_incident _
      | object => exact reported_incident _
  | integerTooLong digits => exact reported_incident _

namespace Store

theorem storedKey_of_keyless {tree : Tree} {directory : Path}
    (keyless : Keyless tree (sensitiveFile directory)) (name : String) :
    ∃ reason, storedKey name tree directory =
      .error (.failure (.authenticationFailed name reason)) := by
  unfold storedKey
  cases keyless with
  | missing path unread =>
      rw [unread]
      exact ⟨_, rfl⟩
  | notText broken unread =>
      rw [unread]
      exact ⟨_, rfl⟩
  | malformed text stored unread =>
      rw [stored]
      simp only [unread]
      exact ⟨_, rfl⟩
  | unkeyed text document stored read blank =>
      rw [stored]
      simp only [read]
      exact ⟨_, keyOf_of_blank blank⟩

theorem storedKey_reported {name : String} {tree : Tree} {directory : Path} {fault : Fault}
    (failed : storedKey name tree directory = .error fault) : Reported fault := by
  unfold storedKey at failed
  split at failed
  · cases failed
    exact reported_failure _
  · cases failed
    exact unreadable_reported name .malformed
  · cases failed
    exact reported_incident _
  · split at failed
    · cases failed
      exact unreadable_reported name _
    · exact keyOf_reported failed

section Loading

variable (store : Store) (tree : Tree) {environmentKey : Option String} {name : String}

theorem load_of_invalid (invalid : validName name = false) :
    store.load environmentKey tree name = .error (.failure (.profileNotFound name)) := by
  rw [load, profileDirectory, invalid]
  rfl

/-- With a key in the environment a profile need not be stored. -/
theorem load_of_filled (valid : validName name = true)
    (filled : trimmed (environmentKey.getD "") ≠ "") :
    store.load environmentKey tree name = .ok ⟨name, trimmed (environmentKey.getD "")⟩ := by
  have given : (!(trimmed (environmentKey.getD "")).isEmpty) = true := by simpa using filled
  rw [load, profileDirectory, if_pos valid]
  simp only [given, if_true]

theorem load_of_blank (valid : validName name = true)
    (blank : trimmed (environmentKey.getD "") = "") :
    store.load environmentKey tree name =
      match tree.isDirectory (store.directory.child name) with
      | .error trouble => .error (.incident trouble.toIncident)
      | .ok false => .error (.failure (.profileNotFound name))
      | .ok true => (storedKey name tree (store.directory.child name)).map (⟨name, ·⟩) := by
  rw [load, profileDirectory, if_pos valid]
  simp only [blank]
  cases tree.isDirectory (store.directory.child name) with
  | error trouble => rfl
  | ok found =>
      cases found with
      | false => rfl
      | true => cases storedKey name tree (store.directory.child name) <;> rfl

theorem load_reported {fault : Fault}
    (failed : store.load environmentKey tree name = .error fault) : Reported fault := by
  cases valid : validName name with
  | false =>
      rw [load_of_invalid store tree valid] at failed
      cases failed
      exact reported_failure _
  | true =>
      by_cases blank : trimmed (environmentKey.getD "") = ""
      · rw [load_of_blank store tree valid blank] at failed
        split at failed
        · cases failed
          exact reported_incident _
        · cases failed
          exact reported_failure _
        · cases stored : storedKey name tree (store.directory.child name) with
          | ok key =>
              rw [stored] at failed
              cases failed
          | error trouble =>
              rw [stored] at failed
              cases failed
              exact storedKey_reported stored
      · rw [load_of_filled store tree valid blank] at failed
        cases failed

end Loading

end Store

end GraphConsole.Profile
