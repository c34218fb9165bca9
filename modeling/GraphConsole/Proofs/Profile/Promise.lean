import GraphConsole.Proofs.Files.Growth
import GraphConsole.Proofs.Json.Excess
import GraphConsole.Proofs.Profile.Keyring
import GraphConsole.Proofs.Text.Cuts

/-! What the loading of a profile promises: a profile with a key, or a failure that says that there
is no such profile or no key. It is kept for all that can be stored but three things: a directory in
the place of the file, and documents that are nested too deep or hold an integer too long. -/

namespace GraphConsole

open GraphConsole.Files
open GraphConsole.Text

namespace Profile

/-- A key as it is sent: not empty, and without blanks around it. -/
structure Sendable (key : String) : Prop where
  filled : key ≠ ""
  first : ∀ c ∈ key.toList.head?, isBlank c = false
  last : ∀ c ∈ key.toList.getLast?, isBlank c = false

inductive Promised (name : String) : Except Fault Profile → Prop
  | loaded (key : String) (sendable : Sendable key) : Promised name (.ok ⟨name, key⟩)
  | unknown : Promised name (.error (.failure (.profileNotFound name)))
  | unauthenticated (reason : String) :
      Promised name (.error (.failure (.authenticationFailed name reason)))

/-- What can be stored for a key that no failure tells of, and the class of what is raised then. -/
inductive Unforeseen (tree : Tree) (file : Path) : String → Prop
  | directory (found : tree.inspect file = .ok (some .directory)) :
      Unforeseen tree file "IsADirectoryError"
  | tooDeep (text : String) (container : Json.Container) (stored : tree.text file = .ok text)
      (refused : Json.read .standard text.toList = .error (.tooDeep container))
      (deep : Json.Limits.standard.depth < Json.openings text.toList) :
      Unforeseen tree file "RecursionError"
  | integerTooLong (text : String) (digits : List Char) (stored : tree.text file = .ok text)
      (refused : Json.read .standard text.toList = .error (.integerTooLong digits.length))
      (long : Json.Limits.standard.digits < digits.length)
      (whole : ∀ c ∈ digits, isDigit c = true) (part : digits <:+: text.toList) :
      Unforeseen tree file "ValueError"

theorem sendable_trimmed {text : String} (filled : trimmed text ≠ "") :
    Sendable (trimmed text) where
  filled := filled
  first := by
    rw [trimmed, String.toList_ofList]
    exact (core_trim text.toList).first
  last := by
    rw [trimmed, String.toList_ofList]
    exact (core_trim text.toList).last

theorem Promised.code_of_failure {name : String} {outcome : Except Fault Profile}
    (promised : Promised name outcome) {fault : Fault} (failed : outcome = .error fault) :
    ∃ failure, fault = .failure failure ∧
      (failure.code = some "E020" ∨ failure.code = some "E021") := by
  cases promised with
  | loaded key sendable => cases failed
  | unknown =>
      cases failed
      exact ⟨_, rfl, .inl rfl⟩
  | unauthenticated reason =>
      cases failed
      exact ⟨_, rfl, .inr rfl⟩

theorem not_promised_incident (name : String) (incident : Incident) :
    ¬ Promised name (.error (.incident incident)) :=
  nofun

/-- A document gives a key that can be sent, or none. -/
theorem keyOf_sendable_or (name : String) (document : Json) :
    (∃ key, Sendable key ∧ keyOf name document = .ok key) ∨
      keyOf name document = .error (.failure (.noKeyFound name)) := by
  rw [keyOf]
  split
  · next key found =>
    by_cases blank : trimmed key = ""
    · exact .inr (by simp [blank])
    · exact .inl ⟨trimmed key, sendable_trimmed blank, by simp [blank]⟩
  · exact .inr rfl

namespace Store

variable {tree : Tree} {directory : Path} {name : String}

theorem storedKey_of_unforeseen {className : String}
    (unforeseen : Unforeseen tree (sensitiveFile directory) className) (name : String) :
    ∃ incident, storedKey name tree directory = .error (.incident incident) ∧
      incident.name = className := by
  rw [storedKey]
  cases unforeseen with
  | directory found =>
      obtain ⟨noNul, stands⟩ := Tree.status_of_inspect found
      rw [Tree.text, Tree.octets, noNul, if_neg (by simp), stands]
      exact ⟨_, rfl, rfl⟩
  | tooDeep text container stored refused deep =>
      rw [stored]
      simp only [refused]
      cases container with
      | array => exact ⟨_, rfl, rfl⟩
      | object => exact ⟨_, rfl, rfl⟩
  | integerTooLong text digits stored refused long whole part =>
      rw [stored]
      simp only [refused]
      exact ⟨_, rfl, rfl⟩

/-- A text that is stored is a document with a key or without, or one that is refused. -/
theorem promised_or_unforeseen_of_text {text : String}
    (stored : tree.text (sensitiveFile directory) = .ok text) (name : String) :
    Promised name ((storedKey name tree directory).map (⟨name, ·⟩)) ∨
      ∃ className, Unforeseen tree (sensitiveFile directory) className := by
  rw [storedKey, stored]
  cases read : Json.read .standard text.toList with
  | ok document =>
      simp only [read]
      rcases keyOf_sendable_or name document with ⟨key, sendable, given⟩ | none
      · rw [given]
        exact .inl (.loaded key sendable)
      · rw [none]
        exact .inl (.unauthenticated _)
  | error refusal =>
      simp only [read]
      cases Json.excess_of_read read with
      | malformed => exact .inl (.unauthenticated _)
      | tooDeep container deep => exact .inr ⟨_, .tooDeep text container stored read deep⟩
      | integerTooLong digits long whole part =>
          exact .inr ⟨_, .integerTooLong text digits stored read long whole part⟩

/-- In a directory that is there, what is stored can be sent, is reported or is unforeseen. -/
theorem promised_or_unforeseen (opened : tree.Open directory.way)
    (fits : (sensitiveFile directory).Fits) (name : String) :
    Promised name ((storedKey name tree directory).map (⟨name, ·⟩)) ∨
      ∃ className, Unforeseen tree (sensitiveFile directory) className := by
  have octets : tree.octets (sensitiveFile directory) = _ := Tree.octets_of_open opened fits
  cases found : tree.find? (directory.child ".sensitive").place with
  | none =>
      rw [found] at octets
      rw [storedKey, Tree.text, octets]
      exact .inl (.unauthenticated _)
  | some entry =>
      cases entry with
      | directory =>
          have inspected : tree.inspect (sensitiveFile directory) = _ :=
            Tree.inspect_of_open opened fits
          exact .inr ⟨_, .directory (inspected.trans (congrArg Except.ok found))⟩
      | file stored =>
          rw [found] at octets
          cases decoded : Utf8.decode stored with
          | error broken =>
              rw [storedKey, Tree.text, octets]
              simp only [decoded]
              exact .inl (.unauthenticated _)
          | ok s =>
              have text : tree.text (sensitiveFile directory) =
                  .ok (String.ofList (unifyNewlines s)) := by
                rw [Tree.text, octets]
                simp only [decoded]
              exact promised_or_unforeseen_of_text text name

/-- A profile that is there, to be loaded without a key in the environment, whose stored key is
unforeseen. -/
structure Overlooked (store : Store) (environmentKey : Option String) (tree : Tree)
    (name className : String) : Prop where
  valid : validName name = true
  blank : trimmed (environmentKey.getD "") = ""
  present : tree.isDirectory (store.directory.child name) = .ok true
  unforeseen : Unforeseen tree (sensitiveFile (store.directory.child name)) className

section Promise

variable {store : Store} {environmentKey : Option String}

theorem Overlooked.raised {className : String}
    (overlooked : store.Overlooked environmentKey tree name className) :
    ∃ incident, store.load environmentKey tree name = .error (.incident incident) ∧
      incident.name = className := by
  obtain ⟨incident, raised, named⟩ := storedKey_of_unforeseen overlooked.unforeseen name
  refine ⟨incident, ?_, named⟩
  rw [load_of_blank store tree overlooked.valid overlooked.blank, overlooked.present]
  simp only [raised]
  rfl

theorem promised_or_overlooked
    (short : ∀ part ∈ (store.directory.child name).parts, part.utf8ByteSize ≤ 255)
    (room : (sensitiveFile (store.directory.child name)).toText.utf8ByteSize < 4096) :
    Promised name (store.load environmentKey tree name) ∨
      ∃ className, store.Overlooked environmentKey tree name className := by
  cases valid : validName name with
  | false =>
      rw [load_of_invalid store tree valid]
      exact .inl .unknown
  | true =>
      by_cases blank : trimmed (environmentKey.getD "") = ""
      · obtain ⟨seen, told⟩ := Tree.isDirectory_of_short tree short (Path.room_of_child room)
        rw [load_of_blank store tree valid blank, told]
        cases seen with
        | false => exact .inl .unknown
        | true =>
            obtain ⟨fitsDirectory, opened⟩ := Tree.open_of_isDirectory told
            have fits : (sensitiveFile (store.directory.child name)).Fits := by
              refine ⟨?_, List.forall_mem_append.mpr ⟨short, ?_⟩, room⟩
              · rw [sensitiveFile, Path.holdsNul_child, fitsDirectory.noNul]
                decide
              · simp only [List.forall_mem_singleton]
                decide
            rcases promised_or_unforeseen opened fits name with kept | ⟨className, unforeseen⟩
            · exact .inl kept
            · exact .inr ⟨className, valid, blank, told, unforeseen⟩
      · rw [load_of_filled store tree valid blank]
        exact .inl (.loaded _ (sendable_trimmed blank))

end Promise

/-- For every name that the system can hold, loading keeps its promise unless the stored key is
overlooked. Then an incident is raised, and no other failure has another code than the two. -/
theorem load_promised_iff (store : Store) (environmentKey : Option String) (tree : Tree)
    (name : String)
    (short : ∀ part ∈ (store.directory.child name).parts, part.utf8ByteSize ≤ 255)
    (room : (sensitiveFile (store.directory.child name)).toText.utf8ByteSize < 4096) :
    (Promised name (store.load environmentKey tree name) ↔
        ∀ className, ¬ store.Overlooked environmentKey tree name className) ∧
      (∀ className, store.Overlooked environmentKey tree name className →
        ∃ incident, store.load environmentKey tree name = .error (.incident incident) ∧
          incident.name = className) ∧
      ∀ failure, store.load environmentKey tree name = .error (.failure failure) →
        failure.code = some "E020" ∨ failure.code = some "E021" := by
  have either : Promised name (store.load environmentKey tree name) ∨ _ :=
    promised_or_overlooked short room
  refine ⟨⟨?_, ?_⟩, fun _ overlooked => overlooked.raised, ?_⟩
  · intro promised className overlooked
    obtain ⟨incident, raised, _⟩ := overlooked.raised
    rw [raised] at promised
    exact not_promised_incident name incident promised
  · intro none
    rcases either with promised | ⟨className, overlooked⟩
    · exact promised
    · exact absurd overlooked (none className)
  · intro failure failed
    rcases either with promised | ⟨_, overlooked⟩
    · obtain ⟨told, same, code⟩ := promised.code_of_failure failed
      obtain rfl : failure = told := by simpa using same
      exact code
    · obtain ⟨incident, raised, _⟩ := overlooked.raised
      rw [raised] at failed
      cases failed

/-- A directory in the place of a key. -/
def occupied : Tree :=
  ⟨[(["cfg"], .directory), (["cfg", "profiles"], .directory),
    (["cfg", "profiles", "p"], .directory), (["cfg", "profiles", "p", ".sensitive"], .directory)]⟩

theorem load_promised_iff_occupied :
    (∀ part ∈ (shared.directory.child "p").parts, part.utf8ByteSize ≤ 255) ∧
      (sensitiveFile (shared.directory.child "p")).toText.utf8ByteSize < 4096 ∧
      ∃ incident, shared.load (some " ") occupied "p" = .error (.incident incident) ∧
        incident.name = "IsADirectoryError" := by
  have short : ∀ part ∈ (shared.directory.child "p").parts, part.utf8ByteSize ≤ 255 := by decide
  have room : (sensitiveFile (shared.directory.child "p")).toText.utf8ByteSize < 4096 := by decide
  have blank : trimmed ((some " ").getD "") = "" := by decide
  have overlooked : shared.Overlooked (some " ") occupied "p" "IsADirectoryError" :=
    ⟨by decide, blank, rfl, .directory rfl⟩
  exact ⟨short, room,
    (load_promised_iff shared (some " ") occupied "p" short room).2.1 _ overlooked⟩

/-- A directory in the place of a key is not told of as a failed authentication. -/
theorem not_promised_occupied : ¬ Promised "p" (shared.load none occupied "p") := by
  have raised : ∃ incident, shared.load none occupied "p" = .error (.incident incident) := ⟨_, rfl⟩
  obtain ⟨incident, raised⟩ := raised
  rw [raised]
  exact not_promised_incident "p" incident

end Store

end Profile

end GraphConsole
