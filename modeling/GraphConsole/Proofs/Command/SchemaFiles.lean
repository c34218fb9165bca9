import GraphConsole.Command.Composition
import GraphConsole.Proofs.Sequence
import GraphConsole.Proofs.Service.Conduct
import GraphConsole.Proofs.Text.Octets

/-! The reading of schema files. It gives the texts of all of them, or ends at the first one whose
text cannot be had. If the system refuses the file, a failure names the source; a path with a null
character and octets that are no text are not foreseen. -/

namespace GraphConsole

open GraphConsole.Files
open GraphConsole.Service
open GraphConsole.Text

namespace Files.Tree

variable {tree : Tree} {path : Path}

/-- The text in a file, with a line feed for each end of a line. The octets are those that UTF-8
has for it. -/
def Spells (tree : Tree) (path : Path) (text : String) : Prop :=
  ∃ s, tree.octets path = .ok (Utf8.encode s) ∧ text = String.ofList (unifyNewlines s)

theorem text_eq_ok_iff_spells (tree : Tree) (path : Path) (text : String) :
    tree.text path = .ok text ↔ tree.Spells path text := by
  rw [Tree.text, Spells]
  cases tree.octets path with
  | error trouble => simp
  | ok octets =>
      simp only [Except.ok.injEq, ← Utf8.decode_eq_ok_iff]
      cases Utf8.decode octets with
      | error broken => simp
      | ok s => simp [eq_comm]

/-- What can keep the text of a file from being had. -/
inductive Hinders (tree : Tree) (path : Path) : Trouble → Prop
  | system {error : SystemError} (refused : tree.octets path = .error (.system error path.toText)) :
      Hinders tree path (.system error path.toText)
  | nul (holds : path.holdsNul = true) : Hinders tree path .nulInPath
  | foreign {octets : List UInt8} (broken : Utf8.Broken) (stored : tree.octets path = .ok octets)
      (foreign : ∀ s, octets ≠ Utf8.encode s) : Hinders tree path (.notText broken)

theorem octets_of_nul (holds : path.holdsNul = true) : tree.octets path = .error .nulInPath := by
  rw [octets, if_pos holds]

theorem text_of_nul (holds : path.holdsNul = true) : tree.text path = .error .nulInPath := by
  rw [text, octets_of_nul holds]

theorem text_of_foreign {octets : List UInt8} (stored : tree.octets path = .ok octets)
    (foreign : ∀ s, octets ≠ Utf8.encode s) :
    ∃ broken, tree.text path = .error (.notText broken) := by
  rw [text, stored]
  cases decoded : Utf8.decode octets with
  | error broken => exact ⟨broken, by simp [decoded]⟩
  | ok s => exact absurd ((Utf8.decode_eq_ok_iff octets s).mp decoded) (foreign s)

theorem hinders_of_text {trouble : Trouble} (failed : tree.text path = .error trouble) :
    tree.Hinders path trouble := by
  rw [text] at failed
  cases read : tree.octets path with
  | ok octets =>
      rw [read] at failed
      cases decoded : Utf8.decode octets with
      | ok s => simp [decoded] at failed
      | error broken =>
          simp only [decoded, Except.error.injEq] at failed
          subst failed
          refine .foreign broken read fun s same => ?_
          rw [(Utf8.decode_eq_ok_iff octets s).mpr same] at decoded
          cases decoded
  | error trouble =>
      rw [read] at failed
      cases failed
      have told := read
      rw [octets] at told
      split at told
      · next holds =>
          cases told
          exact .nul holds
      · split at told
        · cases told
        · cases told
          exact .system read
        · cases told
          exact .system read

end Files.Tree

namespace Command

variable {tree : Tree} {sources : List (String × Path)} {schemas : List (String × String)}

/-- The schema of a source: its name, and the text in its file. -/
def Reads (tree : Tree) (source : String × Path) (schema : String × String) : Prop :=
  schema.1 = source.1 ∧ tree.Spells source.2 schema.2

/-- The first source, in the order of all of them, whose text cannot be had. -/
structure FirstUnread (tree : Tree) (sources : List (String × Path)) (name : String)
    (path : Path) : Prop where
  place : ∃ before after, sources = before ++ (name, path) :: after ∧
    ∀ source ∈ before, ∃ text, tree.Spells source.2 text
  unread : ∀ text, ¬ tree.Spells path text

theorem reads_or_firstUnread (tree : Tree) (sources : List (String × Path)) :
    (∃ schemas, List.Forall₂ (Reads tree) sources schemas) ∨
      ∃ name path, FirstUnread tree sources name path := by
  rcases Sequence.counterparts_or_first (Reads tree) sources with ⟨schemas, all⟩ |
    ⟨before, ⟨name, path⟩, after, whole, early, unread⟩
  · exact .inl ⟨schemas, all⟩
  · refine .inr ⟨name, path, ⟨before, after, whole, fun source member => ?_⟩,
      fun text spelled => unread (name, text) ⟨rfl, spelled⟩⟩
    obtain ⟨schema, _, spelled⟩ := early source member
    exact ⟨schema.2, spelled⟩

theorem readSources_of_reads (all : List.Forall₂ (Reads tree) sources schemas) :
    readSources tree sources = .ok schemas := by
  induction all with
  | nil => rfl
  | @cons source schema _ _ here _ induction =>
      obtain ⟨name, text⟩ := schema
      obtain ⟨rfl, spelled⟩ := here
      rw [readSources, (tree.text_eq_ok_iff_spells source.2 text).mpr spelled, induction]

theorem readSources_of_firstUnread {name : String} {path : Path}
    (first : FirstUnread tree sources name path) :
    ∃ trouble, tree.text path = .error trouble ∧
      readSources tree sources = .error (unreadableSchema name path trouble) := by
  obtain ⟨⟨before, after, rfl, early⟩, unread⟩ := first
  cases read : tree.text path with
  | ok text => exact absurd ((tree.text_eq_ok_iff_spells path text).mp read) (unread text)
  | error trouble =>
      refine ⟨trouble, rfl, ?_⟩
      induction before with
      | nil => rw [List.nil_append, readSources, read]
      | cons source rest induction =>
          obtain ⟨⟨text, spelled⟩, later⟩ := List.forall_mem_cons.mp early
          rw [List.cons_append, readSources, (tree.text_eq_ok_iff_spells source.2 text).mpr spelled,
            induction later]

theorem schemasOf_of_ne_nil (given : sources ≠ []) :
    schemasOf sources tree = readSources tree sources := by
  cases sources with
  | nil => exact absurd rfl given
  | cons source rest => rfl

/-- What is promised of the reading of sources: their texts under their names, in their order, or a
failure that tells the name and the path of the first one without a text. -/
inductive Accounted (tree : Tree) (sources : List (String × Path)) :
    Except Fault (List (String × String)) → Prop
  | read {schemas : List (String × String)} (all : List.Forall₂ (Reads tree) sources schemas) :
      Accounted tree sources (.ok schemas)
  | unread {name : String} {path : Path} (first : FirstUnread tree sources name path)
      (reason : String) :
      Accounted tree sources (.error (.failure (.unclassified
        ("Could not read the schema for subgraph \"" ++ name ++ "\" from " ++ path.toText ++ ": "
          ++ reason))))

/-- The first source without a text is one of two that no failure tells of, and the class of what is
raised then. -/
inductive Overlooked (tree : Tree) (sources : List (String × Path)) : String → Prop
  | nul {name : String} {path : Path} (first : FirstUnread tree sources name path)
      (holds : path.holdsNul = true) : Overlooked tree sources "ValueError"
  | foreign {name : String} {path : Path} {octets : List UInt8}
      (first : FirstUnread tree sources name path) (stored : tree.octets path = .ok octets)
      (foreign : ∀ s, octets ≠ Utf8.encode s) : Overlooked tree sources "UnicodeDecodeError"

theorem Overlooked.raised {className : String} (overlooked : Overlooked tree sources className) :
    ∃ incident, readSources tree sources = .error (.incident incident) ∧
      incident.name = className := by
  cases overlooked with
  | nul first holds =>
      obtain ⟨trouble, failed, ended⟩ := readSources_of_firstUnread first
      rw [Tree.text_of_nul holds] at failed
      cases failed
      exact ⟨_, ended, rfl⟩
  | foreign first stored foreign =>
      obtain ⟨trouble, failed, ended⟩ := readSources_of_firstUnread first
      obtain ⟨broken, undecoded⟩ := Tree.text_of_foreign stored foreign
      rw [undecoded] at failed
      cases failed
      exact ⟨_, ended, rfl⟩

theorem accounted_or_overlooked (tree : Tree) (sources : List (String × Path)) :
    Accounted tree sources (readSources tree sources) ∨
      ∃ className, Overlooked tree sources className := by
  rcases reads_or_firstUnread tree sources with ⟨schemas, all⟩ | ⟨name, path, first⟩
  · rw [readSources_of_reads all]
    exact .inl (.read all)
  · obtain ⟨trouble, failed, ended⟩ := readSources_of_firstUnread first
    rw [ended]
    cases Tree.hinders_of_text failed with
    | system refused => exact .inl (.unread first _)
    | nul holds => exact .inr ⟨_, .nul first holds⟩
    | foreign broken stored foreign => exact .inr ⟨_, .foreign first stored foreign⟩

/-- Whatever the files hold, the reading of sources keeps its promise unless the first one without a
text is overlooked. It changes nothing in any case. -/
theorem readSubgraphSchemas_accounted_iff {sources : List (String × Path)} (given : sources ≠ [])
    (world : World) :
    ∃ outcome, runIn (readSubgraphSchemas sources) world = (outcome, world) ∧
      (Accounted world.files sources outcome ↔
        ∀ className, ¬ Overlooked world.files sources className) ∧
      ∀ className, Overlooked world.files sources className →
        ∃ incident, outcome = .error (.incident incident) ∧ incident.name = className := by
  refine ⟨readSources world.files sources, ?_, ⟨?_, ?_⟩, fun _ overlooked => overlooked.raised⟩
  · rw [readSubgraphSchemas, runIn_askFiles, schemasOf_of_ne_nil given]
  · intro accounted className overlooked
    obtain ⟨incident, raised, _⟩ := overlooked.raised
    rw [raised] at accounted
    cases accounted
  · intro none
    rcases accounted_or_overlooked world.files sources with accounted | ⟨className, overlooked⟩
    · exact accounted
    · exact absurd overlooked (none className)

/-- A text with two kinds of line ends, a directory, and octets of which the last one starts a
character that does not go on. -/
def shelf : World where
  files := ⟨[(["a.graphql"], .file [65, 13, 10, 66, 13]), (["b"], .directory),
    (["c.graphql"], .file [97, 0xC3])]⟩

/-- The text, the octets that are none, and the directory. -/
def shelfSources : List (String × Path) :=
  [("x", .ofText "a.graphql"), ("y", .ofText "c.graphql"), ("z", .ofText "b")]

theorem cutOff_foreign (s : List Char) : [97, 0xC3] ≠ Utf8.encode s := by
  intro same
  have decoded := (Utf8.decode_eq_ok_iff [97, 0xC3] s).mpr same
  have refused : Utf8.decode [97, 0xC3] = .error ⟨1, [0xC3], .unexpectedEnd⟩ := by cbv
  rw [refused] at decoded
  cases decoded

theorem overlooked_shelf : Overlooked shelf.files shelfSources "UnicodeDecodeError" := by
  have stored : shelf.files.octets (.ofText "c.graphql") = .ok [97, 0xC3] := rfl
  have spelled : shelf.files.Spells (.ofText "a.graphql") "A\nB\n" :=
    ⟨"A\r\nB\r".toList, rfl, rfl⟩
  have first : FirstUnread shelf.files shelfSources "y" (.ofText "c.graphql") := by
    refine ⟨⟨[_], [_], rfl, List.forall_mem_singleton.mpr ⟨_, spelled⟩⟩, ?_⟩
    rintro text ⟨s, found, _⟩
    rw [stored] at found
    exact cutOff_foreign s (Except.ok.inj found)
  exact .foreign first stored cutOff_foreign

theorem readSubgraphSchemas_accounted_iff_shelf :
    shelfSources ≠ [] ∧ ∃ incident,
      runIn (readSubgraphSchemas shelfSources) shelf = (.error (.incident incident), shelf) ∧
      incident.name = "UnicodeDecodeError" := by
  have given : shelfSources ≠ [] := nofun
  obtain ⟨outcome, run, _, raised⟩ := readSubgraphSchemas_accounted_iff given shelf
  obtain ⟨incident, rfl, named⟩ := raised _ overlooked_shelf
  exact ⟨given, incident, run, named⟩

/-- Octets that are no text are not told of as a source that could not be read. -/
theorem not_accounted_shelf :
    ¬ ∀ (sources : List (String × Path)) (world : World), sources ≠ [] →
      Accounted world.files sources (runIn (readSubgraphSchemas sources) world).1 := by
  intro promised
  obtain ⟨incident, raised, _⟩ := overlooked_shelf.raised
  have accounted : Accounted shelf.files shelfSources (readSources shelf.files shelfSources) :=
    promised shelfSources shelf nofun
  rw [raised] at accounted
  cases accounted

end Command

end GraphConsole
