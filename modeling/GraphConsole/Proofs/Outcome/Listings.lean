import GraphConsole.Proofs.Json.Scalars
import GraphConsole.Proofs.Outcome.Breakage
import GraphConsole.Proofs.Sequence
import GraphConsole.Proofs.Text.Cuts

/-! Lists as scripts read them and as people do: the same things in the same order, each of them
with an entry and with a row or a line. -/

namespace GraphConsole

open GraphConsole.Registry
open GraphConsole.Text

/-! Numbers end no lines. Lines that are put together begin with the first of them. -/

theorem Text.unbroken_of_all {s : List Char} (inner : s.all (fun c => !isLineEnd c) = true) :
    Unbroken s := by
  intro c member
  simpa using List.all_eq_true.mp inner c member

theorem Text.unbroken_natDigits (n : Nat) : Unbroken (natDigits n) := by
  intro c member
  have digit := isDigit_of_mem_natDigits n member
  simp only [isDigit, Bool.and_eq_true, decide_eq_true_eq] at digit
  simp [isLineEnd]
  omega

theorem Text.unbroken_intDigits (n : Int) : Unbroken (intDigits n) := by
  cases n with
  | ofNat n => exact unbroken_natDigits n
  | negSucc n => exact List.forall_mem_cons.mpr ⟨by decide, unbroken_natDigits (n + 1)⟩

theorem Text.head?_lines_joined {first : String} (unbroken : Unbroken first.toList)
    (second : String) (more : List String) :
    (lines (joined "\n" (first :: second :: more)).toList).head? = some first.toList := by
  have split : (joined "\n" (first :: second :: more)).toList =
      first.toList ++ '\n' :: (joined "\n" (second :: more)).toList := by
    simp [joined, join]
  rw [split, lines_append_newline unbroken]
  rfl

namespace Registry

/-! Subgraphs. Times for people begin with a digit, so that none of them can be mistaken for a
missing one. -/

theorem Timestamp.toReadable_ne (time : Timestamp) : String.ofList time.toReadable ≠ "N/A" := by
  obtain ⟨c, rest, digits⟩ := List.exists_cons_of_ne_nil (natDigits_ne_nil time.year)
  have digit : isDigit c = true := isDigit_of_mem_natDigits time.year (by simp [digits])
  obtain ⟨more, readable⟩ : ∃ more, time.toReadable = c :: more := by
    rw [toReadable, digits]
    exact trim_cons (isBlank_of_isDigit digit) _
  intro same
  rw [readable] at same
  have first := congrArg String.toList same
  rw [String.toList_ofList] at first
  cases first
  exact absurd digit (by decide)

namespace Subgraph

/-- What people see of the address that scripts read. -/
inductive Addressed : Option Json → String → Prop
  | given {url : String} (filled : url ≠ "") : Addressed (some (.string url)) url
  | empty : Addressed (some (.string "")) "unspecified"
  | missing : Addressed (some .null) "unspecified"

/-- What scripts and people are told of a subgraph. -/
structure Told (subgraph : Subgraph) (entry : Json) (row : List String) : Prop where
  name : entry.at? ["name"] = some (.string subgraph.name)
  url : entry.at? ["url"] = some (Json.optionalString subgraph.url)
  localTime : entry.at? ["updated_at", "local"] =
    some (Json.ofOption Timestamp.toJson subgraph.updatedAt.localTime)
  universalTime : entry.at? ["updated_at", "utc"] =
    some (Json.ofOption Timestamp.toJson subgraph.updatedAt.universalTime)
  row : ∃ address updated, row = [subgraph.name, address, updated] ∧
    Addressed (entry.at? ["url"]) address ∧
    (updated = "N/A" ↔ entry.at? ["updated_at", "local"] = some .null) ∧
    ∀ time, subgraph.updatedAt.localTime = some time → updated = String.ofList time.toReadable

theorem addressed (url : Option String) :
    Addressed (some (Json.optionalString url)) ((Report.nonEmpty url).getD "unspecified") := by
  cases url with
  | none => exact .missing
  | some url =>
      by_cases filled : url = ""
      · subst filled
        exact .empty
      · have kept : Report.nonEmpty (some url) = some url := by simp [Report.nonEmpty, filled]
        rw [kept]
        exact .given filled

theorem told_row (subgraph : Subgraph) :
    subgraph.Told subgraph.toJson (Report.subgraphRow subgraph) where
  name := rfl
  url := rfl
  localTime := rfl
  universalTime := rfl
  row := by
    obtain ⟨name, url, localTime, universalTime⟩ := subgraph
    refine ⟨_, _, rfl, addressed url, ?_⟩
    cases localTime with
    | none => exact ⟨⟨fun _ => rfl, fun _ => rfl⟩, nofun⟩
    | some time =>
        refine ⟨⟨fun same => absurd same time.toReadable_ne, nofun⟩, ?_⟩
        rintro _ ⟨rfl⟩
        rfl

end Subgraph

/-- What scripts and people are told of a template. -/
structure Template.Told (template : Template) (entry : Json) (row : List String) : Prop where
  id : entry.at? ["id"] = some (.string template.id)
  repository : entry.at? ["git_url"] = some (.string template.repository)
  title : entry.at? ["display"] = some (.string template.title)
  language : entry.at? ["language"] = some (.string template.language.name)
  row : row = [template.title, template.id, template.language.name, template.repository]

/-- What scripts and people are told of a hint. -/
structure CompositionHint.Told (hint : CompositionHint) (entry : Json) (line : Line) : Prop where
  message : entry.at? ["message"] = some (.string hint.message)
  code : entry.at? ["code"] = some (Json.optionalString hint.code)
  line : line.Labelled "HINT:" hint.message

namespace SchemaChange

/-- What scripts and people are told of a change. -/
structure Told (change : SchemaChange) (entry : Json) (row : List String) : Prop where
  entry : Shown entry change
  row : row = [change.verdict.name, change.code, change.description]

/-- What people see of some changes beside the entries that scripts read: a table, or a sentence in
its place. -/
inductive Drawn : List SchemaChange → List Json → String → Prop
  | unchanged : Drawn [] [] "There were no changes detected in the composed schema."
  | changed {changes : List SchemaChange} {entries : List Json} {rows : List (List String)}
      (filled : changes ≠ []) (alike : Sequence.Alike Told changes entries rows) :
      Drawn changes entries (Table.render ["Change", "Code", "Description"] rows)

end SchemaChange

end Registry

/-- What scripts and people are told of a page of the documentation. -/
structure Documentation.Told (shortlink : String × String) (entry : Json) (row : List String) :
    Prop where
  slug : entry.at? ["slug"] = some (.string shortlink.1)
  description : entry.at? ["description"] = some (.string shortlink.2)
  row : row = [shortlink.1, shortlink.2]

/-- The first line of a check: how many changes were compared against how many operations. -/
def Report.comparison (changes : Nat) (operations : Int) : String :=
  "Compared " ++ natText changes ++ " schema changes against " ++ intText operations
    ++ " operations"

theorem Report.unbroken_comparison (changes : Nat) (operations : Int) :
    Unbroken (comparison changes operations).toList := by
  have opening : Unbroken "Compared ".toList := unbroken_of_all (by decide)
  have middle : Unbroken " schema changes against ".toList := unbroken_of_all (by decide)
  have closing : Unbroken " operations".toList := unbroken_of_all (by decide)
  simp only [comparison, natText, intText, String.toList_append, String.toList_ofList, Unbroken,
    List.forall_mem_append]
  exact ⟨⟨⟨⟨opening, unbroken_natDigits changes⟩, middle⟩, unbroken_intDigits operations⟩, closing⟩

/-- A list as scripts find it in an envelope, and as people see it in a report. -/
inductive Output.Lists (scripts : Json) (report : Report) : Output → Prop
  | subgraphs {listing : SubgraphListing} {entries : List Json} {rows : List (List String)}
      {address : String} (stored : scripts.at? ["data", "subgraphs"] = some (.array entries))
      (body : report.body = some (Table.render ["Name", "Routing Url", "Last Updated"] rows
        ++ "\nView full details at " ++ address))
      (alike : Sequence.Alike Subgraph.Told listing.subgraphs entries rows) :
      Lists scripts report (.subgraphList listing)
  | templates {templates : List Template} {entries : List Json} {rows : List (List String)}
      (stored : scripts.at? ["data", "templates"] = some (.array entries))
      (body : report.body = some (Table.render ["Name", "ID", "Language", "Repo URL"] rows))
      (alike : Sequence.Alike Template.Told templates entries rows) :
      Lists scripts report (.templateList templates)
  | changes {check : CheckReport} {entries : List Json} {body drawn : String} {more : List String}
      (stored : scripts.at? ["data", "changes"] = some (.array entries))
      (whole : report.body = some body)
      (parts : body =
        joined "\n" (Report.comparison entries.length check.operationCount :: drawn :: more))
      (first : (lines body.toList).head? =
        some (Report.comparison entries.length check.operationCount).toList)
      (drawn : SchemaChange.Drawn check.changes entries drawn) :
      Lists scripts report (.check check)
  | hints {composition : Composition} {entries : List Json}
      (stored : scripts.at? ["data", "hints"] = some (.array entries))
      (alike : Sequence.Alike CompositionHint.Told composition.hints entries report.status) :
      Lists scripts report (.compositionResult composition)
  | shortlinks {shortlinks sorted : List (String × String)} {entries : List Json}
      {rows : List (List String)}
      (stored : scripts.at? ["data", "shortlinks"] = some (.array entries))
      (body : report.body = some (Table.render ["Slug", "Description"] rows))
      (perm : sorted.Perm shortlinks)
      (ascending : (sorted.map Prod.fst).Pairwise (· < ·))
      (alike : Sequence.Alike Documentation.Told sorted entries rows) :
      Lists scripts report (.docsList shortlinks)

namespace Output

theorem lists_subgraphs (listing : SubgraphListing) :
    (subgraphList listing).Lists (subgraphList listing).envelope.toJson
      (.ofOutput (.subgraphList listing)) :=
  .subgraphs rfl rfl (Sequence.alike_map Subgraph.told_row _)

theorem lists_templates (templates : List Template) :
    (templateList templates).Lists (templateList templates).envelope.toJson
      (.ofOutput (.templateList templates)) :=
  .templates rfl rfl (Sequence.alike_map (fun _ => ⟨rfl, rfl, rfl, rfl, rfl⟩) _)

theorem drawn_changes (changes : List SchemaChange) :
    SchemaChange.Drawn changes (changes.map SchemaChange.toJson)
      (if changes.isEmpty then "There were no changes detected in the composed schema."
        else Table.render ["Change", "Code", "Description"] (changes.map Report.changeRow)) := by
  cases changes with
  | nil => exact .unchanged
  | cons change rest =>
      have alike : Sequence.Alike SchemaChange.Told (change :: rest)
          ((change :: rest).map SchemaChange.toJson) ((change :: rest).map Report.changeRow) :=
        Sequence.alike_map (fun change => ⟨change.shown_toJson, rfl⟩) _
      exact .changed (List.cons_ne_nil _ _) alike

theorem lists_changes (report : CheckReport) :
    (check report).Lists (check report).envelope.toJson (.ofOutput (.check report)) := by
  have count : (report.changes.map SchemaChange.toJson).length = report.changes.length :=
    List.length_map _
  obtain ⟨more, parts⟩ : ∃ more, Report.checkBody report =
      joined "\n" (Report.comparison report.changes.length report.operationCount ::
        (if report.changes.isEmpty then "There were no changes detected in the composed schema."
          else Table.render ["Change", "Code", "Description"]
            (report.changes.map Report.changeRow)) :: more) := ⟨_, rfl⟩
  rw [← count] at parts
  refine .changes rfl rfl parts ?_ (drawn_changes report.changes)
  rw [parts]
  exact head?_lines_joined (Report.unbroken_comparison _ _) _ _

theorem lists_hints (composition : Composition) :
    (compositionResult composition).Lists (compositionResult composition).envelope.toJson
      (.ofOutput (.compositionResult composition)) :=
  .hints rfl (Sequence.alike_map (fun _ => ⟨rfl, rfl, Failure.labelled_line _ _⟩) _)

theorem lists_shortlinks {shortlinks : List (String × String)}
    (distinct : (shortlinks.map Prod.fst).Nodup) :
    (docsList shortlinks).Lists (docsList shortlinks).envelope.toJson
      (.ofOutput (.docsList shortlinks)) := by
  have ascending : ((sortedShortlinks shortlinks).map Prod.fst).Pairwise (· < ·) :=
    List.pairwise_map.mpr (Sequence.pairwise_lt_mergeSort Prod.fst (List.pairwise_map.mp distinct))
  exact .shortlinks rfl rfl (List.mergeSort_perm _ _) ascending
    (Sequence.alike_map (fun _ => ⟨rfl, rfl, rfl⟩) _)

/-- Whatever a list holds, and however much of it: scripts find an entry for each thing and people
see a row or a line for it, both in the order of the things themselves. Only the pages of the
documentation are put in the order of their slugs, which differ. -/
theorem lists_correspond (output : Output)
    (listing : output.variant ∈
      [.subgraphList, .templateList, .check, .compositionResult, .docsList])
    (distinct : ∀ shortlinks, output = .docsList shortlinks → (shortlinks.map Prod.fst).Nodup) :
    ∃ envelope, Outcome.envelope (.success (.known output)) = .ok envelope ∧
      output.Lists envelope.toJson (.ofOutput output) := by
  refine ⟨output.envelope, rfl, ?_⟩
  cases output with
  | subgraphList subgraphs => exact lists_subgraphs subgraphs
  | templateList templates => exact lists_templates templates
  | check report => exact lists_changes report
  | compositionResult composition => exact lists_hints composition
  | docsList shortlinks => exact lists_shortlinks (distinct shortlinks rfl)
  | _ => simp [variant] at listing

/-- Pages whose slugs begin with letters of both cases, with an accent, and with characters in and
beyond the basic plane. -/
def scatteredPages : List (String × String) :=
  [("😀", "faces"), ("z", "last\x07"), ("｡", ""), ("Z", "first"), ("é", "accents")]

theorem lists_correspond_scatteredPages :
    (docsList scatteredPages).variant ∈
        [.subgraphList, .templateList, .check, .compositionResult, .docsList] ∧
      (scatteredPages.map Prod.fst).Nodup ∧
      ∃ envelope, Outcome.envelope (.success (.known (.docsList scatteredPages))) = .ok envelope ∧
        (docsList scatteredPages).Lists envelope.toJson (.ofOutput (.docsList scatteredPages)) ∧
        ∃ entries, envelope.toJson.at? ["data", "shortlinks"] = some (.array entries) ∧
          entries.length = 5 := by
  have listing : (docsList scatteredPages).variant ∈
      [.subgraphList, .templateList, .check, .compositionResult, .docsList] := by decide
  have distinct : (scatteredPages.map Prod.fst).Nodup := by decide
  obtain ⟨envelope, rendered, lists⟩ := lists_correspond (docsList scatteredPages) listing
    (by rintro _ ⟨rfl⟩; exact distinct)
  refine ⟨listing, distinct, envelope, rendered, lists, ?_⟩
  cases lists with
  | shortlinks stored body perm ascending alike =>
      exact ⟨_, stored, alike.lengthFirst.trans perm.length_eq⟩

end Output

end GraphConsole
