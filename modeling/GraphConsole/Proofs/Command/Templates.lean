import GraphConsole.Proofs.Command.Enrichment
import GraphConsole.Proofs.Files.Additions

/-! Projects from templates. The fetcher is asked for one where there is nothing or an empty
directory, and only there; all the files that there are stay as they are. -/

namespace GraphConsole

open GraphConsole.Files
open GraphConsole.Registry
open GraphConsole.Service

/-- A fetcher writes only under the path that it is given, whether it comes to an end or not. -/
def Service.Fetcher.Confined (fetcher : Fetcher) : Prop :=
  ∀ template path before,
    Relation.ReflTransGen path.Writes before (fetcher template path before).2

theorem Service.titlePageFetcher_confined : titlePageFetcher.Confined := by
  intro template path before
  have directories : path.Writes before (before.ensureDirectories path).2 := by
    have step : path.Writes before (before.ensureDirectories (path.below [])).2 :=
      .directories Location.onward_nil before
    rwa [path.below_nil] at step
  rw [titlePageFetcher]
  split
  · next made =>
      rw [made] at directories
      exact .single directories
  · next made =>
      rw [made] at directories
      split
      · exact .single directories
      · next written =>
          obtain ⟨fits, located, _, rfl⟩ := Tree.put_of_writeText written
          have onward : Location.Onward ["README.md"] := by simp [Location.Onward]
          refine .tail (.single directories) (.inside onward fits.noNul located ?_)
          intro place elsewhere
          refine Tree.find?_put_of_ne ?_ _ _
          rintro rfl
          exact elsewhere ⟨[], Location.onward_nil, (List.append_nil _).symm⟩

namespace Command

section Occupation

variable {path : Path} {tree : Tree}
variable (short : ∀ part ∈ path.parts, part.utf8ByteSize ≤ 255)
variable (room : path.toText.utf8ByteSize < 4096)

include short room

theorem vacant_of_free (free : path.Free tree) : Vacant path tree := by
  obtain ⟨found, inspected⟩ := Tree.inspect_of_short tree short room
  cases free with
  | missing absent =>
      cases found with
      | none => exact .inl inspected
      | some entry => exact absurd (Tree.stands_iff.mpr inspected) (absent entry)
  | empty directory bare =>
      have located := (Tree.locate_of_status directory.2).1
      exact .inr ⟨Tree.stands_iff.mp directory, (Tree.isEmptyAt_iff located).mpr bare⟩

theorem isOccupied_of_not_free (taken : ¬ path.Free tree) : isOccupied path tree = .ok true := by
  obtain ⟨found, inspected⟩ := Tree.inspect_of_short tree short room
  unfold isOccupied
  rw [inspected]
  cases found with
  | none =>
      refine absurd (.missing fun entry stands => ?_) taken
      rw [Tree.stands_iff.mp stands] at inspected
      cases inspected
  | some entry =>
      cases entry with
      | file octets => rfl
      | directory =>
          have directory := Tree.stands_iff.mpr inspected
          have located := (Tree.locate_of_status directory.2).1
          cases empty : tree.isEmptyAt path with
          | false => rfl
          | true =>
              have bare := (Tree.isEmptyAt_iff located).mp empty
              exact absurd (.empty directory bare) taken

end Occupation

theorem runIn_useTemplate_unknown {id : String}
    (unknown : ∀ template ∈ Template.catalog, template.id ≠ id) (path : Path) (world : World) :
    runIn (useTemplate id path) world = (.error (.failure (.templateNotFound id)), world) := by
  have none : Template.find? id = none := by simpa [Template.find?] using unknown
  rw [useTemplate, templateOf, none]
  rfl

theorem runIn_useTemplate_occupied {template : Template} (offered : template ∈ Template.catalog)
    {path : Path} {world : World} (taken : isOccupied path world.files = .ok true) :
    runIn (useTemplate template.id path) world = (.error (.failure (occupied path)), world) := by
  have asked : runIn (Action.askFiles (isOccupied path)) world = (.ok true, world) := by
    rw [runIn_askFiles, taken]
  rw [useTemplate, templateOf, find?_catalog template offered]
  exact runIn_bind_ok asked

theorem runIn_useTemplate_vacant {template : Template} (offered : template ∈ Template.catalog)
    {path : Path} {world : World} (vacant : Vacant path world.files) :
    runIn (useTemplate template.id path) world =
      ((world.fetcher template path world.files).1.map fun _ => .templateUse template path,
        { world with
          files := (world.fetcher template path world.files).2
          calls := world.calls ++ [.fetchTemplate template.id path] }) := by
  have asked := runIn_askFetcher template path world
  rw [runIn_useTemplate offered vacant]
  cases answer : (world.fetcher template path world.files).1 with
  | error fault =>
      rw [answer] at asked
      exact runIn_bind_error asked
  | ok done =>
      rw [answer] at asked
      exact runIn_bind_ok asked

def Offered (id : String) : Prop :=
  ∃ template ∈ Template.catalog, template.id = id

/-- What a request for a project from a template comes to, and what it leaves alone. -/
structure Spares (id : String) (path : Path) (before : World)
    (after : Except Fault Output × World) : Prop where
  unknown : ¬ Offered id → ∀ anywhere,
    runIn (useTemplate id anywhere) before = (.error (.failure (.templateNotFound id)), before)
  occupied : Offered id → ¬ path.Free before.files →
    after = (.error (.failure (.unclassified ("Cannot create a new project because "
      ++ path.toText ++ " already exists and is not empty"))), before)
  called : Offered id ∧ path.Free before.files ∧
      after.2.calls = before.calls ++ [.fetchTemplate id path] ∨
    ¬ (Offered id ∧ path.Free before.files) ∧
      after.2.calls = before.calls ∧ after.2.files = before.files
  kept : ∀ place octets, before.files.find? place = some (.file octets) →
    (path.TurnsBack before.files → ¬ path.place.Holds place) →
    after.2.files.find? place = some (.file octets)

/-- Whatever there is and whatever is asked for, the fetcher is asked at most once, and no file is
lost that the path does not get to by turning back behind a missing directory. -/
theorem useTemplate_spares (id : String) (path : Path) (world : World)
    (confined : world.fetcher.Confined) (regular : world.files.Regular)
    (short : ∀ part ∈ path.parts, part.utf8ByteSize ≤ 255)
    (room : path.toText.utf8ByteSize < 4096) :
    Spares id path world (runIn (useTemplate id path) world) := by
  by_cases offered : Offered id
  · obtain ⟨template, member, rfl⟩ := offered
    have offered : Offered template.id := ⟨template, member, rfl⟩
    by_cases free : path.Free world.files
    · rw [runIn_useTemplate_vacant member (vacant_of_free short room free)]
      constructor
      case unknown => exact fun unknown => absurd offered unknown
      case occupied => exact fun _ taken => absurd free taken
      case called => exact .inl ⟨offered, free, rfl⟩
      case kept =>
        intro place octets found reached
        exact Tree.file_kept_of_run (confined template path world.files) regular short room free
          found reached
    · have taken := isOccupied_of_not_free short room free
      rw [runIn_useTemplate_occupied member taken]
      constructor
      case unknown => exact fun unknown => absurd offered unknown
      case occupied => exact fun _ _ => rfl
      case called => exact .inr ⟨fun both => free both.2, rfl, rfl⟩
      case kept => exact fun _ _ found _ => found
  · have unknown : ∀ template ∈ Template.catalog, template.id ≠ id :=
      fun template member same => offered ⟨template, member, same⟩
    rw [runIn_useTemplate_unknown unknown]
    constructor
    case unknown => exact fun _ anywhere => runIn_useTemplate_unknown unknown anywhere world
    case occupied => exact fun known => absurd known offered
    case called => exact .inr ⟨fun both => offered both.1, rfl, rfl⟩
    case kept => exact fun _ _ found _ => found

/-- A directory with notes in it, in which a project is to be made. -/
def desk : World where
  files := ⟨[(["desk"], .directory), (["desk", ".notes"], .file [110, 10])]⟩
  fetcher := titlePageFetcher

theorem useTemplate_spares_desk :
    desk.fetcher.Confined ∧ desk.files.Regular ∧
      Spares firstTemplate.id (.ofText "desk/plans/../new") desk
        (runIn (useTemplate firstTemplate.id (.ofText "desk/plans/../new")) desk) ∧
      Spares firstTemplate.id (.ofText "desk") desk
        (runIn (useTemplate firstTemplate.id (.ofText "desk")) desk) := by
  have regular : desk.files.Regular := ⟨by decide, by decide⟩
  have confined : desk.fetcher.Confined := titlePageFetcher_confined
  exact ⟨confined, regular,
    useTemplate_spares _ _ desk confined regular (by decide) (by decide),
    useTemplate_spares _ _ desk confined regular (by decide) (by decide)⟩

/-- A path that turns back behind a missing directory leads to a directory with files, and nobody
sees them until the missing one has been made. -/
theorem not_spared_turning :
    ¬ ∀ (id : String) (path : Path) (world : World), world.fetcher.Confined →
      world.files.Regular → (∀ part ∈ path.parts, part.utf8ByteSize ≤ 255) →
      path.toText.utf8ByteSize < 4096 →
      ∀ place octets, world.files.find? place = some (.file octets) →
        (runIn (useTemplate id path) world).2.files.find? place = some (.file octets) := by
  intro spared
  let world : World := {
    files := ⟨[(["README.md"], .file [109, 105, 110, 101, 10])]⟩
    fetcher := titlePageFetcher }
  have lost := spared firstTemplate.id (.ofText "missing/..") world titlePageFetcher_confined
    ⟨by decide, by decide⟩ (by decide) (by decide) ["README.md"] _ rfl
  revert lost
  decide

end Command

end GraphConsole
