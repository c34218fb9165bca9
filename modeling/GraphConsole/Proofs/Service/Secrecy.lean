import GraphConsole.Proofs.Profile.Secrecy
import GraphConsole.Proofs.Service.Conduct

/-! Worlds that differ in a key. The services' own actions tell them apart in one respect only: a
client is opened with the key that there is. -/

namespace GraphConsole.Service

open GraphConsole.Files

/-- Calls that differ at most in the key that a client is opened with. -/
inductive Call.SameButKey : Call → Call → Prop
  | same (call : Call) : SameButKey call call
  | client (profile first second : String) :
      SameButKey (.client profile first) (.client profile second)

namespace Call.SameButKey

theorem append {calls others : List Call} {call other : Call}
    (called : List.Forall₂ SameButKey calls others) (same : SameButKey call other) :
    List.Forall₂ SameButKey (calls ++ [call]) (others ++ [other]) :=
  List.rel_append called (.cons same .nil)

theorem of_registry {first second : Request}
    (same : SameButKey (.registry first) (.registry second)) : first = second := by
  cases same
  rfl

end Call.SameButKey

variable {veil : Veil} {fetcher : Fetcher}

/-- A fetcher that does not look behind a veil. -/
def Fetcher.Respects (fetcher : Fetcher) (veil : Veil) : Prop :=
  ∀ template path left right, veil.Covers left right →
    veil.SameAnswer (fetcher template path left) (fetcher template path right)

theorem respects_titlePageFetcher (veil : Veil) : titlePageFetcher.Respects veil := by
  intro template path left right covers
  obtain ⟨made, covers⟩ := covers.ensureDirectories path
  unfold titlePageFetcher
  generalize left.ensureDirectories path = one at made covers ⊢
  generalize right.ensureDirectories path = two at made covers ⊢
  obtain ⟨answer, one⟩ := one
  obtain ⟨_, two⟩ := two
  obtain rfl := made
  cases answer with
  | error trouble => exact ⟨rfl, covers⟩
  | ok =>
      have written : veil.Made
          (one.writeText (path.child "README.md") ("# " ++ template.title ++ "\n"))
          (two.writeText (path.child "README.md") ("# " ++ template.title ++ "\n")) :=
        covers.writeOctets _ (.same _)
      dsimp only
      generalize one.writeText _ _ = early at written ⊢
      generalize two.writeText _ _ = late at written ⊢
      cases written with
      | failed trouble => exact ⟨rfl, covers⟩
      | done covers => exact ⟨rfl, covers⟩

/-- Worlds with one fetcher that are told apart by the veiled file and the keys of clients only. -/
inductive World.Undisclosed (veil : Veil) (fetcher : Fetcher) (world : World) : World → Prop
  | apart {files : Tree} {calls : List Call} (covers : veil.Covers world.files files)
      (called : List.Forall₂ Call.SameButKey world.calls calls)
      (fetching : world.fetcher = fetcher) :
      Undisclosed veil fetcher world { world with files := files, calls := calls }

theorem World.undisclosed_of_covers {world : World} {files : Tree}
    (covers : veil.Covers world.files files) :
    World.Undisclosed veil world.fetcher world { world with files := files } :=
  .apart covers (List.forall₂_same.mpr fun call _ => .same call) rfl

theorem World.undisclosed_self (veil : Veil) (world : World) :
    World.Undisclosed veil world.fetcher world world :=
  undisclosed_of_covers (Veil.covers_refl veil world.files)

/-- Two computations that disclose nothing: from worlds that differ in a key, they come to the
same. -/
def Reticent (veil : Veil) (fetcher : Fetcher) (first second : ExceptT ε (StateM World) α) : Prop :=
  Related (World.Undisclosed veil fetcher) first second

namespace Reticent

theorem throw (fault : ε) :
    Reticent veil fetcher (throw fault : ExceptT ε (StateM World) α) (throw fault) :=
  Related.throw fault

theorem pure (value : α) :
    Reticent veil fetcher (pure value : ExceptT ε (StateM World) α) (pure value) :=
  Related.pure value

theorem bind {first second : ExceptT ε (StateM World) α}
    {next other : α → ExceptT ε (StateM World) β} (early : Reticent veil fetcher first second)
    (late : ∀ value, Reticent veil fetcher (next value) (other value)) :
    Reticent veil fetcher (first >>= next) (second >>= other) :=
  Related.bind early late

theorem recover {first second : ExceptT ε (StateM World) α}
    {handler other : ε → ExceptT ε (StateM World) α} (early : Reticent veil fetcher first second)
    (late : ∀ fault, Reticent veil fetcher (handler fault) (other fault)) :
    Reticent veil fetcher (tryCatch first handler) (tryCatch second other) :=
  Related.recover early late

theorem ofExcept (result : Except Fault α) :
    Reticent veil fetcher (Action.ofExcept result) (Action.ofExcept result) := by
  cases result with
  | ok value => exact pure value
  | error fault => exact throw fault

theorem fail (failure : Failure) :
    Reticent veil fetcher (Action.fail failure : Action α) (Action.fail failure) :=
  throw (Fault.failure failure)

theorem askFiles {question other : Tree → Except Fault α}
    (same : ∀ left right, veil.Covers left right → other right = question left) :
    Reticent veil fetcher (Action.askFiles question) (Action.askFiles other) := by
  rintro left _ ⟨covers, called, fetching⟩
  exact ⟨(same _ _ covers).symm, .apart covers called fetching⟩

/-- What follows a question may start from answers that are the same in part. -/
theorem askFiles_bind {question other : Tree → Except Fault α} {next later : α → Action β}
    (part : α → γ)
    (same : ∀ left right, veil.Covers left right →
      (other right).map part = (question left).map part)
    (rest : ∀ one two, part one = part two → Reticent veil fetcher (next one) (later two)) :
    Reticent veil fetcher (Action.askFiles question >>= next)
      (Action.askFiles other >>= later) := by
  rintro left _ @⟨files, calls, covers, called, fetching⟩
  have parts := same left.files files covers
  have leftRun := runIn_askFiles question left
  have rightRun := runIn_askFiles other { left with files := files, calls := calls }
  have apart := World.Undisclosed.apart covers called fetching
  generalize question left.files = one at parts leftRun
  generalize other files = two at parts rightRun
  cases one with
  | error fault =>
      cases two with
      | ok answer => cases parts
      | error _ =>
          cases parts
          rw [runIn_bind_error leftRun, runIn_bind_error rightRun]
          exact ⟨rfl, apart⟩
  | ok answer =>
      cases two with
      | error fault => cases parts
      | ok another =>
          rw [runIn_bind_ok leftRun, runIn_bind_ok rightRun]
          exact rest answer another (Except.ok.inj parts).symm _ _ apart

theorem onFiles {step other : Tree → Except Fault α × Tree}
    (same : ∀ left right, veil.Covers left right → veil.SameAnswer (step left) (other right)) :
    Reticent veil fetcher (Action.onFiles step) (Action.onFiles other) := by
  rintro left _ ⟨covers, called, fetching⟩
  obtain ⟨answer, covers⟩ := same _ _ covers
  rw [runIn_onFiles, runIn_onFiles]
  exact ⟨answer, .apart covers called fetching⟩

theorem takeInput : Reticent veil fetcher Action.takeInput Action.takeInput := by
  rintro left _ ⟨covers, called, fetching⟩
  exact ⟨rfl, .apart covers called fetching⟩

theorem info (message : String) :
    Reticent veil fetcher (Action.info message) (Action.info message) := by
  rintro left _ @⟨files, calls, covers, called, fetching⟩
  obtain ⟨record, run⟩ := runIn_info_at message left.logThreshold
  rw [run left rfl, run { left with files := files, calls := calls } rfl]
  exact ⟨rfl, .apart covers called fetching⟩

theorem launch (url : String) :
    Reticent veil fetcher (Service.launch url) (Service.launch url) := by
  rintro left _ ⟨covers, called, fetching⟩
  exact ⟨rfl, .apart covers called fetching⟩

/-- A client may be opened with another key. -/
theorem factory (usual : Client) (profile first second : String) :
    Reticent veil fetcher (askFactory usual profile first) (askFactory usual profile second) := by
  rintro left _ @⟨files, calls, covers, called, fetching⟩
  have made := Call.SameButKey.append called (.client profile first second)
  have same : ({ left with files := files, calls := calls } : World).opening usual =
      left.opening usual := rfl
  rw [runIn_askFactory, runIn_askFactory, same]
  cases left.opening usual with
  | ok client => exact ⟨rfl, .apart covers made fetching⟩
  | error fault => exact ⟨rfl, .apart covers made fetching⟩

theorem registry (request : Request) :
    Reticent veil fetcher (askRegistry request) (askRegistry request) := by
  rintro left _ ⟨covers, called, fetching⟩
  rw [runIn_askRegistry, runIn_askRegistry]
  exact ⟨rfl, .apart covers (Call.SameButKey.append called (.same _)) fetching⟩

theorem composer (subgraphs : List (String × String)) :
    Reticent veil fetcher (askComposer subgraphs) (askComposer subgraphs) := by
  rintro left _ ⟨covers, called, fetching⟩
  rw [runIn_askComposer, runIn_askComposer]
  exact ⟨rfl, .apart covers (Call.SameButKey.append called (.same _)) fetching⟩

theorem introspector (endpoint : String) (headers : List (String × String)) :
    Reticent veil fetcher (askIntrospector endpoint headers)
      (askIntrospector endpoint headers) := by
  rintro left _ ⟨covers, called, fetching⟩
  rw [runIn_askIntrospector, runIn_askIntrospector]
  exact ⟨rfl, .apart covers (Call.SameButKey.append called (.same _)) fetching⟩

theorem fetch (respects : fetcher.Respects veil) (template : Registry.Template) (path : Path) :
    Reticent veil fetcher (askFetcher template path) (askFetcher template path) := by
  rintro left _ ⟨covers, called, rfl⟩
  obtain ⟨answer, covers⟩ := respects template path _ _ covers
  rw [runIn_askFetcher, runIn_askFetcher]
  exact ⟨answer, .apart covers (Call.SameButKey.append called (.same _)) rfl⟩

theorem during {first second : Action α} (operation : String) (graph : Option Registry.GraphRef)
    (reticent : Reticent veil fetcher first second) :
    Reticent veil fetcher (Action.during operation graph first)
      (Action.during operation graph second) := by
  refine recover reticent fun fault => ?_
  split
  · split
    · exact fail _
    · exact throw _
  · exact throw _

theorem need (service : Option α) (what : String) :
    Reticent veil fetcher (Application.need service what) (Application.need service what) := by
  unfold Application.need
  split
  · exact pure _
  · exact fail _

end Reticent

/-- Installations with another key in the environment; profiles are loaded alike in both, if not
with the same keys. -/
inductive Application.Undisclosed (veil : Veil) (application : Application) : Application → Prop
  | apart {key : Option String}
      (loaded : ∀ left right, veil.Covers left right → ∀ name,
        (application.store.load key right name).map Profile.name =
          (application.store.load application.environmentKey left name).map Profile.name) :
      Undisclosed veil application { application with environmentKey := key }

theorem Reticent.openClient {application other : Application}
    (undisclosed : application.Undisclosed veil other) (profile : String) :
    Reticent veil fetcher (application.openClient profile) (other.openClient profile) := by
  obtain ⟨loaded⟩ := undisclosed
  unfold Application.openClient
  dsimp only
  split
  · exact .fail _
  · next usual _ =>
      refine .askFiles_bind Profile.name (fun left right covers => loaded left right covers profile)
        fun one two same => ?_
      rw [same]
      exact .factory usual two.name one.apiKey two.apiKey

end GraphConsole.Service
