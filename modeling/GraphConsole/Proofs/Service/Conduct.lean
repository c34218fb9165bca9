import GraphConsole.Service.Application

/-! What actions can do to the world, whatever they are for. An action that consists of the
services' own neither sees nor empties the two output streams, leaves standard output alone, and
makes no calls but those that it is made of. -/

namespace GraphConsole

/-- Whether a service could not be reached. -/
def Fault.isTransport : Fault → Bool
  | .incident unforeseen => unforeseen.isTransport
  | _ => false

/-- A fault as it leaves an operation. -/
def Fault.during (operation : String) (graph : Option Registry.GraphRef) (fault : Fault) : Fault :=
  if fault.isTransport then .failure (.transport operation fault.reason graph) else fault

section During

variable (operation : String) (graph : Option Registry.GraphRef)

theorem Fault.during_of_transport {incident : Incident} (lost : incident.isTransport = true) :
    (Fault.incident incident).during operation graph =
      .failure (.transport operation (Fault.incident incident).reason graph) :=
  if_pos lost

theorem Fault.during_of_other {fault : Fault} (other : fault.isTransport = false) :
    fault.during operation graph = fault :=
  if_neg (by simp [other])

end During

namespace Service

def runIn (action : ExceptT ε (StateM World) α) (world : World) : Except ε α × World :=
  action.run.run world

section Running

variable {action : ExceptT ε (StateM World) α} {next : α → ExceptT ε (StateM World) β}
variable {world after : World}

@[simp] theorem runIn_pure (value : α) :
    runIn (pure value : ExceptT ε (StateM World) α) world = (.ok value, world) := rfl

@[simp] theorem runIn_throw (fault : ε) :
    runIn (throw fault : ExceptT ε (StateM World) α) world = (.error fault, world) := rfl

@[simp] theorem runIn_modify (change : World → World) :
    runIn (modify change : ExceptT ε (StateM World) Unit) world = (.ok (), change world) := rfl

@[simp] theorem runIn_get :
    runIn (get : ExceptT ε (StateM World) World) world = (.ok world, world) := rfl

theorem runIn_bind_ok {value : α} (first : runIn action world = (.ok value, after)) :
    runIn (action >>= next) world = runIn (next value) after := by
  change action.run.run world = (.ok value, after) at first
  simp only [runIn, ExceptT.run_bind, StateT.run_bind]
  rw [first]
  rfl

theorem runIn_bind_error {fault : ε} (first : runIn action world = (.error fault, after)) :
    runIn (action >>= next) world = (.error fault, after) := by
  change action.run.run world = (.error fault, after) at first
  simp only [runIn, ExceptT.run_bind, StateT.run_bind]
  rw [first]
  rfl

theorem runIn_recover_ok {handler : ε → ExceptT ε (StateM World) α} {value : α}
    (first : runIn action world = (.ok value, after)) :
    runIn (tryCatch action handler) world = (.ok value, after) := by
  change StateT.run action world = (.ok value, after) at first
  change (ExceptT.tryCatch action handler).run.run world = (.ok value, after)
  simp only [ExceptT.tryCatch, ExceptT.run_mk, StateT.run_bind]
  rw [first]
  rfl

theorem runIn_recover_error {handler : ε → ExceptT ε (StateM World) α} {fault : ε}
    (first : runIn action world = (.error fault, after)) :
    runIn (tryCatch action handler) world = runIn (handler fault) after := by
  change StateT.run action world = (.error fault, after) at first
  change (ExceptT.tryCatch action handler).run.run world = _
  simp only [ExceptT.tryCatch, ExceptT.run_mk, StateT.run_bind]
  rw [first]
  rfl

end Running

/-- A computation leads from every world to a related one, however it ends. -/
def Leads (related : World → World → Prop) (action : ExceptT ε (StateM World) α) : Prop :=
  ∀ world, related world (runIn action world).2

namespace Leads

variable {related : World → World → Prop} {action : ExceptT ε (StateM World) α}

theorem bind {next : α → ExceptT ε (StateM World) β}
    (trans : ∀ {first second third}, related first second → related second third →
      related first third)
    (first : Leads related action) (rest : ∀ value, Leads related (next value)) :
    Leads related (action >>= next) := by
  intro world
  have early := first world
  cases run : runIn action world with
  | mk result after =>
      rw [run] at early
      cases result with
      | ok value =>
          rw [runIn_bind_ok run]
          exact trans early (rest value after)
      | error fault =>
          rw [runIn_bind_error run]
          exact early

theorem recover {handler : ε → ExceptT ε (StateM World) α}
    (trans : ∀ {first second third}, related first second → related second third →
      related first third)
    (first : Leads related action) (rest : ∀ fault, Leads related (handler fault)) :
    Leads related (tryCatch action handler) := by
  intro world
  have early := first world
  cases run : runIn action world with
  | mk result after =>
      rw [run] at early
      cases result with
      | ok value =>
          rw [runIn_recover_ok run]
          exact early
      | error fault =>
          rw [runIn_recover_error run]
          exact trans early (rest fault after)

end Leads

def Kept (part : World → β) (before after : World) : Prop :=
  part after = part before

theorem Kept.trans {part : World → β} {first second third : World} (one : Kept part first second)
    (two : Kept part second third) : Kept part first third :=
  Eq.trans two one

/-! What each of the services' actions comes to. -/

@[simp] theorem runIn_ofExcept (result : Except Fault α) (world : World) :
    runIn (Action.ofExcept result) world = (result, world) := by
  cases result <;> rfl

def World.opening (world : World) (usual : Client) : Reaction Client :=
  Script.reaction (if world.openings.isEmpty then [.ok usual] else world.openings)

theorem runIn_askFactory (usual : Client) (profile apiKey : String) (world : World) :
    runIn (askFactory usual profile apiKey) world =
      let asked := { world with
        calls := world.calls ++ [.client profile apiKey]
        openings := world.openings.advance }
      match world.opening usual with
      | .ok client => (.ok (), { asked with client := client })
      | .error fault => (.error fault, asked) := by
  change runIn (Action.ofExcept (world.opening usual) >>= _) _ = _
  cases world.opening usual with
  | ok client => exact runIn_bind_ok (runIn_ofExcept _ _)
  | error fault => exact runIn_bind_error (runIn_ofExcept _ _)

theorem runIn_askRegistry (request : Request) (world : World) :
    runIn (askRegistry request) world =
      ((world.client.script request.method).reaction,
        { world with
          calls := world.calls ++ [.registry request]
          client := world.client.advance request.method }) :=
  runIn_ofExcept (world.client.script request.method).reaction _

theorem runIn_askComposer (subgraphs : List (String × String)) (world : World) :
    runIn (askComposer subgraphs) world =
      (world.composer.reaction,
        { world with
          calls := world.calls ++ [.compose subgraphs]
          composer := world.composer.advance }) :=
  runIn_ofExcept world.composer.reaction _

theorem runIn_askIntrospector (endpoint : String) (headers : List (String × String))
    (world : World) :
    runIn (askIntrospector endpoint headers) world =
      (world.introspector.reaction,
        { world with
          calls := world.calls ++ [.introspect endpoint headers]
          introspector := world.introspector.advance }) :=
  runIn_ofExcept world.introspector.reaction _

theorem runIn_askFetcher (template : Registry.Template) (path : Files.Path) (world : World) :
    runIn (askFetcher template path) world =
      ((world.fetcher template path world.files).1,
        { world with
          calls := world.calls ++ [.fetchTemplate template.id path]
          files := (world.fetcher template path world.files).2 }) := rfl

theorem runIn_askFiles (question : Files.Tree → Except Fault α) (world : World) :
    runIn (Action.askFiles question) world = (question world.files, world) := rfl

theorem runIn_onFiles (step : Files.Tree → Except Fault α × Files.Tree) (world : World) :
    runIn (Action.onFiles step) world =
      ((step world.files).1, { world with files := (step world.files).2 }) := rfl

/-- The threshold alone decides whether a message is written. -/
theorem runIn_info_at (message : String) (threshold : Nat) :
    ∃ record, ∀ world : World, world.logThreshold = threshold →
      runIn (Action.info message) world =
        (.ok (), { world with errors := world.errors ++ record }) := by
  by_cases shown : threshold ≤ 20
  · refine ⟨Log.Record.onScreen Log.plainScreen ⟨"rover", 20, "INFO", message⟩, ?_⟩
    rintro world rfl
    simp [Action.info, shown]
  · refine ⟨[], ?_⟩
    rintro world rfl
    simp [Action.info, shown]

theorem runIn_info (message : String) (world : World) :
    ∃ record, runIn (Action.info message) world =
      (.ok (), { world with errors := world.errors ++ record }) := by
  obtain ⟨record, run⟩ := runIn_info_at message world.logThreshold
  exact ⟨record, run world rfl⟩

theorem runIn_during (operation : String) (graph : Option Registry.GraphRef)
    (action : Action α) (world : World) :
    runIn (Action.during operation graph action) world =
      ((runIn action world).1.mapError (.during operation graph), (runIn action world).2) := by
  cases run : runIn action world with
  | mk result after =>
      cases result with
      | ok value => exact runIn_recover_ok run
      | error fault =>
          rw [Action.during, runIn_recover_error run]
          cases fault with
          | incident unforeseen =>
              change _ =
                (Except.error ((Fault.incident unforeseen).during operation graph), after)
              cases transport : unforeseen.isTransport with
              | true =>
                  rw [Fault.during_of_transport operation graph transport]
                  simp only [transport, if_true]
                  rfl
              | false =>
                  have other : (Fault.incident unforeseen).isTransport = false := transport
                  rw [Fault.during_of_other operation graph other]
                  simp only [transport]
                  rfl
          | _ => rfl

theorem runIn_during_world (operation : String) (graph : Option Registry.GraphRef)
    (action : Action α) (world : World) :
    (runIn (Action.during operation graph action) world).2 = (runIn action world).2 := by
  rw [runIn_during]

theorem runIn_bind_world {action : ExceptT ε (StateM World) α}
    {next : α → ExceptT ε (StateM World) β}
    (kept : ∀ value world, (runIn (next value) world).2 = world) (world : World) :
    (runIn (action >>= next) world).2 = (runIn action world).2 := by
  cases run : runIn action world with
  | mk result after =>
      cases result with
      | ok value => rw [runIn_bind_ok run, kept]
      | error fault => rw [runIn_bind_error run]

theorem runIn_map_world (action : Action α) (change : α → β) (world : World) :
    (runIn (action >>= fun value => pure (change value)) world).2 = (runIn action world).2 :=
  runIn_bind_world (fun _ _ => rfl) world

/-- Two worlds that differ at most in what has been written to the streams. -/
def World.Alike (first second : World) : Prop :=
  ∃ output errors, second = { first with output := output, errors := errors }

namespace World.Alike

theorem refl (world : World) : Alike world world :=
  ⟨world.output, world.errors, rfl⟩

end World.Alike

/-- Actions that are made of the services' own and make only permitted calls. -/
inductive Composed (permitted : Call → Prop) : {α : Type} → Action α → Prop
  | pure (value : α) : Composed permitted (Pure.pure value : Action α)
  | throw (fault : Fault) : Composed permitted (MonadExcept.throw fault : Action α)
  | bind {action : Action α} {next : α → Action β} (first : Composed permitted action)
      (rest : ∀ value, Composed permitted (next value)) : Composed permitted (action >>= next)
  | recover {action : Action α} {handler : Fault → Action α} (first : Composed permitted action)
      (rest : ∀ fault, Composed permitted (handler fault)) :
      Composed permitted (tryCatch action handler)
  | askFiles (question : Files.Tree → Except Fault α) :
      Composed permitted (Action.askFiles question)
  | onFiles (step : Files.Tree → Except Fault α × Files.Tree) :
      Composed permitted (Action.onFiles step)
  | takeInput : Composed permitted Action.takeInput
  | info (message : String) : Composed permitted (Action.info message)
  | launch (url : String) : Composed permitted (launch url)
  | factory (usual : Client) (profile apiKey : String)
      (allowed : permitted (.client profile apiKey)) :
      Composed permitted (askFactory usual profile apiKey)
  | registry (request : Request) (allowed : permitted (.registry request)) :
      Composed permitted (askRegistry request)
  | composer (subgraphs : List (String × String)) (allowed : permitted (.compose subgraphs)) :
      Composed permitted (askComposer subgraphs)
  | introspector (endpoint : String) (headers : List (String × String))
      (allowed : permitted (.introspect endpoint headers)) :
      Composed permitted (askIntrospector endpoint headers)
  | fetcher (template : Registry.Template) (path : Files.Path)
      (allowed : permitted (.fetchTemplate template.id path)) :
      Composed permitted (askFetcher template path)

/-- Two computations that come to the same in related worlds, and leave related worlds behind. -/
def Related (related : World → World → Prop) (first second : ExceptT ε (StateM World) α) : Prop :=
  ∀ left right : World, related left right →
    (runIn first left).1 = (runIn second right).1 ∧
      related (runIn first left).2 (runIn second right).2

namespace Related

variable {related : World → World → Prop}

theorem throw (fault : ε) :
    Related related (throw fault : ExceptT ε (StateM World) α) (throw fault) :=
  fun _ _ tie => ⟨rfl, tie⟩

theorem pure (value : α) :
    Related related (pure value : ExceptT ε (StateM World) α) (pure value) :=
  fun _ _ tie => ⟨rfl, tie⟩

theorem bind {first second : ExceptT ε (StateM World) α}
    {next other : α → ExceptT ε (StateM World) β} (early : Related related first second)
    (late : ∀ value, Related related (next value) (other value)) :
    Related related (first >>= next) (second >>= other) := by
  intro left right tie
  obtain ⟨results, worlds⟩ := early left right tie
  cases leftRun : runIn first left with
  | mk leftResult leftWorld =>
      cases rightRun : runIn second right with
      | mk rightResult rightWorld =>
          rw [leftRun, rightRun] at results worlds
          cases results
          cases leftResult with
          | ok value =>
              rw [runIn_bind_ok leftRun, runIn_bind_ok rightRun]
              exact late value leftWorld rightWorld worlds
          | error fault =>
              rw [runIn_bind_error leftRun, runIn_bind_error rightRun]
              exact ⟨rfl, worlds⟩

theorem recover {first second : ExceptT ε (StateM World) α}
    {handler other : ε → ExceptT ε (StateM World) α} (early : Related related first second)
    (late : ∀ fault, Related related (handler fault) (other fault)) :
    Related related (tryCatch first handler) (tryCatch second other) := by
  intro left right tie
  obtain ⟨results, worlds⟩ := early left right tie
  cases leftRun : runIn first left with
  | mk leftResult leftWorld =>
      cases rightRun : runIn second right with
      | mk rightResult rightWorld =>
          rw [leftRun, rightRun] at results worlds
          cases results
          cases leftResult with
          | ok value =>
              rw [runIn_recover_ok leftRun, runIn_recover_ok rightRun]
              exact ⟨rfl, worlds⟩
          | error fault =>
              rw [runIn_recover_error leftRun, runIn_recover_error rightRun]
              exact late fault leftWorld rightWorld worlds

end Related

/-- Two computations that come to the same in alike worlds, and leave alike worlds behind. -/
def Matched (first second : ExceptT ε (StateM World) α) : Prop :=
  ∀ left right : World, left.Alike right →
    (runIn first left).1 = (runIn second right).1 ∧
      (runIn first left).2.Alike (runIn second right).2

namespace Matched

theorem bind {first second : ExceptT ε (StateM World) α}
    {next other : α → ExceptT ε (StateM World) β} (early : Matched first second)
    (late : ∀ value, Matched (next value) (other value)) :
    Matched (first >>= next) (second >>= other) :=
  Related.bind early late

theorem recover {first second : ExceptT ε (StateM World) α}
    {handler other : ε → ExceptT ε (StateM World) α} (early : Matched first second)
    (late : ∀ fault, Matched (handler fault) (other fault)) :
    Matched (tryCatch first handler) (tryCatch second other) :=
  Related.recover early late

end Matched

/-- An action for which the streams might as well not be there: it neither depends on what has been
written to them nor writes to standard output itself. -/
structure Discreet (action : Action α) : Prop where
  blind : Matched action action
  silent : Leads (Kept World.output) action

namespace Discreet

theorem bind {action : Action α} {next : α → Action β} (first : Discreet action)
    (rest : ∀ value, Discreet (next value)) : Discreet (action >>= next) where
  blind := first.blind.bind fun value => (rest value).blind
  silent := .bind .trans first.silent fun value => (rest value).silent

theorem recover {action : Action α} {handler : Fault → Action α} (first : Discreet action)
    (rest : ∀ fault, Discreet (handler fault)) : Discreet (tryCatch action handler) where
  blind := first.blind.recover fun fault => (rest fault).blind
  silent := .recover .trans first.silent fun fault => (rest fault).silent

/-- An action that ends in the same way in worlds that differ in their streams, with the same
changes to all else, is discreet. -/
theorem of_frame {action : Action α}
    (frame : ∀ (world : World) output errors,
      (runIn action { world with output := output, errors := errors }).1 = (runIn action world).1 ∧
        (runIn action world).2.Alike
          (runIn action { world with output := output, errors := errors }).2)
    (silent : Leads (Kept World.output) action) : Discreet action where
  blind := by
    rintro world _ ⟨output, errors, rfl⟩
    obtain ⟨results, worlds⟩ := frame world output errors
    exact ⟨results.symm, worlds⟩
  silent := silent

end Discreet

namespace Composed

variable {permitted : Call → Prop} {action : Action α}

theorem discreet (composed : Composed permitted action) : Discreet action := by
  induction composed with
  | pure value => exact .of_frame (fun _ _ _ => ⟨rfl, _, _, rfl⟩) fun _ => rfl
  | throw fault => exact .of_frame (fun _ _ _ => ⟨rfl, _, _, rfl⟩) fun _ => rfl
  | bind _ _ first rest => exact first.bind rest
  | recover _ _ first rest => exact first.recover rest
  | askFiles question => exact .of_frame (fun _ _ _ => ⟨rfl, _, _, rfl⟩) fun _ => rfl
  | onFiles step => exact .of_frame (fun _ _ _ => ⟨rfl, _, _, rfl⟩) fun _ => rfl
  | takeInput => exact .of_frame (fun _ _ _ => ⟨rfl, _, _, rfl⟩) fun _ => rfl
  | info message =>
      refine .of_frame (fun world output errors => ?_) fun world => ?_
      · obtain ⟨record, run⟩ := runIn_info message world
        obtain ⟨other, otherRun⟩ :=
          runIn_info message { world with output := output, errors := errors }
        rw [run, otherRun]
        exact ⟨rfl, _, _, rfl⟩
      · obtain ⟨record, run⟩ := runIn_info message world
        rw [run]
        rfl
  | launch url => exact .of_frame (fun _ _ _ => ⟨rfl, _, _, rfl⟩) fun _ => rfl
  | factory usual profile apiKey =>
      refine .of_frame (fun world output errors => ?_) fun world => ?_
      · have same : ({ world with output := output, errors := errors } : World).opening usual =
            world.opening usual := rfl
        rw [runIn_askFactory, runIn_askFactory, same]
        cases world.opening usual <;> exact ⟨rfl, _, _, rfl⟩
      · rw [runIn_askFactory]
        cases world.opening usual <;> rfl
  | registry request =>
      refine .of_frame (fun world output errors => ?_) fun world => ?_
      · rw [runIn_askRegistry, runIn_askRegistry]
        exact ⟨rfl, _, _, rfl⟩
      · rw [runIn_askRegistry]
        rfl
  | composer subgraphs =>
      refine .of_frame (fun world output errors => ?_) fun world => ?_
      · rw [runIn_askComposer, runIn_askComposer]
        exact ⟨rfl, _, _, rfl⟩
      · rw [runIn_askComposer]
        rfl
  | introspector endpoint headers =>
      refine .of_frame (fun world output errors => ?_) fun world => ?_
      · rw [runIn_askIntrospector, runIn_askIntrospector]
        exact ⟨rfl, _, _, rfl⟩
      · rw [runIn_askIntrospector]
        rfl
  | fetcher template path => exact .of_frame (fun _ _ _ => ⟨rfl, _, _, rfl⟩) fun _ => rfl

end Composed

def Calls (permitted : Call → Prop) (before after : World) : Prop :=
  ∃ made, after.calls = before.calls ++ made ∧ ∀ call ∈ made, permitted call

namespace Calls

variable {permitted : Call → Prop} {first second third : World}

theorem none (same : second.calls = first.calls) : Calls permitted first second :=
  ⟨[], by simp [same], by simp⟩

theorem one {call : Call} (added : second.calls = first.calls ++ [call])
    (allowed : permitted call) : Calls permitted first second :=
  ⟨[call], added, by simpa using allowed⟩

theorem trans (one : Calls permitted first second) (two : Calls permitted second third) :
    Calls permitted first third := by
  obtain ⟨made, added, allowed⟩ := one
  obtain ⟨more, addedMore, allowedMore⟩ := two
  refine ⟨made ++ more, by rw [addedMore, added, List.append_assoc], fun call member => ?_⟩
  rcases List.mem_append.mp member with early | late
  · exact allowed call early
  · exact allowedMore call late

end Calls

theorem Composed.calls {permitted : Call → Prop} {action : Action α}
    (composed : Composed permitted action) : Leads (Calls permitted) action := by
  induction composed with
  | pure value => exact fun _ => .none rfl
  | throw fault => exact fun _ => .none rfl
  | bind _ _ first rest => exact .bind .trans first rest
  | recover _ _ first rest => exact .recover .trans first rest
  | askFiles question => exact fun _ => .none rfl
  | onFiles step => exact fun _ => .none rfl
  | takeInput => exact fun _ => .none rfl
  | info message =>
      intro world
      obtain ⟨record, run⟩ := runIn_info message world
      exact .none (by rw [run])
  | launch url => exact fun _ => .none rfl
  | factory usual profile apiKey allowed =>
      intro world
      refine .one ?_ allowed
      rw [runIn_askFactory]
      cases world.opening usual with
      | ok client => rfl
      | error fault => rfl
  | registry request allowed => exact fun _ => .one (by rw [runIn_askRegistry]) allowed
  | composer subgraphs allowed => exact fun _ => .one (by rw [runIn_askComposer]) allowed
  | introspector endpoint headers allowed =>
      exact fun _ => .one (by rw [runIn_askIntrospector]) allowed
  | fetcher template path allowed => exact fun _ => .one (by rw [runIn_askFetcher]) allowed

end Service

end GraphConsole
