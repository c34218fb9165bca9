import GraphConsole.Proofs.Console.Session
import GraphConsole.Proofs.Console.Showing

/-! Faults stay with the step in which they arise. A step that raises shows nothing, and all other
steps of a session come out as if it had not been taken. -/

namespace GraphConsole.Dispatcher

/-- Whether a handler's end is none of the dispatcher's business: the command line was turned down,
someone wants the program to stop, or an answer is to be shown that has no rendering. -/
def Escapes (result : Except Fault Answer) (emitSuccess : Bool) : Prop :=
  (∃ turned, result = .error (.refusal turned)) ∨
    (∃ request, result = .error (.interrupt request)) ∨
      emitSuccess = true ∧ ∃ name, result = .ok (.foreign name)

/-- How a run comes out, depending on what its handler came to. -/
structure Handled (format : Format) (result : Except Fault Answer) (emitSuccess : Bool)
    (reply : Reply) : Prop where
  raises : (∃ fault, reply.result = .error fault) ↔ Escapes result emitSuccess
  passes : ∀ fault raised, reply.result = .error fault → result = .error raised → fault = raised
  succeeds : ¬ Escapes result emitSuccess →
    (reply.result = .ok (some 0) ↔ ∃ answer, result = .ok answer)
  fails : ¬ Escapes result emitSuccess →
    (reply.result = .ok (some 1) ↔ ∃ fault, result = .error fault)
  known : ∀ failure, result = .error (.failure failure) →
    Tells failure.code failure.message format reply.written
  unforeseen : ∀ incident, result = .error (.incident incident) →
    Tells none (if incident.text.isEmpty then incident.name else incident.text) format
      reply.written
  held : emitSuccess = false → ∀ answer, result = .ok answer → reply.written = {}

theorem handled_answer {format : Format} {answer : Answer} {emitSuccess : Bool} {reply : Reply}
    (stays : ¬ Escapes (.ok answer) emitSuccess) (code : reply.result = .ok (some 0))
    (held : emitSuccess = false → reply.written = {}) :
    Handled format (.ok answer) emitSuccess reply where
  raises := by simp [code, stays]
  passes := by simp [code]
  succeeds _ := by simp [code]
  fails _ := by simp [code]
  known := nofun
  unforeseen := nofun
  held hidden _ _ := held hidden

theorem handled_reported (dispatcher : Dispatcher) {fault : Fault} {failure : Failure}
    (reported : fault.reported? = some failure) (emitSuccess : Bool) :
    Handled dispatcher.format (.error fault) emitSuccess
      (.of (dispatcher.run (.error fault) emitSuccess)) := by
  have stays : ¬ Escapes (.error fault) emitSuccess := by
    cases fault with
    | failure known => simp [Escapes]
    | incident unforeseen => simp [Escapes]
    | refusal turned => cases reported
    | interrupt request => cases reported
  rw [dispatcher.run_reported reported]
  have told := dispatcher.tells_shown failure
  constructor
  case raises => simp [Reply.of, stays]
  case passes => simp [Reply.of]
  case succeeds => simp [Reply.of]
  case fails => simp [Reply.of]
  case known =>
    rintro _ ⟨rfl⟩
    cases reported
    exact told
  case unforeseen =>
    rintro _ ⟨rfl⟩
    cases reported
    exact told
  case held => exact nofun

theorem handled_unreported (dispatcher : Dispatcher) {fault : Fault}
    (unreported : fault.reported? = none) (emitSuccess : Bool) :
    Handled dispatcher.format (.error fault) emitSuccess
      (.of (dispatcher.run (.error fault) emitSuccess)) := by
  have escapes : Escapes (.error fault) emitSuccess := by
    cases fault with
    | failure known => cases unreported
    | incident unforeseen => cases unreported
    | refusal turned => exact .inl ⟨turned, rfl⟩
    | interrupt request => exact .inr (.inl ⟨request, rfl⟩)
  rw [dispatcher.run_unreported unreported]
  constructor
  case raises => simp [Reply.of, escapes]
  case passes =>
    rintro _ _ ⟨rfl⟩ ⟨rfl⟩
    rfl
  case succeeds => exact absurd escapes
  case fails => exact absurd escapes
  case known =>
    rintro _ ⟨rfl⟩
    cases unreported
  case unforeseen =>
    rintro _ ⟨rfl⟩
    cases unreported
  case held => exact nofun

/-- A foreign answer is refused where it would have to be shown, before anything is written. -/
theorem handled_foreign (dispatcher : Dispatcher) (name : String) :
    Handled dispatcher.format (.ok (.foreign name)) true
      (.of (dispatcher.run (.ok (.foreign name)) true)) := by
  have escapes : Escapes (.ok (.foreign name)) true := .inr (.inr ⟨rfl, name, rfl⟩)
  obtain ⟨what, refused⟩ := dispatcher.run_foreign name
  rw [refused]
  constructor
  case raises => simp [Reply.of, escapes]
  case passes =>
    intro _ _ _ failed
    cases failed
  case succeeds => exact absurd escapes
  case fails => exact absurd escapes
  case known => exact nofun
  case unforeseen => exact nofun
  case held => exact nofun

theorem handled_run (dispatcher : Dispatcher) (result : Except Fault Answer)
    (emitSuccess : Bool) :
    Handled dispatcher.format result emitSuccess (dispatcher.reply (.run result emitSuccess)) := by
  change Handled _ _ _ (.of (dispatcher.run result emitSuccess))
  cases result with
  | error fault =>
      cases reported : fault.reported? with
      | some failure => exact handled_reported dispatcher reported emitSuccess
      | none => exact handled_unreported dispatcher reported emitSuccess
  | ok answer =>
      cases answer with
      | known output =>
          rw [dispatcher.run_known]
          exact handled_answer (by simp [Escapes]) rfl fun hidden => by simp [Reply.of, hidden]
      | foreign name =>
          cases emitSuccess with
          | true => exact handled_foreign dispatcher name
          | false => exact handled_answer (by simp [Escapes]) rfl fun _ => rfl

theorem written_of_raised (dispatcher : Dispatcher) (step : Step)
    (raised : (dispatcher.reply step).result.isOk = false) :
    (dispatcher.reply step).written = {} := by
  rcases reply_cases step with ⟨outcome, _, told⟩ | ⟨_, result, told⟩
  · rw [told] at raised ⊢
    cases shown : dispatcher.emit outcome with
    | ok answer =>
        rw [shown] at raised
        cases raised
    | error fault => rfl
  · rw [told]

/-- A step that raises has changed nothing about the dispatcher. -/
theorem after_of_raised (dispatcher : Dispatcher) (step : Step)
    (raised : (dispatcher.reply step).result.isOk = false) :
    dispatcher.after step = dispatcher := by
  cases step with
  | setFormat format => cases raised
  | emit outcome => rfl
  | run result emitSuccess => rfl

/-! Sessions. -/

@[simp] theorem length_replies (dispatcher : Dispatcher) (steps : List Step) :
    (dispatcher.replies steps).length = steps.length := by
  induction steps generalizing dispatcher with
  | nil => rfl
  | cons step rest induction => simp [replies, induction]

theorem replies_append (dispatcher : Dispatcher) (early late : List Step) :
    dispatcher.replies (early ++ late) =
      dispatcher.replies early ++ (early.foldl after dispatcher).replies late := by
  induction early generalizing dispatcher with
  | nil => rfl
  | cons step rest induction => simp [replies, induction]

theorem format_foldl_after (dispatcher : Dispatcher) (steps : List Step) :
    (steps.foldl after dispatcher).format = steps.foldl Step.formatAfter dispatcher.format := by
  induction steps generalizing dispatcher with
  | nil => rfl
  | cons step rest induction => exact induction (dispatcher.after step)

/-- The steps of a session that do not raise in it. -/
def enduring (dispatcher : Dispatcher) (steps : List Step) : List Step :=
  ((steps.zip (dispatcher.replies steps)).filter fun taken => taken.2.result.isOk).map Prod.fst

theorem replies_enduring (dispatcher : Dispatcher) (steps : List Step) :
    dispatcher.replies (dispatcher.enduring steps) =
      (dispatcher.replies steps).filter fun reply => reply.result.isOk := by
  -- The dispatcher goes on from a step that raises as it was: with and without the step, the rest
  -- of the session finds the same one.
  induction steps generalizing dispatcher with
  | nil => rfl
  | cons step rest induction =>
      have later := induction (dispatcher.after step)
      unfold enduring at later ⊢
      rw [replies, List.zip_cons_cons, List.filter_cons, List.filter_cons]
      cases endures : (dispatcher.reply step).result.isOk with
      | true => simp only [if_true, List.map_cons, replies, later]
      | false =>
          rw [after_of_raised dispatcher step endures] at later ⊢
          exact later

/-- In any session, each run is told of as its handler ended, a step that raises shows nothing, and
without the steps that raise all others come out the same. -/
theorem isolated_session (dispatcher : Dispatcher) (steps : List Step) :
    (∀ early result emitSuccess late, steps = early ++ .run result emitSuccess :: late →
      ∃ reply, (dispatcher.replies steps)[early.length]? = some reply ∧
        Handled (early.foldl Step.formatAfter dispatcher.format) result emitSuccess reply) ∧
    (∀ reply ∈ dispatcher.replies steps, reply.result.isOk = false → reply.written = {}) ∧
    dispatcher.replies (dispatcher.enduring steps) =
      (dispatcher.replies steps).filter fun reply => reply.result.isOk := by
  refine ⟨?_, ?_, replies_enduring dispatcher steps⟩
  · rintro early result emitSuccess late rfl
    refine ⟨(early.foldl after dispatcher).reply (.run result emitSuccess), ?_, ?_⟩
    · rw [replies_append, List.getElem?_append_right (by simp)]
      simp [replies]
    · rw [← format_foldl_after]
      exact handled_run _ result emitSuccess
  · induction steps generalizing dispatcher with
    | nil => exact nofun
    | cons step rest induction =>
        rw [replies, List.forall_mem_cons]
        exact ⟨written_of_raised dispatcher step, induction (dispatcher.after step)⟩

/-- Two steps that raise among others; one fault has no text. -/
def mixedSession : List Step := [
  .run (.error (.refusal .noAnswer)) true, .setFormat .json,
  .run (.error (.incident ⟨"ValueError", [], []⟩)) false,
  .run (.ok (.foreign "StrayOutput")) true, .run (.ok (.foreign "StrayOutput")) false]

theorem isolated_session_mixed :
    let dispatcher : Dispatcher := { format := .plain, interactive := true }
    (dispatcher.replies mixedSession).map (fun reply => reply.result.isOk) =
        [false, true, true, false, true] ∧
      (∃ reply, (dispatcher.replies mixedSession)[2]? = some reply ∧
        Tells none "ValueError" .json reply.written) ∧
      dispatcher.replies (dispatcher.enduring mixedSession) =
        (dispatcher.replies mixedSession).filter fun reply => reply.result.isOk := by
  intro dispatcher
  obtain ⟨runs, _, rest⟩ := isolated_session dispatcher mixedSession
  obtain ⟨reply, found, handled⟩ := runs (mixedSession.take 2)
    (.error (.incident ⟨"ValueError", [], []⟩)) false (mixedSession.drop 3) rfl
  exact ⟨rfl, ⟨reply, found, handled.unforeseen _ rfl⟩, rest⟩

end GraphConsole.Dispatcher
