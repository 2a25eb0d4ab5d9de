/-
# The life of an accepted request

The process forgets which accepted request a queued payload or a started agent belongs to: every
dictionary is keyed by the task id, which the client chooses.  The ledger keeps the book: it numbers
the accepted requests and follows each one from the queue to its end, beside the process and without
any influence on it.
-/
import EcommerceAgent.Runtime.Calls
import EcommerceAgent.Runtime.Ownership

open EcommerceAgent.Lib

namespace EcommerceAgent.Runtime

/-- How far an accepted request has come: it waits for its start, it was cancelled before, its
payload was taken from the queue and thrown away, it was started as an asyncio task, or `_finish`
has run for this task. -/
inductive Stage
  | waiting
  | cancelled
  | dropped
  | started (h : ℕ)
  | ended
deriving DecidableEq, Repr

/-- An accepted request, how often its agent was started, whether `cancel` has returned true for its
task id since, and how often its agent was started after that. -/
structure Acceptance where
  payload : Payload
  stage : Stage
  starts : ℕ := 0
  revoked : Bool := false
  lateStarts : ℕ := 0
deriving DecidableEq, Repr

namespace Acceptance

/-- The worker takes the payload from the queue and starts it as the given asyncio task, or throws
it away. -/
def take (a : Acceptance) : Option ℕ → Acceptance
  | some h => { a with
      stage := .started h
      starts := a.starts + 1
      lateStarts := if a.revoked then a.lateStarts + 1 else a.lateStarts }
  | none => { a with stage := if a.stage = .waiting then .dropped else a.stage }

/-- `_finish` runs for the asyncio task `h`. -/
def finish (h : ℕ) (a : Acceptance) : Acceptance :=
  if a.stage = .started h then { a with stage := .ended } else a

/-- `cancel` returns true for the id `t`; `running` tells whether a task of the id is running. -/
def revoke (t : String) (running : Bool) (a : Acceptance) : Acceptance :=
  if a.payload.taskId = t then { a with
    revoked := true
    stage := if a.stage = .waiting ∧ running = false then .cancelled else a.stage }
  else a

@[simp] lemma payload_take (a : Acceptance) (h : Option ℕ) : (a.take h).payload = a.payload := by
  cases h <;> rfl

@[simp] lemma payload_finish (h : ℕ) (a : Acceptance) : (a.finish h).payload = a.payload := by
  unfold finish
  split <;> rfl

@[simp] lemma payload_revoke (t : String) (running : Bool) (a : Acceptance) :
    (a.revoke t running).payload = a.payload := by
  unfold revoke
  split <;> rfl

end Acceptance

/-- The process with its accepted requests, numbered in the order of their acceptance, and the
numbers of the payloads in the queue, in the order of the queue. -/
structure Ledger where
  brain : Brain
  count : ℕ
  log : ℕ → Acceptance
  tickets : List ℕ

/-- The id for which a cancel route reports success. -/
def Response.cancelledId : Response → Option String
  | .cancelled _ taskId true => some taskId
  | _ => none

namespace Brain

variable (s : Brain)

/-- The payload of a request that the routes let through and the runtime accepts. -/
def admits (a : Action) : Option (Payload × Bool) :=
  match s.attempt a with
  | some (_, p, queueUp) => if s.runtime.isRunning p.taskId then none else some (p, queueUp)
  | none => none

/-- The asyncio task as which `start_agent_task` starts a payload. -/
def startsAs (p : Payload) : Option ℕ :=
  if s.runtime.isCancelled p.taskId || s.runtime.isRunning p.taskId then none
  else some s.runtime.nextTask

/-- The id for which `TaskRuntime.cancel` is called and returns true. -/
def cancels : Action → Option String
  | .cancelTask identity threadId => (s.cancelTask identity threadId).1.cancelledId
  | .cancelAiChatTask identity taskId open_ =>
    (s.cancelAiChatTask identity taskId open_).1.cancelledId
  | _ => none

end Brain

namespace Ledger

/-- The ledger after startup. -/
def init : Ledger :=
  ⟨.init, 0, fun _ => ⟨⟨"", "", "", ⟨"", "", ""⟩, false⟩, .ended, 0, false, 0⟩, []⟩

/-- A new entry for an accepted payload. -/
def register (l : Ledger) (brain : Brain) (p : Payload) (queueUp : Bool) : Ledger where
  brain := brain
  count := l.count + 1
  log := Function.update l.log l.count { payload := p, stage := .waiting }
  tickets := if queueUp then l.tickets ++ [l.count] else l.tickets

/-- The entry of the `i`-th waiting payload is taken. -/
def takeTicket (l : Ledger) (brain : Brain) (i n : ℕ) (h : Option ℕ) : Ledger where
  brain := brain
  count := l.count
  log := Function.update l.log n ((l.log n).take h)
  tickets := l.tickets.eraseIdx i

/-- One step of the process, with the book kept. -/
def step (l : Ledger) (a : Action) : Ledger :=
  let brain := l.brain.step a
  match l.brain.admits a with
  | some (p, queueUp) => l.register brain p queueUp
  | none =>
    match a with
    | .startAgentTask i =>
      match l.brain.queue[i]?, l.tickets[i]? with
      | some p, some n => l.takeTicket brain i n (l.brain.startsAs p)
      | _, _ => { l with brain := brain }
    | .finish e =>
      if e ∈ l.brain.running ∧ (l.brain.runtime.asyncTask e.handle).outcome.isSome then
        { l with brain := brain, log := fun n => (l.log n).finish e.handle }
      else { l with brain := brain }
    | a =>
      match l.brain.cancels a with
      | some t => { l with
          brain := brain
          log := fun n => (l.log n).revoke t (l.brain.runtime.isRunning t) }
      | none => { l with brain := brain }

/-- The ledger follows the process. -/
@[simp] lemma brain_step (l : Ledger) (a : Action) : (l.step a).brain = l.brain.step a := by
  unfold step
  dsimp only
  split
  · rfl
  · split
    · split <;> rfl
    · split <;> rfl
    · split <;> rfl

/-- A run with the ledger is a run of the Brain. -/
theorem brain_run (l : Ledger) (as : List Action) :
    (run step l as).brain = run Brain.step l.brain as := by
  induction as generalizing l with
  | nil => rfl
  | cons a as ih => rw [run_cons, run_cons, ih, brain_step]

end Ledger

/-! ### What the other calls do -/

namespace TaskRuntime

/-- The entries of a state that a registration writes and nothing else changes. -/
structure SameEntry (state state' : TaskState) : Prop where
  query : state'.query = state.query
  conversationId : state'.conversationId = state.conversationId
  owner : state'.owner = state.owner

/-- `rt'` has the registrations of `rt`. -/
def SameEntries (rt rt' : TaskRuntime) : Prop :=
  ∀ t state, rt.states t = some state →
    ∃ state', rt'.states t = some state' ∧ SameEntry state state'

variable {rt rt' : TaskRuntime}

lemma SameEntries.of_eq (h : rt'.states = rt.states) : SameEntries rt rt' :=
  fun t state hstate => ⟨state, by rw [h]; exact hstate, ⟨rfl, rfl, rfl⟩⟩

lemma SameEntries.trans {rt₁ rt₂ rt₃ : TaskRuntime} (h : SameEntries rt₁ rt₂)
    (h' : SameEntries rt₂ rt₃) : SameEntries rt₁ rt₃ := by
  intro t state hstate
  obtain ⟨state', hstate', hsame⟩ := h t state hstate
  obtain ⟨state'', hstate'', hsame'⟩ := h' t state' hstate'
  exact ⟨state'', hstate'', ⟨hsame'.query.trans hsame.query,
    hsame'.conversationId.trans hsame.conversationId, hsame'.owner.trans hsame.owner⟩⟩

lemma sameEntries_modifyState {k : String} {f : TaskState → TaskState}
    (hf : ∀ state, SameEntry state (f state)) : SameEntries rt (rt.modifyState k f) := by
  intro t state hstate
  by_cases ht : t = k
  · subst ht
    exact ⟨f state, by simp [modifyState, hstate], hf state⟩
  · exact ⟨state, by simpa [modifyState, Function.update_of_ne ht] using hstate, ⟨rfl, rfl, rfl⟩⟩

lemma sameEntries_cancel (k : String) : SameEntries rt (rt.cancel k).2 := by
  have habort : SameEntries rt (rt.abortInterrupt k) := .of_eq (states_abortInterrupt k)
  have hmark : ∀ status : TaskStatus, SameEntries (rt.abortInterrupt k)
      ((rt.abortInterrupt k).modifyState k ({ · with status := status })) :=
    fun _ => sameEntries_modifyState fun _ => ⟨rfl, rfl, rfl⟩
  rcases rt.cancel_cases k with ⟨h, -, -, hc⟩ | ⟨-, -, hc⟩ | ⟨-, -, hc⟩ <;> rw [hc]
  · exact (habort.trans (hmark _)).trans (.of_eq rfl)
  · exact habort.trans (hmark _)
  · exact habort

lemma sameEntries_resume {k decision instruction : String} {done : Bool}
    (h : rt.resume k decision instruction = .ok (done, rt')) : SameEntries rt rt' := by
  rcases rt.resume_cases k decision instruction with
    ⟨e, he⟩ | ⟨-, he⟩ | ⟨d, f, state, -, -, -, -, -, he⟩ <;> rw [he] at h <;> cases h
  · exact .of_eq rfl
  · have hmark : SameEntries (rt.popInterrupt k)
        ((rt.popInterrupt k).modifyState k (resumedState · ⟨d, instruction⟩)) :=
      sameEntries_modifyState fun _ => ⟨rfl, rfl, rfl⟩
    have hpop : SameEntries rt (rt.popInterrupt k) := .of_eq rfl
    exact hpop.trans (hmark.trans (.of_eq rfl))

lemma sameEntries_finish (k : String) (h : ℕ) : SameEntries rt (rt.finish k h) := by
  unfold finish
  split
  · rename_i outcome _
    exact sameEntries_modifyState fun state => by cases outcome <;> exact ⟨rfl, rfl, rfl⟩
  · exact .of_eq rfl

lemma sameEntries_interrupt (k reason summary : String) :
    SameEntries rt (rt.interrupt k reason summary).2 := by
  intro t state hstate
  by_cases ht : t = k
  · subst ht
    refine ⟨{ state with status := .interrupted, interrupt := some ⟨reason, summary⟩ }, ?_,
      ⟨rfl, rfl, rfl⟩⟩
    simp [interrupt, hstate]
  · exact ⟨state, by simpa [interrupt, Function.update_of_ne ht] using hstate, ⟨rfl, rfl, rfl⟩⟩

/-- What a call does that registers, starts, ends and cancels nothing: tasks and registrations stay,
and a status only changes from interrupted to running or cancelling. -/
structure Quiet (rt rt' : TaskRuntime) : Prop extends SameTasks rt rt' where
  requests : ∀ h, (rt'.asyncTask h).cancelRequested = (rt.asyncTask h).cancelRequested
  entries : SameEntries rt rt'
  status : ∀ t, rt'.statusOf t = rt.statusOf t ∨ rt.statusOf t = some .interrupted ∧
    (rt'.statusOf t = some .running ∨ rt'.statusOf t = some .cancelling)

lemma Quiet.refl (rt : TaskRuntime) : Quiet rt rt :=
  ⟨.refl rt, fun _ => rfl, .of_eq rfl, fun _ => .inl rfl⟩

lemma quiet_cancel {k : String} (h : (rt.cancel k).1 = false) : Quiet rt (rt.cancel k).2 := by
  rcases rt.cancel_cases k with ⟨g, -, -, hc⟩ | ⟨-, -, hc⟩ | ⟨-, -, hc⟩ <;> rw [hc] at h ⊢
  · cases h
  · cases h
  · refine ⟨sameTasks_abortInterrupt k, ?_, .of_eq (states_abortInterrupt k),
      fun t => .inl (statusOf_of_states (by rw [states_abortInterrupt]))⟩
    intro g
    unfold abortInterrupt
    split <;> rfl

lemma quiet_resume {k decision instruction : String} {done : Bool}
    (h : rt.resume k decision instruction = .ok (done, rt')) : Quiet rt rt' where
  toSameTasks := sameTasks_resume h
  requests := by
    intro g
    rcases rt.resume_cases k decision instruction with
      ⟨e, he⟩ | ⟨-, he⟩ | ⟨d, f, state, -, -, -, -, -, he⟩ <;> rw [he] at h <;> cases h <;> rfl
  entries := sameEntries_resume h
  status := by
    intro t
    by_cases ht : t = k
    · subst ht
      exact statusOf_resume h
    · exact .inl (statusOf_of_states ((settles_resume h).states t ht))

end TaskRuntime

end EcommerceAgent.Runtime
