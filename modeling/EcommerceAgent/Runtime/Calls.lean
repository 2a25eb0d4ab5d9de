/-
# The task runtime under arbitrary calls

`TaskRuntime` as an object of its own: its methods may be called in any order, for any ids, by any
number of coroutines.  Besides the dictionaries, a process keeps the coroutines that are suspended
in `interrupt`, and the asyncio tasks whose `_finish` is still to come: `start` schedules it in a
callback of the done task, `start_and_wait` runs it after awaiting the task, and in both cases any
other call may come in between.
-/
import EcommerceAgent.Runtime.Scope
import EcommerceAgent.Lib.Runs

open EcommerceAgent.Lib

namespace EcommerceAgent.Runtime

/-- A coroutine that called `interrupt(key, …)` and awaits `future`. -/
structure Suspension where
  key : String
  future : ℕ
deriving DecidableEq, Repr

/-- The runtime, the coroutines suspended in `interrupt`, the asyncio tasks that still have to be
finished, and the outcome of the latest task of an id once its `_finish` has run; a new
registration of the id clears it. -/
structure Process where
  runtime : TaskRuntime
  suspended : List Suspension
  unfinished : List (String × ℕ)
  concluded : String → Option Outcome

/-- The calls of the methods of `TaskRuntime` that change its state, the end of an asyncio task and
the cancellation of a suspended coroutine.  `start` stands for `start` and `start_and_wait`. -/
inductive Call
  | enqueue (threadId query : String) (metadata : Metadata)
  | start (threadId query : String) (metadata : Metadata)
  | complete (h : ℕ) (o : Outcome)
  | finish (threadId : String) (h : ℕ)
  | cancel (threadId : String)
  | interrupt (threadId reason summary : String)
  | resume (threadId decision instruction : String)
  | abandon (w : Suspension)
deriving DecidableEq, Repr

namespace TaskRuntime

/-- The status stored under an id. -/
def statusOf (rt : TaskRuntime) (threadId : String) : Option TaskStatus :=
  (rt.states threadId).map TaskState.status

/-- How the asyncio task `h` ended, if it is done. -/
def outcomeOf (rt : TaskRuntime) (h : ℕ) : Option Outcome := (rt.asyncTask h).outcome

end TaskRuntime

namespace Process

/-- The process before the first call. -/
def init : Process := ⟨.empty, [], [], fun _ => none⟩

/-- A coroutine is blocked while the future that it awaits is pending. -/
def Blocked (s : Process) (w : Suspension) : Prop :=
  w ∈ s.suspended ∧ s.runtime.future w.future = .pending

instance (s : Process) (w : Suspension) : Decidable (s.Blocked w) :=
  inferInstanceAs (Decidable (_ ∧ _))

/-- The latest task of an id is registered anew, so that nothing is concluded about it. -/
def reopen (s : Process) (threadId : String) : String → Option Outcome :=
  Function.update s.concluded threadId none

/-- `_finish(thread_id, task)` concludes the id if `task` is its latest one. -/
def conclude (s : Process) (threadId : String) (h : ℕ) : String → Option Outcome :=
  if s.runtime.tasks threadId = some h then
    Function.update s.concluded threadId (s.runtime.outcomeOf h)
  else s.concluded

/-- One call.  A call that raises leaves the process as it is. -/
def step (s : Process) : Call → Process
  | .enqueue threadId query metadata =>
    match s.runtime.enqueue threadId query metadata with
    | .ok rt => { s with runtime := rt, concluded := s.reopen threadId }
    | .error _ => s
  | .start threadId query metadata =>
    match s.runtime.startTask threadId query metadata with
    | .ok (h, rt) => { s with
        runtime := rt
        unfinished := (threadId, h) :: s.unfinished
        concluded := s.reopen threadId }
    | .error _ => s
  | .complete h o =>
    -- an asyncio task ends as cancelled only after a cancel request
    if h ∈ s.unfinished.map Prod.snd ∧ s.runtime.outcomeOf h = none ∧
        (o = .cancelled → (s.runtime.asyncTask h).cancelRequested = true) then
      { s with runtime := { s.runtime with
        asyncTask := Function.update s.runtime.asyncTask h
          { s.runtime.asyncTask h with outcome := some o } } }
    else s
  | .finish threadId h =>
    if (threadId, h) ∈ s.unfinished ∧ s.runtime.outcomeOf h ≠ none then
      { s with
        runtime := s.runtime.finish threadId h
        unfinished := s.unfinished.erase (threadId, h)
        concluded := s.conclude threadId h }
    else s
  | .cancel threadId => { s with runtime := (s.runtime.cancel threadId).2 }
  | .interrupt threadId reason summary =>
    let (f, rt) := s.runtime.interrupt threadId reason summary
    { s with runtime := rt, suspended := ⟨threadId, f⟩ :: s.suspended }
  | .resume threadId decision instruction =>
    match s.runtime.resume threadId decision instruction with
    | .ok (_, rt) => { s with runtime := rt }
    | .error _ => s
  | .abandon w =>
    if s.Blocked w then
      { s with runtime := { s.runtime with
        future := Function.update s.runtime.future w.future .cancelled } }
    else s

end Process

/-! ### What the methods do to statuses and tasks -/

namespace TaskRuntime

variable {rt rt' : TaskRuntime}

/-- `rt'` has the asyncio tasks of `rt`, and they are done in `rt'` if they are in `rt`. -/
structure SameTasks (rt rt' : TaskRuntime) : Prop where
  tasks : rt'.tasks = rt.tasks
  outcomes : rt'.outcomeOf = rt.outcomeOf
  nextTask : rt'.nextTask = rt.nextTask

lemma SameTasks.refl (rt : TaskRuntime) : SameTasks rt rt := ⟨rfl, rfl, rfl⟩

lemma SameTasks.trans {rt₁ rt₂ rt₃ : TaskRuntime} (h : SameTasks rt₁ rt₂)
    (h' : SameTasks rt₂ rt₃) : SameTasks rt₁ rt₃ :=
  ⟨h'.tasks.trans h.tasks, h'.outcomes.trans h.outcomes, h'.nextTask.trans h.nextTask⟩

lemma sameTasks_modifyState (k : String) (f : TaskState → TaskState) :
    SameTasks rt (rt.modifyState k f) := ⟨rfl, rfl, rfl⟩

lemma sameTasks_abortInterrupt (k : String) : SameTasks rt (rt.abortInterrupt k) := by
  unfold abortInterrupt
  split
  · exact ⟨rfl, rfl, rfl⟩
  · exact .refl rt

lemma sameTasks_requestCancel (h : ℕ) : SameTasks rt (rt.requestCancel h) := by
  refine ⟨rfl, ?_, rfl⟩
  funext g
  by_cases hg : g = h
  · subst hg
    simp [outcomeOf, requestCancel]
  · simp [outcomeOf, requestCancel, Function.update_of_ne hg]

lemma isRunning_iff {k : String} :
    rt.isRunning k = true ↔ ∃ h, rt.tasks k = some h ∧ rt.outcomeOf h = none := by
  unfold isRunning outcomeOf
  cases rt.tasks k with
  | none => simp
  | some h => simp

lemma SameTasks.isRunning (h : SameTasks rt rt') (k : String) :
    rt'.isRunning k = rt.isRunning k := by
  rw [Bool.eq_iff_iff, isRunning_iff, isRunning_iff, h.tasks, h.outcomes]

/-- What a call of `cancel` can do: it requests the cancellation of a running task, it cancels a
queued one, or it only answers a waiting interrupt. -/
lemma cancel_cases (rt : TaskRuntime) (k : String) :
    (∃ h, rt.isRunning k = true ∧ rt.tasks k = some h ∧
      rt.cancel k = (true, ((rt.abortInterrupt k).modifyState k
        ({ · with status := .cancelling })).requestCancel h)) ∨
    (rt.isRunning k = false ∧ rt.statusOf k = some .queued ∧
      rt.cancel k = (true, (rt.abortInterrupt k).modifyState k ({ · with status := .cancelled }))) ∨
    (rt.isRunning k = false ∧ rt.statusOf k ≠ some .queued ∧
      rt.cancel k = (false, rt.abortInterrupt k)) := by
  cases hrun : rt.isRunning k with
  | true =>
    obtain ⟨h, hh, -⟩ := isRunning_iff.1 hrun
    refine .inl ⟨h, rfl, hh, ?_⟩
    simp only [cancel, hh, hrun]
  | false =>
    have hrest : rt.cancel k = if rt.statusOf k = some .queued then
        (true, (rt.abortInterrupt k).modifyState k ({ · with status := .cancelled }))
        else (false, rt.abortInterrupt k) := by
      unfold cancel statusOf
      dsimp only
      rw [hrun]
      cases rt.tasks k <;> rfl
    rw [hrest]
    by_cases hqueued : rt.statusOf k = some .queued
    · exact .inr (.inl ⟨rfl, hqueued, if_pos hqueued⟩)
    · exact .inr (.inr ⟨rfl, hqueued, if_neg hqueued⟩)

lemma sameTasks_cancel (rt : TaskRuntime) (k : String) : SameTasks rt (rt.cancel k).2 := by
  have habort : SameTasks rt (rt.abortInterrupt k) := sameTasks_abortInterrupt k
  rcases rt.cancel_cases k with ⟨h, -, -, hc⟩ | ⟨-, -, hc⟩ | ⟨-, -, hc⟩
  · rw [hc]
    exact (habort.trans (sameTasks_modifyState _ _)).trans (sameTasks_requestCancel _)
  · rw [hc]
    exact habort.trans (sameTasks_modifyState _ _)
  · rw [hc]
    exact habort

lemma sameTasks_resume {k decision instruction : String} {done : Bool}
    (h : rt.resume k decision instruction = .ok (done, rt')) : SameTasks rt rt' := by
  rcases rt.resume_cases k decision instruction with ⟨e, he⟩ | ⟨-, he⟩ |
    ⟨d, f, state, -, -, -, -, -, he⟩
  · rw [he] at h
    cases h
  · rw [he] at h
    cases h
    exact ⟨rfl, rfl, rfl⟩
  · rw [he] at h
    cases h
    exact ⟨rfl, rfl, rfl⟩

lemma sameTasks_finish (rt : TaskRuntime) (k : String) (h : ℕ) : SameTasks rt (rt.finish k h) := by
  unfold finish
  split
  · exact sameTasks_modifyState _ _
  · exact .refl rt

lemma statusOf_modifyState (k : String) (f : TaskState → TaskState) :
    (rt.modifyState k f).statusOf k = (rt.states k).map fun state => (f state).status := by
  simp [statusOf, modifyState, Function.comp_def]

lemma statusOf_of_states {x : String} (h : rt'.states x = rt.states x) :
    rt'.statusOf x = rt.statusOf x := congrArg _ h

lemma states_abortInterrupt (k : String) : (rt.abortInterrupt k).states = rt.states := by
  unfold abortInterrupt
  split <;> rfl

/-- A running task is cancelling after `cancel`; otherwise a queued one is cancelled. -/
lemma statusOf_cancel (k : String) :
    (rt.isRunning k = true ∧
      (rt.cancel k).2.statusOf k = (rt.states k).map fun _ => .cancelling) ∨
    (rt.isRunning k = false ∧ rt.statusOf k = some .queued ∧
      (rt.cancel k).2.statusOf k = some .cancelled) ∨
    ((rt.cancel k).1 = false ∧ rt.isRunning k = false ∧
      (rt.cancel k).2.statusOf k = rt.statusOf k) := by
  rcases rt.cancel_cases k with ⟨h, hrun, -, hc⟩ | ⟨hrun, hqueued, hc⟩ | ⟨hrun, -, hc⟩
  · refine .inl ⟨hrun, ?_⟩
    rw [hc, ← states_abortInterrupt k]
    exact statusOf_modifyState k _
  · obtain ⟨state, hstate, -⟩ := Option.map_eq_some_iff.1 hqueued
    refine .inr (.inl ⟨hrun, hqueued, ?_⟩)
    rw [hc, statusOf_modifyState, states_abortInterrupt, hstate]
    rfl
  · refine .inr (.inr ⟨congrArg Prod.fst hc, hrun, ?_⟩)
    rw [hc]
    exact statusOf_of_states (by rw [states_abortInterrupt])

/-- The status that `resume` leaves: that of the decision if it answers an interrupted task. -/
lemma statusOf_resume {k decision instruction : String} {done : Bool}
    (h : rt.resume k decision instruction = .ok (done, rt')) :
    rt'.statusOf k = rt.statusOf k ∨
      rt.statusOf k = some .interrupted ∧
        (rt'.statusOf k = some .running ∨ rt'.statusOf k = some .cancelling) := by
  rcases rt.resume_cases k decision instruction with
    ⟨e, he⟩ | ⟨-, he⟩ | ⟨d, f, state, -, -, hstate, -, hstatus, he⟩
  · rw [he] at h
    cases h
  · rw [he] at h
    cases h
    exact .inl rfl
  · rw [he] at h
    cases h
    refine .inr ⟨by simp [statusOf, hstate, hstatus], ?_⟩
    have hnew : (((rt.popInterrupt k).modifyState k (resumedState · ⟨d, instruction⟩)).resolveFuture
        f ⟨d, instruction⟩).statusOf k = some (resumedState state ⟨d, instruction⟩).status := by
      simp [statusOf, resolveFuture, modifyState, popInterrupt, hstate]
    rw [hnew]
    by_cases hd : d = .abort
    · exact .inr (by simp [resumedState, hd])
    · exact .inl (by simp [resumedState, hd])

end TaskRuntime

/-- The status that `_finish` writes for an outcome. -/
def Outcome.status : Outcome → TaskStatus
  | .cancelled => .cancelled
  | .raised _ => .failed
  | .returned _ => .succeeded

namespace TaskRuntime

variable {rt rt' : TaskRuntime}

lemma statusOf_finish {k : String} {h : ℕ} {o : Outcome} (ho : rt.outcomeOf h = some o) :
    (rt.finish k h).statusOf k = (rt.states k).map fun _ => o.status := by
  have hfinish : rt.finish k h = rt.modifyState k (finishedState o) := by
    unfold finish
    unfold outcomeOf at ho
    rw [ho]
  rw [hfinish, statusOf_modifyState]
  cases o <;> rfl

lemma future_finish (k : String) (h : ℕ) : (rt.finish k h).future = rt.future := by
  unfold finish
  split <;> rfl

lemma statusOf_interrupt (rt : TaskRuntime) (k reason summary : String) :
    (rt.interrupt k reason summary).2.statusOf k = some .interrupted := by
  simp [statusOf, interrupt]

end TaskRuntime

end EcommerceAgent.Runtime
