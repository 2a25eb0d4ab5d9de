/-
# The event loops of the Brain process

Routes, the queue and the tasks of the AI chat run in the loop of the server.  The agent of
`POST /api/task` runs under `asyncio.run` in a thread of its own (`_run_agent_task_sync`), so its
database workflow awaits a future of that thread's loop.  `resume` and `cancel` complete the future
from the server's loop: `set_result` queues the workflow's coroutine with `call_soon`, and the
coroutine goes on when the loop of the thread comes to its next turn.

The calls of `TaskRuntime` from the threads are atomic here as well.
-/
import EcommerceAgent.Runtime.Server
import EcommerceAgent.Lib.EventLoop

open EcommerceAgent.Lib

namespace EcommerceAgent.Runtime

/-- The loop in which an agent runs: that of the server, or that of the thread for the asyncio task
of a number. -/
def loopOf (e : Execution) : Option ℕ := if e.payload.aiChat then none else some e.handle

/-- What `await future` gives: `none` if it raises, or does not return. -/
def FutureState.verdict? : FutureState → Option Verdict
  | .resolved verdict => some verdict
  | _ => none

/-- The Brain process with its loops.  The callbacks in their queues are coroutines, named by the
future that they awaited; `returned` is what the call that awaited a future has returned. -/
structure BrainLoops where
  brain : Brain
  loops : Option ℕ → EventLoop ℕ
  returned : ℕ → Option Verdict

namespace BrainLoops

/-- The process after startup. -/
def init : BrainLoops := ⟨.init, fun _ => {}, fun _ => none⟩

variable (s : BrainLoops)

/-- What happens inside an agent happens while its loop runs, and an agent returns after the calls
that it awaits. -/
def MayAct : Action → Prop
  | .requestApproval e _ => (s.loops (loopOf e)).mode = .turning
  | .abandon w => (s.loops (loopOf w.execution)).mode = .turning
  | .complete e o => o = .cancelled ∨ ((s.loops (loopOf e)).mode = .turning ∧
      ∀ w ∈ s.brain.waiters, w.execution = e → w.future ∉ (s.loops (loopOf e)).ready)
  | _ => True

instance (a : Action) : Decidable (s.MayAct a) := by
  cases a <;> unfold MayAct <;> infer_instance

/-- The coroutines of the loop `l` whose futures are done in `rt`, and were not before. -/
def woken (rt : TaskRuntime) (l : Option ℕ) : List ℕ :=
  (s.brain.waiters.filter fun w => loopOf w.execution = l ∧
    s.brain.runtime.future w.future = .pending ∧ rt.future w.future ≠ .pending).map Waiter.future

/-- A step of the Brain. -/
def act (a : Action) : BrainLoops :=
  if s.MayAct a then
    { s with
      brain := s.brain.step a
      loops := fun l => (s.loops l).callSoon (s.woken (s.brain.step a).runtime l) }
  else s

/-- The loop of a started agent's thread runs out of callbacks. -/
def poll (h : ℕ) (due : Bool) : BrainLoops :=
  if ∃ e ∈ s.brain.started, loopOf e = some h then
    { s with loops := Function.update s.loops (some h) ((s.loops (some h)).poll due) }
  else s

/-- A timer or a file for which the loop waits ends the wait. -/
def wake (h : ℕ) : BrainLoops :=
  { s with loops := Function.update s.loops (some h) (s.loops (some h)).wake }

/-- The loop runs its next callback: the coroutine's `await` ends. -/
def turn (l : Option ℕ) : BrainLoops :=
  match (s.loops l).next with
  | some (f, loop) =>
    { s with
      loops := Function.update s.loops l loop
      returned := Function.update s.returned f (s.brain.runtime.future f).verdict? }
  | none => s

end BrainLoops

/-- What can happen to the process. -/
inductive LoopEvent
  | act (a : Action)
  | poll (h : ℕ) (due : Bool)
  | wake (h : ℕ)
  | turn (l : Option ℕ)
deriving DecidableEq, Repr

namespace BrainLoops

/-- One step of the process. -/
def step (s : BrainLoops) : LoopEvent → BrainLoops
  | .act a => s.act a
  | .poll h due => s.poll h due
  | .wake h => s.wake h
  | .turn l => s.turn l

/-- The loop of a thread goes on by itself: it waits for what is due, and runs the callbacks in its
queue. -/
def goOn (s : BrainLoops) (h : ℕ) : BrainLoops :=
  run step s
    (.wake h :: List.replicate (s.loops (some h)).ready.length (.turn (some h)))

variable {s : BrainLoops}

lemma act_of_mayAct {a : Action} (h : s.MayAct a) :
    s.act a = { s with
      brain := s.brain.step a
      loops := fun l => (s.loops l).callSoon (s.woken (s.brain.step a).runtime l) } := if_pos h

@[simp] lemma turn_brain (l : Option ℕ) : (s.turn l).brain = s.brain := by
  unfold turn
  split <;> rfl

/-- Running a callback changes no loop's mode. -/
lemma turn_mode (l l' : Option ℕ) : ((s.turn l).loops l').mode = (s.loops l').mode := by
  unfold turn
  split
  · rename_i f loop hnext
    dsimp only
    by_cases hl : l' = l
    · subst hl
      rw [Function.update_self]
      exact (EventLoop.next_eq_some hnext).1
    · rw [Function.update_of_ne hl]
  · rfl

/-- A loop that runs its callbacks ends the calls that wait for them. -/
lemma returned_replicate_turn {l : Option ℕ} {f : ℕ} {v : Verdict} {callbacks : List ℕ}
    (hturning : (s.loops l).mode = .turning) (hready : (s.loops l).ready = callbacks)
    (hresolved : s.brain.runtime.future f = .resolved v)
    (hf : f ∈ callbacks ∨ s.returned f = some v) :
    (run step s (List.replicate callbacks.length (.turn l))).returned f = some v := by
  induction callbacks generalizing s with
  | nil => exact hf.resolve_left List.not_mem_nil
  | cons g rest ih =>
    rw [List.length_cons, List.replicate_succ, run_cons]
    have hnext := EventLoop.next_of_turning hturning hready
    have hturn : s.step (.turn l) = { s with
        loops := Function.update s.loops l { s.loops l with ready := rest }
        returned := Function.update s.returned g (s.brain.runtime.future g).verdict? } := by
      rw [step, turn, hnext]
    rw [hturn]
    refine ih ?_ ?_ hresolved ?_ <;> dsimp only
    · rw [Function.update_self]
      exact hturning
    · rw [Function.update_self]
    · by_cases hfg : f = g
      · right
        rw [← hfg, Function.update_self, hresolved]
        rfl
      · rw [Function.update_of_ne hfg]
        exact hf.imp_left fun hmem => (List.mem_cons.mp hmem).resolve_left hfg

/-- A loop that is not asleep ends the calls whose futures are done. -/
theorem returned_goOn {h f : ℕ} {v : Verdict} (hawake : (s.loops (some h)).mode ≠ .asleep)
    (hf : f ∈ (s.loops (some h)).ready) (hresolved : s.brain.runtime.future f = .resolved v) :
    (s.goOn h).returned f = some v := by
  have hloop : (s.wake h).loops (some h) = (s.loops (some h)).wake := Function.update_self ..
  refine returned_replicate_turn (s := s.wake h) ?_ ?_ hresolved (.inl hf)
  · rw [hloop]
    exact EventLoop.mode_wake hawake
  · rw [hloop, EventLoop.ready_wake]

/-- A future that a step completes brings the workflow that awaits it into the queue of its loop. -/
lemma mem_ready_act {a : Action} (h : s.MayAct a) {w : Waiter} (hw : s.brain.Blocked w)
    (hdone : (s.brain.step a).runtime.future w.future ≠ .pending) :
    w.future ∈ ((s.act a).loops (loopOf w.execution)).ready := by
  rw [act_of_mayAct h, EventLoop.ready_callSoon]
  refine List.mem_append_right _ (List.mem_map_of_mem (List.mem_filter.mpr ⟨hw.1, ?_⟩))
  simpa using ⟨hw.2, hdone⟩

end BrainLoops

end EcommerceAgent.Runtime
