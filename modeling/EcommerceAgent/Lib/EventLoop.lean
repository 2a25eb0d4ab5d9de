/-
# Event loops

The loop of `asyncio`, as other threads see it.  A callback that another thread puts into the
queue with `call_soon` runs in the next turn; but nobody tells a loop that waits in `select`, so
one that waits without a timer and without a file to watch never gets to that turn.
-/
import Mathlib.Tactic.Common

namespace EcommerceAgent.Lib

/-- What a loop is doing. -/
inductive LoopMode
  /-- It runs callbacks, and looks into its queue again before it waits. -/
  | turning
  /-- It waits for a timer or a file that will end the wait. -/
  | polling
  /-- It waits with nothing due. -/
  | asleep
deriving DecidableEq, Repr

/-- An event loop with the callbacks in its queue. -/
structure EventLoop (α : Type*) where
  mode : LoopMode := .turning
  ready : List α := []

namespace EventLoop

variable {α : Type*} (loop : EventLoop α)

/-- `call_soon` for each of the callbacks, from any thread. -/
def callSoon (callbacks : List α) : EventLoop α := { loop with ready := loop.ready ++ callbacks }

/-- The queue is empty and the loop enters `select`; `due` says that a timer is set or a file is
watched. -/
def poll (due : Bool) : EventLoop α :=
  match loop.mode, loop.ready with
  | .turning, [] => { loop with mode := if due then .polling else .asleep }
  | _, _ => loop

/-- What is due comes, and `select` returns. -/
def wake : EventLoop α :=
  match loop.mode with
  | .polling => { loop with mode := .turning }
  | _ => loop

/-- The callback that the loop runs next, and the loop without it. -/
def next : Option (α × EventLoop α) :=
  match loop.mode, loop.ready with
  | .turning, callback :: rest => some (callback, { loop with ready := rest })
  | _, _ => none

variable {loop}

@[simp] lemma mode_callSoon (callbacks : List α) :
    (loop.callSoon callbacks).mode = loop.mode := rfl

@[simp] lemma ready_callSoon (callbacks : List α) :
    (loop.callSoon callbacks).ready = loop.ready ++ callbacks := rfl

/-- A loop falls asleep only with nothing due. -/
lemma poll_ne_asleep (h : loop.mode ≠ .asleep) : (loop.poll true).mode ≠ .asleep := by
  unfold poll
  split
  · simp
  · exact h

@[simp] lemma ready_wake : loop.wake.ready = loop.ready := by
  unfold wake
  split <;> rfl

/-- A loop that is not asleep gets to its next turn. -/
lemma mode_wake (h : loop.mode ≠ .asleep) : loop.wake.mode = .turning := by
  unfold wake
  cases hmode : loop.mode with
  | turning => exact hmode
  | polling => rfl
  | asleep => exact absurd hmode h

lemma next_of_turning (h : loop.mode = .turning) {callback : α} {rest : List α}
    (hready : loop.ready = callback :: rest) :
    loop.next = some (callback, { loop with ready := rest }) := by
  simp [next, h, hready]

lemma next_eq_some {callback : α} {loop' : EventLoop α} (h : loop.next = some (callback, loop')) :
    loop'.mode = loop.mode ∧ loop.ready = callback :: loop'.ready := by
  unfold next at h
  split at h
  · rename_i hready
    cases h
    exact ⟨rfl, hready⟩
  · cases h

end EventLoop

end EcommerceAgent.Lib
