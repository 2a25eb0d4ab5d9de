/-
# Pending interrupts

An interrupt future registered under a key belongs to a workflow whose context id is that
key, and the latest task of a conversation always has an owner.  Both hold in every reachable
state (`Tracked`).
-/
import EcommerceAgent.Runtime.Ownership

open EcommerceAgent.Lib

namespace EcommerceAgent.Runtime

namespace Brain

/-- Futures belong to the workflows that await them, and conversations to their latest task. -/
structure Tracked (s : Brain) : Prop where
  latest : ∀ c t, s.runtime.conversationLatestTask c = some t → s.runtime.ownerOf t ≠ none
  known : ∀ e ∈ s.started, e.payload.conversationId ≠ "" →
    s.runtime.conversationLatestTask e.payload.conversationId ≠ none
  waiter : ∀ w ∈ s.waiters, w.execution ∈ s.started ∧ w.execution.payload.conversationId ≠ ""
  future_lt : ∀ w ∈ s.waiters, w.future < s.runtime.nextFuture
  future_inj : ∀ w ∈ s.waiters, ∀ w' ∈ s.waiters, w.future = w'.future → w = w'
  key : ∀ k f, s.runtime.interruptFutures k = some f →
    ∃ w ∈ s.waiters, w.future = f ∧ w.execution.payload.conversationId = k

variable {s : Brain}

lemma tracked_init : init.Tracked where
  latest := by simp [init, TaskRuntime.empty]
  known := by simp [init]
  waiter := by simp [init]
  future_lt := by simp [init]
  future_inj := by simp [init]
  key := by simp [init, TaskRuntime.empty]

/-- The workflow whose future is registered under `k` has the context id `k`. -/
lemma Tracked.key_of_mem (hs : s.Tracked) {w : Waiter} (hw : w ∈ s.waiters) {k : String}
    (hk : s.runtime.interruptFutures k = some w.future) :
    w.execution.payload.conversationId = k := by
  obtain ⟨w', hw', hf, hk'⟩ := hs.key k _ hk
  rw [← hs.future_inj w' hw' w hw hf]
  exact hk'

lemma Tracked.registers (hs : s.Tracked) {c t : String} {identity : Identity}
    {rt : TaskRuntime} (hreg : TaskRuntime.Registers c t identity s.runtime rt) :
    (∀ d x, rt.conversationLatestTask d = some x → rt.ownerOf x ≠ none) ∧
    ∀ d, s.runtime.conversationLatestTask d ≠ none → rt.conversationLatestTask d ≠ none := by
  constructor
  · intro d x hd
    by_cases hx : x = t
    · subst hx
      simp [hreg.owner_self]
    · rw [hreg.owner_of_ne hx]
      by_cases hdc : d = c
      · subst hdc
        by_cases hd' : d = ""
        · exact hs.latest d x (by simpa [hreg.latest, TaskRuntime.setLatest, hd'] using hd)
        · rw [hreg.latest_self hd'] at hd
          exact absurd (Option.some.inj hd).symm hx
      · exact hs.latest d x (by rw [← hreg.latest_of_ne hdc]; exact hd)
  · intro d hd
    by_cases hdc : d = c
    · subst hdc
      by_cases hd' : d = ""
      · simpa [hreg.latest, TaskRuntime.setLatest, hd'] using hd
      · simp [hreg.latest_self hd']
    · rw [hreg.latest_of_ne hdc]
      exact hd

lemma Tracked.accept (hs : s.Tracked) (text : String) (p : Payload) (queueUp : Bool) :
    (s.accept text p queueUp).2.Tracked := by
  rcases s.accept_cases text p queueUp with h | ⟨rt, hrt, h⟩
  · rw [h]
    exact hs
  · obtain ⟨hlatest, hknown⟩ := hs.registers (TaskRuntime.registers_enqueue hrt)
    obtain ⟨-, rfl⟩ := TaskRuntime.enqueue_ok hrt
    rw [h]
    exact ⟨hlatest, fun e he hc => hknown _ (hs.known e he hc), hs.waiter, hs.future_lt,
      hs.future_inj, hs.key⟩

lemma Tracked.start (hs : s.Tracked) (i : ℕ) : (s.startAgentTask i).Tracked := by
  rcases s.startAgentTask_cases i with h | h | ⟨p, n, rt, -, -, hrt, h⟩
  · rw [h]
    exact hs
  · rw [h]
    exact ⟨hs.latest, hs.known, hs.waiter, hs.future_lt, hs.future_inj, hs.key⟩
  · have hreg := TaskRuntime.registers_startTask hrt
    obtain ⟨hlatest, hknown⟩ := hs.registers hreg
    obtain ⟨-, rfl, rfl⟩ := TaskRuntime.startTask_ok hrt
    rw [h]
    refine ⟨hlatest, ?_, ?_, hs.future_lt, hs.future_inj, hs.key⟩
    · intro e he hc
      rcases List.mem_cons.1 he with rfl | he
      · rw [hreg.latest_self hc]
        simp
      · exact hknown _ (hs.known e he hc)
    · exact fun w hw => ⟨List.mem_cons_of_mem _ (hs.waiter w hw).1, (hs.waiter w hw).2⟩

/-- What a call of `cancel`, `resume` or `_finish` does to the process. -/
lemma Tracked.actsOn (hs : s.Tracked) {k : String} {rt : TaskRuntime} {running : List Execution}
    (h : TaskRuntime.ActsOn k s.runtime rt) :
    Tracked { s with runtime := rt, running := running } where
  latest c t hc := by
    rw [h.owner]
    exact hs.latest c t (by rw [← h.latest]; exact hc)
  known e he hc := by
    rw [h.latest]
    exact hs.known e he hc
  waiter := hs.waiter
  future_lt w hw := by
    rw [h.nextFuture]
    exact hs.future_lt w hw
  future_inj := hs.future_inj
  key x f hx := hs.key x f (h.interrupts_sub x f hx)

lemma Tracked.requestApproval (hs : s.Tracked) (e : Execution) (summary : String) :
    (s.requestApproval e summary).Tracked := by
  unfold Brain.requestApproval
  split
  · rename_i hcond
    have hsame : TaskRuntime.SameOwners s.runtime (s.runtime.interrupt (threadContext e)
        "database_change_approval" summary).2 := TaskRuntime.sameOwners_interrupt _ _ _
    have hnew : ∀ w ∈ s.waiters, w.future ≠ s.runtime.nextFuture :=
      fun w hw => (hs.future_lt w hw).ne
    refine ⟨?_, hs.known, ?_, ?_, ?_, ?_⟩
    · intro c t hc
      rw [hsame.owner]
      exact hs.latest c t hc
    · intro w hw
      rcases List.mem_cons.1 hw with rfl | hw
      · exact hcond
      · exact hs.waiter w hw
    · intro w hw
      rcases List.mem_cons.1 hw with rfl | hw
      · exact Nat.lt_succ_self _
      · exact Nat.lt_succ_of_lt (hs.future_lt w hw)
    · intro w hw w' hw' hww
      rcases List.mem_cons.1 hw with rfl | hw <;> rcases List.mem_cons.1 hw' with rfl | hw'
      · rfl
      · exact absurd hww.symm (hnew w' hw')
      · exact absurd hww (hnew w hw)
      · exact hs.future_inj w hw w' hw' hww
    · intro k f hk
      by_cases hkc : k = threadContext e
      · subst hkc
        refine ⟨_, List.mem_cons_self, ?_, rfl⟩
        simpa [TaskRuntime.interrupt] using hk
      · obtain ⟨w, hw, hwf⟩ := hs.key k f
          (by simpa [TaskRuntime.interrupt, Function.update_of_ne hkc] using hk)
        exact ⟨w, List.mem_cons_of_mem _ hw, hwf⟩
  · exact hs

theorem Tracked.step (hs : s.Tracked) (a : Action) : (s.step a).Tracked := by
  have hcase := s.stepCase a
  generalize s.step a = s' at hcase ⊢
  cases hcase with
  | refused => exact hs
  | accept h => exact hs.accept _ _ _
  | start i => exact hs.start i
  | complete e o =>
    unfold Brain.complete
    split
    · exact hs.actsOn (k := "") (.of_eq rfl rfl rfl rfl rfl)
    · exact hs
  | finish e =>
    unfold Brain.finish
    split
    · exact hs.actsOn (TaskRuntime.actsOn_finish _ _ _)
    · exact hs
  | requestApproval e summary => exact hs.requestApproval e summary
  | abandon w =>
    unfold Brain.abandon
    split
    · exact ⟨hs.latest, hs.known, hs.waiter, hs.future_lt, hs.future_inj, hs.key⟩
    · exact hs
  | settle h => exact hs.actsOn h.toActsOn

end Brain

end EcommerceAgent.Runtime
