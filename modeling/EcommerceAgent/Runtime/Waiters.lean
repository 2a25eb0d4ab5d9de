/-
# Coroutines that wait for a decision

`interrupt` keeps one future per key and one status per id.  A second coroutine under the same key
replaces the future of the first one, and a registration or a late `_finish` of the id rewrites the
status that `resume` asks for.  No waiter is lost along a run exactly if none of these happens to
the key of a blocked coroutine (`no_waiter_lost_iff`).
-/
import EcommerceAgent.Runtime.Calls
import Mathlib.Data.List.Nodup

open EcommerceAgent.Lib

namespace EcommerceAgent.Runtime

namespace Process

/-- The runtime `rt` has answered the coroutine `w`, and no other one that was blocked in `s`. -/
structure Answers (s : Process) (rt : TaskRuntime) (w : Suspension) (verdict : Verdict) : Prop where
  answered : rt.future w.future = .resolved verdict
  others : ∀ v, s.Blocked v → v ≠ w → rt.future v.future = .pending

/-- Every blocked coroutine has its own registered future and an interrupted state, any `resume` or
`cancel` of its key answers exactly this coroutine, and a `resume` answers exactly one. -/
structure NoWaiterLost (s : Process) : Prop where
  registered : ∀ w, s.Blocked w → s.runtime.interruptFutures w.key = some w.future
  interrupted : ∀ w, s.Blocked w → s.runtime.statusOf w.key = some .interrupted
  own : (s.suspended.map Suspension.future).Nodup
  resumed : ∀ w, s.Blocked w → ∀ decision d instruction, Decision.parse decision = some d →
    ∃ rt, s.runtime.resume w.key decision instruction = .ok (true, rt) ∧
      s.Answers rt w ⟨d, instruction⟩
  cancelled : ∀ w, s.Blocked w →
    s.Answers (s.runtime.cancel w.key).2 w TaskRuntime.cancelVerdict
  single : ∀ k decision instruction rt,
    s.runtime.resume k decision instruction = .ok (true, rt) →
    ∃ w, s.Blocked w ∧ w.key = k ∧ ∀ v, s.Blocked v → (rt.future v.future ≠ .pending ↔ v = w)

/-- The condition on one call: no coroutine is blocked under the id that is interrupted once more,
registered anew, or finished. -/
def WaiterStep (s : Process) : Call → Prop
  | .enqueue threadId _ _ | .start threadId _ _ =>
    s.runtime.isRunning threadId = false → ∀ w, s.Blocked w → w.key ≠ threadId
  | .finish threadId h => (threadId, h) ∈ s.unfinished → s.runtime.outcomeOf h ≠ none →
    ∀ w, s.Blocked w → w.key ≠ threadId
  | .interrupt threadId _ _ => ∀ w, s.Blocked w → w.key ≠ threadId
  | _ => True

/-! ### Futures -/

/-- Futures are numbered in order, no two coroutines share one, and a registered future belongs to
a coroutine that called `interrupt` with its key. -/
structure Numbered (s : Process) : Prop where
  future_lt : ∀ w ∈ s.suspended, w.future < s.runtime.nextFuture
  own : (s.suspended.map Suspension.future).Nodup
  key : ∀ k f, s.runtime.interruptFutures k = some f → ⟨k, f⟩ ∈ s.suspended

variable {s : Process}

lemma Numbered.eq_of_future (hs : s.Numbered) {v w : Suspension} (hv : v ∈ s.suspended)
    (hw : w ∈ s.suspended) (h : v.future = w.future) : v = w :=
  List.inj_on_of_nodup_map hs.own hv hw h

lemma numbered_init : init.Numbered where
  future_lt := by simp [init]
  own := by simp [init]
  key := by simp [init, TaskRuntime.empty]

/-- A change of the runtime that registers no future. -/
lemma Numbered.of_sub (hs : s.Numbered) {s' : Process} (hsuspended : s'.suspended = s.suspended)
    (hnext : s'.runtime.nextFuture = s.runtime.nextFuture)
    (hsub : ∀ k f, s'.runtime.interruptFutures k = some f →
      s.runtime.interruptFutures k = some f) : s'.Numbered where
  future_lt := by
    rw [hsuspended, hnext]
    exact hs.future_lt
  own := by
    rw [hsuspended]
    exact hs.own
  key k f hf := by
    rw [hsuspended]
    exact hs.key k f (hsub k f hf)

lemma Numbered.interrupt (hs : s.Numbered) (k reason summary : String) :
    (s.step (.interrupt k reason summary)).Numbered where
  future_lt w hw := by
    rcases List.mem_cons.1 hw with rfl | hw
    · exact Nat.lt_succ_self _
    · exact Nat.lt_succ_of_lt (hs.future_lt w hw)
  own := by
    refine List.nodup_cons.2 ⟨fun hmem => ?_, hs.own⟩
    obtain ⟨w, hw, hfuture⟩ := List.mem_map.1 hmem
    exact absurd hfuture (hs.future_lt w hw).ne
  key k' f hf := by
    by_cases hk : k' = k
    · subst hk
      have hf : s.runtime.nextFuture = f := by simpa [step, TaskRuntime.interrupt] using hf
      rw [← hf]
      exact List.mem_cons_self
    · refine List.mem_cons_of_mem _ (hs.key k' f ?_)
      simpa [step, TaskRuntime.interrupt, Function.update_of_ne hk] using hf

/-- What a call other than `interrupt` does to the futures. -/
lemma Numbered.step (hs : s.Numbered) (c : Call) : (s.step c).Numbered := by
  cases c with
  | enqueue t query metadata =>
    simp only [Process.step]
    split
    · rename_i rt hrt
      obtain ⟨-, rfl⟩ := TaskRuntime.enqueue_ok hrt
      exact hs.of_sub rfl rfl fun _ _ h => h
    · exact hs
  | start t query metadata =>
    simp only [Process.step]
    split
    · rename_i h rt hrt
      obtain ⟨-, -, rfl⟩ := TaskRuntime.startTask_ok hrt
      exact hs.of_sub rfl rfl fun _ _ h => h
    · exact hs
  | complete h o =>
    simp only [Process.step]
    split
    · exact hs.of_sub rfl rfl fun _ _ h => h
    · exact hs
  | finish t h =>
    simp only [Process.step]
    split
    · have hact := s.runtime.actsOn_finish t h
      exact hs.of_sub rfl hact.nextFuture hact.interrupts_sub
    · exact hs
  | cancel k =>
    have hact := s.runtime.settles_cancel k
    exact hs.of_sub rfl hact.nextFuture hact.interrupts_sub
  | interrupt k reason summary => exact hs.interrupt k reason summary
  | resume k decision instruction =>
    simp only [Process.step]
    split
    · rename_i hrt
      have hact := TaskRuntime.settles_resume hrt
      exact hs.of_sub rfl hact.nextFuture hact.interrupts_sub
    · exact hs
  | abandon w =>
    simp only [Process.step]
    split
    · exact hs.of_sub rfl rfl fun _ _ h => h
    · exact hs

/-! ### What one call does to the waiters -/

/-- Every blocked coroutine is registered and interrupted. -/
structure Held (s : Process) : Prop where
  registered : ∀ w, s.Blocked w → s.runtime.interruptFutures w.key = some w.future
  interrupted : ∀ w, s.Blocked w → s.runtime.statusOf w.key = some .interrupted

lemma held_init : init.Held where
  registered := by simp [Blocked, init]
  interrupted := by simp [Blocked, init]

/-- The blocked coroutines of `s'` were blocked in `s`, and neither their slot nor their status has
changed. -/
lemma Held.congr (hs : s.Held) {s' : Process} (hold : ∀ w, s'.Blocked w → s.Blocked w)
    (hslot : ∀ w, s'.Blocked w →
      s'.runtime.interruptFutures w.key = s.runtime.interruptFutures w.key)
    (hstatus : ∀ w, s'.Blocked w → s'.runtime.statusOf w.key = s.runtime.statusOf w.key) :
    s'.Held where
  registered w hw := (hslot w hw).trans (hs.registered w (hold w hw))
  interrupted w hw := (hstatus w hw).trans (hs.interrupted w (hold w hw))

/-- A registration of an id under which nobody is blocked. -/
lemma Held.register (hs : s.Held) {t : String} {state : TaskState} {s' : Process}
    (hfree : ∀ w, s.Blocked w → w.key ≠ t) (hsuspended : s'.suspended = s.suspended)
    (hfuture : s'.runtime.future = s.runtime.future)
    (hslots : s'.runtime.interruptFutures = s.runtime.interruptFutures)
    (hstates : s'.runtime.states = Function.update s.runtime.states t (some state)) :
    s'.Held := by
  have hold : ∀ w, s'.Blocked w → s.Blocked w := by
    intro w hw
    unfold Blocked at hw
    rwa [hsuspended, hfuture] at hw
  refine hs.congr hold (fun w _ => by rw [hslots]) fun w hw => ?_
  refine TaskRuntime.statusOf_of_states ?_
  rw [hstates, Function.update_of_ne (hfree w (hold w hw))]

/-- `cancel` and `resume` answer the coroutine that is blocked under their id. -/
lemma Held.settle (hs : s.Held) {k : String} {rt : TaskRuntime}
    (h : TaskRuntime.Settles k s.runtime rt) : Held { s with runtime := rt } := by
  have hold : ∀ w, Blocked { s with runtime := rt } w → s.Blocked w :=
    fun w hw => ⟨hw.1, h.pending _ hw.2⟩
  have hkey : ∀ w, Blocked { s with runtime := rt } w → w.key ≠ k := by
    rintro w hw rfl
    obtain ⟨state, hstate, hstatus⟩ :=
      Option.map_eq_some_iff.1 (hs.interrupted w (hold w hw))
    exact h.answered _ state (hs.registered w (hold w hw)) hstate hstatus hw.2
  exact hs.congr hold (fun w hw => h.interrupts _ (hkey w hw))
    fun w hw => TaskRuntime.statusOf_of_states (h.states _ (hkey w hw))

lemma Held.interrupt (hs : s.Held) (hnum : s.Numbered) {k : String} (reason summary : String)
    (hfree : ∀ w, s.Blocked w → w.key ≠ k) : (s.step (.interrupt k reason summary)).Held := by
  have hcase : ∀ w, (s.step (.interrupt k reason summary)).Blocked w →
      w = ⟨k, s.runtime.nextFuture⟩ ∨ s.Blocked w := by
    rintro w ⟨hw, hpending⟩
    rcases List.mem_cons.1 hw with rfl | hw
    · exact .inl rfl
    · refine .inr ⟨hw, ?_⟩
      rwa [← Function.update_of_ne (hnum.future_lt w hw).ne FutureState.pending s.runtime.future]
  constructor
  · intro w hw
    rcases hcase w hw with rfl | hw
    · exact Function.update_self ..
    · exact (Function.update_of_ne (hfree w hw) ..).trans (hs.registered w hw)
  · intro w hw
    rcases hcase w hw with rfl | hw
    · exact TaskRuntime.statusOf_interrupt _ _ _ _
    · refine (TaskRuntime.statusOf_of_states ?_).trans (hs.interrupted w hw)
      exact Function.update_of_ne (hfree w hw) ..

/-- Every call that meets the condition keeps the blocked coroutines registered and interrupted. -/
lemma Held.step (hs : s.Held) (hnum : s.Numbered) {c : Call} (hc : s.WaiterStep c) :
    (s.step c).Held := by
  cases c with
  | enqueue t query metadata =>
    simp only [Process.step]
    split
    · rename_i rt hrt
      obtain ⟨hrun, rfl⟩ := TaskRuntime.enqueue_ok hrt
      exact hs.register (hc hrun) rfl rfl rfl rfl
    · exact hs
  | start t query metadata =>
    simp only [Process.step]
    split
    · rename_i h rt hrt
      obtain ⟨hrun, -, rfl⟩ := TaskRuntime.startTask_ok hrt
      exact hs.register (hc hrun) rfl rfl rfl rfl
    · exact hs
  | complete h o =>
    simp only [Process.step]
    split
    · exact ⟨hs.registered, hs.interrupted⟩
    · exact hs
  | finish t h =>
    simp only [Process.step]
    split
    · rename_i hdone
      have hact := s.runtime.actsOn_finish t h
      have hfree := hc hdone.1 hdone.2
      refine hs.congr (fun w hw => ⟨hw.1, hact.pending _ hw.2⟩) (fun w hw => ?_) fun w hw => ?_
      · exact hact.interrupts _ (hfree w ⟨hw.1, hact.pending _ hw.2⟩)
      · exact TaskRuntime.statusOf_of_states
          (hact.states _ (hfree w ⟨hw.1, hact.pending _ hw.2⟩))
    · exact hs
  | cancel k => exact hs.settle (TaskRuntime.settles_cancel _ k)
  | interrupt k reason summary => exact hs.interrupt hnum reason summary hc
  | resume k decision instruction =>
    simp only [Process.step]
    split
    · rename_i hrt
      exact hs.settle (TaskRuntime.settles_resume hrt)
    · exact hs
  | abandon w =>
    simp only [Process.step]
    split
    · have hold : ∀ v, Blocked { s with runtime := { s.runtime with
          future := Function.update s.runtime.future w.future .cancelled } } v → s.Blocked v := by
        rintro v ⟨hv, hpending⟩
        dsimp only at hv hpending
        refine ⟨hv, ?_⟩
        by_cases hvw : v.future = w.future
        · simp [hvw] at hpending
        · rwa [Function.update_of_ne hvw] at hpending
      exact hs.congr hold (fun _ _ => rfl) fun _ _ => rfl
    · exact hs

/-! ### Answers -/

/-- Answering the future of a coroutine answers no other one. -/
lemma Numbered.answers (hnum : s.Numbered) {w : Suspension} (hw : s.Blocked w) {rt : TaskRuntime}
    {verdict : Verdict} (hrt : rt.future = (s.runtime.resolveFuture w.future verdict).future) :
    s.Answers rt w verdict where
  answered := by
    rw [hrt]
    exact if_pos ⟨rfl, hw.2⟩
  others v hv hne := by
    have hfuture : v.future ≠ w.future := fun h => hne (hnum.eq_of_future hv.1 hw.1 h)
    rw [hrt]
    exact (if_neg fun h => hfuture h.1).trans hv.2

/-- Registered and interrupted coroutines are not lost. -/
lemma Held.noWaiterLost (hs : s.Held) (hnum : s.Numbered) : s.NoWaiterLost where
  registered := hs.registered
  interrupted := hs.interrupted
  own := hnum.own
  resumed := by
    intro w hw decision d instruction hd
    obtain ⟨state, hstate, hstatus⟩ := Option.map_eq_some_iff.1 (hs.interrupted w hw)
    have hslot := hs.registered w hw
    refine ⟨((s.runtime.popInterrupt w.key).modifyState w.key
      (TaskRuntime.resumedState · ⟨d, instruction⟩)).resolveFuture w.future ⟨d, instruction⟩, ?_,
      hnum.answers hw rfl⟩
    simp [TaskRuntime.resume, hd, hslot, hstate, hw.2, hstatus]
  cancelled := by
    intro w hw
    have hslot := hs.registered w hw
    have habort : (s.runtime.abortInterrupt w.key).future =
        (s.runtime.resolveFuture w.future TaskRuntime.cancelVerdict).future := by
      simp only [TaskRuntime.abortInterrupt, hslot]
      rfl
    refine hnum.answers hw ?_
    rcases s.runtime.cancel_cases w.key with ⟨h, -, -, hc⟩ | ⟨-, -, hc⟩ | ⟨-, -, hc⟩ <;>
      · rw [hc]
        exact habort
  single := by
    intro k decision instruction rt h
    rcases s.runtime.resume_cases k decision instruction with
      ⟨e, he⟩ | ⟨-, he⟩ | ⟨d, f, state, -, hslot, -, hpending, -, he⟩
    · rw [he] at h
      cases h
    · rw [he] at h
      cases h
    · rw [he] at h
      cases h
      have hw : s.Blocked ⟨k, f⟩ := ⟨hnum.key k f hslot, hpending⟩
      have hanswers : s.Answers (((s.runtime.popInterrupt k).modifyState k
          (TaskRuntime.resumedState · ⟨d, instruction⟩)).resolveFuture f ⟨d, instruction⟩)
          ⟨k, f⟩ ⟨d, instruction⟩ := hnum.answers hw rfl
      refine ⟨_, hw, rfl, fun v hv => ⟨fun hne => ?_, ?_⟩⟩
      · by_contra hvw
        exact hne (hanswers.others v hv hvw)
      · rintro rfl
        rw [hanswers.answered]
        nofun

/-! ### The condition is exact -/

/-- A blocked coroutine whose status is rewritten is no longer held. -/
lemma not_held_of_status {w : Suspension} (hw : s.Blocked w)
    (hstatus : s.runtime.statusOf w.key ≠ some .interrupted) : ¬ s.Held :=
  fun h => hstatus (h.interrupted w hw)

/-- A call that violates the condition leaves a blocked coroutine without its slot or its status. -/
lemma not_held_of_violation (hs : s.Held) (hnum : s.Numbered) {c : Call}
    (hc : ¬ s.WaiterStep c) : ¬ (s.step c).Held := by
  cases c with
  | enqueue t query metadata =>
    simp only [WaiterStep, not_forall, not_not] at hc
    obtain ⟨hrun, w, hw, rfl⟩ := hc
    simp only [step, TaskRuntime.enqueue, hrun, Bool.false_eq_true, if_false]
    refine not_held_of_status (w := w) hw ?_
    simp [TaskRuntime.statusOf, TaskRuntime.queuedState]
  | start t query metadata =>
    simp only [WaiterStep, not_forall, not_not] at hc
    obtain ⟨hrun, w, hw, rfl⟩ := hc
    simp only [step, TaskRuntime.startTask, hrun, Bool.false_eq_true, if_false]
    refine not_held_of_status (w := w) hw ?_
    simp [TaskRuntime.statusOf, TaskRuntime.startedState]
  | finish t h =>
    simp only [WaiterStep, not_forall, not_not] at hc
    obtain ⟨hmem, hdone, w, hw, rfl⟩ := hc
    obtain ⟨o, ho⟩ := Option.ne_none_iff_exists'.1 hdone
    obtain ⟨state, hstate, -⟩ := Option.map_eq_some_iff.1 (hs.interrupted w hw)
    simp only [step, hmem, hdone, ne_eq, not_false_eq_true, and_self, if_true]
    refine not_held_of_status (w := w) ⟨hw.1, ?_⟩ ?_
    · exact (congrFun (TaskRuntime.future_finish _ _) _).trans hw.2
    · have hstatus := TaskRuntime.statusOf_finish (k := w.key) ho
      rw [hstate] at hstatus
      rw [hstatus]
      cases o <;> simp [Outcome.status]
  | interrupt k reason summary =>
    simp only [WaiterStep, not_forall, not_not] at hc
    obtain ⟨w, hw, rfl⟩ := hc
    intro hheld
    have hne := (hnum.future_lt w hw.1).ne
    have hblocked : (s.step (.interrupt w.key reason summary)).Blocked w :=
      ⟨List.mem_cons_of_mem _ hw.1, (Function.update_of_ne hne ..).trans hw.2⟩
    have hslot : s.runtime.nextFuture = w.future := by
      simpa [step, TaskRuntime.interrupt] using hheld.registered w hblocked
    exact hne hslot.symm
  | complete | cancel | resume | abandon => exact absurd trivial hc

/-- In a run of the task runtime no waiter is ever lost if and only if every call meets the
condition. -/
theorem no_waiter_lost_iff (cs : List Call) :
    (∀ ds, ds <+: cs → (run step init ds).NoWaiterLost) ↔ Along step WaiterStep init cs := by
  have hheld : ∀ {s : Process}, s.NoWaiterLost → s.Held := fun h => ⟨h.registered, h.interrupted⟩
  refine always_iff_along (J := Numbered) (fun _ c hnum => hnum.step c) (fun s c hnum hs => ?_)
    numbered_init (held_init.noWaiterLost numbered_init) cs
  constructor
  · intro hnext
    by_contra hc
    exact not_held_of_violation (hheld hs) hnum hc (hheld hnext)
  · intro hc
    exact ((hheld hs).step hnum hc).noWaiterLost (hnum.step c)

/-- Two tasks of the conversation `c` ask for an approval, as two chat messages may make them. -/
def twoApprovals : List Call :=
  let metadata : Metadata := ⟨"c", ⟨"tenant_a", "alice", "shop_a"⟩⟩
  [.enqueue "t" "sales" metadata, .start "t" "sales" metadata,
    .enqueue "u" "stock" metadata, .start "u" "stock" metadata,
    .interrupt "c" "database_change_approval" "first",
    .interrupt "c" "database_change_approval" "second"]

/-- The second approval takes the slot of the first one. -/
theorem first_waiter_lost : ¬ (run step init twoApprovals).NoWaiterLost := by
  intro h
  have hslot := h.registered ⟨"c", 0⟩ (by decide)
  revert hslot
  decide

end Process

end EcommerceAgent.Runtime
