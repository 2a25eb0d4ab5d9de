/-
# The status of a task and its asyncio task

A status is written by id, not by task: a `_finish` that comes late overwrites the status of a
newer run, and an interrupt overwrites that of a run which is over.  Apart from these two, the
status stored under an id follows its latest asyncio task (`status_agrees_iff`).
-/
import EcommerceAgent.Runtime.Calls

open EcommerceAgent.Lib

namespace EcommerceAgent.Runtime

/-- A status that a task may have before it is done. -/
def TaskStatus.isLive : TaskStatus → Bool
  | .queued | .running | .interrupted | .cancelling => true
  | .cancelled | .succeeded | .failed => false

lemma Outcome.status_not_live (o : Outcome) : o.status.isLive = false := by
  cases o <;> rfl

namespace Process

/-- Under an id whose latest task is not done stands a live status, and once the latest task is
done and finished, its terminal status stands there until the id is registered anew. -/
structure StatusAgrees (s : Process) : Prop where
  live : ∀ t, s.runtime.isRunning t = true →
    ∃ status, s.runtime.statusOf t = some status ∧ status.isLive = true
  concluded : ∀ t o, s.concluded t = some o → s.runtime.statusOf t = some o.status

/-- The condition on one call: `_finish` comes for the latest task of its id, or for an id whose
latest task is done and has been finished, if at all, with the same status; and no id is
interrupted that is concluded. -/
def StatusStep (s : Process) : Call → Prop
  | .finish t h => (t, h) ∈ s.unfinished → ∀ o, s.runtime.outcomeOf h = some o →
    s.runtime.tasks t ≠ some h → s.runtime.isRunning t = false ∧
      ∀ o', s.concluded t = some o' → o'.status = o.status
  | .interrupt t _ _ => s.concluded t = none
  | _ => True

/-! ### Tasks and states -/

/-- The latest task of an id has a state, and a concluded id has a latest task, which ended with
the outcome that was concluded. -/
structure Stated (s : Process) : Prop where
  task_lt : ∀ t h, s.runtime.tasks t = some h → h < s.runtime.nextTask
  state : ∀ t h, s.runtime.tasks t = some h → s.runtime.states t ≠ none
  done : ∀ t o, s.concluded t = some o →
    ∃ h, s.runtime.tasks t = some h ∧ s.runtime.outcomeOf h = some o

variable {s s' : Process}

lemma stated_init : init.Stated where
  task_lt := by simp [init, TaskRuntime.empty]
  state := by simp [init, TaskRuntime.empty]
  done := by simp [init]

/-- A change that keeps the tasks, removes no state and concludes nothing. -/
lemma Stated.of_same (hs : s.Stated) (h : TaskRuntime.SameTasks s.runtime s'.runtime)
    (hstates : ∀ t, s.runtime.states t ≠ none → s'.runtime.states t ≠ none)
    (hconcluded : ∀ t o, s'.concluded t = some o →
      s.concluded t = some o ∨ ∃ g, s.runtime.tasks t = some g ∧ s.runtime.outcomeOf g = some o) :
    s'.Stated where
  task_lt t g ht := by
    rw [h.tasks] at ht
    rw [h.nextTask]
    exact hs.task_lt t g ht
  state t g ht := by
    rw [h.tasks] at ht
    exact hstates t (hs.state t g ht)
  done t o ho := by
    rw [h.tasks, h.outcomes]
    rcases hconcluded t o ho with hold | hnew
    · exact hs.done t o hold
    · exact hnew

/-- A reopened id is not concluded. -/
lemma concluded_of_reopen {t x : String} {o : Outcome} (h : s.reopen t x = some o) :
    x ≠ t ∧ s.concluded x = some o := by
  unfold reopen at h
  by_cases hx : x = t
  · subst hx
    simp at h
  · exact ⟨hx, by rwa [Function.update_of_ne hx] at h⟩

lemma concluded_of_conclude {t x : String} {h : ℕ} {o : Outcome}
    (hc : s.conclude t h x = some o) : s.concluded x = some o ∨
      (x = t ∧ s.runtime.tasks t = some h ∧ s.runtime.outcomeOf h = some o) := by
  unfold conclude at hc
  split at hc
  · rename_i htask
    by_cases hx : x = t
    · subst hx
      exact .inr ⟨rfl, htask, by simpa using hc⟩
    · exact .inl (by rwa [Function.update_of_ne hx] at hc)
  · exact .inl hc

lemma states_modifyState {rt : TaskRuntime} {k t : String} {f : TaskState → TaskState}
    (h : rt.states t ≠ none) : (rt.modifyState k f).states t ≠ none := by
  by_cases ht : t = k
  · subst ht
    simpa [TaskRuntime.modifyState] using h
  · simpa [TaskRuntime.modifyState, Function.update_of_ne ht] using h

/-- Calls of `cancel`, `resume` and `_finish` remove no state. -/
lemma states_actsOn {rt rt' : TaskRuntime} {k : String} (hact : TaskRuntime.ActsOn k rt rt')
    (hk : rt.states k ≠ none → rt'.states k ≠ none) {t : String} (h : rt.states t ≠ none) :
    rt'.states t ≠ none := by
  by_cases ht : t = k
  · subst ht
    exact hk h
  · rwa [hact.states t ht]

lemma states_of_statusOf {rt : TaskRuntime} {t : String} :
    rt.states t ≠ none ↔ rt.statusOf t ≠ none := by
  simp [TaskRuntime.statusOf]

lemma Stated.start (hs : s.Stated) {t query : String} {metadata : Metadata} {h : ℕ}
    {rt : TaskRuntime} (hrt : s.runtime.startTask t query metadata = .ok (h, rt))
    {unfinished : List (String × ℕ)} :
    Stated { s with runtime := rt, unfinished := unfinished, concluded := s.reopen t } := by
  obtain ⟨-, rfl, rfl⟩ := TaskRuntime.startTask_ok hrt
  have hcase : ∀ {x g}, Function.update s.runtime.tasks t (some s.runtime.nextTask) x = some g →
      (x = t ∧ g = s.runtime.nextTask) ∨ (x ≠ t ∧ s.runtime.tasks x = some g) := by
    intro x g hx
    by_cases hxt : x = t
    · subst hxt
      exact .inl ⟨rfl, by simpa using hx.symm⟩
    · exact .inr ⟨hxt, by rwa [Function.update_of_ne hxt] at hx⟩
  constructor
  · intro x g hx
    rcases hcase hx with ⟨-, rfl⟩ | ⟨-, hx⟩
    · exact Nat.lt_succ_self _
    · exact Nat.lt_succ_of_lt (hs.task_lt x g hx)
  · intro x g hx
    rcases hcase hx with ⟨rfl, -⟩ | ⟨hne, hx⟩
    · simp
    · simpa [Function.update_of_ne hne] using hs.state x g hx
  · intro x o ho
    obtain ⟨hne, ho⟩ := concluded_of_reopen ho
    obtain ⟨g, hg, hdone⟩ := hs.done x o ho
    refine ⟨g, by simpa [Function.update_of_ne hne] using hg, ?_⟩
    have hlt := (hs.task_lt x g hg).ne
    simpa [TaskRuntime.outcomeOf, Function.update_of_ne hlt] using hdone

lemma Stated.complete (hs : s.Stated) (h : ℕ) (o : Outcome) :
    (s.step (.complete h o)).Stated := by
  simp only [step]
  split
  · rename_i hcond
    refine ⟨hs.task_lt, hs.state, fun t o' ho' => ?_⟩
    obtain ⟨g, hg, hdone⟩ := hs.done t o' ho'
    have hgh : g ≠ h := by
      rintro rfl
      cases hdone.symm.trans hcond.2.1
    exact ⟨g, hg, by simpa [TaskRuntime.outcomeOf, Function.update_of_ne hgh] using hdone⟩
  · exact hs

lemma Stated.step (hs : s.Stated) (c : Call) : (s.step c).Stated := by
  have hkeep : ∀ {rt' : TaskRuntime}, TaskRuntime.SameTasks s.runtime rt' →
      (∀ t, s.runtime.states t ≠ none → rt'.states t ≠ none) →
      Stated { s with runtime := rt' } :=
    fun h hstates => hs.of_same h hstates fun _ _ ho => .inl ho
  cases c with
  | enqueue t query metadata =>
    simp only [Process.step]
    split
    · rename_i rt hrt
      obtain ⟨-, rfl⟩ := TaskRuntime.enqueue_ok hrt
      refine hs.of_same ⟨rfl, rfl, rfl⟩ (fun x hx => ?_)
        fun x o ho => .inl (concluded_of_reopen ho).2
      by_cases hxt : x = t
      · subst hxt
        simp
      · simpa [Function.update_of_ne hxt] using hx
    · exact hs
  | start t query metadata =>
    simp only [Process.step]
    split
    · rename_i h rt hrt
      exact hs.start hrt
    · exact hs
  | complete h o => exact hs.complete h o
  | finish t h =>
    simp only [Process.step]
    split
    · refine hs.of_same (TaskRuntime.sameTasks_finish _ t h) (fun x hx => ?_) fun x o ho => ?_
      · unfold TaskRuntime.finish
        split
        · exact states_modifyState hx
        · exact hx
      · rcases concluded_of_conclude ho with hold | ⟨rfl, htask, hdone⟩
        · exact .inl hold
        · exact .inr ⟨h, htask, hdone⟩
    · exact hs
  | cancel k =>
    refine hkeep (TaskRuntime.sameTasks_cancel _ k) fun t ht => ?_
    refine states_actsOn (TaskRuntime.settles_cancel _ k).toActsOn (fun hk => ?_) ht
    rw [states_of_statusOf] at hk ⊢
    rcases s.runtime.statusOf_cancel k with ⟨-, h⟩ | ⟨-, -, h⟩ | ⟨-, -, h⟩ <;> rw [h]
    · simpa [TaskRuntime.statusOf] using hk
    · exact Option.some_ne_none _
    · exact hk
  | interrupt k reason summary =>
    refine hs.of_same ⟨rfl, rfl, rfl⟩ (fun t ht => ?_) fun _ _ ho => .inl ho
    by_cases htk : t = k
    · subst htk
      simp [Process.step, TaskRuntime.interrupt]
    · simpa [Process.step, TaskRuntime.interrupt, Function.update_of_ne htk] using ht
  | resume k decision instruction =>
    simp only [Process.step]
    split
    · rename_i done rt hrt
      refine hkeep (TaskRuntime.sameTasks_resume hrt) fun t ht => ?_
      refine states_actsOn (TaskRuntime.settles_resume hrt).toActsOn (fun hk => ?_) ht
      rw [states_of_statusOf] at hk ⊢
      rcases TaskRuntime.statusOf_resume hrt with h | ⟨-, h | h⟩ <;> rw [h]
      · exact hk
      · exact Option.some_ne_none _
      · exact Option.some_ne_none _
    · exact hs
  | abandon w =>
    simp only [Process.step]
    split
    · exact hs.of_same ⟨rfl, rfl, rfl⟩ (fun _ h => h) fun _ _ ho => .inl ho
    · exact hs

/-! ### One call -/

lemma agrees_init : init.StatusAgrees where
  live := by simp [init, TaskRuntime.empty, TaskRuntime.isRunning]
  concluded := by simp [init]

/-- A call that acts on one id, where the status still agrees afterwards. -/
lemma StatusAgrees.of_acts (hs : s.StatusAgrees) (k : String)
    (hrun : ∀ t, t ≠ k → s'.runtime.isRunning t = s.runtime.isRunning t)
    (hstatus : ∀ t, t ≠ k → s'.runtime.statusOf t = s.runtime.statusOf t)
    (hconcluded : ∀ t, t ≠ k → s'.concluded t = s.concluded t)
    (hlive : s'.runtime.isRunning k = true →
      ∃ status, s'.runtime.statusOf k = some status ∧ status.isLive = true)
    (hover : ∀ o, s'.concluded k = some o → s'.runtime.statusOf k = some o.status) :
    s'.StatusAgrees where
  live t ht := by
    by_cases hk : t = k
    · subst hk
      exact hlive ht
    · rw [hstatus t hk]
      exact hs.live t ((hrun t hk).symm.trans ht)
  concluded t o ho := by
    by_cases hk : t = k
    · subst hk
      exact hover o ho
    · rw [hstatus t hk]
      exact hs.concluded t o ((hconcluded t hk).symm.trans ho)

/-- A concluded id is not running. -/
lemma Stated.not_running (hs : s.Stated) {t : String} {o : Outcome}
    (ho : s.concluded t = some o) : s.runtime.isRunning t = false := by
  obtain ⟨h, hh, hdone⟩ := hs.done t o ho
  by_contra hrun
  obtain ⟨g, hg, hnone⟩ := TaskRuntime.isRunning_iff.1 (by simpa using hrun)
  cases hh.symm.trans hg
  cases hdone.symm.trans hnone

lemma StatusAgrees.enqueue (hs : s.StatusAgrees) {t query : String} {metadata : Metadata}
    {rt : TaskRuntime} (hrt : s.runtime.enqueue t query metadata = .ok rt) :
    StatusAgrees { s with runtime := rt, concluded := s.reopen t } := by
  obtain ⟨hrun, rfl⟩ := TaskRuntime.enqueue_ok hrt
  refine hs.of_acts t (fun _ _ => rfl) (fun x hx => ?_) (fun x hx => ?_) (fun h => ?_)
    fun o ho => ?_
  · exact TaskRuntime.statusOf_of_states (Function.update_of_ne hx ..)
  · exact Function.update_of_ne hx ..
  · cases hrun.symm.trans h
  · exact absurd rfl (concluded_of_reopen ho).1

lemma StatusAgrees.start (hs : s.StatusAgrees) (hstated : s.Stated) {t query : String}
    {metadata : Metadata} {h : ℕ} {rt : TaskRuntime}
    (hrt : s.runtime.startTask t query metadata = .ok (h, rt)) {unfinished : List (String × ℕ)} :
    StatusAgrees { s with runtime := rt, unfinished := unfinished, concluded := s.reopen t } := by
  obtain ⟨-, rfl, rfl⟩ := TaskRuntime.startTask_ok hrt
  refine hs.of_acts t (fun x hx => ?_) (fun x hx => ?_) (fun x hx => ?_) (fun _ => ?_)
    fun o ho => ?_
  · -- the other tasks are older than the new one
    simp only [TaskRuntime.isRunning, Function.update_of_ne hx]
    cases hg : s.runtime.tasks x with
    | none => rfl
    | some g => simp [Function.update_of_ne (hstated.task_lt x g hg).ne]
  · exact TaskRuntime.statusOf_of_states (Function.update_of_ne hx ..)
  · exact Function.update_of_ne hx ..
  · exact ⟨.running, by simp [TaskRuntime.statusOf, TaskRuntime.startedState], rfl⟩
  · exact absurd rfl (concluded_of_reopen ho).1

lemma StatusAgrees.complete (hs : s.StatusAgrees) (h : ℕ) (o : Outcome) :
    (s.step (.complete h o)).StatusAgrees := by
  simp only [step]
  split
  · refine ⟨fun t ht => hs.live t ?_, hs.concluded⟩
    obtain ⟨g, hg, hnone⟩ := TaskRuntime.isRunning_iff.1 ht
    refine TaskRuntime.isRunning_iff.2 ⟨g, hg, ?_⟩
    by_cases hgh : g = h
    · subst hgh
      simp [TaskRuntime.outcomeOf] at hnone
    · simpa [TaskRuntime.outcomeOf, Function.update_of_ne hgh] using hnone
  · exact hs

lemma StatusAgrees.finish (hs : s.StatusAgrees) (hstated : s.Stated) {t : String} {h : ℕ}
    (hcond : s.StatusStep (.finish t h)) : (s.step (.finish t h)).StatusAgrees := by
  simp only [step]
  split
  · rename_i hdone
    obtain ⟨o, ho⟩ := Option.ne_none_iff_exists'.1 hdone.2
    have hact := s.runtime.actsOn_finish t h
    have hsame := s.runtime.sameTasks_finish t h
    refine hs.of_acts t (fun x _ => hsame.isRunning x)
      (fun x hx => TaskRuntime.statusOf_of_states (hact.states x hx)) (fun x hx => ?_)
      (fun hrun => ?_) fun o' ho' => ?_
    · unfold conclude
      split
      · exact Function.update_of_ne hx ..
      · rfl
    · -- a running id has a newer task than the finished one
      rw [hsame.isRunning] at hrun
      have hne : s.runtime.tasks t ≠ some h := by
        intro htask
        obtain ⟨g, hg, hnone⟩ := TaskRuntime.isRunning_iff.1 hrun
        cases htask.symm.trans hg
        cases ho.symm.trans hnone
      cases (hcond hdone.1 o ho hne).1.symm.trans hrun
    · have hstate : s.runtime.states t ≠ none := by
        rcases concluded_of_conclude ho' with hold | ⟨-, htask, -⟩
        · obtain ⟨g, hg, -⟩ := hstated.done t o' hold
          exact hstated.state t g hg
        · exact hstated.state t h htask
      obtain ⟨state, hstate⟩ := Option.ne_none_iff_exists'.1 hstate
      have hsame : o'.status = o.status := by
        rcases concluded_of_conclude ho' with hold | ⟨-, -, hdone'⟩
        · by_cases htask : s.runtime.tasks t = some h
          · obtain ⟨g, hg, hdone'⟩ := hstated.done t o' hold
            cases htask.symm.trans hg
            cases ho.symm.trans hdone'
            rfl
          · exact (hcond hdone.1 o ho htask).2 o' hold
        · cases ho.symm.trans hdone'
          rfl
      rw [hsame]
      exact (TaskRuntime.statusOf_finish ho).trans (by rw [hstate]; rfl)
  · exact hs

lemma StatusAgrees.cancel (hs : s.StatusAgrees) (k : String) :
    (s.step (.cancel k)).StatusAgrees := by
  have hact := (s.runtime.settles_cancel k).toActsOn
  have hsame := s.runtime.sameTasks_cancel k
  refine hs.of_acts k (fun x _ => hsame.isRunning x)
    (fun x hx => TaskRuntime.statusOf_of_states (hact.states x hx)) (fun _ _ => rfl)
    (fun hrun => ?_) fun o ho => ?_
  · rw [show (s.step (.cancel k)).runtime.isRunning k = s.runtime.isRunning k from
      hsame.isRunning k] at hrun
    obtain ⟨status, hstatus, hlive⟩ := hs.live k hrun
    obtain ⟨state, hstate, -⟩ := Option.map_eq_some_iff.1 hstatus
    rcases s.runtime.statusOf_cancel k with ⟨-, h⟩ | ⟨hno, -, -⟩ | ⟨-, hno, -⟩
    · exact ⟨.cancelling, h.trans (by rw [hstate]; rfl), rfl⟩
    · cases hno.symm.trans hrun
    · cases hno.symm.trans hrun
  · have hstatus := hs.concluded k o ho
    have hover := o.status_not_live
    rcases s.runtime.statusOf_cancel k with ⟨hrun, -⟩ | ⟨-, hqueued, -⟩ | ⟨-, -, h⟩
    · obtain ⟨status, hlive, hyes⟩ := hs.live k hrun
      cases hstatus.symm.trans hlive
      cases hover.symm.trans hyes
    · rw [← Option.some.inj (hqueued.symm.trans hstatus)] at hover
      cases hover
    · exact h.trans hstatus

lemma StatusAgrees.interrupt (hs : s.StatusAgrees) {k : String} (reason summary : String)
    (hopen : s.concluded k = none) : (s.step (.interrupt k reason summary)).StatusAgrees := by
  refine hs.of_acts k (fun _ _ => rfl) (fun x hx => ?_) (fun _ _ => rfl) (fun _ => ?_)
    fun o ho => ?_
  · exact TaskRuntime.statusOf_of_states (Function.update_of_ne hx ..)
  · exact ⟨.interrupted, TaskRuntime.statusOf_interrupt _ k reason summary, rfl⟩
  · cases hopen.symm.trans ho

lemma StatusAgrees.resume (hs : s.StatusAgrees) {k decision instruction : String} {done : Bool}
    {rt : TaskRuntime} (hrt : s.runtime.resume k decision instruction = .ok (done, rt)) :
    StatusAgrees { s with runtime := rt } := by
  have hact := (TaskRuntime.settles_resume hrt).toActsOn
  have hsame := TaskRuntime.sameTasks_resume hrt
  refine hs.of_acts k (fun x _ => hsame.isRunning x)
    (fun x hx => TaskRuntime.statusOf_of_states (hact.states x hx)) (fun _ _ => rfl)
    (fun hrun => ?_) fun o ho => ?_
  · rcases TaskRuntime.statusOf_resume hrt with h | ⟨-, h | h⟩
    · obtain ⟨status, hstatus, hlive⟩ := hs.live k ((hsame.isRunning k).symm.trans hrun)
      exact ⟨status, h.trans hstatus, hlive⟩
    · exact ⟨.running, h, rfl⟩
    · exact ⟨.cancelling, h, rfl⟩
  · have hstatus := hs.concluded k o ho
    rcases TaskRuntime.statusOf_resume hrt with h | ⟨hinterrupted, -⟩
    · exact h.trans hstatus
    · have hover := o.status_not_live
      rw [← Option.some.inj (hinterrupted.symm.trans hstatus)] at hover
      cases hover

/-- Every call that meets the condition keeps the statuses in agreement. -/
lemma StatusAgrees.step (hs : s.StatusAgrees) (hstated : s.Stated) {c : Call}
    (hc : s.StatusStep c) : (s.step c).StatusAgrees := by
  cases c with
  | enqueue t query metadata =>
    simp only [Process.step]
    split
    · rename_i hrt
      exact hs.enqueue hrt
    · exact hs
  | start t query metadata =>
    simp only [Process.step]
    split
    · rename_i hrt
      exact hs.start hstated hrt
    · exact hs
  | complete h o => exact hs.complete h o
  | finish t h => exact hs.finish hstated hc
  | cancel k => exact hs.cancel k
  | interrupt k reason summary => exact hs.interrupt reason summary hc
  | resume k decision instruction =>
    simp only [Process.step]
    split
    · rename_i hrt
      exact hs.resume hrt
    · exact hs
  | abandon w =>
    simp only [Process.step]
    split
    · exact ⟨hs.live, hs.concluded⟩
    · exact hs

/-! ### The condition is exact -/

/-- A late `_finish` writes a terminal status under an id that is running or concluded with another
status, and an interrupt replaces the status of a concluded id. -/
lemma not_agrees_of_violation (hstated : s.Stated) {c : Call}
    (hc : ¬ s.StatusStep c) : ¬ (s.step c).StatusAgrees := by
  intro hagrees
  cases c with
  | finish t h =>
    simp only [StatusStep, not_forall] at hc
    obtain ⟨hmem, o, ho, htask, hbad⟩ := hc
    have hdone : s.runtime.outcomeOf h ≠ none := by simp [ho]
    simp only [Process.step, hmem, hdone, ne_eq, not_false_eq_true, and_self, if_true] at hagrees
    have hsame := s.runtime.sameTasks_finish t h
    have hconclude : s.conclude t h = s.concluded := if_neg htask
    have hstatus : ∀ g, s.runtime.tasks t = some g →
        (s.runtime.finish t h).statusOf t = some o.status := by
      intro g hg
      obtain ⟨state, hstate⟩ := Option.ne_none_iff_exists'.1 (hstated.state t g hg)
      exact (TaskRuntime.statusOf_finish ho).trans (by rw [hstate]; rfl)
    by_cases hrun : s.runtime.isRunning t = true
    · obtain ⟨g, hg, -⟩ := TaskRuntime.isRunning_iff.1 hrun
      obtain ⟨status, hlive, hyes⟩ := hagrees.live t ((hsame.isRunning t).trans hrun)
      cases (hstatus g hg).symm.trans hlive
      cases o.status_not_live.symm.trans hyes
    · refine hbad ⟨by simpa using hrun, fun o' ho' => ?_⟩
      obtain ⟨g, hg, -⟩ := hstated.done t o' ho'
      have hkept := hagrees.concluded t o' ((congrFun hconclude t).trans ho')
      exact Option.some.inj (hkept.symm.trans (hstatus g hg))
  | interrupt k reason summary =>
    obtain ⟨o, ho⟩ := Option.ne_none_iff_exists'.1 hc
    have hover := o.status_not_live
    have hkept := hagrees.concluded k o ho
    have hnow := s.runtime.statusOf_interrupt k reason summary
    rw [← Option.some.inj (hnow.symm.trans hkept)] at hover
    cases hover
  | enqueue | start | complete | cancel | resume | abandon => exact hc trivial

/-- In a run of the task runtime the statuses always agree with the asyncio tasks if and only if
every call meets the condition. -/
theorem status_agrees_iff (cs : List Call) :
    (∀ ds, ds <+: cs → (run step init ds).StatusAgrees) ↔ Along step StatusStep init cs := by
  refine always_iff_along (J := Stated) (fun _ c hstated => hstated.step c)
    (fun s c hstated hs => ⟨fun hnext => ?_, fun hc => hs.step hstated hc⟩) stated_init
    agrees_init cs
  by_contra hc
  exact not_agrees_of_violation hstated hc hnext

/-- The task `t` is done, and it is started once more before `_finish` of the first run. -/
def lateFinish : List Call :=
  let metadata : Metadata := ⟨"c", ⟨"tenant_a", "alice", "shop_a"⟩⟩
  [.start "t" "sales" metadata, .complete 0 (.returned "done"), .start "t" "stock" metadata,
    .finish "t" 0]

/-- The second run is marked as succeeded while it is running. -/
theorem live_task_succeeded : ¬ (run step init lateFinish).StatusAgrees := by
  intro h
  obtain ⟨status, hstatus, hlive⟩ := h.live "t" (by decide)
  have hsucceeded : (run step init lateFinish).runtime.statusOf "t" = some .succeeded := by decide
  cases hsucceeded.symm.trans hstatus
  cases hlive

end Process

end EcommerceAgent.Runtime
