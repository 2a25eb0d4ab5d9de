/-
# Who owns what in the task runtime

The resource checks of `TaskRuntime` look at two things only: the owner written into a task
state, and the latest task of a conversation.  This file restates the checks in these terms
and records, for every method, what it does to them: `enqueue` and `_start_task` rewrite one
owner and one latest task (`Registers`), and every other method leaves both alone
(`SameOwners`).  `cancel`, `resume` and `_finish` act on the state and the pending interrupt of
one id only (`ActsOn`, `Settles`).
-/
import EcommerceAgent.Runtime.TaskRuntime

namespace EcommerceAgent.Runtime

/-- The identity a task state was registered for; a state that `interrupt` created has none. -/
def TaskState.owner (state : TaskState) : Option Identity :=
  match state.tenantId, state.userId, state.shopId with
  | some tenantId, some userId, some shopId => some ⟨tenantId, userId, shopId⟩
  | _, _, _ => none

lemma TaskState.matchesIdentity_iff {state : TaskState} {identity : Identity} :
    state.matchesIdentity identity = true ↔ state.owner = some identity := by
  obtain ⟨t, u, sh⟩ := identity
  unfold matchesIdentity owner
  cases ht : state.tenantId <;> cases hu : state.userId <;> cases hs : state.shopId <;>
    simp [and_assoc]

namespace TaskRuntime

variable {rt rt' : TaskRuntime}

/-- The owner of the state stored under a task id. -/
def ownerOf (rt : TaskRuntime) (taskId : String) : Option Identity :=
  (rt.states taskId).bind TaskState.owner

lemma ownerOf_eq_some {taskId : String} {identity : Identity} :
    rt.ownerOf taskId = some identity ↔
      ∃ state, rt.states taskId = some state ∧ state.owner = some identity := by
  simp [ownerOf, Option.bind_eq_some_iff]

lemma ownsConversation_iff {c : String} {identity : Identity} :
    rt.ownsConversation c identity = true ↔ rt.ownerOf (rt.resolveTaskId c) = some identity := by
  unfold ownsConversation ownerOf
  cases rt.states (rt.resolveTaskId c) with
  | none => simp
  | some state => simpa using TaskState.matchesIdentity_iff

lemma getScoped_eq_some {x : String} {identity : Identity} {state : TaskState} :
    rt.getScoped x identity = some state ↔
      rt.states (rt.resolveTaskId x) = some state ∧ state.owner = some identity := by
  simp [getScoped, Option.filter_eq_some_iff, TaskState.matchesIdentity_iff]

lemma getScoped_eq_none {x : String} {identity : Identity} :
    rt.getScoped x identity = none ↔ rt.ownerOf (rt.resolveTaskId x) ≠ some identity := by
  constructor
  · intro h howner
    obtain ⟨state, hstate, how⟩ := ownerOf_eq_some.1 howner
    rw [getScoped_eq_some.2 ⟨hstate, how⟩] at h
    cases h
  · intro h
    rcases hget : rt.getScoped x identity with _ | state
    · rfl
    · obtain ⟨hstate, how⟩ := getScoped_eq_some.1 hget
      exact absurd (ownerOf_eq_some.2 ⟨state, hstate, how⟩) h

/-! ### Methods that leave ownership alone -/

/-- `rt'` has the owners and the latest tasks of `rt`. -/
structure SameOwners (rt rt' : TaskRuntime) : Prop where
  latest : rt'.conversationLatestTask = rt.conversationLatestTask
  owner : rt'.ownerOf = rt.ownerOf

lemma SameOwners.refl (rt : TaskRuntime) : SameOwners rt rt := ⟨rfl, rfl⟩

lemma SameOwners.trans {rt₁ rt₂ rt₃ : TaskRuntime} (h : SameOwners rt₁ rt₂)
    (h' : SameOwners rt₂ rt₃) : SameOwners rt₁ rt₃ :=
  ⟨h'.latest.trans h.latest, h'.owner.trans h.owner⟩

/-- A change of the asyncio objects or of the pending interrupts. -/
lemma SameOwners.of_eq (hs : rt'.states = rt.states)
    (hl : rt'.conversationLatestTask = rt.conversationLatestTask) : SameOwners rt rt' :=
  ⟨hl, by funext t; simp [ownerOf, hs]⟩

/-- A change of entries other than the identity fields. -/
lemma sameOwners_modifyState {threadId : String} {f : TaskState → TaskState}
    (hf : ∀ state, (f state).owner = state.owner) :
    SameOwners rt (rt.modifyState threadId f) := by
  refine ⟨rfl, ?_⟩
  funext t
  by_cases ht : t = threadId
  · subst ht
    cases h : rt.states t with
    | none => simp [ownerOf, modifyState, h]
    | some state => simp [ownerOf, modifyState, h, hf]
  · simp [ownerOf, modifyState, Function.update_of_ne ht]

lemma sameOwners_interrupt (threadId reason summary : String) :
    SameOwners rt (rt.interrupt threadId reason summary).2 := by
  refine ⟨rfl, ?_⟩
  funext t
  by_cases ht : t = threadId
  · subst ht
    cases h : rt.states t with
    | none => simp [ownerOf, interrupt, h, TaskState.owner]
    | some state => simp [ownerOf, interrupt, h, TaskState.owner]
  · simp [ownerOf, interrupt, Function.update_of_ne ht]

/-! ### Methods that act on one task -/

/-- What `cancel`, `resume` and `_finish` have in common: they act on the state and the
interrupt of one id and leave every other id alone. -/
structure ActsOn (k : String) (rt rt' : TaskRuntime) : Prop extends SameOwners rt rt' where
  nextFuture : rt'.nextFuture = rt.nextFuture
  states : ∀ x, x ≠ k → rt'.states x = rt.states x
  interrupts : ∀ x, x ≠ k → rt'.interruptFutures x = rt.interruptFutures x
  interrupts_sub : ∀ x f, rt'.interruptFutures x = some f → rt.interruptFutures x = some f
  pending : ∀ f, rt'.future f = .pending → rt.future f = .pending

/-- A change that leaves the futures and the dictionaries alone. -/
lemma ActsOn.of_eq {k : String} (hs : rt'.states = rt.states)
    (hl : rt'.conversationLatestTask = rt.conversationLatestTask)
    (hi : rt'.interruptFutures = rt.interruptFutures) (hf : rt'.future = rt.future)
    (hn : rt'.nextFuture = rt.nextFuture) : ActsOn k rt rt' where
  toSameOwners := .of_eq hs hl
  nextFuture := hn
  states _ _ := by rw [hs]
  interrupts _ _ := by rw [hi]
  interrupts_sub _ _ h := by rwa [← hi]
  pending _ h := by rwa [← hf]

lemma ActsOn.refl (k : String) (rt : TaskRuntime) : ActsOn k rt rt := .of_eq rfl rfl rfl rfl rfl

lemma ActsOn.trans {k : String} {rt₁ rt₂ rt₃ : TaskRuntime} (h : ActsOn k rt₁ rt₂)
    (h' : ActsOn k rt₂ rt₃) : ActsOn k rt₁ rt₃ where
  toSameOwners := h.toSameOwners.trans h'.toSameOwners
  nextFuture := h'.nextFuture.trans h.nextFuture
  states x hx := (h'.states x hx).trans (h.states x hx)
  interrupts x hx := (h'.interrupts x hx).trans (h.interrupts x hx)
  interrupts_sub x f hf := h.interrupts_sub x f (h'.interrupts_sub x f hf)
  pending f hf := h.pending f (h'.pending f hf)

lemma actsOn_modifyState {k : String} {f : TaskState → TaskState}
    (hf : ∀ state, (f state).owner = state.owner) : ActsOn k rt (rt.modifyState k f) where
  toSameOwners := sameOwners_modifyState hf
  nextFuture := rfl
  states _ hx := by simp [modifyState, Function.update_of_ne hx]
  interrupts _ _ := rfl
  interrupts_sub _ _ h := h
  pending _ h := h

lemma actsOn_popInterrupt (k : String) : ActsOn k rt (rt.popInterrupt k) where
  toSameOwners := .of_eq rfl rfl
  nextFuture := rfl
  states _ _ := rfl
  interrupts _ hx := by simp [popInterrupt, Function.update_of_ne hx]
  interrupts_sub x f h := by
    by_cases hx : x = k
    · subst hx
      simp [popInterrupt] at h
    · simpa [popInterrupt, Function.update_of_ne hx] using h
  pending _ h := h

lemma resolveFuture_pending {f g : ℕ} {verdict : Verdict}
    (h : (rt.resolveFuture f verdict).future g = .pending) : rt.future g = .pending ∧ g ≠ f := by
  simp only [resolveFuture] at h
  split at h
  · cases h
  · rename_i hne
    exact ⟨h, fun hg => hne ⟨hg, h⟩⟩

lemma actsOn_resolveFuture {k : String} {f : ℕ} {verdict : Verdict} :
    ActsOn k rt (rt.resolveFuture f verdict) where
  toSameOwners := .of_eq rfl rfl
  nextFuture := rfl
  states _ _ := rfl
  interrupts _ _ := rfl
  interrupts_sub _ _ h := h
  pending _ h := (resolveFuture_pending h).1

lemma actsOn_finish (rt : TaskRuntime) (k : String) (h : ℕ) : ActsOn k rt (rt.finish k h) := by
  unfold finish
  split
  · rename_i outcome _
    exact actsOn_modifyState fun state => by cases outcome <;> rfl
  · exact .refl k rt

/-- `cancel` and an accepted `resume` moreover clear the slot of their id, and answer its
future if the task waits for it. -/
structure Settles (k : String) (rt rt' : TaskRuntime) : Prop extends ActsOn k rt rt' where
  popped : rt'.interruptFutures k = none
  answered : ∀ f state, rt.interruptFutures k = some f → rt.states k = some state →
    state.status = .interrupted → rt'.future f ≠ .pending

lemma Settles.trans {k : String} {rt₁ rt₂ rt₃ : TaskRuntime} (h : Settles k rt₁ rt₂)
    (h' : ActsOn k rt₂ rt₃) : Settles k rt₁ rt₃ where
  toActsOn := h.toActsOn.trans h'
  popped := by
    rcases hk : rt₃.interruptFutures k with _ | f
    · rfl
    · have := h'.interrupts_sub k f hk
      rw [h.popped] at this
      cases this
  answered f state hf hstate hst hp := h.answered f state hf hstate hst (h'.pending f hp)

lemma settles_abortInterrupt (k : String) : Settles k rt (rt.abortInterrupt k) := by
  unfold abortInterrupt
  cases hk : rt.interruptFutures k with
  | none => exact ⟨.refl k rt, hk, fun f state hf => by rw [hk] at hf; cases hf⟩
  | some f =>
    refine ⟨actsOn_resolveFuture.trans (actsOn_popInterrupt k), by simp [popInterrupt], ?_⟩
    intro g state hg _ _ hp
    rw [hk] at hg
    exact (resolveFuture_pending hp).2 (Option.some.inj hg).symm

lemma settles_cancel (rt : TaskRuntime) (k : String) : Settles k rt (rt.cancel k).2 := by
  have habort : Settles k rt (rt.abortInterrupt k) := settles_abortInterrupt k
  have hmark : ∀ status : TaskStatus, ActsOn k (rt.abortInterrupt k)
      ((rt.abortInterrupt k).modifyState k ({ · with status := status })) :=
    fun _ => actsOn_modifyState fun _ => rfl
  unfold cancel
  split
  · exact (habort.trans (hmark .cancelling)).trans (.of_eq rfl rfl rfl rfl rfl)
  · split
    · exact habort.trans (hmark .cancelled)
    · exact habort

/-- What a call of `resume` can do: it is refused for its decision, it pops the future and
returns false, or it answers the pending future of an interrupted task. -/
lemma resume_cases (rt : TaskRuntime) (threadId decision instruction : String) :
    (∃ e, rt.resume threadId decision instruction = .error e) ∨
    ((∀ f state, rt.interruptFutures threadId = some f → rt.states threadId = some state →
        state.status = .interrupted → rt.future f ≠ .pending) ∧
      rt.resume threadId decision instruction = .ok (false, rt.popInterrupt threadId)) ∨
    (∃ d f state, Decision.parse decision = some d ∧ rt.interruptFutures threadId = some f ∧
      rt.states threadId = some state ∧ rt.future f = .pending ∧ state.status = .interrupted ∧
      rt.resume threadId decision instruction =
        .ok (true, ((rt.popInterrupt threadId).modifyState threadId
          (resumedState · ⟨d, instruction⟩)).resolveFuture f ⟨d, instruction⟩)) := by
  unfold resume
  cases hd : Decision.parse decision with
  | none => exact .inl ⟨_, rfl⟩
  | some d =>
    cases hf : rt.interruptFutures threadId with
    | none => exact .inr (.inl ⟨by simp, rfl⟩)
    | some f =>
      cases hs : rt.states threadId with
      | none => exact .inr (.inl ⟨by simp, rfl⟩)
      | some state =>
        by_cases h : rt.future f = .pending ∧ state.status = .interrupted
        · exact .inr (.inr ⟨d, f, state, rfl, rfl, rfl, h.1, h.2, by simp [h]⟩)
        · refine .inr (.inl ⟨?_, by simp [h]⟩)
          rintro f' state' hf' hs' hst hp
          cases hf'
          cases hs'
          exact h ⟨hp, hst⟩

lemma settles_resume {k decision instruction : String} {done : Bool}
    (h : rt.resume k decision instruction = .ok (done, rt')) : Settles k rt rt' := by
  rcases rt.resume_cases k decision instruction with
    ⟨e, he⟩ | ⟨hno, he⟩ | ⟨d, f, state, -, hf, -, -, -, he⟩
  · rw [he] at h
    cases h
  · rw [he] at h
    cases h
    exact ⟨actsOn_popInterrupt k, by simp [popInterrupt], hno⟩
  · rw [he] at h
    cases h
    have hmark : ActsOn k (rt.popInterrupt k)
        ((rt.popInterrupt k).modifyState k (resumedState · ⟨d, instruction⟩)) :=
      actsOn_modifyState fun _ => rfl
    refine ⟨((actsOn_popInterrupt k).trans hmark).trans actsOn_resolveFuture,
      by simp [resolveFuture, modifyState, popInterrupt], ?_⟩
    intro g _ hg _ _ hp
    rw [hf] at hg
    exact (resolveFuture_pending hp).2 (Option.some.inj hg).symm

/-! ### Methods that register a task -/

/-- `rt'` arises from `rt` by registering the task `t` of conversation `c` for `identity`. -/
structure Registers (c t : String) (identity : Identity) (rt rt' : TaskRuntime) : Prop where
  latest : rt'.conversationLatestTask = rt.setLatest c t
  owner : rt'.ownerOf = Function.update rt.ownerOf t (some identity)

/-- What an accepted `enqueue` does. -/
lemma enqueue_ok {threadId query : String} {metadata : Metadata}
    (h : rt.enqueue threadId query metadata = .ok rt') :
    rt.isRunning threadId = false ∧
      rt' = { rt with
        states := Function.update rt.states threadId (some (queuedState threadId query metadata))
        conversationLatestTask := rt.setLatest metadata.conversationId threadId } := by
  unfold enqueue at h
  split at h
  · cases h
  · rename_i hrun
    cases h
    exact ⟨by simpa using hrun, rfl⟩

/-- What an accepted `_start_task` does. -/
lemma startTask_ok {threadId query : String} {metadata : Metadata} {n : ℕ}
    (h : rt.startTask threadId query metadata = .ok (n, rt')) :
    rt.isRunning threadId = false ∧ n = rt.nextTask ∧
      rt' = { rt with
        tasks := Function.update rt.tasks threadId (some rt.nextTask)
        asyncTask := Function.update rt.asyncTask rt.nextTask {}
        nextTask := rt.nextTask + 1
        states := Function.update rt.states threadId
          (some (startedState (rt.states threadId) threadId query metadata))
        conversationLatestTask := rt.setLatest metadata.conversationId threadId } := by
  unfold startTask at h
  split at h
  · cases h
  · rename_i hrun
    cases h
    exact ⟨by simpa using hrun, rfl, rfl⟩

lemma registers_of_states {c t : String} {identity : Identity} {state : TaskState}
    (hstates : rt'.states = Function.update rt.states t (some state))
    (howner : state.owner = some identity)
    (hlatest : rt'.conversationLatestTask = rt.setLatest c t) :
    Registers c t identity rt rt' := by
  refine ⟨hlatest, ?_⟩
  funext x
  by_cases hx : x = t
  · subst hx
    simp [ownerOf, hstates, howner]
  · simp [ownerOf, hstates, Function.update_of_ne hx]

lemma registers_enqueue {threadId query : String} {metadata : Metadata}
    (h : rt.enqueue threadId query metadata = .ok rt') :
    Registers metadata.conversationId threadId metadata.identity rt rt' := by
  obtain ⟨-, rfl⟩ := enqueue_ok h
  exact registers_of_states rfl rfl rfl

lemma registers_startTask {threadId query : String} {metadata : Metadata} {n : ℕ}
    (h : rt.startTask threadId query metadata = .ok (n, rt')) :
    Registers metadata.conversationId threadId metadata.identity rt rt' := by
  obtain ⟨-, -, rfl⟩ := startTask_ok h
  exact registers_of_states rfl rfl rfl

lemma setLatest_of_ne_empty {c t : String} (hc : c ≠ "") :
    rt.setLatest c t = Function.update rt.conversationLatestTask c (some t) := by
  simp [setLatest, hc]

end TaskRuntime

end EcommerceAgent.Runtime
