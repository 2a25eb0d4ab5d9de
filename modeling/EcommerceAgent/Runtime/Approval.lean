/-
# Approval decisions and the workflows that wait for them

`_request_write_approval` waits under the context id of its thread, which is the conversation,
and `POST /api/task/{x}/resume` answers under the task id that `x` resolves to.  The two agree
for a task whose id is the id of its conversation, as long as nobody rewrites its state, its
slot or the latest task of its conversation.  The answer comes from the loop of the server, so
the workflow gets it only if the loop of its own thread has something else to wake up for
(`decisions_arrive`).  For any other task, and in a loop that sleeps, the decision never arrives
(`decisions_lost`).
-/
import EcommerceAgent.Runtime.Interrupts
import EcommerceAgent.Runtime.WorkerLoops

open EcommerceAgent.Lib

namespace EcommerceAgent.Runtime

/-- The task on whose behalf the workflow waits. -/
def Waiter.taskId (w : Waiter) : String := w.execution.payload.taskId

/-- The conversation of that task. -/
def Waiter.conversationId (w : Waiter) : String := w.execution.payload.conversationId

/-- The identity that started that task. -/
def Waiter.identity (w : Waiter) : Identity := w.execution.payload.identity

namespace Brain

/-- A workflow of a task from `POST /api/task` that is blocked in `_request_write_approval`. -/
def Awaits (s : Brain) (w : Waiter) : Prop :=
  s.Blocked w ∧ w.execution.payload.aiChat = false

/-- The started agent `e` asks under an id that the resume route finds: nobody waits under the
context id, and the context id is the agent's own task id, its own latest task and its own
property.  A task of the AI chat, whose id is never the conversation, may ask while nobody owns
a state under the context id. -/
structure AsksUnderOwnId (s : Brain) (e : Execution) : Prop where
  free : ∀ w, s.Awaits w → w.conversationId ≠ threadContext e
  own : e.payload.aiChat = false →
    e.payload.taskId = threadContext e ∧
      s.runtime.resolveTaskId (threadContext e) = e.payload.taskId ∧
      s.runtime.ownsConversation (threadContext e) e.payload.identity = true
  chat : e.payload.aiChat = true → s.runtime.ownerOf (threadContext e) = none

/-- Registering the payload rewrites neither the state nor the latest task of a blocked
workflow. -/
def LeavesWaiting (s : Brain) (p : Payload) : Prop :=
  ∀ w, s.Awaits w → w.taskId ≠ p.taskId ∧ w.conversationId ≠ p.conversationId

/-- The condition on one step: workflows ask under their own id, and neither a registration nor
the late `_finish` of an asyncio task rewrites what a blocked workflow relies on. -/
def ApprovalStep (s : Brain) : Action → Prop
  | .requestApproval e _ => e ∈ s.started → threadContext e ≠ "" → s.AsksUnderOwnId e
  | .finish e => (s.runtime.asyncTask e.handle).outcome ≠ none →
      ∀ w, s.Awaits w → w.taskId ≠ e.payload.taskId
  | .startAgentTask i => ∀ p, s.queue[i]? = some p → s.runtime.isCancelled p.taskId = false →
      s.runtime.isRunning p.taskId = false → s.LeavesWaiting p
  | a => ∀ text p queueUp, s.attempt a = some (text, p, queueUp) →
      s.runtime.isRunning p.taskId = false → s.LeavesWaiting p

/-! ### The invariant -/

/-- The runtime can answer the workflow: slot, latest task and state agree on its id. -/
structure Answerable (rt : TaskRuntime) (w : Waiter) : Prop where
  key : w.taskId = w.conversationId
  slot : rt.interruptFutures w.conversationId = some w.future
  latest : rt.conversationLatestTask w.conversationId = some w.conversationId
  state : ∃ state, rt.states w.conversationId = some state ∧ state.status = .interrupted ∧
    state.owner = some w.identity

/-- No decision reaches the workflow: while its future is registered, no interrupted state with
an owner stands under its context id. -/
def Sealed (rt : TaskRuntime) (w : Waiter) : Prop :=
  rt.interruptFutures w.conversationId = some w.future →
    ∀ state, rt.states w.conversationId = some state → state.status = .interrupted →
      state.owner = none

structure Waiting (s : Brain) : Prop extends s.Tracked where
  answerable : ∀ w, s.Awaits w → Answerable s.runtime w
  sealed : ∀ w, s.Blocked w → w.execution.payload.aiChat = true → Sealed s.runtime w

variable {s : Brain}

lemma waiting_init : init.Waiting where
  toTracked := tracked_init
  answerable := by simp [Awaits, Blocked, init]
  sealed := by simp [Blocked, init]

lemma Answerable.congr {rt rt' : TaskRuntime} {w : Waiter} (h : Answerable rt w)
    (hstate : rt'.states w.conversationId = rt.states w.conversationId)
    (hslot : rt'.interruptFutures w.conversationId = rt.interruptFutures w.conversationId)
    (hlatest : rt'.conversationLatestTask w.conversationId =
      rt.conversationLatestTask w.conversationId) : Answerable rt' w where
  key := h.key
  slot := hslot.trans h.slot
  latest := hlatest.trans h.latest
  state := by
    rw [hstate]
    exact h.state

/-- What a registration does to the waiting workflows. -/
lemma Waiting.registers (hs : s.Waiting) {p : Payload} (rt : TaskRuntime) (state : TaskState)
    (hleave : s.LeavesWaiting p)
    (hstates : rt.states = Function.update s.runtime.states p.taskId (some state))
    (hstatus : state.status ≠ .interrupted)
    (hlatest : rt.conversationLatestTask = s.runtime.setLatest p.conversationId p.taskId)
    (hslots : rt.interruptFutures = s.runtime.interruptFutures) :
    (∀ w, s.Awaits w → Answerable rt w) ∧
    ∀ w, s.Blocked w → w.execution.payload.aiChat = true → Sealed rt w := by
  constructor
  · intro w hw
    have hans := hs.answerable w hw
    obtain ⟨ht, hc⟩ := hleave w hw
    refine hans.congr ?_ (by rw [hslots]) ?_
    · rw [hstates, Function.update_of_ne (by rwa [← hans.key])]
    · rw [hlatest]
      by_cases hp : p.conversationId = ""
      · simp [TaskRuntime.setLatest, hp]
      · rw [TaskRuntime.setLatest_of_ne_empty hp, Function.update_of_ne hc]
  · intro w hw hchat hslot state' hstate' hst'
    by_cases hwp : w.conversationId = p.taskId
    · rw [hstates, hwp, Function.update_self] at hstate'
      obtain rfl := Option.some.inj hstate'
      exact absurd hst' hstatus
    · rw [hstates, Function.update_of_ne hwp] at hstate'
      exact hs.sealed w hw hchat (by rw [← hslots]; exact hslot) state' hstate' hst'

lemma Waiting.accept (hs : s.Waiting) {text : String} {p : Payload} {queueUp : Bool}
    (hleave : s.runtime.isRunning p.taskId = false → s.LeavesWaiting p) :
    (s.accept text p queueUp).2.Waiting := by
  have htracked := hs.toTracked.accept text p queueUp
  rcases s.accept_cases text p queueUp with h | ⟨rt, hrt, h⟩
  · rwa [h]
  · obtain ⟨hfree, hrt⟩ := TaskRuntime.enqueue_ok hrt
    obtain ⟨hans, hseal⟩ := hs.registers rt
      (TaskRuntime.queuedState p.taskId text ⟨p.conversationId, p.identity⟩)
      (hleave hfree) (by rw [hrt]) nofun (by rw [hrt]) (by rw [hrt])
    subst hrt
    rw [h] at htracked ⊢
    exact ⟨htracked, hans, hseal⟩

lemma Waiting.start (hs : s.Waiting) {i : ℕ}
    (hleave : ∀ p, s.queue[i]? = some p → s.runtime.isCancelled p.taskId = false →
      s.runtime.isRunning p.taskId = false → s.LeavesWaiting p) :
    (s.startAgentTask i).Waiting := by
  have htracked := hs.toTracked.start i
  rcases s.startAgentTask_cases i with h | h | ⟨p, n, rt, hp, hc, hrt, h⟩
  · rwa [h]
  · rw [h] at htracked ⊢
    exact ⟨htracked, hs.answerable, hs.sealed⟩
  · obtain ⟨hfree, -, hrt⟩ := TaskRuntime.startTask_ok hrt
    obtain ⟨hans, hseal⟩ := hs.registers rt
      (TaskRuntime.startedState (s.runtime.states p.taskId) p.taskId p.query
        ⟨p.conversationId, p.identity⟩)
      (hleave p hp hc hfree) (by rw [hrt]) nofun (by rw [hrt]) (by rw [hrt])
    subst hrt
    rw [h] at htracked ⊢
    exact ⟨htracked, hans, hseal⟩

/-- A change of one id keeps every blocked workflow of another id answerable. -/
lemma Answerable.actsOn {rt rt' : TaskRuntime} {w : Waiter} {k : String}
    (h : Answerable rt w) (hact : TaskRuntime.ActsOn k rt rt') (hk : w.conversationId ≠ k) :
    Answerable rt' w :=
  h.congr (hact.states _ hk) (hact.interrupts _ hk) (by rw [hact.latest])

lemma Sealed.actsOn {rt rt' : TaskRuntime} {w : Waiter} {k : String}
    (h : Sealed rt w) (hact : TaskRuntime.ActsOn k rt rt') (hk : w.conversationId ≠ k) :
    Sealed rt' w := by
  intro hslot state hstate hst
  rw [hact.interrupts _ hk] at hslot
  rw [hact.states _ hk] at hstate
  exact h hslot state hstate hst

lemma Waiting.complete (hs : s.Waiting) (e : Execution) (o : Outcome)
    (htracked : (s.complete e o).Tracked) : (s.complete e o).Waiting := by
  unfold Brain.complete at htracked ⊢
  split at htracked
  · rename_i hcond
    rw [if_pos hcond]
    exact ⟨htracked, fun w hw => (hs.answerable w hw).congr rfl rfl rfl,
      fun w hw hchat => hs.sealed w hw hchat⟩
  · rename_i hcond
    rw [if_neg hcond]
    exact hs

lemma finish_status {rt : TaskRuntime} {k : String} {h : ℕ} {state : TaskState}
    (hstate : (rt.finish k h).states k = some state) (hdone : (rt.asyncTask h).outcome ≠ none) :
    state.status ≠ .interrupted := by
  obtain ⟨outcome, ho⟩ := Option.ne_none_iff_exists'.1 hdone
  simp only [TaskRuntime.finish, ho, TaskRuntime.modifyState, Function.update_self,
    Option.map_eq_some_iff] at hstate
  obtain ⟨old, -, rfl⟩ := hstate
  cases outcome <;> simp [TaskRuntime.finishedState]

lemma Waiting.finish (hs : s.Waiting) {e : Execution} (htracked : (s.finish e).Tracked)
    (hown : (s.runtime.asyncTask e.handle).outcome ≠ none →
      ∀ w, s.Awaits w → w.taskId ≠ e.payload.taskId) : (s.finish e).Waiting := by
  unfold Brain.finish at htracked ⊢
  split at htracked
  · rename_i hcond
    have hdone : (s.runtime.asyncTask e.handle).outcome ≠ none :=
      Option.isSome_iff_ne_none.1 hcond.2
    have hact : TaskRuntime.ActsOn e.payload.taskId s.runtime
        (s.runtime.finish e.payload.taskId e.handle) := TaskRuntime.actsOn_finish _ _ _
    have hold : ∀ w, Brain.Blocked { s with
        runtime := s.runtime.finish e.payload.taskId e.handle
        running := s.running.erase e } w → s.Blocked w :=
      fun w hw => ⟨hw.1, hact.pending _ hw.2⟩
    rw [if_pos hcond]
    refine ⟨htracked, fun w hw => ?_, fun w hw hchat => ?_⟩
    · have hw' : s.Awaits w := ⟨hold w hw.1, hw.2⟩
      have hans := hs.answerable w hw'
      exact hans.actsOn hact (by rw [← hans.key]; exact hown hdone w hw')
    · by_cases hk : w.conversationId = e.payload.taskId
      · intro _ state hstate hst
        rw [hk] at hstate
        exact absurd hst (finish_status hstate hdone)
      · exact (hs.sealed w (hold w hw) hchat).actsOn hact hk
  · rename_i hcond
    rw [if_neg hcond]
    exact hs

lemma Waiting.settle (hs : s.Waiting) {k : String} {rt : TaskRuntime}
    (h : TaskRuntime.Settles k s.runtime rt) (htracked : Tracked { s with runtime := rt }) :
    Waiting { s with runtime := rt } := by
  have hold : ∀ w, Blocked { s with runtime := rt } w → s.Blocked w :=
    fun w hw => ⟨hw.1, h.pending _ hw.2⟩
  refine ⟨htracked, fun w hw => ?_, fun w hw hchat => ?_⟩
  · have hans := hs.answerable w ⟨hold w hw.1, hw.2⟩
    by_cases hk : w.conversationId = k
    · -- the future of the id that is acted on has been answered
      subst hk
      obtain ⟨state, hstate, hst, -⟩ := hans.state
      exact absurd hw.1.2 (h.answered _ state hans.slot hstate hst)
    · exact hans.actsOn h.toActsOn hk
  · by_cases hk : w.conversationId = k
    · intro hslot
      rw [hk, h.popped] at hslot
      cases hslot
    · exact (hs.sealed w (hold w hw) hchat).actsOn h.toActsOn hk

lemma Waiting.abandon (hs : s.Waiting) (w : Waiter) (htracked : (s.abandon w).Tracked) :
    (s.abandon w).Waiting := by
  unfold Brain.abandon at htracked ⊢
  split at htracked
  · rename_i hcond
    rw [if_pos hcond]
    have hold : ∀ v : Waiter,
        Function.update s.runtime.future w.future .cancelled v.future = .pending →
        s.runtime.future v.future = .pending := by
      intro v hv
      by_cases hvw : v.future = w.future
      · simp [hvw] at hv
      · rwa [Function.update_of_ne hvw] at hv
    exact ⟨htracked,
      fun v hv => (hs.answerable v ⟨⟨hv.1.1, hold v hv.1.2⟩, hv.2⟩).congr rfl rfl rfl,
      fun v hv hchat => hs.sealed v ⟨hv.1, hold v hv.2⟩ hchat⟩
  · rename_i hcond
    rw [if_neg hcond]
    exact hs

/-- The workflow that has just asked under its own id can be answered. -/
lemma answerable_of_interrupt (hs : s.Tracked) {e : Execution} (summary : String)
    (he : e ∈ s.started) (hne : threadContext e ≠ "")
    (hid : e.payload.taskId = threadContext e)
    (hres : s.runtime.resolveTaskId (threadContext e) = e.payload.taskId)
    (hown : s.runtime.ownsConversation (threadContext e) e.payload.identity = true) :
    Answerable (s.runtime.interrupt (threadContext e) "database_change_approval" summary).2
      ⟨e, s.runtime.nextFuture⟩ := by
  have hlatest : s.runtime.conversationLatestTask (threadContext e) = some (threadContext e) := by
    obtain ⟨t, ht⟩ := Option.ne_none_iff_exists'.1 (hs.known e he hne)
    have hte : t = threadContext e := by
      rw [← hid, ← hres]
      simp [TaskRuntime.resolveTaskId, threadContext, ht]
    exact ht.trans (congrArg some hte)
  obtain ⟨state, hstate, howner⟩ :=
    TaskRuntime.ownerOf_eq_some.1 (TaskRuntime.ownsConversation_iff.1 hown)
  rw [hres, hid] at hstate
  refine ⟨hid, Function.update_self .., hlatest, ?_⟩
  refine ⟨_, Function.update_self .., rfl, ?_⟩
  rw [hstate]
  exact howner

lemma Waiting.requestApproval (hs : s.Waiting) {e : Execution} {summary : String}
    (htracked : (s.requestApproval e summary).Tracked)
    (hask : e ∈ s.started → threadContext e ≠ "" → s.AsksUnderOwnId e) :
    (s.requestApproval e summary).Waiting := by
  unfold Brain.requestApproval at htracked ⊢
  split at htracked
  · rename_i hcond
    rw [if_pos hcond]
    have hask := hask hcond.1 hcond.2
    -- a workflow that waited before still has its own future
    have hold : ∀ w ∈ s.waiters,
        Function.update s.runtime.future s.runtime.nextFuture .pending w.future = .pending →
        s.Blocked w := by
      intro w hw hp
      rw [Function.update_of_ne (hs.future_lt w hw).ne] at hp
      exact ⟨hw, hp⟩
    refine ⟨htracked, ?_, ?_⟩
    · rintro w ⟨⟨hw, hp⟩, hapi⟩
      rcases List.mem_cons.1 hw with rfl | hw
      · obtain ⟨hid, hres, hown⟩ := hask.own hapi
        exact answerable_of_interrupt hs.toTracked summary hcond.1 hcond.2 hid hres hown
      · have hw' : s.Awaits w := ⟨hold w hw hp, hapi⟩
        have hkey := hask.free w hw'
        exact (hs.answerable w hw').congr (Function.update_of_ne hkey ..)
          (Function.update_of_ne hkey ..) rfl
    · rintro w ⟨hw, hp⟩ hchat hslot state hstate hst
      rcases List.mem_cons.1 hw with rfl | hw
      · have howner : state.owner = (s.runtime.interrupt (threadContext e)
            "database_change_approval" summary).2.ownerOf (threadContext e) := by
          simp only [TaskRuntime.ownerOf]
          rw [show (s.runtime.interrupt (threadContext e) "database_change_approval"
            summary).2.states (threadContext e) = some state from hstate]
          rfl
        rw [howner, (TaskRuntime.sameOwners_interrupt _ _ _).owner]
        exact hask.chat hchat
      · have hkey : w.conversationId ≠ threadContext e := by
          intro hkey
          have : s.runtime.nextFuture = w.future := by
            simpa [TaskRuntime.interrupt, hkey] using hslot
          exact absurd this.symm (hs.future_lt w hw).ne
        refine hs.sealed w (hold w hw hp) hchat ?_ state ?_ hst
        · rw [← hslot]
          exact (Function.update_of_ne hkey ..).symm
        · rw [← hstate]
          exact (Function.update_of_ne hkey ..).symm
  · rename_i hcond
    rw [if_neg hcond]
    exact hs

theorem Waiting.step (hs : s.Waiting) {a : Action} (ha : s.ApprovalStep a) :
    (s.step a).Waiting := by
  have htracked := hs.toTracked.step a
  have hcase := s.stepCase a
  generalize s.step a = s' at hcase htracked ⊢
  cases hcase with
  | refused => exact hs
  | accept h =>
    refine hs.accept fun hfree => ?_
    cases a with
    | runTask => exact ha _ _ _ h hfree
    | chat => exact ha _ _ _ h hfree
    | _ => cases h
  | start i => exact hs.start ha
  | complete e o => exact hs.complete e o htracked
  | finish e => exact hs.finish htracked ha
  | requestApproval e summary => exact hs.requestApproval htracked ha
  | abandon w => exact hs.abandon w htracked
  | settle h => exact hs.settle h htracked

/-! ### What the invariant gives -/

lemma Waiting.delivered (hs : s.Waiting) {w : Waiter} (hw : s.Awaits w) {x decision : String}
    {d : Decision} (instruction : String)
    (hx : x = w.taskId ∨ (x = w.conversationId ∧
      s.runtime.conversationLatestTask w.conversationId = some w.taskId))
    (hd : Decision.parse decision = some d) :
    (s.resumeTask w.identity x decision instruction).1 = .resumed x w.taskId true decision ∧
      (s.resumeTask w.identity x decision instruction).2.runtime.future w.future =
        .resolved ⟨d, instruction⟩ := by
  have hans := hs.answerable w hw
  obtain ⟨state, hstate, hst, howner⟩ := hans.state
  have hkey : w.conversationId = w.taskId := hans.key.symm
  rw [hkey] at hstate
  have hlatest := hans.latest
  have hslot := hans.slot
  rw [hkey] at hlatest hslot
  have hxw : x = w.taskId := by
    rcases hx with hx | ⟨hx, -⟩
    · exact hx
    · rw [hx, hkey]
  subst hxw
  have hres : s.runtime.resolveTaskId w.taskId = w.taskId := by
    simp [TaskRuntime.resolveTaskId, hlatest]
  have hget : s.runtime.getScoped w.taskId w.identity = some state :=
    TaskRuntime.getScoped_eq_some.2 ⟨by rw [hres]; exact hstate, howner⟩
  have hpend := hw.1.2
  simp [resumeTask, hres, hget, TaskRuntime.resume, hd, hslot, hstate, hpend, hst,
    TaskRuntime.resolveFuture, TaskRuntime.modifyState, TaskRuntime.popInterrupt]

/-- A call that ends the wait of a workflow found its future, and an interrupted state of the
caller. -/
lemma resume_found {rt : TaskRuntime} {k decision instruction : String} {done : Bool}
    {rt' : TaskRuntime} (h : rt.resume k decision instruction = .ok (done, rt')) {f : ℕ}
    (hp : rt.future f = .pending) (hf : rt'.future f ≠ .pending) :
    rt.interruptFutures k = some f ∧
      ∃ state, rt.states k = some state ∧ state.status = .interrupted := by
  rcases rt.resume_cases k decision instruction with
    ⟨e, he⟩ | ⟨-, he⟩ | ⟨d, g, state, -, hslot, hstate, -, hst, he⟩
  · rw [he] at h
    cases h
  · rw [he] at h
    cases h
    exact absurd hp hf
  · rw [he] at h
    cases h
    by_cases hfg : f = g
    · subst hfg
      exact ⟨hslot, state, hstate, hst⟩
    · exact absurd hp (by simpa [TaskRuntime.resolveFuture, TaskRuntime.modifyState,
        TaskRuntime.popInterrupt, hfg] using hf)

lemma Waiting.undiverted (hs : s.Waiting) {w : Waiter} (hw : s.Blocked w) {identity : Identity}
    {x decision instruction : String}
    (h : (s.resumeTask identity x decision instruction).2.runtime.future w.future ≠ .pending) :
    s.runtime.resolveTaskId x = w.taskId ∧ w.identity = identity := by
  simp only [resumeTask] at h
  split at h
  · exact absurd hw.2 h
  · rename_i got hget
    split at h
    · exact absurd hw.2 h
    · rename_i done rt' hres
      obtain ⟨hslot, state, hstate, hst⟩ := resume_found hres hw.2 h
      have hkey : w.conversationId = s.runtime.resolveTaskId x := hs.key_of_mem hw.1 hslot
      obtain ⟨hgot, hgotOwner⟩ := TaskRuntime.getScoped_eq_some.1 hget
      cases hchat : w.execution.payload.aiChat with
      | false =>
        have hans := hs.answerable w ⟨hw, hchat⟩
        refine ⟨by rw [← hkey, hans.key], ?_⟩
        obtain ⟨state', hstate', -, howner'⟩ := hans.state
        rw [← hkey] at hgot
        have hself : s.runtime.resolveTaskId w.conversationId = w.conversationId := by
          simp [TaskRuntime.resolveTaskId, hans.latest]
        rw [hself, hstate'] at hgot
        cases hgot
        rw [howner'] at hgotOwner
        exact Option.some.inj hgotOwner
      | true =>
        -- the state under the context id has no owner, so it is nobody's latest task
        have hnone : state.owner = none :=
          hs.sealed w hw hchat (by rw [hkey]; exact hslot) state (by rw [hkey]; exact hstate) hst
        obtain ⟨hstarted, hne⟩ := hs.waiter w hw.1
        rcases hl : s.runtime.conversationLatestTask x with _ | t
        · have hx : s.runtime.resolveTaskId x = x := by simp [TaskRuntime.resolveTaskId, hl]
          exact absurd (by rw [← hx, ← hkey] at hl; exact hl) (hs.known _ hstarted hne)
        · have hx : s.runtime.resolveTaskId x = t := by simp [TaskRuntime.resolveTaskId, hl]
          refine absurd ?_ (hs.latest x t hl)
          rw [← hx]
          simp [TaskRuntime.ownerOf, hstate, hnone]

/-- A workflow that is blocked after a step was blocked before, or has asked with this step. -/
lemma blocked_step (hs : s.Tracked) {a : Action} {w : Waiter} (h : (s.step a).Blocked w) :
    s.Blocked w ∨ ∃ summary, a = .requestApproval w.execution summary := by
  have hcase := s.stepCase a
  generalize s.step a = s' at hcase h
  cases hcase with
  | refused => exact .inl h
  | accept =>
    rename_i text p queueUp _
    rcases s.accept_cases text p queueUp with hacc | ⟨rt, hrt, hacc⟩
    · exact .inl (by rwa [hacc] at h)
    · obtain ⟨-, rfl⟩ := TaskRuntime.enqueue_ok hrt
      rw [hacc] at h
      exact .inl h
  | start i =>
    rcases s.startAgentTask_cases i with hst | hst | ⟨p, n, rt, -, -, hrt, hst⟩
    · exact .inl (by rwa [hst] at h)
    · rw [hst] at h
      exact .inl h
    · obtain ⟨-, -, rfl⟩ := TaskRuntime.startTask_ok hrt
      rw [hst] at h
      exact .inl h
  | complete e o =>
    unfold complete at h
    split at h <;> exact .inl h
  | finish e =>
    unfold finish at h
    split at h
    · exact .inl ⟨h.1, (TaskRuntime.actsOn_finish _ _ _).pending _ h.2⟩
    · exact .inl h
  | requestApproval e summary =>
    unfold requestApproval at h
    split at h
    · rcases List.mem_cons.1 h.1 with rfl | hw
      · exact .inr ⟨summary, rfl⟩
      · -- the new future is another one than that of an older workflow
        have hpending : Function.update s.runtime.future s.runtime.nextFuture .pending w.future =
            .pending := h.2
        rw [Function.update_of_ne (hs.future_lt w hw).ne] at hpending
        exact .inl ⟨hw, hpending⟩
    · exact .inl h
  | abandon v =>
    unfold abandon at h
    split at h
    · refine .inl ⟨h.1, ?_⟩
      have hpending := h.2
      by_cases hvw : w.future = v.future
      · simp [hvw] at hpending
      · simpa [hvw] using hpending
    · exact .inl h
  | settle hset => exact .inl ⟨h.1, hset.pending _ h.2⟩

end Brain

/-! ### Two loops -/

open Brain (alice freshUuid)

namespace BrainLoops

/-- Every blocked workflow gets the decision that its owner sends, and no other one: the call that
awaits it returns as soon as the loop of its thread has gone on. -/
structure DecisionsArrive (s : BrainLoops) : Prop where
  delivered : ∀ w, s.brain.Awaits w → ∀ x decision d instruction,
    x = w.taskId ∨ (x = w.conversationId ∧
      s.brain.runtime.conversationLatestTask w.conversationId = some w.taskId) →
    Decision.parse decision = some d →
    (s.brain.resumeTask w.identity x decision instruction).1 =
        .resumed x w.taskId true decision ∧
      ((s.step (.act (.resumeTask w.identity x decision instruction))).goOn
        w.execution.handle).returned w.future = some ⟨d, instruction⟩
  undiverted : ∀ w, s.brain.Blocked w → ∀ identity x decision instruction,
    (s.brain.resumeTask identity x decision instruction).2.runtime.future w.future ≠ .pending →
    s.brain.runtime.resolveTaskId x = w.taskId ∧ w.identity = identity

/-- The condition on one step: a step of the Brain keeps its workflows answerable, and the loop of
a thread falls asleep only while no workflow waits in it. -/
def ApprovalStep (s : BrainLoops) : LoopEvent → Prop
  | .act a => s.brain.ApprovalStep a
  | .poll h due => due = false → ∀ w, s.brain.Awaits w → w.execution.handle ≠ h
  | _ => True

/-- The loops in which workflows wait are awake. -/
structure Waiting (s : BrainLoops) : Prop where
  brain : s.brain.Waiting
  awake : ∀ w, s.brain.Awaits w → (s.loops (some w.execution.handle)).mode ≠ .asleep

variable {s : BrainLoops}

lemma waiting_init : init.Waiting where
  brain := Brain.waiting_init
  awake := by simp [init, Brain.init, Brain.Awaits, Brain.Blocked]

lemma loopOf_of_awaits {b : Brain} {w : Waiter} (h : b.Awaits w) :
    loopOf w.execution = some w.execution.handle := by
  simp [loopOf, h.2]

/-- A workflow that waits after a step of the Brain has waited before, or has just asked in a loop
that is turning. -/
lemma awaits_act {a : Action} (hmay : s.MayAct a) (hs : s.brain.Tracked) {w : Waiter}
    (h : (s.brain.step a).Awaits w) :
    s.brain.Awaits w ∨ (s.loops (some w.execution.handle)).mode = .turning := by
  rcases Brain.blocked_step hs h.1 with hold | ⟨summary, rfl⟩
  · exact .inl ⟨hold, h.2⟩
  · have hturning : (s.loops (loopOf w.execution)).mode = .turning := hmay
    rw [loopOf_of_awaits h] at hturning
    exact .inr hturning

lemma Waiting.act (hs : s.Waiting) {a : Action} (ha : s.brain.ApprovalStep a) :
    (s.act a).Waiting := by
  by_cases hmay : s.MayAct a
  · rw [act_of_mayAct hmay]
    refine ⟨hs.brain.step ha, fun w hw => ?_⟩
    rw [EventLoop.mode_callSoon]
    rcases awaits_act hmay hs.brain.toTracked hw with hold | hturning
    · exact hs.awake w hold
    · rw [hturning]
      nofun
  · rwa [BrainLoops.act, if_neg hmay]

/-- A change of one loop that does not put it to sleep keeps the workflows awake. -/
lemma Waiting.update (hs : s.Waiting) {h : ℕ} {loop : EventLoop ℕ}
    (hloop : (s.loops (some h)).mode ≠ .asleep → loop.mode = .asleep →
      ∀ w, s.brain.Awaits w → w.execution.handle ≠ h) :
    Waiting { s with loops := Function.update s.loops (some h) loop } := by
  refine ⟨hs.brain, fun w hw => ?_⟩
  dsimp only
  by_cases hh : w.execution.handle = h
  · subst hh
    rw [Function.update_self]
    exact fun hasleep => hloop (hs.awake w hw) hasleep w hw rfl
  · rw [Function.update_of_ne (fun heq => hh (Option.some.inj heq))]
    exact hs.awake w hw

theorem Waiting.step (hs : s.Waiting) {e : LoopEvent} (he : s.ApprovalStep e) :
    (s.step e).Waiting := by
  cases e with
  | act a => exact hs.act he
  | poll h due =>
    rw [BrainLoops.step, poll]
    split
    · refine hs.update fun hawake hasleep => ?_
      cases due with
      | false => exact he rfl
      | true => exact absurd hasleep (EventLoop.poll_ne_asleep hawake)
    · exact hs
  | wake h =>
    refine hs.update fun hawake hasleep => ?_
    rw [EventLoop.mode_wake hawake] at hasleep
    cases hasleep
  | turn l =>
    refine ⟨?_, fun w hw => ?_⟩
    · rw [BrainLoops.step, turn_brain]
      exact hs.brain
    · rw [BrainLoops.step, turn_brain] at hw
      rw [BrainLoops.step, turn_mode]
      exact hs.awake w hw

/-- The decision comes into the queue of a loop that is awake. -/
lemma Waiting.delivered (hs : s.Waiting) {w : Waiter} (hw : s.brain.Awaits w) {x decision : String}
    {d : Decision} (instruction : String)
    (hx : x = w.taskId ∨ (x = w.conversationId ∧
      s.brain.runtime.conversationLatestTask w.conversationId = some w.taskId))
    (hd : Decision.parse decision = some d) :
    (s.brain.resumeTask w.identity x decision instruction).1 =
        .resumed x w.taskId true decision ∧
      ((s.step (.act (.resumeTask w.identity x decision instruction))).goOn
        w.execution.handle).returned w.future = some ⟨d, instruction⟩ := by
  obtain ⟨hanswer, hfuture⟩ := hs.brain.delivered hw instruction hx hd
  refine ⟨hanswer, ?_⟩
  have hmay : s.MayAct (.resumeTask w.identity x decision instruction) := trivial
  have hbrain : s.brain.step (.resumeTask w.identity x decision instruction) =
      (s.brain.resumeTask w.identity x decision instruction).2 := rfl
  have hready := mem_ready_act hmay hw.1 (by rw [hbrain, hfuture]; nofun)
  rw [loopOf_of_awaits hw] at hready
  refine returned_goOn ?_ hready ?_
  · rw [BrainLoops.step, act_of_mayAct hmay, EventLoop.mode_callSoon]
    exact hs.awake w hw
  · rw [BrainLoops.step, act_of_mayAct hmay, hbrain]
    exact hfuture

/-- Along every run whose steps meet the condition, decisions arrive. -/
theorem decisions_arrive (es : List LoopEvent) (h : Along step ApprovalStep init es) :
    (run step init es).DecisionsArrive := by
  have hwaiting : (run step init es).Waiting :=
    run_invariant (I := Waiting) (fun _ _ hs he => hs.step he) waiting_init h
  exact ⟨fun w hw x decision d instruction hx hd => hwaiting.delivered hw instruction hx hd,
    fun w hw identity x decision instruction h => hwaiting.brain.undiverted hw h⟩

/-- `alice` starts the task `t` of conversation `c`, its workflow asks for an approval, and the
loop of its thread has nothing else to do but, if `due`, to wait for a timer or a file. -/
def aliceAsks (c t : String) (due : Bool) : List LoopEvent :=
  let request : TaskRequest := ⟨"sales", none, some c, some t⟩
  [.act (.runTask alice request freshUuid freshUuid true), .act (.startAgentTask 0),
    .act (.requestApproval ⟨request.payload alice freshUuid freshUuid, 0⟩ "change"), .poll 0 due]

theorem decisions_arrive_own_id : (run step init (aliceAsks "c" "c" true)).DecisionsArrive :=
  decisions_arrive _ (by
    refine ⟨fun _ _ _ _ _ w hw => ?_, fun _ _ _ _ w hw => ?_, fun _ _ => ⟨?_, ?_, nofun⟩,
      nofun, trivial⟩
    · exact absurd hw.1.1 (List.not_mem_nil)
    · exact absurd hw.1.1 (List.not_mem_nil)
    · exact fun w hw => absurd hw.1.1 (List.not_mem_nil)
    · exact fun _ => by decide)

/-- The decision for a task whose id is not its conversation's is not delivered, and a decision that
is delivered does not wake the thread. -/
theorem decisions_lost : ¬ (run step init (aliceAsks "c" "t" true)).DecisionsArrive ∧
    ¬ (run step init (aliceAsks "c" "c" false)).DecisionsArrive := by
  constructor
  · intro h
    have := (h.delivered ⟨⟨⟨"sales", "c", "t", alice, false⟩, 0⟩, 0⟩
      ⟨by decide, rfl⟩ "t" "continue" .continue_ "" (.inl rfl) (by decide)).1
    revert this
    decide
  · intro h
    have := (h.delivered ⟨⟨⟨"sales", "c", "c", alice, false⟩, 0⟩, 0⟩
      ⟨by decide, rfl⟩ "c" "continue" .continue_ "" (.inl rfl) (by decide)).2
    revert this
    decide

end BrainLoops

end EcommerceAgent.Runtime
