/-
# Ownership of conversations

A conversation has no owner of its own: its owner is the one of its latest task.  Both
accepting routes rewrite these two maps with ids that the client chooses, and only
`POST /api/task` looks at the owner of the conversation first; neither looks at the owner of
the task id.  Ownership is stable along every run whose accepted requests reuse neither a
conversation nor a task id of somebody else (`ownership_stable`), and a single chat message
into a foreign conversation takes it over (`chat_takes_over`).
-/
import EcommerceAgent.Runtime.Server
import EcommerceAgent.Runtime.Scope

open EcommerceAgent.Lib

namespace EcommerceAgent.Runtime

namespace TaskRuntime.Registers

variable {rt rt' : TaskRuntime} {c t : String} {identity : Identity}

lemma latest_self (h : Registers c t identity rt rt') (hc : c ≠ "") :
    rt'.conversationLatestTask c = some t := by
  simp [h.latest, setLatest_of_ne_empty hc]

lemma latest_of_ne (h : Registers c t identity rt rt') {d : String} (hd : d ≠ c) :
    rt'.conversationLatestTask d = rt.conversationLatestTask d := by
  by_cases hc : c = ""
  · simp [h.latest, setLatest, hc]
  · simp [h.latest, setLatest_of_ne_empty hc, Function.update_of_ne hd]

lemma owner_self (h : Registers c t identity rt rt') : rt'.ownerOf t = some identity := by
  simp [h.owner]

lemma owner_of_ne (h : Registers c t identity rt rt') {x : String} (hx : x ≠ t) :
    rt'.ownerOf x = rt.ownerOf x := by
  simp [h.owner, Function.update_of_ne hx]

end TaskRuntime.Registers

namespace Brain

/-- What one step of the process can be. -/
inductive StepCase (s : Brain) : Action → Brain → Prop
  | refused (a : Action) : StepCase s a s
  | accept {a : Action} {text : String} {p : Payload} {queueUp : Bool}
      (h : s.attempt a = some (text, p, queueUp)) : StepCase s a (s.accept text p queueUp).2
  | start (i : ℕ) : StepCase s (.startAgentTask i) (s.startAgentTask i)
  | complete (e : Execution) (o : Outcome) : StepCase s (.complete e o) (s.complete e o)
  | finish (e : Execution) : StepCase s (.finish e) (s.finish e)
  | requestApproval (e : Execution) (summary : String) :
      StepCase s (.requestApproval e summary) (s.requestApproval e summary)
  | abandon (w : Waiter) : StepCase s (.abandon w) (s.abandon w)
  | settle {a : Action} {k : String} {rt : TaskRuntime}
      (h : TaskRuntime.Settles k s.runtime rt) : StepCase s a { s with runtime := rt }

lemma stepCase (s : Brain) (a : Action) : s.StepCase a (s.step a) := by
  cases a with
  | runTask identity request cu tu up =>
    by_cases hguard : (s.runtime.conversationExists (request.payload identity cu tu).conversationId
        && !s.runtime.ownsConversation (request.payload identity cu tu).conversationId identity)
        = true
    · simp only [step, runTask]
      rw [if_pos hguard]
      exact .refused _
    · simp only [step, runTask]
      rw [if_neg hguard]
      exact .accept (if_neg hguard)
  | chat identity request cu tu stored up =>
    simp only [step, chat]
    split
    · exact .refused _
    · rename_i hcontent
      split
      · exact .refused _
      · rename_i hstored
        exact .accept (if_neg (by simpa [hcontent] using hstored))
  | startAgentTask i => exact .start i
  | complete e o => exact .complete e o
  | finish e => exact .finish e
  | cancelTask identity x =>
    simp only [step, cancelTask]
    split
    · exact .refused _
    · exact .settle (TaskRuntime.settles_cancel _ _)
  | cancelAiChatTask identity taskId open_ =>
    simp only [step, cancelAiChatTask]
    split
    · split
      · exact .settle (TaskRuntime.settles_cancel _ _)
      · exact .refused _
    · exact .refused _
  | resumeTask identity x decision instruction =>
    simp only [step, resumeTask]
    split
    · exact .refused _
    · split
      · exact .refused _
      · rename_i hres
        exact .settle (TaskRuntime.settles_resume hres)
  | requestApproval e summary => exact .requestApproval e summary
  | abandon w => exact .abandon w

/-- Apart from accepted requests and starts, a step leaves the owners, the latest tasks, the
queue and the accepted requests alone. -/
lemma step_frame (s : Brain) (a : Action) :
    (∃ text p queueUp, s.attempt a = some (text, p, queueUp)) ∨
    (∃ i, a = .startAgentTask i) ∨
    (TaskRuntime.SameOwners s.runtime (s.step a).runtime ∧ (s.step a).queue = s.queue ∧
      (s.step a).accepted = s.accepted) := by
  have hsame : TaskRuntime.SameOwners s.runtime s.runtime ∧ s.queue = s.queue ∧
      s.accepted = s.accepted := ⟨.refl _, rfl, rfl⟩
  have hcase := s.stepCase a
  generalize s.step a = s' at hcase ⊢
  cases hcase with
  | refused => exact .inr (.inr hsame)
  | accept h => exact .inl ⟨_, _, _, h⟩
  | start i => exact .inr (.inl ⟨i, rfl⟩)
  | complete e o =>
    refine .inr (.inr ?_)
    unfold Brain.complete
    split
    · exact ⟨.of_eq rfl rfl, rfl, rfl⟩
    · exact hsame
  | finish e =>
    refine .inr (.inr ?_)
    unfold Brain.finish
    split
    · exact ⟨(TaskRuntime.actsOn_finish _ _ _).toSameOwners, rfl, rfl⟩
    · exact hsame
  | requestApproval e summary =>
    refine .inr (.inr ?_)
    unfold Brain.requestApproval
    split
    · exact ⟨TaskRuntime.sameOwners_interrupt _ _ _, rfl, rfl⟩
    · exact hsame
  | abandon w =>
    refine .inr (.inr ?_)
    unfold Brain.abandon
    split
    · exact ⟨.of_eq rfl rfl, rfl, rfl⟩
    · exact hsame
  | settle h => exact .inr (.inr ⟨h.toSameOwners, rfl, rfl⟩)

/-- The ids of a request belong to nobody else: the conversation is new or the caller's own, no
other identity's conversation has the task id as its latest task, and no payload of another
identity waits in the queue under the task id. -/
structure OwnIds (s : Brain) (p : Payload) : Prop where
  conversation : s.runtime.conversationLatestTask p.conversationId ≠ none →
    s.runtime.ownsConversation p.conversationId p.identity = true
  latest : ∀ c, s.runtime.conversationLatestTask c = some p.taskId →
    s.runtime.ownsConversation c p.identity = true
  queued : ∀ q ∈ s.queue, q.taskId = p.taskId → q.identity = p.identity

/-- A request that the routes let through, under a task id that is not running, uses ids that
belong to nobody else. -/
def OwnIdsStep (s : Brain) (a : Action) : Prop :=
  ∀ text p queueUp, s.attempt a = some (text, p, queueUp) →
    s.runtime.isRunning p.taskId = false → s.OwnIds p

/-- The invariant behind stable ownership: every accepted conversation is owned by the identity
that registered it, and starting a waiting payload would not change any owner. -/
structure Stable (s : Brain) : Prop where
  owner : ∀ r ∈ s.accepted, ∃ t, s.runtime.conversationLatestTask r.conversationId = some t ∧
    s.runtime.ownerOf t = some r.identity
  registered : ∀ q ∈ s.queue, q.conversationId ≠ "" ∧
    ∃ r ∈ s.accepted, r.conversationId = q.conversationId ∧ r.identity = q.identity
  latest : ∀ q ∈ s.queue, ∀ c, s.runtime.conversationLatestTask c = some q.taskId →
    s.runtime.ownerOf q.taskId = some q.identity
  queued : ∀ q ∈ s.queue, ∀ q' ∈ s.queue, q.taskId = q'.taskId → q.identity = q'.identity

variable {s : Brain}

lemma stable_init : init.Stable where
  owner := by simp [init]
  registered := by simp [init]
  latest := by simp [init]
  queued := by simp [init]

/-- Two accepted registrations of one conversation were made for the same identity. -/
lemma Stable.identity_unique (hs : s.Stable) {r r' : Registration} (hr : r ∈ s.accepted)
    (hr' : r' ∈ s.accepted) (hc : r.conversationId = r'.conversationId) :
    r.identity = r'.identity := by
  obtain ⟨t, ht, how⟩ := hs.owner r hr
  obtain ⟨t', ht', how'⟩ := hs.owner r' hr'
  rw [← hc, ht] at ht'
  obtain rfl : t = t' := by simpa using ht'
  rw [how] at how'
  simpa using how'

lemma ownerOf_latest {c t : String} {identity : Identity}
    (hl : s.runtime.conversationLatestTask c = some t)
    (h : s.runtime.ownsConversation c identity = true) : s.runtime.ownerOf t = some identity := by
  rw [TaskRuntime.ownsConversation_iff] at h
  simpa [TaskRuntime.resolveTaskId, hl] using h

/-- The invariant only looks at the owners, the latest tasks, the queue and the log. -/
lemma Stable.congr {s' : Brain} (hs : s.Stable)
    (ho : TaskRuntime.SameOwners s.runtime s'.runtime) (hq : ∀ q ∈ s'.queue, q ∈ s.queue)
    (ha : s'.accepted = s.accepted) : s'.Stable where
  owner r hr := by
    rw [ho.latest, ho.owner]
    exact hs.owner r (ha ▸ hr)
  registered q hq' := by
    rw [ha]
    exact hs.registered q (hq q hq')
  latest q hq' c hc := by
    rw [ho.owner]
    exact hs.latest q (hq q hq') c (ho.latest ▸ hc)
  queued q hq₁ q' hq₂ := hs.queued q (hq q hq₁) q' (hq q' hq₂)

/-- Registering a task under ids that belong to nobody else keeps every owner. -/
lemma Stable.owner_of_registers (hs : s.Stable) {p : Payload} {rt : TaskRuntime}
    (hreg : TaskRuntime.Registers p.conversationId p.taskId p.identity s.runtime rt)
    (hc : p.conversationId ≠ "")
    (hconv : ∀ r ∈ s.accepted, r.conversationId = p.conversationId → r.identity = p.identity)
    (htask : ∀ c, s.runtime.conversationLatestTask c = some p.taskId →
      s.runtime.ownerOf p.taskId = some p.identity) {r : Registration} (hr : r ∈ s.accepted) :
    ∃ t, rt.conversationLatestTask r.conversationId = some t ∧
      rt.ownerOf t = some r.identity := by
  by_cases hrc : r.conversationId = p.conversationId
  · refine ⟨p.taskId, ?_, ?_⟩
    · rw [hrc]
      exact hreg.latest_self hc
    · rw [hreg.owner_self, hconv r hr hrc]
  · obtain ⟨t, ht, how⟩ := hs.owner r hr
    refine ⟨t, by rw [hreg.latest_of_ne hrc, ht], ?_⟩
    by_cases htp : t = p.taskId
    · subst htp
      rw [hreg.owner_self, ← how, htask _ ht]
    · rw [hreg.owner_of_ne htp, how]

lemma Stable.accept (hs : s.Stable) {text : String} {p : Payload} {queueUp : Bool}
    (hc : p.conversationId ≠ "")
    (hown : s.runtime.isRunning p.taskId = false → s.OwnIds p) :
    (s.accept text p queueUp).2.Stable := by
  rcases s.accept_cases text p queueUp with h | ⟨rt, hrt, h⟩
  · rw [h]
    exact hs
  · have hown := hown (TaskRuntime.enqueue_ok hrt).1
    have hreg := TaskRuntime.registers_enqueue hrt
    have htask : ∀ c, s.runtime.conversationLatestTask c = some p.taskId →
        s.runtime.ownerOf p.taskId = some p.identity :=
      fun c hl => ownerOf_latest hl (hown.latest c hl)
    have hconv : ∀ r ∈ s.accepted, r.conversationId = p.conversationId →
        r.identity = p.identity := by
      intro r hr hrc
      obtain ⟨t, ht, how⟩ := hs.owner r hr
      rw [hrc] at ht
      have := ownerOf_latest ht (hown.conversation (by simp [ht]))
      rw [how] at this
      simpa using this
    -- the queue grew by `p` at most
    have hqueue : ∀ q ∈ (if queueUp then s.queue ++ [p] else s.queue), q ∈ s.queue ∨ q = p := by
      intro q hq
      cases queueUp
      · exact .inl (by simpa using hq)
      · simpa using hq
    rw [h]
    refine ⟨?_, ?_, ?_, ?_⟩
    · intro r hr
      rcases List.mem_cons.1 hr with rfl | hr
      · exact ⟨p.taskId, hreg.latest_self hc, hreg.owner_self⟩
      · exact hs.owner_of_registers hreg hc hconv htask hr
    · intro q hq
      rcases hqueue q hq with hq | rfl
      · obtain ⟨hne, r, hr, hrq⟩ := hs.registered q hq
        exact ⟨hne, r, List.mem_cons_of_mem _ hr, hrq⟩
      · exact ⟨hc, _, List.mem_cons_self, rfl, rfl⟩
    · intro q hq c hl
      rcases hqueue q hq with hq | rfl
      · by_cases hqp : q.taskId = p.taskId
        · rw [hqp, hown.queued q hq hqp]
          exact hreg.owner_self
        · have hcp : c ≠ p.conversationId := by
            rintro rfl
            have := hreg.latest_self hc
            rw [hl] at this
            exact hqp (by simpa using this)
          rw [hreg.owner_of_ne hqp]
          exact hs.latest q hq c (by rw [← hreg.latest_of_ne hcp, hl])
      · exact hreg.owner_self
    · intro q hq q' hq' hqq
      rcases hqueue q hq with hold | rfl <;> rcases hqueue q' hq' with hold' | rfl
      · exact hs.queued q hold q' hold' hqq
      · exact hown.queued q hold hqq
      · exact (hown.queued q' hold' hqq.symm).symm
      · rfl

lemma Stable.start (hs : s.Stable) (i : ℕ) : (s.startAgentTask i).Stable := by
  have hsub : ∀ q ∈ s.queue.eraseIdx i, q ∈ s.queue := fun q hq => List.mem_of_mem_eraseIdx hq
  rcases s.startAgentTask_cases i with h | h | ⟨p, n, rt, hp, -, hrt, h⟩
  · rw [h]
    exact hs
  · rw [h]
    exact hs.congr (.refl _) hsub rfl
  · have hpq : p ∈ s.queue := List.mem_of_getElem? hp
    have hreg := TaskRuntime.registers_startTask hrt
    obtain ⟨hc, r₀, hr₀, hrc₀, hri₀⟩ := hs.registered p hpq
    have hconv : ∀ r ∈ s.accepted, r.conversationId = p.conversationId →
        r.identity = p.identity := fun r hr hrc =>
      (hs.identity_unique hr hr₀ (hrc.trans hrc₀.symm)).trans hri₀
    rw [h]
    refine ⟨?_, ?_, ?_, ?_⟩
    · intro r hr
      exact hs.owner_of_registers hreg hc hconv (hs.latest p hpq) hr
    · exact fun q hq => hs.registered q (hsub q hq)
    · intro q hq c hl
      by_cases hqp : q.taskId = p.taskId
      · rw [hqp, hs.queued q (hsub q hq) p hpq hqp]
        exact hreg.owner_self
      · have hcp : c ≠ p.conversationId := by
          rintro rfl
          have := hreg.latest_self hc
          rw [hl] at this
          exact hqp (by simpa using this)
        rw [hreg.owner_of_ne hqp]
        exact hs.latest q (hsub q hq) c (by rw [← hreg.latest_of_ne hcp, hl])
    · exact fun q hq q' hq' => hs.queued q (hsub q hq) q' (hsub q' hq')

lemma Stable.step (hs : s.Stable) {a : Action} (ha : s.OwnIdsStep a) : (s.step a).Stable := by
  rcases s.step_frame a with ⟨text, p, queueUp, hatt⟩ | ⟨i, rfl⟩ | ⟨ho, hq, hacc⟩
  · rw [step_of_attempt hatt]
    exact hs.accept (attempt_conversationId_ne hatt) (ha text p queueUp hatt)
  · exact hs.start i
  · exact hs.congr ho (by simp [hq]) hacc

/-- In a stable state a registered conversation is owned by its identity and invisible to every
other one. -/
lemma Stable.owns (hs : s.Stable) {r : Registration} (hr : r ∈ s.accepted) :
    s.runtime.ownsConversation r.conversationId r.identity = true ∧
      ∀ other, other ≠ r.identity →
        s.runtime.ownsConversation r.conversationId other = false ∧
          s.runtime.getScoped r.conversationId other = none := by
  obtain ⟨t, ht, how⟩ := hs.owner r hr
  have hres : s.runtime.ownerOf (s.runtime.resolveTaskId r.conversationId) = some r.identity := by
    simp [TaskRuntime.resolveTaskId, ht, how]
  refine ⟨TaskRuntime.ownsConversation_iff.2 hres, fun other hne => ?_⟩
  have hother : s.runtime.ownerOf (s.runtime.resolveTaskId r.conversationId) ≠ some other := by
    rw [hres]
    simpa using hne.symm
  exact ⟨by simpa using mt TaskRuntime.ownsConversation_iff.1 hother,
    TaskRuntime.getScoped_eq_none.2 hother⟩

/-- An accepted request stays in the log. -/
lemma accepted_step (s : Brain) (a : Action) : ∀ r ∈ s.accepted, r ∈ (s.step a).accepted := by
  intro r hr
  rcases s.step_frame a with ⟨text, p, queueUp, hatt⟩ | ⟨i, rfl⟩ | ⟨-, -, hacc⟩
  · rw [step_of_attempt hatt]
    rcases s.accept_cases text p queueUp with h | ⟨rt, -, h⟩
    · rwa [h]
    · rw [h]
      exact List.mem_cons_of_mem _ hr
  · rcases s.startAgentTask_cases i with h | h | ⟨p, n, rt, -, -, -, h⟩ <;>
      simpa [Brain.step, h] using hr
  · rwa [hacc]

lemma accepted_run (as : List Action) (s : Brain) :
    ∀ r ∈ s.accepted, r ∈ (run step s as).accepted := by
  induction as generalizing s with
  | nil => exact fun r hr => hr
  | cons a as ih => exact fun r hr => ih (s.step a) r (accepted_step s a r hr)

/-! ### Stability along runs -/

/-- Ownership is stable in the run `as ++ bs`: whoever registered a conversation during `as` is
its only owner at the end. -/
def OwnershipStable (as bs : List Action) : Prop :=
  ∀ r ∈ (run step init as).accepted,
    (run step init (as ++ bs)).runtime.ownsConversation r.conversationId r.identity = true ∧
      ∀ other, other ≠ r.identity →
        (run step init (as ++ bs)).runtime.ownsConversation r.conversationId other = false ∧
          (run step init (as ++ bs)).runtime.getScoped r.conversationId other = none

/-- A run whose accepted requests only use ids that belong to nobody else keeps every owner. -/
theorem ownership_stable (as bs : List Action) (h : Along step OwnIdsStep init (as ++ bs)) :
    OwnershipStable as bs := by
  intro r hr
  have hstable : (run step init (as ++ bs)).Stable :=
    run_invariant (I := Stable) (fun _ _ hs ha => hs.step ha) stable_init h
  refine hstable.owns ?_
  rw [run_append]
  exact accepted_run bs _ r hr

/-- The caller who owns the conversation in the runs below. -/
def alice : Identity := ⟨"tenant_a", "alice", "shop_a"⟩

/-- A caller of another tenant. -/
def mallory : Identity := ⟨"tenant_b", "mallory", "shop_b"⟩

/-- A fresh uuid, for the ids that a request leaves out. -/
def freshUuid : Uuid := ⟨"4fa3", by decide⟩

/-- `alice` opens the conversation `c`. -/
def aliceOpens : List Action :=
  [.runTask alice ⟨"sales", none, some "c", some "t"⟩ freshUuid freshUuid true]

theorem ownership_stable_started :
    OwnershipStable aliceOpens [.startAgentTask 0, .cancelTask mallory "c"] :=
  ownership_stable _ _ (by
    refine ⟨fun text p up hatt _ => ?_, fun _ _ _ hatt _ => ?_, fun _ _ _ hatt _ => ?_, trivial⟩
    · cases hatt
      exact ⟨fun h => absurd rfl h, nofun, nofun⟩
    · cases hatt
    · cases hatt)

/-- A chat message into a foreign conversation makes its sender the owner. -/
theorem chat_takes_over :
    ¬ OwnershipStable aliceOpens
      [.chat mallory ⟨"hi", some "c"⟩ freshUuid freshUuid true true] := by
  intro h
  have := (h ⟨"c", "t", alice, false⟩ (by decide)).1
  revert this
  decide

end Brain

end EcommerceAgent.Runtime
