/-
# Cancellation

`cancel` writes its decision into the status of the id, and everybody who writes this status later
undoes it: a second request under the id, an agent that asks for an approval under a conversation of
the same name, and the `_finish` of a task that returns in spite of its cancellation.  Without these
a cancelled request is never started again, and it ends as cancelled (`cancellation_final`).
-/
import EcommerceAgent.Runtime.Exclusive

open EcommerceAgent.Lib

namespace EcommerceAgent.Runtime

namespace Brain

/-- The condition on one step: accepted requests have fresh ids, an asyncio task whose cancellation
was requested ends as cancelled, and no agent asks for an approval under an id that is being
cancelled. -/
structure FinalStep (s : Brain) (a : Action) : Prop where
  fresh : s.FreshStep a
  complete : ∀ e o, a = .complete e o → e ∈ s.running →
    (s.runtime.asyncTask e.handle).cancelRequested = true → o = .cancelled
  interrupt : ∀ e summary, a = .requestApproval e summary → e ∈ s.started →
    s.runtime.statusOf (threadContext e) ≠ some .cancelling ∧
      s.runtime.statusOf (threadContext e) ≠ some .cancelled

end Brain

namespace Ledger

/-- No request is started after `cancel` returned true for its id, and as long as no later request
reuses the id, its status is cancelling until its task is finished, and cancelled from then on. -/
structure CancellationFinal (l : Ledger) : Prop where
  unstarted : ∀ n < l.count, (l.log n).lateStarts = 0
  status : ∀ n, l.IsLatest n → (l.log n).revoked = true →
    l.brain.runtime.statusOf (l.log n).payload.taskId = some .cancelling ∨
      l.brain.runtime.statusOf (l.log n).payload.taskId = some .cancelled
  final : ∀ n, l.IsLatest n → (l.log n).revoked = true →
    (∀ h, (l.log n).stage ≠ .started h) →
    l.brain.runtime.statusOf (l.log n).payload.taskId = some .cancelled

/-! ### The invariant -/

/-- The asyncio task `h` has ended as cancelled, or it has been asked to. -/
def Ending (rt : TaskRuntime) (h : ℕ) : Prop :=
  rt.outcomeOf h = some .cancelled ∨
    rt.outcomeOf h = none ∧ (rt.asyncTask h).cancelRequested = true

/-- What is known about the last request `n` of an id, in terms of its entry and the runtime. -/
structure Settled (a : Acceptance) (rt : TaskRuntime) : Prop where
  state : rt.states a.payload.taskId ≠ none
  unqueued : ∀ h, a.stage = .started h → rt.statusOf a.payload.taskId ≠ some .queued
  withdrawn : a.revoked = true → (∀ h, a.stage ≠ .started h) →
    rt.statusOf a.payload.taskId = some .cancelled
  ending : a.revoked = true → ∀ h, a.stage = .started h →
    (rt.statusOf a.payload.taskId = some .cancelling ∨
      rt.statusOf a.payload.taskId = some .cancelled) ∧ Ending rt h

/-- The last request of every id is settled, and no request was started late. -/
structure Cancelled (l : Ledger) : Prop extends l.Tidy where
  notLate : ∀ n < l.count, (l.log n).lateStarts = 0
  settled : ∀ n, l.IsLatest n → Settled (l.log n) l.brain.runtime

variable {l : Ledger}

lemma cancelled_init : init.Cancelled where
  toTidy := tidy_init
  notLate := nofun
  settled := fun _ hn => absurd hn.lt (Nat.not_lt_zero _)

lemma Cancelled.final (hl : l.Cancelled) : l.CancellationFinal where
  unstarted := hl.notLate
  status n hn hrevoked := by
    by_cases hstage : ∃ h, (l.log n).stage = .started h
    · obtain ⟨h, hh⟩ := hstage
      exact ((hl.settled n hn).ending hrevoked h hh).1
    · exact .inr ((hl.settled n hn).withdrawn hrevoked (not_exists.1 hstage))
  final n hn hrevoked := (hl.settled n hn).withdrawn hrevoked

/-- A change of other ids and of other asyncio tasks. -/
lemma Settled.congr {a : Acceptance} {rt rt' : TaskRuntime} (h : Settled a rt)
    (hstate : rt'.states a.payload.taskId = rt.states a.payload.taskId)
    (htask : ∀ g, a.stage = .started g → Ending rt g → Ending rt' g) : Settled a rt' where
  state := by
    rw [hstate]
    exact h.state
  unqueued g hg := by
    rw [TaskRuntime.statusOf_of_states hstate]
    exact h.unqueued g hg
  withdrawn hrevoked hstage := by
    rw [TaskRuntime.statusOf_of_states hstate]
    exact h.withdrawn hrevoked hstage
  ending hrevoked g hg := by
    rw [TaskRuntime.statusOf_of_states hstate]
    exact ⟨(h.ending hrevoked g hg).1, htask g hg (h.ending hrevoked g hg).2⟩

lemma states_of_sameEntries {rt rt' : TaskRuntime} (h : TaskRuntime.SameEntries rt rt') {t : String}
    (hstate : rt.states t ≠ none) : rt'.states t ≠ none := by
  obtain ⟨state, hstate⟩ := Option.ne_none_iff_exists'.1 hstate
  obtain ⟨state', hstate', -⟩ := h t state hstate
  rw [hstate']
  nofun

lemma Settled.quiet {a : Acceptance} {rt rt' : TaskRuntime} (h : Settled a rt)
    (hrt : TaskRuntime.Quiet rt rt') : Settled a rt' := by
  have hending : ∀ g, Ending rt g → Ending rt' g := by
    intro g hg
    unfold Ending
    rw [hrt.outcomes, hrt.requests]
    exact hg
  have hkept : ∀ status, rt.statusOf a.payload.taskId = some status → status ≠ .interrupted →
      rt'.statusOf a.payload.taskId = some status := by
    intro status hstatus hne
    rcases hrt.status a.payload.taskId with hsame | ⟨hinterrupted, -⟩
    · exact hsame.trans hstatus
    · exact absurd (Option.some.inj (hstatus.symm.trans hinterrupted)) hne
  refine ⟨states_of_sameEntries hrt.entries h.state, fun g hg => ?_, fun hrevoked hstage => ?_,
    fun hrevoked g hg => ?_⟩
  · rcases hrt.status a.payload.taskId with hs | ⟨-, hs | hs⟩ <;> rw [hs]
    · exact h.unqueued g hg
    · nofun
    · nofun
  · exact hkept _ (h.withdrawn hrevoked hstage) nofun
  · obtain ⟨hstatus, hend⟩ := h.ending hrevoked g hg
    exact ⟨hstatus.imp (hkept _ · nofun) (hkept _ · nofun), hending g hend⟩

lemma Settled.interrupt {a : Acceptance} {rt : TaskRuntime} (h : Settled a rt)
    {k reason summary : String}
    (hk : rt.statusOf k ≠ some .cancelling ∧ rt.statusOf k ≠ some .cancelled) :
    Settled a (rt.interrupt k reason summary).2 := by
  by_cases hid : a.payload.taskId = k
  · -- nobody has revoked a request of the interrupted id
    have hopen : a.revoked ≠ true := by
      intro hrevoked
      by_cases hstage : ∃ g, a.stage = .started g
      · obtain ⟨g, hg⟩ := hstage
        rcases (h.ending hrevoked g hg).1 with hs | hs <;> rw [hid] at hs
        · exact hk.1 hs
        · exact hk.2 hs
      · have hs := h.withdrawn hrevoked (not_exists.1 hstage)
        rw [hid] at hs
        exact hk.2 hs
    have hstatus := rt.statusOf_interrupt k reason summary
    refine ⟨states_of_sameEntries (TaskRuntime.sameEntries_interrupt _ _ _) h.state,
      fun g _ => ?_, fun hrevoked => absurd hrevoked hopen,
      fun hrevoked => absurd hrevoked hopen⟩
    rw [hid, hstatus]
    nofun
  · exact h.congr (Function.update_of_ne hid ..) fun _ _ hg => hg

/-! ### One step -/

lemma Cancelled.same (hl : l.Cancelled) {b : Brain} (htidy : Tidy { l with brain := b })
    (hsettled : ∀ n, l.IsLatest n → Settled (l.log n) l.brain.runtime →
      Settled (l.log n) b.runtime) : Cancelled { l with brain := b } where
  toTidy := htidy
  notLate := hl.notLate
  settled n hn := hsettled n (isLatest_brain.1 hn) (hl.settled n (isLatest_brain.1 hn))

lemma Cancelled.accepted (hl : l.Cancelled) {b : Brain} {text : String} {p : Payload}
    {queueUp : Bool} (htidy : (l.register b p queueUp).Tidy)
    (hstates : b.runtime.states = Function.update l.brain.runtime.states p.taskId
      (some (TaskRuntime.queuedState p.taskId text ⟨p.conversationId, p.identity⟩)))
    (hasync : b.runtime.asyncTask = l.brain.runtime.asyncTask) :
    (l.register b p queueUp).Cancelled := by
  have hlog : ∀ n < l.count, (l.register b p queueUp).log n = l.log n :=
    fun n hn => Function.update_of_ne hn.ne ..
  have hnew : (l.register b p queueUp).log l.count = { payload := p, stage := .waiting } :=
    Function.update_self ..
  refine ⟨htidy, fun n hn => ?_, fun n hn => ?_⟩
  · rcases Nat.lt_succ_iff_lt_or_eq.1 hn with hn | rfl
    · rw [hlog n hn]
      exact hl.notLate n hn
    · rw [hnew]
  · rcases Nat.lt_succ_iff_lt_or_eq.1 hn.lt with hlt | rfl
    · -- the last request of another id
      have hold : l.IsLatest n := by
        refine ⟨hlt, fun m hm hid => ?_⟩
        exact hn.last m (Nat.lt_succ_of_lt hm) (by rwa [hlog m hm, hlog n hlt])
      have hid : (l.log n).payload.taskId ≠ p.taskId := by
        intro hid
        have := hn.last l.count (Nat.lt_succ_self _) (by rw [hnew, hlog n hlt, hid])
        omega
      rw [hlog n hlt]
      refine (hl.settled n hold).congr ?_ fun g _ hg => ?_
      · exact (congrFun hstates _).trans (Function.update_of_ne hid ..)
      · unfold Ending TaskRuntime.outcomeOf
        rw [show (l.register b p queueUp).brain = b from rfl, hasync]
        exact hg
    · rw [hnew]
      refine ⟨?_, nofun, nofun, nofun⟩
      rw [show (l.register b p queueUp).brain = b from rfl, hstates]
      simp

lemma Cancelled.dropped (hl : l.Cancelled) {b : Brain} {i n : ℕ}
    (htidy : (l.takeTicket b i n none).Tidy) (hn : l.tickets[i]? = some n)
    (hrt : b.runtime = l.brain.runtime) : (l.takeTicket b i n none).Cancelled := by
  have hmem : n ∈ l.tickets := List.mem_of_getElem? hn
  refine ⟨htidy, fun m hm => ?_, fun m hm => ?_⟩
  · by_cases hmn : m = n
    · subst hmn
      rw [log_takeTicket_self]
      exact hl.notLate m hm
    · rw [log_takeTicket_of_ne hmn]
      exact hl.notLate m hm
  · rw [isLatest_takeTicket] at hm
    rw [show (l.takeTicket b i n none).brain = b from rfl, hrt]
    by_cases hmn : m = n
    · subst hmn
      have hsettled := hl.settled m hm
      rw [log_takeTicket_self]
      have hnot : ∀ h, (l.log m).stage ≠ .started h := by
        rintro h hs
        rcases hl.stage m hmem with hw | hw <;> cases hw.symm.trans hs
      refine ⟨hsettled.state, fun h hs => ?_, fun hrevoked _ => hsettled.withdrawn hrevoked hnot,
        fun hrevoked h hs => ?_⟩
      all_goals
        simp only [Acceptance.take] at hs
        split at hs
        · cases hs
        · exact absurd hs (hnot h)
    · rw [log_takeTicket_of_ne hmn]
      exact hl.settled m hm

/-- A request that is started has not been revoked. -/
lemma Cancelled.start (hl : l.Cancelled) {b : Brain} {i n : ℕ} {p : Payload}
    (htidy : (l.takeTicket b i n (some l.brain.runtime.nextTask)).Tidy)
    (hp : l.brain.queue[i]? = some p) (hn : l.tickets[i]? = some n)
    (hcancelled : l.brain.runtime.isCancelled p.taskId = false)
    (hstates : b.runtime.states = Function.update l.brain.runtime.states p.taskId
      (some (TaskRuntime.startedState (l.brain.runtime.states p.taskId) p.taskId p.query
        ⟨p.conversationId, p.identity⟩)))
    (hasync : b.runtime.asyncTask =
      Function.update l.brain.runtime.asyncTask l.brain.runtime.nextTask {}) :
    (l.takeTicket b i n (some l.brain.runtime.nextTask)).Cancelled := by
  have hmem : n ∈ l.tickets := List.mem_of_getElem? hn
  have hpayload := hl.payload hp hn
  have hopen : (l.log n).revoked ≠ true := by
    intro hrevoked
    have hstatus := (hl.settled n (hl.ticket n hmem)).withdrawn hrevoked (by
      rintro h hs
      rcases hl.stage n hmem with hw | hw <;> cases hw.symm.trans hs)
    rw [hpayload] at hstatus
    have hyes : l.brain.runtime.isCancelled p.taskId = true := by
      unfold TaskRuntime.statusOf at hstatus
      simp [TaskRuntime.isCancelled, hstatus]
    cases hcancelled.symm.trans hyes
  refine ⟨htidy, fun m hm => ?_, fun m hm => ?_⟩
  · by_cases hmn : m = n
    · subst hmn
      rw [log_takeTicket_self]
      simpa [Acceptance.take, hopen] using hl.notLate m hm
    · rw [log_takeTicket_of_ne hmn]
      exact hl.notLate m hm
  · rw [isLatest_takeTicket] at hm
    rw [show (l.takeTicket b i n (some l.brain.runtime.nextTask)).brain = b from rfl]
    by_cases hmn : m = n
    · subst hmn
      rw [log_takeTicket_self]
      have hrunning : b.runtime.statusOf p.taskId = some .running := by
        simp [TaskRuntime.statusOf, hstates, TaskRuntime.startedState]
      refine ⟨?_, fun h _ => ?_, fun hrevoked => absurd hrevoked hopen,
        fun hrevoked => absurd hrevoked hopen⟩
      · rw [Acceptance.payload_take, hpayload, hstates]
        simp
      · rw [Acceptance.payload_take, hpayload, hrunning]
        intro hqueued
        cases hqueued
    · rw [log_takeTicket_of_ne hmn]
      have hid : (l.log m).payload.taskId ≠ p.taskId := by
        intro hid
        rw [← hpayload] at hid
        exact hmn (hm.unique (hl.ticket n hmem) hid)
      refine (hl.settled m hm).congr ?_ fun g hg hend => ?_
      · rw [hstates, Function.update_of_ne hid]
      · have hlt := hl.handle_lt _ (hl.started m hm.lt g hg).1
        unfold Ending TaskRuntime.outcomeOf
        rw [hasync, Function.update_of_ne hlt.ne]
        exact hend

/-- A task whose cancellation was requested ends as cancelled. -/
lemma Settled.complete {a : Acceptance} {rt : TaskRuntime} (h : Settled a rt) {g : ℕ} {o : Outcome}
    (hnone : rt.outcomeOf g = none)
    (ho : (rt.asyncTask g).cancelRequested = true → o = .cancelled) :
    Settled a { rt with
      asyncTask := Function.update rt.asyncTask g { rt.asyncTask g with outcome := some o } } := by
  refine h.congr rfl fun k _ hend => ?_
  by_cases hk : k = g
  · subst hk
    rcases hend with hdone | ⟨-, hrequested⟩
    · cases hnone.symm.trans hdone
    · refine .inl ?_
      simp [TaskRuntime.outcomeOf, ho hrequested]
  · unfold Ending TaskRuntime.outcomeOf
    dsimp only
    rw [Function.update_of_ne hk]
    exact hend

lemma Cancelled.finished (hl : l.Cancelled) {b : Brain} {e : Execution} {o : Outcome}
    (htidy : Tidy { l with brain := b, log := fun n => (l.log n).finish e.handle })
    (he : e ∈ l.brain.running) (ho : l.brain.runtime.outcomeOf e.handle = some o)
    (hrt : b.runtime = l.brain.runtime.finish e.payload.taskId e.handle) :
    Cancelled { l with brain := b, log := fun n => (l.log n).finish e.handle } := by
  refine ⟨htidy, fun n hn => ?_, fun n hn => ?_⟩
  · have hlate : ((l.log n).finish e.handle).lateStarts = (l.log n).lateStarts := by
      unfold Acceptance.finish
      split <;> rfl
    exact hlate.trans (hl.notLate n hn)
  · have hn : l.IsLatest n := by
      refine ⟨hn.lt, fun m hm hid => hn.last m hm ?_⟩
      simpa using hid
    have hsettled := hl.settled n hn
    dsimp only
    rw [hrt]
    have hact := l.brain.runtime.actsOn_finish e.payload.taskId e.handle
    have hsame := l.brain.runtime.sameTasks_finish e.payload.taskId e.handle
    by_cases hid : (l.log n).payload.taskId = e.payload.taskId
    · -- the finished run is the one of the last request
      have hstage := hl.running e he n hn hid
      have hfinish : (l.log n).finish e.handle = { l.log n with stage := .ended } := by
        rw [Acceptance.finish, if_pos hstage]
      rw [hfinish]
      refine ⟨?_, fun h hs => ?_, fun hrevoked _ => ?_, fun _ h hs => ?_⟩
      · exact states_of_sameEntries (TaskRuntime.sameEntries_finish _ _) hsettled.state
      · cases hs
      · obtain ⟨-, hend⟩ := hsettled.ending hrevoked _ hstage
        have hcancelled : o = .cancelled := by
          rcases hend with hdone | ⟨hnone, -⟩
          · exact Option.some.inj (ho.symm.trans hdone)
          · cases ho.symm.trans hnone
        obtain ⟨state, hstate⟩ := Option.ne_none_iff_exists'.1 hsettled.state
        dsimp only
        rw [hid] at hstate ⊢
        rw [TaskRuntime.statusOf_finish ho, hstate, hcancelled]
        rfl
      · cases hs
    · have hstage : (l.log n).stage ≠ .started e.handle := by
        intro hs
        have hmem := (hl.started n hn.lt _ hs).1
        exact hid (congrArg (·.payload.taskId)
          (List.inj_on_of_nodup_map hl.handles hmem he rfl))
      have hfinish : (l.log n).finish e.handle = l.log n := by
        rw [Acceptance.finish, if_neg hstage]
      rw [hfinish]
      refine hsettled.congr (hact.states _ hid) fun g _ hend => ?_
      unfold Ending
      rw [hsame.outcomes]
      refine hend.imp_right (And.imp_right fun hrequested => ?_)
      unfold TaskRuntime.finish
      split <;> exact hrequested

/-- `cancel` withdraws no cancel request. -/
lemma cancelRequested_cancel {rt : TaskRuntime} (t : String) {g : ℕ}
    (hg : (rt.asyncTask g).cancelRequested = true) :
    ((rt.cancel t).2.asyncTask g).cancelRequested = true := by
  have habort : (rt.abortInterrupt t).asyncTask = rt.asyncTask := by
    unfold TaskRuntime.abortInterrupt
    split <;> rfl
  rcases rt.cancel_cases t with ⟨h, -, -, hc⟩ | ⟨-, -, hc⟩ | ⟨-, -, hc⟩ <;> rw [hc]
  · by_cases hgh : g = h
    · subst hgh
      simp [TaskRuntime.requestCancel]
    · simpa [TaskRuntime.requestCancel, TaskRuntime.modifyState, habort, hgh] using hg
  · simpa [TaskRuntime.modifyState, habort] using hg
  · simpa [habort] using hg

/-- `cancel` requests the end of the running task of the id. -/
lemma cancelRequested_of_running {rt : TaskRuntime} {t : String} {h : ℕ} (hh : rt.tasks t = some h)
    (hrun : rt.isRunning t = true) : ((rt.cancel t).2.asyncTask h).cancelRequested = true := by
  rcases rt.cancel_cases t with ⟨g, -, hg, hc⟩ | ⟨hno, -, -⟩ | ⟨hno, -, -⟩
  · obtain rfl : g = h := Option.some.inj (hg.symm.trans hh)
    rw [hc]
    simp [TaskRuntime.requestCancel]
  · cases hno.symm.trans hrun
  · cases hno.symm.trans hrun

/-- The runtime after a successful `cancel`, for the last request of the id. -/
lemma Cancelled.settled_cancel (hl : l.Cancelled) {t : String}
    (hdone : (l.brain.runtime.cancel t).1 = true) {n : ℕ} (hn : l.IsLatest n) :
    Settled ((l.log n).revoke t (l.brain.runtime.isRunning t)) (l.brain.runtime.cancel t).2 := by
  have hsettled := hl.settled n hn
  have hact := (l.brain.runtime.settles_cancel t).toActsOn
  have hsame := l.brain.runtime.sameTasks_cancel t
  by_cases hid : (l.log n).payload.taskId = t
  · have hstate : (l.brain.runtime.cancel t).2.states
        ((l.log n).revoke t (l.brain.runtime.isRunning t)).payload.taskId ≠ none := by
      rw [Acceptance.payload_revoke]
      exact states_of_sameEntries (TaskRuntime.sameEntries_cancel t) hsettled.state
    rcases l.brain.runtime.statusOf_cancel t with ⟨hrun, hstatus⟩ | ⟨hrun, hqueued, hstatus⟩ |
      ⟨hno, -, -⟩
    · -- the task of the id runs: it is the one of the last request
      obtain ⟨h, hh, hnone⟩ := TaskRuntime.isRunning_iff.1 hrun
      obtain ⟨e, he, het, heh⟩ := hl.live t h hh hnone
      have hstage : (l.log n).stage = .started h := by
        rw [← heh]
        exact hl.running e he n hn (hid.trans het.symm)
      have hrevoke : ((l.log n).revoke t true).stage = .started h := by
        rcases stage_revoke t true (l.log n) with hkept | ⟨hwaiting, -⟩
        · exact hkept.trans hstage
        · cases hwaiting.symm.trans hstage
      have hcancelling : (l.brain.runtime.cancel t).2.statusOf t = some .cancelling := by
        obtain ⟨state, hs⟩ := Option.ne_none_iff_exists'.1 hsettled.state
        rw [hid] at hs
        rw [hstatus, hs]
        rfl
      rw [hrun] at hstate ⊢
      refine ⟨hstate, fun g _ => ?_, fun _ hno => absurd hrevoke (hno h), fun _ g hg => ?_⟩
      · rw [Acceptance.payload_revoke, hid, hcancelling]
        intro hqueued
        cases hqueued
      · obtain rfl : h = g := Stage.started.inj (hrevoke.symm.trans hg)
        rw [Acceptance.payload_revoke, hid]
        refine ⟨.inl hcancelling, .inr ⟨?_, cancelRequested_of_running hh hrun⟩⟩
        rw [hsame.outcomes]
        exact hnone
    · -- the request still waits, since its status is queued
      have hstage : ∀ h, ((l.log n).revoke t (l.brain.runtime.isRunning t)).stage ≠ .started h := by
        intro h hs
        rcases stage_revoke t (l.brain.runtime.isRunning t) (l.log n) with hkept | ⟨-, hnew⟩
        · refine hsettled.unqueued h (hkept.symm.trans hs) ?_
          rw [hid]
          exact hqueued
        · cases hnew.symm.trans hs
      refine ⟨hstate, fun h hs => absurd hs (hstage h), fun _ _ => ?_,
        fun _ h hs => absurd hs (hstage h)⟩
      rw [Acceptance.payload_revoke, hid]
      exact hstatus
    · cases hno.symm.trans hdone
  · have hrevoke : (l.log n).revoke t (l.brain.runtime.isRunning t) = l.log n := by
      rw [Acceptance.revoke, if_neg hid]
    rw [hrevoke]
    refine hsettled.congr (hact.states _ hid) fun g _ hend => ?_
    unfold Ending
    rw [hsame.outcomes]
    exact hend.imp_right (And.imp_right (cancelRequested_cancel t))

lemma Cancelled.revoked (hl : l.Cancelled) {b : Brain} {t : String}
    (htidy : Tidy { l with
      brain := b, log := fun n => (l.log n).revoke t (l.brain.runtime.isRunning t) })
    (hdone : (l.brain.runtime.cancel t).1 = true)
    (hrt : b.runtime = (l.brain.runtime.cancel t).2) :
    Cancelled { l with
      brain := b, log := fun n => (l.log n).revoke t (l.brain.runtime.isRunning t) } := by
  refine ⟨htidy, fun n hn => ?_, fun n hn => ?_⟩
  · have hlate : ((l.log n).revoke t (l.brain.runtime.isRunning t)).lateStarts =
        (l.log n).lateStarts := by
      unfold Acceptance.revoke
      split <;> rfl
    exact hlate.trans (hl.notLate n hn)
  · have hn : l.IsLatest n := by
      refine ⟨hn.lt, fun m hm hid => hn.last m hm ?_⟩
      simpa using hid
    dsimp only
    rw [hrt]
    exact hl.settled_cancel hdone hn

/-- Every step that meets the condition keeps cancellations final. -/
theorem Cancelled.step (hl : l.Cancelled) {a : Action} (ha : l.brain.FinalStep a) :
    (l.step a).Cancelled := by
  have htidy := hl.toTidy.step ha.fresh
  have hmove := l.move hl.length a
  generalize l.step a = l' at hmove htidy
  cases hmove with
  | quiet hrt => exact hl.same htidy fun n _ hn => hn.quiet hrt
  | interrupted e summary hcan hrt =>
    refine hl.same htidy fun n _ hn => ?_
    rw [hrt]
    exact hn.interrupt (ha.interrupt e summary rfl hcan.1)
  | accepted hatt hfree hrt => exact hl.accepted htidy (by rw [hrt]) (by rw [hrt])
  | dropped i n hp hn hstart hrt => exact hl.dropped htidy hn hrt
  | started i n hp hn hcancelled hfree hrt =>
    exact hl.start htidy hp hn hcancelled (by rw [hrt]) (by rw [hrt])
  | @completed e o he hmay _ hrt =>
    refine hl.same htidy fun n _ hn => ?_
    rw [hrt]
    exact hn.complete hmay.1 (ha.complete e o rfl he)
  | finished he ho hrt => exact hl.finished htidy he ho hrt
  | revoked _ hdone hrt => exact hl.revoked htidy hdone hrt

/-! ### Every run -/

/-- In every state of the run, cancellations are final. -/
def CancelsFinally (as : List Action) : Prop :=
  ∀ bs, bs <+: as → (run step init bs).CancellationFinal

/-- A run whose accepted requests have fresh ids, whose cancelled tasks end as cancelled, and whose
agents ask for no approval under a cancelled id keeps every cancellation. -/
theorem cancellation_final (as : List Action)
    (h : Along step (fun l a => l.brain.FinalStep a) init as) : CancelsFinally as := by
  rintro bs ⟨cs, rfl⟩
  have hbs := ((along_append init bs cs).1 h).1
  exact (run_invariant (I := Cancelled) (fun _ _ hl ha => hl.step ha) cancelled_init hbs).final

/-- A cancelled request is thrown away by the worker. -/
theorem cancellation_final_waiting :
    CancelsFinally [taskRequest Brain.alice "sales" "c", .cancelTask Brain.alice "t",
      .startAgentTask 0] :=
  cancellation_final _ (by
    refine ⟨⟨fun text p up hatt _ => ?_, nofun, nofun⟩, ⟨nofun, nofun, nofun⟩,
      ⟨nofun, nofun, nofun⟩, trivial⟩
    cases hatt
    exact ⟨nofun, nofun⟩)

/-- The client posts a task, cancels it, and posts another one under the same id: the worker takes
the cancelled payload from the queue and starts it. -/
theorem cancelled_started :
    ¬ CancelsFinally [taskRequest Brain.alice "sales" "c", .cancelTask Brain.alice "t",
      taskRequest Brain.alice "stock" "c", .startAgentTask 0] := by
  intro h
  have hlate := (h _ (List.prefix_refl _)).unstarted 0 (by decide)
  exact absurd hlate (by decide)

end Ledger

end EcommerceAgent.Runtime
