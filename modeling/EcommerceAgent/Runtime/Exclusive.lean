/-
# One accepted request per task id

`enqueue` only refuses an id whose asyncio task is running, and the payload of an accepted request
may wait in the queue before it is started.  As long as clients do not reuse the id of a request
that waits or runs, an id belongs to one accepted request at a time, the task state describes it,
and its agent is started once (`accepted_once`).
-/
import EcommerceAgent.Runtime.Ledger

open EcommerceAgent.Lib

namespace EcommerceAgent.Runtime

/-- An accepted request is open until it is cancelled before its start, or finished. -/
def Stage.isOpen : Stage → Bool
  | .waiting | .dropped | .started _ => true
  | .cancelled | .ended => false

/-- The state describes the request of the payload.  A chat request is stored with the user's text
first and with the text of the payload once it is started. -/
structure TaskState.Describes (state : TaskState) (p : Payload) : Prop where
  conversationId : state.conversationId = some p.conversationId
  identity : state.owner = some p.identity
  query : p.aiChat = false → state.query = some p.query

lemma TaskState.Describes.same {state state' : TaskState} {p : Payload} (h : state.Describes p)
    (hsame : TaskRuntime.SameEntry state state') : state'.Describes p where
  conversationId := hsame.conversationId.trans h.conversationId
  identity := hsame.owner.trans h.identity
  query hchat := hsame.query.trans (h.query hchat)

namespace Brain

/-- A request that the routes let through, under a task id that is not running, has a fresh id and
finds the queue working. -/
def AdmitStep (s : Brain) (a : Action) : Prop :=
  ∀ text p queueUp, s.attempt a = some (text, p, queueUp) →
    s.runtime.isRunning p.taskId = false → s.FreshId p ∧ queueUp = true

lemma AdmitStep.fresh {s : Brain} {a : Action} (h : s.AdmitStep a) : s.FreshStep a :=
  fun text p queueUp hatt hfree => (h text p queueUp hatt hfree).1

/-- A task request is registered with the query of its payload. -/
lemma attempt_query {s : Brain} {a : Action} {text : String} {p : Payload} {queueUp : Bool}
    (h : s.attempt a = some (text, p, queueUp)) (hchat : p.aiChat = false) : text = p.query := by
  cases a with
  | runTask identity request cu tu up =>
    simp only [attempt] at h
    split at h
    · cases h
    · cases h
      rfl
  | chat identity request cu tu stored up =>
    simp only [attempt] at h
    split at h
    · cases h
    · cases h
      cases hchat
  | _ => cases h

end Brain

namespace Ledger

/-- No two open requests share a task id, the state of the id of an open request describes it, and
no request is started twice. -/
structure AcceptedOnce (l : Ledger) : Prop where
  single : ∀ m < l.count, ∀ n < l.count, (l.log m).stage.isOpen = true →
    (l.log n).stage.isOpen = true →
    (l.log m).payload.taskId = (l.log n).payload.taskId → m = n
  described : ∀ n < l.count, (l.log n).stage.isOpen = true →
    ∃ state, l.brain.runtime.states (l.log n).payload.taskId = some state ∧
      state.Describes (l.log n).payload
  once : ∀ n < l.count, (l.log n).starts ≤ 1

/-- `enqueue` raises for the id of an open request. -/
def RefusesOpen (l : Ledger) (a : Action) : Prop :=
  ∀ text p queueUp, l.brain.attempt a = some (text, p, queueUp) →
    (∃ n < l.count, (l.log n).stage.isOpen = true ∧ (l.log n).payload.taskId = p.taskId) →
    ∃ detail, l.brain.runtime.enqueue p.taskId text ⟨p.conversationId, p.identity⟩ =
      .error detail

/-! ### The invariant -/

/-- Every waiting request is in the queue and not marked as cancelled, none is dropped, and the
states of the requests in the queue and of those that run describe them. -/
structure Kept (l : Ledger) : Prop extends l.Tidy where
  waiting : ∀ n < l.count, (l.log n).stage = .waiting → n ∈ l.tickets
  undropped : ∀ n < l.count, (l.log n).stage ≠ .dropped
  uncancelled : ∀ n ∈ l.tickets, (l.log n).stage = .waiting →
    l.brain.runtime.statusOf (l.log n).payload.taskId ≠ some .cancelled
  described : ∀ n < l.count, n ∈ l.tickets ∨ (∃ h, (l.log n).stage = .started h) →
    ∃ state, l.brain.runtime.states (l.log n).payload.taskId = some state ∧
      state.Describes (l.log n).payload

variable {l : Ledger}

lemma kept_init : init.Kept where
  toTidy := tidy_init
  waiting := nofun
  undropped := nofun
  uncancelled := nofun
  described := nofun

/-- A request in the queue or in a run is the last one of its id. -/
lemma Tidy.latest_of_active (hl : l.Tidy) {n : ℕ} (hn : n < l.count)
    (h : n ∈ l.tickets ∨ ∃ h, (l.log n).stage = .started h) : l.IsLatest n := by
  rcases h with hticket | ⟨h, hstage⟩
  · exact hl.ticket n hticket
  · exact (hl.started n hn h hstage).2

lemma Kept.active_of_open (hl : l.Kept) {n : ℕ} (hn : n < l.count)
    (hopen : (l.log n).stage.isOpen = true) :
    n ∈ l.tickets ∨ ∃ h, (l.log n).stage = .started h := by
  cases hstage : (l.log n).stage with
  | waiting => exact .inl (hl.waiting n hn hstage)
  | dropped => exact absurd hstage (hl.undropped n hn)
  | started h => exact .inr ⟨h, rfl⟩
  | cancelled =>
    rw [hstage] at hopen
    cases hopen
  | ended =>
    rw [hstage] at hopen
    cases hopen

/-- The remaining tickets are those of the other entries. -/
lemma mem_erase_of_ne {i n m : ℕ} (hn : l.tickets[i]? = some n) (hm : m ∈ l.tickets)
    (hne : m ≠ n) : m ∈ l.tickets.eraseIdx i := by
  obtain ⟨j, hj, hget⟩ := List.getElem_of_mem hm
  refine List.mem_eraseIdx_iff_getElem.2 ⟨j, hj, ?_, hget⟩
  rintro rfl
  rw [List.getElem?_eq_getElem hj, hget] at hn
  exact hne (Option.some.inj hn)

/-- A call that keeps the registrations and does not cancel a waiting request. -/
lemma Kept.same (hl : l.Kept) {b : Brain} (htidy : Tidy { l with brain := b })
    (hentries : TaskRuntime.SameEntries l.brain.runtime b.runtime)
    (hstatus : ∀ n ∈ l.tickets, l.brain.runtime.statusOf (l.log n).payload.taskId ≠
      some .cancelled → b.runtime.statusOf (l.log n).payload.taskId ≠ some .cancelled) :
    Kept { l with brain := b } where
  toTidy := htidy
  waiting := hl.waiting
  undropped := hl.undropped
  uncancelled n hn hstage := hstatus n hn (hl.uncancelled n hn hstage)
  described n hn hactive := by
    obtain ⟨state, hstate, hdescribes⟩ := hl.described n hn hactive
    obtain ⟨state', hstate', hsame⟩ := hentries _ state hstate
    exact ⟨state', hstate', hdescribes.same hsame⟩

lemma Kept.quiet (hl : l.Kept) {b : Brain} (htidy : Tidy { l with brain := b })
    (hrt : TaskRuntime.Quiet l.brain.runtime b.runtime) : Kept { l with brain := b } := by
  refine hl.same htidy hrt.entries fun n _ hne => ?_
  rcases hrt.status (l.log n).payload.taskId with h | ⟨-, h | h⟩ <;> rw [h]
  · exact hne
  · nofun
  · nofun

lemma Kept.interrupted (hl : l.Kept) {b : Brain} (htidy : Tidy { l with brain := b })
    {k reason summary : String} (hrt : b.runtime = (l.brain.runtime.interrupt k reason summary).2) :
    Kept { l with brain := b } := by
  refine hl.same htidy ?_ fun n _ hne => ?_
  · rw [hrt]
    exact TaskRuntime.sameEntries_interrupt _ _ _
  · rw [hrt]
    by_cases hk : (l.log n).payload.taskId = k
    · rw [hk, TaskRuntime.statusOf_interrupt]
      nofun
    · rwa [TaskRuntime.statusOf_of_states (Function.update_of_ne hk ..)]

lemma Kept.accepted (hl : l.Kept) {b : Brain} {text : String} {p : Payload}
    (htidy : (l.register b p true).Tidy) (hfresh : l.brain.FreshId p)
    (hstates : b.runtime.states = Function.update l.brain.runtime.states p.taskId
      (some (TaskRuntime.queuedState p.taskId text ⟨p.conversationId, p.identity⟩)))
    (htext : p.aiChat = false → text = p.query) : (l.register b p true).Kept := by
  have hlog : ∀ n < l.count, (l.register b p true).log n = l.log n :=
    fun n hn => Function.update_of_ne hn.ne ..
  have hnew : (l.register b p true).log l.count = { payload := p, stage := .waiting } :=
    Function.update_self ..
  have hid : ∀ n < l.count, n ∈ l.tickets ∨ (∃ h, (l.log n).stage = .started h) →
      (l.log n).payload.taskId ≠ p.taskId := by
    intro n hn hactive
    rcases hactive with hn | ⟨h, hstage⟩
    · refine hfresh.queue _ ?_
      rw [hl.queue]
      exact List.mem_map_of_mem hn
    · exact hfresh.running _ (hl.started n hn h hstage).1
  have hkeep : ∀ n < l.count, n ∈ l.tickets ∨ (∃ h, (l.log n).stage = .started h) →
      b.runtime.states (l.log n).payload.taskId =
        l.brain.runtime.states (l.log n).payload.taskId := by
    intro n hn hactive
    rw [hstates, Function.update_of_ne (hid n hn hactive)]
  refine ⟨htidy, fun n hn hstage => ?_, fun n hn => ?_, fun n hn hstage => ?_,
    fun n hn hactive => ?_⟩
  · rcases Nat.lt_succ_iff_lt_or_eq.1 hn with hn | rfl
    · rw [hlog n hn] at hstage
      exact List.mem_append_left _ (hl.waiting n hn hstage)
    · exact List.mem_append_right _ List.mem_cons_self
  · rcases Nat.lt_succ_iff_lt_or_eq.1 hn with hn | rfl
    · rw [hlog n hn]
      exact hl.undropped n hn
    · rw [hnew]
      nofun
  · rcases List.mem_append.1 hn with hn | hn
    · have hlt := (hl.ticket n hn).lt
      rw [hlog n hlt] at hstage ⊢
      rw [show (l.register b p true).brain = b from rfl,
        TaskRuntime.statusOf_of_states (hkeep n hlt (.inl hn))]
      exact hl.uncancelled n hn hstage
    · rw [List.mem_singleton.1 hn, hnew]
      simp [register, TaskRuntime.statusOf, hstates, TaskRuntime.queuedState]
  · rcases Nat.lt_succ_iff_lt_or_eq.1 hn with hn | rfl
    · rw [hlog n hn] at hactive ⊢
      have hactive : n ∈ l.tickets ∨ ∃ h, (l.log n).stage = .started h := by
        refine hactive.imp_left fun h => ?_
        rcases List.mem_append.1 h with h | h
        · exact h
        · exact absurd (List.mem_singleton.1 h) hn.ne
      rw [show (l.register b p true).brain = b from rfl, hkeep n hn hactive]
      exact hl.described n hn hactive
    · rw [hnew]
      refine ⟨_, (congrFun hstates _).trans (Function.update_self ..), rfl, rfl, fun hchat => ?_⟩
      exact congrArg some (htext hchat)

/-- A payload is only thrown away when its request was cancelled before. -/
lemma Kept.dropped (hl : l.Kept) {b : Brain} {i n : ℕ} {p : Payload}
    (htidy : (l.takeTicket b i n none).Tidy) (hp : l.brain.queue[i]? = some p)
    (hn : l.tickets[i]? = some n) (hstart : l.brain.startsAs p = none)
    (hrt : b.runtime = l.brain.runtime) : (l.takeTicket b i n none).Kept := by
  have hmem : n ∈ l.tickets := List.mem_of_getElem? hn
  have hcancelled : (l.log n).stage = .cancelled := by
    refine (hl.stage n hmem).resolve_left fun hwaiting => ?_
    have hrun := hl.not_running hmem
    have hstatus := hl.uncancelled n hmem hwaiting
    rw [hl.payload hp hn] at hrun hstatus
    have hnot : l.brain.runtime.isCancelled p.taskId = false := by
      simpa [TaskRuntime.isCancelled, TaskRuntime.statusOf] using hstatus
    simp [Brain.startsAs, hrun, hnot] at hstart
  have hstage : ∀ m, ((l.takeTicket b i n none).log m).stage = (l.log m).stage := by
    intro m
    by_cases hmn : m = n
    · subst hmn
      rw [log_takeTicket_self]
      simp [Acceptance.take, hcancelled]
    · rw [log_takeTicket_of_ne hmn]
  have hback : ∀ m ∈ (l.takeTicket b i n none).tickets, m ∈ l.tickets :=
    fun m hm => (hl.of_mem_erase hn hm).1
  refine ⟨htidy, fun m hm hwaiting => ?_, fun m hm => ?_, fun m hm hwaiting => ?_,
    fun m hm hactive => ?_⟩
  · rw [hstage] at hwaiting
    refine mem_erase_of_ne hn (hl.waiting m hm hwaiting) ?_
    rintro rfl
    cases hcancelled.symm.trans hwaiting
  · rw [hstage]
    exact hl.undropped m hm
  · rw [hstage] at hwaiting
    rw [payload_takeTicket, show (l.takeTicket b i n none).brain = b from rfl, hrt]
    exact hl.uncancelled m (hback m hm) hwaiting
  · rw [payload_takeTicket, show (l.takeTicket b i n none).brain = b from rfl, hrt]
    refine hl.described m hm (hactive.imp (hback m) ?_)
    rintro ⟨h, hh⟩
    rw [hstage] at hh
    exact ⟨h, hh⟩

lemma Kept.start (hl : l.Kept) {b : Brain} {i n : ℕ} {p : Payload} {h : ℕ}
    (htidy : (l.takeTicket b i n (some h)).Tidy) (hp : l.brain.queue[i]? = some p)
    (hn : l.tickets[i]? = some n)
    (hstates : b.runtime.states = Function.update l.brain.runtime.states p.taskId
      (some (TaskRuntime.startedState (l.brain.runtime.states p.taskId) p.taskId p.query
        ⟨p.conversationId, p.identity⟩))) : (l.takeTicket b i n (some h)).Kept := by
  have hmem : n ∈ l.tickets := List.mem_of_getElem? hn
  have hpayload := hl.payload hp hn
  have hother : ∀ m < l.count, m ≠ n → m ∈ l.tickets ∨ (∃ h, (l.log m).stage = .started h) →
      b.runtime.states (l.log m).payload.taskId =
        l.brain.runtime.states (l.log m).payload.taskId := by
    intro m hm hne hactive
    rw [hstates, Function.update_of_ne]
    intro hid
    rw [← hpayload] at hid
    exact hne ((hl.latest_of_active hm hactive).unique (hl.ticket n hmem) hid)
  refine ⟨htidy, fun m hm hwaiting => ?_, fun m hm => ?_, fun m hm hwaiting => ?_,
    fun m hm hactive => ?_⟩
  · by_cases hmn : m = n
    · subst hmn
      simp [Acceptance.take] at hwaiting
    · rw [log_takeTicket_of_ne hmn] at hwaiting
      exact mem_erase_of_ne hn (hl.waiting m hm hwaiting) hmn
  · by_cases hmn : m = n
    · subst hmn
      simp [Acceptance.take]
    · rw [log_takeTicket_of_ne hmn]
      exact hl.undropped m hm
  · obtain ⟨hm, hmn⟩ := hl.of_mem_erase hn hm
    rw [log_takeTicket_of_ne hmn] at hwaiting ⊢
    rw [show (l.takeTicket b i n (some h)).brain = b from rfl,
      TaskRuntime.statusOf_of_states (hother m (hl.ticket m hm).lt hmn (.inl hm))]
    exact hl.uncancelled m hm hwaiting
  · rw [payload_takeTicket]
    by_cases hmn : m = n
    · subst hmn
      rw [hpayload]
      exact ⟨_, (congrFun hstates _).trans (Function.update_self ..), rfl, rfl, fun _ => rfl⟩
    · rw [log_takeTicket_of_ne hmn] at hactive
      have hactive := hactive.imp_left fun h => (hl.of_mem_erase hn h).1
      rw [show (l.takeTicket b i n (some h)).brain = b from rfl, hother m hm hmn hactive]
      exact hl.described m hm hactive

lemma Kept.finished (hl : l.Kept) {b : Brain} {e : Execution}
    (htidy : Tidy { l with brain := b, log := fun n => (l.log n).finish e.handle })
    (he : e ∈ l.brain.running)
    (hrt : b.runtime = l.brain.runtime.finish e.payload.taskId e.handle) :
    Kept { l with brain := b, log := fun n => (l.log n).finish e.handle } := by
  have hstage : ∀ n stage, ((l.log n).finish e.handle).stage = stage → stage ≠ .ended →
      (l.log n).stage = stage := by
    intro n stage hs hne
    by_cases hended : (l.log n).stage = .started e.handle
    · rw [Acceptance.finish, if_pos hended] at hs
      exact absurd hs.symm hne
    · rwa [stage_finish hended] at hs
  refine ⟨htidy, fun n hn hwaiting => ?_, fun n hn hdropped => ?_, fun n hn hwaiting => ?_,
    fun n hn hactive => ?_⟩
  · exact hl.waiting n hn (hstage n _ hwaiting nofun)
  · exact hl.undropped n hn (hstage n _ hdropped nofun)
  · dsimp only
    rw [Acceptance.payload_finish, hrt, TaskRuntime.statusOf_of_states
      ((TaskRuntime.actsOn_finish _ _ _).states _ (hl.ticket_ne hn he))]
    exact hl.uncancelled n hn (hstage n _ hwaiting nofun)
  · dsimp only
    rw [Acceptance.payload_finish]
    obtain ⟨state, hstate, hdescribes⟩ := hl.described n hn
      (hactive.imp_right fun ⟨h, hh⟩ => ⟨h, hstage n _ hh nofun⟩)
    obtain ⟨state', hstate', hsame⟩ :=
      TaskRuntime.sameEntries_finish e.payload.taskId e.handle _ state hstate
    exact ⟨state', by rw [hrt]; exact hstate', hdescribes.same hsame⟩

lemma Kept.revoked (hl : l.Kept) {b : Brain} {t : String}
    (htidy : Tidy { l with
      brain := b, log := fun n => (l.log n).revoke t (l.brain.runtime.isRunning t) })
    (hrt : b.runtime = (l.brain.runtime.cancel t).2) :
    Kept { l with
      brain := b
      log := fun n => (l.log n).revoke t (l.brain.runtime.isRunning t) } := by
  have hstage : ∀ n stage,
      ((l.log n).revoke t (l.brain.runtime.isRunning t)).stage = stage → stage ≠ .cancelled →
      (l.log n).stage = stage := by
    intro n stage hs hne
    rcases stage_revoke t (l.brain.runtime.isRunning t) (l.log n) with hsame | ⟨-, hnew⟩
    · rwa [hsame] at hs
    · exact absurd (hs.symm.trans hnew) hne
  refine ⟨htidy, fun n hn hwaiting => ?_, fun n hn hdropped => ?_, fun n hn hwaiting => ?_,
    fun n hn hactive => ?_⟩
  · exact hl.waiting n hn (hstage n _ hwaiting nofun)
  · exact hl.undropped n hn (hstage n _ hdropped nofun)
  · -- a waiting request of the id itself would have been cancelled, since it does not run
    dsimp only at hwaiting ⊢
    have hne : (l.log n).payload.taskId ≠ t := by
      rintro rfl
      have hrun := hl.not_running hn
      have hold := hstage n _ hwaiting nofun
      simp [Acceptance.revoke, hrun, hold] at hwaiting
    rw [Acceptance.payload_revoke, hrt, TaskRuntime.statusOf_of_states
      ((TaskRuntime.settles_cancel _ t).states _ hne)]
    exact hl.uncancelled n hn (hstage n _ hwaiting nofun)
  · dsimp only
    rw [Acceptance.payload_revoke]
    obtain ⟨state, hstate, hdescribes⟩ := hl.described n hn
      (hactive.imp_right fun ⟨h, hh⟩ => ⟨h, hstage n _ hh nofun⟩)
    obtain ⟨state', hstate', hsame⟩ := TaskRuntime.sameEntries_cancel t _ state hstate
    exact ⟨state', by rw [hrt]; exact hstate', hdescribes.same hsame⟩

theorem Kept.step (hl : l.Kept) {a : Action} (ha : l.brain.AdmitStep a) : (l.step a).Kept := by
  have htidy := hl.toTidy.step ha.fresh
  have hmove := l.move hl.length a
  generalize l.step a = l' at hmove htidy
  cases hmove with
  | quiet hrt => exact hl.quiet htidy hrt
  | interrupted e summary _ hrt => exact hl.interrupted htidy hrt
  | accepted hatt hfree hrt =>
    obtain ⟨hfresh, rfl⟩ := ha _ _ _ hatt hfree
    exact hl.accepted htidy hfresh (by rw [hrt]) (Brain.attempt_query hatt)
  | dropped i n hp hn hstart hrt => exact hl.dropped htidy hp hn hstart hrt
  | started i n hp hn _ _ hrt => exact hl.start htidy hp hn (by rw [hrt])
  | completed he hmay hrt =>
    refine hl.same htidy (.of_eq (by rw [hrt])) fun n _ hne => ?_
    rwa [TaskRuntime.statusOf_of_states (by rw [hrt])]
  | finished he ho hrt => exact hl.finished htidy he hrt
  | revoked _ _ hrt => exact hl.revoked htidy hrt

/-! ### What the invariant gives -/

lemma Kept.acceptedOnce (hl : l.Kept) : l.AcceptedOnce where
  single _ hm _ hn hopen hopen' hid :=
    (hl.latest_of_active hm (hl.active_of_open hm hopen)).unique
      (hl.latest_of_active hn (hl.active_of_open hn hopen')) hid
  described n hn hopen := hl.described n hn (hl.active_of_open hn hopen)
  once := hl.starts

/-- A request with a fresh id meets no open request of this id. -/
lemma Kept.refusesOpen (hl : l.Kept) {a : Action} (ha : l.brain.AdmitStep a) : l.RefusesOpen a := by
  rintro text p queueUp hatt ⟨n, hn, hopen, hid⟩
  by_cases hrun : l.brain.runtime.isRunning p.taskId = true
  · exact ⟨"任务正在运行: " ++ p.taskId, if_pos hrun⟩
  · obtain ⟨hfresh, -⟩ := ha text p queueUp hatt (by simpa using hrun)
    rcases hl.active_of_open hn hopen with hticket | ⟨h, hstage⟩
    · refine absurd hid (hfresh.queue _ ?_)
      rw [hl.queue]
      exact List.mem_map_of_mem hticket
    · exact absurd hid (hfresh.running _ (hl.started n hn h hstage).1)

/-- In the run, `enqueue` raises for every id with an open request, and open requests are kept
apart in every state. -/
def AcceptsOnce (as : List Action) : Prop :=
  Along step RefusesOpen init as ∧ ∀ bs, bs <+: as → (run step init bs).AcceptedOnce

/-- A run whose accepted requests have fresh ids and find the queue working accepts every id once
at a time. -/
theorem accepted_once (as : List Action) (h : Along step (fun l a => l.brain.AdmitStep a) init as) :
    AcceptsOnce as := by
  refine ⟨along_of_invariant (I := Kept) (fun _ _ hl ha => hl.step ha)
    (fun _ _ hl ha => hl.refusesOpen ha) kept_init h, ?_⟩
  rintro bs ⟨cs, rfl⟩
  have hbs := ((along_append init bs cs).1 h).1
  exact (run_invariant (I := Kept) (fun _ _ hl ha => hl.step ha) kept_init hbs).acceptedOnce

/-- A request for the task `t` of the conversation `c`. -/
def taskRequest (identity : Identity) (query c : String) : Action :=
  .runTask identity ⟨query, none, some c, some "t"⟩ Brain.freshUuid Brain.freshUuid true

theorem accepted_once_repeated :
    AcceptsOnce [taskRequest Brain.alice "sales" "c", .startAgentTask 0,
      taskRequest Brain.mallory "stock" "d"] :=
  accepted_once _ (by
    refine ⟨fun text p up hatt _ => ?_, fun _ _ _ hatt _ => ?_, fun text p up hatt hfree => ?_,
      trivial⟩
    · cases hatt
      exact ⟨⟨nofun, nofun⟩, rfl⟩
    · cases hatt
    · -- the first task is running, so the second request is refused
      cases hatt
      exact absurd hfree (by decide))

/-- Two callers register the same task id, one after the other, before the worker starts it. -/
theorem accepted_twice :
    ¬ AcceptsOnce [taskRequest Brain.alice "sales" "c", taskRequest Brain.mallory "stock" "d"] := by
  rintro ⟨-, h⟩
  have hsingle := (h _ (List.prefix_refl _)).single 0 (by decide) 1 (by decide) (by decide)
    (by decide) (by decide)
  cases hsingle

end Ledger

end EcommerceAgent.Runtime
