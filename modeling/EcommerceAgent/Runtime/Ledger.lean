/-
# The ledger of accepted requests and the process

One inversion lemma for the steps of the ledger, and the invariant that ties its entries to the
queue and to the started agents, as long as no request reuses the task id of a payload that is still
waiting or of a run that is not finished (`Tidy`).
-/
import EcommerceAgent.Runtime.Acceptance
import Mathlib.Data.List.InsertIdx
import Mathlib.Data.List.Nodup

open EcommerceAgent.Lib

namespace EcommerceAgent.Runtime

namespace Brain

/-- Neither a payload in the queue nor a run that is not finished has the task id of `p`. -/
structure FreshId (s : Brain) (p : Payload) : Prop where
  queue : ∀ q ∈ s.queue, q.taskId ≠ p.taskId
  running : ∀ e ∈ s.running, e.payload.taskId ≠ p.taskId

/-- A request that the routes let through, under a task id that is not running, has a fresh id. -/
def FreshStep (s : Brain) (a : Action) : Prop :=
  ∀ text p queueUp, s.attempt a = some (text, p, queueUp) →
    s.runtime.isRunning p.taskId = false → s.FreshId p

end Brain

namespace Ledger

/-- What one step of the ledger can be; `b` is the process after it. -/
inductive Move (l : Ledger) : Action → Ledger → Prop
  | quiet {a : Action} {b : Brain} (hrt : TaskRuntime.Quiet l.brain.runtime b.runtime)
      (hq : b.queue = l.brain.queue) (hr : b.running = l.brain.running) :
      Move l a { l with brain := b }
  | interrupted (e : Execution) (summary : String)
      (hcan : e ∈ l.brain.started ∧ Brain.threadContext e ≠ "") {b : Brain}
      (hrt : b.runtime = (l.brain.runtime.interrupt (Brain.threadContext e)
        "database_change_approval" summary).2)
      (hq : b.queue = l.brain.queue) (hr : b.running = l.brain.running) :
      Move l (.requestApproval e summary) { l with brain := b }
  | accepted {a : Action} {text : String} {p : Payload} {queueUp : Bool}
      (hatt : l.brain.attempt a = some (text, p, queueUp))
      (hfree : l.brain.runtime.isRunning p.taskId = false) {b : Brain}
      (hrt : b.runtime = { l.brain.runtime with
        states := Function.update l.brain.runtime.states p.taskId
          (some (TaskRuntime.queuedState p.taskId text ⟨p.conversationId, p.identity⟩))
        conversationLatestTask := l.brain.runtime.setLatest p.conversationId p.taskId })
      (hq : b.queue = if queueUp then l.brain.queue ++ [p] else l.brain.queue)
      (hr : b.running = l.brain.running) : Move l a (l.register b p queueUp)
  | dropped (i n : ℕ) {p : Payload} (hp : l.brain.queue[i]? = some p)
      (hn : l.tickets[i]? = some n) (hstart : l.brain.startsAs p = none) {b : Brain}
      (hrt : b.runtime = l.brain.runtime) (hq : b.queue = l.brain.queue.eraseIdx i)
      (hr : b.running = l.brain.running) : Move l (.startAgentTask i) (l.takeTicket b i n none)
  | started (i n : ℕ) {p : Payload} (hp : l.brain.queue[i]? = some p)
      (hn : l.tickets[i]? = some n) (hcancelled : l.brain.runtime.isCancelled p.taskId = false)
      (hfree : l.brain.runtime.isRunning p.taskId = false) {b : Brain}
      (hrt : b.runtime = { l.brain.runtime with
        tasks := Function.update l.brain.runtime.tasks p.taskId (some l.brain.runtime.nextTask)
        asyncTask := Function.update l.brain.runtime.asyncTask l.brain.runtime.nextTask {}
        nextTask := l.brain.runtime.nextTask + 1
        states := Function.update l.brain.runtime.states p.taskId
          (some (TaskRuntime.startedState (l.brain.runtime.states p.taskId) p.taskId p.query
            ⟨p.conversationId, p.identity⟩))
        conversationLatestTask := l.brain.runtime.setLatest p.conversationId p.taskId })
      (hq : b.queue = l.brain.queue.eraseIdx i)
      (hr : b.running = ⟨p, l.brain.runtime.nextTask⟩ :: l.brain.running) :
      Move l (.startAgentTask i) (l.takeTicket b i n (some l.brain.runtime.nextTask))
  | completed {e : Execution} {o : Outcome} (he : e ∈ l.brain.running)
      (hmay : l.brain.MayComplete e.handle o) {b : Brain}
      (hrt : b.runtime = { l.brain.runtime with
        asyncTask := Function.update l.brain.runtime.asyncTask e.handle
          { l.brain.runtime.asyncTask e.handle with outcome := some o } })
      (hq : b.queue = l.brain.queue) (hr : b.running = l.brain.running) :
      Move l (.complete e o) { l with brain := b }
  | finished {e : Execution} {o : Outcome} (he : e ∈ l.brain.running)
      (ho : l.brain.runtime.outcomeOf e.handle = some o) {b : Brain}
      (hrt : b.runtime = l.brain.runtime.finish e.payload.taskId e.handle)
      (hq : b.queue = l.brain.queue) (hr : b.running = l.brain.running.erase e) :
      Move l (.finish e) { l with brain := b, log := fun n => (l.log n).finish e.handle }
  | revoked {a : Action} {t : String} (hcancels : l.brain.cancels a = some t)
      (hdone : (l.brain.runtime.cancel t).1 = true) {b : Brain}
      (hrt : b.runtime = (l.brain.runtime.cancel t).2) (hq : b.queue = l.brain.queue)
      (hr : b.running = l.brain.running) :
      Move l a { l with
        brain := b, log := fun n => (l.log n).revoke t (l.brain.runtime.isRunning t) }

variable {l : Ledger}

lemma step_of_refused {a : Action} (hadmits : l.brain.admits a = none)
    (hstart : ∀ i, a ≠ .startAgentTask i) (hfinish : ∀ e, a ≠ .finish e)
    (hcancels : l.brain.cancels a = none) : l.step a = { l with brain := l.brain.step a } := by
  unfold step
  dsimp only
  rw [hadmits]
  dsimp only
  split
  · exact absurd rfl (hstart _)
  · exact absurd rfl (hfinish _)
  · rw [hcancels]

lemma step_of_cancels {a : Action} {t : String} (hcancels : l.brain.cancels a = some t) :
    l.step a = { l with
      brain := l.brain.step a
      log := fun n => (l.log n).revoke t (l.brain.runtime.isRunning t) } := by
  have hadmits : l.brain.admits a = none := by
    cases a <;> first | rfl | cases hcancels
  unfold step
  dsimp only
  rw [hadmits]
  dsimp only
  split
  · cases hcancels
  · cases hcancels
  · rw [hcancels]

lemma plain_of_attempt {s : Brain} {a : Action} {text : String} {p : Payload} {queueUp : Bool}
    (hatt : s.attempt a = some (text, p, queueUp)) :
    (∀ i, a ≠ .startAgentTask i) ∧ (∀ e, a ≠ .finish e) ∧ s.cancels a = none := by
  cases a with
  | runTask | chat => exact ⟨fun _ => nofun, fun _ => nofun, rfl⟩
  | _ => cases hatt

/-- An accepting route registers the payload, or nothing happens. -/
lemma move_attempt {a : Action} {text : String} {p : Payload} {queueUp : Bool}
    (hatt : l.brain.attempt a = some (text, p, queueUp)) : l.Move a (l.step a) := by
  by_cases hrun : l.brain.runtime.isRunning p.taskId = true
  · have hadmits : l.brain.admits a = none := by
      simp [Brain.admits, hatt, hrun]
    have hsame : l.brain.step a = l.brain := by
      rw [Brain.step_of_attempt hatt]
      simp [Brain.accept, TaskRuntime.enqueue, hrun]
    obtain ⟨hstart, hfinish, hcancels⟩ := plain_of_attempt hatt
    rw [step_of_refused hadmits hstart hfinish hcancels, hsame]
    exact .quiet (.refl _) rfl rfl
  · have hrun : l.brain.runtime.isRunning p.taskId = false := by simpa using hrun
    have hadmits : l.brain.admits a = some (p, queueUp) := by
      simp [Brain.admits, hatt, hrun]
    have hstep : l.step a = l.register (l.brain.step a) p queueUp := by
      unfold step
      dsimp only
      rw [hadmits]
    rw [hstep, Brain.step_of_attempt hatt]
    refine .accepted hatt hrun ?_ ?_ ?_
    all_goals
      simp only [Brain.accept, TaskRuntime.enqueue, hrun, Bool.false_eq_true, if_false]
      cases queueUp <;> rfl

/-- A cancel route calls `cancel` on the id that it resolves, or nothing happens. -/
lemma move_cancel {a : Action} {t : String}
    (hstep : l.brain.step a = { l.brain with runtime := (l.brain.runtime.cancel t).2 })
    (hcancels : l.brain.cancels a = if (l.brain.runtime.cancel t).1 then some t else none)
    (hplain : l.brain.admits a = none ∧ (∀ i, a ≠ .startAgentTask i) ∧ ∀ e, a ≠ .finish e) :
    l.Move a (l.step a) := by
  cases hdone : (l.brain.runtime.cancel t).1 with
  | true =>
    have hcancels : l.brain.cancels a = some t := by rw [hcancels, hdone]; rfl
    rw [step_of_cancels hcancels, hstep]
    exact .revoked hcancels hdone rfl rfl rfl
  | false =>
    have hcancels : l.brain.cancels a = none := by rw [hcancels, hdone]; rfl
    rw [step_of_refused hplain.1 hplain.2.1 hplain.2.2 hcancels, hstep]
    exact .quiet (TaskRuntime.quiet_cancel hdone) rfl rfl

lemma move_start (hlength : l.tickets.length = l.brain.queue.length) (i : ℕ) :
    l.Move (.startAgentTask i) (l.step (.startAgentTask i)) := by
  cases hp : l.brain.queue[i]? with
  | none =>
    have hsame : l.brain.step (.startAgentTask i) = l.brain := by
      simp [Brain.step, Brain.startAgentTask, hp]
    have hstep : l.step (.startAgentTask i) = { l with brain := l.brain } := by
      simp [step, hp, hsame, Brain.admits, Brain.attempt]
    rw [hstep]
    exact .quiet (.refl _) rfl rfl
  | some p =>
    obtain ⟨n, hn⟩ : ∃ n, l.tickets[i]? = some n := by
      have hi : i < l.brain.queue.length := (List.getElem?_eq_some_iff.1 hp).1
      exact ⟨_, List.getElem?_eq_getElem (hlength ▸ hi)⟩
    have hstep : l.step (.startAgentTask i) =
        l.takeTicket (l.brain.step (.startAgentTask i)) i n (l.brain.startsAs p) := by
      simp [step, hp, hn, Brain.admits, Brain.attempt]
    rw [hstep]
    by_cases hcancelled : l.brain.runtime.isCancelled p.taskId = true
    · have hnone : l.brain.startsAs p = none := by simp [Brain.startsAs, hcancelled]
      rw [hnone]
      refine .dropped i n hp hn hnone ?_ ?_ ?_ <;>
        simp [Brain.step, Brain.startAgentTask, hp, hcancelled]
    · have hcancelled : l.brain.runtime.isCancelled p.taskId = false := by simpa using hcancelled
      by_cases hrun : l.brain.runtime.isRunning p.taskId = true
      · have hnone : l.brain.startsAs p = none := by simp [Brain.startsAs, hrun]
        rw [hnone]
        refine .dropped i n hp hn hnone ?_ ?_ ?_ <;>
          simp [Brain.step, Brain.startAgentTask, hp, hcancelled, TaskRuntime.startTask, hrun]
      · have hrun : l.brain.runtime.isRunning p.taskId = false := by simpa using hrun
        have hsome : l.brain.startsAs p = some l.brain.runtime.nextTask := by
          simp [Brain.startsAs, hcancelled, hrun]
        rw [hsome]
        refine .started i n hp hn hcancelled hrun ?_ ?_ ?_ <;>
          simp [Brain.step, Brain.startAgentTask, hp, hcancelled, TaskRuntime.startTask, hrun]

lemma move_finish {e : Execution} (hadmits : l.brain.admits (.finish e) = none) :
    l.Move (.finish e) (l.step (.finish e)) := by
  by_cases hcond : e ∈ l.brain.running ∧
      (l.brain.runtime.asyncTask e.handle).outcome.isSome = true
  · obtain ⟨o, ho⟩ := Option.isSome_iff_exists.1 hcond.2
    have hstep : l.step (.finish e) = { l with
        brain := l.brain.step (.finish e), log := fun n => (l.log n).finish e.handle } := by
      unfold step
      dsimp only
      rw [hadmits]
      exact if_pos hcond
    rw [hstep]
    refine .finished hcond.1 ho ?_ ?_ ?_ <;>
      simp only [Brain.step, Brain.finish, hcond, and_self, if_true]
  · have hstep : l.step (.finish e) = { l with brain := l.brain } := by
      unfold step
      dsimp only
      rw [hadmits]
      refine (if_neg hcond).trans ?_
      simp only [Brain.step, Brain.finish, if_neg hcond]
    rw [hstep]
    exact .quiet (.refl _) rfl rfl

/-- Every step of the ledger is one of the moves. -/
lemma move (hlength : l.tickets.length = l.brain.queue.length) (a : Action) :
    l.Move a (l.step a) := by
  cases hatt : l.brain.attempt a with
  | some r => exact move_attempt hatt
  | none =>
    have hadmits : l.brain.admits a = none := by rw [Brain.admits, hatt]
    by_cases hs : ∃ i, a = .startAgentTask i
    · obtain ⟨i, rfl⟩ := hs
      exact move_start hlength i
    by_cases hf : ∃ e, a = .finish e
    · obtain ⟨e, rfl⟩ := hf
      exact move_finish hadmits
    have hstart := not_exists.1 hs
    have hfinish := not_exists.1 hf
    cases a with
    | runTask identity request cu tu up =>
      have hsame : l.brain.step (.runTask identity request cu tu up) = l.brain := by
        simp only [Brain.attempt] at hatt
        split at hatt
        · rename_i hguard
          exact congrArg Prod.snd (if_pos hguard)
        · cases hatt
      rw [step_of_refused hadmits hstart hfinish rfl, hsame]
      exact .quiet (.refl _) rfl rfl
    | chat identity request cu tu stored up =>
      have hsame : l.brain.step (.chat identity request cu tu stored up) = l.brain := by
        simp only [Brain.attempt] at hatt
        split at hatt
        · rename_i hguard
          simp only [Brain.step, Brain.chat]
          split
          · rfl
          · rename_i hcontent
            rw [if_pos (by simpa using hguard.resolve_left hcontent)]
        · cases hatt
      rw [step_of_refused hadmits hstart hfinish rfl, hsame]
      exact .quiet (.refl _) rfl rfl
    | startAgentTask i => exact absurd rfl (hstart i)
    | complete e o =>
      rw [step_of_refused hadmits hstart hfinish rfl]
      simp only [Brain.step, Brain.complete]
      split
      · rename_i hcond
        exact .completed hcond.1 hcond.2 rfl rfl rfl
      · exact .quiet (.refl _) rfl rfl
    | finish e => exact absurd rfl (hfinish e)
    | cancelTask identity x =>
      cases hget : l.brain.runtime.getScoped (l.brain.runtime.resolveTaskId x) identity with
      | none =>
        have hsame : l.brain.step (.cancelTask identity x) = l.brain := by
          simp [Brain.step, Brain.cancelTask, hget]
        have hcancels : l.brain.cancels (.cancelTask identity x) = none := by
          simp [Brain.cancels, Brain.cancelTask, hget, Response.cancelledId]
        rw [step_of_refused hadmits hstart hfinish hcancels, hsame]
        exact .quiet (.refl _) rfl rfl
      | some state =>
        refine move_cancel (t := l.brain.runtime.resolveTaskId x) ?_ ?_
          ⟨hadmits, hstart, hfinish⟩
        · simp [Brain.step, Brain.cancelTask, hget]
        · simp only [Brain.cancels, Brain.cancelTask, hget]
          cases (l.brain.runtime.cancel (l.brain.runtime.resolveTaskId x)).1 <;> rfl
    | cancelAiChatTask identity t open_ =>
      by_cases hknown : ∃ r ∈ l.brain.accepted, r.aiChat = true ∧ r.taskId = t ∧
          r.identity = identity
      · cases open_ with
        | true =>
          refine move_cancel (t := t) ?_ ?_ ⟨hadmits, hstart, hfinish⟩
          · simp [Brain.step, Brain.cancelAiChatTask, hknown]
          · simp only [Brain.cancels, Brain.cancelAiChatTask, hknown, if_true]
            cases (l.brain.runtime.cancel t).1 <;> rfl
        | false =>
          have hsame : l.brain.step (.cancelAiChatTask identity t false) = l.brain := by
            simp [Brain.step, Brain.cancelAiChatTask, hknown]
          have hcancels : l.brain.cancels (.cancelAiChatTask identity t false) = none := by
            simp [Brain.cancels, Brain.cancelAiChatTask, hknown, Response.cancelledId]
          rw [step_of_refused hadmits hstart hfinish hcancels, hsame]
          exact .quiet (.refl _) rfl rfl
      · have hsame : l.brain.step (.cancelAiChatTask identity t open_) = l.brain := by
          simp only [Brain.step, Brain.cancelAiChatTask, if_neg hknown]
        have hcancels : l.brain.cancels (.cancelAiChatTask identity t open_) = none := by
          simp only [Brain.cancels, Brain.cancelAiChatTask, if_neg hknown]
          rfl
        rw [step_of_refused hadmits hstart hfinish hcancels, hsame]
        exact .quiet (.refl _) rfl rfl
    | resumeTask identity x decision instruction =>
      rw [step_of_refused hadmits hstart hfinish rfl]
      simp only [Brain.step, Brain.resumeTask]
      split
      · exact .quiet (.refl _) rfl rfl
      · split
        · exact .quiet (.refl _) rfl rfl
        · rename_i hres
          exact .quiet (TaskRuntime.quiet_resume hres) rfl rfl
    | requestApproval e summary =>
      rw [step_of_refused hadmits hstart hfinish rfl]
      simp only [Brain.step, Brain.requestApproval]
      split
      · rename_i hcan
        exact .interrupted e summary hcan rfl rfl rfl
      · exact .quiet (.refl _) rfl rfl
    | abandon w =>
      rw [step_of_refused hadmits hstart hfinish rfl]
      simp only [Brain.step, Brain.abandon]
      split
      · exact .quiet ⟨⟨rfl, rfl, rfl⟩, fun _ => rfl, .of_eq rfl, fun _ => .inl rfl⟩ rfl rfl
      · exact .quiet (.refl _) rfl rfl

/-! ### The invariant of fresh ids -/

/-- The entry `n` is the last one for its task id. -/
structure IsLatest (l : Ledger) (n : ℕ) : Prop where
  lt : n < l.count
  last : ∀ m < l.count, (l.log m).payload.taskId = (l.log n).payload.taskId → m ≤ n

lemma IsLatest.unique {m n : ℕ} (hm : l.IsLatest m) (hn : l.IsLatest n)
    (h : (l.log m).payload.taskId = (l.log n).payload.taskId) : m = n := by
  have hmn := hn.last m hm.lt h
  have hnm := hm.last n hn.lt h.symm
  omega

/-- The last entries do not depend on the process. -/
lemma isLatest_brain {b : Brain} {n : ℕ} : IsLatest { l with brain := b } n ↔ l.IsLatest n :=
  ⟨fun h => ⟨h.lt, h.last⟩, fun h => ⟨h.lt, h.last⟩⟩

/-- The tickets number the queue; their entries and those of the unfinished runs are the last ones
of their task ids, and every running task belongs to an unfinished run. -/
structure Tidy (l : Ledger) : Prop where
  queue : l.brain.queue = l.tickets.map fun n => (l.log n).payload
  nodup : l.tickets.Nodup
  stage : ∀ n ∈ l.tickets, (l.log n).stage = .waiting ∨ (l.log n).stage = .cancelled
  unstarted : ∀ n ∈ l.tickets, (l.log n).starts = 0
  ticket : ∀ n ∈ l.tickets, l.IsLatest n
  starts : ∀ n < l.count, (l.log n).starts ≤ 1
  started : ∀ n < l.count, ∀ h, (l.log n).stage = .started h →
    ⟨(l.log n).payload, h⟩ ∈ l.brain.running ∧ l.IsLatest n
  running : ∀ e ∈ l.brain.running, ∀ n, l.IsLatest n →
    (l.log n).payload.taskId = e.payload.taskId → (l.log n).stage = .started e.handle
  handles : (l.brain.running.map Execution.handle).Nodup
  handle_lt : ∀ e ∈ l.brain.running, e.handle < l.brain.runtime.nextTask
  task_lt : ∀ t h, l.brain.runtime.tasks t = some h → h < l.brain.runtime.nextTask
  live : ∀ t h, l.brain.runtime.tasks t = some h → l.brain.runtime.outcomeOf h = none →
    ∃ e ∈ l.brain.running, e.payload.taskId = t ∧ e.handle = h

lemma tidy_init : init.Tidy where
  queue := rfl
  nodup := List.nodup_nil
  stage := nofun
  unstarted := nofun
  ticket := nofun
  starts := nofun
  started := nofun
  running := nofun
  handles := List.nodup_nil
  handle_lt := nofun
  task_lt := nofun
  live := nofun

lemma Tidy.length (hl : l.Tidy) : l.tickets.length = l.brain.queue.length := by
  rw [hl.queue, List.length_map]

lemma Tidy.payload (hl : l.Tidy) {i n : ℕ} {p : Payload} (hp : l.brain.queue[i]? = some p)
    (hn : l.tickets[i]? = some n) : (l.log n).payload = p := by
  rw [hl.queue, List.getElem?_map, hn] at hp
  exact Option.some.inj hp

/-- No unfinished run has the task id of a waiting payload. -/
lemma Tidy.ticket_ne (hl : l.Tidy) {n : ℕ} (hn : n ∈ l.tickets) {e : Execution}
    (he : e ∈ l.brain.running) : (l.log n).payload.taskId ≠ e.payload.taskId := by
  intro h
  have hstarted := hl.running e he n (hl.ticket n hn) h
  rcases hl.stage n hn with hstage | hstage <;> cases hstage.symm.trans hstarted

lemma Tidy.not_running (hl : l.Tidy) {n : ℕ} (hn : n ∈ l.tickets) :
    l.brain.runtime.isRunning (l.log n).payload.taskId = false := by
  by_contra hrun
  obtain ⟨h, hh, hnone⟩ := TaskRuntime.isRunning_iff.1 (by simpa using hrun)
  obtain ⟨e, he, hid, -⟩ := hl.live _ h hh hnone
  exact hl.ticket_ne hn he hid.symm

/-- A change of the process that keeps the queue, the runs and the tasks. -/
lemma Tidy.same (hl : l.Tidy) {b : Brain} (hq : b.queue = l.brain.queue)
    (hr : b.running = l.brain.running)
    (htasks : TaskRuntime.SameTasks l.brain.runtime b.runtime) : Tidy { l with brain := b } where
  queue := hq.trans hl.queue
  nodup := hl.nodup
  stage := hl.stage
  unstarted := hl.unstarted
  ticket n hn := isLatest_brain.2 (hl.ticket n hn)
  starts := hl.starts
  started n hn h hstage := by
    obtain ⟨hmem, hlatest⟩ := hl.started n hn h hstage
    exact ⟨hr.symm ▸ hmem, isLatest_brain.2 hlatest⟩
  running e he n hn := hl.running e (hr ▸ he) n (isLatest_brain.1 hn)
  handles := by
    rw [hr]
    exact hl.handles
  handle_lt e he := by
    rw [htasks.nextTask]
    exact hl.handle_lt e (hr ▸ he)
  task_lt t h ht := by
    rw [htasks.nextTask]
    exact hl.task_lt t h (htasks.tasks ▸ ht)
  live t h ht hnone := by
    rw [hr]
    exact hl.live t h (htasks.tasks ▸ ht) (htasks.outcomes ▸ hnone)

/-- A change of the entries of the log that keeps their payloads and the stage of every entry that
was started. -/
lemma Tidy.mapLog (hl : l.Tidy) {f : Acceptance → Acceptance}
    (hpayload : ∀ a, (f a).payload = a.payload) (hstarts : ∀ a, (f a).starts = a.starts)
    (hwaiting : ∀ a, a.stage = .waiting ∨ a.stage = .cancelled →
      (f a).stage = .waiting ∨ (f a).stage = .cancelled)
    (hstarted : ∀ a h, (f a).stage = .started h ↔ a.stage = .started h) :
    Tidy { l with log := fun n => f (l.log n) } := by
  have hlatest : ∀ n, IsLatest { l with log := fun n => f (l.log n) } n ↔ l.IsLatest n := by
    refine fun n => ⟨fun h => ⟨h.lt, fun m hm hid => ?_⟩, fun h => ⟨h.lt, fun m hm hid => ?_⟩⟩
    · exact h.last m hm (by simpa [hpayload] using hid)
    · exact h.last m hm (by simpa [hpayload] using hid)
  refine ⟨?_, hl.nodup, fun n hn => hwaiting _ (hl.stage n hn),
    fun n hn => (hstarts _).trans (hl.unstarted n hn), fun n hn => (hlatest n).2 (hl.ticket n hn),
    fun n hn => (hstarts _).trans_le (hl.starts n hn), fun n hn h hstage => ?_,
    fun e he n hn hid => ?_, hl.handles, hl.handle_lt, hl.task_lt, hl.live⟩
  · simpa [hpayload] using hl.queue
  · obtain ⟨hmem, hn'⟩ := hl.started n hn h ((hstarted _ h).1 hstage)
    exact ⟨by simpa [hpayload] using hmem, (hlatest n).2 hn'⟩
  · rw [hpayload] at hid
    exact (hstarted _ _).2 (hl.running e he n ((hlatest n).1 hn) hid)

lemma stage_revoke (t : String) (run : Bool) (a : Acceptance) :
    (a.revoke t run).stage = a.stage ∨
      a.stage = .waiting ∧ (a.revoke t run).stage = .cancelled := by
  unfold Acceptance.revoke
  split
  · dsimp only
    split
    · rename_i h
      exact .inr ⟨h.1, rfl⟩
    · exact .inl rfl
  · exact .inl rfl

lemma Tidy.revoke (hl : l.Tidy) (t : String) (run : Bool) :
    Tidy { l with log := fun n => (l.log n).revoke t run } := by
  refine hl.mapLog (fun a => a.payload_revoke t run) (fun a => ?_) (fun a ha => ?_) fun a h => ?_
  · unfold Acceptance.revoke
    split <;> rfl
  · rcases stage_revoke t run a with hsame | ⟨-, hnew⟩
    · rwa [hsame]
    · exact .inr hnew
  · rcases stage_revoke t run a with hsame | ⟨hold, hnew⟩
    · rw [hsame]
    · rw [hold, hnew]
      simp

/-- A request under a fresh id gets the last entry of its id. -/
lemma Tidy.accepted (hl : l.Tidy) {b : Brain} {p : Payload} {queueUp : Bool}
    (hfresh : l.brain.FreshId p) (htasks : TaskRuntime.SameTasks l.brain.runtime b.runtime)
    (hq : b.queue = if queueUp then l.brain.queue ++ [p] else l.brain.queue)
    (hr : b.running = l.brain.running) : (l.register b p queueUp).Tidy := by
  have hlog : ∀ n < l.count, (l.register b p queueUp).log n = l.log n :=
    fun n hn => Function.update_of_ne hn.ne ..
  have hnew : (l.register b p queueUp).log l.count = { payload := p, stage := .waiting } :=
    Function.update_self ..
  have hlt : ∀ n ∈ l.tickets, n < l.count := fun n hn => (hl.ticket n hn).lt
  have hticket : ∀ n ∈ (l.register b p queueUp).tickets, n ∈ l.tickets ∨ n = l.count := by
    intro n hn
    cases queueUp
    · exact .inl hn
    · exact (List.mem_append.1 hn).imp_right List.mem_singleton.1
  -- entries of other ids stay the last ones of their ids
  have hkeep : ∀ n, l.IsLatest n → (l.log n).payload.taskId ≠ p.taskId →
      (l.register b p queueUp).IsLatest n := by
    intro n hn hid
    refine ⟨Nat.lt_succ_of_lt hn.lt, fun m hm hmn => ?_⟩
    rcases Nat.lt_succ_iff_lt_or_eq.1 hm with hm | rfl
    · exact hn.last m hm (by rwa [hlog m hm, hlog n hn.lt] at hmn)
    · rw [hnew, hlog n hn.lt] at hmn
      exact absurd hmn.symm hid
  have hback : ∀ n < l.count, (l.register b p queueUp).IsLatest n → l.IsLatest n := by
    refine fun n hn hlatest => ⟨hn, fun m hm hmn => ?_⟩
    exact hlatest.last m (Nat.lt_succ_of_lt hm) (by rwa [hlog m hm, hlog n hn])
  have hqueue : ∀ n ∈ l.tickets, (l.log n).payload.taskId ≠ p.taskId := by
    intro n hn
    refine hfresh.queue _ ?_
    rw [hl.queue]
    exact List.mem_map_of_mem hn
  have hmap : l.tickets.map (fun n => ((l.register b p queueUp).log n).payload) =
      l.brain.queue := by
    rw [hl.queue]
    exact List.map_congr_left fun n hn => by rw [hlog n (hlt n hn)]
  refine ⟨?_, ?_, ?_, ?_, ?_, ?_, ?_, ?_, ?_, ?_, ?_, ?_⟩
  · refine hq.trans ?_
    cases queueUp
    · exact hmap.symm
    · simp only [register, if_true, List.map_append, List.map_singleton]
      rw [show (l.register b p true).log = Function.update l.log l.count
        { payload := p, stage := .waiting } from rfl] at hmap
      rw [hmap, Function.update_self]
  · cases queueUp
    · exact hl.nodup
    · refine List.nodup_append.2 ⟨hl.nodup, by simp, fun n hn m hm => ?_⟩
      rw [List.mem_singleton.1 hm]
      exact (hlt n hn).ne
  · intro n hn
    rcases hticket n hn with hn | rfl
    · rw [hlog n (hlt n hn)]
      exact hl.stage n hn
    · rw [hnew]
      exact .inl rfl
  · intro n hn
    rcases hticket n hn with hn | rfl
    · rw [hlog n (hlt n hn)]
      exact hl.unstarted n hn
    · rw [hnew]
  · intro n hn
    rcases hticket n hn with hn | rfl
    · exact hkeep n (hl.ticket n hn) (hqueue n hn)
    · exact ⟨Nat.lt_succ_self _, fun m hm _ => Nat.lt_succ_iff.1 hm⟩
  · intro n hn
    rcases Nat.lt_succ_iff_lt_or_eq.1 hn with hn | rfl
    · rw [hlog n hn]
      exact hl.starts n hn
    · rw [hnew]
      exact Nat.zero_le _
  · intro n hn h hstage
    rcases Nat.lt_succ_iff_lt_or_eq.1 hn with hn | rfl
    · rw [hlog n hn] at hstage ⊢
      obtain ⟨hmem, hlatest⟩ := hl.started n hn h hstage
      exact ⟨hr.symm ▸ hmem, hkeep n hlatest (hfresh.running _ hmem)⟩
    · rw [hnew] at hstage
      cases hstage
  · intro e he n hn hid
    have he : e ∈ l.brain.running := hr ▸ he
    rcases Nat.lt_succ_iff_lt_or_eq.1 hn.lt with hlt | rfl
    · rw [hlog n hlt] at hid ⊢
      exact hl.running e he n (hback n hlt hn) hid
    · rw [hnew] at hid
      exact absurd hid.symm (hfresh.running e he)
  · exact (congrArg (fun r => (r.map Execution.handle).Nodup) hr).mpr hl.handles
  · exact fun e he => (hl.handle_lt e (hr ▸ he)).trans_eq htasks.nextTask.symm
  · exact fun t h ht => (hl.task_lt t h (htasks.tasks ▸ ht)).trans_eq htasks.nextTask.symm
  · intro t h ht hnone
    obtain ⟨e, he, hid⟩ := hl.live t h (htasks.tasks ▸ ht) (htasks.outcomes ▸ hnone)
    exact ⟨e, hr.symm ▸ he, hid⟩

@[simp] lemma log_takeTicket_self {b : Brain} {i n : ℕ} {h : Option ℕ} :
    (l.takeTicket b i n h).log n = (l.log n).take h := Function.update_self ..

lemma log_takeTicket_of_ne {b : Brain} {i n m : ℕ} {h : Option ℕ} (hm : m ≠ n) :
    (l.takeTicket b i n h).log m = l.log m := Function.update_of_ne hm ..

@[simp] lemma payload_takeTicket {b : Brain} {i n m : ℕ} {h : Option ℕ} :
    ((l.takeTicket b i n h).log m).payload = (l.log m).payload := by
  by_cases hm : m = n
  · subst hm
    simp
  · rw [log_takeTicket_of_ne hm]

lemma isLatest_takeTicket {b : Brain} {i n : ℕ} {h : Option ℕ} {m : ℕ} :
    (l.takeTicket b i n h).IsLatest m ↔ l.IsLatest m := by
  refine ⟨fun hm => ⟨hm.lt, fun k hk hid => hm.last k hk ?_⟩,
    fun hm => ⟨hm.lt, fun k hk hid => hm.last k hk ?_⟩⟩
  · rw [payload_takeTicket, payload_takeTicket]
    exact hid
  · rw [payload_takeTicket, payload_takeTicket] at hid
    exact hid

/-- The taken ticket is not among the remaining ones. -/
lemma Tidy.of_mem_erase (hl : l.Tidy) {i n m : ℕ} (hn : l.tickets[i]? = some n)
    (hm : m ∈ l.tickets.eraseIdx i) : m ∈ l.tickets ∧ m ≠ n := by
  obtain ⟨hi, hget⟩ := List.getElem?_eq_some_iff.1 hn
  refine ⟨List.mem_of_mem_eraseIdx hm, ?_⟩
  rintro rfl
  have := (List.mem_eraseIdx_iff_getElem.1 hm)
  obtain ⟨j, hj, hji, hjm⟩ := this
  exact hji ((List.Nodup.getElem_inj_iff hl.nodup).1 (hjm.trans hget.symm))

/-- What a taken ticket leaves of the queue. -/
lemma Tidy.queue_takeTicket (hl : l.Tidy) {b : Brain} {i n : ℕ} {h : Option ℕ}
    (hq : b.queue = l.brain.queue.eraseIdx i) :
    b.queue = (l.takeTicket b i n h).tickets.map fun m =>
      ((l.takeTicket b i n h).log m).payload := by
  simp only [payload_takeTicket]
  rw [hq, hl.queue]
  exact List.eraseIdx_map _ _ _

lemma Tidy.dropped (hl : l.Tidy) {b : Brain} {i n : ℕ} (hn : l.tickets[i]? = some n)
    (htasks : TaskRuntime.SameTasks l.brain.runtime b.runtime)
    (hq : b.queue = l.brain.queue.eraseIdx i) (hr : b.running = l.brain.running) :
    (l.takeTicket b i n none).Tidy := by
  have hmem : n ∈ l.tickets := List.mem_of_getElem? hn
  have hother : ∀ m ∈ l.tickets.eraseIdx i,
      m ∈ l.tickets ∧ (l.takeTicket b i n none).log m = l.log m := by
    intro m hm
    obtain ⟨hm, hne⟩ := hl.of_mem_erase hn hm
    exact ⟨hm, log_takeTicket_of_ne hne⟩
  refine ⟨hl.queue_takeTicket hq, hl.nodup.sublist (List.eraseIdx_sublist _ _), ?_, ?_, ?_, ?_, ?_,
    ?_, ?_, ?_, ?_, ?_⟩
  · intro m hm
    obtain ⟨hm, hlog⟩ := hother m hm
    rw [hlog]
    exact hl.stage m hm
  · intro m hm
    obtain ⟨hm, hlog⟩ := hother m hm
    rw [hlog]
    exact hl.unstarted m hm
  · exact fun m hm => isLatest_takeTicket.2 (hl.ticket m (hother m hm).1)
  · intro m hm
    by_cases hmn : m = n
    · subst hmn
      simpa [Acceptance.take] using hl.starts m hm
    · rw [log_takeTicket_of_ne hmn]
      exact hl.starts m hm
  · intro m hm h hstage
    rw [isLatest_takeTicket, payload_takeTicket]
    by_cases hmn : m = n
    · subst hmn
      rcases hl.stage m hmem with hw | hw <;> simp [Acceptance.take, hw] at hstage
    · rw [log_takeTicket_of_ne hmn] at hstage
      exact ⟨hr.symm ▸ (hl.started m hm h hstage).1, (hl.started m hm h hstage).2⟩
  · intro e he m hm hid
    rw [payload_takeTicket] at hid
    have he' : e ∈ l.brain.running := hr ▸ he
    have hmn : m ≠ n := by
      rintro rfl
      exact hl.ticket_ne hmem he' hid
    rw [log_takeTicket_of_ne hmn]
    exact hl.running e he' m (isLatest_takeTicket.1 hm) hid
  · exact (congrArg (fun r => (r.map Execution.handle).Nodup) hr).mpr hl.handles
  · exact fun e he => (hl.handle_lt e (hr ▸ he)).trans_eq htasks.nextTask.symm
  · exact fun t h ht => (hl.task_lt t h (htasks.tasks ▸ ht)).trans_eq htasks.nextTask.symm
  · intro t h ht hnone
    obtain ⟨e, he, hid⟩ := hl.live t h (htasks.tasks ▸ ht) (htasks.outcomes ▸ hnone)
    exact ⟨e, hr.symm ▸ he, hid⟩

lemma Tidy.start (hl : l.Tidy) {b : Brain} {i n : ℕ} {p : Payload}
    (hp : l.brain.queue[i]? = some p) (hn : l.tickets[i]? = some n)
    (htasks : b.runtime.tasks =
      Function.update l.brain.runtime.tasks p.taskId (some l.brain.runtime.nextTask))
    (hasync : b.runtime.asyncTask =
      Function.update l.brain.runtime.asyncTask l.brain.runtime.nextTask {})
    (hnext : b.runtime.nextTask = l.brain.runtime.nextTask + 1)
    (hq : b.queue = l.brain.queue.eraseIdx i)
    (hr : b.running = ⟨p, l.brain.runtime.nextTask⟩ :: l.brain.running) :
    (l.takeTicket b i n (some l.brain.runtime.nextTask)).Tidy := by
  have hmem : n ∈ l.tickets := List.mem_of_getElem? hn
  have hpayload := hl.payload hp hn
  have hother : ∀ m ∈ l.tickets.eraseIdx i, m ∈ l.tickets ∧
      (l.takeTicket b i n (some l.brain.runtime.nextTask)).log m = l.log m := by
    intro m hm
    obtain ⟨hm, hne⟩ := hl.of_mem_erase hn hm
    exact ⟨hm, log_takeTicket_of_ne hne⟩
  have houtcome : ∀ h < l.brain.runtime.nextTask,
      b.runtime.outcomeOf h = l.brain.runtime.outcomeOf h := by
    intro h hh
    rw [TaskRuntime.outcomeOf, hasync, Function.update_of_ne hh.ne]
    rfl
  refine ⟨hl.queue_takeTicket hq, hl.nodup.sublist (List.eraseIdx_sublist _ _), ?_, ?_, ?_, ?_, ?_,
    ?_, ?_, ?_, ?_, ?_⟩
  · intro m hm
    obtain ⟨hm, hlog⟩ := hother m hm
    rw [hlog]
    exact hl.stage m hm
  · intro m hm
    obtain ⟨hm, hlog⟩ := hother m hm
    rw [hlog]
    exact hl.unstarted m hm
  · exact fun m hm => isLatest_takeTicket.2 (hl.ticket m (hother m hm).1)
  · intro m hm
    by_cases hmn : m = n
    · subst hmn
      simp [Acceptance.take, hl.unstarted m hmem]
    · rw [log_takeTicket_of_ne hmn]
      exact hl.starts m hm
  · intro m hm h hstage
    rw [isLatest_takeTicket, payload_takeTicket]
    refine ⟨hr.symm ▸ ?_, ?_⟩
    all_goals by_cases hmn : m = n
    · subst hmn
      have hh : l.brain.runtime.nextTask = h := by simpa [Acceptance.take] using hstage
      rw [hpayload, hh]
      exact List.mem_cons_self
    · rw [log_takeTicket_of_ne hmn] at hstage
      exact List.mem_cons_of_mem _ (hl.started m hm h hstage).1
    · subst hmn
      exact hl.ticket m hmem
    · rw [log_takeTicket_of_ne hmn] at hstage
      exact (hl.started m hm h hstage).2
  · intro e he m hm hid
    rw [payload_takeTicket] at hid
    have hm := isLatest_takeTicket.1 hm
    have he' : e ∈ (⟨p, l.brain.runtime.nextTask⟩ : Execution) :: l.brain.running := hr ▸ he
    rcases List.mem_cons.1 he' with rfl | he'
    · obtain rfl : m = n := hm.unique (hl.ticket n hmem) (hid.trans (by rw [hpayload]))
      simp [Acceptance.take]
    · have hmn : m ≠ n := by
        rintro rfl
        exact hl.ticket_ne hmem he' hid
      rw [log_takeTicket_of_ne hmn]
      exact hl.running e he' m hm hid
  · have hhandles : (((⟨p, l.brain.runtime.nextTask⟩ : Execution) :: l.brain.running).map
        Execution.handle).Nodup := by
      refine List.nodup_cons.2 ⟨fun hhandle => ?_, hl.handles⟩
      obtain ⟨e, he, heq⟩ := List.mem_map.1 hhandle
      exact absurd heq (hl.handle_lt e he).ne
    exact (congrArg (fun r => (r.map Execution.handle).Nodup) hr).mpr hhandles
  · intro e he
    have he : e ∈ (⟨p, l.brain.runtime.nextTask⟩ : Execution) :: l.brain.running := hr ▸ he
    rw [show (l.takeTicket b i n (some l.brain.runtime.nextTask)).brain.runtime.nextTask =
      l.brain.runtime.nextTask + 1 from hnext]
    rcases List.mem_cons.1 he with rfl | he
    · exact Nat.lt_succ_self _
    · exact Nat.lt_succ_of_lt (hl.handle_lt e he)
  · intro t h ht
    have ht : Function.update l.brain.runtime.tasks p.taskId (some l.brain.runtime.nextTask) t =
        some h := htasks ▸ ht
    rw [show (l.takeTicket b i n (some l.brain.runtime.nextTask)).brain.runtime.nextTask =
      l.brain.runtime.nextTask + 1 from hnext]
    by_cases htp : t = p.taskId
    · subst htp
      have hh : l.brain.runtime.nextTask = h := by simpa using ht
      omega
    · rw [Function.update_of_ne htp] at ht
      exact Nat.lt_succ_of_lt (hl.task_lt t h ht)
  · intro t h ht hnone
    have ht : Function.update l.brain.runtime.tasks p.taskId (some l.brain.runtime.nextTask) t =
        some h := htasks ▸ ht
    by_cases htp : t = p.taskId
    · subst htp
      have hh : l.brain.runtime.nextTask = h := by simpa using ht
      exact ⟨_, hr.symm ▸ List.mem_cons_self, rfl, hh⟩
    · rw [Function.update_of_ne htp] at ht
      have hnone := (houtcome h (hl.task_lt t h ht)).symm.trans hnone
      obtain ⟨e, he, hid⟩ := hl.live t h ht hnone
      exact ⟨e, hr.symm ▸ List.mem_cons_of_mem _ he, hid⟩

lemma Tidy.complete (hl : l.Tidy) {b : Brain} {h : ℕ} {o : Outcome}
    (hrt : b.runtime = { l.brain.runtime with
      asyncTask := Function.update l.brain.runtime.asyncTask h
        { l.brain.runtime.asyncTask h with outcome := some o } })
    (hq : b.queue = l.brain.queue) (hr : b.running = l.brain.running) :
    Tidy { l with brain := b } := by
  have hlive : ∀ g, b.runtime.outcomeOf g = none → l.brain.runtime.outcomeOf g = none := by
    intro g hg
    rw [hrt] at hg
    by_cases hgh : g = h
    · subst hgh
      simp [TaskRuntime.outcomeOf] at hg
    · simpa [TaskRuntime.outcomeOf, Function.update_of_ne hgh] using hg
  refine ⟨hq.trans hl.queue, hl.nodup, hl.stage, hl.unstarted,
    fun n hn => isLatest_brain.2 (hl.ticket n hn), hl.starts, fun n hn g hstage => ?_,
    fun e he n hn => hl.running e (hr ▸ he) n (isLatest_brain.1 hn), ?_, fun e he => ?_,
    fun t g ht => ?_, fun t g ht hnone => ?_⟩
  · obtain ⟨hmem, hlatest⟩ := hl.started n hn g hstage
    exact ⟨hr.symm ▸ hmem, isLatest_brain.2 hlatest⟩
  · exact (congrArg (fun r => (r.map Execution.handle).Nodup) hr).mpr hl.handles
  · rw [hrt]
    exact hl.handle_lt e (hr ▸ he)
  · rw [hrt] at ht ⊢
    exact hl.task_lt t g ht
  · have ht : l.brain.runtime.tasks t = some g := by
      rw [hrt] at ht
      exact ht
    rw [hr]
    exact hl.live t g ht (hlive g hnone)

lemma stage_finish {h : ℕ} {a : Acceptance} (ha : a.stage ≠ .started h) :
    (a.finish h).stage = a.stage := by
  unfold Acceptance.finish
  rw [if_neg ha]

lemma Tidy.finish (hl : l.Tidy) {b : Brain} {e : Execution} {o : Outcome}
    (he : e ∈ l.brain.running) (ho : l.brain.runtime.outcomeOf e.handle = some o)
    (htasks : TaskRuntime.SameTasks l.brain.runtime b.runtime)
    (hq : b.queue = l.brain.queue) (hr : b.running = l.brain.running.erase e) :
    Tidy { l with brain := b, log := fun n => (l.log n).finish e.handle } := by
  have hnodup : l.brain.running.Nodup := hl.handles.of_map _
  have hback : ∀ {e'}, e' ∈ b.running → e' ∈ l.brain.running ∧ e'.handle ≠ e.handle := by
    intro e' he'
    rw [hr, hnodup.mem_erase_iff] at he'
    exact ⟨he'.2, fun h => he'.1 (List.inj_on_of_nodup_map hl.handles he'.2 he h)⟩
  have hkeep : ∀ {e'}, e' ∈ l.brain.running → e'.handle ≠ e.handle → e' ∈ b.running := by
    intro e' he' hne
    rw [hr, hnodup.mem_erase_iff]
    exact ⟨fun h => hne (by rw [h]), he'⟩
  have hlatest : ∀ n, IsLatest { l with
      brain := b, log := fun n => (l.log n).finish e.handle } n ↔ l.IsLatest n := by
    refine fun n => ⟨fun h => ⟨h.lt, fun m hm hid => h.last m hm ?_⟩,
      fun h => ⟨h.lt, fun m hm hid => h.last m hm ?_⟩⟩
    · simpa using hid
    · simpa using hid
  have hwaiting : ∀ n ∈ l.tickets, ((l.log n).finish e.handle) = l.log n := by
    intro n hn
    unfold Acceptance.finish
    rw [if_neg]
    rcases hl.stage n hn with h | h <;> rw [h] <;> nofun
  refine ⟨?_, hl.nodup, fun n hn => ?_, fun n hn => ?_, fun n hn => (hlatest n).2 (hl.ticket n hn),
    fun n hn => ?_, fun n hn h hstage => ?_, fun e' he' n hn hid => ?_, ?_, fun e' he' => ?_,
    fun t h ht => ?_, fun t h ht hnone => ?_⟩
  · simpa using hq.trans hl.queue
  · exact (congrArg (fun a : Acceptance => a.stage = .waiting ∨ a.stage = .cancelled)
      (hwaiting n hn)).mpr (hl.stage n hn)
  · exact (congrArg Acceptance.starts (hwaiting n hn)).trans (hl.unstarted n hn)
  · have hstarts : ((l.log n).finish e.handle).starts = (l.log n).starts := by
      unfold Acceptance.finish
      split <;> rfl
    exact hstarts.trans_le (hl.starts n hn)
  · -- an entry that is still started belongs to another run
    have hne : (l.log n).stage ≠ .started e.handle := by
      intro hs
      have hended : ((l.log n).finish e.handle).stage = .ended := by
        unfold Acceptance.finish
        rw [if_pos hs]
      cases hended.symm.trans hstage
    have hold : (l.log n).stage = .started h := (stage_finish hne).symm.trans hstage
    obtain ⟨hmem, hn'⟩ := hl.started n hn h hold
    refine ⟨?_, (hlatest n).2 hn'⟩
    rw [Acceptance.payload_finish]
    refine hkeep hmem fun hh => hne ?_
    rw [hold]
    exact congrArg Stage.started hh
  · obtain ⟨hmem, hne⟩ := hback he'
    rw [Acceptance.payload_finish] at hid
    have hold := hl.running e' hmem n ((hlatest n).1 hn) hid
    refine (stage_finish ?_).trans hold
    rw [hold]
    exact fun h => hne (Stage.started.inj h)
  · have hsub := hl.handles.sublist ((List.erase_sublist (a := e)).map Execution.handle)
    exact (congrArg (fun r => (r.map Execution.handle).Nodup) hr).mpr hsub
  · exact (hl.handle_lt e' (hback he').1).trans_eq htasks.nextTask.symm
  · exact (hl.task_lt t h (htasks.tasks ▸ ht)).trans_eq htasks.nextTask.symm
  · have hnone' := htasks.outcomes ▸ hnone
    obtain ⟨e', he', hid, hh⟩ := hl.live t h (htasks.tasks ▸ ht) hnone'
    refine ⟨e', hkeep he' fun heq => ?_, hid, hh⟩
    rw [← hh, heq, ho] at hnone'
    cases hnone'

/-- Every step with fresh ids keeps the ledger tidy. -/
theorem Tidy.step (hl : l.Tidy) {a : Action} (ha : l.brain.FreshStep a) : (l.step a).Tidy := by
  have hmove := l.move hl.length a
  generalize l.step a = l' at hmove
  cases hmove with
  | quiet hrt hq hr => exact hl.same hq hr hrt.toSameTasks
  | interrupted e summary _ hrt hq hr =>
    refine hl.same hq hr ?_
    rw [hrt]
    exact ⟨rfl, rfl, rfl⟩
  | accepted hatt hfree hrt hq hr =>
    refine hl.accepted (ha _ _ _ hatt hfree) ?_ hq hr
    rw [hrt]
    exact ⟨rfl, rfl, rfl⟩
  | dropped i n hp hn _ hrt hq hr =>
    refine hl.dropped hn ?_ hq hr
    rw [hrt]
    exact .refl _
  | started i n hp hn _ _ hrt hq hr =>
    exact hl.start hp hn (by rw [hrt]) (by rw [hrt]) (by rw [hrt]) hq hr
  | completed _ _ hrt hq hr => exact hl.complete hrt hq hr
  | finished he ho hrt hq hr =>
    refine hl.finish he ho ?_ hq hr
    rw [hrt]
    exact TaskRuntime.sameTasks_finish _ _ _
  | revoked _ _ hrt hq hr =>
    refine (hl.revoke _ _).same hq hr ?_
    rw [hrt]
    exact TaskRuntime.sameTasks_cancel _ _

end Ledger

end EcommerceAgent.Runtime
