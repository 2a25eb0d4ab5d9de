/-
# The limits of the task queue

`TaskQueue` of `api/task_queue.py`: a worker turns every queued payload into a task, and the task
takes a slot of the global semaphore and then one of its profile's semaphore before it awaits the
handler.  A step runs one task up to its next suspension; the order in which the event loop resumes
the tasks is left open.
-/
import EcommerceAgent.Lib.Runs
import EcommerceAgent.Lib.Semaphore
import EcommerceAgent.Runtime.Profiles

open EcommerceAgent.Lib

namespace EcommerceAgent.Runtime

/-- The fields of a queued dictionary that `_profile_for_payload` reads; a missing field is the
empty text. -/
structure QueuedPayload where
  source : List Char := []
  runtimeProfile : List Char := []
  profile : List Char := []
deriving DecidableEq, Repr

/-- `TaskQueue._profile_for_payload`. -/
def profileForPayload (payload : QueuedPayload) : Profile :=
  let named := if payload.runtimeProfile = [] then payload.profile else payload.runtimeProfile
  if payload.source = "ai_chat".toList then
    normalizeRuntimeProfile (if named = [] then "realtime".toList else named)
  else normalizeRuntimeProfile (if named = [] then "standard".toList else named)

/-- The limits that `TaskQueue.__init__` reads from the environment. -/
structure Limits where
  maxConcurrency : ℕ
  profileConcurrency : Profile → ℕ
  maxConcurrency_pos : 0 < maxConcurrency
  profileConcurrency_pos : ∀ p, 0 < profileConcurrency p

/-- `max(1, int(…))` of the four variables. -/
def Limits.ofEnv (maxAgent realtime standard deep : ℤ) : Limits where
  maxConcurrency := (max 1 maxAgent).toNat
  profileConcurrency p :=
    (max 1 (if p = .realtime then realtime else if p = .standard then standard else deep)).toNat
  maxConcurrency_pos := by omega
  profileConcurrency_pos p := by omega

/-- The limits without environment variables. -/
def Limits.default : Limits := .ofEnv 10 8 2 1

/-- The task queue after `start`. -/
structure TaskQueue where
  /-- The queue of the backend. -/
  inlineQueue : List QueuedPayload
  /-- The tasks that were created and have not run yet. -/
  created : List QueuedPayload
  semaphore : Semaphore QueuedPayload
  profileSemaphores : Profile → Semaphore QueuedPayload
  /-- The tasks that await their handler. -/
  executing : List QueuedPayload

/-- What can happen to the queue. -/
inductive QueueAction
  | enqueue (payload : QueuedPayload)
  /-- The worker takes a payload and schedules its handler. -/
  | schedule
  /-- The `i`-th new task runs for the first time. -/
  | begin_ (i : ℕ)
  /-- The `i`-th task that was woken with a global slot goes on. -/
  | resumeGlobal (i : ℕ)
  /-- The `i`-th task that was woken with a slot of profile `p` goes on. -/
  | resumeProfile (p : Profile) (i : ℕ)
  /-- The handler of the `i`-th executing task returns, raises or is cancelled. -/
  | finish (i : ℕ)
deriving DecidableEq, Repr

namespace TaskQueue

/-- `TaskQueue.start`. -/
def start (limits : Limits) : TaskQueue where
  inlineQueue := []
  created := []
  semaphore := .init limits.maxConcurrency
  profileSemaphores p := .init (limits.profileConcurrency p)
  executing := []

variable (s : TaskQueue)

/-- A task with a global slot asks for one of its profile and starts its handler once it has it. -/
def enterProfile (payload : QueuedPayload) : TaskQueue :=
  let p := profileForPayload payload
  let (entered, semaphore) := (s.profileSemaphores p).acquire payload
  { s with
    profileSemaphores := Function.update s.profileSemaphores p semaphore
    executing := if entered then s.executing ++ [payload] else s.executing }

/-- A task runs `_run_handler_safely` from its start. -/
def enter (payload : QueuedPayload) : TaskQueue :=
  let (entered, semaphore) := s.semaphore.acquire payload
  let s' := { s with semaphore := semaphore }
  if entered then s'.enterProfile payload else s'

/-- A handler is over: `async with` gives back the slot of the profile, then the global one. -/
def leave (payload : QueuedPayload) : TaskQueue :=
  let p := profileForPayload payload
  { s with
    profileSemaphores := Function.update s.profileSemaphores p (s.profileSemaphores p).release
    semaphore := s.semaphore.release }

/-- One step of the queue. -/
def step : QueueAction → TaskQueue
  | .enqueue payload => { s with inlineQueue := s.inlineQueue ++ [payload] }
  | .schedule =>
    match s.inlineQueue with
    | [] => s
    | payload :: rest => { s with inlineQueue := rest, created := s.created ++ [payload] }
  | .begin_ i =>
    match s.created[i]? with
    | none => s
    | some payload => { s with created := s.created.eraseIdx i }.enter payload
  | .resumeGlobal i =>
    match s.semaphore.woken[i]? with
    | none => s
    | some payload => { s with semaphore := s.semaphore.resume i }.enterProfile payload
  | .resumeProfile p i =>
    match (s.profileSemaphores p).woken[i]? with
    | none => s
    | some payload =>
      { s with
        profileSemaphores :=
          Function.update s.profileSemaphores p ((s.profileSemaphores p).resume i)
        executing := s.executing ++ [payload] }
  | .finish i =>
    match s.executing[i]? with
    | none => s
    | some payload => { s with executing := s.executing.eraseIdx i }.leave payload

/-- The number of handlers of profile `p` that execute. -/
def executingOf (p : Profile) : ℕ := s.executing.countP (profileForPayload · = p)

/-- No task can go on by itself: all of them execute or wait for a slot. -/
def Settled : Prop :=
  s.inlineQueue = [] ∧ s.created = [] ∧ s.semaphore.woken = [] ∧
    ∀ p, (s.profileSemaphores p).woken = []

/-- The payload waits for a slot of one of the semaphores. -/
def Waiting (payload : QueuedPayload) : Prop :=
  payload ∈ s.semaphore.waiters ∨ ∃ p, payload ∈ (s.profileSemaphores p).waiters

/-- The limits are kept, and when all tasks that can go on have done so, nobody waits who could
execute. -/
structure WorkConserving (limits : Limits) : Prop where
  global : s.executing.length ≤ limits.maxConcurrency
  profile : ∀ p, s.executingOf p ≤ limits.profileConcurrency p
  conserving : s.Settled → s.executing.length < limits.maxConcurrency →
    ∀ p, s.executingOf p < limits.profileConcurrency p →
      ∀ payload, profileForPayload payload = p → ¬ s.Waiting payload

/-! ### Where the slots are -/

/-- The number of tasks that hold a global slot and wait for one of their profile. -/
def profileQueued (semaphores : Profile → Semaphore QueuedPayload) : ℕ :=
  (semaphores .realtime).deque.length + (semaphores .standard).deque.length +
    (semaphores .deep).deque.length

lemma profileQueued_update (semaphores : Profile → Semaphore QueuedPayload) (p : Profile)
    (semaphore : Semaphore QueuedPayload) :
    profileQueued (Function.update semaphores p semaphore) + (semaphores p).deque.length =
      profileQueued semaphores + semaphore.deque.length := by
  cases p <;> simp [profileQueued] <;> omega

/-- Every slot is free, reserved for a woken task, or held; `inFlight` global slots are held by a
task that runs. -/
structure Accounted (limits : Limits) (inFlight : ℕ) (s : TaskQueue) : Prop where
  global : s.semaphore.free + profileQueued s.profileSemaphores + s.executing.length + inFlight =
    limits.maxConcurrency
  profile : ∀ p, (s.profileSemaphores p).free + s.executingOf p = limits.profileConcurrency p
  sorted : ∀ p, ∀ t ∈ (s.profileSemaphores p).deque, profileForPayload t = p
  fair : s.semaphore.Fair
  profileFair : ∀ p, (s.profileSemaphores p).Fair

variable {s} {limits : Limits} {k : ℕ}

lemma accounted_start (limits : Limits) : (start limits).Accounted limits 0 where
  global := rfl
  profile p := rfl
  sorted p t ht := by cases ht
  fair := Semaphore.fair_init _
  profileFair p := Semaphore.fair_init _

namespace Accounted

/-- The two queues before the semaphores hold no slots. -/
lemma queues (h : s.Accounted limits k) (inlineQueue created : List QueuedPayload) :
    Accounted limits k { s with inlineQueue := inlineQueue, created := created } :=
  ⟨h.global, h.profile, h.sorted, h.fair, h.profileFair⟩

/-- A change of the global semaphore that moves slots between it and the running task. -/
lemma setGlobal (h : s.Accounted limits k) {semaphore : Semaphore QueuedPayload} {k' : ℕ}
    (hfree : semaphore.free + k' = s.semaphore.free + k) (hfair : semaphore.Fair) :
    Accounted limits k' { s with semaphore := semaphore } where
  global := by
    have hglobal := h.global
    show semaphore.free + profileQueued s.profileSemaphores + s.executing.length + k' = _
    omega
  profile := h.profile
  sorted := h.sorted
  fair := hfair
  profileFair := h.profileFair

/-- A change of one profile's semaphore, and of the tasks of this profile that execute. -/
lemma setProfile (h : s.Accounted limits k) (p : Profile) (semaphore : Semaphore QueuedPayload)
    (executing : List QueuedPayload) (k' : ℕ)
    (hglobal : semaphore.deque.length + executing.length + k' =
      (s.profileSemaphores p).deque.length + s.executing.length + k)
    (hfree : semaphore.free + executing.countP (profileForPayload · = p) =
      (s.profileSemaphores p).free + s.executingOf p)
    (hothers : ∀ q ≠ p, executing.countP (profileForPayload · = q) = s.executingOf q)
    (hsorted : ∀ t ∈ semaphore.deque, profileForPayload t = p) (hfair : semaphore.Fair) :
    Accounted limits k' { s with
      profileSemaphores := Function.update s.profileSemaphores p semaphore
      executing := executing } where
  global := by
    have hold := h.global
    have hqueued := profileQueued_update s.profileSemaphores p semaphore
    show s.semaphore.free + profileQueued (Function.update s.profileSemaphores p semaphore) +
      executing.length + k' = _
    omega
  profile q := by
    show (Function.update s.profileSemaphores p semaphore q).free +
      executing.countP (profileForPayload · = q) = _
    by_cases hq : q = p
    · subst hq
      rw [Function.update_self, hfree, h.profile]
    · rw [Function.update_of_ne hq, hothers q hq, ← h.profile q]
  sorted q := by
    by_cases hq : q = p
    · subst hq
      simpa using hsorted
    · simpa [Function.update_of_ne hq] using h.sorted q
  fair := h.fair
  profileFair q := by
    by_cases hq : q = p
    · subst hq
      simpa using hfair
    · simpa [Function.update_of_ne hq] using h.profileFair q

end Accounted

/-! ### One step -/

lemma executingOf_append (payload : QueuedPayload) (p : Profile) :
    (s.executing ++ [payload]).countP (profileForPayload · = p) =
      s.executingOf p + if profileForPayload payload = p then 1 else 0 := by
  simp [executingOf, List.countP_append, List.countP_singleton]

lemma countP_eraseIdx {α : Type*} (f : α → Bool) {l : List α} {i : ℕ} {a : α}
    (h : l[i]? = some a) : (l.eraseIdx i).countP f + (if f a then 1 else 0) = l.countP f := by
  induction l generalizing i with
  | nil => cases h
  | cons b l ih =>
    cases i with
    | zero =>
      obtain rfl : b = a := by simpa using h
      simp [List.countP_cons]
    | succ i =>
      have := ih (i := i) (by simpa using h)
      simp only [List.eraseIdx_cons_succ, List.countP_cons]
      omega

/-- A task that runs with a global slot passes it on to its handler or to its profile's line. -/
lemma Accounted.enterProfile (h : s.Accounted limits 1) (payload : QueuedPayload) :
    (s.enterProfile payload).Accounted limits 0 := by
  obtain hlocked | hlocked := Bool.eq_false_or_eq_true
    (s.profileSemaphores (profileForPayload payload)).locked
  · simp only [TaskQueue.enterProfile, Semaphore.acquire_of_locked hlocked]
    refine h.setProfile _ _ _ _ ?_ rfl (fun q _ => rfl) ?_ ((h.profileFair _).wait hlocked)
    · rw [Semaphore.deque_wait, List.length_append, List.length_singleton]
      show _ + s.executing.length + 0 = _
      omega
    · intro t ht
      rw [Semaphore.deque_wait, List.mem_append, List.mem_singleton] at ht
      rcases ht with ht | rfl
      · exact h.sorted _ t ht
      · rfl
  · simp only [TaskQueue.enterProfile, Semaphore.acquire_of_unlocked hlocked, if_true]
    refine h.setProfile _ _ _ _ ?_ ?_ ?_ (h.sorted _) (Semaphore.Fair.take hlocked)
    · show (s.profileSemaphores _).deque.length + (s.executing ++ [payload]).length + 0 = _
      rw [List.length_append, List.length_singleton]
      omega
    · have hfree := Semaphore.free_take hlocked
      rw [executingOf_append, if_pos rfl]
      omega
    · intro q hq
      rw [executingOf_append, if_neg hq.symm]
      rfl

/-- A task that runs for the first time takes a global slot or joins the global line. -/
lemma Accounted.enter (h : s.Accounted limits 0) (payload : QueuedPayload) :
    (s.enter payload).Accounted limits 0 := by
  obtain hlocked | hlocked := Bool.eq_false_or_eq_true s.semaphore.locked
  · simp only [TaskQueue.enter, Semaphore.acquire_of_locked hlocked]
    exact h.setGlobal rfl (h.fair.wait hlocked)
  · simp only [TaskQueue.enter, Semaphore.acquire_of_unlocked hlocked]
    have hfree := Semaphore.free_take hlocked
    exact (h.setGlobal hfree (Semaphore.Fair.take hlocked)).enterProfile payload

/-- A handler that is over gives back both slots. -/
lemma Accounted.leave (h : s.Accounted limits 0) {i : ℕ} {payload : QueuedPayload}
    (hi : s.executing[i]? = some payload) :
    ({ s with executing := s.executing.eraseIdx i }.leave payload).Accounted limits 0 := by
  have hlength := List.length_eraseIdx_add_one (List.getElem?_eq_some_iff.mp hi).1
  have hcount := fun q => countP_eraseIdx (fun t => decide (profileForPayload t = q)) hi
  have hprofile := h.setProfile (profileForPayload payload)
    (s.profileSemaphores (profileForPayload payload)).release (s.executing.eraseIdx i) 1
    ?_ ?_ ?_ ?_ (Semaphore.fair_release _)
  · refine hprofile.setGlobal ?_ (Semaphore.fair_release _)
    exact Semaphore.free_release _
  · rw [Semaphore.deque_release]
    omega
  · have := hcount (profileForPayload payload)
    rw [decide_eq_true rfl, if_pos rfl] at this
    rw [Semaphore.free_release, executingOf]
    omega
  · intro q hq
    have := hcount q
    rw [decide_eq_false hq.symm, if_neg (by simp)] at this
    exact this
  · rw [Semaphore.deque_release]
    exact h.sorted _

/-- A task that was woken with a slot of its profile starts its handler. -/
lemma Accounted.resumeProfile (h : s.Accounted limits 0) {p : Profile} {i : ℕ}
    {payload : QueuedPayload} (hi : (s.profileSemaphores p).woken[i]? = some payload) :
    Accounted limits 0 { s with
      profileSemaphores := Function.update s.profileSemaphores p ((s.profileSemaphores p).resume i)
      executing := s.executing ++ [payload] } := by
  obtain ⟨hlt, rfl⟩ := List.getElem?_eq_some_iff.mp hi
  have hmem := Semaphore.mem_deque_of_woken (List.getElem_mem hlt)
  have hof := h.sorted p _ hmem
  refine h.setProfile _ _ _ _ ?_ ?_ ?_ ?_ (Semaphore.fair_resume _ _)
  · have hlt' : i < (s.profileSemaphores p).deque.length := by
      rw [Semaphore.deque, List.length_append]
      omega
    rw [Semaphore.deque_resume hlt, List.length_eraseIdx_of_lt hlt', List.length_append,
      List.length_singleton]
    omega
  · have := Semaphore.free_resume hlt
    rw [executingOf_append, if_pos hof]
    omega
  · intro q hq
    rw [executingOf_append, if_neg (by rw [hof]; exact hq.symm)]
    rfl
  · intro t ht
    rw [Semaphore.deque_resume hlt] at ht
    exact h.sorted p t (List.mem_of_mem_eraseIdx ht)

/-- Every step keeps account of the slots. -/
lemma Accounted.step (h : s.Accounted limits 0) (a : QueueAction) :
    (s.step a).Accounted limits 0 := by
  cases a with
  | enqueue payload => exact h.queues _ _
  | schedule =>
    simp only [TaskQueue.step]
    cases s.inlineQueue with
    | nil => exact h
    | cons payload rest => exact h.queues _ _
  | begin_ i =>
    simp only [TaskQueue.step]
    cases s.created[i]? with
    | none => exact h
    | some payload => exact (h.queues _ _).enter payload
  | resumeGlobal i =>
    simp only [TaskQueue.step]
    cases hi : s.semaphore.woken[i]? with
    | none => exact h
    | some payload =>
      have hlt := (List.getElem?_eq_some_iff.mp hi).1
      have hfree := Semaphore.free_resume hlt
      exact (h.setGlobal hfree (Semaphore.fair_resume _ _)).enterProfile payload
  | resumeProfile p i =>
    simp only [TaskQueue.step]
    cases hi : (s.profileSemaphores p).woken[i]? with
    | none => exact h
    | some payload => exact h.resumeProfile hi
  | finish i =>
    simp only [TaskQueue.step]
    cases hi : s.executing[i]? with
    | none => exact h
    | some payload => exact h.leave hi

/-! ### Conservation -/

/-- The payload that asks for a slot of its profile in this step: it has just got a global slot. -/
def asks (s : TaskQueue) : QueueAction → Option QueuedPayload
  | .begin_ i => if s.semaphore.locked then none else s.created[i]?
  | .resumeGlobal i => s.semaphore.woken[i]?
  | _ => none

/-- A payload that got a global slot finds a free slot of its profile. -/
def ProfileFree (s : TaskQueue) (a : QueueAction) : Prop :=
  ∀ payload ∈ s.asks a, (s.profileSemaphores (profileForPayload payload)).locked = false

instance (s : TaskQueue) (a : QueueAction) : Decidable (s.ProfileFree a) :=
  inferInstanceAs (Decidable (∀ payload ∈ s.asks a, _))

/-- No payload with a global slot waits for a slot of its profile. -/
def Unstuck (s : TaskQueue) : Prop := ∀ p, (s.profileSemaphores p).deque = []

lemma unstuck_start (limits : Limits) : (start limits).Unstuck := fun _ => rfl

namespace Unstuck

/-- One profile's semaphore is replaced by one without a line. -/
lemma update (h : s.Unstuck) {p : Profile} {semaphore : Semaphore QueuedPayload}
    (hdeque : semaphore.deque = []) (global : Semaphore QueuedPayload)
    (inlineQueue created executing : List QueuedPayload) :
    Unstuck ⟨inlineQueue, created, global,
      Function.update s.profileSemaphores p semaphore, executing⟩ := by
  intro q
  by_cases hq : q = p
  · subst hq
    simpa using hdeque
  · simpa [Function.update_of_ne hq] using h q

lemma enterProfile (h : s.Unstuck) {payload : QueuedPayload}
    (hfree : (s.profileSemaphores (profileForPayload payload)).locked = false) :
    (s.enterProfile payload).Unstuck := by
  simp only [TaskQueue.enterProfile, Semaphore.acquire_of_unlocked hfree]
  have hdeque : Semaphore.deque { s.profileSemaphores (profileForPayload payload) with
      value := (s.profileSemaphores (profileForPayload payload)).value - 1 } = [] := h _
  exact h.update hdeque _ _ _ _

/-- Nobody gets stuck as long as every payload with a global slot finds one of its profile. -/
lemma step (h : s.Unstuck) {a : QueueAction} (ha : s.ProfileFree a) : (s.step a).Unstuck := by
  cases a with
  | enqueue payload => exact h
  | schedule =>
    simp only [TaskQueue.step]
    cases s.inlineQueue with
    | nil => exact h
    | cons payload rest => exact h
  | begin_ i =>
    simp only [TaskQueue.step]
    cases hi : s.created[i]? with
    | none => exact h
    | some payload =>
      obtain hlocked | hlocked := Bool.eq_false_or_eq_true s.semaphore.locked
      · simp only [TaskQueue.enter, Semaphore.acquire_of_locked hlocked]
        exact h
      · simp only [TaskQueue.enter, Semaphore.acquire_of_unlocked hlocked]
        exact enterProfile h (ha payload (by simp [asks, hlocked, hi]))
  | resumeGlobal i =>
    simp only [TaskQueue.step]
    cases hi : s.semaphore.woken[i]? with
    | none => exact h
    | some payload => exact enterProfile h (ha payload hi)
  | resumeProfile p i =>
    have hwoken : (s.profileSemaphores p).woken = [] := (Semaphore.deque_eq_nil.mp (h p)).1
    simp only [TaskQueue.step, hwoken, List.getElem?_nil]
    exact h
  | finish i =>
    simp only [TaskQueue.step]
    cases s.executing[i]? with
    | none => exact h
    | some payload => exact h.update ((Semaphore.deque_release _).trans (h _)) _ _ _ _

end Unstuck

lemma executingOf_le (s : TaskQueue) (p : Profile) : s.executingOf p ≤ s.executing.length :=
  List.countP_le_length

/-- Where no payload waits for its profile with a global slot, the global line is as long as it is
because all global slots execute. -/
lemma Accounted.workConserving (h : s.Accounted limits 0) (hstuck : s.Unstuck) :
    s.WorkConserving limits where
  global := by
    have := h.global
    omega
  profile p := by
    have := h.profile p
    omega
  conserving := by
    rintro ⟨-, -, hwoken, -⟩ hless - - payload - (hwaiting | ⟨p, hwaiting⟩)
    · have hvalue : s.semaphore.value = 0 := by
        rcases h.fair with hvalue | hnone | hsome
        · exact hvalue
        · rw [hnone] at hwaiting
          cases hwaiting
        · exact absurd hwoken hsome
      have hglobal := h.global
      have hfree : s.semaphore.free = 0 := by rw [Semaphore.free, hvalue, hwoken]; rfl
      have hqueued : profileQueued s.profileSemaphores = 0 := by
        simp only [profileQueued, hstuck _, List.length_nil]
      omega
    · have hline : payload ∈ (s.profileSemaphores p).deque :=
        List.mem_append_right _ hwaiting
      rw [hstuck p] at hline
      cases hline

/-- A payload that asks for a slot of its profile has a global slot that executes no handler. -/
lemma Accounted.free_of_asks (h : s.Accounted limits 0) {a : QueueAction}
    {payload : QueuedPayload} (ha : payload ∈ s.asks a) :
    s.executing.length < limits.maxConcurrency := by
  have hglobal := h.global
  have hfree : 0 < s.semaphore.free := by
    cases a with
    | begin_ i =>
      obtain hlocked | hlocked := Bool.eq_false_or_eq_true s.semaphore.locked
      · simp [asks, hlocked] at ha
      · exact Nat.add_pos_left (Semaphore.locked_eq_false_iff.mp hlocked).1 _
    | resumeGlobal i =>
      obtain ⟨hlt, -⟩ := List.getElem?_eq_some_iff.mp ha
      exact Nat.add_pos_right _ (by omega)
    | _ => cases ha
  omega

/-- Where no profile has fewer slots than there are global ones, a global slot is all a payload
needs. -/
lemma Accounted.profileFree (h : s.Accounted limits 0) (hstuck : s.Unstuck)
    (hlimits : ∀ p, limits.maxConcurrency ≤ limits.profileConcurrency p) (a : QueueAction) :
    s.ProfileFree a := by
  intro payload ha
  have hless := h.free_of_asks ha
  have hprofile := h.profile (profileForPayload payload)
  have hle := s.executingOf_le (profileForPayload payload)
  have hlimit := hlimits (profileForPayload payload)
  obtain ⟨hwoken, hwaiters⟩ := Semaphore.deque_eq_nil.mp (hstuck (profileForPayload payload))
  exact Semaphore.locked_eq_false_of_idle hwoken hwaiters (by omega)

/-! ### A profile that fills the global slots -/

/-- A payload that names its profile. -/
def payloadOf (p : Profile) : QueuedPayload where
  runtimeProfile := match p with
    | .realtime => "realtime".toList
    | .standard => "standard".toList
    | .deep => "deep".toList

@[simp] lemma profileForPayload_payloadOf (p : Profile) :
    profileForPayload (payloadOf p) = p := by
  cases p <;> decide +kernel

/-- A payload arrives, is scheduled and asks for its slots. -/
def submit (payload : QueuedPayload) : List QueueAction := [.enqueue payload, .schedule, .begin_ 0]

lemma run_submit (hinline : s.inlineQueue = []) (hcreated : s.created = [])
    (payload : QueuedPayload) : run step s (submit payload) = s.enter payload := by
  obtain ⟨inlineQueue, created, semaphore, profileSemaphores, executing⟩ := s
  subst hinline hcreated
  rfl

/-- Only payloads of profile `q` have been submitted, `k` of them. -/
structure Flooded (limits : Limits) (q : Profile) (k : ℕ) (s : TaskQueue) : Prop where
  accounted : s.Accounted limits 0
  inlineQueue : s.inlineQueue = []
  created : s.created = []
  semaphore : s.semaphore = ⟨limits.maxConcurrency - k, [], []⟩
  woken : ∀ p, (s.profileSemaphores p).woken = []
  executing : ∀ t ∈ s.executing, profileForPayload t = q

lemma flooded_start (limits : Limits) (q : Profile) : (start limits).Flooded limits q 0 where
  accounted := accounted_start limits
  inlineQueue := rfl
  created := rfl
  semaphore := rfl
  woken _ := rfl
  executing t ht := by cases ht

/-- What a payload with a global slot leaves unchanged, whether it finds a slot of its profile or
not. -/
lemma enterProfile_frame (s : TaskQueue) (payload : QueuedPayload) :
    (s.enterProfile payload).inlineQueue = s.inlineQueue ∧
    (s.enterProfile payload).created = s.created ∧
    (s.enterProfile payload).semaphore = s.semaphore ∧
    (∀ p, ((s.enterProfile payload).profileSemaphores p).woken =
      (s.profileSemaphores p).woken) ∧
    ∀ t ∈ (s.enterProfile payload).executing, t ∈ s.executing ∨ t = payload := by
  have hwoken : ∀ p (semaphore : Semaphore QueuedPayload),
      semaphore.woken = (s.profileSemaphores (profileForPayload payload)).woken →
      (Function.update s.profileSemaphores (profileForPayload payload) semaphore p).woken =
        (s.profileSemaphores p).woken := by
    intro p semaphore hsame
    by_cases hp : p = profileForPayload payload
    · rw [hp, Function.update_self, hsame]
    · rw [Function.update_of_ne hp]
  obtain hlocked | hlocked := Bool.eq_false_or_eq_true
    (s.profileSemaphores (profileForPayload payload)).locked
  · simp only [TaskQueue.enterProfile, Semaphore.acquire_of_locked hlocked]
    exact ⟨trivial, trivial, trivial, fun p => hwoken p _ rfl, fun t ht => .inl ht⟩
  · simp only [TaskQueue.enterProfile, Semaphore.acquire_of_unlocked hlocked, if_true]
    refine ⟨trivial, trivial, trivial, fun p => hwoken p _ rfl, fun t ht => ?_⟩
    exact (List.mem_append.mp ht).imp id List.mem_singleton.mp

/-- As long as global slots are free, one more payload of profile `q` takes one. -/
lemma Flooded.submit {q : Profile} (h : s.Flooded limits q k) (hk : k < limits.maxConcurrency) :
    (run step s (submit (payloadOf q))).Flooded limits q (k + 1) := by
  have hlocked : s.semaphore.locked = false := by
    refine Semaphore.locked_eq_false_iff.mpr ?_
    rw [h.semaphore]
    exact ⟨Nat.sub_pos_of_lt hk, rfl, rfl⟩
  have haccounted := h.accounted.enter (payloadOf q)
  rw [run_submit h.inlineQueue h.created]
  simp only [enter, Semaphore.acquire_of_unlocked hlocked, if_true] at haccounted ⊢
  obtain ⟨hinline, hcreated, hglobal, hwoken, hexecuting⟩ := enterProfile_frame
    { s with semaphore := { s.semaphore with value := s.semaphore.value - 1 } } (payloadOf q)
  refine ⟨haccounted, hinline.trans h.inlineQueue, hcreated.trans h.created, hglobal.trans ?_,
    fun p => (hwoken p).trans (h.woken p), fun t ht => ?_⟩
  · rw [h.semaphore, Nat.sub_sub]
  · rcases hexecuting t ht with hold | rfl
    · exact h.executing t hold
    · exact profileForPayload_payloadOf q

/-- `n` payloads of profile `q`, one after the other. -/
def flood (q : Profile) (n : ℕ) : List QueueAction :=
  (List.replicate n (submit (payloadOf q))).flatten

lemma flooded_flood (limits : Limits) (q : Profile) (n : ℕ) (hn : n ≤ limits.maxConcurrency) :
    (run step (start limits) (flood q n)).Flooded limits q n := by
  induction n with
  | zero => exact flooded_start limits q
  | succ n ih =>
    rw [flood, List.replicate_succ', List.flatten_append, run_append, List.flatten_singleton]
    exact (ih (by omega)).submit (by omega)

/-- When payloads of profile `q` hold all global slots, and its limit is below the global one, a
payload of another profile waits although both limits would let it run. -/
lemma Flooded.not_workConserving {q p : Profile} (h : s.Flooded limits q limits.maxConcurrency)
    (hq : limits.profileConcurrency q < limits.maxConcurrency) (hp : p ≠ q) :
    ¬ (run step s (TaskQueue.submit (payloadOf p))).WorkConserving limits := by
  have hlocked : s.semaphore.locked = true := by
    rw [h.semaphore, Nat.sub_self]
    rfl
  rw [run_submit h.inlineQueue h.created]
  simp only [enter, Semaphore.acquire_of_locked hlocked, Bool.false_eq_true, if_false]
  intro hconserving
  have hall : s.executingOf q = s.executing.length := by
    refine List.countP_eq_length.mpr fun t ht => ?_
    exact decide_eq_true (h.executing t ht)
  have hnone : s.executingOf p = 0 := by
    refine List.countP_eq_zero.mpr fun t ht => ?_
    rw [h.executing t ht]
    simpa using hp.symm
  have hbound := h.accounted.profile q
  refine hconserving.conserving ⟨h.inlineQueue, h.created, ?_, h.woken⟩ ?_ p ?_ (payloadOf p)
    (profileForPayload_payloadOf p) (.inl (List.mem_append_right _ (List.mem_singleton_self _)))
  · rw [h.semaphore]
  · show s.executing.length < _
    omega
  · show s.executingOf p < _
    have := limits.profileConcurrency_pos p
    omega

/-- A profile other than the given one. -/
def otherProfile : Profile → Profile
  | .realtime => .deep
  | .standard | .deep => .realtime

lemma otherProfile_ne (q : Profile) : otherProfile q ≠ q := by
  cases q <;> decide

/-! ### The main result -/

/-- In a run in which every payload that gets a global slot finds a free slot of its profile, the
limits are kept and no payload waits that could execute.  All runs are such exactly when no profile
has fewer slots than there are global ones. -/
theorem work_conserving (limits : Limits) :
    (∀ as, Along step ProfileFree (start limits) as →
      (run step (start limits) as).WorkConserving limits) ∧
    ((∀ as, (run step (start limits) as).WorkConserving limits) ↔
      ∀ p, limits.maxConcurrency ≤ limits.profileConcurrency p) := by
  have hinit : (start limits).Accounted limits 0 ∧ (start limits).Unstuck :=
    ⟨accounted_start limits, unstuck_start limits⟩
  refine ⟨?_, ?_, ?_⟩
  · intro as has
    obtain ⟨haccounted, hstuck⟩ := run_invariant
      (I := fun s : TaskQueue => s.Accounted limits 0 ∧ s.Unstuck)
      (fun s a h ha => ⟨h.1.step a, h.2.step ha⟩) hinit has
    exact haccounted.workConserving hstuck
  · intro hall q
    by_contra hless
    have hflood := flooded_flood limits q limits.maxConcurrency le_rfl
    have hstuck := hall (flood q limits.maxConcurrency ++ submit (payloadOf (otherProfile q)))
    rw [run_append] at hstuck
    exact hflood.not_workConserving (Nat.lt_of_not_le hless) (otherProfile_ne q) hstuck
  · intro hlimits as
    obtain ⟨haccounted, hstuck⟩ := run_induction
      (I := fun s : TaskQueue => s.Accounted limits 0 ∧ s.Unstuck)
      (fun s a h => ⟨h.1.step a, h.2.step (h.1.profileFree h.2 hlimits a)⟩) hinit as
    exact haccounted.workConserving hstuck

/-- A chat and a deep task run side by side. -/
theorem work_conserving_mixed :
    (run step (start .default) (submit (payloadOf .realtime) ++ submit (payloadOf .deep))
      ).WorkConserving .default :=
  (work_conserving .default).1 _ (by decide +kernel)

/-- With the default limits ten deep tasks, nine of which wait for each other, hold all global
slots: a chat waits while one handler executes. -/
theorem deep_blocks_realtime :
    ¬ (run step (start .default) (flood .deep 10 ++ submit (payloadOf .realtime))
      ).WorkConserving .default := by
  intro h
  refine h.conserving ⟨?_, ?_, ?_, ?_⟩ ?_ .realtime ?_ (payloadOf .realtime) ?_ (.inl ?_)
  · decide +kernel
  · decide +kernel
  · decide +kernel
  · intro p
    cases p <;> decide +kernel
  · decide +kernel
  · decide +kernel
  · decide +kernel
  · decide +kernel

end TaskQueue

end EcommerceAgent.Runtime
