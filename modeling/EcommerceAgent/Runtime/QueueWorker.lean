/-
# The workers of the task queue and their messages

`TaskQueue` of `api/task_queue.py` from the delivery of a message to the end of its handler.  A
message is decoded in the worker's loop (redis) or in a callback (nats), its profile is selected at
the start of its task, and only the handler runs inside the `try` that records failures.  The tasks
and semaphores are those of `Runtime/TaskQueue`, with the messages as names.
-/
import EcommerceAgent.Lib.JsonText
import EcommerceAgent.Runtime.TaskQueue

open EcommerceAgent.Lib

namespace EcommerceAgent.Runtime.QueueWorker

/-- The backends that `TaskQueue.start` accepts. -/
inductive Backend
  | inline | redis | nats
deriving DecidableEq, Repr

def Backend.name : Backend → String
  | .inline => "inline"
  | .redis => "redis"
  | .nats => "nats"

/-- The entries of a dictionary; a float is kept as its text. -/
abbrev Dict := List (String × Json String)

/-- What is delivered: a dictionary of the process itself, or a body, which is what `json.loads`
returns for it or the error that it, or the decoding of its bytes, raises. -/
def Message : Backend → Type
  | .inline => Dict
  | .redis | .nats => Except String (Json String)

/-- `json.loads(body)`; the inline queue hands the payload over as it is. -/
def Message.loads : {backend : Backend} → Message backend → Except String (Json String)
  | .inline, (payload : Dict) => .ok (.obj payload)
  | .redis, body => body
  | .nats, body => body

/-- `bool(value)`. -/
def truthy : Json String → Bool
  | .null => false
  | .bool b => b
  | .int n => n != 0
  | .float x => x != "0.0" && x != "-0.0"
  | .str s => s != ""
  | .arr l => !l.isEmpty
  | .obj d => !d.isEmpty

/-- `a or b`. -/
def orElse (a b : Json String) : Json String := if truthy a then a else b

/-- `payload.get(name)` of a dictionary. -/
def get : Json String → String → Json String
  | .obj entries, name => (entries.lookup name).getD .null
  | _, _ => .null

/-- The name of the value's type. -/
def typeName : Json String → String
  | .null => "NoneType"
  | .bool _ => "bool"
  | .int _ => "int"
  | .float _ => "float"
  | .str _ => "str"
  | .arr _ => "list"
  | .obj _ => "dict"

/-- The text of the `AttributeError` of a value without the attribute. -/
def noAttribute (value : Json String) (name : String) : String :=
  "'" ++ typeName value ++ "' object has no attribute '" ++ name ++ "'"

/-- The value is the text `ai_chat`. -/
def isAiChat : Json String → Bool
  | .str s => s == "ai_chat"
  | _ => false

/-- `TaskQueue._profile_for_payload`; `normalize_runtime_profile` strips the name. -/
def profileForPayload : Json String → Except String Profile
  | .obj entries =>
    let payload := .obj entries
    let default := if isAiChat (get payload "source") then "realtime" else "standard"
    match orElse (get payload "runtime_profile")
      (orElse (get payload "profile") (.str default)) with
    | .str name => .ok (normalizeRuntimeProfile name.toList)
    | value => .error (noAttribute value "strip")
  | value => .error (noAttribute value "get")

/-- A task whose profile is selected. -/
structure Job where
  /-- The number of the message. -/
  message : ℕ
  payload : Json String
  profile : Profile

namespace Job

/-- The job as a payload that names its profile. -/
def queued (job : Job) : QueuedPayload where
  runtimeProfile := job.profile.name.toList

@[simp] lemma profileForPayload_queued (job : Job) :
    Runtime.profileForPayload job.queued = job.profile := by
  have hname : ∀ p : Profile, Runtime.profileForPayload ⟨[], p.name.toList, []⟩ = p := by
    intro p
    cases p <;> decide +kernel
  exact hname job.profile

end Job

/-- How a handler ends. -/
inductive Outcome
  | returned
  | raised (error : String)
  | cancelled
deriving DecidableEq, Repr

/-- What `_trace_handler_failure` emits. -/
structure FailureTrace where
  message : ℕ
  traceId : Json String
  taskId : Json String
  conversationId : Json String
  error : List Char
  backend : String
  queueName : String

/-- `TaskQueue._trace_handler_failure`. -/
def traceHandlerFailure (backend : Backend) (queueName : String) (job : Job) (error : String) :
    FailureTrace where
  message := job.message
  traceId := orElse (get job.payload "task_id") (orElse (get job.payload "thread_id")
    (orElse (get job.payload "conversation_id") (.str "unknown")))
  taskId := get job.payload "task_id"
  conversationId := orElse (get job.payload "conversation_id") (get job.payload "thread_id")
  error := error.toList.take 1000
  backend := backend.name
  queueName := queueName

/-- The worker of a backend, its tasks and what has become of the messages. -/
structure Worker (backend : Backend) where
  queueName : String
  /-- The loop of the worker has not ended. -/
  running : Bool
  /-- The messages that were sent to the queue, in their order. -/
  sent : List (Message backend)
  /-- The tasks that were created and have not run yet. -/
  created : List (ℕ × Json String)
  semaphore : Semaphore Job
  profileSemaphores : Profile → Semaphore Job
  /-- The tasks that await their handler. -/
  executing : List Job
  /-- The messages whose payload was passed to the handler. -/
  handled : List ℕ
  /-- The messages whose handling has raised an exception. -/
  failed : List ℕ
  traced : List FailureTrace

/-- What can happen. -/
inductive Event (backend : Backend)
  /-- A message is delivered. -/
  | deliver (message : Message backend)
  /-- The `i`-th new task runs for the first time. -/
  | begin_ (i : ℕ)
  /-- The `i`-th task that was woken with a global slot goes on. -/
  | resumeGlobal (i : ℕ)
  /-- The `i`-th task that was woken with a slot of profile `p` goes on. -/
  | resumeProfile (p : Profile) (i : ℕ)
  /-- The handler of the `i`-th executing task ends. -/
  | finish (i : ℕ) (outcome : Outcome)

namespace Worker

variable {backend : Backend}

/-- `TaskQueue.start`. -/
def start (backend : Backend) (queueName : String) (limits : Limits) : Worker backend where
  queueName := queueName
  running := true
  sent := []
  created := []
  semaphore := .init limits.maxConcurrency
  profileSemaphores p := .init (limits.profileConcurrency p)
  executing := []
  handled := []
  failed := []
  traced := []

variable (w : Worker backend)

/-- `_inline_worker`, `_redis_worker` and the callback of `_nats_worker`: an exception ends the loop
of redis, while the client of nats reports the exceptions of its callbacks and goes on. -/
def deliver (message : Message backend) : Worker backend :=
  let number := w.sent.length
  let w := { w with sent := w.sent ++ [message] }
  if w.running then
    match message.loads with
    | .ok payload => { w with created := w.created ++ [(number, payload)] }
    | .error _ => { w with running := backend != .redis, failed := w.failed ++ [number] }
  else w

/-- The handler is called. -/
def execute (job : Job) : Worker backend :=
  { w with executing := w.executing ++ [job], handled := w.handled ++ [job.message] }

/-- A task with a global slot asks for one of its profile. -/
def enterProfile (job : Job) : Worker backend :=
  let (entered, semaphore) := (w.profileSemaphores job.profile).acquire job
  let w := { w with
    profileSemaphores := Function.update w.profileSemaphores job.profile semaphore }
  if entered then w.execute job else w

/-- A task enters `async with semaphore, profile_semaphore`. -/
def enter (job : Job) : Worker backend :=
  let (entered, semaphore) := w.semaphore.acquire job
  let w := { w with semaphore := semaphore }
  if entered then w.enterProfile job else w

/-- A task leaves the two semaphores. -/
def leave (job : Job) : Worker backend :=
  { w with
    profileSemaphores := Function.update w.profileSemaphores job.profile
      (w.profileSemaphores job.profile).release
    semaphore := w.semaphore.release }

/-- `_run_handler_safely` up to the semaphores; the task ends if no profile can be selected. -/
def runHandlerSafely (number : ℕ) (payload : Json String) : Worker backend :=
  match profileForPayload payload with
  | .ok profile => w.enter ⟨number, payload, profile⟩
  | .error _ => { w with failed := w.failed ++ [number] }

/-- The `try` around the handler. -/
def conclude (job : Job) : Outcome → Worker backend
  | .raised error =>
    { w with
      failed := w.failed ++ [job.message]
      traced := w.traced ++ [traceHandlerFailure backend w.queueName job error] }
  | .returned | .cancelled => w

/-- One step. -/
def step : Event backend → Worker backend
  | .deliver message => w.deliver message
  | .begin_ i =>
    match w.created[i]? with
    | none => w
    | some (number, payload) =>
      { w with created := w.created.eraseIdx i }.runHandlerSafely number payload
  | .resumeGlobal i =>
    match w.semaphore.woken[i]? with
    | none => w
    | some job => { w with semaphore := w.semaphore.resume i }.enterProfile job
  | .resumeProfile p i =>
    match (w.profileSemaphores p).woken[i]? with
    | none => w
    | some job =>
      { w with profileSemaphores :=
          Function.update w.profileSemaphores p ((w.profileSemaphores p).resume i) }.execute job
  | .finish i outcome =>
    match w.executing[i]? with
    | none => w
    | some job =>
      ({ w with executing := w.executing.eraseIdx i }.conclude job outcome).leave job

/-! ### What is claimed -/

/-- Everything that can happen without a new message has happened. -/
structure Complete : Prop where
  created : w.created = []
  woken : w.semaphore.woken = []
  profileWoken : ∀ p, (w.profileSemaphores p).woken = []
  executing : w.executing = []

/-- The worker has not died and no message was lost. -/
structure Dependable (limits : Limits) : Prop where
  running : w.running = true
  /-- Every message that is a JSON object was passed to the handler once. -/
  handled : ∀ number message payload, w.sent[number]? = some message →
    message.loads = .ok (.obj payload) → w.handled.count number = 1
  /-- Every failure was recorded. -/
  recorded : ∀ number ∈ w.failed, ∃ trace ∈ w.traced, trace.message = number
  /-- All slots were given back. -/
  released : w.semaphore.value = limits.maxConcurrency ∧
    ∀ p, (w.profileSemaphores p).value = limits.profileConcurrency p

/-- The message is an object whose profile is a text, or has a default. -/
def Selectable (message : Message backend) : Prop :=
  ∃ payload profile, message.loads = .ok payload ∧ profileForPayload payload = .ok profile

/-! ### The slots -/

variable {w} {limits : Limits} {job : Job}

/-- The task queue without the names of the messages. -/
def forget (w : Worker backend) : TaskQueue where
  inlineQueue := []
  created := []
  semaphore := w.semaphore.map Job.queued
  profileSemaphores p := (w.profileSemaphores p).map Job.queued
  executing := w.executing.map Job.queued

lemma map_update (semaphores : Profile → Semaphore Job) (p : Profile) (semaphore : Semaphore Job) :
    (fun q => (Function.update semaphores p semaphore q).map Job.queued) =
      Function.update (fun q => (semaphores q).map Job.queued) p (semaphore.map Job.queued) :=
  funext fun q => Function.apply_update (fun _ => Semaphore.map Job.queued) semaphores p semaphore q

lemma forget_enterProfile (w : Worker backend) (job : Job) :
    (w.enterProfile job).forget = w.forget.enterProfile job.queued := by
  have hacquire := Semaphore.acquire_map Job.queued (w.profileSemaphores job.profile) job
  simp only [enterProfile, TaskQueue.enterProfile, Job.profileForPayload_queued]
  rw [show w.forget.profileSemaphores job.profile =
    (w.profileSemaphores job.profile).map Job.queued from rfl, hacquire]
  cases ((w.profileSemaphores job.profile).acquire job).1 with
  | true =>
    simp only [if_true, execute, forget, map_update, List.map_append, List.map_singleton]
  | false => simp only [Bool.false_eq_true, if_false, forget, map_update]

lemma forget_enter (w : Worker backend) (job : Job) :
    (w.enter job).forget = w.forget.enter job.queued := by
  have hacquire := Semaphore.acquire_map Job.queued w.semaphore job
  simp only [enter, TaskQueue.enter]
  rw [show w.forget.semaphore = w.semaphore.map Job.queued from rfl, hacquire]
  cases (w.semaphore.acquire job).1 with
  | true => exact forget_enterProfile _ job
  | false => rfl

lemma forget_leave (w : Worker backend) (job : Job) :
    (w.leave job).forget = w.forget.leave job.queued := by
  simp only [leave, TaskQueue.leave, Job.profileForPayload_queued, forget, map_update,
    Semaphore.release_map]

lemma forget_conclude (w : Worker backend) (job : Job) (outcome : Outcome) :
    (w.conclude job outcome).forget = w.forget := by
  cases outcome <;> rfl

lemma forget_deliver (w : Worker backend) (message : Message backend) :
    (w.deliver message).forget = w.forget := by
  simp only [deliver]
  split
  · split <;> rfl
  · rfl

/-- A step is one of the task queue, or leaves the slots as they are. -/
lemma accounted_step (h : w.forget.Accounted limits 0) (e : Event backend) :
    (w.step e).forget.Accounted limits 0 := by
  cases e with
  | deliver message =>
    rw [step, forget_deliver]
    exact h
  | begin_ i =>
    simp only [step]
    split
    · exact h
    · rw [runHandlerSafely]
      split
      · rw [forget_enter]
        exact h.enter _
      · exact h
  | resumeGlobal i =>
    simp only [step]
    split
    · exact h
    · next job hi =>
      have hwoken : w.forget.semaphore.woken[i]? = some job.queued := by
        simp [forget, Semaphore.map, hi]
      have hstep := h.step (.resumeGlobal i)
      simp only [TaskQueue.step, hwoken] at hstep
      rw [forget_enterProfile]
      have hresume : (w.semaphore.resume i).map Job.queued = w.forget.semaphore.resume i :=
        (Semaphore.resume_map Job.queued w.semaphore i).symm
      rw [← hresume] at hstep
      exact hstep
  | resumeProfile p i =>
    simp only [step]
    split
    · exact h
    · next job hi =>
      have hwoken : (w.forget.profileSemaphores p).woken[i]? = some job.queued := by
        simp [forget, Semaphore.map, hi]
      have hstep := h.step (.resumeProfile p i)
      simp only [TaskQueue.step, hwoken] at hstep
      have hresume : (w.forget.profileSemaphores p).resume i =
          ((w.profileSemaphores p).resume i).map Job.queued :=
        Semaphore.resume_map Job.queued _ i
      rw [hresume] at hstep
      simp only [execute, forget, map_update, List.map_append, List.map_singleton]
      exact hstep
  | finish i outcome =>
    simp only [step]
    split
    · exact h
    · next job hi =>
      have hexecuting : w.forget.executing[i]? = some job.queued := by
        simp [forget, hi]
      have hstep := h.step (.finish i)
      simp only [TaskQueue.step, hexecuting] at hstep
      rw [forget_leave, forget_conclude]
      have herase : w.forget.executing.eraseIdx i = (w.executing.eraseIdx i).map Job.queued :=
        List.eraseIdx_map ..
      rw [herase] at hstep
      exact hstep

lemma accounted_run (limits : Limits) (queueName : String) (events : List (Event backend)) :
    (run step (start backend queueName limits) events).forget.Accounted limits 0 := by
  have hstart : (start backend queueName limits).forget = TaskQueue.start limits := rfl
  refine run_induction (I := fun w : Worker backend => w.forget.Accounted limits 0)
    (fun w e h => accounted_step h e) ?_ events
  rw [hstart]
  exact TaskQueue.accounted_start limits

/-- When everything has happened, all slots are free and nobody waits. -/
lemma Complete.semaphores (hcomplete : w.Complete) (h : w.forget.Accounted limits 0) :
    w.semaphore = .init limits.maxConcurrency ∧
      ∀ p, w.profileSemaphores p = .init (limits.profileConcurrency p) := by
  have hexecuting : w.forget.executing = [] := by
    rw [forget, hcomplete.executing]
    rfl
  have hprofiles : ∀ p, w.profileSemaphores p = .init (limits.profileConcurrency p) := by
    intro p
    have hprofile := h.profile p
    rw [TaskQueue.executingOf, hexecuting, List.countP_nil] at hprofile
    exact Semaphore.eq_init ((Semaphore.fair_map _).mp (h.profileFair p))
      (hcomplete.profileWoken p) ((Semaphore.free_map _ _).symm.trans hprofile)
      (limits.profileConcurrency_pos p)
  have hqueued : TaskQueue.profileQueued w.forget.profileSemaphores = 0 := by
    simp [TaskQueue.profileQueued, forget, hprofiles]
  have hglobal := h.global
  rw [hqueued, hexecuting] at hglobal
  refine ⟨?_, hprofiles⟩
  exact Semaphore.eq_init ((Semaphore.fair_map _).mp h.fair) hcomplete.woken
    ((Semaphore.free_map _ _).symm.trans hglobal) limits.maxConcurrency_pos

/-! ### Where the messages are -/

/-- The message of this number can be handled. -/
def SelectableAt (w : Worker backend) (number : ℕ) : Prop :=
  ∃ message, w.sent[number]? = some message ∧ Selectable message

/-- The message of this number cannot be handled. -/
def Refused (w : Worker backend) (number : ℕ) : Prop :=
  ∃ message, w.sent[number]? = some message ∧ ¬ Selectable message

/-- The number of jobs of a message. -/
def countOf (jobs : List Job) (number : ℕ) : ℕ := jobs.countP fun job => job.message = number

/-- The number of jobs of a message that wait with a global slot. -/
def waitingAt (semaphores : Profile → Semaphore Job) (number : ℕ) : ℕ :=
  countOf (semaphores .realtime).deque number + countOf (semaphores .standard).deque number +
    countOf (semaphores .deep).deque number

/-- How often a message is to be handled or was; the jobs `hand` belong to tasks that run. -/
def places (w : Worker backend) (hand : List Job) (number : ℕ) : ℕ :=
  w.created.countP (fun task => task.1 = number) + countOf w.semaphore.deque number +
    waitingAt w.profileSemaphores number + w.handled.count number + countOf hand number

/-- The job has reached the semaphores. -/
def Holds (w : Worker backend) (job : Job) : Prop :=
  job ∈ w.semaphore.deque ∨ (∃ p, job ∈ (w.profileSemaphores p).deque) ∨ job ∈ w.executing

/-- Every message is in one place, or was refused; the tasks in `hand` run. -/
structure Tracked (hand : List Job) (w : Worker backend) : Prop where
  placed : w.running = true → ∀ n < w.sent.length,
    w.places hand n = 1 ∨ (n ∈ w.failed ∧ w.Refused n)
  fresh : ∀ n, w.sent.length ≤ n → w.places hand n = 0
  created : ∀ task ∈ w.created, ∃ message : Message backend,
    w.sent[task.1]? = some message ∧ message.loads = .ok task.2
  jobs : ∀ job, job ∈ hand ∨ w.Holds job → w.SelectableAt job.message
  handled : ∀ n ∈ w.handled, w.SelectableAt n
  failed : ∀ n ∈ w.failed, (∃ trace ∈ w.traced, trace.message = n) ∨ w.Refused n
  traced : ∀ trace ∈ w.traced, w.SelectableAt trace.message
  stopped : w.running = false → ∃ n, w.Refused n

variable {w' : Worker backend} {hand hand' : List Job}

@[simp] lemma countOf_nil (n : ℕ) : countOf [] n = 0 := rfl

lemma countOf_singleton (job : Job) (n : ℕ) :
    countOf [job] n = if job.message = n then 1 else 0 := by
  simp [countOf, List.countP_singleton]

lemma countOf_append (jobs jobs' : List Job) (n : ℕ) :
    countOf (jobs ++ jobs') n = countOf jobs n + countOf jobs' n := List.countP_append

lemma countOf_eraseIdx {jobs : List Job} {i : ℕ} (h : jobs[i]? = some job) (n : ℕ) :
    countOf (jobs.eraseIdx i) n + countOf [job] n = countOf jobs n := by
  have herase := TaskQueue.countP_eraseIdx (fun job : Job => decide (job.message = n)) h
  rw [countOf_singleton, countOf, countOf, ← herase]
  simp

lemma waitingAt_update (semaphores : Profile → Semaphore Job) (p : Profile)
    (semaphore : Semaphore Job) (n : ℕ) :
    waitingAt (Function.update semaphores p semaphore) n + countOf (semaphores p).deque n =
      waitingAt semaphores n + countOf semaphore.deque n := by
  cases p <;> simp [waitingAt] <;> omega

/-- A step inside the worker moves messages from place to place. -/
lemma Tracked.move (h : w.Tracked hand) (hsent : w'.sent = w.sent)
    (hrunning : w'.running = w.running) (hfailed : w'.failed = w.failed)
    (htraced : w'.traced = w.traced) (hcreated : ∀ task ∈ w'.created, task ∈ w.created)
    (hplaces : ∀ n, w'.places hand' n = w.places hand n)
    (hjobs : ∀ job, job ∈ hand' ∨ w'.Holds job → w.SelectableAt job.message)
    (hhandled : ∀ n ∈ w'.handled, w.SelectableAt n) : w'.Tracked hand' where
  placed hr n hn := by
    rw [hplaces, hfailed, Refused, hsent]
    rw [hrunning] at hr
    rw [hsent] at hn
    exact h.placed hr n hn
  fresh n hn := by
    rw [hplaces]
    rw [hsent] at hn
    exact h.fresh n hn
  created task htask := by
    rw [hsent]
    exact h.created task (hcreated task htask)
  jobs job hjob := by
    rw [SelectableAt, hsent]
    exact hjobs job hjob
  handled n hn := by
    rw [SelectableAt, hsent]
    exact hhandled n hn
  failed n hn := by
    rw [htraced, Refused, hsent]
    rw [hfailed] at hn
    exact h.failed n hn
  traced trace ht := by
    rw [SelectableAt, hsent]
    rw [htraced] at ht
    exact h.traced trace ht
  stopped hr := by
    rw [hrunning] at hr
    obtain ⟨n, hn⟩ := h.stopped hr
    exact ⟨n, by rwa [Refused, hsent]⟩

namespace Tracked

/-- The handler is called. -/
lemma execute (h : w.Tracked [job]) : (w.execute job).Tracked [] := by
  refine h.move rfl rfl rfl rfl (fun _ ht => ht) (fun n => ?_) ?_ ?_
  · have hcount : (w.handled ++ [job.message]).count n = w.handled.count n + countOf [job] n := by
      rw [List.count_append, List.count_singleton, countOf_singleton]
      simp
    show _ + _ + _ + (w.handled ++ [job.message]).count n + _ = _
    rw [hcount, places, countOf_nil, Nat.add_zero, ← Nat.add_assoc]
    rfl
  · rintro job' (hjob | hjob | hjob | hjob)
    · cases hjob
    · exact h.jobs job' (.inr (.inl hjob))
    · exact h.jobs job' (.inr (.inr (.inl hjob)))
    · rcases List.mem_append.mp hjob with hjob | hjob
      · exact h.jobs job' (.inr (.inr (.inr hjob)))
      · exact h.jobs job' (.inl hjob)
  · intro n hn
    rcases List.mem_append.mp hn with hn | hn
    · exact h.handled n hn
    · rw [List.mem_singleton.mp hn]
      exact h.jobs job (.inl List.mem_cons_self)

/-- A change of the global semaphore; a task joins its line or runs. -/
lemma setGlobal (h : w.Tracked hand) {semaphore : Semaphore Job}
    (hcount : ∀ n, countOf semaphore.deque n + countOf hand' n =
      countOf w.semaphore.deque n + countOf hand n)
    (hjobs : ∀ job, job ∈ hand' ∨ job ∈ semaphore.deque → job ∈ hand ∨ job ∈ w.semaphore.deque) :
    Tracked hand' { w with semaphore := semaphore } := by
  refine h.move rfl rfl rfl rfl (fun _ ht => ht) (fun n => ?_) ?_ h.handled
  · have := hcount n
    simp only [places]
    omega
  · rintro job' (hjob | hjob | hjob)
    · exact h.jobs job' ((hjobs job' (.inl hjob)).imp_right .inl)
    · exact h.jobs job' ((hjobs job' (.inr hjob)).imp_right .inl)
    · exact h.jobs job' (.inr (.inr hjob))

/-- A change of the semaphore of one profile. -/
lemma setProfile (h : w.Tracked hand) (p : Profile) {semaphore : Semaphore Job}
    (hcount : ∀ n, countOf semaphore.deque n + countOf hand' n =
      countOf (w.profileSemaphores p).deque n + countOf hand n)
    (hjobs : ∀ job, job ∈ hand' ∨ job ∈ semaphore.deque →
      job ∈ hand ∨ job ∈ (w.profileSemaphores p).deque) :
    Tracked hand' { w with
      profileSemaphores := Function.update w.profileSemaphores p semaphore } := by
  refine h.move rfl rfl rfl rfl (fun _ ht => ht) (fun n => ?_) ?_ h.handled
  · have := hcount n
    have := waitingAt_update w.profileSemaphores p semaphore n
    simp only [places]
    omega
  · have hone : ∀ job', job' ∈ hand' ∨ job' ∈ semaphore.deque → w.SelectableAt job'.message :=
      fun job' hjob => h.jobs job' ((hjobs job' hjob).imp_right fun hp => .inr (.inl ⟨p, hp⟩))
    rintro job' (hjob | hjob | ⟨q, hjob⟩ | hjob)
    · exact hone job' (.inl hjob)
    · exact h.jobs job' (.inr (.inl hjob))
    · by_cases hq : q = p
      · subst hq
        exact hone job' (.inr (by simpa using hjob))
      · have hsame : Function.update w.profileSemaphores p semaphore q = w.profileSemaphores q :=
          Function.update_of_ne hq _ _
        exact h.jobs job' (.inr (.inr (.inl ⟨q, hsame ▸ hjob⟩)))
    · exact h.jobs job' (.inr (.inr (.inr hjob)))

lemma enterProfile (h : w.Tracked [job]) : (w.enterProfile job).Tracked [] := by
  obtain hlocked | hlocked := Bool.eq_false_or_eq_true (w.profileSemaphores job.profile).locked
  · simp only [Worker.enterProfile, Semaphore.acquire_of_locked hlocked]
    refine h.setProfile job.profile (fun n => ?_) fun job' hjob => ?_
    · rw [Semaphore.deque_wait, countOf_append, countOf_nil, Nat.add_zero]
    · rw [Semaphore.deque_wait, List.mem_append] at hjob
      rcases hjob with hjob | hjob | hjob
      · cases hjob
      · exact .inr hjob
      · exact .inl hjob
  · simp only [Worker.enterProfile, Semaphore.acquire_of_unlocked hlocked, if_true]
    exact execute (h.setProfile job.profile (fun n => rfl) fun job' hjob => hjob)

lemma enter (h : w.Tracked [job]) : (w.enter job).Tracked [] := by
  obtain hlocked | hlocked := Bool.eq_false_or_eq_true w.semaphore.locked
  · simp only [Worker.enter, Semaphore.acquire_of_locked hlocked]
    refine h.setGlobal (fun n => ?_) fun job' hjob => ?_
    · rw [Semaphore.deque_wait, countOf_append, countOf_nil, Nat.add_zero]
    · rw [Semaphore.deque_wait, List.mem_append] at hjob
      rcases hjob with hjob | hjob | hjob
      · cases hjob
      · exact .inr hjob
      · exact .inl hjob
  · simp only [Worker.enter, Semaphore.acquire_of_unlocked hlocked, if_true]
    exact enterProfile (h.setGlobal (fun n => rfl) fun job' hjob => hjob)

/-- What a woken task leaves behind. -/
lemma resumed {semaphore : Semaphore Job} {i : ℕ} (hi : semaphore.woken[i]? = some job) :
    (∀ n, countOf (semaphore.resume i).deque n + countOf [job] n =
      countOf semaphore.deque n + countOf [] n) ∧
    ∀ job', job' ∈ [job] ∨ job' ∈ (semaphore.resume i).deque →
      job' ∈ [] ∨ job' ∈ semaphore.deque := by
  obtain ⟨hlt, hget⟩ := List.getElem?_eq_some_iff.mp hi
  have hdeque : semaphore.deque[i]? = some job := by
    rw [Semaphore.deque, List.getElem?_append_left hlt, hi]
  constructor
  · intro n
    rw [Semaphore.deque_resume hlt, countOf_eraseIdx hdeque, countOf_nil, Nat.add_zero]
  · rintro job' (hjob | hjob)
    · rw [List.mem_singleton.mp hjob, ← hget]
      exact .inr (Semaphore.mem_deque_of_woken (List.getElem_mem hlt))
    · rw [Semaphore.deque_resume hlt] at hjob
      exact .inr (List.mem_of_mem_eraseIdx hjob)

/-- A task leaves the semaphores. -/
lemma leave (h : w.Tracked []) (job : Job) : (w.leave job).Tracked [] := by
  have hprofile : Tracked [] { w with
      profileSemaphores := Function.update w.profileSemaphores job.profile
        (w.profileSemaphores job.profile).release } := by
    refine h.setProfile job.profile (fun n => ?_) fun job' hjob => ?_
    · rw [Semaphore.deque_release]
    · rwa [Semaphore.deque_release] at hjob
  refine hprofile.setGlobal (fun n => ?_) fun job' hjob => ?_
  · rw [Semaphore.deque_release]
  · rwa [Semaphore.deque_release] at hjob

/-- The handler ends. -/
lemma conclude (h : w.Tracked []) (hjob : w.SelectableAt job.message) (outcome : Outcome) :
    (w.conclude job outcome).Tracked [] := by
  cases outcome with
  | returned => exact h
  | cancelled => exact h
  | raised error =>
    exact {
      placed := fun hr n hn => (h.placed hr n hn).imp_right fun hfailed =>
        ⟨List.mem_append_left _ hfailed.1, hfailed.2⟩
      fresh := h.fresh
      created := h.created
      jobs := h.jobs
      handled := h.handled
      failed := by
        intro n hn
        rcases List.mem_append.mp hn with hn | hn
        · exact (h.failed n hn).imp_left fun ⟨trace, ht, heq⟩ =>
            ⟨trace, List.mem_append_left _ ht, heq⟩
        · rw [List.mem_singleton.mp hn]
          exact .inl ⟨_, List.mem_append_right _ List.mem_cons_self, rfl⟩
      traced := by
        intro trace ht
        rcases List.mem_append.mp ht with ht | ht
        · exact h.traced trace ht
        · rw [List.mem_singleton.mp ht]
          exact hjob
      stopped := h.stopped }

lemma getElem?_sent {n : ℕ} {message : Message backend} (h : w.sent[n]? = some message)
    (new : Message backend) : (w.sent ++ [new])[n]? = some message := by
  rw [List.getElem?_append_left (List.getElem?_eq_some_iff.mp h).1, h]

/-- A new message becomes a task, is refused, or is not looked at any more. -/
lemma receive (h : w.Tracked []) (message : Message backend) (running : Bool)
    (tasks : List (ℕ × Json String)) (refused : List ℕ)
    (htasks : ∀ task ∈ tasks, task.1 = w.sent.length ∧ message.loads = .ok task.2)
    (hrefused : ∀ n ∈ refused, n = w.sent.length ∧ ¬ Selectable message)
    (hrunning : running = true →
      w.running = true ∧ (tasks.length = 1 ∨ w.sent.length ∈ refused ∧ tasks = []))
    (hstopped : running = false → w.running = false ∨ ¬ Selectable message) :
    Tracked [] { w with
      sent := w.sent ++ [message]
      running := running
      created := w.created ++ tasks
      failed := w.failed ++ refused } := by
  have hnew : (w.sent ++ [message])[w.sent.length]? = some message := by simp
  have hselectable : ∀ {n}, w.SelectableAt n →
      ∃ m, (w.sent ++ [message])[n]? = some m ∧ Selectable m :=
    fun ⟨m, hm, hs⟩ => ⟨m, getElem?_sent hm message, hs⟩
  have hstays : ∀ {n}, w.Refused n →
      ∃ m, (w.sent ++ [message])[n]? = some m ∧ ¬ Selectable m :=
    fun ⟨m, hm, hs⟩ => ⟨m, getElem?_sent hm message, hs⟩
  have hcount : ∀ n, tasks.countP (fun task => decide (task.1 = n)) =
      if w.sent.length = n then tasks.length else 0 := by
    intro n
    split
    · next heq =>
      rw [List.countP_eq_length]
      intro task htask
      simpa [heq] using (htasks task htask).1
    · next hne =>
      rw [List.countP_eq_zero]
      intro task htask
      simpa [(htasks task htask).1] using hne
  have hplaces : ∀ n, places { w with
      sent := w.sent ++ [message]
      running := running
      created := w.created ++ tasks
      failed := w.failed ++ refused } [] n =
        w.places [] n + if w.sent.length = n then tasks.length else 0 := by
    intro n
    rw [← hcount]
    simp only [places, List.countP_append]
    omega
  constructor
  · intro hr n hn
    rw [hplaces]
    obtain ⟨hr, hone⟩ := hrunning hr
    rw [List.length_append, List.length_singleton] at hn
    by_cases heq : w.sent.length = n
    · subst heq
      have hfresh := h.fresh w.sent.length le_rfl
      rcases hone with hone | ⟨hmem, hnil⟩
      · left
        rw [hfresh, if_pos rfl, hone]
      · exact .inr ⟨List.mem_append_right _ hmem, message, hnew, (hrefused _ hmem).2⟩
    · rw [if_neg heq]
      exact (h.placed hr n (by omega)).imp id fun hfailed =>
        ⟨List.mem_append_left _ hfailed.1, hstays hfailed.2⟩
  · intro n hn
    rw [List.length_append, List.length_singleton] at hn
    rw [hplaces, h.fresh n (by omega), if_neg (by omega)]
  · intro task htask
    rcases List.mem_append.mp htask with htask | htask
    · obtain ⟨m, hm, hloads⟩ := h.created task htask
      exact ⟨m, getElem?_sent hm message, hloads⟩
    · obtain ⟨hnumber, hloads⟩ := htasks task htask
      exact ⟨message, by rw [hnumber]; exact hnew, hloads⟩
  · exact fun job hjob => hselectable (h.jobs job hjob)
  · exact fun n hn => hselectable (h.handled n hn)
  · intro n hn
    rcases List.mem_append.mp hn with hn | hn
    · exact (h.failed n hn).imp_right hstays
    · obtain ⟨rfl, hnot⟩ := hrefused n hn
      exact .inr ⟨message, hnew, hnot⟩
  · exact fun trace ht => hselectable (h.traced trace ht)
  · intro hr
    rcases hstopped hr with hr | hnot
    · obtain ⟨n, hn⟩ := h.stopped hr
      exact ⟨n, hstays hn⟩
    · exact ⟨_, message, hnew, hnot⟩

/-- A message is delivered. -/
lemma deliver (h : w.Tracked []) (message : Message backend) : (w.deliver message).Tracked [] := by
  simp only [Worker.deliver]
  split
  · next hrunning =>
    split
    · next payload hloads =>
      have hreceive := h.receive message w.running [(w.sent.length, payload)] []
        (by simpa using hloads) (by simp) (fun hr => ⟨hr, .inl rfl⟩) .inl
      simpa using hreceive
    · next error hloads =>
      have hnot : ¬ Selectable message := by
        rintro ⟨payload, -, hok, -⟩
        rw [hok] at hloads
        cases hloads
      have hreceive := h.receive message (backend != .redis) [] [w.sent.length] (by simp)
        (by simpa using hnot)
        (fun hr => ⟨hrunning, .inr ⟨List.mem_cons_self, rfl⟩⟩) fun _ => .inr hnot
      simpa using hreceive
  · next hrunning =>
    have hreceive := h.receive message w.running [] [] (by simp) (by simp)
      (fun hr => absurd hr hrunning) .inl
    simpa using hreceive

/-- A task runs for the first time. -/
lemma runHandlerSafely (h : w.Tracked []) {i number : ℕ} {payload : Json String}
    (hi : w.created[i]? = some (number, payload)) :
    ({ w with created := w.created.eraseIdx i }.runHandlerSafely number payload).Tracked [] := by
  obtain ⟨message, hmessage, hloads⟩ := h.created _ (List.mem_of_getElem? hi)
  have hcount : ∀ n, (w.created.eraseIdx i).countP (fun task => decide (task.1 = n)) +
      (if number = n then 1 else 0) = w.created.countP fun task => decide (task.1 = n) := by
    intro n
    have herase := TaskQueue.countP_eraseIdx
      (fun task : ℕ × Json String => decide (task.1 = n)) hi
    simpa using herase
  rw [Worker.runHandlerSafely]
  split
  · next profile hprofile =>
    have hselectable : w.SelectableAt number :=
      ⟨message, hmessage, payload, profile, hloads, hprofile⟩
    refine enter (h.move rfl rfl rfl rfl (fun task ht => List.mem_of_mem_eraseIdx ht)
      (fun n => ?_) ?_ h.handled)
    · have := hcount n
      simp only [places, countOf_singleton, countOf_nil]
      omega
    · rintro job (hjob | hjob)
      · rw [List.mem_singleton.mp hjob]
        exact hselectable
      · exact h.jobs job (.inr hjob)
  · next error hprofile =>
    have hrefused : w.Refused number := by
      refine ⟨message, hmessage, ?_⟩
      rintro ⟨payload', profile, hok, hsome⟩
      rw [hloads] at hok
      obtain rfl := Except.ok.inj hok
      rw [hprofile] at hsome
      cases hsome
    have hplaces : ∀ n, places { w with
        created := w.created.eraseIdx i
        failed := w.failed ++ [number] } [] n + (if number = n then 1 else 0) = w.places [] n := by
      intro n
      have := hcount n
      simp only [places]
      omega
    exact {
      placed := by
        intro hr n hn
        by_cases heq : number = n
        · subst heq
          exact .inr ⟨List.mem_append_right _ List.mem_cons_self, hrefused⟩
        · have := hplaces n
          rw [if_neg heq, Nat.add_zero] at this
          rw [this]
          exact (h.placed hr n hn).imp_right fun hfailed =>
            ⟨List.mem_append_left _ hfailed.1, hfailed.2⟩
      fresh := fun n hn => (Nat.add_eq_zero_iff.mp ((hplaces n).trans (h.fresh n hn))).1
      created := fun task ht => h.created task (List.mem_of_mem_eraseIdx ht)
      jobs := h.jobs
      handled := h.handled
      failed := by
        intro n hn
        rcases List.mem_append.mp hn with hn | hn
        · exact h.failed n hn
        · rw [List.mem_singleton.mp hn]
          exact .inr hrefused
      traced := h.traced
      stopped := h.stopped }

/-- Every step keeps track of the messages. -/
lemma step (h : w.Tracked []) (e : Event backend) : (w.step e).Tracked [] := by
  cases e with
  | deliver message => exact h.deliver message
  | begin_ i =>
    simp only [Worker.step]
    split
    · exact h
    · next hi => exact h.runHandlerSafely hi
  | resumeGlobal i =>
    simp only [Worker.step]
    split
    · exact h
    · next job hi =>
      obtain ⟨hcount, hjobs⟩ := resumed hi
      exact enterProfile (h.setGlobal hcount hjobs)
  | resumeProfile p i =>
    simp only [Worker.step]
    split
    · exact h
    · next job hi =>
      obtain ⟨hcount, hjobs⟩ := resumed hi
      exact execute (h.setProfile p hcount hjobs)
  | finish i outcome =>
    simp only [Worker.step]
    split
    · exact h
    · next job hi =>
      have hjob : w.SelectableAt job.message :=
        h.jobs job (.inr (.inr (.inr (List.mem_of_getElem? hi))))
      have herased : Tracked [] { w with executing := w.executing.eraseIdx i } := by
        refine h.move rfl rfl rfl rfl (fun _ ht => ht) (fun n => rfl) ?_ h.handled
        rintro job' (hjob' | hjob' | hjob' | hjob')
        · exact h.jobs job' (.inl hjob')
        · exact h.jobs job' (.inr (.inl hjob'))
        · exact h.jobs job' (.inr (.inr (.inl hjob')))
        · exact h.jobs job' (.inr (.inr (.inr (List.mem_of_mem_eraseIdx hjob'))))
      exact (herased.conclude hjob outcome).leave job

end Tracked

lemma tracked_start (queueName : String) (limits : Limits) :
    (start backend queueName limits).Tracked [] where
  placed _ n hn := by cases hn
  fresh _ _ := rfl
  created _ ht := by cases ht
  jobs job hjob := by
    rcases hjob with hjob | hjob | ⟨p, hjob⟩ | hjob <;> cases hjob
  handled _ hn := by cases hn
  failed _ hn := by cases hn
  traced _ ht := by cases ht
  stopped hr := by cases hr

section Complete

variable (hcomplete : w.Complete) (htracked : w.Tracked [])
  (haccounted : w.forget.Accounted limits 0)

include hcomplete haccounted in
/-- When everything has happened, the places of a message are the calls of its handler. -/
lemma Complete.places (n : ℕ) : w.places [] n = w.handled.count n := by
  obtain ⟨hsemaphore, hprofiles⟩ := hcomplete.semaphores haccounted
  simp [Worker.places, waitingAt, hcomplete.created, hsemaphore, hprofiles]

lemma SelectableAt.not_refused {n : ℕ} (h : w.SelectableAt n) : ¬ w.Refused n := by
  obtain ⟨message, hmessage, hselectable⟩ := h
  rintro ⟨message', hmessage', hnot⟩
  rw [hmessage] at hmessage'
  exact hnot (Option.some.inj hmessage' ▸ hselectable)

include hcomplete htracked haccounted in
lemma Complete.dependable (h : ∀ message ∈ w.sent, Selectable message) : w.Dependable limits := by
  have hnone : ∀ n, ¬ w.Refused n := by
    rintro n ⟨message, hmessage, hnot⟩
    exact hnot (h message (List.mem_of_getElem? hmessage))
  have hrunning : w.running = true := by
    by_contra hstopped
    obtain ⟨n, hn⟩ := htracked.stopped (by simpa using hstopped)
    exact hnone n hn
  obtain ⟨hsemaphore, hprofiles⟩ := hcomplete.semaphores haccounted
  constructor
  · exact hrunning
  · intro n message payload hmessage hloads
    have hlt := (List.getElem?_eq_some_iff.mp hmessage).1
    rw [← hcomplete.places haccounted]
    exact (htracked.placed hrunning n hlt).resolve_right fun hfailed => hnone n hfailed.2
  · exact fun n hn => (htracked.failed n hn).resolve_right (hnone n)
  · exact ⟨by rw [hsemaphore]; rfl, fun p => by rw [hprofiles p]; rfl⟩

include hcomplete htracked haccounted in
lemma Complete.selectable (h : w.Dependable limits) : ∀ message ∈ w.sent, Selectable message := by
  intro message hmem
  obtain ⟨n, hmessage⟩ := List.mem_iff_getElem?.mp hmem
  by_contra hnot
  have hlt := (List.getElem?_eq_some_iff.mp hmessage).1
  have hrefused : w.Refused n := ⟨message, hmessage, hnot⟩
  rcases htracked.placed h.running n hlt with hplaced | ⟨hfailed, -⟩
  · rw [hcomplete.places haccounted] at hplaced
    have hhandled : n ∈ w.handled := List.count_pos_iff.mp (by omega)
    exact (htracked.handled n hhandled).not_refused hrefused
  · obtain ⟨trace, htrace, rfl⟩ := h.recorded n hfailed
    exact (htracked.traced trace htrace).not_refused hrefused

end Complete

/-- After every run in which all that could happen has happened, the worker has been dependable
exactly if every message was an object with a selectable profile. -/
theorem dependable_iff (backend : Backend) (queueName : String) (limits : Limits)
    (events : List (Event backend))
    (hcomplete : (run step (start backend queueName limits) events).Complete) :
    (run step (start backend queueName limits) events).Dependable limits ↔
      ∀ message ∈ (run step (start backend queueName limits) events).sent, Selectable message := by
  have haccounted : (run step (start backend queueName limits) events).forget.Accounted limits 0 :=
    accounted_run limits queueName events
  have htracked : (run step (start backend queueName limits) events).Tracked [] :=
    run_induction (I := fun w : Worker backend => w.Tracked []) (fun w e h => h.step e)
      (tracked_start queueName limits) events
  exact ⟨hcomplete.selectable htracked haccounted, hcomplete.dependable htracked haccounted⟩

/-- A message of redis that is handled. -/
theorem dependable_realtime :
    (run step (start .redis "agent.tasks" .default)
      [.deliver (.ok (.obj [("runtime_profile", .str "realtime")]) : Except String (Json String)),
        .begin_ 0, .finish 0 .returned]).Dependable .default := by
  refine (dependable_iff .redis "agent.tasks" .default _ ⟨?_, ?_, ?_, ?_⟩).mpr ?_
  · decide +kernel
  · decide +kernel
  · intro p
    cases p <;> decide +kernel
  · decide +kernel
  · intro message hmessage
    change message ∈ [(.ok (.obj [("runtime_profile", .str "realtime")]) :
      Except String (Json String))] at hmessage
    rw [List.mem_singleton.mp hmessage]
    exact ⟨_, .realtime, rfl, by rfl⟩

/-- A body that is no JSON ends the worker of redis. -/
theorem not_dependable_notJson : ¬ ∀ (backend : Backend) (queueName : String) (limits : Limits)
    (events : List (Event backend)),
    (run step (start backend queueName limits) events).Complete →
      (run step (start backend queueName limits) events).Dependable limits := by
  intro h
  have hdependable := h .redis "agent.tasks" .default
    [.deliver (.error "Expecting value: line 1 column 1 (char 0)" : Except String (Json String))]
    ⟨rfl, rfl, fun _ => rfl, rfl⟩
  exact absurd hdependable.running (by decide)

end Worker

end EcommerceAgent.Runtime.QueueWorker
