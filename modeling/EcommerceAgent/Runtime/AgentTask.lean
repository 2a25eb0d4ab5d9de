/-
# One task, from the queue to its last statement

`start_agent_task` of `api/server.py` for one payload, together with the requests that reach the
task meanwhile: `POST /api/task/{id}/cancel`, `POST /api/ai-chat/tasks/{id}/cancel`, the approvals
of its agent and the lookup of its business job.  The worker's coroutine suspends in the call of the
agent and nowhere behind it, and the cancel route suspends before `task_runtime.cancel`; here both
may be interrupted after every statement, which covers each of these orders and more.
-/
import EcommerceAgent.Runtime.Records
import EcommerceAgent.Runtime.Calls
import EcommerceAgent.Runtime.Server

open EcommerceAgent.Lib

namespace EcommerceAgent.Runtime

/-- A queued payload with the fields that `start_agent_task` reads. -/
structure AgentPayload extends Payload where
  messageId : String
  intent : String
deriving DecidableEq, Repr

/-- `_ai_chat_result_source`. -/
def aiChatResultSource (intent : String) : AnswerSource :=
  if ["seasonal_selection", "inventory_analysis", "campaign_review", "daily_report",
      "hot_product_analysis", "product_optimization"].contains intent then .workflowFast
  else .agent

/-- `timeout_message`. -/
def timeoutMessage : String :=
  "Agent 分析超过最长运行时间，已自动停止。请缩小问题范围后重新执行?"

/-- How the call of the agent ends, with everything before it inside the `try`. -/
abbrev AgentResult := Except PyError FinalResult

/-- `monitor.emit_assistant_final` and `monitor.emit_agent_error`, which raise nothing. -/
def emit (event : ChatEvent) : Service Unit :=
  .act .emit (fun w => { w with records := w.records.emit event }) fun _ => .ret ()

/-! ### The coroutine -/

/-- The branch of the `try` that stores and pushes the answer of a chat. -/
def publishAnswer (payload : AgentPayload) (markdown : String) (structuredJson : Option String) :
    Service Unit :=
  if payload.aiChat then do
    let source := aiChatResultSource payload.intent
    completeChatRun id payload.identity payload.taskId markdown source structuredJson
    emit (.assistantFinal payload.taskId payload.conversationId payload.messageId markdown source)
  else pure ()

/-- What both handlers do for a chat. -/
def reportChatFailure (payload : AgentPayload) (message : String) (status : ChatStatus) :
    Service Unit :=
  if payload.aiChat then do
    failChatRun id payload.identity payload.taskId message status
    emit (.agentError payload.taskId payload.conversationId payload.messageId message)
  else pure ()

/-- The `except` clauses of `run_and_finalize`. -/
def handleError (payload : AgentPayload) : PyError → Service String
  | .timeoutError message => do
    reportChatFailure payload timeoutMessage .timeout
    throw (.timeoutError message)
  | .exception message => do
    reportChatFailure payload message .failed
    finalizeAgentJobFailure payload.identity payload.taskId message
    throw (.exception message)
  | .cancelledError => throw .cancelledError

section

variable (tools : ResultTools)

/-- The `try` of `run_and_finalize`, from the end of the agent's call. -/
def storeResult (payload : AgentPayload) (agent : AgentResult) : Service String := do
  let finalResult ← Script.ofExcept agent
  let finalStructuredJson ← structuredJson finalResult
  publishAnswer payload finalResult.markdown finalStructuredJson
  finalizeAgentJobSuccess tools payload.identity payload.taskId finalResult
  return finalResult.markdown

/-- `run_and_finalize`, from the end of the agent's call. -/
def runAndFinalize (payload : AgentPayload) (agent : AgentResult) : Service String :=
  tryCatch (storeResult tools payload agent) (handleError payload)

end

/-! ### The cancel route of the chat -/

/-- The statuses with which `cancel_ai_chat_task` returns at once. -/
def ChatStatus.isFinal : ChatStatus → Bool
  | .running => false
  | _ => true

/-- The answer of `cancel_ai_chat_task`. -/
structure CancelAnswer where
  cancelled : Bool
  status : ChatStatus
deriving DecidableEq, Repr

/-- `cancel_ai_chat_task` for a run that was not final when it was read. -/
def cancelOpenRun (identity : Identity) (taskId : String) : Service CancelAnswer := do
  let cancelled ← (.act .cancelTask (fun w => { w with runtime := (w.runtime.cancel taskId).2 })
    fun w => .ret (w.runtime.cancel taskId).1 : Service Bool)
  failChatRun id identity taskId "用户已取消本?AI Chat 分析?" .cancelled
  return ⟨cancelled, .cancelled⟩

/-- `cancel_ai_chat_task`. -/
def cancelAiChatTask (identity : Identity) (taskId : String) : Service CancelAnswer := do
  match ← fetch .getRunByTask (·.findRun id identity taskId) with
  | none => throw (.exception "404: 任务不存在或无权访问")
  | some run =>
    if run.status.isFinal then return ⟨false, run.status⟩ else cancelOpenRun identity taskId

/-! ### The system -/

/-- Where `start_agent_task` is: before it, in the call of the agent, behind it with the rest of
the coroutine, at the end of the asyncio task, or through. -/
inductive Worker
  | queued
  | awaiting (handle : ℕ)
  | writing (handle : ℕ) (rest : Service String)
  | ended (handle : ℕ)
  | closed

/-- The state of one task, and what is left of the requests to cancel its chat. -/
structure AgentTask where
  world : World
  worker : Worker
  requests : List (Service CancelAnswer) := []

/-- What can happen.  A text is the error with which the database refuses a statement. -/
inductive TaskAction
  | startAgentTask
  | agentEnds (result : AgentResult)
  | work (failure : Option String)
  | finish
  | cancelTask
  | cancelAiChatTask
  | serve (i : ℕ) (failure : Option String)
  | requestApproval (summary : String)
  | resumeTask (decision instruction : String)
  | syncJob (failures : List (Option String))

namespace TaskRuntime

variable (rt : TaskRuntime)

/-- Nothing keeps a task that is not running from being started. -/
lemma startTask_of_idle {threadId : String} (h : rt.isRunning threadId = false) (query : String)
    (metadata : Metadata) : ∃ g rt', rt.startTask threadId query metadata = .ok (g, rt') := by
  unfold startTask
  rw [h]
  exact ⟨_, _, rfl⟩

/-- The suspended coroutine of the task `h` goes on, and a requested cancellation is delivered. -/
def deliver (h : ℕ) : TaskRuntime :=
  { rt with asyncTask :=
      Function.update rt.asyncTask h { rt.asyncTask h with cancelRequested := false } }

/-- How asyncio ends the task `h` when its coroutine does: a cancellation requested since then
replaces a returned value. -/
def coroutineOutcome (h : ℕ) : Except PyError String → Outcome
  | .ok content => if (rt.asyncTask h).cancelRequested then .cancelled else .returned content
  | .error .cancelledError => .cancelled
  | .error e => .raised e.str

/-- The asyncio task `h` is done. -/
def endTask (h : ℕ) (result : Except PyError String) : TaskRuntime :=
  { rt with
    asyncTask := Function.update rt.asyncTask h
      { rt.asyncTask h with outcome := some (rt.coroutineOutcome h result) } }

end TaskRuntime

namespace AgentTask

variable (tools : ResultTools) (payload : AgentPayload) (jobId : String) (s : AgentTask)

/-- Change the runtime. -/
def withRuntime (rt : TaskRuntime) : AgentTask := { s with world := { s.world with runtime := rt } }

/-- `start_agent_task`, up to the call of the agent. -/
def start : AgentTask :=
  match s.worker with
  | .queued =>
    if s.world.runtime.isCancelled payload.taskId then { s with worker := .closed }
    else
      match s.world.runtime.startTask payload.taskId payload.query
          ⟨payload.conversationId, payload.identity⟩ with
      | .error _ => { s with worker := .closed }
      | .ok (h, rt) => { s.withRuntime rt with worker := .awaiting h }
  | _ => s

/-- The agent's call ends, and the coroutine is resumed. -/
def agentEnds (result : AgentResult) : AgentTask :=
  match s.worker with
  | .awaiting h =>
    { s.withRuntime (s.world.runtime.deliver h) with
      worker := .writing h (runAndFinalize tools payload result) }
  | _ => s

/-- The next statement of the coroutine, or its end. -/
def work (failure : Option String) : AgentTask :=
  match s.worker with
  | .writing h rest =>
    match rest.result? with
    | some result => { s.withRuntime (s.world.runtime.endTask h result) with worker := .ended h }
    | none =>
      { s with
        world := (rest.step (failure.map .exception) s.world).2
        worker := .writing h (rest.step (failure.map .exception) s.world).1 }
  | _ => s

/-- `start_and_wait` records the end of the asyncio task. -/
def finish : AgentTask :=
  match s.worker with
  | .ended h => { s.withRuntime (s.world.runtime.finish payload.taskId h) with worker := .closed }
  | _ => s

/-- The next statement of the `i`-th request. -/
def serve (i : ℕ) (failure : Option String) : AgentTask :=
  match s.requests[i]? with
  | some request =>
    { s with
      world := (request.step (failure.map .exception) s.world).2
      requests := s.requests.set i (request.step (failure.map .exception) s.world).1 }
  | none => s

/-- `_request_write_approval` of the agent, which waits under the name of the conversation. -/
def requestApproval (summary : String) : AgentTask :=
  match s.worker with
  | .queued => s
  | _ => s.withRuntime (s.world.runtime.interrupt payload.conversationId
      "database_change_approval" summary).2

/-- The approval is answered. -/
def resumeTask (decision instruction : String) : AgentTask :=
  match s.world.runtime.resume payload.taskId decision instruction with
  | .ok (_, rt) => s.withRuntime rt
  | .error _ => s

/-- A lookup of the business job `jobId`. -/
def sync (failures : List (Option String)) : AgentTask :=
  { s with world := ((syncAgentJobFromRuntime tools payload.identity jobId).exec
      (failures.map (·.map .exception)) s.world).2 }

/-- One step of the system. -/
def step : TaskAction → AgentTask
  | .startAgentTask => s.start payload
  | .agentEnds result => s.agentEnds tools payload result
  | .work failure => s.work failure
  | .finish => s.finish payload
  | .cancelTask => s.withRuntime (s.world.runtime.cancel payload.taskId).2
  | .cancelAiChatTask =>
    { s with requests := s.requests ++ [Runtime.cancelAiChatTask payload.identity payload.taskId] }
  | .serve i failure => s.serve i failure
  | .requestApproval summary => s.requestApproval payload summary
  | .resumeTask decision instruction => s.resumeTask payload decision instruction
  | .syncJob failures => s.sync tools payload jobId failures

variable {tools payload s}

lemma start_of_ok (hworker : s.worker = .queued)
    (hcancelled : s.world.runtime.isCancelled payload.taskId = false) {h : ℕ} {rt : TaskRuntime}
    (hrt : s.world.runtime.startTask payload.taskId payload.query
      ⟨payload.conversationId, payload.identity⟩ = .ok (h, rt)) :
    s.start payload = { s.withRuntime rt with worker := .awaiting h } := by
  unfold start
  rw [hworker]
  simp only [hcancelled, hrt, Bool.false_eq_true, if_false]

end AgentTask

/-! ### Calls that leave a task alone -/

namespace TaskRuntime

variable {rt rt' : TaskRuntime} {k : String}

/-- Nothing that is kept about the task `k`, or about the asyncio tasks `P`, is different. -/
structure Aside (k : String) (P : ℕ → Prop) (rt rt' : TaskRuntime) : Prop where
  states : rt'.states k = rt.states k
  tasks : rt'.tasks k = rt.tasks k
  latest : rt'.conversationLatestTask k = rt.conversationLatestTask k
  asyncTask : ∀ h, P h → rt'.asyncTask h = rt.asyncTask h

variable {P : ℕ → Prop}

lemma Aside.refl (k : String) (P : ℕ → Prop) (rt : TaskRuntime) : Aside k P rt rt :=
  ⟨rfl, rfl, rfl, fun _ _ => rfl⟩

lemma aside_interrupt {c : String} (hc : k ≠ c) (reason summary : String) :
    Aside k P rt (rt.interrupt c reason summary).2 :=
  ⟨Function.update_of_ne hc .., rfl, rfl, fun _ _ => rfl⟩

lemma aside_abortInterrupt (c : String) : Aside k P rt (rt.abortInterrupt c) := by
  unfold abortInterrupt
  split <;> exact ⟨rfl, rfl, rfl, fun _ _ => rfl⟩

/-- A `cancel` that returns false. -/
lemma aside_cancel (h : (rt.cancel k).1 = false) : Aside k P rt (rt.cancel k).2 := by
  rcases rt.cancel_cases k with ⟨g, -, -, hc⟩ | ⟨-, -, hc⟩ | ⟨-, -, hc⟩
  · rw [hc] at h
    cases h
  · rw [hc] at h
    cases h
  · rw [hc]
    exact aside_abortInterrupt k

/-- A `resume` of a task that is not interrupted. -/
lemma aside_resume {decision instruction : String} {done : Bool}
    (hstatus : rt.statusOf k ≠ some .interrupted)
    (h : rt.resume k decision instruction = .ok (done, rt')) : Aside k P rt rt' := by
  rcases rt.resume_cases k decision instruction with
    ⟨e, he⟩ | ⟨-, he⟩ | ⟨d, f, state, -, -, hstate, -, hinterrupted, he⟩
  · cases he.symm.trans h
  · cases he.symm.trans h
    exact ⟨rfl, rfl, rfl, fun _ _ => rfl⟩
  · exact absurd (by simp [statusOf, hstate, hinterrupted]) hstatus

end TaskRuntime

/-! ### Rules for service code -/

/-- No step of `R` makes `A` false. -/
def Stable (R : World → World → Prop) (A : World → Prop) : Prop := ∀ w w', R w w' → A w → A w'

section

variable {mayFail : Statement → PyError → World → Prop} {R G : World → World → Prop}
  {A B : World → Prop} {w : World}

/-- The rule of an update: it turns `A` into `B`, and if it fails `A` is left. -/
lemma through_execute {statement : Statement} {f : Records → Records}
    {Q : Except PyError Unit → World → Prop} (hA : Stable R A) (hB : Stable R B) (hw : A w)
    (hG : ∀ w, A w → G w { w with records := f w.records })
    (hf : ∀ w, A w → B { w with records := f w.records })
    (hok : ∀ w, B w → Q (.ok ()) w)
    (herror : ∀ w e, A w → mayFail statement e w → ∀ w', A w' → Q (.error e) w') :
    (execute statement f).Through mayFail R G Q w := by
  intro w₁ h₁
  have hw₁ := hA w w₁ h₁ hw
  refine ⟨⟨hG w₁ hw₁, fun w₂ h₂ => hok w₂ (hB _ w₂ h₂ (hf w₁ hw₁))⟩, fun e he w₂ h₂ => ?_⟩
  exact herror w₁ e hw₁ he w₂ (hA w₁ w₂ h₂ hw₁)

/-- The rule of a lookup: its value was right at some time since the start. -/
lemma through_fetch {α : Type} {statement : Statement} {q : Records → α}
    {Q : Except PyError α → World → Prop} (hA : Stable R A) (hw : A w)
    (hG : ∀ w, A w → G w w)
    (hok : ∀ w, A w → ∀ w', A w' → Q (.ok (q w.records)) w')
    (herror : ∀ w e, A w → mayFail statement e w → ∀ w', A w' → Q (.error e) w') :
    (fetch statement q).Through mayFail R G Q w := by
  intro w₁ h₁
  have hw₁ := hA w w₁ h₁ hw
  refine ⟨⟨hG w₁ hw₁, fun w₂ h₂ => hok w₁ hw₁ w₂ (hA w₁ w₂ h₂ hw₁)⟩, fun e he w₂ h₂ => ?_⟩
  exact herror w₁ e hw₁ he w₂ (hA w₁ w₂ h₂ hw₁)

/-- The rule of a program that does nothing. -/
lemma through_ret {α : Type} {a : α} {Q : Except PyError α → World → Prop} (hA : Stable R A)
    (hw : A w) (hok : ∀ w, A w → Q (.ok a) w) :
    (Script.ret a : Service α).Through mayFail R G Q w :=
  fun w' h => hok w' (hA w w' h hw)

/-- The exception is one with which the database may refuse a statement. -/
def Refused (mayFail : Statement → PyError → World → Prop) (e : PyError) : Prop :=
  ∃ statement w, mayFail statement e w

/-- The program keeps `A`, and raises only what the database raises. -/
def Keeps (mayFail : Statement → PyError → World → Prop) (R G : World → World → Prop)
    (A : World → Prop) {α : Type} (p : Service α) : Prop :=
  ∀ w, A w → p.Through mayFail R G
    (fun result w => A w ∧ ∀ e, result = .error e → Refused mayFail e) w

lemma keeps_ret {α : Type} (hA : Stable R A) (a : α) : Keeps mayFail R G A (.ret a) :=
  fun _ hw => through_ret hA hw fun _ hw => ⟨hw, nofun⟩

lemma Keeps.bind [Std.Refl R] {α β : Type} {p : Service α} {k : α → Service β}
    (hp : Keeps mayFail R G A p) (hk : ∀ a, Keeps mayFail R G A (k a)) :
    Keeps mayFail R G A (p.bind k) := by
  intro w hw
  refine Script.through_bind ((hp w hw).mono fun result w hresult => ?_)
  cases result with
  | ok a => exact hk a w hresult.1
  | error e =>
    refine ⟨hresult.1, fun e' he => ?_⟩
    cases he
    exact hresult.2 e rfl

/-- The update keeps `A` and is a step of `G`. -/
def Harmless (G : World → World → Prop) (A : World → Prop) (f : Records → Records) : Prop :=
  ∀ w, A w → A { w with records := f w.records } ∧ G w { w with records := f w.records }

lemma keeps_execute {statement : Statement} {f : Records → Records} (hA : Stable R A)
    (hf : Harmless G A f) : Keeps mayFail R G A (execute statement f) := by
  intro w hw
  refine through_execute hA hA hw (fun w hw => (hf w hw).2) (fun w hw => (hf w hw).1)
    (fun w hw => ⟨hw, nofun⟩) fun w e _ he w' hw' => ⟨hw', fun e' h => ?_⟩
  cases h
  exact ⟨statement, w, he⟩

lemma keeps_fetch {α : Type} {statement : Statement} {q : Records → α} (hA : Stable R A)
    (hG : ∀ w, A w → G w w) : Keeps mayFail R G A (fetch statement q) := by
  intro w hw
  refine through_fetch hA hw hG (fun _ _ w hw => ⟨hw, nofun⟩)
    fun w e _ he w' hw' => ⟨hw', fun e' h => ?_⟩
  cases h
  exact ⟨statement, w, he⟩

/-! ### What is saved after the status of a job -/

/-- The updates that save a result. -/
inductive Saving : (Records → Records) → Prop
  | updateReport (identity : Identity) (id : String) (f : BusinessReport → BusinessReport) :
      Saving (·.updateReport identity id f)
  | insertReport (report : BusinessReport) : Saving (·.insertReport report)
  | linkReport (identity : Identity) (jobId reportId : String) :
      Saving (·.linkReport identity jobId reportId)
  | insertReview (review : StrategyReview) : Saving (·.insertReview review)

variable [Std.Refl R] (hA : Stable R A) (hsave : ∀ f, Saving f → Harmless G A f)

include hA hsave

lemma keeps_upsertReportForJob (hG : ∀ w, A w → G w w) (tools : ResultTools) (identity : Identity)
    (job : AgentJob) (taskId finalResult summary : String) (json : Option String) :
    Keeps mayFail R G A
      (upsertReportForJob tools identity job taskId finalResult summary json) := by
  unfold upsertReportForJob
  cases truthy job.resultReportId with
  | some reportId =>
    exact Keeps.bind (keeps_execute hA (hsave _ (.updateReport ..))) fun _ => keeps_ret hA _
  | none =>
    cases reportJobTypes.lookup job.jobType with
    | none => exact keeps_ret hA _
    | some reportType =>
      refine Keeps.bind (keeps_fetch hA hG) fun existing => ?_
      cases existing with
      | some report =>
        exact Keeps.bind (keeps_execute hA (hsave _ (.updateReport ..))) fun _ => keeps_ret hA _
      | none =>
        refine Keeps.bind (keeps_execute hA (hsave _ (.insertReport _))) fun _ => ?_
        exact Keeps.bind (keeps_execute hA (hsave _ (.linkReport ..))) fun _ => keeps_ret hA _

lemma keeps_insertCandidates (tools : ResultTools) (identity : Identity) (taskId : String)
    (inserted : ℕ) (candidates : List StrategyCandidate) :
    Keeps mayFail R G A (insertCandidates tools identity taskId inserted candidates) := by
  induction candidates generalizing inserted with
  | nil => exact keeps_ret hA _
  | cons candidate rest ih =>
    simp only [insertCandidates]
    split
    · exact ih inserted
    · exact Keeps.bind (keeps_execute hA (hsave _ (.insertReview _))) fun _ => ih _

lemma keeps_saveResult (hG : ∀ w, A w → G w w) (tools : ResultTools) (identity : Identity)
    (taskId content : String) (json : Option String) (job : AgentJob) :
    Keeps mayFail R G A (saveResult tools identity taskId content json job) := by
  refine Keeps.bind (keeps_upsertReportForJob hA hsave hG _ _ _ _ _ _ _) fun _ =>
    Keeps.bind ?_ fun _ => keeps_ret hA _
  refine Keeps.bind (keeps_fetch hA hG) fun existing => ?_
  cases existing with
  | some _ => exact keeps_ret hA _
  | none => exact keeps_insertCandidates hA hsave _ _ _ _ _

lemma keeps_saveFailure (identity : Identity) (taskId message : String) (job : AgentJob) :
    Keeps mayFail R G A (saveFailure identity taskId message job) := by
  unfold saveFailure
  cases truthy job.resultReportId with
  | none => exact keeps_ret hA _
  | some reportId =>
    exact Keeps.bind (keeps_execute hA (hsave _ (.linkReport ..))) fun _ =>
      keeps_execute hA (hsave _ (.updateReport ..))

end

end EcommerceAgent.Runtime
