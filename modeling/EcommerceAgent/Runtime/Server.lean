/-
# The Brain's task endpoints, the queue and the worker

The routes of `api/server.py` and `api/routes/ai_chat.py` that register, cancel and resume
work, and `start_agent_task`, which the queue worker runs for every accepted payload.  None
of the routes suspends between its first access to the runtime and the registration (the
runtime's lock is never contended, see `EcommerceAgent.Runtime.TaskRuntime`), so a request is
one atomic step.

A started agent runs until its thread ends, also after its asyncio task was cancelled:
`asyncio.to_thread` cannot stop the thread.  Its database workflow may therefore ask for an
approval at any later moment.
-/
import EcommerceAgent.Runtime.TaskRuntime
import EcommerceAgent.Lib.Runs

open EcommerceAgent.Lib

namespace EcommerceAgent.Runtime

/-- Python's `a or b` for an optional string. -/
def orElse (a : Option String) (b : String) : String :=
  match a with
  | some s => if s = "" then b else s
  | none => b

lemma orElse_ne_empty {a : Option String} {b : String} (hb : b ≠ "") : orElse a b ≠ "" := by
  unfold orElse
  split
  · split
    · exact hb
    · assumption
  · exact hb

/-- A value of `str(uuid.uuid4())`. -/
abbrev Uuid := { text : String // text ≠ "" }

/-- The body of `POST /api/task`, without the identity fields (see the gateway's part). -/
structure TaskRequest where
  query : String
  threadId : Option String := none
  conversationId : Option String := none
  taskId : Option String := none
deriving DecidableEq, Repr

/-- The body of `POST /api/ai-chat/messages`, as far as it selects the conversation. -/
structure ChatRequest where
  content : String
  conversationId : Option String := none
deriving DecidableEq, Repr

/-- A queued payload. -/
structure Payload where
  query : String
  conversationId : String
  taskId : String
  identity : Identity
  aiChat : Bool
deriving DecidableEq, Repr

/-- The payload that `run_task` builds; the two uuids are used for missing ids. -/
def TaskRequest.payload (request : TaskRequest) (identity : Identity)
    (conversationUuid taskUuid : Uuid) : Payload where
  query := request.query
  conversationId := orElse request.conversationId (orElse request.threadId conversationUuid)
  taskId := orElse request.taskId taskUuid
  identity := identity
  aiChat := false

lemma TaskRequest.payload_conversationId_ne (request : TaskRequest) (identity : Identity)
    (cu tu : Uuid) : (request.payload identity cu tu).conversationId ≠ "" :=
  orElse_ne_empty (orElse_ne_empty cu.2)

/-- `build_agent_chat_query`. -/
def buildAgentChatQuery (userQuestion : String) : String :=
  "【AI对话任务?\n" ++
    "用户问题：" ++
    userQuestion ++
    "\n" ++
    "\n" ++
    "请结合当前店铺经营数据、商品表现、库存、活动和电商运营经验回答?\n" ++
    "如果需要，请通过 AgentRuntime 已路由的 workflow 或工具读取当前店铺商品、订单、库存、活动数据?\n" ++
    "回答必须直接回应用户问题，不要只罗列通用指标?\n" ++
    "\n" ++
    "商业化约束：\n" ++
    "- API route 只负责受理任务，不能拼接规则答案?\n" ++
    "- SQL 只能作为 workflow/tool 的数据源，最终回答必须由 AgentRuntime 控制输出?\n" ++
    "- 如果没有接入平台行情、搜索热度或外部网络数据，请明确说明，不要假装知道全网行情?"

/-- `str(payload.get("content") or "").strip()`. -/
def ChatRequest.userContent (request : ChatRequest) : String :=
  String.ofList (Text.strip request.content.toList)

/-- The payload that `chat` builds.  The runtime first stores the user's text; the wrapped text
of the payload replaces it when the task starts. -/
def ChatRequest.payload (request : ChatRequest) (identity : Identity)
    (conversationUuid taskUuid : Uuid) : Payload where
  query := buildAgentChatQuery request.userContent
  conversationId := orElse request.conversationId conversationUuid
  taskId := taskUuid
  identity := identity
  aiChat := true

lemma ChatRequest.payload_conversationId_ne (request : ChatRequest) (identity : Identity)
    (cu tu : Uuid) : (request.payload identity cu tu).conversationId ≠ "" :=
  orElse_ne_empty cu.2

/-- A payload whose agent was started, with the asyncio task that runs it. -/
structure Execution where
  payload : Payload
  handle : ℕ
deriving DecidableEq, Repr

/-- A database workflow of `execution` that entered `_request_write_approval` and awaits
`future`. -/
structure Waiter where
  execution : Execution
  future : ℕ
deriving DecidableEq, Repr

/-- An accepted request: the conversation, the task and the identity it was registered for. -/
structure Registration where
  conversationId : String
  taskId : String
  identity : Identity
  aiChat : Bool
deriving DecidableEq, Repr

/-- The Brain process.  `started` and `accepted` are logs; nothing is ever removed from
them. -/
structure Brain where
  runtime : TaskRuntime
  queue : List Payload
  running : List Execution
  started : List Execution
  waiters : List Waiter
  accepted : List Registration

/-- The process after startup. -/
def Brain.init : Brain := ⟨.empty, [], [], [], [], []⟩

/-- The answers of the task endpoints. -/
inductive Response
  | started (conversationId taskId : String)
  | cancelled (threadId taskId : String) (cancelled : Bool)
  | resumed (threadId taskId : String) (resumed : Bool) (decision : String)
  | notResumed (threadId error : String)
  | httpError (status : ℕ) (detail : String)
deriving DecidableEq, Repr

namespace Brain

variable (s : Brain)

/-- `task_runtime.enqueue` followed by `task_queue.enqueue`, as in both accepting routes.
`queueUp` is false when the queue's backend raises. -/
def accept (query : String) (p : Payload) (queueUp : Bool) : Response × Brain :=
  match s.runtime.enqueue p.taskId query ⟨p.conversationId, p.identity⟩ with
  | .error detail => (.httpError 409 detail, s)
  | .ok rt =>
    let s' := { s with
      runtime := rt
      accepted := ⟨p.conversationId, p.taskId, p.identity, p.aiChat⟩ :: s.accepted }
    if queueUp then (.started p.conversationId p.taskId, { s' with queue := s'.queue ++ [p] })
    else (.httpError 500 "Internal Server Error", s')

/-- `POST /api/task`. -/
def runTask (identity : Identity) (request : TaskRequest)
    (conversationUuid taskUuid : Uuid) (queueUp : Bool) : Response × Brain :=
  let p := request.payload identity conversationUuid taskUuid
  if s.runtime.conversationExists p.conversationId &&
      !s.runtime.ownsConversation p.conversationId identity then
    (.httpError 403 "无权复用该会?", s)
  else s.accept request.query p queueUp

/-- `POST /api/ai-chat/messages`.  `stored` is false when `create_chat_run` raises. -/
def chat (identity : Identity) (request : ChatRequest)
    (conversationUuid taskUuid : Uuid) (stored queueUp : Bool) : Response × Brain :=
  if request.userContent = "" then (.httpError 400 "请输入要分析的问?", s)
  else if !stored then (.httpError 500 "Internal Server Error", s)
  else s.accept request.userContent
    (request.payload identity conversationUuid taskUuid) queueUp

/-- `start_agent_task` for the `i`-th waiting payload, up to the point where
`start_and_wait` waits for the new asyncio task.  Nobody suspends while holding the lock, so that
neither `is_cancelled` nor `_start_task` has to wait for it, and nothing comes between the two. -/
def startAgentTask (i : ℕ) : Brain :=
  match s.queue[i]? with
  | none => s
  | some p =>
    let s' := { s with queue := s.queue.eraseIdx i }
    if s.runtime.isCancelled p.taskId then s'
    else
      match s.runtime.startTask p.taskId p.query ⟨p.conversationId, p.identity⟩ with
      | .error _ => s'
      | .ok (h, rt) =>
        { s' with
          runtime := rt
          running := ⟨p, h⟩ :: s.running
          started := ⟨p, h⟩ :: s.started }

/-- A workflow is blocked while the future it awaits is pending. -/
def Blocked (w : Waiter) : Prop := w ∈ s.waiters ∧ s.runtime.future w.future = .pending

instance (w : Waiter) : Decidable (s.Blocked w) := inferInstanceAs (Decidable (_ ∧ _))

/-- The asyncio task number `h` may end with `o`: it ends as cancelled only after a cancel
request, and otherwise only after the agent, with the workflows it awaits, has returned. -/
def MayComplete (h : ℕ) (o : Outcome) : Prop :=
  (s.runtime.asyncTask h).outcome = none ∧
    if o = .cancelled then (s.runtime.asyncTask h).cancelRequested = true
    else ∀ w ∈ s.waiters, w.execution.handle = h → s.runtime.future w.future ≠ .pending

instance (h : ℕ) (o : Outcome) : Decidable (s.MayComplete h o) :=
  inferInstanceAs (Decidable (_ ∧ _))

/-- The asyncio task of a started agent ends. -/
def complete (e : Execution) (o : Outcome) : Brain :=
  if e ∈ s.running ∧ s.MayComplete e.handle o then
    { s with runtime := { s.runtime with
      asyncTask := Function.update s.runtime.asyncTask e.handle
        { s.runtime.asyncTask e.handle with outcome := some o } } }
  else s

/-- `start_and_wait` finds its asyncio task done and runs `_finish`. -/
def finish (e : Execution) : Brain :=
  if e ∈ s.running ∧ (s.runtime.asyncTask e.handle).outcome.isSome then
    { s with
      runtime := s.runtime.finish e.payload.taskId e.handle
      running := s.running.erase e }
  else s

/-- `POST /api/task/{thread_id}/cancel`.  The id is resolved twice: once by the route and once
more inside `get_scoped`. -/
def cancelTask (identity : Identity) (threadId : String) : Response × Brain :=
  let taskId := s.runtime.resolveTaskId threadId
  match s.runtime.getScoped taskId identity with
  | none => (.httpError 404 "任务不存在或无权访问", s)
  | some _ =>
    let (done, rt) := s.runtime.cancel taskId
    (.cancelled threadId taskId done, { s with runtime := rt })

/-- `POST /api/ai-chat/tasks/{task_id}/cancel`.  The run is looked up in MySQL under the caller's
identity; `open_` is false when its status there is already final. -/
def cancelAiChatTask (identity : Identity) (taskId : String) (open_ : Bool) :
    Response × Brain :=
  if ∃ r ∈ s.accepted, r.aiChat = true ∧ r.taskId = taskId ∧ r.identity = identity then
    if open_ then
      let (done, rt) := s.runtime.cancel taskId
      (.cancelled taskId taskId done, { s with runtime := rt })
    else (.cancelled taskId taskId false, s)
  else (.httpError 404 "任务不存在或无权访问", s)

/-- `POST /api/task/{thread_id}/resume`. -/
def resumeTask (identity : Identity) (threadId decision instruction : String) :
    Response × Brain :=
  let taskId := s.runtime.resolveTaskId threadId
  match s.runtime.getScoped taskId identity with
  | none => (.httpError 404 "任务不存在或无权访问", s)
  | some _ =>
    match s.runtime.resume taskId decision instruction with
    | .error e => (.notResumed threadId e, s)
    | .ok (done, rt) => (.resumed threadId taskId done decision, { s with runtime := rt })

/-- `get_thread_context()` inside an agent: `build_task_context` sets it to the
conversation. -/
def threadContext (e : Execution) : String := e.payload.conversationId

/-- `_request_write_approval` in a started agent, up to the point where it waits. -/
def requestApproval (e : Execution) (summary : String) : Brain :=
  if e ∈ s.started ∧ threadContext e ≠ "" then
    let (f, rt) := s.runtime.interrupt (threadContext e) "database_change_approval" summary
    { s with runtime := rt, waiters := ⟨e, f⟩ :: s.waiters }
  else s

/-- The coroutine that waits for an approval is cancelled from inside the agent. -/
def abandon (w : Waiter) : Brain :=
  if s.Blocked w then
    { s with runtime := { s.runtime with
      future := Function.update s.runtime.future w.future .cancelled } }
  else s

end Brain

/-- What can happen to the Brain process. -/
inductive Action
  | runTask (identity : Identity) (request : TaskRequest) (conversationUuid taskUuid : Uuid)
      (queueUp : Bool)
  | chat (identity : Identity) (request : ChatRequest) (conversationUuid taskUuid : Uuid)
      (stored queueUp : Bool)
  | startAgentTask (i : ℕ)
  | complete (e : Execution) (o : Outcome)
  | finish (e : Execution)
  | cancelTask (identity : Identity) (threadId : String)
  | cancelAiChatTask (identity : Identity) (taskId : String) (open_ : Bool)
  | resumeTask (identity : Identity) (threadId decision instruction : String)
  | requestApproval (e : Execution) (summary : String)
  | abandon (w : Waiter)
deriving DecidableEq, Repr

/-- One step of the Brain process. -/
def Brain.step (s : Brain) : Action → Brain
  | .runTask identity request cu tu queueUp => (s.runTask identity request cu tu queueUp).2
  | .chat identity request cu tu stored queueUp =>
    (s.chat identity request cu tu stored queueUp).2
  | .startAgentTask i => s.startAgentTask i
  | .complete e o => s.complete e o
  | .finish e => s.finish e
  | .cancelTask identity x => (s.cancelTask identity x).2
  | .cancelAiChatTask identity taskId open_ => (s.cancelAiChatTask identity taskId open_).2
  | .resumeTask identity x decision instruction =>
    (s.resumeTask identity x decision instruction).2
  | .requestApproval e summary => s.requestApproval e summary
  | .abandon w => s.abandon w

/-- The text and the payload that an accepting route hands to `enqueue`, if its own checks let
the request through. -/
def Brain.attempt (s : Brain) : Action → Option (String × Payload × Bool)
  | .runTask identity request cu tu queueUp =>
    let p := request.payload identity cu tu
    if s.runtime.conversationExists p.conversationId &&
        !s.runtime.ownsConversation p.conversationId identity then none
    else some (request.query, p, queueUp)
  | .chat identity request cu tu stored queueUp =>
    if request.userContent = "" ∨ stored = false then none
    else some (request.userContent, request.payload identity cu tu, queueUp)
  | _ => none

lemma Brain.attempt_conversationId_ne {s : Brain} {a : Action} {text : String} {p : Payload}
    {queueUp : Bool} (h : s.attempt a = some (text, p, queueUp)) : p.conversationId ≠ "" := by
  cases a with
  | runTask identity request cu tu up =>
    simp only [attempt] at h
    split at h
    · cases h
    · cases h
      exact request.payload_conversationId_ne identity cu tu
  | chat identity request cu tu stored up =>
    simp only [attempt] at h
    split at h
    · cases h
    · cases h
      exact request.payload_conversationId_ne identity cu tu
  | _ => cases h

/-- An action that reaches `enqueue` is a step of `accept`. -/
lemma Brain.step_of_attempt {s : Brain} {a : Action} {text : String} {p : Payload}
    {queueUp : Bool} (h : s.attempt a = some (text, p, queueUp)) :
    s.step a = (s.accept text p queueUp).2 := by
  cases a with
  | runTask identity request cu tu up =>
    simp only [attempt] at h
    split at h
    · cases h
    · rename_i hguard
      cases h
      simp only [step, runTask]
      rw [if_neg hguard]
  | chat identity request cu tu stored up =>
    simp only [attempt] at h
    split at h
    · cases h
    · rename_i hguard
      cases h
      obtain ⟨hcontent, hstored⟩ := not_or.1 hguard
      simp [step, chat, hcontent, hstored]
  | _ => cases h

/-- What `accept` does: it is refused, or it registers the task and queues the payload. -/
lemma Brain.accept_cases (s : Brain) (text : String) (p : Payload) (queueUp : Bool) :
    (s.accept text p queueUp).2 = s ∨
    ∃ rt, s.runtime.enqueue p.taskId text ⟨p.conversationId, p.identity⟩ = .ok rt ∧
      (s.accept text p queueUp).2 = { s with
        runtime := rt
        accepted := ⟨p.conversationId, p.taskId, p.identity, p.aiChat⟩ :: s.accepted
        queue := if queueUp then s.queue ++ [p] else s.queue } := by
  unfold accept
  cases h : s.runtime.enqueue p.taskId text ⟨p.conversationId, p.identity⟩ with
  | error e => exact .inl rfl
  | ok rt => cases queueUp <;> exact .inr ⟨rt, rfl, rfl⟩

/-- What a start of an agent does: nothing, it drops the payload, or it starts the task. -/
lemma Brain.startAgentTask_cases (s : Brain) (i : ℕ) :
    s.startAgentTask i = s ∨
    s.startAgentTask i = { s with queue := s.queue.eraseIdx i } ∨
    ∃ p h rt, s.queue[i]? = some p ∧ s.runtime.isCancelled p.taskId = false ∧
      s.runtime.startTask p.taskId p.query ⟨p.conversationId, p.identity⟩ = .ok (h, rt) ∧
      s.startAgentTask i = { s with
        queue := s.queue.eraseIdx i
        runtime := rt
        running := ⟨p, h⟩ :: s.running
        started := ⟨p, h⟩ :: s.started } := by
  unfold startAgentTask
  cases hp : s.queue[i]? with
  | none => exact .inl rfl
  | some p =>
    by_cases hc : s.runtime.isCancelled p.taskId = true
    · exact .inr (.inl (by simp [hc]))
    · cases hs : s.runtime.startTask p.taskId p.query ⟨p.conversationId, p.identity⟩ with
      | error e => exact .inr (.inl (by simp [hc, hs]))
      | ok r => exact .inr (.inr ⟨p, r.1, r.2, rfl, by simpa using hc, hs, by simp [hc, hs]⟩)

end EcommerceAgent.Runtime
