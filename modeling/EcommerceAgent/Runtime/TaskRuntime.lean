/-
# The in-memory task runtime

`TaskRuntime` of `api/task_runtime.py`: the four dictionaries of the class, together with
the asyncio tasks and futures they point into, addressed by number.  In which loop the coroutine
that awaits a future goes on, and when, is the subject of `EcommerceAgent.Runtime.WorkerLoops`.
Every method holds the lock from its first to its last access and never suspends in between
(`interrupt` only suspends after it has released the lock), so a method is one atomic step.
Time stamps are left out, since no method reads them.
-/
import EcommerceAgent.Lib.Text
import Mathlib.Logic.Function.Basic

open EcommerceAgent.Lib

namespace EcommerceAgent.Runtime

/-- The three identity fields that resource checks compare. -/
structure Identity where
  tenantId : String
  userId : String
  shopId : String
deriving DecidableEq, Repr

/-- The value of `state["status"]`. -/
inductive TaskStatus
  | queued | running | interrupted | cancelling | cancelled | succeeded | failed
deriving DecidableEq, Repr

/-- The decisions that `resume` accepts. -/
inductive Decision
  | continue_ | revise | abort
deriving DecidableEq, Repr

/-- `decision.lower().strip()`, looked up among the three accepted words. -/
def Decision.parse (decision : String) : Option Decision :=
  let word := Text.strip (Text.lower decision.toList)
  if word = "continue".toList then some .continue_
  else if word = "revise".toList then some .revise
  else if word = "abort".toList then some .abort
  else none

/-- The dictionary `{"decision": …, "instruction": …}` that wakes an interrupted task. -/
structure Verdict where
  decision : Decision
  instruction : String
deriving DecidableEq, Repr

/-- The `interrupt` entry of a task state. -/
structure InterruptRequest where
  reason : String
  summary : String
deriving DecidableEq, Repr

/-- A value of `_states`.  A field is `none` when the key is missing. -/
structure TaskState where
  threadId : String
  status : TaskStatus
  query : Option String := none
  conversationId : Option String := none
  tenantId : Option String := none
  userId : Option String := none
  shopId : Option String := none
  interrupt : Option InterruptRequest := none
  resumeDecision : Option Verdict := none
  error : Option String := none
  result : Option String := none
deriving DecidableEq, Repr

/-- The keys of the `metadata` argument that the runtime or its callers look at. -/
structure Metadata where
  conversationId : String
  identity : Identity
deriving DecidableEq, Repr

/-- How an asyncio task ended. -/
inductive Outcome
  | returned (content : String)
  | raised (error : String)
  | cancelled
deriving DecidableEq, Repr

/-- An asyncio task; it is done once `outcome` is set. -/
structure AsyncTask where
  cancelRequested : Bool := false
  outcome : Option Outcome := none
deriving DecidableEq, Repr

/-- An asyncio future on which `interrupt` waits. -/
inductive FutureState
  | pending
  | resolved (verdict : Verdict)
  | cancelled
deriving DecidableEq, Repr

/-- The dictionaries of `TaskRuntime`, and the event loop's tasks and futures. -/
structure TaskRuntime where
  tasks : String → Option ℕ
  states : String → Option TaskState
  interruptFutures : String → Option ℕ
  conversationLatestTask : String → Option String
  asyncTask : ℕ → AsyncTask
  future : ℕ → FutureState
  nextTask : ℕ
  nextFuture : ℕ

namespace TaskRuntime

/-- `TaskRuntime()`. -/
def empty : TaskRuntime where
  tasks := fun _ => none
  states := fun _ => none
  interruptFutures := fun _ => none
  conversationLatestTask := fun _ => none
  asyncTask := fun _ => {}
  future := fun _ => .pending
  nextTask := 0
  nextFuture := 0

variable (rt : TaskRuntime)

/-- `thread_id in self._tasks and not self._tasks[thread_id].done()`. -/
def isRunning (threadId : String) : Bool :=
  match rt.tasks threadId with
  | some h => (rt.asyncTask h).outcome.isNone
  | none => false

/-- The last statement of `enqueue` and of `_start_task`. -/
def setLatest (conversationId threadId : String) : String → Option String :=
  if conversationId = "" then rt.conversationLatestTask
  else Function.update rt.conversationLatestTask conversationId (some threadId)

/-- The state that `enqueue` stores. -/
def queuedState (threadId query : String) (metadata : Metadata) : TaskState where
  threadId := threadId
  status := .queued
  query := some query
  conversationId := some metadata.conversationId
  tenantId := some metadata.identity.tenantId
  userId := some metadata.identity.userId
  shopId := some metadata.identity.shopId

/-- `TaskRuntime.enqueue`. -/
def enqueue (threadId query : String) (metadata : Metadata) : Except String TaskRuntime :=
  if rt.isRunning threadId then .error ("任务正在运行: " ++ threadId)
  else .ok { rt with
    states := Function.update rt.states threadId (some (queuedState threadId query metadata))
    conversationLatestTask := rt.setLatest metadata.conversationId threadId }

/-- The state that `_start_task` stores: the metadata override the old entries, the entries
the metadata do not name are kept. -/
def startedState (old : Option TaskState) (threadId query : String) (metadata : Metadata) :
    TaskState :=
  { old.getD { threadId := threadId, status := .running } with
    threadId := threadId
    status := .running
    query := some query
    conversationId := some metadata.conversationId
    tenantId := some metadata.identity.tenantId
    userId := some metadata.identity.userId
    shopId := some metadata.identity.shopId }

/-- `TaskRuntime._start_task`; the number is the new asyncio task. -/
def startTask (threadId query : String) (metadata : Metadata) :
    Except String (ℕ × TaskRuntime) :=
  if rt.isRunning threadId then .error ("任务正在运行: " ++ threadId)
  else .ok (rt.nextTask, { rt with
    tasks := Function.update rt.tasks threadId (some rt.nextTask)
    asyncTask := Function.update rt.asyncTask rt.nextTask {}
    nextTask := rt.nextTask + 1
    states := Function.update rt.states threadId
      (some (startedState (rt.states threadId) threadId query metadata))
    conversationLatestTask := rt.setLatest metadata.conversationId threadId })

/-- `TaskRuntime.resolve_task_id`. -/
def resolveTaskId (taskOrConversationId : String) : String :=
  (rt.conversationLatestTask taskOrConversationId).getD taskOrConversationId

end TaskRuntime

/-- `TaskRuntime._matches_identity`. -/
def TaskState.matchesIdentity (state : TaskState) (identity : Identity) : Bool :=
  state.tenantId == some identity.tenantId && state.userId == some identity.userId &&
    state.shopId == some identity.shopId

namespace TaskRuntime

variable (rt : TaskRuntime)

/-- `TaskRuntime.get_scoped`. -/
def getScoped (taskOrConversationId : String) (identity : Identity) : Option TaskState :=
  (rt.states (rt.resolveTaskId taskOrConversationId)).filter (·.matchesIdentity identity)

/-- `TaskRuntime.owns_conversation`. -/
def ownsConversation (conversationId : String) (identity : Identity) : Bool :=
  match rt.states (rt.resolveTaskId conversationId) with
  | some state => state.matchesIdentity identity
  | none => false

/-- `TaskRuntime.conversation_exists`. -/
def conversationExists (conversationId : String) : Bool :=
  (rt.states (rt.resolveTaskId conversationId)).isSome

/-- Change the state stored under `threadId`, if there is one. -/
def modifyState (threadId : String) (f : TaskState → TaskState) : TaskRuntime :=
  { rt with states := Function.update rt.states threadId ((rt.states threadId).map f) }

/-- `future.set_result` for the future number `f`, unless it is already done. -/
def resolveFuture (f : ℕ) (verdict : Verdict) : TaskRuntime :=
  { rt with future := fun g =>
      if g = f ∧ rt.future g = .pending then .resolved verdict else rt.future g }

/-- `self._interrupt_futures.pop(thread_id, None)`, for its effect on the dictionary. -/
def popInterrupt (threadId : String) : TaskRuntime :=
  { rt with interruptFutures := Function.update rt.interruptFutures threadId none }

/-- The answer that a cancelled task finds at its interrupt. -/
def cancelVerdict : Verdict := ⟨.abort, "用户取消任务"⟩

/-- The first half of `cancel`: a waiting interrupt of the task is answered with `abort`. -/
def abortInterrupt (threadId : String) : TaskRuntime :=
  match rt.interruptFutures threadId with
  | some f => (rt.resolveFuture f cancelVerdict).popInterrupt threadId
  | none => rt

/-- `task.cancel()`. -/
def requestCancel (h : ℕ) : TaskRuntime :=
  { rt with asyncTask :=
      Function.update rt.asyncTask h { rt.asyncTask h with cancelRequested := true } }

/-- `TaskRuntime.cancel`. -/
def cancel (threadId : String) : Bool × TaskRuntime :=
  let rt' := rt.abortInterrupt threadId
  match rt.tasks threadId, rt.isRunning threadId with
  | some h, true =>
    (true, (rt'.modifyState threadId ({ · with status := .cancelling })).requestCancel h)
  | _, _ =>
    if (rt.states threadId).map TaskState.status = some .queued then
      (true, rt'.modifyState threadId ({ · with status := .cancelled }))
    else (false, rt')

/-- `TaskRuntime.interrupt`, up to the point where it waits for the returned future. -/
def interrupt (threadId reason summary : String) : ℕ × TaskRuntime :=
  let state := (rt.states threadId).getD { threadId := threadId, status := .interrupted }
  (rt.nextFuture, { rt with
    future := Function.update rt.future rt.nextFuture .pending
    nextFuture := rt.nextFuture + 1
    interruptFutures := Function.update rt.interruptFutures threadId (some rt.nextFuture)
    states := Function.update rt.states threadId
      (some { state with status := .interrupted, interrupt := some ⟨reason, summary⟩ }) })

/-- The state that `resume` leaves. -/
def resumedState (state : TaskState) (verdict : Verdict) : TaskState :=
  { state with
    status := if verdict.decision = .abort then .cancelling else .running
    resumeDecision := some verdict
    interrupt := none }

/-- `TaskRuntime.resume`.  The future is popped before its state and the task's status are
checked, so a refused call removes it as well. -/
def resume (threadId decision instruction : String) : Except String (Bool × TaskRuntime) :=
  match Decision.parse decision with
  | none => .error "decision 必须是 continue、revise 或 abort"
  | some d =>
    let rt' := rt.popInterrupt threadId
    match rt.interruptFutures threadId, rt.states threadId with
    | some f, some state =>
      if rt.future f = .pending ∧ state.status = .interrupted then
        .ok (true, (rt'.modifyState threadId (resumedState · ⟨d, instruction⟩)).resolveFuture f
          ⟨d, instruction⟩)
      else .ok (false, rt')
    | _, _ => .ok (false, rt')

/-- `TaskRuntime.is_cancelled`. -/
def isCancelled (threadId : String) : Bool :=
  (rt.states threadId).map TaskState.status == some .cancelled

/-- The entries that `_finish` writes for an outcome. -/
def finishedState (outcome : Outcome) (state : TaskState) : TaskState :=
  match outcome with
  | .cancelled => { state with status := .cancelled }
  | .raised error => { state with status := .failed, error := some error }
  | .returned content => { state with status := .succeeded, result := some content }

/-- `TaskRuntime._finish` for the done asyncio task `h`. -/
def finish (threadId : String) (h : ℕ) : TaskRuntime :=
  match (rt.asyncTask h).outcome with
  | some outcome => rt.modifyState threadId (finishedState outcome)
  | none => rt

end TaskRuntime

end EcommerceAgent.Runtime
