/-
# One run of the agent runtime

`AgentRuntime.run` of `agent/runtime/agent_runtime.py` with `build_task_context` and the functions
of `result_pipeline.py` that it calls: what a run leaves in the context variables, in the event log,
in the reflections and in the policy proposals, whatever fails on its way.  The variables are
restored unless the failure comes between their being set and the end of `prepare_context`
(`run_vars`).  The log has one terminal event, of the kind that the run ended with, unless a run
fails after its result was recorded or its failure cannot be recorded (`told_iff`).
-/
import EcommerceAgent.Lib.Script
import Mathlib

open EcommerceAgent.Lib

namespace EcommerceAgent.Runtime.AgentRun

/-! ### Statements and what they leave -/

/-- The exceptions that `run` tells apart. -/
inductive RunError
  | exception (message : String)
  | graphRecursion (message : String)
  | cancelled
deriving DecidableEq, Repr

/-- The statements that fail with an ordinary exception. -/
inductive SyncStmt
  | runtimeProfile | plan | makeSessionDir | copyUploadedFiles | recursionLimit | appendStarted
  | appendCompleted | appendReflection | appendProposal
  | appendCancelled | appendCancelReflection | appendCancelProposal
  | appendFailed | appendFailReflection | appendFailProposal
deriving DecidableEq, Repr

/-- The statements that wait, where a run can also be cancelled. -/
inductive AwaitStmt
  | planAsync | executeAgent | runEvaluation
deriving DecidableEq, Repr

/-- The statements that can fail, and those that cannot. -/
inductive Stmt
  | sync (s : SyncStmt)
  | await (a : AwaitStmt)
  | other
deriving DecidableEq, Repr

/-- The identity of a task. -/
structure MemoryIdentity where
  tenantId : String
  userId : String
  shopId : String
  conversationId : String
  taskId : String
deriving DecidableEq, Repr

/-- The context variables of the task; those of the sandbox are the identity and the profile. -/
structure ContextVars where
  sessionDir : Option String
  threadId : Option String
  identity : Option MemoryIdentity
  sandbox : Option (MemoryIdentity × String)
deriving DecidableEq, Repr

/-- The records of `append_task_event`. -/
inductive TaskEvent
  | started (query : String)
  | completed (result : String)
  | failed (error reason : String)
  | cancelled
deriving DecidableEq, Repr

/-- The events with which a task is through. -/
def TaskEvent.isTerminal : TaskEvent → Bool
  | started _ => false
  | _ => true

/-- The status of a reflection. -/
inductive ReflectionStatus
  | succeeded | failed | deferred
deriving DecidableEq, Repr

/-- The result of `build_task_reflection`. -/
structure Reflection where
  status : ReflectionStatus
  summary : String
  lessons : List String
deriving DecidableEq, Repr

/-- The part of a policy proposal that the run decides. -/
structure Proposal where
  taskQuery : String
  rationale : String
  instruction : String
deriving DecidableEq, Repr

/-- How a trace says that the agent finished. -/
inductive FinishStatus
  | succeeded
  | cancelled
  | failed (reason : String)
deriving DecidableEq, Repr

/-- What a run reads and writes. -/
structure RunState where
  vars : ContextVars
  events : List TaskEvent := []
  reflections : List Reflection := []
  proposals : List Proposal := []
  finished : List FinishStatus := []
  progress : List (String × String) := []
deriving DecidableEq, Repr

/-- Code of the runtime. -/
abbrev Run := Script Stmt RunState RunError

/-- A statement that can fail. -/
def attempt (stmt : SyncStmt) (effect : RunState → RunState) : Run Unit :=
  .query (.sync stmt) effect (fun _ => .ret ()) .raise

/-- A statement that waits for others. -/
def await (stmt : AwaitStmt) : Run Unit := .query (.await stmt) id (fun _ => .ret ()) .raise

/-- A statement that swallows its exceptions, or has none. -/
def perform (effect : RunState → RunState) : Run Unit := .act .other effect fun _ => .ret ()

/-- `append_task_event`. -/
def appendTaskEvent (stmt : SyncStmt) (event : TaskEvent) : Run Unit :=
  attempt stmt fun s => { s with events := s.events ++ [event] }

/-- `append_reflection`. -/
def appendReflection (stmt : SyncStmt) (reflection : Reflection) : Run Unit :=
  attempt stmt fun s => { s with reflections := s.reflections ++ [reflection] }

/-- `monitor._emit`. -/
def emitProgress (event message : String) : Run Unit :=
  perform fun s => { s with progress := s.progress ++ [(event, message)] }

/-- `tracer.emit("agent_finished", …)`. -/
def emitFinished (status : FinishStatus) : Run Unit :=
  perform fun s => { s with finished := s.finished ++ [status] }

/-! ### Reflections -/

/-- `build_task_reflection`. -/
def buildTaskReflection (result error : String) : Reflection :=
  if error ≠ "" then
    ⟨.failed, "任务执行失败: " ++ error,
      ["保留失败输入和异常信息，后续用于归因和重试策略优化。",
        "优先检查工具、子智能体或外部服务是否不可用。"]⟩
  else
    ⟨.succeeded, String.ofList (result.toList.take 500),
      ["记录成功任务的输入和输出摘要，后续可作为相似任务的经验上下文。",
        "若用户继续追问，可优先检索同一 session 的历史产物和反思记录。"]⟩

/-- `_build_instruction`. -/
def buildInstruction (reflection : Reflection) : String :=
  if reflection.status = .failed then
    "当任务出现相似失败迹象时，先检查外部工具可用性、输入文件路径和子智能体边界，再继续推理。"
  else
    match reflection.lessons with
    | lesson :: _ => lesson
    | [] => "执行相似任务时，优先检索长期记忆并复用已验证的成功步骤。"

/-- `create_policy_proposal`. -/
def createPolicyProposal (stmt : SyncStmt) (taskQuery : String) (reflection : Reflection) :
    Run Unit :=
  attempt stmt fun s =>
    { s with proposals :=
        s.proposals ++ [⟨taskQuery, reflection.summary, buildInstruction reflection⟩] }

/-! ### The stages -/

/-- What a run is called with; what the agent and the evaluation return, and which statements fail
with which exceptions.  A plan that comes with the call is not made again. -/
structure RunEnv where
  sanitizedQuery : String
  identity : MemoryIdentity
  sessionDir : String
  profile : String
  taskPlanOverride : Bool
  recursionLimit : ℤ
  content : String
  finalResult : String
  redactSecrets : String → String
  refuses : SyncStmt → Option String
  interrupts : AwaitStmt → Option RunError

/-- `TaskRunContext`, with the values that the tokens restore. -/
structure TaskRunContext where
  query : String
  recursionLimit : ℤ
  tokens : ContextVars
deriving DecidableEq, Repr

/-- The exception of a statement, if it fails. -/
def RunEnv.fails (env : RunEnv) : Stmt → Option RunError
  | .sync s => (env.refuses s).map .exception
  | .await a => env.interrupts a
  | .other => none

variable (env : RunEnv)

/-- What is left out if the plan comes with the call. -/
def RunEnv.unlessPlanned (plan : Run Unit) : Run Unit :=
  if env.taskPlanOverride then pure () else plan

/-- The context variables of the task. -/
def RunEnv.vars : ContextVars where
  sessionDir := some env.sessionDir
  threadId := some env.identity.conversationId
  identity := some env.identity
  sandbox := some (env.identity, env.profile)

/-- `build_task_context`. -/
def buildTaskContext : Run TaskRunContext := do
  attempt .makeSessionDir id
  attempt .copyUploadedFiles id
  let tokens ← (.act .other (fun s => { s with vars := env.vars }) fun s => .ret s.vars :
    Run ContextVars)
  emitProgress "session_created" ("工作目录已创建: " ++ env.sessionDir)
  attempt .recursionLimit id
  return ⟨env.sanitizedQuery, env.recursionLimit, tokens⟩

/-- `prepare_context`. -/
def prepareContext : Run TaskRunContext := do
  env.unlessPlanned (attempt .plan id)
  let context ← buildTaskContext env
  appendTaskEvent .appendStarted (.started (env.redactSecrets env.sanitizedQuery))
  emitProgress "task_started" "任务已进入 AgentRuntime"
  return context

/-- `persist_result`. -/
def persistResult (context : TaskRunContext) (finalResult : String) : Run Unit := do
  let safeResult := env.redactSecrets finalResult
  appendTaskEvent .appendCompleted (.completed safeResult)
  if env.profile = "deep" then
    let reflection := buildTaskReflection safeResult ""
    appendReflection .appendReflection reflection
    createPolicyProposal .appendProposal context.query reflection
  else pure ()

/-- The `try` block of `run`, once the context is there. -/
def runStages (context : TaskRunContext) : Run String := do
  env.unlessPlanned (await .planAsync)
  await .executeAgent
  await .runEvaluation
  persistResult env context env.finalResult
  emitFinished .succeeded
  return if env.finalResult ≠ "" then env.finalResult else env.content

/-- `process_cancelled`. -/
def processCancelled (context : TaskRunContext) : Run Unit := do
  let reflection := buildTaskReflection "" "任务已被用户取消"
  appendTaskEvent .appendCancelled .cancelled
  appendReflection .appendCancelReflection reflection
  createPolicyProposal .appendCancelProposal context.query reflection
  emitProgress "task_cancelled" "任务已取消"
  emitFinished .cancelled

/-- `process_failure`. -/
def processFailure (context : TaskRunContext) (errorMessage reason : String) : Run Unit := do
  let reflection := buildTaskReflection "" errorMessage
  appendTaskEvent .appendFailed (.failed errorMessage reason)
  appendReflection .appendFailReflection reflection
  createPolicyProposal .appendFailProposal context.query reflection
  emitProgress "error" (if reason ≠ "runtime_error" then errorMessage
    else "执行主智能发生异常信息：" ++ errorMessage)
  emitFinished (.failed reason)

/-- The message about the recursion limit. -/
def recursionMessage (limit : ℤ) : String :=
  "任务执行达到图递归上限（" ++ toString limit ++
    " 步），可能陷入重复调用，已自动停止。请缩小问题范围，或改用更明确的单一信息来源。"

/-- The `except` clauses of `run`, once the context is there. -/
def handleError (context : TaskRunContext) : RunError → Run String
  | .cancelled => do
    processCancelled context
    throw .cancelled
  | .graphRecursion _ => do
    let message := recursionMessage context.recursionLimit
    processFailure context message "graph_recursion_limit"
    throw (.exception message)
  | .exception message => do
    processFailure context message "runtime_error"
    throw (.exception message)

/-- `cleanup`. -/
def cleanup (context : TaskRunContext) : Run Unit :=
  perform fun s => { s with vars := context.tokens }

/-- `run`.  Without a context its handlers only raise again. -/
def run : Run String := do
  attempt .runtimeProfile id
  let context ← prepareContext env
  Script.finally_ (tryCatch (runStages env context) (handleError context)) (cleanup context)

/-- The result of a run and what it leaves, from the given context variables. -/
def outcome (vars : ContextVars) : Except RunError String × RunState :=
  (run env).execBy env.fails { vars }

/-! ### What the stages leave -/

/-- None of the statements fails. -/
def Succeed (stmts : List Stmt) : Prop := ∀ stmt ∈ stmts, env.fails stmt = none

instance (stmts : List Stmt) : Decidable (Succeed env stmts) :=
  inferInstanceAs (Decidable (∀ _ ∈ _, _))

/-- The statements before the context variables are set. -/
def entryStmts : List Stmt :=
  .sync .runtimeProfile :: ((if env.taskPlanOverride then [] else [.sync .plan]) ++
    [.sync .makeSessionDir, .sync .copyUploadedFiles])

/-- The statements from there to the end of `prepare_context`. -/
def openingStmts : List Stmt := [.sync .recursionLimit, .sync .appendStarted]

/-- The statements up to the one that records the result. -/
def recordStmts : List Stmt :=
  (if env.taskPlanOverride then [] else [.await .planAsync]) ++
    [.await .executeAgent, .await .runEvaluation, .sync .appendCompleted]

/-- The statements after that one. -/
def reviewStmts : List Stmt :=
  if env.profile = "deep" then [.sync .appendReflection, .sync .appendProposal] else []

/-- The exception that ends the stages, if any. -/
def stageError : Option RunError := (recordStmts env ++ reviewStmts env).findSome? env.fails

variable {env} {s : RunState} {α : Type}

@[simp] lemma fails_sync_eq_none {stmt : SyncStmt} :
    env.fails (.sync stmt) = none ↔ env.refuses stmt = none := Option.map_eq_none_iff

lemma straight_attempt {K : RunState → RunState → Prop} [Std.Refl K] (stmt : SyncStmt)
    (effect : RunState → RunState) :
    (attempt stmt effect).Straight env.fails K [.sync stmt] (fun _ => ()) effect :=
  Script.straight_query _ effect

lemma straight_await {K : RunState → RunState → Prop} [Std.Refl K] (stmt : AwaitStmt) :
    (await stmt).Straight env.fails K [.await stmt] (fun _ => ()) id :=
  Script.straight_query _ id

lemma straight_perform {K : RunState → RunState → Prop} (effect : RunState → RunState) :
    (perform effect).Straight env.fails K [] (fun _ => ()) effect :=
  Script.straight_act _ effect _

lemma straight_unlessPlanned {K : RunState → RunState → Prop} {stmt : Stmt} {plan : Run Unit}
    (h : plan.Straight env.fails K [stmt] (fun _ => ()) id) :
    (env.unlessPlanned plan).Straight env.fails K (if env.taskPlanOverride then [] else [stmt])
      (fun _ => ()) id := by
  cases hp : env.taskPlanOverride with
  | true => simpa [RunEnv.unlessPlanned, hp] using Script.straight_ret ()
  | false => simpa [RunEnv.unlessPlanned, hp] using h

/-- The terminal events of the log. -/
def RunState.terminal (s : RunState) : List TaskEvent := s.events.filter TaskEvent.isTerminal

/-- The variables and the terminal events are as before. -/
def Kept (s t : RunState) : Prop := t.vars = s.vars ∧ t.terminal = s.terminal

instance : Std.Refl Kept := ⟨fun _ => ⟨rfl, rfl⟩⟩

lemma terminal_append (s : RunState) (event : TaskEvent) :
    ({ s with events := s.events ++ [event] } : RunState).terminal =
      s.terminal ++ if event.isTerminal then [event] else [] := by
  rw [RunState.terminal, List.filter_append, List.filter_singleton, Bool.cond_eq_ite]
  rfl

/-- The event of a recorded result. -/
def RunEnv.completed (env : RunEnv) : TaskEvent := .completed (env.redactSecrets env.finalResult)

/-- What `runStages` returns. -/
def RunEnv.result (env : RunEnv) : String :=
  if env.finalResult ≠ "" then env.finalResult else env.content

/-- `runStages` up to the record of the result. -/
def recordResult (env : RunEnv) : Run Unit := do
  env.unlessPlanned (await .planAsync)
  await .executeAgent
  await .runEvaluation
  appendTaskEvent .appendCompleted env.completed

/-- The rest of `runStages`. -/
def reviewResult (env : RunEnv) (context : TaskRunContext) : Run String := do
  let reflection := buildTaskReflection (env.redactSecrets env.finalResult) ""
  (if env.profile = "deep" then do
    appendReflection .appendReflection reflection
    createPolicyProposal .appendProposal context.query reflection
  else pure ())
  emitFinished .succeeded
  return env.result

lemma runStages_eq (context : TaskRunContext) :
    runStages env context = (recordResult env).bind fun _ => reviewResult env context := by
  simp only [runStages, recordResult, reviewResult, persistResult, Script.bind_eq, Script.bind_bind]
  rfl

variable (env)

/-- Up to the record of the result, a failure leaves the variables and the events alone. -/
lemma straight_recordResult :
    (recordResult env).Straight env.fails Kept (recordStmts env) (fun _ => ()) fun s =>
      { s with events := s.events ++ [env.completed] } := by
  refine (straight_unlessPlanned (straight_await .planAsync)).bind
    (fun _ => (straight_await .executeAgent).bind
      (fun _ => (straight_await .runEvaluation).bind (fun _ => straight_attempt _ _) ?_) ?_) ?_
  all_goals exact fun _ _ h => h

/-- After that, everything does. -/
lemma straight_reviewResult (context : TaskRunContext) :
    ∃ f, (reviewResult env context).Straight env.fails Kept (reviewStmts env) (fun _ => env.result)
      f ∧ ∀ s, Kept s (f s) := by
  by_cases h : env.profile = "deep"
  · simp only [reviewResult, reviewStmts, h, if_true]
    refine ⟨_, ((straight_attempt _ _).bind (fun _ => straight_attempt _ _) ?_).bind
      (fun _ => (straight_perform _).bind (fun _ => Script.straight_ret _) ?_) ?_, fun s => ?_⟩
    · exact fun _ _ h => h
    · exact fun _ _ h => h
    · exact fun _ _ h => h
    · exact ⟨rfl, rfl⟩
  · simp only [reviewResult, reviewStmts, h, if_false]
    refine ⟨_, (Script.straight_ret ()).bind
      (fun _ => (straight_perform _).bind (fun _ => Script.straight_ret _) ?_) ?_, fun s => ?_⟩
    · exact fun _ _ h => h
    · exact fun _ _ h => h
    · exact ⟨rfl, rfl⟩

/-- The result of the stages, and the events they leave. -/
lemma runStages_spec (context : TaskRunContext) (s : RunState) :
    ∃ t, (runStages env context).execBy env.fails s =
        ((match stageError env with
          | none => .ok env.result
          | some e => .error e), t) ∧
      t.vars = s.vars ∧
      t.terminal = s.terminal ++
        if Succeed env (recordStmts env) then [env.completed] else [] := by
  obtain ⟨f, hreview, hf⟩ := straight_reviewResult env context
  obtain ⟨hok, herror⟩ := straight_recordResult env s
  rw [runStages_eq, Script.execBy_bind, stageError, List.findSome?_append]
  cases h : (recordStmts env).findSome? env.fails with
  | some e =>
    obtain ⟨t, ht, hkept⟩ := herror e h
    have hnot : ¬Succeed env (recordStmts env) := by
      intro hs
      rw [List.findSome?_eq_none_iff.mpr hs] at h
      cases h
    exact ⟨t, by rw [ht]; rfl, hkept.1, by simpa [hnot] using hkept.2⟩
  | none =>
    have hs : Succeed env (recordStmts env) := List.findSome?_eq_none_iff.mp h
    rw [hok h, if_pos hs]
    obtain ⟨hok', herror'⟩ := hreview { s with events := s.events ++ [env.completed] }
    cases h' : (reviewStmts env).findSome? env.fails with
    | none => exact ⟨_, hok' h', (hf _).1, (hf _).2.trans (terminal_append s _)⟩
    | some e =>
      obtain ⟨t, ht, hkept⟩ := herror' e h'
      exact ⟨t, ht, hkept.1, hkept.2.trans (terminal_append s _)⟩

/-- `run` up to the setting of the context variables. -/
def enter (env : RunEnv) : Run Unit := do
  attempt .runtimeProfile id
  env.unlessPlanned (attempt .plan id)
  attempt .makeSessionDir id
  attempt .copyUploadedFiles id

/-- The context of a run that replaces `tokens`. -/
def RunEnv.context (env : RunEnv) (tokens : ContextVars) : TaskRunContext :=
  ⟨env.sanitizedQuery, env.recursionLimit, tokens⟩

/-- The rest of `prepare_context`. -/
def openContext (env : RunEnv) (tokens : ContextVars) : Run TaskRunContext := do
  emitProgress "session_created" ("工作目录已创建: " ++ env.sessionDir)
  attempt .recursionLimit id
  appendTaskEvent .appendStarted (.started (env.redactSecrets env.sanitizedQuery))
  emitProgress "task_started" "任务已进入 AgentRuntime"
  return env.context tokens

/-- The part of `run` that `finally` ends. -/
def guarded (env : RunEnv) (context : TaskRunContext) : Run String :=
  ((runStages env context).tryCatch (handleError context)).finally_ (cleanup context)

lemma run_eq : run env = (enter env).bind fun _ =>
    .act .other (fun s => { s with vars := env.vars }) fun s =>
      (openContext env s.vars).bind (guarded env) := by
  simp only [run, enter, prepareContext, buildTaskContext, Script.bind_eq, Script.bind_bind]
  rfl

lemma straight_enter :
    (enter env).Straight env.fails Eq (entryStmts env) (fun _ => ()) id := by
  refine (straight_attempt _ _).bind
    (fun _ => (straight_unlessPlanned (straight_attempt .plan id)).bind
      (fun _ => (straight_attempt _ _).bind (fun _ => straight_attempt _ _) ?_) ?_) ?_
  all_goals exact fun _ _ h => h

lemma straight_openContext (tokens : ContextVars) :
    ∃ f, (openContext env tokens).Straight env.fails Kept openingStmts
      (fun _ => env.context tokens) f ∧ ∀ s, Kept s (f s) := by
  have hstarted (s : RunState) (query : String) :
      Kept s { s with events := s.events ++ [.started query] } :=
    ⟨rfl, (terminal_append s _).trans (List.append_nil _)⟩
  refine ⟨_, (straight_perform _).bind (fun _ => (straight_attempt _ _).bind
    (fun _ => (straight_attempt _ _).bind (fun _ => (straight_perform _).bind
      (fun _ => Script.straight_ret _) ?_) ?_) ?_) ?_, fun s => hstarted s _⟩
  · exact fun _ _ h => h
  · exact fun s _ h => ⟨h.1, h.2.trans (hstarted s _).2⟩
  · exact fun _ _ h => h
  · exact fun _ _ h => h

/-! ### The end of a run -/

/-- The terminal events that tell how a run ended. -/
def Tells (env : RunEnv) : Except RunError String → List TaskEvent → Prop
  | .ok _, events => events = [env.completed]
  | .error .cancelled, events => events = [.cancelled]
  | .error _, events => ∃ error reason, events = [.failed error reason]

/-- The statements that decide whether the exception of a run gets into its log. -/
def Noted (env : RunEnv) : RunError → Prop
  | .cancelled => Succeed env
      [.sync .appendCancelled, .sync .appendCancelReflection, .sync .appendCancelProposal]
  | _ => env.refuses .appendFailed = none

/-- What `process_cancelled` and `process_failure` do: an event, a reflection and a proposal. -/
def note (stmts : SyncStmt × SyncStmt × SyncStmt) (event : TaskEvent) (context : TaskRunContext)
    (reflection : Reflection) (progress : String × String) (status : FinishStatus) : Run Unit := do
  appendTaskEvent stmts.1 event
  appendReflection stmts.2.1 reflection
  createPolicyProposal stmts.2.2 context.query reflection
  emitProgress progress.1 progress.2
  emitFinished status

/-- The event is in the log unless it is refused itself, even if the rest fails. -/
lemma note_spec (stmts : SyncStmt × SyncStmt × SyncStmt) (event : TaskEvent)
    (hevent : event.isTerminal = true) (context : TaskRunContext) (reflection : Reflection)
    (progress : String × String) (status : FinishStatus) (s : RunState) :
    ∃ t, (note stmts event context reflection progress status).execBy env.fails s =
        ((match [.sync stmts.1, .sync stmts.2.1, .sync stmts.2.2].findSome? env.fails with
          | none => .ok ()
          | some e => .error e), t) ∧
      t.vars = s.vars ∧
      t.terminal = s.terminal ++ if env.refuses stmts.1 = none then [event] else [] := by
  have hrest : ∃ f, (do
      appendReflection stmts.2.1 reflection
      createPolicyProposal stmts.2.2 context.query reflection
      emitProgress progress.1 progress.2
      emitFinished status : Run Unit).Straight env.fails Kept
        [.sync stmts.2.1, .sync stmts.2.2] (fun _ => ()) f ∧ ∀ s, Kept s (f s) := by
    refine ⟨_, (straight_attempt _ _).bind (fun _ => (straight_attempt _ _).bind
      (fun _ => (straight_perform _).bind (fun _ => straight_perform _) ?_) ?_) ?_, fun s => ?_⟩
    · exact fun _ _ h => h
    · exact fun _ _ h => h
    · exact fun _ _ h => h
    · exact ⟨rfl, rfl⟩
  obtain ⟨f, hrest, hf⟩ := hrest
  rw [note, List.findSome?_cons]
  cases h : env.refuses stmts.1 with
  | some m => exact ⟨s, by simp [appendTaskEvent, attempt, Script.bind, Script.execBy,
      RunEnv.fails, h], rfl, by simp⟩
  | none =>
    have hfirst : env.fails (.sync stmts.1) = none := by simp [RunEnv.fails, h]
    simp only [appendTaskEvent, attempt, Script.bind_eq, Script.bind, Script.execBy, hfirst]
    have hterminal := terminal_append s event
    rw [hevent] at hterminal
    obtain ⟨hok, herror⟩ := hrest { s with events := s.events ++ [event] }
    cases h' : [Stmt.sync stmts.2.1, Stmt.sync stmts.2.2].findSome? env.fails with
    | none => exact ⟨_, hok h', (hf _).1, (hf _).2.trans hterminal⟩
    | some e =>
      obtain ⟨t, ht, hkept⟩ := herror e h'
      exact ⟨t, ht, hkept.1, hkept.2.trans hterminal⟩

/-- The statements without waiting fail with ordinary exceptions only. -/
lemma exception_of_sync (stmts : List SyncStmt) {e : RunError}
    (h : (stmts.map Stmt.sync).findSome? env.fails = some e) : ∃ m, e = .exception m := by
  obtain ⟨stmt, hstmt, he⟩ := List.exists_of_findSome?_eq_some h
  obtain ⟨stmt, -, rfl⟩ := List.mem_map.mp hstmt
  obtain ⟨m, -, rfl⟩ := Option.map_eq_some_iff.mp he
  exact ⟨m, rfl⟩

/-- `process_failure` and the exception after it. -/
lemma processFailure_spec (context : TaskRunContext) (message reason : String) (s : RunState) :
    ∃ m t, ((processFailure context message reason).bind fun _ =>
        (.raise (.exception message) : Run String)).execBy env.fails s =
          (.error (.exception m), t) ∧
      t.vars = s.vars ∧ t.terminal = s.terminal ++
        if env.refuses .appendFailed = none then [.failed message reason] else [] := by
  obtain ⟨t, ht, hkept⟩ := note_spec env
    (.appendFailed, .appendFailReflection, .appendFailProposal)
    (.failed message reason) rfl context (buildTaskReflection "" message)
    ("error", if reason ≠ "runtime_error" then message else "执行主智能发生异常信息：" ++ message)
    (.failed reason) s
  have hprocess : (processFailure context message reason).execBy env.fails s = _ := ht
  rw [Script.execBy_bind, hprocess]
  cases h : [Stmt.sync .appendFailed, .sync .appendFailReflection,
      .sync .appendFailProposal].findSome? env.fails with
  | none => exact ⟨message, t, rfl, hkept⟩
  | some e =>
    obtain ⟨m, rfl⟩ := exception_of_sync env
      [.appendFailed, .appendFailReflection, .appendFailProposal] h
    exact ⟨m, t, rfl, hkept⟩

/-- A handled exception is told unless the result is told already, or it does not get noted. -/
lemma handleError_spec (context : TaskRunContext) (e : RunError) {s : RunState}
    (hs : s.terminal = [] ∨ s.terminal = [env.completed]) :
    ∃ e' t, (handleError context e).execBy env.fails s = (.error e', t) ∧ t.vars = s.vars ∧
      (Tells env (.error e') t.terminal ↔ s.terminal = [] ∧ Noted env e) := by
  have hfailure (message reason : String) :
      ∃ e' t, ((processFailure context message reason).bind fun _ =>
          (.raise (.exception message) : Run String)).execBy env.fails s = (.error e', t) ∧
        t.vars = s.vars ∧
        (Tells env (.error e') t.terminal ↔
          s.terminal = [] ∧ env.refuses .appendFailed = none) := by
    obtain ⟨m, t, ht, hvars, hterminal⟩ := processFailure_spec env context message reason s
    refine ⟨_, t, ht, hvars, ?_⟩
    by_cases happend : env.refuses .appendFailed = none
    · rcases hs with hs | hs <;> simp [Tells, hterminal, hs, happend]
    · rcases hs with hs | hs <;> simp [Tells, hterminal, hs, happend, RunEnv.completed]
  cases e with
  | graphRecursion m => exact hfailure _ _
  | exception m => exact hfailure _ _
  | cancelled =>
    obtain ⟨t, ht, hvars, hterminal⟩ := note_spec env
      (.appendCancelled, .appendCancelReflection, .appendCancelProposal)
      .cancelled rfl context (buildTaskReflection "" "任务已被用户取消")
      ("task_cancelled", "任务已取消") .cancelled s
    have hprocess : (processCancelled context).execBy env.fails s = _ := ht
    have hhandle : handleError context .cancelled =
      (processCancelled context).bind fun _ => .raise .cancelled := rfl
    rw [hhandle, Script.execBy_bind, hprocess]
    cases h : [Stmt.sync .appendCancelled, .sync .appendCancelReflection,
        .sync .appendCancelProposal].findSome? env.fails with
    | none =>
      have hnoted : Noted env .cancelled := List.findSome?_eq_none_iff.mp h
      have happend : env.refuses .appendCancelled = none :=
        fails_sync_eq_none.mp (hnoted _ (List.mem_cons_self ..))
      refine ⟨_, t, rfl, hvars, ?_⟩
      rcases hs with hs | hs <;> simp [Tells, hterminal, hs, happend, hnoted]
    | some e =>
      obtain ⟨m, rfl⟩ := exception_of_sync env
        [.appendCancelled, .appendCancelReflection, .appendCancelProposal] h
      have hnoted : ¬Noted env .cancelled := fun hn => by
        rw [List.findSome?_eq_none_iff.mpr hn] at h
        cases h
      refine ⟨_, t, rfl, hvars, ?_⟩
      by_cases happend : env.refuses .appendCancelled = none
      · rcases hs with hs | hs <;>
          simp [Tells, hterminal, hs, happend, hnoted]
      · rcases hs with hs | hs <;>
          simp [Tells, hterminal, hs, happend, hnoted, RunEnv.completed]

/-- What `finally` ends: the variables are the ones that the context replaced, and the result is
told unless a statement failed after the record of the result, or the exception is not noted. -/
lemma guarded_spec (tokens : ContextVars) {s : RunState} (hs : s.terminal = []) :
    ∃ r t, (guarded env (env.context tokens)).execBy env.fails s = (r, t) ∧ t.vars = tokens ∧
      (Tells env r t.terminal ↔
        ∀ e, stageError env = some e → ¬Succeed env (recordStmts env) ∧ Noted env e) := by
  obtain ⟨t, ht, -, hterminal⟩ := runStages_spec env (env.context tokens) s
  rw [hs, List.nil_append] at hterminal
  rw [guarded, cleanup, perform, Script.execBy_finally, Script.execBy_tryCatch, ht]
  cases h : stageError env with
  | none =>
    refine ⟨_, _, rfl, rfl, iff_of_true ?_ fun _ he => nomatch he⟩
    have hrecorded : Succeed env (recordStmts env) := fun stmt hstmt =>
      List.findSome?_eq_none_iff.mp h stmt (List.mem_append_left _ hstmt)
    rw [if_pos hrecorded] at hterminal
    exact hterminal
  | some e =>
    have hbase : t.terminal = [] ∨ t.terminal = [env.completed] := by
      rw [hterminal]
      split_ifs <;> simp
    obtain ⟨e', u, hu, -, htells⟩ := handleError_spec env (env.context tokens) e hbase
    dsimp only
    rw [hu]
    refine ⟨_, _, rfl, rfl, ?_⟩
    have hnil : t.terminal = [] ↔ ¬Succeed env (recordStmts env) := by
      rw [hterminal]
      split_ifs with hrec <;> simp [hrec]
    calc Tells env (.error e') u.terminal
      _ ↔ t.terminal = [] ∧ Noted env e := htells
      _ ↔ ∀ e₀, some e = some e₀ → ¬Succeed env (recordStmts env) ∧ Noted env e₀ := by
        simp [hnil]

/-- The failure of a statement between the setting of the variables and the end of
`prepare_context`: nothing before it fails. -/
def Leaks (env : RunEnv) : Prop := Succeed env (entryStmts env) ∧ ¬Succeed env openingStmts

instance : Decidable (Leaks env) := inferInstanceAs (Decidable (_ ∧ _))

/-- A failure among statements without waiting is an ordinary exception. -/
lemma exception_of_not_succeed (stmts : List SyncStmt) (h : ¬Succeed env (stmts.map .sync)) :
    ∃ m, (stmts.map Stmt.sync).findSome? env.fails = some (.exception m) := by
  obtain ⟨e, he⟩ := Option.ne_none_iff_exists'.mp
    fun hnone => h (List.findSome?_eq_none_iff.mp hnone)
  obtain ⟨m, rfl⟩ := exception_of_sync env _ he
  exact ⟨m, he⟩

lemma succeed_append {l l' : List Stmt} :
    Succeed env (l ++ l') ↔ Succeed env l ∧ Succeed env l' := by
  simp only [Succeed, List.forall_mem_append]

/-- The result of a run, in the three ways that it can begin. -/
lemma outcome_spec (env : RunEnv) (vars : ContextVars) :
    (outcome env vars).2.vars = (if Leaks env then env.vars else vars) ∧
      (Tells env (outcome env vars).1 (outcome env vars).2.terminal ↔
        Succeed env (entryStmts env ++ openingStmts) ∧
          ∀ e, stageError env = some e → ¬Succeed env (recordStmts env) ∧ Noted env e) := by
  have hmap : entryStmts env =
      (.runtimeProfile :: ((if env.taskPlanOverride then [] else [.plan]) ++
        [.makeSessionDir, .copyUploadedFiles])).map Stmt.sync := by
    cases h : env.taskPlanOverride <;> simp [entryStmts, h]
  obtain ⟨hok, herror⟩ := straight_enter env { vars }
  rw [outcome, run_eq, Script.execBy_bind, succeed_append]
  by_cases hentry : Succeed env (entryStmts env)
  · rw [hok (List.findSome?_eq_none_iff.mpr hentry)]
    obtain ⟨f, hopen, hf⟩ := straight_openContext env vars
    obtain ⟨hok, herror⟩ := hopen { vars := env.vars }
    simp only [Script.execBy, id, Script.execBy_bind]
    by_cases hopening : Succeed env openingStmts
    · obtain ⟨r, t, ht, hvars, htells⟩ := guarded_spec env vars (hf { vars := env.vars }).2
      rw [hok (List.findSome?_eq_none_iff.mpr hopening)]
      dsimp only
      rw [ht, if_neg fun hleaks : Leaks env => hleaks.2 hopening]
      exact ⟨hvars, htells.trans (and_iff_right ⟨hentry, hopening⟩).symm⟩
    · obtain ⟨m, he⟩ := exception_of_not_succeed env [.recursionLimit, .appendStarted] hopening
      obtain ⟨t, ht, hkept⟩ := herror _ he
      rw [ht, if_pos ⟨hentry, hopening⟩]
      refine ⟨hkept.1, iff_of_false ?_ fun h => hopening h.1.2⟩
      rintro ⟨error, reason, h⟩
      rw [hkept.2] at h
      cases h
  · obtain ⟨m, he⟩ := exception_of_not_succeed env _ (hmap ▸ hentry)
    rw [← hmap] at he
    obtain ⟨t, ht, rfl⟩ := herror _ he
    rw [ht, if_neg fun hleaks => hentry hleaks.1]
    refine ⟨rfl, iff_of_false ?_ fun h => hentry h.1.1⟩
    rintro ⟨error, reason, h⟩
    cases h

/-- A run leaves its own context variables behind if setting its recursion limit or recording its
start fails, and restores the ones it found otherwise. -/
theorem run_vars (env : RunEnv) (vars : ContextVars) :
    (outcome env vars).2.vars = if Leaks env then env.vars else vars :=
  (outcome_spec env vars).1

/-- The log has exactly one terminal event, and this tells how the run ended, if and only if the
context was prepared and no statement failed after the result was recorded, and the exception, if
there was one, was noted. -/
theorem told_iff (env : RunEnv) (vars : ContextVars) :
    Tells env (outcome env vars).1 (outcome env vars).2.terminal ↔
      Succeed env (entryStmts env ++ openingStmts) ∧
        ∀ e, stageError env = some e → ¬Succeed env (recordStmts env) ∧ Noted env e :=
  (outcome_spec env vars).2

end EcommerceAgent.Runtime.AgentRun
