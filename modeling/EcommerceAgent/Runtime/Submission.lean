/-
# Is acceptance all-or-nothing

A call of one of the four routes of `Intake` should either leave an accepted task behind, with its
row, its state and one payload, or nothing that is still open.  No route undoes what it has written
when a later statement raises.  So it depends on the first write: a call that stops before it leaves
nothing, and one that gets past it must not be stopped any more (`allOrNothing_iff`).
-/
import EcommerceAgent.Runtime.Intake

open EcommerceAgent.Lib

namespace EcommerceAgent.Runtime

/-- The rows that were appended to the tables of a task since `before`. -/
def Records.since (after before : Records) : Records where
  agentJobs := after.agentJobs.drop before.agentJobs.length
  businessReports := after.businessReports.drop before.businessReports.length
  chatRuns := after.chatRuns.drop before.chatRuns.length
  chatMessages := after.chatMessages.drop before.chatMessages.length

/-- No row waits for a task to end. -/
structure Records.Closed (r : Records) : Prop where
  agentJobs : ∀ job ∈ r.agentJobs, job.status ≠ .running
  businessReports : ∀ report ∈ r.businessReports, report.status ≠ .draft
  chatRuns : ∀ run ∈ r.chatRuns, run.status ≠ .running
  chatMessages : ∀ message ∈ r.chatMessages, message.status ≠ .running

/-- A call of one of the four routes. -/
inductive Submission
  | task (identity : Identity) (request : TaskRequest) (cu tu : Uuid)
  | chat (order : ChatOrder) (now : ℕ)
  | job (order : JobOrder)
  | report (order : ReportOrder)

namespace Submission

/-- What it runs. -/
def route : Submission → Route String
  | task identity request cu tu => runTask identity request cu tu
  | chat order now => Runtime.chat order now
  | job order => createAgentJob order
  | report order => generateReport order

/-- The id of its task. -/
def taskId : Submission → String
  | task identity request cu tu => (request.agentPayload identity cu tu).taskId
  | chat order _ => order.taskId
  | job order => order.taskId
  | report order => order.taskId

/-- The rows of an accepted task are among the created ones.  `POST /api/task` has none. -/
def Recorded : Submission → Records → Prop
  | task .., _ => True
  | chat order _, created =>
    ∃ run ∈ created.chatRuns, run.taskId = order.taskId ∧ run.status = .running ∧
      ∃ message ∈ created.chatMessages, message.id = run.messageId ∧
        message.taskId = some order.taskId ∧ message.status = .running
  | job order, created =>
    ∃ row ∈ created.agentJobs, row.taskId = some order.taskId ∧ row.status = .running
  | report order, created =>
    (∃ row ∈ created.agentJobs, row.taskId = some order.taskId ∧ row.status = .running ∧
        row.resultReportId = some order.reportId) ∧
      ∃ draft ∈ created.businessReports, draft.id = order.reportId ∧
        draft.sourceTaskId = some order.taskId

/-- A call that raises leaves no open row of its own and no queued state for its task; one that
returns leaves the rows, the state and exactly one payload. -/
def AllOrNothing (call : Submission) (failures : List (Option PyError)) (s : Intake) : Prop :=
  match call.route.exec failures s with
  | (.error _, s') =>
    (s'.world.records.since s.world.records).Closed ∧
      s'.world.runtime.statusOf call.taskId ≠ some .queued
  | (.ok id, s') =>
    id = call.taskId ∧ call.Recorded (s'.world.records.since s.world.records) ∧
      s'.world.runtime.statusOf id = some .queued ∧
      s'.queue.countP (·.taskId == id) = 1

/-! ### The condition -/

/-- The statement with the number `n`, among those that can fail, fails. -/
def Fails (failures : List (Option PyError)) (n : ℕ) : Prop := failures.getD n none ≠ none

/-- The conversation is another identity's, and `run_task` answers 403. -/
def Foreign (s : Intake) (p : AgentPayload) (identity : Identity) : Bool :=
  s.world.runtime.conversationExists p.conversationId &&
    !s.world.runtime.ownsConversation p.conversationId identity

/-- `create_agent_job` is stopped before it has written anything. -/
def JobStops (failures : List (Option PyError)) (order : JobOrder) : Prop :=
  Fails failures 0 ∨ order.query = none ∨ Fails failures 1

/-- The call is refused, or fails, before it has written anything. -/
def StopsAtOnce (failures : List (Option PyError)) (s : Intake) : Submission → Prop
  | task identity request cu tu =>
    let p := request.agentPayload identity cu tu
    Foreign s p identity = true ∨ s.world.runtime.isRunning p.taskId = true
  | chat order _ => order.userContent = "" ∨ Fails failures 0 ∨ Fails failures 1
  | job order => JobStops failures order
  | report _ => Fails failures 0

/-- Behind its first write the call is neither refused nor does it fail. -/
def GoesOn (failures : List (Option PyError)) (s : Intake) : Submission → Prop
  | task .. => ¬Fails failures 0
  | chat order _ => s.world.runtime.isRunning order.taskId = false ∧ ¬Fails failures 2
  | job order => s.world.runtime.isRunning order.taskId = false ∧ ¬Fails failures 2
  | report order =>
    order.job.query ≠ none ∧ s.world.runtime.isRunning order.taskId = false ∧
      ∀ n ∈ [1, 2, 3, 4], ¬Fails failures n

/-! ### The statements of the routes -/

/-- The three stores after `task_runtime.enqueue`. -/
def enqueued (query : String) (p : AgentPayload) (s : Intake) : Intake :=
  { s with world := { s.world with runtime := { s.world.runtime with
      states := Function.update s.world.runtime.states p.taskId
        (some (TaskRuntime.queuedState p.taskId query ⟨p.conversationId, p.identity⟩))
      conversationLatestTask := s.world.runtime.setLatest p.conversationId p.taskId } } }

variable {failures : List (Option PyError)} {s : Intake} {k : Unit → Route String}

lemma fails_tail {n : ℕ} : Fails failures.tail n ↔ Fails failures (n + 1) := by
  cases failures with
  | nil => rfl
  | cons answer failures => rfl

/-- A statement that can fail raises and does nothing. -/
lemma exec_query_fails {statement : IntakeStatement} {f : Intake → Intake}
    (h : Fails failures 0) :
    ∃ e, ((Script.query statement f (fun _ => .ret ()) .raise : Route Unit).bind k).exec failures s
      = (.error e, s) := by
  match failures with
  | [] => exact absurd rfl h
  | none :: failures => exact absurd rfl h
  | some e :: failures => exact ⟨e, rfl⟩

/-- A statement that does not fail takes effect. -/
lemma exec_query_works {statement : IntakeStatement} {f : Intake → Intake}
    (h : ¬Fails failures 0) :
    ((Script.query statement f (fun _ => .ret ()) .raise : Route Unit).bind k).exec failures s =
      (k ()).exec failures.tail (f s) := by
  match failures with
  | [] => rfl
  | none :: failures => rfl
  | some e :: failures => exact absurd nofun h

lemma exec_store_works {statement : IntakeStatement} {f : Records → Records}
    (h : ¬Fails failures 0) : ((store statement f).bind k).exec failures s =
      (k ()).exec failures.tail
        { s with world := { s.world with records := f s.world.records } } :=
  exec_query_works h

lemma exec_enqueueState_running {query : String} {p : AgentPayload}
    (h : s.world.runtime.isRunning p.taskId = true) :
    ((enqueueState query p).bind k).exec failures s =
      (.error (.exception ("任务正在运行: " ++ p.taskId)), s) := by
  simp [enqueueState, Script.bind, Script.exec, TaskRuntime.enqueue, h]

lemma exec_enqueueState_works {query : String} {p : AgentPayload}
    (h : s.world.runtime.isRunning p.taskId = false) :
    ((enqueueState query p).bind k).exec failures s =
      (k ()).exec failures (enqueued query p s) := by
  simp [enqueueState, Script.bind, Script.exec, TaskRuntime.enqueue, h, enqueued]

@[simp] lemma statusOf_enqueued {query : String} {p : AgentPayload} :
    (enqueued query p s).world.runtime.statusOf p.taskId = some .queued := by
  simp [enqueued, TaskRuntime.statusOf, TaskRuntime.queuedState]

/-! ### How a call may end -/

section

variable {call : Submission} {e : PyError} {s' : Intake}

lemma since_self (r : Records) : (r.since r).Closed := by
  constructor <;> simp [Records.since]

/-- It raises and has done nothing. -/
lemma allOrNothing_untouched (h : call.route.exec failures s = (.error e, s)) :
    call.AllOrNothing failures s ↔ s.world.runtime.statusOf call.taskId ≠ some .queued := by
  simp [AllOrNothing, h, since_self]

/-- It raises and its task is queued. -/
lemma not_allOrNothing_queued (h : call.route.exec failures s = (.error e, s'))
    (hqueued : s'.world.runtime.statusOf call.taskId = some .queued) :
    ¬call.AllOrNothing failures s := by
  simp [AllOrNothing, h, hqueued]

/-- It raises and a row that it has created is open. -/
lemma not_allOrNothing_open (h : call.route.exec failures s = (.error e, s'))
    (hopen : ¬(s'.world.records.since s.world.records).Closed) :
    ¬call.AllOrNothing failures s := by
  simp [AllOrNothing, h, hopen]

/-- It returns with everything in place. -/
lemma allOrNothing_returns {p : AgentPayload}
    (h : call.route.exec failures s = (.ok call.taskId, s'))
    (hrows : call.Recorded (s'.world.records.since s.world.records))
    (hstate : s'.world.runtime.statusOf call.taskId = some .queued)
    (hqueue : s'.queue = s.queue ++ [p]) (hp : p.taskId = call.taskId) :
    call.AllOrNothing failures s ↔ ∀ p ∈ s.queue, p.taskId ≠ call.taskId := by
  have hcount : s'.queue.countP (·.taskId == call.taskId) = 1 ↔
      s.queue.countP (·.taskId == call.taskId) = 0 := by
    simp [hqueue, hp]
  simp [AllOrNothing, h, hrows, hstate, hcount, List.countP_eq_zero]

variable {query : String} {p : AgentPayload} {rest : List (Option PyError)} (records : Records)

/-- The end of the routes, when the task does not run yet. -/
lemma allOrNothing_enqueue
    (h : call.route.exec failures s = ((enqueueState query p).bind fun _ =>
      (enqueuePayload p).bind fun _ => .ret p.taskId).exec rest
        { s with world := { s.world with records := records } })
    (hid : p.taskId = call.taskId) (hrows : call.Recorded (records.since s.world.records))
    (hrunning : s.world.runtime.isRunning call.taskId = false) :
    call.AllOrNothing failures s ↔ ¬Fails rest 0 ∧ ∀ p ∈ s.queue, p.taskId ≠ call.taskId := by
  rw [exec_enqueueState_works (by rw [hid]; exact hrunning)] at h
  by_cases hfails : Fails rest 0
  · obtain ⟨e, he⟩ : ∃ e, ((enqueuePayload p).bind fun _ => .ret p.taskId).exec rest
        (enqueued query p { s with world := { s.world with records := records } }) =
          (.error e, enqueued query p { s with world := { s.world with records := records } }) :=
      exec_query_fails hfails
    simp only [hfails, not_true_eq_false, false_and, iff_false]
    exact not_allOrNothing_queued (h.trans he) (hid ▸ statusOf_enqueued)
  · simp only [hfails, not_false_eq_true, true_and]
    have hworks := h.trans (exec_query_works hfails)
    rw [hid] at hworks
    exact allOrNothing_returns hworks hrows (hid ▸ statusOf_enqueued) rfl hid

/-- The end of the routes, when a row has been created. -/
lemma allOrNothing_enqueue_open
    (h : call.route.exec failures s = ((enqueueState query p).bind fun _ =>
      (enqueuePayload p).bind fun _ => .ret p.taskId).exec rest
        { s with world := { s.world with records := records } })
    (hid : p.taskId = call.taskId) (hrows : call.Recorded (records.since s.world.records))
    (hopen : ¬(records.since s.world.records).Closed) :
    call.AllOrNothing failures s ↔
      (s.world.runtime.isRunning call.taskId = false ∧ ¬Fails rest 0) ∧
        ∀ p ∈ s.queue, p.taskId ≠ call.taskId := by
  cases hrunning : s.world.runtime.isRunning call.taskId with
  | false => simpa using allOrNothing_enqueue records h hid hrows hrunning
  | true =>
    have hraises := h.trans (exec_enqueueState_running (by rw [hid]; exact hrunning))
    simpa using not_allOrNothing_open hraises hopen

end

/-! ### The routes -/

variable {order : ChatOrder} {now : ℕ} {identity : Identity} {request : TaskRequest} {cu tu : Uuid}
  {job : JobOrder} {report : ReportOrder} {call : Submission}

/-- What is shown of one call. -/
def Meets (call : Submission) (failures : List (Option PyError)) (s : Intake) : Prop :=
  (call.StopsAtOnce failures s → s.world.runtime.statusOf call.taskId ≠ some .queued) ∧
    (¬call.StopsAtOnce failures s →
      call.GoesOn failures s ∧ ∀ p ∈ s.queue, p.taskId ≠ call.taskId)

/-- A call that is stopped before it has written anything. -/
lemma stopped_iff {e : PyError} (h : call.route.exec failures s = (.error e, s))
    (hstops : call.StopsAtOnce failures s) :
    call.AllOrNothing failures s ↔ call.Meets failures s := by
  rw [allOrNothing_untouched h]
  simp [Meets, hstops]

lemma meets_of_not_stops (h : ¬call.StopsAtOnce failures s) :
    call.Meets failures s ↔ call.GoesOn failures s ∧ ∀ p ∈ s.queue, p.taskId ≠ call.taskId := by
  simp [Meets, h]

lemma exec_task : (task identity request cu tu).route.exec failures s =
    if Foreign s (request.agentPayload identity cu tu) identity then
      (.error (.exception "403: 无权复用该会?"), s)
    else ((enqueueState request.query (request.agentPayload identity cu tu)).bind fun _ =>
      (enqueuePayload (request.agentPayload identity cu tu)).bind fun _ =>
        .ret (request.agentPayload identity cu tu).taskId).exec failures s := by
  simp only [route, runTask, Script.bind_eq, Script.bind, Script.exec, id, Script.pure_eq]
  rw [← Foreign]
  cases Foreign s (request.agentPayload identity cu tu) identity with
  | true => rfl
  | false => rfl

lemma task_iff : (task identity request cu tu).AllOrNothing failures s ↔
    (task identity request cu tu).Meets failures s := by
  set p := request.agentPayload identity cu tu with hp
  have hexec : (task identity request cu tu).route.exec failures s = _ := exec_task
  rw [← hp] at hexec
  cases hforeign : Foreign s p identity with
  | true =>
    rw [hforeign, if_pos rfl] at hexec
    exact stopped_iff hexec (Or.inl hforeign)
  | false =>
    rw [hforeign, if_neg nofun] at hexec
    cases hrunning : s.world.runtime.isRunning p.taskId with
    | true =>
      exact stopped_iff (hexec.trans (exec_enqueueState_running hrunning)) (Or.inr hrunning)
    | false =>
      have hstops : ¬(task identity request cu tu).StopsAtOnce failures s := by
        rintro (h | h)
        · exact nomatch hforeign.symm.trans h
        · exact nomatch hrunning.symm.trans h
      rw [meets_of_not_stops hstops]
      exact allOrNothing_enqueue s.world.records hexec rfl trivial hrunning

/-- What `create_chat_run` appends. -/
lemma since_createChatRun (order : ChatOrder) (now : ℕ) (r : Records) :
    (r.createChatRun order now).since r =
      { chatRuns := [order.chatRun]
        chatMessages := [order.question now, order.placeholder now] } := by
  simp [Records.since, Records.createChatRun]

lemma chat_iff : (chat order now).AllOrNothing failures s ↔ (chat order now).Meets failures s := by
  by_cases hempty : order.userContent = ""
  · have hraises : (chat order now).route.exec failures s =
        (.error (.exception "400: 请输入要分析的问?"), s) := by
      simp only [route, Runtime.chat, hempty, if_true, Script.throw_eq, Script.exec]
    exact stopped_iff hraises (Or.inl hempty)
  have hexec : (chat order now).route.exec failures s =
      ((store .ensureSchema id).bind fun _ =>
        (store .createChatRun (·.createChatRun order now)).bind fun _ =>
          (enqueueState order.userContent order.agentPayload).bind fun _ =>
            (enqueuePayload order.agentPayload).bind fun _ => .ret order.taskId).exec
        failures s := by
    simp only [route, Runtime.chat, hempty, if_false, Script.bind_eq, Script.pure_eq]
  by_cases hschema : Fails failures 0
  · obtain ⟨e, he⟩ := exec_query_fails hschema
    exact stopped_iff (hexec.trans he) (Or.inr (Or.inl hschema))
  rw [exec_store_works hschema] at hexec
  by_cases hcreate : Fails failures 1
  · obtain ⟨e, he⟩ := exec_query_fails (fails_tail.2 hcreate)
    exact stopped_iff (hexec.trans he) (Or.inr (Or.inr hcreate))
  rw [exec_store_works (fails_tail.not.2 hcreate)] at hexec
  have hstops : ¬(chat order now).StopsAtOnce failures s := by
    rintro (h | h | h)
    · exact hempty h
    · exact hschema h
    · exact hcreate h
  rw [meets_of_not_stops hstops]
  have hrows := since_createChatRun order now s.world.records
  have htail := allOrNothing_enqueue_open _ hexec rfl
    (by
      rw [id, hrows]
      exact ⟨_, List.mem_singleton_self _, rfl, rfl, _, List.mem_cons_of_mem _
        (List.mem_singleton_self _), rfl, rfl, rfl⟩)
    (by
      rw [id, hrows]
      exact fun h => h.chatRuns _ (List.mem_singleton_self _) rfl)
  rw [htail, fails_tail, fails_tail]
  rfl

section

variable {l : String → Route String}

lemma exec_createAgentJob_stops (h : JobStops failures job) :
    ∃ e, ((createAgentJob job).bind l).exec failures s = (.error e, s) := by
  have hbind : (createAgentJob job).bind l = (store .ensureSchema id).bind fun _ => _ :=
    Script.bind_bind ..
  rw [hbind]
  by_cases hschema : Fails failures 0
  · exact exec_query_fails hschema
  rw [exec_store_works hschema]
  cases hquery : job.query with
  | none => exact ⟨_, rfl⟩
  | some query =>
    have hinsert : Fails failures 1 := by
      rcases h with h | h | h
      · exact absurd h hschema
      · exact nomatch hquery.symm.trans h
      · exact h
    simp only [Script.bind_eq, Script.bind_bind]
    exact exec_query_fails (fails_tail.2 hinsert)

lemma exec_createAgentJob_works (h : ¬JobStops failures job) :
    ∃ query, job.query = some query ∧ ((createAgentJob job).bind l).exec failures s =
      ((enqueueState query (job.agentPayload query)).bind fun _ =>
        (enqueuePayload (job.agentPayload query)).bind fun _ => l job.taskId).exec
        failures.tail.tail
        { s with world := { s.world with records := { s.world.records with
            agentJobs := s.world.records.agentJobs ++ [job.row] } } } := by
  simp only [JobStops, not_or] at h
  obtain ⟨hschema, hknown, hinsert⟩ := h
  obtain ⟨query, hquery⟩ := Option.ne_none_iff_exists'.1 hknown
  have hbind : (createAgentJob job).bind l = (store .ensureSchema id).bind fun _ => _ :=
    Script.bind_bind ..
  refine ⟨query, hquery, ?_⟩
  rw [hbind, exec_store_works hschema]
  simp only [hquery, Script.bind_eq, Script.bind_bind]
  exact exec_store_works (fails_tail.not.2 hinsert)

end

lemma job_iff : (Submission.job job).AllOrNothing failures s ↔
    (Submission.job job).Meets failures s := by
  have hexec : (Submission.job job).route.exec failures s =
      ((createAgentJob job).bind .ret).exec failures s := by
    rw [Script.bind_ret, route]
  by_cases hstops : JobStops failures job
  · obtain ⟨e, he⟩ := exec_createAgentJob_stops hstops
    exact stopped_iff (hexec.trans he) hstops
  obtain ⟨query, -, hworks⟩ := exec_createAgentJob_works hstops
  have htail := allOrNothing_enqueue_open _ (hexec.trans hworks) rfl
    (by simp [Recorded, Records.since, JobOrder.row])
    (by
      intro h
      exact h.agentJobs job.row (by simp [Records.since]) rfl)
  rw [meets_of_not_stops (by exact hstops), htail, fails_tail, fails_tail]
  rfl

/-- A report that waits for its text stays open. -/
lemma not_closed_draft {records : Records}
    (h : records.businessReports = s.world.records.businessReports ++ [report.draft]) :
    ¬(records.since s.world.records).Closed := by
  intro hclosed
  refine hclosed.businessReports report.draft ?_ rfl
  simp [Records.since, h]

/-- The rows of a report whose draft is linked to its task. -/
lemma recorded_linked {records : Records}
    (hjobs : records.agentJobs = s.world.records.agentJobs ++ [report.job.row])
    (hreports : records.businessReports = s.world.records.businessReports ++ [report.draft]) :
    (Submission.report report).Recorded
      ((records.updateReport report.identity report.reportId fun row =>
        { row with sourceTaskId := some report.taskId }).since s.world.records) := by
  have hown : report.draft.ofId report.identity report.reportId = true := by
    simp [BusinessReport.ofId, ReportOrder.draft]
  have hrow : report.job.row ∈ records.agentJobs.drop s.world.records.agentJobs.length := by
    simp [hjobs]
  have hdraft : { report.draft with sourceTaskId := some report.taskId } ∈
      (Table.updateWhere (·.ofId report.identity report.reportId)
        (fun row => { row with sourceTaskId := some report.taskId })
        records.businessReports).drop s.world.records.businessReports.length := by
    rw [Table.updateWhere, hreports, List.map_append, List.drop_left' (by simp)]
    simp [hown]
  exact ⟨⟨_, hrow, rfl, rfl, rfl⟩, _, hdraft, rfl, rfl⟩

/-- A report that is stopped behind its draft. -/
lemma stuck_iff {e : PyError} {s' : Intake}
    (h : (Submission.report report).route.exec failures s = (.error e, s'))
    (hdraft : s'.world.records.businessReports = s.world.records.businessReports ++ [report.draft])
    (hstops : ¬Fails failures 0) (hgoes : ¬(Submission.report report).GoesOn failures s) :
    (Submission.report report).AllOrNothing failures s ↔
      (Submission.report report).Meets failures s := by
  rw [meets_of_not_stops (by exact hstops)]
  simp only [hgoes, false_and, iff_false]
  exact not_allOrNothing_open h (not_closed_draft hdraft)

lemma report_iff : (Submission.report report).AllOrNothing failures s ↔
    (Submission.report report).Meets failures s := by
  have hexec : (Submission.report report).route.exec failures s =
      ((store .insertReport fun r =>
        { r with businessReports := r.businessReports ++ [report.draft] }).bind fun _ =>
        (createAgentJob report.job).bind fun taskId =>
          (store .linkTask (·.updateReport report.identity report.reportId fun row =>
            { row with sourceTaskId := some taskId })).bind fun _ => .ret taskId).exec
        failures s := rfl
  by_cases hdraft : Fails failures 0
  · obtain ⟨e, he⟩ := exec_query_fails hdraft
    exact stopped_iff (hexec.trans he) hdraft
  rw [exec_store_works hdraft] at hexec
  by_cases hstops : JobStops failures.tail report.job
  · obtain ⟨e, he⟩ := exec_createAgentJob_stops hstops
    refine stuck_iff (hexec.trans he) rfl hdraft ?_
    rintro ⟨hknown, -, hn⟩
    rcases hstops with h | h | h
    · exact hn 1 (by simp) (fails_tail.1 h)
    · exact hknown h
    · exact hn 2 (by simp) (fails_tail.1 h)
  obtain ⟨query, hquery, hworks⟩ := exec_createAgentJob_works hstops
  rw [hworks] at hexec
  cases hrunning : s.world.runtime.isRunning report.taskId with
  | true =>
    refine stuck_iff (hexec.trans (exec_enqueueState_running hrunning)) rfl hdraft ?_
    rintro ⟨-, hidle, -⟩
    exact nomatch hidle.symm.trans hrunning
  | false =>
    rw [exec_enqueueState_works hrunning] at hexec
    by_cases hpayload : Fails failures 3
    · obtain ⟨e, he⟩ := exec_query_fails (fails_tail.2 (fails_tail.2 (fails_tail.2 hpayload)))
      exact stuck_iff (hexec.trans he) rfl hdraft fun h => h.2.2 3 (by simp) hpayload
    rw [enqueuePayload, exec_query_works (fails_tail.not.2 (fails_tail.not.2
      (fails_tail.not.2 hpayload)))] at hexec
    by_cases hlink : Fails failures 4
    · obtain ⟨e, he⟩ := exec_query_fails
        (fails_tail.2 (fails_tail.2 (fails_tail.2 (fails_tail.2 hlink))))
      exact stuck_iff (hexec.trans he) rfl hdraft fun h => h.2.2 4 (by simp) hlink
    rw [exec_store_works (fails_tail.not.2 (fails_tail.not.2 (fails_tail.not.2
      (fails_tail.not.2 hlink))))] at hexec
    have hgoes : (Submission.report report).GoesOn failures s := by
      simp only [JobStops, not_or, fails_tail] at hstops
      refine ⟨hstops.2.1, hrunning, ?_⟩
      simp [hstops.1, hstops.2.2, hpayload, hlink]
    rw [meets_of_not_stops (by exact hdraft)]
    simp only [hgoes, true_and]
    exact allOrNothing_returns hexec (recorded_linked rfl rfl) statusOf_enqueued rfl rfl

/-- A call of one of the four routes is all-or-nothing if and only if it is stopped before it has
written anything, and its task is not queued by another call, or nothing behind its first write is
refused or fails, and no older payload of its task is queued. -/
theorem allOrNothing_iff (call : Submission) (failures : List (Option PyError)) (s : Intake) :
    call.AllOrNothing failures s ↔
      (call.StopsAtOnce failures s → s.world.runtime.statusOf call.taskId ≠ some .queued) ∧
        (¬call.StopsAtOnce failures s →
          call.GoesOn failures s ∧ ∀ p ∈ s.queue, p.taskId ≠ call.taskId) := by
  cases call with
  | task identity request cu tu => exact task_iff
  | chat order now => exact chat_iff
  | job order => exact job_iff
  | report order => exact report_iff

/-- A weekly report, asked of the analyst who has no template for one. -/
def weeklyReport : ReportOrder where
  identity := ⟨"tenant-1", "user-1", "shop-1"⟩
  type := some "weekly"
  title := none
  agentId := none
  reportId := "report-1"
  paramsText := "\x7b'reportId': 'report-1'\x7d"
  paramsJson := "\x7b\"reportId\": \"report-1\"\x7d"
  intent := "weekly_report"
  conversationId := "conversation-1"
  taskId := "task-1"
  jobId := "job-1"

/-- No statement fails, the call raises, and its draft waits for ever. -/
theorem not_allOrNothing_weeklyReport :
    ¬(Submission.report weeklyReport).AllOrNothing [] ⟨⟨.empty, {}⟩, []⟩ := by
  have hquery : weeklyReport.job.query = none := by decide
  have hraises : (Submission.report weeklyReport).route.exec [] ⟨⟨.empty, {}⟩, []⟩ =
      (.error (.exception "无法创建数字员工任务：不支持的数字员工任务类型"),
        ⟨⟨.empty, { businessReports := [weeklyReport.draft] }⟩, []⟩) := by
    simp [route, generateReport, createAgentJob, store, Script.bind, Script.exec, hquery]
  exact not_allOrNothing_open hraises (not_closed_draft rfl)

end Submission

end EcommerceAgent.Runtime
