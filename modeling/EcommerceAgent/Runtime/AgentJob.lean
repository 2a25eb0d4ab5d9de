/-
# A business job and its runtime task

A job of `create_agent_job` is a row of `agent_jobs` and a task of the runtime.  The worker writes
the end of the task into the row, and `sync_agent_job_from_runtime` does it for what the worker
leaves out.  Neither of them knows a cancelled task: its row stays `running` for ever.  And the
lookup finds the task through `_conversation_latest_task`, which another request can redirect.
Without a cancellation and without another use of the task's id, and unless both the completion and
the failure of the row are interrupted by the database, the row ends as the task does
(`job_ends_with_task`).
-/
import EcommerceAgent.Lib.Runs
import EcommerceAgent.Runtime.Intake

open EcommerceAgent.Lib

namespace EcommerceAgent.Runtime

/-- The status of a job that agrees with the terminal status of its task. -/
def TaskStatus.jobStatus? : TaskStatus → Option JobStatus
  | .succeeded => some .completed
  | .failed => some .failed
  | .cancelled => some .cancelled
  | _ => none

/-- The asyncio tasks have got their numbers already. -/
structure Numbered (rt : TaskRuntime) (unfinished : List (String × ℕ)) : Prop where
  tasks : ∀ t h, rt.tasks t = some h → h < rt.nextTask
  unfinished : ∀ e ∈ unfinished, e.2 < rt.nextTask

/-- An accepted job: the ids that `create_agent_job` drew are new.  Other tasks may be under way:
coroutines wait for an approval, and asyncio tasks are still to be finished. -/
structure NewJob where
  order : JobOrder
  query : String
  before : Intake
  after : Intake
  known : order.query = some query
  created : (createAgentJob order).exec [] before = (.ok order.taskId, after)
  newRow : ∀ row ∈ before.world.records.agentJobs,
    row.id ≠ order.jobId ∧ row.taskId ≠ some order.taskId
  newTask : before.world.runtime.tasks order.taskId = none
  newConversation : before.world.runtime.conversationLatestTask order.taskId = none
  taskId_ne : order.taskId ≠ ""
  distinct : order.taskId ≠ order.conversationId
  suspended : List Suspension
  unfinished : List (String × ℕ)
  numbered : Numbered before.world.runtime unfinished

/-- The task of a job beside what else the process runs. -/
structure JobSystem where
  task : AgentTask
  suspended : List Suspension
  unfinished : List (String × ℕ)

/-- What can happen to the task of a job and beside it: its own steps, calls of the runtime by the
requests, agents and coroutines of other tasks, and their updates of the database. -/
inductive JobAction
  | own (a : TaskAction)
  | other (call : Call)
  | store (f : Records → Records)

namespace JobSystem

variable (s : JobSystem)

/-- The process as the other tasks use it. -/
def process : Process := ⟨s.task.world.runtime, s.suspended, s.unfinished, fun _ => none⟩

/-- The system when the others have left the process `p`. -/
def withProcess (p : Process) : JobSystem where
  task := s.task.withRuntime p.runtime
  suspended := p.suspended
  unfinished := p.unfinished

/-- The call of another task. -/
def other (call : Call) : JobSystem := s.withProcess (s.process.step call)

/-- The update of another task. -/
def store (f : Records → Records) : JobSystem :=
  { s with task := { s.task with
    world := { s.task.world with records := f s.task.world.records } } }

end JobSystem

namespace NewJob

variable (job : NewJob)

/-- The queued payload. -/
def payload : AgentPayload := job.order.agentPayload job.query

/-- The system when `create_agent_job` has returned. -/
def init : JobSystem where
  task := { world := job.after.world, worker := .queued }
  suspended := job.suspended
  unfinished := job.unfinished

/-- One step of the system. -/
def step (tools : ResultTools) (s : JobSystem) : JobAction → JobSystem
  | .own a => { s with task := s.task.step tools job.payload job.order.jobId a }
  | .other call => s.other call
  | .store f => s.store f

end NewJob

/-- Both lookups of the job find the same row. -/
structure SameRow (order : JobOrder) (r r' : Records) : Prop where
  byTask : r'.findJob order.identity order.taskId = r.findJob order.identity order.taskId
  byId : r'.jobById order.identity order.jobId = r.jobById order.identity order.jobId

/-- The call is about the task, or about a conversation that has the task's id. -/
def Call.Names (taskId : String) : Call → Prop
  | .enqueue t _ metadata | .start t _ metadata => t = taskId ∨ metadata.conversationId = taskId
  | .finish t _ | .cancel t | .interrupt t _ _ | .resume t _ _ => t = taskId
  | .complete _ _ | .abandon _ => False

namespace AgentTask

variable (tools : ResultTools) (order : JobOrder) (query : String) (s : AgentTask)

/-- Once the task has ended, one more `sync_agent_job_from_runtime` leaves a row that agrees with
it. -/
def JobEnded : Prop :=
  ∀ status jobStatus, s.world.runtime.statusOf order.taskId = some status →
    status.jobStatus? = some jobStatus →
    ((s.sync tools (order.agentPayload query) order.jobId []).world.records.jobById order.identity
      order.jobId).map (·.status) = some jobStatus

/-- The step calls `task_runtime.cancel`. -/
def CallsCancel : TaskAction → Prop
  | .cancelTask => True
  | .serve i _ => s.requests[i]?.bind Script.label? = some .cancelTask
  | _ => False

/-- The condition on one step: no call cancels the task, the agent does not end as cancelled, and
the failure of a completed job gets past its update. -/
structure EndingStep (a : TaskAction) : Prop where
  uncancelled : s.CallsCancel a → (s.world.runtime.cancel order.taskId).1 = false
  agent : a ≠ .agentEnds (.error .cancelledError)
  stored : ∀ e h rest, a = .work (some e) → s.worker = .writing h rest →
    (rest.label? = some (.finalizeFailure .findJob) ∨
      rest.label? = some (.finalizeFailure .updateJob)) →
    (s.world.records.findJob order.identity order.taskId).map (·.status) ≠ some .completed

end AgentTask

/-- The condition on one step of the system: the other tasks do not use the id of the task, and
their updates leave the row. -/
def JobSystem.Ending (order : JobOrder) (s : JobSystem) : JobAction → Prop
  | .own a => s.task.EndingStep order a
  | .other call => ¬call.Names order.taskId
  | .store f => SameRow order s.task.world.records (f s.task.world.records)

namespace AgentTask

variable (order : JobOrder) (s : AgentTask)

/-- A worker that starts, writes without failure or is done meets the condition. -/
lemma endingStep_of_worker {a : TaskAction}
    (ha : a = .startAgentTask ∨ a = .work none ∨ a = .finish) :
    EndingStep order s a := by
  rcases ha with rfl | rfl | rfl
  · exact ⟨False.elim, TaskAction.noConfusion, fun _ _ _ => TaskAction.noConfusion⟩
  · refine ⟨False.elim, TaskAction.noConfusion, fun e _ _ h => ?_⟩
    injection h with h
    exact absurd h (by simp)
  · exact ⟨False.elim, TaskAction.noConfusion, fun _ _ _ => TaskAction.noConfusion⟩

/-- So does an agent that answers. -/
lemma endingStep_of_answer (answer : FinalResult) :
    EndingStep order s (.agentEnds (.ok answer)) := by
  refine ⟨False.elim, fun h => ?_, fun _ _ _ => TaskAction.noConfusion⟩
  injection h with h
  exact absurd h (by simp)

end AgentTask

/-! ### The row -/

section

variable {order : JobOrder} {r r' : Records} {status status' : JobStatus}

/-- The row of the job is found by its id and by its task, with this status. -/
def JobStored (order : JobOrder) (status : JobStatus) (r : Records) : Prop :=
  ∃ row, r.findJob order.identity order.taskId = some row ∧
    r.jobById order.identity order.jobId = some row ∧ row.status = status

lemma SameRow.of_jobs (hjobs : r'.agentJobs = r.agentJobs) : SameRow order r r' where
  byTask := by rw [Records.findJob, Records.findJob, hjobs]
  byId := by rw [Records.jobById, Records.jobById, hjobs]

lemma JobStored.of_same (h : JobStored order status r) (hsame : SameRow order r r') :
    JobStored order status r' := by
  simpa only [JobStored, hsame.byTask, hsame.byId] using h

lemma JobStored.unique (h : JobStored order status r) (h' : JobStored order status' r) :
    status = status' := by
  obtain ⟨row, hrow, -, rfl⟩ := h
  obtain ⟨row', hrow', -, rfl⟩ := h'
  cases hrow.symm.trans hrow'
  rfl

lemma JobStored.status_eq (h : JobStored order status r) :
    (r.findJob order.identity order.taskId).map (·.status) = some status := by
  obtain ⟨row, hrow, -, rfl⟩ := h
  rw [hrow]
  rfl

/-- An update of the row's status. -/
lemma JobStored.updateJob (h : JobStored order status r) {f : AgentJob → AgentJob}
    (hid : ∀ row i id, (f row).ofId i id = row.ofId i id)
    (htask : ∀ row i t, (f row).ofTask i t = row.ofTask i t)
    (hstatus : ∀ row, (f row).status = status') :
    JobStored order status' (r.updateJob order.identity order.taskId f) := by
  obtain ⟨row, hrow, hid', -⟩ := h
  have hof : row.ofTask order.identity order.taskId = true := List.find?_some hrow
  refine ⟨f row, ?_, ?_, hstatus row⟩
  · rw [Records.findJob, Records.updateJob, Table.find?_updateWhere fun row => htask row _ _]
    rw [show r.agentJobs.find? _ = some row from hrow]
    simp [hof]
  · rw [Records.jobById, Records.updateJob, Table.find?_updateWhere fun row => hid row _ _]
    rw [show r.agentJobs.find? _ = some row from hid']
    simp [hof]

/-- An update that does not set the status. -/
lemma JobStored.linkReport (h : JobStored order status r) (i : Identity) (jobId reportId : String) :
    JobStored order status (r.linkReport i jobId reportId) := by
  obtain ⟨row, hrow, hid, rfl⟩ := h
  refine ⟨if row.ofId i jobId then { row with resultReportId := some reportId } else row,
    ?_, ?_, ?_⟩
  · exact (Table.find?_updateWhere (q := AgentJob.ofTask order.identity order.taskId)
      (f := fun row => { row with resultReportId := some reportId }) (fun _ => rfl)
        r.agentJobs).trans (congrArg (Option.map _) hrow)
  · exact (Table.find?_updateWhere (q := AgentJob.ofId order.identity order.jobId)
      (f := fun row => { row with resultReportId := some reportId }) (fun _ => rfl)
        r.agentJobs).trans (congrArg (Option.map _) hid)
  · split <;> rfl

end

/-! ### The service functions -/

/-- What others may do to the job while the worker writes: nothing. -/
def JobRely (order : JobOrder) (w w' : World) : Prop := SameRow order w.records w'.records

/-- The worker's statements leave the runtime alone, and the row in its place. -/
def JobGuarantee (order : JobOrder) (w w' : World) : Prop :=
  w'.runtime = w.runtime ∧
    ∀ status, JobStored order status w.records → ∃ status', JobStored order status' w'.records

/-- The failures that `EndingStep` allows. -/
def JobMayFail (order : JobOrder) (statement : Statement) (e : PyError) (w : World) : Prop :=
  (∃ message, e = .exception message) ∧
    (statement = .finalizeFailure .findJob ∨ statement = .finalizeFailure .updateJob →
      (w.records.findJob order.identity order.taskId).map (·.status) ≠ some .completed)

instance (order : JobOrder) : Std.Refl (JobRely order) := ⟨fun _ => ⟨rfl, rfl⟩⟩

instance (order : JobOrder) : IsTrans World (JobRely order) :=
  ⟨fun _ _ _ h h' => ⟨h'.byTask.trans h.byTask, h'.byId.trans h.byId⟩⟩

instance (order : JobOrder) : Std.Refl (JobGuarantee order) :=
  ⟨fun _ => ⟨rfl, fun status h => ⟨status, h⟩⟩⟩

instance (order : JobOrder) : IsTrans World (JobGuarantee order) where
  trans _ _ _ h h' := by
    refine ⟨h'.1.trans h.1, fun status hw => ?_⟩
    obtain ⟨status', hw'⟩ := h.2 status hw
    exact h'.2 status' hw'

section

variable {mayFail : Statement → PyError → World → Prop} {order : JobOrder} {status : JobStatus}
  {w : World}

lemma stable_jobStored (order : JobOrder) (status : JobStatus) :
    Stable (JobRely order) fun w => JobStored order status w.records :=
  fun _ _ h hw => hw.of_same h

/-- Saving a result touches the job only to link a report. -/
lemma harmless_saving (f : Records → Records) (hf : Saving f) :
    Harmless (JobGuarantee order) (fun w => JobStored order status w.records) f := by
  intro w hw
  have hkept : JobStored order status (f w.records) := by
    cases hf with
    | linkReport i jobId reportId => exact hw.linkReport i jobId reportId
    | updateReport | insertReport | insertReview => exact hw.of_same (.of_jobs rfl)
  exact ⟨hkept, rfl, fun _ _ => ⟨status, hkept⟩⟩

/-- `finalize_agent_job_success` completes the job before anything else it writes. -/
lemma through_finalizeAgentJobSuccess (tools : ResultTools) {result : FinalResult}
    (hw : JobStored order .running w.records) :
    (finalizeAgentJobSuccess tools order.identity order.taskId result).Through mayFail
      (JobRely order) (JobGuarantee order) (fun r w => match r with
        | .ok _ => JobStored order .completed w.records
        | .error e => (Refused mayFail e ∨ ∃ message, e = .exception message) ∧
          (JobStored order .running w.records ∨ JobStored order .completed w.records)) w := by
  refine Script.through_bind (through_fetch (stable_jobStored _ _) hw (fun w _ => refl w)
    (fun w₁ hw₁ w₂ hw₂ => ?_) fun w₁ e _ he w₂ hw₂ => ⟨.inl ⟨_, w₁, he⟩, .inl hw₂⟩)
  obtain ⟨row, hrow, -⟩ := hw₁
  simp only [hrow]
  refine Script.through_bind (Script.through_ofExcept fun w₃ h₃ => ?_)
  have hw₃ := stable_jobStored _ _ w₂ w₃ h₃ hw₂
  cases result.structuredResult with
  | error message => exact ⟨.inr ⟨message, rfl⟩, .inl hw₃⟩
  | ok json =>
    have hset : ∀ w : World, JobStored order .running w.records →
        JobStored order .completed (w.records.updateJob order.identity order.taskId fun row =>
          { row with
            status := .completed
            resultSummaryJson := json
            errorMessage := none }) :=
      fun w hw => hw.updateJob (fun _ _ _ => rfl) (fun _ _ _ => rfl) fun _ => rfl
    refine Script.through_bind (through_execute (stable_jobStored _ _)
      (stable_jobStored order .completed) hw₃
      (fun w hw => ⟨rfl, fun _ _ => ⟨.completed, hset w hw⟩⟩) hset (fun w hw => ?_)
      fun w₁ e _ he w hw => ⟨.inl ⟨_, w₁, he⟩, .inl hw⟩)
    refine (keeps_saveResult (stable_jobStored order .completed) harmless_saving
      (fun w _ => refl w) tools _ _ _ json row w hw).mono fun r w hr => ?_
    cases r with
    | ok _ => exact hr.1
    | error e => exact ⟨.inl (hr.2 e rfl), .inr hr.1⟩

/-- `finalize_agent_job_failure` marks the job as failed, or it fails before that; if a completed
job is never refused, then the job was not completed. -/
lemma through_finalizeAgentJobFailure (message : String) (hw : JobStored order status w.records)
    (hstatus : ∀ statement e w, JobStored order .completed w.records →
      statement = .finalizeFailure .findJob ∨ statement = .finalizeFailure .updateJob →
      mayFail statement e w → status ≠ .completed) :
    (finalizeAgentJobFailure order.identity order.taskId message).Through mayFail (JobRely order)
      (JobGuarantee order) (fun r w => match r with
        | .ok _ => JobStored order .failed w.records
        | .error e => Refused mayFail e ∧ (JobStored order .failed w.records ∨
            status ≠ .completed ∧ JobStored order status w.records)) w := by
  have hopen : ∀ w statement e, JobStored order status w.records →
      statement = .finalizeFailure .findJob ∨ statement = .finalizeFailure .updateJob →
      mayFail statement e w → status ≠ .completed := by
    intro w statement e hw hstatement he heq
    subst heq
    exact hstatus statement e w hw hstatement he rfl
  have hset : ∀ text, ∀ w : World, JobStored order status w.records →
      JobStored order .failed (w.records.updateJob order.identity order.taskId fun row =>
        { row with
          status := .failed
          errorMessage := some text }) :=
    fun _ w hw => hw.updateJob (fun _ _ _ => rfl) (fun _ _ _ => rfl) fun _ => rfl
  refine Script.through_bind (through_fetch (stable_jobStored _ _) hw (fun w _ => refl w)
    (fun w₁ hw₁ w₂ hw₂ => ?_) fun w₁ e hw₁ he w₂ hw₂ =>
      ⟨⟨_, w₁, he⟩, .inr ⟨hopen w₁ _ e hw₁ (.inl rfl) he, hw₂⟩⟩)
  obtain ⟨row, hrow, -⟩ := hw₁
  simp only [hrow]
  refine Script.through_bind (through_execute (stable_jobStored _ _)
    (stable_jobStored order .failed) hw₂
    (fun w hw => ⟨rfl, fun _ _ => ⟨.failed, hset _ w hw⟩⟩) (hset _) (fun w hw => ?_)
    fun w₁ e hw₁ he w₂ hw₂ =>
      ⟨⟨_, w₁, he⟩, .inr ⟨hopen w₁ _ e hw₁ (.inr rfl) he, hw₂⟩⟩)
  refine (keeps_saveFailure (stable_jobStored order .failed) harmless_saving
    _ _ _ row w hw).mono fun r w hr => ?_
  cases r with
  | ok _ => exact hr.1
  | error e => exact ⟨hr.2 e rfl, .inl hr.1⟩

end

section

variable {order : JobOrder} {w : World}

lemma exception_of_refused {e : PyError} (h : Refused (JobMayFail order) e) :
    ∃ message, e = .exception message := by
  obtain ⟨statement, w, hmessage, -⟩ := h
  exact hmessage

/-- How the coroutine of a job ends when nobody cancels it. -/
def CoroutineEnds (order : JobOrder) (r : Except PyError String) (w : World) : Prop :=
  match r with
  | .ok _ => JobStored order .completed w.records
  | .error e => e ≠ .cancelledError ∧
    (JobStored order .failed w.records ∨ JobStored order .running w.records)

/-- The handlers leave a failed job, or a running one. -/
lemma through_handleError {query : String} {e : PyError} (he : e ≠ .cancelledError)
    (hw : JobStored order .running w.records ∨
      (∃ message, e = .exception message) ∧ JobStored order .completed w.records) :
    (handleError (order.agentPayload query) e).Through (JobMayFail order) (JobRely order)
      (JobGuarantee order) (CoroutineEnds order) w := by
  cases e with
  | cancelledError => exact absurd rfl he
  | timeoutError message =>
    rcases hw with hw | ⟨⟨_, hother⟩, -⟩
    · exact fun w' h => ⟨nofun, .inr (hw.of_same h)⟩
    · cases hother
  | exception message =>
    have hfail : ∀ status, JobStored order status w.records → status = .running ∨
        status = .completed → (handleError (order.agentPayload query)
          (.exception message)).Through (JobMayFail order) (JobRely order) (JobGuarantee order)
          (CoroutineEnds order) w := by
      intro status hw hstatus
      refine Script.through_bind (fun w₁ h₁ => ?_)
      refine Script.through_bind ((through_finalizeAgentJobFailure message (hw.of_same h₁) ?_).mono
        fun r w hr => ?_)
      · intro statement e w hcompleted hstatement hrefused
        exact absurd hcompleted.status_eq (hrefused.2 hstatement)
      · cases r with
        | ok _ => exact fun w' h => ⟨nofun, .inl (hr.of_same h)⟩
        | error e =>
          obtain ⟨other, rfl⟩ := exception_of_refused hr.1
          refine ⟨nofun, hr.2.imp id fun h => ?_⟩
          rcases hstatus with rfl | rfl
          · exact h.2
          · exact absurd rfl h.1
    rcases hw with hw | ⟨-, hw⟩
    · exact hfail .running hw (.inl rfl)
    · exact hfail .completed hw (.inr rfl)

/-- The coroutine of a job whose agent was not cancelled. -/
lemma through_runAndFinalize (tools : ResultTools) {query : String} {result : AgentResult}
    (hresult : result ≠ .error .cancelledError) (hw : JobStored order .running w.records) :
    (runAndFinalize tools (order.agentPayload query) result).Through (JobMayFail order)
      (JobRely order) (JobGuarantee order) (CoroutineEnds order) w := by
  refine Script.through_tryCatch ?_
  refine Script.through_bind (Script.through_ofExcept fun w₁ h₁ => ?_)
  have hw₁ := hw.of_same h₁
  cases result with
  | error e => exact through_handleError (fun he => hresult (congrArg _ he)) (.inl hw₁)
  | ok final =>
    refine Script.through_bind (Script.through_ofExcept fun w₂ h₂ => ?_)
    have hw₂ := hw₁.of_same h₂
    cases final.structuredResult with
    | error message => exact through_handleError nofun (.inl hw₂)
    | ok json =>
      refine Script.through_bind (fun w₃ h₃ => ?_)
      refine Script.through_bind ((through_finalizeAgentJobSuccess tools (hw₂.of_same h₃)).mono
        fun r w hr => ?_)
      cases r with
      | ok _ => exact fun w' h => hr.of_same h
      | error e =>
        have hmessage : ∃ message, e = .exception message :=
          hr.1.elim exception_of_refused id
        refine through_handleError ?_ (hr.2.imp id fun h => ⟨hmessage, h⟩)
        obtain ⟨message, rfl⟩ := hmessage
        nofun

end

/-! ### The lookup of the job -/

/-- What the runtime keeps about the task of the job, with this status. -/
structure Entry (order : JobOrder) (status : TaskStatus) (rt : TaskRuntime) : Prop where
  latest : rt.conversationLatestTask order.taskId = none
  state : ∃ state, rt.states order.taskId = some state ∧
    state.matchesIdentity order.identity = true ∧ state.status = status

section

variable {order : JobOrder} {status : TaskStatus} {rt rt' : TaskRuntime}

lemma Entry.aside (h : Entry order status rt) {P : ℕ → Prop}
    (hrt : TaskRuntime.Aside order.taskId P rt rt') : Entry order status rt' where
  latest := hrt.latest.trans h.latest
  state := by
    rw [hrt.states]
    exact h.state

lemma Entry.statusOf (h : Entry order status rt) : rt.statusOf order.taskId = some status := by
  obtain ⟨state, hstate, -, rfl⟩ := h.state
  rw [TaskRuntime.statusOf, hstate]
  rfl

lemma Entry.getScoped (h : Entry order status rt) :
    ∃ state, rt.getScoped order.taskId order.identity = some state ∧ state.status = status := by
  obtain ⟨state, hstate, hidentity, hstatus⟩ := h.state
  refine ⟨state, ?_, hstatus⟩
  rw [TaskRuntime.getScoped, TaskRuntime.resolveTaskId, h.latest, Option.getD_none, hstate]
  exact Option.filter_some_pos hidentity

/-- A change of the stored state that keeps the identity. -/
lemma Entry.modifyState (h : Entry order status rt) {f : TaskState → TaskState}
    (hidentity : ∀ state, (f state).matchesIdentity order.identity =
      state.matchesIdentity order.identity) {status' : TaskStatus}
    (hstatus : ∀ state, (f state).status = status') :
    Entry order status' (rt.modifyState order.taskId f) where
  latest := h.latest
  state := by
    obtain ⟨state, hstate, hmatches, -⟩ := h.state
    refine ⟨f state, ?_, (hidentity state).trans hmatches, hstatus state⟩
    simp [TaskRuntime.modifyState, hstate]

variable {mayFail : Statement → PyError → World → Prop} {jobStatus : JobStatus} {w : World}
  (tools : ResultTools)

lemma stable_eq (A : World → Prop) : Stable (· = ·) A := by
  rintro w _ rfl hw
  exact hw

/-- The rows and the state that the lookup reads. -/
structure Known (order : JobOrder) (jobStatus : JobStatus) (status : TaskStatus) (w : World) :
    Prop where
  row : JobStored order jobStatus w.records
  entry : Entry order status w.runtime

lemma JobStored.truthy_taskId (h : JobStored order jobStatus w.records) (hne : order.taskId ≠ "") :
    ∃ row, w.records.jobById order.identity order.jobId = some row ∧ row.status = jobStatus ∧
      truthy row.taskId = some order.taskId := by
  obtain ⟨row, hrow, hid, hstatus⟩ := h
  have htask : row.ofTask order.identity order.taskId = true := List.find?_some hrow
  simp only [AgentJob.ofTask, Bool.and_eq_true, beq_iff_eq] at htask
  refine ⟨row, hid, hstatus, ?_⟩
  rw [htask.2]
  exact Option.filter_some_pos (by simpa using hne)

variable (mayFail) in
/-- The lookup does nothing unless the job is running and its task has ended. -/
lemma through_sync_idle (hne : order.taskId ≠ "") (hw : Known order jobStatus status w)
    (hidle : jobStatus ≠ .running ∨ status ≠ .failed ∧ status ≠ .succeeded) :
    (syncAgentJobFromRuntime tools order.identity order.jobId).Through mayFail (· = ·) (· = ·)
      (fun _ w' => w' = w) w := by
  refine Script.through_bind (through_fetch (stable_eq (· = w)) rfl (fun _ _ => rfl)
    (fun w₁ hw₁ w₂ hw₂ => ?_) fun _ _ _ _ w' hw' => hw')
  subst hw₁
  subst hw₂
  obtain ⟨row, hid, hstatus, htask⟩ := hw.row.truthy_taskId hne
  simp only [hid, htask]
  by_cases hrunning : row.status ≠ .running
  · rw [if_pos hrunning]
    exact fun w' h => h.symm
  · rw [if_neg hrunning]
    obtain ⟨state, hstate, hstate'⟩ := hw.entry.getScoped
    have hlive := hidle.resolve_left (by simpa [hstatus] using hrunning)
    rintro _ rfl
    refine ⟨rfl, ?_⟩
    have hfailed : state.status ≠ .failed := hstate' ▸ hlive.1
    have hsucceeded : ¬ (state.status = .succeeded ∧ state.result.isSome = true) := by
      rw [hstate']
      exact fun h => hlive.2 h.1
    simp only [id, hstate, Script.bind, if_neg hfailed, if_neg hsucceeded]
    exact fun w' h => h.symm

variable (mayFail) in
/-- The lookup of a running job whose task has failed marks the job as failed. -/
lemma through_sync_failed (hne : order.taskId ≠ "") (hw : Known order .running .failed w) :
    (syncAgentJobFromRuntime tools order.identity order.jobId).Through mayFail (· = ·)
      (JobGuarantee order) (fun r w => match r with
        | .ok _ => JobStored order .failed w.records
        | .error e => Refused mayFail e ∧
          (JobStored order .failed w.records ∨ JobStored order .running w.records)) w := by
  refine Script.through_bind (through_fetch (stable_eq (· = w)) rfl (fun w _ => refl w)
    (fun w₁ hw₁ w₂ hw₂ => ?_) fun w₁ e hw₁ he w' hw' => ?_)
  · subst hw₁
    subst hw₂
    obtain ⟨row, hid, hstatus, htask⟩ := hw.row.truthy_taskId hne
    simp only [hid, htask]
    rw [if_neg (by simpa using hstatus)]
    obtain ⟨state, hstate, hstate'⟩ := hw.entry.getScoped
    rintro _ rfl
    refine ⟨refl _, ?_⟩
    simp only [id, hstate, Script.bind, if_pos hstate']
    refine ((through_finalizeAgentJobFailure _ hw.row fun _ _ _ _ _ _ => by decide).rely_mono
      fun w w' h => ?_).mono fun r w hr => ?_
    · exact h ▸ refl _
    · cases r with
      | ok _ => exact hr
      | error e => exact ⟨hr.1, hr.2.imp id And.right⟩
  · subst hw'
    exact ⟨⟨_, w₁, he⟩, .inr hw.row⟩

end

/-! ### The system -/

/-- What the requests to cancel a chat do to a job and to the runtime. -/
def RequestEffect (taskId : String) (statement : Statement) (w w' : World) : Prop :=
  w'.records.agentJobs = w.records.agentJobs ∧
    w'.runtime = if statement = .cancelTask then (w.runtime.cancel taskId).2 else w.runtime

lemma effects_execute {taskId : String} {statement : Statement} {f : Records → Records}
    (hf : ∀ r, (f r).agentJobs = r.agentJobs) (hne : statement ≠ .cancelTask) :
    (execute statement f).Effects (RequestEffect taskId) :=
  ⟨fun w => ⟨hf w.records, (if_neg hne).symm⟩, fun _ => trivial, fun _ => trivial⟩

lemma effects_fetch {α : Type} {taskId : String} {statement : Statement} {q : Records → α}
    (hne : statement ≠ .cancelTask) :
    (fetch statement q).Effects (RequestEffect taskId) :=
  ⟨fun _ => ⟨rfl, (if_neg hne).symm⟩, fun _ => trivial, fun _ => trivial⟩

lemma effects_failChatRun (identity : Identity) (taskId message : String) (status : ChatStatus) :
    (failChatRun id identity taskId message status).Effects (RequestEffect taskId) := by
  unfold failChatRun
  refine Script.Effects.bind (effects_fetch ?_) fun found => ?_
  · decide
  cases found with
  | none => exact trivial
  | some row =>
    exact Script.Effects.bind (effects_execute (fun _ => rfl) (by decide)) fun _ =>
      effects_execute (fun _ => rfl) (by decide)

lemma effects_cancelAiChatTask (identity : Identity) (taskId : String) :
    (cancelAiChatTask identity taskId).Effects (RequestEffect taskId) := by
  unfold cancelAiChatTask
  refine Script.Effects.bind (effects_fetch ?_) fun found => ?_
  · decide
  cases found with
  | none => exact trivial
  | some row =>
    simp only
    split
    · exact trivial
    · refine ⟨fun w => ⟨rfl, (if_pos rfl).symm⟩, fun w => ?_⟩
      exact Script.Effects.bind (effects_failChatRun ..) fun _ => trivial

/-- The row agrees with the outcome of the asyncio task, up to what the lookup adds. -/
def Outcome.Stored (order : JobOrder) (r : Records) : Outcome → Prop
  | .returned _ => JobStored order .completed r
  | .raised _ => JobStored order .failed r ∨ JobStored order .running r
  | .cancelled => False

/-- No asyncio task is created. -/
structure TaskRuntime.SameNumbers (rt rt' : TaskRuntime) : Prop where
  tasks : rt'.tasks = rt.tasks
  nextTask : rt'.nextTask = rt.nextTask

lemma TaskRuntime.SameTasks.numbers {rt rt' : TaskRuntime} (h : TaskRuntime.SameTasks rt rt') :
    TaskRuntime.SameNumbers rt rt' :=
  ⟨h.tasks, h.nextTask⟩

/-- The asyncio task that a worker waits for. -/
def Worker.handle? : Worker → Option ℕ
  | .awaiting h | .writing h _ | .ended h => some h
  | .queued | .closed => none

namespace AgentTask

/-- What is known of the job wherever the worker is. -/
def WorkerOk (order : JobOrder) (s : AgentTask) : Prop :=
  match s.worker with
  | .queued => Known order .running .queued s.world ∧
    s.world.runtime.tasks order.taskId = none
  | .awaiting _ => Known order .running .running s.world
  | .writing h rest => Entry order .running s.world.runtime ∧
    (s.world.runtime.asyncTask h).cancelRequested = false ∧
    (∃ status, JobStored order status s.world.records) ∧
    rest.Through (JobMayFail order) (JobRely order) (JobGuarantee order) (CoroutineEnds order)
      s.world
  | .ended h => Entry order .running s.world.runtime ∧
    ∃ o, s.world.runtime.outcomeOf h = some o ∧ o.Stored order s.world.records
  | .closed => ∃ o : Outcome, Entry order o.status s.world.runtime ∧ o.Stored order s.world.records

/-- The invariant of a job that is not cancelled. -/
structure JobInv (order : JobOrder) (s : AgentTask) : Prop where
  requests : ∀ q ∈ s.requests, q.Effects (RequestEffect order.taskId)
  worker : WorkerOk order s

variable {order : JobOrder} {query : String} {s : AgentTask} {tools : ResultTools}

lemma stored_of_same {o : Outcome} {r r' : Records} (h : o.Stored order r)
    (hsame : SameRow order r r') : o.Stored order r' := by
  cases o with
  | returned _ => exact JobStored.of_same h hsame
  | raised _ => exact Or.imp (·.of_same hsame) (·.of_same hsame) h
  | cancelled => exact h

/-- The other parts of the system may do anything that leaves the job and its task alone. -/
lemma WorkerOk.aside (h : WorkerOk order s) {w : World}
    (hsame : SameRow order s.world.records w.records)
    (hrt : TaskRuntime.Aside order.taskId (s.worker.handle? = some ·) s.world.runtime w.runtime) :
    WorkerOk order { s with world := w } := by
  unfold WorkerOk at h ⊢
  cases hworker : s.worker with
  | queued =>
    simp only [hworker] at h ⊢
    exact ⟨⟨h.1.row.of_same hsame, h.1.entry.aside hrt⟩, hrt.tasks.trans h.2⟩
  | awaiting g =>
    simp only [hworker] at h ⊢
    exact ⟨h.row.of_same hsame, h.entry.aside hrt⟩
  | writing g rest =>
    simp only [hworker] at h ⊢
    obtain ⟨hentry, hcancel, ⟨status, hrow⟩, hrest⟩ := h
    refine ⟨hentry.aside hrt, ?_, ⟨status, hrow.of_same hsame⟩, hrest.rely hsame⟩
    rw [hrt.asyncTask g (hworker ▸ rfl)]
    exact hcancel
  | ended g =>
    simp only [hworker] at h ⊢
    obtain ⟨o, ho, hstored⟩ := h.2
    refine ⟨h.1.aside hrt, o, ?_, stored_of_same hstored hsame⟩
    rw [TaskRuntime.outcomeOf, hrt.asyncTask g (hworker ▸ rfl)]
    exact ho
  | closed =>
    simp only [hworker] at h ⊢
    obtain ⟨o, hentry, hstored⟩ := h
    exact ⟨o, hentry.aside hrt, stored_of_same hstored hsame⟩

/-- The task of the job is never interrupted, since its agent waits under another name. -/
lemma WorkerOk.not_interrupted (h : WorkerOk order s) :
    s.world.runtime.statusOf order.taskId ≠ some .interrupted := by
  have hentry : ∃ status, Entry order status s.world.runtime ∧ status ≠ .interrupted := by
    unfold WorkerOk at h
    split at h
    · exact ⟨_, h.1.entry, nofun⟩
    · exact ⟨_, h.entry, nofun⟩
    · exact ⟨_, h.1, nofun⟩
    · exact ⟨_, h.1, nofun⟩
    · obtain ⟨o, hentry, -⟩ := h
      exact ⟨_, hentry, by cases o <;> nofun⟩
  obtain ⟨status, hentry, hne⟩ := hentry
  rw [hentry.statusOf]
  exact fun heq => hne (Option.some.inj heq)

/-! ### One step -/

lemma JobInv.start (hs : s.JobInv order) (hdistinct : order.taskId ≠ order.conversationId) :
    (s.start (order.agentPayload query)).JobInv order := by
  obtain ⟨world, worker, requests⟩ := s
  cases worker with
  | queued =>
    obtain ⟨⟨hrow, hentry⟩, htasks⟩ := hs.worker
    have hstatus : world.runtime.isCancelled order.taskId = false := by
      have hqueued := hentry.statusOf
      rw [TaskRuntime.statusOf] at hqueued
      simp [TaskRuntime.isCancelled, hqueued]
    have hidle : world.runtime.isRunning order.taskId = false := by
      simp [TaskRuntime.isRunning, show world.runtime.tasks order.taskId = none from htasks]
    obtain ⟨g, rt, hrt⟩ := TaskRuntime.startTask_of_idle world.runtime hidle query
      ⟨order.conversationId, order.identity⟩
    rw [start_of_ok rfl hstatus hrt]
    obtain ⟨-, -, rfl⟩ := TaskRuntime.startTask_ok hrt
    refine ⟨hs.requests, ⟨hrow, ?_, ?_⟩⟩
    · simp only [withRuntime, TaskRuntime.setLatest]
      split
      · exact hentry.latest
      · rw [Function.update_of_ne hdistinct]
        exact hentry.latest
    · refine ⟨_, Function.update_self .., ?_, rfl⟩
      simp [TaskState.matchesIdentity, TaskRuntime.startedState]
  | awaiting | writing | ended | closed => exact hs

lemma JobInv.agentEnds (hs : s.JobInv order) {result : AgentResult}
    (hresult : result ≠ .error .cancelledError) :
    (s.agentEnds tools (order.agentPayload query) result).JobInv order := by
  obtain ⟨world, worker, requests⟩ := s
  cases worker with
  | awaiting h =>
    have hknown : Known order .running .running world := hs.worker
    refine ⟨hs.requests, ⟨⟨hknown.entry.latest, hknown.entry.state⟩, ?_,
      ⟨.running, hknown.row⟩, ?_⟩⟩
    · have hdelivered : (world.runtime.deliver h).asyncTask h =
          { world.runtime.asyncTask h with cancelRequested := false } := Function.update_self ..
      exact congrArg AsyncTask.cancelRequested hdelivered
    · exact through_runAndFinalize tools hresult hknown.row
  | queued | writing | ended | closed => exact hs

lemma JobInv.work (hs : s.JobInv order) {failure : Option String}
    (hfail : ∀ e h rest, failure = some e → s.worker = .writing h rest →
      (rest.label? = some (.finalizeFailure .findJob) ∨
        rest.label? = some (.finalizeFailure .updateJob)) →
      (s.world.records.findJob order.identity order.taskId).map (·.status) ≠ some .completed) :
    (s.work failure).JobInv order ∧
      TaskRuntime.SameNumbers s.world.runtime (s.work failure).world.runtime := by
  obtain ⟨world, worker, requests⟩ := s
  cases worker with
  | writing h rest =>
    obtain ⟨hentry, hcancel, ⟨status, hrow⟩, hrest⟩ := hs.worker
    cases hresult : rest.result? with
    | some result =>
      have hends := hrest.result hresult
      simp only [AgentTask.work, hresult]
      refine ⟨⟨hs.requests, ⟨⟨hentry.latest, hentry.state⟩,
        world.runtime.coroutineOutcome h result, ?_, ?_⟩⟩, ⟨rfl, rfl⟩⟩
      · simp [withRuntime, TaskRuntime.endTask, TaskRuntime.outcomeOf]
      · cases result with
        | ok content =>
          have hreturned : world.runtime.coroutineOutcome h (.ok content) = .returned content :=
            if_neg (by simpa using hcancel)
          rw [hreturned]
          exact hends
        | error e =>
          cases e with
          | cancelledError => exact absurd rfl hends.1
          | exception | timeoutError => exact hends.2
    | none =>
      simp only [AgentTask.work, hresult]
      have hstep := hrest.step (failure.map .exception) ?_
      · have hkept : JobGuarantee order world (rest.step (failure.map .exception) world).2 := by
          rcases hstep.2 with hsame | hkept
          · rw [hsame]
            exact refl world
          · exact hkept
        refine ⟨⟨hs.requests, ⟨hkept.1 ▸ hentry, hkept.1 ▸ hcancel, hkept.2 status hrow,
          hstep.1⟩⟩, ?_⟩
        exact ⟨congrArg TaskRuntime.tasks hkept.1, congrArg TaskRuntime.nextTask hkept.1⟩
      · intro e i he hi
        obtain ⟨message, rfl, rfl⟩ := Option.map_eq_some_iff.1 he
        refine ⟨⟨message, rfl⟩, fun hlabel => hfail message h rest rfl rfl ?_⟩
        rcases hlabel with rfl | rfl
        · exact .inl hi
        · exact .inr hi
  | queued | awaiting | ended | closed => exact ⟨hs, rfl, rfl⟩

lemma JobInv.finish (hs : s.JobInv order) :
    (s.finish (order.agentPayload query)).JobInv order := by
  obtain ⟨world, worker, requests⟩ := s
  cases worker with
  | ended h =>
    obtain ⟨hentry, o, ho, hstored⟩ := hs.worker
    refine ⟨hs.requests, o, ?_, hstored⟩
    have hfinish : world.runtime.finish order.taskId h =
        world.runtime.modifyState order.taskId (TaskRuntime.finishedState o) := by
      unfold TaskRuntime.finish
      rw [show (world.runtime.asyncTask h).outcome = some o from ho]
    show Entry order o.status (world.runtime.finish order.taskId h)
    rw [hfinish]
    refine hentry.modifyState (fun state => ?_) fun state => ?_
    · cases o <;> rfl
    · cases o <;> rfl
  | queued | awaiting | writing | closed => exact hs

/-- A step of somebody else that leaves the task alone. -/
lemma JobInv.aside (hs : s.JobInv order) {w : World}
    (hsame : SameRow order s.world.records w.records)
    (hrt : TaskRuntime.Aside order.taskId (s.worker.handle? = some ·) s.world.runtime w.runtime) :
    JobInv order { s with world := w } :=
  ⟨hs.requests, hs.worker.aside hsame hrt⟩

lemma JobInv.serve (hs : s.JobInv order) (i : ℕ) (failure : Option String)
    (hcancel : s.requests[i]?.bind Script.label? = some .cancelTask →
      (s.world.runtime.cancel order.taskId).1 = false) :
    (s.serve i failure).JobInv order := by
  unfold AgentTask.serve
  cases hq : s.requests[i]? with
  | none => exact hs
  | some q =>
    have hmem : q ∈ s.requests := List.mem_of_getElem? hq
    obtain ⟨hnext, hworld⟩ :=
      (hs.requests q hmem).step (failure.map PyError.exception) s.world
    have hkept : WorkerOk order
        { s with world := (q.step (failure.map PyError.exception) s.world).2 } := by
      rcases hworld with hsame | ⟨label, hlabel, hjobs, hrt⟩
      · rw [hsame]
        exact hs.worker
      · refine hs.worker.aside (.of_jobs hjobs) ?_
        rw [hrt]
        split
        · rename_i heq
          subst heq
          refine TaskRuntime.aside_cancel (hcancel ?_)
          rw [hq]
          exact hlabel
        · exact .refl ..
    refine ⟨fun q' hq' => ?_, hkept⟩
    rcases List.mem_or_eq_of_mem_set hq' with h | rfl
    · exact hs.requests q' h
    · exact hnext

/-- A lookup that finds the task alive, or a job that is over, changes nothing. -/
lemma sync_of_idle (hne : order.taskId ≠ "") {jobStatus : JobStatus} {status : TaskStatus}
    (hknown : Known order jobStatus status s.world)
    (hidle : jobStatus ≠ .running ∨ status ≠ .failed ∧ status ≠ .succeeded)
    (failures : List (Option String)) :
    s.sync tools (order.agentPayload query) order.jobId failures = s := by
  have hthrough := through_sync_idle (fun _ _ _ => True) tools hne hknown hidle
  have hworld := hthrough.exec (failures.map (·.map .exception))
    fun _ _ _ _ => trivial
  exact congrArg (fun w => ({ s with world := w } : AgentTask)) hworld

/-- A lookup of a job whose task has ended. -/
lemma Ended.sync (tools : ResultTools) (query : String) (s : AgentTask)
    (hne : order.taskId ≠ "") {o : Outcome}
    (hentry : Entry order o.status s.world.runtime) (hstored : o.Stored order s.world.records)
    (failures : List (Option String)) :
    (s.sync tools (order.agentPayload query) order.jobId failures).world.runtime =
        s.world.runtime ∧
      o.Stored order
        (s.sync tools (order.agentPayload query) order.jobId failures).world.records := by
  have hidle : ∀ jobStatus, jobStatus ≠ .running → JobStored order jobStatus s.world.records →
      s.sync tools (order.agentPayload query) order.jobId failures = s :=
    fun jobStatus h hrow => sync_of_idle hne ⟨hrow, hentry⟩ (.inl h) failures
  cases o with
  | cancelled => exact hstored.elim
  | returned content =>
    rw [hidle .completed nofun hstored]
    exact ⟨rfl, hstored⟩
  | raised error =>
    rcases hstored with hfailed | hrunning
    · rw [hidle .failed nofun hfailed]
      exact ⟨rfl, .inl hfailed⟩
    · have hthrough := through_sync_failed (fun _ _ _ => True) tools hne
        ⟨hrunning, hentry⟩
      have hall : ∀ e, some e ∈ failures.map (·.map PyError.exception) →
          ∀ (_ : Statement) (_ : World), True := fun _ _ _ _ => trivial
      have hresult := hthrough.exec _ hall
      have hkept := hthrough.exec_guarantee _ hall
      refine ⟨hkept.1, ?_⟩
      revert hresult
      cases ((syncAgentJobFromRuntime tools order.identity order.jobId).exec
        (failures.map (·.map .exception)) s.world).1 with
      | ok _ => exact .inl
      | error e => exact And.right

lemma JobInv.sync (hs : s.JobInv order) (hne : order.taskId ≠ "")
    (failures : List (Option String)) :
    (s.sync tools (order.agentPayload query) order.jobId failures).JobInv order ∧
      (s.sync tools (order.agentPayload query) order.jobId failures).world.runtime =
        s.world.runtime := by
  obtain ⟨world, worker, requests⟩ := s
  have hkeep : ∀ {jobStatus status}, Known order jobStatus status world →
      (status ≠ .failed ∧ status ≠ .succeeded) →
      (AgentTask.sync tools (order.agentPayload query) order.jobId ⟨world, worker, requests⟩
          failures).JobInv order ∧
        (AgentTask.sync tools (order.agentPayload query) order.jobId ⟨world, worker, requests⟩
          failures).world.runtime = world.runtime := by
    intro jobStatus status hknown hlive
    rw [sync_of_idle hne hknown (.inr hlive) failures]
    exact ⟨hs, rfl⟩
  cases worker with
  | queued => exact hkeep hs.worker.1 ⟨nofun, nofun⟩
  | awaiting h => exact hkeep hs.worker ⟨nofun, nofun⟩
  | writing h rest =>
    obtain ⟨hentry, -, ⟨status, hrow⟩, -⟩ := hs.worker
    exact hkeep ⟨hrow, hentry⟩ ⟨nofun, nofun⟩
  | ended h =>
    obtain ⟨hentry, o, -, hstored⟩ := hs.worker
    have hrow : ∃ status, JobStored order status world.records := by
      cases o with
      | returned _ => exact ⟨_, hstored⟩
      | raised _ => exact hstored.elim (fun h => ⟨_, h⟩) fun h => ⟨_, h⟩
      | cancelled => exact hstored.elim
    obtain ⟨status, hrow⟩ := hrow
    exact hkeep ⟨hrow, hentry⟩ ⟨nofun, nofun⟩
  | closed =>
    obtain ⟨o, hentry, hstored⟩ := hs.worker
    obtain ⟨hruntime, hstored'⟩ :=
      Ended.sync tools query ⟨world, .closed, requests⟩ hne hentry hstored failures
    have hentry' := (congrArg (Entry order o.status) hruntime).mpr hentry
    exact ⟨⟨hs.requests, o, hentry', hstored'⟩, hruntime⟩

/-- Every step that meets the condition keeps the invariant. -/
lemma JobInv.step (hs : s.JobInv order) (hne : order.taskId ≠ "")
    (hdistinct : order.taskId ≠ order.conversationId) {a : TaskAction}
    (ha : EndingStep order s a) :
    (s.step tools (order.agentPayload query) order.jobId a).JobInv order := by
  cases a with
  | startAgentTask => exact hs.start hdistinct
  | agentEnds result => exact hs.agentEnds fun h => ha.agent (congrArg _ h)
  | work failure =>
    exact (hs.work fun e h rest he hworker => ha.stored e h rest (congrArg _ he) hworker).1
  | finish => exact hs.finish
  | cancelTask =>
    exact hs.aside ⟨rfl, rfl⟩ (TaskRuntime.aside_cancel (ha.uncancelled trivial))
  | cancelAiChatTask =>
    refine ⟨fun q hq => ?_, hs.worker⟩
    rcases List.mem_append.1 hq with hq | hq
    · exact hs.requests q hq
    · rw [List.mem_singleton.1 hq]
      exact effects_cancelAiChatTask ..
  | serve i failure => exact hs.serve i failure ha.uncancelled
  | requestApproval summary =>
    simp only [AgentTask.step, AgentTask.requestApproval]
    split
    · exact hs
    · exact hs.aside ⟨rfl, rfl⟩ (TaskRuntime.aside_interrupt hdistinct ..)
  | resumeTask decision instruction =>
    simp only [AgentTask.step, AgentTask.resumeTask]
    split
    · rename_i done rt hrt
      exact hs.aside ⟨rfl, rfl⟩ (TaskRuntime.aside_resume hs.worker.not_interrupted hrt)
    · exact hs
  | syncJob failures => exact (hs.sync hne failures).1

/-- Where the invariant holds, one more lookup brings the row to the end of the task. -/
lemma JobInv.jobEnded (hs : s.JobInv order) (hne : order.taskId ≠ "") :
    s.JobEnded tools order query := by
  intro status jobStatus hstatus hjob
  obtain ⟨world, worker, requests⟩ := s
  have hlive : ∀ {status'}, Entry order status' world.runtime → status'.jobStatus? = none →
      False := by
    intro status' hentry hnone
    cases hentry.statusOf.symm.trans hstatus
    cases hnone.symm.trans hjob
  cases worker with
  | queued => exact (hlive hs.worker.1.entry rfl).elim
  | awaiting h => exact (hlive hs.worker.entry rfl).elim
  | writing h rest => exact (hlive hs.worker.1 rfl).elim
  | ended h => exact (hlive hs.worker.1 rfl).elim
  | closed =>
    obtain ⟨o, hentry, hstored⟩ := hs.worker
    cases hentry.statusOf.symm.trans hstatus
    have hrow : JobStored order jobStatus (AgentTask.sync tools (order.agentPayload query)
        order.jobId ⟨world, .closed, requests⟩ []).world.records := by
      cases o with
      | cancelled => exact hstored.elim
      | returned content =>
        cases hjob
        rw [sync_of_idle hne ⟨hstored, hentry⟩ (.inl nofun)]
        exact hstored
      | raised error =>
        cases hjob
        rcases hstored with hfailed | hrunning
        · rw [sync_of_idle hne ⟨hfailed, hentry⟩ (.inl nofun)]
          exact hfailed
        · have hresult := (through_sync_failed (fun _ _ _ => False) tools hne
            ⟨hrunning, hentry⟩).exec_nil
          revert hresult
          cases ((syncAgentJobFromRuntime tools order.identity order.jobId).exec [] world).1 with
          | ok _ => exact id
          | error e => exact fun h => (h.1.elim fun _ h => h.elim fun _ h => h).elim
    obtain ⟨row, -, hrow, rfl⟩ := hrow
    rw [hrow]
    rfl

/-- Only the start of the worker creates an asyncio task. -/
lemma JobInv.numbers (hs : s.JobInv order) (tools : ResultTools) (query : String)
    (hne : order.taskId ≠ "") {a : TaskAction}
    (ha : EndingStep order s a) (hstart : a ≠ .startAgentTask) :
    TaskRuntime.SameNumbers s.world.runtime
        (s.step tools (order.agentPayload query) order.jobId a).world.runtime ∧
      ∀ h, (s.step tools (order.agentPayload query) order.jobId a).worker.handle? = some h →
        s.worker.handle? = some h := by
  obtain ⟨world, worker, requests⟩ := s
  cases a with
  | startAgentTask => exact absurd rfl hstart
  | agentEnds result => cases worker <;> exact ⟨⟨rfl, rfl⟩, fun _ => id⟩
  | work failure =>
    refine ⟨(hs.work fun e h rest he hworker => ha.stored e h rest (congrArg _ he) hworker).2, ?_⟩
    cases worker with
    | writing g rest =>
      simp only [AgentTask.step, AgentTask.work]
      cases rest.result? <;> exact fun _ => id
    | queued | awaiting | ended | closed => exact fun _ => id
  | finish =>
    cases worker with
    | ended g => exact ⟨(TaskRuntime.sameTasks_finish ..).numbers, nofun⟩
    | queued | awaiting | writing | closed => exact ⟨⟨rfl, rfl⟩, fun _ => id⟩
  | cancelTask => exact ⟨(TaskRuntime.sameTasks_cancel ..).numbers, fun _ => id⟩
  | cancelAiChatTask => exact ⟨⟨rfl, rfl⟩, fun _ => id⟩
  | serve i failure =>
    simp only [AgentTask.step, AgentTask.serve]
    cases hq : requests[i]? with
    | none => exact ⟨⟨rfl, rfl⟩, fun _ => id⟩
    | some q =>
      refine ⟨?_, fun _ => id⟩
      rcases ((hs.requests q (List.mem_of_getElem? hq)).step (failure.map PyError.exception)
        world).2 with hworld | ⟨label, -, -, hrt⟩
      · simp only [hworld]
        exact ⟨rfl, rfl⟩
      · simp only [hrt]
        split
        · exact (TaskRuntime.sameTasks_cancel ..).numbers
        · exact ⟨rfl, rfl⟩
  | requestApproval summary => cases worker <;> exact ⟨⟨rfl, rfl⟩, fun _ => id⟩
  | resumeTask decision instruction =>
    simp only [AgentTask.step, AgentTask.resumeTask]
    split
    · rename_i done rt hrt
      exact ⟨(TaskRuntime.sameTasks_resume hrt).numbers, fun _ => id⟩
    · exact ⟨⟨rfl, rfl⟩, fun _ => id⟩
  | syncJob failures =>
    have hruntime : (AgentTask.sync tools (order.agentPayload query) order.jobId
        ⟨world, worker, requests⟩ failures).world.runtime = world.runtime :=
      (hs.sync hne failures).2
    exact ⟨⟨congrArg TaskRuntime.tasks hruntime, congrArg TaskRuntime.nextTask hruntime⟩,
      fun _ => id⟩

end AgentTask

/-! ### Beside the other tasks -/

namespace JobSystem

variable {order : JobOrder} {query : String} {s : JobSystem} {tools : ResultTools}

/-- The asyncio task of the job belongs to no other task. -/
structure Apart (order : JobOrder) (s : JobSystem) (h : ℕ) : Prop where
  lt : h < s.task.world.runtime.nextTask
  tasks : ∀ t ≠ order.taskId, s.task.world.runtime.tasks t ≠ some h
  unfinished : ∀ e ∈ s.unfinished, e.2 ≠ h

/-- The invariant of the system. -/
structure Inv (order : JobOrder) (s : JobSystem) : Prop where
  task : s.task.JobInv order
  numbered : Numbered s.task.world.runtime s.unfinished
  apart : ∀ h, s.task.worker.handle? = some h → s.Apart order h

/-- Where no asyncio task is created, the numbers stay right. -/
lemma Inv.of_numbers (hs : s.Inv order) {task : AgentTask} {suspended : List Suspension}
    {unfinished : List (String × ℕ)} (htask : task.JobInv order)
    (hsame : TaskRuntime.SameNumbers s.task.world.runtime task.world.runtime)
    (hhandle : ∀ h, task.worker.handle? = some h → s.task.worker.handle? = some h)
    (hsub : ∀ e ∈ unfinished, e ∈ s.unfinished) : Inv order ⟨task, suspended, unfinished⟩ := by
  refine ⟨htask, ⟨fun t h ht => ?_, fun e he => ?_⟩, fun h hh => ?_⟩
  · rw [hsame.nextTask]
    exact hs.numbered.tasks t h (hsame.tasks ▸ ht)
  · rw [hsame.nextTask]
    exact hs.numbered.unfinished e (hsub e he)
  · have hapart := hs.apart h (hhandle h hh)
    refine ⟨hsame.nextTask ▸ hapart.lt, fun t ht => ?_, fun e he =>
      hapart.unfinished e (hsub e he)⟩
    show task.world.runtime.tasks t ≠ some h
    rw [hsame.tasks]
    exact hapart.tasks t ht

/-- The start of the worker does nothing, ends it, or gives the task the next number. -/
lemma start_cases (payload : AgentPayload) (world : World) (worker : Worker)
    (requests : List (Service CancelAnswer)) :
    AgentTask.start payload ⟨world, worker, requests⟩ =
        ⟨world, worker, requests⟩ ∨
      AgentTask.start payload ⟨world, worker, requests⟩ =
        ⟨world, .closed, requests⟩ ∨
      ∃ rt, AgentTask.start payload ⟨world, worker, requests⟩ =
          ⟨{ world with runtime := rt }, .awaiting world.runtime.nextTask, requests⟩ ∧
        rt.tasks = Function.update world.runtime.tasks payload.taskId
          (some world.runtime.nextTask) ∧ rt.nextTask = world.runtime.nextTask + 1 := by
  cases worker with
  | queued =>
    unfold AgentTask.start
    simp only
    split
    · exact .inr (.inl rfl)
    · split
      · exact .inr (.inl rfl)
      · rename_i h rt hrt
        obtain ⟨-, rfl, rfl⟩ := TaskRuntime.startTask_ok hrt
        exact .inr (.inr ⟨_, rfl, rfl, rfl⟩)
  | awaiting | writing | ended | closed => exact .inl rfl

/-- The start of the worker takes a number that is new. -/
lemma Inv.start (hs : s.Inv order) (hdistinct : order.taskId ≠ order.conversationId) :
    Inv order { s with task := s.task.start (order.agentPayload query) } := by
  have htask : (s.task.start (order.agentPayload query)).JobInv order :=
    hs.task.start hdistinct
  obtain ⟨⟨world, worker, requests⟩, suspended, unfinished⟩ := s
  rcases start_cases (order.agentPayload query) world worker requests with
    heq | heq | ⟨rt, heq, htasks, hnext⟩
  · rw [heq] at htask ⊢
    exact hs
  · rw [heq] at htask ⊢
    exact hs.of_numbers htask ⟨rfl, rfl⟩ nofun fun _ => id
  · rw [heq] at htask ⊢
    replace htasks : rt.tasks = Function.update world.runtime.tasks order.taskId
      (some world.runtime.nextTask) := htasks
    refine ⟨htask, ⟨fun t h ht => ?_, fun e he => ?_⟩, fun h hh => ?_⟩
    · have ht' : Function.update world.runtime.tasks order.taskId (some world.runtime.nextTask) t =
          some h := htasks ▸ ht
      show h < rt.nextTask
      rw [hnext]
      by_cases hto : t = order.taskId
      · subst hto
        rw [Function.update_self] at ht'
        cases ht'
        exact Nat.lt_succ_self _
      · rw [Function.update_of_ne hto] at ht'
        exact Nat.lt_succ_of_lt (hs.numbered.tasks t h ht')
    · show e.2 < rt.nextTask
      rw [hnext]
      exact Nat.lt_succ_of_lt (hs.numbered.unfinished e he)
    · cases hh
      refine ⟨?_, fun t ht => ?_, fun e he => (hs.numbered.unfinished e he).ne⟩
      · show world.runtime.nextTask < rt.nextTask
        rw [hnext]
        exact Nat.lt_succ_self _
      · show rt.tasks t ≠ _
        rw [htasks, Function.update_of_ne ht]
        exact fun h => (hs.numbered.tasks t _ h).ne rfl

/-- Another task uses the runtime, but neither the task of the job nor its asyncio task. -/
lemma Inv.withRuntime (hs : s.Inv order) {rt : TaskRuntime} {suspended : List Suspension}
    {unfinished : List (String × ℕ)}
    (haside : TaskRuntime.Aside order.taskId (s.task.worker.handle? = some ·)
      s.task.world.runtime rt)
    (hsame : TaskRuntime.SameNumbers s.task.world.runtime rt)
    (hsub : ∀ e ∈ unfinished, e ∈ s.unfinished) :
    Inv order ⟨s.task.withRuntime rt, suspended, unfinished⟩ :=
  hs.of_numbers (hs.task.aside ⟨rfl, rfl⟩ haside) hsame (fun _ => id) hsub

/-- A registration under another conversation leaves the entry of the task's id. -/
lemma setLatest_of_ne {rt : TaskRuntime} {conversationId threadId taskId : String}
    (h : conversationId ≠ taskId) :
    rt.setLatest conversationId threadId taskId = rt.conversationLatestTask taskId := by
  unfold TaskRuntime.setLatest
  split
  · rfl
  · exact Function.update_of_ne (Ne.symm h) ..

/-- The worker of another task takes a new number. -/
lemma Inv.otherStart (hs : s.Inv order) {t q : String} {metadata : Metadata}
    (hnames : ¬(Call.start t q metadata).Names order.taskId) {h : ℕ} {rt : TaskRuntime}
    (hrt : s.task.world.runtime.startTask t q metadata = .ok (h, rt)) :
    Inv order ⟨s.task.withRuntime rt, s.suspended, (t, h) :: s.unfinished⟩ := by
  obtain ⟨ht, hconversation⟩ := not_or.1 hnames
  obtain ⟨-, rfl, rfl⟩ := TaskRuntime.startTask_ok hrt
  have hne : ∀ g, s.task.worker.handle? = some g → g ≠ s.task.world.runtime.nextTask :=
    fun g hg => (hs.apart g hg).lt.ne
  refine ⟨hs.task.aside ⟨rfl, rfl⟩ ?_, ⟨fun t' g hg => ?_, fun e he => ?_⟩, fun g hg => ?_⟩
  · refine ⟨Function.update_of_ne (Ne.symm ht) .., Function.update_of_ne (Ne.symm ht) ..,
      setLatest_of_ne hconversation, fun g hg => ?_⟩
    exact Function.update_of_ne (hne g hg) ..
  · by_cases hto : t' = t
    · subst hto
      have heq := (Function.update_self ..).symm.trans hg
      cases heq
      exact Nat.lt_succ_self _
    · exact Nat.lt_succ_of_lt
        (hs.numbered.tasks t' g ((Function.update_of_ne hto ..).symm.trans hg))
  · rcases List.mem_cons.1 he with rfl | he
    · exact Nat.lt_succ_self _
    · exact Nat.lt_succ_of_lt (hs.numbered.unfinished e he)
  · have hapart := hs.apart g hg
    refine ⟨Nat.lt_succ_of_lt hapart.lt, fun t' ht' heq => ?_, fun e he => ?_⟩
    · by_cases hto : t' = t
      · subst hto
        have hnew := (Function.update_self ..).symm.trans heq
        cases hnew
        exact hne _ hg rfl
      · exact hapart.tasks t' ht' ((Function.update_of_ne hto ..).symm.trans heq)
    · rcases List.mem_cons.1 he with rfl | he
      · exact (hne g hg).symm
      · exact hapart.unfinished e he

/-- A cancellation of another task. -/
lemma aside_cancel_of_ne {rt : TaskRuntime} {t taskId : String} {P : ℕ → Prop} (ht : t ≠ taskId)
    (hP : ∀ h, P h → rt.tasks t ≠ some h) : TaskRuntime.Aside taskId P rt (rt.cancel t).2 := by
  have habort : TaskRuntime.Aside taskId P rt (rt.abortInterrupt t) :=
    TaskRuntime.aside_abortInterrupt t
  have hmodify : ∀ f, TaskRuntime.Aside taskId P rt ((rt.abortInterrupt t).modifyState t f) :=
    fun f => ⟨(Function.update_of_ne (Ne.symm ht) ..).trans habort.states, habort.tasks,
      habort.latest, habort.asyncTask⟩
  rcases rt.cancel_cases t with ⟨g, -, hg, hc⟩ | ⟨-, -, hc⟩ | ⟨-, -, hc⟩
  · rw [hc]
    have hcancelling := hmodify ({ · with status := .cancelling })
    refine ⟨hcancelling.states, hcancelling.tasks, hcancelling.latest, fun h hh => ?_⟩
    have hne : h ≠ g := fun heq => hP h hh (heq ▸ hg)
    exact (Function.update_of_ne hne ..).trans (hcancelling.asyncTask h hh)
  · rw [hc]
    exact hmodify _
  · rw [hc]
    exact habort

/-- An answer for another task. -/
lemma aside_resume_of_ne {rt rt' : TaskRuntime} {t taskId decision instruction : String}
    {P : ℕ → Prop} {done : Bool} (ht : t ≠ taskId)
    (h : rt.resume t decision instruction = .ok (done, rt')) :
    TaskRuntime.Aside taskId P rt rt' := by
  rcases rt.resume_cases t decision instruction with
    ⟨e, he⟩ | ⟨-, he⟩ | ⟨d, f, state, -, -, -, -, -, he⟩
  · cases he.symm.trans h
  · cases he.symm.trans h
    exact ⟨rfl, rfl, rfl, fun _ _ => rfl⟩
  · cases he.symm.trans h
    exact ⟨Function.update_of_ne (Ne.symm ht) .., rfl, rfl, fun _ _ => rfl⟩

/-- The other tasks keep the invariant, as long as they do not use the id of the task. -/
lemma Inv.other (hs : s.Inv order) {call : Call} (hnames : ¬call.Names order.taskId) :
    (s.other call).Inv order := by
  cases call with
  | enqueue t q metadata =>
    obtain ⟨ht, hconversation⟩ := not_or.1 hnames
    simp only [JobSystem.other, Process.step]
    split
    · rename_i rt hrt
      obtain ⟨-, rfl⟩ := TaskRuntime.enqueue_ok hrt
      exact hs.withRuntime ⟨Function.update_of_ne (Ne.symm ht) .., rfl,
        setLatest_of_ne hconversation, fun _ _ => rfl⟩ ⟨rfl, rfl⟩ fun _ => id
    · exact hs
  | start t q metadata =>
    simp only [JobSystem.other, Process.step]
    split
    · rename_i h rt hrt
      exact hs.otherStart hnames hrt
    · exact hs
  | complete g o =>
    simp only [JobSystem.other, Process.step]
    split
    · rename_i hcomplete
      refine hs.withRuntime ⟨rfl, rfl, rfl, fun h hh => ?_⟩ ⟨rfl, rfl⟩ fun _ => id
      -- the asyncio tasks that the others wait for have other numbers
      refine Function.update_of_ne (fun heq => ?_) ..
      obtain ⟨e, he, rfl⟩ := List.mem_map.1 hcomplete.1
      exact (hs.apart h hh).unfinished e he heq.symm
    · exact hs
  | finish t g =>
    simp only [JobSystem.other, Process.step]
    split
    · refine hs.withRuntime ?_ (TaskRuntime.sameTasks_finish ..).numbers fun e he =>
        List.mem_of_mem_erase he
      unfold TaskRuntime.finish
      split
      · exact ⟨Function.update_of_ne (Ne.symm hnames) .., rfl, rfl, fun _ _ => rfl⟩
      · exact .refl ..
    · exact hs
  | cancel t =>
    exact hs.withRuntime (aside_cancel_of_ne hnames fun h hh => (hs.apart h hh).tasks t hnames)
      (TaskRuntime.sameTasks_cancel ..).numbers fun _ => id
  | interrupt t reason summary =>
    exact hs.withRuntime (TaskRuntime.aside_interrupt (Ne.symm hnames) ..) ⟨rfl, rfl⟩ fun _ => id
  | resume t decision instruction =>
    simp only [JobSystem.other, Process.step]
    split
    · rename_i done rt hrt
      exact hs.withRuntime (aside_resume_of_ne hnames hrt)
        (TaskRuntime.sameTasks_resume hrt).numbers fun _ => id
    · exact hs
  | abandon w =>
    simp only [JobSystem.other, Process.step]
    split
    · exact hs.withRuntime ⟨rfl, rfl, rfl, fun _ _ => rfl⟩ ⟨rfl, rfl⟩ fun _ => id
    · exact hs

end JobSystem

/-! ### Whole runs -/

namespace NewJob

variable (job : NewJob)

/-- What `create_agent_job` leaves. -/
lemma after_eq : ∃ rt,
    job.before.world.runtime.enqueue job.order.taskId job.query
      ⟨job.order.conversationId, job.order.identity⟩ = .ok rt ∧
    job.after.world = ⟨rt, { job.before.world.records with
      agentJobs := job.before.world.records.agentJobs ++ [job.order.row] }⟩ := by
  have hcreated := job.created
  simp only [createAgentJob, store, enqueueState, enqueuePayload, Script.bind_eq, Script.bind,
    Script.exec, job.known, JobOrder.agentPayload, id] at hcreated
  cases hrt : job.before.world.runtime.enqueue job.order.taskId job.query
      ⟨job.order.conversationId, job.order.identity⟩ with
  | error e =>
    rw [hrt] at hcreated
    cases hcreated
  | ok rt =>
    rw [hrt] at hcreated
    refine ⟨rt, rfl, ?_⟩
    exact congrArg Intake.world (Prod.mk.inj hcreated).2.symm

lemma jobInv_init : job.init.task.JobInv job.order := by
  obtain ⟨rt, hrt, hafter⟩ := job.after_eq
  obtain ⟨-, rfl⟩ := TaskRuntime.enqueue_ok hrt
  have hnone : ∀ row ∈ job.before.world.records.agentJobs,
      row.ofTask job.order.identity job.order.taskId = false ∧
        row.ofId job.order.identity job.order.jobId = false := by
    intro row hrow
    obtain ⟨hid, htask⟩ := job.newRow row hrow
    simp [AgentJob.ofTask, AgentJob.ofId, hid, htask]
  refine ⟨by simp [init], ?_⟩
  simp only [AgentTask.WorkerOk, init, hafter]
  refine ⟨⟨⟨job.order.row, ?_, ?_, rfl⟩, ?_, ?_⟩, job.newTask⟩
  · rw [Records.findJob, List.find?_append, List.find?_eq_none.2 fun row hrow => by
      simp [(hnone row hrow).1]]
    simp [JobOrder.row, AgentJob.ofTask]
  · rw [Records.jobById, List.find?_append, List.find?_eq_none.2 fun row hrow => by
      simp [(hnone row hrow).2]]
    simp [JobOrder.row, AgentJob.ofId]
  · simp only [TaskRuntime.setLatest]
    split
    · exact job.newConversation
    · rw [Function.update_of_ne job.distinct]
      exact job.newConversation
  · refine ⟨_, Function.update_self .., ?_, rfl⟩
    simp [TaskRuntime.queuedState, TaskState.matchesIdentity]

lemma inv_init : job.init.Inv job.order := by
  obtain ⟨rt, hrt, hafter⟩ := job.after_eq
  obtain ⟨-, rfl⟩ := TaskRuntime.enqueue_ok hrt
  refine ⟨job.jobInv_init, ⟨fun t h ht => ?_, fun e he => ?_⟩, nofun⟩
  · simp only [init, hafter] at ht ⊢
    exact job.numbered.tasks t h ht
  · simp only [init, hafter]
    exact job.numbered.unfinished e he

lemma inv_step {tools : ResultTools} {s : JobSystem} {a : JobAction} (hs : s.Inv job.order)
    (ha : s.Ending job.order a) : (job.step tools s a).Inv job.order := by
  cases a with
  | own a =>
    by_cases hstart : a = .startAgentTask
    · subst hstart
      exact hs.start job.distinct
    · obtain ⟨hnumbers, hhandle⟩ := hs.task.numbers tools job.query job.taskId_ne ha hstart
      exact hs.of_numbers (hs.task.step job.taskId_ne job.distinct ha) hnumbers hhandle fun _ => id
  | other call => exact hs.other ha
  | store f =>
    have htask := hs.task.aside (w := { s.task.world with records := f s.task.world.records }) ha
      (.refl ..)
    exact hs.of_numbers htask ⟨rfl, rfl⟩ (fun _ => id) fun _ => id

/-- In every run of a job beside other tasks in which nothing cancels it, nobody else uses the id of
its task, and the database does not refuse to fail it when it is completed already: whenever its
task has ended, one more lookup leaves a row that agrees with it. -/
theorem job_ends_with_task (tools : ResultTools) (as : List JobAction)
    (has : Along (job.step tools) (JobSystem.Ending job.order) job.init as) :
    ∀ bs, bs <+: as →
      (run (job.step tools) job.init bs).task.JobEnded tools job.order job.query := by
  rintro bs ⟨cs, rfl⟩
  have hinv := run_invariant (I := JobSystem.Inv job.order)
    (fun s a hs ha => job.inv_step hs ha) job.inv_init ((along_append _ _ _).1 has).1
  exact hinv.task.jobEnded job.taskId_ne

end NewJob

/-- A daily report that somebody orders. -/
def dailyReport : JobOrder where
  identity := ⟨"tenant_a", "alice", "shop_a"⟩
  agentId := "store-analyst"
  jobType := some "daily_report"
  title := none
  params := none
  paramsJson := "{}"
  resultReportId := none
  intent := "daily_report"
  conversationId := "c"
  taskId := "t"
  jobId := "j"

/-- It is the first job of all. -/
def firstJob : NewJob where
  order := dailyReport
  query := "请基于当前店铺昨日经营数据生成经营日报，包含 GMV、订单、转化率、客单价、退款率、异常波动和可执行建议。"
  before := ⟨⟨.empty, {}⟩, []⟩
  after := ((createAgentJob dailyReport).exec [] ⟨⟨.empty, {}⟩, []⟩).2
  known := by decide +kernel
  created := Prod.ext rfl rfl
  newRow := fun _ h => absurd h List.not_mem_nil
  newTask := rfl
  newConversation := rfl
  taskId_ne := by decide
  distinct := by decide
  suspended := []
  unfinished := []
  numbered := ⟨fun _ _ h => (nomatch h), fun _ h => absurd h List.not_mem_nil⟩

/-- Tools that find nothing. -/
def noTools : ResultTools where
  markdownSummary := id
  strategyCandidates := fun _ _ => []
  uuid := fun _ => "u"

/-- The agent answers, and the worker stores the answer; meanwhile another task of the conversation
is accepted. -/
def answeredRun : List JobAction :=
  [.own .startAgentTask, .other (.enqueue "t2" "q" ⟨"c", dailyReport.identity⟩),
    .own (.agentEnds (.ok ⟨"报告", .ok none⟩)), .own (.work none), .own (.work none),
    .own (.work none), .own (.work none), .own (.work none), .own (.work none), .own (.work none),
    .own (.work none), .own .finish]

theorem first_job_completes :
    (run (firstJob.step noTools) firstJob.init answeredRun).task.world.runtime.statusOf "t" =
      some .succeeded ∧
    (run (firstJob.step noTools) firstJob.init answeredRun).task.JobEnded noTools firstJob.order
      firstJob.query := by
  refine ⟨by decide +kernel, ?_⟩
  refine firstJob.job_ends_with_task noTools answeredRun ?_ answeredRun (List.prefix_refl _)
  have hwork : ∀ s : JobSystem, s.Ending firstJob.order (.own (.work none)) :=
    fun s => AgentTask.endingStep_of_worker _ s.task (.inr (.inl rfl))
  have hother : ¬(Call.enqueue "t2" "q" ⟨"c", dailyReport.identity⟩).Names "t" :=
    not_or.2 ⟨by decide, by decide⟩
  simp only [answeredRun, along_cons, along_nil, and_true]
  exact ⟨AgentTask.endingStep_of_worker _ _ (.inl rfl), hother,
    AgentTask.endingStep_of_answer _ _ _, hwork _, hwork _, hwork _, hwork _, hwork _, hwork _,
    hwork _, hwork _, AgentTask.endingStep_of_worker _ _ (.inr (.inr rfl))⟩

/-- The job is cancelled while it waits in the queue: its row is still running, and no lookup
changes it. -/
theorem cancelled_job_runs : ¬(run (firstJob.step noTools) firstJob.init
    [.own .cancelTask, .own .startAgentTask]).task.JobEnded noTools firstJob.order
      firstJob.query := by
  intro h
  have hstatus := h .cancelled .cancelled (by decide +kernel) rfl
  revert hstatus
  decide +kernel

end EcommerceAgent.Runtime
