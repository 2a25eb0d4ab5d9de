/-
# What the browser is told about a chat

The coroutine of a task pushes its answer or its error to the browser (`emit_assistant_final` and
`emit_agent_error` of `api/monitor.py`), between its statements on the database.  Whatever is
interleaved with it, and whichever of its statements the database refuses: the browser gets nothing,
the answer, an error, or the answer and then an error, and the last one only if a statement behind
the answer was refused; and how the asyncio task ends agrees with it (`chat_told`).
-/
import EcommerceAgent.Runtime.AgentTask

open EcommerceAgent.Lib

namespace EcommerceAgent.Runtime

/-! ### What is sent -/

namespace AgentPayload

variable (payload : AgentPayload)

/-- What `publishAnswer` sends. -/
def answer (content : String) : List ChatEvent :=
  if payload.aiChat then
    [.assistantFinal payload.taskId payload.conversationId payload.messageId content
      (aiChatResultSource payload.intent)]
  else []

/-- What `reportChatFailure` sends. -/
def failure (message : String) : List ChatEvent :=
  if payload.aiChat then
    [.agentError payload.taskId payload.conversationId payload.messageId message]
  else []

/-- What a task can have sent; both only if a statement was refused. -/
def Sent (refused : Prop) (sent : List ChatEvent) : Prop :=
  sent = [] ∨ (∃ content, sent = payload.answer content) ∨
    (∃ message, sent = payload.failure message) ∨
    (refused ∧ ∃ content message, sent = payload.answer content ++ payload.failure message)

end AgentPayload

/-- What has been sent agrees with the way in which the asyncio task ended. -/
def Outcome.Told (payload : AgentPayload) (refused : Prop) : Outcome → List ChatEvent → Prop
  | .returned content, sent => sent = payload.answer content
  | .cancelled, sent => sent = [] ∨ ∃ content, sent = payload.answer content
  | .raised message, sent =>
    sent = payload.failure message ∨ sent = payload.failure timeoutMessage ∨
      (refused ∧ payload.Sent refused sent)

/-- The same for the end of the coroutine. -/
def CoroutineTold (payload : AgentPayload) (refused : Prop) :
    Except PyError String → List ChatEvent → Prop
  | .ok content, sent => sent = payload.answer content
  | .error .cancelledError, sent => sent = []
  | .error (.timeoutError _), sent => sent = payload.failure timeoutMessage
  | .error (.exception message), sent =>
    sent = payload.failure message ∨ (refused ∧ payload.Sent refused sent)

variable {payload : AgentPayload} {refused : Prop} {sent : List ChatEvent}

lemma sent_nil : payload.Sent refused [] := .inl rfl

lemma sent_answer (content : String) : payload.Sent refused (payload.answer content) :=
  .inr (.inl ⟨content, rfl⟩)

lemma sent_failure (message : String) : payload.Sent refused (payload.failure message) :=
  .inr (.inr (.inl ⟨message, rfl⟩))

lemma sent_both (h : refused) (content message : String) :
    payload.Sent refused (payload.answer content ++ payload.failure message) :=
  .inr (.inr (.inr ⟨h, content, message, rfl⟩))

lemma CoroutineTold.shape {result : Except PyError String}
    (h : CoroutineTold payload refused result sent) : payload.Sent refused sent := by
  match result, h with
  | .ok content, h => exact h ▸ sent_answer content
  | .error .cancelledError, h => exact h ▸ sent_nil
  | .error (.timeoutError _), h => exact h ▸ sent_failure _
  | .error (.exception message), .inl h => exact h ▸ sent_failure message
  | .error (.exception _), .inr h => exact h.2

/-- A cancellation that comes after the answer makes a cancelled task of a finished one. -/
lemma CoroutineTold.told {result : Except PyError String}
    (h : CoroutineTold payload refused result sent) (rt : TaskRuntime) (handle : ℕ) :
    (rt.coroutineOutcome handle result).Told payload refused sent := by
  match result, h with
  | .ok content, h =>
    simp only [TaskRuntime.coroutineOutcome]
    by_cases hcancel : (rt.asyncTask handle).cancelRequested = true
    · rw [if_pos hcancel]
      exact .inr ⟨content, h⟩
    · rw [if_neg hcancel]
      exact h
  | .error .cancelledError, h => exact .inl h
  | .error (.timeoutError _), h => exact .inr (.inl h)
  | .error (.exception _), .inl h => exact .inl h
  | .error (.exception _), .inr h => exact .inr (.inr h)

lemma Outcome.Told.shape {o : Outcome} (h : o.Told payload refused sent) :
    payload.Sent refused sent := by
  match o, h with
  | .returned content, h => exact h ▸ sent_answer content
  | .cancelled, .inl h => exact h ▸ sent_nil
  | .cancelled, .inr ⟨content, h⟩ => exact h ▸ sent_answer content
  | .raised message, .inl h => exact h ▸ sent_failure message
  | .raised _, .inr (.inl h) => exact h ▸ sent_failure timeoutMessage
  | .raised _, .inr (.inr h) => exact h.2

/-! ### What others do -/

/-- Nothing is sent, and no asyncio task ends. -/
structure Quiet (w w' : World) : Prop where
  events : w'.records.events = w.records.events
  outcomes : w'.runtime.outcomeOf = w.runtime.outcomeOf

instance : Std.Refl Quiet := ⟨fun _ => ⟨rfl, rfl⟩⟩

instance : IsTrans World Quiet :=
  ⟨fun _ _ _ h h' => ⟨h'.events.trans h.events, h'.outcomes.trans h.outcomes⟩⟩

lemma effects_execute_quiet {statement : Statement} {f : Records → Records}
    (hf : ∀ r, (f r).events = r.events) : (execute statement f).Effects fun _ => Quiet :=
  ⟨fun w => ⟨hf w.records, rfl⟩, fun _ => trivial, fun _ => trivial⟩

lemma effects_fetch_quiet {α : Type} {statement : Statement} {q : Records → α} :
    (fetch statement q).Effects fun _ => Quiet :=
  ⟨fun _ => ⟨rfl, rfl⟩, fun _ => trivial, fun _ => trivial⟩

lemma effects_failChatRun_quiet (identity : Identity) (taskId message : String)
    (status : ChatStatus) :
    (failChatRun id identity taskId message status).Effects fun _ => Quiet := by
  unfold failChatRun
  refine Script.Effects.bind effects_fetch_quiet fun found => ?_
  cases found with
  | none => exact trivial
  | some row =>
    simp only [storeChatFailure, failChatMessage, Script.bind_eq]
    refine Script.Effects.bind (effects_execute_quiet ?_) fun _ => effects_execute_quiet ?_
    · exact fun _ => rfl
    · exact fun _ => rfl

lemma effects_cancelAiChatTask_quiet (identity : Identity) (taskId : String) :
    (cancelAiChatTask identity taskId).Effects fun _ => Quiet := by
  unfold cancelAiChatTask
  refine Script.Effects.bind effects_fetch_quiet fun found => ?_
  cases found with
  | none => exact trivial
  | some row =>
    simp only
    split
    · exact trivial
    · refine ⟨fun w => ⟨rfl, (w.runtime.sameTasks_cancel taskId).outcomes⟩, fun w => ?_⟩
      exact Script.Effects.bind (effects_failChatRun_quiet ..) fun _ => trivial

/-! ### The coroutine -/

/-- The statements of the coroutine that the database refuses raise an `Exception`. -/
def ChatMayFail (refused : Prop) (_ : Statement) (e : PyError) (_ : World) : Prop :=
  refused ∧ ∃ message, e = .exception message

/-- Behind the events `before`, the world has sent something of the right shape. -/
def SentSince (payload : AgentPayload) (refused : Prop) (before : List ChatEvent) (w : World) :
    Prop :=
  ∃ sent, w.records.events = before ++ sent ∧ payload.Sent refused sent

/-- What every statement of the coroutine leaves. -/
def ChatGuarantee (payload : AgentPayload) (refused : Prop) (before : List ChatEvent)
    (_ w' : World) : Prop := SentSince payload refused before w'

/-- How the coroutine ends. -/
def ChatEnds (payload : AgentPayload) (refused : Prop) (before : List ChatEvent)
    (result : Except PyError String) (w : World) : Prop :=
  ∃ sent, w.records.events = before ++ sent ∧ CoroutineTold payload refused result sent

/-- So much has been sent. -/
def Events (events : List ChatEvent) (w : World) : Prop := w.records.events = events

/-- `A` does not see an update of the tables that sends nothing. -/
structure Unsent (R G : World → World → Prop) (A : World → Prop) : Prop where
  stable : Stable R A
  idle : ∀ w, A w → G w w
  harmless : ∀ f : Records → Records, (∀ r, (f r).events = r.events) → Harmless G A f

section

variable {mayFail : Statement → PyError → World → Prop} {R G : World → World → Prop}
  {A : World → Prop} [Std.Refl R]

lemma keeps_completeChatRun (h : Unsent R G A) (identity : Identity) (taskId content : String)
    (source : AnswerSource) (json : Option String) :
    Keeps mayFail R G A (completeChatRun id identity taskId content source json) := by
  refine Keeps.bind (keeps_fetch h.stable h.idle) fun found => ?_
  cases found with
  | none => exact keeps_ret h.stable _
  | some row =>
    refine Keeps.bind (keeps_execute h.stable (h.harmless _ ?_)) fun _ =>
      keeps_execute h.stable (h.harmless _ ?_)
    · exact fun _ => rfl
    · exact fun _ => rfl

lemma keeps_failChatRun (h : Unsent R G A) (identity : Identity) (taskId message : String)
    (status : ChatStatus) :
    Keeps mayFail R G A (failChatRun id identity taskId message status) := by
  refine Keeps.bind (keeps_fetch h.stable h.idle) fun found => ?_
  cases found with
  | none => exact keeps_ret h.stable _
  | some row =>
    refine Keeps.bind (keeps_execute h.stable (h.harmless _ ?_)) fun _ =>
      keeps_execute h.stable (h.harmless _ ?_)
    · exact fun _ => rfl
    · exact fun _ => rfl

omit [Std.Refl R] in
lemma Unsent.saving (h : Unsent R G A) {f : Records → Records} (hf : Saving f) :
    Harmless G A f := by
  refine h.harmless f ?_
  cases hf <;> exact fun _ => rfl

/-- The result may refuse to become JSON only where any exception is one of the database. -/
lemma keeps_finalizeSuccess (h : Unsent R G A) (tools : ResultTools) (identity : Identity)
    (taskId : String) {finalResult : FinalResult}
    (hjson : ∀ message, finalResult.structuredResult = .error message →
      Refused mayFail (.exception message)) :
    Keeps mayFail R G A (finalizeAgentJobSuccess tools identity taskId finalResult) := by
  refine Keeps.bind (keeps_fetch h.stable h.idle) fun found => ?_
  cases found with
  | none => exact keeps_ret h.stable _
  | some row =>
    have hstructured : Keeps mayFail R G A (structuredJson finalResult) := by
      intro w hw
      refine Script.through_ofExcept fun w' hR => ⟨h.stable w w' hR hw, fun e he => ?_⟩
      cases hresult : finalResult.structuredResult with
      | error message =>
        rw [hresult] at he
        cases he
        exact hjson message hresult
      | ok json =>
        rw [hresult] at he
        cases he
    refine Keeps.bind hstructured fun _ => ?_
    refine Keeps.bind (keeps_execute h.stable (h.harmless _ ?_)) fun _ => ?_
    · exact fun _ => rfl
    · exact keeps_saveResult h.stable (fun _ => h.saving) h.idle _ _ _ _ _ _

lemma keeps_finalizeFailure (h : Unsent R G A) (identity : Identity) (taskId message : String) :
    Keeps mayFail R G A (finalizeAgentJobFailure identity taskId message) := by
  refine Keeps.bind (keeps_fetch h.stable h.idle) fun found => ?_
  cases found with
  | none => exact keeps_ret h.stable _
  | some row =>
    refine Keeps.bind (keeps_execute h.stable (h.harmless _ ?_)) fun _ => ?_
    · exact fun _ => rfl
    · exact keeps_saveFailure h.stable (fun _ => h.saving) _ _ _ _

/-- A lookup of the business job. -/
lemma keeps_sync (h : Unsent R G A) (hrefused : ∀ message, Refused mayFail (.exception message))
    (tools : ResultTools) (identity : Identity) (jobId : String) :
    Keeps mayFail R G A (syncAgentJobFromRuntime tools identity jobId) := by
  refine Keeps.bind (keeps_fetch h.stable h.idle) fun found => ?_
  cases found with
  | none => exact keeps_ret h.stable _
  | some row =>
    dsimp only
    cases truthy row.taskId with
    | none => exact keeps_ret h.stable _
    | some taskId =>
      dsimp only
      split
      · exact keeps_ret h.stable _
      · have hstate : Keeps mayFail R G A (.act .getScoped id fun w =>
            .ret (w.runtime.getScoped taskId identity) : Service (Option TaskState)) := by
          intro w hw w' hR
          have hw' := h.stable w w' hR hw
          exact ⟨h.idle w' hw', fun w'' hR' => ⟨h.stable w' w'' hR' hw', nofun⟩⟩
        refine Keeps.bind hstate fun state => ?_
        cases state with
        | none => exact keeps_ret h.stable _
        | some state =>
          dsimp only
          split
          · exact keeps_finalizeFailure h _ _ _
          · split
            · exact keeps_finalizeSuccess h _ _ _ fun message _ => hrefused message
            · exact keeps_ret h.stable _

end

/-- A lookup of the business job sends nothing. -/
lemma quiet_sync (tools : ResultTools) (identity : Identity) (jobId : String)
    (failures : List (Option PyError)) (w : World) :
    Quiet w ((syncAgentJobFromRuntime tools identity jobId).exec failures w).2 := by
  have hunsent : Unsent Quiet (fun _ _ => True) (Quiet w) :=
    { stable := fun _ _ hR hw => Trans.trans hw hR
      idle := fun _ _ => trivial
      harmless := fun f hf w' hw => ⟨⟨(hf w'.records).trans hw.events, hw.outcomes⟩, trivial⟩ }
  have hkeeps : Keeps (fun _ _ _ => True) Quiet (fun _ _ => True) (Quiet w)
      (syncAgentJobFromRuntime tools identity jobId) :=
    keeps_sync hunsent (fun _ => ⟨.syncJob, w, trivial⟩) _ _ _
  exact ((hkeeps w (refl w)).exec failures fun _ _ _ _ => trivial).1

section

variable {before : List ChatEvent} {events : List ChatEvent} {w : World}

lemma stable_events (events : List ChatEvent) : Stable Quiet (Events events) :=
  fun _ _ h hw => h.events.trans hw

variable (hsent : payload.Sent refused sent)

include hsent

lemma unsent_events :
    Unsent Quiet (ChatGuarantee payload refused before) (Events (before ++ sent)) where
  stable := stable_events _
  idle _ hw := ⟨sent, hw, hsent⟩
  harmless _ hf w hw := ⟨(hf w.records).trans hw, sent, (hf w.records).trans hw, hsent⟩

omit hsent in
lemma through_emit {event : ChatEvent} (hw : Events (before ++ sent) w)
    (hsent : payload.Sent refused (sent ++ [event])) :
    (emit event).Through (ChatMayFail refused) Quiet (ChatGuarantee payload refused before)
      (fun result w => result = .ok () ∧ Events (before ++ (sent ++ [event])) w) w := by
  intro w' hquiet
  have hemitted : Events (before ++ (sent ++ [event]))
      { w' with records := w'.records.emit event } := by
    simp only [Events, Records.emit, ← List.append_assoc]
    rw [stable_events _ w w' hquiet hw]
  exact ⟨⟨_, hemitted, hsent⟩, fun w'' hquiet' => ⟨rfl, stable_events _ _ _ hquiet' hemitted⟩⟩

/-- A report goes out, or the database has refused to store it. -/
lemma through_reportChatFailure {message : String} (status : ChatStatus)
    (hw : Events (before ++ sent) w)
    (hboth : payload.Sent refused (sent ++ payload.failure message)) :
    (reportChatFailure payload message status).Through (ChatMayFail refused) Quiet
      (ChatGuarantee payload refused before)
      (fun result w => match result with
        | .ok _ => Events (before ++ (sent ++ payload.failure message)) w
        | .error e => Events (before ++ sent) w ∧ Refused (ChatMayFail refused) e) w := by
  unfold reportChatFailure
  by_cases hchat : payload.aiChat = true
  · have hfailure : payload.failure message = [.agentError payload.taskId payload.conversationId
        payload.messageId message] := if_pos hchat
    rw [hfailure] at hboth ⊢
    rw [if_pos hchat]
    have hstored : Keeps (ChatMayFail refused) Quiet (ChatGuarantee payload refused before)
        (Events (before ++ sent)) (failChatRun id payload.identity payload.taskId message status) :=
      keeps_failChatRun (unsent_events hsent) _ _ _ _
    refine Script.through_bind ((hstored w hw).mono fun result w hresult => ?_)
    cases result with
    | ok _ =>
      refine (through_emit hresult.1 hboth).mono fun result w hsentNow => ?_
      rw [hsentNow.1]
      exact hsentNow.2
    | error e => exact ⟨hresult.1, hresult.2 e rfl⟩
  · have hfailure : payload.failure message = [] := if_neg hchat
    rw [hfailure, List.append_nil, if_neg hchat]
    exact through_ret (stable_events _) hw fun _ hw => hw

omit hsent in
/-- The answer goes out, or the database has refused to store it. -/
lemma through_publishAnswer (content : String) (json : Option String) (hw : Events before w) :
    (publishAnswer payload content json).Through (ChatMayFail refused) Quiet
      (ChatGuarantee payload refused before)
      (fun result w => match result with
        | .ok _ => Events (before ++ payload.answer content) w
        | .error e => Events before w ∧ Refused (ChatMayFail refused) e) w := by
  have hw : Events (before ++ []) w := by rwa [List.append_nil]
  unfold publishAnswer
  by_cases hchat : payload.aiChat = true
  · have hanswer : payload.answer content = [.assistantFinal payload.taskId
        payload.conversationId payload.messageId content (aiChatResultSource payload.intent)] :=
      if_pos hchat
    have hsent : payload.Sent refused ([] ++ payload.answer content) := sent_answer content
    rw [hanswer] at hsent ⊢
    rw [if_pos hchat]
    have hstored : Keeps (ChatMayFail refused) Quiet (ChatGuarantee payload refused before)
        (Events (before ++ [])) (completeChatRun id payload.identity payload.taskId content
          (aiChatResultSource payload.intent) json) :=
      keeps_completeChatRun (unsent_events sent_nil) _ _ _ _ _
    refine Script.through_bind ((hstored w hw).mono fun result w hresult => ?_)
    cases result with
    | ok _ =>
      refine (through_emit hresult.1 hsent).mono fun result w hsentNow => ?_
      rw [hsentNow.1]
      exact hsentNow.2
    | error e =>
      rw [List.append_nil] at hresult
      exact ⟨hresult.1, hresult.2 e rfl⟩
  · have hanswer : payload.answer content = [] := if_neg hchat
    rw [hanswer, if_neg hchat]
    refine through_ret (stable_events (before ++ [])) hw fun _ hw => ?_
    exact hw

end

/-- How the `try` ends: an error comes before the answer, or from the database behind it. -/
def StoreEnds (payload : AgentPayload) (refused : Prop) (before : List ChatEvent) :
    Except PyError String → World → Prop
  | .ok content, w => Events (before ++ payload.answer content) w
  | .error e, w => ∃ sent, Events (before ++ sent) w ∧
    (sent = [] ∨ refused ∧ (∃ message, e = .exception message) ∧
      ∃ content, sent = payload.answer content)

section

variable (tools : ResultTools) {before : List ChatEvent} {w : World}

lemma through_storeResult (agent : AgentResult) (hw : Events before w) :
    (storeResult tools payload agent).Through (ChatMayFail refused) Quiet
      (ChatGuarantee payload refused before) (StoreEnds payload refused before) w := by
  have hnothing : ∀ e w, Events before w → StoreEnds payload refused before (.error e) w :=
    fun e w hw => ⟨[], by rwa [List.append_nil], .inl rfl⟩
  unfold storeResult
  cases agent with
  | error e => exact fun w' hquiet => hnothing e w' (stable_events _ w w' hquiet hw)
  | ok finalResult =>
    cases hjson : finalResult.structuredResult with
    | error message =>
      have hstructured : structuredJson finalResult = .raise (.exception message) := by
        simp [structuredJson, hjson, Except.mapError, Script.ofExcept]
      simp only [Script.ofExcept, hstructured, Script.bind_eq, Script.ret_bind]
      exact fun w' hquiet => hnothing _ w' (stable_events _ w w' hquiet hw)
    | ok json =>
      have hstructured : structuredJson finalResult = .ret json := by
        simp [structuredJson, hjson, Except.mapError, Script.ofExcept]
      simp only [Script.ofExcept, hstructured, Script.bind_eq, Script.ret_bind]
      refine Script.through_bind ((through_publishAnswer finalResult.markdown json hw).mono
        fun result w hresult => ?_)
      cases result with
      | error e => exact hnothing e w hresult.1
      | ok _ =>
        have hfinalize : Keeps (ChatMayFail refused) Quiet (ChatGuarantee payload refused before)
            (Events (before ++ payload.answer finalResult.markdown))
            (finalizeAgentJobSuccess tools payload.identity payload.taskId finalResult) :=
          keeps_finalizeSuccess (unsent_events (sent_answer _)) _ _ _ fun message hno => by
            rw [hjson] at hno
            cases hno
        refine Script.through_bind ((hfinalize w hresult).mono fun result w hresult => ?_)
        cases result with
        | ok _ => exact through_ret (stable_events _) hresult.1 fun _ hw => hw
        | error e =>
          obtain ⟨_, _, hrefused, hexception⟩ := hresult.2 e rfl
          exact ⟨_, hresult.1, .inr ⟨hrefused, hexception, _, rfl⟩⟩

/-- The handlers of the coroutine. -/
lemma through_handleError_chat {e : PyError} (hw : StoreEnds payload refused before (.error e) w) :
    (handleError payload e).Through (ChatMayFail refused) Quiet
      (ChatGuarantee payload refused before) (ChatEnds payload refused before) w := by
  obtain ⟨sent, hw, hsent⟩ := hw
  have hshape : payload.Sent refused sent := by
    rcases hsent with rfl | ⟨-, -, content, rfl⟩
    · exact sent_nil
    · exact sent_answer content
  -- a statement of a handler is refused: its exception replaces the one that is handled
  have hreplaced : ∀ sent e w, payload.Sent refused sent → Events (before ++ sent) w →
      Refused (ChatMayFail refused) e → ChatEnds payload refused before (.error e) w := by
    rintro sent e w hsent hw ⟨_, _, hrefused, message, rfl⟩
    exact ⟨sent, hw, .inr ⟨hrefused, hsent⟩⟩
  have hnothing : (∀ message, e ≠ .exception message) → sent = [] := by
    intro hno
    rcases hsent with rfl | ⟨-, ⟨message, rfl⟩, -⟩
    · rfl
    · exact absurd rfl (hno message)
  cases e with
  | cancelledError =>
    obtain rfl := hnothing nofun
    exact fun w' hquiet => ⟨[], stable_events _ w w' hquiet hw, rfl⟩
  | timeoutError message =>
    obtain rfl := hnothing nofun
    refine Script.through_bind ((through_reportChatFailure sent_nil .timeout hw
      (sent_failure _)).mono fun result w hresult => ?_)
    cases result with
    | ok _ => exact fun w' hquiet => ⟨_, stable_events _ w w' hquiet hresult, rfl⟩
    | error e => exact hreplaced _ e w sent_nil hresult.1 hresult.2
  | exception message =>
    have hboth : sent ++ payload.failure message = payload.failure message ∨
        refused ∧ payload.Sent refused (sent ++ payload.failure message) := by
      rcases hsent with rfl | ⟨hrefused, -, content, rfl⟩
      · exact .inl rfl
      · exact .inr ⟨hrefused, sent_both hrefused content message⟩
    have hreported : payload.Sent refused (sent ++ payload.failure message) := by
      rcases hboth with h | h
      · rw [h]
        exact sent_failure message
      · exact h.2
    refine Script.through_bind ((through_reportChatFailure hshape .failed hw hreported).mono
      fun result w hresult => ?_)
    cases result with
    | error e => exact hreplaced _ e w hshape hresult.1 hresult.2
    | ok _ =>
      have hfinalize : Keeps (ChatMayFail refused) Quiet (ChatGuarantee payload refused before)
          (Events (before ++ (sent ++ payload.failure message)))
          (finalizeAgentJobFailure payload.identity payload.taskId message) :=
        keeps_finalizeFailure (unsent_events hreported) _ _ _
      refine Script.through_bind ((hfinalize w hresult).mono fun result w hresult => ?_)
      cases result with
      | error e => exact hreplaced _ e w hreported hresult.1 (hresult.2 e rfl)
      | ok _ => exact fun w' hquiet => ⟨_, stable_events _ w w' hquiet hresult.1, hboth⟩

lemma through_runAndFinalize_chat (agent : AgentResult) (hw : Events before w) :
    (runAndFinalize tools payload agent).Through (ChatMayFail refused) Quiet
      (ChatGuarantee payload refused before) (ChatEnds payload refused before) w := by
  refine Script.through_tryCatch ((through_storeResult tools agent hw).mono
    fun result w hresult => ?_)
  cases result with
  | ok content => exact ⟨payload.answer content, hresult, rfl⟩
  | error e => exact through_handleError_chat hresult

end

/-! ### The system -/

lemma SentSince.quiet {before : List ChatEvent} {w w' : World}
    (h : SentSince payload refused before w) (hw : Quiet w w') :
    SentSince payload refused before w' := by
  obtain ⟨sent, hevents, hsent⟩ := h
  exact ⟨sent, hw.events.trans hevents, hsent⟩

namespace AgentTask

/-- What has been sent since the events `before`, wherever the worker is. -/
def WorkerTold (payload : AgentPayload) (refused : Prop) (before : List ChatEvent)
    (s : AgentTask) : Prop :=
  match s.worker with
  | .queued => Events before s.world
  | .awaiting _ => Events before s.world
  | .writing _ rest => SentSince payload refused before s.world ∧
    rest.Through (ChatMayFail refused) Quiet (ChatGuarantee payload refused before)
      (ChatEnds payload refused before) s.world
  | .ended h => ∃ sent, Events (before ++ sent) s.world ∧
    ∃ o, s.world.runtime.outcomeOf h = some o ∧ o.Told payload refused sent
  | .closed => SentSince payload refused before s.world

/-- The invariant of a task in a chat. -/
structure ToldInv (payload : AgentPayload) (refused : Prop) (before : List ChatEvent)
    (s : AgentTask) : Prop where
  requests : ∀ q ∈ s.requests, q.Effects fun _ => Quiet
  worker : WorkerTold payload refused before s

variable {before : List ChatEvent} {tools : ResultTools} {jobId : String} {s : AgentTask}

/-- Steps of others leave the invariant alone. -/
lemma WorkerTold.quiet (h : WorkerTold payload refused before s) {w : World}
    (hw : Quiet s.world w) : WorkerTold payload refused before { s with world := w } := by
  unfold WorkerTold at h ⊢
  cases hworker : s.worker with
  | queued | awaiting =>
    simp only [hworker] at h ⊢
    exact stable_events _ _ _ hw h
  | writing g rest =>
    simp only [hworker] at h ⊢
    exact ⟨h.1.quiet hw, h.2.rely hw⟩
  | ended g =>
    simp only [hworker] at h ⊢
    obtain ⟨sent, hevents, o, ho, htold⟩ := h
    exact ⟨sent, stable_events _ _ _ hw hevents, o, (congrFun hw.outcomes g).trans ho, htold⟩
  | closed =>
    simp only [hworker] at h ⊢
    exact h.quiet hw

lemma WorkerTold.sentSince (h : WorkerTold payload refused before s) :
    SentSince payload refused before s.world := by
  have hnothing : Events before s.world → SentSince payload refused before s.world :=
    fun h => ⟨[], by rwa [List.append_nil], sent_nil⟩
  unfold WorkerTold at h
  split at h
  · exact hnothing h
  · exact hnothing h
  · exact h.1
  · obtain ⟨sent, hevents, o, -, htold⟩ := h
    exact ⟨sent, hevents, htold.shape⟩
  · exact h

/-! ### One step -/

/-- Somebody else takes a step. -/
lemma ToldInv.quiet (hs : s.ToldInv payload refused before) {w : World} (hw : Quiet s.world w) :
    ToldInv payload refused before { s with world := w } :=
  ⟨hs.requests, hs.worker.quiet hw⟩

lemma ToldInv.start (hs : s.ToldInv payload refused before) :
    (s.start payload).ToldInv payload refused before := by
  obtain ⟨world, worker, requests⟩ := s
  cases worker with
  | queued =>
    have hevents : Events before world := hs.worker
    have hnothing : SentSince payload refused before world :=
      ⟨[], by rwa [List.append_nil], sent_nil⟩
    simp only [AgentTask.start]
    split
    · exact ⟨hs.requests, hnothing⟩
    · split
      · exact ⟨hs.requests, hnothing⟩
      · exact ⟨hs.requests, hevents⟩
  | awaiting | writing | ended | closed => exact hs

lemma ToldInv.agentEnds (hs : s.ToldInv payload refused before) (result : AgentResult) :
    (s.agentEnds tools payload result).ToldInv payload refused before := by
  obtain ⟨world, worker, requests⟩ := s
  cases worker with
  | awaiting h =>
    have hevents : Events before world := hs.worker
    exact ⟨hs.requests, ⟨[], hevents.trans (List.append_nil _).symm, sent_nil⟩,
      through_runAndFinalize_chat tools result hevents⟩
  | queued | writing | ended | closed => exact hs

lemma ToldInv.work (hs : s.ToldInv payload refused before) {failure : Option String}
    (hfailure : failure ≠ none → refused) : (s.work failure).ToldInv payload refused before := by
  obtain ⟨world, worker, requests⟩ := s
  cases worker with
  | writing h rest =>
    obtain ⟨hsince, hrest⟩ := hs.worker
    cases hresult : rest.result? with
    | some result =>
      obtain ⟨sent, hevents, htold⟩ := hrest.result hresult
      simp only [AgentTask.work, hresult]
      refine ⟨hs.requests, sent, hevents, world.runtime.coroutineOutcome h result, ?_,
        htold.told world.runtime h⟩
      simp [withRuntime, TaskRuntime.endTask, TaskRuntime.outcomeOf]
    | none =>
      simp only [AgentTask.work, hresult]
      have hstep := hrest.step (failure.map .exception) ?_
      · refine ⟨hs.requests, ?_, hstep.1⟩
        rcases hstep.2 with hsame | hsent
        · rw [hsame]
          exact hsince
        · exact hsent
      · intro e i he hi
        obtain ⟨message, rfl, rfl⟩ := Option.map_eq_some_iff.1 he
        exact ⟨hfailure (Option.some_ne_none message), message, rfl⟩
  | queued | awaiting | ended | closed => exact hs

lemma ToldInv.finish (hs : s.ToldInv payload refused before) :
    (s.finish payload).ToldInv payload refused before := by
  obtain ⟨world, worker, requests⟩ := s
  cases worker with
  | ended h => exact ⟨hs.requests, hs.worker.sentSince⟩
  | queued | awaiting | writing | closed => exact hs

lemma ToldInv.serve (hs : s.ToldInv payload refused before) (i : ℕ) (failure : Option String) :
    (s.serve i failure).ToldInv payload refused before := by
  unfold AgentTask.serve
  cases hq : s.requests[i]? with
  | none => exact hs
  | some q =>
    obtain ⟨hnext, hworld⟩ := (hs.requests q (List.mem_of_getElem? hq)).step
      (failure.map PyError.exception) s.world
    have hquiet : Quiet s.world (q.step (failure.map PyError.exception) s.world).2 := by
      rcases hworld with hsame | ⟨-, -, hquiet⟩
      · rw [hsame]
        exact refl _
      · exact hquiet
    refine ⟨fun q' hq' => ?_, hs.worker.quiet hquiet⟩
    rcases List.mem_or_eq_of_mem_set hq' with h | rfl
    · exact hs.requests q' h
    · exact hnext

/-- Every step keeps the invariant. -/
lemma ToldInv.step (hs : s.ToldInv payload refused before) {a : TaskAction}
    (ha : ∀ message, a = .work (some message) → refused) :
    (s.step tools payload jobId a).ToldInv payload refused before := by
  have hruntime : ∀ rt : TaskRuntime, rt.outcomeOf = s.world.runtime.outcomeOf →
      (s.withRuntime rt).ToldInv payload refused before :=
    fun rt hrt => hs.quiet ⟨rfl, hrt⟩
  cases a with
  | startAgentTask => exact hs.start
  | agentEnds result => exact hs.agentEnds result
  | work failure =>
    refine hs.work fun hsome => ?_
    obtain ⟨message, rfl⟩ := Option.ne_none_iff_exists'.1 hsome
    exact ha message rfl
  | finish => exact hs.finish
  | cancelTask => exact hruntime _ (TaskRuntime.sameTasks_cancel ..).outcomes
  | cancelAiChatTask =>
    refine ⟨fun q hq => ?_, hs.worker⟩
    rcases List.mem_append.1 hq with hq | hq
    · exact hs.requests q hq
    · rw [List.mem_singleton.1 hq]
      exact effects_cancelAiChatTask_quiet ..
  | serve i failure => exact hs.serve i failure
  | requestApproval summary =>
    simp only [AgentTask.step, AgentTask.requestApproval]
    split
    · exact hs
    · exact hruntime _ rfl
  | resumeTask decision instruction =>
    simp only [AgentTask.step, AgentTask.resumeTask]
    split
    · rename_i done rt hrt
      exact hruntime _ (TaskRuntime.sameTasks_resume hrt).outcomes
    · exact hs
  | syncJob failures => exact hs.quiet (quiet_sync ..)

end AgentTask

/-! ### Whole runs -/

/-- Some statement of the coroutine is refused. -/
def Refuses (actions : List TaskAction) : Prop := ∃ message, .work (some message) ∈ actions

/-- In every run of a task: the browser has got nothing, the answer, an error, or both, and both
only if the database has refused a statement of the coroutine; and when the asyncio task ends, this
agrees with its outcome. -/
theorem chat_told (tools : ResultTools) (payload : AgentPayload) (jobId : String) (world : World)
    (actions : List TaskAction) :
    ∃ sent, (run (AgentTask.step tools payload jobId) ⟨world, .queued, []⟩
        actions).world.records.events = world.records.events ++ sent ∧
      payload.Sent (Refuses actions) sent ∧
      ∀ h, (run (AgentTask.step tools payload jobId) ⟨world, .queued, []⟩ actions).worker =
          .ended h →
        ∃ o, (run (AgentTask.step tools payload jobId) ⟨world, .queued, []⟩
            actions).world.runtime.outcomeOf h = some o ∧
          o.Told payload (Refuses actions) sent := by
  have hinv : (run (AgentTask.step tools payload jobId) ⟨world, .queued, []⟩ actions).ToldInv
      payload (Refuses actions) world.records.events := by
    have hstart : AgentTask.ToldInv payload (Refuses actions) world.records.events
        ⟨world, .queued, []⟩ := ⟨by simp, rfl⟩
    refine run_invariant (fun s a hs ha => hs.step ha) hstart
      (along_of_forall (P := fun a => ∀ message, a = .work (some message) → Refuses actions)
        _ fun a ha message h => ?_)
    exact ⟨message, h ▸ ha⟩
  generalize run (AgentTask.step tools payload jobId) ⟨world, .queued, []⟩ actions = s at hinv ⊢
  have hworker := hinv.worker
  unfold AgentTask.WorkerTold at hworker
  split at hworker
  next hq => exact ⟨[], hworker.trans (List.append_nil _).symm, sent_nil, by simp [hq]⟩
  next hq => exact ⟨[], hworker.trans (List.append_nil _).symm, sent_nil, by simp [hq]⟩
  next hq =>
    obtain ⟨sent, hevents, hsent⟩ := hworker.1
    exact ⟨sent, hevents, hsent, by simp [hq]⟩
  next h hq =>
    obtain ⟨sent, hevents, o, ho, htold⟩ := hworker
    refine ⟨sent, hevents, htold.shape, fun h' hh' => ⟨o, ?_, htold⟩⟩
    obtain rfl : h = h' := by
      rw [hq] at hh'
      injection hh'
    exact ho
  next hq =>
    obtain ⟨sent, hevents, hsent⟩ := hworker
    exact ⟨sent, hevents, hsent, by simp [hq]⟩

end EcommerceAgent.Runtime
