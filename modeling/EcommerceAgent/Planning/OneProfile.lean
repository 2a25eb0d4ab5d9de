/-
# One profile for a task

The profile of a queued payload is derived in three places, by the queue for its limits, by
`start_agent_task` for the metadata and for the run of the agent, and a fourth time by the planner
for the plan in the payload.  Each looks at other keys and has other defaults; they agree exactly on
the payloads that determine their profile (`oneProfile_iff`), as those of the AI chat and of the
jobs do and those of `POST /api/task` do not.
-/
import EcommerceAgent.Lib.Hundredths
import EcommerceAgent.Planning.Queue

open EcommerceAgent.Lib EcommerceAgent.Runtime

namespace EcommerceAgent.Planning

variable {F : Type} [PyRuntime F]

/-! ### The derivations -/

/-- `normalize_runtime_profile` of any value. -/
def normalizeValue (v : PyValue F) : Except String Profile :=
  if v.truthy then
    match v with
    | .str s => .ok (normalizeRuntimeProfile s.toList)
    | _ => .error ("'" ++ v.typeName ++ "' object has no attribute 'strip'")
  else .ok .standard

section

variable (payload : Entries F)

/-- `payload.get("source") == "ai_chat"`. -/
def isAiChat : Bool :=
  match PyValue.get payload "source" with
  | .str s => s == "ai_chat"
  | _ => false

/-- `TaskQueue._profile_for_payload`. -/
def profileForPayload : Except String Profile :=
  normalizeValue ((PyValue.get payload "runtime_profile").or
    ((PyValue.get payload "profile").or
      (.str (if isAiChat payload then "realtime" else "standard"))))

/-- The `runtime_profile` that `start_agent_task` records. -/
def recordedProfile : Except String Profile :=
  normalizeValue ((PyValue.get payload "runtime_profile").or
    (.str (if isAiChat payload then "realtime" else "deep")))

/-- What `start_agent_task` passes to `run_agent_task`. -/
def passedProfile : Except String (PyValue F) := do
  let recorded ← recordedProfile payload
  if isAiChat payload then return .str recorded.name
  else return (PyValue.get payload "runtime_profile").or (.str "full")

/-- The profile of the run. -/
def executedProfile : Except String Profile := do normalizeValue (← passedProfile payload)

/-- The four profiles of a payload are the same. -/
structure OneProfile (profile : Profile) : Prop where
  queue : profileForPayload payload = .ok profile
  recorded : recordedProfile payload = .ok profile
  executed : executedProfile payload = .ok profile
  plan : ∀ p, taskPlanOverride (PyValue.get payload "task_plan") = .ok (some p) →
    p.profile = profile.name

/-- The key has a text that stands for the profile. -/
def Names (key : String) (profile : Profile) : Prop :=
  ∃ s, PyValue.get payload key = .str s ∧ s ≠ "" ∧ normalizeRuntimeProfile s.toList = profile

/-- The payload names its profile, or names nothing and comes from the AI chat, or names the
default of its source under the older key. -/
def Determines (profile : Profile) : Prop :=
  Names payload "runtime_profile" profile ∨
    ((PyValue.get payload "runtime_profile").truthy = false ∧
      profile = (if isAiChat payload then .realtime else .deep) ∧
      (Names payload "profile" profile ∨
        ((PyValue.get payload "profile").truthy = false ∧ isAiChat payload = true)))

end

/-! ### When they agree -/

variable {payload : Entries F} {profile : Profile}

lemma normalizeValue_or (v w : PyValue F) :
    normalizeValue (v.or w) = if v.truthy then normalizeValue v else normalizeValue w := by
  rw [PyValue.or]
  split_ifs <;> rfl

lemma normalizeValue_str (s : String) :
    normalizeValue (.str s : PyValue F) = .ok (normalizeRuntimeProfile s.toList) := by
  by_cases hs : s = ""
  · subst hs
    rfl
  · rw [normalizeValue, if_pos (by simpa [PyValue.truthy] using hs)]

/-- Of the values that count as true only texts are normalised. -/
lemma normalizeValue_eq_ok_iff {v : PyValue F} (hv : v.truthy = true) :
    normalizeValue v = .ok profile ↔
      ∃ s, v = .str s ∧ s ≠ "" ∧ normalizeRuntimeProfile s.toList = profile := by
  constructor
  · intro h
    unfold normalizeValue at h
    rw [if_pos hv] at h
    cases v with
    | str s =>
      exact ⟨s, rfl, by simpa [PyValue.truthy] using hv, Except.ok.inj h⟩
    | _ => cases h
  · rintro ⟨s, rfl, -, h⟩
    rw [normalizeValue_str, h]

lemma names_of_truthy {key : String} (h : (PyValue.get payload key).truthy = true) :
    normalizeValue (PyValue.get payload key) = .ok profile ↔ Names payload key profile :=
  normalizeValue_eq_ok_iff h

lemma Names.truthy {key : String} (h : Names payload key profile) :
    (PyValue.get payload key).truthy = true := by
  obtain ⟨s, hs, hne, -⟩ := h
  rw [hs]
  simpa [PyValue.truthy] using hne

/-- The run has the recorded profile. -/
lemma executedProfile_eq (payload : Entries F) :
    executedProfile payload = recordedProfile payload := by
  rw [executedProfile, passedProfile]
  cases hrecorded : recordedProfile payload with
  | error e => rfl
  | ok recorded =>
    simp only [ok_bind]
    cases hchat : isAiChat payload with
    | true =>
      simp only [if_true]
      show normalizeValue (.str recorded.name) = _
      rw [normalizeValue_str, normalizeRuntimeProfile_name]
    | false =>
      simp only [Bool.false_eq_true, if_false]
      show normalizeValue ((PyValue.get payload "runtime_profile").or (.str "full")) = _
      rw [recordedProfile, hchat, normalizeValue_or, normalizeValue_str] at hrecorded
      rw [normalizeValue_or, normalizeValue_str, ← hrecorded]
      have hfull : normalizeRuntimeProfile "full".toList =
          normalizeRuntimeProfile "deep".toList := by decide +kernel
      simp only [Bool.false_eq_true, if_false, hfull]

/-- Queue and metadata agree exactly where the payload determines its profile. -/
lemma determines_iff : profileForPayload payload = .ok profile ∧
    recordedProfile payload = .ok profile ↔ Determines payload profile := by
  simp only [profileForPayload, recordedProfile, normalizeValue_or]
  cases hruntime : (PyValue.get payload "runtime_profile").truthy with
  | true =>
    simp only [if_true, and_self, names_of_truthy hruntime, Determines, hruntime,
      Bool.true_eq_false, false_and, or_false]
  | false =>
    have hnames : ¬Names payload "runtime_profile" profile := fun h => by
      rw [h.truthy] at hruntime
      cases hruntime
    have hdefault : normalizeValue (.str (if isAiChat payload then "realtime" else "deep") :
        PyValue F) = .ok (if isAiChat payload then .realtime else .deep) := by
      rw [normalizeValue_str]
      cases isAiChat payload <;> decide +kernel
    simp only [Bool.false_eq_true, if_false, Determines, hnames, hruntime, true_and, false_or,
      hdefault, Except.ok.injEq]
    rw [and_comm, eq_comm (a := profile)]
    refine and_congr_right fun hprofile => ?_
    cases hkey : (PyValue.get payload "profile").truthy with
    | true => simp [names_of_truthy hkey]
    | false =>
      have hnames' : ¬Names payload "profile" profile := fun h => by
        rw [h.truthy] at hkey
        cases hkey
      simp only [Bool.false_eq_true, if_false, hnames', false_or, true_and, normalizeValue_str,
        Except.ok.injEq]
      cases hchat : isAiChat payload with
      | true =>
        simp only [hchat, if_true] at hprofile ⊢
        exact iff_of_true (hprofile ▸ by decide +kernel) trivial
      | false =>
        simp only [hchat, Bool.false_eq_true, if_false] at hprofile ⊢
        refine iff_of_false (fun h => ?_) id
        rw [← hprofile] at h
        revert h
        decide +kernel

/-- A payload has a profile exactly when it determines it and its plan is made for it. -/
lemma oneProfile_iff : OneProfile payload profile ↔ Determines payload profile ∧
    ∀ p, taskPlanOverride (PyValue.get payload "task_plan") = .ok (some p) →
      p.profile = profile.name := by
  constructor
  · intro h
    exact ⟨determines_iff.mp ⟨h.queue, h.recorded⟩, h.plan⟩
  · rintro ⟨hdetermines, hplan⟩
    obtain ⟨hqueue, hrecorded⟩ := determines_iff.mpr hdetermines
    exact ⟨hqueue, hrecorded, (executedProfile_eq payload).trans hrecorded, hplan⟩

/-- The four profiles of a payload are the same exactly when it determines its profile and its plan
has this profile. -/
theorem exists_oneProfile_iff (payload : Entries F) : (∃ profile, OneProfile payload profile) ↔
    ∃ profile, Determines payload profile ∧
      ∀ p, taskPlanOverride (PyValue.get payload "task_plan") = .ok (some p) →
        p.profile = profile.name :=
  exists_congr fun _ => oneProfile_iff

/-! ### What is enqueued -/

/-- What every payload carries. -/
structure Accepted where
  query : String
  conversationId : String
  taskId : String
  tenantId : String
  userId : String
  shopId : String

/-- The entries of what every payload carries. -/
def Accepted.entries (a : Accepted) : List (String × PyValue F) :=
  [("query", .str a.query), ("conversation_id", .str a.conversationId),
    ("thread_id", .str a.conversationId), ("task_id", .str a.taskId),
    ("tenant_id", .str a.tenantId), ("user_id", .str a.userId), ("shop_id", .str a.shopId)]

/-- What `POST /api/task` enqueues. -/
def runTaskPayload (a : Accepted) : Entries F := PyValue.entriesOf a.entries

/-- `_runtime_profile_for_chat`. -/
def runtimeProfileForChat (request : Entries F) (p : AgentTaskPlan F) : Profile :=
  let requested := Text.lower (Text.strip ((PyValue.get request "runtimeProfile").or
    ((PyValue.get request "runtime_profile").or (.str ""))).text.toList)
  match [Profile.realtime, .standard, .deep].find? (fun known => known.name.toList = requested) with
  | some known => known
  | none =>
    if p.requiresClarification || p.boundary then
      if p.boundary && p.fallbackReason == "realtime_profile_not_supported" then .standard
      else .realtime
    else if p.assignments.isEmpty then .realtime else .standard

/-- The profile and the plan of a message. -/
def chatPlan (request : Entries F) (content : String) :
    Except String (Profile × AgentTaskPlan F) := do
  let acceptance ← plan content .realtime .empty "rule_based_agent_fallback"
  let profile := runtimeProfileForChat request acceptance
  if profile = .realtime then return (profile, acceptance)
  else return (profile, ← plan content profile .empty "rule_based_agent_fallback")

/-- What `POST /ai-chat/messages` enqueues. -/
def chatPayload (a : Accepted) (messageId content modelProfile : String) (targetSeconds : ℤ)
    (acceptedAt : F) (profile : Profile) (p : AgentTaskPlan F) : Entries F :=
  PyValue.entriesOf (a.entries ++
    [("source", .str "ai_chat"), ("message_id", .str messageId),
      ("intent", .str p.primaryTaskType), ("raw_user_question", .str content),
      ("task_plan", p.toDict), ("agent_query", .str a.query),
      ("runtime_profile", .str profile.name), ("model_profile", .str modelProfile),
      ("target_seconds", .int targetSeconds), ("accepted_at", .float acceptedAt)])

/-- The job types that run in the deep profile. -/
def deepJobTypes : List String :=
  ["weekly_report", "monthly_report", "management_report", "strategy_diagnosis",
    "cross_platform_attribution"]

/-- The `runtime_profile` of a job. -/
def jobRuntimeProfile (request : Entries F) (jobType : Option String) : String :=
  ((PyValue.get request "runtimeProfile").or ((PyValue.get request "runtime_profile").or
    (.str (if deepJobTypes.contains (jobType.getD "") then "deep" else "standard")))).text

/-- What `create_agent_job` enqueues, for itself and for `generate_report`. -/
def jobPayload (a : Accepted) (runtimeProfile : String) (jobType : Option String)
    (p : AgentTaskPlan F) : Entries F :=
  PyValue.entriesOf (a.entries ++
    [("runtime_profile", .str runtimeProfile),
      ("job_type", match jobType with | some s => .str s | none => .none),
      ("source", .str "agent_job"), ("intent", .str p.primaryTaskType), ("task_plan", p.toDict)])

/-- The worker decodes the plan with its profile. -/
lemma profile_of_taskPlanOverride {p q : AgentTaskPlan F} (hp : p.Decoded)
    (h : taskPlanOverride p.toDict = .ok (some q)) : q.profile = p.profile := by
  have hdecode : taskPlanOverride p.toDict = .ok (some (p.settle p)) := by
    have hfields := AgentTaskPlan.fromDict_fieldsOf hp p
    show (AgentTaskPlan.fromDict (PyValue.entriesOf (p.fieldsOf p)) >>= fun q => .ok (some q)) = _
    rw [hfields]
    rfl
  rw [hdecode] at h
  rw [← Option.some.inj (Except.ok.inj h)]
  rfl

/-- A payload that names its profile and carries a plan for it has one profile. -/
lemma oneProfile_of_named {p : AgentTaskPlan F} (hnames : Names payload "runtime_profile" profile)
    (hplan : PyValue.get payload "task_plan" = p.toDict) (hp : p.Decoded)
    (hprofile : p.profile = profile.name) : ∃ profile, OneProfile payload profile := by
  refine ⟨profile, oneProfile_iff.mpr ⟨.inl hnames, fun q hq => ?_⟩⟩
  rw [hplan] at hq
  rw [profile_of_taskPlanOverride hp hq, hprofile]

/-- Every message of the AI chat is accepted with one profile. -/
theorem oneProfile_chat (a : Accepted) (messageId content modelProfile : String)
    (targetSeconds : ℤ) (acceptedAt : F) (request : Entries F) :
    ∃ accepted : Profile × AgentTaskPlan F, chatPlan request content = .ok accepted ∧
      ∃ profile, OneProfile (chatPayload a messageId content modelProfile targetSeconds acceptedAt
        accepted.1 accepted.2) profile := by
  have hplan : ∃ accepted : Profile × AgentTaskPlan F, chatPlan request content = .ok accepted ∧
      accepted.2.Settled ∧ accepted.2.profile = accepted.1.name := by
    obtain ⟨p, hp, hsettled, hprofile, -⟩ := fallbackPlan_ok content .realtime (.empty : PyDict F)
      "rule_based_agent_fallback"
    by_cases hrealtime : runtimeProfileForChat request p = .realtime
    · refine ⟨(.realtime, p), ?_, hsettled, hprofile⟩
      simp only [chatPlan, plan, hp, ok_bind, hrealtime, if_true]
      rfl
    · obtain ⟨q, hq, hsettled', hprofile', -⟩ := fallbackPlan_ok content
        (runtimeProfileForChat request p) (.empty : PyDict F) "rule_based_agent_fallback"
      refine ⟨(runtimeProfileForChat request p, q), ?_, hsettled', hprofile'⟩
      simp only [chatPlan, plan, hp, ok_bind, hrealtime, if_false, hq]
      rfl
  obtain ⟨accepted, haccepted, hsettled, hprofile⟩ := hplan
  have hnames : Names (chatPayload a messageId content modelProfile targetSeconds acceptedAt
      accepted.1 accepted.2) "runtime_profile" accepted.1 := by
    refine ⟨accepted.1.name, ?_, Profile.name_ne _, normalizeRuntimeProfile_name _⟩
    simp [chatPayload, Accepted.entries, PyValue.get_entriesOf, List.lookup_cons]
  refine ⟨accepted, haccepted, oneProfile_of_named hnames ?_ hsettled.toDecoded hprofile⟩
  simp [chatPayload, Accepted.entries, PyValue.get_entriesOf, List.lookup_cons]

/-- Every job is accepted with one profile. -/
theorem oneProfile_job (a : Accepted) (request : Entries F) (jobType : Option String) :
    ∃ p : AgentTaskPlan F,
      taskPlanForJob jobType a.query (jobRuntimeProfile request jobType) = .ok p ∧
      ∃ profile, OneProfile (jobPayload a (jobRuntimeProfile request jobType) jobType p)
        profile := by
  obtain ⟨p, hp, hsettled, hprofile⟩ := settled_taskPlanForJob (F := F) jobType a.query
    (jobRuntimeProfile request jobType)
  have hne : jobRuntimeProfile request jobType ≠ "" := by
    refine PyValue.text_or_ne _ (PyValue.text_or_ne _ ?_)
    rw [PyValue.text_str]
    split_ifs <;> decide
  have hnames : Names (jobPayload a (jobRuntimeProfile request jobType) jobType p)
      "runtime_profile"
      (normalizeRuntimeProfile (jobRuntimeProfile request jobType).toList) := by
    refine ⟨jobRuntimeProfile request jobType, ?_, hne, rfl⟩
    simp [jobPayload, Accepted.entries, PyValue.get_entriesOf, List.lookup_cons]
  refine ⟨p, hp, oneProfile_of_named hnames ?_ hsettled.toDecoded hprofile⟩
  simp [jobPayload, Accepted.entries, PyValue.get_entriesOf, List.lookup_cons]

/-- What `POST /api/task` accepts is limited as a standard task and run as a deep one. -/
theorem profiles_runTask (a : Accepted) :
    profileForPayload (runTaskPayload a : Entries F) = .ok .standard ∧
      executedProfile (runTaskPayload a : Entries F) = .ok .deep := by
  have hnone : ∀ key ∈ ["runtime_profile", "profile", "source"],
      PyValue.get (runTaskPayload a : Entries F) key = .none := by
    intro key hkey
    simp only [List.mem_cons, List.not_mem_nil, or_false] at hkey
    rcases hkey with rfl | rfl | rfl <;>
      simp [runTaskPayload, Accepted.entries, PyValue.get_entriesOf, List.lookup_cons]
  have hchat : isAiChat (runTaskPayload a : Entries F) = false := by
    rw [isAiChat, hnone _ (by decide)]
  rw [executedProfile_eq, profileForPayload, recordedProfile, hchat, hnone _ (by decide),
    hnone "profile" (by decide), PyValue.none_or, PyValue.none_or, PyValue.none_or,
    normalizeValue_str, normalizeValue_str]
  decide +kernel

/-- A task of `POST /api/task` has two profiles. -/
theorem not_oneProfile_runTask : ¬∃ profile, OneProfile
    (runTaskPayload ⟨"分析库存风险", "c", "t", "tenant_demo", "local_user", "default_shop"⟩ :
      Entries ℤ) profile := by
  rintro ⟨profile, h⟩
  have hprofiles := profiles_runTask (F := ℤ)
    ⟨"分析库存风险", "c", "t", "tenant_demo", "local_user", "default_shop"⟩
  have hstandard := hprofiles.1.symm.trans h.queue
  have hdeep := hprofiles.2.symm.trans h.executed
  cases hstandard
  cases hdeep

end EcommerceAgent.Planning
