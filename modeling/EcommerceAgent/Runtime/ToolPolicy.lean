/-
# The tool policy

The ways to execute a registered tool: the guarded tools of `agent/tools/registry.py` (synchronous,
asynchronous, or in the sandbox) and `_call_native_tool` of `agent/subagent/tools.py`.  The first
check the permissions of the actor and the second the profile of the task, so they follow one
policy exactly for the tools, actors and profiles for which these checks agree (`policyHolds_iff`).
-/
import EcommerceAgent.Runtime.Profiles
import Mathlib.Data.List.Dedup

open EcommerceAgent.Lib

namespace EcommerceAgent.Runtime

/-! ### Registered tools -/

/-- `ToolSpec`, as far as its execution looks at it. -/
structure ToolSpec where
  name : String
  permissions : List String
  executionMode : String
  sandboxRequired : Bool
  allowedProfiles : List String
deriving DecidableEq

/-- The tool runs in the sandbox. -/
def ToolSpec.Sandboxed (spec : ToolSpec) : Prop :=
  spec.sandboxRequired = true ∨ spec.executionMode = "sandbox"

instance (spec : ToolSpec) : Decidable spec.Sandboxed :=
  inferInstanceAs (Decidable (_ ∨ spec.executionMode = "sandbox"))

/-- A `ToolRegistry`, as the list of the specifications in the order of their registration. -/
structure ToolRegistry where
  specs : List ToolSpec

/-- `_specs.get`: a later registration of the same name replaces the earlier one. -/
def ToolRegistry.getSpec (registry : ToolRegistry) (name : String) : Option ToolSpec :=
  registry.specs.reverse.find? fun spec => spec.name = name

/-! ### Permissions -/

/-- `PermissionDecision`. -/
structure PermissionDecision where
  allowed : Bool
  toolName : String
  actor : String
  requiredPermissions : List String
  grantedPermissions : List String
  missingPermissions : List String
  reason : String

/-- `sorted(set(required) - set(granted))`. -/
def missingPermissions (spec : ToolSpec) (granted : List String) : List String :=
  ((spec.permissions.filter (· ∉ granted)).dedup).mergeSort fun a b => a ≤ b

/-- `decide_tool_permission`; `enforced` is `permission_enforcement_enabled()`. -/
def decideToolPermission (enforced : Bool) (spec : ToolSpec) (granted : List String)
    (actor : String) : PermissionDecision :=
  let missing := missingPermissions spec granted
  let decision := PermissionDecision.mk true spec.name actor spec.permissions granted []
  if !enforced then decision "permission enforcement disabled"
  else if missing ≠ [] then
    { decision "missing required permissions" with allowed := false, missingPermissions := missing }
  else decision "allowed"

/-- What `assert_tool_allowed` raises. -/
def assertToolAllowed (enforced : Bool) (spec : ToolSpec) (granted : List String)
    (actor : String) : Option String :=
  let decision := decideToolPermission enforced spec granted actor
  if decision.allowed then none
  else some ("Tool " ++ spec.name ++ " permission denied: missing " ++
    ", ".intercalate decision.missingPermissions ++ " for actor " ++ actor)

lemma missingPermissions_eq_nil_iff {spec : ToolSpec} {granted : List String} :
    missingPermissions spec granted = [] ↔ spec.permissions ⊆ granted := by
  rw [missingPermissions, ← List.length_eq_zero_iff, List.length_mergeSort,
    List.length_eq_zero_iff, List.dedup_eq_nil, List.filter_eq_nil_iff]
  simp [List.subset_def]

lemma assertToolAllowed_eq_none_iff {spec : ToolSpec} {granted : List String} {actor : String} :
    assertToolAllowed true spec granted actor = none ↔ spec.permissions ⊆ granted := by
  rw [assertToolAllowed, decideToolPermission, ← missingPermissions_eq_nil_iff]
  by_cases h : missingPermissions spec granted = []
  · simp [h]
  · simp [h]

/-! ### The wrappers -/

/-- What comes of a call. -/
inductive ToolOutcome
  | raised (message : String)
  | failed (error : String)
  | ran
deriving DecidableEq

/-- What a call meets beside the policy: whether it is awaited, the functions of the original tool,
what keeps the sandbox from getting the task, and what `record_tool_call` raises. -/
structure Surroundings where
  awaited : Bool
  hasFunc : Bool
  hasCoroutine : Bool
  sandboxError : Option String
  guardError : Option String

/-- The body of a tool is reached through the wrapper of its kind. -/
def Surroundings.EntersBody (around : Surroundings) : Prop :=
  around.hasFunc = true ∨ (around.awaited = true ∧ around.hasCoroutine = true)

instance (around : Surroundings) : Decidable around.EntersBody :=
  inferInstanceAs (Decidable (_ ∨ (_ ∧ _)))

/-- The sandbox gets the task. -/
def Surroundings.inSandbox (around : Surroundings) : ToolOutcome :=
  match around.sandboxError with
  | some error => .failed error
  | none => .ran

/-- The profile of the sandbox context. -/
def contextProfile (context : Option String) : String :=
  match context with
  | some profile => if profile = "" then "standard" else profile
  | none => "standard"

/-- `_execute_sandbox_tool`. -/
def executeSandboxTool (spec : ToolSpec) (context : Option String) (around : Surroundings) :
    ToolOutcome :=
  if contextProfile context = "realtime" then .failed "realtime profile cannot execute tools"
  else if spec.name ≠ "read_file_content" then
    .failed "sandbox adapter is not implemented for this tool"
  else around.inSandbox

/-- A call of a tool that `ToolRegistry.guarded_tool` has built. -/
def callGuardedTool (enforced : Bool) (spec : ToolSpec) (granted : List String) (actor : String)
    (context : Option String) (around : Surroundings) : ToolOutcome :=
  if spec.Sandboxed then
    match assertToolAllowed enforced spec granted actor with
    | some denial => .raised denial
    | none => executeSandboxTool spec context around
  else if around.EntersBody then
    match assertToolAllowed enforced spec granted actor with
    | some denial => .raised denial
    | none => .ran
  else .raised "StructuredTool does not support this invocation."

/-- `list_business_tools()`. -/
def businessTools : List String :=
  ["query_daily_metrics", "query_daily_risks", "query_shop_profile", "query_inventory_risks",
    "query_inventory_velocity", "query_sales_trend", "query_campaign_traffic",
    "query_campaign_roi", "query_campaign_risks", "query_hot_products",
    "query_low_conversion_products", "query_import_jobs", "query_platform_auth_status",
    "query_data_freshness", "query_data_quality_summary", "check_import_jobs",
    "check_platform_authorization", "check_data_freshness", "check_schema_health"]

/-- The end of `_call_native_tool`. -/
def runNativeTool (toolName profile : String) : ToolOutcome :=
  if toolName ∈ businessTools then .ran
  else if toolName ∈ ["search_memory", "search_reports", "search_strategy_candidates"] then .ran
  else if toolName = "internet_search" then
    if profile ≠ "deep" then .failed "network_search is disabled outside deep profile" else .ran
  else if toolName = "schema_lookup" then .ran
  else if toolName = "safe_read_sql" then
    .failed "safe_read_sql requires approved readonly query compiler"
  else .raised ("unknown native deepagents tool: " ++ toolName)

/-- `_call_native_tool`. -/
def callNativeTool (registry : ToolRegistry) (toolName profile : String)
    (around : Surroundings) : ToolOutcome :=
  if profile = "realtime" then .failed "realtime profile cannot execute tools"
  else
    match registry.getSpec toolName with
    | none => .failed "unknown tool metadata; default deny"
    | some spec =>
      if profile ∉ spec.allowedProfiles then
        .failed ("tool is not allowed in " ++ profile ++ " profile")
      else
        match around.guardError with
        | some error => .raised error
        | none => if spec.Sandboxed then around.inSandbox else runNativeTool toolName profile

/-! ### Decisions -/

/-- Why the policy of the guarded tools refuses a call. -/
def guardedDenial (enforced : Bool) (spec : ToolSpec) (granted : List String) (actor : String)
    (context : Option String) : Option String :=
  match assertToolAllowed enforced spec granted actor with
  | some denial => some denial
  | none =>
    if spec.Sandboxed ∧ contextProfile context = "realtime" then
      some "realtime profile cannot execute tools"
    else none

/-- Why the policy of the native wrapper refuses a call. -/
def nativeDenial (registry : ToolRegistry) (toolName profile : String) : Option String :=
  if profile = "realtime" then some "realtime profile cannot execute tools"
  else
    match registry.getSpec toolName with
    | none => some "unknown tool metadata; default deny"
    | some spec =>
      if profile ∉ spec.allowedProfiles then
        some ("tool is not allowed in " ++ profile ++ " profile")
      else if ¬spec.Sandboxed ∧ toolName = "internet_search" ∧ profile ≠ "deep" then
        some "network_search is disabled outside deep profile"
      else none

/-- What the policy asks for. -/
structure Permitted (spec : ToolSpec) (granted : List String) (profile : Profile) : Prop where
  permissions : spec.permissions ⊆ granted
  allowed : profile.name ∈ spec.allowedProfiles
  running : profile ≠ .realtime

/-- Every execution of the tool is permitted, a denied call executes nothing, and the paths decide
alike; permissions are enforced, and the sandbox context is the one of the task. -/
structure PolicyHolds (registry : ToolRegistry) (spec : ToolSpec) (granted : List String)
    (profile : Profile) : Prop where
  guarded : ∀ actor around,
    callGuardedTool true spec granted actor (some profile.name) around = .ran →
      Permitted spec granted profile
  native : ∀ around, callNativeTool registry spec.name profile.name around = .ran →
    Permitted spec granted profile
  guardedDenied : ∀ actor around, (guardedDenial true spec granted actor
    (some profile.name)).isSome → callGuardedTool true spec granted actor (some profile.name)
      around ≠ .ran
  nativeDenied : ∀ around, (nativeDenial registry spec.name profile.name).isSome →
    callNativeTool registry spec.name profile.name around ≠ .ran
  same : ∀ actor, guardedDenial true spec granted actor (some profile.name) = none ↔
    nativeDenial registry spec.name profile.name = none

/-- The permissions decide as the profile does: where the profile allows the tool (and, for the
search of the network, is the deep one), the actor has its permissions, and elsewhere the actor
lacks one of them or the tool is a sandboxed one in the realtime profile. -/
def ChecksAgree (spec : ToolSpec) (granted : List String) (profile : Profile) : Prop :=
  (spec.permissions ⊆ granted ∧ (spec.Sandboxed → profile ≠ .realtime)) ↔
    (profile ≠ .realtime ∧ profile.name ∈ spec.allowedProfiles ∧
      (¬spec.Sandboxed → spec.name = "internet_search" → profile = .deep))

/-! ### When the policy holds -/

variable {registry : ToolRegistry} {spec : ToolSpec} {granted : List String} {actor : String}
  {profile : Profile} {around : Surroundings}

lemma contextProfile_name (profile : Profile) :
    contextProfile (some profile.name) = profile.name := by
  rw [contextProfile, if_neg profile.name_ne]

lemma name_eq_realtime_iff : profile.name = "realtime" ↔ profile = .realtime := by
  cases profile <;> decide

lemma name_eq_deep_iff : profile.name = "deep" ↔ profile = .deep := by
  cases profile <;> decide

lemma guardedDenial_eq_none_iff :
    guardedDenial true spec granted actor (some profile.name) = none ↔
      spec.permissions ⊆ granted ∧ (spec.Sandboxed → profile ≠ .realtime) := by
  simp only [guardedDenial, contextProfile_name, name_eq_realtime_iff]
  have hassert : assertToolAllowed true spec granted actor = none ↔ spec.permissions ⊆ granted :=
    assertToolAllowed_eq_none_iff
  cases hdenial : assertToolAllowed true spec granted actor with
  | some denial =>
    rw [hdenial] at hassert
    simp [← hassert]
  | none => simp [hassert.mp hdenial]

lemma nativeDenial_eq_none_iff (hspec : registry.getSpec spec.name = some spec) :
    nativeDenial registry spec.name profile.name = none ↔
      profile ≠ .realtime ∧ profile.name ∈ spec.allowedProfiles ∧
        (¬spec.Sandboxed → spec.name = "internet_search" → profile = .deep) := by
  simp only [nativeDenial, hspec, name_eq_realtime_iff, ne_eq, name_eq_deep_iff]
  by_cases hrealtime : profile = .realtime
  · simp [hrealtime]
  · by_cases hallowed : profile.name ∈ spec.allowedProfiles
    · simp [hrealtime, hallowed]
    · simp [hrealtime, hallowed]

/-- A guarded tool that runs was not denied. -/
lemma guardedDenial_of_ran
    (h : callGuardedTool true spec granted actor (some profile.name) around = .ran) :
    guardedDenial true spec granted actor (some profile.name) = none := by
  rw [callGuardedTool] at h
  rw [guardedDenial]
  cases hassert : assertToolAllowed true spec granted actor with
  | some denial =>
    rw [hassert] at h
    split_ifs at h
  | none =>
    rw [hassert] at h
    by_cases hsandboxed : spec.Sandboxed
    · rw [if_pos hsandboxed] at h
      simp only [executeSandboxTool] at h
      by_cases hrealtime : contextProfile (some profile.name) = "realtime"
      · rw [if_pos hrealtime] at h
        cases h
      · simp [hrealtime]
    · simp [hsandboxed]

/-- A native tool that runs was not denied. -/
lemma nativeDenial_of_ran (h : callNativeTool registry spec.name profile.name around = .ran) :
    nativeDenial registry spec.name profile.name = none := by
  rw [callNativeTool] at h
  rw [nativeDenial]
  by_cases hrealtime : profile.name = "realtime"
  · rw [if_pos hrealtime] at h
    cases h
  · rw [if_neg hrealtime] at h ⊢
    cases hget : registry.getSpec spec.name with
    | none =>
      rw [hget] at h
      cases h
    | some found =>
      simp only [hget] at h ⊢
      by_cases hallowed : profile.name ∈ found.allowedProfiles
      · rw [if_neg (not_not_intro hallowed)] at h ⊢
        cases hguard : around.guardError with
        | some error =>
          rw [hguard] at h
          cases h
        | none =>
          rw [hguard] at h
          by_cases hsearch :
              ¬found.Sandboxed ∧ spec.name = "internet_search" ∧ profile.name ≠ "deep"
          · obtain ⟨hnative, hname, hdeep⟩ := hsearch
            have hbusiness : "internet_search" ∉ businessTools := by decide
            simp [hnative, runNativeTool, hname, hdeep, hbusiness] at h
          · rw [if_neg hsearch]
      · rw [if_pos hallowed] at h
        cases h

/-- The policy holds exactly where the checks of the paths agree. -/
theorem policyHolds_iff (hspec : registry.getSpec spec.name = some spec) :
    PolicyHolds registry spec granted profile ↔ ChecksAgree spec granted profile := by
  have hpermitted : ChecksAgree spec granted profile →
      (spec.permissions ⊆ granted ∧ (spec.Sandboxed → profile ≠ .realtime) →
        Permitted spec granted profile) := fun hagree hguarded =>
    ⟨hguarded.1, (hagree.mp hguarded).2.1, (hagree.mp hguarded).1⟩
  constructor
  · intro h
    exact guardedDenial_eq_none_iff.symm.trans ((h.same "").trans (nativeDenial_eq_none_iff hspec))
  · intro hagree
    exact
      { guarded := fun actor around h =>
          hpermitted hagree (guardedDenial_eq_none_iff.mp (guardedDenial_of_ran h))
        native := fun around h => hpermitted hagree
          (hagree.mpr ((nativeDenial_eq_none_iff hspec).mp (nativeDenial_of_ran h)))
        guardedDenied := fun actor around hdenied h => by
          rw [guardedDenial_of_ran h] at hdenied
          cases hdenied
        nativeDenied := fun around hdenied h => by
          rw [nativeDenial_of_ran h] at hdenied
          cases hdenied
        same := fun actor => guardedDenial_eq_none_iff.trans
          (hagree.trans (nativeDenial_eq_none_iff hspec).symm) }

/-- A search of the network for an actor that has no permissions. -/
def searchSpec : ToolSpec where
  name := "internet_search"
  permissions := ["network:search"]
  executionMode := "native"
  sandboxRequired := false
  allowedProfiles := ["deep"]

theorem policyHolds_search :
    PolicyHolds ⟨[searchSpec]⟩ searchSpec ["network:search"] .deep ↔
      ChecksAgree searchSpec ["network:search"] .deep :=
  policyHolds_iff (by decide)

/-- The native wrapper runs it in the deep profile, whatever the actor was granted. -/
theorem not_policyHolds_search : ¬PolicyHolds ⟨[searchSpec]⟩ searchSpec [] .deep := by
  intro h
  have hran : callNativeTool ⟨[searchSpec]⟩ searchSpec.name Profile.deep.name
      ⟨false, true, false, none, none⟩ = .ran := by decide
  exact absurd ((h.native _ hran).permissions List.mem_cons_self) List.not_mem_nil

end EcommerceAgent.Runtime
