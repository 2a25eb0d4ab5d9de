/-
# The budgets of the runtime guard

`RuntimeGuard` and `AgentExecutionGuardMiddleware` of `agent/subagent/guard.py`, and the native
tools of `agent/subagent/tools.py`, which call the guard once more.  The middleware counts a call
as one of a sub-agent if the tool has the name of a sub-agent, but a delegation is a call of the
tool `task`; a native tool is counted by the middleware and again by itself; and arguments are
compared by their text, which tells numbers apart that Python calls equal.
-/
import EcommerceAgent.Lib.Budgets
import EcommerceAgent.Lib.JsonUnique
import Mathlib.Logic.Function.Basic
import Mathlib.Algebra.Order.Ring.Rat

open EcommerceAgent.Lib EcommerceAgent.Lib.Budgets EcommerceAgent.Lib.JsonText

namespace EcommerceAgent.Runtime.Guard

/-- The arguments of a tool call. -/
abbrev ToolArgs := List (String × Json FloatLit)

/-- The fields of `DeepAgentsProfileConfig` that the guard reads. -/
structure DeepAgentsProfileConfig where
  name : String
  maxRuntimeSeconds : ℚ
  maxModelCalls : ℤ
  maxToolCalls : ℤ
  maxSubagentCalls : ℤ
  sameToolSameArgsLimit : ℤ
  sameSubagentLimit : ℤ

/-- The `args_key` of a tool call. -/
def argsKey (toolName : String) (args : ToolArgs) : List Char :=
  toolName.toList ++ ':' :: dumps (.obj args)

/-- A key that two calls of one tool have in common if Python calls their arguments equal; `intOf`
says which integer a float is equal to. -/
def equalityKey (intOf : FloatLit → Option ℤ) (toolName : String) (args : ToolArgs) : List Char :=
  toolName.toList ++ ':' :: plain (leveled intOf (sorted (.obj args)))

/-- The order of the arguments is immaterial. -/
theorem argsKey_of_perm {toolName : String} {args args' : ToolArgs} (h : args.Perm args')
    (hnodup : (args.map Prod.fst).Nodup) : argsKey toolName args = argsKey toolName args' := by
  rw [argsKey, argsKey, dumps_obj_of_perm h hnodup]

/-- Calls with one `args_key` are calls of one tool, whose arguments differ at most in their
order. -/
lemma argsKey_inj {toolName toolName' : String} {args args' : ToolArgs}
    (h : argsKey toolName args = argsKey toolName' args') :
    toolName = toolName' ∧ sorted (.obj args) = sorted (.obj args') := by
  obtain ⟨hname, hargs⟩ := labelled_unique (sortKeys (sortedEntries args))
    (sortKeys (sortedEntries args')) h
  exact ⟨String.toList_inj.mp hname, sorted_eq_of_dumps_eq hargs⟩

/-- Calls have one key of equality if they are calls of one tool, and their arguments differ at most
in their order and in the spelling of numbers. -/
theorem equalityKey_eq_iff {intOf : FloatLit → Option ℤ} {toolName toolName' : String}
    {args args' : ToolArgs} :
    equalityKey intOf toolName args = equalityKey intOf toolName' args' ↔
      toolName = toolName' ∧
        leveled intOf (sorted (.obj args)) = leveled intOf (sorted (.obj args')) := by
  constructor
  · intro h
    have hends : Ends [] := by
      rintro c ⟨⟩
    obtain ⟨hname, hargs⟩ := labelled_unique (leveledEntries intOf (sortKeys (sortedEntries args)))
      (leveledEntries intOf (sortKeys (sortedEntries args'))) h
    have hwhole : plain (leveled intOf (sorted (.obj args))) ++ [] =
        plain (leveled intOf (sorted (.obj args'))) ++ [] := congrArg (· ++ []) hargs
    exact ⟨String.toList_inj.mp hname, (plain_unique _ hends hends hwhole).1⟩
  · rintro ⟨rfl, hargs⟩
    rw [equalityKey, equalityKey, hargs]

/-- The limits of a profile. -/
inductive Budget
  | maxModelCalls
  | maxToolCalls
  | maxSubagentCalls
  | sameToolSameArgs (key : List Char)
  | sameSubagent (subagentName : String)
deriving DecidableEq, Repr

def DeepAgentsProfileConfig.limit (config : DeepAgentsProfileConfig) : Budget → ℤ
  | .maxModelCalls => config.maxModelCalls
  | .maxToolCalls => config.maxToolCalls
  | .maxSubagentCalls => config.maxSubagentCalls
  | .sameToolSameArgs _ => config.sameToolSameArgsLimit
  | .sameSubagent _ => config.sameSubagentLimit

/-- The calls of `_trigger`, each of which raises a `GuardViolation`. -/
inductive GuardViolation
  | timeout
  | modelCalls
  | toolCalls
  | toolLoop (toolName : String) (args : ToolArgs)
  | subagentCalls
  | subagentLoop (subagentName : String)

namespace GuardViolation

/-- The budget that is said to be exceeded, with the given keys for tool calls. -/
def budget? (key : String → ToolArgs → List Char) : GuardViolation → Option Budget
  | timeout => none
  | modelCalls => some .maxModelCalls
  | toolCalls => some .maxToolCalls
  | toolLoop toolName args => some (.sameToolSameArgs (key toolName args))
  | subagentCalls => some .maxSubagentCalls
  | subagentLoop subagentName => some (.sameSubagent subagentName)

end GuardViolation

/-- `RuntimeGuard`: its profile and its counters. -/
structure RuntimeGuard where
  profile : DeepAgentsProfileConfig
  modelCalls : ℕ := 0
  toolCalls : ℕ := 0
  subagentCalls : ℕ := 0
  toolCounts : String → ℕ := fun _ => 0
  subagentCounts : String → ℕ := fun _ => 0
  toolArgsCounts : List Char → ℕ := fun _ => 0

/-- `counts[key] = counts.get(key, 0) + 1`. -/
def increment {κ : Type*} [DecidableEq κ] (counts : κ → ℕ) (key : κ) : κ → ℕ :=
  Function.update counts key (counts key + 1)

namespace RuntimeGuard

/-- `RuntimeGuard.for_profile`. -/
def start (config : DeepAgentsProfileConfig) : RuntimeGuard := { profile := config }

variable (guard : RuntimeGuard)

/-- `check_runtime` raises: more time has elapsed than the profile has. -/
def checkRuntime (elapsed : ℚ) : Bool := guard.profile.maxRuntimeSeconds < elapsed

def recordModelCall : Option GuardViolation × RuntimeGuard :=
  let guard := { guard with modelCalls := guard.modelCalls + 1 }
  (if guard.profile.maxModelCalls < guard.modelCalls then some .modelCalls else none, guard)

def recordToolCall (toolName : String) (args : ToolArgs) (elapsed : ℚ) :
    Option GuardViolation × RuntimeGuard :=
  if guard.checkRuntime elapsed then (some .timeout, guard)
  else
    let key := argsKey toolName args
    let guard := { guard with
      toolCalls := guard.toolCalls + 1
      toolCounts := increment guard.toolCounts toolName
      toolArgsCounts := increment guard.toolArgsCounts key }
    (if guard.profile.maxToolCalls < guard.toolCalls then some .toolCalls
      else if guard.profile.sameToolSameArgsLimit < guard.toolArgsCounts key then
        some (.toolLoop toolName args)
      else none, guard)

def recordSubagentCall (subagentName : String) (elapsed : ℚ) :
    Option GuardViolation × RuntimeGuard :=
  if guard.checkRuntime elapsed then (some .timeout, guard)
  else
    let guard := { guard with
      subagentCalls := guard.subagentCalls + 1
      subagentCounts := increment guard.subagentCounts subagentName }
    (if guard.profile.maxSubagentCalls < guard.subagentCalls then some .subagentCalls
      else if guard.profile.sameSubagentLimit < guard.subagentCounts subagentName then
        some (.subagentLoop subagentName)
      else none, guard)

end RuntimeGuard

/-- The `ToolCall` of a request. -/
structure ToolCall where
  name : String
  args : ToolArgs

/-- The tools that `_record_middleware_tool_call` takes for sub-agents. -/
def subagentTools : List String :=
  ["product_analysis", "inventory", "campaign", "report", "data_quality", "knowledge_base",
    "network_search", "database_query"]

/-- `_record_middleware_tool_call`. -/
def recordMiddlewareToolCall (guard : RuntimeGuard) (request : ToolCall) (elapsed : ℚ) :
    Option GuardViolation × RuntimeGuard :=
  if request.name = "" then
    (if guard.checkRuntime elapsed then some .timeout else none, guard)
  else if request.name ∈ subagentTools then guard.recordSubagentCall request.name elapsed
  else guard.recordToolCall request.name request.args elapsed

/-! ### Native tools -/

/-- What `_call_native_tool` reads of the metadata of a tool before it calls the guard. -/
structure ToolSpec where
  allowedProfiles : List String

/-- The metadata of the registered tools. -/
abbrev ToolRegistry := String → Option ToolSpec

/-- `value in (None, "", [])`. -/
def isBlankValue : Json FloatLit → Bool
  | .null => true
  | .str s => s == ""
  | .arr l => l.isEmpty
  | _ => false

/-- `_compact_params`. -/
def compactParams (params : ToolArgs) : ToolArgs := params.filter fun param => !isBlankValue param.2

/-- The parameters of `run` in `_build_tool` and their defaults. -/
def runDefaults : ToolArgs :=
  [("time_range", .str "last_30d"), ("limit", .int 8), ("category", .str ""),
    ("metric_focus", .str ""), ("campaign_keyword", .str ""), ("product_ids", .null),
    ("include_inventory", .null), ("include_campaign", .null), ("only_low_stock", .null),
    ("include_sales_velocity", .null), ("report_type", .str "business"), ("query", .str "")]

/-- The parameters that `run` gives to the native tool. -/
def runParams (arguments : ToolArgs) : ToolArgs :=
  compactParams <| runDefaults.map fun param =>
    (param.1, ((arguments.find? fun argument => argument.1 = param.1).map Prod.snd).getD param.2)

/-- How a native tool ends, as far as the guard is concerned. -/
inductive NativeAnswer
  | failed (error : String)
  | refused (violation : GuardViolation)
  | executed

/-- `_call_native_tool` up to the guard; the guard of the context is the active one. -/
def callNativeTool (registry : ToolRegistry) (guard : RuntimeGuard) (toolName : String)
    (params : ToolArgs) (elapsed : ℚ) : NativeAnswer × RuntimeGuard :=
  if guard.profile.name = "realtime" then
    (.failed "realtime profile cannot execute tools", guard)
  else
    match registry toolName with
    | none => (.failed "unknown tool metadata; default deny", guard)
    | some spec =>
      if guard.profile.name ∉ spec.allowedProfiles then
        (.failed ("tool is not allowed in " ++ guard.profile.name ++ " profile"), guard)
      else
        match guard.recordToolCall toolName params elapsed with
        | (some violation, guard) => (.refused violation, guard)
        | (none, guard) => (.executed, guard)

/-- The native tool that the handler of a call executes: the arguments of `run` and the time. -/
structure NativeCall where
  arguments : ToolArgs
  elapsed : ℚ

/-- A call that passes through the middleware. -/
inductive Call
  | model
  | tool (request : ToolCall) (elapsed : ℚ) (native : Option NativeCall)

/-- The budgets that a native tool was refused for. -/
def NativeAnswer.refusals (key : String → ToolArgs → List Char) : NativeAnswer → List Budget
  | .refused violation => (violation.budget? key).toList
  | _ => []

/-- `wrap_model_call` and `wrap_tool_call`, and what the handler does with the guard.  A refusal
names its budget by the key of the call. -/
def handle (key : String → ToolArgs → List Char) (registry : ToolRegistry) (guard : RuntimeGuard) :
    Call → Answered Call Budget × RuntimeGuard
  | .model =>
    match guard.recordModelCall with
    | (some violation, guard) => (⟨.model, false, (violation.budget? key).toList⟩, guard)
    | (none, guard) => (⟨.model, true, []⟩, guard)
  | .tool request elapsed native =>
    match recordMiddlewareToolCall guard request elapsed with
    | (some violation, guard) =>
      (⟨.tool request elapsed native, false, (violation.budget? key).toList⟩, guard)
    | (none, guard) =>
      match native with
      | none => (⟨.tool request elapsed native, true, []⟩, guard)
      | some call =>
        match callNativeTool registry guard request.name (runParams call.arguments)
          call.elapsed with
        | (answer, guard) => (⟨.tool request elapsed native, true, answer.refusals key⟩, guard)

/-! ### What is claimed -/

/-- The sub-agent that a delegation names. -/
def subagentType (args : ToolArgs) : Option String :=
  match args.find? fun arg => arg.1 = "subagent_type" with
  | some (_, .str subagentName) => some subagentName
  | _ => none

/-- The budgets of a call: a call of `task` is a delegation. -/
def Call.budgets (key : String → ToolArgs → List Char) : Call → List Budget
  | .model => [.maxModelCalls]
  | .tool request _ _ =>
    if request.name = "task" then
      .maxSubagentCalls :: (subagentType request.args).toList.map .sameSubagent
    else [.maxToolCalls, .sameToolSameArgs (key request.name request.args)]

/-- With one guard of the profile, the calls that reach their handler stay within the budgets, and
no call is refused for a budget that the attempted calls have not exceeded. -/
def BudgetsHold (key : String → ToolArgs → List Char) (registry : ToolRegistry)
    (config : DeepAgentsProfileConfig) (calls : List Call) : Prop :=
  Enforced (Call.budgets key) config.limit [] (trace (handle key registry) (.start config) calls)

/-- The metadata lets the tool be executed in the profile. -/
def ToolRegistry.Executes (registry : ToolRegistry) (profile toolName : String) : Prop :=
  ∃ spec, registry toolName = some spec ∧ profile ∈ spec.allowedProfiles ∧ profile ≠ "realtime"

/-- In the profile the guard counts the call once, and as what it is: no delegation, no tool without
a name or with the name of a sub-agent, and no native tool. -/
def RecordedOnce (registry : ToolRegistry) (profile : String) : Call → Prop
  | .model => True
  | .tool request _ native =>
    request.name ≠ "" ∧ request.name ≠ "task" ∧ request.name ∉ subagentTools ∧
      (native = none ∨ ¬ registry.Executes profile request.name)

/-- The requests of the tool calls. -/
def requests (calls : List Call) : List ToolCall :=
  calls.filterMap fun
    | .model => none
    | .tool request _ _ => some request

/-- Calls of one tool with equal arguments have one text. -/
def SpelledAlike (key : String → ToolArgs → List Char) (calls : List Call) : Prop :=
  ∀ r ∈ requests calls, ∀ r' ∈ requests calls, key r.name r.args = key r'.name r'.args →
    argsKey r.name r.args = argsKey r'.name r'.args

/-! ### The counters -/

namespace RuntimeGuard

/-- The counter of a budget; `keyOf` gives the `args_key` for a key of tool calls. -/
def countBy (keyOf : List Char → Option (List Char)) (guard : RuntimeGuard) : Budget → ℕ
  | .maxModelCalls => guard.modelCalls
  | .maxToolCalls => guard.toolCalls
  | .maxSubagentCalls => guard.subagentCalls
  | .sameToolSameArgs key => (keyOf key).elim 0 guard.toolArgsCounts
  | .sameSubagent subagentName => guard.subagentCounts subagentName

variable {guard : RuntimeGuard} {toolName : String} {args : ToolArgs} {elapsed : ℚ}
  {key : String → ToolArgs → List Char} {keyOf : List Char → Option (List Char)}

lemma countBy_start (config : DeepAgentsProfileConfig) (b : Budget) :
    (start config).countBy keyOf b = 0 := by
  cases b with
  | sameToolSameArgs key => cases h : keyOf key <;> simp [countBy, h, start]
  | _ => rfl

variable (key keyOf) in
/-- The outcome of a recorder is that of a gate for the budgets `bs`. -/
structure Gated (guard : RuntimeGuard) (bs : List Budget)
    (outcome : Option GuardViolation × RuntimeGuard) : Prop where
  refusal : outcome.1.map (GuardViolation.budget? key) =
    (exceeded guard.profile.limit (charge (guard.countBy keyOf) bs) bs).map some
  count : outcome.2.countBy keyOf = charge (guard.countBy keyOf) bs
  profile : outcome.2.profile = guard.profile

/-- The call has its own counter. -/
structure OwnCounter (key : String → ToolArgs → List Char)
    (keyOf : List Char → Option (List Char)) (toolName : String) (args : ToolArgs) : Prop where
  self : keyOf (key toolName args) = some (argsKey toolName args)
  only : ∀ k, keyOf k = some (argsKey toolName args) → k = key toolName args

/-- Every call has its own counter if the keys are those of the code. -/
lemma ownCounter_argsKey (toolName : String) (args : ToolArgs) :
    OwnCounter argsKey some toolName args := ⟨rfl, fun _ h => Option.some.inj h⟩

@[simp] lemma increment_self {κ : Type*} [DecidableEq κ] (counts : κ → ℕ) (key : κ) :
    increment counts key key = counts key + 1 := Function.update_self ..

lemma increment_of_ne {κ : Type*} [DecidableEq κ] {counts : κ → ℕ} {key key' : κ}
    (h : key' ≠ key) : increment counts key key' = counts key' := Function.update_of_ne h ..

lemma gated_recordModelCall (guard : RuntimeGuard) :
    Gated key keyOf guard [.maxModelCalls] guard.recordModelCall where
  refusal := by
    have hcharge : charge (guard.countBy keyOf) [.maxModelCalls] .maxModelCalls =
        guard.modelCalls + 1 := rfl
    rw [exceeded_cons, hcharge, exceeded_nil, recordModelCall]
    show Option.map _ (if guard.profile.maxModelCalls < _ then _ else _) =
      Option.map some (if guard.profile.maxModelCalls < _ then _ else _)
    split <;> rfl
  count := by
    funext b
    cases b <;> rfl
  profile := rfl

lemma gated_recordToolCall (hown : OwnCounter key keyOf toolName args)
    (h : guard.checkRuntime elapsed = false) :
    Gated key keyOf guard [.maxToolCalls, .sameToolSameArgs (key toolName args)]
      (guard.recordToolCall toolName args elapsed) where
  refusal := by
    have hcalls : charge (guard.countBy keyOf)
        [.maxToolCalls, .sameToolSameArgs (key toolName args)] .maxToolCalls =
          guard.toolCalls + 1 := by simp [charge, countBy]
    have hargs : charge (guard.countBy keyOf)
        [.maxToolCalls, .sameToolSameArgs (key toolName args)]
        (.sameToolSameArgs (key toolName args)) =
          increment guard.toolArgsCounts (argsKey toolName args) (argsKey toolName args) := by
      simp [charge, countBy, hown.self]
    rw [exceeded_cons, exceeded_cons, hcalls, hargs, exceeded_nil, recordToolCall, h]
    show Option.map _ (if guard.profile.maxToolCalls < _ then _
        else if guard.profile.sameToolSameArgsLimit < _ then _ else _) =
      Option.map some (if guard.profile.maxToolCalls < _ then _
        else if guard.profile.sameToolSameArgsLimit < _ then _ else _)
    split
    · rfl
    · split <;> rfl
  count := by
    funext b
    rw [recordToolCall, h]
    cases b with
    | sameToolSameArgs k =>
      by_cases hk : k = key toolName args
      · simp [countBy, charge, hk, hown.self]
      · have hother : ∀ k', keyOf k = some k' → k' ≠ argsKey toolName args := by
          rintro k' hk' rfl
          exact hk (hown.only k hk')
        cases hkey : keyOf k with
        | none =>
          have hzero : List.count (Budget.sameToolSameArgs k)
              [.maxToolCalls, .sameToolSameArgs (key toolName args)] = 0 := by
            simp [List.count_eq_zero, hk]
          simp only [countBy, charge, hkey, hzero, Option.elim_none]
        | some k' =>
          simp [countBy, charge, hkey, increment_of_ne (hother k' hkey), List.count_eq_zero, hk]
    | _ => simp [countBy, charge]
  profile := by
    rw [recordToolCall, h]
    rfl

lemma gated_recordSubagentCall {subagentName : String} (h : guard.checkRuntime elapsed = false) :
    Gated key keyOf guard [.maxSubagentCalls, .sameSubagent subagentName]
      (guard.recordSubagentCall subagentName elapsed) where
  refusal := by
    have hcalls : charge (guard.countBy keyOf) [.maxSubagentCalls, .sameSubagent subagentName]
        .maxSubagentCalls = guard.subagentCalls + 1 := by simp [charge, countBy]
    have hname : charge (guard.countBy keyOf) [.maxSubagentCalls, .sameSubagent subagentName]
        (.sameSubagent subagentName) =
          increment guard.subagentCounts subagentName subagentName := by
      simp [charge, countBy]
    rw [exceeded_cons, exceeded_cons, hcalls, hname, exceeded_nil, recordSubagentCall, h]
    show Option.map _ (if guard.profile.maxSubagentCalls < _ then _
        else if guard.profile.sameSubagentLimit < _ then _ else _) =
      Option.map some (if guard.profile.maxSubagentCalls < _ then _
        else if guard.profile.sameSubagentLimit < _ then _ else _)
    split
    · rfl
    · split <;> rfl
  count := by
    funext b
    rw [recordSubagentCall, h]
    cases b with
    | sameSubagent name =>
      by_cases hname : name = subagentName
      · simp [countBy, charge, hname]
      · simp [countBy, charge, increment_of_ne hname, List.count_eq_zero, hname]
    | _ => simp [countBy, charge]
  profile := by
    rw [recordSubagentCall, h]
    rfl

@[simp] lemma recordModelCall_profile (guard : RuntimeGuard) :
    guard.recordModelCall.2.profile = guard.profile := rfl

@[simp] lemma recordToolCall_profile (guard : RuntimeGuard) :
    (guard.recordToolCall toolName args elapsed).2.profile = guard.profile := by
  rw [recordToolCall]
  split <;> rfl

@[simp] lemma recordSubagentCall_profile (guard : RuntimeGuard) :
    (guard.recordSubagentCall toolName elapsed).2.profile = guard.profile := by
  rw [recordSubagentCall]
  split <;> rfl

/-- What the gate answers. -/
lemma Gated.answer_eq {call : Call} {outcome : Option GuardViolation × RuntimeGuard}
    (h : Gated key keyOf guard (call.budgets key) outcome) :
    (⟨call, outcome.1.isNone, (outcome.1.bind (GuardViolation.budget? key)).toList⟩ :
      Answered Call Budget) =
      answerOf (Call.budgets key) guard.profile.limit (guard.countBy keyOf) call := by
  have hrefusal := h.refusal
  rw [answerOf]
  cases hexceeded : exceeded guard.profile.limit
      (charge (guard.countBy keyOf) (call.budgets key)) (call.budgets key) with
  | none =>
    rw [hexceeded] at hrefusal
    rw [Option.map_eq_none_iff.mp hrefusal]
    rfl
  | some b =>
    rw [hexceeded] at hrefusal
    obtain ⟨violation, hviolation, hbudget⟩ := Option.map_eq_some_iff.mp hrefusal
    rw [hviolation, Option.bind_some, hbudget]
    rfl

end RuntimeGuard

/-! ### Calls that are recorded once -/

section RecordedOnce

variable {key : String → ToolArgs → List Char} {keyOf : List Char → Option (List Char)}
  {registry : ToolRegistry} {guard : RuntimeGuard} {request : ToolCall} {elapsed : ℚ}
  {native : Option NativeCall} {call : Call} {profile : String} {calls : List Call}

lemma nodup_budgets (call : Call) : (call.budgets key).Nodup := by
  cases call with
  | model => simp [Call.budgets]
  | tool request elapsed native =>
    rw [Call.budgets]
    split
    · cases subagentType request.args <;> simp
    · simp

@[simp] lemma recordMiddlewareToolCall_profile :
    (recordMiddlewareToolCall guard request elapsed).2.profile = guard.profile := by
  rw [recordMiddlewareToolCall]
  split
  · rfl
  · split <;> simp

@[simp] lemma callNativeTool_profile {toolName : String} {params : ToolArgs} :
    (callNativeTool registry guard toolName params elapsed).2.profile = guard.profile := by
  have hrecord : (guard.recordToolCall toolName params elapsed).2.profile = guard.profile :=
    guard.recordToolCall_profile
  rw [callNativeTool]
  split
  · rfl
  · split
    · rfl
    · split
      · rfl
      · split
        · next houtcome => rwa [houtcome] at hrecord
        · next houtcome => rwa [houtcome] at hrecord

lemma handle_profile (key : String → ToolArgs → List Char) (registry : ToolRegistry)
    (guard : RuntimeGuard) (call : Call) :
    (handle key registry guard call).2.profile = guard.profile := by
  cases call with
  | model =>
    have hrecord := guard.recordModelCall_profile
    rw [handle]
    split
    · next houtcome => rwa [houtcome] at hrecord
    · next houtcome => rwa [houtcome] at hrecord
  | tool request elapsed native =>
    have hrecord : (recordMiddlewareToolCall guard request elapsed).2.profile = guard.profile :=
      recordMiddlewareToolCall_profile
    rw [handle]
    split
    · next houtcome => rwa [houtcome] at hrecord
    · next guard' houtcome =>
      rw [houtcome] at hrecord
      cases native with
      | none => exact hrecord
      | some native => exact callNativeTool_profile.trans hrecord

/-- A native tool that the metadata forbids does not reach the guard. -/
lemma callNativeTool_of_not_executes {toolName : String} {params : ToolArgs}
    (h : ¬ registry.Executes guard.profile.name toolName) :
    ∃ error, callNativeTool registry guard toolName params elapsed = (.failed error, guard) := by
  rw [callNativeTool]
  split
  · exact ⟨_, rfl⟩
  · next hname =>
    split
    · exact ⟨_, rfl⟩
    · next spec hspec =>
      rw [if_pos fun hallowed => h ⟨spec, hspec, hallowed, hname⟩]
      exact ⟨_, rfl⟩

lemma handle_model (key : String → ToolArgs → List Char) (registry : ToolRegistry)
    (guard : RuntimeGuard) :
    handle key registry guard .model =
      (⟨.model, guard.recordModelCall.1.isNone,
        (guard.recordModelCall.1.bind (GuardViolation.budget? key)).toList⟩,
        guard.recordModelCall.2) := by
  rw [handle]
  split
  · next houtcome =>
    rw [houtcome]
    rfl
  · next houtcome =>
    rw [houtcome]
    rfl

/-- A tool call that is recorded once has only the outcome of its record. -/
lemma handle_tool (h : RecordedOnce registry guard.profile.name (.tool request elapsed native)) :
    handle key registry guard (.tool request elapsed native) =
      (⟨.tool request elapsed native,
        (guard.recordToolCall request.name request.args elapsed).1.isNone,
        ((guard.recordToolCall request.name request.args elapsed).1.bind
          (GuardViolation.budget? key)).toList⟩,
        (guard.recordToolCall request.name request.args elapsed).2) := by
  obtain ⟨hname, -, hsubagent, hnative⟩ := h
  have hrecord : recordMiddlewareToolCall guard request elapsed =
      guard.recordToolCall request.name request.args elapsed := by
    rw [recordMiddlewareToolCall, if_neg hname, if_neg hsubagent]
  rw [handle, hrecord]
  split
  · next houtcome =>
    rw [houtcome]
    rfl
  · next guard' houtcome =>
    have hprofile : guard'.profile = guard.profile := by
      have hrecorded : (guard.recordToolCall request.name request.args elapsed).2.profile =
          guard.profile := guard.recordToolCall_profile
      rwa [houtcome] at hrecorded
    rw [houtcome]
    cases native with
    | none => rfl
    | some call =>
      have hforbidden : ¬ registry.Executes guard'.profile.name request.name := by
        rw [hprofile]
        exact hnative.resolve_left (Option.some_ne_none call)
      have hanswer : ∃ error, callNativeTool registry guard' request.name
          (runParams call.arguments) call.elapsed = (.failed error, guard') :=
        callNativeTool_of_not_executes hforbidden
      obtain ⟨error, hanswer⟩ := hanswer
      simp only [hanswer]
      rfl

/-- The times at which the guard looks at the clock. -/
def Call.times : Call → List ℚ
  | .model => []
  | .tool _ elapsed native => elapsed :: (native.map NativeCall.elapsed).toList

lemma gates_model (registry : ToolRegistry) (guard : RuntimeGuard) :
    Gates (Call.budgets key) guard.profile.limit (handle key registry)
      (RuntimeGuard.countBy keyOf) guard .model := by
  have hgated : guard.Gated key keyOf (Call.budgets key .model) guard.recordModelCall :=
    RuntimeGuard.gated_recordModelCall guard
  constructor
  · rw [handle_model]
    exact hgated.answer_eq
  · rw [handle_model]
    exact hgated.count

/-- A tool call that is recorded once, in time, is answered by the gate. -/
lemma gates_tool (hown : RuntimeGuard.OwnCounter key keyOf request.name request.args)
    (h : RecordedOnce registry guard.profile.name (.tool request elapsed native))
    (hlate : guard.checkRuntime elapsed = false) :
    Gates (Call.budgets key) guard.profile.limit (handle key registry)
      (RuntimeGuard.countBy keyOf) guard (.tool request elapsed native) := by
  have hbudgets : Call.budgets key (.tool request elapsed native) =
      [.maxToolCalls, .sameToolSameArgs (key request.name request.args)] := if_neg h.2.1
  have hgated : guard.Gated key keyOf (Call.budgets key (.tool request elapsed native))
      (guard.recordToolCall request.name request.args elapsed) := by
    rw [hbudgets]
    exact RuntimeGuard.gated_recordToolCall hown hlate
  constructor
  · rw [handle_tool h]
    exact hgated.answer_eq
  · rw [handle_tool h]
    exact hgated.count

variable (key keyOf) in
/-- The tool calls have their own counters. -/
def OwnCounters (calls : List Call) : Prop :=
  ∀ r ∈ requests calls, RuntimeGuard.OwnCounter key keyOf r.name r.args

lemma mem_requests (h : .tool request elapsed native ∈ calls) : request ∈ requests calls :=
  List.mem_filterMap.mpr ⟨_, h, rfl⟩

lemma gates_of_inTime (hown : OwnCounters key keyOf calls) (hmem : call ∈ calls)
    (h : RecordedOnce registry guard.profile.name call)
    (htime : ∀ t ∈ call.times, t ≤ guard.profile.maxRuntimeSeconds) :
    Gates (Call.budgets key) guard.profile.limit (handle key registry)
      (RuntimeGuard.countBy keyOf) guard call := by
  cases call with
  | model => exact gates_model registry guard
  | tool request elapsed native =>
    refine gates_tool (hown _ (mem_requests hmem)) h ?_
    simpa [RuntimeGuard.checkRuntime] using htime elapsed List.mem_cons_self

/-- A call that is recorded once is answered by the gate, unless its time is over. -/
lemma gates_or_skips (hown : OwnCounters key keyOf calls) (hmem : call ∈ calls)
    (h : RecordedOnce registry guard.profile.name call) :
    Gates (Call.budgets key) guard.profile.limit (handle key registry)
        (RuntimeGuard.countBy keyOf) guard call ∨
      Skips (handle key registry) (RuntimeGuard.countBy keyOf) guard call := by
  cases call with
  | model => exact .inl (gates_model registry guard)
  | tool request elapsed native =>
    cases hlate : guard.checkRuntime elapsed with
    | false => exact .inl (gates_tool (hown _ (mem_requests hmem)) h hlate)
    | true =>
      have hrecord : guard.recordToolCall request.name request.args elapsed =
          (some .timeout, guard) := by
        rw [RuntimeGuard.recordToolCall, hlate]
        rfl
      refine .inr ⟨?_, ?_⟩
      · rw [handle_tool h, hrecord]
        rfl
      · rw [handle_tool h, hrecord]

variable (key) in
/-- The `args_key` of the calls with a key. -/
def keyAmong (calls : List Call) (k : List Char) : Option (List Char) :=
  ((requests calls).find? fun r => key r.name r.args = k).map fun r => argsKey r.name r.args

/-- The key depends on the text of the arguments only. -/
def OfText (key : String → ToolArgs → List Char) : Prop :=
  ∀ {toolName toolName' args args'}, argsKey toolName args = argsKey toolName' args' →
    key toolName args = key toolName' args'

lemma ownCounters_keyAmong (hkey : OfText key) (h : SpelledAlike key calls) :
    OwnCounters key (keyAmong key calls) calls := by
  intro r hr
  constructor
  · have hfind :
        ((requests calls).find? fun r' => key r'.name r'.args = key r.name r.args).isSome := by
      rw [List.find?_isSome]
      exact ⟨r, hr, by simp⟩
    obtain ⟨r', hr'⟩ := Option.isSome_iff_exists.mp hfind
    have heq : key r'.name r'.args = key r.name r.args := by simpa using List.find?_some hr'
    rw [keyAmong, hr', Option.map_some, h r' (List.mem_of_find?_eq_some hr') r hr heq]
  · intro k hk
    obtain ⟨r', hr', htext⟩ := Option.map_eq_some_iff.mp hk
    have heq : key r'.name r'.args = k := by simpa using List.find?_some hr'
    rw [← heq]
    exact hkey htext

/-- Calls that are recorded once, and spelled alike where they are equal, keep to the budgets. -/
lemma budgetsHold_of_recordedOnce (hkey : OfText key) (config : DeepAgentsProfileConfig)
    (h : ∀ call ∈ calls, RecordedOnce registry config.name call)
    (hspelled : SpelledAlike key calls) : BudgetsHold key registry config calls := by
  have hown := ownCounters_keyAmong hkey hspelled
  have hstep : ∀ guard : RuntimeGuard, guard.profile = config → ∀ call ∈ calls,
      Gates (Call.budgets key) config.limit (handle key registry)
          (RuntimeGuard.countBy (keyAmong key calls)) guard call ∨
        Skips (handle key registry) (RuntimeGuard.countBy (keyAmong key calls)) guard call := by
    rintro guard rfl call hcall
    exact gates_or_skips hown hcall (h call hcall)
  have hzero : (RuntimeGuard.start config).countBy (keyAmong key calls) = fun _ => 0 :=
    funext (RuntimeGuard.countBy_start config)
  refine enforced_of_gated (I := fun guard => guard.profile = config) nodup_budgets
    (fun guard call hguard => (handle_profile key registry guard call).trans hguard) hstep rfl ?_
  rw [hzero]
  exact between_nil

/-- The counter of a text counts no other text. -/
lemma toolArgsCounts_final (key : String → ToolArgs → List Char) (k : List Char)
    (h : ∀ call ∈ calls, RecordedOnce registry profile call)
    (hguard : guard.profile.name = profile) :
    (final (handle key registry) guard calls).toolArgsCounts k ≤
      guard.toolArgsCounts k + (requests calls).countP fun r => argsKey r.name r.args = k := by
  induction calls generalizing guard with
  | nil => exact Nat.le_add_right ..
  | cons call calls ih =>
    obtain ⟨hcall, hcalls⟩ := List.forall_mem_cons.mp h
    have hnext : (handle key registry guard call).2.profile.name = profile :=
      (congrArg DeepAgentsProfileConfig.name (handle_profile key registry guard call)).trans hguard
    have hrest := ih hcalls hnext
    refine hrest.trans ?_
    cases call with
    | model =>
      have hsame : (handle key registry guard .model).2.toolArgsCounts = guard.toolArgsCounts := by
        rw [handle_model]
        rfl
      rw [hsame]
      exact Nat.le_refl _
    | tool request elapsed native =>
      have hcount : (handle key registry guard (.tool request elapsed native)).2.toolArgsCounts k ≤
          guard.toolArgsCounts k + if argsKey request.name request.args = k then 1 else 0 := by
        rw [handle_tool (by rwa [hguard]), RuntimeGuard.recordToolCall]
        split
        · exact Nat.le_add_right ..
        · by_cases hk : argsKey request.name request.args = k
          · simp [hk]
          · simp [hk, RuntimeGuard.increment_of_ne (Ne.symm hk)]
      have hrequests : requests (.tool request elapsed native :: calls) =
          request :: requests calls := rfl
      rw [hrequests, List.countP_cons]
      simp only [decide_eq_true_eq]
      omega

end RecordedOnce

/-! ### Calls that are not -/

section NotRecordedOnce

variable {key : String → ToolArgs → List Char} {keyOf : List Char → Option (List Char)}
  {registry : ToolRegistry} {guard : RuntimeGuard} {calls done rest : List Call}
  {call : Call} {config : DeepAgentsProfileConfig} {profile : String}

/-- The first element at which a property of the elements so far is lost. -/
lemma exists_first {α : Type} {P : List α → Prop} {done l : List α} (hdone : P done)
    (h : ¬ P (done ++ l)) :
    ∃ l₁ x l₂, l = l₁ ++ x :: l₂ ∧ P (done ++ l₁) ∧ ¬ P (done ++ l₁ ++ [x]) := by
  induction l generalizing done with
  | nil => exact absurd (by rwa [List.append_nil]) h
  | cons x l ih =>
    by_cases hx : P (done ++ [x])
    · obtain ⟨l₁, y, l₂, rfl, hl₁, hy⟩ := ih hx (by rwa [List.append_assoc])
      exact ⟨x :: l₁, y, l₂, rfl, by simpa using hl₁, by simpa using hy⟩
    · exact ⟨[], x, l, rfl, by rwa [List.append_nil], by rwa [List.append_nil]⟩

variable (key registry profile) in
/-- The calls are recorded once, and spelled alike where they are equal. -/
def Recorded (calls : List Call) : Prop :=
  (∀ call ∈ calls, RecordedOnce registry profile call) ∧ SpelledAlike key calls

/-- A time that is not exceeded in the calls. -/
lemma exists_seconds (calls : List Call) :
    ∃ seconds : ℚ, ∀ call ∈ calls, ∀ t ∈ call.times, t ≤ seconds := by
  have hmax : ∀ times : List ℚ, ∃ seconds, ∀ t ∈ times, t ≤ seconds := by
    intro times
    induction times with
    | nil => exact ⟨0, by simp⟩
    | cons t times ih =>
      obtain ⟨seconds, hseconds⟩ := ih
      refine ⟨max t seconds, fun t' ht' => ?_⟩
      rcases List.mem_cons.mp ht' with rfl | hmem
      · exact le_max_left ..
      · exact (hseconds t' hmem).trans (le_max_right ..)
  obtain ⟨seconds, hseconds⟩ := hmax (calls.flatMap Call.times)
  exact ⟨seconds, fun call hcall t ht => hseconds t (List.mem_flatMap.mpr ⟨call, hcall, ht⟩)⟩

/-- A profile whose limits but two are `bound`. -/
def tight (name : String) (seconds : ℚ) (bound : ℕ) (toolCalls sameArgs subagentCalls : ℤ) :
    DeepAgentsProfileConfig where
  name := name
  maxRuntimeSeconds := seconds
  maxModelCalls := bound
  maxToolCalls := toolCalls
  maxSubagentCalls := subagentCalls
  sameToolSameArgsLimit := sameArgs
  sameSubagentLimit := bound

lemma total_le (b : Budget) : total (Call.budgets key) done b ≤ done.length :=
  List.countP_le_length

/-- The guard has counted the calls `done`. -/
structure Counted (key : String → ToolArgs → List Char) (done : List Call)
    (guard : RuntimeGuard) : Prop where
  tools : guard.toolCalls = total (Call.budgets key) done .maxToolCalls
  subagents : guard.subagentCalls ≤ done.length
  names : ∀ name, guard.subagentCounts name ≤ done.length
  texts : ∀ k, guard.toolArgsCounts k ≤ (requests done).countP fun r => argsKey r.name r.args = k

/-- A guard after calls that are recorded once, and before the next call. -/
lemma counted_final (hkey : OfText key) (hdone : Recorded key registry config.name done)
    (hseconds : ∀ c ∈ done, ∀ t ∈ c.times, t ≤ config.maxRuntimeSeconds) :
    (final (handle key registry) (.start config) done).profile = config ∧
      Counted key done (final (handle key registry) (.start config) done) := by
  have hown := ownCounters_keyAmong hkey hdone.2
  have hgates : ∀ guard : RuntimeGuard, guard.profile = config → ∀ c ∈ done,
      Gates (Call.budgets key) config.limit (handle key registry)
        (RuntimeGuard.countBy (keyAmong key done)) guard c := by
    rintro guard rfl c hc
    exact gates_of_inTime hown hc (hdone.1 c hc) (hseconds c hc)
  obtain ⟨hcounts, hprofile⟩ := final_of_gates (I := fun guard => guard.profile = config)
    (s := .start config) nodup_budgets
    (fun guard call hguard => (handle_profile key registry guard call).trans hguard) hgates rfl
  have hcount : ∀ b, (final (handle key registry) (.start config) done).countBy
      (keyAmong key done) b = total (Call.budgets key) done b := by
    intro b
    rw [hcounts, RuntimeGuard.countBy_start, Nat.zero_add]
  refine ⟨hprofile, hcount .maxToolCalls, ?_, fun name => ?_, fun k => ?_⟩
  · exact (hcount .maxSubagentCalls).trans_le (total_le _)
  · exact (hcount (.sameSubagent name)).trans_le (total_le _)
  · have hstart : (RuntimeGuard.start config).profile.name = config.name := rfl
    have htexts := toolArgsCounts_final key k hdone.1 hstart
    rwa [RuntimeGuard.start, Nat.zero_add] at htexts

/-- A record passes if there is room for one more call in its budgets. -/
lemma RuntimeGuard.Gated.passes {bs : List Budget} {outcome : Option GuardViolation × RuntimeGuard}
    (h : guard.Gated key keyOf bs outcome) (hnodup : bs.Nodup)
    (hroom : ∀ b ∈ bs, ((guard.countBy keyOf b + 1 : ℕ) : ℤ) ≤ guard.profile.limit b) :
    outcome.1 = none := by
  have hnone : exceeded guard.profile.limit (charge (guard.countBy keyOf) bs) bs = none := by
    refine exceeded_eq_none_iff.mpr fun b hb => ?_
    rw [charge_of_nodup hnodup, if_pos hb]
    exact hroom b hb
  have hrefusal := h.refusal
  rw [hnone] at hrefusal
  exact Option.map_eq_none_iff.mp hrefusal

variable {request : ToolCall} {elapsed : ℚ} {native : Option NativeCall}

lemma handle_event (key : String → ToolArgs → List Char) (registry : ToolRegistry)
    (guard : RuntimeGuard) (call : Call) : (handle key registry guard call).1.event = call := by
  cases call with
  | model =>
    rw [handle_model]
  | tool request elapsed native =>
    rw [handle]
    split
    · rfl
    · cases native <;> rfl

/-- A call that the middleware does not refuse reaches its handler. -/
lemma handle_passed (h : (recordMiddlewareToolCall guard request elapsed).1 = none) :
    (handle key registry guard (.tool request elapsed native)).1.passed = true := by
  rw [handle]
  split
  · next houtcome =>
    rw [houtcome] at h
    cases h
  · cases native <;> rfl

/-- If the budgets hold, the answer to the call after `done` is right. -/
lemma right_next (h : BudgetsHold key registry config (done ++ call :: rest)) :
    Right (Call.budgets key) config.limit (trace (handle key registry) (.start config) done)
      (handle key registry (final (handle key registry) (.start config) done) call).1 := by
  rw [BudgetsHold, trace_append, enforced_append] at h
  exact h.2.1

/-- Calls that are recorded once pass, if they fit. -/
lemma trace_done (hkey : OfText key) (hdone : Recorded key registry config.name done)
    (hseconds : ∀ c ∈ done, ∀ t ∈ c.times, t ≤ config.maxRuntimeSeconds)
    (hmodels : (done.length : ℤ) ≤ config.maxModelCalls)
    (htools : (total (Call.budgets key) done .maxToolCalls : ℤ) ≤ config.maxToolCalls)
    (hargs : (done.length : ℤ) ≤ config.sameToolSameArgsLimit) :
    trace (handle key registry) (.start config) done = done.map fun c => ⟨c, true, []⟩ := by
  have hown := ownCounters_keyAmong hkey hdone.2
  have hgates : ∀ guard : RuntimeGuard, guard.profile = config → ∀ c ∈ done,
      Gates (Call.budgets key) config.limit (handle key registry)
        (RuntimeGuard.countBy (keyAmong key done)) guard c := by
    rintro guard rfl c hc
    exact gates_of_inTime hown hc (hdone.1 c hc) (hseconds c hc)
  refine trace_of_fits (I := fun guard => guard.profile = config) nodup_budgets
    (fun guard call hguard => (handle_profile key registry guard call).trans hguard) hgates rfl
    fun c hc b hb => ?_
  have hle : (total (Call.budgets key) done b : ℤ) ≤ done.length := Int.ofNat_le.mpr (total_le b)
  rw [RuntimeGuard.countBy_start, Nat.zero_add]
  cases c with
  | model =>
    obtain rfl : b = .maxModelCalls := by simpa [Call.budgets] using hb
    exact hle.trans hmodels
  | tool request elapsed native =>
    rw [Call.budgets, if_neg (hdone.1 _ hc).2.1, List.mem_cons, List.mem_singleton] at hb
    rcases hb with rfl | rfl
    · exact htools
    · exact hle.trans hargs

/-- After the calls `done`, a call that passes has room in its budgets. -/
lemma room_of_right {b : Budget} {answers : List (Answered Call Budget)}
    (h : Right (Call.budgets key) config.limit answers
      (handle key registry guard (.tool request elapsed native)).1)
    (hpasses : (recordMiddlewareToolCall guard request elapsed).1 = none)
    (hb : b ∈ Call.budgets key (.tool request elapsed native)) :
    ((passed (Call.budgets key) answers b + 1 : ℕ) : ℤ) ≤ config.limit b := by
  have hevent := handle_event key registry guard (.tool request elapsed native)
  have hpassed : (handle key registry guard (.tool request elapsed native)).1.passed = true :=
    handle_passed hpasses
  have hwithin := h.within hpassed b (by rwa [hevent])
  rwa [passed_concat, if_pos ⟨hpassed, by rwa [hevent]⟩] at hwithin

/-- The next call meets a guard that has counted the calls `done`, all of which have passed. -/
lemma exists_guard (hkey : OfText key)
    (h : ∀ config, config.name = profile →
      BudgetsHold key registry config (done ++ .tool request elapsed native :: rest))
    (hdone : Recorded key registry profile done) {toolCalls : ℤ} (subagentCalls : ℤ)
    (htools : (total (Call.budgets key) done .maxToolCalls : ℤ) ≤ toolCalls) :
    ∃ seconds, ∃ guard : RuntimeGuard,
      guard.profile = tight profile seconds (done.length + 1) toolCalls (done.length + 1)
        subagentCalls ∧
      Counted key done guard ∧
      (∀ t ∈ Call.times (.tool request elapsed native), guard.checkRuntime t = false) ∧
      Right (Call.budgets key) guard.profile.limit (done.map fun c => ⟨c, true, []⟩)
        (handle key registry guard (.tool request elapsed native)).1 := by
  obtain ⟨seconds, hseconds⟩ := exists_seconds (done ++ .tool request elapsed native :: rest)
  let config := tight profile seconds (done.length + 1) toolCalls (done.length + 1) subagentCalls
  have hdone' : Recorded key registry config.name done := hdone
  have hinTime : ∀ c ∈ done, ∀ t ∈ c.times, t ≤ config.maxRuntimeSeconds := fun c hc =>
    hseconds c (List.mem_append_left _ hc)
  obtain ⟨hprofile, hcounted⟩ := counted_final hkey hdone' hinTime
  have hbound : (done.length : ℤ) ≤ (done.length : ℤ) + 1 := by omega
  have hright := right_next (h config rfl)
  rw [trace_done hkey hdone' hinTime hbound htools hbound] at hright
  refine ⟨seconds, _, hprofile, hcounted, fun t ht => ?_, by rwa [hprofile]⟩
  rw [RuntimeGuard.checkRuntime, hprofile]
  exact decide_eq_false (not_lt.mpr (hseconds _ (by simp) t ht))

/-- A limit with room for all calls so far and one more. -/
lemma Counted.texts_le (h : Counted key done guard) (k : List Char) :
    guard.toolArgsCounts k ≤ done.length :=
  (h.texts k).trans (List.countP_le_length.trans (List.length_filterMap_le ..))

/-- A tool without a name is not counted. -/
lemma name_ne_empty (hkey : OfText key)
    (h : ∀ config, config.name = profile →
      BudgetsHold key registry config (done ++ .tool request elapsed native :: rest))
    (hdone : Recorded key registry profile done) : request.name ≠ "" := by
  intro hname
  obtain ⟨seconds, guard, hprofile, -, htimes, hright⟩ := exists_guard hkey h hdone 0 le_rfl
  have hlate := htimes elapsed List.mem_cons_self
  have hpasses : (recordMiddlewareToolCall guard request elapsed).1 = none := by
    rw [recordMiddlewareToolCall, if_pos hname, hlate]
    rfl
  have hbudget : Budget.maxToolCalls ∈ Call.budgets key (.tool request elapsed native) := by
    simp [Call.budgets, hname]
  have hroom := room_of_right hright hpasses hbudget
  rw [passed_map, hprofile] at hroom
  change _ ≤ (total (Call.budgets key) done .maxToolCalls : ℤ) at hroom
  omega

/-- A tool call passes that the middleware records as one, if there is room. -/
lemma recordToolCall_passes (hcounted : Counted key done guard)
    (hlate : guard.checkRuntime elapsed = false)
    (htools : ((guard.toolCalls + 1 : ℕ) : ℤ) ≤ guard.profile.maxToolCalls)
    (hargs : ((done.length + 1 : ℕ) : ℤ) ≤ guard.profile.sameToolSameArgsLimit) :
    (guard.recordToolCall request.name request.args elapsed).1 = none := by
  refine (RuntimeGuard.gated_recordToolCall
    (RuntimeGuard.ownCounter_argsKey request.name request.args) hlate).passes (by simp)
    fun b hb => ?_
  simp only [List.mem_cons, List.not_mem_nil, or_false] at hb
  rcases hb with rfl | rfl
  · exact htools
  · have hle : guard.countBy some (.sameToolSameArgs (argsKey request.name request.args)) ≤
        done.length := hcounted.texts_le _
    exact (Int.ofNat_le.mpr (Nat.succ_le_succ hle)).trans hargs

/-- A delegation is not counted as one. -/
lemma name_ne_task (hkey : OfText key)
    (h : ∀ config, config.name = profile →
      BudgetsHold key registry config (done ++ .tool request elapsed native :: rest))
    (hdone : Recorded key registry profile done) : request.name ≠ "task" := by
  intro hname
  have hcalls : (total (Call.budgets key) done .maxToolCalls : ℤ) ≤ (done.length + 1 : ℕ) :=
    Int.ofNat_le.mpr (Nat.le_succ_of_le (total_le _))
  obtain ⟨seconds, guard, hprofile, hcounted, htimes, hright⟩ := exists_guard hkey h hdone 0 hcalls
  have hlate := htimes elapsed List.mem_cons_self
  have hpasses : (recordMiddlewareToolCall guard request elapsed).1 = none := by
    have hrecord : recordMiddlewareToolCall guard request elapsed =
        guard.recordToolCall request.name request.args elapsed := by
      rw [recordMiddlewareToolCall, hname]
      rfl
    rw [hrecord]
    refine recordToolCall_passes hcounted hlate ?_ (by rw [hprofile]; exact le_rfl)
    rw [hcounted.tools, hprofile]
    exact Int.ofNat_le.mpr (Nat.succ_le_succ (total_le _))
  have hbudget : Budget.maxSubagentCalls ∈ Call.budgets key (.tool request elapsed native) := by
    simp [Call.budgets, hname]
  have hroom := room_of_right hright hpasses hbudget
  rw [hprofile] at hroom
  change _ ≤ (0 : ℤ) at hroom
  omega

/-- A tool with the name of a sub-agent is not counted as a tool. -/
lemma name_notMem_subagentTools (hkey : OfText key)
    (h : ∀ config, config.name = profile →
      BudgetsHold key registry config (done ++ .tool request elapsed native :: rest))
    (hdone : Recorded key registry profile done) : request.name ∉ subagentTools := by
  intro hname
  obtain ⟨seconds, guard, hprofile, hcounted, htimes, hright⟩ :=
    exists_guard hkey h hdone (done.length + 1 : ℕ) le_rfl
  have hlate := htimes elapsed List.mem_cons_self
  have hne : ∀ name ∈ subagentTools, name ≠ "" ∧ name ≠ "task" := by decide
  have hpasses : (recordMiddlewareToolCall guard request elapsed).1 = none := by
    rw [recordMiddlewareToolCall, if_neg (hne _ hname).1, if_pos hname]
    have hgated : guard.Gated argsKey some [.maxSubagentCalls, .sameSubagent request.name]
        (guard.recordSubagentCall request.name elapsed) :=
      RuntimeGuard.gated_recordSubagentCall hlate
    refine hgated.passes (by simp) fun b hb => ?_
    rw [hprofile]
    simp only [List.mem_cons, List.not_mem_nil, or_false] at hb
    rcases hb with rfl | rfl
    · exact Int.ofNat_le.mpr (Nat.succ_le_succ hcounted.subagents)
    · exact Int.ofNat_le.mpr (Nat.succ_le_succ (hcounted.names _))
  have hbudget : Budget.maxToolCalls ∈ Call.budgets key (.tool request elapsed native) := by
    simp [Call.budgets, (hne _ hname).2]
  have hroom := room_of_right hright hpasses hbudget
  rw [passed_map, hprofile] at hroom
  change _ ≤ (total (Call.budgets key) done .maxToolCalls : ℤ) at hroom
  omega

/-- A native tool that the guard refuses. -/
lemma callNativeTool_refused {toolName : String} {params : ToolArgs} {violation : GuardViolation}
    (hexecutes : registry.Executes guard.profile.name toolName)
    (hrecord : (guard.recordToolCall toolName params elapsed).1 = some violation) :
    (callNativeTool registry guard toolName params elapsed).1 = .refused violation := by
  obtain ⟨spec, hspec, hallowed, hrealtime⟩ := hexecutes
  rw [callNativeTool, if_neg hrealtime, hspec]
  show Prod.fst (if guard.profile.name ∉ spec.allowedProfiles then _ else _) = _
  rw [if_neg (not_not.mpr hallowed)]
  split
  · next houtcome =>
    rw [houtcome] at hrecord
    rw [Option.some.inj hrecord]
  · next houtcome =>
    rw [houtcome] at hrecord
    cases hrecord

/-- What a native tool is refused for. -/
lemma handle_native {native : NativeCall}
    (h : (recordMiddlewareToolCall guard request elapsed).1 = none) :
    (handle key registry guard (.tool request elapsed (some native))).1.refusals =
      (callNativeTool registry (recordMiddlewareToolCall guard request elapsed).2 request.name
        (runParams native.arguments) native.elapsed).1.refusals key := by
  rw [handle]
  split
  · next houtcome =>
    rw [houtcome] at h
    cases h
  · next houtcome => rw [houtcome]

/-- A guard whose tool calls are used up refuses the next one. -/
lemma recordToolCall_toolCalls {toolName : String} {args : ToolArgs}
    (hlate : guard.checkRuntime elapsed = false)
    (hfull : guard.profile.maxToolCalls < ((guard.toolCalls + 1 : ℕ) : ℤ)) :
    (guard.recordToolCall toolName args elapsed).1 = some .toolCalls := by
  rw [RuntimeGuard.recordToolCall, hlate]
  exact if_pos hfull

/-- A native tool is counted twice. -/
lemma native_eq_none (hkey : OfText key)
    (h : ∀ config, config.name = profile →
      BudgetsHold key registry config (done ++ .tool request elapsed native :: rest))
    (hdone : Recorded key registry profile done) :
    native = none ∨ ¬ registry.Executes profile request.name := by
  have hname := name_ne_empty hkey h hdone
  have htask := name_ne_task hkey h hdone
  have hsubagent := name_notMem_subagentTools hkey h hdone
  rw [or_iff_not_imp_right, not_not]
  intro hexecutes
  cases native with
  | none => rfl
  | some call =>
    exfalso
    have htotal : (total (Call.budgets key) done .maxToolCalls : ℤ) ≤
        total (Call.budgets key) done .maxToolCalls + 1 := by omega
    obtain ⟨seconds, guard, hprofile, hcounted, htimes, hright⟩ :=
      exists_guard hkey h hdone 0 htotal
    have hlate := htimes elapsed List.mem_cons_self
    have hrecord : recordMiddlewareToolCall guard request elapsed =
        guard.recordToolCall request.name request.args elapsed := by
      rw [recordMiddlewareToolCall, if_neg hname, if_neg hsubagent]
    have hgated : guard.Gated argsKey some _
        (guard.recordToolCall request.name request.args elapsed) :=
      RuntimeGuard.gated_recordToolCall (RuntimeGuard.ownCounter_argsKey _ _) hlate
    -- The middleware lets the call pass: its limit leaves room for one call.
    have hpasses : (recordMiddlewareToolCall guard request elapsed).1 = none := by
      rw [hrecord]
      refine recordToolCall_passes hcounted hlate ?_ (by rw [hprofile]; exact le_rfl)
      rw [hcounted.tools, hprofile]
      exact le_rfl
    -- The native tool is refused: it was counted already.
    have hprofile' := hgated.profile.trans hprofile
    have hcalls : (guard.recordToolCall request.name request.args elapsed).2.toolCalls =
        total (Call.budgets key) done .maxToolCalls + 1 := by
      have hcharge := congrFun hgated.count .maxToolCalls
      rw [charge_of_nodup (by simp), if_pos (by simp)] at hcharge
      rw [← hcounted.tools]
      exact hcharge
    have hrefused : (callNativeTool registry
        (guard.recordToolCall request.name request.args elapsed).2 request.name
        (runParams call.arguments) call.elapsed).1 = .refused .toolCalls := by
      refine callNativeTool_refused ?_ (recordToolCall_toolCalls ?_ ?_)
      · rw [hprofile']
        exact hexecutes
      · rw [RuntimeGuard.checkRuntime, hgated.profile]
        exact htimes call.elapsed (by simp [Call.times])
      · rw [hprofile', hcalls]
        show (total (Call.budgets key) done .maxToolCalls : ℤ) + 1 < _
        omega
    have hrefusals : (handle key registry guard (.tool request elapsed (some call))).1.refusals =
        [.maxToolCalls] := by
      rw [handle_native hpasses, hrecord, hrefused]
      rfl
    have hjustified := hright.justified .maxToolCalls (by simp [hrefusals])
    rw [attempted_concat, attempted_map, handle_event, hprofile] at hjustified
    change (total (Call.budgets key) done .maxToolCalls : ℤ) + 1 < _ at hjustified
    split at hjustified <;> omega

/-- With room for one call of equal arguments the first of the equal calls has passed. -/
lemma one_le_passed_equal (hkey : OfText key) (hdone : Recorded key registry profile done)
    {seconds : ℚ} (hinTime : ∀ c ∈ done, ∀ t ∈ c.times, t ≤ seconds) {r : ToolCall}
    (hr : r ∈ requests done) :
    1 ≤ passed (Call.budgets key) (trace (handle key registry)
      (.start (tight profile seconds (done.length + 1) (done.length + 1) 1 0)) done)
        (.sameToolSameArgs (key r.name r.args)) := by
  let config := tight profile seconds (done.length + 1) (done.length + 1) 1 0
  have hown := ownCounters_keyAmong hkey hdone.2
  have hgates : ∀ guard : RuntimeGuard, guard.profile = config → ∀ c ∈ done,
      Gates (Call.budgets key) config.limit (handle key registry)
        (RuntimeGuard.countBy (keyAmong key done)) guard c := by
    intro guard hguard c hc
    have hrecorded : Recorded key registry guard.profile.name done := hguard ▸ hdone
    rw [← hguard]
    exact gates_of_inTime hown hc (hrecorded.1 c hc) (hguard ▸ hinTime c hc)
  refine one_le_passed (I := fun guard => guard.profile = config) nodup_budgets
    (fun guard call hguard => (handle_profile key registry guard call).trans hguard) hgates rfl
    (RuntimeGuard.countBy_start _ _) (Int.le_refl 1) (fun c hc hb b' hb' hne => ?_) ?_
  · cases c with
    | model => simp [Call.budgets] at hb
    | tool request' elapsed' native' =>
      rw [Call.budgets, if_neg (hdone.1 _ hc).2.1] at hb hb'
      simp only [List.mem_cons, List.not_mem_nil, or_false, reduceCtorEq, false_or,
        Budget.sameToolSameArgs.injEq] at hb hb'
      rcases hb' with rfl | rfl
      · -- the other budget of the call has room for all calls of the run
        rw [RuntimeGuard.countBy_start, Nat.zero_add]
        have hle : (total (Call.budgets key) done .maxToolCalls : ℤ) ≤ done.length :=
          Int.ofNat_le.mpr (total_le _)
        exact hle.trans (by show (done.length : ℤ) ≤ (done.length : ℤ) + 1; omega)
      · exact absurd (by rw [hb]) hne
  · obtain ⟨c, hc, hcr⟩ := List.mem_filterMap.mp hr
    cases c with
    | model => cases hcr
    | tool request' elapsed' native' =>
      obtain rfl : request' = r := Option.some.inj hcr
      refine ⟨_, hc, ?_⟩
      rw [Call.budgets, if_neg (hdone.1 _ hc).2.1]
      exact List.mem_cons_of_mem _ List.mem_cons_self

/-- Equal arguments of one tool have one text. -/
lemma argsKey_eq (hkey : OfText key)
    (h : ∀ config, config.name = profile →
      BudgetsHold key registry config (done ++ .tool request elapsed native :: rest))
    (hdone : Recorded key registry profile done)
    (honce : RecordedOnce registry profile (.tool request elapsed native)) {r : ToolCall}
    (hr : r ∈ requests done) (hequal : key r.name r.args = key request.name request.args) :
    argsKey r.name r.args = argsKey request.name request.args := by
  by_contra htext
  obtain ⟨seconds, hseconds⟩ := exists_seconds (done ++ .tool request elapsed native :: rest)
  let config := tight profile seconds (done.length + 1) (done.length + 1) 1 0
  have hinTime : ∀ c ∈ done, ∀ t ∈ c.times, t ≤ seconds := fun c hc =>
    hseconds c (List.mem_append_left _ hc)
  have hdone' : Recorded key registry config.name done := hdone
  obtain ⟨hprofile, hcounted⟩ := counted_final hkey hdone' hinTime
  have hright := right_next (h config rfl)
  have hfirst : 1 ≤ passed (Call.budgets key) (trace (handle key registry) (.start config) done)
      (.sameToolSameArgs (key request.name request.args)) :=
    hequal ▸ one_le_passed_equal hkey hdone hinTime hr
  -- No call so far has the text of this one, so that it passes as well.
  have hnone : (final (handle key registry) (.start config) done).toolArgsCounts
      (argsKey request.name request.args) = 0 := by
    refine Nat.le_zero.mp ((hcounted.texts _).trans (Nat.le_zero.mpr ?_))
    rw [List.countP_eq_zero]
    intro r' hr'
    rw [decide_eq_true_eq]
    intro htext'
    have hsame := hdone.2 r' hr' r hr ((hkey htext').trans hequal.symm)
    exact htext (hsame.symm.trans htext')
  have hlate : (final (handle key registry) (.start config) done).checkRuntime elapsed = false := by
    rw [RuntimeGuard.checkRuntime, hprofile]
    exact decide_eq_false (not_lt.mpr
      (hseconds (.tool request elapsed native) (by simp) elapsed List.mem_cons_self))
  have hrecord : recordMiddlewareToolCall (final (handle key registry) (.start config) done) request
      elapsed = (final (handle key registry) (.start config) done).recordToolCall request.name
        request.args elapsed := by
    rw [recordMiddlewareToolCall, if_neg honce.1, if_neg honce.2.2.1]
  have hpasses : (recordMiddlewareToolCall (final (handle key registry) (.start config) done)
      request elapsed).1 = none := by
    rw [hrecord]
    refine (RuntimeGuard.gated_recordToolCall
      (RuntimeGuard.ownCounter_argsKey request.name request.args) hlate).passes (by simp)
      fun b hb => ?_
    rw [hprofile]
    simp only [List.mem_cons, List.not_mem_nil, or_false] at hb
    rcases hb with rfl | rfl
    · show (((final (handle key registry) (.start config) done).toolCalls + 1 : ℕ) : ℤ) ≤ _
      rw [hcounted.tools]
      exact Int.ofNat_le.mpr (Nat.succ_le_succ (total_le _))
    · show (((final (handle key registry) (.start config) done).toolArgsCounts
        (argsKey request.name request.args) + 1 : ℕ) : ℤ) ≤ 1
      rw [hnone]
      exact Int.le_refl 1
  have hbudget : Budget.sameToolSameArgs (key request.name request.args) ∈
      Call.budgets key (.tool request elapsed native) := by
    rw [Call.budgets, if_neg honce.2.1]
    exact List.mem_cons_of_mem _ List.mem_cons_self
  have hroom := room_of_right hright hpasses hbudget
  change _ ≤ (1 : ℤ) at hroom
  omega

/-- A call that keeps to the budgets of the profile is recorded once, and spelled like its
equals. -/
lemma recorded_concat (hkey : OfText key)
    (h : ∀ config, config.name = profile →
      BudgetsHold key registry config (done ++ call :: rest))
    (hdone : Recorded key registry profile done) :
    Recorded key registry profile (done ++ [call]) := by
  have honce : RecordedOnce registry profile call := by
    cases call with
    | model => trivial
    | tool request elapsed native =>
      exact ⟨name_ne_empty hkey h hdone, name_ne_task hkey h hdone,
        name_notMem_subagentTools hkey h hdone, native_eq_none hkey h hdone⟩
  refine ⟨?_, ?_⟩
  · intro c hc
    rcases List.mem_append.mp hc with hc | hc
    · exact hdone.1 c hc
    · rwa [List.mem_singleton.mp hc]
  · cases call with
    | model =>
      have hrequests : requests (done ++ [.model]) = requests done := by
        simp [requests]
      rw [SpelledAlike, hrequests]
      exact hdone.2
    | tool request elapsed native =>
      have hrequests : requests (done ++ [.tool request elapsed native]) =
          requests done ++ [request] := by
        simp [requests]
      rw [SpelledAlike, hrequests]
      intro r hr r' hr' hequal
      rcases List.mem_append.mp hr with hin | hlast <;>
        rcases List.mem_append.mp hr' with hin' | hlast'
      · exact hdone.2 r hin r' hin' hequal
      · obtain rfl := List.mem_singleton.mp hlast'
        exact argsKey_eq hkey h hdone honce hin hequal
      · obtain rfl := List.mem_singleton.mp hlast
        exact (argsKey_eq hkey h hdone honce hin' hequal.symm).symm
      · rw [List.mem_singleton.mp hlast, List.mem_singleton.mp hlast']

end NotRecordedOnce

/-- The budgets of a profile hold for a sequence of calls, whatever the limits are, exactly if each
call is recorded once, as what it is, and equal calls are spelled alike. -/
theorem budgetsHold_iff (intOf : FloatLit → Option ℤ) (registry : ToolRegistry) (profile : String)
    (calls : List Call) :
    (∀ config, config.name = profile →
        BudgetsHold (equalityKey intOf) registry config calls) ↔
      (∀ call ∈ calls, RecordedOnce registry profile call) ∧
        SpelledAlike (equalityKey intOf) calls := by
  have hkey : OfText (equalityKey intOf) := by
    intro toolName toolName' args args' h
    obtain ⟨rfl, hargs⟩ := argsKey_inj h
    rw [equalityKey, equalityKey, hargs]
  constructor
  · intro h
    by_contra hnot
    have hnone : Recorded (equalityKey intOf) registry profile [] :=
      ⟨fun _ hc => absurd hc List.not_mem_nil, fun _ hr => absurd hr List.not_mem_nil⟩
    have hlost : ¬ Recorded (equalityKey intOf) registry profile ([] ++ calls) := hnot
    obtain ⟨done, call, rest, rfl, hdone, hcall⟩ := exists_first hnone hlost
    exact hcall (recorded_concat hkey h hdone)
  · rintro ⟨honce, hspelled⟩ config rfl
    exact budgetsHold_of_recordedOnce hkey config honce hspelled

/-- Two delegations pass although the profile allows one. -/
theorem not_budgetsHold_task : ¬ ∀ (intOf : FloatLit → Option ℤ) registry config calls,
    BudgetsHold (equalityKey intOf) registry config calls := by
  intro h
  have hdelegation := h (fun _ => none) (fun _ => none) (tight "deep" 900 5 5 5 1)
    [.tool ⟨"task", [("subagent_type", .str "inventory"), ("description", .str "a")]⟩ 0 none,
      .tool ⟨"task", [("subagent_type", .str "campaign"), ("description", .str "b")]⟩ 0 none]
  have hright := hdelegation.2.1
  have hwithin := hright.within (by decide +kernel) .maxSubagentCalls (by decide +kernel)
  exact absurd hwithin (by decide +kernel)

end EcommerceAgent.Runtime.Guard
