/-
# The release gate

The system evaluator scores ten dimensions of the platform from deterministic checks of the code
base and from nine artifacts of the test suites, each of which may be absent, malformed or whatever
a run left behind, and decides whether the platform may be released.  A finding of severity `block`,
a score below the minimum of its dimension and a note about a missing artifact block the release.
Which artifacts the gate insists on, and that it never opens when a test that passed fails or is
missing, is `releaseGate`.
-/
import EcommerceAgent.Lib.PyFloat
import EcommerceAgent.Lib.Text

open EcommerceAgent.Lib

namespace EcommerceAgent.Evaluation

/-! ### `report.py` and `dimensions.py` -/

/-- `FindingSeverity`. -/
inductive Severity
  | info | warn | block
deriving DecidableEq, Repr

/-- `EvaluationFinding`. -/
structure Finding where
  message : String
  severity : Severity
  source : String
deriving DecidableEq, Repr

/-- `DimensionStatus`. -/
inductive DimensionStatus
  | pass | warn | fail | notRun
deriving DecidableEq, Repr

/-- `ReleaseDecision`. -/
inductive ReleaseDecision
  | pass | passWithWarnings | block
deriving DecidableEq, Repr

/-- The modes of the evaluator. -/
inductive Mode
  | dev | release
deriving DecidableEq, Repr

/-- The keys of `DIMENSION_SPECS`. -/
inductive DimensionKey
  | businessOutputQuality | plannerCompliance | subagentAssignment | toolContractSchema
  | runtimeBudget | memoryIsolation | sandboxSecurity | promptGuardSecurity
  | evaluationReflection | apiContractObservability
deriving DecidableEq, Repr

namespace DimensionKey

/-- All dimensions, in their order. -/
def all : List DimensionKey :=
  [businessOutputQuality, plannerCompliance, subagentAssignment, toolContractSchema, runtimeBudget,
    memoryIsolation, sandboxSecurity, promptGuardSecurity, evaluationReflection,
    apiContractObservability]

/-- `label`. -/
def label : DimensionKey → String
  | businessOutputQuality => "Business Output Quality"
  | plannerCompliance => "Planner Compliance"
  | subagentAssignment => "Subagent Assignment"
  | toolContractSchema => "Tool Contract And Schema"
  | runtimeBudget => "Runtime Budget And Loop Guard"
  | memoryIsolation => "Memory Isolation"
  | sandboxSecurity => "Docker Sandbox Security"
  | promptGuardSecurity => "Prompt Guard And Security"
  | evaluationReflection => "Evaluation And Reflection Quality"
  | apiContractObservability => "API Contract And Observability"

/-- `release_min_score`, for a dimension that `blocks_release`. -/
def releaseMinScore : DimensionKey → Option ℕ
  | plannerCompliance => some 85
  | memoryIsolation => some 95
  | sandboxSecurity => some 90
  | promptGuardSecurity => some 90
  | _ => none

lemma mem_all (key : DimensionKey) : key ∈ all := by cases key <;> decide

/-- A minimum is between 0 and 100. -/
lemma releaseMinScore_bounds {key : DimensionKey} {n : ℕ} (h : key.releaseMinScore = some n) :
    0 < n ∧ n ≤ 100 := by
  cases key <;> cases h <;> omega

end DimensionKey

variable {F : Type} [PyFloat F]

/-- `DimensionEvaluation`, without its evidence. -/
structure Dimension (F : Type) where
  score : F
  status : DimensionStatus
  findings : List Finding

/-- `EvaluationReport`, without the overall score and the confidence, which decide nothing. -/
structure Report (F : Type) where
  mode : Mode
  releaseDecision : ReleaseDecision
  dimensions : DimensionKey → Dimension F
  blockingFindings : List String
  coverageNotes : List String

/-! ### `checks.py` -/

/-- `CheckResult`. -/
structure CheckResult where
  name : String
  passed : Bool
  message : String
  severity : Severity
  score : ℕ
  score_le : score ≤ 100
deriving DecidableEq, Repr

/-- `CheckResult.finding`. -/
def CheckResult.finding (check : CheckResult) : Finding :=
  ⟨check.message, if check.passed then .info else check.severity, check.name⟩

/-- `pass_check`. -/
def passCheck (name message : String) : CheckResult := ⟨name, true, message, .info, 100, by omega⟩

/-- `warn_check`; its score is 70 wherever it is called. -/
def warnCheck (name message : String) : CheckResult := ⟨name, false, message, .warn, 70, by omega⟩

/-- A score and findings. -/
abbrev Scored (F : Type) := F × List Finding

/-- `score_checks`. -/
def scoreChecks (checks : List CheckResult) : Scored F :=
  if checks = [] then
    (PyFloat.lit 0, [⟨"No checks were registered.", .warn, "score_checks"⟩])
  else
    let total : ℕ := (checks.map fun item => if item.passed then 100 else item.score).sum
    let failed := (checks.filter fun item => !item.passed).map (·.finding)
    (PyFloat.ratio total checks.length,
      if failed = [] then
        [⟨"All " ++ toString checks.length ++ " deterministic checks passed.", .info,
          "score_checks"⟩]
      else failed)

/-- An element of an XML document. -/
inductive Xml
  | element (tag : String) (attrib : List (String × String)) (children : List Xml)

namespace Xml

/-- The tag. -/
def tag : Xml → String
  | element tag _ _ => tag

/-- The value of an attribute, or the empty text. -/
def attr (name : String) : Xml → String
  | element _ attrib _ => (attrib.lookup name).getD ""

/-- `findall(tag)`. -/
def findall (tag : String) : Xml → List Xml
  | element _ _ children => children.filter (·.tag == tag)

mutual

/-- `iter(tag)`. -/
def iter (tag : String) : Xml → List Xml
  | element tag' attrib children =>
    (if tag' = tag then [element tag' attrib children] else []) ++ iterAll tag children

/-- `iter(tag)` of several elements. -/
def iterAll (tag : String) : List Xml → List Xml
  | [] => []
  | x :: l => x.iter tag ++ iterAll tag l

end

end Xml

/-- A test of a run. -/
structure TestCase where
  name : String
  classname : String
  failed : Bool
  skipped : Bool
deriving DecidableEq, Repr

/-- The test of a `testcase` element. -/
def TestCase.ofXml (testcase : Xml) : TestCase where
  name := testcase.attr "name"
  classname := testcase.attr "classname"
  failed := !(testcase.findall "failure" ++ testcase.findall "error").isEmpty
  skipped := !(testcase.findall "skipped").isEmpty

/-- What is at the path of a JUnit artifact: nothing, something that `ElementTree.parse` refuses, or
a document. -/
inductive JunitFile
  | absent
  | malformed (error : String)
  | parsed (root : Xml)

/-- What is at the path of a JSON artifact: nothing, something that cannot be read as a text or that
`json.loads` refuses with another error, a text that is no JSON, or a value. -/
inductive JsonFile (F : Type)
  | absent
  | unreadable (error : String)
  | malformed (error : String)
  | parsed (value : PyValue F)

/-- `parse_junit`: the tests, or `none` if `exists` is false. -/
def parseJunit : JunitFile → Except String (Option (List TestCase))
  | .absent => .ok none
  | .malformed error => .error error
  | .parsed root => .ok (some ((root.iter "testcase").map .ofXml))

/-- `parse_json`: the dictionary, or `none` if `exists` is false. -/
def parseJson : JsonFile F → Except String (Option (PyDict F))
  | .absent => .ok none
  | .unreadable error => .error error
  | .malformed error => .ok (some (.ofEntries
      [(.str "exists", .bool true), (.str "status", .str "fail"), (.str "error", .str error)]))
  | .parsed (.dict d) => .ok (some ((PyDict.ofEntries d).set "exists" (.bool true)))
  | .parsed (.list _) => .error "list indices must be integers or slices, not str"
  | .parsed v => .error ("'" ++ v.typeName ++ "' object does not support item assignment")

/-- `junit_score`. -/
def junitScore (run : Option (List TestCase)) (label : String) : Option F × List Finding :=
  match run with
  | none => (none, [⟨label ++ " artifact not found.", .warn, "junit"⟩])
  | some [] => (some (PyFloat.lit 0), [⟨label ++ " artifact contains no tests.", .warn, "junit"⟩])
  | some tests =>
    let failed := tests.countP (·.failed)
    let skipped := tests.countP (·.skipped)
    let passed : ℤ := tests.length - failed - skipped
    (some (PyFloat.ratio (100 * passed) tests.length),
      (if failed = 0 then []
        else [⟨label ++ " has " ++ toString failed ++ " failing tests.", .block, "junit"⟩]) ++
      if skipped = 0 then []
      else [⟨label ++ " has " ++ toString skipped ++ " skipped tests.", .warn, "junit"⟩])

/-! ### `scorecard.py` -/

/-- `status_for_score`. -/
def statusForScore (score : F) (warnAt passAt : ℕ) : DimensionStatus :=
  if PyFloat.le (PyFloat.lit passAt) score then .pass
  else if PyFloat.le (PyFloat.lit warnAt) score then .warn
  else .fail

/-- `build_dimension`. -/
def buildDimension (scored : Scored F) (passAt warnAt : ℕ) : Dimension F where
  score := PyFloat.clamp scored.1
  status :=
    if scored.2.any (·.severity == .block) then .fail else statusForScore scored.1 warnAt passAt
  findings := scored.2

/-- A note mentions all the words, which are in lower case. -/
def mentions (words : List String) (note : String) : Bool :=
  words.all fun word => Text.contains (Text.lower note.toList) word.toList

/-- The blocking findings of `decide_release`. -/
def blockingFindings (mode : Mode) (dimensions : DimensionKey → Dimension F)
    (coverageNotes : List String) : List String :=
  (DimensionKey.all.flatMap fun key =>
    (((dimensions key).findings.filter (·.severity == .block)).map fun finding =>
      key.label ++ ": " ++ finding.message) ++
    match key.releaseMinScore with
    | none => []
    | some minimum =>
      if mode = .release ∧ PyFloat.lt (dimensions key).score (PyFloat.lit minimum) then
        [key.label ++ " score " ++ PyFloat.fixed (dimensions key).score ++
          " is below release minimum " ++ toString minimum ++ ".0."]
      else []) ++
  if mode = .release then
    (if coverageNotes.any (mentions ["e2e", "not_run"]) then ["Release mode requires E2E results."]
      else []) ++
    (if coverageNotes.any (mentions ["performance not_run"]) then
      ["Release mode requires performance results."] else []) ++
    (if coverageNotes.any (mentions ["chaos not_run"]) then
      ["Release mode requires chaos results."] else [])
  else []

/-- `decide_release`. -/
def decideRelease (mode : Mode) (dimensions : DimensionKey → Dimension F)
    (coverageNotes : List String) : ReleaseDecision × List String :=
  let blocking := blockingFindings mode dimensions coverageNotes
  if blocking ≠ [] then (.block, blocking)
  else if (DimensionKey.all.any fun key => (dimensions key).status != .pass) ∨
      coverageNotes ≠ [] then
    (.passWithWarnings, [])
  else (.pass, [])

/-- `build_report`. -/
def buildReport (mode : Mode) (dimensions : DimensionKey → Dimension F)
    (coverageNotes : List String) : Report F :=
  let (decision, blocking) := decideRelease mode dimensions coverageNotes
  ⟨mode, decision, dimensions, blocking, coverageNotes⟩

/-! ### `system_evaluator.py` -/

/-- The names of the JUnit artifacts. -/
inductive JunitKind
  | unit | contract | security | evals | e2e
deriving DecidableEq, Repr

/-- The names of the JSON artifacts. -/
inductive JsonKind
  | summary | evalQuality | performance | chaos
deriving DecidableEq, Repr

/-- What is at the paths of `test_artifact_paths`. -/
structure ArtifactFiles (F : Type) where
  junit : JunitKind → JunitFile
  json : JsonKind → JsonFile F

/-- What `_load_artifacts` returns. -/
structure Artifacts (F : Type) [PyFloat F] where
  junit : JunitKind → Option (List TestCase)
  json : JsonKind → Option (PyDict F)

/-- The results of the checks that look at the code base only.  In the checks of the API the one of
the summary is not among them. -/
structure StaticChecks where
  planner : List CheckResult
  subagents : List CheckResult
  tools : List CheckResult
  runtime : List CheckResult
  memory : List CheckResult
  sandbox : List CheckResult
  promptGuard : List CheckResult
  reflection : List CheckResult
  api : List CheckResult

/-- `_load_artifacts`. -/
def loadArtifacts (files : ArtifactFiles F) : Except String (Artifacts F) := do
  let unit ← parseJunit (files.junit .unit)
  let contract ← parseJunit (files.junit .contract)
  let security ← parseJunit (files.junit .security)
  let evals ← parseJunit (files.junit .evals)
  let e2e ← parseJunit (files.junit .e2e)
  let summary ← parseJson (files.json .summary)
  let evalQuality ← parseJson (files.json .evalQuality)
  let performance ← parseJson (files.json .performance)
  let chaos ← parseJson (files.json .chaos)
  return {
    junit := fun
      | .unit => unit
      | .contract => contract
      | .security => security
      | .evals => evals
      | .e2e => e2e
    json := fun
      | .summary => summary
      | .evalQuality => evalQuality
      | .performance => performance
      | .chaos => chaos }

/-- `not artifact.get("exists") or artifact.get("status") == "not_run"`. -/
def notRun : Option (PyDict F) → Bool
  | none => true
  | some d =>
    match d.get "status" with
    | .str status => status == "not_run"
    | _ => false

/-- The score and the findings, weighted with those of an artifact if it is there. -/
def withJunit (c d : ℕ) (run : Option (List TestCase)) (label : String) (scored : Scored F) :
    Scored F :=
  let junit : Option F × List Finding := junitScore run label
  match junit.1 with
  | none => scored
  | some score => (PyFloat.weigh c scored.1 d score, scored.2 ++ junit.2)

/-- The score and the findings, weighted with those of the end-to-end tests; without them the score
is at most 85. -/
def withE2e (c d : ℕ) (run : Option (List TestCase)) (label : String) (missing : Finding)
    (scored : Scored F) : Scored F :=
  match run with
  | none => (PyFloat.min scored.1 (PyFloat.lit 85), scored.2 ++ [missing])
  | some tests => withJunit c d (some tests) label scored

/-- The score is at most 90 without a run of the artifact. -/
def withRun (artifact : Option (PyDict F)) (missing : Finding) (scored : Scored F) : Scored F :=
  if notRun artifact then (PyFloat.min scored.1 (PyFloat.lit 90), scored.2 ++ [missing]) else scored

section

variable (checks : StaticChecks) (a : Artifacts F)

/-- `_business_output_quality`. -/
def businessOutputQuality : Except String (Dimension F) :=
  match a.json .evalQuality with
  | some data => do
    let passRate ← ((data.get "pass_rate").or (.int 0)).toFloat
    let hallucination ← ((data.get "hallucination_pass_rate").or (.float passRate)).toFloat
    let score := PyFloat.mul (PyFloat.weigh 75 passRate 25 hallucination) (PyFloat.lit 100)
    let findings := ⟨"Planner/business eval pass rate: " ++ PyFloat.percent passRate ++ ".", .info,
        "eval-quality"⟩ ::
      if (data.get "failed").truthy then
        [⟨(data.get "failed").text ++ " eval cases failed.", .warn, "eval-quality"⟩]
      else []
    return buildDimension (score, findings) 90 75
  | none =>
    return buildDimension (scoreChecks
      [passCheck "evaluation_agent" "Evaluation Agent module is present.",
        warnCheck "llm_judge" ("LLM judge artifact eval-quality.json not found; " ++
          "business quality uses deterministic coverage only.")]) 90 75

/-- `_planner_compliance`. -/
def plannerCompliance : Dimension F :=
  buildDimension (withJunit 70 30 (a.junit .contract) "contract" (scoreChecks checks.planner)) 90 75

/-- `_subagent_assignment`. -/
def subagentAssignment : Dimension F := buildDimension (scoreChecks checks.subagents) 90 75

/-- `_tool_contract_schema`. -/
def toolContractSchema : Dimension F := buildDimension (scoreChecks checks.tools) 90 75

/-- `_runtime_budget`. -/
def runtimeBudget : Dimension F :=
  buildDimension (withRun (a.json .chaos)
    ⟨"Chaos artifact not_run; loop guard and recovery proof is incomplete.", .warn, "chaos"⟩
    (withRun (a.json .performance)
      ⟨"Performance artifact not_run; runtime budget cannot receive full operational proof.", .warn,
        "performance"⟩ (scoreChecks checks.runtime))) 90 75

/-- `_memory_isolation`. -/
def memoryIsolation : Dimension F :=
  buildDimension (withJunit 75 25 (a.junit .security) "security" (scoreChecks checks.memory)) 95 85

/-- The score of the unit tests has little weight in `_sandbox_security`, and of their findings only
those that mention the sandbox are kept. -/
def withUnit (run : Option (List TestCase)) (scored : Scored F) : Scored F :=
  let junit : Option F × List Finding := junitScore run "unit"
  match junit.1 with
  | none => scored
  | some score =>
    (PyFloat.weigh 90 scored.1 10 score,
      scored.2 ++ junit.2.filter fun finding => mentions ["sandbox"] finding.message)

/-- `_sandbox_security`. -/
def sandboxSecurity : Dimension F :=
  buildDimension (withE2e 70 30 (a.junit .e2e) "sandbox e2e"
    ⟨"Sandbox HTTP E2E artifact not_run; container hardening is static-only evidence.", .warn,
      "sandbox-e2e"⟩ (withUnit (a.junit .unit) (scoreChecks checks.sandbox))) 95 85

/-- `_prompt_guard_security`. -/
def promptGuardSecurity : Dimension F :=
  buildDimension (withJunit 70 30 (a.junit .security) "security"
    (scoreChecks checks.promptGuard)) 95 85

/-- `_evaluation_reflection`. -/
def evaluationReflection : Dimension F := buildDimension (scoreChecks checks.reflection) 90 75

/-- The check of the summary. -/
def summaryCheck : CheckResult :=
  if (a.json .summary).all fun summary =>
      summary.entries.any (·.1.same (.str "release_decision")) then
    passCheck "summary_release" "Nonfunctional summary exposes release_decision."
  else warnCheck "summary_release" "summary.json exists but has no release_decision."

/-- `_api_contract_observability`. -/
def apiContractObservability : Dimension F :=
  buildDimension (withE2e 75 25 (a.junit .e2e) "e2e"
    ⟨"E2E artifact not_run; API contract is not fully proven through the live stack.", .warn, "e2e"⟩
    (withJunit 65 35 (a.junit .contract) "contract"
      (scoreChecks (checks.api ++ [summaryCheck a])))) 90 75

/-- The dimensions of `evaluate`. -/
def dimensions (quality : Dimension F) : DimensionKey → Dimension F
  | .businessOutputQuality => quality
  | .plannerCompliance => plannerCompliance checks a
  | .subagentAssignment => subagentAssignment checks
  | .toolContractSchema => toolContractSchema checks
  | .runtimeBudget => runtimeBudget checks a
  | .memoryIsolation => memoryIsolation checks a
  | .sandboxSecurity => sandboxSecurity checks a
  | .promptGuardSecurity => promptGuardSecurity checks a
  | .evaluationReflection => evaluationReflection checks
  | .apiContractObservability => apiContractObservability checks a

/-- `_coverage_notes`. -/
def coverageNotes (mode : Mode) : List String :=
  (if (a.json .evalQuality).isNone then
    ["LLM/business judge artifact eval-quality.json not_run; deterministic checks used."]
  else []) ++
  (if (a.junit .e2e).isNone then ["e2e not_run"] else []) ++
  (if notRun (a.json .performance) then ["performance not_run"] else []) ++
  (if notRun (a.json .chaos) then ["chaos not_run"] else []) ++
  if mode = .dev then ["dev mode allows performance/chaos/LLM judge to be skipped with warnings."]
  else []

end

/-- `SystemEvaluator.evaluate`. -/
def evaluate (checks : StaticChecks) (files : ArtifactFiles F) (mode : Mode) :
    Except String (Report F) := do
  let artifacts ← loadArtifacts files
  let quality ← businessOutputQuality artifacts
  return buildReport mode (dimensions checks artifacts quality) (coverageNotes artifacts mode)

/-! ### What the gate insists on -/

/-- The file is no document that `ElementTree.parse` refuses. -/
def JunitFile.wellFormed : JunitFile → Bool
  | malformed _ => false
  | _ => true

/-- The file can be read, and if it is JSON, it is an object. -/
def JsonFile.readable : JsonFile F → Bool
  | unreadable _ => false
  | parsed (.dict _) => true
  | parsed _ => false
  | _ => true

/-- `float` accepts the pass rates. -/
def Rates (data : PyDict F) : Prop :=
  ∃ passRate hallucination, ((data.get "pass_rate").or (.int 0)).toFloat = .ok passRate ∧
    ((data.get "hallucination_pass_rate").or (.float passRate)).toFloat = .ok hallucination

/-- The artifacts can be evaluated: every JUnit file that is there is well-formed XML, every JSON
file that is JSON is an object, and the pass rates are numbers. -/
structure ArtifactFiles.Readable (files : ArtifactFiles F) : Prop where
  junit : ∀ kind, (files.junit kind).wellFormed = true
  json : ∀ kind, (files.json kind).readable = true
  rates : ∀ d, files.json .evalQuality = .parsed (.dict d) → Rates (PyDict.ofEntries d)

/-- A test has failed. -/
def failing (run : Option (List TestCase)) : Bool := run.any (·.any (·.failed))

/-- The suites whose failures block the release. -/
def gatedSuites : List JunitKind := [.contract, .security, .e2e]

/-- What the gate insists on: end-to-end tests, a performance run and a chaos run, and no failing
test among those of the contract, the security and the end-to-end suites. -/
structure Artifacts.Complete (a : Artifacts F) : Prop where
  e2e : (a.junit .e2e).isSome = true
  performance : notRun (a.json .performance) = false
  chaos : notRun (a.json .chaos) = false
  passed : ∀ kind ∈ gatedSuites, failing (a.junit kind) = false

/-- One test that has passed fails, or is missing. -/
inductive TestsWorse : List TestCase → List TestCase → Prop
  | fails (before : List TestCase) (test : TestCase) (after : List TestCase) :
      test.failed = false → test.skipped = false →
      TestsWorse (before ++ test :: after) (before ++ { test with failed := true } :: after)
  | missing (before : List TestCase) (test : TestCase) (after : List TestCase) :
      test.failed = false → test.skipped = false →
      TestsWorse (before ++ test :: after) (before ++ after)

/-- There are tests, and each of them has passed. -/
def AllPassed (tests : List TestCase) : Prop :=
  tests ≠ [] ∧ ∀ test ∈ tests, test.failed = false ∧ test.skipped = false

/-- The artifacts are worse in one respect: a test of a suite that has passed fails or is missing; a
gated suite fails, or a unit suite that had passed as a whole; the end-to-end suite is absent, or
another suite that had passed as a whole; a performance or chaos run that had taken place has failed
or is absent.  The other artifacts may be worse in every respect. -/
inductive Artifacts.Worse (a : Artifacts F) : Artifacts F → Prop
  | test (kind : JunitKind) {tests tests' : List TestCase} : a.junit kind = some tests →
      TestsWorse tests tests' →
      Worse a { a with junit := Function.update a.junit kind (some tests') }
  | suite {kind : JunitKind} {tests : List TestCase} : kind ∈ gatedSuites →
      failing (some tests) = true →
      Worse a { a with junit := Function.update a.junit kind (some tests) }
  | unit {tests tests' : List TestCase} : a.junit .unit = some tests → AllPassed tests →
      failing (some tests') = true →
      Worse a { a with junit := Function.update a.junit .unit (some tests') }
  | noE2e : Worse a { a with junit := Function.update a.junit .e2e none }
  | noSuite {kind : JunitKind} {tests : List TestCase} :
      kind ∈ [JunitKind.unit, .contract, .security] → a.junit kind = some tests →
      AllPassed tests → Worse a { a with junit := Function.update a.junit kind none }
  | evals (run : Option (List TestCase)) :
      Worse a { a with junit := Function.update a.junit .evals run }
  | judge {kind : JsonKind} (artifact : Option (PyDict F)) :
      kind = .summary ∨ kind = .evalQuality →
      Worse a { a with json := Function.update a.json kind artifact }
  | run {kind : JsonKind} {artifact : Option (PyDict F)} : kind = .performance ∨ kind = .chaos →
      notRun (a.json kind) = false →
      (artifact = none ∨ ∃ d, artifact = some d ∧ d.get "status" = .str "fail") →
      Worse a { a with json := Function.update a.json kind artifact }

/-! ### Loading -/

lemma parseJunit_ok {file : JunitFile} :
    (∃ run, parseJunit file = .ok run) ↔ file.wellFormed = true := by
  cases file <;> simp [parseJunit, JunitFile.wellFormed]

lemma parseJson_ok {file : JsonFile F} :
    (∃ artifact, parseJson file = .ok artifact) ↔ file.readable = true := by
  cases file with
  | parsed v => cases v <;> simp [parseJson, JsonFile.readable]
  | absent | unreadable | malformed => simp [parseJson, JsonFile.readable]

/-- Loading parses every file. -/
lemma loadArtifacts_eq_ok {files : ArtifactFiles F} {a : Artifacts F} :
    loadArtifacts files = .ok a ↔ (∀ kind, parseJunit (files.junit kind) = .ok (a.junit kind)) ∧
      ∀ kind, parseJson (files.json kind) = .ok (a.json kind) := by
  simp only [loadArtifacts, bind_eq_ok]
  constructor
  · rintro ⟨unit, hunit, contract, hcontract, security, hsecurity, evals, hevals, e2e, he2e,
      summary, hsummary, quality, hquality, performance, hperformance, chaos, hchaos, h⟩
    cases h
    exact ⟨fun kind => by cases kind <;> assumption, fun kind => by cases kind <;> assumption⟩
  · rintro ⟨hjunit, hjson⟩
    refine ⟨_, hjunit .unit, _, hjunit .contract, _, hjunit .security, _, hjunit .evals, _,
      hjunit .e2e, _, hjson .summary, _, hjson .evalQuality, _, hjson .performance, _,
      hjson .chaos, ?_⟩
    obtain ⟨junit, json⟩ := a
    refine congrArg Except.ok ?_
    congr 1
    · funext kind
      cases kind <;> rfl
    · funext kind
      cases kind <;> rfl

/-- A report is made of loaded artifacts and the quality of the business output. -/
lemma evaluate_eq_ok {checks : StaticChecks} {files : ArtifactFiles F} {mode : Mode}
    {report : Report F} :
    evaluate checks files mode = .ok report ↔ ∃ a quality, loadArtifacts files = .ok a ∧
      businessOutputQuality a = .ok quality ∧
      report = buildReport mode (dimensions checks a quality) (coverageNotes a mode) := by
  simp only [evaluate, bind_eq_ok]
  constructor
  · rintro ⟨a, ha, quality, hquality, h⟩
    cases h
    exact ⟨a, quality, ha, hquality, rfl⟩
  · rintro ⟨a, quality, ha, hquality, rfl⟩
    exact ⟨a, ha, quality, hquality, rfl⟩

lemma businessOutputQuality_of_none {a : Artifacts F} (h : a.json .evalQuality = none) :
    ∃ quality, businessOutputQuality a = .ok quality := by
  simp only [businessOutputQuality, h]
  exact ⟨_, rfl⟩

lemma businessOutputQuality_of_some {a : Artifacts F} {data : PyDict F}
    (h : a.json .evalQuality = some data) :
    (∃ quality, businessOutputQuality a = .ok quality) ↔ Rates data := by
  simp only [businessOutputQuality, h, bind_eq_ok]
  constructor
  · rintro ⟨_, p, hp, q, hq, _⟩
    exact ⟨p, q, hp, hq⟩
  · rintro ⟨p, q, hp, hq⟩
    exact ⟨_, p, hp, q, hq, rfl⟩

/-- A dictionary without pass rates has acceptable ones. -/
lemma rates_of_missing {data : PyDict F} (hpass : data.get "pass_rate" = .none)
    (hhallucination : data.get "hallucination_pass_rate" = .none) : Rates data := by
  obtain ⟨x, hx⟩ := PyFloat.ofInt_zero (F := F)
  exact ⟨x, x, by rw [hpass]; exact hx, by rw [hhallucination]; rfl⟩

lemma rates_set (data : PyDict F) (v : PyValue F) : Rates (data.set "exists" v) ↔ Rates data := by
  simp only [Rates, PyDict.get_set]
  rfl

/-- The evaluation returns a report if and only if the artifacts can be evaluated. -/
lemma evaluate_ok_iff (checks : StaticChecks) (files : ArtifactFiles F) (mode : Mode) :
    (∃ report, evaluate checks files mode = .ok report) ↔ files.Readable := by
  constructor
  · rintro ⟨report, hreport⟩
    obtain ⟨a, quality, ha, hquality, _⟩ := evaluate_eq_ok.1 hreport
    obtain ⟨hjunit, hjson⟩ := loadArtifacts_eq_ok.1 ha
    refine ⟨fun kind => parseJunit_ok.1 ⟨_, hjunit kind⟩,
      fun kind => parseJson_ok.1 ⟨_, hjson kind⟩, fun d hd => ?_⟩
    have hdata := hjson .evalQuality
    rw [hd] at hdata
    have hrates := (businessOutputQuality_of_some (Except.ok.inj hdata).symm).1 ⟨quality, hquality⟩
    exact (rates_set _ _).1 hrates
  · intro h
    choose junit hjunit using fun kind => parseJunit_ok.2 (h.junit kind)
    choose json hjson using fun kind => parseJson_ok.2 (h.json kind)
    let a : Artifacts F := ⟨junit, json⟩
    have ha : loadArtifacts files = .ok a := loadArtifacts_eq_ok.2 ⟨hjunit, hjson⟩
    have hquality : ∃ quality, businessOutputQuality a = .ok quality := by
      have hdata := hjson .evalQuality
      cases hfile : files.json .evalQuality with
      | absent =>
        rw [hfile] at hdata
        exact businessOutputQuality_of_none (Except.ok.inj hdata).symm
      | unreadable error =>
        rw [hfile] at hdata
        cases hdata
      | malformed error =>
        rw [hfile] at hdata
        refine (businessOutputQuality_of_some (Except.ok.inj hdata).symm).2 ?_
        exact rates_of_missing rfl rfl
      | parsed v =>
        rw [hfile] at hdata
        cases v with
        | dict d =>
          refine (businessOutputQuality_of_some (Except.ok.inj hdata).symm).2 ?_
          exact (rates_set _ _).2 (h.rates d hfile)
        | none | bool | int | float | str | list => cases hdata
    obtain ⟨quality, hquality⟩ := hquality
    exact ⟨_, evaluate_eq_ok.2 ⟨a, quality, ha, hquality, rfl⟩⟩

/-! ### When a release is blocked -/

/-- A finding blocks. -/
def Blocks (findings : List Finding) : Prop := ∃ finding ∈ findings, finding.severity = .block

lemma blocks_append {l l' : List Finding} : Blocks (l ++ l') ↔ Blocks l ∨ Blocks l' := by
  simp [Blocks, or_and_right, exists_or]

lemma not_blocks_singleton {finding : Finding} (h : finding.severity ≠ .block) :
    ¬ Blocks [finding] := by
  simpa [Blocks] using h

/-- What a score misses. -/
def Misses (dimensions : DimensionKey → Dimension F) (key : DimensionKey) : Prop :=
  ∃ minimum, key.releaseMinScore = some minimum ∧
    PyFloat.lt (dimensions key).score (PyFloat.lit minimum) = true

/-- A release is blocked by a finding, by a score or by a note. -/
lemma blockingFindings_ne_nil (dimensions : DimensionKey → Dimension F) (notes : List String) :
    blockingFindings .release dimensions notes ≠ [] ↔
      (∃ key, Blocks (dimensions key).findings) ∨ (∃ key, Misses dimensions key) ∨
      notes.any (mentions ["e2e", "not_run"]) = true ∨
      notes.any (mentions ["performance not_run"]) = true ∨
      notes.any (mentions ["chaos not_run"]) = true := by
  have hkey : ∀ key : DimensionKey,
      (((dimensions key).findings.filter (·.severity == .block)).map fun finding =>
        key.label ++ ": " ++ finding.message) ++
      (match key.releaseMinScore with
      | none => []
      | some minimum =>
        if Mode.release = Mode.release ∧
            PyFloat.lt (dimensions key).score (PyFloat.lit minimum) = true then
          [key.label ++ " score " ++ PyFloat.fixed (dimensions key).score ++
            " is below release minimum " ++ toString minimum ++ ".0."]
        else []) ≠ [] ↔ Blocks (dimensions key).findings ∨ Misses dimensions key := by
    intro key
    rw [ne_eq, List.append_eq_nil_iff, not_and_or]
    refine or_congr ?_ ?_
    · simp [Blocks]
    · cases hmin : key.releaseMinScore with
      | none => simp [Misses, hmin]
      | some minimum => simp [Misses, hmin]
  have hall : (DimensionKey.all.flatMap fun key =>
      (((dimensions key).findings.filter (·.severity == .block)).map fun finding =>
        key.label ++ ": " ++ finding.message) ++
      match key.releaseMinScore with
      | none => []
      | some minimum =>
        if Mode.release = Mode.release ∧
            PyFloat.lt (dimensions key).score (PyFloat.lit minimum) = true then
          [key.label ++ " score " ++ PyFloat.fixed (dimensions key).score ++
            " is below release minimum " ++ toString minimum ++ ".0."]
        else []) ≠ [] ↔
      ∃ key, Blocks (dimensions key).findings ∨ Misses dimensions key := by
    rw [ne_eq, List.flatMap_eq_nil_iff]
    push Not
    refine exists_congr fun key => ?_
    rw [← hkey key]
    exact ⟨fun h => h.2, fun h => ⟨key.mem_all, h⟩⟩
  rw [blockingFindings, ne_eq, List.append_eq_nil_iff, not_and_or, ← ne_eq, hall, exists_or,
    or_assoc]
  refine or_congr_right (or_congr_right ?_)
  rw [if_pos rfl, List.append_eq_nil_iff, List.append_eq_nil_iff]
  simp only [ite_eq_right_iff, List.cons_ne_nil, imp_false, not_and_or, not_not, or_assoc]

/-- The decision of a report. -/
lemma releaseDecision_eq_block (mode : Mode) (dimensions : DimensionKey → Dimension F)
    (notes : List String) :
    (buildReport mode dimensions notes).releaseDecision = .block ↔
      blockingFindings mode dimensions notes ≠ [] := by
  simp only [buildReport, decideRelease]
  by_cases h : blockingFindings mode dimensions notes ≠ []
  · simp [h]
  · simp only [h, if_false]
    split <;> simp

/-! ### The notes -/

/-- The notes of a release. -/
lemma coverageNotes_release (a : Artifacts F) :
    ((coverageNotes a .release).any (mentions ["e2e", "not_run"]) = true ↔
      (a.junit .e2e).isSome = false) ∧
    ((coverageNotes a .release).any (mentions ["performance not_run"]) = true ↔
      notRun (a.json .performance) = true) ∧
    ((coverageNotes a .release).any (mentions ["chaos not_run"]) = true ↔
      notRun (a.json .chaos) = true) := by
  have hdev : ¬ Mode.release = Mode.dev := by decide
  have hquality : ∀ words ∈ [["e2e", "not_run"], ["performance not_run"], ["chaos not_run"]],
      mentions words
        "LLM/business judge artifact eval-quality.json not_run; deterministic checks used." =
          false := by decide +kernel
  have he2e : mentions ["e2e", "not_run"] "e2e not_run" = true ∧
      mentions ["performance not_run"] "e2e not_run" = false ∧
      mentions ["chaos not_run"] "e2e not_run" = false := by decide +kernel
  have hperformance : mentions ["e2e", "not_run"] "performance not_run" = false ∧
      mentions ["performance not_run"] "performance not_run" = true ∧
      mentions ["chaos not_run"] "performance not_run" = false := by decide +kernel
  have hchaos : mentions ["e2e", "not_run"] "chaos not_run" = false ∧
      mentions ["performance not_run"] "chaos not_run" = false ∧
      mentions ["chaos not_run"] "chaos not_run" = true := by decide +kernel
  simp only [List.forall_mem_cons, List.not_mem_nil, false_imp_iff, implies_true, and_true]
    at hquality
  have hlist : ∀ (b : Bool) (words : List String) (note : String),
      (if b = true then [note] else []).any (mentions words) = (b && mentions words note) := by
    intro b words note
    cases b <;> simp
  simp only [coverageNotes, hdev, if_false, List.append_nil, List.any_append, hlist, hquality, he2e,
    hperformance, hchaos, Bool.and_false, Bool.and_true, Bool.or_false, Bool.false_or, and_true]
  simp

/-! ### The findings of the artifacts -/

/-- The findings of a run. -/
lemma blocks_junitScore (run : Option (List TestCase)) (label : String) :
    Blocks (junitScore run label : Option F × List Finding).2 ↔ failing run = true := by
  match run with
  | none => exact iff_of_false (not_blocks_singleton Severity.noConfusion) (by simp [failing])
  | some [] => exact iff_of_false (not_blocks_singleton Severity.noConfusion) (by simp [failing])
  | some (test :: tests) =>
    have hcount : (test :: tests).countP (·.failed) = 0 ↔
        failing (some (test :: tests)) = false := by
      simp [failing, List.countP_eq_zero]
    simp only [junitScore, blocks_append]
    by_cases hfailed : (test :: tests).countP (·.failed) = 0
    · rw [if_pos hfailed, hcount.1 hfailed]
      split <;> simp [Blocks]
    · rw [if_neg hfailed, Bool.eq_true_of_not_eq_false (mt hcount.2 hfailed)]
      simp [Blocks]

lemma blocks_withJunit (c d : ℕ) (run : Option (List TestCase)) (label : String)
    (scored : Scored F) :
    Blocks (withJunit c d run label scored).2 ↔ Blocks scored.2 ∨ failing run = true := by
  cases run with
  | none => simp [withJunit, junitScore, failing]
  | some tests =>
    have hscore : ∃ score, (junitScore (some tests) label : Option F × List Finding).1 =
        some score := by cases tests <;> exact ⟨_, rfl⟩
    obtain ⟨score, hscore⟩ := hscore
    rw [withJunit]
    simp only [hscore]
    rw [blocks_append, blocks_junitScore]

lemma blocks_withE2e (c d : ℕ) (run : Option (List TestCase)) (label : String) {missing : Finding}
    (hmissing : missing.severity ≠ .block) (scored : Scored F) :
    Blocks (withE2e c d run label missing scored).2 ↔ Blocks scored.2 ∨ failing run = true := by
  cases run with
  | none =>
    rw [withE2e, blocks_append]
    exact or_congr_right (iff_of_false (not_blocks_singleton hmissing) (by simp [failing]))
  | some tests => exact blocks_withJunit c d (some tests) label scored

lemma blocks_withRun (artifact : Option (PyDict F)) {missing : Finding}
    (hmissing : missing.severity ≠ .block) (scored : Scored F) :
    Blocks (withRun artifact missing scored).2 ↔ Blocks scored.2 := by
  rw [withRun]
  split
  · rw [blocks_append]
    exact or_iff_left (not_blocks_singleton hmissing)
  · rfl

/-- A text that lacks a letter of a word does not contain the word. -/
lemma not_contains {s word : List Char} {c : Char} (hc : c ∈ word) (hs : c ∉ s) :
    Text.contains s word = false := by
  rw [Bool.eq_false_iff]
  intro h
  exact hs (((Text.contains_iff s word).1 h).subset hc)

lemma lowerChar_of_isDigit {c : Char} (h : c.isDigit = true) : Text.lowerChar c = [c] := by
  have hrange : 48 ≤ c.toNat ∧ c.toNat ≤ 57 := by
    simpa [Char.isDigit, UInt32.le_iff_toNat_le] using h
  have hupper : ¬ ('A' ≤ c ∧ c ≤ 'Z') := by
    rintro ⟨hle, _⟩
    have hle : 65 ≤ c.toNat := hle
    omega
  rw [Text.lowerChar, if_neg hupper, if_neg, if_neg]
  · simp only [beq_iff_eq]
    omega
  · simp only [beq_iff_eq]
    omega

/-- The finding about failing unit tests does not mention the sandbox. -/
lemma not_mentions_sandbox (n : ℕ) :
    mentions ["sandbox"] ("unit" ++ " has " ++ toString n ++ " failing tests.") = false := by
  have hdigits : 'x' ∉ Text.lower (toString n).toList := by
    intro h
    obtain ⟨c, hc, hx⟩ := List.mem_flatMap.1 h
    have hdigit : c.isDigit = true :=
      Nat.isDigit_of_mem_toDigits (b := 10) (by decide) (by decide) (by simpa using hc)
    rw [lowerChar_of_isDigit hdigit, List.mem_singleton] at hx
    rw [← hx] at hdigit
    exact absurd hdigit (by decide)
  have hx : 'x' ∉ Text.lower ("unit" ++ " has " ++ toString n ++ " failing tests.").toList := by
    simp only [String.toList_append, Text.lower, List.flatMap_append, List.mem_append, not_or]
    exact ⟨⟨⟨by decide, by decide⟩, hdigits⟩, by decide⟩
  rw [mentions, List.all_cons, not_contains (c := 'x') (by decide) hx, Bool.false_and]

/-- Failing unit tests do not block. -/
lemma blocks_withUnit (run : Option (List TestCase)) (scored : Scored F) :
    Blocks (withUnit run scored).2 ↔ Blocks scored.2 := by
  have hfilter : ¬ Blocks ((junitScore run "unit" : Option F × List Finding).2.filter fun finding =>
      mentions ["sandbox"] finding.message) := by
    rintro ⟨finding, hmem, hblock⟩
    obtain ⟨hmem, hmentions⟩ := List.mem_filter.1 hmem
    match run with
    | none => simp_all [junitScore]
    | some [] => simp_all [junitScore]
    | some (test :: tests) =>
      simp only [junitScore, List.mem_append] at hmem
      rcases hmem with hmem | hmem
      · split at hmem
        · cases hmem
        · rw [List.mem_singleton.1 hmem] at hmentions
          rw [not_mentions_sandbox] at hmentions
          cases hmentions
      · split at hmem
        · cases hmem
        · rw [List.mem_singleton.1 hmem] at hblock
          cases hblock
  rw [withUnit]
  cases (junitScore run "unit" : Option F × List Finding).1 with
  | none => rfl
  | some score =>
    rw [blocks_append]
    exact or_iff_left hfilter

/-! ### Scores -/

lemma sum_scores_le (checks : List CheckResult) :
    (checks.map fun item => if item.passed then 100 else item.score).sum ≤ 100 * checks.length := by
  induction checks with
  | nil => simp
  | cons item l ih =>
    have hitem : (if item.passed = true then 100 else item.score) ≤ 100 := by
      split
      · exact le_rfl
      · exact item.score_le
    rw [List.map_cons, List.sum_cons, List.length_cons]
    omega

lemma finite_scoreChecks (checks : List CheckResult) :
    PyFloat.IsFinite (scoreChecks checks : Scored F).1 := by
  rw [scoreChecks]
  split
  · exact PyFloat.finite_lit (Nat.zero_le _)
  · rename_i hne
    refine PyFloat.finite_ratio _ _ (List.length_pos_of_ne_nil hne) ?_
    rw [Nat.abs_cast]
    exact_mod_cast sum_scores_le checks

/-- The number of tests that have passed; one that has failed and is skipped as well counts twice
among the others. -/
def passedTests (tests : List TestCase) : ℤ :=
  tests.length - tests.countP (·.failed) - tests.countP (·.skipped)

/-- The score of a run. -/
def testScore (tests : List TestCase) : F :=
  if tests = [] then PyFloat.lit 0 else PyFloat.ratio (100 * passedTests tests) tests.length

lemma junitScore_some (tests : List TestCase) (label : String) :
    (junitScore (some tests) label : Option F × List Finding).1 = some (testScore tests) := by
  cases tests <;> rfl

lemma abs_passedTests (tests : List TestCase) : |100 * passedTests tests| ≤ 100 * tests.length := by
  have hfailed : tests.countP (·.failed) ≤ tests.length := List.countP_le_length
  have hskipped : tests.countP (·.skipped) ≤ tests.length := List.countP_le_length
  rw [passedTests, abs_le]
  omega

/-- A mean of scores of at most 100. -/
lemma scoreChecks_le (checks : List CheckResult) :
    PyFloat.le (scoreChecks checks : Scored F).1 (PyFloat.lit 100) = true := by
  rw [scoreChecks]
  split
  · exact PyFloat.le_of_lt ((PyFloat.lt_lit (Nat.zero_le _) le_rfl).2 (by omega))
  · rename_i hne
    have hsum := sum_scores_le checks
    refine PyFloat.ratio_le_hundredths _ _ _ (List.length_pos_of_ne_nil hne) ?_ le_rfl ?_
    · rw [Nat.abs_cast]
      exact_mod_cast hsum
    · generalize (checks.map fun item => if item.passed then 100 else item.score).sum = total
        at hsum ⊢
      omega

lemma finite_testScore (tests : List TestCase) : PyFloat.IsFinite (testScore tests : F) := by
  rw [testScore]
  split
  · exact PyFloat.finite_lit (Nat.zero_le _)
  · rename_i hne
    exact PyFloat.finite_ratio _ _ (List.length_pos_of_ne_nil hne) (abs_passedTests tests)

/-- A test that fails or is missing lowers the score. -/
lemma TestsWorse.score_le {tests tests' : List TestCase} (h : TestsWorse tests tests') :
    PyFloat.le (testScore tests' : F) (testScore tests) = true := by
  have hbound := abs_passedTests tests
  have hbound' := abs_passedTests tests'
  have hpassed : passedTests tests' = passedTests tests - 1 := by
    cases h with
    | fails before test after hfailed hskipped | missing before test after hfailed hskipped =>
      simp only [passedTests, List.length_append, List.length_cons, List.countP_append,
        List.countP_cons, hfailed, hskipped, if_true, Bool.false_eq_true, if_false]
      push_cast
      omega
  have hle : passedTests tests ≤ tests.length := by
    rw [passedTests]
    omega
  have hne : tests ≠ [] := by cases h <;> simp
  rw [testScore, testScore, if_neg hne]
  split
  · rename_i hnil
    refine PyFloat.hundredths_le_ratio _ _ _ (List.length_pos_of_ne_nil hne) hbound ?_
    -- the last test had passed
    have hzero : passedTests tests' = 0 := by rw [hnil]; rfl
    simp only [mul_zero, Nat.cast_zero, zero_mul]
    omega
  · rename_i hne'
    refine PyFloat.ratio_le _ _ _ _ (List.length_pos_of_ne_nil hne') (List.length_pos_of_ne_nil hne)
      hbound' hbound ?_
    rw [hpassed]
    cases h with
    | fails before test after _ _ =>
      simp only [List.length_append, List.length_cons]
      exact Int.mul_le_mul_of_nonneg_right (by omega) (by omega)
    | missing before test after _ _ =>
      simp only [List.length_append, List.length_cons] at hle ⊢
      push_cast at hle ⊢
      nlinarith

/-- All tests have passed. -/
lemma AllPassed.passedTests_eq {tests : List TestCase} (h : AllPassed tests) :
    passedTests tests = tests.length := by
  have hfailed : tests.countP (·.failed) = 0 :=
    List.countP_eq_zero.2 fun test htest => by simp [(h.2 test htest).1]
  have hskipped : tests.countP (·.skipped) = 0 :=
    List.countP_eq_zero.2 fun test htest => by simp [(h.2 test htest).2]
  rw [passedTests, hfailed, hskipped]
  simp

/-- A suite that has passed as a whole has the full score. -/
lemma AllPassed.full {tests : List TestCase} (h : AllPassed tests) :
    PyFloat.le (PyFloat.lit 100 : F) (testScore tests) = true := by
  rw [testScore, if_neg h.1]
  refine PyFloat.hundredths_le_ratio _ _ _ (List.length_pos_of_ne_nil h.1)
    (abs_passedTests tests) ?_
  rw [h.passedTests_eq]
  push_cast
  linarith

lemma testScore_le (tests : List TestCase) :
    PyFloat.le (testScore tests : F) (PyFloat.lit 100) = true := by
  rw [testScore]
  split
  · exact PyFloat.le_of_lt ((PyFloat.lt_lit (Nat.zero_le _) le_rfl).2 (by omega))
  · rename_i hne
    have hbound := le_of_abs_le (abs_passedTests tests)
    refine PyFloat.ratio_le_hundredths _ _ _ (List.length_pos_of_ne_nil hne)
      (abs_passedTests tests) le_rfl ?_
    push_cast
    linarith

variable (F) in
/-- A run that is as it was, or has no better score, or is missing where all tests had passed. -/
def RunLe (run' run : Option (List TestCase)) : Prop :=
  run' = run ∨
  (∃ tests tests', run = some tests ∧ run' = some tests' ∧
    PyFloat.le (testScore tests' : F) (testScore tests) = true) ∨
  run' = none ∧ ∃ tests, run = some tests ∧ AllPassed tests

lemma withJunit_none (c d : ℕ) (label : String) (scored : Scored F) :
    withJunit c d none label scored = scored := rfl

lemma withJunit_some (c d : ℕ) (tests : List TestCase) (label : String) (scored : Scored F) :
    (withJunit c d (some tests) label scored).1 =
      PyFloat.weigh c scored.1 d (testScore tests) := by
  rw [withJunit]
  simp only [junitScore_some]

lemma le_testScore_self (tests : List TestCase) :
    PyFloat.le (testScore tests : F) (testScore tests) = true :=
  PyFloat.le_self_of_finite (finite_testScore tests)

/-- With two runs, or with none, the score is no better when that of the run is no better. -/
lemma withJunit_le {c d : ℕ} (hc : 0 < c) (hc' : c ≤ 100) (hd : 0 < d) (hd' : d ≤ 100)
    {run run' : Option (List TestCase)} (hrun : RunLe F run' run) (hsome : run' = none → run = none)
    (label : String) {scored scored' : Scored F} (h : PyFloat.le scored'.1 scored.1 = true) :
    PyFloat.le (withJunit c d run' label scored').1 (withJunit c d run label scored).1 = true := by
  rcases hrun with rfl | ⟨tests, tests', rfl, rfl, hworse⟩ | ⟨rfl, tests, hsuite, _⟩
  · cases run' with
    | none => exact h
    | some tests =>
      rw [withJunit_some, withJunit_some]
      exact PyFloat.weigh_le hc hc' hd hd' h (le_testScore_self tests) (finite_testScore tests)
        (finite_testScore tests)
  · rw [withJunit_some, withJunit_some]
    exact PyFloat.weigh_le hc hc' hd hd' h hworse (finite_testScore tests')
      (finite_testScore tests)
  · rw [hsome rfl] at hsuite
    cases hsuite

/-- A bound that is missed is missed when the run is no better. -/
lemma withJunit_lt {c d n : ℕ} (hc : 0 < c) (hc' : c ≤ 100) (hd : 0 < d) (hd' : d ≤ 100)
    (hn : n ≤ 100) (hslack : 100 * n + 2 ≤ n * c + 100 * d) {run run' : Option (List TestCase)}
    (hrun : RunLe F run' run) (label : String) {scored : Scored F}
    (hscored : PyFloat.le scored.1 scored.1 = true)
    (h : PyFloat.lt (withJunit c d run label scored).1 (PyFloat.lit n) = true) :
    PyFloat.lt (withJunit c d run' label scored).1 (PyFloat.lit n) = true := by
  by_cases hsome : run' = none → run = none
  · exact PyFloat.lt_of_le_of_lt (withJunit_le hc hc' hd hd' hrun hsome label hscored) h
  · obtain ⟨rfl, hne⟩ := Classical.not_imp.1 hsome
    rcases hrun with hsame | ⟨_, _, _, hnone, _⟩ | ⟨_, tests, rfl, hpassed⟩
    · exact absurd hsame.symm hne
    · cases hnone
    · rw [withJunit_some] at h
      exact PyFloat.lt_of_lt_weigh hc hc' hd hd' hn hslack hscored (finite_testScore tests)
        hpassed.full h

lemma withUnit_fst (run : Option (List TestCase)) (scored : Scored F) :
    (withUnit run scored).1 = (withJunit 90 10 run "unit" scored).1 := by
  rw [withUnit, withJunit]
  cases (junitScore run "unit" : Option F × List Finding).1 <;> rfl

/-- The score of the unit tests has so little weight that a full one changes nothing. -/
lemma withUnit_le {run run' : Option (List TestCase)} (hrun : RunLe F run' run)
    {scored : Scored F} (hscored : PyFloat.le scored.1 scored.1 = true)
    (hbound : PyFloat.le scored.1 (PyFloat.lit 100) = true) :
    PyFloat.le (withUnit run' scored).1 (withUnit run scored).1 = true := by
  rw [withUnit_fst, withUnit_fst]
  by_cases hsome : run' = none → run = none
  · exact withJunit_le (by omega) (by omega) (by omega) (by omega) hrun hsome _ hscored
  · obtain ⟨rfl, hne⟩ := Classical.not_imp.1 hsome
    rcases hrun with hsame | ⟨_, _, _, hnone, _⟩ | ⟨_, tests, rfl, hpassed⟩
    · exact absurd hsame.symm hne
    · cases hnone
    · rw [withJunit_none, withJunit_some]
      exact PyFloat.le_weigh hbound hscored (finite_testScore tests) hpassed.full

/-- A score of the sandbox is no better when a run of tests is no better. -/
lemma withE2e_le {c d : ℕ} (hc : 0 < c) (hc' : c ≤ 100) (hd : 0 < d) (hd' : d ≤ 100)
    {run run' : Option (List TestCase)} (hrun : RunLe F run' run) (hsome : run'.isSome = true)
    (label : String) (missing : Finding) {scored scored' : Scored F}
    (h : PyFloat.le scored'.1 scored.1 = true) :
    PyFloat.le (withE2e c d run' label missing scored').1
      (withE2e c d run label missing scored).1 = true := by
  obtain ⟨tests', rfl⟩ := Option.isSome_iff_exists.1 hsome
  have hle := withJunit_le hc hc' hd hd' hrun (fun hnone => (nomatch hnone)) label h
  rcases hrun with rfl | ⟨tests, _, rfl, _, _⟩ | ⟨hnone, _⟩
  · exact hle
  · exact hle
  · cases hnone

/-- The dimensions that have a minimum are no better when a run of tests is no better. -/
lemma score_le {checks : StaticChecks} {a b : Artifacts F} (quality quality' : Dimension F)
    (hrun : ∀ kind ∈ [JunitKind.unit, .contract, .security, .e2e],
      RunLe F (b.junit kind) (a.junit kind)) (he2e : (b.junit .e2e).isSome = true)
    {key : DimensionKey} (h : Misses (dimensions checks a quality) key) :
    Misses (dimensions checks b quality') key := by
  obtain ⟨minimum, hminimum, hmiss⟩ := h
  obtain ⟨hpos, hle⟩ := DimensionKey.releaseMinScore_bounds hminimum
  refine ⟨minimum, hminimum, ?_⟩
  have hself : ∀ l : List CheckResult, PyFloat.le (scoreChecks l : Scored F).1 (scoreChecks l).1 =
      true := fun l => PyFloat.le_self_of_finite (finite_scoreChecks l)
  have hrefl : ∀ run : Option (List TestCase), RunLe F run run := fun _ => .inl rfl
  have hjunit : ∀ {c d : ℕ}, 0 < c → c ≤ 100 → 0 < d → d ≤ 100 →
      100 * minimum + 2 ≤ minimum * c + 100 * d →
      ∀ kind ∈ [JunitKind.unit, .contract, .security, .e2e], ∀ label (l : List CheckResult),
      PyFloat.lt (PyFloat.clamp (withJunit c d (a.junit kind) label (scoreChecks l : Scored F)).1)
        (PyFloat.lit minimum) = true →
      PyFloat.lt (PyFloat.clamp (withJunit c d (b.junit kind) label (scoreChecks l : Scored F)).1)
        (PyFloat.lit minimum) = true := by
    intro c d hc hc' hd hd' hslack kind hkind label l hlow
    have hsame : ∀ run : Option (List TestCase),
        PyFloat.le (withJunit c d run label (scoreChecks l : Scored F)).1
          (withJunit c d run label (scoreChecks l)).1 = true :=
      fun run => withJunit_le hc hc' hd hd' (hrefl run) id label (hself l)
    rw [PyFloat.lt_clamp (hsame _) hpos hle] at hlow ⊢
    exact withJunit_lt hc hc' hd hd' hle hslack (hrun kind hkind) label (hself l) hlow
  cases key with
  | plannerCompliance =>
    obtain rfl := Option.some.inj hminimum
    exact hjunit (by omega) (by omega) (by omega) (by omega) (by omega) .contract (by simp) _ _
      hmiss
  | memoryIsolation =>
    obtain rfl := Option.some.inj hminimum
    exact hjunit (by omega) (by omega) (by omega) (by omega) (by omega) .security (by simp) _ _
      hmiss
  | promptGuardSecurity =>
    obtain rfl := Option.some.inj hminimum
    exact hjunit (by omega) (by omega) (by omega) (by omega) (by omega) .security (by simp) _ _
      hmiss
  | sandboxSecurity =>
    have hunit : ∀ {run run' : Option (List TestCase)}, RunLe F run' run →
        PyFloat.le (withUnit run' (scoreChecks checks.sandbox : Scored F)).1
          (withUnit run (scoreChecks checks.sandbox)).1 = true :=
      fun hrun => withUnit_le hrun (hself _) (scoreChecks_le _)
    have ha : (a.junit .e2e).isSome = true := by
      rcases hrun .e2e (by simp) with h | ⟨tests, _, h, _, _⟩ | ⟨hnone, _⟩
      · rwa [← h]
      · rw [h]
        rfl
      · rw [hnone] at he2e
        cases he2e
    have hdim : ∀ {x y : Option (List TestCase)} {u v : Option (List TestCase)},
        RunLe F x y → RunLe F u v → x.isSome = true → ∀ missing,
        PyFloat.le (withE2e 70 30 x "sandbox e2e" missing
            (withUnit u (scoreChecks checks.sandbox : Scored F))).1
          (withE2e 70 30 y "sandbox e2e" missing
            (withUnit v (scoreChecks checks.sandbox : Scored F))).1 = true :=
      fun hxy huv hx missing => withE2e_le (by omega) (by omega) (by omega) (by omega) hxy hx _
        missing (hunit huv)
    exact PyFloat.lt_clamp_mono
      (hdim (hrun .e2e (by simp)) (hrun .unit (by simp)) he2e _)
      (hdim (hrefl _) (hrefl _) he2e _) (hdim (hrefl _) (hrefl _) ha _) hpos hle hmiss
  | businessOutputQuality | subagentAssignment | toolContractSchema | runtimeBudget
  | evaluationReflection | apiContractObservability => cases hminimum

/-! ### The gate -/

/-- A check of the code base blocks. -/
def StaticChecks.Block (checks : StaticChecks) : Prop :=
  ∃ l ∈ [checks.planner, checks.subagents, checks.tools, checks.runtime, checks.memory,
    checks.sandbox, checks.promptGuard, checks.reflection, checks.api],
    ∃ item ∈ l, item.passed = false ∧ item.severity = .block

/-- Why a release is blocked. -/
def Blocked (checks : StaticChecks) (a : Artifacts F) (quality : Dimension F) : Prop :=
  checks.Block ∨ (∃ kind ∈ gatedSuites, failing (a.junit kind) = true) ∨
    (∃ key, Misses (dimensions checks a quality) key) ∨ (a.junit .e2e).isSome = false ∨
    notRun (a.json .performance) = true ∨ notRun (a.json .chaos) = true

lemma blocks_scoreChecks (l : List CheckResult) :
    Blocks (scoreChecks l : Scored F).2 ↔
      ∃ item ∈ l, item.passed = false ∧ item.severity = .block := by
  have hfailed : Blocks ((l.filter fun item => !item.passed).map (·.finding)) ↔
      ∃ item ∈ l, item.passed = false ∧ item.severity = .block := by
    simp only [Blocks, List.mem_map, List.mem_filter, Bool.not_eq_true']
    constructor
    · rintro ⟨_, ⟨item, ⟨hitem, hpassed⟩, rfl⟩, hblock⟩
      exact ⟨item, hitem, hpassed, by simpa [CheckResult.finding, hpassed] using hblock⟩
    · rintro ⟨item, hitem, hpassed, hblock⟩
      exact ⟨_, ⟨item, ⟨hitem, hpassed⟩, rfl⟩, by simp [CheckResult.finding, hpassed, hblock]⟩
  rw [scoreChecks]
  split
  · rename_i hnil
    rw [hnil]
    exact iff_of_false (not_blocks_singleton Severity.noConfusion) (by simp)
  · by_cases hnone : (l.filter fun item => !item.passed).map (·.finding) = []
    · rw [← hfailed]
      simp only [hnone, if_true]
      exact iff_of_false (not_blocks_singleton Severity.noConfusion) (by simp [Blocks])
    · simp only [hnone, if_false]
      exact hfailed

/-- The check of the summary does not block. -/
lemma blocks_apiChecks (checks : StaticChecks) (a : Artifacts F) :
    Blocks (scoreChecks (checks.api ++ [summaryCheck a]) : Scored F).2 ↔
      ∃ item ∈ checks.api, item.passed = false ∧ item.severity = .block := by
  have hsummary : (summaryCheck a).severity ≠ .block := by
    rw [summaryCheck]
    split <;> exact Severity.noConfusion
  rw [blocks_scoreChecks]
  constructor
  · rintro ⟨item, hitem, hpassed, hblock⟩
    rcases List.mem_append.1 hitem with h | h
    · exact ⟨item, h, hpassed, hblock⟩
    · rw [List.mem_singleton.1 h] at hblock
      exact absurd hblock hsummary
  · rintro ⟨item, hitem, h⟩
    exact ⟨item, List.mem_append_left _ hitem, h⟩

/-- The quality of the business output does not block. -/
lemma not_blocks_quality {a : Artifacts F} {quality : Dimension F}
    (h : businessOutputQuality a = .ok quality) : ¬ Blocks quality.findings := by
  rw [businessOutputQuality] at h
  cases hdata : a.json .evalQuality with
  | none =>
    simp only [hdata] at h
    cases h
    refine mt (blocks_scoreChecks (F := F) _).1 ?_
    simp [passCheck, warnCheck]
  | some data =>
    simp only [hdata, bind_eq_ok] at h
    obtain ⟨_, _, _, _, h⟩ := h
    cases h
    rintro ⟨finding, hmem, hblock⟩
    rcases List.mem_cons.1 hmem with rfl | hmem
    · cases hblock
    · split at hmem
      · rw [List.mem_singleton.1 hmem] at hblock
        cases hblock
      · cases hmem

/-- The findings of the dimensions block if a check of the code base does or a gated suite fails. -/
lemma blocks_dimensions (checks : StaticChecks) (a : Artifacts F) {quality : Dimension F}
    (hquality : ¬ Blocks quality.findings) :
    (∃ key, Blocks (dimensions checks a quality key).findings) ↔
      checks.Block ∨ ∃ kind ∈ gatedSuites, failing (a.junit kind) = true := by
  have hplanner : Blocks (plannerCompliance checks a).findings ↔
      (∃ item ∈ checks.planner, item.passed = false ∧ item.severity = .block) ∨
        failing (a.junit .contract) = true :=
    (blocks_withJunit ..).trans (or_congr_left (blocks_scoreChecks _))
  have hruntime : Blocks (runtimeBudget checks a).findings ↔
      ∃ item ∈ checks.runtime, item.passed = false ∧ item.severity = .block :=
    (blocks_withRun _ Severity.noConfusion _).trans
      ((blocks_withRun _ Severity.noConfusion _).trans (blocks_scoreChecks _))
  have hmemory : Blocks (memoryIsolation checks a).findings ↔
      (∃ item ∈ checks.memory, item.passed = false ∧ item.severity = .block) ∨
        failing (a.junit .security) = true :=
    (blocks_withJunit ..).trans (or_congr_left (blocks_scoreChecks _))
  have hsandbox : Blocks (sandboxSecurity checks a).findings ↔
      (∃ item ∈ checks.sandbox, item.passed = false ∧ item.severity = .block) ∨
        failing (a.junit .e2e) = true :=
    (blocks_withE2e _ _ _ _ Severity.noConfusion _).trans
      (or_congr_left ((blocks_withUnit _ _).trans (blocks_scoreChecks _)))
  have hprompt : Blocks (promptGuardSecurity checks a).findings ↔
      (∃ item ∈ checks.promptGuard, item.passed = false ∧ item.severity = .block) ∨
        failing (a.junit .security) = true :=
    (blocks_withJunit ..).trans (or_congr_left (blocks_scoreChecks _))
  have hapi : Blocks (apiContractObservability checks a).findings ↔
      ((∃ item ∈ checks.api, item.passed = false ∧ item.severity = .block) ∨
        failing (a.junit .contract) = true) ∨ failing (a.junit .e2e) = true :=
    (blocks_withE2e _ _ _ _ Severity.noConfusion _).trans
      (or_congr_left ((blocks_withJunit ..).trans (or_congr_left (blocks_apiChecks checks a))))
  constructor
  · rintro ⟨key, hkey⟩
    cases key with
    | businessOutputQuality => exact absurd hkey hquality
    | plannerCompliance =>
      rcases hplanner.1 hkey with h | h
      · exact .inl ⟨checks.planner, by simp, h⟩
      · exact .inr ⟨.contract, by decide, h⟩
    | subagentAssignment => exact .inl ⟨checks.subagents, by simp, (blocks_scoreChecks _).1 hkey⟩
    | toolContractSchema => exact .inl ⟨checks.tools, by simp, (blocks_scoreChecks _).1 hkey⟩
    | runtimeBudget => exact .inl ⟨checks.runtime, by simp, hruntime.1 hkey⟩
    | memoryIsolation =>
      rcases hmemory.1 hkey with h | h
      · exact .inl ⟨checks.memory, by simp, h⟩
      · exact .inr ⟨.security, by decide, h⟩
    | sandboxSecurity =>
      rcases hsandbox.1 hkey with h | h
      · exact .inl ⟨checks.sandbox, by simp, h⟩
      · exact .inr ⟨.e2e, by decide, h⟩
    | promptGuardSecurity =>
      rcases hprompt.1 hkey with h | h
      · exact .inl ⟨checks.promptGuard, by simp, h⟩
      · exact .inr ⟨.security, by decide, h⟩
    | evaluationReflection => exact .inl ⟨checks.reflection, by simp, (blocks_scoreChecks _).1 hkey⟩
    | apiContractObservability =>
      rcases hapi.1 hkey with (h | h) | h
      · exact .inl ⟨checks.api, by simp, h⟩
      · exact .inr ⟨.contract, by decide, h⟩
      · exact .inr ⟨.e2e, by decide, h⟩
  · rintro (⟨l, hl, h⟩ | ⟨kind, hkind, h⟩)
    · simp only [List.mem_cons, List.not_mem_nil, or_false] at hl
      rcases hl with rfl | rfl | rfl | rfl | rfl | rfl | rfl | rfl | rfl
      · exact ⟨.plannerCompliance, hplanner.2 (.inl h)⟩
      · exact ⟨.subagentAssignment, (blocks_scoreChecks _).2 h⟩
      · exact ⟨.toolContractSchema, (blocks_scoreChecks _).2 h⟩
      · exact ⟨.runtimeBudget, hruntime.2 h⟩
      · exact ⟨.memoryIsolation, hmemory.2 (.inl h)⟩
      · exact ⟨.sandboxSecurity, hsandbox.2 (.inl h)⟩
      · exact ⟨.promptGuardSecurity, hprompt.2 (.inl h)⟩
      · exact ⟨.evaluationReflection, (blocks_scoreChecks _).2 h⟩
      · exact ⟨.apiContractObservability, hapi.2 (.inl (.inl h))⟩
    · simp only [gatedSuites, List.mem_cons, List.not_mem_nil, or_false] at hkind
      rcases hkind with rfl | rfl | rfl
      · exact ⟨.plannerCompliance, hplanner.2 (.inr h)⟩
      · exact ⟨.memoryIsolation, hmemory.2 (.inr h)⟩
      · exact ⟨.sandboxSecurity, hsandbox.2 (.inr h)⟩

/-- A release is blocked for one of these reasons, and for no other. -/
lemma decision_eq_block_iff (checks : StaticChecks) {a : Artifacts F} {quality : Dimension F}
    (hquality : businessOutputQuality a = .ok quality) :
    (buildReport .release (dimensions checks a quality)
      (coverageNotes a .release)).releaseDecision = .block ↔ Blocked checks a quality := by
  obtain ⟨he2e, hperformance, hchaos⟩ := coverageNotes_release a
  rw [releaseDecision_eq_block, blockingFindings_ne_nil, he2e, hperformance, hchaos,
    blocks_dimensions checks a (not_blocks_quality hquality), or_assoc, Blocked]

/-- A failing test stays one when others fail or are missing. -/
lemma TestsWorse.failing {tests tests' : List TestCase} (h : TestsWorse tests tests')
    (hfail : failing (some tests) = true) : Evaluation.failing (some tests') = true := by
  cases h with
  | fails before test after hfailed _ | missing before test after hfailed _ =>
    simp only [Evaluation.failing, Option.any_some, List.any_append, List.any_cons, hfailed]
      at hfail ⊢
    grind

/-- A blocked release stays blocked when the runs of tests are no better, as long as the runs of the
gated suites still fail. -/
lemma Blocked.of_runs {checks : StaticChecks} {a b : Artifacts F} {quality : Dimension F}
    (hblocked : Blocked checks a quality) (quality' : Dimension F)
    (hjson : ∀ kind, kind = .performance ∨ kind = .chaos →
      notRun (a.json kind) = true → notRun (b.json kind) = true)
    (hrun : ∀ kind ∈ [JunitKind.unit, .contract, .security, .e2e],
      RunLe F (b.junit kind) (a.junit kind))
    (hfailing : ∀ kind ∈ gatedSuites, failing (a.junit kind) = true →
      failing (b.junit kind) = true) : Blocked checks b quality' := by
  rcases hblocked with h | ⟨kind, hkind, h⟩ | ⟨key, hkey⟩ | h | h | h
  · exact .inl h
  · exact .inr (.inl ⟨kind, hkind, hfailing kind hkind h⟩)
  · cases he2e : (b.junit .e2e).isSome with
    | false => exact .inr (.inr (.inr (.inl he2e)))
    | true => exact .inr (.inr (.inl ⟨key, score_le quality quality' hrun he2e hkey⟩))
  · refine .inr (.inr (.inr (.inl ?_)))
    rcases hrun .e2e (by simp) with hsame | ⟨tests, _, hsome, _⟩ | ⟨hnone, _⟩
    · rwa [hsame]
    · rw [hsome] at h
      cases h
    · rw [hnone]
      rfl
  · exact .inr (.inr (.inr (.inr (.inl (hjson _ (.inl rfl) h)))))
  · exact .inr (.inr (.inr (.inr (.inr (hjson _ (.inr rfl) h)))))

/-- The release stays blocked when one run of tests is no better. -/
lemma Blocked.of_run {checks : StaticChecks} {a : Artifacts F} {quality : Dimension F}
    (quality' : Dimension F) {kind : JunitKind} {run : Option (List TestCase)}
    (hrun : kind ∈ [JunitKind.unit, .contract, .security, .e2e] → RunLe F run (a.junit kind))
    (hfailing : kind ∈ gatedSuites → failing (a.junit kind) = true → failing run = true)
    (hblocked : Blocked checks a quality) :
    Blocked checks { a with junit := Function.update a.junit kind run } quality' := by
  refine hblocked.of_runs quality' (fun _ _ h => h) (fun kind' hkind' => ?_)
    fun kind' hkind' h => ?_
  · by_cases hsame : kind' = kind
    · subst hsame
      simpa using hrun hkind'
    · simp only [Function.update_of_ne hsame]
      exact .inl rfl
  · by_cases hsame : kind' = kind
    · subst hsame
      simpa using hfailing hkind' h
    · simpa only [Function.update_of_ne hsame] using h

/-- The release stays blocked when one run of the other artifacts is replaced. -/
lemma Blocked.of_json {checks : StaticChecks} {a : Artifacts F} {quality : Dimension F}
    (quality' : Dimension F) {kind : JsonKind} {artifact : Option (PyDict F)}
    (hran : kind = .performance ∨ kind = .chaos → notRun (a.json kind) = false)
    (hblocked : Blocked checks a quality) :
    Blocked checks { a with json := Function.update a.json kind artifact } quality' := by
  refine hblocked.of_runs quality' (fun kind' hkind' h => ?_) (fun _ _ => .inl rfl) fun _ _ h => h
  by_cases hsame : kind' = kind
  · subst hsame
    rw [hran hkind'] at h
    cases h
  · simpa only [Function.update_of_ne hsame] using h

/-- A suite that has passed as a whole has no failing test. -/
lemma AllPassed.not_failing {tests : List TestCase} (h : AllPassed tests) :
    failing (some tests) = false := by
  simp only [failing, Option.any_some, List.any_eq_false]
  intro test htest
  simp [(h.2 test htest).1]

/-- A blocked release stays blocked when the artifacts are worse. -/
lemma Artifacts.Worse.blocked {checks : StaticChecks} {a b : Artifacts F} (h : a.Worse b)
    {quality : Dimension F} (quality' : Dimension F) (hblocked : Blocked checks a quality) :
    Blocked checks b quality' := by
  cases h with
  | @test kind tests tests' htests hworse =>
    refine hblocked.of_run quality' (fun _ => ?_) fun _ hfail => ?_
    · exact .inr (.inl ⟨tests, tests', htests, rfl, hworse.score_le⟩)
    · exact hworse.failing (htests ▸ hfail)
  | @suite kind tests hkind hfail =>
    refine .inr (.inl ⟨kind, hkind, ?_⟩)
    show failing (Function.update a.junit kind (some tests) kind) = true
    rwa [Function.update_self]
  | @unit tests tests' htests hpassed _ =>
    refine hblocked.of_run quality' (fun _ => ?_) fun hkind => absurd hkind (by decide)
    refine .inr (.inl ⟨tests, tests', htests, rfl, ?_⟩)
    exact PyFloat.le_trans (testScore_le tests') hpassed.full
  | noE2e =>
    refine .inr (.inr (.inr (.inl ?_)))
    show (Function.update a.junit .e2e none .e2e).isSome = false
    rw [Function.update_self]
    rfl
  | @noSuite kind tests hkind htests hpassed =>
    refine hblocked.of_run quality' (fun _ => .inr (.inr ⟨rfl, tests, htests, hpassed⟩)) ?_
    intro _ hfail
    rw [htests, hpassed.not_failing] at hfail
    cases hfail
  | evals run =>
    exact hblocked.of_run quality' (fun h => absurd h (by decide)) fun h => absurd h (by decide)
  | judge artifact hkind =>
    refine hblocked.of_json quality' fun hgated => ?_
    rcases hkind with rfl | rfl <;> rcases hgated with h | h <;> cases h
  | run hkind hran _ => exact hblocked.of_json quality' fun _ => hran

/-- The evaluation returns a report if the artifacts can be evaluated, and only then.  A release
that is not blocked has the artifacts and the passing suites that the gate insists on, and a release
that is blocked stays blocked when the artifacts are worse. -/
theorem releaseGate (checks : StaticChecks) (files : ArtifactFiles F) :
    ((∃ report, evaluate checks files .release = .ok report) ↔ files.Readable) ∧
      ∀ a report, loadArtifacts files = .ok a → evaluate checks files .release = .ok report →
        (report.releaseDecision ≠ .block → a.Complete) ∧
        ∀ files' b report', loadArtifacts files' = .ok b →
          evaluate checks files' .release = .ok report' → a.Worse b →
          report.releaseDecision = .block → report'.releaseDecision = .block := by
  refine ⟨evaluate_ok_iff checks files .release, fun a report ha hreport => ?_⟩
  obtain ⟨_, quality, ha', hquality, rfl⟩ := evaluate_eq_ok.1 hreport
  obtain rfl := Except.ok.inj (ha.symm.trans ha')
  constructor
  · intro hpass
    have hnot := mt (decision_eq_block_iff checks hquality).2 hpass
    simp only [Blocked, not_or, Bool.not_eq_false, Bool.not_eq_true] at hnot
    obtain ⟨_, hfailing, _, he2e, hperformance, hchaos⟩ := hnot
    exact ⟨he2e, hperformance, hchaos, fun kind hkind =>
      Bool.eq_false_iff.2 fun h => hfailing ⟨kind, hkind, h⟩⟩
  · intro files' b report' hb hreport' hworse hblock
    obtain ⟨_, quality', hb', hquality', rfl⟩ := evaluate_eq_ok.1 hreport'
    obtain rfl := Except.ok.inj (hb.symm.trans hb')
    refine (decision_eq_block_iff checks hquality').2 ?_
    exact hworse.blocked quality' ((decision_eq_block_iff checks hquality).1 hblock)

/-! ### Some releases -/

/-- The decision of an evaluation, if it returns a report. -/
def decision? (result : Except String (Report F)) : Option ReleaseDecision :=
  result.toOption.map (·.releaseDecision)

omit [PyFloat F] in
lemma exists_report {result : Except String (Report F)} {decision : ReleaseDecision}
    (h : decision? result = some decision) :
    ∃ report, result = .ok report ∧ report.releaseDecision = decision := by
  cases result with
  | error e => cases h
  | ok report => exact ⟨report, rfl, Option.some.inj h⟩

/-- A suite with a test for every outcome; `none` is a test that passes. -/
def suite (outcomes : List (Option String)) : JunitFile :=
  .parsed (.element "testsuite" [] (outcomes.map fun outcome =>
    .element "testcase" [("name", "test_case"), ("classname", "tests.case")]
      (outcome.toList.map fun tag => .element tag [] [])))

/-- A run with a status. -/
def statusFile (status : String) : JsonFile ℤ := .parsed (.dict [(.str "status", .str status)])

/-- A code base that passes all checks. -/
def soundCodeBase : StaticChecks :=
  let passes := [passCheck "check" "The check passes."]
  ⟨passes, passes, passes, passes, passes, passes, passes, passes, passes⟩

/-- All suites pass but the one of the security, and both runs have taken place. -/
def releaseFiles (security : JunitFile) : ArtifactFiles ℤ where
  junit := fun
    | .security => security
    | _ => suite [none]
  json := fun
    | .performance => statusFile "pass"
    | .chaos => statusFile "pass"
    | _ => .absent

/-- The security suite with one test that is not skipped. -/
def securitySuite (outcome : Option String) : JunitFile :=
  suite (outcome :: List.replicate 9 (some "skipped"))

/-- With a security suite that passes the release is not blocked; with one that is almost wholly
skipped it is blocked, and it stays so when the last test fails. -/
theorem releaseGate_security :
    (∃ a, loadArtifacts (releaseFiles (suite [none])) = .ok a ∧ a.Complete) ∧
      ∃ report, evaluate soundCodeBase (releaseFiles (securitySuite (some "failure"))) .release =
        .ok report ∧ report.releaseDecision = .block := by
  have hpassing : decision? (evaluate soundCodeBase (releaseFiles (suite [none])) .release) =
      some .passWithWarnings := by decide +kernel
  have hskipped : decision? (evaluate soundCodeBase (releaseFiles (securitySuite none)) .release) =
      some .block := by decide +kernel
  have hfailing : (decision? (evaluate soundCodeBase
      (releaseFiles (securitySuite (some "failure"))) .release)).isSome = true := by decide +kernel
  constructor
  · obtain ⟨report, hreport, hdecision⟩ := exists_report hpassing
    obtain ⟨a, _, ha, _⟩ := evaluate_eq_ok.1 hreport
    refine ⟨a, ha, ((releaseGate soundCodeBase _).2 a report ha hreport).1 ?_⟩
    rw [hdecision]
    exact ReleaseDecision.noConfusion
  · obtain ⟨decision, hdecision⟩ := Option.isSome_iff_exists.1 hfailing
    obtain ⟨report, hreport, hblock⟩ := exists_report hskipped
    obtain ⟨report', hreport', _⟩ := exists_report hdecision
    obtain ⟨a, _, ha, _⟩ := evaluate_eq_ok.1 hreport
    obtain ⟨hjunit, hjson⟩ := loadArtifacts_eq_ok.1 ha
    let rest : List TestCase :=
      List.replicate 9 ⟨"test_case", "tests.case", false, true⟩
    have hsecurity : a.junit .security =
        some ([] ++ ⟨"test_case", "tests.case", false, false⟩ :: rest) :=
      (Except.ok.inj (hjunit .security)).symm
    let failed : List TestCase := [] ++ ⟨"test_case", "tests.case", true, false⟩ :: rest
    let b : Artifacts ℤ := { a with junit := Function.update a.junit .security (some failed) }
    have hworse : a.Worse b := .test .security hsecurity (.fails [] _ rest rfl rfl)
    have hfiles : ∀ kind, kind ≠ .security →
        parseJunit ((releaseFiles (securitySuite (some "failure"))).junit kind) =
          .ok (b.junit kind) := by
      intro kind hne
      have hother : b.junit kind = a.junit kind := Function.update_of_ne hne _ _
      rw [hother, ← hjunit kind]
      cases kind <;> first | rfl | exact absurd rfl hne
    have hb : loadArtifacts (releaseFiles (securitySuite (some "failure"))) = .ok b := by
      refine loadArtifacts_eq_ok.2 ⟨fun kind => ?_, hjson⟩
      by_cases hkind : kind = .security
      · have hself : b.junit .security = some failed := by
          show Function.update a.junit .security (some failed) .security = some failed
          rw [Function.update_self]
        rw [hkind, hself]
        rfl
      · exact hfiles kind hkind
    exact ⟨report', hreport', ((releaseGate soundCodeBase _).2 a report ha hreport).2 _ b report' hb
      hreport' hworse hblock⟩

/-- A unit test fails, the contract and the security suites are absent, and both runs failed. -/
def brokenFiles : ArtifactFiles ℤ where
  junit := fun
    | .unit => suite [none, some "failure"]
    | .evals => suite [none]
    | .e2e => suite [none]
    | _ => .absent
  json := fun
    | .performance => statusFile "fail"
    | .chaos => .malformed "Expecting value: line 1 column 1 (char 0)"
    | _ => .absent

/-- The gate lets broken artifacts pass and opens when the security suite is removed, and there are
artifacts that it cannot read. -/
theorem not_releaseGate_broken :
    decision? (evaluate soundCodeBase brokenFiles .release) = some .passWithWarnings ∧
      decision? (evaluate soundCodeBase (releaseFiles (securitySuite none)) .release) =
        some .block ∧
      decision? (evaluate soundCodeBase (releaseFiles .absent) .release) =
        some .passWithWarnings ∧
      decision? (evaluate soundCodeBase (releaseFiles (.malformed "no element found")) .release) =
        none := by decide +kernel

end EcommerceAgent.Evaluation
