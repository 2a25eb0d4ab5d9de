/-
# The database workflow ends by itself

The round counter bounds the visits of the graph, also those that static edges add after a guard
has stopped a node, and every run that no exception ends has an answer.
-/
import EcommerceAgent.Database.Steps

open EcommerceAgent.Lib EcommerceAgent.Lib.StateGraph

namespace EcommerceAgent.Database

variable {u : Unicode} {fl : Floats} {cfg : Config}

/-! ### The bound -/

/-- After an answer only the node at the end of a static edge is still visited; without an answer
the round counter is within the limit. -/
structure Within (cfg : Config) (n : Node) (s : GraphState) : Prop where
  passing : s.answered = true → n = .sql ∨ n = .summarize ∨ n = .approval
  rounds : s.answered = false → (s.rounds : ℤ) ≤ cfg.maxGraphRounds

/-- The number of visits that can follow the visit of a node in state `s`. -/
def remaining (cfg : Config) (s : GraphState) : ℕ :=
  if s.answered then 0 else (cfg.maxGraphRounds + 1 - s.rounds).toNat

lemma remaining_answered {s : GraphState} (h : s.answered = true) : remaining cfg s = 0 :=
  if_pos h

lemma remaining_fresh {s : GraphState} (h : s.answered = false) :
    remaining cfg s = (cfg.maxGraphRounds + 1 - s.rounds).toNat := if_neg (by simp [h])

/-- An answer ends the run at every node that has a conditional edge or none. -/
lemma next_answered {n n' : Node} {s : GraphState} (h : s.answered = true)
    (hn : nextNode n s = some n') :
    (n = .specialized ∨ n = .schema ∨ n = .sandbox) ∧
      (n' = .sql ∨ n' = .summarize ∨ n' = .approval) := by
  cases n <;> simp_all [nextNode, selectNextAfterRoute, selectNextAfterApproval,
    selectNextAfterSql]

/-- A state without an answer after a visit comes from a node that passed its guards. -/
lemma rounds_of_step {n : Node} {i : Input} {s s' : GraphState}
    (hs' : (runNode u fl cfg n i s).2 = .ok s') (hfresh : s'.answered = false) :
    ∃ s₁, Entered cfg s s₁ ∧ s'.rounds = s₁.rounds := by
  have hstep := runNode_step u fl cfg n i s
  revert hs'
  generalize runNode u fl cfg n i s = r at hstep
  cases hstep with
  | stopped _ h =>
    intro hs'
    cases hs'
    rw [h.answered] at hfresh
    cases hfresh
  | modelRaised => nofun
  | routed h =>
    intro hs'
    cases hs'
    rw [afterRoute_eq]
    exact ⟨_, h, rfl⟩
  | sandboxRefused h => exact fun hs' => ⟨_, h, by cases hs'; rfl⟩
  | sandboxRan h =>
    intro hs'
    dsimp only at hs'
    obtain ⟨result, -, rfl⟩ := ok_of_map hs'
    exact ⟨_, h, rfl⟩
  | approvalRaised => nofun
  | approvalDecided h =>
    intro hs'
    cases hs'
    refine ⟨_, h, ?_⟩
    unfold afterDecision
    dsimp only
    split
    · rfl
    · split <;> rfl
  | mergeSkipped h => exact fun hs' => ⟨_, h, by cases hs'; rfl⟩
  | merged h =>
    intro hs'
    dsimp only at hs'
    obtain ⟨result, -, rfl⟩ := ok_of_map hs'
    exact ⟨_, h, rfl⟩
  | specializedFound h => exact fun hs' => ⟨_, h, by cases hs'; rfl⟩
  | specializedRaised h => exact fun hs' => ⟨_, h, by cases hs'; rfl⟩
  | schemaMissing h => exact fun hs' => ⟨_, h, by cases hs'; rfl⟩
  | schemaFound h => exact fun hs' => ⟨_, h, by cases hs'; rfl⟩
  | queried h sql =>
    intro hs'
    cases hs'
    refine ⟨_, h, ?_⟩
    unfold afterQuery
    dsimp only
    split
    · split <;> rfl
    · rfl
  | summarized h =>
    intro hs'
    dsimp only at hs'
    obtain ⟨text, -, rfl⟩ := ok_of_map hs'
    exact ⟨_, h, rfl⟩

/-- Every step that goes on uses up a round. -/
lemma within_step {n n' : Node} {i : Input} {s s' : GraphState} (hI : Within cfg n s)
    (hs' : (runNode u fl cfg n i s).2 = .ok s') (hn' : nextNode n s' = some n') :
    Within cfg n' s' ∧ remaining cfg s' < remaining cfg s := by
  by_cases hanswer : s'.answered = true
  · obtain ⟨hn, hpassing⟩ := next_answered hanswer hn'
    have hfresh : s.answered = false := by
      by_contra hs
      have hs : s.answered = true := by simpa using hs
      rcases hn with rfl | rfl | rfl <;> rcases hI.passing hs with h | h | h <;> cases h
    have hround := hI.rounds hfresh
    refine ⟨⟨fun _ => hpassing, fun h => absurd h (by simp [hanswer])⟩, ?_⟩
    rw [remaining_answered hanswer, remaining_fresh hfresh]
    omega
  · have hfresh : s'.answered = false := by simpa using hanswer
    obtain ⟨s₁, henter, hrounds⟩ := rounds_of_step hs' hfresh
    have hbound := henter.bound
    have hnext := henter.rounds
    refine ⟨⟨fun h => absurd h hanswer, fun _ => by omega⟩, ?_⟩
    rw [remaining_fresh hfresh, remaining_fresh henter.before]
    omega

/-- A run makes at most `MAX_GRAPH_ROUNDS + 2` visits, and the recursion limit never cuts it off. -/
lemma run_bound (u : Unicode) (fl : Floats) {cfg : Config} (hmax : 0 ≤ cfg.maxGraphRounds)
    (inputs : ℕ → Input) (question : String) :
    ((runDatabaseGraph u fl cfg inputs question).1.length : ℤ) ≤ cfg.maxGraphRounds + 2 ∧
      (runDatabaseGraph u fl cfg inputs question).2 ≠ .recursionError := by
  have hstart : Within cfg .route (.initial question) := ⟨nofun, fun _ => hmax⟩
  have hremaining : remaining cfg (.initial question) = (cfg.maxGraphRounds + 1).toNat := by
    rw [remaining_fresh rfl]
    simp [GraphState.initial]
  obtain ⟨hlength, hlimit⟩ := bound_of_measure (g := databaseGraph u fl cfg) inputs
    (I := Within cfg) (m := fun _ => remaining cfg)
    (fun n i s s' n' hI hs' hn' => within_step hI hs' hn') hstart
    (cfg.maxGraphRounds + 4).toNat 0
  rw [hremaining] at hlength hlimit
  refine ⟨?_, hlimit (by omega)⟩
  have : ((runDatabaseGraph u fl cfg inputs question).1.length : ℤ) ≤
      ((cfg.maxGraphRounds + 1).toNat + 1 : ℕ) := Int.ofNat_le.2 hlength
  omega

/-! ### The answer -/

lemma answered_afterMerge (s : GraphState) (d : PyFormat.Dict) :
    (afterMerge s d).answered = true := by
  refine answered_stop _ ?_
  unfold formatMergeSummary
  repeat refine append_ne_empty ?_
  decide

/-- Joined lines are not empty when the first one is not. -/
lemma intercalate_ne_empty (sep : String) {a : String} (h : a ≠ "") (l : List String) :
    String.intercalate sep (a :: l) ≠ "" := by
  induction l generalizing a with
  | nil => exact h
  | cons b l ih => exact ih (append_ne_empty (append_ne_empty h))

/-- The product report is not empty. -/
lemma summarizeTopProducts_ne_empty {result text : String}
    (h : summarizeTopProducts fl result = .ok text) : text ≠ "" := by
  unfold summarizeTopProducts at h
  split at h
  · cases h
  · cases h
    decide
  · cases h
    exact intercalate_ne_empty _ (by decide) _

/-- The fallback summary is not empty. -/
lemma fallbackSummary_ne_empty {question result text : String}
    (h : fallbackSummary question result = .ok text) : text ≠ "" := by
  unfold fallbackSummary at h
  split at h
  · cases h
  · cases h
    exact intercalate_ne_empty _ (by decide) _
  · cases h
    exact append_ne_empty (append_ne_empty (append_ne_empty (by decide)))

/-- Only the model can make the summary empty. -/
lemma summaryText_ne_empty {i : Input} {s : GraphState} {text : String}
    (hmodel : i.model (summaryPrompt s.question (s.queryResult.getD "")) ≠ .ok "")
    (h : summaryText fl i s = .ok text) : text ≠ "" := by
  unfold summaryText at h
  dsimp only at h
  split at h
  · exact summarizeTopProducts_ne_empty h
  · split at h
    · rename_i content hcontent
      rintro rfl
      cases h
      exact hmodel hcontent
    · exact fallbackSummary_ne_empty h

/-- A visit that no edge leaves ends the run with an answer, unless the model answered the
summary prompt with an empty content. -/
lemma answered_of_last {n : Node} {i : Input} {s s' : GraphState}
    (hmodel : n = .summarize →
      i.model (summaryPrompt s.question (s.queryResult.getD "")) ≠ .ok "")
    (hs' : (runNode u fl cfg n i s).2 = .ok s') (hlast : nextNode n s' = none) :
    s'.answered = true := by
  by_contra hfresh
  have hfresh : s'.answered = false := by simpa using hfresh
  have hstep := runNode_step u fl cfg n i s
  revert hs'
  generalize runNode u fl cfg n i s = r at hstep
  cases hstep with
  | stopped _ h =>
    intro hs'
    cases hs'
    rw [h.answered] at hfresh
    cases hfresh
  | modelRaised => nofun
  | routed h =>
    intro hs'
    cases hs'
    rw [next_afterRoute h.fresh] at hlast
    cases hlast
  | sandboxRefused | sandboxRan => cases hlast
  | approvalRaised => nofun
  | @approvalDecided s₁ h payload =>
    intro hs'
    cases hs'
    rcases afterDecision_cases h.fresh (payload.decision.getD "abort")
        (payload.instruction.getD "") with ⟨-, -, hroute⟩ | ⟨-, hanswer⟩
    · simp [nextNode, selectNextAfterApproval, hfresh, hroute] at hlast
    · rw [hanswer] at hfresh
      cases hfresh
  | mergeSkipped h =>
    intro hs'
    cases hs'
    rw [answered_afterMerge] at hfresh
    cases hfresh
  | merged h =>
    intro hs'
    dsimp only at hs'
    obtain ⟨result, -, rfl⟩ := ok_of_map hs'
    rw [answered_afterMerge] at hfresh
    cases hfresh
  | specializedFound | specializedRaised => cases hlast
  | schemaMissing | schemaFound => cases hlast
  | queried h sql =>
    intro hs'
    cases hs'
    rcases afterQuery_cases h.fresh sql (queryText (executeSqlQuery u i.tool sql)) with
      hanswer | ⟨-, hroute⟩
    · rw [hanswer] at hfresh
      cases hfresh
    · by_cases hfailed : isFailedResult (queryText (executeSqlQuery u i.tool sql)) = true <;>
        simp [nextNode, selectNextAfterSql, hfresh, hroute, hfailed] at hlast
  | summarized h =>
    intro hs'
    dsimp only at hs'
    obtain ⟨text, htext, rfl⟩ := ok_of_map hs'
    have hkept := hmodel rfl
    rw [← h.keeps.question, ← h.keeps.queryResult] at hkept
    rw [answered_stop _ (summaryText_ne_empty hkept htext)] at hfresh
    cases hfresh

/-- The answer of the workflow is never empty. -/
lemma workflowAnswer_ne_empty {s : GraphState} :
    ∃ answer, workflowAnswer (.finished s : Outcome GraphState String) = some answer ∧
      answer ≠ "" := by
  refine ⟨_, rfl, ?_⟩
  split
  · rename_i h
    cases hfinal : s.finalAnswer with
    | none => simp [GraphState.answered, hfinal] at h
    | some text => simpa [GraphState.answered, hfinal] using h
  · decide

/-- A run of the graph visits at most `MAX_GRAPH_ROUNDS + 3` nodes, never reaches the recursion
limit and, unless a node raises or the model answers the summary prompt with an empty content,
ends with an answer; the workflow then answers with its fallback text. -/
theorem databaseGraph_ends (u : Unicode) (fl : Floats) (cfg : Config)
    (hmax : 0 ≤ cfg.maxGraphRounds) (inputs : ℕ → Input) (question : String) :
    ((runDatabaseGraph u fl cfg inputs question).1.length : ℤ) ≤ cfg.maxGraphRounds + 3 ∧
      (runDatabaseGraph u fl cfg inputs question).2 ≠ .recursionError ∧
      ∀ s', (runDatabaseGraph u fl cfg inputs question).2 = .finished s' →
        ((∀ v ∈ (runDatabaseGraph u fl cfg inputs question).1, v.node = .summarize →
            v.input.model (summaryPrompt v.before.question (v.before.queryResult.getD "")) ≠
              .ok "") → s'.answered = true) ∧
          ∃ answer, workflowAnswer (runDatabaseGraph u fl cfg inputs question).2 = some answer ∧
            answer ≠ "" := by
  obtain ⟨hlength, hlimit⟩ := run_bound u fl hmax inputs question
  refine ⟨by omega, hlimit, fun s' hs' => ⟨fun hmodel => ?_, ?_⟩⟩
  · obtain ⟨v, hv, hresult, hnext⟩ := last_visit hs'
    have hmodel := hmodel v hv
    rw [visit_of_mem hv] at hresult
    exact answered_of_last hmodel hresult hnext
  · rw [hs']
    exact workflowAnswer_ne_empty

/-- The inputs of a run in which every tool works and the model answers the summary prompt with
an empty content. -/
def emptySummary (k : ℕ) : Input :=
  { Input.offline with
    model := fun _ => .ok (if k = 2 then "SHOW TABLES" else "")
    tool := ⟨none, ⟨.ok (), none, fun _ => .ok (some (["Tables"], [["orders"]]))⟩,
      ⟨.ok (), none, fun _ => .error "offline"⟩⟩
    tableSchema := fun _ => .ok "字段名,类型,可为空,键,默认值,额外" }

/-- The bound for the default limits and a run that ends without an answer. -/
theorem databaseGraph_ends_emptySummary :
    ((runDatabaseGraph Unicode.asciiOnly Floats.integers ⟨8, 2, 5, 2⟩ emptySummary
      "库存情况").1.length : ℤ) ≤ 8 + 3 :=
  (databaseGraph_ends Unicode.asciiOnly Floats.integers ⟨8, 2, 5, 2⟩ (by decide) emptySummary
    "库存情况").1

/-- No node raises, and still the run ends with an empty `final_answer`. -/
theorem final_answer_empty :
    (runDatabaseGraph Unicode.asciiOnly Floats.integers ⟨8, 2, 5, 2⟩ emptySummary
      "库存情况").2.state.map GraphState.finalAnswer = some (some "") := by
  decide +kernel

end EcommerceAgent.Database
