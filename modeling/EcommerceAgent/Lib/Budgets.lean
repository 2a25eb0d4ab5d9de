/-
# Budgets of counted events

Every event belongs to some budgets, each with a limit.  A gate counts the events it is shown and
refuses one that brings a counter over its limit; what it lets pass and what it refuses is judged
by the events themselves (`Enforced`), not by the counters.  A machine whose steps are those of a
gate, or refuse the event without counting it, enforces all budgets (`enforced_of_gated`); events
that all fit into their budgets pass (`trace_of_fits`), and so does the first event of a budget
(`one_le_passed`).
-/
import EcommerceAgent.Lib.Runs
import Mathlib.Data.Int.Basic
import Mathlib.Data.List.Count
import Mathlib.Tactic.Common

namespace EcommerceAgent.Lib.Budgets

/-- An event and the answer to it. -/
structure Answered (ε κ : Type*) where
  event : ε
  /-- The event was let pass. -/
  passed : Bool
  /-- The budgets that the event was refused for, at once or on its way. -/
  refusals : List κ
deriving DecidableEq, Repr

variable {ε κ σ : Type*} [DecidableEq κ] (budgets : ε → List κ) (limit : κ → ℤ)

/-- The number of events of a budget that were attempted. -/
def attempted (t : List (Answered ε κ)) (b : κ) : ℕ := t.countP fun a => b ∈ budgets a.event

/-- The number of events of a budget that passed. -/
def passed (t : List (Answered ε κ)) (b : κ) : ℕ :=
  t.countP fun a => a.passed && b ∈ budgets a.event

/-- An answer that comes after the answers `done` is right: an event that passes is within its
budgets, and one that is refused for a budget is over it. -/
structure Right (done : List (Answered ε κ)) (a : Answered ε κ) : Prop where
  within : a.passed = true → ∀ b ∈ budgets a.event, (passed budgets (done ++ [a]) b : ℤ) ≤ limit b
  justified : ∀ b ∈ a.refusals, limit b < attempted budgets (done ++ [a]) b

/-- All answers are right. -/
def Enforced : List (Answered ε κ) → List (Answered ε κ) → Prop
  | _, [] => True
  | done, a :: rest => Right budgets limit done a ∧ Enforced (done ++ [a]) rest

/-! ### Gates -/

/-- The counters after an event of the budgets `bs`. -/
def charge (counts : κ → ℕ) (bs : List κ) (b : κ) : ℕ := counts b + bs.count b

/-- The first budget of `bs` that is over its limit. -/
def exceeded (counts : κ → ℕ) (bs : List κ) : Option κ := bs.find? fun b => limit b < counts b

/-- What a gate with the counters `counts` answers to an event. -/
def answerOf (counts : κ → ℕ) (e : ε) : Answered ε κ :=
  let refusal := exceeded limit (charge counts (budgets e)) (budgets e)
  ⟨e, refusal.isNone, refusal.toList⟩

/-- The counters lie between the events that passed and those that were attempted. -/
def Between (counts : κ → ℕ) (done : List (Answered ε κ)) : Prop :=
  ∀ b, passed budgets done b ≤ counts b ∧ counts b ≤ attempted budgets done b

variable {budgets limit} {counts : κ → ℕ} {done : List (Answered ε κ)} {a : Answered ε κ} {e : ε}

omit [DecidableEq κ] in
@[simp] lemma exceeded_nil : exceeded limit counts [] = none := rfl

omit [DecidableEq κ] in
lemma exceeded_cons (b : κ) (bs : List κ) :
    exceeded limit counts (b :: bs) =
      if limit b < counts b then some b else exceeded limit counts bs := by
  rw [exceeded, List.find?_cons]
  by_cases h : limit b < counts b
  · simp [h]
  · simp [h, exceeded]

omit [DecidableEq κ] in
lemma exceeded_eq_none_iff {bs : List κ} :
    exceeded limit counts bs = none ↔ ∀ b ∈ bs, (counts b : ℤ) ≤ limit b := by
  simp [exceeded]

omit [DecidableEq κ] in
lemma of_exceeded {bs : List κ} {b : κ} (h : exceeded limit counts bs = some b) :
    b ∈ bs ∧ limit b < counts b :=
  ⟨List.mem_of_find?_eq_some h, by simpa using List.find?_some h⟩

lemma attempted_concat (b : κ) :
    attempted budgets (done ++ [a]) b =
      attempted budgets done b + if b ∈ budgets a.event then 1 else 0 := by
  simp [attempted, List.countP_append, List.countP_singleton]

lemma passed_concat (b : κ) :
    passed budgets (done ++ [a]) b =
      passed budgets done b + if a.passed = true ∧ b ∈ budgets a.event then 1 else 0 := by
  simp [passed, List.countP_append, List.countP_singleton]

lemma charge_of_nodup {bs : List κ} (hnodup : bs.Nodup) (b : κ) :
    charge counts bs b = counts b + if b ∈ bs then 1 else 0 := by
  rw [charge, hnodup.count]

lemma between_nil : Between budgets (fun _ => 0) [] := fun _ => ⟨le_rfl, le_rfl⟩

/-- An event that is refused need not be counted. -/
lemma Between.skip (h : Between budgets counts done) (ha : a.passed = false) :
    Between budgets counts (done ++ [a]) := by
  intro b
  obtain ⟨hpassed, hattempted⟩ := h b
  rw [passed_concat, attempted_concat, if_neg (by simp [ha])]
  omega

/-- An event that is counted once may pass or not. -/
lemma Between.charge (h : Between budgets counts done) (hnodup : (budgets a.event).Nodup) :
    Between budgets (charge counts (budgets a.event)) (done ++ [a]) := by
  intro b
  obtain ⟨hpassed, hattempted⟩ := h b
  rw [passed_concat, attempted_concat, charge_of_nodup hnodup]
  by_cases hb : b ∈ budgets a.event
  · rw [if_pos hb]
    split <;> omega
  · rw [if_neg hb, if_neg fun hand => hb hand.2]
    omega

/-- The answer of a gate is right. -/
lemma right_answerOf (h : Between budgets counts done) (hnodup : (budgets e).Nodup) :
    Right budgets limit done (answerOf budgets limit counts e) := by
  have hbetween := h.charge (a := answerOf budgets limit counts e) hnodup
  constructor
  · intro hpassed b hb
    have hnone : exceeded limit (charge counts (budgets e)) (budgets e) = none := by
      simpa [answerOf] using hpassed
    have hle := exceeded_eq_none_iff.mp hnone b hb
    exact Int.le_trans (Int.ofNat_le.mpr (hbetween b).1) hle
  · intro b hb
    have hsome : exceeded limit (charge counts (budgets e)) (budgets e) = some b := by
      simpa [answerOf] using hb
    have hlt := (of_exceeded hsome).2
    exact Int.lt_of_lt_of_le hlt (Int.ofNat_le.mpr (hbetween b).2)

/-- A refusal for no budget is right. -/
lemma right_of_skip (hpassed : a.passed = false) (hrefusals : a.refusals = []) :
    Right budgets limit done a where
  within h := by simp [hpassed] at h
  justified := by simp [hrefusals]

lemma enforced_append {t u : List (Answered ε κ)} :
    Enforced budgets limit done (t ++ u) ↔
      Enforced budgets limit done t ∧ Enforced budgets limit (done ++ t) u := by
  induction t generalizing done with
  | nil => simp [Enforced]
  | cons a t ih => simp [Enforced, ih, and_assoc]

/-! ### Machines that answer events -/

/-- The answers of a machine to a list of events. -/
def trace (answer : σ → ε → Answered ε κ × σ) : σ → List ε → List (Answered ε κ)
  | _, [] => []
  | s, e :: es => (answer s e).1 :: trace answer (answer s e).2 es

/-- The state of the machine after a list of events. -/
abbrev final (answer : σ → ε → Answered ε κ × σ) : σ → List ε → σ :=
  run fun s e => (answer s e).2

variable {answer : σ → ε → Answered ε κ × σ} {view : σ → κ → ℕ} {s : σ} {es : List ε}

omit [DecidableEq κ] in
lemma trace_append (s : σ) (es fs : List ε) :
    trace answer s (es ++ fs) = trace answer s es ++ trace answer (final answer s es) fs := by
  induction es generalizing s with
  | nil => rfl
  | cons e es ih => exact congrArg _ (ih _)

variable (budgets limit answer view) in
/-- The machine answers as a gate does, and counts. -/
def Gates (s : σ) (e : ε) : Prop :=
  (answer s e).1 = answerOf budgets limit (view s) e ∧
    view (answer s e).2 = charge (view s) (budgets e)

variable (answer view) in
/-- The machine refuses the event for no budget, and does not count it. -/
def Skips (s : σ) (e : ε) : Prop :=
  (answer s e).1 = ⟨e, false, []⟩ ∧ view (answer s e).2 = view s

/-- A machine that gates or skips every event enforces the budgets. -/
theorem enforced_of_gated {I : σ → Prop} (hnodup : ∀ e, (budgets e).Nodup)
    (hkeeps : ∀ s e, I s → I (answer s e).2)
    (hstep : ∀ s, I s → ∀ e ∈ es, Gates budgets limit answer view s e ∨ Skips answer view s e)
    (hs : I s) (hdone : Between budgets (view s) done) :
    Enforced budgets limit done (trace answer s es) := by
  induction es generalizing s done with
  | nil => trivial
  | cons e es ih =>
    have hrest : ∀ s, I s → ∀ e ∈ es, Gates budgets limit answer view s e ∨ Skips answer view s e :=
      fun s hs e he => hstep s hs e (List.mem_cons_of_mem _ he)
    rcases hstep s hs e List.mem_cons_self with ⟨hanswer, hview⟩ | ⟨hanswer, hview⟩
    · constructor
      · rw [hanswer]
        exact right_answerOf hdone (hnodup e)
      · refine ih hrest (hkeeps s e hs) ?_
        rw [hview, hanswer]
        exact hdone.charge (hnodup e)
    · constructor
      · rw [hanswer]
        exact right_of_skip rfl rfl
      · refine ih hrest (hkeeps s e hs) ?_
        rw [hview, hanswer]
        exact hdone.skip rfl

/-- The number of events of a budget. -/
def total (budgets : ε → List κ) (es : List ε) (b : κ) : ℕ := es.countP fun e => b ∈ budgets e

lemma total_cons (e : ε) (es : List ε) (b : κ) :
    total budgets (e :: es) b = total budgets es b + if b ∈ budgets e then 1 else 0 := by
  simp [total, List.countP_cons]

lemma passed_map (es : List ε) (b : κ) :
    passed budgets (es.map fun e => (⟨e, true, []⟩ : Answered ε κ)) b = total budgets es b := by
  rw [passed, List.countP_map]
  rfl

lemma attempted_map (es : List ε) (b : κ) :
    attempted budgets (es.map fun e => (⟨e, true, []⟩ : Answered ε κ)) b = total budgets es b := by
  rw [attempted, List.countP_map]
  rfl

/-- A gate counts every event, whether it passes or not. -/
theorem final_of_gates {I : σ → Prop} (hnodup : ∀ e, (budgets e).Nodup)
    (hkeeps : ∀ s e, I s → I (answer s e).2)
    (hstep : ∀ s, I s → ∀ e ∈ es, Gates budgets limit answer view s e) (hs : I s) :
    (∀ b, view (final answer s es) b = view s b + total budgets es b) ∧ I (final answer s es) := by
  induction es generalizing s with
  | nil => exact ⟨fun _ => rfl, hs⟩
  | cons e es ih =>
    obtain ⟨-, hview⟩ := hstep s hs e List.mem_cons_self
    obtain ⟨hfinal, hinv⟩ := ih (s := (answer s e).2)
      (fun s hs e he => hstep s hs e (List.mem_cons_of_mem _ he)) (hkeeps s e hs)
    refine ⟨fun b => (hfinal b).trans ?_, hinv⟩
    rw [hview, charge_of_nodup (hnodup e), total_cons]
    omega

/-- Events that fit into their budgets pass. -/
theorem trace_of_fits {I : σ → Prop} (hnodup : ∀ e, (budgets e).Nodup)
    (hkeeps : ∀ s e, I s → I (answer s e).2)
    (hstep : ∀ s, I s → ∀ e ∈ es, Gates budgets limit answer view s e) (hs : I s)
    (hfits : ∀ e ∈ es, ∀ b ∈ budgets e, ((view s b + total budgets es b : ℕ) : ℤ) ≤ limit b) :
    trace answer s es = es.map fun e => ⟨e, true, []⟩ := by
  induction es generalizing s with
  | nil => rfl
  | cons e es ih =>
    obtain ⟨hanswer, hview⟩ := hstep s hs e List.mem_cons_self
    have hcounts : ∀ b, view (answer s e).2 b + total budgets es b =
        view s b + total budgets (e :: es) b := by
      intro b
      rw [hview, charge_of_nodup (hnodup e), total_cons]
      omega
    have hnone : exceeded limit (charge (view s) (budgets e)) (budgets e) = none := by
      refine exceeded_eq_none_iff.mpr fun b hb => ?_
      have hle := hfits e List.mem_cons_self b hb
      rw [← hcounts b, hview] at hle
      omega
    have htrace := ih (s := (answer s e).2)
      (fun s hs e he => hstep s hs e (List.mem_cons_of_mem _ he)) (hkeeps s e hs)
      (fun e' he' b hb => by
        rw [hcounts b]
        exact hfits e' (List.mem_cons_of_mem _ he') b hb)
    rw [trace, htrace, hanswer, answerOf, hnone]
    rfl

/-- The first event of a budget passes, if the budgets that it has besides have room. -/
theorem one_le_passed {I : σ → Prop} {b : κ} (hnodup : ∀ e, (budgets e).Nodup)
    (hkeeps : ∀ s e, I s → I (answer s e).2)
    (hstep : ∀ s, I s → ∀ e ∈ es, Gates budgets limit answer view s e) (hs : I s)
    (hfirst : view s b = 0) (hlimit : 1 ≤ limit b)
    (hroom : ∀ e ∈ es, b ∈ budgets e → ∀ b' ∈ budgets e, b' ≠ b →
      ((view s b' + total budgets es b' : ℕ) : ℤ) ≤ limit b')
    (hmem : ∃ e ∈ es, b ∈ budgets e) : 1 ≤ passed budgets (trace answer s es) b := by
  induction es generalizing s with
  | nil =>
    obtain ⟨e, he, -⟩ := hmem
    cases he
  | cons e es ih =>
    obtain ⟨hanswer, hview⟩ := hstep s hs e List.mem_cons_self
    rw [trace, passed, List.countP_cons]
    by_cases hb : b ∈ budgets e
    · have hnone : exceeded limit (charge (view s) (budgets e)) (budgets e) = none := by
        refine exceeded_eq_none_iff.mpr fun b' hb' => ?_
        rw [charge_of_nodup (hnodup e), if_pos hb']
        by_cases heq : b' = b
        · rw [heq, hfirst]
          exact hlimit
        · have hle := hroom e List.mem_cons_self hb b' hb' heq
          rw [total_cons, if_pos hb'] at hle
          omega
      have hpassed :
          ((answer s e).1.passed && decide (b ∈ budgets (answer s e).1.event)) = true := by
        rw [hanswer, answerOf, hnone]
        simpa using hb
      rw [if_pos hpassed]
      omega
    · have hcounts : ∀ b, view (answer s e).2 b + total budgets es b =
          view s b + total budgets (e :: es) b := by
        intro b
        rw [hview, charge_of_nodup (hnodup e), total_cons]
        omega
      have hlater : 1 ≤ passed budgets (trace answer (answer s e).2 es) b := by
        refine ih (fun s hs e he => hstep s hs e (List.mem_cons_of_mem _ he)) (hkeeps s e hs) ?_
          (fun e' he' hb' b' hb'' hne => ?_) ?_
        · rw [hview, charge_of_nodup (hnodup e), if_neg hb, hfirst]
        · rw [hcounts]
          exact hroom e' (List.mem_cons_of_mem _ he') hb' b' hb'' hne
        · obtain ⟨e', he', hb'⟩ := hmem
          rcases List.mem_cons.mp he' with rfl | he'
          · exact absurd hb' hb
          · exact ⟨e', he', hb'⟩
      exact Nat.le_add_right_of_le hlater

end EcommerceAgent.Lib.Budgets
