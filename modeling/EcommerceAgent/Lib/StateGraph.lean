/-
# Compiled state graphs

The part of LangGraph that a graph of nodes with static and conditional edges uses: one node is
active at a time, it replaces the state, and the edge out of it selects the next node or ends
the run.  A node may raise, which ends the run as well.  What comes from outside (a model's
answer, a tool's result, the environment) is an input of the single visit.

A run counts its steps.  Before every step, also before the one that finds no node left, the
number of the step is compared with the recursion limit.
-/
import Mathlib.Tactic.Common
import Mathlib.Data.List.Basic

namespace EcommerceAgent.Lib

/-- A compiled graph: `node n i s` lists the effects of a visit of `n` and gives the new state,
or the exception that the node raises; `next n s` is the node after `n`, `none` for `END`. -/
structure StateGraph (ν σ ι ω ε : Type*) where
  start : ν
  node : ν → ι → σ → List ω × Except ε σ
  next : ν → σ → Option ν

namespace StateGraph

variable {ν σ ι ω ε : Type*}

/-- One visit of a node. -/
structure Visit (ν σ ι ω ε : Type*) where
  node : ν
  input : ι
  before : σ
  effects : List ω
  result : Except ε σ

/-- How a run ends. -/
inductive Outcome (σ ε : Type*)
  | finished (state : σ)
  | raised (error : ε)
  | recursionError

/-- The state in which a run finishes. -/
def Outcome.state : Outcome σ ε → Option σ
  | .finished state => some state
  | _ => none

variable (g : StateGraph ν σ ι ω ε)

/-- The visit of `n` in state `s` with input `i`. -/
def visit (n : ν) (i : ι) (s : σ) : Visit ν σ ι ω ε :=
  ⟨n, i, s, (g.node n i s).1, (g.node n i s).2⟩

/-- The visits of a run from node `n`, and how it ends; `steps` steps are left, and the inputs
are numbered by the visits. -/
def runFrom (inputs : ℕ → ι) : ℕ → ℕ → ν → σ → List (Visit ν σ ι ω ε) × Outcome σ ε
  | 0, _, _, _ => ([], .recursionError)
  | steps + 1, k, n, s =>
    let v := g.visit n (inputs k) s
    match v.result with
    | .error e => ([v], .raised e)
    | .ok s' =>
      match g.next n s' with
      | some n' =>
        let rest := runFrom inputs steps (k + 1) n' s'
        (v :: rest.1, rest.2)
      | none => ([v], if steps = 0 then .recursionError else .finished s')

/-- A run of the graph with the given recursion limit. -/
def run (limit : ℕ) (inputs : ℕ → ι) (s : σ) : List (Visit ν σ ι ω ε) × Outcome σ ε :=
  g.runFrom inputs limit 0 g.start s

variable {g} {inputs : ℕ → ι}

/-- Every visit of a run is a visit of the graph. -/
lemma visit_of_mem {steps k : ℕ} {n : ν} {s : σ} {v : Visit ν σ ι ω ε}
    (h : v ∈ (g.runFrom inputs steps k n s).1) : v = g.visit v.node v.input v.before := by
  induction steps generalizing k n s with
  | zero => cases h
  | succ steps ih =>
    simp only [runFrom] at h
    split at h
    · rw [List.mem_singleton.1 h]
      rfl
    · split at h
      · rcases List.mem_cons.1 h with rfl | h
        · rfl
        · exact ih h
      · rw [List.mem_singleton.1 h]
        rfl

/-- A run that goes on. -/
lemma runFrom_next (inputs : ℕ → ι) (steps k : ℕ) {n n' : ν} {s s' : σ}
    (hs' : (g.node n (inputs k) s).2 = .ok s') (hn' : g.next n s' = some n') :
    g.runFrom inputs (steps + 1) k n s =
      (g.visit n (inputs k) s :: (g.runFrom inputs steps (k + 1) n' s').1,
        (g.runFrom inputs steps (k + 1) n' s').2) := by
  simp only [runFrom, visit, hs', hn']

/-- A run that an edge to `END` finishes. -/
lemma runFrom_last {steps k : ℕ} {n : ν} {s s' : σ}
    (hs' : (g.node n (inputs k) s).2 = .ok s') (hn' : g.next n s' = none) :
    (g.runFrom inputs (steps + 1) k n s).1 = [g.visit n (inputs k) s] := by
  simp only [runFrom, visit, hs', hn']

/-- The first visit of a run. -/
lemma runFrom_cons (inputs : ℕ → ι) (steps k : ℕ) (n : ν) (s : σ) :
    ∃ later, (g.runFrom inputs (steps + 1) k n s).1 = g.visit n (inputs k) s :: later := by
  simp only [runFrom]
  split
  · exact ⟨[], rfl⟩
  · split
    · exact ⟨_, rfl⟩
    · exact ⟨[], rfl⟩

lemma visit_mem_runFrom (inputs : ℕ → ι) (steps k : ℕ) (n : ν) (s : σ) :
    g.visit n (inputs k) s ∈ (g.runFrom inputs (steps + 1) k n s).1 := by
  obtain ⟨later, h⟩ := g.runFrom_cons inputs steps k n s
  rw [h]
  exact List.mem_cons_self

/-- The first node of a run. -/
lemma head_runFrom (steps k : ℕ) (n : ν) (s : σ) :
    (g.runFrom inputs (steps + 1) k n s).1.head?.map Visit.node = some n := by
  obtain ⟨later, h⟩ := g.runFrom_cons inputs steps k n s
  rw [h]
  rfl

lemma cons_eq {α : Type*} {a b : α} {l earlier later : List α}
    (h : a :: l = earlier ++ b :: later) :
    (earlier = [] ∧ b = a ∧ later = l) ∨
      ∃ earlier', earlier = a :: earlier' ∧ l = earlier' ++ b :: later := by
  rcases List.cons_eq_append_iff.1 h with ⟨rfl, heq⟩ | ⟨earlier', rfl, heq⟩
  · obtain ⟨rfl, rfl⟩ := List.cons.inj heq
    exact .inl ⟨rfl, rfl, rfl⟩
  · exact .inr ⟨earlier', rfl, heq⟩

/-- In a run that is not cut off, the node after a visit is the one that its edge selects. -/
lemma next_visit {steps k : ℕ} {n : ν} {s : σ}
    (hlimit : (g.runFrom inputs steps k n s).2 ≠ .recursionError)
    {earlier later : List (Visit ν σ ι ω ε)} {v : Visit ν σ ι ω ε} {s' : σ}
    (hv : (g.runFrom inputs steps k n s).1 = earlier ++ v :: later) (hs' : v.result = .ok s') :
    later.head?.map Visit.node = g.next v.node s' := by
  induction steps generalizing k n s earlier with
  | zero => exact absurd rfl hlimit
  | succ steps ih =>
    cases hr : (g.node n (inputs k) s).2 with
    | error e =>
      have hrun : (g.runFrom inputs (steps + 1) k n s).1 = [g.visit n (inputs k) s] := by
        simp only [runFrom, visit, hr]
      rcases cons_eq (hrun.symm.trans hv) with ⟨-, rfl, -⟩ | ⟨earlier', -, hrest⟩
      · cases hr.symm.trans hs'
      · simp at hrest
    | ok s₁ =>
      cases hnext : g.next n s₁ with
      | none =>
        rcases cons_eq ((runFrom_last hr hnext).symm.trans hv) with
          ⟨-, rfl, rfl⟩ | ⟨earlier', -, hrest⟩
        · cases hr.symm.trans hs'
          exact hnext.symm
        · simp at hrest
      | some n' =>
        rw [runFrom_next _ _ _ hr hnext] at hv hlimit
        rcases cons_eq hv with ⟨-, rfl, rfl⟩ | ⟨earlier', -, hrest⟩
        · cases hr.symm.trans hs'
          refine Eq.trans ?_ hnext.symm
          cases steps with
          | zero => exact absurd rfl hlimit
          | succ steps => rw [head_runFrom]
        · exact ih hlimit hrest

/-! ### Invariants along a run -/

/-- An invariant of the visits made so far, the active node and the state.  Every step keeps
`I`, and every visit from a state with `I` meets `Q`, a property of the earlier visits and of
the visit. -/
theorem visits_of_invariant (inputs : ℕ → ι)
    {I : List (Visit ν σ ι ω ε) → ν → σ → Prop}
    {Q : List (Visit ν σ ι ω ε) → Visit ν σ ι ω ε → Prop}
    (hvisit : ∀ h n s, I h n s → Q h (g.visit n (inputs h.length) s))
    (hstep : ∀ h n s s' n', I h n s → (g.node n (inputs h.length) s).2 = .ok s' →
      g.next n s' = some n' → I (h ++ [g.visit n (inputs h.length) s]) n' s')
    {h : List (Visit ν σ ι ω ε)} {steps : ℕ} {n : ν} {s : σ} (hI : I h n s)
    {earlier later : List (Visit ν σ ι ω ε)} {v : Visit ν σ ι ω ε}
    (hv : (g.runFrom inputs steps h.length n s).1 = earlier ++ v :: later) :
    Q (h ++ earlier) v := by
  induction steps generalizing h n s earlier with
  | zero => simp [runFrom] at hv
  | succ steps ih =>
    have hlast : [g.visit n (inputs h.length) s] = earlier ++ v :: later →
        Q (h ++ earlier) v := by
      intro heq
      rcases cons_eq heq with ⟨rfl, rfl, -⟩ | ⟨earlier', -, hrest⟩
      · simpa using hvisit h n s hI
      · simp at hrest
    simp only [runFrom] at hv
    split at hv
    · exact hlast hv
    · rename_i s' hs'
      split at hv
      · rename_i n' hn'
        rcases cons_eq hv with ⟨rfl, rfl, -⟩ | ⟨earlier', rfl, hrest⟩
        · simpa using hvisit h n s hI
        · have hlength : (h ++ [g.visit n (inputs h.length) s]).length = h.length + 1 := by simp
          rw [← hlength] at hrest
          simpa using ih (hstep h n s s' n' hI hs' hn') hrest
      · exact hlast hv

/-- The state in which a run finishes is returned by a visit that no edge leaves. -/
lemma last_visit {steps k : ℕ} {n : ν} {s s' : σ}
    (h : (g.runFrom inputs steps k n s).2 = .finished s') :
    ∃ v ∈ (g.runFrom inputs steps k n s).1, v.result = .ok s' ∧ g.next v.node s' = none := by
  induction steps generalizing k n s with
  | zero => cases h
  | succ steps ih =>
    simp only [runFrom] at h ⊢
    split at h
    · cases h
    · rename_i s₁ hs₁
      split at h
      · obtain ⟨v, hv, hresult, hnext⟩ := ih h
        exact ⟨v, List.mem_cons_of_mem _ hv, hresult, hnext⟩
      · rename_i hnone
        split at h
        · cases h
        · cases h
          exact ⟨_, List.mem_singleton_self _, hs₁, hnone⟩

/-! ### Bounds -/

/-- A measure that every step from a state with `I` decreases bounds the number of visits, and a
recursion limit above it is never reached. -/
theorem bound_of_measure (inputs : ℕ → ι) {I : ν → σ → Prop} {m : ν → σ → ℕ}
    (hstep : ∀ n i s s' n', I n s → (g.node n i s).2 = .ok s' → g.next n s' = some n' →
      I n' s' ∧ m n' s' < m n s) {n : ν} {s : σ} (hI : I n s) (steps k : ℕ) :
    (g.runFrom inputs steps k n s).1.length ≤ m n s + 1 ∧
      (m n s + 1 < steps → (g.runFrom inputs steps k n s).2 ≠ .recursionError) := by
  induction steps generalizing k n s with
  | zero => exact ⟨by simp [runFrom], fun h => absurd h (by omega)⟩
  | succ steps ih =>
    simp only [runFrom]
    split
    · exact ⟨by simp, fun _ => nofun⟩
    · rename_i s' hs'
      split
      · rename_i n' hn'
        obtain ⟨hI', hlt⟩ := hstep n _ s s' n' hI hs' hn'
        obtain ⟨hlen, hrec⟩ := ih hI' (k + 1)
        refine ⟨?_, fun h => hrec (by omega)⟩
        simp only [List.length_cons]
        omega
      · refine ⟨by simp, fun h => ?_⟩
        rw [if_neg (by omega)]
        nofun

end StateGraph

end EcommerceAgent.Lib
