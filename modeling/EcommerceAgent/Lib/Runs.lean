/-
# Runs of a labelled step function

A system is given by a total function `step : σ → α → σ`; an action that is refused leaves
the state unchanged.  A run is a finite list of actions, executed from the left.  This file
collects the two ways in which the steps of a run are reasoned about: an invariant that
every step preserves holds at the end of the run, and a property of single steps (`Along`)
is carried from one list of actions to its parts.
-/
import Mathlib.Tactic.Common
import Mathlib.Data.List.Basic
import Mathlib.Data.List.Induction

namespace EcommerceAgent.Lib

variable {σ α : Type*}

/-- The state reached from `s` by the actions `as`, executed from the left. -/
def run (step : σ → α → σ) (s : σ) (as : List α) : σ := as.foldl step s

/-- Every step of the run satisfies `P`, a property of the state before the step and of the
action. -/
def Along (step : σ → α → σ) (P : σ → α → Prop) : σ → List α → Prop
  | _, [] => True
  | s, a :: as => P s a ∧ Along step P (step s a) as

variable {step : σ → α → σ} {P Q : σ → α → Prop}

@[simp] lemma run_nil (s : σ) : run step s [] = s := rfl

@[simp] lemma run_cons (s : σ) (a : α) (as : List α) :
    run step s (a :: as) = run step (step s a) as := rfl

lemma run_append (s : σ) (as bs : List α) :
    run step s (as ++ bs) = run step (run step s as) bs := by
  simp [run, List.foldl_append]

@[simp] lemma along_nil (s : σ) : Along step P s [] := trivial

@[simp] lemma along_cons (s : σ) (a : α) (as : List α) :
    Along step P s (a :: as) ↔ P s a ∧ Along step P (step s a) as := Iff.rfl

instance Along.decidable [∀ s a, Decidable (P s a)] :
    (s : σ) → (as : List α) → Decidable (Along step P s as)
  | _, [] => .isTrue trivial
  | s, a :: as =>
    have := Along.decidable (step s a) as
    inferInstanceAs (Decidable (P s a ∧ Along step P (step s a) as))

lemma along_append (s : σ) (as bs : List α) :
    Along step P s (as ++ bs) ↔ Along step P s as ∧ Along step P (run step s as) bs := by
  induction as generalizing s with
  | nil => simp
  | cons a as ih => simp [ih, and_assoc]

/-- An invariant that every step meeting `P` preserves holds at the end of a run all of whose
steps meet `P`. -/
theorem run_invariant {I : σ → Prop}
    (hstep : ∀ s a, I s → P s a → I (step s a)) {s : σ} {as : List α}
    (hs : I s) (has : Along step P s as) : I (run step s as) := by
  induction as generalizing s with
  | nil => exact hs
  | cons a as ih => exact ih (hstep s a hs has.1) has.2

/-- A property of the actions alone holds along a run of such actions. -/
lemma along_of_forall {P : α → Prop} (s : σ) {as : List α} (has : ∀ a ∈ as, P a) :
    Along step (fun _ a => P a) s as := by
  induction as generalizing s with
  | nil => trivial
  | cons a as ih =>
    exact ⟨has a List.mem_cons_self, ih _ fun a' ha' => has a' (List.mem_cons_of_mem _ ha')⟩

/-- An invariant that every step preserves holds at the end of every run. -/
theorem run_induction {I : σ → Prop} (hstep : ∀ s a, I s → I (step s a)) {s : σ} (hs : I s)
    (as : List α) : I (run step s as) := by
  induction as generalizing s with
  | nil => exact hs
  | cons a as ih => exact ih (hstep s a hs)

/-- Along a run the invariant is available at every step. -/
theorem along_of_invariant {I : σ → Prop}
    (hstep : ∀ s a, I s → P s a → I (step s a))
    (hPQ : ∀ s a, I s → P s a → Q s a) {s : σ} {as : List α}
    (hs : I s) (has : Along step P s as) : Along step Q s as := by
  induction as generalizing s with
  | nil => trivial
  | cons a as ih => exact ⟨hPQ s a hs has.1, ih (hstep s a hs has.1) has.2⟩

/-- In a run whose steps all meet `Q`: if `P` is exactly what such a step needs to keep `I`, then
`I` holds in all states of the run if and only if all its steps meet `P`. -/
theorem always_iff_along_of {I : σ → Prop}
    (hstep : ∀ s a, I s → Q s a → (I (step s a) ↔ P s a)) {s : σ} (hI : I s) (as : List α)
    (has : Along step Q s as) : (∀ bs, bs <+: as → I (run step s bs)) ↔ Along step P s as := by
  induction as generalizing s with
  | nil =>
    refine ⟨fun _ => trivial, fun _ bs hbs => ?_⟩
    rw [List.prefix_nil.1 hbs]
    exact hI
  | cons a as ih =>
    constructor
    · intro h
      have hnext : I (step s a) := h [a] ⟨as, rfl⟩
      refine ⟨(hstep s a hI has.1).1 hnext, (ih hnext has.2).1 fun bs hbs => ?_⟩
      exact h (a :: bs) (List.cons_prefix_cons.2 ⟨rfl, hbs⟩)
    · rintro ⟨hP, hrest⟩ bs hbs
      have hnext : I (step s a) := (hstep s a hI has.1).2 hP
      cases bs with
      | nil => exact hI
      | cons b bs =>
        obtain ⟨rfl, hrest'⟩ := List.cons_prefix_cons.1 hbs
        exact (ih hnext has.2).2 hrest bs hrest'

/-- If `P` is exactly what a step needs to keep `I`, where `J` holds in every state, then `I` holds
in all states of a run if and only if all steps of the run meet `P`. -/
theorem always_iff_along {I J : σ → Prop} (hJ : ∀ s a, J s → J (step s a))
    (hstep : ∀ s a, J s → I s → (I (step s a) ↔ P s a)) {s : σ} (hs : J s) (hI : I s)
    (as : List α) : (∀ bs, bs <+: as → I (run step s bs)) ↔ Along step P s as := by
  have halong : Along step (fun s _ => J s) s as := by
    clear hI
    induction as generalizing s with
    | nil => trivial
    | cons a as ih => exact ⟨hs, ih (hJ s a hs)⟩
  exact always_iff_along_of (fun s a hI hs => hstep s a hs hI) hI as halong

/-- Two properties of single steps that agree in every state hold along the same runs. -/
lemma along_congr (h : ∀ s a, P s a ↔ Q s a) (s : σ) (as : List α) :
    Along step P s as ↔ Along step Q s as := by
  induction as generalizing s with
  | nil => simp
  | cons a as ih => simp [h, ih]

/-! ### Histories

A list of actions is also the run of the system that remembers what it did. -/

/-- Every action of the list satisfies `P`, a property of the actions before it and of itself. -/
def Throughout (P : List α → α → Prop) (as : List α) : Prop :=
  Along (fun done a => done ++ [a]) P [] as

lemma run_history (done as : List α) : run (fun done a => done ++ [a]) done as = done ++ as := by
  induction as generalizing done with
  | nil => simp
  | cons a as ih => rw [run_cons, ih, List.append_assoc, List.singleton_append]

section Throughout

variable {P Q : List α → α → Prop} {as : List α}

@[simp] lemma throughout_nil : Throughout P [] := trivial

@[simp] lemma throughout_concat (as : List α) (a : α) :
    Throughout P (as ++ [a]) ↔ Throughout P as ∧ P as a := by
  rw [Throughout, along_append, run_history, List.nil_append, along_cons]
  exact and_congr_right fun _ => and_iff_left trivial

instance Throughout.decidable [∀ done a, Decidable (P done a)] (as : List α) :
    Decidable (Throughout P as) :=
  inferInstanceAs (Decidable (Along _ P [] as))

/-- What every action preserves holds of the whole list. -/
theorem Throughout.induction {I : List α → Prop} (hnil : I [])
    (hstep : ∀ done a, I done → P done a → I (done ++ [a])) (h : Throughout P as) : I as := by
  have hrun := run_invariant hstep hnil h
  rwa [run_history, List.nil_append] at hrun

/-- Two properties of every action are one. -/
lemma Throughout.and (hP : Throughout P as) (hQ : Throughout Q as) :
    Throughout (fun done a => P done a ∧ Q done a) as := by
  induction as using List.reverseRecOn with
  | nil => exact throughout_nil
  | append_singleton as a ih =>
    rw [throughout_concat] at hP hQ ⊢
    exact ⟨ih hP.1 hQ.1, hP.2, hQ.2⟩

/-- A property that follows from what holds of the actions before and of the action itself. -/
lemma Throughout.of_induction {I : List α → Prop} (hnil : I [])
    (hstep : ∀ done a, I done → P done a → I (done ++ [a]))
    (hPQ : ∀ done a, I done → P done a → Q done a) (h : Throughout P as) : Throughout Q as :=
  along_of_invariant hstep hPQ hnil h

end Throughout

end EcommerceAgent.Lib
