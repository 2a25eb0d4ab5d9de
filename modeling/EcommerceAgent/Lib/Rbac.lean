/-
# Role-based access control with domains

An enforcer holds policies, which allow a subject of a domain some actions on some objects, and
groupings, which give a user a role in a domain.  A role may have roles itself.  A request is
allowed when a policy of its domain, or of all domains, names a subject that its user is linked to;
how objects and actions are matched is a parameter.
-/
import Mathlib.Tactic.Common
import Mathlib.Data.List.Basic

namespace EcommerceAgent.Lib

/-- The subject `sub` may do `act` on `obj` in the domain `dom`. -/
structure Policy where
  sub : String
  dom : String
  obj : String
  act : String
deriving DecidableEq, Repr

/-- The user has the role in the domain. -/
structure Grouping where
  user : String
  role : String
  dom : String
deriving DecidableEq, Repr

structure Enforcer where
  policies : List Policy
  groupings : List Grouping
deriving DecidableEq, Repr

namespace Enforcer

/-- Whether `name` is `role`, or has it by at most `level` groupings of the domain. -/
def hasLink (e : Enforcer) (dom role : String) : ℕ → String → Bool
  | 0, name => name == role
  | level + 1, name => name == role ||
    e.groupings.any fun g => g.user == name && g.dom == dom && e.hasLink dom role level g.role

/-- The depth to which the default role manager follows roles of roles. -/
def maxHierarchyLevel : ℕ := 10

/-- The user is linked to the role in the domain. -/
def linked (e : Enforcer) (user role dom : String) : Bool :=
  e.hasLink dom role maxHierarchyLevel user

/-- The decision for a request: some policy allows it. -/
def enforce (e : Enforcer) (matchObj matchAct : String → String → Bool)
    (sub dom obj act : String) : Bool :=
  e.policies.any fun p => (p.dom == "*" || dom == p.dom) && e.linked sub p.sub dom &&
    matchObj obj p.obj && matchAct act p.act

/-- `AddPolicy`: a policy that is there already is not added again. -/
def addPolicy (e : Enforcer) (p : Policy) : Enforcer :=
  if p ∈ e.policies then e else { e with policies := e.policies ++ [p] }

/-- `AddRoleForUserInDomain`. -/
def addGrouping (e : Enforcer) (g : Grouping) : Enforcer :=
  if g ∈ e.groupings then e else { e with groupings := e.groupings ++ [g] }

variable {e : Enforcer}

@[simp] lemma groupings_addPolicy (p : Policy) : (e.addPolicy p).groupings = e.groupings := by
  unfold addPolicy
  split <;> rfl

lemma mem_groupings_addGrouping {g g' : Grouping} :
    g' ∈ (e.addGrouping g).groupings ↔ g' ∈ e.groupings ∨ g' = g := by
  unfold addGrouping
  split
  · rename_i h
    refine ⟨.inl, ?_⟩
    rintro (h' | rfl)
    · exact h'
    · exact h
  · simp

lemma addPolicy_of_mem {p : Policy} (h : p ∈ e.policies) : e.addPolicy p = e := if_pos h

lemma addGrouping_of_mem {g : Grouping} (h : g ∈ e.groupings) : e.addGrouping g = e := if_pos h

lemma groupings_foldl_addPolicy (ps : List Policy) :
    (ps.foldl addPolicy e).groupings = e.groupings := by
  induction ps generalizing e with
  | nil => rfl
  | cons p ps ih => rw [List.foldl_cons, ih, groupings_addPolicy]

lemma foldl_addPolicy_of_mem {ps : List Policy} (h : ∀ p ∈ ps, p ∈ e.policies) :
    ps.foldl addPolicy e = e := by
  induction ps with
  | nil => rfl
  | cons p ps ih =>
    rw [List.foldl_cons, addPolicy_of_mem (h p List.mem_cons_self)]
    exact ih fun q hq => h q (List.mem_cons_of_mem _ hq)

/-- When only one role is ever given, whoever is linked to it has it, or is called like it. -/
lemma mem_groupings_of_linked {user role dom : String} (hrole : ∀ g ∈ e.groupings, g.role = role)
    (h : e.linked user role dom = true) : user = role ∨ ⟨user, role, dom⟩ ∈ e.groupings := by
  unfold linked maxHierarchyLevel at h
  simp only [hasLink, Bool.or_eq_true, beq_iff_eq] at h
  refine h.imp_right fun hany => ?_
  obtain ⟨g, hg, hlink⟩ := List.any_eq_true.1 hany
  simp only [Bool.and_eq_true, beq_iff_eq] at hlink
  obtain ⟨⟨rfl, rfl⟩, -⟩ := hlink
  rw [← hrole g hg]
  exact hg

lemma policies_addGrouping (g : Grouping) : (e.addGrouping g).policies = e.policies := by
  unfold addGrouping
  split <;> rfl

lemma mem_policies_addPolicy {p q : Policy} :
    q ∈ (e.addPolicy p).policies ↔ q ∈ e.policies ∨ q = p := by
  unfold addPolicy
  split
  · rename_i h
    refine ⟨.inl, ?_⟩
    rintro (h' | rfl)
    · exact h'
    · exact h
  · simp

lemma mem_policies_foldl_addPolicy {ps : List Policy} {q : Policy} :
    q ∈ (ps.foldl addPolicy e).policies ↔ q ∈ e.policies ∨ q ∈ ps := by
  induction ps generalizing e with
  | nil => simp
  | cons p ps ih => rw [List.foldl_cons, ih, mem_policies_addPolicy, List.mem_cons, or_assoc]

lemma linked_of_mem {user role dom : String} (h : ⟨user, role, dom⟩ ∈ e.groupings) :
    e.linked user role dom = true := by
  unfold linked maxHierarchyLevel
  rw [hasLink, Bool.or_eq_true]
  refine .inr (List.any_eq_true.2 ⟨_, h, ?_⟩)
  simp [hasLink]

/-- A policy of the domain allows what it matches to everybody who has its subject as a role. -/
lemma enforce_of_mem {matchObj matchAct : String → String → Bool} {user dom obj act : String}
    {p : Policy} (hp : p ∈ e.policies) (hdom : p.dom = dom)
    (hrole : ⟨user, p.sub, dom⟩ ∈ e.groupings) (hobj : matchObj obj p.obj = true)
    (hact : matchAct act p.act = true) : e.enforce matchObj matchAct user dom obj act = true :=
  List.any_eq_true.2 ⟨p, hp, by simp [hdom, linked_of_mem hrole, hobj, hact]⟩

end Enforcer

end EcommerceAgent.Lib
