/-
# The review of policy proposals

`create_policy_proposal`, `approve_policy_proposal` and `reject_policy_proposal` of
`agent/reflection/policy_review.py`, one file operation at a time and in any interleaving.  The
proposals are rewritten as a whole from what a call has read, and an approval is appended to the
overrides in a second pair of operations.  The files agree whenever no call is in progress, as long
as no call writes over what it has not read, nothing is approved twice or rejected after its
approval, and no call is interrupted between the two files (`files_agree_of_orderly`).
-/
import EcommerceAgent.Lib.Runs
import EcommerceAgent.Lib.Table
import Mathlib.Data.List.Nodup
import Mathlib.Logic.Function.Basic

open EcommerceAgent.Lib

namespace EcommerceAgent.Runtime

/-! ### Files -/

inductive ProposalStatus
  | pending
  | approved
  | rejected
deriving DecidableEq

/-- A line of `policy_proposals.jsonl`. -/
structure PolicyProposal where
  proposalId : String
  status : ProposalStatus
  sessionId : String
  taskQuery : String
  rationale : String
  instruction : String
  createdAt : String
  reviewedAt : Option String
deriving DecidableEq

/-- An item of `main_agent.system_prompt_append` in `policy_overrides.yml`. -/
structure PolicyOverride where
  proposalId : String
  instruction : String
  approvedAt : Option String
deriving DecidableEq

/-- The item of an approved proposal. -/
def PolicyProposal.override (p : PolicyProposal) : PolicyOverride :=
  ⟨p.proposalId, p.instruction, p.reviewedAt⟩

/-- A proposal with a new status. -/
def PolicyProposal.mark (p : PolicyProposal) (status : ProposalStatus) (time : String) :
    PolicyProposal := { p with status, reviewedAt := some time }

/-- The loop over the proposals, which stops at the first one with the id. -/
def markFirst (id : String) (status : ProposalStatus) (time : String) :
    List PolicyProposal → List PolicyProposal
  | [] => []
  | p :: rest =>
    if p.proposalId = id then p.mark status time :: rest else p :: markFirst id status time rest

/-- `selected`. -/
def selectedIn (id : String) (proposals : List PolicyProposal) : Option PolicyProposal :=
  proposals.find? fun p => p.proposalId = id

/-- `list_approved_policy_instructions`. -/
def listApproved (overrides : List PolicyOverride) : List String :=
  (overrides.map (·.instruction)).filter (· ≠ "")

/-! ### Steps -/

/-- What a call does next; it holds what it has read. -/
inductive ReviewPhase
  | marking (id : String) (status : ProposalStatus) (time : String) (read : List PolicyProposal)
  | marked (selected : PolicyProposal)
  | merging (selected : PolicyProposal) (read : List PolicyOverride)

/-- The files and the calls in progress; and, for the comparison, the ids in the order of their
creation, the ids that are approved in the order of their approval, and whether a call has raised
after it had changed a file. -/
structure ReviewState where
  proposals : List PolicyProposal
  overrides : List PolicyOverride
  calls : ℕ → Option ReviewPhase
  created : List String
  approvals : List String
  raisedHalfway : Bool

/-- An operation on a file by one of the calls, or the failure of the next one of a call. -/
inductive ReviewEvent
  | create (id sessionId taskQuery rationale instruction time : String)
  | approve (call : ℕ) (id time : String)
  | reject (call : ℕ) (id time : String)
  | proceed (call : ℕ)
  | interrupt (call : ℕ)

namespace ReviewState

variable (s : ReviewState)

/-- The call reads the proposals; it raises where there is none with the id. -/
def begin (call : ℕ) (id : String) (status : ProposalStatus) (time : String) : ReviewState :=
  if (s.calls call).isSome ∨ selectedIn id s.proposals = none then s
  else { s with calls := Function.update s.calls call (some (.marking id status time s.proposals)) }

/-- The call writes the proposals. -/
def writeProposals (call : ℕ) (id : String) (status : ProposalStatus) (time : String)
    (read : List PolicyProposal) : ReviewState :=
  { s with
    proposals := markFirst id status time read
    approvals := s.approvals.filter (· ≠ id) ++ if status = .approved then [id] else []
    calls := Function.update s.calls call
      (if status = .approved then
        (selectedIn id (markFirst id status time read)).map ReviewPhase.marked
      else none) }

/-- The call writes the overrides. -/
def writeOverrides (call : ℕ) (selected : PolicyProposal) (read : List PolicyOverride) :
    ReviewState :=
  { s with
    overrides := read ++ [selected.override]
    calls := Function.update s.calls call none }

/-- One file operation. -/
def step : ReviewState → ReviewEvent → ReviewState
  | s, .create proposalId sessionId taskQuery rationale instruction time =>
    { s with
      proposals := s.proposals ++
        [{ proposalId, status := .pending, sessionId, taskQuery, rationale, instruction
           createdAt := time, reviewedAt := none }]
      created := s.created ++ [proposalId] }
  | s, .approve call id time => s.begin call id .approved time
  | s, .reject call id time => s.begin call id .rejected time
  | s, .proceed call =>
    match s.calls call with
    | none => s
    | some (.marking id status time read) => s.writeProposals call id status time read
    | some (.marked selected) =>
      { s with calls := Function.update s.calls call (some (.merging selected s.overrides)) }
    | some (.merging selected read) => s.writeOverrides call selected read
  | s, .interrupt call =>
    match s.calls call with
    | none => s
    | some (.marking ..) => { s with calls := Function.update s.calls call none }
    | some _ => { s with calls := Function.update s.calls call none, raisedHalfway := true }

end ReviewState

/-! ### What the files should say -/

namespace ReviewState

variable (s : ReviewState)

/-- No call is in progress. -/
def Quiet : Prop := ∀ call, s.calls call = none

/-- The instruction of a proposal in the file. -/
def instructionOf (id : String) : String :=
  ((selectedIn id s.proposals).map (·.instruction)).getD ""

/-- The approved instructions are those of the proposals whose status is approved, each once and in
the order of their approval, and every proposal is in the file once. -/
structure FilesAgree : Prop where
  approved : ∀ p ∈ s.proposals, p.status = .approved ↔ p.proposalId ∈ s.approvals
  known : ∀ id ∈ s.approvals, ∃ p ∈ s.proposals, p.proposalId = id
  once : s.approvals.Nodup
  listed : listApproved s.overrides = s.approvals.map s.instructionOf
  kept : ∀ id ∈ s.created, (s.proposals.map (·.proposalId)).count id = 1

/-- The files agree when all calls have returned, and no call has raised after it had changed
one. -/
structure Holds : Prop where
  agree : s.Quiet → s.FilesAgree
  whole : s.raisedHalfway = false

/-- A step that keeps the files in order: a new proposal has a new id; a call writes over what it
has read; it reviews a proposal that is not approved; what it approves says something, and is
written to the overrides after everything that was approved before; and it does not fail between
the two files. -/
def Orderly : ReviewState → ReviewEvent → Prop
  | s, .create id _ _ _ _ _ => id ∉ s.created
  | _, .approve .. => True
  | _, .reject .. => True
  | s, .proceed call =>
    match s.calls call with
    | none => True
    | some (.marking id status _ read) =>
      read = s.proposals ∧ id ∉ s.approvals ∧ (status = .approved → s.instructionOf id ≠ "")
    | some (.marked _) => True
    | some (.merging selected read) => read = s.overrides ∧
      s.overrides.map (·.proposalId) ++ [selected.proposalId] <+: s.approvals
  | s, .interrupt call =>
    match s.calls call with
    | none => True
    | some (.marking ..) => True
    | some _ => False

end ReviewState

/-- Files that agree, without a call in progress: where a run starts. -/
structure SettledFiles where
  proposals : List PolicyProposal
  overrides : List PolicyOverride
  distinct : (proposals.map (·.proposalId)).Nodup
  once : (overrides.map (·.proposalId)).Nodup
  approved : ∀ p ∈ proposals, p.status = .approved ↔ p.proposalId ∈ overrides.map (·.proposalId)
  known : ∀ o ∈ overrides, o.instruction ≠ "" ∧
    ∃ p ∈ proposals, p.proposalId = o.proposalId ∧ p.instruction = o.instruction

/-- No file yet. -/
def SettledFiles.empty : SettledFiles where
  proposals := []
  overrides := []
  distinct := .nil
  once := .nil
  approved := nofun
  known := nofun

/-- The state with these files. -/
def ReviewState.start (files : SettledFiles) : ReviewState where
  proposals := files.proposals
  overrides := files.overrides
  calls := fun _ => none
  created := files.proposals.map (·.proposalId)
  approvals := files.overrides.map (·.proposalId)
  raisedHalfway := false

/-! ### Marking -/

section Marking

variable {id : String} {status : ProposalStatus} {time : String} {l : List PolicyProposal}

@[simp] lemma ids_markFirst : (markFirst id status time l).map (·.proposalId) =
    l.map (·.proposalId) := by
  induction l with
  | nil => rfl
  | cons p rest ih =>
    rw [markFirst]
    split_ifs with h
    · rfl
    · rw [List.map_cons, ih, List.map_cons]

/-- With distinct ids the one proposal with the id is changed. -/
lemma markFirst_eq_map (h : (l.map (·.proposalId)).Nodup) : markFirst id status time l =
    l.map fun p => if p.proposalId = id then p.mark status time else p := by
  induction l with
  | nil => rfl
  | cons p rest ih =>
    rw [List.map_cons, List.nodup_cons] at h
    rw [markFirst, List.map_cons]
    by_cases hid : p.proposalId = id
    · rw [if_pos hid, if_pos hid]
      refine congrArg (p.mark status time :: ·) ?_
      refine (List.map_id rest).symm.trans (List.map_congr_left fun q hq => ?_)
      rw [if_neg fun hq' => h.1 (by rw [hid, ← hq']; exact List.mem_map_of_mem hq)]
      rfl
    · rw [if_neg hid, if_neg hid, ih h.2]

lemma selectedIn_eq_some_iff (h : (l.map (·.proposalId)).Nodup) {p : PolicyProposal} :
    selectedIn id l = some p ↔ p ∈ l ∧ p.proposalId = id :=
  Table.find?_key_eq_some_iff _ h

/-- Marking changes no instruction. -/
lemma instruction_markFirst (id' : String) :
    (selectedIn id' (markFirst id status time l)).map (·.instruction) =
      (selectedIn id' l).map (·.instruction) := by
  induction l with
  | nil => rfl
  | cons p rest ih =>
    have hmark : (p.mark status time).proposalId = p.proposalId := rfl
    rw [markFirst]
    split_ifs with h
    · rw [selectedIn, selectedIn, List.find?_cons, List.find?_cons, hmark]
      cases decide (p.proposalId = id') <;> rfl
    · rw [selectedIn, selectedIn, List.find?_cons, List.find?_cons]
      cases decide (p.proposalId = id') with
      | true => rfl
      | false => exact ih

end Marking

/-! ### The invariant -/

/-- The proposal that a call has approved in the one file and not yet in the other. -/
def ReviewPhase.approving : ReviewPhase → Option PolicyProposal
  | .marking .. => none
  | .marked selected => some selected
  | .merging selected _ => some selected

namespace ReviewState

/-- The proposal that the call has approved in the one file and not yet in the other. -/
def approving (s : ReviewState) (call : ℕ) : Option PolicyProposal :=
  (s.calls call).bind ReviewPhase.approving

/-- The overrides hold what was approved first; the rest is held by calls. -/
structure Inv (s : ReviewState) : Prop where
  distinct : (s.proposals.map (·.proposalId)).Nodup
  created : s.created = s.proposals.map (·.proposalId)
  approved : ∀ p ∈ s.proposals, p.status = .approved ↔ p.proposalId ∈ s.approvals
  known : ∀ id ∈ s.approvals, id ∈ s.proposals.map (·.proposalId) ∧ s.instructionOf id ≠ ""
  once : s.approvals.Nodup
  merged : s.overrides.map (·.proposalId) <+: s.approvals
  pending : ∀ id ∈ s.approvals, id ∉ s.overrides.map (·.proposalId) →
    ∃ call selected, s.approving call = some selected ∧ selected.proposalId = id
  instructions : ∀ o ∈ s.overrides, o.instruction = s.instructionOf o.proposalId
  selected : ∀ call selected, s.approving call = some selected →
    selected.proposalId ∈ s.approvals ∧
      selected.instruction = s.instructionOf selected.proposalId
  reading : ∀ call id status time read, s.calls call = some (.marking id status time read) →
    selectedIn id read ≠ none ∧ status ≠ .pending
  whole : s.raisedHalfway = false

variable {s : ReviewState}

lemma inv_start (files : SettledFiles) : (start files).Inv := by
  have hinstruction : ∀ o ∈ files.overrides, o.instruction = (start files).instructionOf
      o.proposalId ∧ o.proposalId ∈ files.proposals.map (·.proposalId) := by
    intro o ho
    obtain ⟨-, p, hp, hpid, hinstruction⟩ := files.known o ho
    have hfind : selectedIn o.proposalId (start files).proposals = some p :=
      (selectedIn_eq_some_iff files.distinct).mpr ⟨hp, hpid⟩
    rw [instructionOf, hfind]
    exact ⟨hinstruction.symm, hpid ▸ List.mem_map_of_mem hp⟩
  refine
    { distinct := files.distinct
      created := rfl
      approved := files.approved
      known := fun id hid => ?_
      once := files.once
      merged := List.prefix_refl _
      pending := fun id hid hnot => absurd hid hnot
      instructions := fun o ho => (hinstruction o ho).1
      selected := nofun
      reading := nofun
      whole := rfl }
  obtain ⟨o, ho, rfl⟩ := List.mem_map.mp hid
  exact ⟨(hinstruction o ho).2, (hinstruction o ho).1 ▸ (files.known o ho).1⟩

/-- Without a call in progress the files agree. -/
lemma Inv.holds (h : s.Inv) : s.Holds where
  agree := by
    intro hquiet
    have hmerged : s.overrides.map (·.proposalId) = s.approvals := by
      obtain ⟨rest, hrest⟩ := h.merged
      cases rest with
      | nil => rw [← hrest, List.append_nil]
      | cons id rest =>
        have hid : id ∈ s.approvals := by
          rw [← hrest]
          exact List.mem_append_right _ List.mem_cons_self
        have hnot : id ∉ s.overrides.map (·.proposalId) := by
          have honce := h.once
          rw [← hrest, List.nodup_append] at honce
          exact fun hmem => honce.2.2 id hmem id List.mem_cons_self rfl
        obtain ⟨call, selected, hcall, -⟩ := h.pending id hid hnot
        rw [approving, hquiet call] at hcall
        cases hcall
    refine ⟨h.approved, fun id hid => ?_, h.once, ?_, fun id hid => ?_⟩
    · exact List.mem_map.mp (h.known id hid).1
    · have hinstructions : s.overrides.map (·.instruction) = s.approvals.map s.instructionOf := by
        rw [← hmerged, List.map_map]
        exact List.map_congr_left h.instructions
      rw [listApproved, hinstructions, List.filter_eq_self]
      intro text htext
      obtain ⟨id, hid, rfl⟩ := List.mem_map.mp htext
      exact decide_eq_true (h.known id hid).2
    · rw [h.created] at hid
      exact List.count_eq_one_of_mem h.distinct hid
  whole := h.whole

/-! ### Each step keeps the invariant -/

lemma Inv.known_of_override (h : s.Inv) {o : PolicyOverride} (ho : o ∈ s.overrides) :
    o.proposalId ∈ s.approvals := h.merged.subset (List.mem_map_of_mem ho)

lemma inv_create (h : s.Inv) {p : PolicyProposal} (hstatus : p.status = .pending)
    (hnew : p.proposalId ∉ s.created) :
    Inv { s with
      proposals := s.proposals ++ [p]
      created := s.created ++ [p.proposalId] } := by
  rw [h.created] at hnew
  have hother : ∀ id ∈ s.approvals, instructionOf { s with
      proposals := s.proposals ++ [p]
      created := s.created ++ [p.proposalId] } id = s.instructionOf id := by
    intro id hid
    obtain ⟨q, hq, hqid⟩ := List.mem_map.mp (h.known id hid).1
    have hfind := (selectedIn_eq_some_iff h.distinct).mpr ⟨hq, hqid⟩
    have hfind' : selectedIn id (s.proposals ++ [p]) = some q := by
      rw [selectedIn] at hfind ⊢
      rw [List.find?_append, hfind]
      rfl
    simp only [instructionOf, hfind, hfind']
  have happrovals : p.proposalId ∉ s.approvals := fun hmem => hnew (h.known _ hmem).1
  refine
    { distinct := ?_
      created := by simp [h.created]
      approved := fun q hq => ?_
      known := fun id hid => ⟨?_, ?_⟩
      once := h.once
      merged := h.merged
      pending := h.pending
      instructions := fun o ho => ?_
      selected := fun call selected hcall => ?_
      reading := h.reading
      whole := h.whole }
  · rw [List.map_append, List.nodup_append]
    refine ⟨h.distinct, List.pairwise_singleton _ _, fun id hid id' hid' heq => hnew ?_⟩
    have hsame : id = p.proposalId := heq.trans (List.mem_singleton.mp hid')
    exact hsame ▸ hid
  · rcases List.mem_append.mp hq with hq | hq
    · exact h.approved q hq
    · rw [List.mem_singleton.mp hq, hstatus]
      exact iff_of_false (by decide) happrovals
  · rw [List.map_append]
    exact List.mem_append_left _ (h.known id hid).1
  · rw [hother id hid]
    exact (h.known id hid).2
  · rw [hother _ (h.known_of_override ho)]
    exact h.instructions o ho
  · obtain ⟨hmem, hinstruction⟩ := h.selected call selected hcall
    exact ⟨hmem, (hother _ hmem).symm ▸ hinstruction⟩

/-- A call that changes only what it holds, and not what it approves. -/
lemma inv_calls (h : s.Inv) {call : ℕ} {phase : Option ReviewPhase}
    (hphase : phase.bind ReviewPhase.approving = s.approving call)
    (hreading : ∀ id status time read, phase = some (.marking id status time read) →
      selectedIn id read ≠ none ∧ status ≠ .pending) :
    Inv { s with calls := Function.update s.calls call phase } := by
  have hsame : ∀ call', approving { s with calls := Function.update s.calls call phase } call' =
      s.approving call' := by
    intro call'
    rw [approving]
    by_cases hcall : call' = call
    · rw [hcall, ← hphase]
      simp
    · simp [hcall, approving]
  refine
    { distinct := h.distinct
      created := h.created
      approved := h.approved
      known := h.known
      once := h.once
      merged := h.merged
      pending := fun id hid hnot => by simpa only [hsame] using h.pending id hid hnot
      instructions := h.instructions
      selected := fun call' selected hcall => h.selected call' selected (hsame call' ▸ hcall)
      reading := fun call' id status time read hcall' => ?_
      whole := h.whole }
  by_cases hcall : call' = call
  · subst hcall
    exact hreading id status time read (by simpa using hcall')
  · exact h.reading call' id status time read (by simpa [hcall] using hcall')

lemma inv_begin (h : s.Inv) (call : ℕ) (id : String) {status : ProposalStatus} (time : String)
    (hstatus : status ≠ .pending) : (s.begin call id status time).Inv := by
  rw [begin]
  split_ifs with hstop
  · exact h
  · push Not at hstop
    refine inv_calls h ?_ fun id' status' time' read heq => ?_
    · rw [approving, Option.not_isSome_iff_eq_none.mp hstop.1]
      rfl
    · cases heq
      exact ⟨hstop.2, hstatus⟩

lemma inv_writeProposals (h : s.Inv) {call : ℕ} {id time : String} {status : ProposalStatus}
    (hcall : s.calls call = some (.marking id status time s.proposals))
    (hnot : id ∉ s.approvals) (htext : status = .approved → s.instructionOf id ≠ "") :
    (s.writeProposals call id status time s.proposals).Inv := by
  obtain ⟨hfound, hstatus⟩ := h.reading call id status time _ hcall
  obtain ⟨p, hp⟩ := Option.ne_none_iff_exists'.mp hfound
  obtain ⟨hmem, hid⟩ := (selectedIn_eq_some_iff h.distinct).mp hp
  have hfilter : s.approvals.filter (· ≠ id) = s.approvals :=
    List.filter_eq_self.mpr fun id' hid' => decide_eq_true fun heq => hnot (heq ▸ hid')
  have hinstruction : (s.writeProposals call id status time s.proposals).instructionOf =
      s.instructionOf := by
    funext id'
    simp only [instructionOf, writeProposals, instruction_markFirst]
  have happroving : (s.writeProposals call id status time s.proposals).approving call =
      if status = .approved then some (p.mark status time) else none := by
    have hselected : selectedIn id (markFirst id status time s.proposals) =
        some (p.mark status time) := by
      rw [selectedIn_eq_some_iff (by rw [ids_markFirst]; exact h.distinct),
        markFirst_eq_map h.distinct]
      exact ⟨List.mem_map.mpr ⟨p, hmem, if_pos hid⟩, hid⟩
    simp only [approving, writeProposals, Function.update_self, hselected, Option.map_some]
    split_ifs <;> rfl
  have hother : ∀ {call'}, call' ≠ call →
      (s.writeProposals call id status time s.proposals).approving call' = s.approving call' := by
    intro call' hne
    simp only [approving, writeProposals, Function.update_of_ne hne]
  have hnone : s.approving call = none := by
    rw [approving, hcall]
    rfl
  have hsuffix : ∀ id' ∈ (if status = .approved then [id] else []), id' = id ∧
      status = .approved := by
    intro id' hid'
    split_ifs at hid' with happroved
    · exact ⟨List.mem_singleton.mp hid', happroved⟩
    · cases hid'
  refine
    { distinct := ?_
      created := ?_
      approved := ?_
      known := ?_
      once := ?_
      merged := ?_
      pending := ?_
      instructions := ?_
      selected := ?_
      reading := ?_
      whole := h.whole }
  · show ((markFirst id status time s.proposals).map _).Nodup
    rw [ids_markFirst]
    exact h.distinct
  · show s.created = (markFirst id status time s.proposals).map _
    rw [ids_markFirst]
    exact h.created
  · intro q hq
    show q.status = .approved ↔ q.proposalId ∈ s.approvals.filter (· ≠ id) ++ _
    rw [hfilter]
    have hq' : q ∈ markFirst id status time s.proposals := hq
    rw [markFirst_eq_map h.distinct] at hq'
    obtain ⟨q, hmem', rfl⟩ := List.mem_map.mp hq'
    by_cases hqid : q.proposalId = id
    · rw [if_pos hqid]
      show status = .approved ↔ q.proposalId ∈ _
      rw [hqid]
      constructor
      · intro happroved
        rw [if_pos happroved]
        exact List.mem_append_right _ (List.mem_singleton_self id)
      · intro hin
        rcases List.mem_append.mp hin with hin | hin
        · exact absurd hin hnot
        · exact (hsuffix _ hin).2
    · rw [if_neg hqid, h.approved q hmem', List.mem_append]
      exact ⟨.inl, fun hin => hin.resolve_right fun hin => hqid (hsuffix _ hin).1⟩
  · intro id' hid'
    rw [hinstruction]
    show id' ∈ (markFirst id status time s.proposals).map _ ∧ _
    rw [ids_markFirst]
    rcases List.mem_append.mp hid' with hin | hin
    · exact h.known id' (hfilter ▸ hin)
    · obtain ⟨rfl, happroved⟩ := hsuffix _ hin
      exact ⟨hid ▸ List.mem_map_of_mem hmem, htext happroved⟩
  · show (s.approvals.filter (· ≠ id) ++ _).Nodup
    rw [hfilter, List.nodup_append]
    refine ⟨h.once, by split_ifs <;> simp, fun id' hid' id'' hid'' heq => hnot ?_⟩
    rw [← (hsuffix _ hid'').1, ← heq]
    exact hid'
  · show _ <+: s.approvals.filter (· ≠ id) ++ _
    rw [hfilter]
    exact h.merged.trans (List.prefix_append _ _)
  · intro id' hid' hnot'
    rcases List.mem_append.mp hid' with hin | hin
    · obtain ⟨call', selected, hcall', hselected⟩ := h.pending id' (hfilter ▸ hin) hnot'
      have hne : call' ≠ call := by
        rintro rfl
        rw [hnone] at hcall'
        cases hcall'
      exact ⟨call', selected, (hother hne).trans hcall', hselected⟩
    · obtain ⟨rfl, happroved⟩ := hsuffix _ hin
      exact ⟨call, _, happroving.trans (if_pos happroved), hid⟩
  · intro o ho
    rw [hinstruction]
    exact h.instructions o ho
  · intro call' selected hcall'
    rw [hinstruction]
    show selected.proposalId ∈ s.approvals.filter (· ≠ id) ++ _ ∧ _
    rw [hfilter]
    by_cases hne : call' = call
    · subst hne
      rw [happroving] at hcall'
      split_ifs at hcall' with happroved
      · obtain rfl := Option.some.inj hcall'
        rw [if_pos happroved]
        refine ⟨List.mem_append_right _ (List.mem_singleton.mpr hid), ?_⟩
        show p.instruction = s.instructionOf p.proposalId
        rw [instructionOf, hid, hp]
        rfl
    · obtain ⟨hin, htext'⟩ := h.selected call' selected ((hother hne).symm.trans hcall')
      exact ⟨List.mem_append_left _ hin, htext'⟩
  · intro call' id' status' time' read hcall'
    by_cases hne : call' = call
    · subst hne
      simp only [writeProposals, Function.update_self] at hcall'
      split_ifs at hcall' with happroved
      cases hselected : selectedIn id (markFirst id status time s.proposals) with
      | none =>
        rw [hselected] at hcall'
        cases hcall'
      | some q =>
        rw [hselected] at hcall'
        cases hcall'
    · refine h.reading call' id' status' time' read ?_
      simpa only [writeProposals, Function.update_of_ne hne] using hcall'

lemma inv_writeOverrides (h : s.Inv) {call : ℕ} {selected : PolicyProposal}
    (hcall : s.calls call = some (.merging selected s.overrides))
    (hfront : s.overrides.map (·.proposalId) ++ [selected.proposalId] <+: s.approvals) :
    (s.writeOverrides call selected s.overrides).Inv := by
  have hmap : (s.overrides ++ [selected.override]).map (·.proposalId) =
      s.overrides.map (·.proposalId) ++ [selected.proposalId] := List.map_append
  have happroving : s.approving call = some selected := by
    rw [approving, hcall]
    rfl
  have hself : (s.writeOverrides call selected s.overrides).approving call = none := by
    simp only [approving, writeOverrides, Function.update_self]
    rfl
  have hother : ∀ {call'}, call' ≠ call →
      (s.writeOverrides call selected s.overrides).approving call' = s.approving call' := by
    intro call' hne
    simp only [approving, writeOverrides, Function.update_of_ne hne]
  refine
    { distinct := h.distinct
      created := h.created
      approved := h.approved
      known := h.known
      once := h.once
      merged := ?_
      pending := fun id hid hnot => ?_
      instructions := fun o ho => ?_
      selected := fun call' selected' hcall' => ?_
      reading := fun call' id status time read hcall' => ?_
      whole := h.whole }
  · show (s.overrides ++ [selected.override]).map _ <+: s.approvals
    rw [hmap]
    exact hfront
  · have hnot' : id ∉ s.overrides.map (·.proposalId) ++ [selected.proposalId] := hmap ▸ hnot
    obtain ⟨call', selected', hcall', rfl⟩ := h.pending id hid fun hin =>
      hnot' (List.mem_append_left _ hin)
    refine ⟨call', selected', (hother ?_).trans hcall', rfl⟩
    rintro rfl
    rw [happroving] at hcall'
    obtain rfl := Option.some.inj hcall'
    exact hnot' (List.mem_append_right _ (List.mem_singleton_self _))
  · rcases List.mem_append.mp ho with ho | ho
    · exact h.instructions o ho
    · rw [List.mem_singleton.mp ho]
      exact (h.selected call selected happroving).2
  · by_cases hne : call' = call
    · subst hne
      rw [hself] at hcall'
      cases hcall'
    · exact h.selected call' selected' ((hother hne).symm.trans hcall')
  · by_cases hne : call' = call
    · subst hne
      simp only [writeOverrides, Function.update_self] at hcall'
      cases hcall'
    · refine h.reading call' id status time read ?_
      simpa only [writeOverrides, Function.update_of_ne hne] using hcall'

/-- An orderly step keeps the invariant. -/
lemma inv_step (h : s.Inv) {e : ReviewEvent} (he : Orderly s e) : (step s e).Inv := by
  cases e with
  | create id sessionId taskQuery rationale instruction time => exact inv_create h rfl he
  | approve call id time => exact inv_begin h call id time (by decide)
  | reject call id time => exact inv_begin h call id time (by decide)
  | proceed call =>
    simp only [step, Orderly] at he ⊢
    cases hcall : s.calls call with
    | none => exact h
    | some phase =>
      rw [hcall] at he
      cases phase with
      | marking id status time read =>
        obtain ⟨rfl, hnot, htext⟩ := he
        exact inv_writeProposals h hcall hnot htext
      | marked selected =>
        refine inv_calls h ?_ nofun
        rw [approving, hcall]
        rfl
      | merging selected read =>
        obtain ⟨rfl, hfront⟩ := he
        exact inv_writeOverrides h hcall hfront
  | interrupt call =>
    simp only [step, Orderly] at he ⊢
    cases hcall : s.calls call with
    | none => exact h
    | some phase =>
      rw [hcall] at he
      cases phase with
      | marking id status time read =>
        refine inv_calls h ?_ nofun
        rw [approving, hcall]
        rfl
      | marked selected => exact he.elim
      | merging selected read => exact he.elim

end ReviewState

/-! ### Runs -/

/-- In a run whose steps are all orderly, only approved policy is listed in every state in which all
calls have returned, and no call raises after it has changed a file. -/
theorem files_agree_of_orderly (files : SettledFiles) (es : List ReviewEvent)
    (h : Along ReviewState.step ReviewState.Orderly (.start files) es) :
    ∀ done, done <+: es → (run ReviewState.step (.start files) done).Holds := by
  rintro done ⟨rest, rfl⟩
  rw [along_append] at h
  exact (run_invariant (I := ReviewState.Inv) (fun _ _ hs he => ReviewState.inv_step hs he)
    (ReviewState.inv_start files) h.1).holds

/-- A proposal is created and approved. -/
def approval : List ReviewEvent :=
  [.create "p" "task-1" "经营日报" "ok" "复用已验证的步骤。" "08:00", .approve 0 "p" "09:00",
    .proceed 0, .proceed 0, .proceed 0]

lemma orderly_approval :
    Along ReviewState.step ReviewState.Orderly (.start .empty) approval := by
  refine ⟨List.not_mem_nil, trivial, ?_, trivial, ?_, trivial⟩
  · exact ⟨rfl, List.not_mem_nil, fun _ => by decide⟩
  · exact ⟨rfl, List.prefix_refl _⟩

theorem files_agree_approval :
    Along ReviewState.step ReviewState.Orderly (.start .empty) approval ∧
      ∀ done, done <+: approval → (run ReviewState.step (.start .empty) done).Holds :=
  ⟨orderly_approval, files_agree_of_orderly .empty approval orderly_approval⟩

/-- What was rejected after its approval stays in the prompt. -/
theorem not_holds_rejected :
    ¬∀ done, done <+: approval ++ [.reject 1 "p" "10:00", .proceed 1] →
      (run ReviewState.step (.start .empty) done).Holds := by
  intro h
  have hquiet : (run ReviewState.step (.start .empty)
      (approval ++ [.reject 1 "p" "10:00", .proceed 1])).Quiet := by
    intro call
    match call with
    | 0 => rfl
    | 1 => rfl
    | _ + 2 => rfl
  have hlisted := ((h _ (List.prefix_refl _)).agree hquiet).listed
  have hleft : listApproved (run ReviewState.step (.start .empty)
      (approval ++ [.reject 1 "p" "10:00", .proceed 1])).overrides = ["复用已验证的步骤。"] := rfl
  rw [hleft] at hlisted
  cases hlisted

end EcommerceAgent.Runtime
