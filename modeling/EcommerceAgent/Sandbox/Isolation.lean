/-
# Runs of the sandbox beside each other

`DockerSandboxRunner.run` of `api/sandbox/docker_runner.py` for any number of tasks, one step at a
time: the workspace, each input file, the entry program, what the container does, the collection of
its output and the removal of the workspace, with an exception possible before every step.  Runs are
isolated as long as each of them starts with a workspace that does not exist yet and no container
leaves a link where its output directory was (`isolated_of_undisturbed`).
-/
import EcommerceAgent.Sandbox.Workspace
import EcommerceAgent.Lib.Runs

open EcommerceAgent.Lib EcommerceAgent.Files

namespace EcommerceAgent.Sandbox

/-- How far a run is. -/
inductive Phase (β : Type)
  | writing (rest : List (InputFile β)) (total : ℕ)
  | running
  | returned
  | finishing
  | removed
deriving DecidableEq

/-- A call of `DockerSandboxRunner.run`. -/
structure Run (β : Type) where
  task : SandboxTask β
  workspace : Location
  phase : Phase β
  outputFiles : List (OutputFile β)
deriving DecidableEq

/-- The file system of the host, the runs by their numbers, and which run changed a location
last. -/
structure State (β : Type) where
  tree : FileTree β
  runs : ℕ → Option (Run β)
  writer : Location → Option ℕ

/-- A step of a run.  A container puts anything it wants below its workspace; `raised` is an
exception or a timeout. -/
inductive Event (β : Type)
  | create (id : ℕ) (task : SandboxTask β)
  | input (id : ℕ)
  | start (id : ℕ)
  | container (id : ℕ) (content : FileTree β)
  | returned (id : ℕ)
  | raised (id : ℕ)
  | collect (id : ℕ)
  | cleanup (id : ℕ) (keep : Bool) (stuck : List Location)

variable {β : Type}

/-- The run that takes the step. -/
def Event.id : Event β → ℕ
  | .create id _ => id
  | .input id => id
  | .start id => id
  | .container id _ => id
  | .returned id => id
  | .raised id => id
  | .collect id => id
  | .cleanup id _ _ => id

/-- What a run does next, with the file system after it. -/
def Run.next (m : WorkspaceManager β) (t : FileTree β) (run : Run β) :
    Event β → Option (Run β × FileTree β)
  | .create _ _ => none
  | .input _ =>
    match run.phase with
    | .writing (item :: rest) total =>
      match m.writeInputFile t run.workspace total item with
      | (t', some total') => some ({ run with phase := .writing rest total' }, t')
      | (t', none) => some ({ run with phase := .finishing }, t')
    | _ => none
  | .start _ =>
    match run.phase with
    | .writing [] _ =>
      match m.prepareCommand t run.task run.workspace with
      | some t' => some ({ run with phase := .running }, t')
      | none => some ({ run with phase := .finishing }, t)
    | _ => none
  | .container _ content =>
    match run.phase with
    | .running =>
      if h : t.node run.workspace = some .dir then some (run, t.graft run.workspace content h)
      else none
    | _ => none
  | .returned _ =>
    match run.phase with
    | .running => some ({ run with phase := .returned }, t)
    | _ => none
  | .raised _ =>
    match run.phase with
    | .finishing => none
    | .removed => none
    | _ => some ({ run with phase := .finishing }, t)
  | .collect _ =>
    match run.phase with
    | .returned =>
      match m.collectOutputFiles t run.workspace with
      | some files => some ({ run with phase := .finishing, outputFiles := files }, t)
      | none => some ({ run with phase := .finishing }, t)
    | _ => none
  | .cleanup _ keep stuck =>
    match run.phase with
    | .finishing =>
      some ({ run with phase := .removed }, m.cleanupWorkspace t run.workspace keep stuck)
    | _ => none

section Steps

variable [DecidableEq β]

/-- The state with a new state of a run and the file system that it left. -/
def State.record (s : State β) (id : ℕ) (run : Run β) (tree : FileTree β) : State β where
  tree := tree
  runs := Function.update s.runs id (some run)
  writer location :=
    if tree.node location = s.tree.node location then s.writer location else some id

/-- One step; a step that is not the run's next one does nothing. -/
def step (m : WorkspaceManager β) (s : State β) (e : Event β) : State β :=
  match s.runs e.id with
  | some run =>
    match run.next m s.tree e with
    | some (run', tree) => s.record e.id run' tree
    | none => s
  | none =>
    match e with
    | .create id task =>
      match m.createWorkspace s.tree task with
      | (tree, some workspace) =>
        s.record id ⟨task, workspace, .writing task.inputFiles 0, []⟩ tree
      | (tree, none) =>
        s.record id ⟨task, m.root ++ [m.safeWorkspaceName task.taskId], .removed, []⟩ tree
    | _ => s

end Steps

/-- No runs yet. -/
def State.start (tree : FileTree β) : State β := ⟨tree, fun _ => none, fun _ => none⟩

/-! ### Isolation -/

/-- The files of a task, by their names below the workspace: the last one of a name counts, and the
entry program after all of them. -/
def SandboxTask.files (task : SandboxTask β) : Location → Option β :=
  KeyValue.writeAll Prod.fst Prod.snd (fun _ => none)
    (task.inputFiles.filterMap InputFile.entry ++ task.entryProgram.toList)

/-- A step keeps the runs apart. -/
structure Isolated [DecidableEq β] (m : WorkspaceManager β) (s : State β) (e : Event β) : Prop where
  /-- The container starts with the files of its task, and with no link. -/
  start : ∀ id run run' total, e = .start id → s.runs id = some run →
    run.phase = .writing [] total → (step m s e).runs id = some run' → run'.phase = .running →
    ∀ below, ¬(step m s e).tree.IsLink (run.workspace ++ below) ∧
      (step m s e).tree.fileAt (run.workspace ++ below) = run.task.files below
  /-- What is collected was read in the workspace, where the run itself had put it. -/
  outputs : ∀ id run files, e = .collect id → s.runs id = some run → run.phase = .returned →
    m.collectOutputFiles s.tree run.workspace = some files → ∀ f ∈ files,
      Path.Inside run.workspace f.source ∧ s.tree.node f.source = some (.file f.content) ∧
        s.writer f.source = some id
  /-- The workspaces of the other runs that are not over are left alone. -/
  others : ∀ id run, id ≠ e.id → s.runs id = some run → run.phase ≠ .removed →
    ∀ location, Path.Inside run.workspace location →
      (step m s e).tree.node location = s.tree.node location
  /-- Nothing changes outside the workspace of the run. -/
  writes : ∀ location, (step m s e).tree.node location ≠ s.tree.node location →
    ∃ run, (step m s e).runs e.id = some run ∧ Path.Inside run.workspace location
  /-- The directory that is searched for output is in the workspace. -/
  reads : ∀ id run directory, e = .collect id → s.runs id = some run → run.phase = .returned →
    m.outputDir s.tree run.workspace = some directory → Path.Inside run.workspace directory

/-- A workspace is new in an existing root, and the output directory is not a link when it is
searched. -/
def Undisturbed (m : WorkspaceManager β) (s : State β) : Event β → Prop
  | .create id task => s.runs id = none → s.tree.node m.root = some .dir ∧
      s.tree.node (m.root ++ [m.safeWorkspaceName task.taskId]) = none
  | .collect id => ∀ run ∈ s.runs id, run.phase = .returned →
      ¬s.tree.IsLink (run.workspace ++ [outputName])
  | _ => True

instance [DecidableEq β] (m : WorkspaceManager β) (s : State β) :
    (e : Event β) → Decidable (Undisturbed m s e)
  | .create _ _ => inferInstanceAs (Decidable (_ → _ ∧ _))
  | .collect id => inferInstanceAs (Decidable (∀ run ∈ s.runs id, run.phase = .returned →
      ¬s.tree.IsLink (run.workspace ++ [outputName])))
  | .input _ => .isTrue trivial
  | .start _ => .isTrue trivial
  | .container _ _ => .isTrue trivial
  | .returned _ => .isTrue trivial
  | .raised _ => .isTrue trivial
  | .cleanup _ _ _ => .isTrue trivial

/-! ### The invariant -/

/-- What holds of a run that is not over. -/
structure Live (m : WorkspaceManager β) (s : State β) (id : ℕ) (run : Run β) : Prop where
  name : ∃ name, FileTree.IsProper name ∧ run.workspace = m.root ++ [name]
  dir : s.tree.node run.workspace = some .dir
  own : ∀ location, Path.Inside run.workspace location → s.tree.node location ≠ none →
    s.writer location = some id
  fresh : ∀ rest total, run.phase = .writing rest total →
    WorkspaceManager.Plain s.tree run.workspace ∧
      ∃ done, run.task.inputFiles = done ++ rest ∧
        ∀ below, s.tree.fileAt (run.workspace ++ below) =
          KeyValue.writeAll Prod.fst Prod.snd (fun _ => none) (done.filterMap InputFile.entry) below

/-- The root stays where it is, and the runs that are not over have workspaces of their own. -/
structure Inv (m : WorkspaceManager β) (s : State β) : Prop where
  root : s.tree.Canonical m.root
  live : ∀ id run, s.runs id = some run → run.phase ≠ .removed → Live m s id run
  distinct : ∀ id id' run run', s.runs id = some run → s.runs id' = some run' →
    run.phase ≠ .removed → run'.phase ≠ .removed → id ≠ id' → run.workspace ≠ run'.workspace

variable {m : WorkspaceManager β} {s : State β} {id : ℕ} {run run' : Run β} {tree : FileTree β}
  {e : Event β}

/-- Workspaces of different names have nothing in common. -/
lemma not_inside_of_ne {ws ws' location : Location}
    (hws : ∃ name, FileTree.IsProper name ∧ ws = m.root ++ [name])
    (hws' : ∃ name, FileTree.IsProper name ∧ ws' = m.root ++ [name]) (hne : ws ≠ ws')
    (h : Path.Inside ws location) : ¬ws' <+: location := by
  intro h'
  obtain ⟨name, -, rfl⟩ := hws
  obtain ⟨name', -, rfl⟩ := hws'
  have hlength : (m.root ++ [name]).length = (m.root ++ [name']).length := by simp
  rcases List.prefix_or_prefix_of_prefix h h' with hle | hle
  · exact hne (hle.eq_of_length hlength)
  · exact hne (hle.eq_of_length hlength.symm).symm

lemma Live.canonical (hs : Inv m s) (h : Live m s id run) : s.tree.Canonical run.workspace := by
  obtain ⟨name, hproper, hworkspace⟩ := h.name
  rw [hworkspace]
  refine hs.root.down hproper ?_
  rintro ⟨target, hlink⟩
  rw [← hworkspace, h.dir] at hlink
  cases hlink

/-! ### What one step does -/

/-- What a step of a run keeps to. -/
structure Keeps (s : State β) (run run' : Run β) (tree : FileTree β) : Prop where
  task : run'.task = run.task
  workspace : run'.workspace = run.workspace
  outside : s.tree.AgreesOutside tree run.workspace
  dir : run'.phase ≠ .removed → tree.node run.workspace = some .dir
  fresh : ∀ rest total, run'.phase = .writing rest total →
    WorkspaceManager.Plain tree run.workspace ∧
      ∃ done, run.task.inputFiles = done ++ rest ∧
        ∀ below, tree.fileAt (run.workspace ++ below) =
          KeyValue.writeAll Prod.fst Prod.snd (fun _ => none) (done.filterMap InputFile.entry) below

/-- A step that leaves the files alone and does not end the run. -/
lemma Live.keeps_same (h : Live m s id run) (htask : run'.task = run.task)
    (hworkspace : run'.workspace = run.workspace)
    (hphase : ∀ rest total, run'.phase ≠ .writing rest total) : Keeps s run run' s.tree where
  task := htask
  workspace := hworkspace
  outside := .refl s.tree run.workspace
  dir _ := h.dir
  fresh rest total hrest := absurd hrest (hphase rest total)

/-- The last of the items is written over the others. -/
lemma writeAll_append {κ ν : Type} [DecidableEq κ] (store : κ → Option ν)
    (items rest : List (κ × ν)) :
    KeyValue.writeAll Prod.fst Prod.snd store (items ++ rest) =
      KeyValue.writeAll Prod.fst Prod.snd (KeyValue.writeAll Prod.fst Prod.snd store items) rest :=
  List.foldl_append

lemma Live.keeps_input (h : Live m s id run) {item : InputFile β} {rest : List (InputFile β)}
    {total : ℕ} (hphase : run.phase = .writing (item :: rest) total)
    (hnext : run.next m s.tree (.input id) = some (run', tree)) : Keeps s run run' tree := by
  obtain ⟨hplain, done, hdone, hfiles⟩ := h.fresh _ _ hphase
  have hinput := WorkspaceManager.writes_input (m := m) hplain total item
  rw [Run.next, hphase] at hnext
  dsimp only at hnext
  rcases hstep : m.writeInputFile s.tree run.workspace total item with ⟨t', none | total'⟩
  · rw [hstep] at hnext hinput
    obtain ⟨rfl, rfl⟩ := Prod.mk.inj (Option.some.inj hnext)
    have hwrites : s.tree.AgreesOutside t' run.workspace ∧
        WorkspaceManager.Plain t' run.workspace := by
      rcases hinput with ⟨-, hwrites⟩ | ⟨names, data, -, hwrites⟩
      · exact ⟨hwrites.outside, hwrites.plain⟩
      · exact ⟨hwrites.outside, hwrites.plain⟩
    exact ⟨rfl, rfl, hwrites.1, fun _ => hwrites.2.dir, fun _ _ hrest => nomatch hrest⟩
  · rw [hstep] at hnext hinput
    obtain ⟨rfl, rfl⟩ := Prod.mk.inj (Option.some.inj hnext)
    obtain ⟨names, data, hentry, hwrites⟩ := hinput.resolve_left fun hfail => nomatch hfail.1
    refine ⟨rfl, rfl, hwrites.outside, fun _ => hwrites.plain.dir, fun rest' total'' hrest => ?_⟩
    obtain ⟨rfl, -⟩ := Phase.writing.inj hrest
    refine ⟨hwrites.plain, done ++ [item], by rw [hdone, List.append_assoc]; rfl, fun below => ?_⟩
    have hbefore : (fun below => s.tree.fileAt (run.workspace ++ below)) =
        KeyValue.writeAll Prod.fst Prod.snd (fun _ => none)
          (done.filterMap InputFile.entry) := funext hfiles
    have hitem : [item].filterMap InputFile.entry = [(names, data)] := by
      rw [List.filterMap_cons_some hentry, List.filterMap_nil]
    rw [hwrites.files, hbefore, List.filterMap_append, hitem, writeAll_append]
    rfl

/-- The container starts with the files of its task. -/
lemma Live.starts (h : Live m s id run) {total : ℕ} (hphase : run.phase = .writing [] total)
    (hstart : m.prepareCommand s.tree run.task run.workspace = some tree) :
    s.tree.AgreesOutside tree run.workspace ∧ WorkspaceManager.Plain tree run.workspace ∧
      ∀ below, tree.fileAt (run.workspace ++ below) = run.task.files below := by
  obtain ⟨hplain, done, hdone, hfiles⟩ := h.fresh _ _ hphase
  have hwrites := WorkspaceManager.writes_entry hplain hstart
  have hbefore : (fun below => s.tree.fileAt (run.workspace ++ below)) =
      KeyValue.writeAll Prod.fst Prod.snd (fun _ => none)
        (done.filterMap InputFile.entry) := funext hfiles
  rw [List.append_nil] at hdone
  refine ⟨hwrites.outside, hwrites.plain, fun below => ?_⟩
  rw [hwrites.files, hbefore, ← writeAll_append, SandboxTask.files, hdone]

/-- Every step of a run keeps to its workspace. -/
lemma Live.keeps (hs : Inv m s) (h : Live m s e.id run)
    (hnext : run.next m s.tree e = some (run', tree)) : Keeps s run run' tree := by
  cases e with
  | create id task => cases hnext
  | input id =>
    cases hphase : run.phase with
    | writing rest total =>
      cases rest with
      | nil =>
        rw [Run.next, hphase] at hnext
        cases hnext
      | cons item rest => exact h.keeps_input hphase hnext
    | running | returned | finishing | removed =>
      rw [Run.next, hphase] at hnext
      cases hnext
  | start id =>
    cases hphase : run.phase with
    | writing rest total =>
      cases rest with
      | nil =>
        rw [Run.next, hphase] at hnext
        dsimp only at hnext
        split at hnext
        · rename_i t' hstart
          obtain ⟨rfl, rfl⟩ := Prod.mk.inj (Option.some.inj hnext)
          obtain ⟨houtside, hplain, -⟩ := h.starts hphase hstart
          exact ⟨rfl, rfl, houtside, fun _ => hplain.dir, fun _ _ hrest => nomatch hrest⟩
        · obtain ⟨rfl, rfl⟩ := Prod.mk.inj (Option.some.inj hnext)
          exact h.keeps_same rfl rfl fun _ _ hrest => nomatch hrest
      | cons item rest =>
        rw [Run.next, hphase] at hnext
        cases hnext
    | running | returned | finishing | removed =>
      rw [Run.next, hphase] at hnext
      cases hnext
  | container id content =>
    cases hphase : run.phase with
    | running =>
      rw [Run.next, hphase] at hnext
      dsimp only at hnext
      rw [dif_pos h.dir] at hnext
      obtain ⟨rfl, rfl⟩ := Prod.mk.inj (Option.some.inj hnext)
      refine ⟨rfl, rfl, FileTree.graft_agrees h.dir content,
        fun _ => FileTree.graft_directory h.dir content, fun rest total hrest => ?_⟩
      rw [hphase] at hrest
      cases hrest
    | writing | returned | finishing | removed =>
      rw [Run.next, hphase] at hnext
      cases hnext
  | returned id =>
    cases hphase : run.phase with
    | running =>
      rw [Run.next, hphase] at hnext
      obtain ⟨rfl, rfl⟩ := Prod.mk.inj (Option.some.inj hnext)
      exact h.keeps_same rfl rfl fun _ _ hrest => nomatch hrest
    | writing | returned | finishing | removed =>
      rw [Run.next, hphase] at hnext
      cases hnext
  | raised id =>
    cases hphase : run.phase with
    | writing | running | returned =>
      rw [Run.next, hphase] at hnext
      obtain ⟨rfl, rfl⟩ := Prod.mk.inj (Option.some.inj hnext)
      exact h.keeps_same rfl rfl fun _ _ hrest => nomatch hrest
    | finishing | removed =>
      rw [Run.next, hphase] at hnext
      cases hnext
  | collect id =>
    cases hphase : run.phase with
    | returned =>
      rw [Run.next, hphase] at hnext
      dsimp only at hnext
      split at hnext
      · obtain ⟨rfl, rfl⟩ := Prod.mk.inj (Option.some.inj hnext)
        exact h.keeps_same rfl rfl fun _ _ hrest => nomatch hrest
      · obtain ⟨rfl, rfl⟩ := Prod.mk.inj (Option.some.inj hnext)
        exact h.keeps_same rfl rfl fun _ _ hrest => nomatch hrest
    | writing | running | finishing | removed =>
      rw [Run.next, hphase] at hnext
      cases hnext
  | cleanup id keep stuck =>
    cases hphase : run.phase with
    | finishing =>
      rw [Run.next, hphase] at hnext
      obtain ⟨rfl, rfl⟩ := Prod.mk.inj (Option.some.inj hnext)
      exact ⟨rfl, rfl, WorkspaceManager.cleanupWorkspace_agrees (h.canonical hs) keep stuck,
        fun hover => absurd rfl hover, fun _ _ hrest => nomatch hrest⟩
    | writing | running | returned | removed =>
      rw [Run.next, hphase] at hnext
      cases hnext

/-- A run of a step that is not over was not over before. -/
lemma phase_of_next (h : run.next m s.tree e = some (run', tree)) : run.phase ≠ .removed := by
  intro hover
  cases e <;> simp only [Run.next, hover, reduceCtorEq] at h

section Record

variable [DecidableEq β]

lemma record_runs (s : State β) (id : ℕ) (run : Run β) (tree : FileTree β) :
    (s.record id run tree).runs id = some run := Function.update_self ..

/-- What a step can do. -/
lemma step_cases (m : WorkspaceManager β) (s : State β) (e : Event β) :
    (∃ run run' tree, s.runs e.id = some run ∧ run.next m s.tree e = some (run', tree) ∧
      step m s e = s.record e.id run' tree) ∨
    (∃ id task, e = .create id task ∧ s.runs id = none ∧
      ∃ run, run.task = task ∧ step m s e = s.record id run (m.createWorkspace s.tree task).1 ∧
        ((∃ workspace, (m.createWorkspace s.tree task).2 = some workspace ∧
          run = ⟨task, workspace, .writing task.inputFiles 0, []⟩) ∨
        run = ⟨task, m.root ++ [m.safeWorkspaceName task.taskId], .removed, []⟩)) ∨
    step m s e = s := by
  rw [step.eq_def]
  cases hrun : s.runs e.id with
  | some run =>
    dsimp only
    cases hnext : run.next m s.tree e with
    | some next => exact .inl ⟨run, next.1, next.2, rfl, hnext, rfl⟩
    | none => exact .inr (.inr rfl)
  | none =>
    dsimp only
    cases e with
    | create id task =>
      refine .inr (.inl ⟨id, task, rfl, hrun, ?_⟩)
      simp only
      rcases m.createWorkspace s.tree task with ⟨tree, none | workspace⟩
      · exact ⟨⟨task, m.root ++ [m.safeWorkspaceName task.taskId], .removed, []⟩, rfl, rfl,
          .inr rfl⟩
      · exact ⟨⟨task, workspace, .writing task.inputFiles 0, []⟩, rfl, rfl,
          .inl ⟨workspace, rfl, rfl⟩⟩
    | _ => exact .inr (.inr rfl)

/-- A new state of a run, with a workspace of its own, and the tree that the step leaves. -/
structure Own (m : WorkspaceManager β) (s : State β) (id : ℕ) (run : Run β) (tree : FileTree β) :
    Prop where
  name : ∃ name, FileTree.IsProper name ∧ run.workspace = m.root ++ [name]
  outside : s.tree.AgreesOutside tree run.workspace
  free : ∀ id' run', id' ≠ id → s.runs id' = some run' → run'.phase ≠ .removed →
    run'.workspace ≠ run.workspace
  own : ∀ location, Path.Inside run.workspace location → s.tree.node location ≠ none →
    s.writer location = some id
  dir : run.phase ≠ .removed → tree.node run.workspace = some .dir
  fresh : ∀ rest total, run.phase = .writing rest total →
    WorkspaceManager.Plain tree run.workspace ∧
      ∃ done, run.task.inputFiles = done ++ rest ∧
        ∀ below, tree.fileAt (run.workspace ++ below) =
          KeyValue.writeAll Prod.fst Prod.snd (fun _ => none) (done.filterMap InputFile.entry) below

omit [DecidableEq β] in
/-- A step of a run that keeps to its workspace. -/
lemma Keeps.own (hs : Inv m s) (hrun : s.runs id = some run) (hphase : run.phase ≠ .removed)
    (h : Keeps s run run' tree) : Own m s id run' tree := by
  have hlive := hs.live id run hrun hphase
  obtain ⟨htask, hworkspace, houtside, hdir, hfresh⟩ := h
  rw [← hworkspace] at houtside hdir hfresh
  refine ⟨hworkspace ▸ hlive.name, houtside, fun id' other hne hother hover => ?_,
    hworkspace ▸ hlive.own, hdir, fun rest total hrest => htask ▸ hfresh rest total hrest⟩
  rw [hworkspace]
  exact hs.distinct id' id other run hother hrun hover hphase hne

omit [DecidableEq β] in
/-- A run that starts in a workspace that did not exist. -/
lemma own_create (hs : Inv m s) (hdir : s.tree.node m.root = some .dir)
    (hnew : s.tree.node (m.root ++ [m.safeWorkspaceName run.task.taskId]) = none)
    (hrun : (∃ workspace, (m.createWorkspace s.tree run.task).2 = some workspace ∧
        run = ⟨run.task, workspace, .writing run.task.inputFiles 0, []⟩) ∨
      run = ⟨run.task, m.root ++ [m.safeWorkspaceName run.task.taskId], .removed, []⟩) :
    Own m s id run (m.createWorkspace s.tree run.task).1 := by
  obtain ⟨houtside, hmade⟩ := WorkspaceManager.createWorkspace_fresh hs.root hdir hnew
  have hworkspace : run.workspace = m.root ++ [m.safeWorkspaceName run.task.taskId] := by
    rcases hrun with ⟨workspace, hcreate, heq⟩ | heq
    · rw [heq]
      exact (hmade workspace hcreate).1
    · rw [heq]
  rw [← hworkspace] at hnew houtside
  refine ⟨⟨_, m.isProper_safeWorkspaceName run.task.taskId, hworkspace⟩, houtside,
    fun id' run' _ hrun' hphase heq => ?_, fun location hinside hexists => ?_,
    fun hphase => ?_, fun rest total hrest => ?_⟩
  · have hlive := hs.live id' run' hrun' hphase
    rw [← heq, hlive.dir] at hnew
    cases hnew
  · -- nothing can be below a directory that does not exist
    obtain ⟨below, rfl⟩ := hinside
    by_cases hempty : below = []
    · rw [hempty, List.append_nil] at hexists
      exact absurd hnew hexists
    · rw [FileTree.node_of_below hempty hexists] at hnew
      cases hnew
  · rcases hrun with ⟨workspace, hcreate, heq⟩ | heq
    · obtain ⟨hself, hplain, -⟩ := hmade workspace hcreate
      rw [hworkspace, ← hself]
      exact hplain.dir
    · rw [heq] at hphase
      exact absurd rfl hphase
  · rcases hrun with ⟨workspace, hcreate, heq⟩ | heq
    · obtain ⟨hself, hplain, hfiles⟩ := hmade workspace hcreate
      rw [heq] at hrest
      obtain ⟨rfl, -⟩ := Phase.writing.inj hrest
      rw [hworkspace, ← hself]
      exact ⟨hplain, [], rfl, hfiles⟩
    · rw [heq] at hrest
      cases hrest

/-- A step either does nothing or belongs to a run with a workspace of its own. -/
lemma step_spec (hs : Inv m s) (he : Undisturbed m s e) :
    step m s e = s ∨ ∃ run tree, step m s e = s.record e.id run tree ∧ Own m s e.id run tree := by
  rcases step_cases m s e with ⟨run, run', tree, hrun, hnext, hstep⟩ |
    ⟨id, task, rfl, hnone, run, rfl, hstep, hrun⟩ | hstep
  · have hphase := phase_of_next hnext
    have hkeeps := (hs.live e.id run hrun hphase).keeps hs hnext
    exact .inr ⟨run', tree, hstep, hkeeps.own hs hrun hphase⟩
  · obtain ⟨hdir, hnew⟩ := he hnone
    exact .inr ⟨run, _, hstep, own_create hs hdir hnew hrun⟩
  · exact .inl hstep

/-- A run that keeps to a workspace of its own keeps the invariant. -/
lemma Own.inv (hs : Inv m s) (h : Own m s id run tree) : Inv m (s.record id run tree) := by
  obtain ⟨hname, houtside, hfree, hown, hdir, hfresh⟩ := h
  have hruns : ∀ {id'}, id' ≠ id → (s.record id run tree).runs id' = s.runs id' := fun hne =>
    Function.update_of_ne hne ..
  have hself := record_runs s id run tree
  have hsame : ∀ {location}, tree.node location = s.tree.node location →
      (s.record id run tree).writer location = s.writer location := fun h => if_pos h
  refine ⟨hs.root.congr fun front hfront => houtside front fun hle => ?_,
    fun id' run' hrun' hlive => ?_, fun id₁ id₂ run₁ run₂ h₁ h₂ hlive₁ hlive₂ hne => ?_⟩
  · obtain ⟨name, -, hworkspace⟩ := hname
    have hlength := hle.length_le.trans hfront.length_le
    rw [hworkspace, List.length_append, List.length_singleton] at hlength
    omega
  · by_cases hid : id' = id
    · subst hid
      rw [hself] at hrun'
      obtain rfl := Option.some.inj hrun'
      refine ⟨hname, hdir hlive, fun location hinside hexists => ?_, hfresh⟩
      by_cases hchange : tree.node location = s.tree.node location
      · rw [hsame hchange]
        exact hown location hinside (hchange ▸ hexists)
      · exact if_neg hchange
    · rw [hruns hid] at hrun'
      have hbefore := hs.live id' run' hrun' hlive
      have hapart : ∀ {location}, Path.Inside run'.workspace location →
          tree.node location = s.tree.node location := fun hinside =>
        houtside _ (not_inside_of_ne hbefore.name hname (hfree id' run' hid hrun' hlive) hinside)
      have hbelow : ∀ below, tree.node (run'.workspace ++ below) =
          s.tree.node (run'.workspace ++ below) := fun below =>
        hapart (List.prefix_append _ _)
      refine ⟨hbefore.name, ?_, fun location hinside hexists => ?_, fun rest total hrest => ?_⟩
      · exact (hapart (List.prefix_refl _)).trans hbefore.dir
      · rw [hsame (hapart hinside)]
        exact hbefore.own location hinside (hapart hinside ▸ hexists)
      · obtain ⟨hplain, done, hdone, hfiles⟩ := hbefore.fresh rest total hrest
        refine ⟨⟨hplain.canonical.congr fun front hfront => ?_, ?_, fun below => ?_⟩, done, hdone,
          fun below => ?_⟩
        · by_cases hout : run.workspace <+: front
          · exact absurd (hout.trans hfront) (not_inside_of_ne hbefore.name hname
              (hfree id' run' hid hrun' hlive) (List.prefix_refl _))
          · exact houtside front hout
        · exact (hapart (List.prefix_refl _)).trans hplain.dir
        · rintro ⟨target, hlink⟩
          exact hplain.noLink below ⟨target, (hbelow below).symm.trans hlink⟩
        · exact (FileTree.fileAt_congr (hbelow below)).trans (hfiles below)
  · by_cases hid₁ : id₁ = id
    · subst hid₁
      rw [hself] at h₁
      obtain rfl := Option.some.inj h₁
      rw [hruns hne.symm] at h₂
      exact (hfree id₂ run₂ hne.symm h₂ hlive₂).symm
    · rw [hruns hid₁] at h₁
      by_cases hid₂ : id₂ = id
      · subst hid₂
        rw [hself] at h₂
        obtain rfl := Option.some.inj h₂
        exact hfree id₁ run₁ hid₁ h₁ hlive₁
      · rw [hruns hid₂] at h₂
        exact hs.distinct id₁ id₂ run₁ run₂ h₁ h₂ hlive₁ hlive₂ hne

/-- A step that meets the condition keeps the invariant. -/
lemma inv_step (hs : Inv m s) (he : Undisturbed m s e) : Inv m (step m s e) := by
  rcases step_spec hs he with hstep | ⟨run, tree, hstep, hown⟩
  · rw [hstep]
    exact hs
  · rw [hstep]
    exact hown.inv hs

omit [DecidableEq β] in
/-- What is collected comes from the workspace. -/
lemma Live.collects (hs : Inv m s) (h : Live m s id run)
    (hlink : ¬s.tree.IsLink (run.workspace ++ [outputName])) {directory : Location}
    (hdirectory : m.outputDir s.tree run.workspace = some directory) :
    Path.Inside run.workspace directory ∧
      ∀ files, m.collectOutputFiles s.tree run.workspace = some files → ∀ f ∈ files,
        Path.Inside run.workspace f.source ∧ s.tree.node f.source = some (.file f.content) ∧
          s.writer f.source = some id := by
  have hinside : Path.Inside run.workspace directory := by
    rw [WorkspaceManager.outputDir_eq (h.canonical hs) hlink] at hdirectory
    obtain rfl := Option.some.inj hdirectory
    exact List.prefix_append _ _
  refine ⟨hinside, fun files hfiles f hf => ?_⟩
  obtain ⟨hbelow, hnode⟩ := WorkspaceManager.mem_collectOutputFiles hdirectory hfiles f hf
  have hsource : Path.Inside run.workspace f.source := hinside.trans hbelow
  exact ⟨hsource, hnode, h.own f.source hsource (by rw [hnode]; exact Option.some_ne_none _)⟩

/-- A step that meets the condition is isolated. -/
lemma isolated_step (hs : Inv m s) (he : Undisturbed m s e) : Isolated m s e := by
  refine ⟨?_, ?_, fun id run hne hrun hphase location hinside => ?_, fun location hchange => ?_, ?_⟩
  · rintro id run run' total rfl hrun hphase hrun' hrunning
    have hlive := hs.live id run hrun (by rw [hphase]; exact nofun)
    cases hprepare : m.prepareCommand s.tree run.task run.workspace with
    | none =>
      have hstep : step m s (.start id) = s.record id { run with phase := .finishing } s.tree := by
        simp only [step, Event.id, hrun, Run.next, hphase, hprepare]
      rw [hstep, record_runs] at hrun'
      obtain rfl := Option.some.inj hrun'
      cases hrunning
    | some tree =>
      have hstep : step m s (.start id) = s.record id { run with phase := .running } tree := by
        simp only [step, Event.id, hrun, Run.next, hphase, hprepare]
      obtain ⟨-, hplain, hfiles⟩ := hlive.starts hphase hprepare
      rw [hstep]
      exact fun below => ⟨hplain.noLink below, hfiles below⟩
  · rintro id run files rfl hrun hphase hfiles
    have hlive := hs.live id run hrun (by rw [hphase]; exact nofun)
    have hdirectory : m.outputDir s.tree run.workspace = some (run.workspace ++ [outputName]) :=
      WorkspaceManager.outputDir_eq (hlive.canonical hs) (he run hrun hphase)
    exact (hlive.collects hs (he run hrun hphase) hdirectory).2 files hfiles
  · rcases step_spec hs he with hstep | ⟨run', tree, hstep, hown⟩
    · rw [hstep]
    · rw [hstep]
      refine hown.outside location (not_inside_of_ne (hs.live id run hrun hphase).name hown.name ?_
        hinside)
      exact hown.free id run hne hrun hphase
  · rcases step_spec hs he with hstep | ⟨run', tree, hstep, hown⟩
    · rw [hstep] at hchange
      exact absurd rfl hchange
    · rw [hstep] at hchange ⊢
      refine ⟨run', record_runs .., ?_⟩
      by_contra hout
      exact hchange (hown.outside location hout)
  · rintro id run directory rfl hrun hphase hdirectory
    have hlive := hs.live id run hrun (by rw [hphase]; exact nofun)
    exact (hlive.collects hs (he run hrun hphase) hdirectory).1

/-- **Sandbox runs are isolated.**  In every run of the system whose workspaces are new and whose
output directories are not links, every step is isolated. -/
theorem isolated_of_undisturbed (m : WorkspaceManager β) (tree : FileTree β)
    (hroot : tree.Canonical m.root) (events : List (Event β))
    (h : Along (step m) (Undisturbed m) (State.start tree) events) :
    Along (step m) (Isolated m) (State.start tree) events := by
  refine along_of_invariant (fun s e hs he => inv_step hs he) (fun s e hs he => isolated_step hs he)
    ?_ h
  exact ⟨hroot, fun _ _ h => (nomatch h), fun _ _ _ _ h => (nomatch h)⟩

/-! ### Two tasks -/

/-- A sandbox below `/sandbox`. -/
def smallManager : WorkspaceManager String :=
  ⟨[['b']], 1000, 1000, String.length, .asciiOnly, 40⟩

/-- The root of the sandbox, with nothing in it. -/
def emptyRoot : FileTree String := FileTree.empty.put [] ['b'] .dir
  FileTree.empty_root (by decide)

/-- A task with one input file and a program. -/
def fileTask (taskId : String) : SandboxTask String where
  taskId := taskId.toList
  runtime := .python
  code := some "pass"
  inputFiles := [⟨"input/a.txt".toList, some taskId⟩]

lemma canonical_emptyRoot : emptyRoot.Canonical smallManager.root :=
  FileTree.canonical_nil.down ⟨by decide, by decide, by decide⟩ (by decide)

/-- What a program leaves that has read its input and written the file `output/r.csv`. -/
def programOutput : FileTree String :=
  (FileTree.empty.put [] outputName .dir FileTree.empty_root (by decide)).put [outputName]
    "r.csv".toList (.file "1") (by decide) (by decide)

/-- Two tasks beside each other, one of which writes an output that is collected before its
workspace is removed. -/
theorem isolated_twoTasks : Along (step smallManager) (Isolated smallManager)
    (State.start emptyRoot)
    [.create 0 (fileTask "a"), .create 1 (fileTask "b"), .input 0, .input 1, .start 0, .start 1,
      .container 0 programOutput, .returned 0, .collect 0, .cleanup 0 false []] :=
  isolated_of_undisturbed smallManager emptyRoot canonical_emptyRoot _ (by decide +kernel)

/-- A task without files. -/
def bareTask (taskId : String) : SandboxTask String := { fileTask taskId with inputFiles := [] }

/-- The task `a_b` starts with the file of the task `a b`. -/
theorem not_isolated_sameName : ¬Along (step smallManager) (Isolated smallManager)
    (State.start emptyRoot)
    [.create 0 (fileTask "a b"), .input 0, .create 1 (bareTask "a_b"), .start 1] := by
  intro h
  have hstart := h.2.2.2.1.start 1
    ⟨bareTask "a_b", [['b'], "a_b".toList], .writing [] 0, []⟩
    ⟨bareTask "a_b", [['b'], "a_b".toList], .running, []⟩ 0 rfl (by decide +kernel) rfl
    (by decide +kernel) rfl ["input".toList, "a.txt".toList]
  have hfile := hstart.2
  revert hfile
  decide +kernel

end Record

end EcommerceAgent.Sandbox
