/-
# The workspace of a run

`SandboxWorkspaceManager` of `api/sandbox/workspace.py` and `_prepare_command` of
`DockerSandboxRunner`, on a file tree with links.  A step that raises returns the tree as it left
it.  In a new workspace without links every step stays below the directory; `prepareCommand` opens
its file without a check of its own, and `collectOutputFiles` checks against a directory that it has
followed links to.
-/
import EcommerceAgent.Sandbox.RelativePath
import EcommerceAgent.Lib.FileTreeChange
import EcommerceAgent.Lib.KeyValue
import EcommerceAgent.Lib.Regex

open EcommerceAgent.Lib EcommerceAgent.Files

namespace EcommerceAgent.Sandbox

/-- A `SandboxFile` of a task; the bytes are `none` where they are not valid base64. -/
structure InputFile (β : Type) where
  relativePath : Str
  decodedBytes : Option β
deriving DecidableEq

/-- The names of an input below the workspace, and its bytes. -/
def InputFile.entry {β : Type} (item : InputFile β) : Option (List Str × β) :=
  match validateRelativePath item.relativePath, item.decodedBytes with
  | .ok relative, some data => some (Path.names relative, data)
  | _, _ => none

inductive SandboxRuntime
  | python
  | node
  | shell
  | file
deriving DecidableEq

/-- A `SandboxTask`; empty code is no code. -/
structure SandboxTask (β : Type) where
  taskId : Str
  runtime : SandboxRuntime
  code : Option β
  inputFiles : List (InputFile β)
deriving DecidableEq

/-- The entry program of a task: where it is written in the workspace, and its code. -/
def SandboxTask.entryProgram {β : Type} (task : SandboxTask β) : Option (List Str × β) :=
  match task.code, task.runtime with
  | some code, .python => some (["__sandbox_entry.py".toList], code)
  | some code, .node => some (["__sandbox_entry.mjs".toList], code)
  | _, _ => none

/-- A collected file, with the host file that it was read from. -/
structure OutputFile (β : Type) where
  relativePath : Str
  content : β
  source : Location
deriving DecidableEq

/-- A `SandboxWorkspaceManager`, with the number of links that a walk may follow. -/
structure WorkspaceManager (β : Type) where
  root : Location
  maxInputBytes : ℕ
  maxOutputBytes : ℕ
  size : β → ℕ
  unicode : Unicode
  links : ℕ

namespace WorkspaceManager

variable {β : Type} (m : WorkspaceManager β) (t : FileTree β)

/-- `_safe_workspace_name`. -/
def safeWorkspaceName (value : Str) : Str :=
  let name := (value.map fun c =>
    if m.unicode.isAlnum c || c == '-' || c == '_' then c else '_').take 120
  if name = [] then "sandbox-task".toList else name

/-- `(workspace / "output").mkdir(exist_ok=True)`. -/
def makeOutput (workspace : Location) : Option (FileTree β) :=
  match t.node (workspace ++ [outputName]) with
  | none => t.place workspace outputName .dir
  | some .dir => some t
  | some (.file _) => none
  | some (.link _) =>
    match t.follow true m.links [] (workspace ++ [outputName]) with
    | some real => if t.node real = some .dir then some t else none
    | none => none

/-- `create_workspace`. -/
def createWorkspace (task : SandboxTask β) : FileTree β × Option Location :=
  match t.follow false m.links [] (m.root ++ [m.safeWorkspaceName task.taskId]) with
  | none => (t, none)
  | some workspace =>
    if ¬Path.Inside m.root workspace then (t, none)
    else
      match t.mkdirs [] workspace with
      | none => (t, none)
      | some t₁ =>
        match m.makeOutput t₁ workspace with
        | none => (t₁, none)
        | some t₂ => (t₂, some workspace)

/-- `target.parent.mkdir(parents=True, exist_ok=True)` and `target.write_bytes(data)`. -/
def writeTarget (target : Location) (data : β) : FileTree β × Bool :=
  match t.mkdirs [] target.dropLast with
  | none => (t, false)
  | some t₁ =>
    match t₁.write m.links target data with
    | none => (t₁, false)
    | some t₂ => (t₂, true)

/-- The loop body of `write_input_files`, with the bytes that were written so far. -/
def writeInputFile (workspace : Location) (total : ℕ) (item : InputFile β) :
    FileTree β × Option ℕ :=
  match validateRelativePath item.relativePath, item.decodedBytes with
  | .ok relative, some data =>
    if m.maxInputBytes < total + m.size data then (t, none)
    else if ¬valid ⟨false, Path.names relative⟩ then (t, none)
    else
      match t.follow false m.links [] (workspace ++ Path.names relative) with
      | none => (t, none)
      | some target =>
        if ¬Path.Inside workspace target then (t, none)
        else
          match m.writeTarget t target data with
          | (t', true) => (t', some (total + m.size data))
          | (t', false) => (t', none)
  | _, _ => (t, none)

/-- `_prepare_command`: the entry program is written. -/
def prepareCommand (task : SandboxTask β) (workspace : Location) : Option (FileTree β) :=
  match task.entryProgram with
  | some (names, code) => t.write m.links (workspace ++ names) code
  | none => some t

/-- `sorted(output_dir.rglob("*"))`: everything below the directory; links are not entered. -/
def rglob (directory : Location) : List Location :=
  (t.locations.dedup.filter fun location =>
    directory <+: location ∧ location ≠ directory ∧ (t.node location).isSome).mergeSort
      fun a b => a ≤ b

/-- The loop of `collect_output_files`. -/
def collectFrom (outputDir : Location) : List Location → ℕ → Option (List (OutputFile β))
  | [], _ => some []
  | location :: rest, total =>
    match t.openFile m.links location with
    | none => collectFrom outputDir rest total
    | some _ =>
      match t.follow false m.links [] location with
      | none => none
      | some resolved =>
        if ¬Path.Inside outputDir resolved then collectFrom outputDir rest total
        else
          let relative := Path.joined (resolved.drop outputDir.length)
          match validateRelativePath relative, t.openFile m.links resolved,
              sandboxFilePath relative with
          | .ok _, some (source, data), some relativePath =>
            if m.maxOutputBytes < total + m.size data then none
            else
              (collectFrom outputDir rest (total + m.size data)).map
                (⟨relativePath, data, source⟩ :: ·)
          | _, _, _ => none

/-- The directory that `collect_output_files` searches. -/
def outputDir (workspace : Location) : Option Location :=
  t.follow false m.links [] (workspace ++ [outputName])

/-- `collect_output_files`. -/
def collectOutputFiles (workspace : Location) : Option (List (OutputFile β)) :=
  match m.outputDir t workspace with
  | none => none
  | some directory =>
    if t.node directory = none then some []
    else m.collectFrom t directory (rglob t directory) 0

/-- `cleanup_workspace`, when the locations in `stuck` cannot be removed. -/
def cleanupWorkspace (workspace : Location) (keep : Bool) (stuck : List Location) : FileTree β :=
  if keep then t
  else
    match t.follow false m.links [] workspace with
    | none => t
    | some resolved =>
      if h : Path.Inside m.root resolved ∧ t.node resolved = some .dir ∧ resolved ≠ [] then
        t.rmtree resolved stuck h.2.2
      else t

/-! ### Names -/

section Names

variable {β : Type} (m : WorkspaceManager β)

/-- The name of a workspace leads down. -/
lemma isProper_safeWorkspaceName (value : Str) :
    FileTree.IsProper (m.safeWorkspaceName value) := by
  rw [safeWorkspaceName]
  split_ifs with hempty
  · exact ⟨by decide, by decide, by decide⟩
  · have hdot : '.' ∉ ((value.map fun c =>
        if m.unicode.isAlnum c || c == '-' || c == '_' then c else '_').take 120) := by
      intro hmem
      obtain ⟨c, -, hc⟩ := List.mem_map.mp (List.mem_of_mem_take hmem)
      split_ifs at hc with hsafe
      · subst hc
        have halnum : m.unicode.isAlnum '.' = false := by
          rw [m.unicode.isAlnum_ascii '.' (by decide)]
          decide
        rw [halnum] at hsafe
        revert hsafe
        decide
      · revert hc
        decide
    refine ⟨hempty, fun h => hdot ?_, fun h => hdot ?_⟩
    · rw [h]
      exact List.mem_singleton_self _
    · rw [h]
      exact List.mem_cons_self

lemma isProper_outputName : FileTree.IsProper outputName :=
  ⟨by decide, by decide, by decide⟩

lemma isProper_entryProgram {task : SandboxTask β} {names : List Str} {code : β}
    (h : task.entryProgram = some (names, code)) : ∀ name ∈ names, FileTree.IsProper name := by
  rw [SandboxTask.entryProgram] at h
  split at h
  · obtain ⟨rfl, -⟩ := Prod.mk.inj (Option.some.inj h)
    exact List.forall_mem_singleton.mpr ⟨by decide, by decide, by decide⟩
  · obtain ⟨rfl, -⟩ := Prod.mk.inj (Option.some.inj h)
    exact List.forall_mem_singleton.mpr ⟨by decide, by decide, by decide⟩
  · cases h

/-- The names of an accepted relative path lead down. -/
lemma isProper_relative {value relative : Str} (h : validateRelativePath value = .ok relative) :
    ∀ name ∈ Path.names relative, FileTree.IsProper name := by
  obtain ⟨rfl, hchecked, -⟩ := validateRelativePath_ok h
  intro name hname
  rw [Path.names_joined_of_notMem hchecked.slash] at hname
  obtain ⟨hmem, hproper⟩ := List.mem_filter.mp hname
  obtain ⟨hempty, hdot⟩ := of_decide_eq_true hproper
  refine ⟨hempty, hdot, ?_⟩
  rintro rfl
  exact hchecked.parent hmem

end Names

/-! ### A workspace without links -/

/-- A directory that is reached without links, and has none below it. -/
structure Plain {β : Type} (t : FileTree β) (workspace : Location) : Prop where
  canonical : t.Canonical workspace
  dir : t.node workspace = some .dir
  noLink : ∀ below, ¬t.IsLink (workspace ++ below)

namespace Plain

variable {β : Type} {t : FileTree β} {workspace : Location}

/-- Every path of proper names below the workspace is canonical. -/
lemma below (h : Plain t workspace) {names : List Str}
    (hnames : ∀ name ∈ names, FileTree.IsProper name) : t.Canonical (workspace ++ names) where
  proper name hname := by
    rcases List.mem_append.mp hname with hdir | hrest
    · exact h.canonical.proper name hdir
    · exact hnames name hrest
  noLink front hfront := by
    rcases List.prefix_or_prefix_of_prefix hfront (List.prefix_append workspace names) with
      hbefore | ⟨below, rfl⟩
    · exact h.canonical.noLink front hbefore
    · exact h.noLink below

end Plain

section Steps

variable {β : Type} {m : WorkspaceManager β} {t t' : FileTree β} {workspace target : Location}
  {data : β}

/-- What is on the way to a location below a directory, and not below the directory, exists. -/
lemma node_of_inside (hdir : t.node workspace = some .dir) {location : Location}
    (hinside : workspace <+: target) (hlocation : location <+: target)
    (hout : ¬workspace <+: location) : t.node location = some .dir := by
  obtain ⟨below, rfl⟩ :=
    (List.prefix_or_prefix_of_prefix hinside hlocation).resolve_left hout
  have hbelow : below ≠ [] := by
    rintro rfl
    rw [List.append_nil] at hout
    exact hout (List.prefix_refl _)
  exact FileTree.node_of_below hbelow (by rw [hdir]; exact Option.some_ne_none _)

/-- What a step does to the files of a workspace: it stays inside, makes no links, and writes the
given files. -/
structure Writes (t t' : FileTree β) (workspace : Location) (files : Location → Option β) :
    Prop where
  outside : t.AgreesOutside t' workspace
  plain : Plain t' workspace
  files : ∀ below, t'.fileAt (workspace ++ below) = files below

/-- Directories that are made on the way to a file below a workspace. -/
lemma writes_mkdirs (hplain : Plain t workspace) (hinside : workspace <+: target)
    (h : t.mkdirs [] target.dropLast = some t') :
    Writes t t' workspace fun below => t.fileAt (workspace ++ below) := by
  obtain ⟨-, hchange⟩ := FileTree.mkdirs_spec h t.root
  rw [List.nil_append] at hchange
  have houtside : t.AgreesOutside t' workspace := by
    intro location hout
    refine (hchange location).resolve_right ?_
    rintro ⟨hnone, -, hbefore⟩
    rw [node_of_inside hplain.dir hinside (hbefore.trans (List.dropLast_prefix _)) hout] at hnone
    cases hnone
  have hdir : t'.node workspace = some .dir := by
    rcases hchange workspace with hsame | ⟨-, hnew, -⟩
    · rw [hsame, hplain.dir]
    · exact hnew
  have hlink : ∀ location, t'.IsLink location → t.IsLink location := by
    rintro location ⟨link, hnode⟩
    rcases hchange location with hsame | ⟨-, hnew, -⟩
    · exact ⟨link, hsame ▸ hnode⟩
    · rw [hnode] at hnew
      cases hnew
  refine ⟨houtside, ⟨⟨hplain.canonical.proper, fun front hfront h => ?_⟩, hdir,
    fun below h => hplain.noLink below (hlink _ h)⟩, fun below => ?_⟩
  · exact hplain.canonical.noLink front hfront (hlink front h)
  · rcases hchange (workspace ++ below) with hsame | ⟨hnone, hnew, -⟩
    · rw [FileTree.fileAt, hsame, FileTree.fileAt]
    · rw [FileTree.fileAt, hnew, FileTree.fileAt, hnone]

/-- A file that is written below a workspace. -/
lemma writes_file (hplain : Plain t workspace) {names : List Str}
    (hnames : ∀ name ∈ names, FileTree.IsProper name)
    (h : t.write m.links (workspace ++ names) data = some t') :
    Writes t t' workspace
      (Function.update (fun below => t.fileAt (workspace ++ below)) names (some data)) := by
  obtain ⟨-, hnode, hupdate⟩ := FileTree.write_spec (hplain.below hnames) h
  have hne : names ≠ [] := by
    rintro rfl
    rw [List.append_nil] at hnode
    exact hnode hplain.dir
  have hsame : ∀ {location}, location ≠ workspace ++ names →
      t'.node location = t.node location := fun hlocation => by
    rw [hupdate, Function.update_of_ne hlocation]
  have hself : t'.node (workspace ++ names) = some (.file data) := by
    rw [hupdate, Function.update_self]
  have hlink : ∀ location, t'.IsLink location → t.IsLink location := by
    rintro location ⟨link, hlink⟩
    by_cases hlocation : location = workspace ++ names
    · rw [hlocation, hself] at hlink
      cases hlink
    · exact ⟨link, hsame hlocation ▸ hlink⟩
  have hwork : workspace ≠ workspace ++ names := by simpa using hne
  refine ⟨fun location hout => hsame ?_, ⟨⟨hplain.canonical.proper, fun front hfront h => ?_⟩, ?_,
    fun below h => hplain.noLink below (hlink _ h)⟩, fun below => ?_⟩
  · rintro rfl
    exact hout (List.prefix_append _ _)
  · exact hplain.canonical.noLink front hfront (hlink front h)
  · rw [hsame hwork, hplain.dir]
  · by_cases hbelow : below = names
    · rw [hbelow, Function.update_self, FileTree.fileAt, hself]
    · rw [Function.update_of_ne hbelow, FileTree.fileAt, hsame (by simpa using hbelow),
        FileTree.fileAt]

lemma Writes.trans {t₁ t₂ : FileTree β} {files files' : Location → Option β}
    (h : Writes t t₁ workspace files) (h' : Writes t₁ t₂ workspace files') :
    Writes t t₂ workspace files' :=
  ⟨h.outside.trans h'.outside, h'.plain, h'.files⟩

/-! ### The steps -/

variable (m data) in
/-- The directories and the file of one input. -/
lemma writes_target (hplain : Plain t workspace) {names : List Str}
    (hnames : ∀ name ∈ names, FileTree.IsProper name) :
    ((m.writeTarget t (workspace ++ names) data).2 = false ∧
      Writes t (m.writeTarget t (workspace ++ names) data).1 workspace
        fun below => t.fileAt (workspace ++ below)) ∨
    ((m.writeTarget t (workspace ++ names) data).2 = true ∧
      Writes t (m.writeTarget t (workspace ++ names) data).1 workspace
        (Function.update (fun below => t.fileAt (workspace ++ below)) names (some data))) := by
  rw [writeTarget]
  split
  · exact .inl ⟨rfl, .refl t workspace, hplain, fun _ => rfl⟩
  · rename_i t₁ hmkdirs
    have hdirs := writes_mkdirs hplain (List.prefix_append workspace names) hmkdirs
    split
    · exact .inl ⟨rfl, hdirs⟩
    · rename_i t₂ hwrite
      have hfile := hdirs.trans (writes_file hdirs.plain hnames hwrite)
      simp only [hdirs.files] at hfile
      exact .inr ⟨rfl, hfile⟩

/-- One input file is written, or an exception leaves the files as they were. -/
lemma writes_input (hplain : Plain t workspace) (total : ℕ) (item : InputFile β) :
    ((m.writeInputFile t workspace total item).2 = none ∧
      Writes t (m.writeInputFile t workspace total item).1 workspace
        fun below => t.fileAt (workspace ++ below)) ∨
    ∃ names data, item.entry = some (names, data) ∧
      Writes t (m.writeInputFile t workspace total item).1 workspace
        (Function.update (fun below => t.fileAt (workspace ++ below)) names (some data)) := by
  have hstay : Writes t t workspace fun below => t.fileAt (workspace ++ below) :=
    ⟨.refl t workspace, hplain, fun _ => rfl⟩
  rw [writeInputFile, InputFile.entry]
  cases hvalidate : validateRelativePath item.relativePath with
  | error message => exact .inl ⟨rfl, hstay⟩
  | ok relative =>
    cases item.decodedBytes with
    | none => exact .inl ⟨rfl, hstay⟩
    | some data =>
      have hnames := isProper_relative hvalidate
      have hwalk : t.follow false m.links [] (workspace ++ Path.names relative) =
          some (workspace ++ Path.names relative) := (hplain.below hnames).follow_root
      have hinside : ¬¬Path.Inside workspace (workspace ++ Path.names relative) :=
        not_not.mpr (List.prefix_append workspace (Path.names relative))
      have htarget := writes_target m data hplain hnames
      dsimp only
      rw [hwalk]
      dsimp only
      rw [if_neg hinside]
      by_cases hsize : m.maxInputBytes < total + m.size data
      · rw [if_pos hsize]
        exact .inl ⟨rfl, hstay⟩
      · rw [if_neg hsize]
        by_cases hvalid : ¬valid ⟨false, Path.names relative⟩ = true
        · rw [if_pos hvalid]
          exact .inl ⟨rfl, hstay⟩
        · rw [if_neg hvalid]
          rcases hstep : m.writeTarget t (workspace ++ Path.names relative) data with ⟨t', ok⟩
          rw [hstep] at htarget
          rcases htarget with ⟨rfl, hdirs⟩ | ⟨rfl, hfile⟩
          · exact .inl ⟨rfl, hdirs⟩
          · exact .inr ⟨_, _, rfl, hfile⟩

/-- The entry program is written over the files. -/
lemma writes_entry (hplain : Plain t workspace) {task : SandboxTask β}
    (h : m.prepareCommand t task workspace = some t') :
    Writes t t' workspace (KeyValue.writeAll Prod.fst Prod.snd
      (fun below => t.fileAt (workspace ++ below)) task.entryProgram.toList) := by
  rw [prepareCommand] at h
  split at h
  · rename_i names code hentry
    rw [hentry]
    exact writes_file hplain (isProper_entryProgram hentry) h
  · rename_i hentry
    obtain rfl := Option.some.inj h
    rw [hentry]
    exact ⟨.refl t workspace, hplain, fun _ => rfl⟩

/-- A workspace that did not exist is made without files. -/
lemma createWorkspace_fresh {task : SandboxTask β} (hroot : t.Canonical m.root)
    (hdir : t.node m.root = some .dir)
    (hnew : t.node (m.root ++ [m.safeWorkspaceName task.taskId]) = none) :
    t.AgreesOutside (m.createWorkspace t task).1 (m.root ++ [m.safeWorkspaceName task.taskId]) ∧
      ∀ workspace, (m.createWorkspace t task).2 = some workspace →
        workspace = m.root ++ [m.safeWorkspaceName task.taskId] ∧
        Plain (m.createWorkspace t task).1 workspace ∧
        ∀ below, (m.createWorkspace t task).1.fileAt (workspace ++ below) = none := by
  set workspace := m.root ++ [m.safeWorkspaceName task.taskId] with hworkspace
  have hcanonical : t.Canonical workspace := by
    refine hroot.down (m.isProper_safeWorkspaceName task.taskId) ?_
    rintro ⟨target, hlink⟩
    rw [← hworkspace, hnew] at hlink
    cases hlink
  have hinside : ¬¬Path.Inside m.root workspace := not_not.mpr (List.prefix_append _ _)
  rw [createWorkspace, ← hworkspace, hcanonical.follow_root]
  dsimp only
  rw [if_neg hinside]
  cases hmkdirs : t.mkdirs [] workspace with
  | none => exact ⟨.refl t workspace, fun _ h => nomatch h⟩
  | some t₁ =>
    obtain ⟨hmade, hchange⟩ := FileTree.mkdirs_spec hmkdirs t.root
    rw [List.nil_append] at hmade hchange
    have houtside : t.AgreesOutside t₁ workspace := by
      intro location hout
      refine (hchange location).resolve_right ?_
      rintro ⟨hnone, -, hprefix⟩
      rcases List.prefix_concat_iff.mp hprefix with hself | hbefore
      · exact hout (hself ▸ List.prefix_refl _)
      · obtain ⟨rest, hrest⟩ := hbefore
        have hexists : t.node location = some .dir := by
          by_cases hempty : rest = []
          · rw [hempty, List.append_nil] at hrest
            rw [hrest, hdir]
          · exact FileTree.node_of_below hempty (by rw [hrest, hdir]; exact Option.some_ne_none _)
        rw [hnone] at hexists
        cases hexists
    -- nothing was below the directory that is made
    have hbelow : ∀ below, below ≠ [] → t₁.node (workspace ++ below) = none := by
      intro below hempty
      have hnone : t.node (workspace ++ below) = none := by
        by_contra hexists
        rw [FileTree.node_of_below hempty hexists] at hnew
        cases hnew
      rcases hchange (workspace ++ below) with hsame | ⟨-, -, hprefix⟩
      · rw [hsame, hnone]
      · have hlength := hprefix.length_le
        rw [List.length_append] at hlength
        exact absurd (List.length_eq_zero_iff.mp (by omega)) hempty
    dsimp only
    cases houtput : m.makeOutput t₁ workspace with
    | none => exact ⟨houtside, fun _ h => nomatch h⟩
    | some t₂ =>
      rw [makeOutput, hbelow [outputName] (List.cons_ne_nil _ _)] at houtput
      obtain ⟨-, -, hupdate⟩ := FileTree.place_eq_some houtput
      have hsame : ∀ {location}, location ≠ workspace ++ [outputName] →
          t₂.node location = t₁.node location := fun hlocation => by
        rw [hupdate, Function.update_of_ne hlocation]
      have hself : t₂.node (workspace ++ [outputName]) = some .dir := by
        rw [hupdate, Function.update_self]
      have hagrees : t.AgreesOutside t₂ workspace := houtside.trans fun location hout => hsame <| by
        rintro rfl
        exact hout (List.prefix_append _ _)
      have hdir₂ : t₂.node workspace = some .dir := by
        rw [hsame (by simp), hmade]
      have hnode : ∀ below, t₂.node (workspace ++ below) = some .dir ∨
          t₂.node (workspace ++ below) = none := by
        intro below
        by_cases hout : below = [outputName]
        · exact .inl (hout ▸ hself)
        · by_cases hempty : below = []
          · rw [hempty, List.append_nil]
            exact .inl hdir₂
          · rw [hsame (by simpa using hout)]
            exact .inr (hbelow below hempty)
      have hlink : ∀ below, ¬t₂.IsLink (workspace ++ below) := by
        rintro below ⟨target, hlink⟩
        rcases hnode below with h | h <;> rw [h] at hlink <;> cases hlink
      refine ⟨hagrees, fun workspace' h => ?_⟩
      obtain rfl := Option.some.inj h
      refine ⟨rfl, ⟨⟨hcanonical.proper, fun front hfront => ?_⟩, hdir₂, hlink⟩, fun below => ?_⟩
      · rcases List.prefix_concat_iff.mp hfront with rfl | hbefore
        · simpa using hlink []
        · rintro ⟨target, hlink⟩
          rw [hagrees front fun hle => ?_] at hlink
          · exact hroot.noLink front hbefore ⟨target, hlink⟩
          · have hlength := hle.length_le.trans hbefore.length_le
            rw [hworkspace, List.length_append, List.length_singleton] at hlength
            omega
      · rw [FileTree.fileAt]
        rcases hnode below with h | h <;> rw [h]

/-! ### The end of a run -/

/-- Without a link at its place, the output directory is the one of the workspace. -/
lemma outputDir_eq (hcanonical : t.Canonical workspace)
    (hlink : ¬t.IsLink (workspace ++ [outputName])) :
    m.outputDir t workspace = some (workspace ++ [outputName]) :=
  (hcanonical.down isProper_outputName hlink).follow_root

/-- Every collected file was read below the directory that is searched. -/
lemma mem_collectFrom {directory : Location} {locations : List Location} {total : ℕ}
    {files : List (OutputFile β)}
    (h : m.collectFrom t directory locations total = some files) :
    ∀ f ∈ files, directory <+: f.source ∧ t.node f.source = some (.file f.content) := by
  induction locations generalizing total files with
  | nil =>
    obtain rfl := Option.some.inj h
    exact fun f hf => absurd hf List.not_mem_nil
  | cons location rest ih =>
    rw [collectFrom] at h
    split at h
    · exact ih h
    · split at h
      · cases h
      · rename_i resolved hresolved
        by_cases hinside : Path.Inside directory resolved
        · rw [if_neg (not_not.mpr hinside)] at h
          dsimp only at h
          split at h
          · rename_i source data relativePath hopen _
            split_ifs at h
            obtain ⟨others, hothers, rfl⟩ := Option.map_eq_some_iff.mp h
            have hcanonical := FileTree.canonical_of_follow FileTree.canonical_nil hresolved
            intro f hf
            rcases List.mem_cons.mp hf with rfl | hf
            · obtain rfl := FileTree.openFile_of_canonical hcanonical hopen
              exact ⟨hinside, (FileTree.openFile_eq_some hopen).2⟩
            · exact ih hothers f hf
          · cases h
        · rw [if_pos hinside] at h
          exact ih h

/-- Every collected file was read below the output directory. -/
lemma mem_collectOutputFiles {directory : Location}
    (hdirectory : m.outputDir t workspace = some directory) {files : List (OutputFile β)}
    (h : m.collectOutputFiles t workspace = some files) :
    ∀ f ∈ files, directory <+: f.source ∧ t.node f.source = some (.file f.content) := by
  rw [collectOutputFiles, hdirectory] at h
  dsimp only at h
  split_ifs at h
  · obtain rfl := Option.some.inj h
    exact fun f hf => absurd hf List.not_mem_nil
  · exact mem_collectFrom h

/-- Cleaning up removes nothing outside the workspace. -/
lemma cleanupWorkspace_agrees (hcanonical : t.Canonical workspace) (keep : Bool)
    (stuck : List Location) :
    t.AgreesOutside (m.cleanupWorkspace t workspace keep stuck) workspace := by
  rw [cleanupWorkspace, hcanonical.follow_root]
  dsimp only
  split_ifs with hkeep hremove
  · exact .refl t workspace
  · exact FileTree.rmtree_agrees stuck hremove.2.2
  · exact .refl t workspace

end Steps

end WorkspaceManager

end EcommerceAgent.Sandbox
