/-
# Import jobs and their files

`data_import_jobs` and the directory of uploaded files, with `preview_job`, `save_mapping`,
`confirm_job` and the two functions that create jobs, of `api/services/import_service.py`.  A file
is found by a pattern that begins with the caller's job id.  `preview_job` looks for the job in the
caller's shop first; in `confirm_job` the shop only appears in the `WHERE` clause of an `UPDATE`
behind the import.
-/
import EcommerceAgent.Imports.Mapping
import EcommerceAgent.Lib.Lines
import EcommerceAgent.Lib.Path
import EcommerceAgent.Lib.Runs

open EcommerceAgent.Lib

namespace EcommerceAgent.Imports

/-- A row of `data_import_jobs`. -/
structure ImportJob where
  id : Str
  scope : Scope
  source : Str
  fileName : Str
  status : Str
  rowsCount : ℕ
  qualityScore : ℕ
  mapping : Option Mapping
  createdBy : Str

/-- The name under which the file of a job is stored. -/
def ImportJob.storedName (job : ImportJob) : Str := job.id ++ '_' :: job.fileName

/-- The job has exactly this id, tenant and shop. -/
def ImportJob.Is (job : ImportJob) (caller : Scope) (jobId : Str) : Prop :=
  job.id = jobId ∧ job.scope = caller

/-- The files below `IMPORT_DIR` with their paths relative to it. -/
abbrev ImportDir := List (Str × UploadFile)

/-- `IMPORT_DIR.glob(pattern)`: the files that match, in the order of the file system, or an
exception for a pattern that `pathlib` refuses. -/
abbrev Glob := ImportDir → Str → Option ImportDir

/-- The tables of the jobs and of the business, and the stored files. -/
structure ImportState where
  jobs : List ImportJob
  directory : ImportDir
  db : Database

/-- What `preview_job` returns. -/
structure Preview where
  rows : List UploadRow
  fields : Mapping
  score : ℕ
  errors : List Str

/-- What `confirm_job` returns. -/
structure ConfirmReply where
  id : Str
  status : Str
  rows : ℕ

section Service

variable (lib : Library) (glob : Glob) (s : ImportState) (caller : Scope) (jobId : Str)

/-- `WHERE tenant_id=%s AND shop_id=%s AND id=%s`. -/
def ImportJob.found (job : ImportJob) : Bool :=
  lib.collate job.scope.tenantId = lib.collate caller.tenantId ∧
  lib.collate job.scope.shopId = lib.collate caller.shopId ∧ lib.collate job.id = lib.collate jobId

/-- `list(IMPORT_DIR.glob(f"{job_id}_*"))`. -/
def ImportState.candidates : Option ImportDir := glob s.directory (jobId ++ "_*".toList)

/-- `matches[0]`. -/
def ImportState.firstMatch : Option (Str × UploadFile) :=
  (s.candidates glob jobId).bind List.head?

/-- `preview_job`; `none` is an exception. -/
def previewJob : Option Preview :=
  match s.jobs.find? fun job => job.found lib caller jobId with
  | none => some ⟨[], [], 0, ["导入任务不存在".toList]⟩
  | some _ =>
    (s.candidates glob jobId).map fun found =>
      match found with
      | [] => ⟨[], [], 0, ["上传文件不存在".toList]⟩
      | (_, file) :: _ =>
        let rows := file.previewRows
        { rows := rows
          fields := (rows.head?.getD []).map fun cell => (cell.1, lib.guessTarget cell.1)
          score := if rows = [] then 0 else 88
          errors := if rows = [] then ["文件为空或格式不支持".toList] else [] }

/-- `save_mapping`. -/
def saveMapping (mapping : Mapping) : ImportState :=
  { s with jobs := s.jobs.map fun job =>
      if job.found lib caller jobId then
        { job with mapping := some mapping, status := "mapping_required".toList }
      else job }

/-- `confirm_job` up to the refresh of reports: the import, and the `UPDATE` of the job. -/
def confirmJob (now : ℤ) : ImportState × Option ConfirmReply :=
  match s.candidates glob jobId with
  | none => (s, none)
  | some found =>
    let rows := (found.head?.map fun entry => entry.2.readUploadRows none).getD []
    let jobs := s.jobs.map fun job =>
      if job.found lib caller jobId then
        { job with
          status := "imported".toList
          rowsCount := rows.length
          qualityScore := 90 }
      else job
    ({ s with jobs := jobs, db := lib.importRows caller now rows s.db },
      some ⟨jobId, "imported".toList, rows.length⟩)

/-- Only the owner of a job can preview or confirm it, and both use the file that was stored for the
job; for any other id they leave the business tables alone and report a missing job. -/
structure OwnerOnly (now : ℤ) : Prop where
  preview : ∀ view, previewJob lib glob s caller jobId = some view → view.rows ≠ [] →
    ∃ job ∈ s.jobs, job.Is caller jobId ∧
      (s.firstMatch glob jobId).map Prod.fst = some job.storedName
  preview_missing : (∀ job ∈ s.jobs, ¬ job.Is caller jobId) →
    previewJob lib glob s caller jobId = some ⟨[], [], 0, ["导入任务不存在".toList]⟩
  confirm : (confirmJob lib glob s caller jobId now).1.db ≠ s.db →
    ∃ job ∈ s.jobs, job.Is caller jobId ∧
      (s.firstMatch glob jobId).map Prod.fst = some job.storedName
  confirm_missing : (∀ job ∈ s.jobs, ¬ job.Is caller jobId) →
    (confirmJob lib glob s caller jobId now).1.db = s.db ∧
    ∃ reply, (confirmJob lib glob s caller jobId now).2 = some reply ∧
      reply.status ≠ "imported".toList

/-- The caller has the job, and the first file that is found, if it has rows, is the job's file. -/
def OwnsFile : Prop :=
  ∃ job ∈ s.jobs, job.Is caller jobId ∧
    ∀ entry ∈ s.firstMatch glob jobId, entry.2.readUploadRows none ≠ [] →
      entry.1 = job.storedName

end Service

variable {lib : Library} {glob : Glob} {s : ImportState} {caller : Scope} {jobId : Str} {now : ℤ}

/-! ### Preview and confirmation -/

/-- A confirmation imports the rows of the first file that is found. -/
lemma confirmJob_db : (confirmJob lib glob s caller jobId now).1.db =
    lib.importRows caller now
      (((s.firstMatch glob jobId).map fun entry => entry.2.readUploadRows none).getD []) s.db := by
  cases h : s.candidates glob jobId with
  | none =>
    have hfirst : s.firstMatch glob jobId = none := by
      rw [ImportState.firstMatch, h, Option.bind_none]
    rw [hfirst, Option.map_none, Option.getD_none, importRows_nil]
    simp only [confirmJob, h]
  | some found =>
    have hfirst : s.firstMatch glob jobId = found.head? := by
      rw [ImportState.firstMatch, h, Option.bind_some]
    rw [hfirst]
    simp only [confirmJob, h]

/-- No confirmation reports a missing job. -/
lemma confirmJob_reply {reply : ConfirmReply}
    (h : (confirmJob lib glob s caller jobId now).2 = some reply) :
    reply.status = "imported".toList := by
  simp only [confirmJob] at h
  split at h
  · cases h
  · rw [← Option.some_inj.mp h]

/-- A confirmation changes the business tables exactly when the first file that is found has rows.
-/
lemma confirmJob_changes_iff : (confirmJob lib glob s caller jobId now).1.db ≠ s.db ↔
    ∃ entry ∈ s.firstMatch glob jobId, entry.2.readUploadRows none ≠ [] := by
  rw [confirmJob_db]
  cases h : s.firstMatch glob jobId with
  | none =>
    rw [Option.map_none, Option.getD_none, importRows_nil]
    simp
  | some entry =>
    rw [Option.map_some, Option.getD_some]
    constructor
    · intro hchanged
      refine ⟨entry, rfl, fun hnil => hchanged ?_⟩
      rw [hnil, importRows_nil]
    · rintro ⟨entry', hentry, hrows⟩ hsame
      obtain rfl := Option.some_inj.mp hentry
      have hlength := traffic_length_importRows lib caller now (entry.2.readUploadRows none) s.db
      rw [hsame] at hlength
      exact hrows (List.length_eq_zero_iff.mp (by omega))

/-- The rows of a preview come from the first file that is found. -/
lemma firstMatch_of_preview {view : Preview} (h : previewJob lib glob s caller jobId = some view)
    (hrows : view.rows ≠ []) :
    ∃ entry ∈ s.firstMatch glob jobId, entry.2.readUploadRows none ≠ [] := by
  rw [previewJob] at h
  split at h
  · rw [← Option.some_inj.mp h] at hrows
    exact absurd rfl hrows
  · obtain ⟨found, hfound, rfl⟩ := Option.map_eq_some_iff.mp h
    cases found with
    | nil => exact absurd rfl hrows
    | cons entry rest =>
      refine ⟨entry, ?_, fun hnil => hrows ?_⟩
      · rw [ImportState.firstMatch, hfound]
        rfl
      · have hfirst : entry.2.previewRows <+: entry.2.readUploadRows none :=
          readUploadRows_isPrefix entry.2 (some 20)
        rw [hnil] at hfirst
        exact List.prefix_nil.mp hfirst

/-- The jobs of other shops are safe exactly for those who have the job and whose pattern finds its
file. -/
theorem ownerOnly_iff (lib : Library) (glob : Glob) (s : ImportState) (caller : Scope) (jobId : Str)
    (now : ℤ) : OwnerOnly lib glob s caller jobId now ↔ OwnsFile glob s caller jobId := by
  constructor
  · intro h
    have hjob : ∃ job ∈ s.jobs, job.Is caller jobId := by
      by_contra hnone
      obtain ⟨-, reply, hreply, hstatus⟩ := h.confirm_missing fun job hjob his =>
        hnone ⟨job, hjob, his⟩
      exact hstatus (confirmJob_reply hreply)
    by_cases hchanges : ∃ entry ∈ s.firstMatch glob jobId, entry.2.readUploadRows none ≠ []
    · obtain ⟨job, hmem, his, hused⟩ := h.confirm (confirmJob_changes_iff.mpr hchanges)
      refine ⟨job, hmem, his, fun entry hentry _ => ?_⟩
      rw [Option.mem_def.mp hentry, Option.map_some] at hused
      exact Option.some_inj.mp hused
    · obtain ⟨job, hmem, his⟩ := hjob
      exact ⟨job, hmem, his, fun entry hentry hrows => absurd ⟨entry, hentry, hrows⟩ hchanges⟩
  · rintro ⟨job, hmem, his, hfile⟩
    have hused : (∃ entry ∈ s.firstMatch glob jobId, entry.2.readUploadRows none ≠ []) →
        ∃ job ∈ s.jobs, job.Is caller jobId ∧
          (s.firstMatch glob jobId).map Prod.fst = some job.storedName := by
      rintro ⟨entry, hentry, hrows⟩
      refine ⟨job, hmem, his, ?_⟩
      rw [Option.mem_def.mp hentry, Option.map_some, hfile entry hentry hrows]
    refine ⟨fun view hview hrows => hused (firstMatch_of_preview hview hrows),
      fun hnone => absurd his (hnone job hmem),
      fun hchanged => hused (confirmJob_changes_iff.mp hchanged),
      fun hnone => absurd his (hnone job hmem)⟩

/-! ### Runs of the service -/

/-- `create_upload_job` with the id that it draws. -/
def createUploadJob (s : ImportState) (id : Str) (scope : Scope) (userId filename : Str)
    (file : UploadFile) : ImportState :=
  let safeName := Path.name (Path.parse (orText filename "upload.csv".toList))
  { s with
    directory := s.directory ++ [(id ++ '_' :: safeName, file)]
    jobs := s.jobs ++ [⟨id, scope, "upload".toList, safeName, "mapping_required".toList, 0, 0, none,
      userId⟩] }

/-- `create_paste_job` with the id that it draws, for a text that is read as `file`. -/
def createPasteJob (s : ImportState) (id : Str) (scope : Scope) (userId text : Str)
    (file : UploadFile) : ImportState :=
  let cleaned := Text.strip text
  if cleaned = [] then s
  else
    let safeName := if '\t' ∈ cleaned.takeWhile fun c => !Lines.isBreak c then
      "paste_import.tsv".toList else "paste_import.csv".toList
    let count := file.previewRows.length
    { s with
      directory := s.directory ++ [(id ++ '_' :: safeName, file)]
      jobs := s.jobs ++ [⟨id, scope, "paste".toList, safeName, "mapping_required".toList, count,
        if count = 0 then 0 else 88, none, userId⟩] }

/-- The calls that change the jobs or their files. -/
inductive JobAction
  | upload (id : Str) (scope : Scope) (userId filename : Str) (file : UploadFile)
  | paste (id : Str) (scope : Scope) (userId text : Str) (file : UploadFile)
  | mapping (caller : Scope) (jobId : Str) (fields : Mapping)
  | confirm (caller : Scope) (jobId : Str) (now : ℤ)

/-- One call. -/
def JobAction.step (lib : Library) (glob : Glob) (s : ImportState) : JobAction → ImportState
  | .upload id scope userId filename file => createUploadJob s id scope userId filename file
  | .paste id scope userId text file => createPasteJob s id scope userId text file
  | .mapping caller jobId fields => saveMapping lib s caller jobId fields
  | .confirm caller jobId now => (confirmJob lib glob s caller jobId now).1

/-- The shape of `str(uuid.uuid4())`. -/
def IsUuid (id : Str) : Prop :=
  id.length = 36 ∧ ∀ c ∈ id, c ∈ "0123456789abcdef-".toList

/-- New ids have the shape of a UUID and are not in use. -/
def DrawsFresh (s : ImportState) : JobAction → Prop
  | .upload id _ _ _ _ | .paste id _ _ _ _ => IsUuid id ∧ ∀ job ∈ s.jobs, job.id ≠ id
  | .mapping _ _ _ | .confirm _ _ _ => True

/-- What `pathlib` finds for a pattern without special characters before `_*`. -/
def Glob.Plain (glob : Glob) : Prop :=
  ∀ directory id found, IsUuid id → glob directory (id ++ "_*".toList) = some found →
    ∀ entry ∈ found, entry ∈ directory ∧ id ++ ['_'] <+: entry.1

/-- Every job has an id of its own, and every file belongs to a job. -/
structure FilesOfJobs (s : ImportState) : Prop where
  uuid : ∀ job ∈ s.jobs, IsUuid job.id
  ids : ∀ job ∈ s.jobs, ∀ job' ∈ s.jobs, job.id = job'.id → job.storedName = job'.storedName
  files : ∀ entry ∈ s.directory, ∃ job ∈ s.jobs, entry.1 = job.storedName

/-- An `UPDATE` that keeps the ids and the names of the files. -/
lemma FilesOfJobs.map {f : ImportJob → ImportJob} {db : Database} (h : FilesOfJobs s)
    (hid : ∀ job, (f job).id = job.id) (hname : ∀ job, (f job).storedName = job.storedName) :
    FilesOfJobs ⟨s.jobs.map f, s.directory, db⟩ where
  uuid job hjob := by
    obtain ⟨job, hmem, rfl⟩ := List.mem_map.mp hjob
    rw [hid]
    exact h.uuid job hmem
  ids job hjob job' hjob' heq := by
    obtain ⟨job, hmem, rfl⟩ := List.mem_map.mp hjob
    obtain ⟨job', hmem', rfl⟩ := List.mem_map.mp hjob'
    rw [hid, hid] at heq
    rw [hname, hname]
    exact h.ids job hmem job' hmem' heq
  files entry hentry := by
    obtain ⟨job, hmem, hname'⟩ := h.files entry hentry
    exact ⟨f job, List.mem_map_of_mem hmem, hname'.trans (hname job).symm⟩

/-- A new job with its file. -/
lemma FilesOfJobs.append {job : ImportJob} {file : UploadFile} (h : FilesOfJobs s)
    (huuid : IsUuid job.id) (hfresh : ∀ old ∈ s.jobs, old.id ≠ job.id) :
    FilesOfJobs ⟨s.jobs ++ [job], s.directory ++ [(job.storedName, file)], s.db⟩ where
  uuid x hx := by
    rcases List.mem_append.mp hx with hold | hnew
    · exact h.uuid x hold
    · rw [List.mem_singleton.mp hnew]
      exact huuid
  ids x hx y hy heq := by
    rcases List.mem_append.mp hx with hold | hnew
    · rcases List.mem_append.mp hy with hold' | hnew'
      · exact h.ids x hold y hold' heq
      · rw [List.mem_singleton.mp hnew'] at heq
        exact absurd heq (hfresh x hold)
    · rw [List.mem_singleton.mp hnew] at heq ⊢
      rcases List.mem_append.mp hy with hold' | hnew'
      · exact absurd heq.symm (hfresh y hold')
      · rw [List.mem_singleton.mp hnew']
  files entry hentry := by
    rcases List.mem_append.mp hentry with hold | hnew
    · obtain ⟨old, hmem, hname⟩ := h.files entry hold
      exact ⟨old, List.mem_append_left _ hmem, hname⟩
    · rw [List.mem_singleton.mp hnew]
      exact ⟨job, List.mem_append_right _ (List.mem_singleton_self _), rfl⟩

lemma FilesOfJobs.step {a : JobAction} (h : FilesOfJobs s) (hfresh : DrawsFresh s a) :
    FilesOfJobs (a.step lib glob s) := by
  cases a with
  | upload id scope userId filename file =>
    rw [JobAction.step, createUploadJob]
    refine h.append ?_ ?_
    · exact hfresh.1
    · exact hfresh.2
  | paste id scope userId text file =>
    rw [JobAction.step, createPasteJob]
    split
    · exact h
    · refine h.append ?_ ?_
      · exact hfresh.1
      · exact hfresh.2
  | mapping caller jobId fields =>
    rw [JobAction.step, saveMapping]
    refine h.map ?_ ?_ <;> intro job <;> split <;> rfl
  | confirm caller jobId now =>
    rw [JobAction.step, confirmJob]
    split
    · exact h
    · refine h.map ?_ ?_ <;> intro job <;> split <;> rfl

/-- The pattern of a job finds no other job's file. -/
lemma FilesOfJobs.firstMatch (h : FilesOfJobs s) (hglob : glob.Plain) {job : ImportJob}
    (hjob : job ∈ s.jobs) {entry : Str × UploadFile} (hentry : entry ∈ s.firstMatch glob job.id) :
    entry.1 = job.storedName := by
  obtain ⟨found, hfound, hhead⟩ := Option.bind_eq_some_iff.mp hentry
  obtain ⟨hmem, hbegins⟩ := hglob _ _ found (h.uuid job hjob) hfound entry
    (List.mem_of_head? hhead)
  obtain ⟨owner, howner, hname⟩ := h.files entry hmem
  have hsplit : owner.storedName = owner.id ++ ['_'] ++ owner.fileName := by
    rw [ImportJob.storedName, List.append_assoc, List.singleton_append]
  have hlength : (job.id ++ ['_']).length = (owner.id ++ ['_']).length := by
    rw [List.length_append, List.length_append, (h.uuid job hjob).1, (h.uuid owner howner).1]
  rw [hname, hsplit] at hbegins
  have hsame : job.id ++ ['_'] = owner.id ++ ['_'] := by
    have hstart := List.prefix_of_prefix_length_le hbegins (List.prefix_append _ owner.fileName)
      hlength.le
    exact hstart.eq_of_length hlength
  rw [hname]
  exact h.ids owner howner job hjob (List.append_cancel_right hsame).symm

/-- In every state that the service reaches, the jobs are safe exactly for those who have them: the
files are told apart by their names, but a confirmation does not ask for the job. -/
theorem ownerOnly_reachable_iff (hglob : glob.Plain) (db : Database) (as : List JobAction)
    (has : Along (JobAction.step lib glob) DrawsFresh ⟨[], [], db⟩ as) :
    OwnerOnly lib glob (run (JobAction.step lib glob) ⟨[], [], db⟩ as) caller jobId now ↔
      ∃ job ∈ (run (JobAction.step lib glob) ⟨[], [], db⟩ as).jobs, job.Is caller jobId := by
  have hinit : FilesOfJobs ⟨[], [], db⟩ :=
    ⟨by simp, by simp, by simp⟩
  have hfiles : FilesOfJobs (run (JobAction.step lib glob) ⟨[], [], db⟩ as) :=
    run_invariant (fun _ _ h hfresh => h.step hfresh) hinit has
  rw [ownerOnly_iff]
  constructor
  · rintro ⟨job, hjob, his, -⟩
    exact ⟨job, hjob, his⟩
  · rintro ⟨job, hjob, his⟩
    refine ⟨job, hjob, his, fun entry hentry _ => hfiles.firstMatch hglob hjob ?_⟩
    rwa [his.1]

/-- What `pathlib` finds for an id without special characters. -/
def sampleGlob : Glob := fun directory pattern =>
  some (directory.filter fun entry => pattern.dropLast.isPrefixOf entry.1)

/-- A shop that has no jobs imports the file of another one by its id. -/
theorem foreign_job_imported :
    ¬ OwnerOnly .sample sampleGlob
      (run (JobAction.step .sample sampleGlob) ⟨[], [], .empty⟩
        [.upload "7f9c24e8-3b12-4fef-91d0-2f3a5c6b7d8e".toList sampleScope "dana".toList
          "orders.csv".toList (.csv ["order_id".toList] [["1".toList]])])
      ⟨"u".toList, "v".toList⟩ "7f9c24e8-3b12-4fef-91d0-2f3a5c6b7d8e".toList 0 := by
  intro h
  obtain ⟨job, hjob, his, -⟩ := h.confirm (by decide +kernel)
  obtain rfl := List.mem_singleton.mp hjob
  have hscope := his.2
  revert hscope
  decide +kernel

end EcommerceAgent.Imports
