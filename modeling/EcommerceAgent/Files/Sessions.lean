/-
# Session directories

The paths that the upload, the preparation of a task, the file list and the download build from the
id of a conversation and the names of its files: `upload_files`, `session_dir_for`,
`resolve_session_file` and `list_files` of `api/server.py`, and `build_task_context` with
`_copy_uploaded_files` of `agent/runtime/task_context.py`.  Paths are POSIX paths without symbolic
links.  Only `resolve_session_file` compares a location with its directory, and the directory itself
is built from the unchecked id.
-/
import EcommerceAgent.Lib.Path

open EcommerceAgent.Lib

namespace EcommerceAgent.Files

/-- A Python string. -/
abbrev Str := List Char

/-- The null character. -/
def null : Char := Char.ofNat 0

/-- A name in a directory. -/
structure IsName (name : Str) : Prop where
  slash : '/' ∉ name
  null : null ∉ name
  empty : name ≠ []
  dot : name ≠ ['.']
  parent : name ≠ Path.parent

/-- The root directory of the project. -/
structure Project where
  root : Location
  normal : ∀ name ∈ root, IsName name

/-- The files below the root of the file system. -/
structure Tree where
  files : List Location
  normal : ∀ file ∈ files, ∀ name ∈ file, IsName name

/-- The operating system refuses a path with a null character. -/
def valid (p : PurePath) : Bool := p.parts.all fun part => !part.contains null

/-- `f"session_{id}"`. -/
def sessionName (id : Str) : Str := "session_".toList ++ id

namespace Project

variable (p : Project)

/-- `updated_dir`. -/
def updatedDir : PurePath := ⟨true, p.root ++ ["updated".toList]⟩

/-- `output_dir`. -/
def outputDir : PurePath := ⟨true, p.root ++ ["output".toList]⟩

/-- `base / f"session_{id}"`. -/
def sessionDir (base : PurePath) (id : Str) : PurePath :=
  Path.join base (Path.parse (sessionName id))

/-- `target.mkdir(parents=True)` below an existing directory: the directories on the way. -/
def mkdirs (base target : PurePath) : List Location :=
  ((target.parts.inits.drop (base.parts.length + 1)).map fun parts => Path.walk [] parts)

/-- `upload_files`: the directories that it creates and the files that it writes. -/
def upload (threadId : Str) (filenames : List Str) : List Location :=
  let targetDir := sessionDir p.updatedDir threadId
  if valid targetDir then
    mkdirs p.updatedDir targetDir ++
      ((filenames.map fun filename =>
          Path.join targetDir (Path.parse filename)).takeWhile valid).map Path.resolve
  else []

/-- The names of the files in a directory. -/
def entries (tree : Tree) (directory : Location) : List Str :=
  (tree.files.filter fun file => file.dropLast = directory).filterMap List.getLast?

/-- `build_task_context` and `_copy_uploaded_files`: the directories that are created, and the files
that are read and written. -/
def task (conversationId : Str) (tree : Tree) : List Location :=
  let target := sessionDir p.outputDir conversationId
  let updated := sessionDir p.updatedDir conversationId
  if valid target then
    mkdirs p.outputDir target ++
      (entries tree (Path.resolve updated)).flatMap fun filename =>
        [Path.resolve (Path.join updated (Path.parse filename)),
          Path.resolve (Path.join target (Path.parse filename))]
  else []

/-- `list_files`: the files that are listed. -/
def listFiles (conversationId : Str) (tree : Tree) : List Location :=
  let target := sessionDir p.outputDir conversationId
  if valid target then
    tree.files.filter fun file =>
      Path.Inside (Path.resolve target) file ∧ file ≠ Path.resolve target
  else []

/-- `resolve_session_file`. -/
def resolveSessionFile (conversationId filename : Str) : Option Location :=
  let target := sessionDir p.outputDir conversationId
  let candidate := Path.join ⟨true, Path.resolve target⟩ (Path.parse filename)
  if filename = [] ∨ (Path.parse filename).absolute = true then none
  else if valid target && valid candidate then
    if Path.Inside (Path.resolve target) (Path.resolve candidate) then
      some (Path.resolve candidate)
    else none
  else none

/-- `download_file`: the file that is served, if it exists. -/
def download (conversationId filename : Str) (tree : Tree) : List Location :=
  (p.resolveSessionFile conversationId filename).toList.filter (· ∈ tree.files)

/-- All locations that the endpoints create, write, copy, list or serve for a conversation. -/
def touched (id : Str) (filenames : List Str) (tree : Tree) : List Location :=
  p.upload id filenames ++ p.task id tree ++ p.listFiles id tree ++
    filenames.flatMap fun filename => p.download id filename tree

/-- A location lies in the directory `session_<id>` directly below `updated` or `output`. -/
def Within (id : Str) (location : Location) : Prop :=
  Path.Inside (p.updatedDir.parts ++ [sessionName id]) location ∨
  Path.Inside (p.outputDir.parts ++ [sessionName id]) location

instance (id : Str) (location : Location) : Decidable (p.Within id location) :=
  inferInstanceAs (Decidable (_ ∨ _))

/-- Whatever the files are, everything lies in the directories of the id. -/
def Contained (id : Str) (filenames : List Str) : Prop :=
  ∀ tree, ∀ location ∈ p.touched id filenames tree, p.Within id location

/-- The directories of an id. -/
def directories (id : Str) : List Location :=
  (([p.updatedDir, p.outputDir].map fun base => sessionDir base id).filter valid).map Path.resolve

/-- No directory of one id contains one of the other. -/
def Apart (id id' : Str) : Prop :=
  ∀ a ∈ p.directories id, ∀ b ∈ p.directories id', ¬ Path.Inside a b ∧ ¬ Path.Inside b a

/-- Where a file name leads from a directory. -/
def denoted (directory : Location) (filename : Str) : Location :=
  Path.resolve (Path.join ⟨true, directory⟩ (Path.parse filename))

/-- The id has no slashes, and the names of uploaded files lead from the session's directory back
into the session's directories; unless the operating system refuses the path. -/
def Plain (id : Str) (filenames : List Str) : Prop :=
  null ∈ id ∨
  '/' ∉ id ∧ ∀ filename ∈ filenames.takeWhile fun filename => !filename.contains null,
    p.Within id (denoted (p.updatedDir.parts ++ [sessionName id]) filename)

variable {p} {id : Str}

/-! ### Valid paths -/

lemma null_ne_slash : null ≠ '/' := by decide

lemma null_ne_dot : null ≠ '.' := by decide

lemma valid_iff {q : PurePath} : valid q = true ↔ ∀ part ∈ q.parts, null ∉ part := by
  simp [valid]

lemma null_notMem_names {text : Str} : (∀ part ∈ Path.names text, null ∉ part) ↔ null ∉ text := by
  have hnames : (∃ part ∈ Path.names text, null ∈ part) ↔ null ∈ text :=
    Path.exists_mem_names null_ne_slash null_ne_dot
  constructor
  · intro h hmem
    obtain ⟨part, hpart, hin⟩ := hnames.mpr hmem
    exact h part hpart hin
  · intro h part hpart hin
    exact h (hnames.mp ⟨part, hpart, hin⟩)

lemma null_notMem_sessionName : null ∉ sessionName id ↔ null ∉ id := by
  have hbefore : null ∉ "session_".toList := by decide +kernel
  constructor
  · exact fun h hmem => h (List.mem_append_right _ hmem)
  · exact fun h hmem => (List.mem_append.mp hmem).elim hbefore h

/-- The directories below which the sessions lie. -/
def IsBase (base : PurePath) : Prop := base = p.updatedDir ∨ base = p.outputDir

lemma IsBase.isName {base : PurePath} (h : p.IsBase base) : ∀ name ∈ base.parts, IsName name := by
  intro name hname
  rcases h with rfl | rfl
  all_goals
    rcases List.mem_append.mp hname with hroot | hlast
    · exact p.normal name hroot
    · rw [List.mem_singleton.mp hlast]
      constructor <;> decide

lemma sessionDir_parts (base : PurePath) (id : Str) :
    (sessionDir base id).parts = base.parts ++ Path.names (sessionName id) := rfl

lemma valid_sessionDir {base : PurePath} (h : p.IsBase base) :
    valid (sessionDir base id) = true ↔ null ∉ id := by
  rw [valid_iff, sessionDir_parts, ← null_notMem_sessionName, ← null_notMem_names]
  constructor
  · exact fun hall part hpart => hall part (List.mem_append_right _ hpart)
  · intro hnames part hpart
    rcases List.mem_append.mp hpart with hbase | hname
    · exact (h.isName part hbase).null
    · exact hnames part hname

/-! ### Ids without slashes -/

lemma sessionName_slash : '/' ∉ sessionName id ↔ '/' ∉ id := by
  have hbefore : '/' ∉ "session_".toList := by decide
  constructor
  · exact fun h hmem => h (List.mem_append_right _ hmem)
  · exact fun h hmem => (List.mem_append.mp hmem).elim hbefore h

lemma names_sessionName (h : '/' ∉ id) : Path.names (sessionName id) = [sessionName id] := by
  refine Path.names_of_notMem (sessionName_slash.mpr h) ?_ ?_
  · exact List.append_ne_nil_of_left_ne_nil (by decide) id
  · intro heq
    have hhead := congrArg List.head? heq
    cases hhead

lemma parent_notMem_session {base : PurePath} (hbase : p.IsBase base) :
    Path.parent ∉ base.parts ++ [sessionName id] := by
  intro hmem
  rcases List.mem_append.mp hmem with hin | hlast
  · exact (hbase.isName _ hin).parent rfl
  · have hhead := congrArg List.head? (List.mem_singleton.mp hlast)
    cases hhead

/-- The directory of an id without slashes lies directly below its base. -/
lemma resolve_sessionDir {base : PurePath} (hbase : p.IsBase base) (h : '/' ∉ id) :
    Path.resolve (sessionDir base id) = base.parts ++ [sessionName id] := by
  rw [Path.resolve, sessionDir_parts, names_sessionName h,
    Path.walk_of_notMem (parent_notMem_session hbase), List.nil_append]

/-- A directory that is created for an id can only be the one of its name if the id has no
slashes. -/
lemma slash_notMem_of_within {base : PurePath} (hbase : p.IsBase base)
    (h : p.Within id (Path.resolve (sessionDir base id))) : '/' ∉ id := by
  have hmem : sessionName id ∈ Path.resolve (sessionDir base id) := by
    rcases h with hin | hin <;>
      exact hin.subset (List.mem_append_right _ (List.mem_singleton_self _))
  rw [← sessionName_slash]
  rcases Path.mem_walk hmem with hnil | hparts
  · cases hnil
  · rcases List.mem_append.mp hparts with hin | hname
    · exact (hbase.isName _ hin).slash
    · exact Path.notMem_of_mem_names hname

/-! ### What the endpoints touch -/

lemma mkdirs_eq (base : PurePath) (id : Str) : mkdirs base (sessionDir base id) =
    (Path.names (sessionName id)).inits.tail.map fun names =>
      Path.walk [] (base.parts ++ names) := by
  have hlength : base.parts.inits.length = base.parts.length + 1 := List.length_inits base.parts
  rw [mkdirs, sessionDir_parts, List.inits_append, List.drop_left' hlength, List.map_map]
  rfl

/-- For an id without slashes only its directory is created. -/
lemma mkdirs_sessionDir (base : PurePath) (h : '/' ∉ id) :
    mkdirs base (sessionDir base id) = [Path.resolve (sessionDir base id)] := by
  rw [mkdirs_eq, Path.resolve, sessionDir_parts, names_sessionName h]
  rfl

/-- The directory of an id is created. -/
lemma resolve_mem_mkdirs (base : PurePath) (id : Str) :
    Path.resolve (sessionDir base id) ∈ mkdirs base (sessionDir base id) := by
  have hmem : 's' ∈ sessionName id := List.mem_append_left _ (by decide)
  obtain ⟨part, hpart, -⟩ := (Path.exists_mem_names (by decide) (by decide)).mpr hmem
  rw [mkdirs_eq]
  refine List.mem_map.mpr ⟨Path.names (sessionName id), ?_, rfl⟩
  cases hnames : Path.names (sessionName id) with
  | nil =>
    rw [hnames] at hpart
    cases hpart
  | cons first rest =>
    rw [List.inits_cons, List.tail_cons, List.mem_map]
    exact ⟨rest, (List.mem_inits _ _).mpr List.prefix_rfl, rfl⟩

lemma sessionDir_eq {base : PurePath} (habsolute : base.absolute = true) (h : '/' ∉ id) :
    sessionDir base id = ⟨true, base.parts ++ [sessionName id]⟩ := by
  rw [← names_sessionName h, ← habsolute]
  rfl

lemma valid_join {base : PurePath} (hbase : p.IsBase base) (hnull : null ∉ id) (filename : Str) :
    valid (Path.join ⟨true, base.parts ++ [sessionName id]⟩ (Path.parse filename)) =
      !filename.contains null := by
  have hnames : (∀ part ∈ (Path.parse filename).parts, null ∉ part) ↔ null ∉ filename :=
    null_notMem_names
  have hdirectory : ∀ part ∈ base.parts ++ [sessionName id], null ∉ part := by
    intro part hpart
    rcases List.mem_append.mp hpart with hin | hlast
    · exact (hbase.isName part hin).null
    · rw [List.mem_singleton.mp hlast]
      exact null_notMem_sessionName.mpr hnull
  have hvalid : valid (Path.join ⟨true, base.parts ++ [sessionName id]⟩ (Path.parse filename)) =
      true ↔ null ∉ filename := by
    rw [valid_iff, Path.join]
    split
    · exact hnames
    · rw [← hnames]
      constructor
      · exact fun hall part hpart => hall part (List.mem_append_right _ hpart)
      · intro hfile part hpart
        exact (List.mem_append.mp hpart).elim (hdirectory part) (hfile part)
  rw [Bool.eq_iff_iff, hvalid]
  simp

/-- What an upload touches for an id without slashes. -/
lemma mem_upload_iff {filenames : List Str} (hnull : null ∉ id) (h : '/' ∉ id)
    (location : Location) : location ∈ p.upload id filenames ↔
      location = p.updatedDir.parts ++ [sessionName id] ∨
      ∃ filename ∈ filenames.takeWhile fun filename => !filename.contains null,
        denoted (p.updatedDir.parts ++ [sessionName id]) filename = location := by
  have hbase : p.IsBase p.updatedDir := .inl rfl
  have hwhile : (fun filename => valid (Path.join (sessionDir p.updatedDir id)
      (Path.parse filename))) = fun filename => !filename.contains null := by
    funext filename
    rw [sessionDir_eq rfl h, valid_join hbase hnull]
  rw [upload, if_pos ((valid_sessionDir hbase).mpr hnull), mkdirs_sessionDir _ h,
    resolve_sessionDir hbase h, List.takeWhile_map, Function.comp_def, hwhile, List.map_map,
    List.mem_append, List.mem_singleton, List.mem_map]
  rw [sessionDir_eq rfl h]
  rfl

/-- The files of a tree have names. -/
lemma isName_of_mem_entries {tree : Tree} {directory : Location} {name : Str}
    (h : name ∈ entries tree directory) : IsName name := by
  obtain ⟨file, hfile, hlast⟩ := List.mem_filterMap.mp h
  exact tree.normal file (List.mem_of_mem_filter hfile) name (List.mem_of_getLast? hlast)

/-- A copied file lies in the directory into which it is copied. -/
lemma resolve_join_entry {base : PurePath} (hbase : p.IsBase base) {name : Str}
    (hname : IsName name) : Path.resolve (Path.join ⟨true, base.parts ++ [sessionName id]⟩
      (Path.parse name)) = base.parts ++ [sessionName id] ++ [name] := by
  have hnames : Path.names name = [name] :=
    Path.names_of_notMem hname.slash hname.empty hname.dot
  have hrelative : (Path.parse name).absolute = false := by
    cases hchars : name with
    | nil => rfl
    | cons c cs =>
      have hc : c ≠ '/' := fun heq => hname.slash (by rw [hchars, heq]; exact List.mem_cons_self)
      simpa [Path.parse] using hc
  have hparts : (Path.join ⟨true, base.parts ++ [sessionName id]⟩ (Path.parse name)).parts =
      base.parts ++ [sessionName id] ++ [name] := by
    rw [Path.join, hrelative, if_neg Bool.false_ne_true, ← hnames]
    rfl
  have hparent : Path.parent ∉ base.parts ++ [sessionName id] ++ [name] := by
    intro hmem
    rcases List.mem_append.mp hmem with hin | hlast
    · exact parent_notMem_session hbase hin
    · exact hname.parent (List.mem_singleton.mp hlast).symm
  rw [Path.resolve, hparts, Path.walk_of_notMem hparent, List.nil_append]

lemma within_task (hnull : null ∉ id) (h : '/' ∉ id) (tree : Tree) :
    ∀ location ∈ p.task id tree, p.Within id location := by
  have hupdated : p.IsBase p.updatedDir := .inl rfl
  have houtput : p.IsBase p.outputDir := .inr rfl
  intro location hlocation
  simp only [task, if_pos ((valid_sessionDir houtput).mpr hnull)] at hlocation
  rcases List.mem_append.mp hlocation with hcreated | hcopied
  · rw [mkdirs_sessionDir _ h, List.mem_singleton, resolve_sessionDir houtput h] at hcreated
    rw [hcreated]
    exact .inr List.prefix_rfl
  · obtain ⟨name, hname, hpath⟩ := List.mem_flatMap.mp hcopied
    rw [sessionDir_eq rfl h, sessionDir_eq rfl h,
      resolve_join_entry hupdated (isName_of_mem_entries hname),
      resolve_join_entry houtput (isName_of_mem_entries hname)] at hpath
    rcases List.mem_pair.mp hpath with rfl | rfl
    · exact .inl (List.prefix_append _ _)
    · exact .inr (List.prefix_append _ _)

lemma within_listFiles (h : '/' ∉ id) (tree : Tree) :
    ∀ location ∈ p.listFiles id tree, p.Within id location := by
  intro location hlocation
  rw [listFiles] at hlocation
  split at hlocation
  · have hfile := (List.mem_filter.mp hlocation).2
    rw [resolve_sessionDir (.inr rfl) h, decide_eq_true_eq] at hfile
    exact .inr hfile.1
  · cases hlocation

/-- The check of `resolve_session_file` is right where its directory is. -/
lemma within_download (h : '/' ∉ id) (filename : Str) (tree : Tree) :
    ∀ location ∈ p.download id filename tree, p.Within id location := by
  intro location hlocation
  have hresolved : p.resolveSessionFile id filename = some location := by
    simpa using (List.mem_filter.mp hlocation).1
  simp only [resolveSessionFile] at hresolved
  split at hresolved
  · cases hresolved
  · split at hresolved
    · split at hresolved
      · rename_i hinside
        obtain rfl := Option.some_inj.mp hresolved
        have houtput : p.IsBase p.outputDir := .inr rfl
        exact .inr ((resolve_sessionDir houtput h).symm ▸ hinside)
      · cases hresolved
    · cases hresolved

/-- The operating system refuses all paths of an id with a null character. -/
lemma valid_of_null {base : PurePath} (hbase : p.IsBase base) (hnull : null ∈ id) :
    valid (sessionDir base id) = false := by
  rw [← Bool.not_eq_true, valid_sessionDir hbase]
  exact not_not_intro hnull

lemma touched_of_null (hnull : null ∈ id) (filenames : List Str) (tree : Tree) :
    p.touched id filenames tree = [] := by
  have hupdated : valid (sessionDir p.updatedDir id) = false := valid_of_null (.inl rfl) hnull
  have houtput : valid (sessionDir p.outputDir id) = false := valid_of_null (.inr rfl) hnull
  have hdownload : ∀ filename, p.download id filename tree = [] := by
    intro filename
    have hnone : p.resolveSessionFile id filename = none := by
      simp only [resolveSessionFile, houtput, Bool.false_and, Bool.false_eq_true, if_false,
        ite_self]
    rw [download, hnone]
    rfl
  simp [touched, upload, task, listFiles, hupdated, houtput, hdownload]

/-! ### The requests of an id -/

/-- Everything lies in the directories of an id exactly when the id has no slashes and the names of
its uploaded files lead back into them. -/
theorem contained_iff (filenames : List Str) :
    p.Contained id filenames ↔ p.Plain id filenames := by
  have hupdated : p.IsBase p.updatedDir := .inl rfl
  have houtput : p.IsBase p.outputDir := .inr rfl
  constructor
  · intro h
    by_cases hnull : null ∈ id
    · exact .inl hnull
    have htouched : ∀ location ∈ p.upload id filenames, p.Within id location := by
      intro location hlocation
      refine h ⟨[], fun _ hfile => by cases hfile⟩ location ?_
      exact List.mem_append_left _ (List.mem_append_left _ (List.mem_append_left _ hlocation))
    have hslash : '/' ∉ id := by
      refine slash_notMem_of_within hupdated (htouched _ ?_)
      rw [upload, if_pos ((valid_sessionDir hupdated).mpr hnull)]
      exact List.mem_append_left _ (resolve_mem_mkdirs p.updatedDir id)
    refine .inr ⟨hslash, fun filename hfilename => htouched _ ?_⟩
    exact (mem_upload_iff hnull hslash _).mpr (.inr ⟨filename, hfilename, rfl⟩)
  · intro h tree location hlocation
    by_cases hnull : null ∈ id
    · rw [touched_of_null hnull] at hlocation
      cases hlocation
    obtain ⟨hslash, hfiles⟩ := h.resolve_left hnull
    rcases List.mem_append.mp hlocation with hrest | hdownload
    · rcases List.mem_append.mp hrest with hrest | hlist
      · rcases List.mem_append.mp hrest with hupload | htask
        · rcases (mem_upload_iff hnull hslash location).mp hupload with rfl | ⟨name, hname, rfl⟩
          · exact .inl List.prefix_rfl
          · exact hfiles name hname
        · exact within_task hnull hslash tree location htask
      · exact within_listFiles hslash tree location hlist
    · obtain ⟨filename, -, hserved⟩ := List.mem_flatMap.mp hdownload
      exact within_download hslash filename tree location hserved

/-- The directories of an id without slashes. -/
lemma directories_eq (hnull : null ∉ id) (h : '/' ∉ id) :
    p.directories id =
      [p.updatedDir.parts ++ [sessionName id], p.outputDir.parts ++ [sessionName id]] := by
  have hupdated : p.IsBase p.updatedDir := .inl rfl
  have houtput : p.IsBase p.outputDir := .inr rfl
  rw [directories, List.map_cons, List.map_cons, List.map_nil,
    List.filter_cons_of_pos ((valid_sessionDir hupdated).mpr hnull),
    List.filter_cons_of_pos ((valid_sessionDir houtput).mpr hnull), List.filter_nil,
    List.map_cons, List.map_cons, List.map_nil, resolve_sessionDir hupdated h,
    resolve_sessionDir houtput h]

lemma directories_of_null (hnull : null ∈ id) : p.directories id = [] := by
  have hupdated : valid (sessionDir p.updatedDir id) = false := valid_of_null (.inl rfl) hnull
  have houtput : valid (sessionDir p.outputDir id) = false := valid_of_null (.inr rfl) hnull
  simp [directories, hupdated, houtput]

/-- Different ids without slashes have directories of their own. -/
lemma apart_of_plain {id' : Str} {filenames filenames' : List Str} (h : p.Plain id filenames)
    (h' : p.Plain id' filenames') (hne : id ≠ id') : p.Apart id id' := by
  intro a ha b hb
  by_cases hnull : null ∈ id
  · rw [directories_of_null hnull] at ha
    cases ha
  by_cases hnull' : null ∈ id'
  · rw [directories_of_null hnull'] at hb
    cases hb
  rw [directories_eq hnull (h.resolve_left hnull).1] at ha
  rw [directories_eq hnull' (h'.resolve_left hnull').1] at hb
  -- The directories have the same depth, so one inside the other would be the same directory.
  have hlength : a.length = b.length := by
    rcases List.mem_pair.mp ha with rfl | rfl <;> rcases List.mem_pair.mp hb with rfl | rfl <;>
      simp [updatedDir, outputDir]
  have hlast : a.getLast? = some (sessionName id) ∧ b.getLast? = some (sessionName id') := by
    rcases List.mem_pair.mp ha with rfl | rfl <;> rcases List.mem_pair.mp hb with rfl | rfl <;>
      exact ⟨List.getLast?_concat, List.getLast?_concat⟩
  have hdifferent : a ≠ b := by
    rintro rfl
    have hname := Option.some_inj.mp (hlast.1.symm.trans hlast.2)
    exact hne (List.append_cancel_left hname)
  exact ⟨fun hin => hdifferent (hin.eq_of_length hlength),
    fun hin => hdifferent (hin.eq_of_length hlength.symm).symm⟩

/-- For two ids and their uploads everything lies in the directories of the ids, and these are
apart, exactly when the ids have no slashes and the names of the uploaded files lead back. -/
theorem sessions_iff (p : Project) (id id' : Str) (filenames filenames' : List Str) :
    (p.Contained id filenames ∧ p.Contained id' filenames' ∧ (id ≠ id' → p.Apart id id')) ↔
      p.Plain id filenames ∧ p.Plain id' filenames' := by
  rw [contained_iff, contained_iff]
  constructor
  · exact fun h => ⟨h.1, h.2.1⟩
  · exact fun h => ⟨h.1, h.2, apart_of_plain h.1 h.2⟩

/-- A relative file name without double dots leads to a file in the directory. -/
lemma inside_denoted {directory : Location} {filename : Str}
    (hdirectory : Path.parent ∉ directory) (hrelative : (Path.parse filename).absolute = false)
    (h : Path.parent ∉ Path.names filename) :
    Path.Inside directory (denoted directory filename) := by
  have hparts : (Path.join ⟨true, directory⟩ (Path.parse filename)).parts =
      directory ++ Path.names filename := by
    rw [Path.join, hrelative, if_neg Bool.false_ne_true]
    rfl
  rw [denoted, Path.resolve, hparts, Path.walk_append, Path.walk_of_notMem hdirectory,
    List.nil_append]
  exact Path.inside_walk_of_notMem h directory

/-- Relative file names without double dots are enough for an id without slashes. -/
theorem contained_of_relative (h : '/' ∉ id) {filenames : List Str}
    (hfiles : ∀ filename ∈ filenames, (Path.parse filename).absolute = false ∧
      Path.parent ∉ Path.names filename) : p.Contained id filenames := by
  refine (contained_iff filenames).mpr (.inr ⟨h, fun filename hmem => .inl ?_⟩)
  obtain ⟨hrelative, hparent⟩ := hfiles filename (List.takeWhile_prefix _ |>.subset hmem)
  exact inside_denoted (parent_notMem_session (.inl rfl)) hrelative hparent

/-- The project in `/srv`. -/
def sample : Project where
  root := ["srv".toList]
  normal name hname := by
    rw [List.mem_singleton.mp hname]
    constructor <;> decide

/-- The upload of `../../api/server.py` writes outside of all session directories, and the ids `a`
and `a/` share theirs. -/
theorem upload_escapes :
    ¬ sample.Contained "a".toList ["../../api/server.py".toList] ∧
    ¬ sample.Apart "a".toList "a/".toList := by
  constructor
  · intro h
    have hwithin := h ⟨[], fun _ hfile => by cases hfile⟩
      ["srv".toList, "api".toList, "server.py".toList] (by decide +kernel)
    revert hwithin
    decide +kernel
  · intro h
    have hapart := h ["srv".toList, "updated".toList, "session_a".toList] (by decide +kernel)
      ["srv".toList, "updated".toList, "session_a".toList] (by decide +kernel)
    exact hapart.1 List.prefix_rfl

end Project

end EcommerceAgent.Files
