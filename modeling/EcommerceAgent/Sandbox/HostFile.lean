/-
# The host file of a sandbox tool

How `_execute_sandbox_tool` of `agent/tools/registry.py` finds and reads the file for
`read_file_content`.  The names of the request are checked before `resolve_path` strips the path
once more and follows the links of the session directory, so the file that is opened always lies
inside the directory, but it can have a name that the check would have refused.
-/
import EcommerceAgent.Sandbox.RelativePath
import EcommerceAgent.Lib.FileTree
import EcommerceAgent.Lib.Except

open EcommerceAgent.Lib EcommerceAgent.Files

namespace EcommerceAgent.Sandbox

/-- The file system of the host and the working directory.  A walk along more than `links` links
counts as one that never ends. -/
structure Host (β : Type) where
  tree : FileTree β
  links : ℕ
  cwd : Location
  canonical : tree.Canonical cwd

namespace Host

variable {β : Type} (host : Host β)

/-- `Path.resolve`. -/
def realpath (p : PurePath) : Except String Location :=
  if valid p then
    match host.tree.follow false host.links (if p.absolute then [] else host.cwd) p.parts with
    | some location => .ok location
    | none => .error "Symlink loop"
  else .error "embedded null byte"

/-- `resolve_path`. -/
def resolvePath (filename sessionDir : Str) : Except String Location :=
  if Text.strip filename = [] then .error "文件路径不能为空"
  else if sessionDir = [] then host.realpath (Path.parse (Text.strip filename))
  else
    (host.realpath (Path.parse sessionDir)).bind fun sessionPath =>
    (mapUpdatedReference (stripVirtualPrefix (slashes (Text.strip filename)))).bind fun path =>
    let inputPath := Path.parse path
    let sessionName := sessionPath.getLast?.getD []
    let resolved :=
      if inputPath.absolute then host.realpath inputPath
      else host.realpath ⟨true, sessionPath ++ normalizeSessionRelativePath path sessionName⟩
    resolved.bind fun location =>
    if Path.Inside sessionPath location then .ok location
    else .error ("路径越界：" ++ String.ofList filename ++ " 不在当前会话工作目录内")

/-- `Path.read_bytes`: the file that is opened, and its content. -/
def readBytes (location : Location) : Except String (Location × β) :=
  match host.tree.openFile host.links location with
  | some file => .ok file
  | none => .error "No such file"

/-- `_execute_sandbox_tool` for `read_file_content`, up to the file that it reads on the host.  No
session directory is an empty one. -/
def readInput (profile sessionDir filename : Str) : Except String (Location × β) :=
  if profile = "realtime".toList then .error "realtime profile cannot execute tools"
  else
    (validateRelativePath (Text.strip filename)).bind fun safeRelative =>
    if sessionDir = [] then .error "session directory is not available"
    else (host.resolvePath safeRelative sessionDir).bind host.readBytes

end Host

/-! ### What may be read -/

/-- A permitted file of a session directory. -/
structure Permitted (directory location : Location) : Prop where
  inside : Path.Inside directory location
  names : ∀ name ∈ location.drop directory.length, ¬Denied name

/-- The last checked part of a request, without the blanks at its end. -/
def lastName (filename : Str) : Str :=
  ((checkedParts (Text.strip filename)).getLast?.getD []).rdropWhile Text.isSpace

/-- The names that a request goes down from the session directory, after all its rewriting. -/
def requestParts (directory : Location) (filename : Str) : Except String (List Str) :=
  (validateRelativePath (Text.strip filename)).bind fun safeRelative =>
  (mapUpdatedReference (stripVirtualPrefix (slashes (Text.strip safeRelative)))).map fun path =>
    normalizeSessionRelativePath path (directory.getLast?.getD [])

namespace Host

variable {β : Type} (host : Host β)

/-- Whatever file the tool reads is permitted. -/
def ReadsPermitted (directory : Location) (profile sessionDir filename : Str) : Prop :=
  ∀ location content, host.readInput profile sessionDir filename = .ok (location, content) →
    Permitted directory location

/-- The tool reads no file. -/
def ReadsNothing (profile sessionDir filename : Str) : Prop :=
  ∀ location content, host.readInput profile sessionDir filename ≠ .ok (location, content)

/-- The last link of the request, if there is one, does not lead to a denied place of the directory;
and the last name, unless the request ends at a link, is not a denied one followed by blanks. -/
def Straight (directory : Location) (filename : Str) : Prop :=
  ∀ parts place tail, requestParts directory filename = .ok parts →
    host.tree.land host.links directory [] parts = some (place, tail) →
      (∀ name ∈ place.drop directory.length, ¬Denied name) ∧
        (tail ≠ [] → ¬Denied (lastName filename))

end Host

/-! ### The names of a request -/

section Request

variable {directory : Location} {filename path : Str} {parts : List Str}

lemma isProper_of_denied {name : Str} (h : Denied name) : FileTree.IsProper name := by
  refine ⟨?_, ?_, ?_⟩ <;> rintro rfl <;> revert h <;> decide

/-- `_map_updated_reference` keeps names at the end of the path. -/
lemma names_mapUpdatedReference (hslash : '\\' ∉ path)
    {result : Str} (h : mapUpdatedReference path = .ok result) :
    Path.names result <:+ Path.names path ∧
      (path.head? ≠ some '/' → result.head? ≠ some '/') := by
  have hplain : (Path.names path).map slashes = Path.names path :=
    map_slashes_of_plain fun name hname hmem =>
      hslash (Path.mem_of_mem_split (List.mem_of_mem_filter hname) hmem)
  have hproper : ∀ {trailing : List Str}, trailing <:+ Path.names path →
      ∀ part ∈ trailing, '/' ∉ part ∧ part ≠ [] ∧ part ≠ ['.'] := by
    intro trailing htrailing part hpart
    have hmem := htrailing.mem hpart
    exact ⟨Path.notMem_of_mem_names hmem, of_decide_eq_true (List.mem_filter.mp hmem).2⟩
  rw [mapUpdatedReference, hplain] at h
  dsimp only at h
  by_cases hupdated : (Path.names path).contains updatedName = true
  · rw [if_pos hupdated] at h
    set trailing := (Path.names path).drop ((Path.names path).idxOf updatedName + 1)
    have hdrop : trailing <:+ Path.names path := List.drop_suffix _ _
    have hkept : (if trailing.head?.any (sessionPrefix.isPrefixOf ·) then trailing.tail
        else trailing) <:+ Path.names path := by
      split_ifs
      · exact (List.tail_suffix _).trans hdrop
      · exact hdrop
    split_ifs at h with h1 h2 h2
    all_goals
      obtain rfl := Except.ok.inj h
      first | rw [if_pos h1] at hkept | rw [if_neg h1] at hkept
      rw [Path.names_joined (hproper hkept)]
      refine ⟨hkept, fun _ => Path.head?_joined fun part hpart => ?_⟩
      exact ⟨(hproper hkept part hpart).1, (hproper hkept part hpart).2.1⟩
  · rw [if_neg hupdated] at h
    obtain rfl := Except.ok.inj h
    exact ⟨List.suffix_refl _, id⟩

/-- `_normalize_session_relative_path` keeps names at the end of a relative path. -/
lemma normalizeSessionRelativePath_suffix (hrelative : path.head? ≠ some '/') (name : Str) :
    normalizeSessionRelativePath path name <:+ Path.names path := by
  have hdrop : path.dropWhile (· == '/') = path := by
    cases path with
    | nil => rfl
    | cons c cs =>
      have hc : c ≠ '/' := fun h => hrelative (by rw [h]; rfl)
      rw [List.dropWhile_cons_of_neg (by simpa using hc)]
  rw [normalizeSessionRelativePath, hdrop, sessionParts]
  split_ifs
  · exact List.drop_suffix _ _
  · exact List.tail_suffix _
  · exact List.suffix_refl _

/-- The checked parts without the last one, and the last one. -/
lemma exists_checkedParts {value : Str} (h : IsChecked (checkedParts value)) :
    ∃ front last, checkedParts value = front ++ [last] := by
  obtain ⟨c, cs, rest, hparts, -⟩ := h.first
  have hne : checkedParts value ≠ [] := by
    rw [hparts]
    exact List.cons_ne_nil _ _
  exact ⟨_, _, (List.dropLast_append_getLast hne).symm⟩

lemma notMem_strip_joined {parts : List Str} (h : ∀ part ∈ parts, '\\' ∉ part) :
    '\\' ∉ Text.strip (Path.joined parts) := by
  have hjoined : '\\' ∉ Path.joined parts := by
    induction parts with
    | nil => exact List.not_mem_nil
    | cons part rest ih =>
      obtain ⟨hpart, hrest⟩ := List.forall_mem_cons.mp h
      by_cases hnil : rest = []
      · rw [hnil, Path.joined, List.intercalate_singleton]
        exact hpart
      · rw [Path.joined_cons hnil, List.mem_append, List.mem_cons, not_or, not_or]
        exact ⟨hpart, by decide, ih hrest⟩
  exact fun hmem => hjoined ((Text.strip_sublist _).mem hmem)

/-- The names of a request were all checked, but for the last one. -/
lemma requestParts_ok (h : requestParts directory filename = .ok parts) :
    ∃ front, (∀ name ∈ front, ¬Denied name) ∧
      parts <:+ front ++ Path.names (lastName filename) ∧ '/' ∉ lastName filename := by
  obtain ⟨safe, hsafe, h⟩ := bind_eq_ok.mp h
  obtain ⟨rfl, hchecked, hallowed⟩ := validateRelativePath_ok hsafe
  obtain ⟨front, last, hparts⟩ := exists_checkedParts hchecked
  have hlast : lastName filename = last.rdropWhile Text.isSpace := by
    rw [lastName, hparts, List.getLast?_concat, Option.getD_some]
  rw [hparts] at hchecked hallowed h
  have hbackslash := notMem_strip_joined hchecked.backslash
  have hrelative := head?_strip_joined hchecked
  rw [slashes_of_notMem hbackslash, SessionFile.stripVirtualPrefix_relative hrelative] at h
  cases hpath : mapUpdatedReference (Text.strip (Path.joined (front ++ [last]))) with
  | error message =>
    rw [hpath] at h
    cases h
  | ok path =>
    rw [hpath] at h
    obtain rfl := Except.ok.inj h
    obtain ⟨hnames, hhead⟩ := names_mapUpdatedReference hbackslash hpath
    refine ⟨front.filter fun part => part ≠ [] ∧ part ≠ ['.'], fun name hname => ?_, ?_, ?_⟩
    · exact hallowed name (List.mem_append_left _ (List.mem_of_mem_filter hname))
    · rw [hlast, ← names_strip_joined hchecked]
      exact (normalizeSessionRelativePath_suffix (hhead hrelative) _).trans hnames
    · rw [hlast]
      intro hmem
      exact hchecked.slash last (List.mem_append_right _ (List.mem_singleton_self _))
        ((List.rdropWhile_prefix _ _).mem hmem)

end Request

/-! ### The file that is read -/

namespace Host

variable {β : Type} {host : Host β} {directory location : Location}
  {profile sessionDir filename : Str} {content : β}

lemma realpath_ok {p : PurePath} (h : host.realpath p = .ok location) :
    host.tree.follow false host.links (if p.absolute then [] else host.cwd) p.parts =
      some location := by
  rw [realpath] at h
  by_cases hvalid : valid p = true
  · rw [if_pos hvalid] at h
    split at h
    · rename_i hfollow
      rw [hfollow, Except.ok.inj h]
    · cases h
  · rw [if_neg hvalid] at h
    cases h

/-- A real path is canonical. -/
lemma canonical_of_realpath {p : PurePath} (h : host.realpath p = .ok location) :
    host.tree.Canonical location := by
  refine FileTree.canonical_of_follow ?_ (realpath_ok h)
  split_ifs
  · exact FileTree.canonical_nil
  · exact host.canonical

/-- What the rewritten request is resolved to. -/
lemma resolvePath_ok {safe : Str}
    (hdirectory : host.realpath (Path.parse sessionDir) = .ok directory)
    (hsession : sessionDir ≠ [])
    (hsafe : validateRelativePath (Text.strip filename) = .ok safe)
    (h : host.resolvePath safe sessionDir = .ok location) :
    ∃ parts, requestParts directory filename = .ok parts ∧
      host.tree.follow false host.links directory parts = some location ∧
      Path.Inside directory location := by
  obtain ⟨hjoined, hchecked, -⟩ := validateRelativePath_ok hsafe
  have hbackslash := notMem_strip_joined hchecked.backslash
  have hrelative := head?_strip_joined hchecked
  rw [← hjoined] at hbackslash hrelative
  rw [resolvePath] at h
  split_ifs at h
  rw [hdirectory] at h
  obtain ⟨directory', hsession, h⟩ := bind_eq_ok.mp h
  obtain rfl := Except.ok.inj hsession
  obtain ⟨path, hpath, h⟩ := bind_eq_ok.mp h
  have hrequest : requestParts directory filename =
      .ok (normalizeSessionRelativePath path (directory.getLast?.getD [])) := by
    rw [requestParts, hsafe]
    exact congrArg (Except.map _) hpath
  rw [slashes_of_notMem hbackslash, SessionFile.stripVirtualPrefix_relative hrelative] at hpath
  have hhead := (names_mapUpdatedReference hbackslash hpath).2 hrelative
  have habsolute : (Path.parse path).absolute = false := by simpa [Path.parse] using hhead
  dsimp only at h
  rw [habsolute, if_neg Bool.false_ne_true] at h
  obtain ⟨real, hreal, h⟩ := bind_eq_ok.mp h
  split_ifs at h with hinside
  obtain rfl := Except.ok.inj h
  have hwalk := realpath_ok hreal
  rw [if_pos rfl] at hwalk
  obtain ⟨k, hk, hwalk⟩ := FileTree.follow_append hwalk
  -- the directory is real already
  rw [(canonical_of_realpath hdirectory).follow_root] at hk
  obtain rfl := Option.some.inj hk
  exact ⟨_, hrequest, hwalk, hinside⟩

/-- Where a file that is read was found. -/
lemma readInput_ok (hdirectory : host.realpath (Path.parse sessionDir) = .ok directory)
    (h : host.readInput profile sessionDir filename = .ok (location, content)) :
    ∃ parts, requestParts directory filename = .ok parts ∧
      host.tree.follow false host.links directory parts = some location ∧
      Path.Inside directory location ∧ host.tree.node location = some (.file content) := by
  rw [readInput] at h
  by_cases hprofile : profile = "realtime".toList
  · rw [if_pos hprofile] at h
    cases h
  rw [if_neg hprofile] at h
  obtain ⟨safe, hsafe, h⟩ := bind_eq_ok.mp h
  by_cases hsession : sessionDir = []
  · rw [if_pos hsession] at h
    cases h
  rw [if_neg hsession] at h
  obtain ⟨real, hresolve, hread⟩ := bind_eq_ok.mp h
  obtain ⟨parts, hrequest, hwalk, hinside⟩ := resolvePath_ok hdirectory hsession hsafe hresolve
  have hcanonical := FileTree.canonical_of_follow (canonical_of_realpath hdirectory) hwalk
  rw [readBytes] at hread
  split at hread
  · rename_i hopen
    obtain rfl := Except.ok.inj hread
    obtain rfl := FileTree.openFile_of_canonical hcanonical hopen
    exact ⟨parts, hrequest, hwalk, hinside, (FileTree.openFile_eq_some hopen).2⟩
  · cases hread

/-- The file lies inside the session directory, and not at it. -/
lemma exists_below (hdirectory : host.realpath (Path.parse sessionDir) = .ok directory)
    (hdir : host.tree.node directory = some .dir)
    (h : host.readInput profile sessionDir filename = .ok (location, content)) :
    ∃ below, below ≠ [] ∧ location = directory ++ below := by
  obtain ⟨-, -, -, ⟨below, rfl⟩, hfile⟩ := readInput_ok hdirectory h
  refine ⟨below, ?_, rfl⟩
  rintro rfl
  rw [List.append_nil, hdir] at hfile
  cases hfile

/-- The file that is read is permitted exactly when the request is straight. -/
lemma permitted_iff (hdirectory : host.realpath (Path.parse sessionDir) = .ok directory)
    (hdir : host.tree.node directory = some .dir)
    (h : host.readInput profile sessionDir filename = .ok (location, content)) :
    Permitted directory location ↔ host.Straight directory filename := by
  obtain ⟨parts, hparts, hwalk, hinside, -⟩ := readInput_ok hdirectory h
  obtain ⟨below, hbelow, hlocation⟩ := exists_below hdirectory hdir h
  obtain ⟨front, hfront, hsuffix, hslash⟩ := requestParts_ok hparts
  rw [← List.append_nil directory] at hwalk
  obtain ⟨place, tail, hland, hplace⟩ := FileTree.land_of_follow hwalk
  constructor
  · intro hpermitted parts' place' tail' hparts' hland'
    rw [hparts] at hparts'
    obtain rfl := Except.ok.inj hparts'
    rw [hland] at hland'
    obtain ⟨rfl, rfl⟩ := Prod.mk.inj (Option.some.inj hland')
    constructor
    · intro name hname
      refine hpermitted.names name ?_
      rw [hplace, List.drop_append]
      exact List.mem_append_left _ hname
    · intro htail hdenied
      -- the request ends with the denied name, and so does the file
      have hproper := isProper_of_denied hdenied
      rw [Path.names_of_notMem hslash hproper.1 hproper.2.1] at hsuffix
      have hlast : location.getLast? = some (lastName filename) := by
        rcases List.eq_nil_or_concat parts with rfl | ⟨parts, last, rfl⟩
        · obtain ⟨-, rfl⟩ := Prod.mk.inj (Option.some.inj hland)
          exact absurd rfl htail
        · have hlast : last = lastName filename := by
            obtain ⟨before, hbefore⟩ := hsuffix
            simpa using congrArg List.getLast? hbefore
          rw [List.concat_eq_append, hlast] at hland
          rw [hplace, List.getLast?_append_of_ne_nil _ htail]
          exact (FileTree.getLast?_of_land hproper hland).resolve_left htail
      refine hpermitted.names (lastName filename) ?_ hdenied
      rw [hlocation, List.getLast?_append_of_ne_nil _ hbelow] at hlast
      rw [hlocation, List.drop_left]
      exact List.mem_of_getLast? hlast
  · intro hstraight
    obtain ⟨hleads, hlast⟩ := hstraight parts place tail hparts hland
    refine ⟨hinside, fun name hname hdenied => ?_⟩
    rw [hplace, List.drop_append] at hname
    rcases List.mem_append.mp hname with hname | hname
    · exact hleads name hname hdenied
    · have htail := List.mem_of_mem_drop hname
      have hmem := (FileTree.mem_of_land hland name htail).resolve_left List.not_mem_nil
      rcases List.mem_append.mp (hsuffix.mem hmem) with hchecked | hlastName
      · exact hfront name hchecked hdenied
      · have hproper := isProper_of_denied hdenied
        by_cases hempty : lastName filename = [] ∨ lastName filename = ['.']
        · rcases hempty with hempty | hempty <;> rw [hempty] at hlastName <;> cases hlastName
        · rw [not_or] at hempty
          rw [Path.names_of_notMem hslash hempty.1 hempty.2, List.mem_singleton] at hlastName
          rw [hlastName] at hdenied
          exact hlast (List.ne_nil_of_mem htail) hdenied

/-- The tool reads only permitted files of a session directory exactly when it reads nothing or the
request is straight. -/
theorem readsPermitted_iff (profile filename : Str)
    (hdirectory : host.realpath (Path.parse sessionDir) = .ok directory)
    (hdir : host.tree.node directory = some .dir) :
    host.ReadsPermitted directory profile sessionDir filename ↔
      host.ReadsNothing profile sessionDir filename ∨ host.Straight directory filename := by
  constructor
  · intro hpermitted
    by_cases hnothing : host.ReadsNothing profile sessionDir filename
    · exact .inl hnothing
    · rw [ReadsNothing] at hnothing
      obtain ⟨location, hlocation⟩ := not_forall.mp hnothing
      obtain ⟨content, hread⟩ := not_forall.mp hlocation
      have hread := not_not.mp hread
      exact .inr ((permitted_iff hdirectory hdir hread).mp (hpermitted location content hread))
  · rintro (hnothing | hstraight) location content hread
    · exact absurd hread (hnothing location content)
    · exact (permitted_iff hdirectory hdir hread).mpr hstraight

/-! ### Hosts without links -/

lemma realpath_of_noLinks (hlinks : ∀ location, ¬host.tree.IsLink location) {p : PurePath}
    (hparts : ∀ part ∈ p.parts, part ≠ [] ∧ part ≠ ['.']) :
    host.realpath p = Files.realpath host.cwd p := by
  rw [realpath, Files.realpath, FileTree.follow_of_noLinks hlinks hparts]

/-- Without links, `resolve_path` is the function of paths alone. -/
theorem resolvePath_of_noLinks (hlinks : ∀ location, ¬host.tree.IsLink location)
    (filename sessionDir : Str) :
    host.resolvePath filename sessionDir = Files.resolvePath host.cwd filename sessionDir := by
  have hnames : ∀ {text name : Str}, name ∈ Path.names text → name ≠ [] ∧ name ≠ ['.'] :=
    fun hname => of_decide_eq_true (List.mem_filter.mp hname).2
  have hparse : ∀ text : Str,
      host.realpath (Path.parse text) = Files.realpath host.cwd (Path.parse text) :=
    fun text => realpath_of_noLinks hlinks fun part hpart => hnames hpart
  rw [resolvePath, Files.resolvePath, hparse, hparse]
  split_ifs
  · rfl
  · rfl
  cases hsession : Files.realpath host.cwd (Path.parse sessionDir) with
  | error message => rfl
  | ok sessionPath =>
    have hreal : host.realpath (Path.parse sessionDir) = .ok sessionPath :=
      (hparse sessionDir).trans hsession
    have hbelow : ∀ path name : Str,
        host.realpath ⟨true, sessionPath ++ normalizeSessionRelativePath path name⟩ =
          Files.realpath host.cwd
            ⟨true, sessionPath ++ normalizeSessionRelativePath path name⟩ := by
      intro path name
      refine realpath_of_noLinks hlinks fun part hpart => ?_
      rcases List.mem_append.mp hpart with hdir | hrest
      · have hproper := (canonical_of_realpath hreal).proper part hdir
        exact ⟨hproper.1, hproper.2.1⟩
      · rw [normalizeSessionRelativePath, sessionParts] at hrest
        split_ifs at hrest
        · exact hnames (List.mem_of_mem_drop hrest)
        · exact hnames (List.mem_of_mem_tail hrest)
        · exact hnames hrest
    simp only [Except.bind, hparse, hbelow]

/-! ### A session with two files -/

/-- The session directory `/s` with a hidden file and notes. -/
def sessionTree : FileTree String :=
  ((FileTree.empty.put [] ['s'] .dir rfl (by decide)).put [['s']] ".env".toList
    (.file "TOKEN=1") rfl (by decide)).put [['s']] "notes.txt".toList (.file "notes") rfl
    (by decide)

/-- A host with this tree. -/
def sessionHost : Host String := ⟨sessionTree, 40, [], FileTree.canonical_nil⟩

/-- The notes are read. -/
theorem readsPermitted_notes : sessionHost.readInput "standard".toList "/s".toList
      "notes.txt".toList = .ok ([['s'], "notes.txt".toList], "notes") ∧
    sessionHost.ReadsPermitted [['s']] "standard".toList "/s".toList "notes.txt".toList := by
  have hparts : requestParts [['s']] "notes.txt".toList = .ok ["notes.txt".toList] := by
    decide +kernel
  have hland : sessionTree.land 40 [['s']] [] ["notes.txt".toList] =
      some ([['s']], ["notes.txt".toList]) := by
    decide +kernel
  refine ⟨by decide +kernel, (readsPermitted_iff "standard".toList "notes.txt".toList
    (by decide +kernel) (by decide +kernel)).mpr (.inr ?_)⟩
  intro parts place tail hparts' hland'
  obtain rfl := Except.ok.inj (hparts.symm.trans hparts')
  obtain ⟨rfl, rfl⟩ := Prod.mk.inj (Option.some.inj (hland.symm.trans hland'))
  decide +kernel

/-- A blank behind the name and a slash lead to the hidden file. -/
theorem not_readsPermitted_blank :
    ¬sessionHost.ReadsPermitted [['s']] "standard".toList "/s".toList ".env /".toList := by
  intro h
  have hread : sessionHost.readInput "standard".toList "/s".toList ".env /".toList =
      .ok ([['s'], ".env".toList], "TOKEN=1") := by
    decide +kernel
  exact (h _ _ hread).names ".env".toList (by decide +kernel) (by decide +kernel)

end Host

end EcommerceAgent.Sandbox
