/-
# Paths of session files

`resolve_path` of `utils/path_utils.py` on a POSIX system, without symbolic links.  A file of the
session directory has several spellings: relative, below a virtual directory, with the names of the
real directories in front, or absolute.  Four rewriting steps bring them to one form; since they
look for names wherever these stand, a path can trigger more of them than its spelling needs.
-/
import EcommerceAgent.Files.Sessions
import EcommerceAgent.Lib.Text

open EcommerceAgent.Lib

namespace EcommerceAgent.Files

/-! ### The four steps -/

/-- `text.replace("\\", "/")`. -/
def slashes (text : Str) : Str := text.map fun c => if c = '\\' then '/' else c

def updatedName : Str := "updated".toList

def outputName : Str := "output".toList

def sessionPrefix : Str := "session_".toList

/-- The directories `/workspace`, `/mnt/data` and `/home/user`. -/
def virtualDirs : List Location :=
  [["workspace".toList], ["mnt".toList, "data".toList], ["home".toList, "user".toList]]

/-- The text of an absolute path. -/
def absoluteText (location : Location) : Str := '/' :: Path.joined location

/-- `_strip_virtual_prefix`. -/
def stripVirtualPrefix (path : Str) : Str :=
  match virtualDirs.find? fun directory =>
      path = absoluteText directory ∨ absoluteText directory ++ ['/'] <+: path with
  | some directory => (path.drop (absoluteText directory).length).dropWhile (· == '/')
  | none => path

/-- `_map_updated_reference`. -/
def mapUpdatedReference (path : Str) : Except String Str :=
  let parts := (Path.names path).map slashes
  if parts.contains updatedName then
    let trailing := parts.drop (parts.idxOf updatedName + 1)
    let trailing := if trailing.head?.any (sessionPrefix.isPrefixOf ·) then trailing.tail
      else trailing
    if trailing = [] then .error "updated 路径必须指向已复制到会话目录内的具体文件"
    else .ok (Path.joined trailing)
  else .ok path

/-- The parts that `_normalize_session_relative_path` keeps. -/
def sessionParts (sessionName : Str) (parts : List Str) : List Str :=
  if parts.contains sessionName then parts.drop (parts.idxOf sessionName + 1)
  else if parts.head? = some outputName then parts.tail
  else parts

/-- `_normalize_session_relative_path`. -/
def normalizeSessionRelativePath (path sessionName : Str) : List Str :=
  sessionParts sessionName (Path.names (path.dropWhile (· == '/')))

/-- `Path.resolve` in a working directory. -/
def realpath (cwd : Location) (p : PurePath) : Except String Location :=
  if valid p then .ok (Path.walk (if p.absolute then [] else cwd) p.parts)
  else .error "embedded null byte"

/-- `resolve_path`.  All errors are `ValueError`s. -/
def resolvePath (cwd : Location) (filename sessionDir : Str) : Except String Location :=
  if Text.strip filename = [] then .error "文件路径不能为空"
  else if sessionDir = [] then realpath cwd (Path.parse (Text.strip filename))
  else
    (realpath cwd (Path.parse sessionDir)).bind fun sessionPath =>
    (mapUpdatedReference (stripVirtualPrefix (slashes (Text.strip filename)))).bind fun path =>
    let inputPath := Path.parse path
    let sessionName := sessionPath.getLast?.getD []
    let resolved :=
      if inputPath.absolute then realpath cwd inputPath
      else realpath cwd ⟨true, sessionPath ++ normalizeSessionRelativePath path sessionName⟩
    resolved.bind fun location =>
    if Path.Inside sessionPath location then .ok location
    else .error ("路径越界：" ++ String.ofList filename ++ " 不在当前会话工作目录内")

/-! ### Spellings of a file -/

/-- A name in a directory, without the other separator. -/
structure IsPlain (name : Str) : Prop extends IsName name where
  backslash : '\\' ∉ name

/-- A session directory. -/
structure SessionDir where
  location : Location
  plain : ∀ name ∈ location, IsPlain name

namespace SessionDir

/-- The text of the directory. -/
def text (d : SessionDir) : Str := absoluteText d.location

/-- The name of the directory. -/
def name (d : SessionDir) : Str := d.location.getLast?.getD []

/-- The steps rewrite absolute paths below the directory. -/
def Rewritten (d : SessionDir) : Prop :=
  (∃ directory ∈ virtualDirs, directory <+: d.location) ∨ updatedName ∈ d.location

end SessionDir

/-- A path below a session directory, without the special names; it does not end with a blank. -/
structure SessionFile (d : SessionDir) where
  parts : List Str
  nonempty : parts ≠ []
  plain : ∀ name ∈ parts, IsPlain name
  updated : updatedName ∉ parts
  output : outputName ∉ parts
  own : d.name ∉ parts
  trailing : ∀ c, (Path.joined parts).getLast? = some c → Text.isSpace c = false

/-- The documented spellings of a session file. -/
inductive Spelling
  | relative
  | virtual (directory : Location) (known : directory ∈ virtualDirs)
  | output
  | updated
  | updatedSession (id : Str) (slash : '/' ∉ id) (backslash : '\\' ∉ id)
  | absolute

namespace SessionFile

variable {d : SessionDir} (r : SessionFile d)

/-- The text of a spelling with slashes. -/
def text : Spelling → Str
  | .relative => Path.joined r.parts
  | .virtual directory _ => absoluteText directory ++ '/' :: Path.joined r.parts
  | .output => outputName ++ '/' :: (d.name ++ '/' :: Path.joined r.parts)
  | .updated => updatedName ++ '/' :: Path.joined r.parts
  | .updatedSession id _ _ =>
    updatedName ++ '/' :: ((sessionPrefix ++ id) ++ '/' :: Path.joined r.parts)
  | .absolute => absoluteText (d.location ++ r.parts)

/-- The text is a spelling, with slashes or backslashes and with surrounding blanks. -/
def Spells (s : Spelling) (filename : Str) : Prop :=
  ∃ before body after, filename = before ++ body ++ after ∧
    (∀ c ∈ before, Text.isSpace c = true) ∧ (∀ c ∈ after, Text.isSpace c = true) ∧
    slashes body = r.text s

/-- Every text of the spelling names the file. -/
def Resolves (s : Spelling) : Prop :=
  ∀ cwd filename, r.Spells s filename →
    resolvePath cwd filename d.text = .ok (d.location ++ r.parts)

/-- The file does not begin like the copy of a session's uploads. -/
def NoSession : Prop := ¬ r.parts.head?.any (sessionPrefix.isPrefixOf ·) = true

/-- The spelling does not look like another one: a relative path does not begin with a blank, a path
below `updated` does not begin like the uploads of a session, and an absolute path does not go
through a virtual directory below its session directory.  The name of a directory whose paths are
rewritten stands for the directory alone. -/
def Clear : Spelling → Prop
  | .relative => ∀ c, (Path.joined r.parts).head? = some c → Text.isSpace c = false
  | .virtual _ _ => True
  | .output => d.name ≠ outputName ∧ (d.name = updatedName → r.NoSession)
  | .updated => r.NoSession
  | .updatedSession _ _ _ => True
  | .absolute =>
    (∀ directory ∈ virtualDirs, directory <+: d.location ++ r.parts →
      directory <+: d.location) ∧
    (d.Rewritten → d.name ∉ d.location.dropLast) ∧ (d.name = updatedName → r.NoSession)

end SessionFile

/-! ### Blanks and separators -/

/-- Blanks around a text are stripped. -/
lemma strip_surrounded {before body after : Str} (hbefore : ∀ c ∈ before, Text.isSpace c = true)
    (hafter : ∀ c ∈ after, Text.isSpace c = true)
    (hhead : ∀ c, body.head? = some c → Text.isSpace c = false)
    (hlast : ∀ c, body.getLast? = some c → Text.isSpace c = false) (hbody : body ≠ []) :
    Text.strip (before ++ body ++ after) = body := by
  have hfront : (before ++ body ++ after).dropWhile Text.isSpace = body ++ after := by
    rw [List.append_assoc, List.dropWhile_append_of_pos hbefore]
    cases body with
    | nil => exact absurd rfl hbody
    | cons c cs => rw [List.cons_append, List.dropWhile_cons_of_neg (by simp [hhead c rfl])]
  have hback : (after.reverse ++ body.reverse).dropWhile Text.isSpace = body.reverse := by
    rw [List.dropWhile_append_of_pos fun c hc => hafter c (List.mem_reverse.mp hc)]
    cases hrev : body.reverse with
    | nil => exact absurd (List.reverse_eq_nil_iff.mp hrev) hbody
    | cons c cs =>
      have hc : Text.isSpace c = false := by
        refine hlast c ?_
        rw [← List.head?_reverse, hrev]
        rfl
      rw [List.dropWhile_cons_of_neg (by simp [hc])]
  rw [Text.strip, hfront, List.rdropWhile, List.reverse_append, hback, List.reverse_reverse]

lemma isSpace_slash (c : Char) : Text.isSpace (if c = '\\' then '/' else c) = Text.isSpace c := by
  split
  · rename_i h
    rw [h]
    decide
  · rfl

/-- A text is stripped to its spelling. -/
lemma slashes_strip {before body after text : Str} (hbefore : ∀ c ∈ before, Text.isSpace c = true)
    (hafter : ∀ c ∈ after, Text.isSpace c = true) (hbody : slashes body = text)
    (hhead : ∀ c, text.head? = some c → Text.isSpace c = false)
    (hlast : ∀ c, text.getLast? = some c → Text.isSpace c = false) (htext : text ≠ []) :
    slashes (Text.strip (before ++ body ++ after)) = text := by
  subst hbody
  rw [strip_surrounded hbefore hafter _ _ _]
  · intro c hc
    rw [← isSpace_slash]
    refine hhead _ ?_
    rw [slashes, List.head?_map, hc]
    rfl
  · intro c hc
    rw [← isSpace_slash]
    refine hlast _ ?_
    rw [slashes, List.getLast?_map, hc]
    rfl
  · rintro rfl
    exact htext rfl

/-- Without backslashes nothing changes. -/
lemma slashes_of_notMem {text : Str} (h : '\\' ∉ text) : slashes text = text := by
  rw [slashes]
  conv_rhs => rw [← List.map_id text]
  refine List.map_congr_left fun c hc => if_neg ?_
  rintro rfl
  exact h hc

/-! ### Names -/

lemma IsPlain.parts {name : Str} (h : IsPlain name) : '/' ∉ name ∧ name ≠ [] ∧ name ≠ ['.'] :=
  ⟨h.slash, h.empty, h.dot⟩

/-- The steps meet plain names. -/
lemma map_slashes_of_plain {parts : List Str} (h : ∀ name ∈ parts, '\\' ∉ name) :
    parts.map slashes = parts := by
  conv_rhs => rw [← List.map_id parts]
  exact List.map_congr_left fun name hname => slashes_of_notMem (h name hname)

lemma names_joined {parts : List Str} (h : ∀ name ∈ parts, IsPlain name) :
    Path.names (Path.joined parts) = parts :=
  Path.names_joined fun name hname => (h name hname).parts

lemma valid_of_plain {parts : List Str} (h : ∀ name ∈ parts, IsPlain name) (absolute : Bool) :
    valid ⟨absolute, parts⟩ = true :=
  Project.valid_iff.mpr fun name hname => (h name hname).null

/-- A location of plain names is resolved to itself. -/
lemma realpath_of_plain {location : Location} (h : ∀ name ∈ location, IsPlain name)
    (cwd : Location) : realpath cwd ⟨true, location⟩ = .ok location := by
  have hparent : Path.parent ∉ location := fun hmem => (h _ hmem).parent rfl
  rw [realpath, if_pos (valid_of_plain h true), if_pos rfl, Path.walk_of_notMem hparent,
    List.nil_append]

lemma parse_absoluteText {location : Location} (h : ∀ name ∈ location, IsPlain name) :
    Path.parse (absoluteText location) = ⟨true, location⟩ := by
  rw [Path.parse, absoluteText, Path.names_slash, names_joined h]
  rfl

namespace SessionFile

variable {d : SessionDir} (r : SessionFile d)

lemma plain_append : ∀ name ∈ d.location ++ r.parts, IsPlain name := by
  intro name hname
  rcases List.mem_append.mp hname with hdir | hfile
  · exact d.plain name hdir
  · exact r.plain name hfile

/-- What the rewritten path is resolved to. -/
lemma resolvePath_eq {cwd : Location} {filename path : Str} (hne : Text.strip filename ≠ [])
    (hpath : mapUpdatedReference (stripVirtualPrefix (slashes (Text.strip filename))) = .ok path)
    (hparts : (path = absoluteText (d.location ++ r.parts)) ∨
      path.head? ≠ some '/' ∧ sessionParts d.name (Path.names path) = r.parts) :
    resolvePath cwd filename d.text = .ok (d.location ++ r.parts) := by
  have hdir : realpath cwd (Path.parse d.text) = .ok d.location := by
    rw [SessionDir.text, parse_absoluteText d.plain, realpath_of_plain d.plain]
  have hinside : Path.Inside d.location (d.location ++ r.parts) := List.prefix_append _ _
  have htext : d.text ≠ [] := List.cons_ne_nil _ _
  rw [resolvePath, if_neg hne, if_neg htext, hdir, hpath]
  simp only [Except.bind]
  rcases hparts with rfl | ⟨hrelative, hparts⟩
  · rw [parse_absoluteText r.plain_append, if_pos rfl, realpath_of_plain r.plain_append]
    simp only [if_pos hinside]
  · have habsolute : (Path.parse path).absolute = false := by
      simpa [Path.parse] using hrelative
    have hdrop : path.dropWhile (· == '/') = path := by
      cases path with
      | nil => rfl
      | cons c cs =>
        have hc : c ≠ '/' := fun h => hrelative (by rw [h]; rfl)
        rw [List.dropWhile_cons_of_neg (by simpa using hc)]
    have hnormal : normalizeSessionRelativePath path (d.location.getLast?.getD []) = r.parts := by
      rw [normalizeSessionRelativePath, hdrop]
      exact hparts
    rw [habsolute, if_neg Bool.false_ne_true, hnormal, realpath_of_plain r.plain_append]
    simp only [if_pos hinside]

/-! ### What each step does -/

/-- A text that does not begin with a slash has no virtual prefix. -/
lemma stripVirtualPrefix_relative {path : Str} (h : path.head? ≠ some '/') :
    stripVirtualPrefix path = path := by
  have hnone : (virtualDirs.find? fun directory =>
      path = absoluteText directory ∨ absoluteText directory ++ ['/'] <+: path) = none := by
    refine List.find?_eq_none.mpr fun directory _ hmatch => ?_
    rcases of_decide_eq_true hmatch with rfl | ⟨rest, rfl⟩
    · exact h rfl
    · exact h rfl
  rw [stripVirtualPrefix, hnone]

lemma plain_virtual {directory : Location} (h : directory ∈ virtualDirs) :
    directory ≠ [] ∧ ∀ name ∈ directory, IsPlain name := by
  have hname : ∀ name : Str, '/' ∉ name → null ∉ name → '\\' ∉ name → 2 ≤ name.length →
      name ≠ Path.parent → IsPlain name := by
    intro name hslash hnull hbackslash hlength hparent
    refine ⟨⟨hslash, hnull, ?_, ?_, hparent⟩, hbackslash⟩
    · rintro rfl
      simp at hlength
    · rintro rfl
      simp at hlength
  simp only [virtualDirs, List.mem_cons, List.not_mem_nil, or_false] at h
  rcases h with rfl | rfl | rfl
  · exact ⟨by simp, fun name hmem => by
      obtain rfl := List.mem_singleton.mp hmem
      exact hname _ (by decide) (by decide) (by decide) (by decide) (by decide)⟩
  · refine ⟨by simp, fun name hmem => ?_⟩
    rcases List.mem_cons.mp hmem with rfl | hmem
    · exact hname _ (by decide) (by decide) (by decide) (by decide) (by decide)
    · obtain rfl := List.mem_singleton.mp hmem
      exact hname _ (by decide) (by decide) (by decide) (by decide) (by decide)
  · refine ⟨by simp, fun name hmem => ?_⟩
    rcases List.mem_cons.mp hmem with rfl | hmem
    · exact hname _ (by decide) (by decide) (by decide) (by decide) (by decide)
    · obtain rfl := List.mem_singleton.mp hmem
      exact hname _ (by decide) (by decide) (by decide) (by decide) (by decide)

/-- A path is below a virtual directory by its text exactly when it is by its names. -/
lemma matches_iff {directory location : Location} (hdirectory : directory ∈ virtualDirs)
    (hlocation : ∀ name ∈ location, IsPlain name) :
    (absoluteText location = absoluteText directory ∨
      absoluteText directory ++ ['/'] <+: absoluteText location) ↔ directory <+: location := by
  obtain ⟨hne, hplain⟩ := plain_virtual hdirectory
  constructor
  · rintro (heq | ⟨rest, hrest⟩)
    · have hnames := congrArg Path.names heq
      rw [absoluteText, absoluteText, Path.names_slash, Path.names_slash, names_joined hlocation,
        names_joined hplain] at hnames
      exact hnames ▸ List.prefix_refl _
    · have hnames := congrArg Path.names hrest
      rw [absoluteText, absoluteText, List.cons_append, List.cons_append, List.append_assoc,
        List.singleton_append, Path.names_slash, Path.names_append, Path.names_slash,
        names_joined hlocation, names_joined hplain] at hnames
      exact ⟨_, hnames⟩
  · rintro ⟨rest, rfl⟩
    cases rest with
    | nil => exact .inl (by rw [List.append_nil])
    | cons name rest =>
      refine .inr ⟨Path.joined (name :: rest), ?_⟩
      rw [absoluteText, absoluteText, Path.joined_append hne (List.cons_ne_nil _ _)]
      simp

/-- What is left of a path below a virtual directory. -/
lemma stripVirtualPrefix_absolute {location : Location}
    (hlocation : ∀ name ∈ location, IsPlain name) :
    stripVirtualPrefix (absoluteText location) =
      match virtualDirs.find? fun directory => directory <+: location with
      | some directory => Path.joined (location.drop directory.length)
      | none => absoluteText location := by
  have hfind : (virtualDirs.find? fun directory => absoluteText location = absoluteText directory ∨
      absoluteText directory ++ ['/'] <+: absoluteText location) =
      virtualDirs.find? fun directory => directory <+: location := by
    have hcongr : ∀ dirs : List Location, dirs ⊆ virtualDirs →
        (dirs.find? fun directory => decide (absoluteText location = absoluteText directory ∨
          absoluteText directory ++ ['/'] <+: absoluteText location)) =
        dirs.find? fun directory => decide (directory <+: location) := by
      intro dirs hdirs
      induction dirs with
      | nil => rfl
      | cons directory dirs ih =>
        have hmatch := matches_iff (hdirs List.mem_cons_self) hlocation
        rw [List.find?_cons, List.find?_cons, decide_eq_decide.mpr hmatch,
          ih fun x hx => hdirs (List.mem_cons_of_mem _ hx)]
    exact hcongr virtualDirs (List.Subset.refl _)
  rw [stripVirtualPrefix, hfind]
  cases hdirectory : virtualDirs.find? fun directory => directory <+: location with
  | none => rfl
  | some directory =>
    have hmem := List.mem_of_find?_eq_some hdirectory
    obtain ⟨rest, rfl⟩ : directory <+: location := by
      simpa using List.find?_some hdirectory
    obtain ⟨hne, -⟩ := plain_virtual hmem
    have hrest : ∀ name ∈ rest, '/' ∉ name ∧ name ≠ [] := fun name hname =>
      have hplain := hlocation name (List.mem_append_right _ hname)
      ⟨hplain.slash, hplain.empty⟩
    simp only [List.drop_left]
    cases rest with
    | nil => simp [absoluteText, Path.joined]
    | cons name rest =>
      have htext : absoluteText (directory ++ name :: rest) =
          absoluteText directory ++ '/' :: Path.joined (name :: rest) := by
        rw [absoluteText, absoluteText, Path.joined_append hne (List.cons_ne_nil _ _)]
        rfl
      rw [htext, List.drop_left, List.dropWhile_cons_of_pos (by simp)]
      have hhead := Path.head?_joined hrest
      cases hjoined : Path.joined (name :: rest) with
      | nil => rfl
      | cons c cs =>
        have hc : c ≠ '/' := fun h => hhead (by rw [hjoined, h]; rfl)
        rw [List.dropWhile_cons_of_neg (by simpa using hc)]

/-- The part after the first occurrence of a name. -/
lemma drop_idxOf {name : Str} {before after : List Str} (h : name ∉ before) :
    (before ++ name :: after).drop ((before ++ name :: after).idxOf name + 1) = after := by
  rw [List.idxOf_append_of_notMem h, List.idxOf_cons_self, Nat.add_zero]
  simp

/-- A path without the directory `updated` is not changed. -/
lemma mapUpdatedReference_of_notMem {path : Str} {parts : List Str}
    (hnames : Path.names path = parts) (hplain : ∀ name ∈ parts, '\\' ∉ name)
    (h : updatedName ∉ parts) : mapUpdatedReference path = .ok path := by
  rw [mapUpdatedReference, hnames, map_slashes_of_plain hplain, if_neg (by simpa using h)]

/-- A path through the directory `updated`. -/
lemma mapUpdatedReference_of_mem {path : Str} {before after : List Str}
    (hnames : Path.names path = before ++ updatedName :: after)
    (hplain : ∀ name ∈ before ++ updatedName :: after, '\\' ∉ name) (hbefore : updatedName ∉ before)
    {trailing : List Str}
    (htrailing : (if after.head?.any (sessionPrefix.isPrefixOf ·) then after.tail else after)
      = trailing) (hne : trailing ≠ []) :
    mapUpdatedReference path = .ok (Path.joined trailing) := by
  rw [mapUpdatedReference, hnames, map_slashes_of_plain hplain, if_pos (by simp),
    drop_idxOf hbefore]
  simp only [htrailing, if_neg hne]

/-! ### The spellings -/

/-- The parts of the file stay as they are. -/
lemma sessionParts_file : sessionParts d.name r.parts = r.parts := by
  have houtput : r.parts.head? ≠ some outputName :=
    fun h => r.output (List.mem_of_mem_head? h)
  rw [sessionParts, if_neg (by simpa using r.own), if_neg houtput]

/-- The last part of a directory is its name. -/
lemma eq_name_of_suffix {front : Location} {last : Str} (h : front ++ [last] <:+ d.location) :
    last = d.name ∧ front <:+ d.location.dropLast := by
  obtain ⟨above, habove⟩ := h
  rw [← List.append_assoc] at habove
  refine ⟨?_, above, ?_⟩
  · rw [SessionDir.name, ← habove, List.getLast?_concat]
    rfl
  · rw [← habove, List.dropLast_concat]

/-- Parts of the directory in front of the file are cut at the directory's name. -/
lemma sessionParts_suffix {suffix : Location} (hsuffix : suffix <:+ d.location)
    (hname : d.name ∉ d.location.dropLast) :
    sessionParts d.name (suffix ++ r.parts) = r.parts := by
  rcases List.eq_nil_or_concat suffix with rfl | ⟨front, last, rfl⟩
  · exact r.sessionParts_file
  · rw [List.concat_eq_append] at hsuffix ⊢
    obtain ⟨rfl, hfront⟩ := eq_name_of_suffix hsuffix
    have hnot : d.name ∉ front := fun h => hname (hfront.subset h)
    rw [List.append_assoc, List.singleton_append, sessionParts,
      if_pos (by simp), drop_idxOf hnot]

lemma head?_joined_ne {parts : List Str} (h : ∀ name ∈ parts, IsPlain name) :
    (Path.joined parts).head? ≠ some '/' :=
  Path.head?_joined fun name hname => ⟨(h name hname).slash, (h name hname).empty⟩

/-- A path whose names end with the last names of the directory and the file. -/
lemma exists_path_of_suffix {path : Str} {suffix : Location}
    (hnames : Path.names path = suffix ++ r.parts) (hsuffix : suffix <:+ d.location)
    (hname : d.name ∉ d.location.dropLast) (hupdated : d.name = updatedName → r.NoSession)
    (hrelative : path.head? ≠ some '/' ∨ updatedName ∈ suffix) :
    ∃ path', mapUpdatedReference path = .ok path' ∧ path'.head? ≠ some '/' ∧
      sessionParts d.name (Path.names path') = r.parts := by
  have hplain : ∀ name ∈ suffix ++ r.parts, IsPlain name := by
    intro name hmem
    rcases List.mem_append.mp hmem with hdir | hfile
    · exact d.plain name (hsuffix.subset hdir)
    · exact r.plain name hfile
  have hbackslash : ∀ name ∈ suffix ++ r.parts, '\\' ∉ name :=
    fun name hmem => (hplain name hmem).backslash
  by_cases hmem : updatedName ∈ suffix
  · obtain ⟨before, after, rfl, hbefore⟩ := List.eq_append_cons_of_mem hmem
    rw [List.append_assoc, List.cons_append] at hnames hbackslash hplain
    have hafter : after <:+ d.location :=
      ((List.suffix_cons updatedName after).trans (List.suffix_append before _)).trans hsuffix
    -- what follows `updated`, without the directory of a session's uploads
    obtain ⟨rest, hrest, htrailing⟩ : ∃ rest, rest <:+ d.location ∧
        (if (after ++ r.parts).head?.any (sessionPrefix.isPrefixOf ·) then (after ++ r.parts).tail
          else after ++ r.parts) = rest ++ r.parts := by
      cases after with
      | nil =>
        have hlast : updatedName = d.name := (eq_name_of_suffix hsuffix).1
        exact ⟨[], List.nil_suffix, if_neg (hupdated hlast.symm)⟩
      | cons first after =>
        by_cases hsession : (sessionPrefix.isPrefixOf first) = true
        · exact ⟨after, (List.suffix_cons first after).trans hafter, if_pos hsession⟩
        · exact ⟨first :: after, hafter, if_neg hsession⟩
    have hne : rest ++ r.parts ≠ [] := fun h => r.nonempty (List.append_eq_nil_iff.mp h).2
    have hrestPlain : ∀ name ∈ rest ++ r.parts, IsPlain name := by
      intro name hmem
      rcases List.mem_append.mp hmem with hdir | hfile
      · exact d.plain name (hrest.subset hdir)
      · exact r.plain name hfile
    refine ⟨_, mapUpdatedReference_of_mem hnames hbackslash hbefore htrailing hne,
      head?_joined_ne hrestPlain, ?_⟩
    rw [names_joined hrestPlain, r.sessionParts_suffix hrest hname]
  · have hnot : updatedName ∉ suffix ++ r.parts := by
      rw [List.mem_append, not_or]
      exact ⟨hmem, r.updated⟩
    refine ⟨path, mapUpdatedReference_of_notMem hnames hbackslash hnot,
      hrelative.resolve_right hmem, ?_⟩
    rw [hnames, r.sessionParts_suffix hsuffix hname]

/-- A virtual directory is recognised in front of anything. -/
lemma find?_virtualDirs {directory : Location} (known : directory ∈ virtualDirs)
    (rest : Location) :
    (virtualDirs.find? fun other => other <+: directory ++ rest) = some directory := by
  have hwm : "workspace".toList ≠ "mnt".toList := by decide
  have hwh : "workspace".toList ≠ "home".toList := by decide
  have hmh : "mnt".toList ≠ "home".toList := by decide
  have hother : ∀ {a b : Str} {l m : Location}, a ≠ b → decide (a :: l <+: b :: m) ≠ true :=
    fun hab h => hab (List.cons_prefix_cons.1 (of_decide_eq_true h)).1
  have hself : ∀ l : Location, decide (l <+: l ++ rest) = true :=
    fun l => decide_eq_true (List.prefix_append l rest)
  simp only [virtualDirs, List.mem_cons, List.not_mem_nil, or_false] at known
  rcases known with rfl | rfl | rfl
  · rw [virtualDirs, List.find?_cons_of_pos]
    exact hself _
  · rw [virtualDirs, List.find?_cons_of_neg, List.find?_cons_of_pos]
    · exact hself _
    · exact hother hwm
  · rw [virtualDirs, List.find?_cons_of_neg, List.find?_cons_of_neg, List.find?_cons_of_pos]
    · exact hself _
    · exact hother hmh
    · exact hother hwh

lemma head?_ne {c : Char} {cs : Str} (hc : c ≠ '/') : (c :: cs).head? ≠ some '/' :=
  fun h => hc (Option.some.inj h)

lemma backslash_notMem : ∀ name ∈ r.parts, '\\' ∉ name :=
  fun name hname => (r.plain name hname).backslash

/-- The file's own path is left as it is. -/
lemma mapUpdatedReference_file :
    mapUpdatedReference (Path.joined r.parts) = .ok (Path.joined r.parts) :=
  mapUpdatedReference_of_notMem (names_joined r.plain) r.backslash_notMem r.updated

lemma sessionParts_names : (Path.joined r.parts).head? ≠ some '/' ∧
    sessionParts d.name (Path.names (Path.joined r.parts)) = r.parts :=
  ⟨head?_joined_ne r.plain, by rw [names_joined r.plain, r.sessionParts_file]⟩

/-- A virtual directory is cut off. -/
lemma exists_path_virtual {directory : Location} (known : directory ∈ virtualDirs) :
    ∃ path,
      mapUpdatedReference (stripVirtualPrefix (r.text (.virtual directory known))) = .ok path ∧
      path.head? ≠ some '/' ∧ sessionParts d.name (Path.names path) = r.parts := by
  obtain ⟨hne, hplain⟩ := plain_virtual known
  have htext : r.text (.virtual directory known) = absoluteText (directory ++ r.parts) := by
    rw [text, absoluteText, absoluteText, Path.joined_append hne r.nonempty]
    rfl
  have hboth : ∀ name ∈ directory ++ r.parts, IsPlain name := by
    intro name hname
    rcases List.mem_append.mp hname with hdir | hname
    · exact hplain name hdir
    · exact r.plain name hname
  rw [htext, stripVirtualPrefix_absolute hboth, find?_virtualDirs known]
  simp only [List.drop_left]
  exact ⟨_, r.mapUpdatedReference_file, r.sessionParts_names⟩

/-- `output/` and the session's name stay in front and are left out later. -/
lemma exists_path_output (houtput : d.name ≠ outputName)
    (hupdated : d.name = updatedName → r.NoSession) :
    ∃ path, mapUpdatedReference (stripVirtualPrefix (r.text .output)) = .ok path ∧
      path.head? ≠ some '/' ∧ sessionParts d.name (Path.names path) = r.parts := by
  have hhead : (r.text .output).head? ≠ some '/' := head?_ne (by decide)
  have hnames : Path.names (r.text .output) = outputName :: (Path.names d.name ++ r.parts) := by
    rw [text, Path.names_append, Path.names_append, names_joined r.plain]
    rfl
  rw [stripVirtualPrefix_relative hhead]
  by_cases hroot : d.location = []
  · -- the name of the root directory is empty
    have hempty : d.name = [] := by rw [SessionDir.name, hroot]; rfl
    rw [hempty] at hnames
    have hnames : Path.names (r.text .output) = outputName :: r.parts := hnames
    have hbackslash : ∀ name ∈ outputName :: r.parts, '\\' ∉ name :=
      List.forall_mem_cons.mpr ⟨by decide, r.backslash_notMem⟩
    have hnot : updatedName ∉ outputName :: r.parts := by
      rw [List.mem_cons, not_or]
      exact ⟨by decide, r.updated⟩
    have hown : d.name ∉ outputName :: r.parts := by
      rw [List.mem_cons, not_or]
      exact ⟨houtput, r.own⟩
    refine ⟨_, mapUpdatedReference_of_notMem hnames hbackslash hnot, hhead, ?_⟩
    rw [hnames, sessionParts, if_neg (by simpa using hown), List.head?_cons, if_pos rfl,
      List.tail_cons]
  · obtain ⟨front, last, hlocation⟩ := (List.eq_nil_or_concat d.location).resolve_left hroot
    have hname : d.name = last := by
      rw [SessionDir.name, hlocation, List.concat_eq_append, List.getLast?_concat]
      rfl
    have hplain : IsPlain d.name := by
      rw [hname]
      exact d.plain last (by simp [hlocation])
    rw [Path.names_of_notMem hplain.slash hplain.empty hplain.dot] at hnames
    have hnames : Path.names (r.text .output) = [outputName] ++ d.name :: r.parts := hnames
    have hbackslash : ∀ name ∈ [outputName] ++ d.name :: r.parts, '\\' ∉ name :=
      List.forall_mem_cons.mpr
        ⟨by decide, List.forall_mem_cons.mpr ⟨hplain.backslash, r.backslash_notMem⟩⟩
    by_cases hnameUpdated : d.name = updatedName
    · rw [hnameUpdated] at hnames hbackslash
      refine ⟨_, mapUpdatedReference_of_mem hnames hbackslash (by decide)
        (if_neg (hupdated hnameUpdated)) r.nonempty, r.sessionParts_names⟩
    · have hnot : updatedName ∉ [outputName] ++ d.name :: r.parts := by
        rw [List.singleton_append, List.mem_cons, List.mem_cons, not_or, not_or]
        exact ⟨by decide, Ne.symm hnameUpdated, r.updated⟩
      refine ⟨_, mapUpdatedReference_of_notMem hnames hbackslash hnot, hhead, ?_⟩
      rw [hnames, sessionParts, if_pos (by simp),
        drop_idxOf (by simpa using houtput)]

/-- `updated/` is cut off. -/
lemma exists_path_updated (h : r.NoSession) :
    ∃ path, mapUpdatedReference (stripVirtualPrefix (r.text .updated)) = .ok path ∧
      path.head? ≠ some '/' ∧ sessionParts d.name (Path.names path) = r.parts := by
  have hhead : (r.text .updated).head? ≠ some '/' := head?_ne (by decide)
  have hnames : Path.names (r.text .updated) = [] ++ updatedName :: r.parts := by
    rw [text, Path.names_append, names_joined r.plain]
    rfl
  have hbackslash : ∀ name ∈ [] ++ updatedName :: r.parts, '\\' ∉ name :=
    List.forall_mem_cons.mpr ⟨by decide, r.backslash_notMem⟩
  rw [stripVirtualPrefix_relative hhead]
  exact ⟨_, mapUpdatedReference_of_mem hnames hbackslash List.not_mem_nil (if_neg h) r.nonempty,
    r.sessionParts_names⟩

/-- The directory of a session's uploads is cut off as well. -/
lemma exists_path_updatedSession {id : Str} (slash : '/' ∉ id) (backslash : '\\' ∉ id) :
    ∃ path, mapUpdatedReference
        (stripVirtualPrefix (r.text (.updatedSession id slash backslash))) = .ok path ∧
      path.head? ≠ some '/' ∧ sessionParts d.name (Path.names path) = r.parts := by
  have hhead : (r.text (.updatedSession id slash backslash)).head? ≠ some '/' :=
    head?_ne (by decide)
  have hsession : Path.names (sessionPrefix ++ id) = [sessionPrefix ++ id] := by
    have hlength : sessionPrefix.length = 8 := by decide
    have hslash : '/' ∉ sessionPrefix ++ id := by
      rw [List.mem_append, not_or]
      exact ⟨by decide, slash⟩
    refine Path.names_of_notMem hslash (List.ne_nil_of_length_pos ?_) fun hdot => ?_
    · rw [List.length_append]
      omega
    · have hdots := congrArg List.length hdot
      rw [List.length_append, List.length_singleton] at hdots
      omega
  have hnames : Path.names (r.text (.updatedSession id slash backslash)) =
      [] ++ updatedName :: ((sessionPrefix ++ id) :: r.parts) := by
    rw [text, Path.names_append, Path.names_append, names_joined r.plain, hsession]
    rfl
  have hid : '\\' ∉ sessionPrefix ++ id := by
    rw [List.mem_append, not_or]
    exact ⟨by decide, backslash⟩
  have hbackslash : ∀ name ∈ [] ++ updatedName :: ((sessionPrefix ++ id) :: r.parts),
      '\\' ∉ name :=
    List.forall_mem_cons.mpr ⟨by decide, List.forall_mem_cons.mpr ⟨hid, r.backslash_notMem⟩⟩
  have hprefix : ((sessionPrefix ++ id) :: r.parts).head?.any (sessionPrefix.isPrefixOf ·) =
      true := by
    simp
  rw [stripVirtualPrefix_relative hhead]
  exact ⟨_, mapUpdatedReference_of_mem hnames hbackslash List.not_mem_nil (if_pos hprefix)
    r.nonempty, r.sessionParts_names⟩

/-- An absolute spelling stays, or loses a virtual directory or what precedes `updated`. -/
lemma exists_path_absolute (h : r.Clear .absolute) :
    ∃ path, mapUpdatedReference (stripVirtualPrefix (r.text .absolute)) = .ok path ∧
      (path = absoluteText (d.location ++ r.parts) ∨
        path.head? ≠ some '/' ∧ sessionParts d.name (Path.names path) = r.parts) := by
  obtain ⟨hvirtual, hown, hupdated⟩ := h
  rw [text, stripVirtualPrefix_absolute r.plain_append]
  cases hfind : virtualDirs.find? fun directory => directory <+: d.location ++ r.parts with
  | some directory =>
    have hmem := List.mem_of_find?_eq_some hfind
    have hprefix : directory <+: d.location := hvirtual directory hmem (by
      simpa using List.find?_some hfind)
    have hdrop : (d.location ++ r.parts).drop directory.length =
        d.location.drop directory.length ++ r.parts :=
      List.drop_append_of_le_length hprefix.length_le
    have hplain : ∀ name ∈ d.location.drop directory.length ++ r.parts, IsPlain name := by
      rw [← hdrop]
      exact fun name hname => r.plain_append name (List.mem_of_mem_drop hname)
    have hhead : (Path.joined (d.location.drop directory.length ++ r.parts)).head? ≠
        some '/' := head?_joined_ne hplain
    simp only [hdrop]
    obtain ⟨path, hpath, hgood⟩ := r.exists_path_of_suffix (names_joined hplain)
      (List.drop_suffix _ _) (hown (.inl ⟨directory, hmem, hprefix⟩)) hupdated (.inl hhead)
    exact ⟨path, hpath, .inr hgood⟩
  | none =>
    have hnames : Path.names (absoluteText (d.location ++ r.parts)) = d.location ++ r.parts := by
      rw [absoluteText, Path.names_slash, names_joined r.plain_append]
    simp only []
    by_cases hmem : updatedName ∈ d.location
    · obtain ⟨path, hpath, hgood⟩ := r.exists_path_of_suffix hnames (List.suffix_refl _)
        (hown (.inr hmem)) hupdated (.inr hmem)
      exact ⟨path, hpath, .inr hgood⟩
    · have hnot : updatedName ∉ d.location ++ r.parts := by
        rw [List.mem_append, not_or]
        exact ⟨hmem, r.updated⟩
      exact ⟨_, mapUpdatedReference_of_notMem hnames
        (fun name hname => (r.plain_append name hname).backslash) hnot, .inl rfl⟩

/-- The steps bring a clear spelling to the file. -/
lemma exists_path {s : Spelling} (h : r.Clear s) :
    ∃ path, mapUpdatedReference (stripVirtualPrefix (r.text s)) = .ok path ∧
      (path = absoluteText (d.location ++ r.parts) ∨
        path.head? ≠ some '/' ∧ sessionParts d.name (Path.names path) = r.parts) := by
  cases s with
  | relative =>
    rw [text, stripVirtualPrefix_relative r.sessionParts_names.1]
    exact ⟨_, r.mapUpdatedReference_file, .inr r.sessionParts_names⟩
  | virtual directory known =>
    obtain ⟨path, hpath, hgood⟩ := r.exists_path_virtual known
    exact ⟨path, hpath, .inr hgood⟩
  | output =>
    obtain ⟨path, hpath, hgood⟩ := r.exists_path_output h.1 h.2
    exact ⟨path, hpath, .inr hgood⟩
  | updated =>
    obtain ⟨path, hpath, hgood⟩ := r.exists_path_updated h
    exact ⟨path, hpath, .inr hgood⟩
  | updatedSession id slash backslash =>
    obtain ⟨path, hpath, hgood⟩ := r.exists_path_updatedSession slash backslash
    exact ⟨path, hpath, .inr hgood⟩
  | absolute => exact r.exists_path_absolute h

/-- The text of a spelling ends like the file. -/
lemma exists_text_eq (s : Spelling) : ∃ front, r.text s = front ++ Path.joined r.parts := by
  cases s with
  | relative => exact ⟨[], rfl⟩
  | virtual directory known => exact ⟨absoluteText directory ++ ['/'], by simp [text]⟩
  | output => exact ⟨outputName ++ '/' :: (d.name ++ ['/']), by simp [text]⟩
  | updated => exact ⟨updatedName ++ ['/'], by simp [text]⟩
  | updatedSession id slash backslash =>
    exact ⟨updatedName ++ '/' :: ((sessionPrefix ++ id) ++ ['/']), by simp [text]⟩
  | absolute =>
    by_cases hroot : d.location = []
    · exact ⟨['/'], by simp [text, absoluteText, hroot]⟩
    · exact ⟨absoluteText d.location ++ ['/'], by
        simp [text, absoluteText, Path.joined_append hroot r.nonempty]⟩

lemma joined_ne_nil : Path.joined r.parts ≠ [] := by
  intro h
  have hnames := names_joined r.plain
  rw [h] at hnames
  exact r.nonempty hnames.symm

/-- Every text of a clear spelling names the file. -/
lemma resolves {s : Spelling} (h : r.Clear s) : r.Resolves s := by
  rintro cwd filename ⟨before, body, after, rfl, hbefore, hafter, hbody⟩
  obtain ⟨front, hfront⟩ := r.exists_text_eq s
  have hne : r.text s ≠ [] := by
    rw [hfront]
    exact List.append_ne_nil_of_right_ne_nil _ r.joined_ne_nil
  have hlast : ∀ c, (r.text s).getLast? = some c → Text.isSpace c = false := by
    intro c hc
    rw [hfront, List.getLast?_append_of_ne_nil _ r.joined_ne_nil] at hc
    exact r.trailing c hc
  have hhead : ∀ c, (r.text s).head? = some c → Text.isSpace c = false := by
    have hfirst : ∀ (first : Char) (rest : Str), Text.isSpace first = false →
        ∀ c, (first :: rest).head? = some c → Text.isSpace c = false := by
      intro first rest hblank c hc
      rw [← Option.some.inj hc]
      exact hblank
    cases s with
    | relative => exact h
    | virtual directory known => exact hfirst _ _ (by decide)
    | output => exact hfirst _ _ (by decide)
    | updated => exact hfirst _ _ (by decide)
    | updatedSession id slash backslash => exact hfirst _ _ (by decide)
    | absolute => exact hfirst _ _ (by decide)
  have hslashes := slashes_strip hbefore hafter hbody hhead hlast hne
  have hstrip : Text.strip (before ++ body ++ after) ≠ [] := by
    intro hnil
    rw [hnil] at hslashes
    exact hne hslashes.symm
  obtain ⟨path, hpath, hparts⟩ := r.exists_path h
  rw [← hslashes] at hpath
  exact r.resolvePath_eq hstrip hpath hparts

end SessionFile

/-- Whatever text is resolved, the result lies inside the session directory or is an error. -/
lemma inside_of_resolvePath {d : SessionDir} {cwd location : Location} {filename : Str}
    (h : resolvePath cwd filename d.text = .ok location) : Path.Inside d.location location := by
  have hdir : realpath cwd (Path.parse d.text) = .ok d.location := by
    rw [SessionDir.text, parse_absoluteText d.plain, realpath_of_plain d.plain]
  have htext : d.text ≠ [] := List.cons_ne_nil _ _
  by_cases hstrip : Text.strip filename = []
  · rw [resolvePath, if_pos hstrip] at h
    cases h
  · rw [resolvePath, if_neg hstrip, if_neg htext, hdir] at h
    simp only [Except.bind] at h
    cases hpath : mapUpdatedReference (stripVirtualPrefix (slashes (Text.strip filename))) with
    | error message =>
      rw [hpath] at h
      cases h
    | ok path =>
      rw [hpath] at h
      simp only at h
      split at h
      · cases h
      · split at h
        · rename_i hinside
          rw [← Except.ok.inj h]
          exact hinside
        · cases h

/-- Every clear spelling names the file below its session directory, and no text at all names
anything outside the directory. -/
theorem resolvePath_sound (d : SessionDir) :
    (∀ (r : SessionFile d) (s : Spelling), r.Clear s → r.Resolves s) ∧
      ∀ cwd filename location, resolvePath cwd filename d.text = .ok location →
        Path.Inside d.location location :=
  ⟨fun r _ h => r.resolves h, fun _ _ _ h => inside_of_resolvePath h⟩

/-! ### Spellings that look like another one -/

/-- A name that can be seen to be plain. -/
lemma isPlain_of_check {name : Str} (h : (!name.contains '/' && !name.contains null &&
    !name.contains '\\' && name != [] && name != ['.'] && name != Path.parent) = true) :
    IsPlain name := by
  simp only [Bool.and_eq_true, Bool.not_eq_true', List.contains_eq_mem, decide_eq_false_iff_not,
    bne_iff_ne] at h
  obtain ⟨⟨⟨⟨⟨hslash, hnull⟩, hbackslash⟩, hempty⟩, hdot⟩, hparent⟩ := h
  exact ⟨⟨hslash, hnull, hempty, hdot, hparent⟩, hbackslash⟩

/-- A session directory in the root directory. -/
def rootDir (name : Str) (h : (!name.contains '/' && !name.contains null &&
    !name.contains '\\' && name != [] && name != ['.'] && name != Path.parent) = true) :
    SessionDir where
  location := [name]
  plain other hother := by
    obtain rfl := List.mem_singleton.mp hother
    exact isPlain_of_check h

/-- The file `session_f` in the directory `/s`. -/
def sessionNotes : SessionFile (rootDir ['s'] (by decide)) where
  parts := [sessionPrefix ++ ['f']]
  nonempty := List.cons_ne_nil _ _
  plain name hname := by
    obtain rfl := List.mem_singleton.mp hname
    exact isPlain_of_check (by decide)
  updated := by decide
  output := by decide
  own := by decide
  trailing c hc := by
    obtain rfl : 'f' = c := Option.some.inj hc
    decide

/-- The file ` f` in the directory `/s`. -/
def blankNotes : SessionFile (rootDir ['s'] (by decide)) where
  parts := [[' ', 'f']]
  nonempty := List.cons_ne_nil _ _
  plain name hname := by
    obtain rfl := List.mem_singleton.mp hname
    exact isPlain_of_check (by decide)
  updated := by decide
  output := by decide
  own := by decide
  trailing c hc := by
    obtain rfl : 'f' = c := Option.some.inj hc
    decide

/-- The file `data/f` in the directory `/mnt`. -/
def mountedNotes : SessionFile (rootDir "mnt".toList (by decide)) where
  parts := ["data".toList, ['f']]
  nonempty := List.cons_ne_nil _ _
  plain name hname := by
    rcases List.mem_cons.mp hname with rfl | hname
    · exact isPlain_of_check (by decide)
    · obtain rfl := List.mem_singleton.mp hname
      exact isPlain_of_check (by decide)
  updated := by decide
  output := by decide
  own := by decide
  trailing c hc := by
    obtain rfl : 'f' = c := Option.some.inj hc
    decide

/-- The file `f` in the directory `/output`. -/
def outputNotes : SessionFile (rootDir outputName (by decide)) where
  parts := [['f']]
  nonempty := List.cons_ne_nil _ _
  plain name hname := by
    obtain rfl := List.mem_singleton.mp hname
    exact isPlain_of_check (by decide)
  updated := by decide
  output := by decide
  own := by decide
  trailing c hc := by
    obtain rfl : 'f' = c := Option.some.inj hc
    decide

/-- A text that a spelling has without blanks. -/
lemma spells_text {d : SessionDir} (r : SessionFile d) (s : Spelling)
    (h : slashes (r.text s) = r.text s) : r.Spells s (r.text s) :=
  ⟨[], r.text s, [], by simp, by simp, by simp, h⟩

/-- A file `session_f` below `updated`, a file whose name begins with a blank, a file below
`/mnt/data` and a file of a directory `output` are not found under these spellings. -/
theorem not_resolves : ¬ sessionNotes.Resolves .updated ∧ ¬ blankNotes.Resolves .relative ∧
    ¬ mountedNotes.Resolves .absolute ∧ ¬ outputNotes.Resolves .output := by
  refine ⟨fun h => ?_, fun h => ?_, fun h => ?_, fun h => ?_⟩
  · have hfound := congrArg Except.toOption
      (h [] _ (spells_text sessionNotes .updated (by decide +kernel)))
    revert hfound
    decide +kernel
  · have hfound := congrArg Except.toOption
      (h [] _ (spells_text blankNotes .relative (by decide +kernel)))
    revert hfound
    decide +kernel
  · have hfound := congrArg Except.toOption
      (h [] _ (spells_text mountedNotes .absolute (by decide +kernel)))
    revert hfound
    decide +kernel
  · have hfound := congrArg Except.toOption
      (h [] _ (spells_text outputNotes .output (by decide +kernel)))
    revert hfound
    decide +kernel

/-- The file `data/session_f` in the directory `/s`. -/
def sessionReport : SessionFile (rootDir ['s'] (by decide)) where
  parts := ["data".toList, sessionPrefix ++ ['f']]
  nonempty := List.cons_ne_nil _ _
  plain name hname := by
    rcases List.mem_cons.mp hname with rfl | hname
    · exact isPlain_of_check (by decide)
    · obtain rfl := List.mem_singleton.mp hname
      exact isPlain_of_check (by decide)
  updated := by decide
  output := by decide
  own := by decide
  trailing c hc := by
    obtain rfl : 'f' = c := Option.some.inj hc
    decide

/-- The file `data/session_f` is found under its absolute path and as a file below `updated`, and
nothing outside its directory is found. -/
theorem sessionReport_resolves : sessionReport.Resolves .absolute ∧
    sessionReport.Resolves .updated ∧
    ¬ ∃ cwd, resolvePath cwd "../t".toList (rootDir ['s'] (by decide)).text = .ok [['t']] := by
  obtain ⟨hresolves, hinside⟩ := resolvePath_sound (rootDir ['s'] (by decide))
  refine ⟨hresolves sessionReport .absolute ⟨by decide, fun _ => List.not_mem_nil, fun h => ?_⟩,
    hresolves sessionReport .updated ?_, ?_⟩
  · exact absurd h (by decide)
  · exact fun hfirst => absurd hfirst (by decide)
  · rintro ⟨cwd, hlocation⟩
    exact absurd (hinside _ _ _ hlocation) (by decide)

end EcommerceAgent.Files
