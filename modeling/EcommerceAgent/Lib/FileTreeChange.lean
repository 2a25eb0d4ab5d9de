/-
# Changes of a file tree

Making directories and files in a tree, and replacing or removing everything below a directory.  An
operation that the operating system refuses returns `none`.  Each operation comes with the locations
outside which it changes nothing.
-/
import EcommerceAgent.Lib.FileTree

namespace EcommerceAgent.Lib.FileTree

variable {β : Type*}

instance (node : Option (Node β)) : Decidable (node = some .dir) :=
  match node with
  | some .dir => .isTrue rfl
  | some (.file _) => .isFalse nofun
  | some (.link _) => .isFalse nofun
  | none => .isFalse nofun

variable (t : FileTree β)

/-- The content of the file at a location. -/
def fileAt (location : Location) : Option β :=
  match t.node location with
  | some (.file content) => some content
  | _ => none

/-- The content of a file depends on its node only. -/
lemma fileAt_congr {t s : FileTree β} {location : Location}
    (h : t.node location = s.node location) : t.fileAt location = s.fileAt location := by
  rw [fileAt, fileAt, h]

/-- A new node in a directory; a directory is not replaced. -/
def place (directory : Location) (name : List Char) (node : Node β) : Option (FileTree β) :=
  if h : t.node directory = some .dir ∧ t.node (directory ++ [name]) ≠ some .dir then
    some (t.put directory name node h.1 h.2)
  else none

/-- The directories along a path. -/
def mkdirs (t : FileTree β) (here : Location) : List (List Char) → Option (FileTree β)
  | [] => some t
  | name :: rest =>
    if t.node (here ++ [name]) = some .dir then mkdirs t (here ++ [name]) rest
    else if (t.node (here ++ [name])).isSome then none
    else (t.place here name .dir).bind fun t' => mkdirs t' (here ++ [name]) rest

/-- `open` for writing: the file that the path leads to. -/
def write (links : ℕ) (location : Location) (content : β) : Option (FileTree β) :=
  (t.follow true links [] location).bind fun real =>
    match real.getLast? with
    | some name => t.place real.dropLast name (.file content)
    | none => none

/-- The tree with another content below a directory. -/
def graft (directory : Location) (content : FileTree β) (h : t.node directory = some .dir) :
    FileTree β where
  node location :=
    if directory <+: location then content.node (location.drop directory.length)
    else t.node location
  locations := content.locations.map (directory ++ ·) ++ t.locations
  mem_locations {location} hnode := by
    split_ifs at hnode with hbelow
    · obtain ⟨below, rfl⟩ := hbelow
      rw [List.drop_left] at hnode
      exact List.mem_append_left _ (List.mem_map_of_mem (content.mem_locations hnode))
    · exact List.mem_append_right _ (t.mem_locations hnode)
  root := by
    split_ifs with hbelow
    · obtain rfl := List.prefix_nil.mp hbelow
      exact content.root
    · exact t.root
  closed {location name} hnode := by
    by_cases hbelow : directory <+: location
    · obtain ⟨below, rfl⟩ := hbelow
      rw [if_pos (by rw [List.append_assoc]; exact List.prefix_append _ _), List.append_assoc,
        List.drop_left] at hnode
      rw [if_pos (List.prefix_append _ _), List.drop_left]
      exact content.closed hnode
    · rw [if_neg hbelow]
      by_cases hat : directory <+: location ++ [name]
      · -- the directory itself
        rcases List.prefix_concat_iff.mp hat with rfl | hbefore
        · exact t.closed (by rw [h]; exact Option.some_ne_none _)
        · exact absurd hbefore hbelow
      · rw [if_neg hat] at hnode
        exact t.closed hnode

/-- The tree without what is below and at a location, but for what is stuck. -/
def rmtree (directory : Location) (stuck : List Location) (h : directory ≠ []) : FileTree β where
  node location :=
    if directory <+: location ∧ ∀ kept ∈ stuck, ¬location <+: kept then none else t.node location
  locations := t.locations
  mem_locations {location} hnode := by
    by_cases hgone : directory <+: location ∧ ∀ kept ∈ stuck, ¬location <+: kept
    · exact absurd (if_pos hgone) hnode
    · rw [if_neg hgone] at hnode
      exact t.mem_locations hnode
  root := by
    rw [if_neg fun hroot => h (List.prefix_nil.mp hroot.1), t.root]
  closed {location name} hnode := by
    by_cases hgone : directory <+: location ++ [name] ∧
        ∀ kept ∈ stuck, ¬location ++ [name] <+: kept
    · exact absurd (if_pos hgone) hnode
    · rw [if_neg hgone] at hnode
      have hstays : ¬(directory <+: location ∧ ∀ kept ∈ stuck, ¬location <+: kept) := by
        rintro ⟨hbelow, hkept⟩
        exact hgone ⟨hbelow.trans (List.prefix_append _ _), fun kept hmem hle =>
          hkept kept hmem ((List.prefix_append _ _).trans hle)⟩
      rw [if_neg hstays]
      exact t.closed hnode

/-- Nothing changes outside a directory. -/
def AgreesOutside (t t' : FileTree β) (directory : Location) : Prop :=
  ∀ location, ¬directory <+: location → t'.node location = t.node location

variable {t} {t' t'' : FileTree β} {directory here l location : Location} {name : List Char}
  {names : List (List Char)} {node : Node β} {links : ℕ} {content : β}

/-! ### What an operation changes -/

lemma AgreesOutside.refl (t : FileTree β) (directory : Location) : AgreesOutside t t directory :=
  fun _ _ => rfl

lemma AgreesOutside.trans (h : AgreesOutside t t' directory) (h' : AgreesOutside t' t'' directory) :
    AgreesOutside t t'' directory :=
  fun location hout => (h' location hout).trans (h location hout)

lemma place_eq_some (h : t.place directory name node = some t') :
    t.node directory = some .dir ∧ t.node (directory ++ [name]) ≠ some .dir ∧
      t'.node = Function.update t.node (directory ++ [name]) (some node) := by
  rw [place] at h
  split_ifs at h with hplace
  rw [← Option.some.inj h]
  exact ⟨hplace.1, hplace.2, rfl⟩

/-- Directories are made where nothing was. -/
lemma mkdirs_spec (h : t.mkdirs here names = some t') (hhere : t.node here = some .dir) :
    t'.node (here ++ names) = some .dir ∧
      ∀ location, t'.node location = t.node location ∨
        (t.node location = none ∧ t'.node location = some .dir ∧ location <+: here ++ names) := by
  induction names generalizing t here with
  | nil =>
    obtain rfl := Option.some.inj h
    rw [List.append_nil]
    exact ⟨hhere, fun _ => .inl rfl⟩
  | cons name rest ih =>
    have hstep : here ++ name :: rest = (here ++ [name]) ++ rest := by
      rw [List.append_assoc, List.singleton_append]
    rw [mkdirs] at h
    split_ifs at h with hdir hnone
    · rw [hstep]
      exact ih h hdir
    · obtain ⟨t₁, hplace, h⟩ := Option.bind_eq_some_iff.mp h
      obtain ⟨-, -, hnode⟩ := place_eq_some hplace
      obtain ⟨hlast, hchange⟩ := ih h (by rw [hnode, Function.update_self])
      rw [hstep]
      refine ⟨hlast, fun location => ?_⟩
      by_cases hlocation : location = here ++ [name]
      · subst hlocation
        refine .inr ⟨by simpa using hnone, ?_, List.prefix_append _ _⟩
        rcases hchange (here ++ [name]) with heq | ⟨hnew, -⟩
        · rw [heq, hnode, Function.update_self]
        · rw [hnode, Function.update_self] at hnew
          cases hnew
      · have hsame : t₁.node location = t.node location := by
          rw [hnode, Function.update_of_ne hlocation]
        rw [← hsame]
        exact hchange location

/-- What is written at a canonical location is one file there. -/
lemma write_spec (hcanonical : t.Canonical l) (h : t.write links l content = some t') :
    l ≠ [] ∧ t.node l ≠ some .dir ∧
      t'.node = Function.update t.node l (some (.file content)) := by
  obtain ⟨real, hreal, h⟩ := Option.bind_eq_some_iff.mp h
  have hlax : t.follow false links [] l = some real :=
    follow_mono (fun h => absurd h Bool.false_ne_true) le_rfl hreal
  rw [hcanonical.follow_root] at hlax
  obtain rfl := Option.some.inj hlax
  split at h
  · rename_i name hlast
    obtain ⟨-, hnode, hupdate⟩ := place_eq_some h
    have hne : l ≠ [] := by
      rintro rfl
      cases hlast
    have hconcat : l.dropLast ++ [name] = l := List.dropLast_append_getLast? name hlast
    rw [hconcat] at hnode hupdate
    exact ⟨hne, hnode, hupdate⟩
  · cases h

lemma graft_agrees (h : t.node directory = some .dir) (below : FileTree β) :
    AgreesOutside t (t.graft directory below h) directory :=
  fun _ hout => if_neg hout

lemma graft_directory (h : t.node directory = some .dir) (below : FileTree β) :
    (t.graft directory below h).node directory = some .dir := by
  have hself : (t.graft directory below h).node directory =
      below.node (directory.drop directory.length) := if_pos (List.prefix_refl _)
  rw [hself, List.drop_length, below.root]

lemma rmtree_agrees (stuck : List Location) (h : directory ≠ []) :
    AgreesOutside t (t.rmtree directory stuck h) directory :=
  fun _ hout => if_neg fun hremoved => hout hremoved.1

/-- A canonical location stays canonical when nothing changes on the way to it. -/
lemma Canonical.congr (h : t.Canonical l)
    (heq : ∀ front, front <+: l → t'.node front = t.node front) : t'.Canonical l where
  proper := h.proper
  noLink front hfront := by
    rintro ⟨target, hlink⟩
    rw [heq front hfront] at hlink
    exact h.noLink front hfront ⟨target, hlink⟩

end EcommerceAgent.Lib.FileTree
