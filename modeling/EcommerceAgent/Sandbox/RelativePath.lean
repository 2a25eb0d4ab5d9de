/-
# Relative paths of a sandbox

`validate_relative_path` of `api/sandbox/workspace.py` and the validator of the same name of
`SandboxFile`.  Both check the parts between the slashes of the stripped text and join them again;
the result is not stripped once more, so its last part can end with blanks.
-/
import EcommerceAgent.Files.Resolve
import Mathlib

open EcommerceAgent.Lib EcommerceAgent.Files

namespace EcommerceAgent.Sandbox

local instance lawfulBEqStr : LawfulBEq Str := inferInstance

/-- `DENIED_NAMES`. -/
def deniedNames : List Str :=
  [".env", ".git", ".venv", "node_modules", "dockerfile", "docker-compose.yml",
    "docker-compose.yaml"].map String.toList

/-- The name is denied, in whatever case it is written. -/
def Denied (name : Str) : Prop := Text.lower name ∈ deniedNames

instance (name : Str) : Decidable (Denied name) := inferInstanceAs (Decidable (_ ∈ deniedNames))

/-- `value.replace("\\", "/").strip()`. -/
def normalized (value : Str) : Str := Text.strip (slashes value)

/-- `[part for part in path.split("/") if part]`. -/
def checkedParts (value : Str) : List Str := (Path.split (normalized value)).filter (· ≠ [])

/-- The path starts with a slash, or its first part has a colon. -/
def isAbsolute (path : Str) : Bool :=
  path.head? == some '/' || ((Path.split path).headD []).contains ':'

/-- `validate_relative_path`. -/
def validateRelativePath (value : Str) : Except String Str :=
  if normalized value = [] then .error "empty path is not allowed"
  else if isAbsolute (normalized value) then .error "absolute paths are not allowed"
  else if Path.parent ∈ checkedParts value then .error "path traversal is not allowed"
  else if ∃ part ∈ checkedParts value, Denied part then
    .error ("denied sandbox path: " ++ String.ofList (normalized value))
  else .ok (Path.joined (checkedParts value))

/-- The path of a `SandboxFile`, of 1 to 260 characters, after its validator of the same name. -/
def sandboxFilePath (value : Str) : Option Str :=
  if value.length < 1 ∨ 260 < value.length then none
  else if normalized value = [] ∨ isAbsolute (normalized value) ∨
      Path.parent ∈ checkedParts value then none
  else some (Path.joined (checkedParts value))

/-! ### What is accepted -/

variable {value path : Str}

/-- Parts that are not empty, have no separator, and do not start with a blank. -/
structure IsChecked (parts : List Str) : Prop where
  slash : ∀ part ∈ parts, '/' ∉ part
  backslash : ∀ part ∈ parts, '\\' ∉ part
  nonempty : ∀ part ∈ parts, part ≠ []
  parent : Path.parent ∉ parts
  first : ∃ c cs rest, parts = (c :: cs) :: rest ∧ Text.isSpace c = false

lemma mem_normalized {c : Char} (h : c ∈ normalized value) : c ≠ '\\' := by
  obtain ⟨c', -, rfl⟩ := List.mem_map.mp ((Text.strip_sublist _).mem h)
  split_ifs with hc
  · decide
  · exact hc

/-- A stripped text does not start with a blank. -/
lemma head_normalized {c : Char} {cs : Str} (h : normalized value = c :: cs) :
    Text.isSpace c = false := by
  have hprefix : normalized value <+: (slashes value).dropWhile Text.isSpace :=
    List.rdropWhile_prefix _ _
  obtain ⟨rest, hrest⟩ := hprefix
  refine Text.head?_dropWhile Text.isSpace (slashes value) c ?_
  rw [← hrest, h]
  rfl

/-- The first piece of a text that does not start with a slash. -/
lemma split_cons {c : Char} (cs : Str) (hc : c ≠ '/') :
    ∃ piece pieces, Path.split (c :: cs) = (c :: piece) :: pieces := by
  rw [Path.split, if_neg hc]
  cases Path.split cs with
  | nil => exact ⟨[], [], rfl⟩
  | cons piece pieces => exact ⟨piece, pieces, rfl⟩

lemma isChecked_of_relative (hne : normalized value ≠ [])
    (hrelative : isAbsolute (normalized value) = false)
    (hparent : Path.parent ∉ checkedParts value) : IsChecked (checkedParts value) := by
  refine ⟨fun part hpart => ?_, fun part hpart => ?_, fun part hpart => ?_, hparent, ?_⟩
  · exact Path.notMem_of_mem_split (List.mem_of_mem_filter hpart)
  · intro hmem
    exact mem_normalized (Path.mem_of_mem_split (List.mem_of_mem_filter hpart) hmem) rfl
  · exact of_decide_eq_true (List.mem_filter.mp hpart).2
  · cases hpath : normalized value with
    | nil => exact absurd hpath hne
    | cons c cs =>
      have hslash : c ≠ '/' := by
        rintro rfl
        rw [hpath] at hrelative
        cases hrelative
      obtain ⟨piece, pieces, hsplit⟩ := split_cons cs hslash
      refine ⟨c, piece, pieces.filter (· ≠ []), ?_, head_normalized hpath⟩
      rw [checkedParts, hpath, hsplit, List.filter_cons_of_pos (by simp)]

/-- What `validate_relative_path` accepts. -/
lemma validateRelativePath_ok (h : validateRelativePath value = .ok path) :
    path = Path.joined (checkedParts value) ∧ IsChecked (checkedParts value) ∧
      ∀ part ∈ checkedParts value, ¬Denied part := by
  rw [validateRelativePath] at h
  split_ifs at h with hne habsolute hparent hdenied
  refine ⟨(Except.ok.inj h).symm, isChecked_of_relative hne ?_ hparent, fun part hpart hd => ?_⟩
  · exact Bool.eq_false_iff.mpr habsolute
  · exact hdenied ⟨part, hpart, hd⟩

/-! ### What stripping a path once more does -/

section Strip

/-- Blanks behind a slash are stripped up to the slash. -/
lemma rdropWhile_append_slash (front last : Str) :
    (front ++ '/' :: last).rdropWhile Text.isSpace =
      front ++ '/' :: last.rdropWhile Text.isSpace := by
  have hslash : Text.isSpace '/' = false := by decide
  simp only [List.rdropWhile, List.reverse_append, List.reverse_cons, List.append_assoc,
    List.singleton_append, List.dropWhile_append]
  split_ifs with hblank
  · rw [List.dropWhile_cons_of_neg (by rw [hslash]; simp), List.isEmpty_iff.mp hblank]
    simp
  · simp

/-- A text is stripped at its end when it does not start with a blank. -/
lemma strip_eq_rdropWhile {c : Char} {cs : Str} (hc : Text.isSpace c = false) :
    Text.strip (c :: cs) = (c :: cs).rdropWhile Text.isSpace := by
  rw [Text.strip, List.dropWhile_cons_of_neg (by rw [hc]; simp)]

variable {front : List Str} {last : Str}

/-- Stripping a checked path changes its last part only. -/
lemma strip_joined (h : IsChecked (front ++ [last])) :
    Text.strip (Path.joined (front ++ [last])) =
      Path.joined (front ++ [last.rdropWhile Text.isSpace]) := by
  obtain ⟨c, cs, rest, hparts, hc⟩ := h.first
  have hsingle : ∀ part : Str, Path.joined [part] = part := fun _ => List.intercalate_singleton
  cases front with
  | nil =>
    obtain ⟨rfl, -⟩ := List.cons_eq_cons.mp hparts
    rw [List.nil_append, List.nil_append, hsingle, hsingle, strip_eq_rdropWhile hc]
  | cons first front =>
    obtain ⟨rfl, -⟩ := List.cons_eq_cons.mp hparts
    have hjoined : ∀ part : Str, Path.joined (((c :: cs) :: front) ++ [part]) =
        Path.joined ((c :: cs) :: front) ++ '/' :: part := fun part => by
      rw [Path.joined_append (List.cons_ne_nil _ _) (List.cons_ne_nil _ _), hsingle]
    have hhead : ∃ cs', Path.joined ((c :: cs) :: front) = c :: cs' := by
      cases front with
      | nil => exact ⟨cs, List.intercalate_singleton⟩
      | cons next front =>
        exact ⟨_, (Path.joined_cons (List.cons_ne_nil _ _)).trans (List.cons_append ..)⟩
    obtain ⟨cs', hcs⟩ := hhead
    rw [hjoined, hjoined, hcs, List.cons_append, strip_eq_rdropWhile hc, ← List.cons_append,
      rdropWhile_append_slash]

/-- The names of the stripped path: only the last part can change. -/
lemma names_strip_joined (h : IsChecked (front ++ [last])) :
    Path.names (Text.strip (Path.joined (front ++ [last]))) =
      (front.filter fun part => part ≠ [] ∧ part ≠ ['.']) ++
        Path.names (last.rdropWhile Text.isSpace) := by
  have hfront : ∀ part ∈ front, '/' ∉ part := fun part hpart =>
    h.slash part (List.mem_append_left _ hpart)
  have hsingle : Path.joined [last.rdropWhile Text.isSpace] = last.rdropWhile Text.isSpace :=
    List.intercalate_singleton
  rw [strip_joined h]
  by_cases hempty : front = []
  · subst hempty
    rw [List.nil_append, hsingle]
    rfl
  · rw [Path.joined_append hempty (List.cons_ne_nil _ _), hsingle, Path.names_append,
      Path.names_joined_of_notMem hfront]

/-- The stripped path is relative. -/
lemma head?_strip_joined {parts : List Str} (h : IsChecked parts) :
    (Text.strip (Path.joined parts)).head? ≠ some '/' := by
  intro hhead
  have hjoined := Path.head?_joined fun part hpart => ⟨h.slash part hpart, h.nonempty part hpart⟩
  obtain ⟨c, cs, rest, rfl, hc⟩ := h.first
  have hcons : ∃ cs', Path.joined ((c :: cs) :: rest) = c :: cs' := by
    cases rest with
    | nil => exact ⟨cs, List.intercalate_singleton⟩
    | cons next rest =>
      exact ⟨_, (Path.joined_cons (List.cons_ne_nil _ _)).trans (List.cons_append ..)⟩
  obtain ⟨cs', hcs⟩ := hcons
  rw [hcs] at hhead hjoined
  rw [strip_eq_rdropWhile hc] at hhead
  obtain ⟨tail, htail⟩ := List.rdropWhile_prefix Text.isSpace (c :: cs')
  cases hr : (c :: cs').rdropWhile Text.isSpace with
  | nil =>
    rw [hr] at hhead
    cases hhead
  | cons c' cs'' =>
    rw [hr] at hhead htail
    obtain ⟨rfl, -⟩ := List.cons_eq_cons.mp htail
    exact hjoined hhead

end Strip

end EcommerceAgent.Sandbox
