/-
# POSIX paths

A pure path is the list of its names, as a path library parses it: empty pieces and single dots are
dropped, double dots stay.  Its location is what is left when every double dot has cancelled the
name before it; where no symbolic links are involved this is what the operating system opens.  The
lemmas say when a path below a directory still names something inside the directory.
-/
import Mathlib.Tactic.Common
import Mathlib.Data.List.Basic
import Mathlib.Data.List.Infix

namespace EcommerceAgent.Lib

/-- A path before it is resolved. -/
structure PurePath where
  absolute : Bool
  parts : List (List Char)
deriving DecidableEq

/-- The names on the way from the root. -/
abbrev Location := List (List Char)

namespace Path

/-- The pieces between the slashes. -/
def split : List Char → List (List Char)
  | [] => [[]]
  | c :: cs =>
    if c = '/' then [] :: split cs
    else
      match split cs with
      | [] => [[c]]
      | piece :: pieces => (c :: piece) :: pieces

/-- The names of a path: neither empty pieces nor single dots. -/
def names (text : List Char) : List (List Char) :=
  (split text).filter fun piece => piece ≠ [] ∧ piece ≠ ['.']

/-- `Path(text)`. -/
def parse (text : List Char) : PurePath := ⟨text.head? == some '/', names text⟩

/-- The operator `/`: an absolute path on the right replaces the left one. -/
def join (p q : PurePath) : PurePath :=
  if q.absolute then q else ⟨p.absolute, p.parts ++ q.parts⟩

/-- `Path.name`. -/
def name (p : PurePath) : List Char := p.parts.getLast?.getD []

/-- Two dots. -/
def parent : List Char := ['.', '.']

/-- One step on the way of a path. -/
def step (location : Location) (part : List Char) : Location :=
  if part = parent then location.dropLast else location ++ [part]

/-- Where the parts of a path lead from a location. -/
def walk (location : Location) (parts : List (List Char)) : Location := parts.foldl step location

/-- `Path.resolve` of an absolute path. -/
def resolve (p : PurePath) : Location := walk [] p.parts

/-- A location lies inside a directory. -/
def Inside (directory location : Location) : Prop := directory <+: location

instance (directory location : Location) : Decidable (Inside directory location) :=
  inferInstanceAs (Decidable (_ <+: _))

/-! ### Names -/

lemma split_of_notMem {text : List Char} (h : '/' ∉ text) : split text = [text] := by
  induction text with
  | nil => rfl
  | cons c cs ih =>
    rw [List.mem_cons, not_or] at h
    rw [split, if_neg (Ne.symm h.1), ih h.2]

lemma notMem_of_mem_split {text piece : List Char} (h : piece ∈ split text) : '/' ∉ piece := by
  induction text generalizing piece with
  | nil =>
    rw [List.mem_singleton.mp h]
    exact List.not_mem_nil
  | cons c cs ih =>
    rw [split] at h
    split at h
    · rcases List.mem_cons.mp h with rfl | hrest
      · exact List.not_mem_nil
      · exact ih hrest
    · rename_i hc
      have hc' : '/' ≠ c := Ne.symm hc
      split at h
      · rw [List.mem_singleton.mp h, List.mem_singleton]
        exact hc'
      · rename_i first rest hsplit
        rcases List.mem_cons.mp h with rfl | hrest
        · rw [List.mem_cons, not_or]
          exact ⟨hc', ih (hsplit ▸ List.mem_cons_self)⟩
        · exact ih (hsplit ▸ List.mem_cons_of_mem _ hrest)

/-- A name contains no slash. -/
lemma notMem_of_mem_names {text part : List Char} (h : part ∈ names text) : '/' ∉ part :=
  notMem_of_mem_split (List.mem_of_mem_filter h)

/-- A text without slashes is one name. -/
lemma names_of_notMem {text : List Char} (h : '/' ∉ text) (hempty : text ≠ [])
    (hdot : text ≠ ['.']) :
    names text = [text] := by
  rw [names, split_of_notMem h, List.filter_cons_of_pos (by simp [hempty, hdot]), List.filter_nil]

lemma mem_of_mem_split {text piece : List Char} {c : Char} (hpiece : piece ∈ split text)
    (hc : c ∈ piece) : c ∈ text := by
  induction text generalizing piece with
  | nil =>
    rw [List.mem_singleton.mp hpiece] at hc
    cases hc
  | cons first cs ih =>
    rw [split] at hpiece
    split at hpiece
    · rcases List.mem_cons.mp hpiece with rfl | hrest
      · cases hc
      · exact List.mem_cons_of_mem _ (ih hrest hc)
    · split at hpiece
      · rw [List.mem_singleton.mp hpiece, List.mem_singleton] at hc
        rw [hc]
        exact List.mem_cons_self
      · rename_i piece' rest hsplit
        rcases List.mem_cons.mp hpiece with rfl | hrest
        · rcases List.mem_cons.mp hc with rfl | hin
          · exact List.mem_cons_self
          · exact List.mem_cons_of_mem _ (ih (hsplit ▸ List.mem_cons_self) hin)
        · exact List.mem_cons_of_mem _ (ih (hsplit ▸ List.mem_cons_of_mem _ hrest) hc)

lemma exists_mem_split {text : List Char} {c : Char} (hc : c ∈ text) (hslash : c ≠ '/') :
    ∃ piece ∈ split text, c ∈ piece := by
  induction text with
  | nil => cases hc
  | cons first cs ih =>
    rw [split]
    split
    · rename_i hfirst
      rcases List.mem_cons.mp hc with rfl | hrest
      · exact absurd hfirst hslash
      · obtain ⟨piece, hpiece, hin⟩ := ih hrest
        exact ⟨piece, List.mem_cons_of_mem _ hpiece, hin⟩
    · split
      · rename_i hsplit
        rcases List.mem_cons.mp hc with rfl | hrest
        · exact ⟨[c], List.mem_singleton_self _, List.mem_singleton_self _⟩
        · obtain ⟨piece, hpiece, -⟩ := ih hrest
          rw [hsplit] at hpiece
          cases hpiece
      · rename_i piece' rest hsplit
        rcases List.mem_cons.mp hc with rfl | hrest
        · exact ⟨c :: piece', List.mem_cons_self, List.mem_cons_self⟩
        · obtain ⟨piece, hpiece, hin⟩ := ih hrest
          rw [hsplit] at hpiece
          rcases List.mem_cons.mp hpiece with rfl | htail
          · exact ⟨first :: piece, List.mem_cons_self, List.mem_cons_of_mem _ hin⟩
          · exact ⟨piece, List.mem_cons_of_mem _ htail, hin⟩

/-- A character of a text other than slash and dot is in one of its names, and only those are. -/
lemma exists_mem_names {text : List Char} {c : Char} (hslash : c ≠ '/') (hdot : c ≠ '.') :
    (∃ part ∈ names text, c ∈ part) ↔ c ∈ text := by
  constructor
  · rintro ⟨part, hpart, hc⟩
    exact mem_of_mem_split (List.mem_of_mem_filter hpart) hc
  · intro hc
    obtain ⟨piece, hpiece, hin⟩ := exists_mem_split hc hslash
    refine ⟨piece, List.mem_filter.mpr ⟨hpiece, ?_⟩, hin⟩
    have hempty : piece ≠ [] := List.ne_nil_of_mem hin
    have hsingle : piece ≠ ['.'] := by
      rintro rfl
      exact hdot (List.mem_singleton.mp hin)
    simp [hempty, hsingle]

/-- The pieces before and after a slash. -/
lemma split_append (a b : List Char) : split (a ++ '/' :: b) = split a ++ split b := by
  induction a with
  | nil =>
    have hslash : split ('/' :: b) = [] :: split b := by
      rw [split, if_pos rfl]
    exact hslash
  | cons c cs ih =>
    rw [List.cons_append, split, split, ih]
    split
    · rfl
    · cases hcs : split cs with
      | nil =>
        have hnonempty : ∀ text : List Char, split text ≠ [] := by
          intro text
          cases text with
          | nil => simp [split]
          | cons c cs =>
            rw [split]
            split
            · exact List.cons_ne_nil _ _
            · split <;> exact List.cons_ne_nil _ _
        exact absurd hcs (hnonempty cs)
      | cons piece pieces => rfl

/-- The names before and after a slash. -/
lemma names_append (a b : List Char) : names (a ++ '/' :: b) = names a ++ names b := by
  rw [names, split_append, List.filter_append]
  rfl

/-- Slashes in front of a text make no names. -/
lemma names_slash (text : List Char) : names ('/' :: text) = names text :=
  names_append [] text

/-- The text of a relative path. -/
def joined (parts : List (List Char)) : List Char := ['/'].intercalate parts

lemma joined_cons {part : List Char} {parts : List (List Char)} (h : parts ≠ []) :
    joined (part :: parts) = part ++ '/' :: joined parts := by
  rw [joined, List.intercalate_cons_of_ne_nil h, List.append_assoc]
  rfl

lemma joined_append {parts parts' : List (List Char)} (h : parts ≠ []) (h' : parts' ≠ []) :
    joined (parts ++ parts') = joined parts ++ '/' :: joined parts' := by
  induction parts with
  | nil => exact absurd rfl h
  | cons part rest ih =>
    cases rest with
    | nil =>
      have hsingle : joined [part] = part := List.intercalate_singleton
      rw [List.singleton_append, joined_cons h', hsingle]
    | cons next rest =>
      rw [List.cons_append, joined_cons (by simp), joined_cons (by simp),
        ih (List.cons_ne_nil _ _), List.append_assoc, List.cons_append]

/-- The names of a text that was joined from names. -/
lemma names_joined {parts : List (List Char)}
    (h : ∀ part ∈ parts, '/' ∉ part ∧ part ≠ [] ∧ part ≠ ['.']) : names (joined parts) = parts := by
  induction parts with
  | nil => rfl
  | cons part rest ih =>
    obtain ⟨hslash, hempty, hdot⟩ := h part List.mem_cons_self
    have hrest := ih fun other hother => h other (List.mem_cons_of_mem _ hother)
    cases rest with
    | nil =>
      have hsingle : joined [part] = part := List.intercalate_singleton
      rw [hsingle, names_of_notMem hslash hempty hdot]
    | cons next rest =>
      rw [joined_cons (List.cons_ne_nil _ _), names_append,
        names_of_notMem hslash hempty hdot, hrest]
      rfl

/-- The names of a text that was joined from pieces without slashes. -/
lemma names_joined_of_notMem {parts : List (List Char)} (h : ∀ part ∈ parts, '/' ∉ part) :
    names (joined parts) = parts.filter fun part => part ≠ [] ∧ part ≠ ['.'] := by
  have hpiece : ∀ {part : List Char}, '/' ∉ part →
      names part = [part].filter fun part => part ≠ [] ∧ part ≠ ['.'] := by
    intro part hpart
    rw [names, split_of_notMem hpart]
  induction parts with
  | nil => rfl
  | cons part rest ih =>
    obtain ⟨hpart, hrest⟩ := List.forall_mem_cons.mp h
    cases rest with
    | nil =>
      have hsingle : joined [part] = part := List.intercalate_singleton
      rw [hsingle, hpiece hpart]
    | cons next rest =>
      rw [joined_cons (List.cons_ne_nil _ _), names_append, ih hrest, hpiece hpart,
        ← List.filter_append, List.singleton_append]

/-- A text joined from names does not begin with a slash. -/
lemma head?_joined {parts : List (List Char)} (h : ∀ part ∈ parts, '/' ∉ part ∧ part ≠ []) :
    (joined parts).head? ≠ some '/' := by
  cases parts with
  | nil => exact fun hnil => by cases hnil
  | cons part rest =>
    obtain ⟨hslash, hempty⟩ := h part List.mem_cons_self
    have hhead : (joined (part :: rest)).head? = part.head? := by
      cases rest with
      | nil => rw [joined, List.intercalate_singleton]
      | cons next rest =>
        rw [joined_cons (List.cons_ne_nil _ _)]
        cases part with
        | nil => exact absurd rfl hempty
        | cons c cs => rfl
    rw [hhead]
    exact fun hc => hslash (List.mem_of_mem_head? hc)

/-! ### Locations -/

lemma walk_append (location : Location) (parts parts' : List (List Char)) :
    walk location (parts ++ parts') = walk (walk location parts) parts' :=
  List.foldl_append

/-- Without double dots a path leads straight down. -/
lemma walk_of_notMem {parts : List (List Char)} (h : parent ∉ parts) (location : Location) :
    walk location parts = location ++ parts := by
  induction parts generalizing location with
  | nil => exact (List.append_nil location).symm
  | cons part parts ih =>
    rw [List.mem_cons, not_or] at h
    have hstep : step location part = location ++ [part] := if_neg (Ne.symm h.1)
    have hwalk := ih h.2 (location ++ [part])
    rw [List.append_assoc, List.singleton_append] at hwalk
    rw [← hwalk, ← hstep]
    rfl

/-- A path without double dots stays inside. -/
lemma inside_walk_of_notMem {parts : List (List Char)} (h : parent ∉ parts)
    (directory : Location) : Inside directory (walk directory parts) := by
  rw [walk_of_notMem h]
  exact List.prefix_append directory parts

/-- All names of a location come from the location before or from the path. -/
lemma mem_walk {location : Location} {parts : List (List Char)} {part : List Char}
    (h : part ∈ walk location parts) : part ∈ location ∨ part ∈ parts := by
  induction parts generalizing location with
  | nil => exact .inl h
  | cons first parts ih =>
    rcases ih h with hstep | hrest
    · rw [step] at hstep
      split at hstep
      · exact .inl (List.mem_of_mem_dropLast hstep)
      · rcases List.mem_append.mp hstep with hbefore | hfirst
        · exact .inl hbefore
        · rw [List.mem_singleton.mp hfirst]
          exact .inr List.mem_cons_self
    · exact .inr (List.mem_cons_of_mem _ hrest)

end Path

end EcommerceAgent.Lib
