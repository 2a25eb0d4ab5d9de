/-
# `str.splitlines`

The lines of a text, without their line breaks.
-/
import Mathlib.Tactic.Common
import Mathlib.Data.List.Basic

namespace EcommerceAgent.Lib.Lines

/-- The characters at which `str.splitlines()` breaks. -/
def isBreak (c : Char) : Bool :=
  (10 ≤ c.toNat && c.toNat ≤ 13) || (28 ≤ c.toNat && c.toNat ≤ 30) || c.toNat == 0x85 ||
    c.toNat == 0x2028 || c.toNat == 0x2029

/-- A carriage return before a line feed, with which it is one break. -/
def isCrlf (c : Char) (cs : List Char) : Bool := c == '\r' && cs.head? == some '\n'

/-- `str.splitlines()`. -/
def splitlines : List Char → List (List Char)
  | [] => []
  | c :: cs =>
    if isCrlf c cs then splitlines cs
    else if isBreak c then [] :: splitlines cs
    else
      match splitlines cs with
      | [] => [[c]]
      | l :: ls => (c :: l) :: ls

/-- Splitting drops characters and adds none. -/
lemma flatten_splitlines (s : List Char) : (splitlines s).flatten.Sublist s := by
  induction s with
  | nil => exact .slnil
  | cons c cs ih =>
    unfold splitlines
    split_ifs with hcrlf hbreak
    · exact ih.cons c
    · simpa using ih.cons c
    · split
      · exact List.singleton_sublist.2 List.mem_cons_self
      · rename_i l ls hcons
        rw [hcons] at ih
        simpa using ih.cons_cons c

/-- A text that is not empty has a line. -/
lemma splitlines_ne_nil {s : List Char} (h : s ≠ []) : splitlines s ≠ [] := by
  induction s with
  | nil => exact absurd rfl h
  | cons c cs ih =>
    unfold splitlines
    split_ifs with hcrlf hbreak
    · refine ih ?_
      rintro rfl
      simp [isCrlf] at hcrlf
    · exact List.cons_ne_nil _ _
    · split <;> exact List.cons_ne_nil _ _

/-- No break is left. -/
lemma isBreak_of_mem {s l : List Char} (hl : l ∈ splitlines s) {c : Char} (hc : c ∈ l) :
    isBreak c = false := by
  induction s generalizing l with
  | nil => cases hl
  | cons x xs ih =>
    unfold splitlines at hl
    split_ifs at hl with hcrlf hbreak
    · exact ih hl hc
    · rcases List.mem_cons.1 hl with rfl | hl
      · cases hc
      · exact ih hl hc
    · have hx : isBreak x = false := by simpa using hbreak
      split at hl
      · obtain rfl := List.mem_singleton.1 hl
        obtain rfl := List.mem_singleton.1 hc
        exact hx
      · rename_i l' ls hcons
        rcases List.mem_cons.1 hl with rfl | hl
        · rcases List.mem_cons.1 hc with rfl | hc
          · exact hx
          · exact ih (hcons ▸ List.mem_cons_self) hc
        · exact ih (hcons ▸ List.mem_cons_of_mem _ hl) hc

lemma ne_crlf {c : Char} (hc : isBreak c = false) (cs : List Char) : isCrlf c cs = false := by
  have hne : c ≠ '\r' := by
    rintro rfl
    exact absurd hc (by decide)
  simp [isCrlf, hne]

/-- A line that is followed by a line feed. -/
lemma splitlines_append {l : List Char} (hl : ∀ c ∈ l, isBreak c = false) (rest : List Char) :
    splitlines (l ++ '\n' :: rest) = l :: splitlines rest := by
  induction l with
  | nil =>
    have hcrlf : isCrlf '\n' rest = false := by simp [isCrlf]
    rw [List.nil_append, splitlines, hcrlf]
    rfl
  | cons c cs ih =>
    have hc := hl c List.mem_cons_self
    rw [List.cons_append, splitlines, ne_crlf hc, hc,
      ih fun c hc => hl c (List.mem_cons_of_mem _ hc)]
    rfl

/-- A last line. -/
lemma splitlines_line {l : List Char} (hl : ∀ c ∈ l, isBreak c = false) :
    splitlines l = if l = [] then [] else [l] := by
  induction l with
  | nil => rfl
  | cons c cs ih =>
    have hc := hl c List.mem_cons_self
    rw [splitlines, ne_crlf hc, hc, ih fun c hc => hl c (List.mem_cons_of_mem _ hc)]
    cases cs <;> simp

/-- The lines of joined lines are those lines, if one does not count an empty line at the end. -/
lemma filter_splitlines {keep : List Char → Bool} (hempty : keep [] = false)
    {lines : List (List Char)} (hlines : ∀ l ∈ lines, ∀ c ∈ l, isBreak c = false) :
    (splitlines (['\n'].intercalate lines)).filter keep = lines.filter keep := by
  induction lines with
  | nil => simp [splitlines]
  | cons l ls ih =>
    have hl := hlines l List.mem_cons_self
    cases ls with
    | nil =>
      have hjoin : ['\n'].intercalate [l] = l := by simp
      rw [hjoin, splitlines_line hl]
      split_ifs with hnil
      · simp [hnil, hempty]
      · rfl
    | cons l' ls =>
      rw [List.intercalate_cons_cons, List.append_assoc, List.singleton_append,
        splitlines_append hl, List.filter_cons,
        ih fun l hl => hlines l (List.mem_cons_of_mem _ hl), ← List.filter_cons]

end EcommerceAgent.Lib.Lines
