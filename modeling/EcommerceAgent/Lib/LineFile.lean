/-
# Files of lines and their tails

A file is a list over any alphabet with a separator; a line ends with the separator.  A reader of
the tail seeks to the last `window` elements and gives up what it finds up to the next separator,
since it may be the end of a line that began before.  Compared are the lines it then reads with
the lines that lie in the window as a whole (`tailLines_cases`): they are the same, unless a line
begins exactly where the window does, which is given up with nothing before it.
-/
import Mathlib

namespace EcommerceAgent.Lib.LineFile

section Reading

variable {α : Type*} [DecidableEq α] (sep : α)

/-- What is read up to the next separator, and the rest. -/
def readline : List α → List α × List α
  | [] => ([], [])
  | x :: xs => if x = sep then ([x], xs) else (x :: (readline xs).1, (readline xs).2)

/-- The lines of a file, each with its separator; the last one may lack it. -/
def readlines : List α → List (List α)
  | [] => []
  | x :: xs =>
    if x = sep then [x] :: readlines xs
    else
      match readlines xs with
      | [] => [[x]]
      | l :: ls => (x :: l) :: ls

/-- The list is one line with its separator. -/
def IsLine (l : List α) : Prop := ∃ body, sep ∉ body ∧ l = body ++ [sep]

/-- What the reader of the tail reads. -/
def tailLines (window : ℕ) (file : List α) : List (List α) :=
  if window < file.length then readlines sep (readline sep (file.drop (file.length - window))).2
  else readlines sep file

variable {sep} {l rest : List α} {ls : List (List α)}

omit [DecidableEq α] in
lemma IsLine.length_pos (h : IsLine sep l) : 0 < l.length := by
  obtain ⟨body, -, rfl⟩ := h
  simp

/-- Reading starts anywhere before the end of a line and stops behind it. -/
lemma readline_append {part : List α} (hpart : sep ∉ part) (rest : List α) :
    readline sep (part ++ sep :: rest) = (part ++ [sep], rest) := by
  induction part with
  | nil => exact if_pos rfl
  | cons x xs ih =>
    have hne : x ≠ sep := fun h => hpart (by simp [h])
    rw [List.cons_append, readline, if_neg hne,
      ih (List.not_mem_of_not_mem_cons hpart)]
    rfl

lemma readlines_append {part : List α} (hpart : sep ∉ part) (rest : List α) :
    readlines sep (part ++ sep :: rest) = (part ++ [sep]) :: readlines sep rest := by
  induction part with
  | nil => exact if_pos rfl
  | cons x xs ih =>
    have hne : x ≠ sep := fun h => hpart (by simp [h])
    rw [List.cons_append, readlines, if_neg hne,
      ih (List.not_mem_of_not_mem_cons hpart)]
    rfl

lemma readlines_line_append (h : IsLine sep l) (rest : List α) :
    readlines sep (l ++ rest) = l :: readlines sep rest := by
  obtain ⟨body, hbody, rfl⟩ := h
  rw [List.append_assoc, List.singleton_append]
  exact readlines_append hbody rest

/-- A file of whole lines is read as these lines. -/
lemma readlines_flatten (hlines : ∀ l ∈ ls, IsLine sep l) : readlines sep ls.flatten = ls := by
  induction ls with
  | nil => rfl
  | cons l ls ih =>
    rw [List.flatten_cons, readlines_line_append (hlines l List.mem_cons_self),
      ih fun l' hl' => hlines l' (List.mem_cons_of_mem _ hl')]

/-- From inside a line the reader goes to its end. -/
lemma readline_drop_line (h : IsLine sep l) {k : ℕ} (hk : k < l.length) (rest : List α) :
    (readline sep ((l ++ rest).drop k)).2 = rest := by
  obtain ⟨body, hbody, rfl⟩ := h
  rw [List.length_append, List.length_singleton] at hk
  rw [List.append_assoc, List.singleton_append, List.drop_append_of_le_length (by omega),
    readline_append fun hmem => hbody (List.mem_of_mem_drop hmem)]

end Reading

/-! ### The lines in a window -/

section Window

variable {γ : Type*} (size : γ → ℕ) (window : ℕ)

/-- The lines of which not more than the window follows, each line counted itself. -/
def inWindow : List γ → List γ
  | [] => []
  | line :: rest =>
    if ((line :: rest).map size).sum ≤ window then line :: inWindow rest else inWindow rest

variable {size window} {ls : List γ}

lemma inWindow_eq_self (h : (ls.map size).sum ≤ window) : inWindow size window ls = ls := by
  induction ls with
  | nil => rfl
  | cons line rest ih =>
    rw [inWindow, if_pos h, ih]
    rw [List.map_cons, List.sum_cons] at h
    omega

lemma inWindow_cons_of_lt {line : γ} (h : window < ((line :: ls).map size).sum) :
    inWindow size window (line :: ls) = inWindow size window ls := by
  rw [inWindow, if_neg (Nat.not_le.mpr h)]

lemma inWindow_map {β : Type*} (f : β → γ) (ls : List β) :
    inWindow size window (ls.map f) = (inWindow (size ∘ f) window ls).map f := by
  induction ls with
  | nil => rfl
  | cons line rest ih =>
    rw [List.map_cons, inWindow, inWindow, ih, ← List.map_cons, List.map_map]
    split <;> rfl

lemma inWindow_sublist (ls : List γ) : (inWindow size window ls).Sublist ls := by
  induction ls with
  | nil => exact .slnil
  | cons line rest ih =>
    rw [inWindow]
    split
    · exact ih.cons_cons line
    · exact ih.cons line

/-- A rest of the lines that fills the window is what lies in it. -/
lemma inWindow_append {before rest : List γ} (hpos : ∀ line ∈ before, 0 < size line)
    (hrest : (rest.map size).sum = window) : inWindow size window (before ++ rest) = rest := by
  induction before with
  | nil => exact inWindow_eq_self (Nat.le_of_eq hrest)
  | cons line before ih =>
    have hline := hpos line List.mem_cons_self
    have hlarge : window < ((line :: (before ++ rest)).map size).sum := by
      rw [List.map_cons, List.sum_cons, List.map_append, List.sum_append]
      omega
    rw [List.cons_append, inWindow_cons_of_lt hlarge]
    exact ih fun line' hline' => hpos line' (List.mem_cons_of_mem _ hline')

end Window

variable {α : Type*} [DecidableEq α] {sep : α} {window : ℕ}

/-- The reader of the tail reads the lines in the window, except that it loses the first of them
when the window begins with it. -/
theorem tailLines_cases {ls : List (List α)} (hlines : ∀ l ∈ ls, IsLine sep l)
    (hwindow : 0 < window) :
    (∃ before rest, ls = before ++ rest ∧ before ≠ [] ∧ (rest.map List.length).sum = window ∧
      inWindow List.length window ls = rest ∧ tailLines sep window ls.flatten = rest.tail) ∨
    ((∀ before rest, ls = before ++ rest → before ≠ [] → (rest.map List.length).sum ≠ window) ∧
      tailLines sep window ls.flatten = inWindow List.length window ls) := by
  induction ls with
  | nil =>
    refine .inr ⟨fun before rest h hbefore => ?_, rfl⟩
    exact absurd (List.append_eq_nil_iff.mp h.symm).1 hbefore
  | cons l ls ih =>
    have hl := hlines l List.mem_cons_self
    have hls : ∀ l' ∈ ls, IsLine sep l' := fun l' hl' => hlines l' (List.mem_cons_of_mem _ hl')
    have hpos := hl.length_pos
    have hlength : (l :: ls).flatten.length = l.length + (ls.map List.length).sum := by
      rw [List.length_flatten, List.map_cons, List.sum_cons]
    have hsum : ((l :: ls).map List.length).sum = l.length + (ls.map List.length).sum := by
      rw [List.map_cons, List.sum_cons]
    -- a proper rest of the lines is a rest of `ls`
    have hrest : ∀ before rest, l :: ls = before ++ rest → before ≠ [] →
        ∃ before', ls = before' ++ rest := by
      intro before rest h hbefore
      obtain ⟨x, before', rfl⟩ := List.exists_cons_of_ne_nil hbefore
      exact ⟨before', (List.cons_eq_cons.mp h).2⟩
    have hsuffix : ∀ before' rest, ls = before' ++ rest →
        (rest.map List.length).sum ≤ (ls.map List.length).sum := by
      rintro before' rest rfl
      rw [List.map_append, List.sum_append]
      omega
    rcases Nat.lt_or_ge window (l.length + (ls.map List.length).sum) with hlarge | hsmall
    · rw [tailLines, if_pos (by omega), inWindow_cons_of_lt (by omega), hlength]
      rcases Nat.lt_trichotomy (ls.map List.length).sum window with hinside | hstart | hlater
      · -- the window begins inside `l`
        refine .inr ⟨?_, ?_⟩
        · intro before rest h hbefore
          obtain ⟨before', hbefore'⟩ := hrest before rest h hbefore
          have := hsuffix before' rest hbefore'
          omega
        · rw [List.flatten_cons, readline_drop_line hl (by omega), readlines_flatten hls,
            inWindow_eq_self (by omega)]
      · -- the window begins with the first line of `ls`
        refine .inl ⟨[l], ls, rfl, List.cons_ne_nil _ _, hstart, inWindow_eq_self (by omega), ?_⟩
        have hdrop : l.length + (ls.map List.length).sum - window = l.length := by omega
        rw [hdrop, List.flatten_cons, List.drop_left]
        cases ls with
        | nil =>
          simp only [List.map_nil, List.sum_nil] at hstart
          omega
        | cons first rest =>
          have hfirst := readline_drop_line (hls first List.mem_cons_self)
            (hls first List.mem_cons_self).length_pos rest.flatten
          rw [List.drop_zero] at hfirst
          rw [List.flatten_cons, hfirst, List.tail_cons]
          exact readlines_flatten fun l' hl' => hls l' (List.mem_cons_of_mem _ hl')
      · -- the window begins later
        have hfile : ls.flatten.length = (ls.map List.length).sum := List.length_flatten
        have hdrop : (l :: ls).flatten.drop (l.length + (ls.map List.length).sum - window) =
            ls.flatten.drop (ls.flatten.length - window) := by
          rw [List.flatten_cons, List.drop_append, List.drop_eq_nil_of_le (by omega),
            List.nil_append, hfile]
          congr 1
          omega
        have htail : readlines sep (readline sep
            ((l :: ls).flatten.drop (l.length + (ls.map List.length).sum - window))).2 =
            tailLines sep window ls.flatten := by
          rw [hdrop, tailLines, if_pos (by omega)]
        rw [htail]
        rcases ih hls with ⟨before, rest, rfl, hbefore, hsize, hin, hread⟩ | ⟨hno, hread⟩
        · exact .inl ⟨l :: before, rest, rfl, List.cons_ne_nil _ _, hsize, hin, hread⟩
        · refine .inr ⟨?_, hread⟩
          intro before rest h hbefore
          obtain ⟨before', hbefore'⟩ := hrest before rest h hbefore
          by_cases hnil : before' = []
          · rw [hnil, List.nil_append] at hbefore'
            rw [← hbefore']
            omega
          · exact hno before' rest hbefore' hnil
    · -- the window holds the whole file
      refine .inr ⟨?_, ?_⟩
      · intro before rest h hbefore
        obtain ⟨before', hbefore'⟩ := hrest before rest h hbefore
        have := hsuffix before' rest hbefore'
        omega
      · rw [tailLines, if_neg (by omega), readlines_flatten hlines, inWindow_eq_self (by omega)]

end EcommerceAgent.Lib.LineFile
