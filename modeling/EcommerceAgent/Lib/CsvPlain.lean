/-
# Texts that `csv.reader` reads without quotes

The parser copies a double quote into a field or drops it, but never makes one.  So if the fields of
a text have as many quotes as the text, then no field was quoted, and therefore no field contains a
comma or a line break (`plain_of_reader`).  Fields of this kind, joined with commas and line feeds,
are read as they were (`reader_join`).
-/
import EcommerceAgent.Lib.Csv
import EcommerceAgent.Lib.Text
import Mathlib

namespace EcommerceAgent.Lib.Csv

/-- The number of double quotes. -/
def quotes (s : List Char) : ℕ := s.count '"'

/-- The number of double quotes in the fields of a record. -/
def recordQuotes (record : List String) : ℕ := (record.map fun s => quotes s.toList).sum

/-- The number of double quotes in the fields of some records. -/
def recordsQuotes (records : List (List String)) : ℕ := (records.map recordQuotes).sum

/-- A field that stands for itself in a text. -/
structure PlainField (s : List Char) : Prop where
  comma : ',' ∉ s
  newline : '\n' ∉ s
  carriage : '\r' ∉ s
  quote : s.head? ≠ some '"'
  length : s.length ≤ fieldLimit

@[simp] lemma quotes_nil : quotes [] = 0 := rfl

lemma quotes_cons (c : Char) (s : List Char) : quotes (c :: s) = quotes [c] + quotes s := by
  simp [quotes, List.count_cons, add_comm]

@[simp] lemma quotes_append (s t : List Char) : quotes (s ++ t) = quotes s + quotes t :=
  List.count_append

lemma plainField_nil : PlainField [] := ⟨by simp, by simp, by simp, by simp, by simp⟩

/-! ### Counting quotes -/

namespace Parser

variable {p p' : Parser}

/-- The quotes that the parser holds. -/
def quotes (p : Parser) : ℕ := recordQuotes p.fields + Csv.quotes p.field

lemma quotes_save (p : Parser) (state : State) : (p.save state).quotes = p.quotes := by
  simp [quotes, save, recordQuotes]

/-- A character that is added. -/
lemma add_eq_ok {state : State} {c : Char} (h : p.add state c = .ok p') :
    p.field.length < fieldLimit ∧ p' = ⟨state, p.fields, p.field ++ [c]⟩ := by
  unfold add at h
  split_ifs at h with hlimit
  exact ⟨by omega, (Except.ok.inj h).symm⟩

lemma quotes_add {state : State} {c : Char} (h : p.add state c = .ok p') :
    p'.quotes = p.quotes + Csv.quotes [c] := by
  obtain ⟨-, rfl⟩ := add_eq_ok h
  simp [quotes, add_assoc]

/-- What a character can do: nothing but drop it, end the field, or be added to the field. -/
lemma char_cases {c : Char} (h : p.char c = .ok p') :
    (p'.fields = p.fields ∧ p'.field = p.field) ∨ (∃ state, p' = p.save state) ∨
      ∃ state, p.add state c = .ok p' := by
  have hstart : p.startField c = .ok p' → (p'.fields = p.fields ∧ p'.field = p.field) ∨
      (∃ state, p' = p.save state) ∨ ∃ state, p.add state c = .ok p' := by
    intro h
    unfold startField at h
    split_ifs at h with hbreak hquote hcomma
    · exact .inr (.inl ⟨_, (Except.ok.inj h).symm⟩)
    · obtain rfl := Except.ok.inj h
      exact .inl ⟨rfl, rfl⟩
    · exact .inr (.inl ⟨_, (Except.ok.inj h).symm⟩)
    · exact .inr (.inr ⟨_, h⟩)
  unfold char at h
  split at h
  · split_ifs at h with hbreak
    · obtain rfl := Except.ok.inj h
      exact .inl ⟨rfl, rfl⟩
    · exact hstart h
  · exact hstart h
  · split_ifs at h with hbreak hcomma
    · exact .inr (.inl ⟨_, (Except.ok.inj h).symm⟩)
    · exact .inr (.inl ⟨_, (Except.ok.inj h).symm⟩)
    · exact .inr (.inr ⟨_, h⟩)
  · split_ifs at h with hquote
    · obtain rfl := Except.ok.inj h
      exact .inl ⟨rfl, rfl⟩
    · exact .inr (.inr ⟨_, h⟩)
  · split_ifs at h with hquote hcomma hbreak
    · exact .inr (.inr ⟨_, h⟩)
    · exact .inr (.inl ⟨_, (Except.ok.inj h).symm⟩)
    · exact .inr (.inl ⟨_, (Except.ok.inj h).symm⟩)
    · exact .inr (.inr ⟨_, h⟩)
  · split_ifs at h with hbreak
    obtain rfl := Except.ok.inj h
    exact .inl ⟨rfl, rfl⟩

lemma quotes_char {c : Char} (h : p.char c = .ok p') : p'.quotes ≤ p.quotes + Csv.quotes [c] := by
  rcases char_cases h with ⟨hfields, hfield⟩ | ⟨state, rfl⟩ | ⟨state, hadd⟩
  · rw [quotes, hfields, hfield]
    exact Nat.le_add_right _ _
  · rw [quotes_save]
    exact Nat.le_add_right _ _
  · exact Nat.le_of_eq (quotes_add hadd)

lemma endOfLine_cases (p : Parser) :
    ((p.endOfLine).fields = p.fields ∧ (p.endOfLine).field = p.field) ∨
      p.endOfLine = p.save .startRecord := by
  unfold endOfLine
  split
  · exact .inl ⟨rfl, rfl⟩
  · exact .inr rfl
  · exact .inr rfl
  · exact .inr rfl
  · exact .inl ⟨rfl, rfl⟩
  · exact .inl ⟨rfl, rfl⟩

lemma quotes_endOfLine (p : Parser) : p.endOfLine.quotes = p.quotes := by
  rcases endOfLine_cases p with ⟨hfields, hfield⟩ | h
  · rw [quotes, hfields, hfield, quotes]
  · rw [h, quotes_save]

lemma quotes_line {l : List Char} (h : line l p = .ok p') :
    p'.quotes ≤ p.quotes + Csv.quotes l := by
  induction l generalizing p with
  | nil =>
    obtain rfl := Except.ok.inj h
    exact Nat.le_of_eq (quotes_endOfLine p)
  | cons c cs ih =>
    unfold line at h
    split at h
    · cases h
    · rename_i q hq
      have hchar := quotes_char hq
      have hrest := ih h
      rw [quotes_cons]
      omega

/-! ### Parsers that have met no quoted field -/

/-- The parser has met no quoted field, and its characters have the property `S`. -/
structure Plain (S : Char → Prop) (p : Parser) : Prop where
  state : p.state ≠ .inQuotedField ∧ p.state ≠ .quoteInQuotedField
  field : PlainField p.field
  start : p.state ≠ .inField → p.field = []
  inside : p.state = .inField → p.field ≠ []
  fields : ∀ f ∈ p.fields, PlainField f.toList
  chars : ∀ c ∈ p.field, S c
  charsOf : ∀ f ∈ p.fields, ∀ c ∈ f.toList, S c

variable {S : Char → Prop}

lemma plain_init : Plain S init :=
  ⟨by simp [init], plainField_nil, fun _ => rfl, by simp [init], by simp [init], by simp [init],
    by simp [init]⟩

lemma Plain.save (h : Plain S p) {state : State} (hstate : state = .startRecord ∨
    state = .startField ∨ state = .eatCrnl) : Plain S (p.save state) where
  state := by rcases hstate with rfl | rfl | rfl <;> simp [Parser.save]
  field := plainField_nil
  start _ := rfl
  inside hin := by rcases hstate with rfl | rfl | rfl <;> cases hin
  fields f hf := by
    rcases List.mem_append.1 hf with hf | hf
    · exact h.fields f hf
    · obtain rfl := List.mem_singleton.1 hf
      simpa using h.field
  chars := by simp [Parser.save]
  charsOf f hf := by
    rcases List.mem_append.1 hf with hf | hf
    · exact h.charsOf f hf
    · obtain rfl := List.mem_singleton.1 hf
      simpa using h.chars

/-- A character that is neither a comma nor a break is added; it may be a quote inside a field. -/
lemma Plain.add (h : Plain S p) {c : Char} (hc : S c) (hcomma : c ≠ ',') (hnewline : c ≠ '\n')
    (hreturn : c ≠ '\r') (hquote : p.state ≠ .inField → c ≠ '"')
    (hadd : p.add .inField c = .ok p') : Plain S p' := by
  obtain ⟨hlength, rfl⟩ := add_eq_ok hadd
  refine ⟨by simp, ⟨?_, ?_, ?_, ?_, ?_⟩, by simp, by simp, h.fields, ?_, h.charsOf⟩
  · simpa using ⟨h.field.comma, hcomma.symm⟩
  · simpa using ⟨h.field.newline, hnewline.symm⟩
  · simpa using ⟨h.field.carriage, hreturn.symm⟩
  · by_cases hstate : p.state = .inField
    · obtain ⟨x, xs, hx⟩ := List.exists_cons_of_ne_nil (h.inside hstate)
      have hhead := h.field.quote
      rw [hx] at hhead ⊢
      simpa using hhead
    · rw [h.start hstate]
      simpa using hquote hstate
  · simpa [Nat.succ_le_iff] using hlength
  · intro x hx
    rcases List.mem_append.1 hx with hx | hx
    · exact h.chars x hx
    · obtain rfl := List.mem_singleton.1 hx
      exact hc

/-- A character that is not lost to a quoted field. -/
lemma Plain.char (h : Plain S p) {c : Char} (hc : S c) (hchar : p.char c = .ok p')
    (hquotes : p.quotes + Csv.quotes [c] ≤ p'.quotes) : Plain S p' := by
  have hstart : p.field = [] → p.state ≠ .inField → p.startField c = .ok p' → Plain S p' := by
    intro hfield hstate hchar
    unfold startField at hchar
    split_ifs at hchar with hbreak hquote hcomma
    · obtain rfl := Except.ok.inj hchar
      exact h.save (.inr (.inr rfl))
    · -- a quoted field begins, and its quote is lost
      obtain rfl := Except.ok.inj hchar
      subst hquote
      simp only [quotes, Csv.quotes, List.count_singleton_self] at hquotes
      omega
    · obtain rfl := Except.ok.inj hchar
      exact h.save (.inr (.inl rfl))
    · push Not at hbreak
      exact h.add hc hcomma hbreak.1 hbreak.2 (fun _ => hquote) hchar
  unfold Parser.char at hchar
  split at hchar
  · rename_i hstate
    have hfield : p.field = [] := h.start (by simp [hstate])
    split_ifs at hchar with hbreak
    · obtain rfl := Except.ok.inj hchar
      exact ⟨by simp, h.field, fun _ => hfield, by simp, h.fields, h.chars, h.charsOf⟩
    · exact hstart hfield (by simp [hstate]) hchar
  · rename_i hstate
    exact hstart (h.start (by simp [hstate])) (by simp [hstate]) hchar
  · rename_i hstate
    split_ifs at hchar with hbreak hcomma
    · obtain rfl := Except.ok.inj hchar
      exact h.save (.inr (.inr rfl))
    · obtain rfl := Except.ok.inj hchar
      exact h.save (.inr (.inl rfl))
    · push Not at hbreak
      exact h.add hc hcomma hbreak.1 hbreak.2 (fun hne => absurd hstate hne) hchar
  · rename_i hstate
    exact absurd hstate h.state.1
  · rename_i hstate
    exact absurd hstate h.state.2
  · split_ifs at hchar with hbreak
    obtain rfl := Except.ok.inj hchar
    exact h

lemma Plain.endOfLine (h : Plain S p) : Plain S p.endOfLine := by
  unfold Parser.endOfLine
  split
  · exact h
  · exact h.save (.inl rfl)
  · exact h.save (.inl rfl)
  · exact h.save (.inl rfl)
  · exact h
  · rename_i hstate
    exact ⟨by simp, h.field, fun _ => h.start (by simp [hstate]), by simp, h.fields, h.chars,
      h.charsOf⟩

lemma Plain.line (h : Plain S p) {l : List Char} (hl : ∀ c ∈ l, S c) (hline : line l p = .ok p')
    (hquotes : p.quotes + Csv.quotes l ≤ p'.quotes) : Plain S p' := by
  induction l generalizing p with
  | nil =>
    obtain rfl := Except.ok.inj hline
    exact h.endOfLine
  | cons c cs ih =>
    unfold Parser.line at hline
    split at hline
    · cases hline
    · rename_i q hq
      have hchar := quotes_char hq
      have hrest := quotes_line hline
      rw [quotes_cons] at hquotes
      refine ih (h.char (hl c List.mem_cons_self) hq ?_)
        (fun c hc => hl c (List.mem_cons_of_mem _ hc)) hline ?_ <;> omega

end Parser

/-- Reading makes no quotes. -/
lemma quotes_records {ls : List (List Char)} {p : Parser} {recs : List (List String)}
    (h : records ls p = .ok recs) : recordsQuotes recs ≤ p.quotes + (ls.map quotes).sum := by
  induction ls generalizing p recs with
  | nil =>
    unfold records at h
    split_ifs at h with hfield
    · obtain rfl := Except.ok.inj h
      have hsave := Parser.quotes_save p .startRecord
      simp only [Parser.quotes] at hsave
      simp [recordsQuotes, Parser.save, Parser.quotes, recordQuotes]
    · obtain rfl := Except.ok.inj h
      simp [recordsQuotes]
  | cons l ls ih =>
    unfold records at h
    split at h
    · cases h
    · rename_i p' hline
      have hl := Parser.quotes_line hline
      rw [List.map_cons, List.sum_cons]
      split_ifs at h with hstate
      · split at h
        · cases h
        · rename_i rest hrest
          obtain rfl := Except.ok.inj h
          have hrec := ih hrest
          have hinit : Parser.init.quotes = 0 := rfl
          have hfields : recordQuotes p'.fields ≤ p'.quotes := Nat.le_add_right _ _
          have hcons : recordsQuotes (p'.fields :: rest) =
              recordQuotes p'.fields + recordsQuotes rest := by simp [recordsQuotes]
          omega
      · have hrec := ih h
        omega

/-- Fields that have kept all quotes of the text are plain. -/
lemma plain_records {S : Char → Prop} {ls : List (List Char)} (hls : ∀ l ∈ ls, ∀ c ∈ l, S c)
    {p : Parser} (hp : p.Plain S) {recs : List (List String)} (h : records ls p = .ok recs)
    (hquotes : p.quotes + (ls.map quotes).sum ≤ recordsQuotes recs) :
    ∀ r ∈ recs, ∀ f ∈ r, PlainField f.toList ∧ ∀ c ∈ f.toList, S c := by
  induction ls generalizing p recs with
  | nil =>
    unfold records at h
    split_ifs at h with hfield
    · obtain rfl := Except.ok.inj h
      intro r hr f hf
      obtain rfl := List.mem_singleton.1 hr
      have hsave : (p.save .startRecord).Plain S := hp.save (.inl rfl)
      exact ⟨hsave.fields f hf, hsave.charsOf f hf⟩
    · obtain rfl := Except.ok.inj h
      simp
  | cons l ls ih =>
    unfold records at h
    split at h
    · cases h
    · rename_i p' hline
      have hl := Parser.quotes_line hline
      rw [List.map_cons, List.sum_cons] at hquotes
      split_ifs at h with hstate
      · split at h
        · cases h
        · rename_i rest hrest
          obtain rfl := Except.ok.inj h
          have hrec := quotes_records hrest
          have hinit : Parser.init.quotes = 0 := rfl
          have hfields : recordQuotes p'.fields ≤ p'.quotes := Nat.le_add_right _ _
          have hcons : recordsQuotes (p'.fields :: rest) =
              recordQuotes p'.fields + recordsQuotes rest := by simp [recordsQuotes]
          have hp' : p'.Plain S :=
            hp.line (hls l List.mem_cons_self) hline (by omega)
          intro r hr
          rcases List.mem_cons.1 hr with rfl | hr
          · exact fun f hf => ⟨hp'.fields f hf, hp'.charsOf f hf⟩
          · exact ih (fun l hl => hls l (List.mem_cons_of_mem _ hl)) Parser.plain_init hrest
              (by omega) r hr
      · have hrec := quotes_records h
        exact ih (fun l hl => hls l (List.mem_cons_of_mem _ hl))
          (hp.line (hls l List.mem_cons_self) hline (by omega)) h (by omega)

lemma flatten_splitKeepEnds (s : List Char) : (splitKeepEnds s).flatten = s := by
  induction s with
  | nil => rfl
  | cons c cs ih =>
    unfold splitKeepEnds
    split_ifs with hc
    · rw [List.flatten_cons, ih, hc]
      rfl
    · split
      · rename_i hnil
        rw [hnil] at ih
        simp [← ih]
      · rename_i l ls hcons
        rw [hcons] at ih
        simpa using ih

lemma quotes_flatten (ls : List (List Char)) : quotes ls.flatten = (ls.map quotes).sum := by
  induction ls with
  | nil => rfl
  | cons l ls ih => rw [List.flatten_cons, quotes_append, ih, List.map_cons, List.sum_cons]

/-- **If the fields have all quotes of the text, then they are plain**, and their characters are
characters of the text. -/
theorem plain_of_reader {text : String} {recs : List (List String)} (h : reader text = .ok recs)
    (hquotes : quotes text.toList ≤ recordsQuotes recs) :
    ∀ r ∈ recs, ∀ f ∈ r, PlainField f.toList ∧ ∀ c ∈ f.toList, c ∈ text.toList := by
  refine plain_records (fun l hl c hc => ?_) Parser.plain_init h ?_
  · rw [← flatten_splitKeepEnds text.toList]
    exact List.mem_flatten.2 ⟨l, hl, hc⟩
  · rw [← quotes_flatten, flatten_splitKeepEnds]
    simpa [Parser.quotes, Parser.init, recordQuotes] using hquotes

/-! ### Reading plain fields -/

/-- The line of a record. -/
def joinFields (fields : List (List Char)) : List Char := [','].intercalate fields

/-- The text of some lines. -/
def joinLines (lines : List (List Char)) : List Char := ['\n'].intercalate lines

/-- What is read of a record: an empty line has no field. -/
def readBack (fields : List (List Char)) : List String :=
  if joinFields fields = [] then [] else fields.map String.ofList

/-- What is read of the lines of some records: an empty line at the end is none. -/
def readAll : List (List (List Char)) → List (List String)
  | [] => []
  | [r] => if joinFields r = [] then [] else [readBack r]
  | r :: rs => readBack r :: readAll rs

namespace Parser

/-- The rest of a plain field is added to the field. -/
lemma line_inField {f : List Char} (hcomma : ',' ∉ f) (hnewline : '\n' ∉ f) (hcarriage : '\r' ∉ f)
    (fields : List String) {g : List Char} (hlength : g.length + f.length ≤ fieldLimit)
    (rest : List Char) :
    line (f ++ rest) ⟨.inField, fields, g⟩ = line rest ⟨.inField, fields, g ++ f⟩ := by
  induction f generalizing g with
  | nil => simp
  | cons c cs ih =>
    simp only [List.mem_cons, not_or] at hcomma hnewline hcarriage
    rw [List.length_cons] at hlength
    have hchar : char ⟨.inField, fields, g⟩ c = .ok ⟨.inField, fields, g ++ [c]⟩ := by
      have hlimit : ¬g.length ≥ fieldLimit := by omega
      simp [char, add, Ne.symm hcomma.1, Ne.symm hnewline.1, Ne.symm hcarriage.1, hlimit]
    rw [List.cons_append, line, hchar]
    simp only
    rw [ih hcomma.2 hnewline.2 hcarriage.2 (by simp; omega)]
    simp

/-- A plain field is read from its start. -/
lemma line_startField {f : List Char} (hf : PlainField f) (fields : List String)
    (rest : List Char) :
    line (f ++ rest) ⟨.startField, fields, []⟩ =
      line rest ⟨if f = [] then .startField else .inField, fields, f⟩ := by
  obtain ⟨hcomma, hnewline, hcarriage, hquote, hlength⟩ := hf
  cases f with
  | nil => simp
  | cons c cs =>
    simp only [List.mem_cons, not_or] at hcomma hnewline hcarriage
    simp only [List.head?_cons, ne_eq, Option.some.injEq] at hquote
    rw [List.length_cons] at hlength
    have hchar : char ⟨.startField, fields, []⟩ c = .ok ⟨.inField, fields, [c]⟩ := by
      simp [char, startField, add, Ne.symm hcomma.1, Ne.symm hnewline.1, Ne.symm hcarriage.1,
        hquote, fieldLimit]
    rw [List.cons_append, line, hchar]
    simp only
    rw [line_inField hcomma.2 hnewline.2 hcarriage.2 fields (by simp; omega)]
    simp

/-- The end of a line, with or without its line feed, ends a field. -/
lemma line_end {state : State} (hstate : state = .startField ∨ state = .inField)
    (fields : List String) (f : List Char) {e : List Char} (he : e = [] ∨ e = ['\n']) :
    line e ⟨state, fields, f⟩ = .ok ⟨.startRecord, fields ++ [String.ofList f], []⟩ := by
  rcases hstate with rfl | rfl <;> rcases he with rfl | rfl <;>
    simp [line, endOfLine, char, startField, save]

/-- A line of plain fields. -/
lemma line_fields {fields : List (List Char)} (hne : fields ≠ [])
    (hfields : ∀ f ∈ fields, PlainField f) {e : List Char} (he : e = [] ∨ e = ['\n'])
    (before : List String) :
    line (joinFields fields ++ e) ⟨.startField, before, []⟩ =
      .ok ⟨.startRecord, before ++ fields.map String.ofList, []⟩ := by
  induction fields generalizing before with
  | nil => exact absurd rfl hne
  | cons f fs ih =>
    have hf := hfields f List.mem_cons_self
    have hstate : ∀ g : List Char, (if g = [] then State.startField else .inField) = .startField ∨
        (if g = [] then State.startField else .inField) = .inField := by
      intro g
      split_ifs <;> simp
    cases fs with
    | nil =>
      have hjoin : joinFields [f] = f := by simp [joinFields]
      rw [hjoin, line_startField hf]
      exact line_end (hstate f) before f he
    | cons g gs =>
      have hjoin : joinFields (f :: g :: gs) = f ++ ',' :: joinFields (g :: gs) := by
        rw [joinFields, List.intercalate_cons_cons]
        simp [joinFields]
      have hcomma : char ⟨if f = [] then .startField else .inField, before, f⟩ ',' =
          .ok ⟨.startField, before ++ [String.ofList f], []⟩ := by
        rcases hstate f with h | h <;> rw [h] <;> simp [char, startField, save]
      rw [hjoin, List.append_assoc, line_startField hf, List.cons_append, line, hcomma]
      simp only
      rw [ih (by simp) (fun f hf => hfields f (List.mem_cons_of_mem _ hf))]
      simp

/-- A record that begins with an ordinary character begins with a field. -/
lemma line_init {c : Char} (hnewline : c ≠ '\n') (hcarriage : c ≠ '\r') (cs : List Char) :
    line (c :: cs) init = line (c :: cs) ⟨.startField, [], []⟩ := by
  have hchar : char init c = char ⟨.startField, [], []⟩ c := by
    simp [char, init, hnewline, hcarriage, startField, save, add]
  rw [line, line, hchar]

end Parser

lemma notMem_joinFields {fields : List (List Char)} {c : Char} (hc : c ≠ ',')
    (h : ∀ f ∈ fields, c ∉ f) : c ∉ joinFields fields := by
  intro hmem
  rcases Text.mem_intercalate hmem with ⟨hsep, -⟩ | ⟨f, hf, hmem⟩
  · exact hc hsep
  · exact h f hf hmem

/-- A line of plain fields is read as one record. -/
lemma line_joinFields {fields : List (List Char)} (hne : fields ≠ [])
    (hfields : ∀ f ∈ fields, PlainField f) {e : List Char} (he : e = [] ∨ e = ['\n']) :
    Parser.line (joinFields fields ++ e) .init = .ok ⟨.startRecord, readBack fields, []⟩ := by
  have hnewline : '\n' ∉ joinFields fields :=
    notMem_joinFields (by decide) fun f hf => (hfields f hf).newline
  have hcarriage : '\r' ∉ joinFields fields :=
    notMem_joinFields (by decide) fun f hf => (hfields f hf).carriage
  unfold readBack
  cases hline : joinFields fields with
  | nil =>
    rw [if_pos rfl]
    rcases he with rfl | rfl <;> simp [Parser.line, Parser.endOfLine, Parser.char, Parser.init]
  | cons c cs =>
    rw [hline] at hnewline hcarriage
    simp only [List.mem_cons, not_or] at hnewline hcarriage
    rw [if_neg (by simp), List.cons_append,
      Parser.line_init (Ne.symm hnewline.1) (Ne.symm hcarriage.1), ← List.cons_append, ← hline]
    simpa using Parser.line_fields hne hfields he []

lemma splitKeepEnds_append {l : List Char} (hl : '\n' ∉ l) (rest : List Char) :
    splitKeepEnds (l ++ '\n' :: rest) = (l ++ ['\n']) :: splitKeepEnds rest := by
  induction l with
  | nil => simp [splitKeepEnds]
  | cons c cs ih =>
    simp only [List.mem_cons, not_or] at hl
    rw [List.cons_append, splitKeepEnds, if_neg (Ne.symm hl.1), ih hl.2]
    rfl

lemma splitKeepEnds_line {l : List Char} (hl : '\n' ∉ l) :
    splitKeepEnds l = if l = [] then [] else [l] := by
  induction l with
  | nil => rfl
  | cons c cs ih =>
    simp only [List.mem_cons, not_or] at hl
    rw [splitKeepEnds, if_neg (Ne.symm hl.1), ih hl.2]
    cases cs <;> simp

/-- **Plain fields are read as they were**, up to empty lines. -/
theorem reader_join {rs : List (List (List Char))} (hne : ∀ r ∈ rs, r ≠ [])
    (hplain : ∀ r ∈ rs, ∀ f ∈ r, PlainField f) :
    reader (String.ofList (joinLines (rs.map joinFields))) = .ok (readAll rs) := by
  rw [reader, String.toList_ofList]
  induction rs with
  | nil => simp [joinLines, splitKeepEnds, records, readAll, Parser.init]
  | cons r rs ih =>
    have hr := hne r List.mem_cons_self
    have hfields := hplain r List.mem_cons_self
    have hnewline : '\n' ∉ joinFields r :=
      notMem_joinFields (by decide) fun f hf => (hfields f hf).newline
    cases rs with
    | nil =>
      have hjoin : joinLines ([r].map joinFields) = joinFields r := by simp [joinLines]
      rw [hjoin, splitKeepEnds_line hnewline]
      split_ifs with hempty
      · simp [records, readAll, hempty, Parser.init]
      · have hline := line_joinFields hr hfields (.inl rfl)
        rw [List.append_nil] at hline
        rw [records, hline]
        simp [records, readAll, hempty, Parser.init]
    | cons r' rs =>
      have hjoin : joinLines ((r :: r' :: rs).map joinFields) =
          joinFields r ++ '\n' :: joinLines ((r' :: rs).map joinFields) := by
        rw [joinLines, List.map_cons, List.map_cons, List.intercalate_cons_cons]
        simp [joinLines]
      have hrest := ih (fun r hr => hne r (List.mem_cons_of_mem _ hr))
        fun r hr => hplain r (List.mem_cons_of_mem _ hr)
      rw [hjoin, splitKeepEnds_append hnewline, records,
        line_joinFields hr hfields (.inr rfl)]
      simp only [if_true, hrest]
      rfl

end EcommerceAgent.Lib.Csv
