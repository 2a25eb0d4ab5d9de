/-
# The time ranges of the business metrics

`parse_business_time_range` of `agent/tools/business_metrics.py` finds a time range in a question,
and `_time_range` of `agent/tools/toolbox/business_tools.py` reads the one that a tool is called
with.  The first looks for fixed words before it looks for a number of days, so that `最近17天` is
taken for `7天`; the second takes any number, and falls back to the first.  They agree on `N` days
exactly if `N` is in range and, in a Chinese question, does not end with another 7
(`timeRanges_iff`).
-/
import EcommerceAgent.Lib.PyInt

open EcommerceAgent.Lib

namespace EcommerceAgent.Database.TimeRange

/-- `BusinessTimeRange`. -/
structure BusinessTimeRange where
  label : String
  days : ℤ
  offsetDays : ℤ := 0
  customNote : String := ""
  campaignKeyword : String := ""
deriving DecidableEq, Repr

/-- `query.lower().replace(" ", "")`. -/
def compactQuery (query : String) : List Char := (Text.lower query.toList).filter (· ≠ ' ')

/-- `any(keyword in text for keyword in keywords)`. -/
def hasAny (keywords : List String) (text : List Char) : Bool :=
  keywords.any fun keyword => Text.contains text keyword.toList

/-- The keywords of the three first rungs, one after the other. -/
def todayWords : List String := ["今天", "今日", "today"]

/-- See `todayWords`. -/
def yesterdayWords : List String := ["昨天", "昨日", "yesterday"]

/-- See `todayWords`. -/
def weekWords : List String := ["本周", "thisweek", "week"]

/-- The keywords of seven days. -/
def sevenDaysWords : List String := ["最近7天", "近7天", "7天", "last7d", "last_7d"]

/-- The keywords of the campaign of November. -/
def novemberWords : List String := ["双十一", "11.11", "1111"]

/-- All keywords. -/
def timeWords : List String :=
  todayWords ++ yesterdayWords ++ weekWords ++ sevenDaysWords ++ ["618"] ++ novemberWords ++ ["大促"]

variable (D : Decimals)

/-- What `word(\d+)` captures at the front of a text. -/
def captureWord (text word : List Char) : Option (List Char) :=
  (word.isPrefixOf? text).bind fun rest =>
    if rest.takeWhile D.isDecimal = [] then none else some (rest.takeWhile D.isDecimal)

/-- What `(?:最近|近|last)(\d+)` captures at the front of a text. -/
def captureDays (text : List Char) : Option (List Char) :=
  (captureWord D text "最近".toList).or
    ((captureWord D text "近".toList).or (captureWord D text "last".toList))

/-- What `re.search(r"(?:最近|近|last)(\d+)(?:天|d|day|days)?", text)` captures. -/
def searchDays : List Char → Option (List Char)
  | [] => none
  | c :: text => (captureDays D (c :: text)).or (searchDays text)

/-- A campaign. -/
def campaign (keyword : String) : BusinessTimeRange where
  label := "custom"
  days := 30
  customNote := "campaign_period_keyword"
  campaignKeyword := keyword

/-- `max(1, min(n, 365))`. -/
def clampDays (n : ℤ) : ℤ := max 1 (min n 365)

/-- `parse_business_time_range`, or `none` if `int` raises. -/
def parseBusinessTimeRange (query : String) : Option BusinessTimeRange :=
  let compact := compactQuery query
  if hasAny todayWords compact then some { label := "today", days := 1 }
  else if hasAny yesterdayWords compact then
    some { label := "yesterday", days := 1, offsetDays := 1 }
  else if hasAny weekWords compact then some { label := "last_7d", days := 7 }
  else if hasAny sevenDaysWords compact then some { label := "last_7d", days := 7 }
  else if hasAny ["618"] compact then some (campaign "618")
  else if hasAny novemberWords compact then some (campaign "双十一")
  else if hasAny ["大促"] compact then some (campaign "大促")
  else
    match searchDays D compact with
    | some digits => (D.int? digits).map fun n =>
      { label := "custom"
        days := clampDays n
        customNote := "last_" ++ toString (clampDays n) ++ "d" }
    | none => some { label := "last_30d", days := 30 }

/-- The texts of the parameters that `_time_range` reads; a missing one is empty. -/
structure Params where
  timeRange : String := ""
  query : String := ""
deriving DecidableEq, Repr

/-- `label[5:-1]`, if the label starts with `last_` and ends with `d`. -/
def lastPart (label : List Char) : Option (List Char) :=
  if "last_".toList.isPrefixOf label && "d".toList.isSuffixOf label then
    some ((label.drop 5).dropLast)
  else none

/-- The number in a label of the form `last_…d`, if `int` accepts it. -/
def lastDays (label : String) : Option ℤ := (lastPart label.toList).bind D.int?

/-- `_time_range`. -/
def timeRange (params : Params) : Option BusinessTimeRange :=
  match lastDays D params.timeRange with
  | some n => some { label := params.timeRange, days := n }
  | none =>
    if params.timeRange = "today" then some { label := "today", days := 1 }
    else if params.timeRange = "yesterday" then
      some { label := "yesterday", days := 1, offsetDays := 1 }
    else parseBusinessTimeRange D (if params.query = "" then params.timeRange else params.query)

/-! ### What is claimed -/

/-- The forms of a number of days in a question. -/
inductive Form
  /-- `最近N天` -/
  | recent
  /-- `近N天` -/
  | near
  /-- `last N d` -/
  | last
deriving DecidableEq, Repr

/-- The text before the number. -/
def Form.word : Form → List Char
  | recent => "最近".toList
  | near => "近".toList
  | last => "last".toList

/-- The character after the number. -/
def Form.unit : Form → Char
  | recent => '天'
  | near => '天'
  | last => 'd'

/-- A piece of a compact question in which the parser finds nothing. -/
structure Free (text : List Char) : Prop where
  words : ∀ word ∈ timeWords, ¬ word.toList <:+: text
  search : searchDays D text = none

/-- The only time expression of the question is the one of `n` days. -/
def OnlyDays (form : Form) (n : ℕ) (query : String) : Prop := ∃ before after,
  compactQuery query = before ++ (form.word ++ Nat.toDigits 10 n ++ form.unit :: after) ∧
    Free D before ∧ Free D after

/-- The parameter of `n` days. -/
def lastLabel (n : ℕ) : String := "last_" ++ toString n ++ "d"

/-- The range covers the `n` days up to now, cut to a year. -/
structure Covers (n : ℕ) (range : BusinessTimeRange) : Prop where
  days : range.days = clampDays n
  offset : range.offsetDays = 0
  campaign : range.campaignKeyword = ""

/-- Both parsers understand the same `n`. -/
def Agree (n : ℕ) (query : String) (params : Params) : Prop :=
  (∃ range, parseBusinessTimeRange D query = some range ∧ Covers n range) ∧
    ∃ range, timeRange D params = some range ∧ Covers n range

/-- The texts that `_time_range` is made for. -/
def Known (label : String) : Prop := label = "today" ∨ label = "yesterday" ∨
  ∃ digits, digits ≠ [] ∧ (∀ c ∈ digits, c.isDigit = true) ∧
    label.toList = "last_".toList ++ digits ++ ['d']

/-- The days of a range are among the last 365. -/
def InRange (range : BusinessTimeRange) : Prop := 1 ≤ range.days ∧ range.days ≤ 365

/-- What the two parsers have in common. -/
structure TimeRangesAgree : Prop where
  /-- Both understand the same number of days. -/
  days : ∀ form n query params, OnlyDays D form n query → params.timeRange = lastLabel n →
    Agree D n query params
  /-- A parameter of an unknown form is read like a question. -/
  fallback : ∀ params : Params, ¬ Known params.timeRange → timeRange D params =
    parseBusinessTimeRange D (if params.query = "" then params.timeRange else params.query)
  /-- No question has more or less days. -/
  parse : ∀ query, ∀ range ∈ parseBusinessTimeRange D query, InRange range
  /-- No parameter has more or less days. -/
  range : ∀ params, ∀ range ∈ timeRange D params, InRange range

/-! ### Which keywords a question contains -/

lemma hasAny_iff {keywords : List String} {text : List Char} :
    hasAny keywords text = true ↔ ∃ word ∈ keywords, word.toList <:+: text := by
  simp [hasAny, List.any_eq_true, Text.contains_iff]

variable {D} {form : Form} {n : ℕ} {before after digits : List Char}

/-- The digits of a number, as the lemmas below use them. -/
lemma isDigit_digits (n : ℕ) : ∀ c ∈ Nat.toDigits 10 n, c.isDigit = true :=
  fun _ hc => Nat.isDigit_of_mem_toDigits (by omega) (by omega) hc

lemma exists_word (form : Form) :
    ∃ c rest, form.word = c :: rest ∧ c ∈ "最近l".toList := by
  cases form with
  | recent => exact ⟨'最', ['近'], rfl, by decide⟩
  | near => exact ⟨'近', [], rfl, by decide⟩
  | last => exact ⟨'l', ['a', 's', 't'], rfl, by decide⟩

-- The characters of a word are checked one by one, not by a search among all characters.
local instance (priority := 2000) decidableForallMemList {α : Type} {p : α → Prop}
    [DecidablePred p] (l : List α) : Decidable (∀ x ∈ l, p x) :=
  List.decidableBAll p l

local instance (priority := 2000) decidableForallMemOption {α : Type} {p : α → Prop}
    [DecidablePred p] (o : Option α) : Decidable (∀ x ∈ o, p x) :=
  Option.decidableForallMem o

/-- A word that has no `最`, `近` or `l` inside does not reach from the front into the expression. -/
lemma infix_behind {word : List Char} (htail : ∀ c ∈ "最近l".toList, c ∉ word.tail)
    (h : word <:+: before ++ (form.word ++ digits ++ form.unit :: after)) :
    word <:+: before ∨ word <:+: form.word ++ (digits ++ form.unit :: after) := by
  obtain ⟨c, rest, hform, hc⟩ := exists_word form
  rw [List.append_assoc, hform, List.cons_append, Text.infix_append_cons (htail c hc)] at h
  rw [hform, List.cons_append]
  exact h

/-- If it does not begin with a character of `最近` or `last` either, the text before the number can
be skipped. -/
lemma infix_number {word : List Char} (hword : word ≠ [])
    (hhead : ∀ c ∈ "最近last".toList, word.head? ≠ some c)
    (htail : ∀ c ∈ "最近l".toList, c ∉ word.tail)
    (h : word <:+: before ++ (form.word ++ digits ++ form.unit :: after)) :
    word <:+: before ∨ word <:+: digits ++ form.unit :: after := by
  have hskip : ∀ c ∈ form.word, word.head? ≠ some c := by
    intro c hc
    refine hhead c ?_
    revert c
    cases form <;> decide
  refine (infix_behind htail h).imp_right fun h => ?_
  rwa [Text.infix_append_of_head?_ne hword hskip] at h

/-- Digits can be skipped by a word that begins with no digit. -/
lemma infix_skip_digits {word text : List Char} (hword : word ≠ [])
    (hdigit : ∀ c ∈ word.head?, c.isDigit = false) (hdigits : ∀ c ∈ digits, c.isDigit = true) :
    word <:+: digits ++ text ↔ word <:+: text := by
  refine Text.infix_append_of_head?_ne hword fun c hc heq => ?_
  have hfalse := hdigit c heq
  rw [hdigits c hc] at hfalse
  cases hfalse

/-- The keywords that nothing in an expression looks like. -/
def plainWords : List String :=
  ["今天", "今日", "昨天", "昨日", "yesterday", "本周", "week", "双十一", "大促"]

/-- They are found only outside the expression. -/
lemma infix_of_plain {word : String} (hplain : word ∈ plainWords)
    (hdigits : ∀ c ∈ digits, c.isDigit = true)
    (h : word.toList <:+: before ++ (form.word ++ digits ++ form.unit :: after)) :
    word.toList <:+: before ∨ word.toList <:+: after := by
  have hword : ∀ word ∈ plainWords, word.toList ≠ [] ∧
      (∀ c ∈ "最近last".toList, word.toList.head? ≠ some c) ∧
      (∀ c ∈ "最近l".toList, c ∉ word.toList.tail) ∧
      (∀ c ∈ word.toList.head?, c.isDigit = false) ∧
      ∀ c ∈ ['天', 'd'], word.toList.head? ≠ some c := by
    decide
  obtain ⟨hne, hhead, htail, hdigit, hunit⟩ := hword word hplain
  refine (infix_number hne hhead htail h).imp_right fun h => ?_
  rw [infix_skip_digits hne hdigit hdigits, Text.infix_cons_of_head?_ne hne] at h
  · exact h
  · refine hunit _ ?_
    cases form <;> decide

/-- So is `today`: the `t` of `last` is followed by a digit. -/
lemma infix_today (hne : digits ≠ []) (hdigits : ∀ c ∈ digits, c.isDigit = true)
    (h : "today".toList <:+: before ++ (form.word ++ digits ++ form.unit :: after)) :
    "today".toList <:+: before ∨ "today".toList <:+: after := by
  have hfirst : ∀ {x y : List Char}, (∀ c ∈ x, "today".toList.head? ≠ some c) →
      "today".toList <:+: x ++ y → "today".toList <:+: y := by
    intro x y hx hxy
    exact (Text.infix_append_of_head?_ne (by decide) hx).mp hxy
  refine (infix_behind (by decide) h).imp_right fun h => ?_
  have hbehind : "today".toList <:+: digits ++ form.unit :: after := by
    cases form with
    | recent => exact hfirst (x := ['最', '近']) (by decide) h
    | near => exact hfirst (x := ['近']) (by decide) h
    | last =>
      have ht : "today".toList <:+: 't' :: (digits ++ Form.last.unit :: after) :=
        hfirst (x := ['l', 'a', 's']) (by decide) h
      rcases List.infix_cons_iff.mp ht with hprefix | hinfix
      · exfalso
        obtain ⟨c, rest, rfl⟩ := List.exists_cons_of_ne_nil hne
        have ho : 'o' = c := by
          have htail := (List.cons_prefix_cons.mp hprefix).2
          exact (List.cons_prefix_cons.mp htail).1
        have hdigit := hdigits c List.mem_cons_self
        rw [← ho] at hdigit
        revert hdigit
        decide
      · exact hinfix
  rw [infix_skip_digits (by decide) (by decide) hdigits, Text.infix_cons_of_head?_ne] at hbehind
  · exact hbehind
  · decide
  · cases form <;> decide

/-- A word of digits and dots is found in the number or outside the expression. -/
lemma infix_numeral {word : String} (hword : word ∈ ["618", "11.11", "1111"])
    (h : word.toList <:+: before ++ (form.word ++ digits ++ form.unit :: after)) :
    word.toList <:+: before ∨ word.toList <:+: digits ∨ word.toList <:+: after := by
  have hall : ∀ word ∈ ["618", "11.11", "1111"], word.toList ≠ [] ∧
      (∀ c ∈ "最近last".toList, word.toList.head? ≠ some c) ∧
      (∀ c ∈ "最近l".toList, c ∉ word.toList.tail) ∧ ∀ c ∈ ['天', 'd'], c ∉ word.toList := by
    decide
  obtain ⟨hne, hhead, htail, hunit⟩ := hall word hword
  refine (infix_number hne hhead htail h).imp_right fun h => ?_
  rw [Text.infix_append_cons_of_notMem hne] at h
  · exact h
  · refine hunit _ ?_
    cases form <;> decide

/-- `7天` is found in a Chinese expression whose number ends with 7, or outside the expression. -/
lemma infix_seven (hdigits : ∀ c ∈ digits, c.isDigit = true)
    (h : "7天".toList <:+: before ++ (form.word ++ digits ++ form.unit :: after)) :
    "7天".toList <:+: before ∨ (form.unit = '天' ∧ digits.getLast? = some '7') ∨
      "7天".toList <:+: after := by
  have hnot : ∀ {l : List Char}, (∀ c ∈ l, c.isDigit = true) → ¬ "7天".toList <:+: l := by
    intro l hl hinfix
    have hmem : '天' ∈ l := hinfix.subset (by decide)
    have hfalse := hl '天' hmem
    revert hfalse
    decide
  refine (infix_number (by decide) (by decide) (by decide) h).imp_right fun h => ?_
  by_cases hunit : form.unit = '天'
  · rcases List.eq_nil_or_concat digits with rfl | ⟨front, c, rfl⟩
    · rw [hunit, List.nil_append, Text.infix_cons_of_head?_ne (by decide) (by decide)] at h
      exact .inr h
    · by_cases hc : c = '7'
      · exact .inl ⟨hunit, by simp [hc]⟩
      · -- The word cannot begin before the last digit, nor at it.
        have hcdigit : c.isDigit = true := hdigits c (by simp)
        have hctail : c ∉ "7天".toList.tail := by
          intro hmem
          have hcunit : c = '天' := by simpa using hmem
          rw [hcunit] at hcdigit
          revert hcdigit
          decide
        rw [List.concat_eq_append, List.append_assoc, List.singleton_append,
          Text.infix_append_cons hctail] at h
        rcases h with h | h
        · exact absurd h (hnot fun c' hc' => hdigits c' (by simp [hc']))
        · rw [Text.infix_cons_of_head?_ne (by decide) (by simpa using fun h => hc h.symm), hunit,
            Text.infix_cons_of_head?_ne (by decide) (by decide)] at h
          exact .inr h
  · have hd : form.unit = 'd' := by
      cases form with
      | recent => exact absurd rfl hunit
      | near => exact absurd rfl hunit
      | last => rfl
    rw [hd, Text.infix_append_cons_of_notMem (by decide) (by decide)] at h
    exact .inr (h.resolve_left (hnot hdigits))

/-- `last7d` and `last_7d` are found only in the expression of seven days, or outside. -/
lemma infix_last {word : String} (hword : word ∈ ["last7d", "last_7d"]) (hne : digits ≠ [])
    (hdigits : ∀ c ∈ digits, c.isDigit = true)
    (h : word.toList <:+: before ++ (form.word ++ digits ++ form.unit :: after)) :
    word.toList <:+: before ∨ digits = ['7'] ∨ word.toList <:+: after := by
  have hall : ∀ word ∈ ["last7d", "last_7d"], word.toList ≠ [] ∧ word.toList.head? = some 'l' ∧
      (∀ c ∈ "最近l".toList, c ∉ word.toList.tail) := by
    decide
  obtain ⟨hwne, hhead, htail⟩ := hall word hword
  -- No character behind the first one of the expression is an `l`.
  have hrest : ∀ {x : List Char}, 'l' ∉ x → word.toList <:+: x ++ (digits ++ form.unit :: after) →
      word.toList <:+: after := by
    intro x hx hinfix
    have hskip : ∀ c ∈ x ++ digits ++ [form.unit], word.toList.head? ≠ some c := by
      intro c hc heq
      obtain rfl : 'l' = c := by rw [hhead] at heq; exact Option.some.inj heq
      simp only [List.mem_append, List.mem_singleton] at hc
      rcases hc with (hc | hc) | hc
      · exact hx hc
      · exact absurd (hdigits 'l' hc) (by decide)
      · revert hc
        cases form <;> decide
    refine (Text.infix_append_of_head?_ne hwne hskip).mp ?_
    simpa using hinfix
  refine (infix_behind htail h).imp_right fun h => ?_
  cases form with
  | recent => exact .inr (hrest (x := ['最', '近']) (by decide) h)
  | near => exact .inr (hrest (x := ['近']) (by decide) h)
  | last =>
    rcases List.infix_cons_iff.mp (show word.toList <:+: 'l' :: (['a', 's', 't'] ++ _) from h) with
      hprefix | hinfix
    · left
      obtain ⟨c, rest, rfl⟩ := List.exists_cons_of_ne_nil hne
      have hcdigit := hdigits c List.mem_cons_self
      simp only [List.mem_cons, List.not_mem_nil, or_false] at hword
      rcases hword with rfl | rfl
      · have hseven : ['7', 'd'] <+: c :: rest ++ 'd' :: after := by
          have h1 := (List.cons_prefix_cons.mp hprefix).2
          have h2 := (List.cons_prefix_cons.mp h1).2
          have h3 := (List.cons_prefix_cons.mp h2).2
          exact (List.cons_prefix_cons.mp h3).2
        obtain ⟨rfl, hd⟩ := List.cons_prefix_cons.mp hseven
        cases rest with
        | nil => rfl
        | cons c' rest =>
          obtain ⟨rfl, -⟩ := List.cons_prefix_cons.mp hd
          exact absurd (hdigits 'd' (by simp)) (by decide)
      · exfalso
        have h1 := (List.cons_prefix_cons.mp hprefix).2
        have h2 := (List.cons_prefix_cons.mp h1).2
        have h3 := (List.cons_prefix_cons.mp h2).2
        have h4 := (List.cons_prefix_cons.mp h3).2
        obtain ⟨rfl, -⟩ := List.cons_prefix_cons.mp h4
        exact absurd hcdigit (by decide)
    · exact .inr (hrest (by decide) hinfix)

/-! ### The search for a number of days -/

lemma not_isDecimal_unit (form : Form) : D.isDecimal form.unit = false := by
  have hd : D.value 'd' = none := D.value_ascii 'd' (by decide)
  have hday : D.value '天' = none := D.value_han '天' (by decide) (by decide)
  cases form with
  | recent => rw [Decimals.isDecimal, Form.unit, hday]; rfl
  | near => rw [Decimals.isDecimal, Form.unit, hday]; rfl
  | last => rw [Decimals.isDecimal, Form.unit, hd]; rfl

/-- The digits of an expression end at its unit. -/
lemma takeWhile_digits (hdigits : ∀ c ∈ digits, c.isDigit = true) (form : Form)
    (after : List Char) : (digits ++ form.unit :: after).takeWhile D.isDecimal = digits := by
  rw [List.takeWhile_append_of_pos fun c hc => D.isDecimal_of_isDigit (hdigits c hc),
    List.takeWhile_cons_of_neg (by simp [not_isDecimal_unit]), List.append_nil]

lemma captureWord_append {word rest : List Char} : captureWord D (word ++ rest) word =
    if rest.takeWhile D.isDecimal = [] then none else some (rest.takeWhile D.isDecimal) := by
  rw [captureWord, List.isPrefixOf?_eq_some_iff_append_eq.mpr rfl]
  rfl

/-- The expression at the front of a text is captured. -/
lemma captureDays_expression (hne : digits ≠ []) (hdigits : ∀ c ∈ digits, c.isDigit = true)
    (form : Form) (after : List Char) :
    captureDays D (form.word ++ (digits ++ form.unit :: after)) = some digits := by
  have hself : captureWord D (form.word ++ (digits ++ form.unit :: after)) form.word =
      some digits := by
    rw [captureWord_append, takeWhile_digits hdigits, if_neg hne]
  rw [captureDays]
  cases form with
  | recent =>
    have hfirst : captureWord D (Form.recent.word ++ (digits ++ Form.recent.unit :: after))
        "最近".toList = some digits := hself
    rw [hfirst]
    rfl
  | near =>
    have hfirst : captureWord D (Form.near.word ++ (digits ++ Form.near.unit :: after))
        "最近".toList = none := rfl
    have hsecond : captureWord D (Form.near.word ++ (digits ++ Form.near.unit :: after))
        "近".toList = some digits := hself
    rw [hfirst, hsecond]
    rfl
  | last =>
    have hfirst : captureWord D (Form.last.word ++ (digits ++ Form.last.unit :: after))
        "最近".toList = none := rfl
    have hsecond : captureWord D (Form.last.word ++ (digits ++ Form.last.unit :: after))
        "近".toList = none := rfl
    rw [hfirst, hsecond]
    exact hself

/-- Where nothing was captured before, the expression behind is, or still nothing. -/
lemma captureWord_before (hne : digits ≠ []) (hdigits : ∀ c ∈ digits, c.isDigit = true)
    {word x : List Char} (hword : word ∈ ["最近".toList, "近".toList, "last".toList]) (hx : x ≠ [])
    (h : captureWord D x word = none) :
    captureWord D (x ++ (form.word ++ (digits ++ form.unit :: after))) word = none ∨
      captureWord D (x ++ (form.word ++ (digits ++ form.unit :: after))) word = some digits := by
  obtain ⟨c, front, hform, hc⟩ := exists_word form
  have hcdecimal : D.isDecimal c = false := by
    have hall : ∀ c ∈ "最近l".toList, D.isDecimal c = false := by
      intro c hc
      have hl : D.value 'l' = none := D.value_ascii 'l' (by decide)
      have h1 : D.value '最' = none := D.value_han '最' (by decide) (by decide)
      have h2 : D.value '近' = none := D.value_han '近' (by decide) (by decide)
      have hmem : c = '最' ∨ c = '近' ∨ c = 'l' := by simpa using hc
      rcases hmem with rfl | rfl | rfl
      · rw [Decimals.isDecimal, h1]; rfl
      · rw [Decimals.isDecimal, h2]; rfl
      · rw [Decimals.isDecimal, hl]; rfl
    exact hall c hc
  cases hprefix : word.isPrefixOf? (x ++ (form.word ++ (digits ++ form.unit :: after))) with
  | none =>
    left
    rw [captureWord, hprefix]
    rfl
  | some rest =>
    have heq := List.isPrefixOf?_eq_some_iff_append_eq.mp hprefix
    rcases List.append_eq_append_iff.mp heq with ⟨x', rfl, hrest⟩ | ⟨w', rfl, hrest⟩
    · -- The word lies before the expression, which begins with no digit.
      left
      rw [captureWord_append] at h
      have hnil : x'.takeWhile D.isDecimal = [] := by
        by_contra hnil
        rw [if_neg hnil] at h
        cases h
      rw [List.append_assoc, captureWord_append, if_pos]
      cases x' with
      | nil =>
        rw [List.nil_append, hform, List.cons_append, List.takeWhile_cons_of_neg]
        simp [hcdecimal]
      | cons d x' =>
        have hd : ¬ D.isDecimal d = true := by
          intro hd
          rw [List.takeWhile_cons_of_pos hd] at hnil
          cases hnil
        rw [List.cons_append, List.takeWhile_cons_of_neg hd]
    · -- The word reaches into the expression: it is `最近`, and the expression begins with `近`.
      cases w' with
      | nil =>
        left
        rw [List.append_nil, captureWord_append, if_pos]
        rw [hform, List.cons_append, List.takeWhile_cons_of_neg]
        simp [hcdecimal]
      | cons d w' =>
        rw [hform, List.cons_append, List.cons_append, List.cons_eq_cons] at hrest
        obtain ⟨rfl, hrest⟩ := hrest
        simp only [List.mem_cons, List.not_mem_nil, or_false] at hword
        rcases hword with hword | hword | hword
        · obtain ⟨rfl, rfl, rfl⟩ : x = ['最'] ∧ c = '近' ∧ w' = [] := by
            cases x with
            | nil => exact absurd rfl hx
            | cons a x =>
              cases x with
              | nil =>
                rw [List.singleton_append] at hword
                obtain ⟨rfl, rfl, rfl⟩ : a = '最' ∧ c = '近' ∧ w' = [] := by simpa using hword
                exact ⟨rfl, rfl, rfl⟩
              | cons b x =>
                have hlength := congrArg List.length hword
                simp at hlength
          obtain rfl : form = .near := by
            cases form with
            | recent => exact absurd (congrArg List.head? hform) (by simp [Form.word])
            | near => rfl
            | last => exact absurd (congrArg List.head? hform) (by simp [Form.word])
          right
          have hself : captureWord D (['最', '近'] ++ (digits ++ Form.near.unit :: after))
              ['最', '近'] = some digits := by
            rw [captureWord_append, takeWhile_digits hdigits, if_neg hne]
          exact hself
        · have hlength := congrArg List.length hword
          have hpos := List.length_pos_of_ne_nil hx
          simp at hlength
          omega
        · exfalso
          have hmem : c ∈ ['a', 's', 't'] := by
            cases x with
            | nil => exact absurd rfl hx
            | cons a x =>
              have htail := congrArg List.tail hword
              rw [List.cons_append, List.tail_cons] at htail
              have hin : c ∈ x ++ c :: w' := by simp
              rw [htail] at hin
              exact hin
          have hnone : ∀ c ∈ ['a', 's', 't'], c ∉ "最近l".toList := by decide
          exact hnone c hmem hc

/-- The search finds the number of the expression. -/
lemma searchDays_expression (hne : digits ≠ []) (hdigits : ∀ c ∈ digits, c.isDigit = true)
    (hbefore : searchDays D before = none) :
    searchDays D (before ++ (form.word ++ (digits ++ form.unit :: after))) = some digits := by
  induction before with
  | nil =>
    have hcapture := captureDays_expression (D := D) hne hdigits form after
    obtain ⟨c, front, hform, -⟩ := exists_word form
    rw [hform, List.cons_append] at hcapture
    rw [hform, List.nil_append, List.cons_append, searchDays, hcapture]
    rfl
  | cons c before ih =>
    obtain ⟨hnone, hrest⟩ := Option.or_eq_none_iff.mp hbefore
    have hcapture : ∀ word ∈ ["最近".toList, "近".toList, "last".toList],
        captureWord D (c :: before) word = none →
          captureWord D (c :: before ++ (form.word ++ (digits ++ form.unit :: after))) word = none ∨
            captureWord D (c :: before ++ (form.word ++ (digits ++ form.unit :: after))) word =
              some digits :=
      fun _ hword h => captureWord_before hne hdigits hword (List.cons_ne_nil c before) h
    rw [captureDays, Option.or_eq_none_iff, Option.or_eq_none_iff] at hnone
    have h1 := hcapture _ (by simp) hnone.1
    have h2 := hcapture _ (by simp) hnone.2.1
    have h3 := hcapture _ (by simp) hnone.2.2
    rw [List.cons_append, searchDays, ih hrest, captureDays]
    rw [List.cons_append] at h1 h2 h3
    rcases h1 with h1 | h1 <;> rcases h2 with h2 | h2 <;> rcases h3 with h3 | h3 <;>
      rw [h1, h2, h3] <;> rfl

/-! ### Numbers of days -/

/-- The last digit is the remainder. -/
lemma getLast?_toDigits (n : ℕ) :
    (Nat.toDigits 10 n).getLast? = some (Nat.digitChar (n % 10)) := by
  by_cases hn : n < 10
  · rw [Nat.toDigits_of_lt_base hn, Nat.mod_eq_of_lt hn]
    rfl
  · rw [Nat.toDigits_of_base_le (by omega) (by omega)]
    simp

lemma digitChar_eq_seven {d : ℕ} (hd : d < 10) : d.digitChar = '7' ↔ d = 7 := by
  constructor
  · intro h
    have hnat := congrArg Char.toNat h
    have hseven : '7'.toNat = 55 := rfl
    rw [Nat.toNat_digitChar_of_lt_ten hd, hseven] at hnat
    omega
  · rintro rfl
    rfl

lemma eq_seven_of_toDigits (h : Nat.toDigits 10 n = ['7']) : n = 7 := by
  have hn := Nat.ofDigitChars_toDigits (b := 10) (n := n) (by omega) (by omega)
  rw [h] at hn
  exact hn.symm

/-- No number of days of a year contains the name of a campaign. -/
lemma not_infix_campaign (hn : n ≤ 365) :
    ∀ word ∈ ["618", "11.11", "1111"], ¬ word.toList <:+: Nat.toDigits 10 n := by
  have hall : ∀ n < 366, ∀ word ∈ ["618", "11.11", "1111"],
      Text.contains (Nat.toDigits 10 n) word.toList = false := by
    decide +kernel
  intro word hword hinfix
  have hfalse := hall n (by omega) word hword
  rw [(Text.contains_iff _ _).mpr hinfix] at hfalse
  cases hfalse

lemma int?_days (hn : n ≤ 365) : D.int? (Nat.toDigits 10 n) = some (n : ℤ) := by
  rw [D.int?_toDigits, if_pos]
  have hlength : (Nat.toDigits 10 n).length ≤ 3 :=
    (Nat.length_toDigits_le_iff (by omega) (by omega)).mpr (by omega)
  exact hlength.trans (by decide)

/-- The label of `n` days is read as `n`, if the number is not too long. -/
lemma lastDays_lastLabel (n : ℕ) : lastDays D (lastLabel n) = D.int? (Nat.toDigits 10 n) := by
  have hlist : (lastLabel n).toList = "last_".toList ++ Nat.toDigits 10 n ++ ['d'] := by
    rw [lastLabel, String.toList_append, String.toList_append, Nat.toString_eq_repr,
      Nat.toList_repr]
    rfl
  have hprefix :
      "last_".toList.isPrefixOf ("last_".toList ++ Nat.toDigits 10 n ++ ['d']) = true := by
    rw [List.isPrefixOf_iff_prefix]
    exact ⟨Nat.toDigits 10 n ++ ['d'], by simp⟩
  have hsuffix : "d".toList.isSuffixOf ("last_".toList ++ Nat.toDigits 10 n ++ ['d']) = true := by
    rw [List.isSuffixOf_iff_suffix]
    exact ⟨"last_".toList ++ Nat.toDigits 10 n, rfl⟩
  have hdrop : ("last_".toList ++ Nat.toDigits 10 n ++ ['d']).drop 5 =
      Nat.toDigits 10 n ++ ['d'] := rfl
  rw [lastDays, hlist, lastPart, hprefix, hsuffix, hdrop, List.dropLast_concat]
  rfl

lemma clampDays_of_mem {n : ℤ} (h : 1 ≤ n ∧ n ≤ 365) : clampDays n = n := by
  rw [clampDays]
  omega

lemma clampDays_mem (n : ℤ) : 1 ≤ clampDays n ∧ clampDays n ≤ 365 := by
  rw [clampDays]
  omega

/-! ### Where the parsers agree -/

/-- The numbers of days that both parsers understand, in a question of the form. -/
def Understood (form : Form) (n : ℕ) : Prop :=
  1 ≤ n ∧ n ≤ 365 ∧ (form.unit = '天' → n % 10 = 7 → n = 7)

variable {query : String} {params : Params}

/-- No keyword but those of seven days and of campaigns is in the question. -/
lemma not_hasAny_of_onlyDays (h : OnlyDays D form n query) (keywords : List String)
    (hkeywords : ∀ word ∈ keywords, word ∈ timeWords ∧
      (word = "today" ∨ word = "thisweek" ∨ word ∈ plainWords)) :
    hasAny keywords (compactQuery query) = false := by
  obtain ⟨before, after, hquery, hbefore, hafter⟩ := h
  rw [Bool.eq_false_iff]
  intro hany
  obtain ⟨word, hmem, hinfix⟩ := hasAny_iff.mp hany
  obtain ⟨htime, hword⟩ := hkeywords word hmem
  rw [hquery] at hinfix
  have hsides : ∀ word ∈ timeWords, ¬ (word.toList <:+: before ∨ word.toList <:+: after) := by
    rintro word hword (hin | hin)
    · exact hbefore.words word hword hin
    · exact hafter.words word hword hin
  rcases hword with rfl | rfl | hplain
  · exact hsides _ htime (infix_today Nat.toDigits_ne_nil (isDigit_digits n) hinfix)
  · -- `thisweek` contains `week`
    have hweek : "week".toList <:+: "thisweek".toList := ⟨"this".toList, [], rfl⟩
    exact hsides "week" (by decide)
      (infix_of_plain (by decide) (isDigit_digits n) (hweek.trans hinfix))
  · exact hsides word htime (infix_of_plain hplain (isDigit_digits n) hinfix)

/-- The words of seven days occur only in a question of seven days, or of a number that ends
with 7. -/
lemma seven_of_hasAny (h : OnlyDays D form n query)
    (hany : hasAny sevenDaysWords (compactQuery query) = true) :
    n = 7 ∨ (form.unit = '天' ∧ n % 10 = 7) := by
  obtain ⟨before, after, hquery, hbefore, hafter⟩ := h
  obtain ⟨word, hword, hinfix⟩ := hasAny_iff.mp hany
  rw [hquery] at hinfix
  have hall : ∀ word ∈ sevenDaysWords, "7天".toList <:+: word.toList ∨
      word ∈ ["last7d", "last_7d"] := by
    decide
  rcases hall word hword with hseven | hlast
  · rcases infix_seven (isDigit_digits n) (hseven.trans hinfix) with hin | ⟨hunit, hdigit⟩ | hin
    · exact absurd hin (hbefore.words "7天" (by decide))
    · rw [getLast?_toDigits] at hdigit
      exact .inr ⟨hunit, (digitChar_eq_seven (Nat.mod_lt n (by omega))).mp (Option.some.inj hdigit)⟩
    · exact absurd hin (hafter.words "7天" (by decide))
  · have htime : word ∈ timeWords := by simp [timeWords, hword]
    rcases infix_last hlast Nat.toDigits_ne_nil (isDigit_digits n) hinfix with hin | hdigits | hin
    · exact absurd hin (hbefore.words word htime)
    · exact .inl (eq_seven_of_toDigits hdigits)
    · exact absurd hin (hafter.words word htime)

lemma not_hasAny_618 (h : OnlyDays D form n query) (hn : n ≤ 365) (keywords : List String)
    (hkeywords : ∀ word ∈ keywords, word ∈ ["618", "11.11", "1111"] ∨ word = "双十一") :
    hasAny keywords (compactQuery query) = false := by
  rw [Bool.eq_false_iff]
  intro hany
  obtain ⟨word, hmem, hinfix⟩ := hasAny_iff.mp hany
  rcases hkeywords word hmem with hword | rfl
  · obtain ⟨before, after, hquery, hbefore, hafter⟩ := h
    have htime : word ∈ timeWords := by
      simp only [List.mem_cons, List.not_mem_nil, or_false] at hword
      rcases hword with rfl | rfl | rfl <;> decide
    rw [hquery] at hinfix
    rcases infix_numeral hword hinfix with hin | hin | hin
    · exact hbefore.words word htime hin
    · exact not_infix_campaign hn word hword hin
    · exact hafter.words word htime hin
  · have hfalse := not_hasAny_of_onlyDays h ["双十一"] (by decide)
    rw [hasAny_iff.mpr ⟨"双十一", by simp, hinfix⟩] at hfalse
    cases hfalse

/-- The question is understood. -/
lemma covers_parse (h : OnlyDays D form n query) (hn : Understood form n) :
    ∃ range, parseBusinessTimeRange D query = some range ∧ Covers n range := by
  obtain ⟨hpos, hle, hseven⟩ := hn
  have hclamp : clampDays n = n := clampDays_of_mem (by omega)
  rw [parseBusinessTimeRange]
  rw [not_hasAny_of_onlyDays h todayWords (by decide),
    not_hasAny_of_onlyDays h yesterdayWords (by decide),
    not_hasAny_of_onlyDays h weekWords (by decide)]
  simp only [Bool.false_eq_true, if_false]
  by_cases hany : hasAny sevenDaysWords (compactQuery query) = true
  · have h7 : n = 7 := by
      rcases seven_of_hasAny h hany with h7 | ⟨hunit, h7⟩
      · exact h7
      · exact hseven hunit h7
    rw [if_pos hany]
    subst h7
    exact ⟨_, rfl, hclamp.symm, rfl, rfl⟩
  · rw [if_neg hany, not_hasAny_618 h hle ["618"] (by decide),
      not_hasAny_618 h hle novemberWords (by decide),
      not_hasAny_of_onlyDays h ["大促"] (by decide)]
    simp only [Bool.false_eq_true, if_false]
    obtain ⟨before, after, hquery, hbefore, hafter⟩ := h
    have hsearch : searchDays D (compactQuery query) = some (Nat.toDigits 10 n) := by
      rw [hquery, List.append_assoc]
      exact searchDays_expression Nat.toDigits_ne_nil (isDigit_digits n) hbefore.search
    rw [hsearch]
    show ∃ range, (D.int? (Nat.toDigits 10 n)).map _ = some range ∧ _
    rw [int?_days hle]
    exact ⟨_, rfl, rfl, rfl, rfl⟩

/-- The parameter is understood. -/
lemma covers_timeRange (hlabel : params.timeRange = lastLabel n) (hpos : 1 ≤ n) (hle : n ≤ 365) :
    ∃ range, timeRange D params = some range ∧ Covers n range := by
  have hdays : lastDays D params.timeRange = some (n : ℤ) := by
    rw [hlabel, lastDays_lastLabel, int?_days hle]
  have hclamp : clampDays n = n := clampDays_of_mem (by omega)
  rw [timeRange, hdays]
  exact ⟨_, rfl, hclamp.symm, rfl, rfl⟩

/-- A question of more days than a year is cut to a year only if `int` accepts the number. -/
lemma int?_of_covers (h : OnlyDays D form n query) (hn : 365 < n) {range : BusinessTimeRange}
    (hparse : parseBusinessTimeRange D query = some range) (hcovers : Covers n range) :
    D.int? (Nat.toDigits 10 n) = some (n : ℤ) := by
  have hdays := hcovers.days
  have hcampaign := hcovers.campaign
  have hclamp : clampDays n = 365 := by
    rw [clampDays]
    omega
  rw [hclamp] at hdays
  have hother : ∀ {r : BusinessTimeRange}, r.days ≠ 365 ∨ r.campaignKeyword ≠ "" →
      some r ≠ some range := by
    rintro r hr heq
    obtain rfl := Option.some.inj heq
    rcases hr with hr | hr
    · exact hr hdays
    · exact hr hcampaign
  obtain ⟨before, after, hquery, hbefore, hafter⟩ := h
  have hsearch : searchDays D (compactQuery query) = some (Nat.toDigits 10 n) := by
    rw [hquery, List.append_assoc]
    exact searchDays_expression Nat.toDigits_ne_nil (isDigit_digits n) hbefore.search
  rw [parseBusinessTimeRange] at hparse
  rw [D.int?_toDigits]
  split_ifs at hparse with h1 h2 h3 h4 h5 h6 h7
  · exact absurd hparse (hother (.inl (by decide)))
  · exact absurd hparse (hother (.inl (by decide)))
  · exact absurd hparse (hother (.inl (by decide)))
  · exact absurd hparse (hother (.inl (by decide)))
  · exact absurd hparse (hother (.inr (by decide)))
  · exact absurd hparse (hother (.inr (by decide)))
  · exact absurd hparse (hother (.inr (by decide)))
  · rw [hsearch] at hparse
    by_contra hlong
    rw [← D.int?_toDigits] at hlong
    have hnone : D.int? (Nat.toDigits 10 n) = none := by
      rw [D.int?_toDigits] at hlong ⊢
      split
      · next hshort => exact absurd (if_pos hshort) hlong
      · rfl
    have hfalse : (D.int? (Nat.toDigits 10 n)).map _ = some range := hparse
    rw [hnone] at hfalse
    cases hfalse

/-- What both parsers understand is in range, and does not end with another 7. -/
lemma understood_of_agree (h : OnlyDays D form n query) (hlabel : params.timeRange = lastLabel n)
    (hagree : Agree D n query params) : Understood form n := by
  obtain ⟨⟨range, hparse, hcovers⟩, range', htime, hcovers'⟩ := hagree
  -- If `int` accepts the number, the parameter has that many days.
  have hdays : ∀ m : ℤ, D.int? (Nat.toDigits 10 n) = some m → m = clampDays n := by
    intro m hm
    rw [timeRange, hlabel, lastDays_lastLabel, hm] at htime
    obtain rfl := Option.some.inj htime
    exact hcovers'.days
  have hle : n ≤ 365 := by
    by_contra hlarge
    have hm := hdays n (int?_of_covers h (by omega) hparse hcovers)
    rw [clampDays] at hm
    omega
  have hpos : 1 ≤ n := by
    have hm := hdays n (int?_days hle)
    rw [clampDays] at hm
    omega
  refine ⟨hpos, hle, fun hunit h7 => ?_⟩
  have hrange := hcovers.days
  rw [clampDays_of_mem (by omega : 1 ≤ (n : ℤ) ∧ (n : ℤ) ≤ 365)] at hrange
  -- The question contains `7天`.
  have hany : hasAny sevenDaysWords (compactQuery query) = true := by
    obtain ⟨before, after, hquery, -, -⟩ := h
    refine hasAny_iff.mpr ⟨"7天", by decide, ?_⟩
    obtain ⟨front, hfront⟩ : ∃ front, Nat.toDigits 10 n = front ++ ['7'] := by
      have hlast := getLast?_toDigits n
      rw [h7] at hlast
      exact ⟨_, (List.dropLast_append_getLast? _ hlast).symm⟩
    refine ⟨before ++ (form.word ++ front), after, ?_⟩
    rw [hquery, hfront, hunit]
    simp
  rw [parseBusinessTimeRange] at hparse
  split_ifs at hparse with h1 h2 h3
  · obtain rfl := Option.some.inj hparse
    simp only at hrange
    omega
  · obtain rfl := Option.some.inj hparse
    simp only at hrange
    omega
  · obtain rfl := Option.some.inj hparse
    simp only at hrange
    omega
  · obtain rfl := Option.some.inj hparse
    simp only at hrange
    omega

/-! ### Fallbacks and bounds -/

/-- The labels of the ranges in a question. -/
lemma label_of_parse {range : BusinessTimeRange} (h : parseBusinessTimeRange D query = some range) :
    range.label ∈ ["today", "yesterday", "last_7d", "custom", "last_30d"] := by
  rw [parseBusinessTimeRange] at h
  split_ifs at h
  iterate 7
    · cases h
      decide
  cases hsearch : searchDays D (compactQuery query) with
  | none =>
    rw [hsearch] at h
    cases h
    decide
  | some digits =>
    rw [hsearch] at h
    obtain ⟨n, -, rfl⟩ := Option.map_eq_some_iff.mp h
    simp

/-- No question has days outside the last year. -/
lemma inRange_of_parse {range : BusinessTimeRange}
    (h : parseBusinessTimeRange D query = some range) : InRange range := by
  rw [parseBusinessTimeRange] at h
  split_ifs at h
  iterate 7
    · cases h
      exact ⟨by decide, by decide⟩
  cases hsearch : searchDays D (compactQuery query) with
  | none =>
    rw [hsearch] at h
    cases h
    exact ⟨by decide, by decide⟩
  | some digits =>
    rw [hsearch] at h
    obtain ⟨n, -, rfl⟩ := Option.map_eq_some_iff.mp h
    exact clampDays_mem n

/-- A label that `int` accepts, but that is not known, is none that a question has. -/
lemma fallback_iff (hknown : ¬ Known params.timeRange) : timeRange D params =
    parseBusinessTimeRange D (if params.query = "" then params.timeRange else params.query) ↔
      lastDays D params.timeRange = none := by
  constructor
  · intro heq
    by_contra hsome
    obtain ⟨n, hn⟩ := Option.ne_none_iff_exists'.mp hsome
    rw [timeRange, hn] at heq
    have hlabel := label_of_parse heq.symm
    simp only [List.mem_cons, List.not_mem_nil, or_false] at hlabel
    rcases hlabel with hl | hl | hl | hl | hl
    · exact hknown (.inl hl)
    · exact hknown (.inr (.inl hl))
    · exact hknown (.inr (.inr ⟨['7'], by simp, by decide, by rw [hl]; rfl⟩))
    · rw [lastDays, hl] at hn
      cases hn
    · exact hknown (.inr (.inr ⟨['3', '0'], by simp, by decide, by rw [hl]; rfl⟩))
  · intro hnone
    rw [timeRange, hnone]
    show (if params.timeRange = "today" then _ else _) = _
    rw [if_neg fun h => hknown (.inl h), if_neg fun h => hknown (.inr (.inl h))]

/-- A parameter has days outside the last year exactly if its number is. -/
lemma inRange_iff : (∀ range ∈ timeRange D params, InRange range) ↔
    ∀ n ∈ lastDays D params.timeRange, 1 ≤ n ∧ n ≤ 365 := by
  rw [timeRange]
  cases hdays : lastDays D params.timeRange with
  | some n =>
    constructor
    · intro h m hm
      cases hm
      exact h _ rfl
    · intro h range hrange
      cases hrange
      exact h n rfl
  | none =>
    refine iff_of_true ?_ (by simp)
    intro range hrange
    simp only [Option.mem_def] at hrange
    split_ifs at hrange
    · cases hrange
      exact ⟨by decide, by decide⟩
    · cases hrange
      exact ⟨by decide, by decide⟩
    · exact inRange_of_parse hrange
    · exact inRange_of_parse hrange

/-- Both parsers understand the same `n` days exactly if `n` is between 1 and 365 and, in the
Chinese forms, does not end with a 7 unless it is 7; a parameter that is not of a known form is read
like a question exactly if it is not `last_…d` with something that `int` accepts; and the days of a
question are always in range, those of a parameter exactly if its number is. -/
theorem timeRanges_iff (D : Decimals) :
    (∀ form n query params, OnlyDays D form n query → params.timeRange = lastLabel n →
      (Agree D n query params ↔ Understood form n)) ∧
    (∀ params : Params, ¬ Known params.timeRange → (timeRange D params =
      parseBusinessTimeRange D (if params.query = "" then params.timeRange else params.query) ↔
        lastDays D params.timeRange = none)) ∧
    (∀ query, ∀ range ∈ parseBusinessTimeRange D query, InRange range) ∧
    ∀ params, (∀ range ∈ timeRange D params, InRange range) ↔
      ∀ n ∈ lastDays D params.timeRange, 1 ≤ n ∧ n ≤ 365 := by
  refine ⟨fun form n query params h hlabel => ⟨understood_of_agree h hlabel, fun hn => ?_⟩,
    fun params => fallback_iff, fun query range => inRange_of_parse, fun params => inRange_iff⟩
  exact ⟨covers_parse h hn, covers_timeRange hlabel hn.1 hn.2.1⟩

/-- Seventeen days are taken for seven. -/
theorem not_timeRangesAgree_seventeen : ¬ TimeRangesAgree .asciiOnly := by
  intro h
  have hempty : Free .asciiOnly [] := ⟨by decide, rfl⟩
  have honly : OnlyDays .asciiOnly .recent 17 "最近17天" := ⟨[], [], by decide, hempty, hempty⟩
  obtain ⟨⟨range, hparse, hcovers⟩, -⟩ :=
    h.days .recent 17 "最近17天" { timeRange := "last_17d" } honly (by decide)
  have hrange : parseBusinessTimeRange .asciiOnly "最近17天" =
      some { label := "last_7d", days := 7 } := by
    decide
  rw [hrange] at hparse
  obtain rfl := Option.some.inj hparse
  exact absurd hcovers.days (by decide)

end EcommerceAgent.Database.TimeRange
