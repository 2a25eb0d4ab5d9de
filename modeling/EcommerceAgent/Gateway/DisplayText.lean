/-
# Names that are stored and loaded

`cleanDisplayText` trims a name and, where its characters taken as Latin-1 bytes are UTF-8, replaces
it by the text that they encode; `UpdateProfile` applies it before it stores a name, `loadUser` when
it loads one.  It is the identity exactly on trimmed texts that are not such a reading of another
text (`cleanDisplayText_eq_self_iff`).  A text that was misread twice, or that was misread with
outer white space, is therefore changed again each time it is loaded or saved.
-/
import EcommerceAgent.Gateway.Membership
import EcommerceAgent.Lib.Mojibake

open EcommerceAgent.Lib EcommerceAgent.Lib.Text

namespace EcommerceAgent.Gateway

/-! ### What is repaired -/

/-- The UTF-8 bytes of a text, read as Latin-1. -/
def mojibake (text : String) : String := String.ofList (Mojibake.mojibake text.toList)

/-- The text is the misreading of another one. -/
def Misread (text : String) : Prop := ∃ original, mojibake original = text ∧ original ≠ text

/-- The text has no outer white space and is not the misreading of another one. -/
def Settled (text : String) : Prop := trimSpaceString text = text ∧ ¬Misread text

/-- The trimmed text is the misreading of a text that is not settled. -/
def Nested (text : String) : Prop :=
  ∃ original, mojibake original = trimSpaceString text ∧ original ≠ trimSpaceString text ∧
    ¬Settled original

variable {text original : String}

lemma mojibake_injective : Function.Injective mojibake := by
  intro text text' h
  have hlist := Mojibake.mojibake_injective (String.ofList_injective h)
  exact String.toList_inj.mp hlist

lemma length_lt_of_misread (h : mojibake original = text) (hne : original ≠ text) :
    original.toList.length < text.toList.length := by
  subst h
  rw [mojibake, String.toList_ofList]
  refine Mojibake.length_lt_mojibake fun hself => hne ?_
  rw [mojibake, hself, String.ofList_toList]

/-- The bytes are those of a text. -/
lemma fromUTF8?_eq_some_iff {bytes : List UInt8} :
    String.fromUTF8? ⟨bytes.toArray⟩ = some original ↔ bytes = Utf8.encode original.toList := by
  have hbytes : (⟨bytes.toArray⟩ : ByteArray) = bytes.toByteArray :=
    ByteArray.ext List.data_toByteArray.symm
  have horiginal : original.toByteArray = (Utf8.encode original.toList).toByteArray :=
    String.utf8Encode_toList.symm
  rw [← List.toByteArray_inj, ← horiginal, hbytes, String.fromUTF8?]
  constructor
  · intro h
    split_ifs at h with hvalid
    rw [← Option.some.inj h]
    rfl
  · intro h
    have hvalid : bytes.toByteArray.IsValidUTF8 := h ▸ original.isValidUTF8
    rw [dif_pos hvalid, Option.some_inj, ← String.toByteArray_inj]
    exact h

/-- What `repairLatin1Mojibake` returns. -/
theorem repairLatin1Mojibake_eq_some_iff :
    repairLatin1Mojibake text = some original ↔ mojibake original = text ∧ original ≠ text := by
  have hmap : mojibake original = text ↔ Mojibake.mojibake original.toList = text.toList := by
    rw [mojibake, ← String.toList_inj, String.toList_ofList]
  rw [repairLatin1Mojibake, hmap]
  constructor
  · intro h
    split_ifs at h with hlatin
    obtain ⟨hall, -⟩ := Bool.and_eq_true_iff.mp hlatin
    have hbyte : ∀ c ∈ text.toList, c.toNat ≤ 255 := fun c hc =>
      of_decide_eq_true (List.all_eq_true.mp hall c hc)
    split at h
    · rename_i repaired hrepaired
      split_ifs at h with hne
      obtain rfl := Option.some.inj h
      have hbytes := fromUTF8?_eq_some_iff.mp hrepaired
      exact ⟨(Mojibake.map_toUInt8_eq_encode_iff hbyte).mp hbytes, hne⟩
    · cases h
  · rintro ⟨h, hne⟩
    have hbyte : ∀ c ∈ text.toList, c.toNat ≤ 255 := fun c hc =>
      Mojibake.le_of_mem_mojibake (h ▸ hc)
    have hself : Mojibake.mojibake original.toList ≠ original.toList := fun hself =>
      hne (String.toList_inj.mp (hself.symm.trans h))
    obtain ⟨c, hc, hhigh⟩ := Mojibake.exists_mem_mojibake hself
    rw [h] at hc
    have hall : text.toList.all (·.toNat ≤ 255) = true :=
      List.all_eq_true.mpr fun c hc => decide_eq_true (hbyte c hc)
    have hany : text.toList.any (128 ≤ ·.toNat) = true :=
      List.any_eq_true.mpr ⟨c, hc, decide_eq_true hhigh⟩
    have hbytes := (Mojibake.map_toUInt8_eq_encode_iff hbyte).mpr h
    rw [hall, hany, Bool.and_self, if_pos rfl, fromUTF8?_eq_some_iff.mpr hbytes]
    exact if_neg hne

lemma repairLatin1Mojibake_eq_none_iff : repairLatin1Mojibake text = none ↔ ¬Misread text := by
  rw [Option.eq_none_iff_forall_ne_some]
  constructor
  · rintro h ⟨original, horiginal⟩
    exact h original (repairLatin1Mojibake_eq_some_iff.mpr horiginal)
  · intro h original horiginal
    exact h ⟨original, repairLatin1Mojibake_eq_some_iff.mp horiginal⟩

/-! ### Texts that stay -/

lemma trimSpaceString_trimSpaceString (text : String) :
    trimSpaceString (trimSpaceString text) = trimSpaceString text := by
  rw [trimSpaceString, trimSpaceString, String.toList_ofList, trimSpace, trimSpace,
    Mojibake.trim_trim]

lemma trimSpaceString_sublist (text : String) :
    (trimSpaceString text).toList.Sublist text.toList := by
  rw [trimSpaceString, String.toList_ofList, trimSpace]
  exact (List.rdropWhile_prefix _ _).sublist.trans (List.dropWhile_sublist _)

lemma not_misread_empty : ¬Misread "" := by
  rintro ⟨original, horiginal, hne⟩
  have hlt := length_lt_of_misread horiginal hne
  exact Nat.not_lt_zero _ hlt

/-- The two cases of `cleanDisplayText`. -/
lemma cleanDisplayText_cases (text : String) :
    (¬Misread (trimSpaceString text) ∧ cleanDisplayText text = trimSpaceString text) ∨
      (mojibake (cleanDisplayText text) = trimSpaceString text ∧
        cleanDisplayText text ≠ trimSpaceString text) := by
  rw [cleanDisplayText]
  by_cases hempty : trimSpaceString text = ""
  · left
    rw [if_pos hempty, hempty]
    exact ⟨not_misread_empty, rfl⟩
  · rw [if_neg hempty]
    cases hrepair : repairLatin1Mojibake (trimSpaceString text) with
    | none => exact .inl ⟨repairLatin1Mojibake_eq_none_iff.mp hrepair, rfl⟩
    | some original => exact .inr (repairLatin1Mojibake_eq_some_iff.mp hrepair)

/-- A text that is changed becomes shorter. -/
lemma length_cleanDisplayText_lt (h : cleanDisplayText text ≠ text) :
    (cleanDisplayText text).toList.length < text.toList.length := by
  have hsub := trimSpaceString_sublist text
  rcases cleanDisplayText_cases text with ⟨-, hclean⟩ | ⟨hclean, hne⟩
  · rw [hclean] at h ⊢
    refine lt_of_le_of_ne hsub.length_le fun hlength => h ?_
    exact String.toList_inj.mp (hsub.eq_of_length hlength)
  · exact (length_lt_of_misread hclean hne).trans_le hsub.length_le

/-- The texts that `cleanDisplayText` leaves alone. -/
theorem cleanDisplayText_eq_self_iff : cleanDisplayText text = text ↔ Settled text := by
  have hlength := (trimSpaceString_sublist text).length_le
  rcases cleanDisplayText_cases text with ⟨hnot, hclean⟩ | ⟨hclean, hne⟩
  · rw [hclean]
    constructor
    · intro htrim
      rw [htrim] at hnot
      exact ⟨htrim, hnot⟩
    · exact fun h => h.1
  · constructor
    · intro hself
      rw [hself] at hclean hne
      have hlt := length_lt_of_misread hclean hne
      omega
    · rintro ⟨htrim, hnot⟩
      rw [htrim] at hclean hne
      exact absurd ⟨_, hclean, hne⟩ hnot

/-- A second application changes nothing, unless the text is nested. -/
theorem cleanDisplayText_cleanDisplayText_iff :
    cleanDisplayText (cleanDisplayText text) = cleanDisplayText text ↔ ¬Nested text := by
  rw [cleanDisplayText_eq_self_iff]
  rcases cleanDisplayText_cases text with ⟨hnot, hclean⟩ | ⟨hclean, hne⟩
  · have hsettled : Settled (cleanDisplayText text) := by
      rw [hclean]
      exact ⟨trimSpaceString_trimSpaceString text, hnot⟩
    refine iff_of_true hsettled ?_
    rintro ⟨original, horiginal, hne, -⟩
    exact hnot ⟨original, horiginal, hne⟩
  · constructor
    · rintro hsettled ⟨original, horiginal, -, hnot⟩
      have hsame : original = cleanDisplayText text :=
        mojibake_injective (horiginal.trans hclean.symm)
      exact hnot (hsame ▸ hsettled)
    · intro hnested
      by_contra hsettled
      exact hnested ⟨cleanDisplayText text, hclean, hne, hsettled⟩

/-! ### Names that are not UTF-8 -/

/-- What a loop over a Go string reads: a character, or a byte that belongs to none. -/
inductive Rune
  | char (c : Char)
  | malformed (b : UInt8)
deriving DecidableEq

namespace Rune

/-- The character, unless the rune is `utf8.RuneError`. -/
def char? : Rune → Option Char
  | .char c => some c
  | .malformed _ => none

def isSpace : Rune → Bool
  | .char c => isWhiteSpace c
  | .malformed _ => false

end Rune

/-- A Go string. -/
abbrev Runes := List Rune

/-- The Go string of a text. -/
def runesOf (text : String) : Runes := text.toList.map .char

namespace Runes

/-- `strings.TrimSpace`. -/
def trimSpace (value : Runes) : Runes :=
  (value.dropWhile Rune.isSpace).rdropWhile Rune.isSpace

/-- `repairLatin1Mojibake`, which gives up at a rune above 255. -/
def repairLatin1Mojibake (value : Runes) : Option Runes :=
  (value.mapM Rune.char?).bind fun characters =>
    (Gateway.repairLatin1Mojibake (String.ofList characters)).map runesOf

/-- `cleanDisplayText`. -/
def cleanDisplayText (value : Runes) : Runes :=
  if value.trimSpace = [] then value.trimSpace
  else (repairLatin1Mojibake value.trimSpace).getD value.trimSpace

/-- The string is a nested text. -/
def Nested (value : Runes) : Prop := ∃ text, value = runesOf text ∧ Gateway.Nested text

variable {value : Runes}

lemma mapM_char?_eq_some_iff {characters : List Char} :
    value.mapM Rune.char? = some characters ↔ value = characters.map .char := by
  induction value generalizing characters with
  | nil =>
    rw [List.mapM_nil]
    cases characters with
    | nil => exact iff_of_true rfl rfl
    | cons c characters => exact iff_of_false (fun h => nomatch h) (fun h => nomatch h)
  | cons rune value ih =>
    rw [List.mapM_cons]
    cases rune with
    | malformed b =>
      refine iff_of_false (fun h => nomatch h) fun h => ?_
      cases characters with
      | nil => cases h
      | cons c characters => cases (List.cons_eq_cons.mp h).1
    | char c =>
      have hmap : (Rune.char? (.char c) >>= fun c => value.mapM Rune.char? >>= fun characters =>
          pure (c :: characters)) = (value.mapM Rune.char?).map (c :: ·) := by
        cases value.mapM Rune.char? with
        | none => rfl
        | some characters => rfl
      rw [hmap, Option.map_eq_some_iff]
      constructor
      · rintro ⟨rest, hrest, rfl⟩
        rw [ih.mp hrest, List.map_cons]
      · intro h
        cases characters with
        | nil => cases h
        | cons c' rest =>
          obtain ⟨hc, hrest⟩ := List.cons_eq_cons.mp h
          exact ⟨rest, ih.mpr hrest, by rw [Rune.char.inj hc]⟩

lemma exists_text_or_malformed (value : Runes) :
    (∃ text, value = runesOf text) ∨ ∃ b, .malformed b ∈ value := by
  induction value with
  | nil => exact .inl ⟨"", rfl⟩
  | cons rune value ih =>
    rcases ih with ⟨text, rfl⟩ | ⟨b, hb⟩
    · cases rune with
      | char c =>
        refine .inl ⟨String.ofList (c :: text.toList), ?_⟩
        rw [runesOf, runesOf, String.toList_ofList, List.map_cons]
      | malformed b => exact .inr ⟨b, List.mem_cons_self⟩
    · exact .inr ⟨b, List.mem_cons_of_mem _ hb⟩

lemma runesOf_injective : Function.Injective runesOf := by
  intro text text' h
  have hinj : Function.Injective Rune.char := fun _ _ => Rune.char.inj
  exact String.toList_inj.mp (List.map_injective_iff.mpr hinj h)

lemma trimSpace_runesOf (text : String) :
    trimSpace (runesOf text) = runesOf (trimSpaceString text) := by
  have hspace : Rune.isSpace ∘ Rune.char = isWhiteSpace := rfl
  rw [trimSpace, runesOf, runesOf, trimSpaceString, String.toList_ofList, Text.trimSpace,
    List.dropWhile_map, List.rdropWhile, List.rdropWhile, ← List.map_reverse, List.dropWhile_map,
    List.map_reverse, hspace]

/-- On texts it is the same function. -/
lemma cleanDisplayText_runesOf (text : String) :
    cleanDisplayText (runesOf text) = runesOf (Gateway.cleanDisplayText text) := by
  have hempty : runesOf (trimSpaceString text) = [] ↔ trimSpaceString text = "" := by
    rw [runesOf, List.map_eq_nil_iff, String.toList_eq_nil_iff]
  have hchars : (runesOf (trimSpaceString text)).mapM Rune.char? =
      some (trimSpaceString text).toList := mapM_char?_eq_some_iff.mpr rfl
  rw [cleanDisplayText, trimSpace_runesOf, Gateway.cleanDisplayText, repairLatin1Mojibake, hchars,
    Option.bind_some, String.ofList_toList]
  by_cases h : trimSpaceString text = ""
  · rw [if_pos (hempty.mpr h), if_pos h]
  · rw [if_neg (mt hempty.mp h), if_neg h]
    cases Gateway.repairLatin1Mojibake (trimSpaceString text) with
    | none => rfl
    | some original => rfl

/-- A string that is not UTF-8 is only trimmed. -/
lemma cleanDisplayText_of_malformed {b : UInt8} (hb : .malformed b ∈ value) :
    cleanDisplayText value = value.trimSpace := by
  have hmem : .malformed b ∈ value.trimSpace := Mojibake.mem_trim hb rfl
  have hchars : value.trimSpace.mapM Rune.char? = none := by
    rw [Option.eq_none_iff_forall_ne_some]
    intro characters hcharacters
    rw [mapM_char?_eq_some_iff.mp hcharacters] at hmem
    obtain ⟨c, -, hc⟩ := List.mem_map.mp hmem
    cases hc
  rw [cleanDisplayText, repairLatin1Mojibake, hchars]
  exact ite_self _

/-- A second application changes nothing, unless the string is a nested text. -/
theorem cleanDisplayText_cleanDisplayText_iff (value : Runes) :
    cleanDisplayText (cleanDisplayText value) = cleanDisplayText value ↔ ¬Nested value := by
  rcases exists_text_or_malformed value with ⟨text, rfl⟩ | ⟨b, hb⟩
  · have hnested : Nested (runesOf text) ↔ Gateway.Nested text := by
      constructor
      · rintro ⟨text', hsame, h⟩
        exact runesOf_injective hsame ▸ h
      · exact fun h => ⟨text, rfl, h⟩
    rw [cleanDisplayText_runesOf, cleanDisplayText_runesOf, runesOf_injective.eq_iff, hnested]
    exact Gateway.cleanDisplayText_cleanDisplayText_iff
  · have htrim : .malformed b ∈ value.trimSpace := Mojibake.mem_trim hb rfl
    rw [cleanDisplayText_of_malformed hb, cleanDisplayText_of_malformed htrim]
    refine iff_of_true (Mojibake.trim_trim _ _) ?_
    rintro ⟨text, rfl, -⟩
    obtain ⟨c, -, hc⟩ := List.mem_map.mp hb
    cases hc

end Runes

/-! ### Loading and saving -/

/-- The profiles that are loaded, and the tables then, after `UpdateProfile` with the input has gone
through: what it returns, what `loadUser` returns later, and what `UpdateProfile` returns when the
loaded name is saved. -/
inductive Cycled (collate : String → String) (userID : String) (input : ProfileInput)
    (s₀ : Tables) : User → Tables → Prop
  | first {b : Backend} {user : User} {s : Tables} :
    s₀.updateProfile collate b userID input = (.ok user, s) →
      Cycled collate userID input s₀ user s
  | load {b : Backend} {user loaded : User} {s : Tables} :
    Cycled collate userID input s₀ user s → s.loadUser collate b userID = .ok loaded →
      Cycled collate userID input s₀ loaded s
  | save {b : Backend} {user user' : User} {input' : ProfileInput} {s s' : Tables} :
    Cycled collate userID input s₀ user s → input'.name = user.name →
      s.updateProfile collate b userID input' = (.ok user', s') →
        Cycled collate userID input s₀ user' s'

section Cycled

variable {collate : String → String} {userID : String} {input : ProfileInput} {b : Backend}
  {s₀ s s' : Tables} {user : User} {name : String}

/-- The rows of the user have the name. -/
def Named (collate : String → String) (userID name : String) (s : Tables) : Prop :=
  ∀ r ∈ s.users, collate r.id = collate userID → r.name = name

lemma name_of_loadUser (h : s.loadUser collate b userID = .ok user)
    (hnamed : Named collate userID name s) : user.name = cleanDisplayText name := by
  rw [Tables.loadUser] at h
  cases hfault : b.fault .loadUser with
  | some e =>
    rw [hfault] at h
    cases h
  | none =>
    simp only [hfault] at h
    cases hfind : s.users.find? fun r =>
        collate r.id == collate userID && collate r.status == collate "active" with
    | none =>
      rw [hfind] at h
      cases h
    | some r =>
      rw [hfind] at h
      have hfound := List.find?_some hfind
      have hid := beq_iff_eq.mp (Bool.and_eq_true_iff.mp hfound).1
      have hname := hnamed r (List.mem_of_find?_eq_some hfind) hid
      rw [← Except.ok.inj h, ← hname]

/-- `UpdateProfile` stores a name that does not count as empty. -/
lemma named_of_updateProfile (h : s.updateProfile collate b userID input = (.ok user, s'))
    (hstored : collate (cleanDisplayText input.name) ≠ collate "") :
    Named collate userID (cleanDisplayText input.name) s' ∧
      s'.loadUser collate b userID = .ok user := by
  simp only [Tables.updateProfile] at h
  split at h
  · cases h
  · rename_i s'' hexec
    obtain ⟨hload, rfl⟩ := Prod.mk.inj h
    refine ⟨?_, hload⟩
    obtain ⟨-, hupdated⟩ := Tables.exec_eq_ok.mp hexec
    split_ifs at hupdated
    obtain rfl := Option.some.inj hupdated
    intro r hr hid
    obtain ⟨old, -, rfl⟩ := List.mem_map.mp hr
    by_cases hold : collate old.id = collate userID
    · rw [if_pos hold, Tables.coalesce, if_neg hstored]
      rfl
    · rw [if_neg hold] at hid
      exact absurd hid hold

/-- A settled name stays. -/
lemma named_of_cycled (hcycled : Cycled collate userID input s₀ user s)
    (hsettled : Settled (cleanDisplayText input.name))
    (hstored : collate (cleanDisplayText input.name) ≠ collate "") :
    Named collate userID (cleanDisplayText input.name) s ∧
      user.name = cleanDisplayText input.name := by
  have hself := cleanDisplayText_eq_self_iff.mpr hsettled
  induction hcycled with
  | first h =>
    obtain ⟨hnamed, hload⟩ := named_of_updateProfile h hstored
    exact ⟨hnamed, (name_of_loadUser hload hnamed).trans hself⟩
  | load _ hload ih =>
    obtain ⟨hnamed, -⟩ := ih
    exact ⟨hnamed, (name_of_loadUser hload hnamed).trans hself⟩
  | save _ hname h ih =>
    obtain ⟨-, huser⟩ := ih
    have hclean := congrArg cleanDisplayText (hname.trans huser)
    rw [hself] at hclean
    obtain ⟨hnamed, hload⟩ := named_of_updateProfile h (hclean.symm ▸ hstored)
    rw [hclean] at hnamed
    exact ⟨hnamed, (name_of_loadUser hload hnamed).trans hself⟩

end Cycled

/-- A second application of `cleanDisplayText` changes nothing exactly where the text is not nested.
A stored name is what all loads return exactly where it is not nested, and the name that was passed
is what all loads return exactly where it is settled. -/
theorem displayText_stable_iff (value : Runes) (collate : String → String) (userID : String)
    (input : ProfileInput) (s₀ : Tables) :
    (value.cleanDisplayText.cleanDisplayText = value.cleanDisplayText ↔ ¬value.Nested) ∧
    ∀ b user s, s₀.updateProfile collate b userID input = (.ok user, s) →
      collate (cleanDisplayText input.name) ≠ collate "" →
      ((∀ user s, Cycled collate userID input s₀ user s →
          user.name = cleanDisplayText input.name) ↔ ¬Nested input.name) ∧
      ((∀ user s, Cycled collate userID input s₀ user s → user.name = input.name) ↔
          Settled input.name) := by
  refine ⟨Runes.cleanDisplayText_cleanDisplayText_iff value, fun b user s hfirst hstored => ?_⟩
  obtain ⟨hnamed, hload⟩ := named_of_updateProfile hfirst hstored
  have huser : user.name = cleanDisplayText (cleanDisplayText input.name) :=
    name_of_loadUser hload hnamed
  have hkeeps : Settled (cleanDisplayText input.name) → ∀ user s,
      Cycled collate userID input s₀ user s → user.name = cleanDisplayText input.name :=
    fun hsettled user s hcycled => (named_of_cycled hcycled hsettled hstored).2
  constructor
  · rw [← cleanDisplayText_cleanDisplayText_iff]
    constructor
    · intro hall
      exact huser.symm.trans (hall user s (.first hfirst))
    · exact fun h => hkeeps (cleanDisplayText_eq_self_iff.mp h)
  · rw [← cleanDisplayText_eq_self_iff]
    constructor
    · intro hall
      have htwice := huser.symm.trans (hall user s (.first hfirst))
      by_contra hne
      have hlt := length_cleanDisplayText_lt hne
      have hle : (cleanDisplayText (cleanDisplayText input.name)).toList.length ≤
          (cleanDisplayText input.name).toList.length := by
        by_cases hsame : cleanDisplayText (cleanDisplayText input.name) =
            cleanDisplayText input.name
        · rw [hsame]
        · exact (length_cleanDisplayText_lt hsame).le
      rw [htwice] at hle
      omega
    · intro h
      have hsettled : Settled (cleanDisplayText input.name) := by
        rw [h]
        exact cleanDisplayText_eq_self_iff.mp h
      exact fun user s hcycled => (hkeeps hsettled user s hcycled).trans h

/-- The tables of one user. -/
def annTables : Tables where
  tenants := []
  users :=
    [{ id := "ann", name := "ann", email := none, phone := none, companyName := none,
       plan := "Team", passwordHash := "", defaultTenantId := none, defaultShopId := none,
       onboardingCompleted := false, status := "active" }]
  userTenants := []
  shops := []
  userShops := []

/-- A server without faults. -/
def plainBackend : Backend where
  hashPassword := .ok
  fault _ := none
  permissions := []

/-- Her profile with another name. -/
def annProfile : ProfileInput := { name := "Ann", email := "", phone := "", companyName := "" }

theorem displayText_stable_ann : ∀ user s,
    Cycled id "ann" annProfile annTables user s → user.name = "Ann" := by
  obtain ⟨user, s, hfirst⟩ : ∃ user s,
      annTables.updateProfile id plainBackend "ann" annProfile = (.ok user, s) := ⟨_, _, rfl⟩
  have hsettled : Settled "Ann" := cleanDisplayText_eq_self_iff.mp (by decide +kernel)
  exact ((displayText_stable_iff (runesOf "Ann") id "ann" annProfile annTables).2 plainBackend
    user s hfirst (by decide +kernel)).2.mpr hsettled

/-- A name that was misread twice is repaired twice. -/
theorem not_stable_misreadTwice :
    cleanDisplayText (cleanDisplayText "Ã\u0083Â©") ≠ cleanDisplayText "Ã\u0083Â©" := by
  intro h
  have hone : mojibake "é" = "Ã©" := by decide +kernel
  have htwo : mojibake "Ã©" = trimSpaceString "Ã\u0083Â©" := by decide +kernel
  have hsettled : ¬Settled "Ã©" := fun hsettled => hsettled.2 ⟨"é", hone, by decide +kernel⟩
  exact cleanDisplayText_cleanDisplayText_iff.mp h ⟨"Ã©", htwo, by decide +kernel, hsettled⟩

end EcommerceAgent.Gateway
