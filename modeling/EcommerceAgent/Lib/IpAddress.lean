/-
# Internet addresses in texts

Two readings of a host name as an address.  `ipv4?` and `ipv6?` are the strict parsers of Python's
`ipaddress`.  `inetAton` is the lenient one of the C library, which network clients use: one to four
numbers, each of them decimal, octal or hexadecimal, of which the last one fills what is left of the
32 bits.  What the strict parser accepts, the lenient one reads in the same way.
-/
import Mathlib

namespace EcommerceAgent.Lib.IpAddress

/-! ### Numbers -/

/-- The value of a hexadecimal digit. -/
def digitValue (c : Char) : Option ℕ :=
  if '0'.toNat ≤ c.toNat ∧ c.toNat ≤ '9'.toNat then some (c.toNat - '0'.toNat)
  else if 'a'.toNat ≤ c.toNat ∧ c.toNat ≤ 'f'.toNat then some (c.toNat - 'a'.toNat + 10)
  else if 'A'.toNat ≤ c.toNat ∧ c.toNat ≤ 'F'.toNat then some (c.toNat - 'A'.toNat + 10)
  else none

/-- The digit `c` behind a number with the value `n`. -/
def addDigit (base n : ℕ) (c : Char) : Option ℕ :=
  (digitValue c).bind fun d => if d < base then some (n * base + d) else none

/-- The value of a text of digits. -/
def numeral? (base : ℕ) (s : List Char) : Option ℕ :=
  if s = [] then none else s.foldlM (addDigit base) 0

/-! ### The strict parsers -/

/-- `_parse_octet`. -/
def octet? (s : List Char) : Option ℕ :=
  (numeral? 10 s).bind fun n =>
    if s.length ≤ 3 ∧ (s = ['0'] ∨ s.head? ≠ some '0') ∧ n ≤ 255 then some n else none

/-- The address of four octets. -/
def ofOctets (a b c d : ℕ) : ℕ := ((a * 256 + b) * 256 + c) * 256 + d

/-- `IPv4Address(s)`, as a number. -/
def ipv4? (s : List Char) : Option ℕ :=
  match s.splitOn '.' with
  | [a, b, c, d] => do return ofOctets (← octet? a) (← octet? b) (← octet? c) (← octet? d)
  | _ => none

/-- `_parse_hextet`. -/
def hextet? (s : List Char) : Option ℕ := if s.length ≤ 4 then numeral? 16 s else none

/-- An IPv4 address as the last of the parts is rewritten as two hextets. -/
def expandSuffix (parts : List (List Char)) : Option (List (List Char)) :=
  match parts.getLast? with
  | none => none
  | some suffix =>
    if '.' ∈ suffix then
      (ipv4? suffix).map fun n =>
        parts.dropLast ++ [Nat.toDigits 16 (n / 65536), Nat.toDigits 16 (n % 65536)]
    else some parts

/-- The parts before `::`, or behind it in reverse; an empty one is allowed at the very end. -/
def half? : List (List Char) → Option (List ℕ)
  | [[]] => some []
  | parts => parts.mapM hextet?

/-- The eight hextets of the parts between the colons. -/
def hextets? (parts : List (List Char)) : Option (List ℕ) :=
  match (List.range parts.length).filter fun i =>
      0 < i ∧ i + 1 < parts.length ∧ parts[i]? = some [] with
  | [] => if parts.length = 8 then parts.mapM hextet? else none
  | [skip] => do
    let high ← half? (parts.take skip)
    let low ← half? (parts.drop (skip + 1))
    if high.length + low.length < 8 then
      return high ++ List.replicate (8 - (high.length + low.length)) 0 ++ low
    else none
  | _ => none

/-- The address without the identifier of its scope; a slash is allowed in neither. -/
def splitScope (s : List Char) : Option (List Char) :=
  if '/' ∈ s then none
  else if '%' ∉ s then some s
  else if (s.dropWhile (· ≠ '%')).tail = [] ∨ '%' ∈ (s.dropWhile (· ≠ '%')).tail then none
  else some (s.takeWhile (· ≠ '%'))

/-- `IPv6Address(s)`, as a number. -/
def ipv6? (s : List Char) : Option ℕ := do
  let address ← splitScope s
  let parts := address.splitOn ':'
  if parts.length < 3 then none
  else
    let parts ← expandSuffix parts
    if parts.length > 9 then none
    else return (← hextets? parts).foldl (fun n hextet => n * 65536 + hextet) 0

/-! ### The lenient parser -/

/-- A number in the notation of C. -/
def cNumber? : List Char → Option ℕ
  | '0' :: 'x' :: digits => numeral? 16 digits
  | '0' :: 'X' :: digits => numeral? 16 digits
  | '0' :: digits => numeral? 8 ('0' :: digits)
  | digits => numeral? 10 digits

/-- `inet_aton`. -/
def inetAton (s : List Char) : Option ℕ :=
  match (s.splitOn '.').mapM cNumber? with
  | some [a] => if a < 2 ^ 32 then some a else none
  | some [a, b] => if a < 256 ∧ b < 2 ^ 24 then some (a * 2 ^ 24 + b) else none
  | some [a, b, c] =>
    if a < 256 ∧ b < 256 ∧ c < 65536 then some ((a * 256 + b) * 65536 + c) else none
  | some [a, b, c, d] =>
    if a < 256 ∧ b < 256 ∧ c < 256 ∧ d < 256 then some (ofOctets a b c d) else none
  | _ => none

/-! ### Networks -/

/-- A network of addresses with `width` bits: its first address, and the bits it fixes. -/
structure Network where
  address : ℕ
  bits : ℕ
deriving DecidableEq, Repr

/-- The network contains the address. -/
def Network.contains (width : ℕ) (network : Network) (n : ℕ) : Bool :=
  n / 2 ^ (width - network.bits) == network.address / 2 ^ (width - network.bits)

/-! ### What the parsers agree on -/

variable {s : List Char} {n : ℕ}

lemma le_of_foldlM {base m : ℕ} (hbase : 0 < base) (h : s.foldlM (addDigit base) n = some m) :
    n ≤ m := by
  induction s generalizing n with
  | nil =>
    obtain rfl := Option.some.inj h
    exact Nat.le_refl n
  | cons c s ih =>
    rw [List.foldlM_cons] at h
    obtain ⟨n', hn', hrest⟩ := Option.bind_eq_some_iff.1 h
    obtain ⟨d, -, hd⟩ := Option.bind_eq_some_iff.1 hn'
    have hle : n ≤ n' := by
      split at hd
      · obtain rfl := Option.some.inj hd
        exact Nat.le_trans (Nat.le_mul_of_pos_right n hbase) (Nat.le_add_right _ _)
      · cases hd
    exact Nat.le_trans hle (ih hrest)

lemma octet?_eq_some : octet? s = some n ↔ numeral? 10 s = some n ∧ s.length ≤ 3 ∧
    (s = ['0'] ∨ s.head? ≠ some '0') ∧ n ≤ 255 := by
  constructor
  · intro h
    obtain ⟨m, hm, hif⟩ := Option.bind_eq_some_iff.1 h
    split at hif
    · rename_i hcondition
      obtain rfl := Option.some.inj hif
      exact ⟨hm, hcondition⟩
    · cases hif
  · rintro ⟨hm, hcondition⟩
    rw [octet?, hm, Option.bind_some, if_pos hcondition]

/-- An octet is read in the same way by both. -/
lemma cNumber?_of_octet? (h : octet? s = some n) : cNumber? s = some n := by
  obtain ⟨hnumeral, -, hzero, -⟩ := octet?_eq_some.1 h
  rcases hzero with rfl | hhead
  · -- a single zero is octal for the one and decimal for the other
    exact hnumeral
  · unfold cNumber?
    split
    · exact absurd rfl hhead
    · exact absurd rfl hhead
    · exact absurd rfl hhead
    · exact hnumeral

lemma eq_zero_of_digitValue {c : Char} (h : digitValue c = some 0) : c = '0' := by
  unfold digitValue at h
  split_ifs at h with hdigit
  · have hle : c.toNat - '0'.toNat = 0 := Option.some.inj h
    exact Char.toNat_inj.1 (Nat.le_antisymm (Nat.sub_eq_zero_iff_le.1 hle) hdigit.1)
  · have := Option.some.inj h
    omega
  · have := Option.some.inj h
    omega

/-- Only the digit zero has the value zero. -/
lemma eq_zero_of_octet? (h : octet? s = some 0) : s = ['0'] := by
  obtain ⟨hnumeral, -, hzero, -⟩ := octet?_eq_some.1 h
  refine hzero.resolve_right fun hhead => ?_
  cases s with
  | nil => cases hnumeral
  | cons c s =>
    rw [numeral?, if_neg (List.cons_ne_nil c s), List.foldlM_cons] at hnumeral
    obtain ⟨m, hm, hrest⟩ := Option.bind_eq_some_iff.1 hnumeral
    have hm0 : m = 0 := Nat.le_zero.1 (le_of_foldlM (by decide) hrest)
    obtain ⟨d, hd, hif⟩ := Option.bind_eq_some_iff.1 hm
    split at hif
    · have hd0 : d = 0 := by
        have := Option.some.inj hif
        omega
      subst hd0
      exact hhead (congrArg some (eq_zero_of_digitValue hd))
    · cases hif

lemma ipv4?_eq_some : ipv4? s = some n ↔ ∃ a b c d va vb vc vd, s.splitOn '.' = [a, b, c, d] ∧
    octet? a = some va ∧ octet? b = some vb ∧ octet? c = some vc ∧ octet? d = some vd ∧
      n = ofOctets va vb vc vd := by
  unfold ipv4?
  constructor
  · intro h
    split at h
    · rename_i a b c d hsplit
      simp only [Option.bind_eq_bind, Option.bind_eq_some_iff, Option.pure_def,
        Option.some.injEq] at h
      obtain ⟨va, ha, vb, hb, vc, hc, vd, hd, rfl⟩ := h
      exact ⟨a, b, c, d, va, vb, vc, vd, hsplit, ha, hb, hc, hd, rfl⟩
    · cases h
  · rintro ⟨a, b, c, d, va, vb, vc, vd, hsplit, ha, hb, hc, hd, rfl⟩
    simp [hsplit, ha, hb, hc, hd]

/-- The lenient parser reads what the strict one accepts. -/
lemma inetAton_of_ipv4? (h : ipv4? s = some n) : inetAton s = some n := by
  obtain ⟨a, b, c, d, va, vb, vc, vd, hsplit, ha, hb, hc, hd, rfl⟩ := ipv4?_eq_some.1 h
  have hmap : (s.splitOn '.').mapM cNumber? = some [va, vb, vc, vd] := by
    simp [hsplit, cNumber?_of_octet? ha, cNumber?_of_octet? hb, cNumber?_of_octet? hc,
      cNumber?_of_octet? hd]
  have hva := (octet?_eq_some.1 ha).2.2.2
  have hvb := (octet?_eq_some.1 hb).2.2.2
  have hvc := (octet?_eq_some.1 hc).2.2.2
  have hvd := (octet?_eq_some.1 hd).2.2.2
  unfold inetAton
  rw [hmap]
  exact if_pos (by omega)

/-- The octets and the dots give the text back. -/
lemma eq_of_splitOn {parts : List (List Char)} (h : s.splitOn '.' = parts) :
    s = ['.'].intercalate parts := by
  rw [← h, List.intercalate_splitOn]

/-- The unspecified address has one strict spelling. -/
lemma eq_of_ipv4?_zero (h : ipv4? s = some 0) : s = "0.0.0.0".toList := by
  obtain ⟨a, b, c, d, va, vb, vc, vd, hsplit, ha, hb, hc, hd, hn⟩ := ipv4?_eq_some.1 h
  unfold ofOctets at hn
  obtain ⟨rfl, rfl, rfl, rfl⟩ : va = 0 ∧ vb = 0 ∧ vc = 0 ∧ vd = 0 := by omega
  rw [eq_of_splitOn hsplit, eq_zero_of_octet? ha, eq_zero_of_octet? hb, eq_zero_of_octet? hc,
    eq_zero_of_octet? hd]
  decide

end EcommerceAgent.Lib.IpAddress
