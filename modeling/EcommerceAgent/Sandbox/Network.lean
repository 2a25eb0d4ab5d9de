/-
# The network policy of a sandbox

`SandboxNetworkPolicy` normalises the domains of a request; `validate_network_policy` checks one
after the other.  The check of a domain is a short list of names and the strict parser of IPv4
addresses, behind a URL parser that can raise.  `neverLocal_iff` says which requests the two layers
settle as intended: an address in another spelling than the strict one passes (`Disguised`), and an
entry that is no URL makes the check raise, unless a refused entry is sorted before it.
-/
import EcommerceAgent.Lib.Url
import EcommerceAgent.Sandbox.RelativePath
import Mathlib

open EcommerceAgent.Lib EcommerceAgent.Lib.IpAddress EcommerceAgent.Lib.Url EcommerceAgent.Files

namespace EcommerceAgent.Sandbox

/-! ### The policy -/

/-- `BLOCKED_HOSTS`. -/
def blockedHosts : List Str :=
  ["localhost", "0.0.0.0", "127.0.0.1", "::1", "169.254.169.254"].map String.toList

/-- `PRIVATE_NETWORKS`. -/
def privateNetworks : List Network :=
  [⟨ofOctets 10 0 0 0, 8⟩, ⟨ofOctets 172 16 0 0, 12⟩, ⟨ofOctets 192 168 0 0, 16⟩,
    ⟨ofOctets 127 0 0 0, 8⟩, ⟨ofOctets 169 254 0 0, 16⟩]

/-- The address is in one of the private networks. -/
def InPrivateNetworks (n : ℕ) : Prop := ∃ network ∈ privateNetworks, network.contains 32 n

instance (n : ℕ) : Decidable (InPrivateNetworks n) :=
  inferInstanceAs (Decidable (∃ network ∈ privateNetworks, _))

/-- `SandboxNetworkMode`. -/
inductive SandboxNetworkMode
  | none
  | allowlist
deriving DecidableEq, Repr

/-- `SandboxNetworkPolicy`, without the ports. -/
structure SandboxNetworkPolicy where
  mode : SandboxNetworkMode
  allowedDomains : List Str
deriving DecidableEq, Repr

/-- `normalize_domains`. -/
def normalizeDomains (value : List Str) : List Str :=
  let items := value.filter fun item => Text.strip item ≠ []
  let domains := items.map fun item => Text.rstripChar '.' (Text.lower (Text.strip item))
  domains.dedup.insertionSort (· ≤ ·)

/-! ### The check -/

/-- `value.strip().lower()`. -/
def domainText (value : Str) : Str := Text.lower (Text.strip value)

/-- The text, with a scheme if it has none. -/
def asUrl (text : Str) : Str :=
  if Text.contains text "://".toList then text else "https://".toList ++ text

section

variable (nfkc : Str → Str)

/-- The URL of an entry, or `none` when `urlparse` raises. -/
def parsed? (value : Str) : Option SplitResult := urlsplit nfkc (asUrl (domainText value))

/-- The host of a URL, without dots at its end. -/
def hostOf (parsed : SplitResult) : Str := Text.rstripChar '.' parsed.hostname

/-- `validate_allowed_domain`, or `none` when it raises. -/
def validateAllowedDomain (value : Str) : Option (Bool × String) :=
  if domainText value = [] then some (false, "empty domain is not allowed")
  else (parsed? nfkc value).map fun parsed =>
    let host := hostOf parsed
    if ¬["http".toList, "https".toList].contains parsed.scheme then
      (false, "only http/https domains are allowed")
    else if host = [] then (false, "domain host is required")
    else if blockedHosts.contains host then (false, "blocked host: " ++ String.ofList host)
    else if (ipv4? host).any fun n => InPrivateNetworks n then
      (false, "private or metadata address is not allowed: " ++ String.ofList host)
    else (true, "domain accepted")

/-- The loop of `validate_network_policy`. -/
def checkDomains : List Str → Option (Bool × String)
  | [] => some (true, "allowlist accepted")
  | domain :: domains =>
    (validateAllowedDomain nfkc domain).bind fun result =>
      if result.1 then checkDomains domains else some (false, result.2)

/-- `validate_network_policy`, or `none` when it raises. -/
def validateNetworkPolicy (policy : SandboxNetworkPolicy) : Option (Bool × String) :=
  match policy.mode with
  | .none => some (true, "network disabled")
  | .allowlist =>
    if policy.allowedDomains = [] then
      some (false, "allowlist network requires allowed_domains")
    else checkDomains nfkc policy.allowedDomains

end

/-! ### Local addresses -/

/-- Loopback, private use, and link-local, in which the metadata services live. -/
def localNetworks : List Network :=
  [⟨ofOctets 127 0 0 0, 8⟩, ⟨ofOctets 10 0 0 0, 8⟩, ⟨ofOctets 172 16 0 0, 12⟩,
    ⟨ofOctets 192 168 0 0, 16⟩, ⟨ofOctets 169 254 0 0, 16⟩]

/-- A local IPv4 address, or the unspecified one. -/
def LocalIpv4 (n : ℕ) : Prop := n = 0 ∨ ∃ network ∈ localNetworks, network.contains 32 n

/-- Unique-local and link-local. -/
def localNetworks6 : List Network := [⟨0xfc00 * 2 ^ 112, 7⟩, ⟨0xfe80 * 2 ^ 112, 10⟩]

/-- A local IPv6 address, the unspecified one, or a local IPv4 address that is mapped. -/
def LocalIpv6 (n : ℕ) : Prop :=
  n = 0 ∨ n = 1 ∨ (∃ network ∈ localNetworks6, network.contains 128 n) ∨
    (n / 2 ^ 32 = 0xffff ∧ LocalIpv4 (n % 2 ^ 32))

instance (n : ℕ) : Decidable (LocalIpv4 n) :=
  inferInstanceAs (Decidable (_ ∨ ∃ network ∈ localNetworks, _))

instance (n : ℕ) : Decidable (LocalIpv6 n) :=
  inferInstanceAs (Decidable (_ ∨ _ ∨ (∃ network ∈ localNetworks6, _) ∨ _))

/-- The host is `localhost`, or a local address for the parsers of network clients. -/
def DenotesLocal (host : Str) : Prop :=
  host = "localhost".toList ∨ (∃ n ∈ inetAton host, LocalIpv4 n) ∨ ∃ n ∈ ipv6? host, LocalIpv6 n

/-- The host denotes a local address in another spelling than the dotted one and `::1`. -/
def Disguised (host : Str) : Prop :=
  (ipv4? host = none ∧ ∃ n ∈ inetAton host, LocalIpv4 n) ∨
    (host ≠ "::1".toList ∧ ∃ n ∈ ipv6? host, LocalIpv6 n)

section

variable (nfkc : Str → Str)

/-- The check of the domains decides, and the hosts that it allows are not local. -/
def NeverLocal (mode : SandboxNetworkMode) (value : List Str) : Prop :=
  ∃ ok reason, validateNetworkPolicy nfkc ⟨mode, normalizeDomains value⟩ = some (ok, reason) ∧
    (ok → mode = .allowlist → ∀ entry ∈ normalizeDomains value, ∀ parsed ∈ parsed? nfkc entry,
      ¬DenotesLocal (hostOf parsed))

/-- The entry is not empty, and no URL. -/
def Malformed (entry : Str) : Prop := domainText entry ≠ [] ∧ parsed? nfkc entry = none

/-- The entry has no host, another scheme, a host that is blocked, or a dotted address that is. -/
def Refused (entry : Str) : Prop :=
  domainText entry = [] ∨ ∃ parsed ∈ parsed? nfkc entry,
    parsed.scheme ∉ ["http".toList, "https".toList] ∨ hostOf parsed = [] ∨
      hostOf parsed ∈ blockedHosts ∨ ∃ n ∈ ipv4? (hostOf parsed), InPrivateNetworks n

/-- A malformed entry stands behind one that is refused. -/
def Shielded (entries : List Str) : Prop :=
  ∀ before entry behind, entries = before ++ entry :: behind → Malformed nfkc entry →
    ∃ other ∈ before, Refused nfkc other

end

/-! ### Hosts that are not blocked -/

variable {nfkc : Str → Str} {mode : SandboxNetworkMode} {value entries : List Str}
  {entry host : Str} {n : ℕ}

/-- Apart from the unspecified address, the private networks are the local ones. -/
lemma localIpv4_iff : LocalIpv4 n ↔ n = 0 ∨ InPrivateNetworks n := by
  refine or_congr_right ?_
  simp only [InPrivateNetworks, localNetworks, privateNetworks, List.mem_cons, List.not_mem_nil,
    or_false, exists_eq_or_imp, exists_eq_left]
  tauto

/-- What the names and the strict parser do not block is local only in another spelling. -/
lemma denotesLocal_iff (hblocked : host ∉ blockedHosts)
    (hprivate : ¬∃ n ∈ ipv4? host, InPrivateNetworks n) : DenotesLocal host ↔ Disguised host := by
  have hname : ∀ name : String, name.toList ∈ blockedHosts → host ≠ name.toList :=
    fun name hmem heq => hblocked (heq ▸ hmem)
  constructor
  · rintro (hhost | ⟨n, hn, hlocal⟩ | ⟨n, hn, hlocal⟩)
    · exact absurd hhost (hname "localhost" (by decide))
    · refine .inl ⟨?_, n, hn, hlocal⟩
      cases hstrict : ipv4? host with
      | none => rfl
      | some m =>
        -- the two parsers agree, and the strict spelling is blocked
        obtain rfl : m = n := Option.some.inj ((inetAton_of_ipv4? hstrict).symm.trans hn)
        rcases localIpv4_iff.1 hlocal with rfl | hin
        · exact absurd (eq_of_ipv4?_zero hstrict) (hname "0.0.0.0" (by decide))
        · exact absurd ⟨m, hstrict, hin⟩ hprivate
    · exact .inr ⟨hname "::1" (by decide), n, hn, hlocal⟩
  · rintro (⟨-, hlocal⟩ | ⟨-, hlocal⟩)
    · exact .inr (.inl hlocal)
    · exact .inr (.inr hlocal)

/-! ### One entry -/

/-- The check of a domain raises exactly for the malformed entries. -/
lemma validateAllowedDomain_eq_none :
    validateAllowedDomain nfkc entry = none ↔ Malformed nfkc entry := by
  unfold validateAllowedDomain Malformed
  split_ifs with hempty
  · simp [hempty]
  · simp [hempty]

/-- For the others it decides, and refuses those that are to be refused. -/
lemma refused_iff {ok : Bool} {reason : String}
    (h : validateAllowedDomain nfkc entry = some (ok, reason)) :
    Refused nfkc entry ↔ ok = false := by
  unfold validateAllowedDomain at h
  split_ifs at h with hempty
  · cases h
    exact iff_of_true (.inl hempty) rfl
  · obtain ⟨parsed, hparsed, hresult⟩ := Option.map_eq_some_iff.1 h
    have hrefused : Refused nfkc entry ↔
        parsed.scheme ∉ ["http".toList, "https".toList] ∨ hostOf parsed = [] ∨
          hostOf parsed ∈ blockedHosts ∨ ∃ n ∈ ipv4? (hostOf parsed), InPrivateNetworks n := by
      simp [Refused, hempty, hparsed]
    have hany : (ipv4? (hostOf parsed)).any (fun n => InPrivateNetworks n) = true ↔
        ∃ n ∈ ipv4? (hostOf parsed), InPrivateNetworks n := by
      simp [Option.any_eq_true]
    rw [hrefused]
    dsimp only at hresult
    split_ifs at hresult with hscheme hhost hblocked hprivate <;> cases hresult
    · exact iff_of_true (.inr (.inl hhost)) rfl
    · exact iff_of_true (.inr (.inr (.inl (List.contains_iff_mem.1 hblocked)))) rfl
    · exact iff_of_true (.inr (.inr (.inr (hany.1 hprivate)))) rfl
    · refine iff_of_false ?_ (by decide)
      rintro (h | h | h | h)
      · exact h (List.contains_iff_mem.1 hscheme)
      · exact hhost h
      · exact hblocked (List.contains_iff_mem.2 h)
      · exact hprivate (hany.2 h)
    · exact iff_of_true (.inl fun h => hscheme (List.contains_iff_mem.2 h)) rfl

lemma Malformed.not_refused (h : Malformed nfkc entry) : ¬Refused nfkc entry := by
  rintro (hempty | ⟨parsed, hparsed, -⟩)
  · exact h.1 hempty
  · rw [h.2] at hparsed
    cases hparsed

/-! ### The list -/

lemma shielded_cons : Shielded nfkc (entry :: entries) ↔
    ¬Malformed nfkc entry ∧ (Refused nfkc entry ∨ Shielded nfkc entries) := by
  constructor
  · intro h
    have hfirst : ¬Malformed nfkc entry := fun hmalformed => by
      obtain ⟨other, hmem, -⟩ := h [] entry entries rfl hmalformed
      cases hmem
    refine ⟨hfirst, or_iff_not_imp_left.2 fun hrefused before e behind heq hmalformed => ?_⟩
    obtain ⟨other, hmem, hother⟩ := h (entry :: before) e behind (by rw [heq]; rfl) hmalformed
    rcases List.mem_cons.1 hmem with rfl | hmem
    · exact absurd hother hrefused
    · exact ⟨other, hmem, hother⟩
  · rintro ⟨hfirst, h⟩ before e behind heq hmalformed
    cases before with
    | nil =>
      obtain ⟨rfl, -⟩ := List.cons.inj heq
      exact absurd hmalformed hfirst
    | cons first before =>
      obtain ⟨rfl, htail⟩ := List.cons.inj heq
      rcases h with hrefused | h
      · exact ⟨entry, List.mem_cons_self, hrefused⟩
      · obtain ⟨other, hmem, hother⟩ := h before e behind htail hmalformed
        exact ⟨other, List.mem_cons_of_mem _ hmem, hother⟩

/-- The loop decides exactly for the shielded lists, and accepts when nothing is refused. -/
lemma checkDomains_spec : (Shielded nfkc entries ∧ ∃ ok reason,
      checkDomains nfkc entries = some (ok, reason) ∧
        (ok = true ↔ ∀ entry ∈ entries, ¬Refused nfkc entry)) ∨
    (¬Shielded nfkc entries ∧ checkDomains nfkc entries = none) := by
  induction entries with
  | nil =>
    refine .inl ⟨fun before e behind heq _ => ?_, true, _, rfl, by simp⟩
    exact absurd heq (by simp)
  | cons entry entries ih =>
    rw [checkDomains, shielded_cons]
    cases hresult : validateAllowedDomain nfkc entry with
    | none =>
      exact .inr ⟨fun h => h.1 (validateAllowedDomain_eq_none.1 hresult), rfl⟩
    | some result =>
      obtain ⟨ok, reason⟩ := result
      have hwell : ¬Malformed nfkc entry := fun hmalformed => by
        rw [validateAllowedDomain_eq_none.2 hmalformed] at hresult
        cases hresult
      have hrefused := refused_iff hresult
      cases ok with
      | false =>
        refine .inl ⟨⟨hwell, .inl (hrefused.2 rfl)⟩, false, reason, rfl, ?_⟩
        exact iff_of_false (by decide) fun h => h entry List.mem_cons_self (hrefused.2 rfl)
      | true =>
        have hkept : ¬Refused nfkc entry := fun h => absurd (hrefused.1 h) (by decide)
        rcases ih with ⟨hshielded, ok, reason', hcheck, hok⟩ | ⟨hshielded, hcheck⟩
        · refine .inl ⟨⟨hwell, .inr hshielded⟩, ok, reason', hcheck, hok.trans ?_⟩
          rw [List.forall_mem_cons]
          exact (and_iff_right hkept).symm
        · exact .inr ⟨fun h => (h.2.resolve_left hkept |> hshielded), hcheck⟩

/-- An accepted domain is never a local address, and the check decides, exactly for the requests
without network, and for those whose malformed entries stand behind refused ones and of which an
entry is refused or no host is a local address in disguise. -/
theorem neverLocal_iff : NeverLocal nfkc mode value ↔ mode = .none ∨
    (Shielded nfkc (normalizeDomains value) ∧
      ((∃ entry ∈ normalizeDomains value, Refused nfkc entry) ∨
        ∀ entry ∈ normalizeDomains value, ∀ parsed ∈ parsed? nfkc entry,
          ¬Disguised (hostOf parsed))) := by
  cases mode with
  | none => exact iff_of_true ⟨true, _, rfl, fun _ hmode => nomatch hmode⟩ (.inl rfl)
  | allowlist =>
    rw [or_iff_right (by decide)]
    rcases List.eq_nil_or_concat (normalizeDomains value) with hnil | ⟨_, _, hconcat⟩
    · -- without domains there is nothing to allow
      refine iff_of_true ⟨false, "allowlist network requires allowed_domains", ?_, by simp⟩ ?_
      · rw [hnil]
        rfl
      · rw [hnil]
        exact ⟨fun before e behind heq _ => absurd heq (by simp), .inr (by simp)⟩
    have hcheck : validateNetworkPolicy nfkc ⟨.allowlist, normalizeDomains value⟩ =
        checkDomains nfkc (normalizeDomains value) := if_neg (by simp [hconcat])
    unfold NeverLocal
    rw [hcheck]
    generalize normalizeDomains value = entries
    have hspec : (Shielded nfkc entries ∧ _) ∨ _ := checkDomains_spec
    rcases hspec with ⟨hshielded, ok, reason, hresult, hok⟩ | ⟨hshielded, hresult⟩
    · rw [and_iff_right hshielded, hresult]
      by_cases hrefused : ∃ entry ∈ entries, Refused nfkc entry
      · -- the refusal settles it
        refine iff_of_true ⟨ok, reason, rfl, fun htrue => ?_⟩ (.inl hrefused)
        obtain ⟨entry, hmem, hentry⟩ := hrefused
        exact absurd hentry (hok.1 htrue entry hmem)
      · have hkept : ∀ entry ∈ entries, ¬Refused nfkc entry :=
          fun entry hmem hentry => hrefused ⟨entry, hmem, hentry⟩
        have hhost : ∀ entry ∈ entries, ∀ parsed ∈ parsed? nfkc entry,
            (DenotesLocal (hostOf parsed) ↔ Disguised (hostOf parsed)) := by
          intro entry hmem parsed hparsed
          refine denotesLocal_iff (fun h => ?_) fun h => ?_
          · exact hkept entry hmem (.inr ⟨parsed, hparsed, .inr (.inr (.inl h))⟩)
          · exact hkept entry hmem (.inr ⟨parsed, hparsed, .inr (.inr (.inr h))⟩)
        rw [or_iff_right hrefused]
        constructor
        · rintro ⟨ok', reason', heq, hlocal⟩ entry hmem parsed hparsed hdisguised
          obtain ⟨rfl, rfl⟩ := Prod.mk.inj (Option.some.inj heq)
          exact hlocal (hok.2 hkept) rfl entry hmem parsed hparsed
            ((hhost entry hmem parsed hparsed).2 hdisguised)
        · intro h
          refine ⟨ok, reason, rfl, fun _ _ entry hmem parsed hparsed hlocal => ?_⟩
          exact h entry hmem parsed hparsed ((hhost entry hmem parsed hparsed).1 hlocal)
    · refine iff_of_false ?_ fun h => hshielded h.1
      rintro ⟨ok, reason, heq, -⟩
      rw [hresult] at heq
      cases heq

/-- Loopback as one decimal number is accepted. -/
example : validateNetworkPolicy id ⟨.allowlist, normalizeDomains ["2130706433".toList]⟩ =
    some (true, "allowlist accepted") := by
  decide

/-- An unbalanced bracket makes the check raise. -/
example : validateNetworkPolicy id ⟨.allowlist, normalizeDomains ["[::1".toList]⟩ = none := by
  decide

end EcommerceAgent.Sandbox
