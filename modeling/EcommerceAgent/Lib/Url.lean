/-
# Splitting a URL

`urlsplit` of `urllib.parse` in Python 3.12.  It is strict in three places, where it raises: the
brackets around an IPv6 address, the address between them, and characters that become separators
under the compatibility normalisation of Unicode.  The normalisation is a parameter.
-/
import EcommerceAgent.Lib.IpAddress
import EcommerceAgent.Lib.Text
import Mathlib

open EcommerceAgent.Lib.IpAddress

namespace EcommerceAgent.Lib.Url

/-! ### Partitions -/

/-- `s.partition(c)`, without the separator. -/
def partition (c : Char) (s : List Char) : List Char × List Char :=
  (s.takeWhile (· ≠ c), (s.dropWhile (· ≠ c)).tail)

/-- The last part of `s.rpartition(c)`. -/
def afterLast (c : Char) (s : List Char) : List Char := s.rtakeWhile (· ≠ c)

/-! ### The checks -/

/-- A hexadecimal digit. -/
def isHex (c : Char) : Bool := (digitValue c).isSome

/-- The text matches `v[a-fA-F0-9]+\..+`. -/
def isFutureAddress (host : List Char) : Bool :=
  let rest := host.tail.dropWhile isHex
  host.head? = some 'v' && host.tail.takeWhile isHex ≠ [] && rest.head? = some '.' &&
    rest.tail ≠ [] && '\n' ∉ rest.tail

/-- `_check_bracketed_host` returns. -/
def checkBracketedHost (host : List Char) : Bool :=
  if host.head? = some 'v' then isFutureAddress host
  else ipv4? host = none && (ipv6? host).isSome

/-- The brackets are balanced, and what they enclose passes the check. -/
def checkBrackets (netloc : List Char) : Bool :=
  if '[' ∈ netloc ∧ ']' ∈ netloc then
    checkBracketedHost (partition ']' (partition '[' netloc).2).1
  else '[' ∉ netloc && ']' ∉ netloc

/-- `_checknetloc` returns. -/
def checkNetloc (nfkc : List Char → List Char) (netloc : List Char) : Bool :=
  let rest := netloc.filter (· ∉ ['@', ':', '#', '?'])
  netloc.all (·.toNat < 128) || nfkc rest = rest ||
    ['/', '?', '#', '@', ':'].all (· ∉ nfkc rest)

/-! ### The parts -/

/-- What `urlsplit` returns. -/
structure SplitResult where
  scheme : List Char
  netloc : List Char
  path : List Char
  query : List Char
  fragment : List Char
deriving DecidableEq, Repr

/-- A letter of ASCII. -/
def isAsciiAlpha (c : Char) : Bool := ('a' ≤ c && c ≤ 'z') || ('A' ≤ c && c ≤ 'Z')

/-- `scheme_chars`. -/
def isSchemeChar (c : Char) : Bool :=
  isAsciiAlpha c || ('0' ≤ c && c ≤ '9') || c ∈ ['+', '-', '.']

/-- The URL without the characters that are dropped before it is read. -/
def cleaned (url : List Char) : List Char :=
  (url.dropWhile (·.toNat ≤ 32)).filter (· ∉ ['\t', '\r', '\n'])

/-- The scheme, in lower case, and what stands behind its colon. -/
def splitScheme (url : List Char) : List Char × List Char :=
  let before := url.takeWhile (· ≠ ':')
  if ':' ∈ url ∧ (before.head?.any isAsciiAlpha) ∧ before.all isSchemeChar then
    (Text.lower before, (url.dropWhile (· ≠ ':')).tail)
  else ([], url)

/-- `_splitnetloc`, of a URL without scheme. -/
def splitNetloc (url : List Char) : List Char × List Char :=
  if ['/', '/'].isPrefixOf url then (url.drop 2).span (· ∉ ['/', '?', '#']) else ([], url)

/-- `urlsplit(url)`, or `none` when it raises. -/
def urlsplit (nfkc : List Char → List Char) (url : List Char) : Option SplitResult :=
  let (scheme, rest) := splitScheme (cleaned url)
  let (netloc, rest) := splitNetloc rest
  let (rest, fragment) := partition '#' rest
  let (path, query) := partition '?' rest
  if checkBrackets netloc && checkNetloc nfkc netloc then
    some ⟨scheme, netloc, path, query, fragment⟩
  else none

/-- `parsed.hostname or ""`. -/
def SplitResult.hostname (parsed : SplitResult) : List Char :=
  let hostinfo := afterLast '@' parsed.netloc
  let host :=
    if '[' ∈ hostinfo then (partition ']' (partition '[' hostinfo).2).1
    else (partition ':' hostinfo).1
  Text.lower (host.takeWhile (· ≠ '%')) ++ host.dropWhile (· ≠ '%')

end EcommerceAgent.Lib.Url
