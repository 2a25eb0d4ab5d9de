/-
# The runtime profiles

`agent/runtime/profiles.py`: the three profiles and the names that are accepted for them.
-/
import EcommerceAgent.Lib.Text

open EcommerceAgent.Lib

namespace EcommerceAgent.Runtime

/-- The runtime profiles. -/
inductive Profile
  | realtime | standard | deep
deriving DecidableEq, Repr

/-- `PROFILE_ALIASES` and the three names themselves. -/
def Profile.names : List (List Char × Profile) :=
  [("realtime".toList, .realtime), ("standard".toList, .standard), ("deep".toList, .deep),
    ("lightweight".toList, .realtime), ("chat".toList, .realtime), ("fast".toList, .realtime),
    ("full".toList, .deep), ("reasoning".toList, .deep)]

/-- `normalize_runtime_profile`; a missing value is the empty text. -/
def normalizeRuntimeProfile (profile : List Char) : Profile :=
  let value := Text.lower (Text.strip (if profile = [] then "standard".toList else profile))
  (Profile.names.lookup value).getD .standard

/-- The name of the profile. -/
def Profile.name : Profile → String
  | .realtime => "realtime"
  | .standard => "standard"
  | .deep => "deep"

lemma Profile.name_ne (p : Profile) : p.name ≠ "" := by
  cases p <;> decide

/-- The name of a profile stands for the profile. -/
@[simp] lemma normalizeRuntimeProfile_name (p : Profile) :
    normalizeRuntimeProfile p.name.toList = p := by
  cases p <;> decide +kernel

end EcommerceAgent.Runtime
