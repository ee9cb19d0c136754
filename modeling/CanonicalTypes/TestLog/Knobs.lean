import CanonicalTypes.Text.Digits

/-!
# Knobs of property tests

The number of cases and the seed of property tests, as the environment gives them. What is not a
number is passed over.

| here | operation |
| --- | --- |
| `caseCount` | `property_test_case_count` |
| `seed?`     | `capture_proptest_seed` |
-/
namespace CanonicalTypes

abbrev Environment := List (String × String)

namespace Environment

/-- The number of cases of a property test: what the environment asks for, if it is positive; else
more on a build server than elsewhere. -/
def caseCount (env : Environment) : Nat :=
  let asked := ((env.lookup "CT_PROPTEST_CASES").bind (Text.unsigned? UInt32.size)).filter (0 < ·)
  asked.getD (if (env.lookup "CI").isSome then 1024 else 256)

def seed? (env : Environment) : Option Nat :=
  let seed (key : String) := (env.lookup key).bind (Text.unsigned? UInt64.size)
  seed "CT_PROPTEST_SEED" <|> seed "PROPTEST_RNG_SEED"

end Environment

end CanonicalTypes
