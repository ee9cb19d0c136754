import CanonicalTypes.Json.Codec
import CanonicalTypes.Strategy
import CanonicalTypes.Value.Basic

/-!
# Ids and strategies as records
-/
namespace CanonicalTypes

/-- An id is exchanged as its number, of 32 bits. -/
instance : Codec TypeId where
  encode id := .ofNat id.index
  decode _ j := (j.natBelow? UInt32.size).map TypeId.mk

instance : Codec Strategy where
  encode s := .string s.name
  decode := Json.unitLabel Strategy.name Strategy.all

end CanonicalTypes
