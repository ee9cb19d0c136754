import CanonicalTypes.Converters.Basic
import CanonicalTypes.Json.Codec

/-!
# Converter priorities as records
-/
namespace CanonicalTypes

instance : Codec ConverterPriority where
  encode p := .string p.name
  decode := Json.unitLabel ConverterPriority.name ConverterPriority.all

end CanonicalTypes
