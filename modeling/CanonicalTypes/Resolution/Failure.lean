import CanonicalTypes.Strategy
import CanonicalTypes.Value.Basic

/-!
# Failed resolutions

Every failure names the target type and the producer of the value that could not be resolved.

| here | operation |
| --- | --- |
| `target`, `producer`, `attempted` | `ResolutionFailure::target`, `producer`, `attempted` |
| `cause?`                          | `ResolutionFailure::source` |
-/
namespace CanonicalTypes

inductive ResolutionFailure where
  | unknownType (target : String) (producer : ProducerType)
  | converter (target : String) (producer : ProducerType) (strategy : Strategy)
      (error : ConverterError)
  | raggedOrMixedElements (target : String) (producer : ProducerType) (detail : String)
  | noConversionFound (target : String) (producer : ProducerType) (attempted : List Strategy)
  deriving DecidableEq

namespace ResolutionFailure

def target : ResolutionFailure → String
  | unknownType target _ => target
  | converter target _ _ _ => target
  | raggedOrMixedElements target _ _ => target
  | noConversionFound target _ _ => target

def producer : ResolutionFailure → ProducerType
  | unknownType _ producer => producer
  | converter _ producer _ _ => producer
  | raggedOrMixedElements _ producer _ => producer
  | noConversionFound _ producer _ => producer

def attempted : ResolutionFailure → List Strategy
  | noConversionFound _ _ attempted => attempted
  | _ => []

/-- The failure of a converter or an object behind this one. -/
def cause? : ResolutionFailure → Option ConverterError
  | converter _ _ _ error => some error
  | _ => none

def message : ResolutionFailure → String
  | unknownType target producer =>
    s!"cannot resolve `{producer.name}`: unknown canonical type `{target}`"
  | converter target producer strategy error =>
    s!"{strategy.name} conversion of `{producer.name}` to `{target}` failed: {error.message}"
  | raggedOrMixedElements target producer detail =>
    s!"`{producer.name}` cannot become `{target}`: ragged or mixed elements ({detail})"
  | noConversionFound target producer attempted =>
    let tried := String.intercalate ", " (attempted.map Strategy.name)
    s!"no conversion from `{producer.name}` to canonical type `{target}` (attempted: {tried})"

end ResolutionFailure

end CanonicalTypes
