import CanonicalTypes.Resolution.Failure
import CanonicalTypes.Text.Quoted

/-!
# Resolutions in diagnostics

The diagnostic texts of results: constructors by name, fields by name, texts quoted.
-/
namespace CanonicalTypes

def Tensor.inspect (t : Tensor) : String :=
  "TensorValue \x7b dtype: " ++ t.dtype.label ++ ", shape: Shape \x7b dims: "
    ++ Shape.dimsText t.shape.dims ++ " \x7d, elements: "
    ++ Text.bracketed (t.elements.map Literal.inspect) ++ " \x7d"

def ProducerType.inspect (p : ProducerType) : String :=
  "ProducerType(" ++ Text.quoted p.name ++ ")"

variable {ω : Type} [ForeignObject ω]

def Payload.inspect : Payload ω → String
  | .tensor t => "Tensor(" ++ t.inspect ++ ")"
  | .handle o => "Handle(" ++ ForeignObject.inspect o ++ ")"

def CanonicalValue.inspect (c : CanonicalValue ω) : String :=
  "CanonicalValue \x7b canonical: CanonicalTypeId(" ++ toString c.typeId.index ++ "), payload: "
    ++ c.payload.inspect ++ " \x7d"

def ResolutionFailure.inspect (f : ResolutionFailure) : String :=
  let place := "target: " ++ Text.quoted f.target ++ ", producer: " ++ f.producer.inspect
  match f with
  | .unknownType _ _ => "UnknownType \x7b " ++ place ++ " \x7d"
  | .converter _ _ strategy error =>
    "Converter \x7b " ++ place ++ ", strategy: " ++ strategy.inspect
      ++ ", error: ConverterError \x7b message: " ++ Text.quoted error.message ++ " \x7d \x7d"
  | .raggedOrMixedElements _ _ detail =>
    "RaggedOrMixedElements \x7b " ++ place ++ ", detail: " ++ Text.quoted detail ++ " \x7d"
  | .noConversionFound _ _ attempted =>
    "NoConversionFound \x7b " ++ place ++ ", attempted: "
      ++ Text.bracketed (attempted.map Strategy.inspect) ++ " \x7d"

def inspectResult : Except ResolutionFailure (CanonicalValue ω) → String
  | .ok c => "Ok(" ++ c.inspect ++ ")"
  | .error f => "Err(" ++ f.inspect ++ ")"

end CanonicalTypes
