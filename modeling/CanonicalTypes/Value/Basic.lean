import CanonicalTypes.Tensor.Basic

/-!
# Values

What a producer hands over, and what resolution returns. A value is a native scalar, a finite
sequence, a foreign object or something that is already canonical. Foreign objects are opaque: the
type `ω` of objects is a parameter, and `ForeignObject` is all that can be asked of one without
running it.

| here | operation |
| --- | --- |
| `ProducerType`, `TypeId`                  | `ProducerType`, `CanonicalTypeId` |
| `ForeignObject`                           | the trait `ForeignObject`, all of it but `canonicalize` |
| `ConverterError.noEntryPoint`             | the default of `ForeignObject::canonicalize` |
| `Payload.tensor?`                         | `Payload::as_tensor` |
| `Value.producer`, `supertypes`, `object?` | `Value::producer_type`, `supertypes`, `as_object` |
-/
namespace CanonicalTypes

structure ProducerType where
  name : String
  deriving DecidableEq

namespace ProducerType

def int : ProducerType := ⟨"builtin.int"⟩
def float : ProducerType := ⟨"builtin.float"⟩
def bool : ProducerType := ⟨"builtin.bool"⟩
def complex : ProducerType := ⟨"builtin.complex"⟩
def sequence : ProducerType := ⟨"builtin.sequence"⟩
def canonical : ProducerType := ⟨"builtin.canonical"⟩

def ofDType : DType → ProducerType
  | .i32 | .i64 => int
  | .f32 | .f64 => float
  | .bool => bool
  | .complex64 | .complex128 => complex

end ProducerType

/-- The place of a canonical type in the order of registration. -/
structure TypeId where
  index : Nat
  deriving DecidableEq

def TypeId.text (id : TypeId) : String := s!"canonical#{id.index}"

/-- What a converter, or an object's own canonicalization, reports when it fails. -/
structure ConverterError where
  message : String
  deriving DecidableEq

def ConverterError.text (e : ConverterError) : String := s!"converter failed: {e.message}"

/-- The failure of an object without canonicalization to be canonicalized. -/
def ConverterError.noEntryPoint (producer : ProducerType) (entryPoint : String) : ConverterError :=
  ⟨s!"{producer.name} exposes no canonicalization entry point `{entryPoint}`"⟩

/-- What a foreign object says about itself without being run.

An assumption stands behind this class. The answers are fixed data of the object: they are the same
whenever they are asked for, and answering runs no code that could reach the system, so none of them
can register, resolve or invalidate anything. Code of others that may call back is run in two places
only, by converters and by entry points, and both belong to the `Host`. Every theorem about systems
rests on this, those that speak of arbitrary hosts too. -/
class ForeignObject (ω : Type) where
  /-- The object's producer type. -/
  producer : ω → ProducerType
  /-- The producer's supertypes, most specific first, without the producer itself. -/
  supertypes : ω → List ProducerType
  /-- Whether a member of this name is present. -/
  hasMember : ω → String → Bool
  /-- The view of an array-like object as a tensor. -/
  denseView : ω → Option Tensor
  /-- The text of an object in diagnostics. -/
  inspect : ω → String

inductive Payload (ω : Type) where
  | tensor (value : Tensor)
  | handle (object : ω)
  deriving BEq

def Payload.tensor? {ω : Type} : Payload ω → Option Tensor
  | .tensor t => some t
  | .handle _ => none

structure CanonicalValue (ω : Type) where
  typeId : TypeId
  payload : Payload ω
  deriving BEq

inductive Value (ω : Type) where
  | scalar (literal : Literal)
  | sequence (items : List (Value ω))
  | object (object : ω)
  | canonical (value : CanonicalValue ω)

namespace Value

variable {ω : Type}

def producer [ForeignObject ω] : Value ω → ProducerType
  | scalar literal => ProducerType.ofDType literal.dtype
  | sequence _ => ProducerType.sequence
  | object o => ForeignObject.producer o
  | canonical _ => ProducerType.canonical

/-- The supertypes of a value's producer; only foreign objects have some. -/
def supertypes [ForeignObject ω] : Value ω → List ProducerType
  | object o => ForeignObject.supertypes o
  | _ => []

def object? : Value ω → Option ω
  | object o => some o
  | _ => none

/-- The value wrapped in `n` sequences of one item. -/
def nested (v : Value ω) : Nat → Value ω
  | 0 => v
  | n + 1 => sequence [nested v n]

end Value

end CanonicalTypes
