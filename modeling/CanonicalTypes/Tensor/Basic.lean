import CanonicalTypes.Tensor.Literal
import CanonicalTypes.Tensor.Shape

/-!
# Dense tensors

A tensor lists its elements in row-major order beside its kind and shape. The fields are open:
`Tensor.build` is the checked constructor, and a tensor made by hand may hold any number of
elements. `Tensor.WellFormed` says what a checked tensor of one kind satisfies.

| here | operation |
| --- | --- |
| `Tensor`, `build`           | `TensorValue`, `TensorValue::new` |
| `scalar`, `empty`, `length` | `TensorValue::scalar`, `empty`, `len` |
| `toInt64s?`, `toFloatBits?` | `TensorValue::to_i64_vec`, `to_f64_vec` |
-/
namespace CanonicalTypes

/-- A dense row-major array, the payload that tensor-like canonical values carry. -/
structure Tensor where
  dtype : DType
  shape : Shape
  elements : List Literal
  deriving DecidableEq

inductive ValueError where
  | shapeOverflow (shape : Shape)
  | elementCountMismatch (shape : Shape) (expected actual : Nat)
  | emptyAxisStack
  | axisStackShapeMismatch (index : Nat) (expected actual : Shape)
  | axisStackDTypeMismatch (index : Nat) (expected actual : DType)
  deriving DecidableEq

def ValueError.message : ValueError → String
  | .shapeOverflow shape => s!"shape element count overflowed: {Shape.dimsText shape.dims}"
  | .elementCountMismatch shape expected actual =>
    s!"tensor element count mismatch for shape {Shape.dimsText shape.dims}: "
      ++ s!"expected {expected}, got {actual}"
  | .emptyAxisStack => "cannot stack empty slice list"
  | .axisStackShapeMismatch index expected actual =>
    s!"element {index} has shape {Shape.dimsText actual.dims}, "
      ++ s!"expected {Shape.dimsText expected.dims}"
  | .axisStackDTypeMismatch index expected actual =>
    s!"element {index} has dtype {actual.name}, expected {expected.name}"

namespace Tensor

/-- Builds a tensor whose element count is the one its shape asks for. -/
def build (dtype : DType) (shape : Shape) (elements : List Literal) : Except ValueError Tensor :=
  match shape.elementCount? with
  | none => .error (.shapeOverflow shape)
  | some count =>
    if count = elements.length then
      .ok ⟨dtype, shape, elements⟩
    else
      .error (.elementCountMismatch shape count elements.length)

def scalar (literal : Literal) : Tensor := ⟨literal.dtype, Shape.scalar, [literal]⟩

/-- The row without elements, the aggregate of an empty sequence. -/
def empty (dtype : DType) : Tensor := ⟨dtype, Shape.vector 0, []⟩

def length (t : Tensor) : Nat := t.elements.length

def rank (t : Tensor) : Nat := t.shape.rank

def toInt64s? (t : Tensor) : Option (List Int64) := t.elements.mapM Literal.toInt64?

/-- The elements as binary floating-point bits, if all of them are real numbers. -/
def toFloatBits? (t : Tensor) : Option (List UInt64) := t.elements.mapM Literal.toFloatBits?

/-- The shape counts the elements, and every element has the tensor's kind. -/
def WellFormed (t : Tensor) : Prop :=
  t.shape.exactCount = t.elements.length ∧
    ∀ literal ∈ t.elements, literal.dtype = t.dtype

end Tensor

end CanonicalTypes
