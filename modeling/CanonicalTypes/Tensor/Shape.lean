/-!
# Shapes

A shape is the list of a tensor's axis lengths. `Shape.elementCount?` multiplies the lengths from
the left in 64 bits and gives up as soon as a product leaves that range.

| here | operation |
| --- | --- |
| `scaleCount?`, `elementCount?` | `Shape::element_count`, a fold of checked products |
| `scalar`, `vector`, `rank`     | `Shape::scalar`, `vector`, `rank` |
-/
namespace CanonicalTypes

/-- The axis lengths of a tensor, outermost first. -/
structure Shape where
  dims : List UInt32
  deriving DecidableEq

namespace Shape

/-- The number of values that a 64-bit count can take. -/
def countLimit : Nat := UInt64.size

def scalar : Shape := ⟨[]⟩

def vector (length : UInt32) : Shape := ⟨[length]⟩

def rank (s : Shape) : Nat := s.dims.length

def exactCount (s : Shape) : Nat := s.dims.foldr (fun dim count => dim.toNat * count) 1

/-- A count times axis lengths, or `none` when a product does not fit in 64 bits. -/
def scaleCount? (count : Nat) : List UInt32 → Option Nat
  | [] => some count
  | dim :: dims =>
    let product := count * dim.toNat
    if product < countLimit then scaleCount? product dims else none

/-- The number of elements, or `none` when a product of leading lengths does not fit in 64 bits.
The product is taken from the left, so a zero length only helps the axes after it. -/
def elementCount? (s : Shape) : Option Nat := scaleCount? 1 s.dims

@[simp] theorem elementCount?_scalar : scalar.elementCount? = some 1 := rfl

def dimsText (dims : List UInt32) : String :=
  "[" ++ String.intercalate ", " (dims.map fun d => toString d.toNat) ++ "]"

end Shape

end CanonicalTypes
