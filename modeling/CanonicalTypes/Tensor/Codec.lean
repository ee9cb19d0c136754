import CanonicalTypes.Json.Codec
import CanonicalTypes.Tensor.Basic

/-!
# Tensors as records

Kinds, literals, shapes and tensors in their exchanged form. A literal is labelled by its kind;
floating-point numbers are given by their bits, so every pattern survives.
-/
namespace CanonicalTypes

open Json

instance : Codec DType where
  encode d := .string d.label
  decode := unitLabel DType.label DType.all

namespace Literal

/-- Reads the two bit patterns of a complex literal. -/
def decodeParts (source : Source) : Json → Option Literal
  | .array [re, im] => do
    let re ← Codec.decode source re
    let im ← Codec.decode source im
    some (complex re im)
  | _ => none

end Literal

instance : Codec Literal where
  encode
    | .int value => .object [("I64", Codec.encode value)]
    | .bool value => .object [("Bool", Codec.encode value)]
    | .float bits => .object [("F64Bits", Codec.encode bits)]
    | .complex re im => .object [("Complex128Bits", .array [Codec.encode re, Codec.encode im])]
  decode source j :=
    match outerLabel j with
    | some ("I64", some content) => (Codec.decode source content).map .int
    | some ("Bool", some content) => (Codec.decode source content).map .bool
    | some ("F64Bits", some content) => (Codec.decode source content).map .float
    | some ("Complex128Bits", some content) => Literal.decodeParts source content
    | _ => none

instance : Codec Shape where
  encode s := .object [("dims", Codec.encode s.dims)]
  decode source j := do
    let [dims] ← components ["dims"] j | none
    some ⟨← required source dims⟩

instance : Codec Tensor where
  encode t := .object [
    ("dtype", Codec.encode t.dtype),
    ("shape", Codec.encode t.shape),
    ("elements", Codec.encode t.elements)]
  decode source j := do
    let [dtype, shape, elements] ← components ["dtype", "shape", "elements"] j | none
    some ⟨← required source dtype, ← required source shape, ← required source elements⟩

end CanonicalTypes
