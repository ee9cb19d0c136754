import CanonicalTypes.Binary64.Basic
import CanonicalTypes.Tensor.DType

/-!
# Literals

A literal is one element of a tensor or one native scalar. Floating-point numbers are kept as bit
patterns, so every pattern, those that are no number included, is carried unchanged.

| here | operation |
| --- | --- |
| `Literal.dtype`                       | `Literal::dtype` |
| `toFloatBits?`, `toInt64?`, `toBool?` | `Literal::as_f64`, `as_i64`, `as_bool` |
-/
namespace CanonicalTypes

inductive Literal where
  | int (value : Int64)
  | bool (value : Bool)
  | float (bits : UInt64)
  | complex (re im : UInt64)
  deriving DecidableEq

namespace Literal

def dtype : Literal → DType
  | int _ => .i64
  | bool _ => .bool
  | float _ => .f64
  | complex _ _ => .complex128

/-- The nearest floating-point number of a real literal, as bits. -/
def toFloatBits? : Literal → Option UInt64
  | float bits => some bits
  | int value => some (Binary64.ofInt value.toInt)
  | bool _ => none
  | complex _ _ => none

def toInt64? : Literal → Option Int64
  | int value => some value
  | _ => none

def toBool? : Literal → Option Bool
  | bool value => some value
  | _ => none

def inspect : Literal → String
  | int value => s!"I64({value.toInt})"
  | bool value => s!"Bool({value})"
  | float bits => s!"F64Bits({bits.toNat})"
  | complex re im => s!"Complex128Bits({re.toNat}, {im.toNat})"

end Literal

end CanonicalTypes
