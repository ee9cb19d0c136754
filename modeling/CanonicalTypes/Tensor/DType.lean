/-!
# Element kinds

The seven kinds of element that a dense tensor can hold. A kind has two texts: the `name` that
messages show and the `label` that records are exchanged with.

| here | operation |
| --- | --- |
| `DType.name` | `DType::as_str` |
-/
namespace CanonicalTypes

inductive DType where
  | f32
  | f64
  | i32
  | i64
  | bool
  | complex64
  | complex128
  deriving DecidableEq

namespace DType

def all : List DType := [f32, f64, i32, i64, bool, complex64, complex128]

/-- The text of a kind in messages. -/
def name : DType → String
  | f32 => "float32"
  | f64 => "float64"
  | i32 => "int32"
  | i64 => "int64"
  | bool => "bool"
  | complex64 => "complex64"
  | complex128 => "complex128"

/-- The text of a kind in exchanged records. -/
def label : DType → String
  | f32 => "F32"
  | f64 => "F64"
  | i32 => "I32"
  | i64 => "I64"
  | bool => "Bool"
  | complex64 => "Complex64"
  | complex128 => "Complex128"

theorem mem_all (d : DType) : d ∈ all := by cases d <;> decide

end DType

end CanonicalTypes
