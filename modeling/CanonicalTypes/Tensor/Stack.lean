import CanonicalTypes.Tensor.Basic

/-!
# Stacking along a new leading axis

Slices of one kind and shape become one tensor: its leading axis is the number of slices, its
elements are theirs in order. `Tensor.stack` reports the first slice that differs from the first,
its kind before its shape.

| here | operation |
| --- | --- |
| `collectSlices` | the loop of `TensorValue::stack_axis0` |
| `stack`         | `TensorValue::stack_axis0` |
-/
namespace CanonicalTypes.Tensor

/-- The elements of the slices after the first, once each agrees with it in kind and shape;
`index` is the position of the first of them. -/
def collectSlices (first : Tensor) : Nat → List Tensor → Except ValueError (List Literal)
  | _, [] => .ok []
  | index, t :: rest =>
    if t.dtype ≠ first.dtype then
      .error (.axisStackDTypeMismatch index first.dtype t.dtype)
    else if t.shape ≠ first.shape then
      .error (.axisStackShapeMismatch index first.shape t.shape)
    else
      match collectSlices first (index + 1) rest with
      | .ok elements => .ok (t.elements ++ elements)
      | .error e => .error e

/-- The largest number of slices whose count is an axis length. -/
def maxSlices : Nat := UInt32.size - 1

/-- Stacks equally shaped slices of one kind along a new leading axis, as
`TensorValue::stack_axis0` does. The elements are counted for the whole stack only, so a slice that
holds more or fewer than its shape counts goes unnoticed if another makes up for it. -/
def stack : List Tensor → Except ValueError Tensor
  | [] => .error .emptyAxisStack
  | first :: rest =>
    match collectSlices first 1 rest with
    | .error e => .error e
    | .ok elements =>
      if rest.length + 1 ≤ maxSlices then
        build first.dtype ⟨(rest.length + 1).toUInt32 :: first.shape.dims⟩
          (first.elements ++ elements)
      else
        .error (.shapeOverflow first.shape)

end CanonicalTypes.Tensor
