import CanonicalTypes.Suite.Case

/-!
# The default cases

| here | operation |
| --- | --- |
| `defaultResolutionCases` | `default_resolution_cases` |
| `defaultSignatureCases`  | `default_signature_cases` |
-/
namespace CanonicalTypes

/-- The bits of `0.0`, `1.0`, …, `5.0`. -/
def smallFloats : List UInt64 := [0, 1, 2, 3, 4, 5].map Binary64.ofInt

/-- One resolution case for each way in which a value is resolved, or is not. -/
def defaultResolutionCases : List ResolutionCase := [
  ⟨"int_scalar_uses_builtin_converter", .int 3, "Tensor", .resolved .registry []⟩,
  ⟨"conforming_object_uses_protocol", .protocolTensor 4, "Tensor", .resolved .protocol []⟩,
  ⟨"nested_list_aggregates_2x2", .sequence [.ints [1, 2], .ints [3, 4]], "Tensor",
    .resolved .sequence [2, 2]⟩,
  ⟨"empty_list_is_zero_length", .sequence [], "Tensor", .resolved .sequence [0]⟩,
  ⟨"dense_view_aggregates", .dense 2 3 smallFloats, "Tensor", .resolved .sequence [2, 3]⟩,
  ⟨"ragged_list_is_rejected", .sequence [.ints [1, 2], .ints [3]], "Tensor", .raggedOrMixed⟩,
  ⟨"mixed_dtypes_are_rejected", .sequence [.int 1, .float 0x4004000000000000], "Tensor",
    .raggedOrMixed⟩,
  ⟨"unrelated_object_lists_all_strategies", .unrelated, "Tensor",
    .noConversion [.registry, .protocol, .sequence]⟩,
  ⟨"list_to_variable_skips_sequence", .ints [1], "Variable", .noConversion [.registry, .protocol]⟩]

/-- Integer matrices with three columns. -/
def intColumns : AnnotationShape := ⟨some [.unknown, .known 3], some .i32⟩

def defaultSignatureCases : List SignatureCase := [
  ⟨"runtime_pins_open_axis", intColumns, ⟨[.known 5, .known 3], .i32⟩, .refinement⟩,
  ⟨"kind_disagrees", intColumns, ⟨[.known 5, .known 3], .f32⟩, .conflict⟩,
  ⟨"identical_partial_shape", intColumns, ⟨[.unknown, .known 3], .i32⟩, .agreement⟩,
  ⟨"rank_disagrees", intColumns, ⟨[.known 3], .i32⟩, .conflict⟩]

end CanonicalTypes
