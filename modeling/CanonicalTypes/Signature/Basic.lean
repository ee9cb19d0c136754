import CanonicalTypes.Tensor.Basic

/-!
# Signatures

The runtime signature of a value, the annotation that was declared for it, and what a comparison of
the two reports. Either side may leave lengths open; an annotation may also leave open the number
of axes and the kind.

| here | operation |
| --- | --- |
| `TypeSignature.ofShape`, `ofTensor`, `rank` | `TypeSignature::from_shape`, `of_tensor`, `rank` |
| `AnnotationShape.exact`                     | `AnnotationShape::exact` |
| `Compatibility.deltas`                      | `Compatibility::deltas` |
| `Verdict`, `Compatibility.verdict`          | `Verdict`, `Verdict::of` |
-/
namespace CanonicalTypes

/-- An axis length, which may be open. -/
inductive Dim where
  | known (size : UInt32)
  | unknown
  deriving DecidableEq

def Dim.text : Dim → String
  | .known size => toString size.toNat
  | .unknown => "?"

/-- The shape and kind of a value as known at run time. -/
structure TypeSignature where
  dims : List Dim
  kind : DType
  deriving DecidableEq

namespace TypeSignature

def ofShape (shape : Shape) (kind : DType) : TypeSignature := ⟨shape.dims.map Dim.known, kind⟩

def ofTensor (t : Tensor) : TypeSignature := ofShape t.shape t.dtype

def rank (s : TypeSignature) : Nat := s.dims.length

end TypeSignature

/-- A declared shape and kind, of which any part may be open. -/
structure AnnotationShape where
  dims : Option (List Dim) := none
  kind : Option DType := none
  deriving DecidableEq

/-- The annotation that says just what a signature says. -/
def AnnotationShape.exact (s : TypeSignature) : AnnotationShape := ⟨some s.dims, some s.kind⟩

/-- Where an annotation and a signature differ. -/
inductive Site where
  | rank
  | axis (index : Nat)
  | kind
  deriving DecidableEq

/-- Which side pins down what the other leaves open; neither, if both are specific and differ. -/
inductive Specific where
  | declared
  | runtime
  | neither
  deriving DecidableEq

/-- One difference, with the texts of both sides. -/
structure SignatureDelta where
  site : Site
  declared : String
  runtime : String
  specific : Specific
  deriving DecidableEq

def Site.text : Site → String
  | .rank => "rank"
  | .axis index => s!"axis {index}"
  | .kind => "kind"

def SignatureDelta.text (d : SignatureDelta) : String :=
  s!"{d.site.text}: declared {d.declared}, runtime {d.runtime}"

inductive Compatibility where
  | agreement
  | refinement (deltas : List SignatureDelta)
  | conflict (deltas : List SignatureDelta)
  deriving DecidableEq

inductive Verdict where
  | agreement
  | refinement
  | conflict
  deriving DecidableEq

namespace Verdict

def all : List Verdict := [agreement, refinement, conflict]

def name : Verdict → String
  | agreement => "agreement"
  | refinement => "refinement"
  | conflict => "conflict"

def inspect : Verdict → String
  | agreement => "Agreement"
  | refinement => "Refinement"
  | conflict => "Conflict"

end Verdict

namespace Compatibility

def deltas : Compatibility → List SignatureDelta
  | agreement => []
  | refinement ds => ds
  | conflict ds => ds

def verdict : Compatibility → Verdict
  | agreement => .agreement
  | refinement _ => .refinement
  | conflict _ => .conflict

def text (c : Compatibility) : String :=
  if c.deltas.isEmpty then c.verdict.name
  else c.verdict.name ++ ": " ++ String.intercalate "; " (c.deltas.map SignatureDelta.text)

end Compatibility

end CanonicalTypes
