import CanonicalTypes.Signature.Basic

/-!
# Comparing an annotation with a signature

Any explicit disagreement makes the report a conflict, which lists every site that disagrees.
Otherwise a part that only one side pins down makes it a refinement. A different number of axes
stops the comparison axis by axis.

| here | operation |
| --- | --- |
| `checkSignature`                          | `check` |
| `kindDeltas`, `shapeDeltas`, `axisDeltas` | its comparison of kinds, of ranks and axis by axis |
-/
namespace CanonicalTypes

def axisDelta? (index : Nat) (declared actual : Dim) : Option SignatureDelta :=
  let delta (specific : Specific) : SignatureDelta :=
    ⟨.axis index, declared.text, actual.text, specific⟩
  match declared, actual with
  | .known m, .known n => if m = n then none else some (delta .neither)
  | .unknown, .unknown => none
  | .unknown, .known _ => some (delta .runtime)
  | .known _, .unknown => some (delta .declared)

/-- The differences between two lists of axis lengths, from position `index` on. -/
def axisDeltas (index : Nat) : List Dim → List Dim → List SignatureDelta
  | declared :: ds, actual :: as =>
    (axisDelta? index declared actual).toList ++ axisDeltas (index + 1) ds as
  | _, _ => []

def kindDeltas (declared : Option DType) (actual : DType) : List SignatureDelta :=
  match declared with
  | none => [⟨.kind, "?", actual.name, .runtime⟩]
  | some kind => if kind = actual then [] else [⟨.kind, kind.name, actual.name, .neither⟩]

def shapeDeltas (declared : Option (List Dim)) (actual : List Dim) : List SignatureDelta :=
  match declared with
  | none => [⟨.rank, "?", toString actual.length, .runtime⟩]
  | some dims =>
    if dims.length = actual.length then axisDeltas 0 dims actual
    else [⟨.rank, toString dims.length, toString actual.length, .neither⟩]

/-- Compares an annotation with a runtime signature (`check`). -/
def checkSignature (declared : AnnotationShape) (runtime : TypeSignature) : Compatibility :=
  let deltas := kindDeltas declared.kind runtime.kind ++ shapeDeltas declared.dims runtime.dims
  -- One list in the order of the sites; the conflicts among them stay in that order.
  let conflicts := deltas.filter fun d => d.specific = .neither
  if !conflicts.isEmpty then .conflict conflicts
  else if !deltas.isEmpty then .refinement deltas
  else .agreement

end CanonicalTypes
