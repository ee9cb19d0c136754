import CanonicalTypes.Signature.Basic
import CanonicalTypes.Tensor.Codec

/-!
# Signatures and reports as records

A report holds its label, `verdict`, beside its content, `deltas`.
-/
namespace CanonicalTypes

open Json

instance : Codec Dim where
  encode
    | .known size => .object [("known", Codec.encode size)]
    | .unknown => .string "unknown"
  decode source j :=
    match outerLabel j with
    | some ("known", some content) => (Codec.decode source content).map .known
    | some ("unknown", content) => if isUnit source content then some .unknown else none
    | _ => none

instance : Codec TypeSignature where
  encode s := .object [("dims", Codec.encode s.dims), ("kind", Codec.encode s.kind)]
  decode source j := do
    let [dims, kind] ← components ["dims", "kind"] j | none
    some ⟨← required source dims, ← required source kind⟩

instance : Codec AnnotationShape where
  encode a := .object [("dims", Codec.encode a.dims), ("kind", Codec.encode a.kind)]
  decode source j := do
    let [dims, kind] ← components ["dims", "kind"] j | none
    some ⟨← optional source dims, ← optional source kind⟩

instance : Codec Site where
  encode
    | .rank => .string "rank"
    | .axis index => .object [("axis", Codec.encode index)]
    | .kind => .string "kind"
  decode source j :=
    match outerLabel j with
    | some ("rank", content) => if isUnit source content then some .rank else none
    | some ("axis", some content) => (Codec.decode source content).map .axis
    | some ("kind", content) => if isUnit source content then some .kind else none
    | _ => none

namespace Specific

def all : List Specific := [declared, runtime, neither]

def name : Specific → String
  | declared => "declared"
  | runtime => "runtime"
  | neither => "neither"

end Specific

instance : Codec Specific where
  encode s := .string s.name
  decode := unitLabel Specific.name Specific.all

instance : Codec SignatureDelta where
  encode d := .object [
    ("site", Codec.encode d.site),
    ("declared", Codec.encode d.declared),
    ("runtime", Codec.encode d.runtime),
    ("specific", Codec.encode d.specific)]
  decode source j := do
    let [site, declared, runtime, specific] ←
      components ["site", "declared", "runtime", "specific"] j | none
    some ⟨← required source site, ← required source declared, ← required source runtime,
      ← required source specific⟩

instance : Codec Verdict where
  encode v := .string v.name
  decode := unitLabel Verdict.name Verdict.all

instance : Codec Compatibility where
  encode
    | .agreement => .object [("verdict", .string "agreement")]
    | .refinement deltas =>
      .object [("verdict", .string "refinement"), ("deltas", Codec.encode deltas)]
    | .conflict deltas =>
      .object [("verdict", .string "conflict"), ("deltas", Codec.encode deltas)]
  decode source j :=
    match splitBeside "verdict" "deltas" (Verdict.all.map Verdict.name) source j with
    | some ("agreement", _, none) => some .agreement
    | some ("agreement", _, some .null) => some .agreement
    | some ("refinement", source, some content) => (Codec.decode source content).map .refinement
    | some ("conflict", source, some content) => (Codec.decode source content).map .conflict
    | _ => none

end CanonicalTypes
