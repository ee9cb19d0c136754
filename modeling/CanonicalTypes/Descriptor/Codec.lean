import CanonicalTypes.Descriptor.Basic
import CanonicalTypes.Json.Codec

/-!
# Descriptors as records

A record is taken as it is: names may repeat, and the entry point need not be a member.
-/
namespace CanonicalTypes

open Json

namespace MemberKind

/-- The components of a method. A method in a value that had been read before is an object. -/
def methodComponents (source : Source) (j : Json) : Option (List (Option Json)) :=
  if source = .tree then objectComponents ["arity"] j else components ["arity"] j

end MemberKind

instance : Codec MemberKind where
  encode
    | .property => .string "attribute"
    | .method arity => .object [("method", .object [("arity", Codec.encode arity)])]
  decode source j :=
    match outerLabel j with
    | some ("attribute", content) => if isUnit source content then some .property else none
    | some ("method", some content) => do
      let [arity] ← MemberKind.methodComponents source content | none
      some (.method (← optional source arity))
    | _ => none

instance : Codec RequiredMember where
  encode m := .object [("name", Codec.encode m.name), ("kind", Codec.encode m.kind)]
  decode source j := do
    let [name, kind] ← components ["name", "kind"] j | none
    some ⟨← required source name, ← required source kind⟩

instance : Codec SequenceFallback where
  encode f := .object [("element", Codec.encode f.element)]
  decode source j := do
    let [element] ← components ["element"] j | none
    some ⟨← required source element⟩

instance : Codec CapabilityDescriptor where
  encode d := .object [
    ("members", Codec.encode d.members),
    ("entry_point", Codec.encode d.entryPoint),
    ("sequence_fallback", Codec.encode d.sequenceFallback)]
  decode source j := do
    let [members, entryPoint, fallback] ←
      components ["members", "entry_point", "sequence_fallback"] j | none
    some ⟨← required source members, ← optional source entryPoint, ← optional source fallback⟩

end CanonicalTypes
