import CanonicalTypes.Hash.Sha256
import CanonicalTypes.Types.Basic

/-!
# Fingerprints

The fingerprint of a registry is the hash of a text of its published surface: one record per type,
in order of registration, with the names of the type and its parent and the fields of its
descriptor. An absent name is written as `none`.

| here | operation |
| --- | --- |
| `CapabilityDescriptor.surfaceText` | `CapabilityDescriptor::canonical_payload` |
| `fingerprint`                      | `CanonicalTypeRegistry::fingerprint` |
-/
namespace CanonicalTypes

def RequiredMember.surfaceText (m : RequiredMember) : String :=
  match m.kind with
  | .property => s!"attr:{m.name}"
  | .method (some arity) => s!"method:{m.name}/{arity.toNat}"
  | .method none => s!"method:{m.name}/*"

/-- The text of a descriptor in a surface record. -/
def CapabilityDescriptor.surfaceText (d : CapabilityDescriptor) : String :=
  let members := String.intercalate "," (d.members.map RequiredMember.surfaceText)
  let entry := d.entryPoint.getD "none"
  let element := (d.sequenceFallback.map SequenceFallback.element).getD "none"
  s!"members=[{members}]|entry={entry}|sequence={element}"

namespace TypeRegistry

/-- The surface record of one type. -/
def recordText (r : TypeRegistry) (t : CanonicalType) : String :=
  let parent := ((t.parent.bind r.get?).map CanonicalType.name).getD "none"
  s!"type={t.name}|parent={parent}|{t.descriptor.surfaceText};"

/-- The text of the published surface. -/
def surfaceText (r : TypeRegistry) : String := String.join (r.types.map r.recordText)

/-- The fingerprint of the published surface. -/
def fingerprint (r : TypeRegistry) : String := "ctr-" ++ Sha256.hexDigest r.surfaceText

end TypeRegistry

end CanonicalTypes
