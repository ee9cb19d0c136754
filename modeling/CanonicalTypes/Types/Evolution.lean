import CanonicalTypes.Types.Basic

/-!
# Evolution of descriptors

A published descriptor may be replaced by one that requires more, never by one that requires less.

| here | operation |
| --- | --- |
| `checkEvolution` | `check_descriptor_evolution` |
-/
namespace CanonicalTypes

/-- The published requirements that a proposed descriptor drops, in order. -/
def removedMembers (published proposed : CapabilityDescriptor) : List String :=
  published.names.filter fun name => !proposed.requires name

/-- Accepts a proposed descriptor that still requires every published member. -/
def checkEvolution (published proposed : CapabilityDescriptor) : Except RegistryError Unit :=
  let removed := removedMembers published proposed
  if removed.isEmpty then .ok () else .error (.breakingDescriptorChange removed)

end CanonicalTypes
