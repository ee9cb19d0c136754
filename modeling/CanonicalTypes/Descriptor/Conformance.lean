import CanonicalTypes.Descriptor.Basic
import CanonicalTypes.Value.Basic

/-!
# Structural conformance

A foreign object satisfies a descriptor when every required member is present on it. Scalars,
sequences and canonical values expose no members and never conform.

| here | operation |
| --- | --- |
| `conforms`, `conformsObject` | `conforms`, `conforms_object` |
| `missingMembers`             | `missing_members` |
-/
namespace CanonicalTypes

variable {ω : Type} [ForeignObject ω]

/-- Whether every required member is present on an object. -/
def conformsObject (o : ω) (d : CapabilityDescriptor) : Bool :=
  d.names.all (ForeignObject.hasMember o)

/-- Whether a value is an object on which every required member is present. -/
def conforms (v : Value ω) (d : CapabilityDescriptor) : Bool :=
  match v.object? with
  | some o => conformsObject o d
  | none => false

/-- The required members that an object lacks, in order. -/
def missingMembers (o : ω) (d : CapabilityDescriptor) : List String :=
  d.names.filter fun name => !ForeignObject.hasMember o name

/-- How structural conformance went; only objects conform or lack members. -/
structure Conformance where
  conforms : Bool
  conformsObject : Option Bool
  missing : Option (List String)
  deriving DecidableEq

def Conformance.of (v : Value ω) (d : CapabilityDescriptor) : Conformance where
  conforms := CanonicalTypes.conforms v d
  conformsObject := v.object?.map fun o => CanonicalTypes.conformsObject o d
  missing := v.object?.map fun o => missingMembers o d

end CanonicalTypes
