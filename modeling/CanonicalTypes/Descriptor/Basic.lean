/-!
# Capability descriptors

A descriptor is the member surface that a canonical type requires of anything standing in for it.
It is built clause by clause; `CapabilityDescriptor.ofClauses` runs a list of them. A member that
is already required keeps its first kind, so the names of a built descriptor are distinct, and the
entry point of a built descriptor is one of its members. A descriptor that was exchanged as a
record need not satisfy either.

Arities are documentation: conformance asks for presence and nothing more.

| here | operation |
| --- | --- |
| `withProperty`, `withMethod`     | `CapabilityDescriptor::attribute`, `method` |
| `withMember`                     | `CapabilityDescriptor::member` |
| `withEntryPoint`, `withSequence` | `CapabilityDescriptor::entry_point`, `with_sequence_fallback` |
| `names`, `requires`              | `CapabilityDescriptor::member_names`, `requires` |
-/
namespace CanonicalTypes

inductive MemberKind where
  | property
  | method (arity : Option UInt8)
  deriving DecidableEq

structure RequiredMember where
  name : String
  kind : MemberKind
  deriving DecidableEq

/-- Permission to aggregate sequences whose elements resolve to the type named `element`. -/
structure SequenceFallback where
  element : String
  deriving DecidableEq

structure CapabilityDescriptor where
  members : List RequiredMember := []
  /-- The member that canonicalizes an object. -/
  entryPoint : Option String := none
  sequenceFallback : Option SequenceFallback := none
  deriving DecidableEq

/-- One step in building a descriptor. -/
inductive DescriptorClause where
  | property (name : String)
  | method (name : String) (arity : UInt8)
  | member (name : String) (kind : MemberKind)
  | entryPoint (name : String)
  | sequence (element : String)
  deriving DecidableEq

namespace CapabilityDescriptor

def names (d : CapabilityDescriptor) : List String := d.members.map RequiredMember.name

def requires (d : CapabilityDescriptor) (name : String) : Bool :=
  d.members.any fun m => m.name = name

/-- Requires a member; a name that is already required keeps its first kind. -/
def withMember (d : CapabilityDescriptor) (name : String) (kind : MemberKind) :
    CapabilityDescriptor :=
  if d.requires name then d else { d with members := d.members ++ [⟨name, kind⟩] }

def withProperty (d : CapabilityDescriptor) (name : String) : CapabilityDescriptor :=
  d.withMember name .property

def withMethod (d : CapabilityDescriptor) (name : String) (arity : UInt8) :
    CapabilityDescriptor :=
  d.withMember name (.method (some arity))

/-- Names the member that canonicalizes an object, and requires it. -/
def withEntryPoint (d : CapabilityDescriptor) (name : String) : CapabilityDescriptor :=
  { d.withMember name (.method (some 0)) with entryPoint := some name }

def withSequence (d : CapabilityDescriptor) (element : String) : CapabilityDescriptor :=
  { d with sequenceFallback := some ⟨element⟩ }

def add (d : CapabilityDescriptor) : DescriptorClause → CapabilityDescriptor
  | .property name => d.withProperty name
  | .method name arity => d.withMethod name arity
  | .member name kind => d.withMember name kind
  | .entryPoint name => d.withEntryPoint name
  | .sequence element => d.withSequence element

def ofClauses (clauses : List DescriptorClause) : CapabilityDescriptor := clauses.foldl add {}

theorem requires_iff (d : CapabilityDescriptor) (name : String) :
    d.requires name = true ↔ name ∈ d.names := by
  simp [requires, names]

end CapabilityDescriptor

end CanonicalTypes
