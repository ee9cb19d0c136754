import CanonicalTypes.Descriptor.Basic
import CanonicalTypes.Value.Basic

/-!
# The registry of canonical types

Canonical types are registered once and never change: the registry only grows. The id of a type is
its place in the order of registration, so a parent and a sequence element, which have to be known
when a type is registered, have smaller ids; a type may also be its own sequence element. An index
of names stands beside the list of types, and every change has to keep the two in step.

Registering a batch is all or nothing: a refused batch takes back what it has registered so far.

| here | operation |
| --- | --- |
| `TypeRegistry`                                | `CanonicalTypeRegistry` with its `TypeTable` |
| `register`, `resolveParent`, `resolveElement` | `CanonicalTypeRegistry::register`, by `TypeTable::insert` |
| `registerAll`, `registerEach`                 | `CanonicalTypeRegistry::register_all` |
| `truncate`, `forget`                          | `TypeTable::truncate` |
| `lookup`, `get`, `nameOf`, `names`, `size`    | `CanonicalTypeRegistry::lookup`, `get`, `name_of`, `names`, `len` |
-/
namespace CanonicalTypes

structure CanonicalType where
  id : TypeId
  name : String
  parent : Option TypeId
  descriptor : CapabilityDescriptor
  /-- The type of the elements of sequences that may become this type. -/
  sequenceElement : Option TypeId
  deriving DecidableEq

structure TypeDeclaration where
  name : String
  parent : Option String := none
  descriptor : CapabilityDescriptor
  deriving DecidableEq

inductive RegistryError where
  | duplicateType (name : String)
  | unknownType (name : String)
  | unknownParent (name parent : String)
  | breakingDescriptorChange (removed : List String)
  | capacityExceeded (name : String)
  deriving DecidableEq

def RegistryError.message : RegistryError → String
  | .duplicateType name => s!"canonical type `{name}` is already registered"
  | .unknownType name => s!"unknown canonical type `{name}`"
  | .unknownParent name parent => s!"canonical type `{name}` names unregistered parent `{parent}`"
  | .breakingDescriptorChange removed =>
    "descriptor change removes required members: " ++ String.intercalate "," removed
  | .capacityExceeded name => s!"canonical type `{name}` does not fit in the id space"

/-- The canonical types, in order of registration. -/
structure TypeRegistry where
  types : List CanonicalType := []
  /-- The index of names, the latest first. -/
  byName : List (String × TypeId) := []
  deriving DecidableEq

namespace TypeRegistry

/-- The number of ids. -/
def capacity : Nat := UInt32.size

def get? (r : TypeRegistry) (id : TypeId) : Option CanonicalType := r.types[id.index]?

/-- The id of the type with a name, by the index. -/
def idOf? (r : TypeRegistry) (name : String) : Option TypeId := r.byName.lookup name

def find? (r : TypeRegistry) (name : String) : Option CanonicalType := (r.idOf? name).bind r.get?

def lookup (r : TypeRegistry) (name : String) : Except RegistryError CanonicalType :=
  match r.find? name with
  | some t => .ok t
  | none => .error (.unknownType name)

def get (r : TypeRegistry) (id : TypeId) : Except RegistryError CanonicalType :=
  match r.get? id with
  | some t => .ok t
  | none => .error (.unknownType id.text)

/-- The name of an id; an id that is not registered is its own name. -/
def nameOf (r : TypeRegistry) (id : TypeId) : String :=
  match r.get? id with
  | some t => t.name
  | none => id.text

def names (r : TypeRegistry) : List String := r.types.map CanonicalType.name

def size (r : TypeRegistry) : Nat := r.types.length

def resolveParent (r : TypeRegistry) (name : String) : Option String →
    Except RegistryError (Option TypeId)
  | none => .ok none
  | some parent =>
    match r.idOf? parent with
    | some id => .ok (some id)
    | none => .error (.unknownParent name parent)

/-- The id of the declared sequence element, if there is one. A type that is being registered may
name itself. -/
def resolveElement (r : TypeRegistry) (name : String) (id : TypeId) : Option SequenceFallback →
    Except RegistryError (Option TypeId)
  | none => .ok none
  | some fallback =>
    if fallback.element = name then .ok (some id)
    else
      match r.idOf? fallback.element with
      | some id => .ok (some id)
      | none => .error (.unknownType fallback.element)

def add (r : TypeRegistry) (t : CanonicalType) : TypeRegistry :=
  ⟨r.types ++ [t], (t.name, t.id) :: r.byName⟩

/-- Registers a type under a name that is still free (`TypeTable::insert`). -/
def register (r : TypeRegistry) (d : TypeDeclaration) :
    Except RegistryError (TypeId × TypeRegistry) :=
  -- The order of the checks decides which of several errors is reported.
  if (r.idOf? d.name).isSome then .error (.duplicateType d.name)
  else
    match r.resolveParent d.name d.parent with
    | .error e => .error e
    | .ok parent =>
      if capacity ≤ r.size then .error (.capacityExceeded d.name)
      else
        let id : TypeId := ⟨r.size⟩
        match r.resolveElement d.name id d.descriptor.sequenceFallback with
        | .error e => .error e
        | .ok element => .ok (id, r.add ⟨id, d.name, parent, d.descriptor, element⟩)

def forget (index : List (String × TypeId)) (name : String) : List (String × TypeId) :=
  index.filter fun entry => entry.1 ≠ name

/-- Takes every type from position `length` on out of the registry, and its name out of the index
(`TypeTable::truncate`). -/
def truncate (r : TypeRegistry) (length : Nat) : TypeRegistry :=
  ⟨r.types.take length, ((r.types.drop length).map CanonicalType.name).foldl forget r.byName⟩

/-- Registers types in order up to the first that is refused. -/
def registerEach (r : TypeRegistry) : List TypeDeclaration →
    Except RegistryError (List TypeId) × TypeRegistry
  | [] => (.ok [], r)
  | d :: rest =>
    match r.register d with
    | .error e => (.error e, r)
    | .ok (id, r) =>
      match r.registerEach rest with
      | (.error e, r) => (.error e, r)
      | (.ok ids, r) => (.ok (id :: ids), r)

/-- Registers a batch in order (`CanonicalTypeRegistry::register_all`). A later type may name an
earlier one. If one of them is refused, so is the batch, and the types that it has added go
again. -/
def registerAll (r : TypeRegistry) (ds : List TypeDeclaration) :
    Except RegistryError (List TypeId) × TypeRegistry :=
  match r.registerEach ds with
  | (.ok ids, r') => (.ok ids, r')
  | (.error e, r') => (.error e, r'.truncate r.size)

end TypeRegistry

end CanonicalTypes
