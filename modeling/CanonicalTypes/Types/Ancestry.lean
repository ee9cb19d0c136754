import CanonicalTypes.Types.Basic

/-!
# Subtypes

The parents form a forest. The walk from a type to its root takes at most as many steps as there
are types, since every parent was registered before its child.

| here | operation |
| --- | --- |
| `walkMeets`, `isAncestor` | `CanonicalTypeRegistry::is_ancestor` |
| `isSameOrAncestor`        | `CanonicalTypeRegistry::is_same_or_ancestor` |
-/
namespace CanonicalTypes.TypeRegistry

def parentOf? (r : TypeRegistry) (id : TypeId) : Option TypeId :=
  (r.get? id).bind CanonicalType.parent

/-- Whether `ancestor` is met on the walk along parents from `start`, within `steps` steps. -/
def walkMeets (r : TypeRegistry) (ancestor : TypeId) :
    (steps : Nat) → (start : Option TypeId) → Bool
  | 0, _ => false
  | _ + 1, none => false
  | steps + 1, some id =>
    if id = ancestor then true else walkMeets r ancestor steps (r.parentOf? id)

/-- Whether the first type is a proper ancestor of the second. -/
def isAncestor (r : TypeRegistry) (ancestor descendant : TypeId) : Bool :=
  r.walkMeets ancestor r.size (r.parentOf? descendant)

def isSameOrAncestor (r : TypeRegistry) (ancestor descendant : TypeId) : Bool :=
  ancestor = descendant || r.isAncestor ancestor descendant

end CanonicalTypes.TypeRegistry
