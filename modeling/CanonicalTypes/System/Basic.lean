import CanonicalTypes.Resolution.Cache
import CanonicalTypes.Resolution.Config
import CanonicalTypes.Types.Ancestry

/-!
# Type systems and their hosts

A type system holds the registries, the ledger and one engine. What it cannot know is what foreign
code does: the converters that users register and the objects that canonicalize themselves. That is
the part of its `Host`, which is given the whole system and may change all of it, so foreign code
may well call back into the system that called it. The state that a host keeps for itself is the
field `host`.

A host whose code only computes an answer is `Host.pure`.

Nothing else runs foreign code. What an object says about itself is data (`ForeignObject`): asking
for its producer, its supertypes, its members or its dense view calls nothing back.

| here | operation |
| --- | --- |
| `TypeSystem`, `TypeSystem.new` | `TypeSystem`, `TypeSystem::new` |
| `Engine`                       | `ResolutionEngine` |
| `invalidateCache`, `cacheSize` | `ResolutionEngine::invalidate_cache`, `cache_len` |
-/
namespace CanonicalTypes

structure BuiltinIds where
  tensor : TypeId
  symbol : TypeId
  eager : TypeId
  variableType : TypeId
  deriving DecidableEq

/-- A resolution engine: its settings, and the strategies that it remembers. -/
structure Engine (κ : Type) where
  config : EngineConfig := {}
  /-- Whether the engine has been given a ledger. -/
  audited : Bool := true
  cache : ResolutionCache κ := {}

/-- A type system whose converters are tagged by `κ` and whose host keeps a state of type `η`. -/
structure TypeSystem (κ η : Type) where
  types : TypeRegistry := {}
  converters : ConverterRegistry κ := {}
  ledger : EventLedger
  engine : Engine κ := {}
  /-- The built-in types, once they have been installed. -/
  builtins : Option BuiltinIds := none
  host : η

/-- Foreign code: what tagged converters and the entry points of foreign objects do when they are
run. These are the only places from which foreign code can reach the system; the answers of
`ForeignObject` are taken as fixed data and cannot. -/
structure Host (ω κ η : Type) where
  convert : κ → Value ω → TypeSystem κ η → Except ConverterError (Payload ω) × TypeSystem κ η
  canonicalize :
    ω → (entryPoint : String) → TypeSystem κ η → Except ConverterError (Payload ω) × TypeSystem κ η

/-- The host whose code computes an answer and changes nothing. -/
def Host.pure {ω κ η : Type} (convert : κ → Value ω → Except ConverterError (Payload ω))
    (canonicalize : ω → String → Except ConverterError (Payload ω)) : Host ω κ η where
  convert tag v s := (convert tag v, s)
  canonicalize o entryPoint s := (canonicalize o entryPoint, s)

namespace TypeSystem

variable {κ η : Type}

def new (config : EngineConfig) (host : η) : TypeSystem κ η where
  ledger := EventLedger.ofCapacity config.ledgerCapacity
  engine := { config }
  host

def withCache (s : TypeSystem κ η) (cache : ResolutionCache κ) : TypeSystem κ η :=
  { s with engine := { s.engine with cache } }

def record (s : TypeSystem κ η) (record : LedgerRecord) : TypeSystem κ η :=
  { s with ledger := s.ledger.append record }

/-- The number of cached strategies that are still valid. -/
def cacheSize (s : TypeSystem κ η) : Nat := s.engine.cache.size s.converters.generation

def invalidateCache (s : TypeSystem κ η) : TypeSystem κ η :=
  s.withCache s.engine.cache.invalidate

end TypeSystem

end CanonicalTypes
