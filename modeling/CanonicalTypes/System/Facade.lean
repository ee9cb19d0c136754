import CanonicalTypes.Resolution.Engine
import CanonicalTypes.System.Builtins

/-!
# Using a type system by name

The operations of a type system as users call them: types go by their names, and every change of
the converters is recorded in the ledger. An operation returns its answer and the system after it.
One that is refused leaves the system as it was; a resolution that fails keeps what was remembered
of elements and what foreign code has done, and is recorded if its target is registered.

| here | operation |
| --- | --- |
| `registerType`, `registerTypes`          | `TypeSystem::register_canonical_type`, `CanonicalTypeRegistry::register_all` |
| `lookup`, `isAncestor`                   | `TypeSystem::lookup`, `is_ancestor` |
| `registerConverter`, `addConverter`      | `TypeSystem::register_converter` |
| `deregisterConverter`, `removeConverter` | `TypeSystem::deregister_converter` |
| `installBuiltins`, `withBuiltins`        | `TypeSystem::install_builtins`, `with_builtins`, by `install` |
| `resolve`                                | `TypeSystem::resolve` |
-/
namespace CanonicalTypes

inductive SystemError where
  | registry (error : RegistryError)
  | resolution (failure : ResolutionFailure)
  deriving DecidableEq

namespace SystemError

def message : SystemError → String
  | registry e => s!"registry error: {e.message}"
  | resolution f => s!"resolution error: {f.message}"

/-- The messages of the errors behind this one, the nearest first. -/
def causes : SystemError → List String
  | registry e => [e.message]
  | resolution f => f.message :: (f.cause?.map ConverterError.text).toList

end SystemError

namespace TypeSystem

variable {ω κ η : Type}

def registerType (s : TypeSystem κ η) (d : TypeDeclaration) :
    Except SystemError TypeId × TypeSystem κ η :=
  match s.types.register d with
  | .ok (id, types) => (.ok id, { s with types })
  | .error e => (.error (.registry e), s)

/-- Registers a batch of canonical types, all or none of them. -/
def registerTypes (s : TypeSystem κ η) (ds : List TypeDeclaration) :
    Except RegistryError (List TypeId) × TypeSystem κ η :=
  let (answer, types) := s.types.registerAll ds
  (answer, { s with types })

def lookup (s : TypeSystem κ η) (name : String) : Except SystemError CanonicalType :=
  match s.types.lookup name with
  | .ok t => .ok t
  | .error e => .error (.registry e)

/-- Whether the first named type is a proper ancestor of the second. -/
def isAncestor (s : TypeSystem κ η) (ancestor descendant : String) : Except SystemError Bool :=
  match s.lookup ancestor with
  | .error e => .error e
  | .ok a =>
    match s.lookup descendant with
    | .error e => .error e
    | .ok d => .ok (s.types.isAncestor a.id d.id)

/-- Makes a converter the one from a producer to a type, and records that. -/
def addConverter (s : TypeSystem κ η) (producer : ProducerType) (target : CanonicalType)
    (action : ConverterAction κ) (priority : ConverterPriority) : Registration × TypeSystem κ η :=
  let (registration, converters) := s.converters.register producer target action priority
  let event := RegistryEvent.ofRegistration producer target.name priority registration
  (registration, { s with converters }.record (.registry event))

def registerConverter (s : TypeSystem κ η) (producer : ProducerType) (target : String)
    (action : ConverterAction κ) (priority : ConverterPriority) :
    Except SystemError Registration × TypeSystem κ η :=
  match s.lookup target with
  | .error e => (.error e, s)
  | .ok t =>
    let (registration, s) := s.addConverter producer t action priority
    (.ok registration, s)

/-- Removes the converter of a pair and records that; returns whether there was one. -/
def removeConverter (s : TypeSystem κ η) (producer : ProducerType) (target : TypeId) :
    Bool × TypeSystem κ η :=
  match s.converters.deregister producer target with
  | (none, _) => (false, s)
  | (some entry, converters) =>
    (true, { s with converters }.record (.registry (RegistryEvent.ofRemoval entry)))

def deregisterConverter (s : TypeSystem κ η) (producer : ProducerType) (target : String) :
    Except SystemError Bool × TypeSystem κ η :=
  match s.lookup target with
  | .error e => (.error e, s)
  | .ok t =>
    let (removed, s) := s.removeConverter producer t.id
    (.ok removed, s)

def addScalarConverters (s : TypeSystem κ η) (target : CanonicalType) : TypeSystem κ η :=
  Builtins.scalarProducers.foldl (fun s p => (s.addConverter p target .scalar .default).2) s

/-- Installs the built-in types and converters (`TypeSystem::install_builtins`). Once that has
succeeded, nothing more happens. -/
def installBuiltins (s : TypeSystem κ η) : Except SystemError BuiltinIds × TypeSystem κ η :=
  match s.builtins with
  | some ids => (.ok ids, s)
  | none =>
    match s.types.registerAll Builtins.declarations with
    | (.error e, types) => (.error (.registry e), { s with types })
    | (.ok [tensor, symbol, eager, variableId], types) =>
      match types.get tensor with
      | .error e => (.error (.registry e), { s with types })
      | .ok target =>
        let ids : BuiltinIds := ⟨tensor, symbol, eager, variableId⟩
        (.ok ids, { { s with types }.addScalarConverters target with builtins := some ids })
    -- A batch of four that is accepted has four ids, so this branch is never taken.
    | (.ok _, types) =>
      (.error (.registry (.unknownType Builtins.tensor)), { s with types })

def withBuiltins (config : EngineConfig) (host : η) : Except SystemError (TypeSystem κ η) :=
  match (new config host : TypeSystem κ η).installBuiltins with
  | (.ok _, s) => .ok s
  | (.error e, _) => .error e

/-- Resolves a value to the named type (`TypeSystem::resolve`). A name that is not registered fails
before the engine is asked, and leaves no record. -/
def resolve [ForeignObject ω] (h : Host ω κ η) (v : Value ω) (target : String)
    (s : TypeSystem κ η) : Except SystemError (CanonicalValue ω) × TypeSystem κ η :=
  match s.types.find? target with
  | none => (.error (.resolution (.unknownType target v.producer)), s)
  | some t =>
    match resolveTraced h v t.id s with
    | (⟨.ok c, _⟩, s) => (.ok c, s)
    | (⟨.error failure, _⟩, s) => (.error (.resolution failure), s)

end TypeSystem

end CanonicalTypes
