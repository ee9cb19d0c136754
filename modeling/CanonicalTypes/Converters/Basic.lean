import CanonicalTypes.Ledger.Basic
import CanonicalTypes.Text.Quoted
import CanonicalTypes.Types.Basic

/-!
# The registry of converters

A converter turns the values of one producer into instances of one canonical type. There is at most
one for each pair of a producer and a target: registering a pair again replaces its converter. Each
registration has a number of its own, and each change moves the registry to a new generation, which
is what caches of look-ups go by.

What a converter does is its `action`: the conversion of native scalars, or a tag `κ` that a host
gives meaning to.

The numbers of registrations and the generation are naturals without a bound, where the registry
that is described counts in 64 bits. Fewer than `2 ^ 64` registrations and removals are assumed.

| here | operation |
| --- | --- |
| `ConverterAction`                           | a `ConvertFn` |
| `ConverterRegistry`                         | `ConverterRegistry` with its `ConverterTable` |
| `register`, `deregister`                    | `ConverterRegistry::register_converter`, `deregister` |
| `lookup`, `lookupWithGeneration`            | `ConverterRegistry::lookup_converter`, `lookup_with_generation` |
| `entries`, `size`                           | `ConverterRegistry::entries`, `len` |
| `RegistryEvent.ofRegistration`, `ofRemoval` | what `ConverterRegistry::record` is given |
-/
namespace CanonicalTypes

/-- How important a converter is to whoever reads a listing. It has no effect on look-ups. -/
inductive ConverterPriority where
  | legacy
  | default
  | override
  deriving DecidableEq

namespace ConverterPriority

def all : List ConverterPriority := [legacy, default, override]

def name : ConverterPriority → String
  | legacy => "legacy"
  | default => "default"
  | override => "override"

def inspect : ConverterPriority → String
  | legacy => "Legacy"
  | default => "Default"
  | override => "Override"

def rank : ConverterPriority → Nat
  | legacy => 0
  | default => 1
  | override => 2

end ConverterPriority

/-- What a converter does with a value. -/
inductive ConverterAction (κ : Type) where
  /-- Native scalars become tensors without axes. -/
  | scalar
  /-- The host decides. -/
  | hosted (tag : κ)
  deriving DecidableEq

structure ConverterEntry (κ : Type) where
  producer : ProducerType
  target : TypeId
  targetName : String
  /-- The number of the registration. -/
  sequence : Nat
  priority : ConverterPriority
  action : ConverterAction κ
  deriving DecidableEq

/-- What became of a registration. -/
inductive Registration where
  | inserted (sequence : Nat)
  | replaced (previous sequence : Nat)
  deriving DecidableEq

def Registration.sequence : Registration → Nat
  | .inserted sequence => sequence
  | .replaced _ sequence => sequence

def Registration.previous? : Registration → Option Nat
  | .inserted _ => none
  | .replaced previous _ => some previous

/-- The active converters, at most one for each pair of producer and target. The two counters stand
for 64-bit ones that have not run over: fewer than `2 ^ 64` changes have been made. -/
structure ConverterRegistry (κ : Type) where
  active : List (ConverterEntry κ) := []
  nextSequence : Nat := 0
  generation : Nat := 0

namespace ConverterEntry

variable {κ : Type}

def isFor (e : ConverterEntry κ) (producer : ProducerType) (target : TypeId) : Bool :=
  e.producer = producer && e.target = target

/-- The order of listings: higher priorities first, then earlier registrations. -/
def listedBefore (e e' : ConverterEntry κ) : Bool :=
  e'.priority.rank < e.priority.rank
    || (e.priority.rank = e'.priority.rank && e.sequence ≤ e'.sequence)

def inspect (e : ConverterEntry κ) : String :=
  "ConverterEntry \x7b producer: ProducerType(" ++ Text.quoted e.producer.name ++ "), target: "
    ++ Text.quoted e.targetName ++ ", sequence: " ++ toString e.sequence ++ ", priority: "
    ++ e.priority.inspect ++ " \x7d"

end ConverterEntry

namespace ConverterRegistry

variable {κ : Type}

/-- The converter of exactly this pair. -/
def find? (r : ConverterRegistry κ) (producer : ProducerType) (target : TypeId) :
    Option (ConverterEntry κ) :=
  r.active.find? fun e => e.isFor producer target

/-- The first converter to a target among a producer and its supertypes, in this order. -/
def lookup (r : ConverterRegistry κ) (producer : ProducerType) (supertypes : List ProducerType)
    (target : TypeId) : Option (ConverterEntry κ) :=
  (producer :: supertypes).findSome? fun p => r.find? p target

/-- The answer of a look-up, with the generation that it was read in. -/
def lookupWithGeneration (r : ConverterRegistry κ) (producer : ProducerType)
    (supertypes : List ProducerType) (target : TypeId) : Option (ConverterEntry κ) × Nat :=
  (r.lookup producer supertypes target, r.generation)

def without (r : ConverterRegistry κ) (producer : ProducerType) (target : TypeId) :
    List (ConverterEntry κ) :=
  r.active.filter fun e => !e.isFor producer target

/-- Makes a converter the one for its pair (`ConverterRegistry::register_converter`). -/
def register (r : ConverterRegistry κ) (producer : ProducerType) (target : CanonicalType)
    (action : ConverterAction κ) (priority : ConverterPriority) :
    Registration × ConverterRegistry κ :=
  let sequence := r.nextSequence
  let entry : ConverterEntry κ := ⟨producer, target.id, target.name, sequence, priority, action⟩
  let registration := match r.find? producer target.id with
    | some previous => Registration.replaced previous.sequence sequence
    | none => Registration.inserted sequence
  (registration, ⟨r.without producer target.id ++ [entry], sequence + 1, r.generation + 1⟩)

/-- Removes the converter of a pair, and returns it (`ConverterRegistry::deregister`). Without one,
nothing changes, the generation included. -/
def deregister (r : ConverterRegistry κ) (producer : ProducerType) (target : TypeId) :
    Option (ConverterEntry κ) × ConverterRegistry κ :=
  match r.find? producer target with
  | none => (none, r)
  | some entry =>
    (some entry, { r with active := r.without producer target, generation := r.generation + 1 })

/-- The active converters in the order of listings. -/
def entries (r : ConverterRegistry κ) : List (ConverterEntry κ) :=
  r.active.mergeSort ConverterEntry.listedBefore

def size (r : ConverterRegistry κ) : Nat := r.active.length

def inspect (r : ConverterRegistry κ) : String :=
  "ConverterRegistry \x7b len: " ++ toString r.size ++ ", generation: " ++ toString r.generation
    ++ " \x7d"

end ConverterRegistry

def RegistryEvent.ofRegistration (producer : ProducerType) (target : String)
    (priority : ConverterPriority) : Registration → RegistryEvent
  | .inserted sequence => .registered producer.name target sequence priority.name
  | .replaced previous sequence =>
    .replaced producer.name target previous sequence priority.name

def RegistryEvent.ofRemoval {κ : Type} (entry : ConverterEntry κ) : RegistryEvent :=
  .deregistered entry.producer.name entry.targetName entry.sequence

end CanonicalTypes
