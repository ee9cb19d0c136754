import CanonicalTypes.Converters.Basic

/-!
# The cache of strategies

The cache remembers by which strategy a producer's values became instances of a target. Its entries
belong to one generation of the converter registry. Seeing a later generation empties it, so no
answer from before a change is given after it; what was computed for an earlier generation is not
taken in.

Generations are naturals without a bound, as in the registry of converters.

| here | operation |
| --- | --- |
| `ResolutionCache`              | `ResolutionCache` with its `CacheTable` |
| `get`, `advance`               | `ResolutionCache::get`, `advance` |
| `insert`, `invalidate`, `size` | `ResolutionCache::insert`, `invalidate`, `len` |
-/
namespace CanonicalTypes

/-- A strategy that can be replayed. -/
inductive CachedStrategy (κ : Type) where
  | registry (entry : ConverterEntry κ)
  | protocol

/-- The strategy that a replay counts as. -/
def CachedStrategy.strategy {κ : Type} : CachedStrategy κ → Strategy
  | .registry _ => .registry
  | .protocol => .protocol

structure CacheEntry (κ : Type) where
  producer : ProducerType
  target : TypeId
  strategy : CachedStrategy κ

def CacheEntry.isFor {κ : Type} (e : CacheEntry κ) (producer : ProducerType) (target : TypeId) :
    Bool :=
  e.producer = producer && e.target = target

/-- The strategies remembered for one generation. -/
structure ResolutionCache (κ : Type) where
  generation : Nat := 0
  entries : List (CacheEntry κ) := []

namespace ResolutionCache

variable {κ : Type}

/-- The strategy remembered for a pair, whatever the generation. -/
def find? (c : ResolutionCache κ) (producer : ProducerType) (target : TypeId) :
    Option (CachedStrategy κ) :=
  (c.entries.find? fun e => e.isFor producer target).map CacheEntry.strategy

/-- Moves to a generation; a later one empties the cache. -/
def advance (c : ResolutionCache κ) (generation : Nat) : ResolutionCache κ :=
  if c.generation < generation then ⟨generation, []⟩ else c

/-- The strategy for a pair in a generation, and the cache after looking. -/
def get (c : ResolutionCache κ) (producer : ProducerType) (target : TypeId) (generation : Nat) :
    Option (CachedStrategy κ) × ResolutionCache κ :=
  if c.generation = generation then (c.find? producer target, c)
  else (none, c.advance generation)

/-- Remembers a strategy as computed in a generation. An earlier generation than the cache's is
ignored. -/
def insert (c : ResolutionCache κ) (producer : ProducerType) (target : TypeId)
    (strategy : CachedStrategy κ) (generation : Nat) : ResolutionCache κ :=
  if generation < c.generation then c
  else
    let c := c.advance generation
    { c with
      entries := c.entries.filter (fun e => !e.isFor producer target)
        ++ [⟨producer, target, strategy⟩] }

def invalidate (c : ResolutionCache κ) : ResolutionCache κ := { c with entries := [] }

/-- The number of strategies remembered for a generation. -/
def size (c : ResolutionCache κ) (generation : Nat) : Nat :=
  if c.generation = generation then c.entries.length else 0

end ResolutionCache

end CanonicalTypes
