import CanonicalTypes.Resolution.Cache

/-!
# Scripts for caches

A cache is driven together with a registry of converters, whose entries are what it stores for the
registry strategy. Every such insertion registers a converter of its own first.
-/
namespace CanonicalTypes.Scenario

inductive CacheStep where
  | insert (producer : ProducerType) (target : TypeId) (generation : Nat) (strategy : Strategy)
  | get (producer : ProducerType) (target : TypeId) (generation : Nat)
  | size (generation : Nat)
  | invalidate

inductive CacheAnswer where
  | size (size : Nat)
  | found (strategy : Option (CachedStrategy Unit))
  | nothing

/-- A cache and the registry that its entries come from. -/
structure CacheStage where
  cache : ResolutionCache Unit := {}
  converters : ConverterRegistry Unit := {}

/-- The one type that converters are registered for. -/
def cacheTarget : CanonicalType := ⟨⟨0⟩, "T", none, {}, none⟩

/-- The strategy to store, and the registry after providing for it. -/
def CacheStage.provide (s : CacheStage) (producer : ProducerType) :
    Strategy → CachedStrategy Unit × ConverterRegistry Unit
  | .registry =>
    let (_, converters) := s.converters.register producer cacheTarget .scalar .default
    match converters.lookup producer [] cacheTarget.id with
    | some entry => (.registry entry, converters)
    | none => (.protocol, converters)
  | _ => (.protocol, s.converters)

def CacheStep.run (s : CacheStage) : CacheStep → CacheAnswer × CacheStage
  | insert producer target generation strategy =>
    let (stored, converters) := s.provide producer strategy
    let cache := s.cache.insert producer target stored generation
    (.size (cache.size generation), ⟨cache, converters⟩)
  | get producer target generation =>
    let (found, cache) := s.cache.get producer target generation
    (.found found, { s with cache })
  | size generation => (.size (s.cache.size generation), s)
  | invalidate => (.nothing, { s with cache := s.cache.invalidate })

end CanonicalTypes.Scenario
