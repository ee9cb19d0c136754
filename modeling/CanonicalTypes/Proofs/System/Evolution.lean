import CanonicalTypes.Proofs.Converters.Lookup
import CanonicalTypes.Proofs.Resolution.Cache
import CanonicalTypes.Proofs.Types.Registration
import CanonicalTypes.System.Basic

/-!
# How a type system evolves

`TypeSystem.Evolves` lists the atomic changes that a type system can go through, whoever makes them:
a user, a resolution, or foreign code in the middle of one. A strategy is remembered as a resolution
does it, as the answer of a look-up in the past, whatever has happened since.

Everything that holds of all reachable systems follows from the list: types are only added
(`Evolves.types`), the converter registry only moves on (`Evolves.converters`), and what the cache
holds was looked up in the registry of its generation (`Evolves.cacheCoherent`).
-/
namespace CanonicalTypes.TypeSystem

variable {κ η : Type} {s s' s'' : TypeSystem κ η}

/-- The first system can become the second. -/
inductive Evolves : TypeSystem κ η → TypeSystem κ η → Prop where
  | refl (s : TypeSystem κ η) : Evolves s s
  | call {s s' : TypeSystem κ η} (h : Evolves s s') (call : TypeRegistry.Call) :
      Evolves s { s' with types := s'.types.call call }
  | register {s s' : TypeSystem κ η} (h : Evolves s s') (producer : ProducerType)
      (target : CanonicalType) (action : ConverterAction κ) (priority : ConverterPriority) :
      Evolves s { s' with
        converters := (s'.converters.register producer target action priority).2 }
  | deregister {s s' : TypeSystem κ η} (h : Evolves s s') (producer : ProducerType)
      (target : TypeId) :
      Evolves s { s' with converters := (s'.converters.deregister producer target).2 }
  /-- The cache is asked for a pair. -/
  | look {s s' : TypeSystem κ η} (h : Evolves s s') (producer : ProducerType) (target : TypeId) :
      Evolves s
        (s'.withCache (s'.engine.cache.get producer target s'.converters.generation).2)
  /-- The cache is given the answer of a look-up in the system `now`, and is the one of `s'` by
  then. -/
  | remember {s now s' : TypeSystem κ η} (h : Evolves s now) (h' : Evolves now s')
      (producer : ProducerType) (supertypes : List ProducerType) (target : TypeId) :
      Evolves s (s'.withCache (s'.engine.cache.insert producer target
        (.ofLookup (now.converters.lookup producer supertypes target)) now.converters.generation))
  | invalidate {s s' : TypeSystem κ η} (h : Evolves s s') : Evolves s s'.invalidateCache
  | ledger {s s' : TypeSystem κ η} (h : Evolves s s') (ledger : EventLedger) :
      Evolves s { s' with ledger }
  | builtins {s s' : TypeSystem κ η} (h : Evolves s s') (builtins : Option BuiltinIds) :
      Evolves s { s' with builtins }
  | host {s s' : TypeSystem κ η} (h : Evolves s s') (host : η) : Evolves s { s' with host }

theorem Evolves.trans (h : Evolves s s') (h' : Evolves s' s'') : Evolves s s'' := by
  induction h' with
  | refl => exact h
  | call _ c ih => exact .call (ih h) c
  | register _ producer target action priority ih =>
    exact .register (ih h) producer target action priority
  | deregister _ producer target ih => exact .deregister (ih h) producer target
  | look _ producer target ih => exact .look (ih h) producer target
  | remember _ h₂ producer supertypes target ih _ =>
    exact .remember (ih h) h₂ producer supertypes target
  | invalidate _ ih => exact .invalidate (ih h)
  | ledger _ ledger ih => exact .ledger (ih h) ledger
  | builtins _ builtins ih => exact .builtins (ih h) builtins
  | host _ host ih => exact .host (ih h) host

/-- A system that a new one can become. -/
def Reachable (s : TypeSystem κ η) : Prop :=
  ∃ (config : EngineConfig) (host : η), Evolves (new config host) s

theorem Reachable.evolves (hs : s.Reachable) (h : Evolves s s') : s'.Reachable := by
  obtain ⟨config, host, hn⟩ := hs
  exact ⟨config, host, hn.trans h⟩

/-! ## The registries -/

/-- The types stay well-formed, and are only added. -/
theorem Evolves.types (h : Evolves s s') (hs : s.types.WellFormed) :
    s'.types.WellFormed ∧ s.types.types <+: s'.types.types := by
  induction h with
  | refl => exact ⟨hs, List.prefix_refl _⟩
  | call _ c ih =>
    obtain ⟨hw, hp⟩ := ih hs
    obtain ⟨hw', hp'⟩ := TypeRegistry.call_grows hw c
    exact ⟨hw', hp.trans hp'⟩
  | remember _ _ _ _ _ ih ih' =>
    obtain ⟨hw, hp⟩ := ih hs
    obtain ⟨hw', hp'⟩ := ih' hw
    exact ⟨hw', hp.trans hp'⟩
  | register _ _ _ _ _ ih => exact ih hs
  | deregister _ _ _ ih => exact ih hs
  | look _ _ _ ih => exact ih hs
  | invalidate _ ih => exact ih hs
  | ledger _ _ ih => exact ih hs
  | builtins _ _ ih => exact ih hs
  | host _ _ ih => exact ih hs

/-- The registry of converters only moves on. -/
theorem Evolves.converters (h : Evolves s s') : s.converters.Precedes s'.converters := by
  induction h with
  | refl => exact .refl _
  | register _ producer target action priority ih =>
    exact ih.trans (ConverterRegistry.register_precedes _ producer target action priority)
  | deregister _ producer target ih =>
    exact ih.trans (ConverterRegistry.deregister_precedes _ producer target)
  | remember _ _ _ _ _ ih ih' => exact ih.trans ih'
  | call _ _ ih => exact ih
  | look _ _ _ ih => exact ih
  | invalidate _ ih => exact ih
  | ledger _ _ ih => exact ih
  | builtins _ _ ih => exact ih
  | host _ _ ih => exact ih

/-- Nothing of the engine changes but its cache. -/
theorem Evolves.engine (h : Evolves s s') (cache : ResolutionCache κ) :
    { s'.engine with cache } = { s.engine with cache } := by
  induction h with
  | refl => rfl
  | remember _ _ _ _ _ ih ih' => exact ih'.trans ih
  | call _ _ ih => exact ih
  | register _ _ _ _ _ ih => exact ih
  | deregister _ _ _ ih => exact ih
  | look _ _ _ ih => exact ih
  | invalidate _ ih => exact ih
  | ledger _ _ ih => exact ih
  | builtins _ _ ih => exact ih
  | host _ _ ih => exact ih

/-- The settings of the engine never change. -/
theorem Evolves.config (h : Evolves s s') : s'.engine.config = s.engine.config :=
  (Engine.mk.inj (h.engine {})).1

/-- The engine of a type system has a ledger. -/
theorem Reachable.audited (h : s.Reachable) : s.engine.audited = true := by
  obtain ⟨config, host, h⟩ := h
  exact (Engine.mk.inj (h.engine {})).2.1

theorem Reachable.wellFormed (h : s.Reachable) : s.types.WellFormed := by
  obtain ⟨config, host, h⟩ := h
  exact (h.types TypeRegistry.wellFormed_empty).1

/-! ## The cache -/

/-- Whether an entry is what a look-up for its pair finds, with some supertypes. -/
def LookedUp (r : ConverterRegistry κ) (e : CacheEntry κ) : Prop :=
  ∃ supertypes, e.strategy = .ofLookup (r.lookup e.producer supertypes e.target)

/-- What the cache holds of the present generation was looked up in the present registry. -/
def CacheCoherent (s : TypeSystem κ η) : Prop := s.engine.cache.Valid s.converters LookedUp

theorem Evolves.cacheCoherent (h : Evolves s s') (hs : s.CacheCoherent) : s'.CacheCoherent := by
  induction h with
  | refl => exact hs
  | register _ producer target action priority ih =>
    exact (ih hs).of_precedes (ConverterRegistry.register_precedes _ producer target action priority)
  | deregister _ producer target ih =>
    exact (ih hs).of_precedes (ConverterRegistry.deregister_precedes _ producer target)
  | look _ producer target ih => exact (ih hs).get producer target
  | remember _ h' _ supertypes _ ih ih' => exact (ih' (ih hs)).insert h'.converters ⟨supertypes, rfl⟩
  | invalidate _ ih => exact (ih hs).invalidate
  | call _ _ ih => exact ih hs
  | ledger _ _ ih => exact ih hs
  | builtins _ _ ih => exact ih hs
  | host _ _ ih => exact ih hs

theorem Reachable.cacheCoherent (h : s.Reachable) : s.CacheCoherent := by
  obtain ⟨config, host, h⟩ := h
  exact h.cacheCoherent (ResolutionCache.valid_empty _)

end CanonicalTypes.TypeSystem
