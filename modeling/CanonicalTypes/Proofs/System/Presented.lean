import CanonicalTypes.Proofs.System.Transparency

/-!
# Systems that have been shown certain values only

A cached strategy goes by the producer alone, so an object may leave one behind that other values of
its producer come to later. `EvolvesAmong` restricts `Evolves` to strategies of presented values.
Under a host that presents no others (`LawfulAmong`), every operation that resolves a presented
value makes a system evolve in this way, and so does every run (`run_evolvesAmong`).
-/
namespace CanonicalTypes

variable {ω κ η : Type} [ForeignObject ω] {Presented : Value ω → Prop}
  {s s' s'' : TypeSystem κ η}

namespace TypeSystem

/-- The first system can become the second, if strategies are remembered for presented values
only. -/
inductive EvolvesAmong (Presented : Value ω → Prop) :
    TypeSystem κ η → TypeSystem κ η → Prop where
  | refl (s : TypeSystem κ η) : EvolvesAmong Presented s s
  /-- A change of anything but the cache. -/
  | change {s s' s'' : TypeSystem κ η} (h : EvolvesAmong Presented s s') (h' : Evolves s' s'')
      (hcache : s''.engine.cache = s'.engine.cache) : EvolvesAmong Presented s s''
  | look {s s' : TypeSystem κ η} (h : EvolvesAmong Presented s s') (producer : ProducerType)
      (target : TypeId) :
      EvolvesAmong Presented s
        (s'.withCache (s'.engine.cache.get producer target s'.converters.generation).2)
  | remember {s now s' : TypeSystem κ η} (h : EvolvesAmong Presented s now)
      (h' : EvolvesAmong Presented now s') (v : Value ω) (hv : Presented v) (target : TypeId) :
      EvolvesAmong Presented s (s'.withCache (s'.engine.cache.insert v.producer target
        (.ofLookup (now.converters.lookup v.producer v.supertypes target))
        now.converters.generation))
  | invalidate {s s' : TypeSystem κ η} (h : EvolvesAmong Presented s s') :
      EvolvesAmong Presented s s'.invalidateCache

namespace EvolvesAmong

theorem evolves (h : EvolvesAmong Presented s s') : Evolves s s' := by
  induction h with
  | refl s => exact .refl s
  | change _ h' _ ih => exact ih.trans h'
  | look _ producer target ih => exact .look ih producer target
  | remember _ _ v _ target ih ih' => exact .remember ih ih' v.producer v.supertypes target
  | invalidate _ ih => exact .invalidate ih

theorem trans (h : EvolvesAmong Presented s s') (h' : EvolvesAmong Presented s' s'') :
    EvolvesAmong Presented s s'' := by
  induction h' with
  | refl => exact h
  | change _ h₂ hcache ih => exact .change (ih h) h₂ hcache
  | look _ producer target ih => exact .look (ih h) producer target
  | remember _ h₂ v hv target ih _ => exact .remember (ih h) h₂ v hv target
  | invalidate _ ih => exact .invalidate (ih h)

/-- What holds of the strategies that presented values come to holds of those in the cache. -/
theorem cacheValid {J : ConverterRegistry κ → CacheEntry κ → Prop}
    (hJ : ∀ (r : ConverterRegistry κ) (v : Value ω) (target : TypeId), Presented v →
      J r ⟨v.producer, target, .ofLookup (r.lookup v.producer v.supertypes target)⟩)
    (h : EvolvesAmong Presented s s') (hs : s.engine.cache.Valid s.converters J) :
    s'.engine.cache.Valid s'.converters J := by
  induction h with
  | refl => exact hs
  | change _ h' hcache ih =>
    rw [hcache]
    exact (ih hs).of_precedes h'.converters
  | look _ producer target ih => exact (ih hs).get producer target
  | remember _ h' v hv target ih ih' =>
    exact (ih' (ih hs)).insert h'.evolves.converters (hJ _ v target hv)
  | invalidate _ ih => exact (ih hs).invalidate

end EvolvesAmong

end TypeSystem

open TypeSystem (Evolves EvolvesAmong)

/-- Foreign code that is run for presented values makes the calls that users can, and presents no
other values. -/
structure Host.LawfulAmong (h : Host ω κ η) (Presented : Value ω → Prop) : Prop where
  convert : ∀ tag v s, Presented v → EvolvesAmong Presented s (h.convert tag v s).2
  canonicalize : ∀ o entryPoint s, Presented (.object o) →
    EvolvesAmong Presented s (h.canonicalize o entryPoint s).2

theorem Host.pure_lawfulAmong (convert : κ → Value ω → Except ConverterError (Payload ω))
    (canonicalize : ω → String → Except ConverterError (Payload ω)) :
    (Host.pure convert canonicalize : Host ω κ η).LawfulAmong Presented where
  convert _ _ s _ := .refl s
  canonicalize _ _ s _ := .refl s

/-! ## Runs -/

variable {h : Host ω κ η}

/-- Users and resolutions change nothing else, if no other values are resolved. -/
theorem TypeSystem.evolvesAmong_covers :
    CoversChanges Presented (EvolvesAmong Presented : TypeSystem κ η → TypeSystem κ η → Prop) where
  refl := .refl
  trans := .trans
  call s call := .change (.refl s) (evolves_coversRegistries.call s call) rfl
  addConverter s producer target action priority htarget :=
    .change (.refl s)
      (evolves_coversRegistries.addConverter s producer target action priority htarget) rfl
  removeConverter s producer target := by
    refine .change (.refl s) (evolves_coversRegistries.removeConverter s producer target) ?_
    unfold TypeSystem.removeConverter
    split <;> rfl
  builtins s builtins hnone :=
    .change (.refl s) (evolves_coversRegistries.builtins s builtins hnone) rfl
  invalidate s := .invalidate (.refl s)
  look s := .look (.refl s)
  remember v hv target h h' := .remember h h' v hv target
  resolution s record := .change (.refl s) (.ledger (.refl s) _) rfl

theorem Host.LawfulAmong.changesWithin (hl : h.LawfulAmong Presented) :
    h.ChangesWithin Presented (EvolvesAmong Presented) where
  convert := hl.convert
  canonicalize := hl.canonicalize

theorem run_evolvesAmong (closed : ∀ {items : List (Value ω)}, Presented (.sequence items) →
    ∀ v ∈ items, Presented v) (hl : h.LawfulAmong Presented) (s : TypeSystem κ η)
    (ops : List (Operation ω κ)) (hops : ∀ op ∈ ops, ∀ v, op.value? = some v → Presented v) :
    EvolvesAmong Presented s (run h s ops) :=
  run_covered TypeSystem.evolvesAmong_covers hl.changesWithin closed s ops hops

end CanonicalTypes
