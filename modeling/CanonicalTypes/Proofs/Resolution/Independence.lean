import CanonicalTypes.Proofs.Resolution.Transparency

/-!
# Resolving with the same functions

What a resolution comes to depends on the converters through their functions only: if two registries
have the same function for each pair (`SameFunctions`), then whatever their numbers, priorities and
generations are, the direct stages run side by side in two systems without caches
(`resolveDirectly_independent`), and so do whole resolutions (`independent_simulation`).

A cache of which every entry is justified makes no difference, so this carries over to systems that
remember strategies, each of them what it happened to resolve before (`resolveAt_independent`).
-/
namespace CanonicalTypes

variable {ω κ η : Type} [ForeignObject ω] {h : Host ω κ η} {config config' : EngineConfig}
  {Presented : Value ω → Prop} {v : Value ω} {target : CanonicalType} {s s' : TypeSystem κ η}

/-! ## The same functions -/

def ConverterRegistry.action? (r : ConverterRegistry κ) (producer : ProducerType) (id : TypeId) :
    Option (ConverterAction κ) :=
  (r.find? producer id).map ConverterEntry.action

/-- For each pair either both registries have a converter and they do the same, or neither has. -/
def ConverterRegistry.SameFunctions (h : Host ω κ η) (r r' : ConverterRegistry κ) : Prop :=
  ∀ producer id, (r.action? producer id).map h.run = (r'.action? producer id).map h.run

namespace ConverterRegistry

variable {r r' : ConverterRegistry κ} {producer : ProducerType} {supertypes : List ProducerType}
  {id : TypeId}

theorem action?_register (r : ConverterRegistry κ) (p : ProducerType) (target : CanonicalType)
    (action : ConverterAction κ) (priority : ConverterPriority) :
    (r.register p target action priority).2.action? producer id =
      if p = producer ∧ target.id = id then some action else r.action? producer id := by
  simp only [action?, find?_register, eq_comm (a := producer), eq_comm (a := id)]
  split <;> rfl

theorem action?_deregister (r : ConverterRegistry κ) (p : ProducerType) (target : TypeId) :
    (r.deregister p target).2.action? producer id =
      if p = producer ∧ target = id then none else r.action? producer id := by
  simp only [action?, find?_deregister, eq_comm (a := producer), eq_comm (a := id)]
  split <;> rfl

theorem SameFunctions.refl (h : Host ω κ η) (r : ConverterRegistry κ) : r.SameFunctions h r :=
  fun _ _ => rfl

/-- Only the pairs of active converters have to be compared. -/
theorem SameFunctions.of_active (h : Host ω κ η)
    (hactive : ∀ e ∈ r.active ++ r'.active,
      r.action? e.producer e.target = r'.action? e.producer e.target) : r.SameFunctions h r' := by
  intro producer id
  have hpair : ∀ {e : ConverterEntry κ}, e ∈ r.active ++ r'.active → e.producer = producer →
      e.target = id → (r.action? producer id).map h.run = (r'.action? producer id).map h.run := by
    rintro e he rfl rfl
    rw [hactive e he]
  cases hfound : r.find? producer id with
  | some e =>
    obtain ⟨he, hproducer, htarget⟩ := find?_eq_some hfound
    exact hpair (List.mem_append_left _ he) hproducer htarget
  | none =>
    cases hfound' : r'.find? producer id with
    | some e =>
      obtain ⟨he, hproducer, htarget⟩ := find?_eq_some hfound'
      exact hpair (List.mem_append_right _ he) hproducer htarget
    | none => simp only [action?, hfound, hfound']

/-- Look-ups find the same function, or both nothing. -/
theorem SameFunctions.lookup (hf : r.SameFunctions h r') (producer : ProducerType)
    (supertypes : List ProducerType) (id : TypeId) :
    (r.lookup producer supertypes id).map (fun e => h.run e.action) =
      (r'.lookup producer supertypes id).map fun e => h.run e.action := by
  simp only [ConverterRegistry.lookup, List.map_findSome?]
  congr 1
  funext p
  simpa [action?, Function.comp_def] using hf p id

theorem SameFunctions.lookup_eq_none (hf : r.SameFunctions h r')
    (hnone : r.lookup producer supertypes id = none) :
    r'.lookup producer supertypes id = none := by
  have hsame := hf.lookup producer supertypes id
  rw [hnone] at hsame
  exact Option.map_eq_none_iff.1 hsame.symm

theorem SameFunctions.lookup_eq_some (hf : r.SameFunctions h r') {e : ConverterEntry κ}
    (hfound : r.lookup producer supertypes id = some e) :
    ∃ e', r'.lookup producer supertypes id = some e' ∧ h.run e'.action = h.run e.action := by
  have hsame := hf.lookup producer supertypes id
  rw [hfound] at hsame
  exact Option.map_eq_some_iff.1 hsame.symm

end ConverterRegistry

open ConverterRegistry (SameFunctions)

/-! ## Without caches -/

/-- The systems have the same types, and converters with the same functions. -/
structure SameAnswers (h : Host ω κ η) (types : TypeRegistry) (s s' : TypeSystem κ η) : Prop where
  left : s.types = types
  right : s'.types = types
  functions : s.converters.SameFunctions h s'.converters

/-- Without caches the direct stages end alike, with the same trace. -/
theorem resolveDirectly_independent (hp : h.Pure) (hc : config.cacheEnabled = false)
    (hc' : config'.cacheEnabled = false) (v : Value ω) (target : CanonicalType)
    {types : TypeRegistry} (hsame : SameAnswers h types s s') :
    Progress.Related Eq (SameAnswers h types) (resolveDirectly h config v target s)
      (resolveDirectly h config' v target s') := by
  cases hid : identity? types target.id v with
  | some c =>
    simp only [resolveDirectly, hsame.left, hsame.right, hid]
    exact .decided rfl hsame
  | none =>
    rw [resolveDirectly_uncached hc (hsame.left ▸ hid),
      resolveDirectly_uncached hc' (hsame.right ▸ hid)]
    cases hfound : s.converters.lookup v.producer v.supertypes target.id with
    | some entry =>
      obtain ⟨entry', hfound', hrun⟩ := hsame.functions.lookup_eq_some hfound
      rw [resolveByLookup_of_converter hc hfound, resolveByLookup_of_converter hc' hfound',
        hp.run_snd, hp.run_snd]
      refine .decided ?_ hsame
      rw [applyConverter_fst, applyConverter_fst, hrun, hp.run_fst entry.action v s s']
    | none =>
      have hfound' := hsame.functions.lookup_eq_none hfound
      by_cases hprotocol : target.descriptor.entryPoint.isSome ∧
          conforms v target.descriptor = true
      · obtain ⟨hentry, hconforms⟩ := hprotocol
        obtain ⟨entryPoint, hentry⟩ := Option.isSome_iff_exists.1 hentry
        -- Only objects conform.
        cases hobject : v.object? with
        | none => simp [conforms, hobject] at hconforms
        | some o =>
          simp only [conforms, hobject] at hconforms
          rw [resolveByLookup_of_protocol hc hfound hobject hentry hconforms,
            resolveByLookup_of_protocol hc' hfound' hobject hentry hconforms, hp.canonicalize_snd,
            hp.canonicalize_snd]
          refine .decided ?_ hsame
          rw [applyProtocol_fst, applyProtocol_fst, hp.canonicalize_fst o entryPoint s s']
      · have hneither : target.descriptor.entryPoint.isSome →
            conforms v target.descriptor = false := by
          simpa using hprotocol
        rw [resolveByLookup_of_neither hfound hneither, resolveByLookup_of_neither hfound' hneither]
        exact .undecided hsame

theorem independent_simulation (hp : h.Pure) (hc : config.cacheEnabled = false)
    (hc' : config'.cacheEnabled = false) (depth : config.maxSequenceDepth = config'.maxSequenceDepth)
    (types : TypeRegistry) :
    Simulation h h config config' (fun _ : Value ω => True) (fun _ => True)
      (SameAnswers (η := η) h types) Eq where
  depth := depth
  items _ _ _ := trivial
  element hsame _ _ := ⟨by rw [hsame.left, hsame.right], fun _ _ => trivial⟩
  refl _ := rfl
  result hr := congrArg Resolution.result hr
  direct _ _ hsame := resolveDirectly_independent hp hc hc' _ _ hsame

/-! ## With caches -/

/-- What the cache holds of the present generation, presented values came to. -/
def TypeSystem.CacheJustified (Presented : Value ω → Prop) (s : TypeSystem κ η) : Prop :=
  s.engine.cache.Valid s.converters (Justified Presented s.types)

theorem TypeSystem.cacheJustified_new (config : EngineConfig) (host : η) :
    (new config host : TypeSystem κ η).CacheJustified Presented :=
  ResolutionCache.valid_empty _

/-- A system with a justified cache is like the same one without it. -/
theorem TypeSystem.CacheJustified.alike (hj : s.CacheJustified Presented) :
    Alike Presented s s.forgetCache :=
  ⟨(TypeSystem.forgetCache_forgetCache s).symm, rfl, hj⟩

theorem Alike.cacheJustified (ha : Alike Presented s s') : s.CacheJustified Presented :=
  ha.justified

/-- Two systems that resolve alike: the types are the same, the converters have the same functions,
sequences are aggregated to the same depth, and the caches are justified. Numbers, priorities and
generations may differ, and so may all that has been resolved. -/
structure Interchangeable (h : Host ω κ η) (Presented : Value ω → Prop) (s s' : TypeSystem κ η) :
    Prop where
  types : s.types = s'.types
  functions : s.converters.SameFunctions h s'.converters
  depth : s.engine.config.maxSequenceDepth = s'.engine.config.maxSequenceDepth
  justified : s.CacheJustified Presented
  justified' : s'.CacheJustified Presented

/-- **What a resolution comes to depends on the types and the functions only.** If foreign code is
pure and presented values of one producer describe themselves alike, then a presented value has the
same outcome, at the same depth, in two systems with the same types, whose converters have the same
functions. -/
theorem resolveAt_independent (hp : h.Pure) (synced : s.types.Synced)
    (uniform : Uniform s.types Presented)
    (items : ∀ {items : List (Value ω)}, Presented (.sequence items) → ∀ v ∈ items, Presented v)
    (hconfig : config.maxSequenceDepth = config'.maxSequenceDepth) (depth : Nat)
    (hv : Presented v) (ht : s.types.get? target.id = some target)
    (hs : Interchangeable h Presented s s') :
    (resolveAt h config depth v target s).1.forgetReplay =
      (resolveAt h config' depth v target s').1.forgetReplay := by
  let off : EngineConfig := { config with cacheEnabled := false }
  let off' : EngineConfig := { config' with cacheEnabled := false }
  have hoff : off.maxSequenceDepth = off'.maxSequenceDepth := hconfig
  have hself : config.maxSequenceDepth = off.maxSequenceDepth := rfl
  have hself' : config'.maxSequenceDepth = off'.maxSequenceDepth := rfl
  have hcacheless : (resolveAt h off depth v target s.forgetCache).1 =
      (resolveAt h off' depth v target s'.forgetCache).1 :=
    ((independent_simulation hp rfl rfl hoff s.types).resolveAt v depth target s.forgetCache
      s'.forgetCache trivial trivial ⟨rfl, hs.types.symm, hs.functions⟩).1
  have hcached : (resolveAt h config depth v target s).1.forgetReplay =
      (resolveAt h off depth v target s.forgetCache).1.forgetReplay :=
    ((alike_simulation hp synced uniform items rfl hself).resolveAt v depth target s s.forgetCache
      hv ht ⟨hs.justified.alike, rfl⟩).1
  have hcached' : (resolveAt h config' depth v target s').1.forgetReplay =
      (resolveAt h off' depth v target s'.forgetCache).1.forgetReplay :=
    ((alike_simulation hp synced uniform items rfl hself').resolveAt v depth target s'
      s'.forgetCache hv ht ⟨hs.justified'.alike, hs.types.symm⟩).1
  calc (resolveAt h config depth v target s).1.forgetReplay
      = (resolveAt h off depth v target s.forgetCache).1.forgetReplay := hcached
    _ = (resolveAt h off' depth v target s'.forgetCache).1.forgetReplay :=
        congrArg Resolution.forgetReplay hcacheless
    _ = (resolveAt h config' depth v target s').1.forgetReplay := hcached'.symm

end CanonicalTypes
