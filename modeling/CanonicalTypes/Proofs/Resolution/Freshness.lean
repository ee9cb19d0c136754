import CanonicalTypes.Proofs.Resolution.Invocations
import CanonicalTypes.Proofs.System.Run
import CanonicalTypes.Suite.Fixture

/-!
# Converters in use are active, and exact ones win

A cached strategy is replayed without any look-up, so what is replayed has to be active all the
same. In a reachable system it is: the cache is coherent (`Reachable.cacheCoherent`), so a hit is
what a look-up finds in the present registry, with some supertypes or other. Which supertypes does
not matter for the converter of the exact pair, since every look-up asks for that first.

No assumption is made on how objects describe themselves.
-/
namespace CanonicalTypes

variable {ω κ η : Type} [ForeignObject ω] {h : Host ω κ η} {config : EngineConfig}
  {s s₁ : TypeSystem κ η}

/-! ## What a hit is -/

namespace TypeSystem

/-- A converter that the cache knows is active, and its target is the one that was asked for. -/
theorem CacheCoherent.find?_of_hit (hc : s.CacheCoherent) {producer : ProducerType}
    {target : TypeId} {entry : ConverterEntry κ}
    (hlook : lookInCache config producer target s = (some (.registry entry), s₁)) :
    s₁.converters.find? entry.producer target = some entry := by
  obtain ⟨supertypes, he⟩ := hc.hit (lookInCache_hit hlook)
  rw [lookInCache_converters hlook]
  cases hfound : s.converters.lookup producer supertypes target with
  | none => rw [hfound] at he; cases he
  | some e =>
    rw [hfound] at he
    cases he
    exact (ConverterRegistry.lookup_eq_some hfound).2.2

/-- If a pair has a converter of its own, the cache knows no other strategy for it. -/
theorem CacheCoherent.hit_of_find? (hc : s.CacheCoherent) {producer : ProducerType}
    {target : TypeId} {entry : ConverterEntry κ} {strategy : CachedStrategy κ}
    (hlook : lookInCache config producer target s = (some strategy, s₁))
    (hfind : s.converters.find? producer target = some entry) : strategy = .registry entry := by
  obtain ⟨supertypes, he⟩ := hc.hit (lookInCache_hit hlook)
  simp only at he
  rw [he, ConverterRegistry.lookup_of_find? hfind supertypes]
  rfl

end TypeSystem

/-! ## What is run is active -/

/-- Whatever the depth, a converter is run for a value that is to become a registered type, in a
reachable system. -/
theorem Invokes.exists_direct (hl : h.Lawful) {depth : Nat} {v : Value ω} {target : CanonicalType}
    {c : Invocation ω κ η} (hi : Invokes h config depth v target s c) (hs : s.Reachable)
    (ht : s.types.get? target.id = some target) :
    ∃ (s' : TypeSystem κ η) (hit : Option (CachedStrategy κ)), s'.Reachable ∧
      s'.types.get? c.target.id = some c.target ∧
      lookInCache config c.value.producer c.target.id s' = (hit, c.system) ∧
      (hit = some (.registry c.entry) ∨ c.system.converters.lookup c.value.producer
        c.value.supertypes c.target.id = some c.entry) := by
  induction hi with
  | @replayed depth v target s s₁ entry _ hlook => exact ⟨s, _, hs, ht, hlook, .inl rfl⟩
  | @found depth v target s s₁ hit entry _ hlook _ hfound =>
    exact ⟨s, hit, hs, ht, hlook, .inr hfound⟩
  | @element depth items pre post item target elementType id _ _ s s₁ s₂ _ hdirect _ _ htype _ hpre
      _ ih =>
    have h₁ := resolveDirectly_evolves hl config (.sequence items) target s
    rw [hdirect] at h₁
    have hs₁ := hs.evolves h₁
    have h₂ := resolveItems_evolves hl config pre (depth + 1) target elementType 0 s₁
    rw [hpre] at h₂
    rw [← hs₁.wellFormed.id_of_get? htype] at htype
    exact ih (hs₁.evolves h₂) (TypeRegistry.get?_of_prefix (h₂.types hs₁.wellFormed).2 htype)

/-- A converter that is run is, in the system that it is run in, the active one of its producer and
the target, and the target is registered. -/
theorem Invokes.active (hl : h.Lawful) {depth : Nat} {v : Value ω} {target : CanonicalType}
    {c : Invocation ω κ η} (hi : Invokes h config depth v target s c) (hs : s.Reachable)
    (ht : s.types.get? target.id = some target) :
    c.system.converters.find? c.entry.producer c.target.id = some c.entry ∧
      c.system.types.get? c.target.id = some c.target := by
  obtain ⟨s', hit, hs', ht', hlook, hentry⟩ := hi.exists_direct hl hs ht
  constructor
  · rcases hentry with rfl | hfound
    · exact hs'.cacheCoherent.find?_of_hit hlook
    · exact (ConverterRegistry.lookup_eq_some hfound).2.2
  · obtain ⟨cache, hcache⟩ := lookInCache_eq hlook
    rw [hcache]
    exact ht'

/-! ## Exact converters win -/

/-- Whether it is replayed or looked up, the converter of the exact pair decides before anything
else is tried. -/
theorem resolveDirectly_of_exact (h : Host ω κ η) (config : EngineConfig) (hc : s.CacheCoherent)
    {v : Value ω} {target : CanonicalType} {entry : ConverterEntry κ}
    (hid : identity? s.types target.id v = none)
    (hfind : s.converters.find? v.producer target.id = some entry) :
    ∃ r s', resolveDirectly h config v target s = (.decided r, s') ∧
      r.trace.strategy = some .registry ∧ ∃ trace, r = settle target v.producer .registry trace
        (h.run entry.action v (lookInCache config v.producer target.id s).2).1 := by
  have hlookup := ConverterRegistry.lookup_of_find? hfind v.supertypes
  have hd := resolveDirectly_directly h config v target s
  generalize resolveDirectly h config v target s = p at hd ⊢
  cases hd with
  | identity c hc' => rw [hid] at hc'; cases hc'
  | replayedConverter s₁ e _ hlook =>
    cases hc.hit_of_find? hlook hfind
    exact ⟨_, _, rfl, by simp [Trace.decide], _, by rw [applyConverter_fst, hlook]⟩
  | replayedProtocol s₁ o entryPoint _ hlook => cases hc.hit_of_find? hlook hfind
  | converter hit s₁ e r _ hlook _ hfound hr =>
    rw [lookInCache_converters hlook, hlookup] at hfound
    cases hfound
    exact ⟨_, _, rfl, by simp [hr, Trace.decide], _, by rw [hr, applyConverter_fst, hlook]⟩
  | protocol hit s₁ o entryPoint r _ hlook _ hfound =>
    rw [lookInCache_converters hlook, hlookup] at hfound
    cases hfound
  | undecided hit s₁ trace _ hlook _ hfound =>
    rw [lookInCache_converters hlook, hlookup] at hfound
    cases hfound

theorem resolveAt_of_decided {depth : Nat} {v : Value ω} {target : CanonicalType} {r : Resolution ω}
    (hd : resolveDirectly h config v target s = (.decided r, s₁)) :
    resolveAt h config depth v target s = (r, s₁) := by
  rw [resolveAt.eq_def, hd]

omit [ForeignObject ω] in
theorem identity?_eq_none {types : TypeRegistry} {target : TypeId} {v : Value ω}
    (hv : ∀ c, v = .canonical c → types.isSameOrAncestor target c.typeId = false) :
    identity? types target v = none := by
  cases v with
  | canonical c => simp [identity?, hv c rfl]
  | scalar => rfl
  | sequence => rfl
  | object => rfl

/-- **No stale converter is run, and exact converters win.** Let a value be resolved to a registered
type in any reachable system, and let foreign code do no more than users can. Then every converter
that is run, for the value or for an element at any depth, from the cache or from a look-up, is at
that moment the active one of its producer and of the type that is being resolved just then, which
is its target. And if the value is no instance of the type and its producer has an active converter
to exactly that type, then this converter's answer is the outcome: its payload under the type, or
its error unchanged. -/
theorem converters_fresh_and_exact_first (hl : h.Lawful) (hs : s.Reachable) (v : Value ω)
    (target : CanonicalType) (ht : s.types.get? target.id = some target) :
    (∀ c, Invokes h s.engine.config 0 v target s c →
      c.entry ∈ c.system.converters.active ∧ c.entry.target = c.target.id ∧
        c.system.converters.find? c.entry.producer c.target.id = some c.entry ∧
        c.system.types.get? c.target.id = some c.target) ∧
    (∀ entry, (∀ c, v = .canonical c → s.types.isSameOrAncestor target.id c.typeId = false) →
      s.converters.find? v.producer target.id = some entry →
        let looked := (lookInCache s.engine.config v.producer target.id s).2
        let r := (resolveTraced h v target.id s).1
        r.trace.strategy = some .registry ∧
          r.result = match (h.run entry.action v looked).1 with
            | .ok payload => .ok ⟨target.id, payload⟩
            | .error e => .error (.converter target.name v.producer .registry e)) := by
  refine ⟨fun c hi => ?_, fun entry hv hfind => ?_⟩
  · obtain ⟨hfind, hregistered⟩ := hi.active hl hs ht
    obtain ⟨hmem, -, htarget⟩ := ConverterRegistry.find?_eq_some hfind
    exact ⟨hmem, htarget, hfind, hregistered⟩
  · obtain ⟨r, s', hd, hstrategy, trace, hr⟩ := resolveDirectly_of_exact h s.engine.config
      hs.cacheCoherent (identity?_eq_none hv) hfind
    have hres : (resolveTraced h v target.id s).1 = r := by
      simp only [resolveTraced, ht, resolveAt_of_decided hd]
    simp only [hres]
    refine ⟨hstrategy, ?_⟩
    rw [hr]
    cases (h.run entry.action v (lookInCache s.engine.config v.producer target.id s).2).1 <;> rfl

/-- The host of two converters, of which the first replaces itself by the second whenever it is
run. -/
def selfReplacing : Host FixtureObject Bool Unit :=
  Host.calling
    (.pure (fun tag _ => .ok (.tensor (Tensor.scalar (.bool tag)))) FixtureObject.canonicalize)
    fun
      | true, _ => [.registerConverter ⟨"conformance.ProtocolTensor"⟩ "Tensor" (.hosted false)
          .default]
      | false, _ => []

theorem selfReplacing_lawful : selfReplacing.Lawful := (Host.pure_lawful _ _).calling _

/-- The first converter is run, so that the cache is given it when it has already been replaced. -/
def staleInsert : List (Operation FixtureObject Bool) := [
  .registerType ⟨"Tensor", none, Builtins.tensorDescriptor⟩,
  .registerConverter ⟨"conformance.ProtocolTensor"⟩ "Tensor" (.hosted true) .default,
  .resolve (.object (.protocolTensor 7)) "Tensor"]

theorem converters_fresh_and_exact_first_staleInsert :
    let s := run selfReplacing (.new {} ()) staleInsert
    let v : Value FixtureObject := .object (.protocolTensor 7)
    let target : CanonicalType := ⟨⟨0⟩, "Tensor", none, Builtins.tensorDescriptor, some ⟨0⟩⟩
    s.engine.cache.entries.map CacheEntry.producer = [v.producer] ∧
    s.types.get? ⟨0⟩ = some target ∧
    (∀ c, Invokes selfReplacing s.engine.config 0 v target s c →
      c.entry ∈ c.system.converters.active) ∧
    (resolveTraced selfReplacing v ⟨0⟩ s).1.trace.strategy = some .registry ∧
    (resolveTraced selfReplacing v ⟨0⟩ s).1.result =
      .ok ⟨⟨0⟩, .tensor (Tensor.scalar (.bool false))⟩ := by
  intro s v target
  have ht : s.types.get? target.id = some target := rfl
  obtain ⟨hactive, hexact⟩ := converters_fresh_and_exact_first selfReplacing_lawful
    (reachable_run selfReplacing_lawful {} () staleInsert) v target ht
  exact ⟨rfl, ht, fun c hc => (hactive c hc).1, hexact _ (fun c hc => nomatch hc) rfl⟩

end CanonicalTypes
