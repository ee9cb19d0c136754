import CanonicalTypes.Proofs.Resolution.Cache
import CanonicalTypes.Proofs.Resolution.Replay
import CanonicalTypes.Proofs.Resolution.Stages
import CanonicalTypes.Proofs.Types.Index

/-!
# Resolving with and without a cache

Two systems are `Alike` if they differ by their caches only and the second does not use its own. If
foreign code is pure, and values of one producer describe themselves alike (`Uniform`), then a
resolution in the first and the same one in the second have the same outcome and leave the systems
alike (`resolveAt_alike`).

The invariant is `Justified`: what the first system's cache holds is what a presented value of the
producer came to in the present registry. A replay for another value of that producer is then what
a look-up for this value comes to.
-/
namespace CanonicalTypes

variable {ω κ η : Type} [ForeignObject ω]

/-- A value inside another: itself, or an element of a sequence in it. -/
inductive Value.Part (v : Value ω) : Value ω → Prop where
  | self : Part v v
  | element {items : List (Value ω)} {w : Value ω} (h : Part v (.sequence items)) (hw : w ∈ items) :
      Part v w

omit [ForeignObject ω] in
theorem Value.Part.of_element {items : List (Value ω)} {v w : Value ω} (hv : v ∈ items)
    (h : v.Part w) : (Value.sequence items).Part w := by
  induction h with
  | self => exact .element .self hv
  | element _ hw ih => exact .element ih hw

omit [ForeignObject ω] in
/-- The parts of a sequence are itself and those of its elements. -/
theorem Value.part_sequence_iff {items : List (Value ω)} {w : Value ω} :
    (Value.sequence items).Part w ↔ w = .sequence items ∨ ∃ v ∈ items, v.Part w := by
  constructor
  · intro h
    induction h with
    | self => exact .inl rfl
    | @element _ w' _ hw ih =>
      rcases ih with heq | ⟨v, hv, hpart⟩
      · cases heq
        exact .inr ⟨w', hw, .self⟩
      · exact .inr ⟨v, hv, hpart.element hw⟩
  · rintro (rfl | ⟨v, hv, hpart⟩)
    · exact .self
    · exact hpart.of_element hv

omit [ForeignObject ω] in
/-- What is no sequence has no other parts. -/
theorem Value.part_iff_of_flat {v w : Value ω} (hflat : ∀ items, v ≠ .sequence items) :
    v.Part w ↔ w = v := by
  constructor
  · intro h
    induction h with
    | self => rfl
    | @element items _ _ _ ih => exact absurd ih.symm (hflat items)
  · rintro rfl
    exact .self

/-- Among the presented values, those of one producer have the same supertypes, and the objects of
one producer conform to the same registered descriptors. -/
structure Uniform (types : TypeRegistry) (Presented : Value ω → Prop) : Prop where
  supertypes : ∀ v w, Presented v → Presented w → v.producer = w.producer →
    v.supertypes = w.supertypes
  conforms : ∀ o o', Presented (.object o) → Presented (.object o') →
    ForeignObject.producer o = ForeignObject.producer o' →
      ∀ t ∈ types.types, conformsObject o t.descriptor = conformsObject o' t.descriptor

/-- Foreign code computes an answer from its arguments, and changes nothing. -/
structure Host.Pure (h : Host ω κ η) : Prop where
  convert_fst : ∀ tag v s s', (h.convert tag v s).1 = (h.convert tag v s').1
  convert_snd : ∀ tag v s, (h.convert tag v s).2 = s
  canonicalize_fst : ∀ o entryPoint s s',
    (h.canonicalize o entryPoint s).1 = (h.canonicalize o entryPoint s').1
  canonicalize_snd : ∀ o entryPoint s, (h.canonicalize o entryPoint s).2 = s

/-- Why an entry is in the cache: a presented value of its producer came to its strategy. -/
def Justified (Presented : Value ω → Prop) (types : TypeRegistry) (r : ConverterRegistry κ)
    (e : CacheEntry κ) : Prop :=
  match e.strategy with
  | .registry entry => ∃ v : Value ω, Presented v ∧ v.producer = e.producer ∧
      r.lookup v.producer v.supertypes e.target = some entry
  | .protocol => ∃ (o : ω) (target : CanonicalType), Presented (.object o) ∧
      ForeignObject.producer o = e.producer ∧
      r.lookup (ForeignObject.producer o) (ForeignObject.supertypes o) e.target = none ∧
      types.get? e.target = some target ∧ conformsObject o target.descriptor = true

/-- The systems differ by their caches only. The first one's is justified, the second does not use
its own. -/
structure Alike (Presented : Value ω → Prop) (s s' : TypeSystem κ η) : Prop where
  same : s.forgetCache = s'.forgetCache
  uncached : s'.engine.config.cacheEnabled = false
  justified : s.engine.cache.Valid s.converters (Justified Presented s.types)

variable {h : Host ω κ η} {config : EngineConfig} {Presented : Value ω → Prop} {v : Value ω}
  {target : CanonicalType} {s s' s₁ : TypeSystem κ η}

/-! ## Pure hosts -/

omit [ForeignObject ω] in
theorem Host.pure_pure (convert : κ → Value ω → Except ConverterError (Payload ω))
    (canonicalize : ω → String → Except ConverterError (Payload ω)) :
    (Host.pure convert canonicalize : Host ω κ η).Pure :=
  ⟨fun _ _ _ _ => rfl, fun _ _ _ => rfl, fun _ _ _ _ => rfl, fun _ _ _ => rfl⟩

theorem Host.Pure.run_fst (hp : h.Pure) (action : ConverterAction κ) (v : Value ω)
    (s s' : TypeSystem κ η) : (h.run action v s).1 = (h.run action v s').1 := by
  cases action with
  | scalar => rfl
  | hosted tag => exact hp.convert_fst tag v s s'

theorem Host.Pure.run_snd (hp : h.Pure) (action : ConverterAction κ) (v : Value ω)
    (s : TypeSystem κ η) : (h.run action v s).2 = s := by
  cases action with
  | scalar => rfl
  | hosted tag => exact hp.convert_snd tag v s

/-! ## Without a cache -/

/-- Without a cache, what no identity decides is looked up. -/
theorem resolveDirectly_uncached (hc : config.cacheEnabled = false)
    (hid : identity? s.types target.id v = none) :
    resolveDirectly h config v target s =
      resolveByLookup h config v target (Trace.start v target) s := by
  simp [resolveDirectly, hid, lookInCache, hc, replay]

omit [ForeignObject ω] in
theorem remember_uncached (hc : config.cacheEnabled = false) (r : Resolution ω) (target : TypeId)
    (strategy : CachedStrategy κ) (generation : Nat) :
    remember config r target strategy generation s = s := by
  simp [remember, hc]

theorem resolveByLookup_of_converter (hc : config.cacheEnabled = false) {trace : Trace}
    {entry : ConverterEntry κ}
    (hfound : s.converters.lookup v.producer v.supertypes target.id = some entry) :
    resolveByLookup h config v target trace s =
      (.decided (applyConverter h entry v target (trace.attempt .registry) s).1,
        (h.run entry.action v s).2) := by
  simp only [resolveByLookup, ConverterRegistry.lookupWithGeneration, hfound, remember_uncached hc,
    applyConverter]

theorem resolveByLookup_of_protocol (hc : config.cacheEnabled = false) {trace : Trace} {o : ω}
    {entryPoint : String}
    (hfound : s.converters.lookup v.producer v.supertypes target.id = none)
    (hobject : v.object? = some o) (hentry : target.descriptor.entryPoint = some entryPoint)
    (hconforms : conformsObject o target.descriptor = true) :
    resolveByLookup h config v target trace s =
      (.decided (applyProtocol h o entryPoint target
        ((trace.attempt .registry).attempt .protocol) s).1, (h.canonicalize o entryPoint s).2) := by
  simp only [resolveByLookup, ConverterRegistry.lookupWithGeneration, hfound, resolveByProtocol,
    hentry, hobject, if_pos hconforms, remember_uncached hc, applyProtocol]

theorem resolveByLookup_of_neither {trace : Trace}
    (hfound : s.converters.lookup v.producer v.supertypes target.id = none)
    (hconforms : target.descriptor.entryPoint.isSome → conforms v target.descriptor = false) :
    resolveByLookup h config v target trace s =
      (.undecided (if target.descriptor.entryPoint.isSome
        then (trace.attempt .registry).attempt .protocol else trace.attempt .registry), s) := by
  simp only [resolveByLookup, ConverterRegistry.lookupWithGeneration, hfound, resolveByProtocol]
  cases hentry : target.descriptor.entryPoint with
  | none => simp
  | some entryPoint =>
    have hno := hconforms (by simp [hentry])
    cases hobject : v.object? with
    | none => simp
    | some o =>
      simp only [conforms, hobject] at hno
      simp [hno]

/-! ## What an entry stands for -/

/-- The converter that the cache knows for a presented value is the one that a look-up finds. -/
theorem Justified.lookup_of_registry {types : TypeRegistry} {r : ConverterRegistry κ}
    {entry : ConverterEntry κ} (uniform : Uniform types Presented) (hv : Presented v)
    (hj : Justified Presented types r ⟨v.producer, target.id, .registry entry⟩) :
    r.lookup v.producer v.supertypes target.id = some entry := by
  obtain ⟨w, hw, hp, hfound⟩ := hj
  simp only at hp hfound
  rwa [uniform.supertypes w v hw hv hp, hp] at hfound

/-- If the cache knows that the protocol applies, a look-up for a presented object of the producer
finds nothing, and the object conforms. -/
theorem Justified.conforms_of_protocol {types : TypeRegistry} {r : ConverterRegistry κ} {o : ω}
    (uniform : Uniform types Presented) (ho : Presented (.object o))
    (ht : types.get? target.id = some target)
    (hj : Justified Presented types r
      (⟨ForeignObject.producer o, target.id, .protocol⟩ : CacheEntry κ)) :
    r.lookup (ForeignObject.producer o) (ForeignObject.supertypes o) target.id = none ∧
      conformsObject o target.descriptor = true := by
  obtain ⟨o', target', ho', hp, hfound, ht', hconforms⟩ := hj
  simp only at hp hfound ht'
  obtain rfl : target = target' := Option.some.inj (ht.symm.trans ht')
  have hsuper : ForeignObject.supertypes o' = ForeignObject.supertypes o :=
    uniform.supertypes (.object o') (.object o) ho' ho hp
  refine ⟨by rwa [hp, hsuper] at hfound, ?_⟩
  rw [← uniform.conforms o' o ho' ho hp target (List.mem_of_getElem? ht)]
  exact hconforms

/-! ## Side by side -/

omit [ForeignObject ω] in
/-- Foreign code that gives the same answer decides alike, replayed or not. -/
theorem settle_forgetReplay {trace trace' : Trace} (ht : trace.forgetReplay = trace'.forgetReplay)
    (target : CanonicalType) (producer : ProducerType) (strategy : Strategy)
    (answer : Except ConverterError (Payload ω)) :
    (settle target producer strategy trace answer).forgetReplay =
      (settle target producer strategy trace' answer).forgetReplay := by
  have hd : (trace.decide strategy).forgetReplay = (trace'.decide strategy).forgetReplay := by
    show trace.forgetReplay.decide strategy = trace'.forgetReplay.decide strategy
    rw [ht]
  cases answer <;> simp [settle, Resolution.forgetReplay_eq_iff, hd]

theorem Alike.lookInCache (ha : Alike Presented s s') {producer : ProducerType} {target : TypeId}
    {hit : Option (CachedStrategy κ)}
    (hlook : lookInCache config producer target s = (hit, s₁)) : Alike Presented s₁ s' := by
  unfold CanonicalTypes.lookInCache at hlook
  split at hlook
  · obtain ⟨-, rfl⟩ := Prod.mk.inj hlook
    exact ⟨ha.same, ha.uncached, ha.justified.get producer target⟩
  · obtain ⟨-, rfl⟩ := Prod.mk.inj hlook
    exact ha

theorem Alike.remember (ha : Alike Presented s s') {r : Resolution ω} {target : TypeId}
    {strategy : CachedStrategy κ}
    (hj : Justified Presented s.types s.converters ⟨r.trace.producer, target, strategy⟩) :
    Alike Presented (remember config r target strategy s.converters.generation s) s' := by
  unfold CanonicalTypes.remember
  split
  · exact ⟨ha.same, ha.uncached, ha.justified.insert (.refl _) hj⟩
  · exact ha

omit [ForeignObject ω] in
theorem remember_types (config : EngineConfig) (r : Resolution ω) (target : TypeId)
    (strategy : CachedStrategy κ) (generation : Nat) (s : TypeSystem κ η) :
    (remember config r target strategy generation s).types = s.types := by
  unfold remember
  split <;> rfl

/-- What two systems keep of being alike during a resolution, in which no types are added. -/
def AlikeWith (Presented : Value ω → Prop) (types : TypeRegistry) (s s' : TypeSystem κ η) : Prop :=
  Alike Presented s s' ∧ s.types = types

/-- A presented value goes through the direct stages alike. -/
theorem resolveDirectly_alike (hp : h.Pure) {types : TypeRegistry}
    (uniform : Uniform types Presented) (config : EngineConfig) {config' : EngineConfig}
    (hc : config'.cacheEnabled = false) (hv : Presented v)
    (ht : types.get? target.id = some target) (ha : AlikeWith Presented types s s') :
    Progress.Related (fun r r' => r.forgetReplay = r'.forgetReplay) (AlikeWith Presented types)
      (resolveDirectly h config v target s) (resolveDirectly h config' v target s') := by
  obtain ⟨ha, rfl⟩ := ha
  have htypes := TypeSystem.types_of_forgetCache ha.same
  have hconverters := TypeSystem.converters_of_forgetCache ha.same
  have hd := resolveDirectly_directly h config v target s
  generalize resolveDirectly h config v target s = p at hd ⊢
  cases hd with
  | identity c hid =>
    have hoff : resolveDirectly h config' v target s' =
        (.decided ⟨.ok c, (Trace.start v target).decide .identity⟩, s') := by
      simp only [resolveDirectly, ← htypes, hid]
    rw [hoff]
    exact .decided rfl ⟨ha, rfl⟩
  | replayedConverter s₁ entry hid hlook =>
    -- Another value of the producer may have put the entry there; this one would look it up too.
    have hs₁ := ha.lookInCache hlook
    have hfound := Justified.lookup_of_registry uniform hv
      (ha.justified.hit (lookInCache_hit hlook))
    obtain ⟨cache, rfl⟩ := lookInCache_eq hlook
    rw [hconverters] at hfound
    rw [resolveDirectly_uncached hc (htypes ▸ hid), resolveByLookup_of_converter hc hfound,
      hp.run_snd, hp.run_snd]
    refine .decided ?_ ⟨hs₁, rfl⟩
    rw [applyConverter_fst, applyConverter_fst, hp.run_fst entry.action v _ s']
    apply settle_forgetReplay
    rfl
  | replayedProtocol s₁ o entryPoint hid hlook hobject hentry =>
    obtain rfl := Value.eq_object hobject
    have hs₁ := ha.lookInCache hlook
    obtain ⟨hfound, hconforms⟩ := Justified.conforms_of_protocol uniform hv ht
      (ha.justified.hit (lookInCache_hit hlook))
    obtain ⟨cache, rfl⟩ := lookInCache_eq hlook
    rw [hconverters] at hfound
    rw [resolveDirectly_uncached hc (htypes ▸ hid),
      resolveByLookup_of_protocol hc hfound hobject hentry hconforms, hp.canonicalize_snd,
      hp.canonicalize_snd]
    refine .decided ?_ ⟨hs₁, rfl⟩
    rw [applyProtocol_fst, applyProtocol_fst, hp.canonicalize_fst o entryPoint _ s']
    apply settle_forgetReplay
    rfl
  | converter hit s₁ entry r hid hlook hreplay hfound hr =>
    have hs₁ := ha.lookInCache hlook
    obtain ⟨cache, rfl⟩ := lookInCache_eq hlook
    have hfound' : s'.converters.lookup v.producer v.supertypes target.id = some entry :=
      hconverters ▸ hfound
    rw [resolveDirectly_uncached hc (htypes ▸ hid), resolveByLookup_of_converter hc hfound',
      hp.run_snd, hp.run_snd]
    -- What is remembered is justified by the value at hand.
    have hproducer : r.trace.producer = v.producer := by
      rw [hr, applyConverter_fst, settle_trace]
      rfl
    refine .decided ?_ ⟨hs₁.remember ⟨v, hv, hproducer.symm, hfound⟩, remember_types ..⟩
    rw [hr, applyConverter_fst, applyConverter_fst, hp.run_fst entry.action v _ s']
  | protocol hit s₁ o entryPoint r hid hlook hreplay hfound hobject hentry hconforms hr =>
    obtain rfl := Value.eq_object hobject
    have hs₁ := ha.lookInCache hlook
    obtain ⟨cache, rfl⟩ := lookInCache_eq hlook
    have hfound' : s'.converters.lookup (Value.object o).producer (Value.object o).supertypes
        target.id = none := hconverters ▸ hfound
    rw [resolveDirectly_uncached hc (htypes ▸ hid),
      resolveByLookup_of_protocol hc hfound' hobject hentry hconforms, hp.canonicalize_snd,
      hp.canonicalize_snd]
    have hproducer : r.trace.producer = ForeignObject.producer o := by
      rw [hr, applyProtocol_fst, settle_trace]
      rfl
    refine .decided ?_ ⟨hs₁.remember ⟨o, target, hv, hproducer.symm, hfound, ht, hconforms⟩,
      remember_types ..⟩
    rw [hr, applyProtocol_fst, applyProtocol_fst, hp.canonicalize_fst o entryPoint _ s']
  | undecided hit s₁ trace hid hlook hreplay hfound hconforms htrace =>
    have hs₁ := ha.lookInCache hlook
    obtain ⟨cache, rfl⟩ := lookInCache_eq hlook
    have hfound' : s'.converters.lookup v.producer v.supertypes target.id = none :=
      hconverters ▸ hfound
    rw [resolveDirectly_uncached hc (htypes ▸ hid), resolveByLookup_of_neither hfound' hconforms,
      ← htrace]
    exact .undecided ⟨hs₁, rfl⟩

/-- Elements of presented values are presented, and registered types have registered elements, so
whole resolutions go side by side as their direct stages do. -/
theorem alike_simulation (hp : h.Pure) {types : TypeRegistry} (synced : types.Synced)
    (uniform : Uniform types Presented)
    (items : ∀ {items : List (Value ω)}, Presented (.sequence items) → ∀ v ∈ items, Presented v)
    {config config' : EngineConfig} (hc : config'.cacheEnabled = false)
    (depth : config.maxSequenceDepth = config'.maxSequenceDepth) :
    Simulation h h config config' Presented (fun t => types.get? t.id = some t)
      (AlikeWith (κ := κ) (η := η) Presented types)
      (fun r r' => r.forgetReplay = r'.forgetReplay) where
  depth := depth
  items := items
  element := by
    rintro s s' target element ⟨ha, rfl⟩ _ _
    refine ⟨by rw [TypeSystem.types_of_forgetCache ha.same], fun t ht => ?_⟩
    rw [synced.id_of_get? ht]
    exact ht
  refl _ := rfl
  result hr := (Resolution.forgetReplay_eq_iff.1 hr).1
  direct hv ht ha := resolveDirectly_alike hp uniform config hc hv ht ha

/-- **A resolution goes the same way with and without a cache.** The outcome is the same, and so is
what the trace tells of the producer, the target and the strategy. -/
theorem resolveAt_alike (hp : h.Pure) (synced : s.types.Synced)
    (uniform : Uniform s.types Presented)
    (items : ∀ {items : List (Value ω)}, Presented (.sequence items) → ∀ v ∈ items, Presented v)
    (hv : Presented v) (ht : s.types.get? target.id = some target)
    (ha : Alike Presented s s') :
    let r := resolveAt h s.engine.config 0 v target s
    let r' := resolveAt h s'.engine.config 0 v target s'
    r.1.forgetReplay = r'.1.forgetReplay ∧ Alike Presented r.2 r'.2 := by
  have hdepth : s.engine.config.maxSequenceDepth = s'.engine.config.maxSequenceDepth := by
    show s.forgetCache.engine.config.maxSequenceDepth =
      s'.forgetCache.engine.config.maxSequenceDepth
    rw [ha.same]
  obtain ⟨hr, hs, -⟩ := (alike_simulation hp synced uniform items ha.uncached hdepth).resolveAt v 0
    target s s' hv ht ⟨ha, rfl⟩
  exact ⟨hr, hs⟩

end CanonicalTypes
