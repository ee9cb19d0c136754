import CanonicalTypes.Proofs.Resolution.Transparency
import CanonicalTypes.Proofs.System.Run
import CanonicalTypes.Suite.Fixture

/-!
# The cache is transparent

`transcript` lists what a user sees of a run: the reply of each operation and the ledger after it.
Two runs of the same operations, one with a cache and one without, have the same transcript, up to
what a replay changes in traces and records.

Operations that do not resolve neither look at the cache nor touch the engine (`Cacheless`), so they
keep systems alike; those that resolve do so by `resolveAt_alike`.
-/
namespace CanonicalTypes

open TypeSystem (Evolves)

variable {ω κ η : Type} [ForeignObject ω] {h : Host ω κ η} {Presented : Value ω → Prop}
  {s s' : TypeSystem κ η}

/-! ## Operations that do not resolve -/

/-- Without the cache the operation does the same, and it does not touch the engine. -/
structure Cacheless {α : Type} (f : TypeSystem κ η → α × TypeSystem κ η) : Prop where
  forgetCache : ∀ s, f s.forgetCache = ((f s).1, (f s).2.forgetCache)
  engine : ∀ s, (f s).2.engine = s.engine

/-- What is justified stays so when types are added. -/
theorem Justified.of_prefix {types types' : TypeRegistry} {r : ConverterRegistry κ}
    {e : CacheEntry κ} (hp : types.types <+: types'.types)
    (hj : Justified Presented types r e) : Justified Presented types' r e := by
  unfold Justified at hj ⊢
  split at hj
  · exact hj
  · obtain ⟨o, target, ho, hproducer, hfound, ht, hconforms⟩ := hj
    exact ⟨o, target, ho, hproducer, hfound, TypeRegistry.get?_of_prefix hp ht, hconforms⟩

theorem Alike.cacheless {α : Type} {f : TypeSystem κ η → α × TypeSystem κ η} (hf : Cacheless f)
    (hevolves : Evolves s (f s).2) (hw : s.types.WellFormed) (ha : Alike Presented s s') :
    (f s).1 = (f s').1 ∧ Alike Presented (f s).2 (f s').2 := by
  have hf' := hf.forgetCache s
  rw [ha.same, hf.forgetCache s'] at hf'
  obtain ⟨hreply, hsystem⟩ := Prod.mk.inj hf'
  refine ⟨hreply.symm, hsystem.symm, ?_, ?_⟩
  · rw [hf.engine s']
    exact ha.uncached
  · rw [hf.engine s]
    exact (ha.justified.of_precedes hevolves.converters).imp fun e =>
      Justified.of_prefix (hevolves.types hw).2

namespace TypeSystem

theorem registerType_cacheless (d : TypeDeclaration) :
    Cacheless fun s : TypeSystem κ η => s.registerType d where
  forgetCache s := by
    simp only [registerType, forgetCache]
    split <;> rfl
  engine s := by
    simp only [registerType]
    split <;> rfl

theorem registerTypes_cacheless (ds : List TypeDeclaration) :
    Cacheless fun s : TypeSystem κ η => s.registerTypes ds where
  forgetCache _ := rfl
  engine _ := rfl

theorem addConverter_cacheless (producer : ProducerType) (target : CanonicalType)
    (action : ConverterAction κ) (priority : ConverterPriority) :
    Cacheless fun s : TypeSystem κ η => s.addConverter producer target action priority where
  forgetCache s := by
    simp only [addConverter, forgetCache_record]
    rfl
  engine _ := rfl

theorem registerConverter_cacheless (producer : ProducerType) (target : String)
    (action : ConverterAction κ) (priority : ConverterPriority) :
    Cacheless fun s : TypeSystem κ η => s.registerConverter producer target action priority where
  forgetCache s := by
    have hl : s.forgetCache.lookup target = s.lookup target := rfl
    simp only [registerConverter, hl]
    split
    · rfl
    next t _ => rw [(addConverter_cacheless producer t action priority).forgetCache s]
  engine s := by
    simp only [registerConverter]
    split <;> rfl

theorem removeConverter_cacheless (producer : ProducerType) (target : TypeId) :
    Cacheless fun s : TypeSystem κ η => s.removeConverter producer target where
  forgetCache s := by
    have hc : s.forgetCache.converters = s.converters := rfl
    simp only [removeConverter, hc]
    split
    · rfl
    · simp only [forgetCache_record]
      rfl
  engine s := by
    simp only [removeConverter]
    split <;> rfl

theorem deregisterConverter_cacheless (producer : ProducerType) (target : String) :
    Cacheless fun s : TypeSystem κ η => s.deregisterConverter producer target where
  forgetCache s := by
    have hl : s.forgetCache.lookup target = s.lookup target := rfl
    simp only [deregisterConverter, hl]
    split
    · rfl
    next t _ => rw [(removeConverter_cacheless producer t.id).forgetCache s]
  engine s := by
    simp only [deregisterConverter]
    split
    · rfl
    next t _ => exact (removeConverter_cacheless producer t.id).engine s

theorem addScalarConverters_cacheless (target : CanonicalType) :
    Cacheless fun s : TypeSystem κ η => ((), s.addScalarConverters target) := by
  unfold addScalarConverters
  generalize Builtins.scalarProducers = producers
  induction producers with
  | nil => exact ⟨fun _ => rfl, fun _ => rfl⟩
  | cons p rest ih =>
    have hadd := addConverter_cacheless (η := η) p target (.scalar : ConverterAction κ) .default
    refine ⟨fun s => ?_, fun s => ?_⟩
    · simp only [List.foldl_cons, hadd.forgetCache s]
      exact ih.forgetCache _
    · simp only [List.foldl_cons]
      exact (ih.engine _).trans (hadd.engine s)

theorem installBuiltins_cacheless :
    Cacheless fun s : TypeSystem κ η => s.installBuiltins where
  forgetCache s := by
    have hb : s.forgetCache.builtins = s.builtins := rfl
    have ht : s.forgetCache.types = s.types := rfl
    simp only [installBuiltins, hb, ht]
    split
    · rfl
    split
    · rfl
    next tensor symbol eager variableId types _ =>
      split
      · rfl
      next target _ =>
        have hadd := (Prod.mk.inj ((addScalarConverters_cacheless target).forgetCache
          { s with types })).2
        have hset := congrArg (fun s₁ : TypeSystem κ η =>
          { s₁ with builtins := some ⟨tensor, symbol, eager, variableId⟩ }) hadd
        exact Prod.ext rfl hset
    · rfl
  engine s := by
    simp only [installBuiltins]
    split
    · rfl
    split
    · rfl
    next types _ =>
      split
      · rfl
      next target _ => exact (addScalarConverters_cacheless target).engine { s with types }
    · rfl

end TypeSystem

/-! ## Resolutions -/

omit [ForeignObject ω] in
theorem Host.Pure.lawful (hp : h.Pure) : h.Lawful where
  convert tag v s := by
    rw [hp.convert_snd]
    exact .refl s
  canonicalize o entryPoint s := by
    rw [hp.canonicalize_snd]
    exact .refl s

/-- Alike outcomes are recorded alike, or both not at all. -/
theorem Alike.observe {s₁ s₁' : TypeSystem κ η} (ha₁ : Alike Presented s₁ s₁')
    (ha : Alike Presented s s') {r r' : Resolution ω} (hr : r.forgetReplay = r'.forgetReplay)
    (target : String) :
    Alike Presented (observe s.engine target r s₁) (observe s'.engine target r' s₁') := by
  have hrecord : (s.engine.config.recordLedger && s.engine.audited) =
      (s'.engine.config.recordLedger && s'.engine.audited) := by
    show (s.forgetCache.engine.config.recordLedger && s.forgetCache.engine.audited) =
      (s'.forgetCache.engine.config.recordLedger && s'.forgetCache.engine.audited)
    rw [ha.same]
  simp only [CanonicalTypes.observe, Resolution.isIdentity_forgetReplay hr, hrecord]
  split
  · exact ha₁
  · split
    · refine ⟨?_, ha₁.uncached, ha₁.justified⟩
      rw [TypeSystem.forgetCache_record, TypeSystem.forgetCache_record, ha₁.same,
        Resolution.toRecord_forgetReplay hr]
    · exact ha₁

section

variable (items : ∀ {items : List (Value ω)}, Presented (.sequence items) →
  ∀ v ∈ items, Presented v)

include items

theorem resolveTraced_alike (hp : h.Pure) (hw : s.types.WellFormed)
    (uniform : Uniform s.types Presented) {v : Value ω} (hv : Presented v) (target : TypeId)
    (ha : Alike Presented s s') :
    (resolveTraced h v target s).1.forgetReplay = (resolveTraced h v target s').1.forgetReplay ∧
      Alike Presented (resolveTraced h v target s).2 (resolveTraced h v target s').2 := by
  simp only [resolveTraced, ← TypeSystem.types_of_forgetCache ha.same]
  cases ht : s.types.get? target with
  | none =>
    refine ⟨rfl, ?_⟩
    simp only
    exact ha.observe ha rfl target.text
  | some t =>
    rw [← hw.id_of_get? ht] at ht
    obtain ⟨hr, ha₁⟩ := resolveAt_alike hp hw.toSynced uniform items hv ht ha
    exact ⟨hr, ha₁.observe ha hr t.name⟩

theorem resolve_alike (hp : h.Pure) (hw : s.types.WellFormed)
    (uniform : Uniform s.types Presented) {v : Value ω} (hv : Presented v) (target : String)
    (ha : Alike Presented s s') :
    (TypeSystem.resolve h v target s).1 = (TypeSystem.resolve h v target s').1 ∧
      Alike Presented (TypeSystem.resolve h v target s).2 (TypeSystem.resolve h v target s').2 := by
  simp only [TypeSystem.resolve, ← TypeSystem.types_of_forgetCache ha.same]
  cases s.types.find? target with
  | none => exact ⟨rfl, ha⟩
  | some t =>
    obtain ⟨hr, ha₁⟩ := resolveTraced_alike items hp hw uniform hv t.id ha
    have hresult := (Resolution.forgetReplay_eq_iff.1 hr).1
    simp only
    generalize resolveTraced h v t.id s = p at hresult ha₁ ⊢
    generalize resolveTraced h v t.id s' = p' at hresult ha₁ ⊢
    obtain ⟨⟨result, trace⟩, s₁⟩ := p
    obtain ⟨⟨result', trace'⟩, s₁'⟩ := p'
    obtain rfl : result = result' := hresult
    cases result <;> exact ⟨rfl, ha₁⟩

def Reply.forgetReplay : Reply ω → Reply ω
  | resolution r => .resolution r.forgetReplay
  | reply => reply

/-- **Every operation has the same reply and keeps the systems alike.** -/
theorem apply_alike (hp : h.Pure) (hw : s.types.WellFormed) (uniform : Uniform s.types Presented)
    (op : Operation ω κ) (hop : ∀ v, op.value? = some v → Presented v)
    (ha : Alike Presented s s') :
    (op.apply h s).1.forgetReplay = (op.apply h s').1.forgetReplay ∧
      Alike Presented (op.apply h s).2 (op.apply h s').2 := by
  have hevolves := apply_evolves hp.lawful s op
  cases op with
  | registerType d =>
    obtain ⟨hr, hs⟩ := ha.cacheless (TypeSystem.registerType_cacheless d) hevolves hw
    exact ⟨congrArg Reply.typeId hr, hs⟩
  | registerTypes ds =>
    obtain ⟨hr, hs⟩ := ha.cacheless (TypeSystem.registerTypes_cacheless ds) hevolves hw
    exact ⟨congrArg Reply.typeIds hr, hs⟩
  | registerConverter producer target action priority =>
    obtain ⟨hr, hs⟩ := ha.cacheless
      (TypeSystem.registerConverter_cacheless producer target action priority) hevolves hw
    exact ⟨congrArg Reply.registration hr, hs⟩
  | deregisterConverter producer target =>
    obtain ⟨hr, hs⟩ := ha.cacheless (TypeSystem.deregisterConverter_cacheless producer target)
      hevolves hw
    exact ⟨congrArg Reply.removal hr, hs⟩
  | installBuiltins =>
    obtain ⟨hr, hs⟩ := ha.cacheless TypeSystem.installBuiltins_cacheless hevolves hw
    exact ⟨congrArg Reply.builtins hr, hs⟩
  | invalidateCache => exact ⟨rfl, ha.same, ha.uncached, ha.justified.invalidate⟩
  | resolve v target =>
    obtain ⟨hr, hs⟩ := resolve_alike items hp hw uniform (hop v rfl) target ha
    exact ⟨congrArg Reply.value hr, hs⟩
  | resolveTraced v target =>
    obtain ⟨hr, hs⟩ := resolveTraced_alike items hp hw uniform (hop v rfl) target ha
    exact ⟨congrArg Reply.resolution hr, hs⟩

end

/-! ## Runs -/

/-- What a user sees of a run: the reply of each operation, and the ledger after it. -/
def transcript (h : Host ω κ η) (s : TypeSystem κ η) :
    List (Operation ω κ) → List (Reply ω × EventLedger)
  | [] => []
  | op :: rest =>
    let (reply, s) := op.apply h s
    (reply, s.ledger) :: transcript h s rest

def forgetReplays (transcript : List (Reply ω × EventLedger)) : List (Reply ω × EventLedger) :=
  transcript.map (Prod.map Reply.forgetReplay EventLedger.forgetReplays)

/-- The values that a run resolves, and all elements of sequences in them. -/
def PresentedIn (ops : List (Operation ω κ)) (v : Value ω) : Prop :=
  ∃ op ∈ ops, ∃ w, op.value? = some w ∧ w.Part v

omit [ForeignObject ω] in
theorem PresentedIn.of_mem {ops : List (Operation ω κ)} {op : Operation ω κ} (hop : op ∈ ops)
    {v : Value ω} (hv : op.value? = some v) : PresentedIn ops v :=
  ⟨op, hop, v, hv, .self⟩

omit [ForeignObject ω] in
theorem PresentedIn.element {ops : List (Operation ω κ)} {items : List (Value ω)}
    (h : PresentedIn ops (.sequence items)) : ∀ v ∈ items, PresentedIn ops v := by
  obtain ⟨op, hop, w, hw, hpart⟩ := h
  exact fun v hv => ⟨op, hop, w, hw, hpart.element hv⟩

theorem Uniform.of_prefix {types types' : TypeRegistry} (hp : types.types <+: types'.types)
    (uniform : Uniform types' Presented) : Uniform types Presented where
  supertypes := uniform.supertypes
  conforms o o' ho ho' hproducer t ht := uniform.conforms o o' ho ho' hproducer t (hp.subset ht)

theorem transcript_alike (hp : h.Pure)
    (items : ∀ {items : List (Value ω)}, Presented (.sequence items) → ∀ v ∈ items, Presented v)
    {ops : List (Operation ω κ)} (hops : ∀ op ∈ ops, ∀ v, op.value? = some v → Presented v)
    (hw : s.types.WellFormed) (uniform : Uniform (run h s ops).types Presented)
    (ha : Alike Presented s s') :
    forgetReplays (transcript h s ops) = forgetReplays (transcript h s' ops) := by
  induction ops generalizing s s' with
  | nil => rfl
  | cons op rest ih =>
    -- Types are only added, so what is uniform at the end of the run is uniform now.
    have hgrows := ((run_evolves hp.lawful s (op :: rest)).types hw).2
    obtain ⟨hr, hs⟩ := apply_alike items hp hw (uniform.of_prefix hgrows) op
      (hops op List.mem_cons_self) ha
    have hledger : (op.apply h s).2.ledger.forgetReplays = (op.apply h s').2.ledger.forgetReplays :=
      congrArg TypeSystem.ledger hs.same
    have hrest := ih (fun op hop => hops op (List.mem_cons_of_mem _ hop))
      ((apply_evolves hp.lawful s op).types hw).1 uniform hs
    simp only [forgetReplays, transcript, List.map_cons, Prod.map] at hrest ⊢
    rw [hr, hledger, hrest]

/-- **The cache is transparent.** Let any operations be run on two new systems whose settings
differ in whether strategies are remembered. If foreign code is pure, and the presented values of
one producer have the same supertypes and conform to the same registered descriptors, then at each
step both systems give the same reply and have the same ledger, except for what traces and records
say of replays and of what was tried before. -/
theorem cache_transparent (convert : κ → Value ω → Except ConverterError (Payload ω))
    (canonicalize : ω → String → Except ConverterError (Payload ω)) (config : EngineConfig)
    (host : η) (ops : List (Operation ω κ))
    (uniform : Uniform (run (.pure convert canonicalize)
      (.new { config with cacheEnabled := true } host) ops).types (PresentedIn ops)) :
    forgetReplays (transcript (.pure convert canonicalize)
        (.new { config with cacheEnabled := true } host) ops) =
      forgetReplays (transcript (.pure convert canonicalize)
        (.new { config with cacheEnabled := false } host) ops) := by
  refine transcript_alike (Host.pure_pure convert canonicalize) ?_ ?_
    TypeRegistry.wellFormed_empty uniform ⟨rfl, rfl, ResolutionCache.valid_empty _⟩
  · rintro items ⟨op, hop, w, hw, hpart⟩ v hv
    exact ⟨op, hop, w, hw, hpart.element hv⟩
  · exact fun op hop v hv => ⟨op, hop, v, hv, .self⟩

/-- Fixtures of one producer describe themselves alike. -/
theorem fixtures_uniform (types : TypeRegistry) (Presented : Value FixtureObject → Prop) :
    Uniform types Presented where
  supertypes v w _ _ hproducer := by
    have hsuper : ∀ v : Value FixtureObject, v.supertypes =
        if v.producer = ⟨"conformance.Derived"⟩ then [⟨"conformance.Base"⟩] else [] := by
      intro v
      cases v with
      | object o => cases o <;> rfl
      | scalar literal => cases literal <;> rfl
      | sequence => rfl
      | canonical => rfl
    rw [hsuper, hsuper, hproducer]
  conforms o o' _ _ hproducer t _ := by
    have hmembers : o.members = o'.members := by
      have hp : o.producer = o'.producer := hproducer
      cases o <;> cases o' <;> simp [FixtureObject.producer, FixtureObject.members] at hp ⊢
    unfold conformsObject
    congr 1
    funext name
    show o.members.contains name = o'.members.contains name
    rw [hmembers]

/-- Strategies are remembered by elements of a sequence and replayed for another object, before and
after the producer gets a converter. -/
def session : List (Operation FixtureObject Literal) := [
  .installBuiltins,
  .resolve (.sequence [.object (.protocolTensor 1), .object (.protocolTensor 2)]) "Tensor",
  .registerConverter ⟨"conformance.ProtocolTensor"⟩ "Tensor" (.hosted (.int 3)) .default,
  .resolveTraced (.object (.protocolTensor 1)) ⟨0⟩,
  .resolveTraced (.object (.protocolTensor 2)) ⟨0⟩]

theorem cache_transparent_session :
    let h : Host FixtureObject Literal Unit :=
      .pure (fun literal _ => .ok (.tensor (Tensor.scalar literal))) FixtureObject.canonicalize
    let cached : TypeSystem Literal Unit := .new { cacheEnabled := true } ()
    let uncached : TypeSystem Literal Unit := .new { cacheEnabled := false } ()
    forgetReplays (transcript h cached session) = forgetReplays (transcript h uncached session) ∧
    (run h cached session).ledger.resolutions.map ResolutionRecord.cacheHit =
      [false, false, true] ∧
    (run h uncached session).ledger.resolutions.map ResolutionRecord.cacheHit =
      [false, false, false] :=
  ⟨cache_transparent _ _ {} () session (fixtures_uniform _ _), rfl, rfl⟩

end CanonicalTypes
