import CanonicalTypes.Proofs.System.Failures
import CanonicalTypes.Proofs.System.Independence

/-!
# Elements first

The elements of a sequence can be resolved first, each on its own, and the sequence of what they
become then aggregates to the same value. On its own an element stands at a lesser depth, which only
permits more (`resolveAt_of_deeper`); it finds another cache, which makes no difference among
interchangeable systems; and what it becomes is an instance of the element type, which resolves to
itself. Of a sequence, its direct stage sees nothing but that it is one
(`resolveDirectly_other_sequence`).

The main result is `aggregation_commutes`.
-/
namespace CanonicalTypes

open TypeSystem (Evolves)

variable {ω κ η : Type} [ForeignObject ω] {h : Host ω κ η} {config : EngineConfig} {depth : Nat}
  {v : Value ω} {target elementType : CanonicalType} {s s' s₁ : TypeSystem κ η}

/-! ## Lesser depths -/

/-- Values that become tensors at some depth become the same at the depth above. -/
theorem BecomeTensors.of_deeper {items : List (Value ω)} {slices : List Tensor}
    (ht : BecomeTensors h config (depth + 1) target items s slices s')
    (hsame : ∀ v ∈ items, ∀ (s : TypeSystem κ η) (c : CanonicalValue ω),
      (resolveAt h config (depth + 1) v target s).1.result = .ok c →
        resolveAt h config depth v target s = resolveAt h config (depth + 1) v target s) :
    BecomeTensors h config depth target items s slices s' := by
  induction ht with
  | nil => exact .nil
  | @cons v rest s s₁ s₂ id t trace slices hv _ ih =>
    obtain ⟨hfirst, hothers⟩ := List.forall_mem_cons.1 hsame
    have hlesser := hfirst s ⟨id, .tensor t⟩ (by rw [hv])
    exact .cons (hlesser.trans hv) (ih hothers)

/-- **What succeeds at some depth does the same at the depth above.** -/
theorem resolveAt_of_deeper {c : CanonicalValue ω}
    (hok : (resolveAt h config (depth + 1) v target s).1.result = .ok c) :
    resolveAt h config depth v target s = resolveAt h config (depth + 1) v target s := by
  induction v using Value.induction generalizing depth target s c with
  | step v ih =>
  have hends := resolveAt_ends h config (depth + 1) v target s
  generalize resolveAt h config (depth + 1) v target s = p at hok hends ⊢
  cases hends with
  | directly hdirect => rw [resolveAt.eq_def, hdirect]
  | noFallback => cases hok
  | notAggregable => cases hok
  | view hdirect helement hv hview =>
    subst hv
    rw [resolveAt.eq_def]
    simp only [hdirect, helement, hview]
  | empty hdirect helement hv hdepth =>
    subst hv
    rw [resolveAt.eq_def]
    simp only [hdirect, helement, if_pos (Nat.lt_of_succ_lt hdepth), List.isEmpty_nil, if_true]
  | unregistered => cases hok
  | elementFails => cases hok
  | @stacked trace s₁ s₂ element elementType items slices hdirect helement hv hne hdepth htype
      hitems =>
    subst hv
    -- At the lesser depth the sequence is opened all the more.
    have hopens : OpensSequence h config depth items target s elementType s₁ :=
      ⟨⟨trace, hdirect⟩, Nat.lt_of_succ_lt hdepth, element, helement, htype⟩
    have hlesser := hitems.of_deeper fun v hv s c hok => ih items rfl v hv hok
    rw [hopens.resolveAt_eq hne hdirect, resolveItems_eq_ok_iff.2 hlesser]

/-! ## Other sequences -/

/-- If the direct stage does not decide a sequence, it does not decide any other. -/
theorem resolveDirectly_other_sequence {items others : List (Value ω)} {trace : Trace}
    (hdirect : resolveDirectly h config (.sequence items) target s = (.undecided trace, s₁)) :
    resolveDirectly h config (.sequence others) target s = (.undecided trace, s₁) := by
  have hways := resolveDirectly_directly h config (.sequence items) target s
  rw [hdirect] at hways
  cases hways with
  | undecided hit _ _ _ hlook hreplay hfound _ htrace =>
    have hid : identity? s.types target.id (.sequence others) = none := rfl
    have hreplay' : replay h hit (.sequence others) target (Trace.start (.sequence others) target)
        s₁ = none := by
      match hit with
      | none => rfl
      | some (.registry entry) => cases hreplay
      | some .protocol => rfl
    have hlook' : lookInCache config (Value.sequence others).producer target.id s = (hit, s₁) :=
      hlook
    have hfound' : s₁.converters.lookup (Value.sequence others).producer
        (Value.sequence others).supertypes target.id = none := hfound
    have hno : target.descriptor.entryPoint.isSome →
        conforms (Value.sequence others) target.descriptor = false := fun _ => rfl
    simp only [resolveDirectly, hid, hlook', hreplay',
      resolveByLookup_of_neither hfound' hno, htrace]
    rfl

/-- So it is opened if the other one is. -/
theorem OpensSequence.other {items : List (Value ω)} (others : List (Value ω))
    (hopens : OpensSequence h config depth items target s elementType s₁) :
    OpensSequence h config depth others target s elementType s₁ := by
  obtain ⟨⟨trace, hdirect⟩, hdepth, helement⟩ := hopens
  exact ⟨⟨trace, resolveDirectly_other_sequence hdirect⟩, hdepth, helement⟩

/-- Instances that are tensors become these tensors. -/
theorem becomeTensors_of_instances {cs : List (CanonicalValue ω)} {slices : List Tensor}
    (hcs : List.Forall₂ (fun c t => c.payload = .tensor t ∧
      s.types.isSameOrAncestor target.id c.typeId = true) cs slices) :
    BecomeTensors h config depth target (cs.map .canonical) s slices s := by
  induction hcs with
  | nil => exact .nil
  | @cons c t _ _ hc _ ih =>
    obtain ⟨id, payload⟩ := c
    obtain ⟨rfl, hsub⟩ := hc
    exact .cons (resolveAt_of_instance h config depth hsub) ih

/-- If a sequence is opened, then one of instances that stack resolves to their stack. -/
theorem OpensSequence.resolveAt_instances {items : List (Value ω)}
    (hopens : OpensSequence h config depth items target s elementType s₁)
    {cs : List (CanonicalValue ω)} (hne : cs ≠ []) {slices : List Tensor}
    (hcs : List.Forall₂ (fun c t => c.payload = .tensor t ∧
      s₁.types.isSameOrAncestor elementType.id c.typeId = true) cs slices)
    {t : Tensor} (hstack : Tensor.stack slices = .ok t) :
    (resolveAt h config depth (.sequence (cs.map .canonical)) target s).1.result =
        .ok ⟨target.id, .tensor t⟩ ∧
      (resolveAt h config depth (.sequence (cs.map .canonical)) target s).1.trace.strategy =
        some .sequence := by
  have hother := hopens.other (cs.map .canonical)
  obtain ⟨trace, hdirect⟩ := hother.direct
  rw [hother.resolveAt_eq (by simpa using hne) hdirect,
    resolveItems_eq_ok_iff.2 (becomeTensors_of_instances hcs)]
  simp only [stacked, hstack]
  exact ⟨rfl, rfl⟩

/-! ## Other systems -/

omit [ForeignObject ω] in
theorem Progress.Related.systems {T : Resolution ω → Resolution ω → Prop}
    {R : TypeSystem κ η → TypeSystem κ η → Prop} {p p' : Progress ω × TypeSystem κ η}
    (hr : Progress.Related T R p p') : R p.2 p'.2 := by
  cases hr with
  | decided _ hr => exact hr
  | undecided hr => exact hr

/-- Under pure foreign code, the elements of an opened sequence are to become what the registry
says. -/
theorem OpensSequence.elementType?_eq (hp : h.Pure) {items : List (Value ω)}
    (hopens : OpensSequence h config depth items target s elementType s₁) :
    s₁.types = s.types ∧ s.types.elementType? target = some elementType := by
  obtain ⟨⟨trace, hdirect⟩, -, id, helement, htype⟩ := hopens
  have htypes := (resolveDirectly_registries hp config (.sequence items) target s).1
  rw [hdirect] at htypes
  refine ⟨htypes, ?_⟩
  rw [TypeRegistry.elementType?, helement, ← htypes]
  exact htype

section

variable {Presented : Value ω → Prop} (closed : ∀ {items : List (Value ω)},
  Presented (.sequence items) → ∀ v ∈ items, Presented v) (hp : h.Pure)
  (uniform : Uniform s.types Presented)

include hp uniform

/-- A system remains interchangeable as it resolves presented values. -/
theorem Interchangeable.resolveDirectly (config : EngineConfig) (hv : Presented v)
    (ht : s.types.get? target.id = some target) (hs : Interchangeable h Presented s s₁) :
    Interchangeable h Presented s (resolveDirectly h config v target s₁).2 := by
  obtain ⟨htypes, hconverters⟩ := resolveDirectly_registries hp config v target s₁
  have hconfig := (resolveDirectly_evolves hp.lawful config v target s₁).config
  have off : ({ config with cacheEnabled := false } : EngineConfig).cacheEnabled = false := rfl
  have halike := (resolveDirectly_alike hp (hs.types ▸ uniform) config off hv (hs.types ▸ ht)
    ⟨hs.justified'.alike, rfl⟩).systems
  exact {
    types := hs.types.trans htypes.symm
    functions := hconverters ▸ hs.functions
    depth := hs.depth.trans (congrArg EngineConfig.maxSequenceDepth hconfig.symm)
    justified := hs.justified
    justified' := halike.1.cacheJustified }

section

variable (synced : s.types.Synced)

include closed synced

theorem Interchangeable.resolveAt (config : EngineConfig) (depth : Nat) (hv : Presented v)
    (ht : s.types.get? target.id = some target) (hs : Interchangeable h Presented s s₁) :
    Interchangeable h Presented s (resolveAt h config depth v target s₁).2 := by
  refine resolveAt_keeps (Q := fun t => s.types.get? t.id = some t) closed ?_ ?_ depth hv ht hs
  · intro target id s₂ _ hs₂ _ t hget
    rw [← hs₂.types] at hget
    rwa [synced.id_of_get? hget]
  · exact fun v target s₂ hv ht hs₂ => hs₂.resolveDirectly hp uniform config hv ht

/-- Elements of a sequence become what they become on their own, in an interchangeable system. -/
theorem BecomeTensors.exists_instances {items : List (Value ω)} {slices : List Tensor}
    (ht : BecomeTensors h config (depth + 1) elementType items s₁ slices s')
    (hitems : ∀ v ∈ items, Presented v) (hs : Interchangeable h Presented s s₁)
    (hregistered : s.types.get? elementType.id = some elementType) :
    ∃ cs : List (CanonicalValue ω),
      List.Forall₂ (fun v c => Presented v ∧
        (resolveAt h config depth v elementType s).1.result = .ok c ∧ ∃ t, c.payload = .tensor t)
        items cs ∧
      List.Forall₂ (fun c t => c.payload = .tensor t ∧
        s.types.isSameOrAncestor elementType.id c.typeId = true) cs slices := by
  induction ht with
  | nil => exact ⟨[], .nil, .nil⟩
  | @cons v rest s₁ s₂ s₃ id t trace slices hv _ ih =>
    obtain ⟨hfirst, hothers⟩ := List.forall_mem_cons.1 hitems
    have hnext := hs.resolveAt closed hp uniform synced config (depth + 1) hfirst hregistered
    rw [hv] at hnext
    obtain ⟨cs, hcs, hslices⟩ := ih hothers hnext
    have hok : (resolveAt h config (depth + 1) v elementType s₁).1.result =
        .ok ⟨id, .tensor t⟩ := by
      rw [hv]
    have hsub := resolveAt_sound hok
    rw [← hs.types] at hsub
    -- At a lesser depth first, then in the other system.
    rw [← resolveAt_of_deeper hok] at hok
    have hsame : (resolveAt h config depth v elementType s).1.forgetReplay =
        (resolveAt h config depth v elementType s₁).1.forgetReplay :=
      resolveAt_independent hp synced uniform closed rfl depth hfirst hregistered hs
    have hown := (Resolution.forgetReplay_eq_iff.1 hsame).1.trans hok
    exact ⟨⟨id, .tensor t⟩ :: cs, .cons ⟨hfirst, hown, t, rfl⟩ hcs, .cons ⟨rfl, hsub⟩ hslices⟩

end

variable (hw : s.types.WellFormed)

include closed hw

/-- What a presented value comes to is the same in interchangeable systems. -/
theorem resolveTraced_of_interchangeable (hs : Interchangeable h Presented s s')
    (hv : Presented v) (id : TypeId) :
    (resolveTraced h v id s').1.result = (resolveTraced h v id s).1.result ∧
      (resolveTraced h v id s').1.trace.strategy = (resolveTraced h v id s).1.trace.strategy := by
  obtain ⟨hresult, htrace⟩ := Resolution.forgetReplay_eq_iff.1
    (resolveTraced_independent closed hp hw uniform hv id hs)
  have hstrategy := congrArg Trace.strategy htrace
  exact ⟨hresult.symm, hstrategy.symm⟩

/-- If a sequence resolves as such in one system, then its elements can be resolved first in every
interchangeable one. -/
theorem elements_first_of_interchangeable (hj : s.CacheJustified Presented)
    (ht : s.types.get? target.id = some target)
    (helement : s.types.elementType? target = some elementType) {items : List (Value ω)}
    (hv : Presented (.sequence items)) {c : CanonicalValue ω}
    (hok : (resolveTraced h (.sequence items) target.id s).1.result = .ok c)
    (hstrategy : (resolveTraced h (.sequence items) target.id s).1.trace.strategy =
      some .sequence) :
    ∃ cs : List (CanonicalValue ω), ∀ s', Interchangeable h Presented s s' →
      List.Forall₂ (fun v c' => (resolveTraced h v elementType.id s').1.result = .ok c' ∧
        ∃ t, c'.payload = .tensor t) items cs ∧
      (resolveTraced h (.sequence (cs.map .canonical)) target.id s').1.result = .ok c ∧
      (resolveTraced h (.sequence (cs.map .canonical)) target.id s').1.trace.strategy =
        some .sequence := by
  by_cases hne : items = []
  · subst hne
    refine ⟨[], fun s' hs' => ⟨.nil, ?_⟩⟩
    obtain ⟨hresult, htrace⟩ :=
      resolveTraced_of_interchangeable closed hp uniform hw hs' hv target.id
    exact ⟨hresult.trans hok, htrace.trans hstrategy⟩
  rw [resolveTraced_fst ht] at hok hstrategy
  obtain ⟨u, s₁, slices, t, hopens, hitems, hstack, rfl⟩ :=
    (slices_of_sequence hok hstrategy).resolve_left hne
  obtain rfl : u = elementType :=
    Option.some.inj ((hopens.elementType?_eq hp).2.symm.trans helement)
  have hu := hw.toSynced.get?_of_elementType? helement
  obtain ⟨trace, hdirect⟩ := hopens.direct
  have hself : Interchangeable h Presented s s := ⟨rfl, .refl h _, rfl, hj, hj⟩
  have hs₁ := hself.resolveDirectly hp uniform s.engine.config hv ht
  rw [hdirect] at hs₁
  obtain ⟨cs, hcs, hslices⟩ :=
    hitems.exists_instances closed hp uniform hw.toSynced (closed hv) hs₁ hu
  have hnonempty : cs ≠ [] := by
    rw [← List.length_pos_iff, ← hcs.length_eq, List.length_pos_iff]
    exact hne
  refine ⟨cs, fun s' hs' => ⟨?_, ?_⟩⟩
  · refine hcs.imp fun v c' ⟨hv, hc', htensor⟩ => ⟨?_, htensor⟩
    rw [(resolveTraced_of_interchangeable closed hp uniform hw hs' hv u.id).1, resolveTraced_fst hu]
    exact hc'
  · -- The sequence resolves there too, so it is opened, and the one of instances is as well.
    have ht' : s'.types.get? target.id = some target := hs'.types ▸ ht
    obtain ⟨hresult, htrace⟩ :=
      resolveTraced_of_interchangeable closed hp uniform hw hs' hv target.id
    rw [resolveTraced_fst ht', resolveTraced_fst ht] at hresult htrace
    obtain ⟨u', s₁', -, -, hopens', -⟩ :=
      (slices_of_sequence (hresult.trans hok) (htrace.trans hstrategy)).resolve_left hne
    obtain ⟨htypes', helement'⟩ := hopens'.elementType?_eq hp
    rw [← hs'.types] at htypes' helement'
    obtain rfl : u = u' := Option.some.inj (helement.symm.trans helement')
    rw [resolveTraced_fst ht']
    exact hopens'.resolveAt_instances hnonempty (htypes' ▸ hslices) hstack

end

/-! ## Resolving on -/

/-- The calls that resolve values, or forget by which strategies values were resolved. -/
def Operation.resolves : Operation ω κ → Bool
  | resolve .. | resolveTraced .. | invalidateCache => true
  | _ => false

omit [ForeignObject ω] in
theorem lastWrite_of_resolves {types : TypeRegistry} {producer : ProducerType} {id : TypeId}
    {before : Option (ConverterAction κ)} {ops : List (Operation ω κ)}
    (hops : ∀ op ∈ ops, op.resolves = true) :
    lastWrite types producer id before ops = before := by
  induction ops with
  | nil => rfl
  | cons op rest ih =>
    obtain ⟨hop, hrest⟩ := List.forall_mem_cons.1 hops
    have hnothing : op.write? types producer id = none := by
      cases op <;> first | rfl | cases hop
    rw [lastWrite, List.foldl_cons, hnothing]
    exact ih hrest

/-- A system that goes on resolving presented values stays what it is. -/
theorem interchangeable_of_resolves {Presented : Value ω → Prop}
    (closed : ∀ {items : List (Value ω)}, Presented (.sequence items) → ∀ v ∈ items, Presented v)
    (hp : h.Pure)
    (hw : s.types.WellFormed) (uniform : Uniform s.types Presented)
    (hj : s.CacheJustified Presented) {ops : List (Operation ω κ)}
    (hresolves : ∀ op ∈ ops, op.resolves = true)
    (hops : ∀ op ∈ ops, ∀ v, op.value? = some v → Presented v) :
    Interchangeable h Presented s (run h s ops) := by
  have hkeeps : ∀ op ∈ ops, op.keepsTypes = true := by
    intro op hop
    have hresolves := hresolves op hop
    cases op <;> first | rfl | cases hresolves
  obtain ⟨htypes, hwrites⟩ := run_writes hp hkeeps s
  exact {
    types := htypes.symm
    functions := fun producer id => by rw [hwrites producer id, lastWrite_of_resolves hresolves]
    depth := congrArg EngineConfig.maxSequenceDepth (run_evolves hp.lawful s ops).config.symm
    justified := hj
    justified' := run_cacheJustified closed hp hops hw (htypes.symm ▸ uniform) hj }

/-- **Aggregation commutes with resolving the elements first.** Take a system that has come about
by any calls of users, and a sequence that resolves, as a sequence, to a registered type whose
sequences have elements of some type. The elements become canonical values, with tensors for
payloads, such that in this system, and after all further calls that resolve values or invalidate
the cache: each element resolves on its own to its canonical value, and the sequence of the
canonical values resolves to exactly the value that the sequence has resolved to, again as a
sequence. Foreign code is pure, and the presented values of one producer have the same supertypes
and conform to the same registered descriptors. -/
theorem aggregation_commutes {Presented : Value ω → Prop} (closed : ∀ {items : List (Value ω)},
    Presented (.sequence items) → ∀ v ∈ items, Presented v) (hp : h.Pure) (config : EngineConfig)
    (host : η) (ops : List (Operation ω κ))
    (hops : ∀ op ∈ ops, ∀ v, op.value? = some v → Presented v) :
    let s := run h (.new config host) ops
    Uniform s.types Presented →
    ∀ (target elementType : CanonicalType) (items : List (Value ω)) (c : CanonicalValue ω),
      s.types.get? target.id = some target → s.types.elementType? target = some elementType →
      Presented (.sequence items) →
      (resolveTraced h (.sequence items) target.id s).1.result = .ok c →
      (resolveTraced h (.sequence items) target.id s).1.trace.strategy = some .sequence →
      ∃ cs : List (CanonicalValue ω), ∀ later : List (Operation ω κ),
        (∀ op ∈ later, op.resolves = true ∧ ∀ v, op.value? = some v → Presented v) →
        let s' := run h s later
        List.Forall₂ (fun v c' => (resolveTraced h v elementType.id s').1.result = .ok c' ∧
          ∃ t, c'.payload = .tensor t) items cs ∧
        (resolveTraced h (.sequence (cs.map .canonical)) target.id s').1.result = .ok c ∧
        (resolveTraced h (.sequence (cs.map .canonical)) target.id s').1.trace.strategy =
          some .sequence := by
  intro s uniform target elementType items c ht helement hv hok hstrategy
  have hw : s.types.WellFormed := (reachable_run hp.lawful config host ops).wellFormed
  have hj : s.CacheJustified Presented := run_cacheJustified closed hp hops
    TypeRegistry.wellFormed_empty uniform (TypeSystem.cacheJustified_new config host)
  obtain ⟨cs, hcs⟩ := elements_first_of_interchangeable closed hp uniform hw hj ht
    helement hv hok hstrategy
  refine ⟨cs, fun later hlater => hcs _ ?_⟩
  exact interchangeable_of_resolves closed hp hw uniform hj (fun op hop => (hlater op hop).1)
    fun op hop => (hlater op hop).2

/-- The first element is a sequence of an object, the second an instance of a subtype. The sequence
is resolved once more, and the cache invalidated, before the elements are resolved. -/
theorem aggregation_commutes_subtype :
    let ops : List (Operation FixtureObject Literal) :=
      [.installBuiltins, .resolve (.object (.protocolTensor 1)) "Tensor"]
    let s := run literalHost (.new {} ()) ops
    let symbol : CanonicalValue FixtureObject := ⟨⟨1⟩, .tensor ⟨.i64, ⟨[1]⟩, [.int 2]⟩⟩
    let items : List (Value FixtureObject) :=
      [.sequence [.object (.protocolTensor 1)], .canonical symbol]
    let c : CanonicalValue FixtureObject := ⟨⟨0⟩, .tensor ⟨.i64, ⟨[2, 1]⟩, [.int 1, .int 2]⟩⟩
    let s' := run literalHost s [.resolveTraced (.sequence items) ⟨0⟩, .invalidateCache]
    s.types.get? ⟨0⟩ = some Builtins.tensorType ∧
    s.types.elementType? Builtins.tensorType = some Builtins.tensorType ∧
    (resolveTraced literalHost (.sequence items) ⟨0⟩ s).1.result = .ok c ∧
    (resolveTraced literalHost (.sequence items) ⟨0⟩ s).1.trace.strategy = some .sequence ∧
    ∃ cs : List (CanonicalValue FixtureObject),
      List.Forall₂ (fun v c' => (resolveTraced literalHost v ⟨0⟩ s').1.result = .ok c' ∧
        ∃ t, c'.payload = .tensor t) items cs ∧
      (resolveTraced literalHost (.sequence (cs.map .canonical)) ⟨0⟩ s').1.result = .ok c := by
  intro ops s symbol items c s'
  have ht : s.types.get? ⟨0⟩ = some Builtins.tensorType := by decide +kernel
  have helement : s.types.elementType? Builtins.tensorType = some Builtins.tensorType := by
    decide +kernel
  have hok : (resolveTraced literalHost (.sequence items) ⟨0⟩ s).1.result = .ok c := rfl
  have hstrategy : (resolveTraced literalHost (.sequence items) ⟨0⟩ s).1.trace.strategy =
      some .sequence := by decide +kernel
  obtain ⟨cs, hcs⟩ := aggregation_commutes (h := literalHost) (fun _ _ _ => trivial)
    (Host.pure_pure _ _) {} () ops (fun _ _ _ _ => trivial)
    (fixtures_uniform _ fun _ => True) Builtins.tensorType Builtins.tensorType items c ht helement
    trivial hok hstrategy
  have hlater := hcs [.resolveTraced (.sequence items) ⟨0⟩, .invalidateCache]
    (by simp [Operation.resolves])
  exact ⟨ht, helement, hok, hstrategy, cs, hlater.1, hlater.2.1⟩

end CanonicalTypes
