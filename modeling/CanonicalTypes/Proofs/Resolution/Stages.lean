import CanonicalTypes.Resolution.Engine

/-!
# The stages of a resolution

`Directly` lists everything that a resolution can do before it looks into sequences, one constructor
for each way out with all that was found on it; `resolveDirectly_directly` says that the list is
complete. What follows a direct stage that decides nothing is the same in every system, so two
systems whose direct stages run side by side (`Simulation`) resolve whole sequences side by side
(`Simulation.resolveAt`). With one system on both sides, this carries what every direct stage keeps
through whole resolutions (`resolveAt_keeps`).
-/
namespace CanonicalTypes

variable {ω κ η : Type} [ForeignObject ω]

omit [ForeignObject ω] in
theorem Value.eq_object {v : Value ω} {o : ω} (ho : v.object? = some o) : v = .object o := by
  cases v with
  | object o' => cases ho; rfl
  | scalar => cases ho
  | sequence => cases ho
  | canonical => cases ho

/-- Only objects have supertypes. -/
theorem Value.supertypes_of_object? {v : Value ω} (ho : v.object? = none) : v.supertypes = [] := by
  cases v with
  | object o => cases ho
  | scalar => rfl
  | sequence => rfl
  | canonical => rfl

omit [ForeignObject ω] in
theorem identity?_eq_some_iff {types : TypeRegistry} {id : TypeId} {v : Value ω}
    {c : CanonicalValue ω} :
    identity? types id v = some c ↔
      v = .canonical c ∧ types.isSameOrAncestor id c.typeId = true := by
  cases v with
  | canonical c' =>
    simp only [identity?, Option.ite_none_right_eq_some, Option.some.injEq, Value.canonical.injEq]
    constructor
    · rintro ⟨hsub, rfl⟩
      exact ⟨rfl, hsub⟩
    · rintro ⟨rfl, hsub⟩
      exact ⟨hsub, rfl⟩
  | scalar => simp [identity?]
  | sequence => simp [identity?]
  | object => simp [identity?]

/-! ## What foreign code decides -/

omit [ForeignObject ω] in
@[simp] theorem settle_trace (target : CanonicalType) (producer : ProducerType)
    (strategy : Strategy) (trace : Trace) (answer : Except ConverterError (Payload ω)) :
    (settle target producer strategy trace answer).trace = trace.decide strategy := by
  cases answer <;> rfl

@[simp] theorem applyConverter_fst (h : Host ω κ η) (entry : ConverterEntry κ) (v : Value ω)
    (target : CanonicalType) (trace : Trace) (s : TypeSystem κ η) :
    (applyConverter h entry v target trace s).1 =
      settle target v.producer .registry trace (h.run entry.action v s).1 := rfl

@[simp] theorem applyProtocol_fst (h : Host ω κ η) (o : ω) (entryPoint : String)
    (target : CanonicalType) (trace : Trace) (s : TypeSystem κ η) :
    (applyProtocol h o entryPoint target trace s).1 =
      settle target (ForeignObject.producer o) .protocol trace (h.canonicalize o entryPoint s).1 :=
  rfl

/-! ## What stacking decides -/

omit [ForeignObject ω] in
theorem stacked_result_eq_ok_iff {target : CanonicalType} {trace : Trace} {slices : List Tensor}
    {c : CanonicalValue ω} :
    (stacked target trace slices).result = .ok c ↔
      ∃ t, Tensor.stack slices = .ok t ∧ c = ⟨target.id, .tensor t⟩ := by
  unfold stacked
  cases Tensor.stack slices with
  | ok t => simp [aggregated, eq_comm]
  | error e => simp

omit [ForeignObject ω] in
theorem stacked_result_eq_error_iff {target : CanonicalType} {trace : Trace} {slices : List Tensor}
    {failure : ResolutionFailure} :
    (stacked target trace slices : Resolution ω).result = .error failure ↔
      ∃ e, Tensor.stack slices = .error e ∧
        failure = .raggedOrMixedElements target.name trace.producer e.message := by
  unfold stacked
  cases Tensor.stack slices with
  | ok t => simp [aggregated]
  | error e => simp [eq_comm]

/-! ## Looking into the cache -/

section

variable {config : EngineConfig} {s s₁ : TypeSystem κ η} {producer : ProducerType}
  {target : TypeId}

/-- Looking changes the cache only. -/
theorem lookInCache_eq {hit : Option (CachedStrategy κ)}
    (hlook : lookInCache config producer target s = (hit, s₁)) : ∃ cache, s₁ = s.withCache cache := by
  unfold lookInCache at hlook
  split at hlook
  · exact ⟨_, (Prod.mk.inj hlook).2.symm⟩
  · exact ⟨s.engine.cache, (Prod.mk.inj hlook).2.symm⟩

theorem lookInCache_converters {hit : Option (CachedStrategy κ)}
    (hlook : lookInCache config producer target s = (hit, s₁)) : s₁.converters = s.converters := by
  obtain ⟨cache, rfl⟩ := lookInCache_eq hlook
  rfl

theorem lookInCache_hit {strategy : CachedStrategy κ}
    (hlook : lookInCache config producer target s = (some strategy, s₁)) :
    (s.engine.cache.get producer target s.converters.generation).1 = some strategy := by
  unfold lookInCache at hlook
  split at hlook
  · exact (Prod.mk.inj hlook).1
  · cases hlook

end

/-! ## Before sequences -/

/-- The ways out of a resolution before it looks into sequences. -/
inductive Directly (h : Host ω κ η) (config : EngineConfig) (v : Value ω)
    (target : CanonicalType) (s : TypeSystem κ η) : Progress ω × TypeSystem κ η → Prop where
  /-- The value is an instance of the target. -/
  | identity (c : CanonicalValue ω) (hid : identity? s.types target.id v = some c) :
      Directly h config v target s (.decided ⟨.ok c, (Trace.start v target).decide .identity⟩, s)
  /-- The cache knows a converter. -/
  | replayedConverter (s₁ : TypeSystem κ η) (entry : ConverterEntry κ)
      (hid : identity? s.types target.id v = none)
      (hlook : lookInCache config v.producer target.id s = (some (.registry entry), s₁)) :
      Directly h config v target s
        (.decided (applyConverter h entry v target
            { Trace.start v target with cacheHit := true } s₁).1,
          (h.run entry.action v s₁).2)
  /-- The cache knows that the protocol applies, to an object. -/
  | replayedProtocol (s₁ : TypeSystem κ η) (o : ω) (entryPoint : String)
      (hid : identity? s.types target.id v = none)
      (hlook : lookInCache config v.producer target.id s = (some .protocol, s₁))
      (hobject : v.object? = some o) (hentry : target.descriptor.entryPoint = some entryPoint) :
      Directly h config v target s
        (.decided (applyProtocol h o entryPoint target
            { Trace.start v target with cacheHit := true } s₁).1,
          (h.canonicalize o entryPoint s₁).2)
  /-- Nothing could be replayed, and the registry has a converter. -/
  | converter (hit : Option (CachedStrategy κ)) (s₁ : TypeSystem κ η) (entry : ConverterEntry κ)
      (r : Resolution ω) (hid : identity? s.types target.id v = none)
      (hlook : lookInCache config v.producer target.id s = (hit, s₁))
      (hreplay : replay h hit v target (Trace.start v target) s₁ = none)
      (hfound : s₁.converters.lookup v.producer v.supertypes target.id = some entry)
      (hr : r = (applyConverter h entry v target
        ((Trace.start v target).attempt .registry) s₁).1) :
      Directly h config v target s
        (.decided r, remember config r target.id (.registry entry) s₁.converters.generation
          (h.run entry.action v s₁).2)
  /-- The registry has no converter, and the value is an object that conforms. -/
  | protocol (hit : Option (CachedStrategy κ)) (s₁ : TypeSystem κ η) (o : ω) (entryPoint : String)
      (r : Resolution ω) (hid : identity? s.types target.id v = none)
      (hlook : lookInCache config v.producer target.id s = (hit, s₁))
      (hreplay : replay h hit v target (Trace.start v target) s₁ = none)
      (hfound : s₁.converters.lookup v.producer v.supertypes target.id = none)
      (hobject : v.object? = some o) (hentry : target.descriptor.entryPoint = some entryPoint)
      (hconforms : conformsObject o target.descriptor = true)
      (hr : r = (applyProtocol h o entryPoint target
        (((Trace.start v target).attempt .registry).attempt .protocol) s₁).1) :
      Directly h config v target s
        (.decided r, remember config r target.id .protocol s₁.converters.generation
          (h.canonicalize o entryPoint s₁).2)
  /-- Neither applies. -/
  | undecided (hit : Option (CachedStrategy κ)) (s₁ : TypeSystem κ η) (trace : Trace)
      (hid : identity? s.types target.id v = none)
      (hlook : lookInCache config v.producer target.id s = (hit, s₁))
      (hreplay : replay h hit v target (Trace.start v target) s₁ = none)
      (hfound : s₁.converters.lookup v.producer v.supertypes target.id = none)
      (hconforms : target.descriptor.entryPoint.isSome → conforms v target.descriptor = false)
      (htrace : trace = if target.descriptor.entryPoint.isSome
        then ((Trace.start v target).attempt .registry).attempt .protocol
        else (Trace.start v target).attempt .registry) :
      Directly h config v target s (.undecided trace, s₁)

/-- A resolution ends its direct part in one of these ways. -/
theorem resolveDirectly_directly (h : Host ω κ η) (config : EngineConfig) (v : Value ω)
    (target : CanonicalType) (s : TypeSystem κ η) :
    Directly h config v target s (resolveDirectly h config v target s) := by
  -- The cases follow the stages in the order in which they are tried.
  unfold resolveDirectly
  split
  next c hid => exact .identity c hid
  next hid =>
  generalize hlook : lookInCache config v.producer target.id s = looked
  obtain ⟨hit, s₁⟩ := looked
  simp only
  split
  next r s₂ hreplay =>
    unfold replay at hreplay
    split at hreplay
    · cases hreplay
    next entry =>
      cases hreplay
      exact .replayedConverter s₁ entry hid hlook
    · split at hreplay
      next o entryPoint hobject hentry =>
        cases hreplay
        exact .replayedProtocol s₁ o entryPoint hid hlook hobject hentry
      · cases hreplay
  next hreplay =>
    unfold resolveByLookup
    split
    next entry generation hanswer =>
      obtain ⟨hfound, rfl⟩ := Prod.mk.inj hanswer
      exact .converter hit s₁ entry _ hid hlook hreplay hfound rfl
    next generation hanswer =>
      obtain ⟨hfound, rfl⟩ := Prod.mk.inj hanswer
      unfold resolveByProtocol
      split
      next hentry =>
        exact .undecided hit s₁ _ hid hlook hreplay hfound (by simp [hentry]) (by simp [hentry])
      next entryPoint hentry =>
        split
        next hobject =>
          refine .undecided hit s₁ _ hid hlook hreplay hfound ?_ (by simp [hentry])
          simp [conforms, hobject]
        next o hobject =>
          split
          next hconforms =>
            exact .protocol hit s₁ o entryPoint _ hid hlook hreplay hfound hobject hentry
              hconforms rfl
          next hconforms =>
            refine .undecided hit s₁ _ hid hlook hreplay hfound (fun _ => ?_) (by simp [hentry])
            simpa [conforms, hobject] using hconforms

/-! ## Two resolutions side by side -/

/-- Two direct stages that end alike: both decided, or both undecided with the same trace. -/
inductive Progress.Related (T : Resolution ω → Resolution ω → Prop)
    (R : TypeSystem κ η → TypeSystem κ η → Prop) :
    Progress ω × TypeSystem κ η → Progress ω × TypeSystem κ η → Prop where
  | decided {r r' : Resolution ω} {s s' : TypeSystem κ η} (ht : T r r') (hr : R s s') :
      Related T R (.decided r, s) (.decided r', s')
  | undecided {trace : Trace} {s s' : TypeSystem κ η} (hr : R s s') :
      Related T R (.undecided trace, s) (.undecided trace, s')

/-- What makes resolutions in two systems run side by side. `R` relates the systems and `T` the
resolutions; `P` are the values and `Q` the targets in question. -/
structure Simulation (h h' : Host ω κ η) (config config' : EngineConfig) (P : Value ω → Prop)
    (Q : CanonicalType → Prop) (R : TypeSystem κ η → TypeSystem κ η → Prop)
    (T : Resolution ω → Resolution ω → Prop) : Prop where
  depth : config.maxSequenceDepth = config'.maxSequenceDepth
  items : ∀ {items : List (Value ω)}, P (.sequence items) → ∀ v ∈ items, P v
  element : ∀ {s s' : TypeSystem κ η} {target : CanonicalType} {element : TypeId},
    R s s' → Q target → target.sequenceElement = some element →
      s.types.get? element = s'.types.get? element ∧
        ∀ t, s.types.get? element = some t → Q t
  refl : ∀ r, T r r
  result : ∀ {r r' : Resolution ω}, T r r' → r.result = r'.result
  direct : ∀ {v : Value ω} {target : CanonicalType} {s s' : TypeSystem κ η},
    P v → Q target → R s s' → Progress.Related T R (resolveDirectly h config v target s)
      (resolveDirectly h' config' v target s')

namespace Simulation

variable {h h' : Host ω κ η} {config config' : EngineConfig} {P : Value ω → Prop}
  {Q : CanonicalType → Prop} {R : TypeSystem κ η → TypeSystem κ η → Prop}
  {T : Resolution ω → Resolution ω → Prop}

/-- If the direct stages run side by side, so does the resolution of anything but a sequence. -/
theorem resolveAt_of_flat (sim : Simulation h h' config config' P Q R T) {v : Value ω}
    (hflat : ∀ items, v ≠ .sequence items) (depth : Nat) {target : CanonicalType}
    {s s' : TypeSystem κ η} (hv : P v) (hq : Q target) (hr : R s s') :
    T (resolveAt h config depth v target s).1 (resolveAt h' config' depth v target s').1 ∧
      R (resolveAt h config depth v target s).2 (resolveAt h' config' depth v target s').2 := by
  rw [resolveAt.eq_def, resolveAt.eq_def h']
  have hd := sim.direct hv hq hr
  generalize resolveDirectly h config v target s = p at hd ⊢
  generalize resolveDirectly h' config' v target s' = p' at hd ⊢
  cases hd with
  | decided ht hr => exact ⟨ht, hr⟩
  | undecided hr =>
    cases target.sequenceElement with
    | none => exact ⟨sim.refl _, hr⟩
    | some element =>
      cases v with
      | sequence items => exact absurd rfl (hflat items)
      | object o =>
        simp only
        cases ForeignObject.denseView o <;> exact ⟨sim.refl _, hr⟩
      | scalar => exact ⟨sim.refl _, hr⟩
      | canonical => exact ⟨sim.refl _, hr⟩

mutual

/-- If the direct stages run side by side, so do whole resolutions. -/
theorem resolveAt (sim : Simulation h h' config config' P Q R T) :
    ∀ (v : Value ω) (depth : Nat) (target : CanonicalType) (s s' : TypeSystem κ η),
      P v → Q target → R s s' →
        T (resolveAt h config depth v target s).1 (resolveAt h' config' depth v target s').1 ∧
          R (resolveAt h config depth v target s).2 (resolveAt h' config' depth v target s').2
  | .scalar _, depth, _, _, _, hv, hq, hr => sim.resolveAt_of_flat (by simp) depth hv hq hr
  | .canonical _, depth, _, _, _, hv, hq, hr => sim.resolveAt_of_flat (by simp) depth hv hq hr
  | .object _, depth, _, _, _, hv, hq, hr => sim.resolveAt_of_flat (by simp) depth hv hq hr
  | .sequence items, depth, target, s, s', hv, hq, hr => by
    -- Undecided systems agree on the trace and the types, so they look into the same elements.
    rw [CanonicalTypes.resolveAt.eq_def, CanonicalTypes.resolveAt.eq_def h']
    have hd := sim.direct hv hq hr
    generalize resolveDirectly h config (.sequence items) target s = p at hd ⊢
    generalize resolveDirectly h' config' (.sequence items) target s' = p' at hd ⊢
    cases hd with
    | decided ht hr => exact ⟨ht, hr⟩
    | @undecided trace s₁ s₁' hr =>
      cases he : target.sequenceElement with
      | none => exact ⟨sim.refl _, hr⟩
      | some element =>
        obtain ⟨htypes, helement⟩ := sim.element hr hq he
        simp only [← sim.depth, ← htypes]
        split
        · split
          · exact ⟨sim.refl _, hr⟩
          · cases ht : s₁.types.get? element with
            | none => exact ⟨sim.refl _, hr⟩
            | some elementType =>
              obtain ⟨hanswer, hrel⟩ := resolveItems sim items (depth + 1) target elementType 0 s₁
                s₁' (sim.items hv) (helement _ ht) hr
              simp only
              generalize CanonicalTypes.resolveItems h config (depth + 1) target elementType 0 items
                s₁ = q at hanswer hrel ⊢
              generalize CanonicalTypes.resolveItems h' config' (depth + 1) target elementType 0
                items s₁' = q' at hanswer hrel ⊢
              obtain ⟨answer, s₂⟩ := q
              obtain ⟨answer', s₂'⟩ := q'
              obtain rfl : answer = answer' := hanswer
              cases answer <;> exact ⟨sim.refl _, hrel⟩
        · exact ⟨sim.refl _, hr⟩

/-- The elements of a sequence become the same tensors, or fail alike. -/
theorem resolveItems (sim : Simulation h h' config config' P Q R T) :
    ∀ (items : List (Value ω)) (depth : Nat) (outer elementType : CanonicalType) (index : Nat)
      (s s' : TypeSystem κ η), (∀ v ∈ items, P v) → Q elementType → R s s' →
        (resolveItems h config depth outer elementType index items s).1 =
            (resolveItems h' config' depth outer elementType index items s').1 ∧
          R (resolveItems h config depth outer elementType index items s).2
            (resolveItems h' config' depth outer elementType index items s').2
  | [], depth, outer, elementType, index, s, s', _, _, hr => by
    rw [CanonicalTypes.resolveItems.eq_def, CanonicalTypes.resolveItems.eq_def h']
    exact ⟨rfl, hr⟩
  | v :: rest, depth, outer, elementType, index, s, s', hv, hq, hr => by
    rw [CanonicalTypes.resolveItems.eq_def, CanonicalTypes.resolveItems.eq_def h']
    obtain ⟨ht, hr⟩ := resolveAt sim v depth elementType s s' (hv v List.mem_cons_self) hq hr
    have hres := sim.result ht
    simp only
    generalize CanonicalTypes.resolveAt h config depth v elementType s = p at hr hres ⊢
    generalize CanonicalTypes.resolveAt h' config' depth v elementType s' = p' at hr hres ⊢
    obtain ⟨⟨result, trace⟩, s₁⟩ := p
    obtain ⟨⟨result', trace'⟩, s₁'⟩ := p'
    obtain rfl : result = result' := hres
    match result with
    | .error failure => exact ⟨rfl, hr⟩
    | .ok ⟨_, .handle _⟩ => exact ⟨rfl, hr⟩
    | .ok ⟨_, .tensor t⟩ =>
      obtain ⟨hanswer, hrel⟩ := resolveItems sim rest depth outer elementType (index + 1) s₁ s₁'
        (fun w hw => hv w (List.mem_cons_of_mem _ hw)) hq hr
      simp only
      generalize CanonicalTypes.resolveItems h config depth outer elementType (index + 1) rest s₁ =
        q at hanswer hrel ⊢
      generalize CanonicalTypes.resolveItems h' config' depth outer elementType (index + 1) rest
        s₁' = q' at hanswer hrel ⊢
      obtain ⟨answer, s₂⟩ := q
      obtain ⟨answer', s₂'⟩ := q'
      obtain rfl : answer = answer' := hanswer
      cases answer <;> exact ⟨rfl, hrel⟩

end

end Simulation

/-! ## One resolution -/

section

variable {h : Host ω κ η} {config : EngineConfig} {P : Value ω → Prop} {Q : CanonicalType → Prop}
  {K : TypeSystem κ η → Prop}
  (closed : ∀ {items : List (Value ω)}, P (.sequence items) → ∀ v ∈ items, P v)
  (element : ∀ {target : CanonicalType} {id : TypeId} {s : TypeSystem κ η}, Q target → K s →
    target.sequenceElement = some id → ∀ t, s.types.get? id = some t → Q t)
  (direct : ∀ v target s, P v → Q target → K s → K (resolveDirectly h config v target s).2)

include closed element direct

/-- A resolution runs side by side with itself, on systems that keep what every direct stage
keeps. -/
theorem keeps_simulation :
    Simulation h h config config P Q (fun s s' => s = s' ∧ K s) Eq where
  depth := rfl
  items := closed
  element := by
    rintro s _ target id ⟨rfl, hk⟩ hq hid
    exact ⟨rfl, element hq hk hid⟩
  refl _ := rfl
  result hr := congrArg Resolution.result hr
  direct := by
    rintro v target s _ hv hq ⟨rfl, hk⟩
    have hd := direct v target s hv hq hk
    generalize resolveDirectly h config v target s = p at hd ⊢
    obtain ⟨r | trace, s₁⟩ := p
    · exact .decided rfl ⟨rfl, hd⟩
    · exact .undecided ⟨rfl, hd⟩

/-- What every direct stage keeps of a system, a whole resolution keeps. -/
theorem resolveAt_keeps (depth : Nat) {v : Value ω} (hv : P v) {target : CanonicalType}
    (hq : Q target) {s : TypeSystem κ η} (hk : K s) :
    K (resolveAt h config depth v target s).2 :=
  ((keeps_simulation closed element direct).resolveAt v depth target s s hv hq ⟨rfl, hk⟩).2.2

theorem resolveItems_keeps {items : List (Value ω)} (hv : ∀ v ∈ items, P v) (depth : Nat)
    (outer : CanonicalType) {elementType : CanonicalType} (hq : Q elementType) (index : Nat)
    {s : TypeSystem κ η} (hk : K s) :
    K (resolveItems h config depth outer elementType index items s).2 :=
  ((keeps_simulation closed element direct).resolveItems items depth outer elementType index s s hv
    hq ⟨rfl, hk⟩).2.2

end

end CanonicalTypes
