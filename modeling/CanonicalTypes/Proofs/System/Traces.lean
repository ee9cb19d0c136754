import CanonicalTypes.Proofs.Resolution.Freshness
import CanonicalTypes.Proofs.System.Failures

/-!
# What a trace tells

A resolution to a registered type takes one of four courses (`Course`): the value is an instance
already, a cached strategy is replayed, one of the strategies that the type provides for decides, or
all of them are tried in vain. The trace tells them apart. Whether a failure stems from the value
itself or from an element of it is to be seen from the trace too: only the value's own foreign code
is noted as a strategy that failed (`OwnAnswer.resolve`, `Reaches.fails`).

The main result is `trace_consistent`.
-/
namespace CanonicalTypes

variable {ω κ η : Type} [ForeignObject ω] {h : Host ω κ η} {config : EngineConfig}
  {s s' : TypeSystem κ η} {v : Value ω} {target : CanonicalType}

/-! ## Four courses -/

/-- The courses of a resolution, told by its trace. -/
inductive Course (types : TypeRegistry) (v : Value ω) (target : CanonicalType) (r : Resolution ω) :
    Prop where
  /-- The value is an instance of the target. -/
  | identity {c : CanonicalValue ω} (hid : identity? types target.id v = some c)
      (hr : r = ⟨.ok c, (Trace.start v target).decide .identity⟩)
  /-- A cached strategy is replayed. -/
  | replayed {strategy : Strategy} (hid : identity? types target.id v = none)
      (hkind : strategy = .registry ∨ strategy = .protocol)
      (htrace : r.trace = { Trace.start v target with strategy, cacheHit := true })
  /-- A strategy decides, after those before it were tried. -/
  | decided (tried : List Strategy) {strategy : Strategy}
      (hid : identity? types target.id v = none) (hplan : tried ++ [strategy] <+: target.plan)
      (htrace : r.trace = { Trace.start v target with strategy, attempted := tried ++ [strategy] })
  /-- Nothing decides. -/
  | exhausted {failure : ResolutionFailure} (hid : identity? types target.id v = none)
      (hr : r = ⟨.error failure, { Trace.start v target with attempted := target.plan }⟩)

theorem identity?_of_undecided {trace : Trace}
    (hdirect : resolveDirectly h config v target s = (.undecided trace, s')) :
    identity? s.types target.id v = none := by
  have hways := resolveDirectly_directly h config v target s
  rw [hdirect] at hways
  cases hways with
  | undecided _ _ _ hid => exact hid

/-- The registry is always tried first. -/
theorem CanonicalType.registry_plan : [.registry] <+: target.plan :=
  ⟨_, rfl⟩

/-- The protocol is tried next, if the target has one. -/
theorem CanonicalType.protocol_plan (hentry : target.descriptor.entryPoint.isSome = true) :
    [.registry, .protocol] <+: target.plan := by
  rw [plan, hentry]
  exact ⟨_, rfl⟩

/-- Sequences come last, if the target permits them. -/
theorem CanonicalType.exists_sequence_plan
    (hfallback : target.descriptor.sequenceFallback.isSome = true) :
    ∃ tried, tried ++ [.sequence] = target.plan := by
  rw [plan, hfallback, if_pos rfl]
  exact ⟨.registry :: _, rfl⟩

theorem CanonicalType.identity_notMem_plan : .identity ∉ target.plan := by
  unfold plan
  split <;> split <;> decide

namespace Course

variable {types : TypeRegistry} {r : Resolution ω} (course : Course types v target r)

include course

theorem strategy_isSome {c : CanonicalValue ω} (hok : r.result = .ok c) :
    r.trace.strategy.isSome := by
  cases course with
  | identity _ hr => rw [hr]; rfl
  | replayed _ _ htrace => rw [htrace]; rfl
  | decided _ _ _ htrace => rw [htrace]; rfl
  | exhausted _ hr => rw [hr] at hok; cases hok

theorem identity_iff : r.trace.strategy = some .identity ↔
    ∃ c, v = .canonical c ∧ types.isSameOrAncestor target.id c.typeId = true := by
  have hnone : identity? types target.id v = none →
      ¬ ∃ c, v = .canonical c ∧ types.isSameOrAncestor target.id c.typeId = true := by
    rintro hid ⟨c, hc⟩
    rw [identity?_eq_some_iff.2 hc] at hid
    cases hid
  cases course with
  | @identity c hid hr =>
    rw [hr]
    exact iff_of_true rfl ⟨c, identity?_eq_some_iff.1 hid⟩
  | replayed hid hkind htrace =>
    rw [htrace]
    refine iff_of_false ?_ (hnone hid)
    rcases hkind with rfl | rfl <;> simp
  | decided tried hid hplan htrace =>
    rw [htrace]
    refine iff_of_false ?_ (hnone hid)
    rintro ⟨⟩
    exact CanonicalType.identity_notMem_plan (hplan.subset (by simp))
  | exhausted hid hr =>
    rw [hr]
    exact iff_of_false (by simp [Trace.start]) (hnone hid)

theorem of_identity (hstrategy : r.trace.strategy = some .identity) :
    r.trace.attempted = [] ∧ r.trace.cacheHit = false := by
  obtain ⟨c, hc⟩ := course.identity_iff.1 hstrategy
  have hsome := identity?_eq_some_iff.2 hc
  cases course with
  | identity _ hr => rw [hr]; exact ⟨rfl, rfl⟩
  | replayed hid => rw [hid] at hsome; cases hsome
  | decided _ hid => rw [hid] at hsome; cases hsome
  | exhausted hid => rw [hid] at hsome; cases hsome

theorem of_cacheHit (hhit : r.trace.cacheHit = true) :
    (r.trace.strategy = some .registry ∨ r.trace.strategy = some .protocol) ∧
      r.trace.attempted = [] := by
  cases course with
  | identity _ hr => rw [hr] at hhit; cases hhit
  | replayed _ hkind htrace =>
    rw [htrace]
    exact ⟨by simpa using hkind, rfl⟩
  | decided _ _ _ htrace => rw [htrace] at hhit; cases hhit
  | exhausted _ hr => rw [hr] at hhit; cases hhit

theorem otherwise (hidentity : r.trace.strategy ≠ some .identity)
    (hhit : r.trace.cacheHit = false) :
    r.trace.attempted ≠ [] ∧ r.trace.attempted <+: target.plan ∧
      ∀ strategy, r.trace.strategy = some strategy →
        r.trace.attempted.getLast? = some strategy := by
  cases course with
  | identity _ hr => rw [hr] at hidentity; exact absurd rfl hidentity
  | replayed _ _ htrace => rw [htrace] at hhit; cases hhit
  | decided tried _ hplan htrace =>
    rw [htrace]
    exact ⟨by simp, hplan, by simp⟩
  | exhausted _ hr =>
    rw [hr]
    exact ⟨by simp [CanonicalType.plan], List.prefix_rfl, by simp [Trace.start]⟩

theorem of_no_strategy (hnone : r.trace.strategy = none) :
    (∃ failure, r.result = .error failure) ∧ r.trace.attempted = target.plan := by
  cases course with
  | identity _ hr => rw [hr] at hnone; cases hnone
  | replayed _ _ htrace => rw [htrace] at hnone; cases hnone
  | decided _ _ _ htrace => rw [htrace] at hnone; cases hnone
  | @exhausted failure _ hr =>
    rw [hr]
    exact ⟨⟨failure, rfl⟩, rfl⟩

end Course

/-- A direct stage that decides does so by identity, from the cache, or as planned. -/
theorem course_of_decided {r : Resolution ω}
    (hdirect : resolveDirectly h config v target s = (.decided r, s')) :
    Course s.types v target r := by
  have hways := resolveDirectly_directly h config v target s
  rw [hdirect] at hways
  cases hways with
  | identity c hid => exact .identity hid rfl
  | replayedConverter _ _ hid => exact .replayed hid (.inl rfl) (settle_trace ..)
  | replayedProtocol _ _ _ hid => exact .replayed hid (.inr rfl) (settle_trace ..)
  | converter _ _ _ _ hid _ _ _ hr =>
    rw [hr]
    exact .decided [] hid CanonicalType.registry_plan (settle_trace ..)
  | protocol _ _ _ _ _ hid _ _ _ _ hentry _ hr =>
    rw [hr]
    exact .decided [.registry] hid (CanonicalType.protocol_plan (by simp [hentry]))
      (settle_trace ..)

/-- A resolution to a type with a fallback, if it permits sequences, takes one of the courses. -/
theorem resolveAt_course (depth : Nat)
    (hperm : target.descriptor.sequenceFallback.isSome = target.sequenceElement.isSome) :
    Course s.types v target (resolveAt h config depth v target s).1 := by
  -- After an undecided direct stage, a type that permits sequences has its whole plan tried.
  have htried : ∀ {trace s₁ element}, resolveDirectly h config v target s = (.undecided trace, s₁) →
      target.sequenceElement = some element →
      trace.attempt .sequence = { Trace.start v target with attempted := target.plan } := by
    intro trace s₁ element hdirect helement
    rw [← plan_of_fallback hdirect (by rw [hperm, helement]; rfl), trace_of_undecided hdirect]
    rfl
  have hends := resolveAt_ends h config depth v target s
  generalize resolveAt h config depth v target s = p at hends ⊢
  cases hends with
  | directly hdirect => exact course_of_decided hdirect
  | noFallback hdirect helement =>
    refine .exhausted (identity?_of_undecided hdirect) (congrArg (Resolution.mk _) ?_)
    rw [helement] at hperm
    rw [← plan_of_noFallback hdirect hperm, trace_of_undecided hdirect]
  | notAggregable hdirect helement =>
    exact .exhausted (identity?_of_undecided hdirect)
      (congrArg (Resolution.mk _) (htried hdirect helement))
  | view hdirect helement | empty hdirect helement =>
    obtain ⟨tried, hplan⟩ := CanonicalType.exists_sequence_plan (by rw [hperm, helement]; rfl)
    refine .decided tried (identity?_of_undecided hdirect) (by rw [hplan]) ?_
    rw [hplan, aggregated, htried hdirect helement]
    rfl
  | unregistered hdirect helement =>
    exact .exhausted (identity?_of_undecided hdirect)
      (congrArg (Resolution.mk _) (htried hdirect helement))
  | elementFails hdirect helement =>
    exact .exhausted (identity?_of_undecided hdirect)
      (congrArg (Resolution.mk _) (htried hdirect helement))
  | @stacked _ _ _ _ _ _ slices hdirect helement =>
    simp only [stacked]
    cases Tensor.stack slices with
    | error e =>
      exact .exhausted (identity?_of_undecided hdirect)
        (congrArg (Resolution.mk _) (htried hdirect helement))
    | ok t =>
      obtain ⟨tried, hplan⟩ := CanonicalType.exists_sequence_plan (by rw [hperm, helement]; rfl)
      refine .decided tried (identity?_of_undecided hdirect) (by rw [hplan]) ?_
      simp only [hplan, aggregated, htried hdirect helement]
      rfl

/-! ## Whose failure it is -/

/-- Converters are run for the value and for what is inside of it. -/
theorem Invokes.sizeOf_value_le {depth : Nat} {c : Invocation ω κ η}
    (hi : Invokes h config depth v target s c) : sizeOf c.value ≤ sizeOf v := by
  induction hi with
  | replayed => exact Nat.le_refl _
  | found => exact Nat.le_refl _
  | @element _ items _ _ item _ _ _ _ _ _ _ _ _ _ _ _ _ hitems _ _ ih =>
    have hsmaller : sizeOf item < sizeOf items := List.sizeOf_lt_of_mem (by simp [hitems])
    rw [Value.sequence.sizeOf_spec]
    omega

/-- What foreign code answers for the value of a task settles the task. -/
theorem OwnAnswer.settles {k : Task ω κ η} {strategy : Strategy}
    {answer : Except ConverterError (Payload ω)} (ho : OwnAnswer h config k strategy answer) :
    ∃ trace, (k.resolve h config).1 = settle k.target k.value.producer strategy trace answer := by
  obtain ⟨depth, v, target, s⟩ := k
  have decided : ∀ {r}, (resolveDirectly h config v target s).1 = .decided r →
      (Task.resolve h config ⟨depth, v, target, s⟩).1 = r :=
    fun hdirect => congrArg Prod.fst (resolveAt_of_decided (Prod.ext hdirect rfl))
  cases ho with
  | @converter entry s₁ hruns =>
    generalize hc : (⟨entry, v, target, s₁⟩ : Invocation ω κ η) = c at hruns
    cases hruns with
    | replayed hid hlook =>
      cases hc
      refine ⟨{ Trace.start v target with cacheHit := true }, decided ?_⟩
      simp only [resolveDirectly, hid, hlook, replay]
      rfl
    | found hid hlook hreplay hfound =>
      cases hc
      refine ⟨(Trace.start v target).attempt .registry, decided ?_⟩
      simp only [resolveDirectly, hid, hlook, hreplay, resolveByLookup,
        ConverterRegistry.lookupWithGeneration, hfound]
      rfl
    | @element _ items _ _ item _ _ _ _ _ _ _ _ _ _ _ _ _ hitems _ hinner =>
      -- Inside the sequence, converters are run for smaller values.
      have hsmaller : sizeOf item < sizeOf items := List.sizeOf_lt_of_mem (by simp [hitems])
      have hsize := hinner.sizeOf_value_le
      rw [← hc, Value.sequence.sizeOf_spec] at hsize
      omega
  | @protocol o entryPoint s₁ hobject hruns =>
    obtain rfl : v = .object o := hobject
    simp only at hruns
    cases hruns with
    | replayed hid hlook _ hentry =>
      refine ⟨{ Trace.start (.object o) target with cacheHit := true }, decided ?_⟩
      simp only [resolveDirectly, hid, hlook, replay, Value.object?, hentry]
      rfl
    | found hid hlook hreplay hfound _ hentry hconforms =>
      refine ⟨((Trace.start (.object o) target).attempt .registry).attempt .protocol, decided ?_⟩
      simp only [resolveDirectly, hid, hlook, hreplay, resolveByLookup,
        ConverterRegistry.lookupWithGeneration, hfound, resolveByProtocol, hentry, Value.object?,
        if_pos hconforms]
      rfl

/-- The failure of an inner resolution becomes the failure of the whole, and no strategy is blamed
for it. -/
theorem Reaches.fails {k place : Task ω κ η} {path : List Nat} {failure : ResolutionFailure}
    (hr : Reaches h config k path place)
    (hf : (place.resolve h config).1.result = .error failure) :
    (k.resolve h config).1.result = .error failure ∧
      (path ≠ [] → (k.resolve h config).1.trace.strategy = none) := by
  induction hr with
  | here => exact ⟨hf, fun hne => absurd rfl hne⟩
  | @element depth items pre post item target elementType slices s s₁ s₂ path place hopens hitems
      hpre _ ih =>
    obtain ⟨hitem, -⟩ := ih hf
    obtain ⟨trace, hdirect⟩ := hopens.direct
    simp only [Task.resolve] at hitem ⊢
    generalize hp : resolveAt h config (depth + 1) item elementType s₂ = p at hitem
    obtain ⟨⟨result, t⟩, s₃⟩ := p
    obtain rfl : result = .error failure := hitem
    have hall : resolveItems h config (depth + 1) target elementType 0 items s₁ =
        (.error failure, s₃) :=
      resolveItems_eq_error_iff.2 ⟨pre, item, post, slices, s₂, _, hitems, hpre, hp, .failed⟩
    rw [hopens.resolveAt_eq (by simp [hitems]) hdirect, hall]
    have hnone := strategy_of_undecided hdirect
    exact ⟨rfl, fun _ => hnone⟩

/-- A failure that has a strategy was decided by the direct stage. -/
theorem strategy_eq_some_iff {k : Task ω κ η} {failure : ResolutionFailure}
    {strategy : Strategy} (hf : (k.resolve h config).1.result = .error failure) :
    (k.resolve h config).1.trace.strategy = some strategy ↔
      ∃ e, OwnAnswer h config k strategy (.error e) ∧
        failure = .converter k.target.name k.value.producer strategy e := by
  constructor
  · intro hstrategy
    obtain ⟨depth, v, target, s⟩ := k
    have hends := resolveAt_ends h config depth v target s
    simp only [Task.resolve] at hf hstrategy
    generalize resolveAt h config depth v target s = p at hends hf hstrategy
    cases hends with
    | directly hdirect =>
      obtain ⟨strategy', e, hanswer, hstrategy', rfl⟩ := ownAnswer_of_decided depth hdirect hf
      cases hstrategy.symm.trans hstrategy'
      exact ⟨e, hanswer, rfl⟩
    | noFallback hdirect => cases (strategy_of_undecided hdirect).symm.trans hstrategy
    | notAggregable hdirect => cases (strategy_of_undecided hdirect).symm.trans hstrategy
    | view => cases hf
    | empty => cases hf
    | unregistered hdirect => cases (strategy_of_undecided hdirect).symm.trans hstrategy
    | elementFails hdirect => cases (strategy_of_undecided hdirect).symm.trans hstrategy
    | stacked hdirect =>
      obtain ⟨e, hstack, -⟩ := stacked_result_eq_error_iff.1 hf
      simp only [CanonicalTypes.stacked, hstack] at hstrategy
      cases (strategy_of_undecided hdirect).symm.trans hstrategy
  · rintro ⟨e, hanswer, -⟩
    obtain ⟨trace, hsettled⟩ := hanswer.settles
    rw [hsettled, settle_trace]
    rfl

/-! ## The trace and the outcome -/

/-- The trace of a task agrees with what the task comes to. -/
structure Consistent (h : Host ω κ η) (config : EngineConfig) (k : Task ω κ η)
    (r : Resolution ω) : Prop where
  /-- A success has a strategy. -/
  strategy_of_ok : ∀ c, r.result = .ok c → r.trace.strategy.isSome
  /-- It is the identity for instances of the target, and for nothing else. -/
  identity_iff : r.trace.strategy = some .identity ↔
    ∃ c, k.value = .canonical c ∧ k.system.types.isSameOrAncestor k.target.id c.typeId = true
  /-- Then nothing was tried or replayed. -/
  of_identity : r.trace.strategy = some .identity →
    r.trace.attempted = [] ∧ r.trace.cacheHit = false
  /-- Converters and the protocol can be replayed, without anything being tried. -/
  of_cacheHit : r.trace.cacheHit = true →
    (r.trace.strategy = some .registry ∨ r.trace.strategy = some .protocol) ∧
      r.trace.attempted = []
  /-- Otherwise the first of the strategies were tried that the target provides for, and the last of
  them decided if any did. -/
  otherwise : r.trace.strategy ≠ some .identity → r.trace.cacheHit = false →
    r.trace.attempted ≠ [] ∧ r.trace.attempted <+: k.target.plan ∧
      ∀ strategy, r.trace.strategy = some strategy → r.trace.attempted.getLast? = some strategy
  /-- Without a strategy all were tried in vain. -/
  of_no_strategy : r.trace.strategy = none →
    (∃ failure, r.result = .error failure) ∧ r.trace.attempted = k.target.plan
  /-- A failure has a strategy if and only if it is what foreign code answered by this strategy, run
  for the value itself. -/
  strategy_of_error : ∀ failure, r.result = .error failure → ∀ strategy,
    r.trace.strategy = some strategy ↔ ∃ e, OwnAnswer h config k strategy (.error e) ∧
      failure = .converter k.target.name k.value.producer strategy e
  /-- The failure of an element at any depth is handed on without one. -/
  of_element : ∀ path place failure, path ≠ [] → Reaches h config k path place →
    (place.resolve h config).1.result = .error failure →
      r.result = .error failure ∧ r.trace.strategy = none

/-- A task for a registered type has a consistent trace. -/
theorem Task.consistent {k : Task ω κ η} (hs : k.system.types.WellFormed)
    (ht : k.system.types.get? k.target.id = some k.target) :
    Consistent h config k (k.resolve h config).1 := by
  have course : Course k.system.types k.value k.target (k.resolve h config).1 :=
    resolveAt_course k.depth (hs.sequenceElement_isSome ht).symm
  exact {
    strategy_of_ok := fun _ => course.strategy_isSome
    identity_iff := course.identity_iff
    of_identity := course.of_identity
    of_cacheHit := course.of_cacheHit
    otherwise := course.otherwise
    of_no_strategy := course.of_no_strategy
    strategy_of_error := fun _ hf _ => strategy_eq_some_iff hf
    of_element := fun _ _ _ hne hreaches hf =>
      let ⟨hfailure, hstrategy⟩ := hreaches.fails hf
      ⟨hfailure, hstrategy hne⟩ }

/-- **The trace is consistent with the outcome.** In a reachable system, a resolution to an id that
is not registered fails as that and has tried nothing. A resolution to a registered type has a trace
that agrees with what it comes to: see `Consistent` for all that this says. -/
theorem trace_consistent (h : Host ω κ η) (hs : s.Reachable) (v : Value ω) (id : TypeId) :
    let r := (resolveTraced h v id s).1
    (s.types.get? id = none → r.result = .error (.unknownType id.text v.producer) ∧
      r.trace.strategy = none ∧ r.trace.cacheHit = false ∧ r.trace.attempted = []) ∧
    ∀ target, s.types.get? id = some target →
      Consistent h s.engine.config ⟨0, v, target, s⟩ r := by
  intro r
  constructor
  · intro hnone
    have hr : r = ⟨.error (.unknownType id.text v.producer),
        { producer := v.producer, target := id }⟩ := by
      simp only [r, resolveTraced, hnone]
    rw [hr]
    exact ⟨rfl, rfl, rfl, rfl⟩
  · intro target ht
    obtain rfl := hs.wellFormed.id_of_get? ht
    rw [show r = _ from resolveTraced_fst ht]
    exact Task.consistent (k := ⟨0, v, target, s⟩) hs.wellFormed ht

/-- The first element of a sequence is replayed from the cache, the second one fails: the trace is the
one of the sequence. -/
theorem trace_consistent_element :
    let s := run literalHost (.new {} ()) [.installBuiltins, .resolve (.scalar (.int 1)) "Tensor"]
    let v : Value FixtureObject := .sequence [.scalar (.int 2), .object .unrelated]
    let r := (resolveTraced literalHost v ⟨0⟩ s).1
    s.Reachable ∧ s.types.get? ⟨0⟩ = some Builtins.tensorType ∧ s.types.get? ⟨9⟩ = none ∧
    Consistent literalHost {} ⟨0, v, Builtins.tensorType, s⟩ r ∧
    r.trace.strategy = none ∧ r.trace.cacheHit = false ∧
    r.trace.attempted = [.registry, .protocol, .sequence] ∧
    (∃ failure, r.result = .error failure) ∧
    (resolveTraced literalHost v ⟨9⟩ s).1.trace.attempted = [] := by
  intro s v r
  have hs : s.Reachable := reachable_run (Host.pure_lawful _ _) {} () _
  have ht : s.types.get? ⟨0⟩ = some Builtins.tensorType := by decide +kernel
  have hnone : s.types.get? ⟨9⟩ = none := by decide +kernel
  have hc := (trace_consistent literalHost hs v ⟨0⟩).2 _ ht
  have hstrategy : r.trace.strategy = none := rfl
  obtain ⟨hfailed, hattempted⟩ := hc.of_no_strategy hstrategy
  obtain ⟨-, -, -, hnothing⟩ := (trace_consistent literalHost hs v ⟨9⟩).1 hnone
  exact ⟨hs, ht, hnone, hc, hstrategy, rfl, hattempted, hfailed, hnothing⟩

end CanonicalTypes
