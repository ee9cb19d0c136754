import CanonicalTypes.Proofs.Resolution.Stages

/-!
# All that a resolution can come to

`Ends` lists the ways out of a whole resolution, one constructor for each, beginning with the direct
stage; `resolveAt_ends` says that the list is complete. The elements of a sequence are resolved one
after the other, each in the system that the one before has left: `BecomeTensors` says that all of
them become tensors, which is when a sequence has slices to stack (`resolveItems_eq_ok_iff`), and
otherwise there is a first one that does not (`resolveItems_eq_error_iff`).

What is tried on the way is laid down by the target: `CanonicalType.plan`.
-/
namespace CanonicalTypes

variable {ω κ η : Type} [ForeignObject ω] {h : Host ω κ η} {config : EngineConfig} {depth : Nat}
  {target : CanonicalType} {s s' : TypeSystem κ η} {v : Value ω}

omit [ForeignObject ω] in
/-- What holds of a value if it holds of its elements, holds of every value. -/
@[elab_as_elim]
theorem Value.induction {motive : Value ω → Prop}
    (step : ∀ v, (∀ items, v = .sequence items → ∀ w ∈ items, motive w) → motive v)
    (v : Value ω) : motive v :=
  @Value.rec ω motive (fun items => ∀ w ∈ items, motive w) (fun _ => step _ (by simp))
    (fun _ hitems => step _ (by rintro _ ⟨⟩; exact hitems)) (fun _ => step _ (by simp))
    (fun _ => step _ (by simp)) (fun _ h => nomatch h)
    (fun _ _ hw hrest => List.forall_mem_cons.2 ⟨hw, hrest⟩) v

/-! ## What is tried -/

/-- The strategies that a resolution to a type tries in order, as long as none of them decides. -/
def CanonicalType.plan (t : CanonicalType) : List Strategy :=
  .registry :: ((if t.descriptor.entryPoint.isSome then [.protocol] else []) ++
    if t.descriptor.sequenceFallback.isSome then [.sequence] else [])

/-- A direct stage that decides nothing has tried what comes before sequences. -/
theorem trace_of_undecided {trace : Trace}
    (hdirect : resolveDirectly h config v target s = (.undecided trace, s')) :
    trace = { Trace.start v target with
      attempted := .registry :: if target.descriptor.entryPoint.isSome then [.protocol] else [] } := by
  have hd := resolveDirectly_directly h config v target s
  rw [hdirect] at hd
  cases hd with
  | undecided hit s₁ trace _ _ _ _ _ htrace =>
    rw [htrace]
    split <;> rfl

theorem producer_of_undecided {trace : Trace}
    (hdirect : resolveDirectly h config v target s = (.undecided trace, s')) :
    trace.producer = v.producer := by
  rw [trace_of_undecided hdirect]
  rfl

theorem strategy_of_undecided {trace : Trace}
    (hdirect : resolveDirectly h config v target s = (.undecided trace, s')) :
    trace.strategy = none := by
  rw [trace_of_undecided hdirect]
  rfl

/-- A direct stage that decides does not do so by looking into sequences. -/
theorem strategy_of_decided {r : Resolution ω}
    (hdirect : resolveDirectly h config v target s = (.decided r, s')) :
    r.trace.strategy ≠ some .sequence := by
  have hways := resolveDirectly_directly h config v target s
  rw [hdirect] at hways
  cases hways with
  | identity => simp [Trace.decide]
  | replayedConverter => simp [Trace.decide]
  | replayedProtocol => simp [Trace.decide]
  | converter _ _ _ _ _ _ _ _ hr => simp [hr, Trace.decide]
  | protocol _ _ _ _ _ _ _ _ _ _ _ _ hr => simp [hr, Trace.decide]

/-- If the target does not permit sequences, then all has been tried. -/
theorem plan_of_noFallback {trace : Trace}
    (hdirect : resolveDirectly h config v target s = (.undecided trace, s'))
    (hfallback : target.descriptor.sequenceFallback.isSome = false) :
    trace.attempted = target.plan := by
  rw [trace_of_undecided hdirect, CanonicalType.plan, hfallback]
  simp

/-- If it permits them, then only they are left to be tried. -/
theorem plan_of_fallback {trace : Trace}
    (hdirect : resolveDirectly h config v target s = (.undecided trace, s'))
    (hfallback : target.descriptor.sequenceFallback.isSome = true) :
    (trace.attempt .sequence).attempted = target.plan := by
  rw [trace_of_undecided hdirect, CanonicalType.plan, hfallback]
  simp [Trace.attempt]

/-! ## Elements in turn -/

/-- Values that are resolved in turn all become tensors. -/
inductive BecomeTensors (h : Host ω κ η) (config : EngineConfig) (depth : Nat)
    (target : CanonicalType) :
    List (Value ω) → TypeSystem κ η → List Tensor → TypeSystem κ η → Prop where
  | nil {s : TypeSystem κ η} : BecomeTensors h config depth target [] s [] s
  | cons {v : Value ω} {rest : List (Value ω)} {s s₁ s₂ : TypeSystem κ η} {id : TypeId}
      {t : Tensor} {trace : Trace} {slices : List Tensor}
      (hv : resolveAt h config depth v target s = (⟨.ok ⟨id, .tensor t⟩, trace⟩, s₁))
      (hrest : BecomeTensors h config depth target rest s₁ slices s₂) :
      BecomeTensors h config depth target (v :: rest) s (t :: slices) s₂

theorem BecomeTensors.length_eq {items : List (Value ω)} {slices : List Tensor}
    (ht : BecomeTensors h config depth target items s slices s') :
    slices.length = items.length := by
  induction ht with
  | nil => rfl
  | cons _ _ ih => rw [List.length_cons, List.length_cons, ih]

theorem BecomeTensors.ne_nil {items : List (Value ω)} {slices : List Tensor}
    (ht : BecomeTensors h config depth target items s slices s') (hne : items ≠ []) :
    slices ≠ [] := by
  rw [← List.length_pos_iff, ht.length_eq, List.length_pos_iff]
  exact hne

/-- A resolution of a sequence goes on to its elements: they are resolved to `elementType`, the first
of them in the system `s₁`. -/
structure OpensSequence (h : Host ω κ η) (config : EngineConfig) (depth : Nat)
    (items : List (Value ω)) (target : CanonicalType) (s : TypeSystem κ η)
    (elementType : CanonicalType) (s₁ : TypeSystem κ η) : Prop where
  direct : ∃ trace, resolveDirectly h config (.sequence items) target s = (.undecided trace, s₁)
  depth_lt : depth < config.maxSequenceDepth
  element : ∃ id, target.sequenceElement = some id ∧ s₁.types.get? id = some elementType

/-- The failure of a sequence with an element that became no tensor. -/
def ResolutionFailure.notDense (outer : CanonicalType) (index : Nat) : ResolutionFailure :=
  .raggedOrMixedElements outer.name ProducerType.sequence
    s!"element {index} resolved to a non-dense payload"

/-- A value that is resolved fails, or becomes a handle, with this failure of its sequence. -/
inductive FailsElement (outer : CanonicalType) (index : Nat) :
    Resolution ω → ResolutionFailure → Prop where
  | failed {failure : ResolutionFailure} {trace : Trace} :
      FailsElement outer index ⟨.error failure, trace⟩ failure
  | notDense {id : TypeId} {o : ω} {trace : Trace} :
      FailsElement outer index ⟨.ok ⟨id, .handle o⟩, trace⟩ (.notDense outer index)

/-- A sequence has slices if and only if its elements become them. -/
theorem resolveItems_eq_ok_iff {outer : CanonicalType} {index : Nat} {items : List (Value ω)}
    {slices : List Tensor} :
    resolveItems h config depth outer target index items s = (.ok slices, s') ↔
      BecomeTensors h config depth target items s slices s' := by
  induction items generalizing index s slices with
  | nil =>
    rw [resolveItems.eq_def]
    constructor
    · rintro ⟨⟩
      exact .nil
    · rintro ⟨⟩
      rfl
  | cons v rest ih =>
    rw [resolveItems.eq_def]
    constructor
    · intro hok
      simp only at hok
      generalize hv : resolveAt h config depth v target s = p at hok
      obtain ⟨⟨failure | ⟨id, t | o⟩, trace⟩, s₁⟩ := p
      · cases hok
      · simp only at hok
        generalize hrest : resolveItems h config depth outer target (index + 1) rest s₁ = q at hok
        obtain ⟨failure | slices', s₂⟩ := q
        · cases hok
        · cases hok
          exact .cons hv (ih.1 hrest)
      · cases hok
    · rintro ⟨⟩
      next hv hrest => simp only [hv, ih.2 hrest]

/-- A sequence fails at the first of its elements that becomes no tensor. -/
theorem resolveItems_eq_error_iff {outer : CanonicalType} {index : Nat} {items : List (Value ω)}
    {failure : ResolutionFailure} :
    resolveItems h config depth outer target index items s = (.error failure, s') ↔
      ∃ pre v post slices s₁ r, items = pre ++ v :: post ∧
        BecomeTensors h config depth target pre s slices s₁ ∧
        resolveAt h config depth v target s₁ = (r, s') ∧
        FailsElement outer (index + pre.length) r failure := by
  induction items generalizing index s with
  | nil =>
    rw [resolveItems.eq_def]
    constructor
    · rintro ⟨⟩
    · rintro ⟨pre, v, post, -, -, -, hitems, -⟩
      cases pre <;> cases hitems
  | cons v rest ih =>
    rw [resolveItems.eq_def]
    constructor
    · intro herror
      simp only at herror
      generalize hv : resolveAt h config depth v target s = p at herror
      obtain ⟨⟨failure' | ⟨id, t | o⟩, trace⟩, s₁⟩ := p
      · cases herror
        exact ⟨[], v, rest, [], s, _, rfl, .nil, hv, .failed⟩
      · -- The head became a tensor, so the failing element is further to the right.
        simp only at herror
        generalize hrest : resolveItems h config depth outer target (index + 1) rest s₁ = q
          at herror
        obtain ⟨failure' | slices', s₂⟩ := q
        · cases herror
          obtain ⟨pre, w, post, slices, s₂, r, rfl, hpre, hw, hfails⟩ := ih.1 hrest
          refine ⟨v :: pre, w, post, t :: slices, s₂, r, rfl, .cons hv hpre, hw, ?_⟩
          rwa [List.length_cons, Nat.add_comm pre.length, ← Nat.add_assoc]
        · cases herror
      · cases herror
        exact ⟨[], v, rest, [], s, _, rfl, .nil, hv, .notDense⟩
    · rintro ⟨pre, w, post, slices, s₁, r, hitems, hpre, hw, hfails⟩
      cases hpre with
      | nil =>
        cases hitems
        cases hfails <;> simp only [hw]
        rfl
      | cons hv hpre =>
        cases hitems
        rw [List.length_cons, Nat.add_comm _ 1, ← Nat.add_assoc] at hfails
        simp only [hv, ih.2 ⟨_, w, post, _, s₁, r, rfl, hpre, hw, hfails⟩]

/-! ## Whole resolutions -/

/-- A value that may be aggregated inside `depth` sequences: an object with a dense view, or a
sequence that is not nested too deep. -/
def Value.Aggregable (config : EngineConfig) (depth : Nat) : Value ω → Prop
  | .object o => (ForeignObject.denseView o).isSome
  | .sequence _ => depth < config.maxSequenceDepth
  | _ => False

/-- The ways out of a resolution. -/
inductive Ends (h : Host ω κ η) (config : EngineConfig) (depth : Nat) (v : Value ω)
    (target : CanonicalType) (s : TypeSystem κ η) : Resolution ω × TypeSystem κ η → Prop where
  /-- The direct stage decides. -/
  | directly {r : Resolution ω} {s₁ : TypeSystem κ η}
      (hdirect : resolveDirectly h config v target s = (.decided r, s₁)) :
      Ends h config depth v target s (r, s₁)
  /-- The target does not permit sequences. -/
  | noFallback {trace : Trace} {s₁ : TypeSystem κ η}
      (hdirect : resolveDirectly h config v target s = (.undecided trace, s₁))
      (helement : target.sequenceElement = none) :
      Ends h config depth v target s (notFound target trace, s₁)
  /-- The value cannot be aggregated here. -/
  | notAggregable {trace : Trace} {s₁ : TypeSystem κ η} {element : TypeId}
      (hdirect : resolveDirectly h config v target s = (.undecided trace, s₁))
      (helement : target.sequenceElement = some element) (hv : ¬ v.Aggregable config depth) :
      Ends h config depth v target s (notFound target (trace.attempt .sequence), s₁)
  /-- The value is an object with a dense view. -/
  | view {trace : Trace} {s₁ : TypeSystem κ η} {element : TypeId} {o : ω} {t : Tensor}
      (hdirect : resolveDirectly h config v target s = (.undecided trace, s₁))
      (helement : target.sequenceElement = some element) (hv : v = .object o)
      (hview : ForeignObject.denseView o = some t) :
      Ends h config depth v target s (aggregated target (trace.attempt .sequence) t, s₁)
  /-- The value is the empty sequence. -/
  | empty {trace : Trace} {s₁ : TypeSystem κ η} {element : TypeId}
      (hdirect : resolveDirectly h config v target s = (.undecided trace, s₁))
      (helement : target.sequenceElement = some element) (hv : v = .sequence [])
      (hdepth : depth < config.maxSequenceDepth) :
      Ends h config depth v target s
        (aggregated target (trace.attempt .sequence) (Tensor.empty .f64), s₁)
  /-- The element type is not registered. -/
  | unregistered {trace : Trace} {s₁ : TypeSystem κ η} {element : TypeId} {items : List (Value ω)}
      (hdirect : resolveDirectly h config v target s = (.undecided trace, s₁))
      (helement : target.sequenceElement = some element) (hv : v = .sequence items)
      (htype : s₁.types.get? element = none) :
      Ends h config depth v target s
        (⟨.error (.unknownType element.text trace.producer), trace.attempt .sequence⟩, s₁)
  /-- An element becomes no tensor. -/
  | elementFails {trace : Trace} {s₁ s₂ : TypeSystem κ η} {element : TypeId}
      {elementType : CanonicalType} {items : List (Value ω)} {failure : ResolutionFailure}
      (hdirect : resolveDirectly h config v target s = (.undecided trace, s₁))
      (helement : target.sequenceElement = some element) (hv : v = .sequence items)
      (hdepth : depth < config.maxSequenceDepth) (htype : s₁.types.get? element = some elementType)
      (hitems : resolveItems h config (depth + 1) target elementType 0 items s₁ =
        (.error failure, s₂)) :
      Ends h config depth v target s (⟨.error failure, trace.attempt .sequence⟩, s₂)
  /-- All elements become tensors, which are stacked. -/
  | stacked {trace : Trace} {s₁ s₂ : TypeSystem κ η} {element : TypeId}
      {elementType : CanonicalType} {items : List (Value ω)} {slices : List Tensor}
      (hdirect : resolveDirectly h config v target s = (.undecided trace, s₁))
      (helement : target.sequenceElement = some element) (hv : v = .sequence items)
      (hne : items ≠ []) (hdepth : depth < config.maxSequenceDepth)
      (htype : s₁.types.get? element = some elementType)
      (hitems : BecomeTensors h config (depth + 1) elementType items s₁ slices s₂) :
      Ends h config depth v target s
        (CanonicalTypes.stacked target (trace.attempt .sequence) slices, s₂)

/-- A resolution ends in one of these ways. -/
theorem resolveAt_ends (h : Host ω κ η) (config : EngineConfig) (depth : Nat) (v : Value ω)
    (target : CanonicalType) (s : TypeSystem κ η) :
    Ends h config depth v target s (resolveAt h config depth v target s) := by
  rw [resolveAt.eq_def]
  generalize hdirect : resolveDirectly h config v target s = p
  obtain ⟨r | trace, s₁⟩ := p
  · exact .directly hdirect
  cases helement : target.sequenceElement with
  | none => exact .noFallback hdirect helement
  | some element =>
    cases v with
    | scalar => exact .notAggregable hdirect helement (by simp [Value.Aggregable])
    | canonical => exact .notAggregable hdirect helement (by simp [Value.Aggregable])
    | object o =>
      simp only
      cases hview : ForeignObject.denseView o with
      | none => exact .notAggregable hdirect helement (by simp [Value.Aggregable, hview])
      | some t => exact .view hdirect helement rfl hview
    | sequence items =>
      simp only
      split
      next hdepth =>
        cases items with
        | nil => exact .empty hdirect helement rfl hdepth
        | cons v rest =>
          simp only [List.isEmpty_cons, Bool.false_eq_true, if_false]
          cases htype : s₁.types.get? element with
          | none => exact .unregistered hdirect helement rfl htype
          | some elementType =>
            simp only
            generalize hitems : resolveItems h config (depth + 1) target elementType 0 (v :: rest)
              s₁ = q
            obtain ⟨failure | slices, s₂⟩ := q
            · exact .elementFails hdirect helement rfl hdepth htype hitems
            · exact .stacked hdirect helement rfl (by simp) hdepth htype
                (resolveItems_eq_ok_iff.1 hitems)
      next hdepth => exact .notAggregable hdirect helement hdepth

/-! ## Sequences that are opened -/

/-- Once a sequence is opened, what its elements become decides. -/
theorem OpensSequence.resolveAt_eq {items : List (Value ω)} {elementType : CanonicalType}
    {s₁ : TypeSystem κ η} (hopens : OpensSequence h config depth items target s elementType s₁)
    (hne : items ≠ []) {trace : Trace}
    (hdirect : resolveDirectly h config (.sequence items) target s = (.undecided trace, s₁)) :
    resolveAt h config depth (.sequence items) target s =
      match resolveItems h config (depth + 1) target elementType 0 items s₁ with
      | (.error failure, s₂) => (⟨.error failure, trace.attempt .sequence⟩, s₂)
      | (.ok slices, s₂) => (stacked target (trace.attempt .sequence) slices, s₂) := by
  obtain ⟨-, hdepth, element, helement, htype⟩ := hopens
  have hempty : items.isEmpty = false := by simpa using hne
  rw [resolveAt.eq_def]
  generalize hitems : resolveItems h config (depth + 1) target elementType 0 items s₁ = q
  obtain ⟨failure | slices, s₂⟩ := q <;>
    simp only [hdirect, helement, if_pos hdepth, hempty, Bool.false_eq_true, if_false, htype,
      hitems]

/-- A sequence that succeeds as such is empty, or becomes the stack of what its elements become. -/
theorem slices_of_sequence {items : List (Value ω)} {c : CanonicalValue ω}
    (hok : (resolveAt h config depth (.sequence items) target s).1.result = .ok c)
    (hstrategy : (resolveAt h config depth (.sequence items) target s).1.trace.strategy =
      some .sequence) :
    items = [] ∨ ∃ elementType s₁ slices t,
      OpensSequence h config depth items target s elementType s₁ ∧
      BecomeTensors h config (depth + 1) elementType items s₁ slices
        (resolveAt h config depth (.sequence items) target s).2 ∧
      Tensor.stack slices = .ok t ∧ c = ⟨target.id, .tensor t⟩ := by
  have hends := resolveAt_ends h config depth (.sequence items) target s
  generalize resolveAt h config depth (.sequence items) target s = p at hok hstrategy hends ⊢
  cases hends with
  | directly hdirect => exact absurd hstrategy (strategy_of_decided hdirect)
  | noFallback => cases hok
  | notAggregable => cases hok
  | view _ _ hv => cases hv
  | empty _ _ hv =>
    cases hv
    exact .inl rfl
  | unregistered => cases hok
  | elementFails => cases hok
  | stacked hdirect helement hv _ hdepth htype hitems =>
    cases hv
    obtain ⟨t, hstack, rfl⟩ := stacked_result_eq_ok_iff.1 hok
    exact .inr ⟨_, _, _, t, ⟨⟨_, hdirect⟩, hdepth, _, helement, htype⟩, hitems, hstack, rfl⟩

end CanonicalTypes
