import CanonicalTypes.Proofs.Resolution.Stages

/-!
# The converters that a resolution runs

`Invokes` relates a resolution to each run of a converter in it, at any depth, with the system in
which the converter is run. The list is complete: a resolution does not depend on what a host's
converters do anywhere else (`resolveAt_congr`).
-/
namespace CanonicalTypes

variable {ω κ η : Type} [ForeignObject ω]

/-- One run of a converter, on a value that is to become the target. -/
structure Invocation (ω κ η : Type) where
  entry : ConverterEntry κ
  value : Value ω
  target : CanonicalType
  system : TypeSystem κ η

/-- The converters that are run when a value inside `depth` aggregated sequences is resolved. -/
inductive Invokes (h : Host ω κ η) (config : EngineConfig) :
    Nat → Value ω → CanonicalType → TypeSystem κ η → Invocation ω κ η → Prop where
  /-- The cache knows the converter. -/
  | replayed {depth : Nat} {v : Value ω} {target : CanonicalType} {s s₁ : TypeSystem κ η}
      {entry : ConverterEntry κ} (hid : identity? s.types target.id v = none)
      (hlook : lookInCache config v.producer target.id s = (some (.registry entry), s₁)) :
      Invokes h config depth v target s ⟨entry, v, target, s₁⟩
  /-- A look-up finds the converter. -/
  | found {depth : Nat} {v : Value ω} {target : CanonicalType} {s s₁ : TypeSystem κ η}
      {hit : Option (CachedStrategy κ)} {entry : ConverterEntry κ}
      (hid : identity? s.types target.id v = none)
      (hlook : lookInCache config v.producer target.id s = (hit, s₁))
      (hreplay : replay h hit v target (Trace.start v target) s₁ = none)
      (hfound : s₁.converters.lookup v.producer v.supertypes target.id = some entry) :
      Invokes h config depth v target s ⟨entry, v, target, s₁⟩
  /-- An element of the sequence is resolved, those before it having become tensors. -/
  | element {depth : Nat} {items pre post : List (Value ω)} {item : Value ω}
      {target elementType : CanonicalType} {id : TypeId} {trace : Trace} {slices : List Tensor}
      {s s₁ s₂ : TypeSystem κ η} {c : Invocation ω κ η}
      (hdirect : resolveDirectly h config (.sequence items) target s = (.undecided trace, s₁))
      (helement : target.sequenceElement = some id) (hdepth : depth < config.maxSequenceDepth)
      (htype : s₁.types.get? id = some elementType) (hitems : items = pre ++ item :: post)
      (hpre : resolveItems h config (depth + 1) target elementType 0 pre s₁ = (.ok slices, s₂))
      (hinner : Invokes h config (depth + 1) item elementType s₂ c) :
      Invokes h config depth (.sequence items) target s c

/-! ## Nothing else is run -/

section

variable {h h' : Host ω κ η} {config : EngineConfig}

/-- Two hosts run a converter alike. -/
def Invocation.Agrees (h h' : Host ω κ η) (c : Invocation ω κ η) : Prop :=
  h.run c.entry.action c.value c.system = h'.run c.entry.action c.value c.system

theorem resolveDirectly_congr (hcanonicalize : h.canonicalize = h'.canonicalize) {depth : Nat}
    {v : Value ω} {target : CanonicalType} {s : TypeSystem κ η}
    (agrees : ∀ c, Invokes h config depth v target s c → c.Agrees h h') :
    resolveDirectly h config v target s = resolveDirectly h' config v target s := by
  unfold resolveDirectly
  cases hid : identity? s.types target.id v with
  | some c => rfl
  | none =>
    generalize hlook : lookInCache config v.producer target.id s = looked
    obtain ⟨hit, s₁⟩ := looked
    have hreplay : replay h hit v target (Trace.start v target) s₁ =
        replay h' hit v target (Trace.start v target) s₁ := by
      unfold replay
      split
      · rfl
      next entry =>
        have hrun := agrees ⟨entry, v, target, s₁⟩ (.replayed hid hlook)
        simp only [Invocation.Agrees] at hrun
        simp only [applyConverter, hrun]
      · simp only [applyProtocol, hcanonicalize]
    simp only [← hreplay]
    cases hr : replay h hit v target (Trace.start v target) s₁ with
    | some r => rfl
    | none =>
      simp only [resolveByLookup, ConverterRegistry.lookupWithGeneration]
      cases hfound : s₁.converters.lookup v.producer v.supertypes target.id with
      | none => simp only [resolveByProtocol, applyProtocol, hcanonicalize]
      | some entry =>
        have hrun := agrees ⟨entry, v, target, s₁⟩ (.found hid hlook hr hfound)
        simp only [Invocation.Agrees] at hrun
        simp only [applyConverter, hrun]

mutual

/-- If two hosts run every converter alike that a resolution runs, and canonicalize objects alike,
then the value resolves alike, to the same trace and the same system. -/
theorem resolveAt_congr (hcanonicalize : h.canonicalize = h'.canonicalize) :
    ∀ (v : Value ω) (depth : Nat) (target : CanonicalType) (s : TypeSystem κ η),
      (∀ c, Invokes h config depth v target s c → c.Agrees h h') →
        resolveAt h config depth v target s = resolveAt h' config depth v target s
  | .scalar literal, depth, target, s, agrees => by
    rw [resolveAt.eq_def, resolveAt.eq_def h', resolveDirectly_congr hcanonicalize agrees]
  | .canonical c, depth, target, s, agrees => by
    rw [resolveAt.eq_def, resolveAt.eq_def h', resolveDirectly_congr hcanonicalize agrees]
  | .object o, depth, target, s, agrees => by
    rw [resolveAt.eq_def, resolveAt.eq_def h', resolveDirectly_congr hcanonicalize agrees]
  | .sequence items, depth, target, s, agrees => by
    rw [resolveAt.eq_def, resolveAt.eq_def h', ← resolveDirectly_congr hcanonicalize agrees]
    generalize hdirect : resolveDirectly h config (.sequence items) target s = p
    obtain ⟨r | trace, s₁⟩ := p
    · rfl
    cases helement : target.sequenceElement with
    | none => rfl
    | some id =>
      simp only
      by_cases hdepth : depth < config.maxSequenceDepth
      · cases htype : s₁.types.get? id with
        | none => rfl
        | some elementType =>
          have hitems := resolveItems_congr hcanonicalize items (depth + 1) target elementType 0 s₁
            fun pre item post slices s₂ hitems hpre c hinner =>
              agrees c (.element hdirect helement hdepth htype hitems hpre hinner)
          simp only [hitems]
      · simp only [if_neg hdepth]

/-- The same for the elements of a sequence, from position `index` on. -/
theorem resolveItems_congr (hcanonicalize : h.canonicalize = h'.canonicalize) :
    ∀ (items : List (Value ω)) (depth : Nat) (outer elementType : CanonicalType) (index : Nat)
      (s : TypeSystem κ η),
      (∀ pre item post slices s₂, items = pre ++ item :: post →
        resolveItems h config depth outer elementType index pre s = (.ok slices, s₂) →
          ∀ c, Invokes h config depth item elementType s₂ c → c.Agrees h h') →
        resolveItems h config depth outer elementType index items s =
          resolveItems h' config depth outer elementType index items s
  | [], depth, outer, elementType, index, s, _ => by
    rw [resolveItems.eq_def, resolveItems.eq_def h']
  | v :: rest, depth, outer, elementType, index, s, agrees => by
    have hhead := resolveAt_congr hcanonicalize v depth elementType s
      (agrees [] v rest [] s rfl (by rw [resolveItems.eq_def]))
    rw [resolveItems.eq_def, resolveItems.eq_def h']
    simp only [← hhead]
    generalize hp : resolveAt h config depth v elementType s = p
    obtain ⟨⟨result, trace⟩, s₁⟩ := p
    match result with
    | .error failure => rfl
    | .ok ⟨_, .handle _⟩ => rfl
    | .ok ⟨_, .tensor t⟩ =>
      -- Before an element of the tail stands the head too, which became the tensor `t`.
      have htail := resolveItems_congr hcanonicalize rest depth outer elementType (index + 1) s₁
        fun pre item post slices s₂ hitems hpre =>
          agrees (v :: pre) item post (t :: slices) s₂ (by rw [hitems]; rfl)
            (by rw [resolveItems.eq_def]; simp only [hp, hpre])
      simp only [htail]

end

end

end CanonicalTypes
