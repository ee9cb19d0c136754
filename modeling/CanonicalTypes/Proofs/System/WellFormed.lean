import CanonicalTypes.Proofs.Resolution.Invocations
import CanonicalTypes.Proofs.Resolution.Transparency
import CanonicalTypes.Proofs.System.Aggregation
import CanonicalTypes.Proofs.Tensor.Stacking

/-!
# Well-formed tensors stay well-formed

A resolution takes tensors from four places: canonical values inside the value, converters, entry
points and dense views. If those tensors are well-formed (`WellSupplied`), so is the one that the
resolution ends with. Three kinds of tensors are made on the way, of scalars, of empty sequences and
by stacking. A stack has had its elements counted, so it only depends on its slices for their kinds
(`Tensor.WellFormed.stack`).

The main result is `resolution_wellFormed`. The induction is on the value, and the systems that the
elements of a sequence are resolved in are those that the elements before them have left.
-/
namespace CanonicalTypes

/-! ## Tensors that are made on the way -/

namespace Tensor

variable {t : Tensor}

theorem wellFormed_scalar (literal : Literal) : (scalar literal).WellFormed := by
  simp [WellFormed, scalar, Shape.exactCount, Shape.scalar]

theorem wellFormed_empty (dtype : DType) : (empty dtype).WellFormed := by
  simp [WellFormed, empty, Shape.exactCount, Shape.vector]

/-- A tensor that has been built lacks nothing but the right kind of its elements. -/
theorem wellFormed_of_build {dtype : DType} {shape : Shape} {elements : List Literal}
    (hkind : ∀ literal ∈ elements, literal.dtype = dtype)
    (hbuild : build dtype shape elements = .ok t) : t.WellFormed := by
  obtain ⟨hcount, rfl⟩ := build_eq_ok_iff.1 hbuild
  exact ⟨Shape.exactCount_of_elementCount? hcount, hkind⟩

/-- Stacks of well-formed slices are well-formed. -/
theorem WellFormed.stack {slices : List Tensor} (h : ∀ u ∈ slices, u.WellFormed)
    (hstack : stack slices = .ok t) : t.WellFormed := by
  cases slices with
  | nil => cases hstack
  | cons first rest =>
    obtain ⟨hall, hdtype, -, helements, hcount⟩ := stack_cons_eq_ok_iff.1 hstack
    refine ⟨Shape.exactCount_of_elementCount? hcount, fun literal hliteral => ?_⟩
    rw [helements, List.mem_flatMap] at hliteral
    obtain ⟨u, hu, hliteral⟩ := hliteral
    have hkind : u.dtype = first.dtype := by
      rcases List.mem_cons.1 hu with rfl | hu
      · rfl
      · exact (hall u hu).1
    rw [(h u hu).2 literal hliteral, hkind, hdtype]

end Tensor

/-- The tensor of a payload, if it is one, is well-formed. -/
def Payload.WellFormed {ω : Type} (p : Payload ω) : Prop := ∀ t, p = .tensor t → t.WellFormed

def Resolution.WellFormed {ω : Type} (r : Resolution ω) : Prop :=
  ∀ c, r.result = .ok c → c.payload.WellFormed

section

variable {ω : Type} {t : Tensor} {target : CanonicalType} {trace : Trace}

theorem Payload.wellFormed_tensor (ht : t.WellFormed) : (Payload.tensor t : Payload ω).WellFormed := by
  rintro _ ⟨⟩
  exact ht

theorem wellFormed_settle {producer : ProducerType} {strategy : Strategy}
    {answer : Except ConverterError (Payload ω)}
    (h : ∀ payload, answer = .ok payload → payload.WellFormed) :
    (settle target producer strategy trace answer).WellFormed := by
  intro c hc
  cases answer with
  | ok payload => cases hc; exact h payload rfl
  | error e => cases hc

theorem wellFormed_aggregated (ht : t.WellFormed) :
    (aggregated target trace t : Resolution ω).WellFormed := by
  rintro _ ⟨⟩
  exact Payload.wellFormed_tensor ht

theorem wellFormed_stacked {slices : List Tensor} (h : ∀ u ∈ slices, u.WellFormed) :
    (stacked target trace slices : Resolution ω).WellFormed := by
  intro c hc
  obtain ⟨t, hstack, rfl⟩ := stacked_result_eq_ok_iff.1 hc
  exact Payload.wellFormed_tensor (.stack h hstack)

theorem wellFormed_of_error {failure : ResolutionFailure} :
    Resolution.WellFormed (⟨.error failure, trace⟩ : Resolution ω) := by
  intro c hc
  cases hc

end

/-! ## Where tensors come from -/

variable {ω κ η : Type} [ForeignObject ω] {h : Host ω κ η} {config : EngineConfig}
  {s s₁ : TypeSystem κ η} {v : Value ω} {target : CanonicalType} {depth : Nat}

/-- One run of an object's entry point. -/
structure Canonicalization (ω κ η : Type) where
  object : ω
  entryPoint : String
  system : TypeSystem κ η

/-- The entry points that are run when a value inside `depth` aggregated sequences is resolved. -/
inductive Canonicalizes (h : Host ω κ η) (config : EngineConfig) :
    Nat → Value ω → CanonicalType → TypeSystem κ η → Canonicalization ω κ η → Prop where
  /-- The cache knows that the protocol applies. -/
  | replayed {depth : Nat} {v : Value ω} {target : CanonicalType} {s s₁ : TypeSystem κ η} {o : ω}
      {entryPoint : String} (hid : identity? s.types target.id v = none)
      (hlook : lookInCache config v.producer target.id s = (some .protocol, s₁))
      (hobject : v.object? = some o) (hentry : target.descriptor.entryPoint = some entryPoint) :
      Canonicalizes h config depth v target s ⟨o, entryPoint, s₁⟩
  /-- No converter is found, and the object conforms. -/
  | found {depth : Nat} {v : Value ω} {target : CanonicalType} {s s₁ : TypeSystem κ η}
      {hit : Option (CachedStrategy κ)} {o : ω} {entryPoint : String}
      (hid : identity? s.types target.id v = none)
      (hlook : lookInCache config v.producer target.id s = (hit, s₁))
      (hreplay : replay h hit v target (Trace.start v target) s₁ = none)
      (hfound : s₁.converters.lookup v.producer v.supertypes target.id = none)
      (hobject : v.object? = some o) (hentry : target.descriptor.entryPoint = some entryPoint)
      (hconforms : conformsObject o target.descriptor = true) :
      Canonicalizes h config depth v target s ⟨o, entryPoint, s₁⟩
  /-- An element of the sequence is resolved, those before it having become tensors. -/
  | element {depth : Nat} {items pre post : List (Value ω)} {item : Value ω}
      {target elementType : CanonicalType} {id : TypeId} {trace : Trace} {slices : List Tensor}
      {s s₁ s₂ : TypeSystem κ η} {c : Canonicalization ω κ η}
      (hdirect : resolveDirectly h config (.sequence items) target s = (.undecided trace, s₁))
      (helement : target.sequenceElement = some id) (hdepth : depth < config.maxSequenceDepth)
      (htype : s₁.types.get? id = some elementType) (hitems : items = pre ++ item :: post)
      (hpre : resolveItems h config (depth + 1) target elementType 0 pre s₁ = (.ok slices, s₂))
      (hinner : Canonicalizes h config (depth + 1) item elementType s₂ c) :
      Canonicalizes h config depth (.sequence items) target s c

/-- The tensors that are given to a resolution are well-formed: those that converters and entry
points return when it runs them, those that the objects in the value are views of, and those of the
canonical values in the value. -/
structure WellSupplied (h : Host ω κ η) (config : EngineConfig) (depth : Nat) (v : Value ω)
    (target : CanonicalType) (s : TypeSystem κ η) : Prop where
  converters : ∀ c, Invokes h config depth v target s c → ∀ tag, c.entry.action = .hosted tag →
    ∀ payload, (h.convert tag c.value c.system).1 = .ok payload → payload.WellFormed
  entryPoints : ∀ c, Canonicalizes h config depth v target s c →
    ∀ payload, (h.canonicalize c.object c.entryPoint c.system).1 = .ok payload → payload.WellFormed
  views : ∀ o, v.Part (.object o) → ∀ t, ForeignObject.denseView o = some t → t.WellFormed
  canonical : ∀ c, v.Part (.canonical c) → c.payload.WellFormed

/-- What is given to an element is given to its sequence. -/
theorem WellSupplied.element {items pre post : List (Value ω)} {item : Value ω}
    {elementType : CanonicalType} {id : TypeId} {trace : Trace} {slices : List Tensor}
    {s₂ : TypeSystem κ η} (hw : WellSupplied h config depth (.sequence items) target s)
    (hdirect : resolveDirectly h config (.sequence items) target s = (.undecided trace, s₁))
    (helement : target.sequenceElement = some id) (hdepth : depth < config.maxSequenceDepth)
    (htype : s₁.types.get? id = some elementType) (hitems : items = pre ++ item :: post)
    (hpre : resolveItems h config (depth + 1) target elementType 0 pre s₁ = (.ok slices, s₂)) :
    WellSupplied h config (depth + 1) item elementType s₂ := by
  have hmem : item ∈ items := by simp [hitems]
  exact {
    converters := fun c hc =>
      hw.converters c (.element hdirect helement hdepth htype hitems hpre hc)
    entryPoints := fun c hc =>
      hw.entryPoints c (.element hdirect helement hdepth htype hitems hpre hc)
    views := fun o ho => hw.views o (ho.of_element hmem)
    canonical := fun c hc => hw.canonical c (hc.of_element hmem) }

/-! ## Resolutions -/

theorem WellSupplied.run (hw : WellSupplied h config depth v target s) {entry : ConverterEntry κ}
    (hi : Invokes h config depth v target s ⟨entry, v, target, s₁⟩) {payload : Payload ω}
    (hrun : (h.run entry.action v s₁).1 = .ok payload) : payload.WellFormed := by
  cases haction : entry.action with
  | hosted tag =>
    rw [haction] at hrun
    exact hw.converters _ hi tag haction payload hrun
  | scalar =>
    rw [haction] at hrun
    cases v with
    | scalar literal =>
      cases hrun
      exact Payload.wellFormed_tensor (Tensor.wellFormed_scalar literal)
    | sequence => cases hrun
    | object => cases hrun
    | canonical => cases hrun

/-- A direct stage decides for a payload that was given to it, or for a scalar's. -/
theorem resolveDirectly_wellFormed (hw : WellSupplied h config depth v target s) {r : Resolution ω}
    (hd : resolveDirectly h config v target s = (.decided r, s₁)) : r.WellFormed := by
  have hways := resolveDirectly_directly h config v target s
  rw [hd] at hways
  cases hways with
  | identity c hid =>
    rintro _ ⟨⟩
    obtain ⟨rfl, -⟩ := identity?_eq_some_iff.1 hid
    exact hw.canonical c .self
  | replayedConverter s₁ entry hid hlook =>
    exact wellFormed_settle fun payload => hw.run (.replayed hid hlook)
  | replayedProtocol s₁ o entryPoint hid hlook hobject hentry =>
    exact wellFormed_settle (hw.entryPoints _ (.replayed hid hlook hobject hentry))
  | converter hit s₁ entry r hid hlook hreplay hfound hr =>
    rw [hr]
    exact wellFormed_settle fun payload => hw.run (.found hid hlook hreplay hfound)
  | protocol hit s₁ o entryPoint r hid hlook hreplay hfound hobject hentry hconforms hr =>
    rw [hr]
    exact wellFormed_settle
      (hw.entryPoints _ (.found hid hlook hreplay hfound hobject hentry hconforms))

/-- Beyond its direct stage, a value that is no sequence can only be viewed. -/
theorem resolveAt_wellFormed_of_flat (hflat : ∀ items, v ≠ .sequence items)
    (hw : WellSupplied h config depth v target s) :
    (resolveAt h config depth v target s).1.WellFormed := by
  rw [resolveAt.eq_def]
  generalize hdirect : resolveDirectly h config v target s = p
  obtain ⟨r | trace, s₁⟩ := p
  · exact resolveDirectly_wellFormed hw hdirect
  cases target.sequenceElement with
  | none => exact wellFormed_of_error
  | some id =>
    cases v with
    | sequence items => exact absurd rfl (hflat items)
    | scalar => exact wellFormed_of_error
    | canonical => exact wellFormed_of_error
    | object o =>
      simp only
      cases hview : ForeignObject.denseView o with
      | none => exact wellFormed_of_error
      | some t => exact wellFormed_aggregated (hw.views o .self t hview)

mutual

/-- What a resolution is given it keeps well-formed, at any depth. -/
theorem resolveAt_wellFormed :
    ∀ (v : Value ω) (depth : Nat) (target : CanonicalType) (s : TypeSystem κ η),
      WellSupplied h config depth v target s → (resolveAt h config depth v target s).1.WellFormed
  | .scalar _, _, _, _, hw => resolveAt_wellFormed_of_flat (by simp) hw
  | .canonical _, _, _, _, hw => resolveAt_wellFormed_of_flat (by simp) hw
  | .object _, _, _, _, hw => resolveAt_wellFormed_of_flat (by simp) hw
  | .sequence items, depth, target, s, hw => by
    rw [resolveAt.eq_def]
    generalize hdirect : resolveDirectly h config (.sequence items) target s = p
    obtain ⟨r | trace, s₁⟩ := p
    · exact resolveDirectly_wellFormed hw hdirect
    cases helement : target.sequenceElement with
    | none => exact wellFormed_of_error
    | some id =>
      simp only
      split
      next hdepth =>
        split
        · exact wellFormed_aggregated (Tensor.wellFormed_empty .f64)
        · cases htype : s₁.types.get? id with
          | none => exact wellFormed_of_error
          | some elementType =>
            have hslices := resolveItems_wellFormed items (depth + 1) target elementType 0 s₁
              fun pre item post slices s₂ hitems hpre =>
                hw.element hdirect helement hdepth htype hitems hpre
            simp only
            generalize resolveItems h config (depth + 1) target elementType 0 items s₁ = answer
              at hslices ⊢
            obtain ⟨failure | slices, s₂⟩ := answer
            · exact wellFormed_of_error
            · exact wellFormed_stacked (hslices slices rfl)
      · exact wellFormed_of_error

/-- The same for the slices that the elements of a sequence become. -/
theorem resolveItems_wellFormed :
    ∀ (items : List (Value ω)) (depth : Nat) (outer elementType : CanonicalType) (index : Nat)
      (s : TypeSystem κ η),
      (∀ pre item post slices s₂, items = pre ++ item :: post →
        resolveItems h config depth outer elementType index pre s = (.ok slices, s₂) →
          WellSupplied h config depth item elementType s₂) →
        ∀ slices, (resolveItems h config depth outer elementType index items s).1 = .ok slices →
          ∀ t ∈ slices, t.WellFormed
  | [], depth, outer, elementType, index, s, _, slices, hslices => by
    rw [resolveItems.eq_def] at hslices
    cases hslices
    simp
  | v :: rest, depth, outer, elementType, index, s, hw, slices, hslices => by
    have hhead := resolveAt_wellFormed v depth elementType s
      (hw [] v rest [] s rfl (by rw [resolveItems.eq_def]))
    rw [resolveItems.eq_def] at hslices
    simp only at hslices
    generalize hp : resolveAt h config depth v elementType s = p at hhead hslices
    obtain ⟨⟨result, trace⟩, s₁⟩ := p
    rcases result with failure | ⟨typeId, t | o⟩
    · cases hslices
    -- The head stands before every item of the tail, and has become the tensor `t`.
    · have htail := resolveItems_wellFormed rest depth outer elementType (index + 1) s₁
        fun pre item post slices s₂ hitems hpre =>
          hw (v :: pre) item post (t :: slices) s₂ (by rw [hitems]; rfl)
            (by rw [resolveItems.eq_def]; simp only [hp, hpre])
      simp only at hslices
      generalize resolveItems h config depth outer elementType (index + 1) rest s₁ = answer
        at htail hslices
      obtain ⟨failure | slices', s₂⟩ := answer
      · cases hslices
      · cases hslices
        exact List.forall_mem_cons.2 ⟨hhead _ rfl t rfl, htail slices' rfl⟩
    · cases hslices

end

/-- **Resolution preserves well-formed tensors.** Let a value be resolved to a registered type, in
whatever system, by its id or by its name. If every tensor that converters and entry points return
when they are run on the way, for the value or for an element at any depth, from the cache or from a
look-up, and every tensor that an object in the value is a view of or that a canonical value in it
carries is well-formed, then so is the tensor of the result: its shape counts its elements, and each
of them has its kind. -/
theorem resolution_wellFormed (v : Value ω) (target : CanonicalType)
    (ht : s.types.get? target.id = some target)
    (hw : WellSupplied h s.engine.config 0 v target s) :
    (∀ c t, (resolveTraced h v target.id s).1.result = .ok c → c.payload = .tensor t →
      t.WellFormed) ∧
    ∀ name c t, s.types.find? name = some target → (TypeSystem.resolve h v name s).1 = .ok c →
      c.payload = .tensor t → t.WellFormed := by
  have htraced : (resolveTraced h v target.id s).1.WellFormed := by
    simp only [resolveTraced, ht]
    exact resolveAt_wellFormed v 0 target s hw
  refine ⟨fun c t hc hp => htraced c hc t hp, fun name c t hname hc hp => ?_⟩
  simp only [TypeSystem.resolve, hname] at hc
  generalize resolveTraced h v target.id s = p at htraced hc
  obtain ⟨⟨result, trace⟩, s₁⟩ := p
  cases result with
  | ok c' => cases hc; exact htraced c rfl t hp
  | error failure => cases hc

/-- Fixtures and converters to literals bring no tensors that are not well-formed. -/
theorem literalHost_wellSupplied {v : Value FixtureObject} {s : TypeSystem Literal Unit}
    (hcanonical : ∀ c, v.Part (.canonical c) → c.payload.WellFormed) :
    WellSupplied literalHost config depth v target s where
  converters c _ literal _ payload hrun := by
    cases hrun
    exact Payload.wellFormed_tensor (Tensor.wellFormed_scalar literal)
  entryPoints c _ payload hrun := by
    have hrun : FixtureObject.canonicalize c.object c.entryPoint = .ok payload := hrun
    unfold FixtureObject.canonicalize at hrun
    split at hrun
    · split at hrun <;> cases hrun
      exact Payload.wellFormed_tensor (Tensor.wellFormed_scalar _)
    · split at hrun <;> cases hrun
      rintro _ ⟨⟩
    · cases hrun
  views o _ t hview := by
    cases o with
    | denseArray rows cols data =>
      have hview : (Tensor.build .f64 ⟨[rows, cols]⟩ (data.map Literal.float)).toOption = some t :=
        hview
      cases hbuild : Tensor.build .f64 ⟨[rows, cols]⟩ (data.map Literal.float) with
      | error e => rw [hbuild] at hview; cases hview
      | ok u =>
        rw [hbuild] at hview
        cases hview
        exact Tensor.wellFormed_of_build (by simp [Literal.dtype]) hbuild
    | protocolTensor => cases hview
    | variableLike => cases hview
    | unrelated => cases hview
    | derived => cases hview
  canonical := hcanonical

/-- A sequence of sequences. An integer, an object with a protocol and one with a converter are
replayed from the cache, and the last element is an instance already. -/
theorem resolution_wellFormed_mixed :
    let s := run literalHost (.new {} ()) (.installBuiltins :: presented)
    let v : Value FixtureObject := .sequence [
      .sequence [.scalar (.int 1), .object (.protocolTensor 7)],
      .sequence [.object .derived, .canonical ⟨⟨0⟩, .tensor (Tensor.scalar (.int 3))⟩]]
    let t : Tensor := ⟨.i64, ⟨[2, 2]⟩, [.int 1, .int 7, .int 9, .int 3]⟩
    s.engine.cache.entries.map CacheEntry.producer =
      [⟨"conformance.Derived"⟩, ⟨"conformance.ProtocolTensor"⟩, .int] ∧
    (TypeSystem.resolve literalHost v "Tensor" s).1 = .ok ⟨⟨0⟩, .tensor t⟩ ∧ t.WellFormed := by
  intro s v t
  let target : CanonicalType := ⟨⟨0⟩, "Tensor", none, Builtins.tensorDescriptor, some ⟨0⟩⟩
  have ht : s.types.get? target.id = some target := by decide +kernel
  have hname : s.types.find? "Tensor" = some target := by decide +kernel
  have hw : WellSupplied literalHost s.engine.config 0 v target s := by
    refine literalHost_wellSupplied fun c hc => ?_
    obtain rfl : c = ⟨⟨0⟩, .tensor (Tensor.scalar (.int 3))⟩ := by
      simpa [v, Value.part_sequence_iff, Value.part_iff_of_flat] using hc
    exact Payload.wellFormed_tensor (Tensor.wellFormed_scalar _)
  have hresult : (TypeSystem.resolve literalHost v "Tensor" s).1 = .ok ⟨⟨0⟩, .tensor t⟩ := rfl
  exact ⟨by decide +kernel, hresult,
    (resolution_wellFormed v target ht hw).2 "Tensor" _ t hname hresult rfl⟩

end CanonicalTypes
