import CanonicalTypes.Proofs.Resolution.Outcomes
import CanonicalTypes.Proofs.System.WellFormed

/-!
# Where a resolution fails

In the course of a resolution the elements of sequences are resolved, and elements of those. `Reaches`
is the way from a resolution to one of these inner ones: a path of positions, and all that stands to
the left of it has become tensors. If a resolution fails, then there is a place on such a way that
fails of itself (`FailsItself`), and what the place failed with is the outcome
(`exists_failing_place`). As everything to the left went well, it is the leftmost one.

The main result is `failure_leftmost`.
-/
namespace CanonicalTypes

open TypeSystem (Evolves)

/-! ## Places in values and in types -/

/-- The value at a path of positions in nested sequences. -/
def Value.at? {ω : Type} : Value ω → List Nat → Option (Value ω)
  | v, [] => some v
  | .sequence items, i :: path =>
    match items[i]? with
    | some v => v.at? path
    | none => none
  | _, _ :: _ => none

namespace TypeRegistry

/-- The type of the elements of sequences that become a type. -/
def elementType? (r : TypeRegistry) (t : CanonicalType) : Option CanonicalType :=
  t.sequenceElement.bind r.get?

/-- The type of what stands in so many sequences. -/
def elementTypeAt? (r : TypeRegistry) : CanonicalType → Nat → Option CanonicalType
  | t, 0 => some t
  | t, depth + 1 =>
    match r.elementType? t with
    | some u => r.elementTypeAt? u depth
    | none => none

theorem Synced.get?_of_elementType? {r : TypeRegistry} (hr : r.Synced) {t u : CanonicalType}
    (hu : r.elementType? t = some u) : r.get? u.id = some u := by
  obtain ⟨id, -, hget⟩ := Option.bind_eq_some_iff.1 hu
  rwa [hr.id_of_get? hget]

end TypeRegistry

variable {ω κ η : Type} [ForeignObject ω] {h : Host ω κ η} {config : EngineConfig}
  {s s' : TypeSystem κ η} {target : CanonicalType} {failure : ResolutionFailure}

/-- A value that is to be resolved inside `depth` aggregated sequences, and the system for it. -/
structure Task (ω κ η : Type) where
  depth : Nat
  value : Value ω
  target : CanonicalType
  system : TypeSystem κ η

def Task.resolve (h : Host ω κ η) (config : EngineConfig) (k : Task ω κ η) :
    Resolution ω × TypeSystem κ η :=
  resolveAt h config k.depth k.value k.target k.system

/-- In the course of a task another one comes up, for the value at a path. Whatever stands to the
left of the path has been resolved by then, and has become tensors. -/
inductive Reaches (h : Host ω κ η) (config : EngineConfig) :
    Task ω κ η → List Nat → Task ω κ η → Prop where
  | here {k : Task ω κ η} : Reaches h config k [] k
  | element {depth : Nat} {items pre post : List (Value ω)} {item : Value ω}
      {target elementType : CanonicalType} {slices : List Tensor} {s s₁ s₂ : TypeSystem κ η}
      {path : List Nat} {place : Task ω κ η}
      (hopens : OpensSequence h config depth items target s elementType s₁)
      (hitems : items = pre ++ item :: post)
      (hpre : BecomeTensors h config (depth + 1) elementType pre s₁ slices s₂)
      (hinner : Reaches h config ⟨depth + 1, item, elementType, s₂⟩ path place) :
      Reaches h config ⟨depth, .sequence items, target, s⟩ (pre.length :: path) place

/-- What foreign code answers that is run for the value of a task itself, not for an element of it,
and the strategy by which it is run. -/
inductive OwnAnswer (h : Host ω κ η) (config : EngineConfig) (k : Task ω κ η) :
    Strategy → Except ConverterError (Payload ω) → Prop where
  | converter {entry : ConverterEntry κ} {s₁ : TypeSystem κ η}
      (hruns : Invokes h config k.depth k.value k.target k.system ⟨entry, k.value, k.target, s₁⟩) :
      OwnAnswer h config k .registry (h.run entry.action k.value s₁).1
  | protocol {o : ω} {entryPoint : String} {s₁ : TypeSystem κ η} (hobject : k.value = .object o)
      (hruns : Canonicalizes h config k.depth k.value k.target k.system ⟨o, entryPoint, s₁⟩) :
      OwnAnswer h config k .protocol (h.canonicalize o entryPoint s₁).1

/-- A task fails of itself, though all elements that it has resolved were resolved. -/
inductive FailsItself (h : Host ω κ η) (config : EngineConfig) (k : Task ω κ η) :
    ResolutionFailure → Prop where
  /-- Foreign code that was run for the value failed, with this error. -/
  | foreign {strategy : Strategy} {e : ConverterError}
      (hanswer : OwnAnswer h config k strategy (.error e)) :
      FailsItself h config k (.converter k.target.name k.value.producer strategy e)
  /-- All that the target provides for was tried in vain. -/
  | notFound {trace : Trace} {s₁ : TypeSystem κ η}
      (hdirect : resolveDirectly h config k.value k.target k.system = (.undecided trace, s₁))
      (hrest : k.target.sequenceElement.isSome → ¬ k.value.Aggregable config k.depth) :
      FailsItself h config k
        (.noConversionFound k.target.name k.value.producer k.target.plan)
  /-- An element became a handle, the first one to become no tensor. -/
  | notDense {items pre post : List (Value ω)} {item : Value ω} {elementType : CanonicalType}
      {slices : List Tensor} {s₁ s₂ s₃ : TypeSystem κ η} {id : TypeId} {o : ω} {trace : Trace}
      (hvalue : k.value = .sequence items)
      (hopens : OpensSequence h config k.depth items k.target k.system elementType s₁)
      (hitems : items = pre ++ item :: post)
      (hpre : BecomeTensors h config (k.depth + 1) elementType pre s₁ slices s₂)
      (hitem : resolveAt h config (k.depth + 1) item elementType s₂ =
        (⟨.ok ⟨id, .handle o⟩, trace⟩, s₃)) :
      FailsItself h config k (.notDense k.target pre.length)
  /-- The elements became tensors that do not stack. -/
  | notStacked {items : List (Value ω)} {elementType : CanonicalType} {slices : List Tensor}
      {s₁ s₂ : TypeSystem κ η} {e : ValueError} (hvalue : k.value = .sequence items)
      (hopens : OpensSequence h config k.depth items k.target k.system elementType s₁)
      (hne : items ≠ [])
      (hitems : BecomeTensors h config (k.depth + 1) elementType items s₁ slices s₂)
      (hstack : Tensor.stack slices = .error e) (hfault : Tensor.StackFault slices e) :
      FailsItself h config k
        (.raggedOrMixedElements k.target.name k.value.producer e.message)

/-! ## What a place tells -/

/-- A failure names the target and the producer of the place that it comes from, and it is none of
an unknown type. -/
theorem FailsItself.names {k : Task ω κ η} (hf : FailsItself h config k failure) :
    failure.target = k.target.name ∧ failure.producer = k.value.producer ∧
      ∀ name producer, failure ≠ .unknownType name producer := by
  cases hf with
  | foreign => exact ⟨rfl, rfl, by simp⟩
  | notFound => exact ⟨rfl, rfl, by simp⟩
  | notDense hvalue => exact ⟨rfl, by rw [hvalue]; rfl, by simp [ResolutionFailure.notDense]⟩
  | notStacked => exact ⟨rfl, rfl, by simp⟩

/-- A path leads to the value of its place. -/
theorem Reaches.at? {k place : Task ω κ η} {path : List Nat}
    (hr : Reaches h config k path place) : k.value.at? path = some place.value := by
  induction hr with
  | here => rfl
  | element _ hitems _ _ ih => simp [Value.at?, hitems, ih]

theorem BecomeTensors.evolves (hl : h.Lawful) {depth : Nat} {items : List (Value ω)}
    {slices : List Tensor} (ht : BecomeTensors h config depth target items s slices s') :
    Evolves s s' := by
  have hs := resolveItems_evolves hl config items depth target target 0 s
  rwa [resolveItems_eq_ok_iff.2 ht] at hs

/-- The elements of a registered type's sequences have the same type in a later registry. -/
theorem TypeRegistry.WellFormed.elementType?_of_prefix {types types' : TypeRegistry}
    (hw : types.WellFormed) (hp : types.types <+: types'.types)
    (ht : types.get? target.id = some target) {id : TypeId} {elementType : CanonicalType}
    (helement : target.sequenceElement = some id) (htype : types'.get? id = some elementType) :
    types.elementType? target = some elementType ∧
      types.get? elementType.id = some elementType := by
  have hget : types.get? id = some elementType := by
    rw [← get?_eq_of_prefix hp (hw.element_index_lt ht helement)]
    exact htype
  exact ⟨by rw [elementType?, helement]; exact hget, by rwa [hw.id_of_get? hget]⟩

/-- A path leads to the type of its place, along the elements of sequences. Types that foreign code
registers on the way do not matter. -/
theorem Reaches.elementTypeAt? (hl : h.Lawful) {types : TypeRegistry} (hw : types.WellFormed)
    {k place : Task ω κ η} {path : List Nat} (hr : Reaches h config k path place)
    (hs : k.system.types.WellFormed) (hp : types.types <+: k.system.types.types)
    (ht : types.get? k.target.id = some k.target) :
    types.elementTypeAt? k.target path.length = some place.target := by
  induction hr with
  | here => rfl
  | @element _ items _ _ _ target elementType _ s s₁ s₂ _ _ hopens _ hpre _ ih =>
    obtain ⟨⟨trace, hdirect⟩, -, id, helement, htype⟩ := hopens
    have h₁ := resolveDirectly_evolves hl config (.sequence items) target s
    rw [hdirect] at h₁
    obtain ⟨hs₁, hp₁⟩ := h₁.types hs
    obtain ⟨hs₂, hp₂⟩ := (hpre.evolves hl).types hs₁
    obtain ⟨htype, hregistered⟩ := hw.elementType?_of_prefix (hp.trans hp₁) ht helement htype
    have hinner := ih hs₂ ((hp.trans hp₁).trans hp₂) hregistered
    simp only [List.length_cons, TypeRegistry.elementTypeAt?, htype]
    exact hinner

/-- A place is reached in a later system than the one of the task. -/
theorem Reaches.evolves (hl : h.Lawful) (hr : Reaches h config k path place) :
    Evolves k.system place.system := by
  induction hr with
  | here => exact .refl _
  | @element _ items _ _ _ target _ _ s s₁ s₂ _ _ hopens _ hpre _ ih =>
    obtain ⟨trace, hdirect⟩ := hopens.direct
    have h₁ := resolveDirectly_evolves hl config (.sequence items) target s
    rw [hdirect] at h₁
    exact (h₁.trans (hpre.evolves hl)).trans ih

/-- In a well-formed registry, what is reached from a registered type is registered. -/
theorem TypeRegistry.WellFormed.get?_of_elementTypeAt? {types : TypeRegistry}
    (hw : types.WellFormed) {t u : CanonicalType} {depth : Nat} (ht : types.get? t.id = some t)
    (hu : types.elementTypeAt? t depth = some u) : types.get? u.id = some u := by
  induction depth generalizing t with
  | zero =>
    cases hu
    exact ht
  | succ depth ih =>
    unfold TypeRegistry.elementTypeAt? at hu
    split at hu
    next w helement => exact ih (hw.get?_of_elementType? helement) hu
    · cases hu

/-- The target of a place is registered by then. -/
theorem Reaches.registered (hl : h.Lawful) (hs : k.system.types.WellFormed)
    (ht : k.system.types.get? k.target.id = some k.target)
    (hr : Reaches h config k path place) :
    place.system.types.get? place.target.id = some place.target :=
  TypeRegistry.get?_of_prefix ((hr.evolves hl).types hs).2
    (hs.get?_of_elementTypeAt? ht (hr.elementTypeAt? hl hs hs (List.prefix_refl _) ht))

/-! ## There is a place that fails -/

/-- A direct stage that fails runs foreign code for the value itself, which fails. -/
theorem ownAnswer_of_decided (depth : Nat) {v : Value ω} {r : Resolution ω}
    (hdirect : resolveDirectly h config v target s = (.decided r, s'))
    (hf : r.result = .error failure) :
    ∃ strategy e, OwnAnswer h config ⟨depth, v, target, s⟩ strategy (.error e) ∧
      r.trace.strategy = some strategy ∧
      failure = .converter target.name v.producer strategy e := by
  -- If a settled resolution fails, then foreign code has returned the error.
  have hsettled : ∀ {producer : ProducerType} {strategy : Strategy} {trace : Trace}
      {answer : Except ConverterError (Payload ω)},
      (settle target producer strategy trace answer).result = .error failure →
        ∃ e, answer = .error e ∧ failure = .converter target.name producer strategy e := by
    intro producer strategy trace answer hresult
    cases answer with
    | ok payload => cases hresult
    | error e => cases hresult; exact ⟨e, rfl, rfl⟩
  have hways := resolveDirectly_directly h config v target s
  rw [hdirect] at hways
  cases hways with
  | identity c hid => cases hf
  | replayedConverter s₁ entry hid hlook =>
    obtain ⟨e, he, rfl⟩ := hsettled hf
    exact ⟨.registry, e, he ▸ .converter (.replayed hid hlook), by simp [Trace.decide], rfl⟩
  | replayedProtocol s₁ o entryPoint hid hlook hobject hentry =>
    obtain ⟨e, he, rfl⟩ := hsettled hf
    obtain rfl := Value.eq_object hobject
    exact ⟨.protocol, e, he ▸ .protocol rfl (.replayed hid hlook hobject hentry),
      by simp [Trace.decide], rfl⟩
  | converter hit s₁ entry _ hid hlook hreplay hfound hr =>
    rw [hr] at hf ⊢
    obtain ⟨e, he, rfl⟩ := hsettled hf
    exact ⟨.registry, e, he ▸ .converter (.found hid hlook hreplay hfound),
      by simp [Trace.decide], rfl⟩
  | protocol hit s₁ o entryPoint _ hid hlook hreplay hfound hobject hentry hconforms hr =>
    rw [hr] at hf ⊢
    obtain ⟨e, he, rfl⟩ := hsettled hf
    obtain rfl := Value.eq_object hobject
    exact ⟨.protocol, e,
      he ▸ .protocol rfl (.found hid hlook hreplay hfound hobject hentry hconforms),
      by simp [Trace.decide], rfl⟩

/-- A resolution to a registered type that fails comes to a place that fails of itself, in the same
way. -/
theorem exists_failing_place (hl : h.Lawful) (v : Value ω) (depth : Nat) (target : CanonicalType)
    (s : TypeSystem κ η) (hs : s.types.WellFormed) (ht : s.types.get? target.id = some target)
    (hf : (resolveAt h config depth v target s).1.result = .error failure) :
    ∃ path place, Reaches h config ⟨depth, v, target, s⟩ path place ∧
      (place.resolve h config).1.result = .error failure ∧
      FailsItself h config place failure := by
  induction v using Value.induction generalizing depth target s with
  | step v ih =>
  have hperm := hs.sequenceElement_isSome ht
  have here : FailsItself h config ⟨depth, v, target, s⟩ failure →
      ∃ path place, Reaches h config ⟨depth, v, target, s⟩ path place ∧
        (place.resolve h config).1.result = .error failure ∧
        FailsItself h config place failure :=
    fun hfails => ⟨[], _, .here, hf, hfails⟩
  have hends := resolveAt_ends h config depth v target s
  generalize resolveAt h config depth v target s = p at hf here hends
  cases hends with
  | directly hdirect =>
    obtain ⟨strategy, e, hanswer, -, rfl⟩ := ownAnswer_of_decided depth hdirect hf
    exact here (.foreign hanswer)
  | noFallback hdirect helement =>
    rw [helement] at hperm
    cases hf
    rw [plan_of_noFallback hdirect hperm.symm, producer_of_undecided hdirect] at here ⊢
    exact here (.notFound hdirect (by simp [helement]))
  | notAggregable hdirect helement hv =>
    rw [helement] at hperm
    cases hf
    have hplan := plan_of_fallback hdirect hperm.symm
    have hproducer := producer_of_undecided hdirect
    rw [hplan] at here ⊢
    exact here (hproducer ▸ .notFound hdirect fun _ => hv)
  | view => cases hf
  | empty => cases hf
  | unregistered hdirect helement hv htype =>
    -- Types are only added, and the element type was registered before the target.
    have hgrows := (resolveDirectly_evolves hl config v target s).types hs
    rw [hdirect] at hgrows
    have hlt := hs.element_index_lt ht helement
    obtain ⟨t, hget⟩ := TypeRegistry.exists_get? hlt
    rw [TypeRegistry.get?_of_prefix hgrows.2 hget] at htype
    cases htype
  | @elementFails trace s₁ s₂ element elementType items f hdirect helement hv hdepth htype hitems =>
    subst hv
    cases hf
    have hopens : OpensSequence h config depth items target s elementType s₁ :=
      ⟨⟨trace, hdirect⟩, hdepth, element, helement, htype⟩
    obtain ⟨pre, item, post, slices, s₃, r, hsplit, hpre, hitem, hfails⟩ :=
      resolveItems_eq_error_iff.1 hitems
    cases hfails with
    | notDense =>
      rw [Nat.zero_add] at here ⊢
      exact here (.notDense rfl hopens hsplit hpre hitem)
    | failed =>
      have h₁ := resolveDirectly_evolves hl config (.sequence items) target s
      rw [hdirect] at h₁
      have hgrows := (h₁.trans (hpre.evolves hl)).types hs
      obtain ⟨-, hregistered⟩ := hs.elementType?_of_prefix (h₁.types hs).2 ht helement htype
      obtain ⟨path, place, hreaches, hresult, hplace⟩ := ih items rfl item (by simp [hsplit])
        (depth + 1) elementType s₃ hgrows.1 (TypeRegistry.get?_of_prefix hgrows.2 hregistered)
        (by rw [hitem])
      exact ⟨_, place, .element hopens hsplit hpre hreaches, hresult, hplace⟩
  | @stacked trace s₁ s₂ element elementType items slices hdirect helement hv hne hdepth htype
      hitems =>
    subst hv
    obtain ⟨e, hstack, rfl⟩ := stacked_result_eq_error_iff.1 hf
    have hproducer := producer_of_undecided hdirect
    rw [show (trace.attempt .sequence).producer = _ from hproducer] at here ⊢
    exact here (.notStacked rfl ⟨⟨trace, hdirect⟩, hdepth, element, helement, htype⟩ hne hitems
      hstack (Tensor.stackFault_of_stack (hitems.ne_nil hne) hstack))

/-- **Every failure points at the leftmost failing place.** Let a value be resolved to a registered
type in a reachable system, and let it fail. The type is not what is unknown. There is a path into
the value, and a type for it that follows the elements of sequences step by step, such that all that
stands to the left of the path became tensors and the value at the path failed of itself: foreign
code that was run for it failed with this very error, or nothing that the type provides for
applied, or it is a sequence of which an element became a handle, or the tensors of its elements do
not stack. The failure names the type and the producer of this place. -/
theorem failure_leftmost (hl : h.Lawful) (hs : s.Reachable) (v : Value ω) (target : CanonicalType)
    (ht : s.types.get? target.id = some target)
    (hf : (resolveTraced h v target.id s).1.result = .error failure) :
    (∀ name, s.types.find? name = some target →
      (TypeSystem.resolve h v name s).1 = .error (.resolution failure)) ∧
    (∀ name producer, failure ≠ .unknownType name producer) ∧
    ∃ path place, Reaches h s.engine.config ⟨0, v, target, s⟩ path place ∧
      v.at? path = some place.value ∧
      s.types.elementTypeAt? target path.length = some place.target ∧
      failure.target = place.target.name ∧ failure.producer = place.value.producer ∧
      (place.resolve h s.engine.config).1.result = .error failure ∧
      FailsItself h s.engine.config place failure := by
  have hw := hs.wellFormed
  have hat : (resolveAt h s.engine.config 0 v target s).1.result = .error failure := by
    rwa [resolveTraced_fst ht] at hf
  obtain ⟨path, place, hreaches, hresult, hfails⟩ := exists_failing_place hl v 0 target s hw ht hat
  obtain ⟨htarget, hproducer, hknown⟩ := hfails.names
  refine ⟨fun name hname => ?_, hknown, path, place, hreaches, hreaches.at?, ?_, htarget, hproducer,
    hresult, hfails⟩
  · rw [TypeSystem.resolve_fst hname, hf]
    rfl
  · exact hreaches.elementTypeAt? hl hw hw (List.prefix_refl _) ht

/-- The place is in the second row. The first one has become a tensor, and what stands to the right of
the place is no longer looked at. -/
theorem failure_leftmost_nested :
    let s := run literalHost (.new {} ()) [.installBuiltins]
    let v : Value FixtureObject :=
      .sequence [.sequence [.scalar (.int 1)], .sequence [.object .unrelated, .object .derived]]
    let failure : ResolutionFailure :=
      .noConversionFound "Tensor" ⟨"conformance.Unrelated"⟩ [.registry, .protocol, .sequence]
    s.Reachable ∧ s.types.get? ⟨0⟩ = some Builtins.tensorType ∧
    (resolveTraced literalHost v ⟨0⟩ s).1.result = .error failure ∧
    (TypeSystem.resolve literalHost v "Tensor" s).1 = .error (.resolution failure) ∧
    v.at? [1, 0] = some (.object .unrelated) ∧
    ∃ path place, Reaches literalHost {} ⟨0, v, Builtins.tensorType, s⟩ path place ∧
      v.at? path = some place.value ∧ place.target.name = "Tensor" ∧
      place.value.producer = ⟨"conformance.Unrelated"⟩ ∧
      FailsItself literalHost {} place failure := by
  intro s v failure
  have hs : s.Reachable := reachable_run (Host.pure_lawful _ _) {} () _
  have ht : s.types.get? ⟨0⟩ = some Builtins.tensorType := by decide +kernel
  have hf : (resolveTraced literalHost v ⟨0⟩ s).1.result = .error failure := rfl
  obtain ⟨hname, -, path, place, hreaches, hat, -, htarget, hproducer, -, hfails⟩ :=
    failure_leftmost (Host.pure_lawful _ _) hs v Builtins.tensorType ht hf
  exact ⟨hs, ht, hf, hname "Tensor" (by decide +kernel), rfl, path, place, hreaches, hat,
    htarget.symm, hproducer.symm, hfails⟩

end CanonicalTypes
