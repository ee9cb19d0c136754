import CanonicalTypes.Proofs.Resolution.Stages
import CanonicalTypes.Proofs.System.Evolution
import CanonicalTypes.System.Facade

/-!
# Runs of a type system

An `Operation` is a call of a user with its arguments, a `Reply` what the call returns, and `run` the
system after a sequence of calls, whether they succeed or fail.

What a run does to a system comes down to a few changes. A relation that is reflexive and transitive
and holds across each of them (`CoversChanges`) holds across every resolution (`resolveAt_covered`),
every operation (`apply_covered`) and every run (`run_covered`), provided that foreign code stays
within it too (`Host.ChangesWithin`).

Evolution is such a relation. Foreign code may call back into the system that runs it, but only the
operations are open to it: `Host.Lawful` says that it makes the system evolve. The systems that a run
passes through are then reachable (`reachable_run`).
-/
namespace CanonicalTypes

open TypeSystem (Evolves)

variable {ω κ η : Type} [ForeignObject ω] {h : Host ω κ η} {s s₀ : TypeSystem κ η}

/-! ## Operations -/

/-- A call of a user. -/
inductive Operation (ω κ : Type) where
  | registerType (d : TypeDeclaration)
  | registerTypes (ds : List TypeDeclaration)
  | registerConverter (producer : ProducerType) (target : String) (action : ConverterAction κ)
      (priority : ConverterPriority)
  | deregisterConverter (producer : ProducerType) (target : String)
  | installBuiltins
  | invalidateCache
  | resolve (v : Value ω) (target : String)
  | resolveTraced (v : Value ω) (target : TypeId)

def Operation.value? : Operation ω κ → Option (Value ω)
  | resolve v _ => some v
  | resolveTraced v _ => some v
  | _ => none

inductive Reply (ω : Type) where
  | typeId (answer : Except SystemError TypeId)
  | typeIds (answer : Except RegistryError (List TypeId))
  | registration (answer : Except SystemError Registration)
  | removal (answer : Except SystemError Bool)
  | builtins (answer : Except SystemError BuiltinIds)
  | done
  | value (answer : Except SystemError (CanonicalValue ω))
  | resolution (r : Resolution ω)

def Operation.apply (h : Host ω κ η) (s : TypeSystem κ η) :
    Operation ω κ → Reply ω × TypeSystem κ η
  | registerType d =>
    let (answer, s) := s.registerType d
    (.typeId answer, s)
  | registerTypes ds =>
    let (answer, s) := s.registerTypes ds
    (.typeIds answer, s)
  | registerConverter producer target action priority =>
    let (answer, s) := s.registerConverter producer target action priority
    (.registration answer, s)
  | deregisterConverter producer target =>
    let (answer, s) := s.deregisterConverter producer target
    (.removal answer, s)
  | installBuiltins =>
    let (answer, s) := s.installBuiltins
    (.builtins answer, s)
  | invalidateCache => (.done, s.invalidateCache)
  | resolve v target =>
    let (answer, s) := TypeSystem.resolve h v target s
    (.value answer, s)
  | resolveTraced v target =>
    let (r, s) := CanonicalTypes.resolveTraced h v target s
    (.resolution r, s)

def run (h : Host ω κ η) (s : TypeSystem κ η) (ops : List (Operation ω κ)) : TypeSystem κ η :=
  ops.foldl (fun s op => (op.apply h s).2) s

theorem resolveTraced_fst {v : Value ω} {id : TypeId} {t : CanonicalType} {s : TypeSystem κ η}
    (ht : s.types.get? id = some t) :
    (resolveTraced h v id s).1 = (resolveAt h s.engine.config 0 v t s).1 := by
  simp only [resolveTraced, ht]

/-- By its name, a type is resolved to as it is by its id. -/
theorem TypeSystem.resolve_fst {v : Value ω} {name : String} {t : CanonicalType}
    (hname : s.types.find? name = some t) :
    (resolve h v name s).1 =
      (CanonicalTypes.resolveTraced h v t.id s).1.result.mapError SystemError.resolution := by
  simp only [resolve, hname]
  generalize CanonicalTypes.resolveTraced h v t.id s = p
  obtain ⟨⟨result, trace⟩, s'⟩ := p
  cases result <;> rfl

/-- By its name, a type is resolved to as it is by its id. Without such a type nothing happens. -/
theorem TypeSystem.resolve_snd (v : Value ω) (name : String) (s : TypeSystem κ η) :
    (resolve h v name s).2 =
      match s.types.find? name with
      | some t => (CanonicalTypes.resolveTraced h v t.id s).2
      | none => s := by
  unfold resolve
  cases s.types.find? name with
  | none => rfl
  | some t =>
    simp only
    generalize CanonicalTypes.resolveTraced h v t.id s = p
    obtain ⟨⟨result, trace⟩, s'⟩ := p
    cases result <;> rfl

/-! ## The changes that a run comes down to -/

/-- What foreign code may have been run for a value. -/
inductive Ran (h : Host ω κ η) (v : Value ω) (s : TypeSystem κ η) : TypeSystem κ η → Prop where
  | nothing : Ran h v s s
  | converter (action : ConverterAction κ) : Ran h v s (h.run action v s).2
  | protocol (o : ω) (entryPoint : String) (hobject : v.object? = some o) :
      Ran h v s (h.canonicalize o entryPoint s).2

/-- What a direct stage does to the system: nothing, or it looks into the cache, may run foreign
code, and may remember what a look-up for the value came to before that. -/
theorem resolveDirectly_system (h : Host ω κ η) (config : EngineConfig) (v : Value ω)
    (target : CanonicalType) (s : TypeSystem κ η) :
    let s₁ := (lookInCache config v.producer target.id s).2
    let s' := (resolveDirectly h config v target s).2
    s' = s ∨ ∃ s₂, Ran h v s₁ s₂ ∧ (s' = s₂ ∨ ∃ r : Resolution ω, r.trace.producer = v.producer ∧
      s' = remember config r target.id
        (.ofLookup (s₁.converters.lookup v.producer v.supertypes target.id))
        s₁.converters.generation s₂) := by
  have hd := resolveDirectly_directly h config v target s
  generalize resolveDirectly h config v target s = p at hd ⊢
  cases hd with
  | identity => exact .inl rfl
  | replayedConverter s₁ entry _ hlook =>
    rw [hlook]
    exact .inr ⟨_, .converter entry.action, .inl rfl⟩
  | replayedProtocol s₁ o entryPoint _ hlook hobject =>
    rw [hlook]
    exact .inr ⟨_, .protocol o entryPoint hobject, .inl rfl⟩
  | converter hit s₁ entry r _ hlook _ hfound hr =>
    have hp : r.trace.producer = v.producer := by
      simp [hr, Trace.decide, Trace.attempt, Trace.start]
    rw [hlook]
    exact .inr ⟨_, .converter entry.action, .inr ⟨r, hp, by rw [hfound]; rfl⟩⟩
  | protocol hit s₁ o entryPoint r _ hlook _ hfound hobject _ _ hr =>
    have hp : r.trace.producer = v.producer := by
      simp [hr, Trace.decide, Trace.attempt, Trace.start]
    rw [hlook]
    exact .inr ⟨_, .protocol o entryPoint hobject, .inr ⟨r, hp, by rw [hfound]; rfl⟩⟩
  | undecided hit s₁ trace _ hlook =>
    rw [hlook]
    exact .inr ⟨_, .nothing, .inl rfl⟩

/-- A relation between a system and a later one that holds across every change of the registries. -/
structure CoversRegistries (R : TypeSystem κ η → TypeSystem κ η → Prop) : Prop where
  refl : ∀ s, R s s
  trans : ∀ {s s' s''}, R s s' → R s' s'' → R s s''
  call : ∀ (s : TypeSystem κ η) (call : TypeRegistry.Call), R s { s with types := s.types.call call }
  addConverter : ∀ (s : TypeSystem κ η) (producer : ProducerType) (target : CanonicalType)
    (action : ConverterAction κ) (priority : ConverterPriority), target ∈ s.types.types →
      R s (s.addConverter producer target action priority).2
  removeConverter : ∀ (s : TypeSystem κ η) (producer : ProducerType) (target : TypeId),
    R s (s.removeConverter producer target).2
  /-- The built-in types are noted, once. -/
  builtins : ∀ (s : TypeSystem κ η) (builtins : Option BuiltinIds), s.builtins = none →
    R s { s with builtins }

/-- A relation that also holds across what resolutions change, as long as only values that satisfy
`P` are resolved. -/
structure CoversChanges (P : Value ω → Prop) (R : TypeSystem κ η → TypeSystem κ η → Prop) : Prop
    extends CoversRegistries R where
  invalidate : ∀ s : TypeSystem κ η, R s s.invalidateCache
  look : ∀ (s : TypeSystem κ η) (producer : ProducerType) (target : TypeId),
    R s (s.withCache (s.engine.cache.get producer target s.converters.generation).2)
  /-- The cache is given what a value comes to in an earlier system `now`. -/
  remember : ∀ {s now s' : TypeSystem κ η} (v : Value ω), P v → ∀ target : TypeId, R s now →
    R now s' → R s (s'.withCache (s'.engine.cache.insert v.producer target
      (.ofLookup (now.converters.lookup v.producer v.supertypes target)) now.converters.generation))
  resolution : ∀ (s : TypeSystem κ η) (record : ResolutionRecord), R s (s.record (.resolution record))

/-- Foreign code that is run for values that satisfy `P` changes the system within a relation. -/
structure Host.ChangesWithin (h : Host ω κ η) (P : Value ω → Prop)
    (R : TypeSystem κ η → TypeSystem κ η → Prop) : Prop where
  convert : ∀ tag v s, P v → R s (h.convert tag v s).2
  canonicalize : ∀ o entryPoint s, P (.object o) → R s (h.canonicalize o entryPoint s).2

/-! ### Changes of the registries -/

section

omit [ForeignObject ω] in
theorem TypeSystem.addScalarConverters_builtins (s : TypeSystem κ η) (target : CanonicalType) :
    (s.addScalarConverters target).builtins = s.builtins := by
  unfold TypeSystem.addScalarConverters
  generalize Builtins.scalarProducers = producers
  induction producers generalizing s with
  | nil => rfl
  | cons p rest ih => exact ih (s.addConverter p target .scalar .default).2

variable {R : TypeSystem κ η → TypeSystem κ η → Prop} (hc : CoversRegistries R)

include hc

theorem registerType_covered (s : TypeSystem κ η) (d : TypeDeclaration) :
    R s (s.registerType d).2 := by
  have hs := hc.call s (.one d)
  unfold TypeSystem.registerType
  split
  next id types hr => simpa only [TypeRegistry.call, hr] using hs
  · exact hc.refl s

theorem registerConverter_covered (s : TypeSystem κ η) (producer : ProducerType)
    (target : String) (action : ConverterAction κ) (priority : ConverterPriority) :
    R s (s.registerConverter producer target action priority).2 := by
  unfold TypeSystem.registerConverter
  split
  · exact hc.refl s
  next t ht =>
    unfold TypeSystem.lookup at ht
    split at ht
    next t' hlookup =>
      cases ht
      exact hc.addConverter s producer t action priority (TypeRegistry.mem_of_lookup hlookup)
    · cases ht

theorem deregisterConverter_covered (s : TypeSystem κ η) (producer : ProducerType)
    (target : String) : R s (s.deregisterConverter producer target).2 := by
  unfold TypeSystem.deregisterConverter
  split
  · exact hc.refl s
  next t _ => exact hc.removeConverter s producer t.id

theorem addScalarConverters_covered (s : TypeSystem κ η) {target : CanonicalType}
    (htarget : target ∈ s.types.types) : R s (s.addScalarConverters target) := by
  unfold TypeSystem.addScalarConverters
  generalize Builtins.scalarProducers = producers
  induction producers generalizing s with
  | nil => exact hc.refl s
  | cons p rest ih =>
    have hfirst := hc.addConverter s p target .scalar .default htarget
    exact hc.trans hfirst (ih _ htarget)

theorem installBuiltins_covered (s : TypeSystem κ η) : R s s.installBuiltins.2 := by
  have hs := hc.call s (.batch Builtins.declarations)
  simp only [TypeRegistry.call] at hs
  unfold TypeSystem.installBuiltins
  split
  · exact hc.refl s
  next hnone =>
    split
    next e types hr => rwa [hr] at hs
    next tensor symbol eager variableId types hr =>
      rw [hr] at hs
      split
      · exact hs
      next target hget =>
        have htarget : target ∈ types.types := TypeRegistry.mem_of_get hget
        exact hc.trans (hc.trans hs (addScalarConverters_covered hc _ htarget))
          (hc.builtins _ _ ((TypeSystem.addScalarConverters_builtins _ target).trans hnone))
    next hr => rwa [hr] at hs

end

/-! ### Resolutions -/

section

variable {P : Value ω → Prop} {R : TypeSystem κ η → TypeSystem κ η → Prop}
  (hc : CoversChanges P R)

include hc

theorem lookInCache_covered (config : EngineConfig) (producer : ProducerType) (target : TypeId)
    (s : TypeSystem κ η) : R s (lookInCache config producer target s).2 := by
  unfold lookInCache
  split
  · exact hc.look s producer target
  · exact hc.refl s

theorem observe_covered (engine : Engine κ) (target : String) (r : Resolution ω)
    (s : TypeSystem κ η) : R s (observe engine target r s) := by
  unfold observe
  split
  · exact hc.refl s
  · split
    · exact hc.resolution s _
    · exact hc.refl s

variable (hl : h.ChangesWithin P R)

include hl

theorem Ran.covered {v : Value ω} {s' : TypeSystem κ η} (hv : P v) (hran : Ran h v s s') :
    R s s' := by
  cases hran with
  | nothing => exact hc.refl s
  | converter action =>
    cases action with
    | scalar => exact hc.refl s
    | hosted tag => exact hl.convert tag v s hv
  | protocol o entryPoint hobject =>
    exact hl.canonicalize o entryPoint s (Value.eq_object hobject ▸ hv)

theorem resolveDirectly_covered (config : EngineConfig) {v : Value ω} (hv : P v)
    (target : CanonicalType) (s : TypeSystem κ η) :
    R s (resolveDirectly h config v target s).2 := by
  have looked := lookInCache_covered hc config v.producer target.id s
  rcases resolveDirectly_system h config v target s with heq | ⟨s₂, hran, heq | ⟨r, hp, heq⟩⟩
  · rw [heq]
    exact hc.refl s
  · rw [heq]
    exact hc.trans looked (hran.covered hc hl hv)
  · rw [heq, remember, hp]
    split
    · exact hc.remember v hv target.id looked (hran.covered hc hl hv)
    · exact hc.trans looked (hran.covered hc hl hv)

variable (closed : ∀ {items : List (Value ω)}, P (.sequence items) → ∀ v ∈ items, P v)

include closed

theorem resolveAt_covered (config : EngineConfig) (depth : Nat) {v : Value ω} (hv : P v)
    (target : CanonicalType) (s : TypeSystem κ η) :
    R s (resolveAt h config depth v target s).2 :=
  resolveAt_keeps (Q := fun _ => True) closed (fun _ _ _ _ _ => trivial)
    (fun _ target s₁ hv _ hs => hc.trans hs (resolveDirectly_covered hc hl config hv target s₁))
    depth hv trivial (hc.refl s)

theorem resolveItems_covered (config : EngineConfig) {items : List (Value ω)}
    (hv : ∀ v ∈ items, P v) (depth : Nat) (outer elementType : CanonicalType) (index : Nat)
    (s : TypeSystem κ η) :
    R s (resolveItems h config depth outer elementType index items s).2 :=
  resolveItems_keeps (Q := fun _ => True) closed (fun _ _ _ _ _ => trivial)
    (fun _ target s₁ hv _ hs => hc.trans hs (resolveDirectly_covered hc hl config hv target s₁)) hv
    depth outer trivial index (hc.refl s)

theorem resolveTraced_covered {v : Value ω} (hv : P v) (target : TypeId) (s : TypeSystem κ η) :
    R s (resolveTraced h v target s).2 := by
  unfold resolveTraced
  split
  next t _ =>
    exact hc.trans (resolveAt_covered hc hl closed s.engine.config 0 hv t s)
      (observe_covered hc s.engine t.name _ _)
  · simp only
    exact observe_covered hc s.engine target.text _ s

theorem resolve_covered {v : Value ω} (hv : P v) (target : String) (s : TypeSystem κ η) :
    R s (TypeSystem.resolve h v target s).2 := by
  unfold TypeSystem.resolve
  split
  · exact hc.refl s
  next t _ =>
    have ht := resolveTraced_covered hc hl closed hv t.id s
    split
    next hr => rwa [hr] at ht
    next hr => rwa [hr] at ht

/-! ### Operations -/

theorem apply_covered (s : TypeSystem κ η) (op : Operation ω κ)
    (hop : ∀ v, op.value? = some v → P v) : R s (op.apply h s).2 := by
  cases op with
  | registerType d => exact registerType_covered hc.toCoversRegistries s d
  | registerTypes ds => exact hc.call s (.batch ds)
  | registerConverter producer target action priority =>
    exact registerConverter_covered hc.toCoversRegistries s producer target action priority
  | deregisterConverter producer target => exact deregisterConverter_covered hc.toCoversRegistries s producer target
  | installBuiltins => exact installBuiltins_covered hc.toCoversRegistries s
  | invalidateCache => exact hc.invalidate s
  | resolve v target => exact resolve_covered hc hl closed (hop v rfl) target s
  | resolveTraced v target => exact resolveTraced_covered hc hl closed (hop v rfl) target s

theorem run_covered (s : TypeSystem κ η) (ops : List (Operation ω κ))
    (hops : ∀ op ∈ ops, ∀ v, op.value? = some v → P v) : R s (run h s ops) := by
  induction ops generalizing s with
  | nil => exact hc.refl s
  | cons op rest ih =>
    obtain ⟨hop, hrest⟩ := List.forall_mem_cons.1 hops
    exact hc.trans (apply_covered hc hl closed s op hop) (ih _ hrest)

end

/-! ## Evolution -/

/-- Foreign code changes the system in no other ways than its users do. -/
structure Host.Lawful (h : Host ω κ η) : Prop where
  convert : ∀ tag v s, Evolves s (h.convert tag v s).2
  canonicalize : ∀ o entryPoint s, Evolves s (h.canonicalize o entryPoint s).2

omit [ForeignObject ω] in
theorem Host.pure_lawful (convert : κ → Value ω → Except ConverterError (Payload ω))
    (canonicalize : ω → String → Except ConverterError (Payload ω)) :
    (Host.pure convert canonicalize : Host ω κ η).Lawful where
  convert _ _ s := .refl s
  canonicalize _ _ s := .refl s

/-- Changes of the registries make a system evolve. -/
theorem TypeSystem.evolves_coversRegistries :
    CoversRegistries (Evolves : TypeSystem κ η → TypeSystem κ η → Prop) where
  refl := .refl
  trans := .trans
  call s call := .call (.refl s) call
  addConverter s producer target action priority _ :=
    .ledger (.register (.refl s) producer target action priority) _
  removeConverter s producer target := by
    unfold TypeSystem.removeConverter
    split
    · exact .refl s
    next entry converters hd =>
      have hs := Evolves.deregister (.refl s) producer target
      rw [hd] at hs
      exact .ledger hs _
  builtins s builtins _ := .builtins (.refl s) builtins

/-- So do resolutions, whatever values are resolved. -/
theorem TypeSystem.evolves_covers :
    CoversChanges (fun _ : Value ω => True)
      (Evolves : TypeSystem κ η → TypeSystem κ η → Prop) where
  toCoversRegistries := evolves_coversRegistries
  invalidate s := .invalidate (.refl s)
  look s := .look (.refl s)
  remember v _ target h h' := .remember h h' v.producer v.supertypes target
  resolution s _ := .ledger (.refl s) _

omit [ForeignObject ω] in
theorem Host.Lawful.changesWithin (hl : h.Lawful) : h.ChangesWithin (fun _ => True) Evolves where
  convert tag v s _ := hl.convert tag v s
  canonicalize o entryPoint s _ := hl.canonicalize o entryPoint s

theorem resolveDirectly_evolves (hl : h.Lawful) (config : EngineConfig) (v : Value ω)
    (target : CanonicalType) (s : TypeSystem κ η) :
    Evolves s (resolveDirectly h config v target s).2 :=
  resolveDirectly_covered TypeSystem.evolves_covers hl.changesWithin config trivial target s

theorem resolveItems_evolves (hl : h.Lawful) (config : EngineConfig) (items : List (Value ω))
    (depth : Nat) (outer elementType : CanonicalType) (index : Nat) (s : TypeSystem κ η) :
    Evolves s (resolveItems h config depth outer elementType index items s).2 :=
  resolveItems_covered TypeSystem.evolves_covers hl.changesWithin (fun _ _ _ => trivial) config
    (fun _ _ => trivial) depth outer elementType index s

namespace TypeSystem

theorem resolve_evolves (hl : h.Lawful) (v : Value ω) (target : String) (s : TypeSystem κ η) :
    Evolves s (resolve h v target s).2 :=
  resolve_covered evolves_covers hl.changesWithin (fun _ _ _ => trivial) trivial target s

end TypeSystem

theorem apply_evolves (hl : h.Lawful) (s : TypeSystem κ η) (op : Operation ω κ) :
    Evolves s (op.apply h s).2 :=
  apply_covered TypeSystem.evolves_covers hl.changesWithin (fun _ _ _ => trivial) s op
    fun _ _ => trivial

theorem run_evolves (hl : h.Lawful) (s : TypeSystem κ η) (ops : List (Operation ω κ)) :
    Evolves s (run h s ops) :=
  run_covered TypeSystem.evolves_covers hl.changesWithin (fun _ _ _ => trivial) s ops
    fun _ _ _ _ => trivial

/-- Every system that a run on a new one passes through is reachable. -/
theorem reachable_run (hl : h.Lawful) (config : EngineConfig) (host : η)
    (ops : List (Operation ω κ)) : (run h (.new config host) ops).Reachable :=
  ⟨config, host, run_evolves hl _ ops⟩

/-! ## Foreign code that calls back -/

/-- The host whose converters make calls, under another host, and then answer as that one's do.
Nested, it gives converters that call back to any depth. -/
def Host.calling (h : Host ω κ η) (calls : κ → Value ω → List (Operation ω κ)) : Host ω κ η where
  convert tag v s := h.convert tag v (CanonicalTypes.run h s (calls tag v))
  canonicalize := h.canonicalize

theorem Host.Lawful.calling (hl : h.Lawful) (calls : κ → Value ω → List (Operation ω κ)) :
    (h.calling calls).Lawful where
  convert tag v s := (run_evolves hl s (calls tag v)).trans (hl.convert tag v _)
  canonicalize := hl.canonicalize

/-! ## All that can happen -/

/-- The second system can come of the first, by calls of users, by resolutions and by foreign code
that makes such calls in the middle of one: it is related to the first by every relation that covers
these changes. -/
def TypeSystem.ChangesTo (ω : Type) [ForeignObject ω] (s s' : TypeSystem κ η) : Prop :=
  ∀ R : TypeSystem κ η → TypeSystem κ η → Prop, CoversChanges (fun _ : Value ω => True) R → R s s'

theorem TypeSystem.changesTo_covers :
    CoversChanges (fun _ : Value ω => True)
      (ChangesTo ω : TypeSystem κ η → TypeSystem κ η → Prop) where
  refl s _ hc := hc.refl s
  trans h h' _ hc := hc.trans (h _ hc) (h' _ hc)
  call s call _ hc := hc.call s call
  addConverter s producer target action priority htarget _ hc :=
    hc.addConverter s producer target action priority htarget
  removeConverter s producer target _ hc := hc.removeConverter s producer target
  builtins s builtins hnone _ hc := hc.builtins s builtins hnone
  invalidate s _ hc := hc.invalidate s
  look s producer target _ hc := hc.look s producer target
  remember v hv target h h' _ hc := hc.remember v hv target (h _ hc) (h' _ hc)
  resolution s record _ hc := hc.resolution s record

/-- Foreign code changes the system by the calls that are open to users. -/
def Host.Confined (h : Host ω κ η) : Prop :=
  h.ChangesWithin (fun _ => True) (TypeSystem.ChangesTo ω)

theorem run_changesTo (hl : h.Confined) (s : TypeSystem κ η) (ops : List (Operation ω κ)) :
    TypeSystem.ChangesTo ω s (run h s ops) :=
  run_covered TypeSystem.changesTo_covers hl (fun _ _ _ => trivial) s ops fun _ _ _ _ => trivial

theorem Host.pure_confined (convert : κ → Value ω → Except ConverterError (Payload ω))
    (canonicalize : ω → String → Except ConverterError (Payload ω)) :
    (Host.pure convert canonicalize : Host ω κ η).Confined where
  convert _ _ s _ := TypeSystem.changesTo_covers.refl s
  canonicalize _ _ s _ := TypeSystem.changesTo_covers.refl s

theorem Host.Confined.calling (hl : h.Confined) (calls : κ → Value ω → List (Operation ω κ)) :
    (h.calling calls).Confined where
  convert tag v s _ := TypeSystem.changesTo_covers.trans (run_changesTo hl s (calls tag v))
    (ChangesWithin.convert hl tag v _ trivial)
  canonicalize := hl.canonicalize

end CanonicalTypes
