import CanonicalTypes.Proofs.System.Traces
import Mathlib.Logic.Relation

/-!
# What a resolution does to the system

A resolution changes the system in its direct stages: its own, and those of the elements that it
reaches, one after the other (`Task.stages`). A direct stage does nothing, or looks into the cache,
or runs foreign code after that, or remembers at last by which strategy the value was resolved
(`StageEffect`). So whatever there is beside the cache is changed by foreign code alone
(`Task.changed_by_foreign`), and only once the outcome is known is it recorded
(`resolveTraced_snd`).
-/
namespace CanonicalTypes

open Relation (ReflTransGen)

variable {ω κ η : Type} [ForeignObject ω] {h : Host ω κ η} {config : EngineConfig}
  {s s' s₁ s₂ : TypeSystem κ η} {k place : Task ω κ η} {path : List Nat}

/-! ## Foreign code in the course of a resolution -/

/-- In the course of a task foreign code is run in the first system, and leaves the second. -/
inductive RunsForeign (h : Host ω κ η) (config : EngineConfig) (k : Task ω κ η) :
    TypeSystem κ η → TypeSystem κ η → Prop where
  | converter {c : Invocation ω κ η}
      (hruns : Invokes h config k.depth k.value k.target k.system c) :
      RunsForeign h config k c.system (h.run c.entry.action c.value c.system).2
  | protocol {c : Canonicalization ω κ η}
      (hruns : Canonicalizes h config k.depth k.value k.target k.system c) :
      RunsForeign h config k c.system (h.canonicalize c.object c.entryPoint c.system).2

/-- The converters that are run for a place are run in the course of the task that reaches it. -/
theorem Reaches.invokes {c : Invocation ω κ η} (hr : Reaches h config k path place)
    (hc : Invokes h config place.depth place.value place.target place.system c) :
    Invokes h config k.depth k.value k.target k.system c := by
  induction hr with
  | here => exact hc
  | element hopens hitems hpre _ ih =>
    obtain ⟨⟨trace, hdirect⟩, hdepth, id, helement, htype⟩ := hopens
    exact .element hdirect helement hdepth htype hitems (resolveItems_eq_ok_iff.2 hpre) (ih hc)

/-- So are the entry points. -/
theorem Reaches.canonicalizes {c : Canonicalization ω κ η} (hr : Reaches h config k path place)
    (hc : Canonicalizes h config place.depth place.value place.target place.system c) :
    Canonicalizes h config k.depth k.value k.target k.system c := by
  induction hr with
  | here => exact hc
  | element hopens hitems hpre _ ih =>
    obtain ⟨⟨trace, hdirect⟩, hdepth, id, helement, htype⟩ := hopens
    exact .element hdirect helement hdepth htype hitems (resolveItems_eq_ok_iff.2 hpre) (ih hc)

theorem Reaches.runsForeign (hr : Reaches h config k path place)
    (hruns : RunsForeign h config place s₁ s₂) : RunsForeign h config k s₁ s₂ := by
  cases hruns with
  | converter hc => exact .converter (hr.invokes hc)
  | protocol hc => exact .protocol (hr.canonicalizes hc)

/-! ## The stages of a whole resolution -/

/-- A direct stage in the course of a task: that of a place which the task reaches. -/
inductive DirectStage (h : Host ω κ η) (config : EngineConfig) (k : Task ω κ η) :
    TypeSystem κ η → TypeSystem κ η → Prop where
  | of_reaches {path : List Nat} {place : Task ω κ η} (hr : Reaches h config k path place) :
      DirectStage h config k place.system
        (resolveDirectly h config place.value place.target place.system).2

section

variable {depth : Nat} {items done pre post : List (Value ω)} {item : Value ω}
  {target elementType : CanonicalType} {slices slices' : List Tensor} {s₀ s₃ : TypeSystem κ η}

/-- A stage of an element's resolution is one of the sequence's. -/
theorem DirectStage.of_element (hopens : OpensSequence h config depth items target s elementType s₁)
    (hitems : items = pre ++ item :: post)
    (hpre : BecomeTensors h config (depth + 1) elementType pre s₁ slices s₂)
    (hstage : DirectStage h config ⟨depth + 1, item, elementType, s₂⟩ s₀ s') :
    DirectStage h config ⟨depth, .sequence items, target, s⟩ s₀ s' := by
  obtain ⟨hr⟩ := hstage
  exact .of_reaches (.element hopens hitems hpre hr)

theorem BecomeTensors.append (hpre : BecomeTensors h config depth target pre s slices s₁)
    (hpost : BecomeTensors h config depth target post s₁ slices' s₂) :
    BecomeTensors h config depth target (pre ++ post) s (slices ++ slices') s₂ := by
  induction hpre with
  | nil => exact hpost
  | cons hv _ ih => exact .cons hv (ih hpost)

/-- As elements become tensors, the system goes through the stages of their resolutions. The
elements before them have become tensors by then. -/
theorem BecomeTensors.stages (hopens : OpensSequence h config depth items target s elementType s₁)
    (hdone : BecomeTensors h config (depth + 1) elementType done s₁ slices s₂)
    (hpre : BecomeTensors h config (depth + 1) elementType pre s₂ slices' s₃)
    (hitems : items = done ++ pre ++ post)
    (hstages : ∀ v ∈ pre, ∀ s₀, ReflTransGen (DirectStage h config ⟨depth + 1, v, elementType, s₀⟩)
      s₀ (resolveAt h config (depth + 1) v elementType s₀).2) :
    ReflTransGen (DirectStage h config ⟨depth, .sequence items, target, s⟩) s₂ s₃ := by
  induction hpre generalizing done slices with
  | nil => exact .refl
  | @cons v rest s₂ s₃ s₄ id t trace _ hv _ ih =>
    obtain ⟨hfirst, hothers⟩ := List.forall_mem_cons.1 hstages
    have hhead := hfirst s₂
    rw [hv] at hhead
    have hnext : BecomeTensors h config (depth + 1) elementType (done ++ [v]) s₁ (slices ++ [t])
        s₃ := hdone.append (.cons hv .nil)
    have hsplit : items = done ++ v :: (rest ++ post) := by simpa using hitems
    have hstages : ReflTransGen (DirectStage h config ⟨depth, .sequence items, target, s⟩) s₂ s₃ :=
      ReflTransGen.mono (fun _ _ hstage => hstage.of_element hopens hsplit hdone) _ _ hhead
    exact hstages.trans (ih hnext (by simpa using hitems) hothers)

end

/-- **A resolution is made of direct stages**, its own and those of the elements that it reaches. -/
theorem Task.stages (k : Task ω κ η) :
    ReflTransGen (DirectStage h config k) k.system (k.resolve h config).2 := by
  obtain ⟨depth, v, target, s⟩ := k
  induction v using Value.induction generalizing depth target s with
  | step v ih =>
  -- The stage of the value itself comes first, whatever follows it.
  have own : ∀ {p : Progress ω} {s₁ : TypeSystem κ η},
      resolveDirectly h config v target s = (p, s₁) →
        ReflTransGen (DirectStage h config ⟨depth, v, target, s⟩) s s₁ := by
    intro p s₁ hdirect
    have hstage : DirectStage h config ⟨depth, v, target, s⟩ s _ := .of_reaches .here
    rw [hdirect] at hstage
    exact .single hstage
  have hends := resolveAt_ends h config depth v target s
  simp only [Task.resolve]
  generalize resolveAt h config depth v target s = p at hends ⊢
  cases hends with
  | directly hdirect | noFallback hdirect | notAggregable hdirect | view hdirect | empty hdirect
  | unregistered hdirect => exact own hdirect
  | @elementFails trace s₁ s₂ element elementType items f hdirect helement hv hdepth htype hitems =>
    subst hv
    have hopens : OpensSequence h config depth items target s elementType s₁ :=
      ⟨⟨trace, hdirect⟩, hdepth, element, helement, htype⟩
    obtain ⟨pre, item, post, slices, s₃, r, hsplit, hpre, hitem, -⟩ :=
      resolveItems_eq_error_iff.1 hitems
    -- First the stages of the elements that became tensors, then those of the one that fails.
    have hbefore : ReflTransGen (DirectStage h config ⟨depth, .sequence items, target, s⟩) s₁ s₃ :=
      BecomeTensors.stages hopens .nil hpre hsplit fun w hw s₀ =>
        ih items rfl w (by simp [hsplit, hw]) (depth + 1) elementType s₀
    have hlast := ih items rfl item (by simp [hsplit]) (depth + 1) elementType s₃
    simp only [Task.resolve, hitem] at hlast
    have hfailing : ReflTransGen (DirectStage h config ⟨depth, .sequence items, target, s⟩) s₃ s₂ :=
      ReflTransGen.mono (fun _ _ hstage => hstage.of_element hopens hsplit hpre) _ _ hlast
    exact ((own hdirect).trans hbefore).trans hfailing
  | @stacked trace s₁ s₂ element elementType items slices hdirect helement hv _ hdepth htype
      hitems =>
    subst hv
    have hopens : OpensSequence h config depth items target s elementType s₁ :=
      ⟨⟨trace, hdirect⟩, hdepth, element, helement, htype⟩
    have hsplit : items = [] ++ items ++ [] := by simp
    have hall : ReflTransGen (DirectStage h config ⟨depth, .sequence items, target, s⟩) s₁ s₂ :=
      BecomeTensors.stages hopens .nil hitems hsplit fun w hw s₀ =>
        ih items rfl w hw (depth + 1) elementType s₀
    exact (own hdirect).trans hall

/-! ## What one stage does -/

/-- A strategy that can be cached is run for the value of a task itself, not for an element of it. -/
inductive RunsStrategy (h : Host ω κ η) (config : EngineConfig) (k : Task ω κ η) :
    CachedStrategy κ → Prop where
  | registry {entry : ConverterEntry κ} {s₁ : TypeSystem κ η}
      (hruns : Invokes h config k.depth k.value k.target k.system ⟨entry, k.value, k.target, s₁⟩) :
      RunsStrategy h config k (.registry entry)
  | protocol {o : ω} {entryPoint : String} {s₁ : TypeSystem κ η} (hobject : k.value = .object o)
      (hentry : k.target.descriptor.entryPoint = some entryPoint)
      (hruns : Canonicalizes h config k.depth k.value k.target k.system ⟨o, entryPoint, s₁⟩) :
      RunsStrategy h config k .protocol

/-- A task succeeds by a strategy that can be cached. -/
structure SucceedsBy (h : Host ω κ η) (config : EngineConfig) (k : Task ω κ η)
    (strategy : CachedStrategy κ) : Prop where
  result : ∃ c, (k.resolve h config).1.result = .ok c
  strategy_eq : (k.resolve h config).1.trace.strategy = some strategy.strategy
  runs : RunsStrategy h config k strategy

/-- What the direct stage of a task leaves. -/
inductive StageEffect (h : Host ω κ η) (config : EngineConfig) (k : Task ω κ η) :
    TypeSystem κ η → Prop where
  /-- The value is an instance of the target. -/
  | nothing : StageEffect h config k k.system
  /-- Neither a converter nor the protocol applies. -/
  | looked {hit : Option (CachedStrategy κ)} {s₁ : TypeSystem κ η}
      (hlook : lookInCache config k.value.producer k.target.id k.system = (hit, s₁)) :
      StageEffect h config k s₁
  /-- A strategy is replayed, or fails, or is not to be cached. -/
  | ran {hit : Option (CachedStrategy κ)} {s₁ s₂ : TypeSystem κ η}
      (hlook : lookInCache config k.value.producer k.target.id k.system = (hit, s₁))
      (hruns : RunsForeign h config k s₁ s₂) : StageEffect h config k s₂
  /-- A strategy that a look-up came to has succeeded. -/
  | remembered {hit : Option (CachedStrategy κ)} {s₁ s₂ : TypeSystem κ η}
      {strategy : CachedStrategy κ} (henabled : config.cacheEnabled = true)
      (hlook : lookInCache config k.value.producer k.target.id k.system = (hit, s₁))
      (hreplay : replay h hit k.value k.target (Trace.start k.value k.target) s₁ = none)
      (hfound : strategy = .ofLookup
        (s₁.converters.lookup k.value.producer k.value.supertypes k.target.id))
      (hruns : RunsForeign h config k s₁ s₂) (hsucceeds : SucceedsBy h config k strategy) :
      StageEffect h config k (s₂.withCache (s₂.engine.cache.insert k.value.producer k.target.id
        strategy s₁.converters.generation))

omit [ForeignObject ω] in
theorem Resolution.exists_of_succeeded {r : Resolution ω} (hr : r.succeeded = true) :
    ∃ c, r.result = .ok c := by
  cases hresult : r.result with
  | ok c => exact ⟨c, rfl⟩
  | error failure => simp [succeeded, hresult] at hr

/-- A decided resolution is remembered if it has succeeded and the cache is in use. -/
theorem stageEffect_remember {v : Value ω} {target : CanonicalType} {depth : Nat}
    {hit : Option (CachedStrategy κ)} {r : Resolution ω} {strategy : CachedStrategy κ}
    (hlook : lookInCache config v.producer target.id s = (hit, s₁))
    (hreplay : replay h hit v target (Trace.start v target) s₁ = none)
    (hfound : strategy = .ofLookup (s₁.converters.lookup v.producer v.supertypes target.id))
    (hruns : RunsForeign h config ⟨depth, v, target, s⟩ s₁ s₂)
    (hstrategy : RunsStrategy h config ⟨depth, v, target, s⟩ strategy)
    (hresolve : (Task.resolve h config ⟨depth, v, target, s⟩).1 = r)
    (hproducer : r.trace.producer = v.producer)
    (htrace : r.trace.strategy = some strategy.strategy) :
    StageEffect h config ⟨depth, v, target, s⟩
      (remember config r target.id strategy s₁.converters.generation s₂) := by
  unfold remember
  split
  next hcond =>
    rw [Bool.and_eq_true] at hcond
    rw [hproducer]
    refine .remembered hcond.1 hlook hreplay hfound hruns ⟨?_, ?_, hstrategy⟩
    · rw [hresolve]
      exact Resolution.exists_of_succeeded hcond.2
    · rw [hresolve]
      exact htrace
  · exact .ran hlook hruns

/-- **A direct stage has one of these effects.** -/
theorem Task.stageEffect (k : Task ω κ η) :
    StageEffect h config k (resolveDirectly h config k.value k.target k.system).2 := by
  obtain ⟨depth, v, target, s⟩ := k
  simp only
  have hways := resolveDirectly_directly h config v target s
  generalize hdirect : resolveDirectly h config v target s = p at hways ⊢
  have hresolve : ∀ {r : Resolution ω} {s' : TypeSystem κ η},
      resolveDirectly h config v target s = (.decided r, s') →
        (Task.resolve h config ⟨depth, v, target, s⟩).1 = r :=
    fun hdecided => congrArg Prod.fst (resolveAt_of_decided hdecided)
  cases hways with
  | identity => exact .nothing
  | replayedConverter s₁ entry hid hlook =>
    exact .ran hlook (.converter (c := ⟨entry, v, target, s₁⟩) (.replayed hid hlook))
  | replayedProtocol s₁ o entryPoint hid hlook hobject hentry =>
    exact .ran hlook (.protocol (c := ⟨o, entryPoint, s₁⟩) (.replayed hid hlook hobject hentry))
  | converter hit s₁ entry r hid hlook hreplay hfound hr =>
    have hruns : Invokes h config depth v target s ⟨entry, v, target, s₁⟩ :=
      .found hid hlook hreplay hfound
    refine stageEffect_remember hlook hreplay (by rw [hfound]; rfl)
      (.converter (c := ⟨entry, v, target, s₁⟩) hruns) (.registry hruns) (hresolve hdirect) ?_ ?_
    · simp [hr, Trace.decide, Trace.attempt, Trace.start]
    · simp [hr, Trace.decide, CachedStrategy.strategy]
  | protocol hit s₁ o entryPoint r hid hlook hreplay hfound hobject hentry hconforms hr =>
    have hruns : Canonicalizes h config depth v target s ⟨o, entryPoint, s₁⟩ :=
      .found hid hlook hreplay hfound hobject hentry hconforms
    refine stageEffect_remember hlook hreplay (by rw [hfound]; rfl)
      (.protocol (c := ⟨o, entryPoint, s₁⟩) hruns)
      (.protocol (Value.eq_object hobject) hentry hruns) (hresolve hdirect) ?_ ?_
    · simp [hr, Trace.decide, Trace.attempt, Trace.start]
    · simp [hr, Trace.decide, CachedStrategy.strategy]
  | undecided hit s₁ trace _ hlook => exact .looked hlook

/-! ## What foreign code alone can change -/

section

variable {α : Type} {part : TypeSystem κ η → α}
  (hpart : ∀ (s : TypeSystem κ η) (cache : ResolutionCache κ), part (s.withCache cache) = part s)

include hpart

/-- A direct stage leaves what is beside the cache to foreign code. -/
theorem StageEffect.changed_by_foreign (heffect : StageEffect h config k s') :
    ReflTransGen (Relation.Map (RunsForeign h config k) part part) (part k.system) (part s') := by
  have hlooked : ∀ {hit : Option (CachedStrategy κ)} {s₁ : TypeSystem κ η},
      lookInCache config k.value.producer k.target.id k.system = (hit, s₁) →
        part s₁ = part k.system := by
    intro hit s₁ hlook
    obtain ⟨cache, rfl⟩ := lookInCache_eq hlook
    exact hpart k.system cache
  cases heffect with
  | nothing => exact .refl
  | looked hlook => rw [hlooked hlook]
  | ran hlook hruns => exact .single ⟨_, _, hruns, hlooked hlook, rfl⟩
  | remembered _ hlook _ _ hruns =>
    rw [hpart]
    exact .single ⟨_, _, hruns, hlooked hlook, rfl⟩

/-- **Whatever is beside the cache is changed by foreign code alone** while a value is resolved. -/
theorem Task.changed_by_foreign (k : Task ω κ η) :
    ReflTransGen (Relation.Map (RunsForeign h config k) part part) (part k.system)
      (part (k.resolve h config).2) := by
  refine ReflTransGen.lift' part ?_ _ _ k.stages
  rintro _ _ ⟨hr⟩
  refine ReflTransGen.mono ?_ _ _ ((Task.stageEffect _).changed_by_foreign hpart)
  rintro _ _ ⟨s₁, s₂, hruns, rfl, rfl⟩
  exact ⟨s₁, s₂, hr.runsForeign hruns, rfl, rfl⟩

end

/-! ## A call -/

/-- In the course of a call foreign code is run in the first system, and leaves the second. -/
def CallRuns (h : Host ω κ η) (v : Value ω) (id : TypeId) (s s₁ s₂ : TypeSystem κ η) : Prop :=
  ∃ t, s.types.get? id = some t ∧ RunsForeign h s.engine.config ⟨0, v, t, s⟩ s₁ s₂

/-- Code that only computes an answer leaves the system as it is. -/
theorem CallRuns.eq_of_pure (hp : h.Pure) {v : Value ω} {id : TypeId}
    (hruns : CallRuns h v id s s₁ s₂) : s₂ = s₁ := by
  obtain ⟨t, -, hruns⟩ := hruns
  cases hruns with
  | @converter c => exact hp.run_snd c.entry.action c.value c.system
  | @protocol c => exact hp.canonicalize_snd c.object c.entryPoint c.system

/-- The system in which a call comes to its result. Nothing is resolved to an id that is not
registered. -/
def resolvedIn (h : Host ω κ η) (v : Value ω) (id : TypeId) (s : TypeSystem κ η) :
    TypeSystem κ η :=
  match s.types.get? id with
  | some t => (resolveAt h s.engine.config 0 v t s).2
  | none => s

omit [ForeignObject ω] in
/-- A record changes the ledger only. -/
theorem observe_eq (engine : Engine κ) (name : String) (r : Resolution ω) (s : TypeSystem κ η) :
    ∃ ledger, observe engine name r s = { s with ledger } := by
  unfold observe
  split
  · exact ⟨s.ledger, rfl⟩
  · split
    · exact ⟨_, rfl⟩
    · exact ⟨s.ledger, rfl⟩

/-- A call records its result, under the name that the target had before, and does nothing else. -/
theorem resolveTraced_snd (v : Value ω) (id : TypeId) (s : TypeSystem κ η) :
    (resolveTraced h v id s).2 = observe s.engine (s.types.nameOf id)
      (resolveTraced h v id s).1 (resolvedIn h v id s) := by
  unfold resolveTraced resolvedIn TypeRegistry.nameOf
  cases s.types.get? id <;> rfl

section

variable {α : Type} {part : TypeSystem κ η → α}
  (hpart : ∀ (s : TypeSystem κ η) (cache : ResolutionCache κ), part (s.withCache cache) = part s)
  (v : Value ω) (id : TypeId) (s : TypeSystem κ η)

include hpart

/-- Whatever is beside the cache is changed by foreign code alone until a call comes to its
result. -/
theorem resolvedIn_changed_by_foreign :
    ReflTransGen (Relation.Map (CallRuns h v id s) part part) (part s)
      (part (resolvedIn h v id s)) := by
  unfold resolvedIn
  cases ht : s.types.get? id with
  | none => exact .refl
  | some t =>
    refine ReflTransGen.mono ?_ _ _ (Task.changed_by_foreign hpart ⟨0, v, t, s⟩)
    rintro _ _ ⟨s₁, s₂, hruns, rfl, rfl⟩
    exact ⟨s₁, s₂, ⟨t, ht, hruns⟩, rfl, rfl⟩

/-- If foreign code leaves it alone, then so does the call. -/
theorem resolvedIn_unchanged
    (hkept : ∀ s₁ s₂, CallRuns h v id s s₁ s₂ → part s₂ = part s₁) :
    part (resolvedIn h v id s) = part s := by
  have hsteps := resolvedIn_changed_by_foreign (h := h) hpart v id s
  generalize part (resolvedIn h v id s) = a at hsteps ⊢
  induction hsteps with
  | refl => rfl
  | tail _ hstep ih =>
    obtain ⟨s₁, s₂, hruns, rfl, rfl⟩ := hstep
    rw [hkept s₁ s₂ hruns, ih]

end

/-- A converter that makes these calls first, and then converts scalars. -/
def callingFirst (calls : List (Operation FixtureObject Unit)) : Host FixtureObject Unit Unit :=
  Host.calling (.pure (fun _ v => scalarPayload v) FixtureObject.canonicalize) fun _ _ => calls

theorem callingFirst_lawful (calls : List (Operation FixtureObject Unit)) :
    (callingFirst calls).Lawful :=
  (Host.pure_lawful _ _).calling _

/-- A system with one type, of which sequences may consist, and such a converter of integers. -/
def callingSystem (config : EngineConfig) : TypeSystem Unit Unit :=
  run (callingFirst []) (.new config ()) [
    .registerType ⟨"Target", none, .ofClauses [.sequence "Target"]⟩,
    .registerConverter .int "Target" (.hosted ()) .default]

end CanonicalTypes
