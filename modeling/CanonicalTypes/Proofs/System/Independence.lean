import CanonicalTypes.Proofs.Resolution.Independence
import CanonicalTypes.Proofs.System.Transparency

/-!
# How the converters came to be does not matter

For each pair of a producer and a type, what its converter does is decided by the last call that
wrote the pair (`lastWrite`, `run_writes`). Two systems with the same types can get there by
different histories: other calls in between, in another order, with other priorities, and with other
values resolved. They then differ in numbers, generations, ledgers and caches. If for each pair the
converters at the end have the same function, the systems are `Interchangeable`, and stay so under
every further call (`apply_interchangeable`): from there on, they give the same answers
(`answers_path_independent`).
-/
namespace CanonicalTypes

open ConverterRegistry (SameFunctions)

variable {ω κ η : Type} [ForeignObject ω] {h : Host ω κ η} {Presented : Value ω → Prop}
  {s s' : TypeSystem κ η}

/-! ## What a call writes -/

/-- The calls that leave the types alone: those that add and remove converters, that resolve and that
invalidate the cache. -/
def Operation.keepsTypes : Operation ω κ → Bool
  | registerConverter .. | deregisterConverter .. | invalidateCache => true
  | resolve .. | resolveTraced .. => true
  | registerType _ | registerTypes _ | installBuiltins => false

/-- What a call writes for a pair: an action, that there is none, or nothing. -/
def Operation.write? (types : TypeRegistry) (producer : ProducerType) (id : TypeId) :
    Operation ω κ → Option (Option (ConverterAction κ))
  | registerConverter p target action _ =>
    if p = producer ∧ (types.find? target).map CanonicalType.id = some id then some (some action)
    else none
  | deregisterConverter p target =>
    if p = producer ∧ (types.find? target).map CanonicalType.id = some id then some none else none
  | _ => none

/-- The action that the last of some calls to write a pair wrote, if there was none `before`. -/
def lastWrite (types : TypeRegistry) (producer : ProducerType) (id : TypeId)
    (before : Option (ConverterAction κ)) (ops : List (Operation ω κ)) :
    Option (ConverterAction κ) :=
  ops.foldl (fun action op => (op.write? types producer id).getD action) before

omit [ForeignObject ω] in
theorem TypeSystem.lookup_toOption (s : TypeSystem κ η) (name : String) :
    (s.lookup name).toOption = s.types.find? name := by
  unfold TypeSystem.lookup TypeRegistry.lookup
  cases s.types.find? name <;> rfl

/-- Pure foreign code and a look into the cache leave the registries alone. -/
theorem resolveDirectly_registries (hp : h.Pure) (config : EngineConfig) (v : Value ω)
    (target : CanonicalType) (s : TypeSystem κ η) :
    (resolveDirectly h config v target s).2.types = s.types ∧
      (resolveDirectly h config v target s).2.converters = s.converters := by
  have hran : ∀ {s₁ s₂ : TypeSystem κ η}, Ran h v s₁ s₂ → s₂ = s₁ := by
    intro s₁ s₂ hran
    cases hran with
    | nothing => rfl
    | converter action => exact hp.run_snd action v s₁
    | protocol o entryPoint _ => exact hp.canonicalize_snd o entryPoint s₁
  have hlooked : ∃ cache, (lookInCache config v.producer target.id s).2 = s.withCache cache :=
    lookInCache_eq rfl
  obtain ⟨cache, hlooked⟩ := hlooked
  rcases resolveDirectly_system h config v target s with heq | ⟨s₂, hs₂, heq | ⟨r, -, heq⟩⟩
  · rw [heq]
    exact ⟨rfl, rfl⟩
  · rw [heq, hran hs₂, hlooked]
    exact ⟨rfl, rfl⟩
  · rw [heq, hran hs₂, hlooked, remember]
    split <;> exact ⟨rfl, rfl⟩

theorem resolveAt_registries (hp : h.Pure) (config : EngineConfig) (depth : Nat) (v : Value ω)
    (target : CanonicalType) (s : TypeSystem κ η) :
    (resolveAt h config depth v target s).2.types = s.types ∧
      (resolveAt h config depth v target s).2.converters = s.converters :=
  resolveAt_keeps (P := fun _ => True) (Q := fun _ => True)
    (K := fun s₁ => s₁.types = s.types ∧ s₁.converters = s.converters) (fun _ _ _ => trivial)
    (fun _ _ _ _ _ => trivial)
    (fun v target s₁ _ _ hs₁ => by
      obtain ⟨htypes, hconverters⟩ := resolveDirectly_registries hp config v target s₁
      exact ⟨htypes.trans hs₁.1, hconverters.trans hs₁.2⟩)
    depth trivial trivial ⟨rfl, rfl⟩

theorem resolveTraced_registries (hp : h.Pure) (v : Value ω) (target : TypeId)
    (s : TypeSystem κ η) :
    (resolveTraced h v target s).2.types = s.types ∧
      (resolveTraced h v target s).2.converters = s.converters := by
  have hobserve : ∀ (engine : Engine κ) (name : String) (r : Resolution ω) (s₁ : TypeSystem κ η),
      (observe engine name r s₁).types = s₁.types ∧
        (observe engine name r s₁).converters = s₁.converters := by
    intro engine name r s₁
    unfold observe
    split
    · exact ⟨rfl, rfl⟩
    · split <;> exact ⟨rfl, rfl⟩
  unfold resolveTraced
  split
  next t _ =>
    have hs₁ := resolveAt_registries hp s.engine.config 0 v t s
    obtain ⟨htypes, hconverters⟩ :=
      hobserve s.engine t.name (resolveAt h s.engine.config 0 v t s).1
        (resolveAt h s.engine.config 0 v t s).2
    exact ⟨htypes.trans hs₁.1, hconverters.trans hs₁.2⟩
  · exact hobserve s.engine target.text _ s

theorem resolve_registries (hp : h.Pure) (v : Value ω) (target : String) (s : TypeSystem κ η) :
    (TypeSystem.resolve h v target s).2.types = s.types ∧
      (TypeSystem.resolve h v target s).2.converters = s.converters := by
  unfold TypeSystem.resolve
  split
  · exact ⟨rfl, rfl⟩
  next t _ =>
    have ht := resolveTraced_registries hp v t.id s
    split
    next hr => rwa [hr] at ht
    next hr => rwa [hr] at ht

omit [ForeignObject ω] in
/-- A removal changes no types, and the converters as their registry says. -/
theorem TypeSystem.removeConverter_registries (s : TypeSystem κ η) (producer : ProducerType)
    (target : TypeId) :
    (s.removeConverter producer target).2.types = s.types ∧
      (s.removeConverter producer target).2.converters =
        (s.converters.deregister producer target).2 := by
  unfold removeConverter
  split
  next hd =>
    -- Without a converter of the pair the registry stays as it is.
    refine ⟨rfl, ?_⟩
    unfold ConverterRegistry.deregister at hd ⊢
    split at hd
    · rfl
    · cases hd
  next hd =>
    rw [hd]
    exact ⟨rfl, rfl⟩

/-- A call that keeps the types writes what it says, and every other pair has what it had. -/
theorem apply_writes (hp : h.Pure) {op : Operation ω κ} (hkeeps : op.keepsTypes = true)
    (s : TypeSystem κ η) :
    (op.apply h s).2.types = s.types ∧ ∀ producer id,
      (op.apply h s).2.converters.action? producer id =
        (op.write? s.types producer id).getD (s.converters.action? producer id) := by
  cases op with
  | registerType => cases hkeeps
  | registerTypes => cases hkeeps
  | installBuiltins => cases hkeeps
  | invalidateCache => exact ⟨rfl, fun _ _ => rfl⟩
  -- Foreign code is pure, so resolutions change neither registry.
  | resolve v target =>
    obtain ⟨htypes, hconverters⟩ := resolve_registries hp v target s
    exact ⟨htypes, fun producer id => congrArg (·.action? producer id) hconverters⟩
  | resolveTraced v target =>
    obtain ⟨htypes, hconverters⟩ := resolveTraced_registries hp v target s
    exact ⟨htypes, fun producer id => congrArg (·.action? producer id) hconverters⟩
  | registerConverter p target action priority =>
    have hfind := s.lookup_toOption target
    simp only [Operation.apply, TypeSystem.registerConverter, Operation.write?, ← hfind]
    cases s.lookup target with
    | error e => exact ⟨rfl, fun _ _ => by simp [Except.toOption]⟩
    | ok t =>
      refine ⟨rfl, fun producer id => ?_⟩
      simp only [TypeSystem.addConverter, TypeSystem.record, ConverterRegistry.action?_register,
        Except.toOption, Option.map_some, Option.some.injEq]
      split <;> rfl
  | deregisterConverter p target =>
    have hfind := s.lookup_toOption target
    simp only [Operation.apply, TypeSystem.deregisterConverter, Operation.write?, ← hfind]
    cases s.lookup target with
    | error e => exact ⟨rfl, fun _ _ => by simp [Except.toOption]⟩
    | ok t =>
      obtain ⟨htypes, hconverters⟩ := s.removeConverter_registries p t.id
      refine ⟨htypes, fun producer id => ?_⟩
      simp only [hconverters, ConverterRegistry.action?_deregister, Except.toOption,
        Option.map_some, Option.some.injEq]
      split <;> rfl

/-- **Converters are last-write-wins.** After calls that keep the types, a pair has the converter of
the last call that wrote it, and what it had before if none did. -/
theorem run_writes (hp : h.Pure) {ops : List (Operation ω κ)}
    (hkeeps : ∀ op ∈ ops, op.keepsTypes = true) (s : TypeSystem κ η) :
    (run h s ops).types = s.types ∧ ∀ producer id,
      (run h s ops).converters.action? producer id =
        lastWrite s.types producer id (s.converters.action? producer id) ops := by
  induction ops generalizing s with
  | nil => exact ⟨rfl, fun _ _ => rfl⟩
  | cons op rest ih =>
    obtain ⟨hop, hrest⟩ := List.forall_mem_cons.1 hkeeps
    obtain ⟨htypes, hwrites⟩ := apply_writes hp hop s
    obtain ⟨htypes', hwrites'⟩ := ih hrest (op.apply h s).2
    refine ⟨htypes'.trans htypes, fun producer id => (hwrites' producer id).trans ?_⟩
    rw [htypes, hwrites producer id]
    rfl

/-! ## Two systems -/

/-- The answer to a resolution: what it comes to, with as much of its trace as a replay tells. -/
def Reply.answer? : Reply ω → Option (Reply ω)
  | value answer => some (.value answer)
  | resolution r => some (.resolution r.forgetReplay)
  | _ => none

def answers (h : Host ω κ η) (s : TypeSystem κ η) (ops : List (Operation ω κ)) :
    List (Reply ω) :=
  (transcript h s ops).filterMap fun step => step.1.answer?

section

variable (items : ∀ {items : List (Value ω)}, Presented (.sequence items) →
  ∀ v ∈ items, Presented v)

include items

theorem run_cacheJustified (hp : h.Pure) {ops : List (Operation ω κ)}
    (hops : ∀ op ∈ ops, ∀ v, op.value? = some v → Presented v) (hw : s.types.WellFormed)
    (uniform : Uniform (run h s ops).types Presented) (hj : s.CacheJustified Presented) :
    (run h s ops).CacheJustified Presented := by
  induction ops generalizing s with
  | nil => exact hj
  | cons op rest ih =>
    obtain ⟨hop, hrest⟩ := List.forall_mem_cons.1 hops
    have hgrows := ((run_evolves hp.lawful s (op :: rest)).types hw).2
    have halike := (apply_alike items hp hw (uniform.of_prefix hgrows) op hop hj.alike).2
    exact ih hrest ((apply_evolves hp.lawful s op).types hw).1 uniform halike.cacheJustified

theorem resolveTraced_independent (hp : h.Pure) (hw : s.types.WellFormed)
    (uniform : Uniform s.types Presented) {v : Value ω} (hv : Presented v) (target : TypeId)
    (hs : Interchangeable h Presented s s') :
    (resolveTraced h v target s).1.forgetReplay = (resolveTraced h v target s').1.forgetReplay := by
  simp only [resolveTraced, ← hs.types]
  cases ht : s.types.get? target with
  | none => rfl
  | some t =>
    rw [← hw.id_of_get? ht] at ht
    exact resolveAt_independent hp hw.toSynced uniform items hs.depth 0 hv ht hs

theorem resolve_independent (hp : h.Pure) (hw : s.types.WellFormed)
    (uniform : Uniform s.types Presented) {v : Value ω} (hv : Presented v) (target : String)
    (hs : Interchangeable h Presented s s') :
    (TypeSystem.resolve h v target s).1 = (TypeSystem.resolve h v target s').1 := by
  simp only [TypeSystem.resolve, ← hs.types]
  cases s.types.find? target with
  | none => rfl
  | some t =>
    have hr := (Resolution.forgetReplay_eq_iff.1
      (resolveTraced_independent items hp hw uniform hv t.id hs)).1
    simp only
    generalize resolveTraced h v t.id s = p at hr ⊢
    generalize resolveTraced h v t.id s' = p' at hr ⊢
    obtain ⟨⟨result, trace⟩, s₁⟩ := p
    obtain ⟨⟨result', trace'⟩, s₁'⟩ := p'
    obtain rfl : result = result' := hr
    cases result <;> rfl

/-- A resolution in one of two interchangeable systems leaves them so. -/
theorem Interchangeable.resolveTraced (hp : h.Pure) (hw : s.types.WellFormed)
    (uniform : Uniform s.types Presented) {v : Value ω} (hv : Presented v) (target : TypeId)
    (hs : Interchangeable h Presented s s') :
    Interchangeable h Presented s (resolveTraced h v target s').2 := by
  obtain ⟨htypes, hconverters⟩ := resolveTraced_registries hp v target s'
  have hconfig := (apply_evolves hp.lawful s' (.resolveTraced v target)).config
  exact {
    types := hs.types.trans htypes.symm
    functions := hconverters ▸ hs.functions
    depth := hs.depth.trans (congrArg EngineConfig.maxSequenceDepth hconfig.symm)
    justified := hs.justified
    justified' := (resolveTraced_alike items hp (hs.types ▸ hw) (hs.types ▸ uniform) hv target
      hs.justified'.alike).2.cacheJustified }

/-- Every call that keeps the types leaves two systems interchangeable. -/
theorem apply_interchangeable (hp : h.Pure) (hw : s.types.WellFormed)
    (uniform : Uniform s.types Presented) {op : Operation ω κ} (hkeeps : op.keepsTypes = true)
    (hop : ∀ v, op.value? = some v → Presented v) (hs : Interchangeable h Presented s s') :
    Interchangeable h Presented (op.apply h s).2 (op.apply h s').2 := by
  obtain ⟨htypes, hwrites⟩ := apply_writes hp hkeeps s
  obtain ⟨htypes', hwrites'⟩ := apply_writes hp hkeeps s'
  refine ⟨by rw [htypes, htypes', hs.types], fun producer id => ?_, ?_, ?_, ?_⟩
  · -- Both write the same action, or both keep one with the same function.
    rw [hwrites producer id, hwrites' producer id, ← hs.types]
    cases op.write? s.types producer id with
    | some written => rfl
    | none => exact hs.functions producer id
  · rw [(apply_evolves hp.lawful s op).config, (apply_evolves hp.lawful s' op).config]
    exact hs.depth
  · exact (apply_alike items hp hw uniform op hop hs.justified.alike).2.cacheJustified
  · exact (apply_alike items hp (hs.types ▸ hw) (hs.types ▸ uniform) op hop
      hs.justified'.alike).2.cacheJustified

theorem answer_independent (hp : h.Pure) (hw : s.types.WellFormed)
    (uniform : Uniform s.types Presented) (op : Operation ω κ)
    (hop : ∀ v, op.value? = some v → Presented v) (hs : Interchangeable h Presented s s') :
    (op.apply h s).1.answer? = (op.apply h s').1.answer? := by
  cases op with
  | resolve v target =>
    exact congrArg (fun answer => some (Reply.value answer))
      (resolve_independent items hp hw uniform (hop v rfl) target hs)
  | resolveTraced v target =>
    exact congrArg (fun r => some (Reply.resolution r))
      (resolveTraced_independent items hp hw uniform (hop v rfl) target hs)
  | registerType => rfl
  | registerTypes => rfl
  | registerConverter => rfl
  | deregisterConverter => rfl
  | installBuiltins => rfl
  | invalidateCache => rfl

/-- Interchangeable systems give the same answers, also after further changes of the converters. -/
theorem answers_independent (hp : h.Pure) (hw : s.types.WellFormed)
    (uniform : Uniform s.types Presented) {ops : List (Operation ω κ)}
    (hkeeps : ∀ op ∈ ops, op.keepsTypes = true)
    (hops : ∀ op ∈ ops, ∀ v, op.value? = some v → Presented v)
    (hs : Interchangeable h Presented s s') : answers h s ops = answers h s' ops := by
  induction ops generalizing s s' with
  | nil => rfl
  | cons op rest ih =>
    obtain ⟨hkeep, hkeeps⟩ := List.forall_mem_cons.1 hkeeps
    obtain ⟨hop, hops⟩ := List.forall_mem_cons.1 hops
    have htypes := (apply_writes hp hkeep s).1
    have hrest := ih (htypes.symm ▸ hw) (htypes.symm ▸ uniform) hkeeps hops
      (apply_interchangeable items hp hw uniform hkeep hop hs)
    have hfirst := answer_independent items hp hw uniform op hop hs
    simp only [answers, transcript, List.filterMap_cons, hfirst] at hrest ⊢
    rw [hrest]

end

/-- **Converters are last-write-wins, and how they came to be does not matter.** Take two systems
with the same types, that aggregate sequences to the same depth, and make any calls on each of them
that keep the types: converters are added, replaced and removed with any priorities, values resolved
and caches invalidated. On each, a pair then has the converter that the last call for this pair gave
it. And if for each pair the converters have the same function in both, or there is none in both,
then both give the same answers to all further resolutions, also between further calls of this kind:
the same results, and the same strategies. Foreign code is pure, and the presented values of one
producer have the same supertypes and conform to the same registered descriptors. -/
theorem answers_path_independent (convert : κ → Value ω → Except ConverterError (Payload ω))
    (canonicalize : ω → String → Except ConverterError (Payload ω)) (config config' : EngineConfig)
    (host host' : η) (base base' calls calls' later : List (Operation ω κ))
    (depth : config.maxSequenceDepth = config'.maxSequenceDepth)
    (keeps : ∀ op ∈ calls ++ calls' ++ later, op.keepsTypes = true) :
    let h : Host ω κ η := .pure convert canonicalize
    let s₀ := run h (.new config host) base
    let s₀' := run h (.new config' host') base'
    let s := run h s₀ calls
    let s' := run h s₀' calls'
    s₀.types.types = s₀'.types.types →
    Uniform s₀.types (PresentedIn (base ++ base' ++ calls ++ calls' ++ later)) →
    (∀ producer id, s.converters.action? producer id =
      lastWrite s₀.types producer id (s₀.converters.action? producer id) calls) ∧
    (s.converters.SameFunctions h s'.converters → answers h s later = answers h s' later) := by
  intro h s₀ s₀' s s' htypes uniform
  have hp : h.Pure := Host.pure_pure convert canonicalize
  have hcalls : ∀ op ∈ calls, op.keepsTypes = true := fun op hop => keeps op (by simp [hop])
  have hcalls' : ∀ op ∈ calls', op.keepsTypes = true := fun op hop => keeps op (by simp [hop])
  have hw₀ : s₀.types.WellFormed := (reachable_run hp.lawful config host base).wellFormed
  have hw₀' : s₀'.types.WellFormed := (reachable_run hp.lawful config' host' base').wellFormed
  have hbases := hw₀.toSynced.eq_of_types hw₀'.toSynced htypes
  obtain ⟨hs, hwrites⟩ := run_writes hp hcalls s₀
  obtain ⟨hs', -⟩ := run_writes hp hcalls' s₀'
  refine ⟨hwrites, fun hfunctions => ?_⟩
  -- All values are presented in one list of calls, of which each run makes a part.
  generalize hall : base ++ base' ++ calls ++ calls' ++ later = all at uniform
  have hj₀ := run_cacheJustified PresentedIn.element hp
    (fun op hop v => .of_mem (hall ▸ by simp [hop])) TypeRegistry.wellFormed_empty uniform
    (TypeSystem.cacheJustified_new config host)
  have hj₀' := run_cacheJustified PresentedIn.element hp
    (fun op hop v => .of_mem (hall ▸ by simp [hop])) TypeRegistry.wellFormed_empty
    (hbases ▸ uniform) (TypeSystem.cacheJustified_new config' host')
  have hj := run_cacheJustified PresentedIn.element hp
    (fun op hop v => .of_mem (hall ▸ by simp [hop])) hw₀ (hs.symm ▸ uniform) hj₀
  have hj' := run_cacheJustified PresentedIn.element hp
    (fun op hop v => .of_mem (hall ▸ by simp [hop])) hw₀' (hs'.symm ▸ hbases ▸ uniform) hj₀'
  have hdepth : s.engine.config.maxSequenceDepth = s'.engine.config.maxSequenceDepth := by
    rw [((run_evolves hp.lawful _ base).trans (run_evolves hp.lawful s₀ calls)).config,
      ((run_evolves hp.lawful _ base').trans (run_evolves hp.lawful s₀' calls')).config]
    exact depth
  exact answers_independent PresentedIn.element hp (hs.symm ▸ hw₀) (hs.symm ▸ uniform)
    (fun op hop => keeps op (by simp [hop])) (fun op hop v => .of_mem (hall ▸ by simp [hop]))
    ⟨hs.trans (hbases.trans hs'.symm), hfunctions, hdepth, hj, hj'⟩

/-- The converters of two producers are registered, and one of them is replaced. -/
def directCalls : List (Operation FixtureObject Literal) := [
  .registerConverter ⟨"conformance.Unrelated"⟩ "Tensor" (.hosted (.int 1)) .legacy,
  .resolve (.object .unrelated) "Tensor",
  .registerConverter ⟨"conformance.ProtocolTensor"⟩ "Tensor" (.hosted (.int 2)) .override,
  .registerConverter ⟨"conformance.Unrelated"⟩ "Tensor" (.hosted (.int 5)) .override]

/-- The same, the other way round, with other priorities and after a resolution by the protocol. A
converter comes and goes in between. -/
def detouredCalls : List (Operation FixtureObject Literal) := [
  .resolve (.object (.protocolTensor 9)) "Tensor",
  .registerConverter ⟨"conformance.ProtocolTensor"⟩ "Tensor" (.hosted (.int 2)) .legacy,
  .registerConverter ⟨"conformance.Derived"⟩ "Tensor" (.hosted (.int 7)) .override,
  .resolve (.object (.protocolTensor 9)) "Tensor",
  .deregisterConverter ⟨"conformance.Derived"⟩ "Tensor",
  .registerConverter ⟨"conformance.Unrelated"⟩ "Tensor" (.hosted (.int 5)) .default]

/-- Resolutions of both producers, until one of them loses its converter. -/
def furtherCalls : List (Operation FixtureObject Literal) := [
  .resolve (.sequence [.object .unrelated, .object (.protocolTensor 4)]) "Tensor",
  .resolveTraced (.object (.protocolTensor 4)) ⟨0⟩,
  .deregisterConverter ⟨"conformance.ProtocolTensor"⟩ "Tensor",
  .resolveTraced (.object (.protocolTensor 4)) ⟨0⟩,
  .resolveTraced (.object .derived) ⟨0⟩]

theorem answers_path_independent_detour :
    let h : Host FixtureObject Literal Unit :=
      .pure (fun literal _ => .ok (.tensor (Tensor.scalar literal))) FixtureObject.canonicalize
    let s₀ : TypeSystem Literal Unit := run h (.new {} ()) [.installBuiltins]
    let s := run h s₀ directCalls
    let s' := run h s₀ detouredCalls
    answers h s furtherCalls = answers h s' furtherCalls ∧
    s.converters.action? ⟨"conformance.Unrelated"⟩ ⟨0⟩ = some (.hosted (.int 5)) ∧
    s.converters.generation = 7 ∧ s'.converters.generation = 8 ∧
    s.converters.active.map ConverterEntry.sequence = [0, 1, 2, 3, 5, 6] ∧
    s'.converters.active.map ConverterEntry.sequence = [0, 1, 2, 3, 4, 6] := by
  intro h s₀ s s'
  obtain ⟨hwrites, hanswers⟩ := answers_path_independent
    (fun literal _ => .ok (.tensor (Tensor.scalar literal))) FixtureObject.canonicalize {} {} () ()
    [.installBuiltins] [.installBuiltins] directCalls detouredCalls furtherCalls rfl (by decide) rfl
    (fixtures_uniform _ _)
  have hfunctions : s.converters.SameFunctions h s'.converters :=
    .of_active h (by decide +kernel)
  refine ⟨hanswers hfunctions, (hwrites _ _).trans (by decide +kernel), ?_⟩
  decide +kernel

end CanonicalTypes
