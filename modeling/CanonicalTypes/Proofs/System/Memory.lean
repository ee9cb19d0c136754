import CanonicalTypes.Proofs.System.Effects

/-!
# What a resolution remembers

A strategy is remembered by the direct stage that has succeeded by it, at whatever depth, and no
other stage adds an entry to the cache. What the cache knew before stays: a stage only comes to an
insert if the cache had no answer for its pair, since an answer would have been replayed.

For that the answers have to be such as can be replayed (`TypeSystem.Replays`): a coherent cache does
not contradict the registry, and the protocol is only remembered for types that have an entry point.
Systems that come of a new one by calls of users, by resolutions and by foreign code that makes such
calls (`Host.Careful`) are like this: `developed_run`.

Foreign code may do all of that in the middle of a resolution, so what a resolution leaves alone is
told up to the runs of foreign code in it. The main result is `resolution_remembers`.
-/
namespace CanonicalTypes

open Relation (ReflTransGen)
open TypeSystem (Evolves)

variable {ω κ η : Type} [ForeignObject ω] {h : Host ω κ η} {config : EngineConfig}
  {s s' s'' s₁ s₂ : TypeSystem κ η} {k place : Task ω κ η} {path : List Nat}
  {producer p : ProducerType} {target t : TypeId} {strategy known : CachedStrategy κ}

/-! ## Systems whose cache can be replayed -/

namespace TypeSystem

/-- The cache answers for a pair, in the present generation. -/
def Recalls (s : TypeSystem κ η) (producer : ProducerType) (target : TypeId)
    (strategy : CachedStrategy κ) : Prop :=
  (s.engine.cache.get producer target s.converters.generation).1 = some strategy

/-- What the cache answers can be replayed. -/
structure Replays (s : TypeSystem κ η) : Prop where
  types : s.types.WellFormed
  coherent : s.CacheCoherent
  entryPoint : ∀ e ∈ s.engine.cache.entries, e.strategy = .protocol →
    ∃ t, s.types.get? e.target = some t ∧ t.descriptor.entryPoint.isSome = true

/-- The first system evolves into the second, and if its cache can be replayed, so can the cache
afterwards. Evolution alone leaves open for which targets the protocol is remembered. -/
structure Develops (s s' : TypeSystem κ η) : Prop where
  evolves : Evolves s s'
  replays : s.Replays → s'.Replays

theorem Develops.refl (s : TypeSystem κ η) : Develops s s := ⟨.refl s, id⟩

theorem Develops.trans (h : Develops s s') (h' : Develops s' s'') : Develops s s'' :=
  ⟨h.evolves.trans h'.evolves, h'.replays ∘ h.replays⟩

/-- A change that adds nothing to the cache. -/
theorem Develops.of_entries (h : Evolves s s')
    (hentries : ∀ e ∈ s'.engine.cache.entries, e ∈ s.engine.cache.entries) : Develops s s' where
  evolves := h
  replays hs := {
    types := (h.types hs.types).1
    coherent := h.cacheCoherent hs.coherent
    entryPoint := fun e he hprotocol =>
      let ⟨t, ht, hentry⟩ := hs.entryPoint e (hentries e he) hprotocol
      ⟨t, TypeRegistry.get?_of_prefix (h.types hs.types).2 ht, hentry⟩ }

theorem develops_coversRegistries :
    CoversRegistries (Develops : TypeSystem κ η → TypeSystem κ η → Prop) where
  refl := .refl
  trans := .trans
  call s call := .of_entries (evolves_coversRegistries.call s call) fun _ he => he
  addConverter s producer target action priority htarget :=
    .of_entries (evolves_coversRegistries.addConverter s producer target action priority htarget)
      fun _ he => he
  removeConverter s producer target := by
    refine .of_entries (evolves_coversRegistries.removeConverter s producer target) fun e he => ?_
    unfold removeConverter at he
    split at he <;> exact he
  builtins s builtins hnone :=
    .of_entries (evolves_coversRegistries.builtins s builtins hnone) fun _ he => he

/-- A system that a new one develops into. -/
def Developed (s : TypeSystem κ η) : Prop :=
  ∃ (config : EngineConfig) (host : η), Develops (new config host) s

theorem Developed.replays (hs : s.Developed) : s.Replays := by
  obtain ⟨config, host, hnew⟩ := hs
  exact hnew.replays {
    types := TypeRegistry.wellFormed_empty
    coherent := ResolutionCache.valid_empty _
    entryPoint := fun _ he => nomatch he }

end TypeSystem

open TypeSystem (Develops)

/-- Foreign code develops the system, as its users do. -/
structure Host.Careful (h : Host ω κ η) : Prop where
  convert : ∀ tag v s, Develops s (h.convert tag v s).2
  canonicalize : ∀ o entryPoint s, Develops s (h.canonicalize o entryPoint s).2

omit [ForeignObject ω] in
theorem Host.Careful.lawful (hl : h.Careful) : h.Lawful where
  convert tag v s := (hl.convert tag v s).evolves
  canonicalize o entryPoint s := (hl.canonicalize o entryPoint s).evolves

omit [ForeignObject ω] in
theorem Host.pure_careful (convert : κ → Value ω → Except ConverterError (Payload ω))
    (canonicalize : ω → String → Except ConverterError (Payload ω)) :
    (Host.pure convert canonicalize : Host ω κ η).Careful where
  convert _ _ s := .refl s
  canonicalize _ _ s := .refl s

/-! ## The cache stays replayable -/

theorem RunsForeign.develops (hl : h.Careful) (hruns : RunsForeign h config k s₁ s₂) :
    Develops s₁ s₂ := by
  cases hruns with
  | @converter c =>
    cases haction : c.entry.action with
    | scalar => exact .refl _
    | hosted tag => exact hl.convert tag c.value c.system
  | @protocol c => exact hl.canonicalize c.object c.entryPoint c.system

theorem lookInCache_develops {hit : Option (CachedStrategy κ)}
    (hlook : lookInCache config producer target s = (hit, s₁)) : Develops s s₁ := by
  unfold lookInCache at hlook
  split at hlook
  · cases hlook
    exact .of_entries (.look (.refl s) producer target) fun _ he =>
      (ResolutionCache.mem_get.1 he).1
  · cases hlook
    exact .refl _

/-- A direct stage of a task for a registered type leaves a cache that can be replayed. -/
theorem StageEffect.replays (hl : h.Careful) (hs : k.system.Replays)
    (ht : k.system.types.get? k.target.id = some k.target) (hevolves : Evolves k.system s')
    (heffect : StageEffect h config k s') : s'.Replays := by
  cases heffect with
  | nothing => exact hs
  | looked hlook => exact (lookInCache_develops hlook).replays hs
  | ran hlook hruns => exact ((lookInCache_develops hlook).trans (hruns.develops hl)).replays hs
  | @remembered hit s₁ s₂ strategy _ hlook _ _ hruns hsucceeds =>
    have hdevelops := (lookInCache_develops hlook).trans (hruns.develops hl)
    have hs₂ := hdevelops.replays hs
    refine ⟨hs₂.types, hevolves.cacheCoherent hs.coherent, fun e he hprotocol => ?_⟩
    rcases ResolutionCache.mem_insert he with ⟨he, -⟩ | ⟨rfl, -⟩
    · exact hs₂.entryPoint e he hprotocol
    · obtain rfl : strategy = .protocol := hprotocol
      cases hsucceeds.runs with
      | protocol _ hentry =>
        exact ⟨k.target, TypeRegistry.get?_of_prefix (hdevelops.evolves.types hs.types).2 ht,
          by simp [hentry]⟩

/-- Along the stages of a task for a registered type the cache stays replayable. -/
theorem Task.replays (hl : h.Careful) (hs : k.system.Replays)
    (ht : k.system.types.get? k.target.id = some k.target)
    (hchain : ReflTransGen (DirectStage h config k) k.system s') : s'.Replays := by
  induction hchain with
  | refl => exact hs
  | tail _ hstage ih =>
    obtain ⟨hr⟩ := hstage
    exact (Task.stageEffect _).replays hl ih (hr.registered hl.lawful hs.types ht)
      (resolveDirectly_evolves hl.lawful config _ _ _)

/-- So it does until a call comes to its result. -/
theorem resolvedIn_replays (hl : h.Careful) (hs : s.Replays) (v : Value ω) (id : TypeId) :
    (resolvedIn h v id s).Replays := by
  unfold resolvedIn
  split
  next t ht =>
    obtain rfl := hs.types.id_of_get? ht
    exact Task.replays (k := ⟨0, v, t, s⟩) hl hs ht (Task.stages _)
  · exact hs

theorem resolveTraced_develops (hl : h.Careful) (v : Value ω) (id : TypeId)
    (s : TypeSystem κ η) : Develops s (resolveTraced h v id s).2 where
  evolves := resolveTraced_covered TypeSystem.evolves_covers hl.lawful.changesWithin
    (fun _ _ _ => trivial) trivial id s
  replays hs := by
    obtain ⟨ledger, heq⟩ := observe_eq s.engine (s.types.nameOf id) (resolveTraced h v id s).1
      (resolvedIn h v id s)
    have hresolved := resolvedIn_replays hl hs v id
    rw [resolveTraced_snd, heq]
    exact ⟨hresolved.types, hresolved.coherent, hresolved.entryPoint⟩

theorem apply_develops (hl : h.Careful) (s : TypeSystem κ η) (op : Operation ω κ) :
    Develops s (op.apply h s).2 := by
  have hc := TypeSystem.develops_coversRegistries (κ := κ) (η := η)
  cases op with
  | registerType d => exact registerType_covered hc s d
  | registerTypes ds => exact hc.call s (.batch ds)
  | registerConverter producer target action priority =>
    exact registerConverter_covered hc s producer target action priority
  | deregisterConverter producer target => exact deregisterConverter_covered hc s producer target
  | installBuiltins => exact installBuiltins_covered hc s
  | invalidateCache => exact .of_entries (.invalidate (.refl s)) fun _ he => nomatch he
  | resolve v name =>
    show Develops s (TypeSystem.resolve h v name s).2
    rw [TypeSystem.resolve_snd]
    split
    next t _ => exact resolveTraced_develops hl v t.id s
    · exact .refl s
  | resolveTraced v id => exact resolveTraced_develops hl v id s

theorem run_develops (hl : h.Careful) (s : TypeSystem κ η) (ops : List (Operation ω κ)) :
    Develops s (run h s ops) := by
  induction ops generalizing s with
  | nil => exact .refl s
  | cons op rest ih => exact (apply_develops hl s op).trans (ih _)

/-- Every system that a run on a new one passes through is one that a new one develops into. -/
theorem developed_run (hl : h.Careful) (config : EngineConfig) (host : η)
    (ops : List (Operation ω κ)) : (run h (.new config host) ops).Developed :=
  ⟨config, host, run_develops hl _ ops⟩

theorem Host.Careful.calling (hl : h.Careful) (calls : κ → Value ω → List (Operation ω κ)) :
    (h.calling calls).Careful where
  convert tag v s := (run_develops hl s (calls tag v)).trans (hl.convert tag v _)
  canonicalize := hl.canonicalize

/-! ## What a direct stage does to the answers -/

theorem lookInCache_recalls {hit : Option (CachedStrategy κ)}
    (hlook : lookInCache config producer target s = (hit, s₁)) :
    s₁.Recalls p t known ↔ s.Recalls p t known := by
  unfold lookInCache at hlook
  split at hlook
  · cases hlook
    exact Eq.congr_left (ResolutionCache.get_get ..)
  · cases hlook
    exact .rfl

/-- If the cache has an answer that cannot be replayed, then the answer is the protocol and the
value is no object. No converter is found for it either, so there is nothing to remember. -/
theorem hit_eq_none (hs : k.system.Replays)
    (ht : k.system.types.get? k.target.id = some k.target) {hit : Option (CachedStrategy κ)}
    (hlook : lookInCache config k.value.producer k.target.id k.system = (hit, s₁))
    (hreplay : replay h hit k.value k.target (Trace.start k.value k.target) s₁ = none)
    (hfound : strategy = .ofLookup
      (s₁.converters.lookup k.value.producer k.value.supertypes k.target.id))
    (hruns : RunsStrategy h config k strategy) : hit = none := by
  rcases hit with _ | entry | _
  · rfl
  · cases hreplay
  · have hanswer := lookInCache_hit hlook
    obtain ⟨supertypes, hprotocol⟩ := hs.coherent.hit hanswer
    have hnone : k.system.converters.lookup k.value.producer supertypes k.target.id = none := by
      cases hlookup : k.system.converters.lookup k.value.producer supertypes k.target.id with
      | none => rfl
      | some e => rw [hlookup] at hprotocol; cases hprotocol
    obtain ⟨t, htarget, hentry⟩ :=
      hs.entryPoint _ (ResolutionCache.mem_of_get hanswer).2 rfl
    obtain rfl : k.target = t := Option.some.inj (ht.symm.trans htarget)
    obtain ⟨entryPoint, hentry⟩ := Option.isSome_iff_exists.1 hentry
    have hobject : k.value.object? = none := by
      cases hobject : k.value.object? with
      | none => rfl
      | some o => simp [replay, hobject, hentry] at hreplay
    rw [lookInCache_converters hlook, Value.supertypes_of_object? hobject,
      ConverterRegistry.lookup_nil_of_none hnone] at hfound
    cases hruns with
    | registry => cases hfound
    | protocol hvalue => rw [hvalue] at hobject; cases hobject

omit [ForeignObject ω] in
/-- An insert adds at most its own answer, unless the registry is still behind its generation. -/
theorem recalls_of_insert {generation : Nat} (hle : generation ≤ s.converters.generation)
    (hrecalls : (s.withCache (s.engine.cache.insert producer target strategy generation)).Recalls
      p t known) : s.Recalls p t known ∨ p = producer ∧ t = target ∧ known = strategy := by
  have hanswer : ((s.engine.cache.insert producer target strategy generation).get p t
    s.converters.generation).1 = some known := hrecalls
  rw [ResolutionCache.get_insert hle] at hanswer
  split at hanswer
  next hpair => exact .inr ⟨hpair.1.1, hpair.1.2, (Option.some.inj hanswer).symm⟩
  · exact .inl hanswer

omit [ForeignObject ω] in
/-- It leaves the answers for other pairs. -/
theorem recalls_insert_of_ne {generation : Nat} (hle : generation ≤ s.converters.generation)
    (hne : ¬ (p = producer ∧ t = target)) (hrecalls : s.Recalls p t known) :
    (s.withCache (s.engine.cache.insert producer target strategy generation)).Recalls
      p t known := by
  show ((s.engine.cache.insert producer target strategy generation).get p t
    s.converters.generation).1 = some known
  rw [ResolutionCache.get_insert hle, if_neg fun hpair => hne hpair.1]
  exact hrecalls

/-- Foreign code comes to an answer for a pair. -/
def Learns (runs : TypeSystem κ η → TypeSystem κ η → Prop) (producer : ProducerType)
    (target : TypeId) (strategy : CachedStrategy κ) : Prop :=
  ∃ s₁ s₂, runs s₁ s₂ ∧ ¬ s₁.Recalls producer target strategy ∧ s₂.Recalls producer target strategy

/-- Foreign code makes an answer for a pair invalid. -/
def Forgets (runs : TypeSystem κ η → TypeSystem κ η → Prop) (producer : ProducerType)
    (target : TypeId) (strategy : CachedStrategy κ) : Prop :=
  ∃ s₁ s₂, runs s₁ s₂ ∧ s₁.Recalls producer target strategy ∧ ¬ s₂.Recalls producer target strategy

/-- An answer after a direct stage was there before, or the task has succeeded by it, or foreign code
has come to it. -/
theorem StageEffect.recalls_of_after (hl : h.Careful) (heffect : StageEffect h config k s')
    (hrecalls : s'.Recalls p t known) :
    k.system.Recalls p t known ∨
      (config.cacheEnabled = true ∧ p = k.value.producer ∧ t = k.target.id ∧
        SucceedsBy h config k known) ∨
      Learns (RunsForeign h config k) p t known := by
  have foreign : ∀ {hit s₁ s₂},
      lookInCache config k.value.producer k.target.id k.system = (hit, s₁) →
        RunsForeign h config k s₁ s₂ → s₂.Recalls p t known →
          k.system.Recalls p t known ∨ Learns (RunsForeign h config k) p t known := by
    intro hit s₁ s₂ hlook hruns hrecalls
    by_cases hbefore : s₁.Recalls p t known
    · exact .inl ((lookInCache_recalls hlook).1 hbefore)
    · exact .inr ⟨s₁, s₂, hruns, hbefore, hrecalls⟩
  cases heffect with
  | nothing => exact .inl hrecalls
  | looked hlook => exact .inl ((lookInCache_recalls hlook).1 hrecalls)
  | ran hlook hruns => exact (foreign hlook hruns hrecalls).imp_right .inr
  | remembered henabled hlook _ _ hruns hsucceeds =>
    have hle := (hruns.develops hl).evolves.converters.1
    rcases recalls_of_insert hle hrecalls with hrecalls | ⟨hproducer, htarget, rfl⟩
    · exact (foreign hlook hruns hrecalls).imp_right .inr
    · exact .inr (.inl ⟨henabled, hproducer, htarget, hsucceeds⟩)

/-- An answer from before is there after a direct stage, or foreign code has made it invalid. -/
theorem StageEffect.recalls_after (hl : h.Careful) (hs : k.system.Replays)
    (ht : k.system.types.get? k.target.id = some k.target) (heffect : StageEffect h config k s')
    (hrecalls : k.system.Recalls p t known) :
    s'.Recalls p t known ∨ Forgets (RunsForeign h config k) p t known := by
  have foreign : ∀ {hit s₁ s₂},
      lookInCache config k.value.producer k.target.id k.system = (hit, s₁) →
        RunsForeign h config k s₁ s₂ →
          s₂.Recalls p t known ∨ Forgets (RunsForeign h config k) p t known := by
    intro hit s₁ s₂ hlook hruns
    by_cases hafter : s₂.Recalls p t known
    · exact .inl hafter
    · exact .inr ⟨s₁, s₂, hruns, (lookInCache_recalls hlook).2 hrecalls, hafter⟩
  cases heffect with
  | nothing => exact .inl hrecalls
  | looked hlook => exact .inl ((lookInCache_recalls hlook).2 hrecalls)
  | ran hlook hruns => exact foreign hlook hruns
  | @remembered hit s₁ s₂ strategy henabled hlook hreplay hfound hruns hsucceeds =>
    have hle := (hruns.develops hl).evolves.converters.1
    obtain rfl := hit_eq_none hs ht hlook hreplay hfound hsucceeds.runs
    -- The cache had no answer for the pair of the task.
    have hne : ¬ (p = k.value.producer ∧ t = k.target.id) := by
      rintro ⟨rfl, rfl⟩
      simp only [lookInCache, henabled, if_true, Prod.mk.injEq] at hlook
      rw [TypeSystem.Recalls, hlook.1] at hrecalls
      cases hrecalls
    exact (foreign hlook hruns).imp_left (recalls_insert_of_ne hle hne)

/-! ## What a whole resolution does to them -/

omit [ForeignObject ω] in
theorem Learns.imp {runs runs' : TypeSystem κ η → TypeSystem κ η → Prop}
    (himp : ∀ s₁ s₂, runs s₁ s₂ → runs' s₁ s₂) (hlearns : Learns runs p t known) :
    Learns runs' p t known := by
  obtain ⟨s₁, s₂, hruns, hanswers⟩ := hlearns
  exact ⟨s₁, s₂, himp s₁ s₂ hruns, hanswers⟩

omit [ForeignObject ω] in
theorem Forgets.imp {runs runs' : TypeSystem κ η → TypeSystem κ η → Prop}
    (himp : ∀ s₁ s₂, runs s₁ s₂ → runs' s₁ s₂) (hforgets : Forgets runs p t known) :
    Forgets runs' p t known := by
  obtain ⟨s₁, s₂, hruns, hanswers⟩ := hforgets
  exact ⟨s₁, s₂, himp s₁ s₂ hruns, hanswers⟩

/-- An answer after some stages of a task was there before, or a place of the task has succeeded by
it, or foreign code has come to it. -/
theorem Task.recalls_of_after (hl : h.Careful)
    (hchain : ReflTransGen (DirectStage h config k) k.system s') (hrecalls : s'.Recalls p t known) :
    k.system.Recalls p t known ∨
      (config.cacheEnabled = true ∧ ∃ path place, Reaches h config k path place ∧
        p = place.value.producer ∧ t = place.target.id ∧ SucceedsBy h config place known) ∨
      Learns (RunsForeign h config k) p t known := by
  induction hchain with
  | refl => exact .inl hrecalls
  | tail _ hstage ih =>
    obtain ⟨hr⟩ := hstage
    rcases (Task.stageEffect _).recalls_of_after hl hrecalls with hbefore | hplace | hlearns
    · exact ih hbefore
    · obtain ⟨henabled, hproducer, htarget, hsucceeds⟩ := hplace
      exact .inr (.inl ⟨henabled, _, _, hr, hproducer, htarget, hsucceeds⟩)
    · exact .inr (.inr (hlearns.imp fun _ _ => hr.runsForeign))

/-- An answer from before is there after them, or foreign code has made it invalid. -/
theorem Task.recalls_after (hl : h.Careful) (hs : k.system.Replays)
    (ht : k.system.types.get? k.target.id = some k.target)
    (hchain : ReflTransGen (DirectStage h config k) k.system s')
    (hrecalls : k.system.Recalls p t known) :
    s'.Recalls p t known ∨ Forgets (RunsForeign h config k) p t known := by
  induction hchain with
  | refl => exact .inl hrecalls
  | tail hbefore hstage ih =>
    obtain ⟨hr⟩ := hstage
    rcases ih with hstill | hforgets
    · exact ((Task.stageEffect _).recalls_after hl (Task.replays hl hs ht hbefore)
        (hr.registered hl.lawful hs.types ht) hstill).imp_right
          (·.imp fun _ _ => hr.runsForeign)
    · exact .inr hforgets

/-- The same until a call comes to its result. -/
theorem recalls_of_resolvedIn (hl : h.Careful) {v : Value ω} {id : TypeId}
    (hrecalls : (resolvedIn h v id s).Recalls p t known) :
    s.Recalls p t known ∨
      (s.engine.config.cacheEnabled = true ∧ ∃ target path place, s.types.get? id = some target ∧
        Reaches h s.engine.config ⟨0, v, target, s⟩ path place ∧ v.at? path = some place.value ∧
        p = place.value.producer ∧ t = place.target.id ∧
        SucceedsBy h s.engine.config place known) ∨
      Learns (CallRuns h v id s) p t known := by
  unfold resolvedIn at hrecalls
  split at hrecalls
  next target htarget =>
    rcases Task.recalls_of_after hl (Task.stages ⟨0, v, target, s⟩) hrecalls with
      hbefore | ⟨henabled, path, place, hr, hplace⟩ | hlearns
    · exact .inl hbefore
    · exact .inr (.inl ⟨henabled, target, path, place, htarget, hr, hr.at?, hplace⟩)
    · exact .inr (.inr (hlearns.imp fun _ _ hruns => ⟨target, htarget, hruns⟩))
  · exact .inl hrecalls

theorem recalls_resolvedIn (hl : h.Careful) (hs : s.Replays) {v : Value ω} {id : TypeId}
    (hrecalls : s.Recalls p t known) :
    (resolvedIn h v id s).Recalls p t known ∨ Forgets (CallRuns h v id s) p t known := by
  unfold resolvedIn
  split
  next target htarget =>
    obtain rfl := hs.types.id_of_get? htarget
    exact (Task.recalls_after hl hs htarget (Task.stages ⟨0, v, target, s⟩) hrecalls).imp_right
      (·.imp fun _ _ hruns => ⟨target, htarget, hruns⟩)
  · exact .inl hrecalls

namespace TypeSystem

/-- The types and the converters of a system, and with them the generation. -/
def registries (s : TypeSystem κ η) : TypeRegistry × ConverterRegistry κ := (s.types, s.converters)

end TypeSystem

/-- **What is remembered has been earned, and nothing is forgotten.** Let a value be resolved in a
system that comes of a new one. The registries, and the generation, are changed by foreign code only
that the call runs. Every strategy that the cache answers with afterwards was an answer before; or
the cache is in use, and the value itself or an element nested in it was resolved in this call, with
success, by this strategy, and the answer is for its producer and the type that it was resolved to;
or foreign code has come to the answer. Every answer from before is one afterwards, unless foreign
code has made it invalid. All of this holds whether the call fails or not. A call by the name of a
type does the same to the system, and one by an unknown name does nothing. Foreign code means
converters and entry points: what objects say about themselves is fixed (`ForeignObject`). -/
theorem resolution_remembers (hl : h.Careful) (hs : s.Developed) (v : Value ω) (id : TypeId) :
    let s' := (resolveTraced h v id s).2
    let runs := CallRuns h v id s
    (ReflTransGen (Relation.Map runs TypeSystem.registries TypeSystem.registries)
        s.registries s'.registries ∧
      ((∀ s₁ s₂, runs s₁ s₂ → s₂.registries = s₁.registries) → s'.registries = s.registries)) ∧
    (∀ producer target strategy, s'.Recalls producer target strategy →
      s.Recalls producer target strategy ∨
      (s.engine.config.cacheEnabled = true ∧ ∃ t path place, s.types.get? id = some t ∧
        Reaches h s.engine.config ⟨0, v, t, s⟩ path place ∧ v.at? path = some place.value ∧
        producer = place.value.producer ∧ target = place.target.id ∧
        SucceedsBy h s.engine.config place strategy) ∨
      Learns runs producer target strategy) ∧
    (∀ producer target strategy, s.Recalls producer target strategy →
      s'.Recalls producer target strategy ∨ Forgets runs producer target strategy) ∧
    (∀ name t, s.types.find? name = some t →
      (TypeSystem.resolve h v name s).2 = (resolveTraced h v t.id s).2) ∧
    ∀ name, s.types.find? name = none → (TypeSystem.resolve h v name s).2 = s := by
  intro s' runs
  -- The record at the end of the call touches neither the registries nor the cache.
  obtain ⟨ledger, hrecorded⟩ := observe_eq s.engine (s.types.nameOf id) (resolveTraced h v id s).1
    (resolvedIn h v id s)
  have hs' : s' = { resolvedIn h v id s with ledger } := (resolveTraced_snd v id s).trans hrecorded
  have hregistries : s'.registries = (resolvedIn h v id s).registries := by rw [hs']; rfl
  have hrecalls : ∀ p t known, s'.Recalls p t known ↔ (resolvedIn h v id s).Recalls p t known := by
    intro p t known
    rw [hs']
    exact .rfl
  refine ⟨⟨?_, fun hkept => ?_⟩, fun p t known hafter => ?_, fun p t known hbefore => ?_, ?_, ?_⟩
  · rw [hregistries]
    exact resolvedIn_changed_by_foreign (fun _ _ => rfl) v id s
  · rw [hregistries]
    exact resolvedIn_unchanged (fun _ _ => rfl) v id s hkept
  · rw [hrecalls] at hafter
    exact recalls_of_resolvedIn hl hafter
  · rw [hrecalls]
    exact recalls_resolvedIn hl hs.replays hbefore
  · intro name t hname
    rw [TypeSystem.resolve_snd, hname]
  · intro name hname
    rw [TypeSystem.resolve_snd, hname]

/-- The first element of a sequence has become a tensor when the second one fails. The converter of
the first one is remembered all the same, and the registries are as before. -/
theorem resolution_remembers_failing :
    let s := run literalHost (.new {} ()) [.installBuiltins]
    let v : Value FixtureObject := .sequence [.scalar (.int 5), .object .unrelated]
    let p := resolveTraced literalHost v ⟨0⟩ s
    let strategy : CachedStrategy Literal := .registry ⟨.int, ⟨0⟩, "Tensor", 0, .default, .scalar⟩
    s.Developed ∧ (∃ failure, p.1.result = .error failure) ∧
    ¬ s.Recalls .int ⟨0⟩ strategy ∧ p.2.Recalls .int ⟨0⟩ strategy ∧
    p.2.registries = s.registries ∧
    ∃ path place, v.at? path = some place.value ∧ .int = place.value.producer ∧
      ⟨0⟩ = place.target.id ∧ SucceedsBy literalHost {} place strategy := by
  intro s v p strategy
  have hs : s.Developed := developed_run (Host.pure_careful _ _) {} () _
  have hpure : literalHost.Pure := Host.pure_pure _ _
  have hbefore : ¬ s.Recalls .int ⟨0⟩ strategy := by
    intro hrecalls
    cases hrecalls
  have hafter : p.2.Recalls .int ⟨0⟩ strategy := rfl
  obtain ⟨⟨-, hkept⟩, hearned, -⟩ := resolution_remembers (Host.pure_careful _ _) hs v ⟨0⟩
  have hregistries : p.2.registries = s.registries :=
    hkept fun _ _ hruns => by rw [CallRuns.eq_of_pure hpure hruns]
  refine ⟨hs, ⟨_, rfl⟩, hbefore, hafter, hregistries, ?_⟩
  rcases hearned .int ⟨0⟩ strategy hafter with h | ⟨-, -, path, place, -, -, hplace⟩ | hlearns
  · exact absurd h hbefore
  · exact ⟨path, place, hplace⟩
  · obtain ⟨s₁, s₂, hruns, hno, hyes⟩ := hlearns
    rw [CallRuns.eq_of_pure hpure hruns] at hyes
    exact absurd hyes hno

/-- **A converter may register a type.** The converter of integers registers `Late` before it answers,
so resolving an integer adds a type. -/
theorem resolution_registers_type :
    let s := callingSystem {}
    let p := resolveTraced (callingFirst [.registerType ⟨"Late", none, {}⟩]) (.scalar (.int 5)) ⟨0⟩ s
    s.Reachable ∧ s.Developed ∧
    p.1.result = .ok ⟨⟨0⟩, .tensor (Tensor.scalar (.int 5))⟩ ∧
    s.types.names = ["Target"] ∧ p.2.types.names = ["Target", "Late"] ∧ p.2.types ≠ s.types := by
  intro s p
  have hnames : p.2.types.names = ["Target", "Late"] := rfl
  refine ⟨reachable_run (callingFirst_lawful _) _ _ _,
    developed_run ((Host.pure_careful _ _).calling _) _ _ _, rfl, rfl, hnames, ?_⟩
  intro heq
  rw [heq] at hnames
  cases hnames

end CanonicalTypes
