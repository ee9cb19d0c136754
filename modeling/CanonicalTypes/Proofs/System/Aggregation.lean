import CanonicalTypes.Proofs.Resolution.Freshness
import CanonicalTypes.Proofs.System.Builtins
import CanonicalTypes.Proofs.System.Identity
import CanonicalTypes.Proofs.System.Presented
import CanonicalTypes.Proofs.Tensor.Nested

/-!
# Sequences aggregate as the arrays that they spell

A nested list of native scalars is resolved element by element, one level deeper each time, and
every resolution of an element may use and change the cache. `Ready` is what keeps the elements from
noticing each other: scalars still have the installed converters, and neither the registry nor the
cache knows a strategy for sequences. Each direct stage keeps it, so by induction a nested list of
any depth resolves to the tensor that it spells (`aggregates`), or fails.

`resolve_nested_iff` says this of every system that comes from one with the built-in types, unless
converters were changed or an object was presented whose producer is that of sequences.
-/
namespace CanonicalTypes

open TypeSystem (EvolvesAmong)

variable {ω κ η : Type} [ForeignObject ω] {h : Host ω κ η} {config : EngineConfig}
  {target : CanonicalType} {s s₁ : TypeSystem κ η}

/-! ## Systems that are ready to aggregate -/

/-- An entry is what a look-up for its pair finds; sequences have no supertypes to look for. -/
def PlainlyLookedUp (r : ConverterRegistry κ) (e : CacheEntry κ) : Prop :=
  ∃ supertypes, (e.producer = .sequence → supertypes = []) ∧
    e.strategy = .ofLookup (r.lookup e.producer supertypes e.target)

/-- The target permits sequences of itself, native scalars are converted to it as they are, and
nothing is known of sequences. -/
structure Ready (target : CanonicalType) (s : TypeSystem κ η) : Prop where
  registered : s.types.get? target.id = some target
  element : target.sequenceElement = some target.id
  scalars : ∀ p ∈ Builtins.scalarProducers, ∃ entry,
    s.converters.find? p target.id = some entry ∧ entry.action = .scalar
  sequences : s.converters.find? .sequence target.id = none
  cache : s.engine.cache.Valid s.converters PlainlyLookedUp

namespace Ready

theorem coherent (hr : Ready target s) : s.CacheCoherent :=
  hr.cache.imp fun _ ⟨supertypes, _, he⟩ => ⟨supertypes, he⟩

theorem withCache (hr : Ready target s) {cache : ResolutionCache κ}
    (hcache : cache.Valid s.converters PlainlyLookedUp) : Ready target (s.withCache cache) where
  registered := hr.registered
  element := hr.element
  scalars := hr.scalars
  sequences := hr.sequences
  cache := hcache

theorem lookInCache (hr : Ready target s) {producer : ProducerType} {id : TypeId}
    {hit : Option (CachedStrategy κ)} (hlook : lookInCache config producer id s = (hit, s₁)) :
    Ready target s₁ := by
  unfold CanonicalTypes.lookInCache at hlook
  split at hlook
  · obtain ⟨-, rfl⟩ := Prod.mk.inj hlook
    exact hr.withCache (hr.cache.get producer id)
  · obtain ⟨-, rfl⟩ := Prod.mk.inj hlook
    exact hr

omit [ForeignObject ω] in
theorem remember (hr : Ready target s) {r : Resolution ω} {id : TypeId}
    {strategy : CachedStrategy κ}
    (hj : PlainlyLookedUp s.converters ⟨r.trace.producer, id, strategy⟩) :
    Ready target (remember config r id strategy s.converters.generation s) := by
  unfold CanonicalTypes.remember
  split
  · exact hr.withCache (hr.cache.insert (.refl _) hj)
  · exact hr

/-! ## Direct stages -/

/-- A native scalar becomes the tensor that holds it. -/
theorem resolveDirectly_scalar (hr : Ready target s) (h : Host ω κ η) (config : EngineConfig)
    (literal : Literal) :
    ∃ r s', resolveDirectly h config (.scalar literal) target s = (.decided r, s') ∧
      r.result = .ok ⟨target.id, .tensor (Tensor.scalar literal)⟩ ∧ Ready target s' := by
  obtain ⟨entry, hfind, haction⟩ := hr.scalars _ (Builtins.mem_scalarProducers literal.dtype)
  have hd := resolveDirectly_directly h config (.scalar literal) target s
  generalize resolveDirectly h config (.scalar literal) target s = p at hd ⊢
  cases hd with
  | identity c hid => cases hid
  | replayedConverter s₁ e _ hlook =>
    cases hr.coherent.hit_of_find? hlook hfind
    refine ⟨_, _, rfl, ?_, ?_⟩
    · simp [haction, Host.run, scalarPayload, settle]
    · rw [haction]
      exact hr.lookInCache hlook
  | replayedProtocol _ _ _ _ _ hobject => cases hobject
  | converter hit s₁ e r _ hlook _ hfound hres =>
    have hconverters := lookInCache_converters hlook
    rw [hconverters] at hfound
    cases (ConverterRegistry.lookup_of_find? hfind _).symm.trans hfound
    have hproducer : r.trace.producer = ProducerType.ofDType literal.dtype := by
      rw [hres, applyConverter_fst, settle_trace]
      rfl
    refine ⟨_, _, rfl, by simp [hres, haction, Host.run, scalarPayload, settle], ?_⟩
    rw [haction]
    refine (hr.lookInCache hlook).remember ⟨[], fun _ => rfl, ?_⟩
    rw [hproducer, hconverters, ConverterRegistry.lookup_nil, hfind]
    rfl
  | protocol _ _ _ _ _ _ _ _ _ hobject => cases hobject
  | undecided hit s₁ trace _ hlook _ hfound =>
    rw [lookInCache_converters hlook] at hfound
    cases (ConverterRegistry.lookup_of_find? hfind _).symm.trans hfound

/-- A sequence is left to be looked into. -/
theorem resolveDirectly_sequence (hr : Ready target s) (h : Host ω κ η) (config : EngineConfig)
    (items : List (Value ω)) :
    ∃ trace s', resolveDirectly h config (.sequence items) target s = (.undecided trace, s') ∧
      Ready target s' := by
  have hnone : s.converters.lookup .sequence [] target.id = none :=
    (s.converters.lookup_nil _ _).trans hr.sequences
  have hd := resolveDirectly_directly h config (.sequence items) target s
  generalize resolveDirectly h config (.sequence items) target s = p at hd ⊢
  cases hd with
  | identity c hid => cases hid
  | replayedConverter s₁ e _ hlook =>
    obtain ⟨supertypes, hnil, he⟩ := hr.cache.hit (lookInCache_hit hlook)
    obtain rfl := hnil rfl
    rw [show (Value.sequence items).producer = ProducerType.sequence from rfl, hnone] at he
    cases he
  | replayedProtocol _ _ _ _ _ hobject => cases hobject
  | converter hit s₁ e r _ hlook _ hfound =>
    rw [lookInCache_converters hlook] at hfound
    cases hnone.symm.trans hfound
  | protocol _ _ _ _ _ _ _ _ _ hobject => cases hobject
  | undecided hit s₁ trace _ hlook => exact ⟨trace, s₁, rfl, hr.lookInCache hlook⟩

end Ready

/-! ## Whole resolutions -/

/-- A nested list resolves to what it spells, at any depth that leaves room for it, and leaves the
system ready for the next. -/
def Aggregates (h : Host ω κ η) (config : EngineConfig) (target : CanonicalType) (n : Nested) :
    Prop :=
  ∀ (depth : Nat) (s : TypeSystem κ η), Ready target s →
    Ready target (resolveAt h config depth n.toValue target s).2 ∧
    ∀ c, (resolveAt h config depth n.toValue target s).1.result = .ok c ↔
      n.height ≤ config.maxSequenceDepth - depth ∧
        ∃ t, c = ⟨target.id, .tensor t⟩ ∧ n.Spells t

/-- Items resolve to what each of them spells. -/
theorem resolveItems_aggregates {items : List Nested}
    (hitems : ∀ n ∈ items, Aggregates h config target n) (outer : CanonicalType)
    (depth index : Nat) (hr : Ready target s) :
    let p := resolveItems h config depth outer target index (items.map Nested.toValue) s
    Ready target p.2 ∧ ∀ slices, p.1 = .ok slices ↔
      (∀ n ∈ items, n.height ≤ config.maxSequenceDepth - depth) ∧
        List.Forall₂ Nested.Spells items slices := by
  induction items generalizing index s with
  | nil =>
    rw [List.map_nil, resolveItems]
    refine ⟨hr, fun slices => ?_⟩
    simp [List.forall₂_nil_left_iff, eq_comm]
  | cons n rest ih =>
    obtain ⟨hn, hrest⟩ := List.forall_mem_cons.1 hitems
    obtain ⟨hr₁, hresult⟩ := hn depth s hr
    rw [List.map_cons, resolveItems.eq_def]
    simp only
    generalize resolveAt h config depth n.toValue target s = p at hr₁ hresult ⊢
    obtain ⟨⟨result, trace⟩, s₁⟩ := p
    simp only at hresult
    rcases result with failure | ⟨typeId, t | o⟩
    · -- If the item spelled a tensor, it would have resolved.
      refine ⟨hr₁, fun slices => ⟨fun hok => ?_, ?_⟩⟩
      · cases hok
      · rintro ⟨hheight, hspells⟩
        cases hspells with
        | cons ht _ => cases (hresult _).2 ⟨hheight n List.mem_cons_self, _, rfl, ht⟩
    · obtain ⟨hheight, _, hc, ht⟩ := (hresult _).1 rfl
      cases hc
      obtain ⟨hr₂, hanswer⟩ := ih hrest (index + 1) hr₁
      simp only
      generalize resolveItems h config depth outer target (index + 1) (rest.map Nested.toValue) s₁ =
        q at hr₂ hanswer ⊢
      obtain ⟨answer, s₂⟩ := q
      cases answer with
      | error failure =>
        refine ⟨hr₂, fun slices => ⟨fun hok => ?_, ?_⟩⟩
        · cases hok
        · rintro ⟨hheight, hspells⟩
          cases hspells with
          | cons _ hspells => cases (hanswer _).2 ⟨(List.forall_mem_cons.1 hheight).2, hspells⟩
      | ok slices =>
        obtain ⟨hheights, hspells⟩ := (hanswer _).1 rfl
        refine ⟨hr₂, fun slices' => ⟨fun hok => ?_, ?_⟩⟩
        · cases hok
          exact ⟨List.forall_mem_cons.2 ⟨hheight, hheights⟩, .cons ht hspells⟩
        · rintro ⟨-, hspells'⟩
          cases hspells' with
          | cons ht' hspells' =>
            cases (hanswer _).2 ⟨hheights, hspells'⟩
            rw [ht.unique ht']
    · obtain ⟨-, t, hc, -⟩ := (hresult _).1 rfl
      cases hc

theorem aggregates_leaf (h : Host ω κ η) (config : EngineConfig) (target : CanonicalType)
    (literal : Literal) : Aggregates h config target (.leaf literal) := by
  intro depth s hr
  obtain ⟨r, s', hd, hok, hr'⟩ := hr.resolveDirectly_scalar h config literal
  rw [Nested.toValue_leaf, resolveAt_of_decided hd]
  refine ⟨hr', fun c => ?_⟩
  rw [hok, Except.ok.injEq]
  constructor
  · rintro rfl
    exact ⟨Nat.zero_le _, _, rfl, Nested.spells_scalar literal⟩
  · rintro ⟨-, t, rfl, ht⟩
    rw [ht.unique (Nested.spells_scalar literal)]

theorem aggregates_nil (h : Host ω κ η) (config : EngineConfig) (target : CanonicalType) :
    Aggregates h config target (.list []) := by
  intro depth s hr
  obtain ⟨trace, s₁, hd, hr₁⟩ := hr.resolveDirectly_sequence h config []
  have hheight : (Nested.list []).height ≤ config.maxSequenceDepth - depth ↔
      depth < config.maxSequenceDepth := by
    rw [Nested.height_list_le_iff, Nat.sub_pos_iff_lt]
    exact and_iff_left (by simp)
  rw [Nested.toValue_list, List.map_nil, resolveAt.eq_def, hd, hheight]
  simp only [hr.element]
  split
  next hdepth =>
    refine ⟨hr₁, fun c => ⟨fun hok => ?_, ?_⟩⟩
    · cases hok
      exact ⟨hdepth, _, rfl, Nested.spells_empty⟩
    · rintro ⟨-, t, rfl, ht⟩
      rw [ht.unique Nested.spells_empty]
      rfl
  next hdeep =>
    refine ⟨hr₁, fun c => ⟨fun hok => ?_, fun hc => absurd hc.1 hdeep⟩⟩
    cases hok

theorem aggregates_cons {first : Nested} {rest : List Nested}
    (hitems : ∀ n ∈ first :: rest, Aggregates h config target n) :
    Aggregates h config target (.list (first :: rest)) := by
  intro depth s hr
  obtain ⟨trace, s₁, hd, hr₁⟩ :=
    hr.resolveDirectly_sequence h config ((first :: rest).map Nested.toValue)
  -- The items stand one level deeper, so there is one level less left for them.
  have hheight : (Nested.list (first :: rest)).height ≤ config.maxSequenceDepth - depth ↔
      depth < config.maxSequenceDepth ∧
        ∀ n ∈ first :: rest, n.height ≤ config.maxSequenceDepth - (depth + 1) := by
    rw [Nested.height_list_le_iff, Nat.sub_pos_iff_lt, Nat.sub_sub]
  rw [Nested.toValue_list, resolveAt.eq_def, hd]
  simp only [hr.element, hheight, Nested.spells_cons_iff]
  split
  next hdepth =>
    obtain ⟨hr₂, hanswer⟩ := resolveItems_aggregates hitems target (depth + 1) 0 hr₁
    simp only [hr₁.registered, List.map_cons, List.isEmpty_cons, Bool.false_eq_true, if_false]
      at hr₂ hanswer ⊢
    generalize resolveItems h config (depth + 1) target target 0
      (first.toValue :: rest.map Nested.toValue) s₁ = q at hr₂ hanswer ⊢
    obtain ⟨answer, s₂⟩ := q
    refine ⟨?_, fun c => ⟨fun hok => ?_, ?_⟩⟩
    · cases answer <;> exact hr₂
    · cases answer with
      | error failure => cases hok
      | ok slices =>
        obtain ⟨hheights, hspells⟩ := (hanswer _).1 rfl
        obtain ⟨t, hstack, hc⟩ := stacked_result_eq_ok_iff.1 hok
        exact ⟨⟨hdepth, hheights⟩, t, hc, slices, hspells, hstack⟩
    · rintro ⟨⟨-, hheights⟩, t, hc, slices, hspells, hstack⟩
      obtain rfl : answer = _ := (hanswer slices).2 ⟨hheights, hspells⟩
      exact stacked_result_eq_ok_iff.2 ⟨t, hstack, hc⟩
  next hdeep =>
    refine ⟨hr₁, fun c => ⟨fun hok => ?_, fun hc => absurd hc.1.1 hdeep⟩⟩
    cases hok

/-- Every nested list resolves to what it spells. -/
theorem aggregates (h : Host ω κ η) (config : EngineConfig) (target : CanonicalType) (n : Nested) :
    Aggregates h config target n := by
  induction n with
  | leaf literal => exact aggregates_leaf h config target literal
  | list items ih =>
    cases items with
    | nil => exact aggregates_nil h config target
    | cons first rest => exact aggregates_cons ih

/-! ## The built-in tensor type -/

/-- No object in a value names the producer of sequences as its own. -/
def Value.Honest (v : Value ω) : Prop :=
  ∀ o, v.Part (.object o) → ForeignObject.producer o ≠ .sequence

theorem Value.Honest.element {items : List (Value ω)} (hv : (Value.sequence items).Honest) :
    ∀ v ∈ items, v.Honest :=
  fun _ hw o ho => hv o (.of_element hw ho)

/-- What honest values come to, a sequence among them came to without supertypes. -/
theorem Value.Honest.plainlyLookedUp {v : Value ω} (hv : v.Honest) (r : ConverterRegistry κ)
    (target : TypeId) :
    PlainlyLookedUp r
      ⟨v.producer, target, .ofLookup (r.lookup v.producer v.supertypes target)⟩ := by
  refine ⟨v.supertypes, fun hproducer => ?_, rfl⟩
  cases v with
  | object o => exact absurd hproducer (hv o .self)
  | scalar => rfl
  | sequence => rfl
  | canonical => rfl

/-- If the scalar converters are still the installed ones and sequences have no converter, a system
with built-ins that was shown honest values only is ready. -/
theorem ready_of_installed {host : η}
    (hevolves : EvolvesAmong (fun v : Value ω => v.Honest) (.installed config host) s)
    (hscalars : ∀ p ∈ Builtins.scalarProducers, s.converters.find? p Builtins.tensorType.id =
      (TypeSystem.installed config host).converters.find? p Builtins.tensorType.id)
    (hsequences : s.converters.find? .sequence Builtins.tensorType.id = none) :
    s.types.find? Builtins.tensor = some Builtins.tensorType ∧ Ready Builtins.tensorType s := by
  have hw₀ := ((TypeSystem.installed_evolves (κ := κ) config host).types
    TypeRegistry.wellFormed_empty).1
  obtain ⟨hw, hgrows⟩ := hevolves.evolves.types hw₀
  have htensor := hw₀.find?_of_prefix hw.toSynced hgrows Builtins.find?_tensor
  have hempty : (TypeSystem.installed config host : TypeSystem κ η).engine.cache.Valid
      (TypeSystem.installed config host).converters PlainlyLookedUp := by
    rw [TypeSystem.installed_engine]
    exact ResolutionCache.valid_empty _
  refine ⟨htensor, hw.get?_id (hw.find?_eq_some_iff.1 htensor).1, rfl, fun p hp => ?_, hsequences,
    hevolves.cacheValid (fun r v target hv => hv.plainlyLookedUp r target) hempty⟩
  rw [hscalars p hp]
  exact TypeSystem.installed_find? config host hp

omit [ForeignObject ω] in
/-- If every sequence is short enough, so are the axes. -/
theorem Nested.lengths_lt {n : Nested} {f : Frame} (hf : n.frame? = some f)
    (hshort : ∀ items, (n.toValue : Value ω).Part (.sequence items) →
      items.length < UInt32.size) : ∀ length ∈ f.lengths, length < UInt32.size := by
  induction n generalizing f with
  | leaf literal =>
    cases hf
    simp
  | list items ih =>
    cases items with
    | nil =>
      cases hf
      simp [UInt32.size]
    | cons first rest =>
      obtain ⟨g, hg, rfl⟩ := Nested.frame?_cons_eq_some_iff.1 hf
      rw [toValue_list] at hshort
      refine List.forall_mem_cons.2 ⟨?_, ?_⟩
      · simpa using hshort _ .self
      · exact ih first List.mem_cons_self (hg first List.mem_cons_self) fun items hpart =>
          hshort items (hpart.of_element (List.mem_map_of_mem List.mem_cons_self))

/-- **Sequences aggregate as the rectangular arrays that they spell.** Let a system come from one
with the built-in types by whatever changes, resolutions and calls of foreign code, none of which
present an object that names the producer of sequences as its own. If the four scalar converters to
`Tensor` are still the installed ones and sequences have no converter to it, then a nested list of
native scalars resolves to `Tensor` if and only if it is no higher than the configured depth and has
a frame; and the result is tagged `Tensor`, has exactly this kind and these axis lengths, and holds
the leaves in order. Sequences are assumed to be shorter than 2^32, and each product of leading axis
lengths less than 2^64. -/
theorem resolve_nested_iff {host : η} {s₀ : TypeSystem κ η} (h : Host ω κ η)
    (hnew : TypeSystem.withBuiltins config host = .ok s₀)
    (hevolves : EvolvesAmong (fun v : Value ω => v.Honest) s₀ s)
    (hscalars : ∀ p ∈ Builtins.scalarProducers,
      s.converters.find? p Builtins.tensorType.id = s₀.converters.find? p Builtins.tensorType.id)
    (hsequences : s.converters.find? .sequence Builtins.tensorType.id = none) (n : Nested)
    (hshort : ∀ items, (n.toValue : Value ω).Part (.sequence items) → items.length < UInt32.size)
    (hfits : ∀ f, n.frame? = some f → Shape.ProductsFit f.lengths) :
    let answer := (TypeSystem.resolve h n.toValue Builtins.tensor s).1
    s.types.find? Builtins.tensor = some Builtins.tensorType ∧
    ((∃ c, answer = .ok c) ↔ n.height ≤ config.maxSequenceDepth ∧ n.frame?.isSome) ∧
    ∀ c, answer = .ok c → c.typeId = Builtins.tensorType.id ∧
      ∃ t, c.payload = .tensor t ∧ n.frame? = some ⟨t.dtype, t.shape.lengths⟩ ∧
        t.elements = n.leaves := by
  intro answer
  obtain rfl := Except.ok.inj ((TypeSystem.withBuiltins_eq config host).symm.trans hnew)
  obtain ⟨htensor, hr⟩ := ready_of_installed hevolves hscalars hsequences
  have hconfig : s.engine.config = config := by
    rw [hevolves.evolves.config, TypeSystem.installed_engine]
  obtain ⟨-, hresult⟩ := aggregates h config Builtins.tensorType n 0 s hr
  -- A call stands at depth zero, where the whole limit is left.
  have hanswer : ∀ c, answer = .ok c ↔
      n.height ≤ config.maxSequenceDepth ∧ ∃ t, c = ⟨Builtins.tensorType.id, .tensor t⟩ ∧
        n.Spells t := by
    intro c
    rw [← Nat.sub_zero config.maxSequenceDepth, ← hresult c]
    simp only [answer, TypeSystem.resolve, htensor, resolveTraced, hr.registered, hconfig]
    generalize resolveAt h config 0 n.toValue Builtins.tensorType s = p
    obtain ⟨⟨result, trace⟩, s'⟩ := p
    cases result <;> simp
  refine ⟨htensor, ⟨?_, ?_⟩, fun c hc => ?_⟩
  · rintro ⟨c, hc⟩
    obtain ⟨hheight, t, -, ht⟩ := (hanswer c).1 hc
    exact ⟨hheight, by rw [ht.frame]; rfl⟩
  · rintro ⟨hheight, hframe⟩
    obtain ⟨f, hf⟩ := Option.isSome_iff_exists.1 hframe
    obtain ⟨t, ht⟩ := Nested.exists_spells hf (Nested.lengths_lt hf hshort) (hfits f hf)
    exact ⟨_, (hanswer _).2 ⟨hheight, t, rfl, ht⟩⟩
  · obtain ⟨-, t, rfl, ht⟩ := (hanswer c).1 hc
    exact ⟨rfl, t, rfl, ht.frame, ht.elements⟩

theorem fixtures_honest (v : Value FixtureObject) : v.Honest := by
  intro o _
  cases o <;> simp [ForeignObject.producer, FixtureObject.producer, ProducerType.sequence]

/-- Objects are resolved by their protocol and by a converter of a supertype, which the cache then
remembers beside the one of integers. -/
def presented : List (Operation FixtureObject Literal) := [
  .resolve (.object (.protocolTensor 1)) "Tensor",
  .registerConverter ⟨"conformance.Base"⟩ "Tensor" (.hosted (.int 9)) .default,
  .resolve (.sequence [.object .derived, .object (.protocolTensor 2), .scalar (.int 3)]) "Tensor"]

def matrix : Nested :=
  .list [.list [.leaf (.int 1), .leaf (.int 2)], .list [.leaf (.int 3), .leaf (.int 4)]]

theorem resolve_nested_iff_matrix :
    let s₀ : TypeSystem Literal Unit := .installed { maxSequenceDepth := 2 } ()
    let s := run literalHost s₀ presented
    TypeSystem.withBuiltins { maxSequenceDepth := 2 } () = .ok s₀ ∧
    s.engine.cache.entries.map CacheEntry.producer =
      [⟨"conformance.Derived"⟩, ⟨"conformance.ProtocolTensor"⟩, .int] ∧
    matrix.height = 2 ∧ matrix.frame? = some ⟨.i64, [2, 2]⟩ ∧
    ∃ c, (TypeSystem.resolve literalHost matrix.toValue "Tensor" s).1 = .ok c ∧
      c.typeId = ⟨0⟩ ∧ ∃ t, c.payload = .tensor t ∧
        t.elements = [.int 1, .int 2, .int 3, .int 4] := by
  intro s₀ s
  have hnew := TypeSystem.withBuiltins_eq (κ := Literal) { maxSequenceDepth := 2 } ()
  have hevolves := run_evolvesAmong Value.Honest.element
    (Host.pure_lawfulAmong _ _ : literalHost.LawfulAmong Value.Honest) s₀ presented
    fun _ _ v _ => fixtures_honest v
  have hframe : matrix.frame? = some ⟨.i64, [2, 2]⟩ := by decide +kernel
  have hscalars : ∀ p ∈ Builtins.scalarProducers,
      s.converters.find? p ⟨0⟩ = s₀.converters.find? p ⟨0⟩ := by decide +kernel
  have hsequences : s.converters.find? .sequence ⟨0⟩ = none := by decide +kernel
  have hshort : ∀ items, (matrix.toValue : Value FixtureObject).Part (.sequence items) →
      items.length < UInt32.size := by
    simp [matrix, Value.part_sequence_iff, Value.part_iff_of_flat, UInt32.size]
  have hfits : ∀ f, matrix.frame? = some f → Shape.ProductsFit f.lengths := by
    rw [hframe]
    rintro f ⟨⟩
    exact (Shape.elementCount?_eq_some_iff.1 (rfl : (Shape.mk [2, 2]).elementCount? = some 4)).2
  obtain ⟨-, hok, hresult⟩ := resolve_nested_iff literalHost hnew hevolves hscalars hsequences
    matrix hshort hfits
  obtain ⟨c, hc⟩ := hok.2 ⟨by decide +kernel, by rw [hframe]; rfl⟩
  obtain ⟨hid, t, ht, -, helements⟩ := hresult c hc
  exact ⟨hnew, by decide +kernel, by decide +kernel, hframe, c, hc, hid, t, ht, helements⟩

end CanonicalTypes
