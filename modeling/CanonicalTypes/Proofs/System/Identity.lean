import CanonicalTypes.Proofs.Resolution.Outcomes
import CanonicalTypes.Proofs.System.Run
import CanonicalTypes.Proofs.Types.Ancestry
import CanonicalTypes.Suite.Fixture

/-!
# Canonical values stay what they are

Whatever decides a resolution, a value that comes out of it is an instance of the target: it was one
before, or it is tagged with the target itself (`resolveAt_instance`). An instance of a registered
type then resolves to the type, and to each of its ancestors, as itself, and nothing but the lattice
of types is looked at (`resolveTraced_of_instance`). The lattice around a registered type never
changes, so what has been resolved once remains resolved: `identity_permanent`.
-/
namespace CanonicalTypes

open TypeSystem (Evolves)

variable {ω κ η : Type} [ForeignObject ω] {h : Host ω κ η} {config : EngineConfig}
  {s s' : TypeSystem κ η} {v : Value ω} {target : CanonicalType} {c : CanonicalValue ω}

/-! ## What comes out is an instance -/

omit [ForeignObject ω] in
/-- What foreign code returns is tagged with the target. -/
theorem settle_typeId {producer : ProducerType} {strategy : Strategy} {trace : Trace}
    {answer : Except ConverterError (Payload ω)}
    (hok : (settle target producer strategy trace answer).result = .ok c) :
    c.typeId = target.id := by
  cases answer with
  | ok payload => cases hok; rfl
  | error e => cases hok

/-- A direct stage hands an instance of the target through, or tags a payload with the target. -/
theorem resolveDirectly_instance {r : Resolution ω}
    (hd : resolveDirectly h config v target s = (.decided r, s')) (hok : r.result = .ok c) :
    identity? s.types target.id v = some c ∨ c.typeId = target.id := by
  have hways := resolveDirectly_directly h config v target s
  rw [hd] at hways
  cases hways with
  | identity c' hid => cases hok; exact .inl hid
  | replayedConverter => exact .inr (settle_typeId hok)
  | replayedProtocol => exact .inr (settle_typeId hok)
  | converter _ _ _ _ _ _ _ _ hr => rw [hr] at hok; exact .inr (settle_typeId hok)
  | protocol _ _ _ _ _ _ _ _ _ _ _ _ hr => rw [hr] at hok; exact .inr (settle_typeId hok)

/-- The same of a whole resolution. Elements of sequences only contribute their payloads. -/
theorem resolveAt_instance {depth : Nat}
    (hok : (resolveAt h config depth v target s).1.result = .ok c) :
    identity? s.types target.id v = some c ∨ c.typeId = target.id := by
  have hends := resolveAt_ends h config depth v target s
  generalize resolveAt h config depth v target s = p at hok hends
  cases hends with
  | directly hdirect => exact resolveDirectly_instance hdirect hok
  | noFallback => cases hok
  | notAggregable => cases hok
  | view => cases hok; exact .inr rfl
  | empty => cases hok; exact .inr rfl
  | unregistered => cases hok
  | elementFails => cases hok
  | stacked =>
    obtain ⟨t, -, rfl⟩ := stacked_result_eq_ok_iff.1 hok
    exact .inr rfl

theorem resolveAt_sound {depth : Nat}
    (hok : (resolveAt h config depth v target s).1.result = .ok c) :
    s.types.isSameOrAncestor target.id c.typeId = true := by
  rcases resolveAt_instance hok with hid | htag
  · exact (identity?_eq_some_iff.1 hid).2
  · simp [htag, TypeRegistry.isSameOrAncestor]

/-- **Resolution is sound:** the result is an instance of the target or of one of its subtypes. -/
theorem resolveTraced_sound {target : TypeId} (hw : s.types.WellFormed)
    (hok : (resolveTraced h v target s).1.result = .ok c) :
    target.index < s.types.size ∧ s.types.isSameOrAncestor target c.typeId = true := by
  unfold resolveTraced at hok
  split at hok
  next t ht =>
    obtain rfl := hw.id_of_get? ht
    exact ⟨TypeRegistry.index_lt_of_get? ht, resolveAt_sound hok⟩
  next => cases hok

/-! ## Instances resolve to themselves -/

/-- The trace of an identity: nothing was tried and nothing replayed. -/
def Trace.identity (target : TypeId) : Trace where
  producer := .canonical
  target
  strategy := some .identity
  cacheHit := false
  attempted := []

/-- An instance of a type is returned as it is, and the system stays as it is. -/
theorem resolveAt_of_instance (h : Host ω κ η) (config : EngineConfig) (depth : Nat)
    (hsub : s.types.isSameOrAncestor target.id c.typeId = true) :
    resolveAt h config depth (.canonical c) target s = (⟨.ok c, .identity target.id⟩, s) := by
  have hid : identity? s.types target.id (.canonical c) = some c :=
    identity?_eq_some_iff.2 ⟨rfl, hsub⟩
  rw [resolveAt.eq_def, resolveDirectly]
  simp only [hid]
  rfl

theorem resolveTraced_of_instance {ancestor : TypeId} (hw : s.types.WellFormed)
    (hregistered : ancestor.index < s.types.size)
    (hsub : s.types.isSameOrAncestor ancestor c.typeId = true) :
    resolveTraced h (.canonical c) ancestor s = (⟨.ok c, .identity ancestor⟩, s) := by
  obtain ⟨t, ht⟩ := TypeRegistry.exists_get? hregistered
  obtain rfl := hw.id_of_get? ht
  simp only [resolveTraced, ht, resolveAt_of_instance h s.engine.config 0 hsub]
  rfl

/-- **Identity is sound, idempotent and permanent.** If any value resolves to a type in a reachable
system, then the result is an instance of the type or of one of its subtypes. And in this system and
in each one that it evolves into, by whatever changes of the registries, the cache and the ledger:
the result resolves to the type, and to every ancestor of it, as exactly itself, by identity, with
nothing tried and nothing replayed, and the system is left exactly as it was. -/
theorem identity_permanent (hs : s.Reachable) (v : Value ω) (target : TypeId)
    (hok : (resolveTraced h v target s).1.result = .ok c) :
    s.types.isSameOrAncestor target c.typeId = true ∧
    ∀ s', Evolves s s' → ∀ ancestor, s'.types.isSameOrAncestor ancestor target = true →
      resolveTraced h (.canonical c) ancestor s' = (⟨.ok c, .identity ancestor⟩, s') ∧
      ∀ name t, s'.types.find? name = some t → t.id = ancestor →
        TypeSystem.resolve h (.canonical c) name s' = (.ok c, s') := by
  have hw := hs.wellFormed
  obtain ⟨hregistered, hinstance⟩ := resolveTraced_sound hw hok
  refine ⟨hinstance, fun s' hevolves ancestor hancestor => ?_⟩
  have hw' := (hs.evolves hevolves).wellFormed
  have hgrows := (hevolves.types hw).2
  have hlater := hw.isSameOrAncestor_of_prefix hw' hgrows hinstance
  have hle := hw'.isSameOrAncestor_index_le hancestor
  have hsize : s.types.size ≤ s'.types.size := hgrows.length_le
  have hself := resolveTraced_of_instance (h := h) hw' (Nat.lt_of_le_of_lt hle (by omega))
    (hw'.isSameOrAncestor_trans hancestor hlater)
  refine ⟨hself, fun name t ht hid => ?_⟩
  rw [← hid] at hself
  simp only [TypeSystem.resolve, ht, hself]

/-- The host of converters that each know one literal. -/
def literalHost : Host FixtureObject Literal Unit :=
  .pure (fun literal _ => .ok (.tensor (Tensor.scalar literal))) FixtureObject.canonicalize

/-- Every kind of change, with a batch that is refused and a converter of canonical values. -/
def changes : List (Operation FixtureObject Literal) := [
  .resolveTraced (.object (.protocolTensor 1)) ⟨1⟩,
  .registerType ⟨"Late", some "Tensor", {}⟩,
  .registerTypes [⟨"Taken back", none, {}⟩, ⟨"Tensor", none, {}⟩],
  .registerConverter .canonical "Tensor" (.hosted (.int 9)) .override,
  .deregisterConverter ⟨"conformance.ProtocolTensor"⟩ "Symbol",
  .invalidateCache,
  .resolve (.sequence [.scalar (.int 5)]) "Tensor"]

theorem identity_permanent_symbol :
    let s := run literalHost (.new {} ()) [.installBuiltins,
      .registerConverter ⟨"conformance.ProtocolTensor"⟩ "Symbol" (.hosted (.int 3)) .default]
    let s' := run literalHost s changes
    let c : CanonicalValue FixtureObject := ⟨⟨1⟩, .tensor (Tensor.scalar (.int 3))⟩
    (resolveTraced literalHost (.object (.protocolTensor 1)) ⟨1⟩ s).1.result = .ok c ∧
    s'.types.names = ["Tensor", "Symbol", "Eager", "Variable", "Late"] ∧
    (s'.converters.find? .canonical ⟨0⟩).isSome = true ∧
    s'.types.isSameOrAncestor ⟨0⟩ ⟨1⟩ = true ∧
    resolveTraced literalHost (.canonical c) ⟨0⟩ s' = (⟨.ok c, .identity ⟨0⟩⟩, s') ∧
    TypeSystem.resolve literalHost (.canonical c) "Tensor" s' = (.ok c, s') := by
  intro s s' c
  have hl : literalHost.Lawful := Host.pure_lawful _ _
  have hok : (resolveTraced literalHost (.object (.protocolTensor 1)) ⟨1⟩ s).1.result = .ok c := rfl
  have hancestor : s'.types.isSameOrAncestor ⟨0⟩ ⟨1⟩ = true := by decide +kernel
  have htensor : s'.types.find? "Tensor" =
      some ⟨⟨0⟩, "Tensor", none, Builtins.tensorDescriptor, some ⟨0⟩⟩ := by decide +kernel
  obtain ⟨-, hlater⟩ := identity_permanent (reachable_run hl {} () _) _ _ hok
  obtain ⟨hid, hname⟩ := hlater s' (run_evolves hl s changes) ⟨0⟩ hancestor
  exact ⟨hok, by decide +kernel, by decide +kernel, hancestor, hid, hname "Tensor" _ htensor rfl⟩

end CanonicalTypes
