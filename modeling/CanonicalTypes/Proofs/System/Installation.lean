import CanonicalTypes.Proofs.System.Accounts
import CanonicalTypes.Proofs.System.Builtins
import CanonicalTypes.Proofs.Types.Batch

/-!
# Installing the built-in types

The built-in types are a self-contained batch, so a registry takes all four of them or, if one of
the names is taken, none (`installBuiltins_of_free`, `installBuiltins_of_taken`). Their converters
lead to a type that was not there before, so each of them is the first of its pair
(`addConverters_fresh`); this needs that the active converters of a system that accounts for
them lead to registered types.

Once the ids of the built-in types are noted, no change that is open to users or to foreign code
takes them back (`keepsBuiltins_covers`). The main result is `installBuiltins_once`.
-/
namespace CanonicalTypes

@[simp] theorem CapabilityDescriptor.withMember_sequenceFallback (d : CapabilityDescriptor)
    (name : String) (kind : MemberKind) :
    (d.withMember name kind).sequenceFallback = d.sequenceFallback := by
  unfold withMember
  split <;> rfl

namespace Builtins

def names : List String := declarations.map TypeDeclaration.name

def idsAfter (n : Nat) : BuiltinIds := ⟨⟨n⟩, ⟨n + 1⟩, ⟨n + 2⟩, ⟨n + 3⟩⟩

/-- The tensor type after `n` other types. It is the element of its own sequences. -/
def tensorAfter (n : Nat) : CanonicalType := ⟨⟨n⟩, tensor, none, tensorDescriptor, some ⟨n⟩⟩

def typesAfter (n : Nat) : List CanonicalType := [
  tensorAfter n,
  ⟨⟨n + 1⟩, symbol, some ⟨n⟩, .ofClauses [.entryPoint "__symbol__"], none⟩,
  ⟨⟨n + 2⟩, eager, some ⟨n⟩, .ofClauses [.entryPoint "__eager__"], none⟩,
  ⟨⟨n + 3⟩, variableName, none, variableDescriptor, none⟩]

theorem sequenceFallbacks :
    declarations.map (fun d => d.descriptor.sequenceFallback) =
      [some ⟨tensor⟩, none, none, none] := by
  simp [declarations, tensorDescriptor, variableDescriptor, CapabilityDescriptor.ofClauses,
    CapabilityDescriptor.add, CapabilityDescriptor.withProperty, CapabilityDescriptor.withMethod,
    CapabilityDescriptor.withEntryPoint, CapabilityDescriptor.withSequence]

theorem declarations_selfContained : TypeRegistry.SelfContained [] declarations := by
  have hfallbacks := sequenceFallbacks
  simp only [declarations, List.map_cons, List.map_nil, List.cons.injEq, and_true] at hfallbacks
  obtain ⟨htensor, hsymbol, heager, hvariable⟩ := hfallbacks
  simp [TypeRegistry.SelfContained, declarations, htensor, hsymbol, heager, hvariable, tensor,
    symbol, eager, variableName]

open TypeRegistry

theorem idOf?_add (r : TypeRegistry) (t : CanonicalType) (name : String) :
    (r.add t).idOf? name = if name = t.name then some t.id else r.idOf? name := by
  by_cases h : name = t.name
  · simp [idOf?, TypeRegistry.add, h]
  · have hne : (name == t.name) = false := by simpa using h
    simp [idOf?, TypeRegistry.add, List.lookup_cons, hne, h]

/-- Under free names, the built-in types come after the types that are there. -/
theorem registers_declarations {r : TypeRegistry} (hw : r.WellFormed)
    (hfree : ∀ name ∈ names, name ∉ r.names) (hroom : r.size + 4 ≤ capacity) :
    ∃ r', Registers r declarations [⟨r.size⟩, ⟨r.size + 1⟩, ⟨r.size + 2⟩, ⟨r.size + 3⟩] r' ∧
      r'.types = r.types ++ typesAfter r.size := by
  obtain ⟨ids, r', hregisters⟩ := declarations_selfContained.exists_registers hw (by simp)
    (fun d hd => hfree _ (List.mem_map_of_mem hd)) hroom
  refine ⟨r', ?_⟩
  -- Each registration gives the next id, and finds `Tensor` where the first has put it.
  rcases hregisters with _ | ⟨h₁, _ | ⟨h₂, _ | ⟨h₃, _ | ⟨h₄, ⟨⟩⟩⟩⟩⟩
  have hregisters := Registers.cons h₁ (.cons h₂ (.cons h₃ (.cons h₄ (.nil r'))))
  obtain ⟨-, -, rfl, parent₁, element₁, hp₁, he₁, rfl⟩ := register_eq_ok h₁
  obtain ⟨-, -, rfl, parent₂, element₂, hp₂, he₂, rfl⟩ := register_eq_ok h₂
  obtain ⟨-, -, rfl, parent₃, element₃, hp₃, he₃, rfl⟩ := register_eq_ok h₃
  obtain ⟨-, -, rfl, parent₄, element₄, hp₄, he₄, rfl⟩ := register_eq_ok h₄
  have hfallbacks := sequenceFallbacks
  simp only [declarations, List.map_cons, List.map_nil, List.cons.injEq, and_true] at hfallbacks
  obtain ⟨htensor, hsymbol, heager, hvariable⟩ := hfallbacks
  simp [resolveParent, resolveElement, htensor, hsymbol, heager, hvariable, idOf?_add, tensor,
    symbol] at hp₁ hp₂ hp₃ hp₄ he₁ he₂ he₃ he₄
  subst hp₁ hp₂ hp₃ hp₄ he₁ he₂ he₃ he₄
  simp only [size_add] at hregisters ⊢
  refine ⟨hregisters, ?_⟩
  simp [TypeRegistry.add, typesAfter, tensorAfter, size]

/-- Converters of native scalars to a type, numbered from `first` on. -/
def scalarEntries {κ : Type} (target : CanonicalType) (first : Nat) (producers : List ProducerType) :
    List (ConverterEntry κ) :=
  (producers.zipIdx first).map fun p => ⟨p.1, target.id, target.name, p.2, .default, .scalar⟩

/-- The record that a converter is the first of its pair. -/
def registered {κ : Type} (e : ConverterEntry κ) : LedgerRecord :=
  .registry (.registered e.producer.name e.targetName e.sequence e.priority.name)

end Builtins

theorem ConverterRegistry.without_eq_active {κ : Type} {r : ConverterRegistry κ}
    {producer : ProducerType} {target : TypeId} (h : r.find? producer target = none) :
    r.without producer target = r.active :=
  List.filter_eq_self.2 fun e he => by simpa using List.find?_eq_none.1 h e he

namespace TypeSystem

variable {ω κ η : Type} {s s' : TypeSystem κ η} {target : CanonicalType}

/-- A converter of a new pair is put behind the others, and reported as the first of its pair. -/
theorem addConverter_fresh {producer : ProducerType}
    (hfresh : s.converters.find? producer target.id = none) (action : ConverterAction κ)
    (priority : ConverterPriority) :
    let entry : ConverterEntry κ :=
      ⟨producer, target.id, target.name, s.converters.nextSequence, priority, action⟩
    (s.addConverter producer target action priority).2 =
      { s with
        converters := ⟨s.converters.active ++ [entry], s.converters.nextSequence + 1,
          s.converters.generation + 1⟩
        ledger := s.ledger.append (Builtins.registered entry) } := by
  simp [addConverter, ConverterRegistry.register, hfresh,
    ConverterRegistry.without_eq_active hfresh, TypeSystem.record, RegistryEvent.ofRegistration,
    Builtins.registered]

/-- If none of the producers has a converter to the type yet, each of them gets one. -/
theorem addConverters_fresh {producers : List ProducerType} (hnodup : producers.Nodup)
    (hfresh : ∀ p ∈ producers, s.converters.find? p target.id = none) :
    let entries := Builtins.scalarEntries target s.converters.nextSequence producers
    producers.foldl (fun s p => (s.addConverter p target .scalar .default).2) s =
      { s with
        converters := ⟨s.converters.active ++ entries,
          s.converters.nextSequence + producers.length, s.converters.generation + producers.length⟩
        ledger := (entries.map Builtins.registered).foldl EventLedger.append s.ledger } := by
  induction producers generalizing s with
  | nil => simp [Builtins.scalarEntries]
  | cons p rest ih =>
    obtain ⟨hp, hrest⟩ := List.nodup_cons.1 hnodup
    obtain ⟨hfirst, hfresh⟩ := List.forall_mem_cons.1 hfresh
    -- The producers are distinct, so the others still have no converter.
    have hstill : ∀ q ∈ rest,
        (s.addConverter p target .scalar .default).2.converters.find? q target.id = none := by
      intro q hq
      have hne : q ≠ p := fun heq => hp (heq ▸ hq)
      rw [addConverter_converters, ConverterRegistry.find?_register_of_ne hne]
      exact hfresh q hq
    have hadded := addConverter_fresh hfirst (.scalar : ConverterAction κ) .default
    have hih := ih hrest hstill
    simp only [hadded] at hih
    simp only [List.foldl_cons, hadded, hih]
    simp [Builtins.scalarEntries, Nat.add_assoc, Nat.add_comm 1]

/-! ## One installation -/

/-- What an installation does to a system: four types come behind the others, and four converters,
each the first of its pair and reported as such. The engine with its cache stays, and so does the
host. -/
structure Installs (s s' : TypeSystem κ η) : Prop where
  types : s'.types.types = s.types.types ++ Builtins.typesAfter s.types.size
  fresh : ∀ p ∈ Builtins.scalarProducers, s.converters.find? p ⟨s.types.size⟩ = none
  converters : s'.converters = ⟨s.converters.active ++
      Builtins.scalarEntries (Builtins.tensorAfter s.types.size) s.converters.nextSequence
        Builtins.scalarProducers,
    s.converters.nextSequence + 4, s.converters.generation + 4⟩
  ledger : s'.ledger = ((Builtins.scalarEntries (κ := κ) (Builtins.tensorAfter s.types.size)
    s.converters.nextSequence Builtins.scalarProducers).map Builtins.registered).foldl
      EventLedger.append s.ledger
  builtins : s'.builtins = some (Builtins.idsAfter s.types.size)
  engine : s'.engine = s.engine
  host : s'.host = s.host

/-- Active converters lead to registered types, so none leads to the next id. -/
theorem Accounted.find?_next (ha : s.Accounted) (producer : ProducerType) :
    s.converters.find? producer ⟨s.types.size⟩ = none := by
  rw [Option.eq_none_iff_forall_ne_some]
  intro e hfound
  obtain ⟨hactive, -, htarget⟩ := ConverterRegistry.find?_eq_some hfound
  obtain ⟨t, ht, -⟩ := ha.named e hactive
  have hlt := TypeRegistry.index_lt_of_get? ht
  rw [htarget] at hlt
  exact Nat.lt_irrefl _ hlt

theorem installBuiltins_of_free (ha : s.Accounted) (hnone : s.builtins = none)
    (hroom : s.types.size + 4 ≤ TypeRegistry.capacity)
    (hfree : ∀ name ∈ Builtins.names, name ∉ s.types.names) :
    ∃ s', s.installBuiltins = (.ok (Builtins.idsAfter s.types.size), s') ∧ s.Installs s' := by
  obtain ⟨types, hregisters, htypes⟩ := Builtins.registers_declarations ha.types hfree hroom
  have hall := TypeRegistry.registerAll_of_registers hregisters
  have hget : types.get ⟨s.types.size⟩ = .ok (Builtins.tensorAfter s.types.size) := by
    simp [TypeRegistry.get, TypeRegistry.get?, htypes, TypeRegistry.size, Builtins.typesAfter]
  have hfresh : ∀ p ∈ Builtins.scalarProducers,
      ({ s with types } : TypeSystem κ η).converters.find? p
        (Builtins.tensorAfter s.types.size).id = none := fun p _ => ha.find?_next p
  have hadded := addConverters_fresh (by decide) hfresh
  have hinstalled : s.installBuiltins = (.ok (Builtins.idsAfter s.types.size),
      { ({ s with types }).addScalarConverters (Builtins.tensorAfter s.types.size) with
        builtins := some (Builtins.idsAfter s.types.size) }) := by
    unfold installBuiltins
    split
    next ids hsome => cases hnone.symm.trans hsome
    · simp only [hall, hget]
      rfl
  refine ⟨_, hinstalled, ?_⟩
  simp only [addScalarConverters, hadded]
  exact ⟨htypes, fun p _ => ha.find?_next p, rfl, rfl, rfl, rfl, rfl⟩

theorem installBuiltins_of_taken (hw : s.types.WellFormed) (hnone : s.builtins = none)
    (hroom : s.types.size + 4 ≤ TypeRegistry.capacity) {name : String}
    (hfirst : Builtins.names.find? (· ∈ s.types.names) = some name) :
    s.installBuiltins = (.error (.registry (.duplicateType name)), s) := by
  have hall := TypeRegistry.registerAll_of_taken hw Builtins.declarations_selfContained hroom hfirst
  unfold installBuiltins
  split
  next ids hsome => cases hnone.symm.trans hsome
  · simp only [hall]

theorem installBuiltins_of_some {ids : BuiltinIds} (h : s.builtins = some ids) :
    s.installBuiltins = (.ok ids, s) := by
  simp only [installBuiltins, h]

theorem builtins_of_installBuiltins {ids : BuiltinIds} (h : s.installBuiltins = (.ok ids, s')) :
    s'.builtins = some ids := by
  unfold installBuiltins at h
  split at h
  next ids' hsome =>
    cases h
    exact hsome
  split at h
  · cases h
  · split at h
    · cases h
    · cases h
      rfl
  · cases h

/-! ## All later systems -/

/-- What is noted of the built-in types stays noted. -/
def KeepsBuiltins (s s' : TypeSystem κ η) : Prop :=
  ∀ ids, s.builtins = some ids → s'.builtins = some ids

theorem keepsBuiltins_covers [ForeignObject ω] :
    CoversChanges (fun _ : Value ω => True)
      (KeepsBuiltins : TypeSystem κ η → TypeSystem κ η → Prop) where
  refl _ _ h := h
  trans h h' ids hids := h' ids (h ids hids)
  call _ _ _ h := h
  addConverter _ _ _ _ _ _ _ h := h
  removeConverter s producer target ids h := by
    unfold removeConverter
    split <;> exact h
  builtins s builtins hnone ids h := by
    rw [hnone] at h
    cases h
  invalidate _ _ h := h
  look _ _ _ _ h := h
  remember _ _ _ h h' ids hids := h' ids (h ids hids)
  resolution _ _ _ h := h

/-- **The built-in types are installed at once or not at all, and once.** Take any system that calls
of users, resolutions and foreign code can make of a new one, with room for four more types. As long
as the built-in types are not installed, an installation succeeds if and only if none of their names
is taken. It then adds the four types, in order and with the next ids, and the converters of the
four producers of native scalars, each the first of its pair and reported as registered. Otherwise
it fails for the first of the names that is taken, and changes nothing. After a success, in every
system that comes of it by whatever happens, installing gives the same ids and changes nothing. -/
theorem installBuiltins_once [ForeignObject ω] {config : EngineConfig} {host : η}
    (hs : ChangesTo ω (new config host) s) (hroom : s.types.size < TypeRegistry.capacity - 4) :
    (s.builtins = none →
      ((∃ ids, s.installBuiltins.1 = .ok ids) ↔ ∀ name ∈ Builtins.names, name ∉ s.types.names) ∧
      (∀ ids s', s.installBuiltins = (.ok ids, s') →
        ids = Builtins.idsAfter s.types.size ∧ s.Installs s') ∧
      (∀ e s', s.installBuiltins = (.error e, s') →
        s' = s ∧ ∃ name, Builtins.names.find? (· ∈ s.types.names) = some name ∧
          e = .registry (.duplicateType name))) ∧
    (∀ ids s', s.installBuiltins = (.ok ids, s') →
      ∀ s'', ChangesTo ω s' s'' → s''.installBuiltins = (.ok ids, s'')) := by
  have ha : s.Accounted := (hs _ accounts_covers).accounted (accounted_new config host)
  have hfits : s.types.size + 4 ≤ TypeRegistry.capacity := by omega
  refine ⟨fun hnone => ?_, fun ids s' hok s'' hlater => ?_⟩
  · cases hfirst : Builtins.names.find? (· ∈ s.types.names) with
    | none =>
      have hfree : ∀ name ∈ Builtins.names, name ∉ s.types.names := by
        simpa using List.find?_eq_none.1 hfirst
      obtain ⟨s₁, hinstalled, hinstalls⟩ := installBuiltins_of_free ha hnone hfits hfree
      rw [hinstalled]
      refine ⟨⟨fun _ => hfree, fun _ => ⟨_, rfl⟩⟩, ?_, ?_⟩
      · rintro ids s' ⟨⟩
        exact ⟨rfl, hinstalls⟩
      · rintro e s' ⟨⟩
    | some name =>
      have htaken : name ∈ s.types.names := by simpa using List.find?_some hfirst
      rw [installBuiltins_of_taken ha.types hnone hfits hfirst]
      refine ⟨⟨?_, fun hfree => absurd htaken (hfree _ (List.mem_of_find?_eq_some hfirst))⟩, ?_, ?_⟩
      · rintro ⟨ids, ⟨⟩⟩
      · rintro ids s' ⟨⟩
      · rintro e s' ⟨⟩
        exact ⟨rfl, name, rfl, rfl⟩
  · have hnoted := builtins_of_installBuiltins hok
    exact installBuiltins_of_some (hlater _ keepsBuiltins_covers ids hnoted)

/-- Of the installed converters one is replaced and one removed, and a type is derived. -/
def afterInstallation : List (Operation FixtureObject Bool) := [
  .registerConverter .int "Tensor" (.hosted true) .override,
  .deregisterConverter .float "Tensor",
  .registerType ⟨"Late", some "Symbol", {}⟩,
  .resolve (.object (.protocolTensor 7)) "Tensor",
  .installBuiltins]

theorem installBuiltins_once_busy :
    let h := selfReplacing
    let s := run h (.new {} ()) [.registerType ⟨"Shapes", none, {}⟩]
    let taken := run h s [.registerType ⟨"Eager", none, {}⟩, .registerType ⟨"Variable", none, {}⟩]
    let s' := s.installBuiltins.2
    let s'' := run h s' afterInstallation
    s.installBuiltins.1 = .ok (Builtins.idsAfter 1) ∧ s.Installs s' ∧
    s''.converters.active.map ConverterEntry.sequence = [2, 3, 4] ∧
    s''.installBuiltins = (.ok (Builtins.idsAfter 1), s'') ∧
    taken.installBuiltins = (.error (.registry (.duplicateType "Eager")), taken) := by
  intro h s taken s' s''
  have hl : h.Confined := (Host.pure_confined _ _).calling _
  have hs : ChangesTo FixtureObject (.new {} ()) s := run_changesTo hl _ _
  have htaken : ChangesTo FixtureObject (.new {} ()) taken :=
    changesTo_covers.trans hs (run_changesTo hl _ _)
  have hroom : s.types.size < TypeRegistry.capacity - 4 := by decide +kernel
  have hroom' : taken.types.size < TypeRegistry.capacity - 4 := by decide +kernel
  have hok : s.installBuiltins = (.ok (Builtins.idsAfter 1), s') :=
    Prod.ext (by decide +kernel) rfl
  have herror : taken.installBuiltins = (.error (.registry (.duplicateType "Eager")),
      taken.installBuiltins.2) := Prod.ext (by decide +kernel) rfl
  obtain ⟨hinstalls, hlater⟩ := installBuiltins_once hs hroom
  obtain ⟨hrefused, -⟩ := installBuiltins_once htaken hroom'
  refine ⟨congrArg Prod.fst hok, ((hinstalls (by decide +kernel)).2.1 _ _ hok).2,
    by decide +kernel, hlater _ _ hok _ (run_changesTo hl _ _), ?_⟩
  rw [herror, ((hrefused (by decide +kernel)).2.2 _ _ herror).1]

end TypeSystem

end CanonicalTypes
