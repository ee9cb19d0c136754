import CanonicalTypes.Proofs.Converters.Log
import CanonicalTypes.Proofs.Resolution.Freshness

/-!
# The ledger accounts for the converters

Users change the converters through operations that record each change. `Accounts` lists the atomic
changes that are left then: a converter comes or goes together with its event, and whatever else
happens does not touch the converters. Foreign code that calls back is bound to the same operations
(`Host.Accountable`), so that the list also covers what happens in the middle of a resolution.

`Accounted` is what all of these changes keep: as long as the ledger has not dropped a record, its
registry events are a log of the live converters. The events carry names, so the types have to be in
step with their index, and each active converter has to go by the name of its target. The main
result is `registryEvents_replay`.
-/
namespace CanonicalTypes

namespace EventLedger

variable {l : EventLedger} {record : LedgerRecord}

/-- A ledger that has not dropped anything holds all it was given. -/
theorem append_of_dropped_eq_zero (h : (l.append record).dropped = 0) :
    l.dropped = 0 ∧ (l.append record).records = l.records ++ [record] := by
  unfold append at h ⊢
  split at h
  · cases h
  next hroom =>
    rw [if_neg hroom]
    exact ⟨h, rfl⟩

theorem registryEvents_append_registry {event : RegistryEvent}
    (h : (l.append (.registry event)).dropped = 0) :
    (l.append (.registry event)).registryEvents = l.registryEvents ++ [event] := by
  simp [registryEvents, (append_of_dropped_eq_zero h).2, LedgerRecord.event?]

theorem registryEvents_append_resolution {record : ResolutionRecord}
    (h : (l.append (.resolution record)).dropped = 0) :
    (l.append (.resolution record)).registryEvents = l.registryEvents := by
  simp [registryEvents, (append_of_dropped_eq_zero h).2, LedgerRecord.event?]

end EventLedger

variable {ω κ η : Type}

namespace TypeSystem

variable {s s' s'' : TypeSystem κ η}

/-- The first system can become the second by changes of which those of converters are recorded. -/
inductive Accounts : TypeSystem κ η → TypeSystem κ η → Prop where
  | refl (s : TypeSystem κ η) : Accounts s s
  | call {s s' : TypeSystem κ η} (h : Accounts s s') (call : TypeRegistry.Call) :
      Accounts s { s' with types := s'.types.call call }
  | addConverter {s s' : TypeSystem κ η} (h : Accounts s s') (producer : ProducerType)
      (target : CanonicalType) (htarget : target ∈ s'.types.types) (action : ConverterAction κ)
      (priority : ConverterPriority) :
      Accounts s (s'.addConverter producer target action priority).2
  | removeConverter {s s' : TypeSystem κ η} (h : Accounts s s') (producer : ProducerType)
      (target : TypeId) : Accounts s (s'.removeConverter producer target).2
  | cache {s s' : TypeSystem κ η} (h : Accounts s s') (cache : ResolutionCache κ) :
      Accounts s (s'.withCache cache)
  | resolution {s s' : TypeSystem κ η} (h : Accounts s s') (record : ResolutionRecord) :
      Accounts s (s'.record (.resolution record))
  | builtins {s s' : TypeSystem κ η} (h : Accounts s s') (builtins : Option BuiltinIds) :
      Accounts s { s' with builtins }
  | host {s s' : TypeSystem κ η} (h : Accounts s s') (host : η) : Accounts s { s' with host }

theorem Accounts.trans (h : Accounts s s') (h' : Accounts s' s'') : Accounts s s'' := by
  induction h' with
  | refl => exact h
  | call _ c ih => exact .call ih c
  | addConverter _ producer target htarget action priority ih =>
    exact .addConverter ih producer target htarget action priority
  | removeConverter _ producer target ih => exact .removeConverter ih producer target
  | cache _ cache ih => exact .cache ih cache
  | resolution _ record ih => exact .resolution ih record
  | builtins _ builtins ih => exact .builtins ih builtins
  | host _ host ih => exact .host ih host

/-! ## What is accounted for -/

/-- The ledger accounts for the converters, unless it has dropped a record. -/
structure Accounted (s : TypeSystem κ η) : Prop where
  types : s.types.WellFormed
  named : ∀ e ∈ s.converters.active, ∃ t, s.types.get? e.target = some t ∧ t.name = e.targetName
  logged : s.ledger.dropped = 0 → s.converters.LoggedBy s.ledger.registryEvents

theorem accounted_new (config : EngineConfig) (host : η) :
    (new config host : TypeSystem κ η).Accounted where
  types := TypeRegistry.wellFormed_empty
  named := by simp [new]
  logged _ := ConverterRegistry.loggedBy_nil

/-- Names tell a registered type from the targets of active converters. -/
theorem Accounted.namesApart (h : s.Accounted) {t : CanonicalType} (ht : t ∈ s.types.types) :
    s.converters.NamesApart t.id t.name := by
  intro e he
  obtain ⟨u, hu, hname⟩ := h.named e he
  obtain ⟨hmem, hid⟩ := h.types.get?_eq_some_iff.1 hu
  rw [← hname, ← hid]
  constructor
  · intro heq
    have hfound := h.types.find?_eq_some_iff.2 ⟨hmem, heq⟩
    rw [h.types.find?_eq_some_iff.2 ⟨ht, rfl⟩] at hfound
    rw [Option.some.inj hfound]
  · intro heq
    have hfound := h.types.get?_eq_some_iff.2 ⟨hmem, heq⟩
    rw [h.types.get?_id ht] at hfound
    rw [Option.some.inj hfound]

@[simp] theorem addConverter_converters (s : TypeSystem κ η) (producer : ProducerType)
    (target : CanonicalType) (action : ConverterAction κ) (priority : ConverterPriority) :
    (s.addConverter producer target action priority).2.converters =
      (s.converters.register producer target action priority).2 := rfl

@[simp] theorem addConverter_ledger (s : TypeSystem κ η) (producer : ProducerType)
    (target : CanonicalType) (action : ConverterAction κ) (priority : ConverterPriority) :
    (s.addConverter producer target action priority).2.ledger =
      s.ledger.append (.registry (RegistryEvent.ofRegistration producer target.name priority
        (s.converters.register producer target action priority).1)) := rfl

theorem Accounted.addConverter (h : s.Accounted) (producer : ProducerType) {target : CanonicalType}
    (htarget : target ∈ s.types.types) (action : ConverterAction κ) (priority : ConverterPriority) :
    (s.addConverter producer target action priority).2.Accounted where
  types := h.types
  named e he := by
    rcases List.mem_append.1 he with he | he
    · exact h.named e (ConverterRegistry.mem_without_iff.1 he).1
    · obtain rfl := List.mem_singleton.1 he
      exact ⟨target, h.types.get?_id htarget, rfl⟩
  logged hdropped := by
    rw [addConverter_ledger] at hdropped ⊢
    have hkept := (EventLedger.append_of_dropped_eq_zero hdropped).1
    rw [EventLedger.registryEvents_append_registry hdropped, addConverter_converters]
    exact (h.logged hkept).register target (h.namesApart htarget) producer action priority

theorem Accounted.removeConverter (h : s.Accounted) (producer : ProducerType) (target : TypeId) :
    (s.removeConverter producer target).2.Accounted := by
  unfold TypeSystem.removeConverter
  split
  · exact h
  next entry converters hremoved =>
    obtain ⟨hfound, hrest⟩ := ConverterRegistry.deregister_eq_some hremoved
    have hactive := (ConverterRegistry.find?_eq_some hfound).1
    refine ⟨h.types, fun e he => ?_, fun hdropped => ?_⟩
    · have he : e ∈ s.converters.without producer target := by rwa [hrest] at he
      exact h.named e (ConverterRegistry.mem_without_iff.1 he).1
    · have hkept := (EventLedger.append_of_dropped_eq_zero hdropped).1
      have hevents := EventLedger.registryEvents_append_registry hdropped
      obtain ⟨t, ht, hname⟩ := h.named entry hactive
      obtain ⟨hmem, hid⟩ := h.types.get?_eq_some_iff.1 ht
      have hapart := h.namesApart hmem
      rw [hid, hname] at hapart
      simp only [TypeSystem.record]
      rw [hevents]
      exact (h.logged hkept).deregister hapart hremoved

/-- What a system accounts for, it accounts for after each of these changes. -/
theorem Accounts.accounted (h : Accounts s s') (hs : s.Accounted) : s'.Accounted := by
  induction h with
  | refl => exact hs
  | call _ c ih =>
    obtain ⟨hw, hp⟩ := TypeRegistry.call_grows ih.types c
    refine ⟨hw, fun e he => ?_, ih.logged⟩
    obtain ⟨t, ht, hname⟩ := ih.named e he
    exact ⟨t, TypeRegistry.get?_of_prefix hp ht, hname⟩
  | addConverter _ producer target htarget action priority ih =>
    exact ih.addConverter producer htarget action priority
  | removeConverter _ producer target ih => exact ih.removeConverter producer target
  | resolution _ record ih =>
    refine ⟨ih.types, ih.named, fun hdropped => ?_⟩
    have hkept := (EventLedger.append_of_dropped_eq_zero hdropped).1
    have hevents := EventLedger.registryEvents_append_resolution hdropped
    simp only [TypeSystem.record]
    rw [hevents]
    exact ih.logged hkept
  | cache _ _ ih => exact ⟨ih.types, ih.named, ih.logged⟩
  | builtins _ _ ih => exact ⟨ih.types, ih.named, ih.logged⟩
  | host _ _ ih => exact ⟨ih.types, ih.named, ih.logged⟩

end TypeSystem

open TypeSystem (Accounts)

/-! ## Runs -/

/-- Foreign code changes the converters through recorded operations only. -/
structure Host.Accountable (h : Host ω κ η) : Prop where
  convert : ∀ tag v s, Accounts s (h.convert tag v s).2
  canonicalize : ∀ o entryPoint s, Accounts s (h.canonicalize o entryPoint s).2

theorem Host.pure_accountable (convert : κ → Value ω → Except ConverterError (Payload ω))
    (canonicalize : ω → String → Except ConverterError (Payload ω)) :
    (Host.pure convert canonicalize : Host ω κ η).Accountable where
  convert _ _ s := .refl s
  canonicalize _ _ s := .refl s

variable [ForeignObject ω] {h : Host ω κ η} {s s₀ : TypeSystem κ η}

/-- Users and resolutions record what they change of the converters. -/
theorem TypeSystem.accounts_covers :
    CoversChanges (fun _ : Value ω => True) (Accounts : TypeSystem κ η → TypeSystem κ η → Prop) where
  refl := .refl
  trans := .trans
  call s call := .call (.refl s) call
  addConverter s producer target action priority htarget :=
    .addConverter (.refl s) producer target htarget action priority
  removeConverter s producer target := .removeConverter (.refl s) producer target
  builtins s builtins _ := .builtins (.refl s) builtins
  invalidate s := .cache (.refl s) _
  look s _ _ := .cache (.refl s) _
  remember _ _ _ h h' := .cache (h.trans h') _
  resolution s record := .resolution (.refl s) record

omit [ForeignObject ω] in
theorem Host.Accountable.changesWithin (hl : h.Accountable) :
    h.ChangesWithin (fun _ => True) Accounts where
  convert tag v s _ := hl.convert tag v s
  canonicalize o entryPoint s _ := hl.canonicalize o entryPoint s

theorem run_accounts (hl : h.Accountable) (s : TypeSystem κ η) (ops : List (Operation ω κ)) :
    Accounts s (run h s ops) :=
  run_covered TypeSystem.accounts_covers hl.changesWithin (fun _ _ _ => trivial) s ops
    fun _ _ _ _ => trivial

theorem Host.Accountable.calling (hl : h.Accountable) (calls : κ → Value ω → List (Operation ω κ)) :
    (h.calling calls).Accountable where
  convert tag v s := (run_accounts hl s (calls tag v)).trans (hl.convert tag v _)
  canonicalize := hl.canonicalize

/-- The systems that runs on a new system lead to account for their converters. -/
theorem accounted_run (hl : h.Accountable) (config : EngineConfig) (host : η)
    (ops : List (Operation ω κ)) : (run h (.new config host) ops).Accounted :=
  (run_accounts hl _ ops).accounted (TypeSystem.accounted_new config host)

/-- **The registry events replay to the live converters.** After any run on a new system, if the
ledger has dropped nothing, folding its registry events gives what the listing of converters has of
each: for the names of the producer and the target, the number and the priority. No two listed
converters share these names. Each event fits the table before it: the first registration of a pair
finds none, and a replacement or a removal names the number of the one that was active. The numbers
of registrations count from zero, and the generation is the number of events. -/
theorem registryEvents_replay (hl : h.Accountable) (config : EngineConfig) (host : η)
    (ops : List (Operation ω κ))
    (hdropped : (run h (.new config host) ops).ledger.dropped = 0) :
    let s := run h (.new config host) ops
    let events := s.ledger.registryEvents
    (∀ producer target sequence priority,
      replayLog events (producer, target) = some (sequence, priority) ↔
        ∃ e ∈ s.converters.entries, e.producer.name = producer ∧ e.targetName = target ∧
          e.sequence = sequence ∧ e.priority.name = priority) ∧
    (s.converters.entries.map fun e => (e.producer.name, e.targetName)).Nodup ∧
    FittingLog events ∧
    events.filterMap RegistryEvent.newSequence? = List.range s.converters.nextSequence ∧
    s.converters.generation = events.length := by
  intro s events
  have hlogged : s.converters.LoggedBy events := (accounted_run hl config host ops).logged hdropped
  have hlisted : s.converters.entries.Perm s.converters.active := List.mergeSort_perm _ _
  refine ⟨fun producer target sequence priority => ?_, ?_, hlogged.fitting, hlogged.numbered,
    hlogged.generation⟩
  · simp only [hlogged.table, ConverterEntry.logKey, ConverterEntry.logValue, Prod.mk.injEq,
      and_assoc, hlisted.mem_iff]
  · exact (hlisted.map ConverterEntry.logKey).nodup_iff.2 hlogged.keys

theorem selfReplacing_accountable : selfReplacing.Accountable :=
  (Host.pure_accountable _ _).calling _

/-- Converters come, replace themselves and go, and calls fail. -/
def busy : List (Operation FixtureObject Bool) := [
  .installBuiltins,
  .registerConverter ⟨"conformance.ProtocolTensor"⟩ "Tensor" (.hosted true) .override,
  .registerConverter ⟨"conformance.ProtocolTensor"⟩ "Matrix" (.hosted true) .default,
  .resolve (.object (.protocolTensor 7)) "Tensor",
  .resolve (.object (.protocolTensor 7)) "Symbol",
  .deregisterConverter ⟨"builtin.int"⟩ "Tensor",
  .deregisterConverter ⟨"builtin.int"⟩ "Tensor"]

theorem registryEvents_replay_busy :
    let s := run selfReplacing (.new {} ()) busy
    s.ledger.dropped = 0 ∧
    replayLog s.ledger.registryEvents ("conformance.ProtocolTensor", "Tensor") =
      some (5, "default") ∧
    s.converters.generation = s.ledger.registryEvents.length := by
  intro s
  have hdropped : s.ledger.dropped = 0 := by decide +kernel
  have hactive : (⟨⟨"conformance.ProtocolTensor"⟩, ⟨0⟩, "Tensor", 5, .default, .hosted false⟩ :
      ConverterEntry Bool) ∈ s.converters.active := by decide +kernel
  obtain ⟨htable, -, -, -, hgeneration⟩ :=
    registryEvents_replay selfReplacing_accountable {} () busy hdropped
  exact ⟨hdropped, (htable _ _ _ _).2 ⟨_, List.mem_mergeSort.2 hactive, rfl, rfl, rfl, rfl⟩,
    hgeneration⟩

end CanonicalTypes
