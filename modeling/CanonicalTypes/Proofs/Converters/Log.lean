import CanonicalTypes.Proofs.Converters.Lookup
import CanonicalTypes.Proofs.History
import Mathlib.Logic.Function.Basic

/-!
# What a log of registry events says

Events name types where the registry of converters goes by ids, and carry no converters. Folding a
log (`replayLog`) gives the table that can be known from it: for a producer and the name of a target,
the number and the priority of the registration. `LoggedBy` says that a log accounts for a registry:
its table is the live one, in which no two converters have the same place, each event fits the table
before it, registrations are numbered from zero on, and the generation counts the events.

A registration and a removal keep this if they are logged (`LoggedBy.register`,
`LoggedBy.deregister`), provided that names tell the targets of active converters apart just as ids
do (`NamesApart`).
-/
namespace CanonicalTypes

/-- For a producer and the name of a target, the number and the priority of a registration. -/
abbrev LogTable := String × String → Option (Nat × String)

namespace RegistryEvent

def applyTo (table : LogTable) : RegistryEvent → LogTable
  | registered producer target sequence priority =>
    Function.update table (producer, target) (some (sequence, priority))
  | replaced producer target _ sequence priority =>
    Function.update table (producer, target) (some (sequence, priority))
  | deregistered producer target _ => Function.update table (producer, target) none

/-- Whether an event can happen to a table: a first registration needs a free pair, a replacement and
a removal need the registration that they name. -/
def Fits (table : LogTable) : RegistryEvent → Prop
  | registered producer target _ _ => table (producer, target) = none
  | replaced producer target previous _ _ =>
    ∃ priority, table (producer, target) = some (previous, priority)
  | deregistered producer target sequence =>
    ∃ priority, table (producer, target) = some (sequence, priority)

/-- The number that a registration is given. -/
def newSequence? : RegistryEvent → Option Nat
  | registered _ _ sequence _ => some sequence
  | replaced _ _ _ sequence _ => some sequence
  | deregistered _ _ _ => none

end RegistryEvent

def replayLog (events : List RegistryEvent) : LogTable :=
  events.foldl RegistryEvent.applyTo fun _ => none

/-- Each event fits the table that the events before it lead to. -/
def FittingLog (events : List RegistryEvent) : Prop :=
  ∀ before event after, events = before ++ event :: after → event.Fits (replayLog before)

variable {events : List RegistryEvent} {event : RegistryEvent}

theorem replayLog_append (events : List RegistryEvent) (event : RegistryEvent) :
    replayLog (events ++ [event]) = event.applyTo (replayLog events) := by
  simp [replayLog]

theorem FittingLog.append (h : FittingLog events) (hfits : event.Fits (replayLog events)) :
    FittingLog (events ++ [event]) := by
  intro before next after hsplit
  rcases concat_eq_append_cons_iff.1 hsplit with ⟨rfl, rfl, -⟩ | ⟨middle, -, hmiddle⟩
  · exact hfits
  · exact h before next middle hmiddle

/-! ## Entries in the table -/

namespace ConverterEntry

variable {κ : Type}

/-- Where a log's table has a converter. -/
def logKey (e : ConverterEntry κ) : String × String := (e.producer.name, e.targetName)

def logValue (e : ConverterEntry κ) : Nat × String := (e.sequence, e.priority.name)

end ConverterEntry

namespace ConverterRegistry

variable {κ : Type} {r : ConverterRegistry κ} {e : ConverterEntry κ} {producer : ProducerType}

/-- The name of a target tells it from those of the active converters just as its id does. -/
def NamesApart (r : ConverterRegistry κ) (id : TypeId) (name : String) : Prop :=
  ∀ e ∈ r.active, e.targetName = name ↔ e.target = id

/-- The log accounts for the registry. -/
structure LoggedBy (r : ConverterRegistry κ) (events : List RegistryEvent) : Prop where
  table : ∀ key value, replayLog events key = some value ↔
    ∃ e ∈ r.active, e.logKey = key ∧ e.logValue = value
  keys : (r.active.map ConverterEntry.logKey).Nodup
  fitting : FittingLog events
  numbered : events.filterMap RegistryEvent.newSequence? = List.range r.nextSequence
  generation : r.generation = events.length

theorem loggedBy_nil : LoggedBy ({} : ConverterRegistry κ) [] where
  table := by simp [replayLog]
  keys := .nil
  fitting := by simp [FittingLog]
  numbered := rfl
  generation := rfl

theorem mem_without_iff {target : TypeId} :
    e ∈ r.without producer target ↔
      e ∈ r.active ∧ ¬ (e.producer = producer ∧ e.target = target) := by
  simp [without, ConverterEntry.isFor, imp_iff_not_or]

/-- Where targets are told apart, the converters of a pair are those with its key. -/
theorem NamesApart.logKey_eq_iff {id : TypeId} {name : String} (h : r.NamesApart id name)
    (he : e ∈ r.active) :
    e.logKey = (producer.name, name) ↔ e.producer = producer ∧ e.target = id := by
  rw [ConverterEntry.logKey, Prod.mk.injEq, h e he]
  refine and_congr_left fun _ => ⟨fun hname => ?_, congrArg ProducerType.name⟩
  exact congrArg ProducerType.mk hname

variable {events : List RegistryEvent} {id : TypeId} {name : String}

/-- The live table, if the pair at a key has no converter any more. -/
theorem LoggedBy.table_without (h : r.LoggedBy events) (hnames : r.NamesApart id name)
    (key : String × String) (value : Nat × String) :
    (∃ e ∈ r.without producer id, e.logKey = key ∧ e.logValue = value) ↔
      key ≠ (producer.name, name) ∧ replayLog events key = some value := by
  rw [h.table]
  constructor
  · rintro ⟨e, he, rfl, rfl⟩
    obtain ⟨he, hother⟩ := mem_without_iff.1 he
    exact ⟨fun hkey => hother ((hnames.logKey_eq_iff he).1 hkey), e, he, rfl, rfl⟩
  · rintro ⟨hkey, e, he, rfl, rfl⟩
    exact ⟨e, mem_without_iff.2 ⟨he, fun hpair => hkey ((hnames.logKey_eq_iff he).2 hpair)⟩, rfl, rfl⟩

theorem LoggedBy.keys_without (h : r.LoggedBy events) (target : TypeId) :
    ((r.without producer target).map ConverterEntry.logKey).Nodup :=
  h.keys.sublist (List.filter_sublist.map _)

/-- What the table has of a pair is the pair's converter. -/
theorem LoggedBy.table_of_find? (h : r.LoggedBy events) (hnames : r.NamesApart id name)
    (hfound : r.find? producer id = some e) :
    replayLog events (producer.name, name) = some e.logValue := by
  obtain ⟨he, rfl, rfl⟩ := find?_eq_some hfound
  exact (h.table _ _).2 ⟨e, he, (hnames.logKey_eq_iff he).2 ⟨rfl, rfl⟩, rfl⟩

theorem LoggedBy.table_of_find?_none (h : r.LoggedBy events) (hnames : r.NamesApart id name)
    (hfree : r.find? producer id = none) : replayLog events (producer.name, name) = none := by
  rw [Option.eq_none_iff_forall_ne_some]
  intro value hvalue
  obtain ⟨e, he, hkey, -⟩ := (h.table _ _).1 hvalue
  obtain ⟨hproducer, htarget⟩ := (hnames.logKey_eq_iff he).1 hkey
  have hnot := List.find?_eq_none.1 hfree e he
  simp [ConverterEntry.isFor, hproducer, htarget] at hnot

/-! ## Logged changes -/

/-- What a registration does to the table of the log, and what it asks of it. First registrations and
replacements only differ in the latter. -/
theorem LoggedBy.ofRegistration (h : r.LoggedBy events) (target : CanonicalType)
    (hnames : r.NamesApart target.id target.name) (producer : ProducerType)
    (action : ConverterAction κ) (priority : ConverterPriority) :
    let event := RegistryEvent.ofRegistration producer target.name priority
      (r.register producer target action priority).1
    event.applyTo (replayLog events) = Function.update (replayLog events)
        (producer.name, target.name) (some (r.nextSequence, priority.name)) ∧
      event.Fits (replayLog events) ∧ event.newSequence? = some r.nextSequence := by
  cases hfind : r.find? producer target.id with
  | none =>
    have hreg : (r.register producer target action priority).1 = .inserted r.nextSequence := by
      simp [ConverterRegistry.register, hfind]
    rw [hreg]
    exact ⟨rfl, h.table_of_find?_none hnames hfind, rfl⟩
  | some previous =>
    have hreg : (r.register producer target action priority).1 =
        .replaced previous.sequence r.nextSequence := by
      simp [ConverterRegistry.register, hfind]
    rw [hreg]
    exact ⟨rfl, ⟨_, h.table_of_find? hnames hfind⟩, rfl⟩

/-- A registration that is logged is accounted for. -/
theorem LoggedBy.register (h : r.LoggedBy events) (target : CanonicalType)
    (hnames : r.NamesApart target.id target.name) (producer : ProducerType)
    (action : ConverterAction κ) (priority : ConverterPriority) :
    (r.register producer target action priority).2.LoggedBy
      (events ++ [RegistryEvent.ofRegistration producer target.name priority
        (r.register producer target action priority).1]) := by
  obtain ⟨happly, hfits, hnew⟩ := h.ofRegistration target hnames producer action priority
  have hactive : (r.register producer target action priority).2.active =
      r.without producer target.id ++
        [⟨producer, target.id, target.name, r.nextSequence, priority, action⟩] := rfl
  refine ⟨fun key value => ?_, ?_, h.fitting.append hfits, ?_, ?_⟩
  · rw [replayLog_append, happly, hactive]
    simp only [List.mem_append, List.mem_singleton, or_and_right, exists_or, exists_eq_left,
      h.table_without hnames]
    -- Under this key the new converter takes the place of the one before.
    by_cases hkey : key = (producer.name, target.name)
    · simp [hkey, ConverterEntry.logKey, ConverterEntry.logValue]
    · simp [hkey, ConverterEntry.logKey, Ne.symm hkey]
  · rw [hactive]
    refine nodup_keys_concat h.keys List.filter_sublist fun e he heq => ?_
    obtain ⟨he, hother⟩ := mem_without_iff.1 he
    exact hother ((hnames.logKey_eq_iff he).1 heq)
  · have hnext : (r.register producer target action priority).2.nextSequence =
        r.nextSequence + 1 := rfl
    rw [List.filterMap_append, h.numbered, hnext, List.range_succ]
    simp only [List.filterMap_cons, hnew, List.filterMap_nil]
  · simp [h.generation]

/-- A removal takes out the converter of the pair, and nothing else. -/
theorem deregister_eq_some {r' : ConverterRegistry κ}
    (h : r.deregister producer id = (some e, r')) :
    r.find? producer id = some e ∧
      r' = { r with active := r.without producer id, generation := r.generation + 1 } := by
  unfold ConverterRegistry.deregister at h
  split at h
  · cases h
  next hfound =>
    cases h
    exact ⟨hfound, rfl⟩

/-- A removal that is logged is accounted for. -/
theorem LoggedBy.deregister (h : r.LoggedBy events) (hnames : r.NamesApart e.target e.targetName)
    {r' : ConverterRegistry κ} (hremoved : r.deregister producer id = (some e, r')) :
    r'.LoggedBy (events ++ [RegistryEvent.ofRemoval e]) := by
  obtain ⟨hfound, rfl⟩ := deregister_eq_some hremoved
  obtain ⟨-, rfl, rfl⟩ := find?_eq_some hfound
  have hold := h.table_of_find? hnames hfound
  refine ⟨fun key value => ?_, h.keys_without e.target, h.fitting.append ⟨_, hold⟩, ?_, ?_⟩
  · simp only [h.table_without hnames]
    rw [replayLog_append]
    by_cases hkey : key = (e.producer.name, e.targetName)
    · simp [RegistryEvent.ofRemoval, RegistryEvent.applyTo, hkey]
    · simp [RegistryEvent.ofRemoval, RegistryEvent.applyTo, hkey]
  · simp [List.filterMap_append, h.numbered, RegistryEvent.ofRemoval, RegistryEvent.newSequence?]
  · simp [h.generation]

end ConverterRegistry

end CanonicalTypes
