import CanonicalTypes.Strategy

/-!
# The event ledger

A bounded log of resolutions and registry events, oldest first. A full ledger drops its oldest
record for each new one and counts what it dropped. Records carry no time of their own: an export
stamps them (`EventLedger.entriesAt`).

The number of dropped records is a natural without a bound, where the ledger that is described
counts in 64 bits. Fewer than `2 ^ 64` drops are assumed.

| here | operation |
| --- | --- |
| `ofCapacity`                         | `EventLedger::new` |
| `append`                             | `EventLedger::append` |
| `recordResolution`, `recordRegistry` | `EventLedger::record_resolution`, `record_registry` |
| `drain`, `entriesAt`                 | `EventLedger::drain`, `snapshot` |
| `registryEvents`, `resolutions`      | `EventLedger::registry_events`, `resolutions` |
-/
namespace CanonicalTypes

inductive Outcome where
  | resolved
  | failed (reason : String)
  deriving DecidableEq

structure ResolutionRecord where
  producer : String
  target : String
  strategy : Option Strategy
  cacheHit : Bool
  attempted : List Strategy
  outcome : Outcome
  deriving DecidableEq

inductive RegistryEvent where
  | registered (producer target : String) (sequence : Nat) (priority : String)
  | replaced (producer target : String) (previousSequence sequence : Nat) (priority : String)
  | deregistered (producer target : String) (sequence : Nat)
  deriving DecidableEq

inductive LedgerRecord where
  | resolution (record : ResolutionRecord)
  | registry (event : RegistryEvent)
  deriving DecidableEq

/-- A record with the time at which it was exported, in milliseconds. -/
structure LedgerEntry where
  timestamp : Nat
  record : LedgerRecord
  deriving DecidableEq

namespace LedgerRecord

def event? : LedgerRecord → Option RegistryEvent
  | registry event => some event
  | resolution _ => none

def resolution? : LedgerRecord → Option ResolutionRecord
  | resolution record => some record
  | registry _ => none

end LedgerRecord

/-- A bounded log, oldest record first. The count of dropped records stands for a 64-bit one that
has not run over: fewer than `2 ^ 64` records have been dropped. -/
structure EventLedger where
  capacity : Nat
  records : List LedgerRecord := []
  dropped : Nat := 0
  deriving DecidableEq

namespace EventLedger

def defaultCapacity : Nat := 1024

/-- An empty ledger. A ledger holds at least one record. -/
def ofCapacity (capacity : Nat) : EventLedger := ⟨max capacity 1, [], 0⟩

def length (l : EventLedger) : Nat := l.records.length

/-- Adds a record; a full ledger drops its oldest one first (`EventLedger::append`). -/
def append (l : EventLedger) (record : LedgerRecord) : EventLedger :=
  -- A ledger never holds more than its capacity, so equality finds the full ones.
  if l.length = l.capacity then
    { l with records := l.records.tail ++ [record], dropped := l.dropped + 1 }
  else { l with records := l.records ++ [record] }

def recordResolution (l : EventLedger) (record : ResolutionRecord) : EventLedger :=
  l.append (.resolution record)

def recordRegistry (l : EventLedger) (event : RegistryEvent) : EventLedger :=
  l.append (.registry event)

/-- The records held, and the ledger without them. -/
def drain (l : EventLedger) : List LedgerRecord × EventLedger :=
  (l.records, { l with records := [] })

def registryEvents (l : EventLedger) : List RegistryEvent := l.records.filterMap LedgerRecord.event?

def resolutions (l : EventLedger) : List ResolutionRecord :=
  l.records.filterMap LedgerRecord.resolution?

/-- The records held, each with the time of the export. -/
def entriesAt (l : EventLedger) (timestamp : Nat) : List LedgerEntry :=
  l.records.map fun record => ⟨timestamp, record⟩

end EventLedger

end CanonicalTypes
