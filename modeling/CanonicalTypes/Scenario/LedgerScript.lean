import CanonicalTypes.Ledger.Codec

/-!
# Scripts for ledgers
-/
namespace CanonicalTypes.Scenario

inductive LedgerStep where
  | append (record : LedgerRecord)
  | snapshot
  | drain
  | resolutions
  | registryEvents
  | exportText
  | stats

inductive LedgerAnswer where
  | appended (length dropped : Nat)
  | records (records : List LedgerRecord)
  | resolutions (records : List ResolutionRecord)
  | registryEvents (events : List RegistryEvent)
  | text (text : String)
  | stats (length capacity dropped : Nat)

/-- Makes one call on a ledger. Exports are stamped with time zero. -/
def LedgerStep.run (l : EventLedger) : LedgerStep → LedgerAnswer × EventLedger
  | append record =>
    let l := l.append record
    (.appended l.length l.dropped, l)
  | snapshot => (.records l.records, l)
  | drain =>
    let (records, l) := l.drain
    (.records records, l)
  | resolutions => (.resolutions l.resolutions, l)
  | registryEvents => (.registryEvents l.registryEvents, l)
  | exportText => (.text (l.toPrettyText 0), l)
  | stats => (.stats l.length l.capacity l.dropped, l)

end CanonicalTypes.Scenario
