import CanonicalTypes.System.Basic
import CanonicalTypes.Resolution.Trace

/-!
# What a replay changes

A replayed resolution says that it was replayed, and not what would have been tried before. The
functions `forgetReplay` drop just that from traces, and from the records that are made of them.
`TypeSystem.forgetCache` drops all that has to do with caching from a system. Two systems that agree
then differ in what they remember, but not in what they know.
-/
namespace CanonicalTypes

variable {ω κ η : Type}

/-- The trace without whether it was replayed and what was tried before. -/
def Trace.forgetReplay (t : Trace) : Trace := { t with cacheHit := false, attempted := [] }

/-- The resolution with as much of its trace as a replay tells. The result stays. -/
def Resolution.forgetReplay (r : Resolution ω) : Resolution ω :=
  { r with trace := r.trace.forgetReplay }

def LedgerRecord.forgetReplay : LedgerRecord → LedgerRecord
  | resolution record => .resolution { record with cacheHit := false, attempted := [] }
  | registry event => .registry event

def EventLedger.forgetReplays (l : EventLedger) : EventLedger :=
  { l with records := l.records.map LedgerRecord.forgetReplay }

/-- The system without a cache, and as if its ledger had been kept without one. -/
def TypeSystem.forgetCache (s : TypeSystem κ η) : TypeSystem κ η :=
  { s with
    ledger := s.ledger.forgetReplays
    engine := { s.engine with config := { s.engine.config with cacheEnabled := false }, cache := {} } }

/-! ## Records of resolutions -/

theorem Resolution.forgetReplay_eq_iff {r r' : Resolution ω} :
    r.forgetReplay = r'.forgetReplay ↔
      r.result = r'.result ∧ r.trace.forgetReplay = r'.trace.forgetReplay := by
  simp [Resolution.forgetReplay]

/-- What a resolution leaves in the ledger is recorded alike. -/
theorem Resolution.toRecord_forgetReplay {r r' : Resolution ω}
    (h : r.forgetReplay = r'.forgetReplay) (target : String) :
    (LedgerRecord.resolution (r.toRecord target)).forgetReplay =
      (LedgerRecord.resolution (r'.toRecord target)).forgetReplay := by
  show LedgerRecord.resolution (r.forgetReplay.toRecord target) =
    LedgerRecord.resolution (r'.forgetReplay.toRecord target)
  rw [h]

theorem Resolution.isIdentity_forgetReplay {r r' : Resolution ω}
    (h : r.forgetReplay = r'.forgetReplay) : r.isIdentity = r'.isIdentity := by
  show r.forgetReplay.isIdentity = r'.forgetReplay.isIdentity
  rw [h]

@[simp] theorem LedgerRecord.forgetReplay_forgetReplay (record : LedgerRecord) :
    record.forgetReplay.forgetReplay = record.forgetReplay := by
  cases record <;> rfl

/-! ## Ledgers and systems -/

@[simp] theorem EventLedger.forgetReplays_forgetReplays (l : EventLedger) :
    l.forgetReplays.forgetReplays = l.forgetReplays := by
  simp [forgetReplays, Function.comp_def]

theorem EventLedger.append_forgetReplays (l : EventLedger) (record : LedgerRecord) :
    (l.append record).forgetReplays = l.forgetReplays.append record.forgetReplay := by
  by_cases hfull : l.records.length = l.capacity
  · simp [append, length, forgetReplays, hfull]
  · simp [append, length, forgetReplays, hfull]

namespace TypeSystem

theorem forgetCache_record (s : TypeSystem κ η) (record : LedgerRecord) :
    (s.record record).forgetCache = s.forgetCache.record record.forgetReplay := by
  simp only [forgetCache, TypeSystem.record, EventLedger.append_forgetReplays]

@[simp] theorem forgetCache_forgetCache (s : TypeSystem κ η) :
    s.forgetCache.forgetCache = s.forgetCache := by
  simp only [forgetCache, EventLedger.forgetReplays_forgetReplays]

variable {s s' : TypeSystem κ η}

theorem types_of_forgetCache (h : s.forgetCache = s'.forgetCache) : s.types = s'.types := by
  show s.forgetCache.types = s'.forgetCache.types
  rw [h]

theorem converters_of_forgetCache (h : s.forgetCache = s'.forgetCache) :
    s.converters = s'.converters := by
  show s.forgetCache.converters = s'.forgetCache.converters
  rw [h]

end TypeSystem

end CanonicalTypes
