import CanonicalTypes.Ledger.Basic
import CanonicalTypes.Value.Codec

/-!
# Ledger records as JSON

Outcomes, events and records hold their labels inside: `kind`, `event` and `type` are fields beside
those of the content.
-/
namespace CanonicalTypes

open Json

instance : Codec Outcome where
  encode
    | .resolved => .object [("kind", .string "resolved")]
    | .failed reason => .object [("kind", .string "failed"), ("reason", Codec.encode reason)]
  decode source j :=
    match splitInner "kind" ["resolved", "failed"] source j with
    | some ("resolved", content) => if isInnerUnit content then some .resolved else none
    | some ("failed", content) => do
      let [reason] ← components ["reason"] content | none
      some (.failed (← required .buffered reason))
    | _ => none

def ResolutionRecord.fields (r : ResolutionRecord) : List (String × Json) := [
  ("producer", Codec.encode r.producer),
  ("target", Codec.encode r.target),
  ("strategy", Codec.encode r.strategy),
  ("cache_hit", Codec.encode r.cacheHit),
  ("attempted", Codec.encode r.attempted),
  ("outcome", Codec.encode r.outcome)]

instance : Codec ResolutionRecord where
  encode r := .object r.fields
  decode source j := do
    let [producer, target, strategy, cacheHit, attempted, outcome] ←
      components ["producer", "target", "strategy", "cache_hit", "attempted", "outcome"] j | none
    some {
      producer := ← required source producer
      target := ← required source target
      strategy := ← optional source strategy
      cacheHit := ← required source cacheHit
      attempted := ← required source attempted
      outcome := ← required source outcome }

def RegistryEvent.fields : RegistryEvent → List (String × Json)
  | .registered producer target sequence priority => [
    ("event", .string "registered"),
    ("producer", Codec.encode producer),
    ("target", Codec.encode target),
    ("sequence", Codec.encode sequence),
    ("priority", Codec.encode priority)]
  | .replaced producer target previousSequence sequence priority => [
    ("event", .string "replaced"),
    ("producer", Codec.encode producer),
    ("target", Codec.encode target),
    ("previous_sequence", Codec.encode previousSequence),
    ("sequence", Codec.encode sequence),
    ("priority", Codec.encode priority)]
  | .deregistered producer target sequence => [
    ("event", .string "deregistered"),
    ("producer", Codec.encode producer),
    ("target", Codec.encode target),
    ("sequence", Codec.encode sequence)]

instance : Codec RegistryEvent where
  encode e := .object e.fields
  decode source j :=
    match splitInner "event" ["registered", "replaced", "deregistered"] source j with
    | some ("registered", content) => do
      let [producer, target, sequence, priority] ←
        components ["producer", "target", "sequence", "priority"] content | none
      some (.registered (← required .buffered producer) (← required .buffered target)
        (← required .buffered sequence) (← required .buffered priority))
    | some ("replaced", content) => do
      let [producer, target, previous, sequence, priority] ←
        components ["producer", "target", "previous_sequence", "sequence", "priority"]
          content | none
      some (.replaced (← required .buffered producer) (← required .buffered target)
        (← required .buffered previous) (← required .buffered sequence)
        (← required .buffered priority))
    | some ("deregistered", content) => do
      let [producer, target, sequence] ←
        components ["producer", "target", "sequence"] content | none
      some (.deregistered (← required .buffered producer) (← required .buffered target)
        (← required .buffered sequence))
    | _ => none

instance : Codec LedgerRecord where
  encode
    | .resolution record => .object (("type", .string "resolution") :: record.fields)
    | .registry event => .object (("type", .string "registry") :: event.fields)
  decode source j :=
    match splitInner "type" ["resolution", "registry"] source j with
    | some ("resolution", content) => (Codec.decode .buffered content).map .resolution
    | some ("registry", content) => (Codec.decode .buffered content).map .registry
    | _ => none

/-- A time is a number of 128 bits. -/
def LedgerEntry.timestampLimit : Nat := UInt64.size * UInt64.size

instance : Codec LedgerEntry where
  encode e := .object [
    ("timestamp_unix_ms", .ofNat e.timestamp),
    ("record", Codec.encode e.record)]
  decode source j := do
    let [timestamp, record] ← components ["timestamp_unix_ms", "record"] j | none
    let timestamp ← timestamp.bind (natBelow? LedgerEntry.timestampLimit)
    some ⟨timestamp, ← required source record⟩

/-- The records held as a text, each stamped with the time of the export. -/
def EventLedger.toPrettyText (l : EventLedger) (timestamp : Nat) : String :=
  Codec.toPrettyText (l.entriesAt timestamp)

end CanonicalTypes
