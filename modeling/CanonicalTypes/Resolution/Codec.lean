import CanonicalTypes.Json.Codec
import CanonicalTypes.Resolution.Config

/-!
# Settings as records

Every setting may be missing and then has its default.
-/
namespace CanonicalTypes

open Json

namespace EngineConfig

def fieldNames : List String :=
  ["cache_enabled", "record_ledger", "ledger_capacity", "max_sequence_depth"]

def settings : Json → Option (List (Option Json))
  | .array items =>
    if items.length ≤ fieldNames.length then
      some (items.map some ++ List.replicate (fieldNames.length - items.length) none)
    else none
  | .object fields => namedFields fieldNames fields
  | _ => none

/-- Reads a setting that may be missing, but not null. -/
def setting {α : Type} [Codec α] (source : Source) (default : α) : Option Json → Option α
  | none => some default
  | some j => Codec.decode source j

end EngineConfig

instance : Codec EngineConfig where
  encode c := .object [
    ("cache_enabled", Codec.encode c.cacheEnabled),
    ("record_ledger", Codec.encode c.recordLedger),
    ("ledger_capacity", Codec.encode c.ledgerCapacity),
    ("max_sequence_depth", Codec.encode c.maxSequenceDepth)]
  decode source j := do
    let base : EngineConfig := {}
    let [cache, ledger, capacity, depth] ← EngineConfig.settings j | none
    some {
      cacheEnabled := ← EngineConfig.setting source base.cacheEnabled cache
      recordLedger := ← EngineConfig.setting source base.recordLedger ledger
      ledgerCapacity := ← EngineConfig.setting source base.ledgerCapacity capacity
      maxSequenceDepth := ← EngineConfig.setting source base.maxSequenceDepth depth }

end CanonicalTypes
