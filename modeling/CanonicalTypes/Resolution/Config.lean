import CanonicalTypes.Ledger.Basic
import CanonicalTypes.Text.Blank
import CanonicalTypes.Text.Digits

/-!
# Configuration

The settings of a resolution engine. They can be given as string options, of which the ones that
are missing or make no sense keep their defaults.

| here | operation |
| --- | --- |
| `ofOptions` | `EngineConfig::from_options` |
| `flag?`     | `parse_flag` |
-/
namespace CanonicalTypes

structure EngineConfig where
  /-- Remember by which strategy each producer's values were converted. -/
  cacheEnabled : Bool := true
  /-- Record resolutions in the ledger. -/
  recordLedger : Bool := true
  ledgerCapacity : Nat := EventLedger.defaultCapacity
  /-- The number of nested sequences that are still aggregated. -/
  maxSequenceDepth : Nat := 32
  deriving DecidableEq

namespace EngineConfig

def sizeLimit : Nat := UInt64.size

/-- The value of a flag: case and blanks at its ends do not matter. -/
def flag? (text : String) : Option Bool :=
  let word := (Text.trim text).toLower
  if ["1", "true", "on", "yes"].contains word then some true
  else if ["0", "false", "off", "no"].contains word then some false
  else none

/-- The value of a size: blanks at its ends do not matter. -/
def size? (text : String) : Option Nat := Text.unsigned? sizeLimit (Text.trim text)

/-- The settings that a list of options gives. A ledger capacity of zero makes no sense. -/
def ofOptions (options : List (String × String)) : EngineConfig :=
  let flag (key : String) (default : Bool) := ((options.lookup key).bind flag?).getD default
  let size (key : String) (least default : Nat) :=
    (((options.lookup key).bind size?).filter (least ≤ ·)).getD default
  let base : EngineConfig := {}
  { cacheEnabled := flag "cache" base.cacheEnabled
    recordLedger := flag "ledger" base.recordLedger
    ledgerCapacity := size "ledger_capacity" 1 base.ledgerCapacity
    maxSequenceDepth := size "max_sequence_depth" 0 base.maxSequenceDepth }

end EngineConfig

end CanonicalTypes
