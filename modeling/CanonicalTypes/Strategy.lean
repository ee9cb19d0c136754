/-!
# Resolution strategies

The four ways in which a value becomes canonical, in the order in which they are tried.

| here | operation |
| --- | --- |
| `Strategy.name` | `Strategy::as_str` |
-/
namespace CanonicalTypes

/-- How a canonical value was produced, or was tried to be. -/
inductive Strategy where
  | identity
  | registry
  | protocol
  | sequence
  deriving DecidableEq

namespace Strategy

/-- Every strategy, in order of precedence. -/
def all : List Strategy := [identity, registry, protocol, sequence]

/-- The text of a strategy in messages and exchanged records. -/
def name : Strategy → String
  | identity => "identity"
  | registry => "registry"
  | protocol => "protocol"
  | sequence => "sequence"

/-- The text of a strategy in diagnostics. -/
def inspect : Strategy → String
  | identity => "Identity"
  | registry => "Registry"
  | protocol => "Protocol"
  | sequence => "Sequence"

theorem mem_all (s : Strategy) : s ∈ all := by cases s <;> decide

end Strategy

end CanonicalTypes
