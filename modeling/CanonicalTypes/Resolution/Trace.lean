import CanonicalTypes.Ledger.Basic
import CanonicalTypes.Resolution.Failure

/-!
# Traces

A trace tells how one resolution was decided: the strategy that produced the result or whose code
failed, whether it was replayed from the cache, and the strategies that were tried.

| here | operation |
| --- | --- |
| `Trace`, `Trace.start`              | `ResolutionTrace`, `ResolutionTrace::new` |
| `isIdentity`, `outcome`, `toRecord` | parts of `ResolutionEngine::observe` |
-/
namespace CanonicalTypes

structure Trace where
  producer : ProducerType
  target : TypeId
  strategy : Option Strategy := none
  cacheHit : Bool := false
  attempted : List Strategy := []
  deriving DecidableEq

namespace Trace

def attempt (t : Trace) (strategy : Strategy) : Trace :=
  { t with attempted := t.attempted ++ [strategy] }

def decide (t : Trace) (strategy : Strategy) : Trace := { t with strategy := some strategy }

end Trace

/-- The result of a resolution, and how it was decided. -/
structure Resolution (ω : Type) where
  result : Except ResolutionFailure (CanonicalValue ω)
  trace : Trace

namespace Resolution

variable {ω : Type}

def succeeded (r : Resolution ω) : Bool :=
  match r.result with
  | .ok _ => true
  | .error _ => false

def outcome (r : Resolution ω) : Outcome :=
  match r.result with
  | .ok _ => .resolved
  | .error failure => .failed failure.message

/-- Whether the value was an instance of its target all along. -/
def isIdentity (r : Resolution ω) : Bool :=
  r.trace.strategy = some .identity && r.succeeded

def toRecord (r : Resolution ω) (target : String) : ResolutionRecord where
  producer := r.trace.producer.name
  target
  strategy := r.trace.strategy
  cacheHit := r.trace.cacheHit
  attempted := r.trace.attempted
  outcome := r.outcome

end Resolution

end CanonicalTypes
