import CanonicalTypes.Signature.Basic
import CanonicalTypes.Strategy
import CanonicalTypes.Suite.Fixture

/-!
# Conformance cases

Cases are data: a value built from fixtures, the type it is resolved to and what is expected of it,
or an annotation, a signature and the expected verdict. A report tells for each case whether it
passed, and for a failed case why.

| here | operation |
| --- | --- |
| `FixtureValue.toValue`, `ints` | `FixtureValue::to_value`, `ints` |
| `ConformanceReport.ofCases`    | `ConformanceReport::from_cases` |
| `isClean`, `failures`          | `ConformanceReport::is_clean`, `failures` |
-/
namespace CanonicalTypes

inductive FixtureValue where
  | int (value : Int64)
  | float (bits : UInt64)
  | bool (value : Bool)
  | sequence (items : List FixtureValue)
  | protocolTensor (value : Int64)
  | unrelated
  | dense (rows cols : UInt32) (data : List UInt64)

namespace FixtureValue

def ints (values : List Int64) : FixtureValue := sequence (values.map int)

mutual

/-- The dynamic value of a fixture, with its objects embedded into another type of objects. -/
def toValue {ω : Type} (embed : FixtureObject → ω) : FixtureValue → Value ω
  | int value => .scalar (.int value)
  | float bits => .scalar (.float bits)
  | bool value => .scalar (.bool value)
  | sequence items => .sequence (toValues embed items)
  | protocolTensor value => .object (embed (.protocolTensor value))
  | unrelated => .object (embed .unrelated)
  | dense rows cols data => .object (embed (.denseArray rows cols data))

def toValues {ω : Type} (embed : FixtureObject → ω) : List FixtureValue → List (Value ω)
  | [] => []
  | item :: rest => toValue embed item :: toValues embed rest

end

end FixtureValue

inductive ExpectedOutcome where
  | resolved (strategy : Strategy) (dims : List UInt32)
  | raggedOrMixed
  | noConversion (attempted : List Strategy)
  deriving DecidableEq

def ExpectedOutcome.inspect : ExpectedOutcome → String
  | .resolved strategy dims =>
    "Resolved \x7b strategy: " ++ strategy.inspect ++ ", dims: " ++ Shape.dimsText dims ++ " \x7d"
  | .raggedOrMixed => "RaggedOrMixed"
  | .noConversion attempted =>
    "NoConversion \x7b attempted: " ++ Text.bracketed (attempted.map Strategy.inspect) ++ " \x7d"

/-- A value that is resolved to a type, and what is expected of it. -/
structure ResolutionCase where
  name : String
  value : FixtureValue
  target : String
  expect : ExpectedOutcome

/-- An annotation that is compared with a signature, and the expected verdict. -/
structure SignatureCase where
  name : String
  declared : AnnotationShape
  runtime : TypeSignature
  expect : Verdict
  deriving DecidableEq

/-- How one case went; a case that failed has a detail. -/
structure CaseReport where
  name : String
  passed : Bool
  detail : Option String
  deriving DecidableEq

def CaseReport.ofDetail (name : String) (detail : Option String) : CaseReport :=
  ⟨name, detail.isNone, detail⟩

structure ConformanceReport where
  suite : String
  total : Nat
  passed : Nat
  cases : List CaseReport
  deriving DecidableEq

namespace ConformanceReport

def ofCases (suite : String) (cases : List CaseReport) : ConformanceReport :=
  ⟨suite, cases.length, cases.countP CaseReport.passed, cases⟩

def isClean (r : ConformanceReport) : Bool := r.passed = r.total

def failures (r : ConformanceReport) : List CaseReport := r.cases.filter fun c => !c.passed

end ConformanceReport

end CanonicalTypes
