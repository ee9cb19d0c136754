import CanonicalTypes.Resolution.Inspect
import CanonicalTypes.Signature.Check
import CanonicalTypes.Suite.Case
import CanonicalTypes.System.Facade

/-!
# Running conformance suites

A case is evaluated on a type system; a failed expectation becomes a detail of its report and never
stops the suite. Resolution cases run on the system one after the other, so they share its cache
and its ledger.

| here | operation |
| --- | --- |
| `evaluateResolution`, `mismatch?` | `evaluate_resolution_case` |
| `runResolutionSuite`              | `run_resolution_suite` |
| `evaluateSignature`               | `evaluate_signature_case` |
| `runSignatureSuite`               | `run_signature_suite` |
| `harnessSystem`                   | `harness_system` |
-/
namespace CanonicalTypes

variable {ω κ η : Type} [ForeignObject ω]

/-- Why a resolution does not meet an expectation, if it does not. -/
def mismatch? (expect : ExpectedOutcome) (r : Resolution ω) : Option String :=
  match expect, r.result with
  | .resolved strategy dims, .ok c =>
    let actual := c.payload.tensor?.map fun t => t.shape.dims
    if r.trace.strategy ≠ some strategy then
      some (s!"strategy {inspectOption Strategy.inspect r.trace.strategy}, "
        ++ s!"expected {strategy.name}")
    else if actual ≠ some dims then
      some s!"dims {inspectOption Shape.dimsText actual}, expected {Shape.dimsText dims}"
    else none
  | .raggedOrMixed, .error (.raggedOrMixedElements _ _ _) => none
  | .noConversion attempted, .error (.noConversionFound _ _ actual) =>
    if actual = attempted then none
    else
      some (s!"attempted {Text.bracketed (actual.map Strategy.inspect)}, "
        ++ s!"expected {Text.bracketed (attempted.map Strategy.inspect)}")
  | _, _ => some s!"expected {expect.inspect}, got {inspectResult r.result}"
where
  inspectOption {α : Type} (inspect : α → String) : Option α → String
    | some a => s!"Some({inspect a})"
    | none => "None"

/-- Evaluates a resolution case (`evaluate_resolution_case`). -/
def evaluateResolution (h : Host ω κ η) (embed : FixtureObject → ω) (s : TypeSystem κ η)
    (c : ResolutionCase) : CaseReport × TypeSystem κ η :=
  match s.lookup c.target with
  | .error e => (.ofDetail c.name (some e.message), s)
  | .ok target =>
    let (r, s) := resolveTraced h (c.value.toValue embed) target.id s
    (.ofDetail c.name (mismatch? c.expect r), s)

def evaluateResolutions (h : Host ω κ η) (embed : FixtureObject → ω) (s : TypeSystem κ η) :
    List ResolutionCase → List CaseReport × TypeSystem κ η
  | [] => ([], s)
  | c :: rest =>
    let (report, s) := evaluateResolution h embed s c
    let (reports, s) := evaluateResolutions h embed s rest
    (report :: reports, s)

/-- Runs a suite of resolution cases, all on the system that it is given
(`run_resolution_suite`). -/
def runResolutionSuite (h : Host ω κ η) (embed : FixtureObject → ω) (s : TypeSystem κ η)
    (cases : List ResolutionCase) : ConformanceReport × TypeSystem κ η :=
  let (reports, s) := evaluateResolutions h embed s cases
  (.ofCases "resolution" reports, s)

def evaluateSignature (c : SignatureCase) : CaseReport :=
  let report := checkSignature c.declared c.runtime
  .ofDetail c.name
    (if report.verdict = c.expect then none
     else some s!"got {report.text}, expected {c.expect.inspect}")

def runSignatureSuite (cases : List SignatureCase) : ConformanceReport :=
  .ofCases "signature" (cases.map evaluateSignature)

/-- A fresh system with the built-in types, for running suites. -/
def harnessSystem (host : η) : Except SystemError (TypeSystem κ η) :=
  TypeSystem.withBuiltins {} host

end CanonicalTypes
