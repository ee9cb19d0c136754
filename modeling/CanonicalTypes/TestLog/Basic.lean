import CanonicalTypes.Hash.Sha256
import CanonicalTypes.Json.Codec

/-!
# Test logs

A structured log of one test: what ran, on which fixture, with which seed and result. Fixtures are
identified by the hash of their JSON text, so a log can be tied to the data that it ran on.

| here | operation |
| --- | --- |
| `fixtureId`                    | `fixture_id_from_json` |
| `testId`                       | `test_id` |
| `TestLog`, `TestLog.unit`      | `TestLogV1`, `TestLogV1::unit` |
| `fileName`                     | the name that `write_log` writes to |
| `TestBody`, `TestLog.conclude` | what `run_logged` makes of the body that it runs |
-/
namespace CanonicalTypes

inductive TestMode where
  | unit
  | property
  | conformance
  deriving DecidableEq

inductive TestResult where
  | pass
  | fail
  | skip
  deriving DecidableEq

structure TestSetting where
  os : String
  targetDir : String
  timestamp : Nat
  deriving DecidableEq

/-- How long the phases of a test took, in milliseconds. -/
structure PhaseTimings where
  execute : Nat := 0
  verify : Nat := 0
  deriving DecidableEq

structure TestLog where
  schemaVersion : String
  testId : String
  fixtureId : String
  seed : Option Nat
  mode : TestMode
  setting : TestSetting
  result : TestResult
  duration : Nat
  details : Option String
  timings : PhaseTimings
  deriving DecidableEq

/-- The identity of a fixture: the hash of its text with keys in order and plain numbers. -/
def fixtureId (fixture : Json) : String := Sha256.hexDigest fixture.normalize.plain.compact

def testId (module test : String) : String := s!"{module}::{test}"

namespace TestLog

def currentVersion : String := "canontype.test-log.v1"

/-- The log of a test that took no time and left no details. -/
def unit (testId fixtureId : String) (mode : TestMode) (result : TestResult) (seed : Option Nat)
    (setting : TestSetting) : TestLog where
  schemaVersion := currentVersion
  testId
  fixtureId
  seed
  mode
  setting
  result
  duration := 0
  details := none
  timings := {}

/-- A text in which each pair of colons has become two underscores. -/
def flatten : List Char → List Char
  | ':' :: ':' :: rest => '_' :: '_' :: flatten rest
  | c :: rest => c :: flatten rest
  | [] => []

def fileName (log : TestLog) : String := String.ofList (flatten log.testId.toList) ++ ".json"

end TestLog

/-- How the body of a test ended. -/
inductive TestBody where
  | completed
  | reported (detail : String)
  | crashed (detail : String)
  deriving DecidableEq

namespace TestBody

/-- The detail of a body that did not complete. -/
def detail? : TestBody → Option String
  | completed => none
  | reported detail => some detail
  | crashed detail => some detail

def result : TestBody → TestResult
  | completed => .pass
  | reported _ => .fail
  | crashed _ => .fail

end TestBody

/-- Completes the log of a test by how its body ended, and tells the failure to raise again. -/
def TestLog.conclude (log : TestLog) (body : TestBody) : TestLog × Option String :=
  ({ log with result := body.result, details := body.detail? }, body.detail?)

end CanonicalTypes
