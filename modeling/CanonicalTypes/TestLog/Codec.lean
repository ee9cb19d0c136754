import CanonicalTypes.TestLog.Basic

/-!
# Test logs as records
-/
namespace CanonicalTypes

open Json

namespace TestMode

def all : List TestMode := [unit, property, conformance]

def name : TestMode → String
  | unit => "unit"
  | property => "property"
  | conformance => "conformance"

end TestMode

namespace TestResult

def all : List TestResult := [pass, fail, skip]

def name : TestResult → String
  | pass => "pass"
  | fail => "fail"
  | skip => "skip"

end TestResult

instance : Codec TestMode where
  encode m := .string m.name
  decode := unitLabel TestMode.name TestMode.all

instance : Codec TestResult where
  encode r := .string r.name
  decode := unitLabel TestResult.name TestResult.all

instance : Codec TestSetting where
  encode s := .object [
    ("os", Codec.encode s.os),
    ("cargo_target_dir", Codec.encode s.targetDir),
    ("timestamp_unix_ms", Codec.encode s.timestamp)]
  decode source j := do
    let [os, targetDir, timestamp] ←
      components ["os", "cargo_target_dir", "timestamp_unix_ms"] j | none
    some ⟨← required source os, ← required source targetDir, ← required source timestamp⟩

instance : Codec PhaseTimings where
  encode t := .object [
    ("execute_ms", Codec.encode t.execute),
    ("verify_ms", Codec.encode t.verify)]
  decode source j := do
    let [execute, verify] ← components ["execute_ms", "verify_ms"] j | none
    some ⟨← required source execute, ← required source verify⟩

namespace TestLog

def fieldNames : List String :=
  ["schema_version", "test_id", "fixture_id", "seed", "mode", "env", "result", "duration_ms",
    "details", "phase_timings"]

end TestLog

instance : Codec TestLog where
  encode l := .object [
    ("schema_version", Codec.encode l.schemaVersion),
    ("test_id", Codec.encode l.testId),
    ("fixture_id", Codec.encode l.fixtureId),
    ("seed", Codec.encode l.seed),
    ("mode", Codec.encode l.mode),
    ("env", Codec.encode l.setting),
    ("result", Codec.encode l.result),
    ("duration_ms", Codec.encode l.duration),
    ("details", Codec.encode l.details),
    ("phase_timings", Codec.encode l.timings)]
  decode source j := do
    let [version, testId, fixtureId, seed, mode, setting, result, duration, details, timings] ←
      components TestLog.fieldNames j | none
    some {
      schemaVersion := ← required source version
      testId := ← required source testId
      fixtureId := ← required source fixtureId
      seed := ← optional source seed
      mode := ← required source mode
      setting := ← required source setting
      result := ← required source result
      duration := ← required source duration
      details := ← optional source details
      timings := ← required source timings }

end CanonicalTypes
