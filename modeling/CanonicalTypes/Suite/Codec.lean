import CanonicalTypes.Signature.Codec
import CanonicalTypes.Suite.Case
import CanonicalTypes.Value.Codec

/-!
# Conformance cases as records

Fixture values hold their labels beside their content, expectations inside it.
-/
namespace CanonicalTypes

open Json

namespace FixtureValue

def labels : List String :=
  ["int", "float", "bool", "sequence", "protocol_tensor", "unrelated", "dense"]

def besides (label : String) (content : Json) : Json :=
  .object [("kind", .string label), ("value", content)]

mutual

def encode : FixtureValue → Json
  | int value => besides "int" (Codec.encode value)
  | float bits => besides "float" (ofFloatBits bits)
  | bool value => besides "bool" (Codec.encode value)
  | sequence items => besides "sequence" (.array (encodeItems items))
  | protocolTensor value => besides "protocol_tensor" (Codec.encode value)
  | unrelated => .object [("kind", .string "unrelated")]
  | dense rows cols data =>
    besides "dense" (.object [
      ("rows", Codec.encode rows),
      ("cols", Codec.encode cols),
      ("data", .array (data.map ofFloatBits))])

def encodeItems : List FixtureValue → List Json
  | [] => []
  | item :: rest => encode item :: encodeItems rest

end

def decodeDense (source : Source) (content : Json) : Option FixtureValue := do
  let [rows, cols, data] ← objectComponents ["rows", "cols", "data"] content | none
  let rows ← required source rows
  let cols ← required source cols
  let some (.array items) := data | none
  some (dense rows cols (← items.mapM floatBits?))

/-- Reads a fixture value of at most `fuel` levels of arrays and objects. -/
def decode : (fuel : Nat) → Source → Json → Option FixtureValue
  | 0, _, _ => none
  | fuel + 1, source, j =>
    match splitBeside "kind" "value" labels source j with
    | some ("int", source, some content) => (Codec.decode source content).map int
    | some ("float", _, some content) => (floatBits? content).map float
    | some ("bool", source, some content) => (Codec.decode source content).map bool
    | some ("sequence", source, some (.array items)) =>
      (items.mapM (decode fuel source)).map sequence
    | some ("protocol_tensor", source, some content) =>
      (Codec.decode source content).map protocolTensor
    | some ("unrelated", _, none) => some unrelated
    | some ("unrelated", _, some .null) => some unrelated
    | some ("dense", source, some content) => decodeDense source content
    | _ => none

end FixtureValue

instance : Codec FixtureValue where
  encode := FixtureValue.encode
  decode source j := FixtureValue.decode j.depth source j

instance : Codec ExpectedOutcome where
  encode
    | .resolved strategy dims => .object [
      ("outcome", .string "resolved"),
      ("strategy", Codec.encode strategy),
      ("dims", Codec.encode dims)]
    | .raggedOrMixed => .object [("outcome", .string "ragged_or_mixed")]
    | .noConversion attempted => .object [
      ("outcome", .string "no_conversion"),
      ("attempted", Codec.encode attempted)]
  decode source j :=
    match splitInner "outcome" ["resolved", "ragged_or_mixed", "no_conversion"] source j with
    | some ("resolved", content) => do
      let [strategy, dims] ← components ["strategy", "dims"] content | none
      some (.resolved (← required .buffered strategy) (← required .buffered dims))
    | some ("ragged_or_mixed", content) =>
      if isInnerUnit content then some .raggedOrMixed else none
    | some ("no_conversion", content) => do
      let [attempted] ← components ["attempted"] content | none
      some (.noConversion (← required .buffered attempted))
    | _ => none

instance : Codec ResolutionCase where
  encode c := .object [
    ("name", Codec.encode c.name),
    ("value", Codec.encode c.value),
    ("target", Codec.encode c.target),
    ("expect", Codec.encode c.expect)]
  decode source j := do
    let [name, value, target, expect] ← components ["name", "value", "target", "expect"] j | none
    some ⟨← required source name, ← required source value, ← required source target,
      ← required source expect⟩

instance : Codec SignatureCase where
  encode c := .object [
    ("name", Codec.encode c.name),
    ("annotation", Codec.encode c.declared),
    ("runtime", Codec.encode c.runtime),
    ("expect", Codec.encode c.expect)]
  decode source j := do
    let [name, declared, runtime, expect] ←
      components ["name", "annotation", "runtime", "expect"] j | none
    some ⟨← required source name, ← required source declared, ← required source runtime,
      ← required source expect⟩

instance : Codec CaseReport where
  encode r := .object [
    ("name", Codec.encode r.name),
    ("passed", Codec.encode r.passed),
    ("detail", Codec.encode r.detail)]
  decode source j := do
    let [name, passed, detail] ← components ["name", "passed", "detail"] j | none
    some ⟨← required source name, ← required source passed, ← optional source detail⟩

instance : Codec ConformanceReport where
  encode r := .object [
    ("suite", Codec.encode r.suite),
    ("total", Codec.encode r.total),
    ("passed", Codec.encode r.passed),
    ("cases", Codec.encode r.cases)]
  decode source j := do
    let [suite, total, passed, cases] ← components ["suite", "total", "passed", "cases"] j | none
    some ⟨← required source suite, ← required source total, ← required source passed,
      ← required source cases⟩

end CanonicalTypes
