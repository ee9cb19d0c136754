import CanonicalTypes.Proofs.Json.Records

/-!
# Conformance cases are read back as they were written

Fixture values nest, so the induction is over the fixture, and the depth of its record bounds the
levels that the reader goes down (`decode_encode`). Floating-point numbers are written as decimals
and left out (`floatFree`).

With these, all records that are exchanged and hold no floating-point number are read back from
their text (`records_reload`).
-/
namespace CanonicalTypes

open Json

/-! ## Fixture values -/

namespace FixtureValue

mutual

/-- Whether there is no floating-point number in a fixture. -/
def floatFree : FixtureValue → Bool
  | float _ => false
  | dense _ _ _ => false
  | sequence items => floatFreeItems items
  | _ => true

def floatFreeItems : List FixtureValue → Bool
  | [] => true
  | item :: rest => item.floatFree && floatFreeItems rest

end

theorem integral_besides (label : String) {content : Json} (h : content.integral = true) :
    (besides label content).integral = true :=
  integral_labelled _ _ (integral_object (by simpa using h))

mutual

theorem integral_encode : ∀ {v : FixtureValue}, v.floatFree = true → (encode v).integral = true
  | .int _, _ => integral_besides _ (int64_lossless.integral trivial)
  | .bool _, _ => integral_besides _ (bool_lossless.integral trivial)
  | .protocolTensor _, _ => integral_besides _ (int64_lossless.integral trivial)
  | .unrelated, _ => rfl
  | .sequence items, h => by
    have hitems : (Json.array (encodeItems items)).integral = true := integral_encodeItems h
    exact integral_besides _ hitems

theorem integral_encodeItems : ∀ {items : List FixtureValue}, floatFreeItems items = true →
    integralItems (encodeItems items) = true
  | [], _ => rfl
  | _ :: _, h => by
    simp only [floatFreeItems, Bool.and_eq_true] at h
    simp only [encodeItems, integralItems, Bool.and_eq_true]
    exact ⟨integral_encode h.1, integral_encodeItems h.2⟩

end

theorem depth_besides (label : String) (content : Json) :
    (besides label content).depth = content.depth + 1 := by
  simp [besides, Json.depth, depthOfFields]

mutual

/-- A fixture is read back from its record, if the reader may go down as far as the record does. -/
theorem decode_encode : ∀ (v : FixtureValue) (fuel : Nat) (source : Source), v.floatFree = true →
    (encode v).depth ≤ fuel → decode fuel source (encode v) = some v
  | .unrelated, 0, _, _, hfuel => by simp [encode, Json.depth] at hfuel
  | .int _, 0, _, _, hfuel => by simp [encode, depth_besides] at hfuel
  | .bool _, 0, _, _, hfuel => by simp [encode, depth_besides] at hfuel
  | .protocolTensor _, 0, _, _, hfuel => by simp [encode, depth_besides] at hfuel
  | .sequence _, 0, _, _, hfuel => by simp [encode, depth_besides] at hfuel
  | .unrelated, fuel + 1, source, _, _ => by
    rw [encode, decode, splitBeside_label source (by decide)]
    rfl
  | .int value, fuel + 1, source, _, _ => by
    rw [encode, besides, decode, splitBeside_content source (by decide)]
    simp only [int64_lossless.decode source trivial, Option.map_some]
  | .bool value, fuel + 1, source, _, _ => by
    rw [encode, besides, decode, splitBeside_content source (by decide)]
    simp only [bool_lossless.decode source trivial, Option.map_some]
  | .protocolTensor value, fuel + 1, source, _, _ => by
    rw [encode, besides, decode, splitBeside_content source (by decide)]
    simp only [int64_lossless.decode source trivial, Option.map_some]
  | .sequence items, fuel + 1, source, hfree, hfuel => by
    rw [encode, depth_besides, Json.depth] at hfuel
    rw [encode, besides, decode, splitBeside_content source (by decide)]
    simp only [decode_encodeItems items fuel source hfree (by omega), Option.map_some]

theorem decode_encodeItems : ∀ (items : List FixtureValue) (fuel : Nat) (source : Source),
    floatFreeItems items = true → depthOfItems (encodeItems items) ≤ fuel →
      (encodeItems items).mapM (decode fuel source) = some items
  | [], _, _, _, _ => rfl
  | v :: rest, fuel, source, hfree, hfuel => by
    simp only [floatFreeItems, Bool.and_eq_true] at hfree
    simp only [encodeItems, depthOfItems] at hfuel ⊢
    have hv := decode_encode v fuel source hfree.1 (by omega)
    have hrest := decode_encodeItems rest fuel source hfree.2 (by omega)
    simp [List.mapM_cons, hv, hrest]

end

end FixtureValue

theorem fixtureValue_lossless : Lossless FixtureValue fun v => v.floatFree = true where
  decode source v hfree := FixtureValue.decode_encode v _ source hfree (Nat.le_refl _)
  integral hfree := FixtureValue.integral_encode hfree
  notNull {v} _ := by
    show v.encode ≠ .null
    cases v <;> simp [FixtureValue.encode, FixtureValue.besides]

/-! ## Cases -/

theorem expectedOutcome_lossless : Lossless ExpectedOutcome fun _ => True where
  decode source expect _ := by
    cases expect with
    | resolved strategy dims =>
      have hsplit : splitInner "outcome" ["resolved", "ragged_or_mixed", "no_conversion"] source
          (Codec.encode (ExpectedOutcome.resolved strategy dims)) = some ("resolved",
            .object [("strategy", Codec.encode strategy), ("dims", Codec.encode dims)]) :=
        splitInner_object source (by decide) (by simp) (integral_object (by
          simp [strategy_lossless.integral trivial,
            uint32_lossless.list.integral fun _ _ => trivial]))
      simp only [Codec.decode, hsplit]
      refine (bind_components (by rfl) (by decide) _).trans ?_
      simp only [List.map_cons, List.map_nil, strategy_lossless.required trivial,
        uint32_lossless.list.required fun _ _ => trivial]
      rfl
    | raggedOrMixed =>
      have hsplit : splitInner "outcome" ["resolved", "ragged_or_mixed", "no_conversion"] source
          (Codec.encode ExpectedOutcome.raggedOrMixed) = some ("ragged_or_mixed", .object []) :=
        splitInner_object source (by decide) (by decide) rfl
      simp only [Codec.decode, hsplit, isInnerUnit, if_true]
    | noConversion attempted =>
      have hsplit : splitInner "outcome" ["resolved", "ragged_or_mixed", "no_conversion"] source
          (Codec.encode (ExpectedOutcome.noConversion attempted)) = some ("no_conversion",
            .object [("attempted", Codec.encode attempted)]) :=
        splitInner_object source (by decide) (by simp) (integral_object (by
          simp [strategy_lossless.list.integral fun _ _ => trivial]))
      simp only [Codec.decode, hsplit]
      refine (bind_components (by rfl) (by decide) _).trans ?_
      simp only [List.map_cons, List.map_nil,
        strategy_lossless.list.required fun _ _ => trivial]
      rfl
  integral {expect} _ := by
    cases expect with
    | resolved strategy dims =>
      exact integral_labelled _ _ (integral_object (by
        simp [strategy_lossless.integral trivial,
          uint32_lossless.list.integral fun _ _ => trivial]))
    | raggedOrMixed => rfl
    | noConversion attempted =>
      exact integral_labelled _ _ (integral_object (by
        simp [strategy_lossless.list.integral fun _ _ => trivial]))
  notNull {expect} _ := by cases expect <;> simp [Codec.encode]

theorem resolutionCase_lossless : Lossless ResolutionCase fun c => c.value.floatFree = true where
  decode source c hfree := by
    refine (bind_components (by rfl) (by decide) _).trans ?_
    simp only [List.map_cons, List.map_nil, string_lossless.required trivial,
      fixtureValue_lossless.required hfree, expectedOutcome_lossless.required trivial]
    rfl
  integral hfree := integral_object (by
    simp [string_lossless.integral trivial, fixtureValue_lossless.integral hfree,
      expectedOutcome_lossless.integral trivial])
  notNull _ := by simp [Codec.encode]

theorem signatureCase_lossless : Lossless SignatureCase fun _ => True where
  decode source c _ := by
    refine (bind_components (by rfl) (by decide) _).trans ?_
    simp only [List.map_cons, List.map_nil, string_lossless.required trivial,
      annotationShape_lossless.required trivial, typeSignature_lossless.required trivial,
      verdict_lossless.required trivial]
    rfl
  integral _ := integral_object (by
    simp [string_lossless.integral trivial, annotationShape_lossless.integral trivial,
      typeSignature_lossless.integral trivial, verdict_lossless.integral trivial])
  notNull _ := by simp [Codec.encode]

/-! ## All records -/

/-- The compact text of a value denotes it, unless it nests too many arrays and objects. -/
def Reloads {α : Type} [Codec α] (a : α) : Prop :=
  (Codec.encode a).depth ≤ maxDepth → Codec.ofText? (Codec.toText a) = some a

theorem Lossless.reloads {α : Type} [Codec α] {Fits : α → Prop} (h : Lossless α Fits) {a : α}
    (ha : Fits a) : Reloads a :=
  h.ofText?_toText ha

/-- **Records are read back from their compact text.** Strings are arbitrary, and so are the lengths
of lists; numbers without a bound of their own have 64 bits. Of the fixtures only those without
floating-point numbers are meant. -/
theorem records_reload :
    (∀ r : LedgerRecord, r.InRange → Reloads r) ∧
    (∀ e : RegistryEvent, e.InRange → Reloads e) ∧
    (∀ r : ResolutionRecord, Reloads r) ∧
    (∀ o : Outcome, Reloads o) ∧
    (∀ d : CapabilityDescriptor, Reloads d) ∧
    (∀ s : TypeSignature, Reloads s) ∧
    (∀ a : AnnotationShape, Reloads a) ∧
    (∀ c : Compatibility, c.InRange → Reloads c) ∧
    (∀ t : Tensor, Reloads t) ∧
    (∀ c : EngineConfig, c.InRange → Reloads c) ∧
    (∀ cases : List ResolutionCase, (∀ c ∈ cases, c.value.floatFree = true) → Reloads cases) ∧
    (∀ cases : List SignatureCase, Reloads cases) :=
  ⟨fun _ hrange => ledgerRecord_lossless.reloads hrange,
    fun _ hrange => registryEvent_lossless.reloads hrange,
    fun _ => resolutionRecord_lossless.reloads trivial,
    fun _ => outcome_lossless.reloads trivial,
    fun _ => capabilityDescriptor_lossless.reloads trivial,
    fun _ => typeSignature_lossless.reloads trivial,
    fun _ => annotationShape_lossless.reloads trivial,
    fun _ hrange => compatibility_lossless.reloads hrange,
    fun _ => tensor_lossless.reloads trivial,
    fun _ hrange => engineConfig_lossless.reloads hrange,
    fun _ hfree => resolutionCase_lossless.list.reloads hfree,
    fun _ => signatureCase_lossless.list.reloads fun _ _ => trivial⟩

/-- A name with a quote, a backslash and a control character, and sequences of several depths. -/
def escapedCase : ResolutionCase where
  name := "\"quoted\" \\ \x01"
  value := .sequence [.sequence [.int Int64.minValue, .bool true], .sequence [], .unrelated]
  target := "Tensor"
  expect := .noConversion [.registry, .protocol, .sequence]

/-- A replacement with the greatest numbers, and a line break in a name. -/
def lastReplacement : LedgerRecord := .registry
  (.replaced "a.b" "Ten\nsor" 18446744073709551614 18446744073709551615 "override")

def largestLedger : EngineConfig := { ledgerCapacity := 18446744073709551615 }

/-- A report that an open axis is pinned. -/
def pinnedAxis : Compatibility := .refinement [⟨.axis 3, "?", "5", .runtime⟩]

theorem records_reload_escaped :
    Codec.ofText? (Codec.toText [escapedCase]) = some [escapedCase] ∧
    Codec.ofText? (Codec.toText lastReplacement) = some lastReplacement ∧
    Codec.ofText? (Codec.toText largestLedger) = some largestLedger ∧
    Codec.ofText? (Codec.toText pinnedAxis) = some pinnedAxis := by
  obtain ⟨hledger, -, -, -, -, -, -, hreports, -, hconfig, hcases, -⟩ := records_reload
  have hreplacement : lastReplacement.InRange := ⟨by decide, by decide⟩
  have hsites : pinnedAxis.InRange := by
    simp [Compatibility.InRange, Compatibility.deltas, Site.InRange, pinnedAxis, UInt64.size]
  exact ⟨hcases [escapedCase] (by decide +kernel) (by decide +kernel),
    hledger lastReplacement hreplacement (by decide +kernel),
    hconfig largestLedger ⟨by decide, by decide⟩ (by decide +kernel),
    hreports pinnedAxis hsites (by decide +kernel)⟩

end CanonicalTypes
