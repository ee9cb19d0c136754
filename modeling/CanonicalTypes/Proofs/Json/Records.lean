import CanonicalTypes.Descriptor.Codec
import CanonicalTypes.Ledger.Codec
import CanonicalTypes.Proofs.Json.Lossless
import CanonicalTypes.Resolution.Codec
import CanonicalTypes.Suite.Codec

/-!
# Records are read back as they were written

Every codec of the library that writes no floating-point number is lossless, from plain values up to
the records of the ledger and the cases of the conformance suites. Numbers without a bound of their
own have to fit in 64 bits.
-/
namespace CanonicalTypes

open Json

/-! ## Plain values -/

theorem bool_lossless : Lossless Bool fun _ => True where
  decode _ _ _ := rfl
  integral _ := rfl
  notNull _ := by simp [Codec.encode]

theorem string_lossless : Lossless String fun _ => True where
  decode _ _ _ := rfl
  integral _ := rfl
  notNull _ := by simp [Codec.encode]

theorem natBelow?_ofNat {bound n : Nat} (h : n < bound) : natBelow? bound (.ofNat n) = some n :=
  if_pos h

theorem integral_ofNat {n : Nat} (h : n < UInt64.size) : (Json.ofNat n).integral = true :=
  decide_eq_true h

theorem ofInt_ne_null (v : Int) : ofInt v ≠ .null := by simp [ofInt]

theorem nat_lossless : Lossless Nat (· < UInt64.size) where
  decode _ _ h := natBelow?_ofNat h
  integral h := integral_ofNat h
  notNull _ := ofInt_ne_null _

theorem uint8_lossless : Lossless UInt8 fun _ => True where
  decode _ n _ := by
    show (natBelow? UInt8.size (.ofNat n.toNat)).map Nat.toUInt8 = some n
    rw [natBelow?_ofNat n.toNat_lt, Option.map_some, Nat.toUInt8, UInt8.ofNat_toNat]
  integral {n} _ := integral_ofNat (Nat.lt_trans n.toNat_lt (by decide))
  notNull _ := ofInt_ne_null _

theorem uint32_lossless : Lossless UInt32 fun _ => True where
  decode _ n _ := by
    show (natBelow? UInt32.size (.ofNat n.toNat)).map Nat.toUInt32 = some n
    rw [natBelow?_ofNat n.toNat_lt, Option.map_some, Nat.toUInt32, UInt32.ofNat_toNat]
  integral {n} _ := integral_ofNat (Nat.lt_trans n.toNat_lt (by decide))
  notNull _ := ofInt_ne_null _

theorem uint64_lossless : Lossless UInt64 fun _ => True where
  decode _ n _ := by
    show (natBelow? UInt64.size (.ofNat n.toNat)).map Nat.toUInt64 = some n
    rw [natBelow?_ofNat n.toNat_lt, Option.map_some, Nat.toUInt64, UInt64.ofNat_toNat]
  integral {n} _ := integral_ofNat n.toNat_lt
  notNull _ := ofInt_ne_null _

theorem int64_lossless : Lossless Int64 fun _ => True where
  decode _ n _ := by
    show (if Int64.minValue.toInt ≤ n.toInt ∧ n.toInt ≤ Int64.maxValue.toInt
      then some (Int64.ofInt n.toInt) else none) = some n
    rw [if_pos ⟨n.minValue_le_toInt, n.toInt_le⟩, Int64.ofInt_toInt]
  integral {n} _ := by
    have hleast := n.le_toInt
    have hgreatest := n.toInt_lt
    have hlimit : significandLimit = 2 ^ 64 := rfl
    exact decide_eq_true (by omega)
  notNull _ := ofInt_ne_null _

/-! ## Labels -/

theorem dtype_lossless : Lossless DType fun _ => True :=
  .of_label (by decide) DType.mem_all (fun _ => rfl) fun _ _ => rfl

theorem strategy_lossless : Lossless Strategy fun _ => True :=
  .of_label (by decide) Strategy.mem_all (fun _ => rfl) fun _ _ => rfl

theorem verdict_lossless : Lossless Verdict fun _ => True :=
  .of_label (by decide) (by rintro ⟨⟩ <;> decide) (fun _ => rfl) fun _ _ => rfl

theorem specific_lossless : Lossless Specific fun _ => True :=
  .of_label (by decide) (by rintro ⟨⟩ <;> decide) (fun _ => rfl) fun _ _ => rfl

/-! ## Descriptors -/

theorem memberKind_lossless : Lossless MemberKind fun _ => True where
  decode source kind _ := by
    cases kind with
    | property => rfl
    | method arity =>
      have harity : MemberKind.methodComponents source (.object [("arity", Codec.encode arity)]) =
          some [some (Codec.encode arity)] := by
        unfold MemberKind.methodComponents
        split <;> exact components_object rfl (by decide)
      show (MemberKind.methodComponents source _).bind _ = _
      rw [harity]
      simp only [Option.bind_some, uint8_lossless.optional fun _ _ => trivial]
      rfl
  integral {kind} _ := by
    cases kind with
    | property => rfl
    | method arity =>
      have harity := uint8_lossless.integral_option (o := arity) fun _ _ => trivial
      exact integral_object (by simpa using integral_object (by simpa using harity))
  notNull {kind} _ := by cases kind <;> simp [Codec.encode]

theorem requiredMember_lossless : Lossless RequiredMember fun _ => True where
  decode source m _ := by
    refine (bind_components (by rfl) (by decide) _).trans ?_
    simp only [List.map_cons, List.map_nil, string_lossless.required trivial,
      memberKind_lossless.required trivial]
    rfl
  integral _ := integral_object (by
    simp [string_lossless.integral trivial, memberKind_lossless.integral trivial])
  notNull _ := by simp [Codec.encode]

theorem sequenceFallback_lossless : Lossless SequenceFallback fun _ => True where
  decode source f _ := by
    refine (bind_components (by rfl) (by decide) _).trans ?_
    simp only [List.map_cons, List.map_nil, string_lossless.required trivial]
    rfl
  integral _ := integral_object (by simp [string_lossless.integral trivial])
  notNull _ := by simp [Codec.encode]

theorem capabilityDescriptor_lossless : Lossless CapabilityDescriptor fun _ => True where
  decode source d _ := by
    refine (bind_components (by rfl) (by decide) _).trans ?_
    simp only [List.map_cons, List.map_nil,
      requiredMember_lossless.list.required fun _ _ => trivial,
      string_lossless.optional fun _ _ => trivial,
      sequenceFallback_lossless.optional fun _ _ => trivial]
    rfl
  integral _ := integral_object (by
    simp [requiredMember_lossless.list.integral fun _ _ => trivial,
      string_lossless.integral_option fun _ _ => trivial,
      sequenceFallback_lossless.integral_option fun _ _ => trivial])
  notNull _ := by simp [Codec.encode]

/-! ## Tensors -/

theorem literal_lossless : Lossless Literal fun _ => True where
  decode source literal _ := by
    cases literal with
    | int value =>
      show (Codec.decode source (Codec.encode value)).map Literal.int = _
      rw [int64_lossless.decode source trivial, Option.map_some]
    | bool value => rfl
    | float bits =>
      show (Codec.decode source (Codec.encode bits)).map Literal.float = _
      rw [uint64_lossless.decode source trivial, Option.map_some]
    | complex re im =>
      show (Codec.decode source (Codec.encode re)).bind (fun re =>
        (Codec.decode source (Codec.encode im)).bind fun im => some (Literal.complex re im)) = _
      rw [uint64_lossless.decode source trivial, Option.bind_some,
        uint64_lossless.decode source trivial, Option.bind_some]
  integral {literal} _ := by
    cases literal with
    | int value => exact integral_object (by simp [int64_lossless.integral trivial])
    | bool value => rfl
    | float bits => exact integral_object (by simp [uint64_lossless.integral trivial])
    | complex re im =>
      exact integral_object (by
        simp [integral, integralItems, uint64_lossless.integral trivial])
  notNull {literal} _ := by cases literal <;> simp [Codec.encode]

theorem shape_lossless : Lossless Shape fun _ => True where
  decode source s _ := by
    refine (bind_components (by rfl) (by decide) _).trans ?_
    simp only [List.map_cons, List.map_nil,
      uint32_lossless.list.required fun _ _ => trivial]
    rfl
  integral _ := integral_object (by simp [uint32_lossless.list.integral fun _ _ => trivial])
  notNull _ := by simp [Codec.encode]

theorem tensor_lossless : Lossless Tensor fun _ => True where
  decode source t _ := by
    refine (bind_components (by rfl) (by decide) _).trans ?_
    simp only [List.map_cons, List.map_nil, dtype_lossless.required trivial,
      shape_lossless.required trivial, literal_lossless.list.required fun _ _ => trivial]
    rfl
  integral _ := integral_object (by
    simp [dtype_lossless.integral trivial, shape_lossless.integral trivial,
      literal_lossless.list.integral fun _ _ => trivial])
  notNull _ := by simp [Codec.encode]

/-! ## Signatures -/

theorem dim_lossless : Lossless Dim fun _ => True where
  decode source dim _ := by
    cases dim with
    | known size =>
      show (Codec.decode source (Codec.encode size)).map Dim.known = _
      rw [uint32_lossless.decode source trivial, Option.map_some]
    | unknown => rfl
  integral {dim} _ := by
    cases dim with
    | known size => exact integral_object (by simp [uint32_lossless.integral trivial])
    | unknown => rfl
  notNull {dim} _ := by cases dim <;> simp [Codec.encode]

theorem typeSignature_lossless : Lossless TypeSignature fun _ => True where
  decode source s _ := by
    refine (bind_components (by rfl) (by decide) _).trans ?_
    simp only [List.map_cons, List.map_nil,
      dim_lossless.list.required fun _ _ => trivial, dtype_lossless.required trivial]
    rfl
  integral _ := integral_object (by
    simp [dim_lossless.list.integral fun _ _ => trivial, dtype_lossless.integral trivial])
  notNull _ := by simp [Codec.encode]

theorem annotationShape_lossless : Lossless AnnotationShape fun _ => True where
  decode source a _ := by
    refine (bind_components (by rfl) (by decide) _).trans ?_
    simp only [List.map_cons, List.map_nil,
      dim_lossless.list.optional fun _ _ _ _ => trivial, dtype_lossless.optional fun _ _ => trivial]
    rfl
  integral _ := integral_object (by
    simp [dim_lossless.list.integral_option fun _ _ _ _ => trivial,
      dtype_lossless.integral_option fun _ _ => trivial])
  notNull _ := by simp [Codec.encode]

/-- The number of the axis, if the site is one, has 64 bits. -/
def Site.InRange : Site → Prop
  | .axis index => index < UInt64.size
  | _ => True

theorem site_lossless : Lossless Site Site.InRange where
  decode source site hrange := by
    cases site with
    | rank => rfl
    | axis index =>
      show (Codec.decode source (Codec.encode index)).map Site.axis = _
      rw [nat_lossless.decode source hrange, Option.map_some]
    | kind => rfl
  integral {site} hrange := by
    cases site with
    | rank => rfl
    | axis index => exact integral_object (by simpa using nat_lossless.integral hrange)
    | kind => rfl
  notNull {site} _ := by cases site <;> simp [Codec.encode]

theorem signatureDelta_lossless : Lossless SignatureDelta fun d => d.site.InRange where
  decode source d hrange := by
    refine (bind_components (by rfl) (by decide) _).trans ?_
    simp only [List.map_cons, List.map_nil, site_lossless.required hrange,
      string_lossless.required trivial, specific_lossless.required trivial]
    rfl
  integral hrange := integral_object (by
    simp [site_lossless.integral hrange, string_lossless.integral trivial,
      specific_lossless.integral trivial])
  notNull _ := by simp [Codec.encode]

def Compatibility.InRange (c : Compatibility) : Prop := ∀ d ∈ c.deltas, d.site.InRange

theorem compatibility_lossless : Lossless Compatibility Compatibility.InRange where
  decode source c hrange := by
    cases c with
    | agreement =>
      have hsplit : splitBeside "verdict" "deltas" (Verdict.all.map Verdict.name) source
          (Codec.encode Compatibility.agreement) = some ("agreement", source, none) :=
        splitBeside_label source (by decide)
      simp only [Codec.decode, hsplit]
    | refinement deltas =>
      have hsplit : splitBeside "verdict" "deltas" (Verdict.all.map Verdict.name) source
          (Codec.encode (Compatibility.refinement deltas)) =
            some ("refinement", source, some (Codec.encode deltas)) :=
        splitBeside_content source (by decide) _
      have hdeltas := signatureDelta_lossless.list.decode source hrange
      simp only [Codec.decode, hsplit] at hdeltas ⊢
      exact congrArg (Option.map Compatibility.refinement) hdeltas
    | conflict deltas =>
      have hsplit : splitBeside "verdict" "deltas" (Verdict.all.map Verdict.name) source
          (Codec.encode (Compatibility.conflict deltas)) =
            some ("conflict", source, some (Codec.encode deltas)) :=
        splitBeside_content source (by decide) _
      have hdeltas := signatureDelta_lossless.list.decode source hrange
      simp only [Codec.decode, hsplit] at hdeltas ⊢
      exact congrArg (Option.map Compatibility.conflict) hdeltas
  integral {c} hrange := by
    cases c with
    | agreement => rfl
    | refinement deltas =>
      have hdeltas : (Codec.encode deltas).integral = true :=
        signatureDelta_lossless.list.integral hrange
      exact integral_labelled _ _ (integral_object (by simpa using hdeltas))
    | conflict deltas =>
      have hdeltas : (Codec.encode deltas).integral = true :=
        signatureDelta_lossless.list.integral hrange
      exact integral_labelled _ _ (integral_object (by simpa using hdeltas))
  notNull {c} _ := by cases c <;> simp [Codec.encode]

/-! ## Settings -/

def EngineConfig.InRange (c : EngineConfig) : Prop :=
  c.ledgerCapacity < UInt64.size ∧ c.maxSequenceDepth < UInt64.size

theorem engineConfig_lossless : Lossless EngineConfig EngineConfig.InRange where
  decode source c hrange := by
    have hsettings : EngineConfig.settings (Codec.encode c) =
        some [some (Codec.encode c.cacheEnabled), some (Codec.encode c.recordLedger),
          some (Codec.encode c.ledgerCapacity), some (Codec.encode c.maxSequenceDepth)] :=
      components_object (by rfl) (by decide : EngineConfig.fieldNames.Nodup)
    show (EngineConfig.settings (Codec.encode c)).bind _ = _
    rw [hsettings]
    simp only [Option.bind_some, EngineConfig.setting, bool_lossless.decode source trivial,
      nat_lossless.decode source hrange.1, nat_lossless.decode source hrange.2]
    rfl
  integral hrange := integral_object (by
    simp [bool_lossless.integral trivial, nat_lossless.integral hrange.1,
      nat_lossless.integral hrange.2])
  notNull _ := by simp [Codec.encode]

/-! ## The ledger -/

theorem outcome_lossless : Lossless Outcome fun _ => True where
  decode source outcome _ := by
    cases outcome with
    | resolved =>
      have hsplit : splitInner "kind" ["resolved", "failed"] source
          (Codec.encode Outcome.resolved) = some ("resolved", .object []) :=
        splitInner_object source (by decide) (by decide) rfl
      simp only [Codec.decode, hsplit, isInnerUnit, if_true]
    | failed reason =>
      have hsplit : splitInner "kind" ["resolved", "failed"] source
          (Codec.encode (Outcome.failed reason)) =
            some ("failed", .object [("reason", Codec.encode reason)]) :=
        splitInner_object source (by decide) (by simp)
          (integral_object (by simp [string_lossless.integral trivial]))
      simp only [Codec.decode, hsplit]
      refine (bind_components (by rfl) (by decide) _).trans ?_
      simp only [List.map_cons, List.map_nil, string_lossless.required trivial]
      rfl
  integral {outcome} _ := by
    cases outcome with
    | resolved => rfl
    | failed reason =>
      exact integral_labelled _ _ (integral_object (by simp [string_lossless.integral trivial]))
  notNull {outcome} _ := by cases outcome <;> simp [Codec.encode]

theorem resolutionRecord_lossless : Lossless ResolutionRecord fun _ => True where
  decode source r _ := by
    refine (bind_components (by rfl) (by decide) _).trans ?_
    simp only [ResolutionRecord.fields, List.map_cons, List.map_nil,
      string_lossless.required trivial, strategy_lossless.optional fun _ _ => trivial,
      bool_lossless.required trivial, strategy_lossless.list.required fun _ _ => trivial,
      outcome_lossless.required trivial]
    rfl
  integral _ := integral_object (by
    simp [ResolutionRecord.fields, string_lossless.integral trivial,
      strategy_lossless.integral_option fun _ _ => trivial, bool_lossless.integral trivial,
      strategy_lossless.list.integral fun _ _ => trivial, outcome_lossless.integral trivial])
  notNull _ := by simp [Codec.encode]

/-- The numbers of registrations in an event have 64 bits. -/
def RegistryEvent.InRange : RegistryEvent → Prop
  | .registered _ _ sequence _ => sequence < UInt64.size
  | .replaced _ _ previous sequence _ => previous < UInt64.size ∧ sequence < UInt64.size
  | .deregistered _ _ sequence => sequence < UInt64.size

namespace RegistryEvent

def label : RegistryEvent → String
  | registered _ _ _ _ => "registered"
  | replaced _ _ _ _ _ => "replaced"
  | deregistered _ _ _ => "deregistered"

theorem integral_tail_fields {e : RegistryEvent} (hrange : e.InRange) :
    (Json.object e.fields.tail).integral = true := by
  cases e with
  | registered producer target sequence priority =>
    exact integral_object (by
      simp [fields, string_lossless.integral trivial, nat_lossless.integral hrange])
  | replaced producer target previous sequence priority =>
    exact integral_object (by
      simp [fields, string_lossless.integral trivial, nat_lossless.integral hrange.1,
        nat_lossless.integral hrange.2])
  | deregistered producer target sequence =>
    exact integral_object (by
      simp [fields, string_lossless.integral trivial, nat_lossless.integral hrange])

/-- An event is its label, followed by what it tells. -/
theorem fields_eq (e : RegistryEvent) : e.fields = ("event", .string e.label) :: e.fields.tail := by
  cases e <;> rfl

theorem splitInner_encode (source : Source) {e : RegistryEvent} (hrange : e.InRange) :
    splitInner "event" ["registered", "replaced", "deregistered"] source (Codec.encode e) =
      some (e.label, .object e.fields.tail) := by
  have hencode : Codec.encode e = .object (("event", .string e.label) :: e.fields.tail) :=
    congrArg Json.object e.fields_eq
  rw [hencode]
  refine splitInner_object source ?_ ?_ (integral_tail_fields hrange)
  · cases e <;> simp [label]
  · cases e <;> simp [fields]

end RegistryEvent

theorem registryEvent_lossless : Lossless RegistryEvent RegistryEvent.InRange where
  decode source e hrange := by
    have hsplit := RegistryEvent.splitInner_encode source hrange
    simp only [Codec.decode, hsplit]
    cases e with
    | registered producer target sequence priority =>
      refine (bind_components (by rfl) (by decide) _).trans ?_
      simp only [RegistryEvent.fields, List.tail_cons, List.map_cons, List.map_nil,
        string_lossless.required trivial, nat_lossless.required hrange]
      rfl
    | replaced producer target previous sequence priority =>
      refine (bind_components (by rfl) (by decide) _).trans ?_
      simp only [RegistryEvent.fields, List.tail_cons, List.map_cons, List.map_nil,
        string_lossless.required trivial, nat_lossless.required hrange.1,
        nat_lossless.required hrange.2]
      rfl
    | deregistered producer target sequence =>
      refine (bind_components (by rfl) (by decide) _).trans ?_
      simp only [RegistryEvent.fields, List.tail_cons, List.map_cons, List.map_nil,
        string_lossless.required trivial, nat_lossless.required hrange]
      rfl
  integral {e} hrange := by
    show (Json.object e.fields).integral = true
    rw [e.fields_eq]
    exact integral_labelled _ _ (RegistryEvent.integral_tail_fields hrange)
  notNull _ := by simp [Codec.encode]

def LedgerRecord.InRange : LedgerRecord → Prop
  | .resolution _ => True
  | .registry event => event.InRange

theorem ledgerRecord_lossless : Lossless LedgerRecord LedgerRecord.InRange where
  decode source r hrange := by
    cases r with
    | resolution record =>
      have hsplit : splitInner "type" ["resolution", "registry"] source
          (Codec.encode (LedgerRecord.resolution record)) =
            some ("resolution", Codec.encode record) :=
        splitInner_object source (by decide) (by simp [ResolutionRecord.fields])
          (resolutionRecord_lossless.integral trivial)
      have hrecord := resolutionRecord_lossless.decode .buffered (a := record) trivial
      simp only [Codec.decode, hsplit] at hrecord ⊢
      exact congrArg (Option.map LedgerRecord.resolution) hrecord
    | registry event =>
      have hsplit : splitInner "type" ["resolution", "registry"] source
          (Codec.encode (LedgerRecord.registry event)) = some ("registry", Codec.encode event) :=
        splitInner_object source (by decide) (by cases event <;> simp [RegistryEvent.fields])
          (registryEvent_lossless.integral hrange)
      have hevent := registryEvent_lossless.decode .buffered hrange
      simp only [Codec.decode, hsplit] at hevent ⊢
      exact congrArg (Option.map LedgerRecord.registry) hevent
  integral {r} hrange := by
    cases r with
    | resolution record => exact integral_labelled _ _ (resolutionRecord_lossless.integral trivial)
    | registry event => exact integral_labelled _ _ (registryEvent_lossless.integral hrange)
  notNull {r} _ := by cases r <;> simp [Codec.encode]

end CanonicalTypes
