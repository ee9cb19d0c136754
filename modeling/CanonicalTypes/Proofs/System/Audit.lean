import CanonicalTypes.Proofs.System.Effects

/-!
# What a call leaves in the ledger

A call resolves first and records its outcome afterwards. Nothing that happens on the way to an
outcome writes to the ledger, so elements leave no records, however deep they are nested. Only
foreign code may have written to it by then: a converter that calls back has its calls recorded
before the one that runs it.

By its name a type is resolved to as by its id, so a failure is recorded there too
(`failed_resolution_recorded`). But a name that no type has is refused before the engine is asked:
this is the one failure that leaves no record, though the engine records it for an id.

The main results are `resolution_audited_once` and `failed_resolution_recorded`.
-/
namespace CanonicalTypes

open Relation (ReflTransGen)

variable {ω κ η : Type} [ForeignObject ω] {h : Host ω κ η}

omit [ForeignObject ω] in
theorem Resolution.isIdentity_iff (r : Resolution ω) :
    r.isIdentity = true ↔ (∃ c, r.result = .ok c) ∧ r.trace.strategy = some .identity := by
  unfold isIdentity succeeded
  cases r.result <;> simp

omit [ForeignObject ω] in
/-- An engine that records resolutions records one that is no identity, and nothing else. -/
theorem observe_ledger (engine : Engine κ) (target : String) (r : Resolution ω)
    (s : TypeSystem κ η) :
    (observe engine target r s).ledger =
      if engine.config.recordLedger = true ∧ engine.audited = true ∧ ¬ r.isIdentity = true
      then s.ledger.append (.resolution (r.toRecord target)) else s.ledger := by
  unfold observe
  cases r.isIdentity <;> cases engine.config.recordLedger <;> cases engine.audited <;> rfl

/-- **A call is recorded once.** When a call comes to its result, only foreign code has touched the
ledger, and if none did, the ledger is the one from before the call. To this the call adds one record
if the engine has a ledger and records resolutions, and the call is not an identity that succeeds;
otherwise it adds nothing. The record tells what the trace tells, the name of the target and how the
call ended. Foreign code means converters and entry points: asking an object about itself records
nothing, since its answers are fixed (`ForeignObject`). -/
theorem resolution_audited_once (h : Host ω κ η) (s : TypeSystem κ η) (v : Value ω) (id : TypeId) :
    let r := (resolveTraced h v id s).1
    let s' := (resolveTraced h v id s).2
    let recorded := s.engine.config.recordLedger = true ∧ s.engine.audited = true ∧
      ¬ ((∃ c, r.result = .ok c) ∧ r.trace.strategy = some .identity)
    let record : ResolutionRecord := {
      producer := r.trace.producer.name
      target := s.types.nameOf id
      strategy := r.trace.strategy
      cacheHit := r.trace.cacheHit
      attempted := r.trace.attempted
      outcome := match r.result with
        | .ok _ => .resolved
        | .error failure => .failed failure.message }
    ∃ before : EventLedger,
      ReflTransGen (Relation.Map (CallRuns h v id s) TypeSystem.ledger TypeSystem.ledger)
        s.ledger before ∧
      ((∀ s₁ s₂, CallRuns h v id s s₁ s₂ → s₂.ledger = s₁.ledger) → before = s.ledger) ∧
      (recorded → s'.ledger = before.append (.resolution record)) ∧
      (¬ recorded → s'.ledger = before) := by
  intro r s' recorded record
  have hledger := observe_ledger s.engine (s.types.nameOf id) r (resolvedIn h v id s)
  rw [← resolveTraced_snd] at hledger
  -- The ledger before the record is the one that the resolution itself has left.
  refine ⟨(resolvedIn h v id s).ledger, resolvedIn_changed_by_foreign (fun _ _ => rfl) v id s,
    resolvedIn_unchanged (fun _ _ => rfl) v id s, ?_, ?_⟩
  · rintro ⟨hrecords, haudited, hother⟩
    exact hledger.trans (if_pos ⟨hrecords, haudited, fun hid => hother (r.isIdentity_iff.1 hid)⟩)
  · intro hnot
    refine hledger.trans (if_neg ?_)
    rintro ⟨hrecords, haudited, hother⟩
    exact hnot ⟨hrecords, haudited, fun hid => hother (r.isIdentity_iff.2 hid)⟩

/-- **A converter that calls back leaves a record of its own.** The converter of integers resolves an
empty sequence first. The sequence is recorded before the integer, in the same call. -/
theorem reentrant_call_audited_twice :
    let s := callingSystem {}
    let p := resolveTraced (callingFirst [.resolve (.sequence []) "Target"]) (.scalar (.int 5)) ⟨0⟩ s
    s.Reachable ∧ s.engine.audited = true ∧ s.engine.config.recordLedger = true ∧
    p.1.result = .ok ⟨⟨0⟩, .tensor (Tensor.scalar (.int 5))⟩ ∧
    p.2.ledger = (s.ledger.append
        (.resolution ⟨"builtin.sequence", "Target", some .sequence, false, [.registry, .sequence],
          .resolved⟩)).append
        (.resolution ⟨"builtin.int", "Target", some .registry, false, [.registry], .resolved⟩) ∧
    ¬ ∃ record, p.2.ledger = s.ledger.append (.resolution record) := by
  intro s p
  have hledger : p.2.ledger = (s.ledger.append
      (.resolution ⟨"builtin.sequence", "Target", some .sequence, false, [.registry, .sequence],
        .resolved⟩)).append
      (.resolution ⟨"builtin.int", "Target", some .registry, false, [.registry], .resolved⟩) := rfl
  refine ⟨reachable_run (callingFirst_lawful _) _ _ _, rfl, rfl, rfl, hledger, ?_⟩
  rintro ⟨record, hone⟩
  have hthree : p.2.ledger.length = 3 := rfl
  have hsingle : (s.ledger.append (.resolution record)).length = 2 := rfl
  rw [hone, hsingle] at hthree
  cases hthree

/-! ## Calls that fail -/

theorem Course.producer {types : TypeRegistry} {v : Value ω} {target : CanonicalType}
    {r : Resolution ω} (course : Course types v target r) : r.trace.producer = v.producer := by
  cases course with
  | identity _ hr => rw [hr]; rfl
  | replayed _ _ htrace => rw [htrace]; rfl
  | decided _ _ _ htrace => rw [htrace]; rfl
  | exhausted _ hr => rw [hr]; rfl

variable {s : TypeSystem κ η} {v : Value ω} {id : TypeId} {failure : ResolutionFailure}

theorem resolveTraced_of_unregistered (hnone : s.types.get? id = none) :
    (resolveTraced h v id s).1 =
      ⟨.error (.unknownType id.text v.producer), { producer := v.producer, target := id }⟩ := by
  simp only [resolveTraced, hnone]

/-- In a well-formed registry, a trace names the producer of the value that was presented. -/
theorem resolveTraced_producer (hw : s.types.WellFormed) :
    (resolveTraced h v id s).1.trace.producer = v.producer := by
  cases ht : s.types.get? id with
  | none => rw [resolveTraced_of_unregistered ht]
  | some t =>
    obtain rfl := hw.id_of_get? ht
    rw [resolveTraced_fst ht]
    exact (resolveAt_course 0 (hw.sequenceElement_isSome ht).symm).producer

/-- A call that fails ends with its record, if resolutions are recorded. -/
theorem resolveTraced_snd_of_failed (hs : s.Reachable)
    (hrecords : s.engine.config.recordLedger = true)
    (hfails : (resolveTraced h v id s).1.result = .error failure) :
    let trace := (resolveTraced h v id s).1.trace
    (resolveTraced h v id s).2 = (resolvedIn h v id s).record (.resolution {
      producer := v.producer.name
      target := s.types.nameOf id
      strategy := trace.strategy
      cacheHit := trace.cacheHit
      attempted := trace.attempted
      outcome := .failed failure.message }) := by
  intro trace
  have hproducer : trace.producer = v.producer := resolveTraced_producer hs.wellFormed
  have hother : (resolveTraced h v id s).1.isIdentity = false := by
    simp [Resolution.isIdentity, Resolution.succeeded, hfails]
  rw [resolveTraced_snd, observe, hother, hrecords, hs.audited, Resolution.toRecord,
    Resolution.outcome, hfails, ← hproducer]
  rfl

/-- **A call that fails is recorded, unless its name is unknown.** In a reachable system that records
resolutions, let the resolution of a value to a name fail. If a type has that name, then the call has
added one record to what foreign code made of the ledger by then, and that is the ledger from before
the call if foreign code leaves it alone. The record has the value's producer, the name, and the
message of the failure. If no type has that name, then the failure is that the type is unknown, and
nothing has changed, so there is no record; but whoever asks for an id that is not registered finds
that failure in the ledger. -/
theorem failed_resolution_recorded (h : Host ω κ η) (hs : s.Reachable)
    (hrecords : s.engine.config.recordLedger = true) (v : Value ω) (name : String)
    (hfails : (TypeSystem.resolve h v name s).1 = .error (.resolution failure)) :
    let s' := (TypeSystem.resolve h v name s).2
    (∀ t, s.types.find? name = some t →
      ∃ (before : EventLedger) (record : ResolutionRecord),
        ReflTransGen (Relation.Map (CallRuns h v t.id s) TypeSystem.ledger TypeSystem.ledger)
          s.ledger before ∧
        ((∀ s₁ s₂, CallRuns h v t.id s s₁ s₂ → s₂.ledger = s₁.ledger) → before = s.ledger) ∧
        s'.ledger = before.append (.resolution record) ∧
        record.producer = v.producer.name ∧ record.target = name ∧
        record.outcome = .failed failure.message) ∧
    (s.types.find? name = none → failure = .unknownType name v.producer ∧ s' = s) ∧
    ∀ id, s.types.get? id = none →
      (resolveTraced h v id s).1.result = .error (.unknownType id.text v.producer) ∧
      (resolveTraced h v id s).2 = s.record (.resolution {
        producer := v.producer.name
        target := id.text
        strategy := none
        cacheHit := false
        attempted := []
        outcome := .failed (ResolutionFailure.unknownType id.text v.producer).message }) := by
  intro s'
  have hs' := TypeSystem.resolve_snd (h := h) v name s
  refine ⟨fun t ht => ?_, fun hnone => ?_, fun id hnone => ?_⟩
  -- By a known name the call is the one by the id, which records.
  · obtain ⟨hmem, rfl⟩ := hs.wellFormed.find?_eq_some_iff.1 ht
    rw [TypeSystem.resolve_fst ht] at hfails
    have hresult : (resolveTraced h v t.id s).1.result = .error failure := by
      cases hr : (resolveTraced h v t.id s).1.result with
      | ok c => rw [hr] at hfails; cases hfails
      | error e => rw [hr] at hfails; cases hfails; rfl
    simp only [ht, resolveTraced_snd_of_failed hs hrecords hresult] at hs'
    exact ⟨(resolvedIn h v t.id s).ledger, _,
      resolvedIn_changed_by_foreign (fun _ _ => rfl) v t.id s,
      resolvedIn_unchanged (fun _ _ => rfl) v t.id s, congrArg TypeSystem.ledger hs', rfl,
      by simp only [TypeRegistry.nameOf, hs.wellFormed.get?_id hmem], rfl⟩
  -- An unknown name does not come as far as the engine.
  · simp only [hnone] at hs'
    simp only [TypeSystem.resolve, hnone] at hfails
    cases hfails
    exact ⟨rfl, hs'⟩
  -- An unknown id does, and is recorded there.
  · have hresolution := resolveTraced_of_unregistered (h := h) (v := v) hnone
    have hresult := congrArg Resolution.result hresolution
    have hrecord := resolveTraced_snd_of_failed hs hrecords hresult
    refine ⟨hresult, ?_⟩
    simpa only [hresolution, resolvedIn, hnone, TypeRegistry.nameOf] using hrecord

/-- An integer in a sequence, which nothing converts, makes the sequence fail. The record is the one of
the sequence, with the failure of the integer. -/
theorem failed_resolution_recorded_nested :
    let s : TypeSystem Literal Unit := run literalHost (.new {} ())
      [.registerType ⟨"Target", none, .ofClauses [.sequence "Target"]⟩]
    let v : Value FixtureObject := .sequence [.scalar (.int 5)]
    let failure := ResolutionFailure.noConversionFound "Target" .int [.registry, .sequence]
    s.Reachable ∧ s.engine.config.recordLedger = true ∧
    (TypeSystem.resolve literalHost v "Target" s).1 = .error (.resolution failure) ∧
    ∃ record, (TypeSystem.resolve literalHost v "Target" s).2.ledger =
        s.ledger.append (.resolution record) ∧
      record.producer = "builtin.sequence" ∧ record.target = "Target" ∧
      record.outcome = .failed failure.message := by
  intro s v failure
  have hs : s.Reachable := reachable_run (Host.pure_lawful _ _) {} () _
  have hfails : (TypeSystem.resolve literalHost v "Target" s).1 =
      .error (.resolution failure) := rfl
  obtain ⟨hregistered, -, -⟩ := failed_resolution_recorded literalHost hs rfl v "Target" hfails
  obtain ⟨before, record, -, hkept, hledger, hrecord⟩ := hregistered _ rfl
  obtain rfl := hkept fun s₁ s₂ hruns =>
    congrArg TypeSystem.ledger (hruns.eq_of_pure (Host.pure_pure _ _))
  exact ⟨hs, rfl, hfails, record, hledger, hrecord⟩

/-- **An unknown name leaves no record.** A new system is asked to resolve an integer to a type that
it does not have. By name nothing is recorded; by id the same failure is. -/
theorem unknown_name_unrecorded :
    let s : TypeSystem Literal Unit := .new {} ()
    let v : Value FixtureObject := .scalar (.int 5)
    let byName := TypeSystem.resolve literalHost v "Missing" s
    let byId := resolveTraced literalHost v ⟨0⟩ s
    s.Reachable ∧ s.engine.config.recordLedger = true ∧
    byName.1 = .error (.resolution (.unknownType "Missing" .int)) ∧
    byName.2.ledger.records = [] ∧
    byId.1.result = .error (.unknownType "canonical#0" .int) ∧
    byId.2.ledger.records = [.resolution ⟨"builtin.int", "canonical#0", none, false, [],
      .failed "cannot resolve `builtin.int`: unknown canonical type `canonical#0`"⟩] := by
  intro s v byName byId
  exact ⟨⟨{}, (), .refl s⟩, rfl, rfl, rfl, rfl, rfl⟩

end CanonicalTypes
