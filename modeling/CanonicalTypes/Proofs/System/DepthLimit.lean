import CanonicalTypes.Proofs.System.Effects

/-!
# The limit on nested sequences

Two systems that differ in the limit alone are resolved in side by side, as long as no sequence
stands too deep for the lesser limit: the stages do not read the limit, and whether a sequence is
opened is the only thing that depends on it. The first sequence that stands too deep fails with the
lesser limit, and the whole resolution with it (`Task.resolve_underLimit`). So a greater limit never
changes a result, it only adds some.

Foreign code is given the whole system, the limit included, and can resolve nested sequences itself.
What is said here is about foreign code that does not let the limit make a difference (`Blind`).

The main result is `depth_limit_only_removes`.
-/
namespace CanonicalTypes

variable {ω κ η : Type} [ForeignObject ω] {h : Host ω κ η} {config : EngineConfig}
  {s s₁ s₂ : TypeSystem κ η} {k place : Task ω κ η} {path : List Nat} {limit : Nat}

/-! ## Levels of sequences -/

namespace Value

mutual

/-- The number of sequences that are nested in a value, the value included. -/
def levels : Value ω → Nat
  | .sequence items => itemLevels items + 1
  | _ => 0

def itemLevels : List (Value ω) → Nat
  | [] => 0
  | v :: rest => max (levels v) (itemLevels rest)

end

omit [ForeignObject ω]

theorem levels_le_of_mem {v : Value ω} {items : List (Value ω)} (hv : v ∈ items) :
    v.levels ≤ itemLevels items := by
  induction items with
  | nil => cases hv
  | cons w rest ih =>
    rw [itemLevels]
    rcases List.mem_cons.1 hv with rfl | hv
    · exact Nat.le_max_left _ _
    · exact Nat.le_trans (ih hv) (Nat.le_max_right _ _)

/-- What stands at a path has as many levels less as the path is long. -/
theorem length_add_levels_le {v w : Value ω} {path : List Nat} (hat : v.at? path = some w) :
    path.length + w.levels ≤ v.levels := by
  induction path generalizing v with
  | nil =>
    cases hat
    simp
  | cons i path ih =>
    cases v with
    | sequence items =>
      simp only [at?] at hat
      split at hat
      next item hitem =>
        have hinner := ih hat
        have hle := levels_le_of_mem (List.mem_of_getElem? hitem)
        rw [levels, List.length_cons]
        omega
      · cases hat
    | _ => cases hat

end Value

/-! ## Another limit -/

def EngineConfig.withDepthLimit (config : EngineConfig) (limit : Nat) : EngineConfig :=
  { config with maxSequenceDepth := limit }

def TypeSystem.withDepthLimit (s : TypeSystem κ η) (limit : Nat) : TypeSystem κ η :=
  { s with engine := { s.engine with config := s.engine.config.withDepthLimit limit } }

/-- The same answer, in the system with another limit. -/
def underLimit {α : Type} (limit : Nat) (p : α × TypeSystem κ η) : α × TypeSystem κ η :=
  (p.1, p.2.withDepthLimit limit)

section

omit [ForeignObject ω]

theorem lookInCache_underLimit (producer : ProducerType) (target : TypeId) :
    lookInCache (config.withDepthLimit limit) producer target (s.withDepthLimit limit) =
      underLimit limit (lookInCache config producer target s) := by
  unfold lookInCache EngineConfig.withDepthLimit
  cases config.cacheEnabled <;> rfl

theorem remember_underLimit (r : Resolution ω) (target : TypeId) (strategy : CachedStrategy κ)
    (generation : Nat) :
    remember (config.withDepthLimit limit) r target strategy generation (s.withDepthLimit limit) =
      (remember config r target strategy generation s).withDepthLimit limit := by
  unfold remember EngineConfig.withDepthLimit
  cases config.cacheEnabled <;> cases r.succeeded <;> rfl

theorem observe_underLimit (name : String) (r : Resolution ω) (engine : Engine κ) :
    observe { engine with config := engine.config.withDepthLimit limit } name r
        (s.withDepthLimit limit) =
      (observe engine name r s).withDepthLimit limit := by
  unfold observe EngineConfig.withDepthLimit
  cases r.isIdentity <;> cases engine.config.recordLedger <;> cases engine.audited <;> rfl

end

/-! ## Foreign code that does not tell limits apart -/

/-- The foreign code that is run in the course of a task answers alike with another limit, and leaves
systems that differ in the limit alone. -/
structure Blind (h : Host ω κ η) (config : EngineConfig) (limit : Nat) (k : Task ω κ η) : Prop where
  converter : ∀ c, Invokes h config k.depth k.value k.target k.system c →
    h.run c.entry.action c.value (c.system.withDepthLimit limit) =
      underLimit limit (h.run c.entry.action c.value c.system)
  protocol : ∀ c, Canonicalizes h config k.depth k.value k.target k.system c →
    h.canonicalize c.object c.entryPoint (c.system.withDepthLimit limit) =
      underLimit limit (h.canonicalize c.object c.entryPoint c.system)

theorem Blind.of_reaches (hb : Blind h config limit k) (hr : Reaches h config k path place) :
    Blind h config limit place where
  converter c hc := hb.converter c (hr.invokes hc)
  protocol c hc := hb.protocol c (hr.canonicalizes hc)

/-- Code that only computes an answer is blind. -/
theorem Host.Pure.blind (hp : h.Pure) (k : Task ω κ η) : Blind h config limit k where
  converter c _ := by
    refine Prod.ext (hp.run_fst ..) ?_
    simp only [underLimit, hp.run_snd]
  protocol c _ := by
    refine Prod.ext (hp.canonicalize_fst ..) ?_
    simp only [underLimit, hp.canonicalize_snd]

/-! ## Side by side -/

section

variable {v : Value ω} {target : CanonicalType} {trace : Trace}

theorem applyConverter_underLimit {entry : ConverterEntry κ}
    (hrun : h.run entry.action v (s.withDepthLimit limit) =
      underLimit limit (h.run entry.action v s)) :
    applyConverter h entry v target trace (s.withDepthLimit limit) =
      underLimit limit (applyConverter h entry v target trace s) := by
  simp only [applyConverter, hrun, underLimit]

theorem applyProtocol_underLimit {o : ω} {entryPoint : String}
    (hrun : h.canonicalize o entryPoint (s.withDepthLimit limit) =
      underLimit limit (h.canonicalize o entryPoint s)) :
    applyProtocol h o entryPoint target trace (s.withDepthLimit limit) =
      underLimit limit (applyProtocol h o entryPoint target trace s) := by
  simp only [applyProtocol, hrun, underLimit]

theorem replay_underLimit {depth : Nat} {hit : Option (CachedStrategy κ)}
    (hb : Blind h config limit ⟨depth, v, target, s⟩)
    (hid : identity? s.types target.id v = none)
    (hlook : lookInCache config v.producer target.id s = (hit, s₁)) :
    replay h hit v target trace (s₁.withDepthLimit limit) =
      (replay h hit v target trace s₁).map (underLimit limit) := by
  rcases hit with _ | entry | _
  · rfl
  · have hrun := hb.converter ⟨entry, v, target, s₁⟩ (.replayed hid hlook)
    simp only [replay, applyConverter_underLimit hrun, Option.map_some]
  · simp only [replay]
    split
    next o entryPoint hobject hentry =>
      have hrun := hb.protocol ⟨o, entryPoint, s₁⟩ (.replayed hid hlook hobject hentry)
      simp only [applyProtocol_underLimit hrun, Option.map_some]
    · rfl

/-- A direct stage does not read the limit. -/
theorem resolveDirectly_underLimit {depth : Nat}
    (hb : Blind h config limit ⟨depth, v, target, s⟩) :
    resolveDirectly h (config.withDepthLimit limit) v target (s.withDepthLimit limit) =
      underLimit limit (resolveDirectly h config v target s) := by
  have htypes : (s.withDepthLimit limit).types = s.types := rfl
  unfold resolveDirectly
  rw [htypes, lookInCache_underLimit]
  cases hid : identity? s.types target.id v with
  | some c => rfl
  | none =>
    generalize hlook : lookInCache config v.producer target.id s = looked
    obtain ⟨hit, s₁⟩ := looked
    simp only [underLimit, replay_underLimit hb hid hlook]
    cases hreplay : replay h hit v target (Trace.start v target) s₁ with
    | some r => rfl
    | none =>
      have hconverters : (s₁.withDepthLimit limit).converters = s₁.converters := rfl
      simp only [Option.map_none, resolveByLookup, ConverterRegistry.lookupWithGeneration,
        hconverters]
      cases hfound : s₁.converters.lookup v.producer v.supertypes target.id with
      | some entry =>
        have hrun := hb.converter ⟨entry, v, target, s₁⟩ (.found hid hlook hreplay hfound)
        simp only [applyConverter_underLimit hrun, underLimit, remember_underLimit]
      | none =>
        simp only [resolveByProtocol]
        cases hentry : target.descriptor.entryPoint with
        | none => rfl
        | some entryPoint =>
          cases hobject : v.object? with
          | none => rfl
          | some o =>
            simp only
            split
            next hconforms =>
              have hrun := hb.protocol ⟨o, entryPoint, s₁⟩
                (.found hid hlook hreplay hfound hobject hentry hconforms)
              simp only [applyProtocol_underLimit hrun, underLimit, remember_underLimit]
            · rfl

/-! ## Sequences that stand too deep -/

/-- A sequence stands too deep to be looked into, and fails for that. -/
structure ExceedsLimit (h : Host ω κ η) (config : EngineConfig) (place : Task ω κ η) : Prop where
  depth : config.maxSequenceDepth ≤ place.depth
  sequence : ∃ items, place.value = .sequence items
  fails : ∃ attempted, (place.resolve h config).1.result =
    .error (.noConversionFound place.target.name .sequence attempted)

/-- The elements of a sequence resolve alike, or among them is a sequence that stands too deep. -/
theorem resolveItems_underLimit {depth : Nat} {items done rest : List (Value ω)}
    {elementType : CanonicalType} {slices : List Tensor}
    (hb : Blind h config limit ⟨depth, .sequence items, target, s⟩)
    (hopens : OpensSequence h config depth items target s elementType s₁)
    (hitems : items = done ++ rest)
    (hdone : BecomeTensors h config (depth + 1) elementType done s₁ slices s₂)
    (hsame : ∀ v ∈ rest, ∀ s₀, Blind h config limit ⟨depth + 1, v, elementType, s₀⟩ →
      resolveAt h (config.withDepthLimit limit) (depth + 1) v elementType (s₀.withDepthLimit limit) =
          underLimit limit (resolveAt h config (depth + 1) v elementType s₀) ∨
        ∃ path place, Reaches h config ⟨depth + 1, v, elementType, s₀⟩ path place ∧
          ExceedsLimit h config place) (index : Nat) :
    resolveItems h (config.withDepthLimit limit) (depth + 1) target elementType index rest
        (s₂.withDepthLimit limit) =
        underLimit limit (resolveItems h config (depth + 1) target elementType index rest s₂) ∨
      ∃ path place, Reaches h config ⟨depth, .sequence items, target, s⟩ path place ∧
        ExceedsLimit h config place := by
  -- On the elements that are left: those before them became tensors, so the next one is reached.
  induction rest generalizing done slices s₂ index with
  | nil =>
    left
    rw [resolveItems.eq_def, resolveItems.eq_def h config]
    rfl
  | cons v rest ih =>
    obtain ⟨hfirst, hothers⟩ := List.forall_mem_cons.1 hsame
    have hv : Blind h config limit ⟨depth + 1, v, elementType, s₂⟩ :=
      hb.of_reaches (.element hopens hitems hdone .here)
    rcases hfirst s₂ hv with halike | ⟨path, place, hr, hexceeds⟩
    · rw [resolveItems.eq_def, resolveItems.eq_def h config]
      simp only [halike, underLimit]
      generalize hp : resolveAt h config (depth + 1) v elementType s₂ = p
      obtain ⟨⟨failure | ⟨id, t | o⟩, trace⟩, s₃⟩ := p
      · exact .inl rfl
      · have hnext : BecomeTensors h config (depth + 1) elementType (done ++ [v]) s₁
            (slices ++ [t]) s₃ := hdone.append (.cons hp .nil)
        refine (ih (by simpa using hitems) hnext hothers (index + 1)).imp_left ?_
        intro hrest
        simp only [hrest, underLimit]
        generalize resolveItems h config (depth + 1) target elementType (index + 1) rest s₃ = q
        obtain ⟨failure | slices', s₄⟩ := q <;> rfl
      · exact .inl rfl
    · exact .inr ⟨_, place, .element hopens hitems hdone hr, hexceeds⟩

/-- **With a greater limit a task resolves alike**, to the same result and trace, and leaves the same
system but for the limit; or with the lesser one it comes to a sequence that stands too deep. -/
theorem Task.resolve_underLimit (hle : config.maxSequenceDepth ≤ limit) (k : Task ω κ η)
    (hb : Blind h config limit k) :
    resolveAt h (config.withDepthLimit limit) k.depth k.value k.target
        (k.system.withDepthLimit limit) = underLimit limit (k.resolve h config) ∨
      ∃ path place, Reaches h config k path place ∧ ExceedsLimit h config place := by
  obtain ⟨depth, v, target, s⟩ := k
  induction v using Value.induction generalizing depth target s with
  | step v ih =>
  simp only [Task.resolve]
  rw [resolveAt.eq_def, resolveAt.eq_def h config, resolveDirectly_underLimit hb]
  generalize hdirect : resolveDirectly h config v target s = p
  obtain ⟨r | trace, s₁⟩ := p
  · exact .inl rfl
  simp only [underLimit]
  cases helement : target.sequenceElement with
  | none => exact .inl rfl
  | some id =>
    cases v with
    | scalar => exact .inl rfl
    | canonical => exact .inl rfl
    | object o =>
      simp only
      cases ForeignObject.denseView o <;> exact .inl rfl
    | sequence items =>
      have htypes : (s₁.withDepthLimit limit).types = s₁.types := rfl
      have hlimit : (config.withDepthLimit limit).maxSequenceDepth = limit := rfl
      simp only [htypes, hlimit]
      -- The limit is read only here. What is within the lesser one is within both.
      by_cases hdepth : depth < config.maxSequenceDepth
      · rw [if_pos hdepth, if_pos (Nat.lt_of_lt_of_le hdepth hle)]
        cases items with
        | nil => exact .inl rfl
        | cons w rest =>
          simp only [List.isEmpty_cons, Bool.false_eq_true, if_false]
          cases htype : s₁.types.get? id with
          | none => exact .inl rfl
          | some elementType =>
            have hopens : OpensSequence h config depth (w :: rest) target s elementType s₁ :=
              ⟨⟨trace, hdirect⟩, hdepth, id, helement, htype⟩
            refine (resolveItems_underLimit hb hopens rfl .nil
              (fun u hu s₀ hbu => ih _ rfl u hu (depth + 1) elementType s₀ hbu) 0).imp_left ?_
            intro hitems
            simp only [hitems, underLimit]
            generalize resolveItems h config (depth + 1) target elementType 0 (w :: rest) s₁ = q
            obtain ⟨failure | slices, s₂⟩ := q <;> rfl
      · right
        -- This sequence is the one that stands too deep.
        refine ⟨[], _, .here, Nat.not_lt.1 hdepth, ⟨items, rfl⟩,
          (trace.attempt .sequence).attempted, ?_⟩
        have hproducer := producer_of_undecided hdirect
        simp only [Task.resolve]
        rw [resolveAt.eq_def]
        simp only [hdirect, helement, if_neg hdepth, notFound]
        rw [show (trace.attempt .sequence).producer = _ from hproducer]
        rfl

end

/-! ## A call -/

/-- The path to a place tells how deep it stands. -/
theorem Reaches.depth_eq (hr : Reaches h config k path place) :
    place.depth = k.depth + path.length := by
  induction hr with
  | here => rfl
  | element _ _ _ _ ih =>
    rw [ih, List.length_cons]
    simp only
    omega

/-- Nothing is reached beyond the limit. -/
theorem Reaches.depth_le (hk : k.depth ≤ config.maxSequenceDepth)
    (hr : Reaches h config k path place) : place.depth ≤ config.maxSequenceDepth := by
  induction hr with
  | here => exact hk
  | element hopens _ _ _ ih => exact ih hopens.depth_lt

/-- The foreign code that is run in the course of a call does not let the limit make a difference. -/
def BlindCall (h : Host ω κ η) (v : Value ω) (id : TypeId) (s : TypeSystem κ η) (limit : Nat) :
    Prop :=
  ∀ t, s.types.get? id = some t → Blind h s.engine.config limit ⟨0, v, t, s⟩

theorem resolveTraced_underLimit {v : Value ω} {id : TypeId}
    (hle : s.engine.config.maxSequenceDepth ≤ limit) (hblind : BlindCall h v id s limit) :
    resolveTraced h v id (s.withDepthLimit limit) = underLimit limit (resolveTraced h v id s) ∨
      ∃ t path place, s.types.get? id = some t ∧
        Reaches h s.engine.config ⟨0, v, t, s⟩ path place ∧
        ExceedsLimit h s.engine.config place := by
  have htypes : (s.withDepthLimit limit).types = s.types := rfl
  have hobserved : ∀ (name : String) (r : Resolution ω) (s₁ : TypeSystem κ η),
      observe (s.withDepthLimit limit).engine name r (s₁.withDepthLimit limit) =
        (observe s.engine name r s₁).withDepthLimit limit :=
    fun name r s₁ => observe_underLimit name r s.engine
  unfold resolveTraced
  rw [htypes]
  cases ht : s.types.get? id with
  | none =>
    left
    simp only [hobserved, underLimit]
  | some t =>
    rcases Task.resolve_underLimit hle ⟨0, v, t, s⟩ (hblind t ht) with halike | hexceeds
    · left
      have hconfig : (s.withDepthLimit limit).engine.config =
          s.engine.config.withDepthLimit limit := rfl
      simp only [hconfig, halike, underLimit, hobserved, Task.resolve]
    · obtain ⟨path, place, hr, hexceeds⟩ := hexceeds
      exact .inr ⟨t, path, place, rfl, hr, hexceeds⟩

/-- **A limit on nested sequences only removes results.** Of two systems that differ in the limit
alone, let foreign code that is run under the lesser limit not let it make a difference. Then calls
for one value in both systems come to the same result and trace, and leave the same system but for
the limit: the same cache and the same ledger. Or the one under the lesser limit `m` fails, and the
failure, that no conversion was found for a sequence, is that of a sequence which stands inside `m`
others. A value of at most `m` levels resolves alike. What objects say about themselves, dense views
included, is fixed (`ForeignObject`) and does not depend on the limit. -/
theorem depth_limit_only_removes (h : Host ω κ η) (s : TypeSystem κ η) (v : Value ω) (id : TypeId)
    {m m' : Nat} (hle : m ≤ m') (hblind : BlindCall h v id (s.withDepthLimit m) m') :
    let low := s.withDepthLimit m
    let p := resolveTraced h v id low
    let p' := resolveTraced h v id (s.withDepthLimit m')
    let alike := p'.1 = p.1 ∧ p'.2 = p.2.withDepthLimit m'
    (alike ∨ ∃ t path place items attempted, low.types.get? id = some t ∧
      Reaches h low.engine.config ⟨0, v, t, low⟩ path place ∧ v.at? path = some place.value ∧
      path.length = m ∧ place.value = .sequence items ∧
      (place.resolve h low.engine.config).1.result =
        .error (.noConversionFound place.target.name .sequence attempted) ∧
      p.1.result = .error (.noConversionFound place.target.name .sequence attempted)) ∧
    (v.levels ≤ m → alike) := by
  intro low p p' alike
  rcases resolveTraced_underLimit (s := low) hle hblind with halike | hexceeds
  · have hsame : p' = underLimit m' p := halike
    have hboth : p'.1 = p.1 ∧ p'.2 = p.2.withDepthLimit m' := by
      rw [hsame]
      exact ⟨rfl, rfl⟩
    exact ⟨.inl hboth, fun _ => hboth⟩
  · obtain ⟨t, path, place, ht, hr, hdepth, ⟨items, hvalue⟩, attempted, hfails⟩ := hexceeds
    have hlength : path.length = m := by
      have hstands := hr.depth_eq
      have hwithin := hr.depth_le (Nat.zero_le _)
      simp only [Nat.zero_add] at hstands
      have hlimit : low.engine.config.maxSequenceDepth = m := rfl
      omega
    have hwhole : p.1.result =
        .error (.noConversionFound place.target.name .sequence attempted) := by
      rw [show p.1 = _ from resolveTraced_fst ht]
      exact (hr.fails hfails).1
    refine ⟨.inr ⟨t, path, place, items, attempted, ht, hr, hr.at?, hlength, hvalue, hfails,
      hwhole⟩, fun hlevels => ?_⟩
    -- The sequence itself is one more level than it stands inside.
    have htotal := Value.length_add_levels_le hr.at?
    rw [hvalue, Value.levels, hlength] at htotal
    simp only at htotal
    omega

/-- Two levels are too many for a limit of one, and the inner sequence is what fails. One level is
not. -/
theorem depth_limit_only_removes_nested :
    let s := run literalHost (.new {} ()) [.installBuiltins]
    let row : Value FixtureObject := .sequence [.scalar (.int 5)]
    let rows : Value FixtureObject := .sequence [row]
    let low := s.withDepthLimit 1
    let high := s.withDepthLimit 2
    (resolveTraced literalHost rows ⟨0⟩ high).1.result =
      .ok ⟨⟨0⟩, .tensor ⟨.i64, ⟨[1, 1]⟩, [.int 5]⟩⟩ ∧
    (resolveTraced literalHost rows ⟨0⟩ low).1.result =
      .error (.noConversionFound "Tensor" .sequence [.registry, .protocol, .sequence]) ∧
    (∃ path items, rows.at? path = some (.sequence items) ∧ path.length = 1) ∧
    row.levels = 1 ∧
    (resolveTraced literalHost row ⟨0⟩ high).1 = (resolveTraced literalHost row ⟨0⟩ low).1 := by
  intro s row rows low high
  have hpure : literalHost.Pure := Host.pure_pure _ _
  have hok : (resolveTraced literalHost rows ⟨0⟩ high).1.result =
      .ok ⟨⟨0⟩, .tensor ⟨.i64, ⟨[1, 1]⟩, [.int 5]⟩⟩ := rfl
  have hfails : (resolveTraced literalHost rows ⟨0⟩ low).1.result =
      .error (.noConversionFound "Tensor" .sequence [.registry, .protocol, .sequence]) := rfl
  have hle : 1 ≤ 2 := by decide
  obtain ⟨hcases, -⟩ := depth_limit_only_removes literalHost s rows ⟨0⟩ hle
    fun _ _ => hpure.blind _
  obtain ⟨-, hrow⟩ := depth_limit_only_removes literalHost s row ⟨0⟩ hle
    fun _ _ => hpure.blind _
  refine ⟨hok, hfails, ?_, rfl, (hrow (Nat.le_refl _)).1⟩
  rcases hcases with ⟨halike, -⟩ | ⟨-, path, place, items, -, -, -, hat, hlength, hvalue, -⟩
  · rw [halike, hfails] at hok
    cases hok
  · exact ⟨path, items, hvalue ▸ hat, hlength⟩

/-- **A converter may let the limit make a difference.** The converter of integers resolves an empty
sequence first, which is recorded as resolved or as failed, depending on the limit. The integer is no
sequence at all and becomes the same tensor, but the ledgers differ. -/
theorem reentrant_converter_meets_limit :
    let h := callingFirst [.resolve (.sequence []) "Target"]
    let v : Value FixtureObject := .scalar (.int 5)
    let low := callingSystem { maxSequenceDepth := 0 }
    let high := callingSystem { maxSequenceDepth := 1 }
    let p := resolveTraced h v ⟨0⟩ low
    let p' := resolveTraced h v ⟨0⟩ high
    low.Reachable ∧ high = low.withDepthLimit 1 ∧ v.levels = 0 ∧
    p.1.result = .ok ⟨⟨0⟩, .tensor (Tensor.scalar (.int 5))⟩ ∧ p'.1.result = p.1.result ∧
    p.2.ledger.resolutions.map ResolutionRecord.strategy = [none, some .registry] ∧
    p'.2.ledger.resolutions.map ResolutionRecord.strategy = [some .sequence, some .registry] ∧
    p'.2.ledger ≠ p.2.ledger := by
  intro h v low high p p'
  have hlow : p.2.ledger.resolutions.map ResolutionRecord.strategy = [none, some .registry] := rfl
  have hhigh : p'.2.ledger.resolutions.map ResolutionRecord.strategy =
      [some .sequence, some .registry] := rfl
  refine ⟨reachable_run (callingFirst_lawful _) _ _ _, rfl, rfl, rfl, rfl, hlow, hhigh, ?_⟩
  intro heq
  rw [heq, hlow] at hhigh
  cases hhigh

end CanonicalTypes
