import CanonicalTypes.Proofs.System.Builtins
import CanonicalTypes.Proofs.System.Independence
import CanonicalTypes.Suite.Defaults
import CanonicalTypes.Suite.Run

/-!
# Conformance suites do not depend on what ran before

The cases of a suite share one system. A case adds to its ledger and its cache, and to nothing else,
so the system stays `Interchangeable` with the fresh one, and a report tells nothing that a replay
changes (`mismatch?_forgetReplay`). The report of each case is then the one that the case alone has
on a fresh system (`evaluateResolutions_isolated`). This makes suites independent of the order, of
repetitions and of what was run before (`suite_reports_isolated`).
-/
namespace CanonicalTypes

variable {κ η : Type} {h : Host FixtureObject κ η} {s₀ s : TypeSystem κ η}

/-! ## One case -/

/-- A report depends on what a resolution comes to, but not on whether it is replayed. -/
theorem mismatch?_forgetReplay {r r' : Resolution FixtureObject}
    (hr : r.forgetReplay = r'.forgetReplay) (expect : ExpectedOutcome) :
    mismatch? expect r = mismatch? expect r' := by
  have hforget : ∀ r : Resolution FixtureObject,
      mismatch? expect r.forgetReplay = mismatch? expect r := fun _ => rfl
  rw [← hforget r, hr, hforget r']

/-- A system that differs from the fresh one by what was resolved in it. Any fixtures may have
been. -/
def RanSuites (h : Host FixtureObject κ η) (s₀ s : TypeSystem κ η) : Prop :=
  Interchangeable h (fun _ => True) s₀ s

/-- A case has the same report as on the fresh system, and leaves a system that again differs from
the fresh one by what was resolved. -/
theorem evaluateResolution_isolated (hp : h.Pure) (hw : s₀.types.WellFormed)
    (hs : RanSuites h s₀ s) (c : ResolutionCase) :
    (evaluateResolution h id s c).1 = (evaluateResolution h id s₀ c).1 ∧
      RanSuites h s₀ (evaluateResolution h id s c).2 := by
  have uniform := fixtures_uniform s₀.types fun _ => True
  have hlookup : s.lookup c.target = s₀.lookup c.target := by
    simp only [TypeSystem.lookup, hs.types]
  simp only [evaluateResolution, hlookup]
  cases s₀.lookup c.target with
  | error e => exact ⟨rfl, hs⟩
  | ok target =>
    have hr := resolveTraced_independent (fun _ _ _ => trivial) hp hw uniform
      (v := c.value.toValue id) trivial target.id hs
    refine ⟨?_, hs.resolveTraced (fun _ _ _ => trivial) hp hw uniform trivial target.id⟩
    simp only
    rw [mismatch?_forgetReplay hr.symm c.expect]

/-! ## Suites -/

/-- The reports of some cases are those of the single cases on the fresh system. -/
theorem evaluateResolutions_isolated (hp : h.Pure) (hw : s₀.types.WellFormed)
    (hs : RanSuites h s₀ s) (cases : List ResolutionCase) :
    (evaluateResolutions h id s cases).1 =
        cases.map (fun c => (evaluateResolution h id s₀ c).1) ∧
      RanSuites h s₀ (evaluateResolutions h id s cases).2 := by
  induction cases generalizing s with
  | nil => exact ⟨rfl, hs⟩
  | cons c rest ih =>
    obtain ⟨hreport, hs'⟩ := evaluateResolution_isolated hp hw hs c
    obtain ⟨hreports, hs''⟩ := ih hs'
    refine ⟨?_, hs''⟩
    simp only [evaluateResolutions, List.map_cons, hreport, hreports]

def afterSuites (h : Host FixtureObject κ η) (s : TypeSystem κ η)
    (suites : List (List ResolutionCase)) : TypeSystem κ η :=
  suites.foldl (fun s cases => (runResolutionSuite h id s cases).2) s

theorem afterSuites_ranSuites (hp : h.Pure) (hw : s₀.types.WellFormed) (hs : RanSuites h s₀ s)
    (suites : List (List ResolutionCase)) : RanSuites h s₀ (afterSuites h s suites) := by
  induction suites generalizing s with
  | nil => exact hs
  | cons cases rest ih => exact ih (evaluateResolutions_isolated hp hw hs cases).2

/-- Every case of a report passed or is among its failures. -/
theorem ConformanceReport.passed_add_failures (suite : String) (cases : List CaseReport) :
    (ofCases suite cases).passed + (ofCases suite cases).failures.length =
      (ofCases suite cases).total := by
  have hsplit := List.length_eq_countP_add_countP CaseReport.passed (l := cases)
  simp only [Bool.not_eq_true, Bool.decide_eq_false] at hsplit
  simp only [ofCases, failures, ← List.countP_eq_length_filter, hsplit]

/-- Nothing has been run on the system with the built-in types. -/
theorem ranSuites_installed (h : Host FixtureObject κ η) (config : EngineConfig) (host : η) :
    RanSuites h (TypeSystem.installed config host) (TypeSystem.installed config host) := by
  have hj : (TypeSystem.installed config host : TypeSystem κ η).CacheJustified
      fun _ : Value FixtureObject => True := by
    unfold TypeSystem.CacheJustified
    rw [TypeSystem.installed_engine]
    exact ResolutionCache.valid_empty _
  exact ⟨rfl, .refl _ _, rfl, hj, hj⟩

/-- **Each case of a suite has the report that it has alone on a fresh system**, whatever suites the
system has run. So a permutation, a repetition or a split of the cases does nothing but permute,
repeat or split the reports; and what has not passed is among the failures. -/
theorem suite_reports_isolated (convert : κ → Value FixtureObject →
    Except ConverterError (Payload FixtureObject)) (host : η) :
    let h : Host FixtureObject κ η := .pure convert FixtureObject.canonicalize
    ∃ s₀ : TypeSystem κ η, harnessSystem host = .ok s₀ ∧
      ∀ (suites : List (List ResolutionCase)) (cases : List ResolutionCase),
        let s := afterSuites h s₀ suites
        let report := (runResolutionSuite h id s cases).1
        let after := (runResolutionSuite h id s cases).2
        report.cases = cases.map (fun c => (evaluateResolution h id s₀ c).1) ∧
        (∀ cases', cases.Perm cases' →
          report.cases.Perm (runResolutionSuite h id s cases').1.cases) ∧
        (∀ n, (runResolutionSuite h id s (List.replicate n cases).flatten).1.cases =
          (List.replicate n report.cases).flatten) ∧
        (∀ cases', (runResolutionSuite h id s (cases ++ cases')).1.cases =
          report.cases ++ (runResolutionSuite h id after cases').1.cases) ∧
        report.total = cases.length ∧ report.passed + report.failures.length = report.total := by
  intro h
  let s₀ : TypeSystem κ η := TypeSystem.installed {} host
  have hp : h.Pure := Host.pure_pure convert FixtureObject.canonicalize
  have hw : s₀.types.WellFormed :=
    ((TypeSystem.installed_evolves {} host).types TypeRegistry.wellFormed_empty).1
  -- On a system that ran suites, every suite has the reports of the single cases.
  have hcases : ∀ {s : TypeSystem κ η}, RanSuites h s₀ s → ∀ cases,
      (runResolutionSuite h id s cases).1.cases =
        cases.map fun c => (evaluateResolution h id s₀ c).1 :=
    fun hs cases => (evaluateResolutions_isolated hp hw hs cases).1
  refine ⟨s₀, TypeSystem.withBuiltins_eq {} host, fun suites cases => ?_⟩
  have hs : RanSuites h s₀ (afterSuites h s₀ suites) :=
    afterSuites_ranSuites hp hw (ranSuites_installed h {} host) suites
  have hafter : RanSuites h s₀ (runResolutionSuite h id (afterSuites h s₀ suites) cases).2 :=
    (evaluateResolutions_isolated hp hw hs cases).2
  refine ⟨hcases hs cases, fun cases' hperm => ?_, fun n => ?_, fun cases' => ?_, ?_,
    ConformanceReport.passed_add_failures _ _⟩
  · rw [hcases hs, hcases hs]
    exact hperm.map _
  · rw [hcases hs, hcases hs, List.map_flatten, List.map_replicate]
  · rw [hcases hs, hcases hs, hcases hafter, List.map_append]
  · have hlength := congrArg List.length (hcases hs cases)
    rwa [List.length_map] at hlength

theorem suite_reports_isolated_reversed :
    let h : Host FixtureObject Empty Unit := .pure (fun tag _ => nomatch tag)
      FixtureObject.canonicalize
    ∃ s₀ : TypeSystem Empty Unit, harnessSystem () = .ok s₀ ∧
      let s := afterSuites h s₀ [defaultResolutionCases]
      defaultResolutionCases.reverse.Perm defaultResolutionCases ∧
      (runResolutionSuite h id s defaultResolutionCases.reverse).1.cases.Perm
        (runResolutionSuite h id s defaultResolutionCases).1.cases := by
  obtain ⟨s₀, hs₀, hisolated⟩ := suite_reports_isolated (κ := Empty) (fun tag _ => nomatch tag) ()
  have hreverse := List.reverse_perm defaultResolutionCases
  exact ⟨s₀, hs₀, hreverse, (hisolated [defaultResolutionCases] _).2.1 _ hreverse⟩

end CanonicalTypes
