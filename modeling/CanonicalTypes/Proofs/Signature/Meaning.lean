import CanonicalTypes.Signature.Check
import Mathlib.Data.List.Forall2

/-!
# What signatures describe

An annotation, and likewise a runtime signature, describes a set of concrete signatures: those that
agree with each part that it pins down. A comparison site by site decides how the two sets lie to
each other. A site at which neither side is the more specific is one that no concrete signature can
satisfy on both sides, and no difference at any site means that the two say the same. The main
result is `checkSignature_verdict_iff`.
-/
namespace CanonicalTypes

/-- A signature with nothing left open. -/
structure ConcreteSignature where
  sizes : List UInt32
  kind : DType

def Dim.Allows : Dim → UInt32 → Prop
  | .known m, n => m = n
  | .unknown, _ => True

/-- Whether axes can have lengths: as many, and each the one that its axis pins down. -/
def Dim.AllowAll (dims : List Dim) (sizes : List UInt32) : Prop :=
  List.Forall₂ Dim.Allows dims sizes

/-- Whether a concrete signature is one that the runtime signature describes. -/
def TypeSignature.Matches (r : TypeSignature) (c : ConcreteSignature) : Prop :=
  Dim.AllowAll r.dims c.sizes ∧ r.kind = c.kind

def AnnotationShape.Matches (a : AnnotationShape) (c : ConcreteSignature) : Prop :=
  (∀ dims, a.dims = some dims → Dim.AllowAll dims c.sizes) ∧
    ∀ kind, a.kind = some kind → kind = c.kind

/-- Some difference leaves neither side the more specific. -/
def Contradictory (ds : List SignatureDelta) : Prop := ∃ d ∈ ds, d.specific = .neither

/-! ## One axis -/

namespace Dim

variable {d d' : Dim} {ds ds' : List Dim}

theorem exists_allows : ∀ d : Dim, ∃ n, d.Allows n
  | .known m => ⟨m, rfl⟩
  | .unknown => ⟨0, trivial⟩

/-- Axes that allow the same lengths are the same. An open axis allows more than one. -/
theorem eq_of_allows_iff (h : ∀ n, d.Allows n ↔ d'.Allows n) : d = d' := by
  cases d with
  | known m =>
    cases d' with
    | known n => rw [(h m).1 rfl]
    | unknown =>
      have hm : m = m + 1 := (h (m + 1)).2 trivial
      simp at hm
  | unknown =>
    cases d' with
    | known n =>
      have hn : n = n + 1 := (h (n + 1)).1 trivial
      simp at hn
    | unknown => rfl

theorem axisDelta?_eq_none_iff (index : Nat) : axisDelta? index d d' = none ↔ d = d' := by
  cases d <;> cases d' <;> simp [axisDelta?]

/-- Two axes contradict each other if they have no length in common. -/
theorem axisDelta?_contradictory_iff (index : Nat) :
    Contradictory (axisDelta? index d d').toList ↔ ¬ ∃ n, d.Allows n ∧ d'.Allows n := by
  cases d with
  | known m =>
    cases d' with
    | known n =>
      by_cases hmn : m = n
      · simp [axisDelta?, Contradictory, Allows, hmn]
      · simp [axisDelta?, Contradictory, Allows, hmn, eq_comm]
    | unknown => simp [axisDelta?, Contradictory, Allows]
  | unknown =>
    cases d' with
    | known n => simp [axisDelta?, Contradictory, Allows]
    | unknown => simp [axisDelta?, Contradictory, Allows]

/-! ## Lists of axes -/

@[simp] theorem allowAll_nil {sizes : List UInt32} : AllowAll [] sizes ↔ sizes = [] := by
  cases sizes <;> simp [AllowAll]

@[simp] theorem allowAll_cons_cons {n : UInt32} {sizes : List UInt32} :
    AllowAll (d :: ds) (n :: sizes) ↔ d.Allows n ∧ AllowAll ds sizes :=
  List.forall₂_cons

@[simp] theorem not_allowAll_cons_nil : ¬ AllowAll (d :: ds) [] := fun h => nomatch h

theorem AllowAll.length_eq {sizes : List UInt32} (h : AllowAll ds sizes) :
    ds.length = sizes.length :=
  List.Forall₂.length_eq h

theorem exists_allowAll : ∀ ds : List Dim, ∃ sizes, AllowAll ds sizes
  | [] => ⟨[], by simp⟩
  | d :: ds => by
    obtain ⟨n, hn⟩ := d.exists_allows
    obtain ⟨sizes, hs⟩ := exists_allowAll ds
    exact ⟨n :: sizes, by simp [hn, hs]⟩

/-- Lists of axes that allow the same lengths are the same. -/
theorem eq_of_allowAll_iff :
    ∀ {ds ds' : List Dim}, (∀ sizes, AllowAll ds sizes ↔ AllowAll ds' sizes) → ds = ds'
  | [], [], _ => rfl
  | [], _ :: _, h => absurd ((h []).1 (by simp)) (by simp)
  | _ :: _, [], h => absurd ((h []).2 (by simp)) (by simp)
  | d :: ds, d' :: ds', h => by
    -- What the heads allow shows beside any lengths that the tails allow, and the other way round.
    have hboth : ∀ n sizes, d.Allows n ∧ AllowAll ds sizes ↔ d'.Allows n ∧ AllowAll ds' sizes :=
      fun n sizes => by simpa using h (n :: sizes)
    obtain ⟨n, hn⟩ := d.exists_allows
    obtain ⟨n', hn'⟩ := d'.exists_allows
    obtain ⟨sizes, hs⟩ := exists_allowAll ds
    obtain ⟨sizes', hs'⟩ := exists_allowAll ds'
    have hhead : d = d' := eq_of_allows_iff fun k =>
      ⟨fun hk => ((hboth k sizes).1 ⟨hk, hs⟩).1, fun hk => ((hboth k sizes').2 ⟨hk, hs'⟩).1⟩
    have htail : ds = ds' := eq_of_allowAll_iff fun ks =>
      ⟨fun hk => ((hboth n ks).1 ⟨hn, hk⟩).2, fun hk => ((hboth n' ks).2 ⟨hn', hk⟩).2⟩
    rw [hhead, htail]

end Dim

open Dim (AllowAll)

@[simp] theorem contradictory_append {ds ds' : List SignatureDelta} :
    Contradictory (ds ++ ds') ↔ Contradictory ds ∨ Contradictory ds' := by
  simp only [Contradictory, List.mem_append, or_and_right, exists_or]

theorem axisDeltas_eq_nil_iff :
    ∀ (index : Nat) {ds as : List Dim}, ds.length = as.length →
      (axisDeltas index ds as = [] ↔ ds = as)
  | _, [], [], _ => by simp [axisDeltas]
  | index, d :: ds, a :: as, h => by
    have ih := axisDeltas_eq_nil_iff (index + 1) (Nat.succ.inj h)
    simp [axisDeltas, Dim.axisDelta?_eq_none_iff, ih]

/-- Equally many axes contradict each other if they have no lengths in common. -/
theorem axisDeltas_contradictory_iff :
    ∀ (index : Nat) {ds as : List Dim}, ds.length = as.length →
      (Contradictory (axisDeltas index ds as) ↔ ¬ ∃ sizes, AllowAll ds sizes ∧ AllowAll as sizes)
  | _, [], [], _ => by simp [axisDeltas, Contradictory]
  | index, d :: ds, a :: as, h => by
    have ih := axisDeltas_contradictory_iff (index + 1) (Nat.succ.inj h)
    rw [axisDeltas, contradictory_append, Dim.axisDelta?_contradictory_iff, ih, ← not_and_or,
      not_iff_not]
    constructor
    · rintro ⟨⟨n, hd, ha⟩, sizes, hds, has⟩
      exact ⟨n :: sizes, by simp [hd, hds], by simp [ha, has]⟩
    · rintro ⟨sizes, hds, has⟩
      cases sizes with
      | nil => simp at hds
      | cons n sizes =>
        simp only [Dim.allowAll_cons_cons] at hds has
        exact ⟨⟨n, hds.1, has.1⟩, sizes, hds.2, has.2⟩

/-! ## Kinds and shapes -/

theorem kindDeltas_eq_nil_iff {declared : Option DType} {actual : DType} :
    kindDeltas declared actual = [] ↔ declared = some actual := by
  cases declared <;> simp [kindDeltas]

theorem kindDeltas_contradictory_iff {declared : Option DType} {actual : DType} :
    Contradictory (kindDeltas declared actual) ↔
      ¬ ∀ kind, declared = some kind → kind = actual := by
  cases declared with
  | none => simp [kindDeltas, Contradictory]
  | some kind => by_cases h : kind = actual <;> simp [kindDeltas, Contradictory, h]

theorem shapeDeltas_eq_nil_iff {declared : Option (List Dim)} {actual : List Dim} :
    shapeDeltas declared actual = [] ↔ declared = some actual := by
  cases declared with
  | none => simp [shapeDeltas]
  | some dims =>
    by_cases h : dims.length = actual.length
    · simp [shapeDeltas, h, axisDeltas_eq_nil_iff 0 h]
    · simp only [shapeDeltas, h, if_false, Option.some.injEq, reduceCtorEq, false_iff]
      exact fun heq => h (congrArg List.length heq)

/-- Shapes contradict each other if there are no lengths that both allow, for instance because they
have different numbers of axes. -/
theorem shapeDeltas_contradictory_iff {declared : Option (List Dim)} {actual : List Dim} :
    Contradictory (shapeDeltas declared actual) ↔
      ¬ ∃ sizes, (∀ dims, declared = some dims → AllowAll dims sizes) ∧ AllowAll actual sizes := by
  cases declared with
  | none =>
    obtain ⟨sizes, hs⟩ := Dim.exists_allowAll actual
    simpa [shapeDeltas, Contradictory] using ⟨sizes, hs⟩
  | some dims =>
    by_cases h : dims.length = actual.length
    · simp [shapeDeltas, h, axisDeltas_contradictory_iff 0 h]
    · have hno : ¬ ∃ sizes, AllowAll dims sizes ∧ AllowAll actual sizes := by
        rintro ⟨sizes, hd, ha⟩
        exact h (hd.length_eq.trans ha.length_eq.symm)
      simp only [shapeDeltas, h, if_false, Option.some.injEq, forall_eq', hno, not_false_eq_true,
        iff_true]
      exact ⟨_, List.mem_singleton_self _, rfl⟩

/-! ## The verdict -/

/-- The differences that a comparison finds at all sites. -/
def siteDeltas (a : AnnotationShape) (r : TypeSignature) : List SignatureDelta :=
  kindDeltas a.kind r.kind ++ shapeDeltas a.dims r.dims

variable {a : AnnotationShape} {r : TypeSignature}

theorem checkSignature_eq_conflict_iff :
    (checkSignature a r).verdict = .conflict ↔ Contradictory (siteDeltas a r) := by
  have hmem : Contradictory (siteDeltas a r) ↔
      ((siteDeltas a r).filter fun d => d.specific = .neither) ≠ [] := by
    simp [Contradictory, List.filter_eq_nil_iff]
  rw [hmem]
  simp only [checkSignature, siteDeltas]
  split
  next h => simpa [Compatibility.verdict] using h
  next h => split <;> simpa [Compatibility.verdict] using h

theorem checkSignature_eq_agreement_iff :
    (checkSignature a r).verdict = .agreement ↔ siteDeltas a r = [] := by
  simp only [checkSignature]
  split
  next h =>
    have hne : siteDeltas a r ≠ [] := by
      intro hnil
      rw [siteDeltas] at hnil
      simp [hnil] at h
    simpa [Compatibility.verdict] using hne
  next h => split <;> simp_all [Compatibility.verdict, siteDeltas]

theorem siteDeltas_eq_nil_iff : siteDeltas a r = [] ↔ a = .exact r := by
  obtain ⟨dims, kind⟩ := a
  simp [siteDeltas, kindDeltas_eq_nil_iff, shapeDeltas_eq_nil_iff, AnnotationShape.exact, and_comm]

/-- The two sides contradict each other if they describe nothing in common. -/
theorem siteDeltas_contradictory_iff :
    Contradictory (siteDeltas a r) ↔ ¬ ∃ c, a.Matches c ∧ r.Matches c := by
  rw [siteDeltas, contradictory_append, kindDeltas_contradictory_iff, shapeDeltas_contradictory_iff,
    ← not_and_or, not_iff_not]
  constructor
  · rintro ⟨hkind, sizes, hdims, hsizes⟩
    exact ⟨⟨sizes, r.kind⟩, ⟨hdims, hkind⟩, hsizes, rfl⟩
  · rintro ⟨⟨sizes, kind⟩, ⟨hdims, hkind⟩, hsizes, rfl⟩
    exact ⟨hkind, sizes, hdims, hsizes⟩

theorem matches_exact {c : ConcreteSignature} :
    (AnnotationShape.exact r).Matches c ↔ r.Matches c := by
  simp [AnnotationShape.Matches, AnnotationShape.exact, TypeSignature.Matches]

/-- An annotation that describes just what a signature describes leaves nothing open that the
signature pins down, and the other way round. -/
theorem eq_exact_of_matches_iff (h : ∀ c, a.Matches c ↔ r.Matches c) : a = .exact r := by
  obtain ⟨sizes, hs⟩ := Dim.exists_allowAll r.dims
  have hr : r.Matches ⟨sizes, r.kind⟩ := ⟨hs, rfl⟩
  have hkind : a.kind = some r.kind := by
    cases hk : a.kind with
    | some kind => rw [((h _).2 hr).2 kind hk]
    | none =>
      obtain ⟨other, hother⟩ : ∃ other : DType, r.kind ≠ other := by
        by_cases hf : r.kind = .f32
        · exact ⟨.f64, by simp [hf]⟩
        · exact ⟨.f32, hf⟩
      exact absurd ((h ⟨sizes, other⟩).1 ⟨((h _).2 hr).1, by simp [hk]⟩).2 hother
  have hdims : a.dims = some r.dims := by
    cases hd : a.dims with
    | some dims =>
      refine congrArg some (Dim.eq_of_allowAll_iff fun ks => ?_)
      simpa [AnnotationShape.Matches, TypeSignature.Matches, hd, hkind] using h ⟨ks, r.kind⟩
    | none =>
      have hmore := ((h ⟨0 :: sizes, r.kind⟩).1 ⟨by simp [hd], ((h _).2 hr).2⟩).1
      have hlength := hs.length_eq.symm.trans hmore.length_eq
      simp at hlength
  obtain ⟨dims, kind⟩ := a
  simp only at hkind hdims
  rw [hkind, hdims, AnnotationShape.exact]

/-- **A comparison decides how the described sets lie to each other.** For every annotation and
every runtime signature, of any number of axes: the verdict is a conflict if and only if no concrete
signature matches both; it is agreement if and only if they are matched by the same concrete
signatures, which they are only if the annotation is the signature's exact one; and it is refinement
if and only if they have a match in common, but not all of them. -/
theorem checkSignature_verdict_iff (a : AnnotationShape) (r : TypeSignature) :
    ((checkSignature a r).verdict = .conflict ↔ ¬ ∃ c, a.Matches c ∧ r.Matches c) ∧
    ((checkSignature a r).verdict = .agreement ↔ ∀ c, a.Matches c ↔ r.Matches c) ∧
    ((∀ c, a.Matches c ↔ r.Matches c) ↔ a = .exact r) ∧
    ((checkSignature a r).verdict = .refinement ↔
      (∃ c, a.Matches c ∧ r.Matches c) ∧ ¬ ∀ c, a.Matches c ↔ r.Matches c) := by
  have hsame : (∀ c, a.Matches c ↔ r.Matches c) ↔ a = .exact r :=
    ⟨eq_exact_of_matches_iff, fun h c => h ▸ matches_exact⟩
  have hconflict : (checkSignature a r).verdict = .conflict ↔ ¬ ∃ c, a.Matches c ∧ r.Matches c :=
    checkSignature_eq_conflict_iff.trans siteDeltas_contradictory_iff
  have hagreement : (checkSignature a r).verdict = .agreement ↔ ∀ c, a.Matches c ↔ r.Matches c :=
    (checkSignature_eq_agreement_iff.trans siteDeltas_eq_nil_iff).trans hsame.symm
  refine ⟨hconflict, hagreement, hsame, ?_⟩
  have hcommon : (checkSignature a r).verdict ≠ .conflict ↔ ∃ c, a.Matches c ∧ r.Matches c := by
    rw [Ne, hconflict, not_not]
  rw [← hagreement, ← hcommon]
  cases (checkSignature a r).verdict <;> simp

/-- Rank 0 agrees with rank 0 alone, and an open axis on either side refines. -/
example :
    (checkSignature ⟨some [], some .i32⟩ ⟨[], .i32⟩).verdict = .agreement ∧
    (checkSignature ⟨some [], some .i32⟩ ⟨[.unknown], .i32⟩).verdict = .conflict ∧
    (checkSignature ⟨some [.known 5, .unknown], some .i32⟩ ⟨[.unknown, .known 3], .i32⟩).verdict =
      .refinement := by
  decide

end CanonicalTypes
