import CanonicalTypes.Proofs.Signature.Meaning
import CanonicalTypes.Proofs.Text.Digits

/-!
# What a comparison lists

What a side says at a site is a `Detail`, or nothing where it leaves the site open. A comparison goes
through `comparedSites` in order and notes, where the two sides do not say the same, what they say
(`siteDeltas_eq`). A conflict lists the sites at which both sides say something, a refinement those
at which only one does.

Where the sides do not contradict each other, the notes give the annotation back: an open side shows
in the note, and at one site different details have different texts (`eq_of_siteDeltas_eq`). The main
result is `checkSignature_deltas`.
-/
namespace CanonicalTypes

/-- What a side says at a site that it pins down. -/
inductive Detail where
  | kind (kind : DType)
  | rank (rank : Nat)
  | size (size : UInt32)
  deriving DecidableEq

def Detail.text : Detail → String
  | kind k => k.name
  | rank n => toString n
  | size n => toString n.toNat

def Dim.detail? : Dim → Option Detail
  | known n => some (.size n)
  | unknown => none

/-- What an annotation pins down at a site. -/
def AnnotationShape.detail? (a : AnnotationShape) : Site → Option Detail
  | .kind => a.kind.map .kind
  | .rank => a.dims.map fun dims => .rank dims.length
  | .axis i => a.dims.bind fun dims => dims[i]?.bind Dim.detail?

def TypeSignature.detail? (r : TypeSignature) : Site → Option Detail
  | .kind => some (.kind r.kind)
  | .rank => some (.rank r.rank)
  | .axis i => r.dims[i]?.bind Dim.detail?

/-- The order of a report: the kind comes first, then either the number of axes or the axes. -/
def Site.Precedes : Site → Site → Prop
  | .kind, .rank => True
  | .kind, .axis _ => True
  | .axis i, .axis j => i < j
  | _, _ => False

/-- The sites at which an annotation is compared with a signature: the kind, and then the axes if
both have as many, otherwise their number. -/
def comparedSites (a : AnnotationShape) (r : TypeSignature) : List Site :=
  .kind :: if a.dims.map List.length = some r.rank then (List.range r.rank).map .axis else [.rank]

def differenceAt (site : Site) : Option Detail → Option Detail → Option SignatureDelta
  | none, none => none
  | none, some q => some ⟨site, "?", q.text, .runtime⟩
  | some p, none => some ⟨site, p.text, "?", .declared⟩
  | some p, some q => if p = q then none else some ⟨site, p.text, q.text, .neither⟩

variable {a b : AnnotationShape} {r : TypeSignature} {d : SignatureDelta} {s : Site}

/-! ## What is noted of one site -/

theorem differenceAt_eq_some_iff {p q : Option Detail} :
    differenceAt s p q = some d ↔
      (∃ y, p = none ∧ q = some y ∧ d = ⟨s, "?", y.text, .runtime⟩) ∨
      (∃ x, p = some x ∧ q = none ∧ d = ⟨s, x.text, "?", .declared⟩) ∨
      ∃ x y, p = some x ∧ q = some y ∧ x ≠ y ∧ d = ⟨s, x.text, y.text, .neither⟩ := by
  cases p with
  | none => cases q <;> simp [differenceAt, eq_comm]
  | some x =>
    cases q with
    | none => simp [differenceAt, eq_comm]
    | some y => by_cases h : x = y <;> simp [differenceAt, h, eq_comm]

theorem site_of_differenceAt {p q : Option Detail} (h : differenceAt s p q = some d) :
    d.site = s := by
  obtain ⟨_, -, -, rfl⟩ | ⟨_, -, -, rfl⟩ | ⟨_, _, -, -, -, rfl⟩ := differenceAt_eq_some_iff.1 h
  all_goals rfl

theorem axisDelta?_eq (index : Nat) (x y : Dim) :
    axisDelta? index x y = differenceAt (.axis index) x.detail? y.detail? := by
  cases x with
  | known m =>
    cases y with
    | known n => by_cases h : m = n <;> simp [axisDelta?, differenceAt, Dim.detail?, Dim.text,
        Detail.text, h]
    | unknown => rfl
  | unknown => cases y <;> rfl

/-! ## What is noted of all sites -/

theorem axisDeltas_eq :
    ∀ (index : Nat) {ds as : List Dim}, ds.length = as.length →
      axisDeltas index ds as = (List.range as.length).filterMap fun i =>
        differenceAt (.axis (index + i)) (ds[i]?.bind Dim.detail?) (as[i]?.bind Dim.detail?)
  | _, [], [], _ => rfl
  | index, x :: ds, y :: as, h => by
    have ih := axisDeltas_eq (index + 1) (Nat.succ.inj h)
    rw [axisDeltas, ih, axisDelta?_eq, List.length_cons, List.range_succ_eq_map,
      List.filterMap_cons, List.filterMap_map]
    cases hhead : differenceAt (.axis index) x.detail? y.detail? <;>
      simp [hhead, Nat.add_assoc, Nat.add_comm 1]

theorem kindDeltas_eq (declared : Option DType) (actual : DType) :
    kindDeltas declared actual =
      (differenceAt .kind (declared.map .kind) (some (.kind actual))).toList := by
  cases declared with
  | none => rfl
  | some kind => by_cases h : kind = actual <;> simp [kindDeltas, differenceAt, Detail.text, h]

theorem siteDeltas_eq (a : AnnotationShape) (r : TypeSignature) :
    siteDeltas a r =
      (comparedSites a r).filterMap fun s => differenceAt s (a.detail? s) (r.detail? s) := by
  have hshape : shapeDeltas a.dims r.dims =
      (if a.dims.map List.length = some r.rank then (List.range r.rank).map .axis
        else [.rank]).filterMap fun s => differenceAt s (a.detail? s) (r.detail? s) := by
    cases hdims : a.dims with
    | none =>
      simp [shapeDeltas, differenceAt, AnnotationShape.detail?, TypeSignature.detail?, hdims,
        Detail.text, TypeSignature.rank]
    | some dims =>
      by_cases hlength : dims.length = r.rank
      · have haxes := axisDeltas_eq 0 (show dims.length = r.dims.length from hlength)
        simpa [shapeDeltas, TypeSignature.rank, hlength, List.filterMap_map, Function.comp_def,
          AnnotationShape.detail?, TypeSignature.detail?, hdims] using haxes
      · have hactual : ¬ dims.length = r.dims.length := hlength
        simp [shapeDeltas, differenceAt, AnnotationShape.detail?, TypeSignature.detail?, hdims,
          Detail.text, TypeSignature.rank, hactual]
  rw [siteDeltas, kindDeltas_eq, hshape, comparedSites, List.filterMap_cons]
  change (differenceAt .kind (a.detail? .kind) (r.detail? .kind)).toList ++ _ = _
  cases differenceAt .kind (a.detail? .kind) (r.detail? .kind) <;> rfl

theorem mem_siteDeltas_iff :
    d ∈ siteDeltas a r ↔
      d.site ∈ comparedSites a r ∧
        differenceAt d.site (a.detail? d.site) (r.detail? d.site) = some d := by
  rw [siteDeltas_eq, List.mem_filterMap]
  constructor
  · rintro ⟨s, hs, h⟩
    obtain rfl := site_of_differenceAt h
    exact ⟨hs, h⟩
  · rintro ⟨hs, h⟩
    exact ⟨d.site, hs, h⟩

theorem comparedSites_pairwise (a : AnnotationShape) (r : TypeSignature) :
    (comparedSites a r).Pairwise Site.Precedes := by
  unfold comparedSites
  split
  · refine List.pairwise_cons.2 ⟨?_, List.pairwise_map.2 List.pairwise_lt_range⟩
    simp [Site.Precedes]
  · simp [Site.Precedes]

theorem siteDeltas_pairwise (a : AnnotationShape) (r : TypeSignature) :
    (siteDeltas a r).Pairwise fun d d' => d.site.Precedes d'.site := by
  rw [siteDeltas_eq]
  refine (comparedSites_pairwise a r).filterMap _ ?_
  intro s s' hs d hd d' hd'
  rwa [site_of_differenceAt hd, site_of_differenceAt hd']

theorem Site.Precedes.ne {s s' : Site} (h : s.Precedes s') : s ≠ s' := by
  rintro rfl
  cases s with
  | rank => exact h
  | axis i => exact Nat.lt_irrefl i h
  | kind => exact h

/-! ## What a report lists -/

theorem deltas_of_conflict (h : (checkSignature a r).verdict = .conflict) :
    (checkSignature a r).deltas = (siteDeltas a r).filter fun d => d.specific = .neither := by
  unfold checkSignature at h ⊢
  dsimp only at h ⊢
  split at h
  next hsome => rw [if_pos hsome, siteDeltas, Compatibility.deltas]
  next => split at h <;> cases h

theorem deltas_of_not_conflict (h : (checkSignature a r).verdict ≠ .conflict) :
    (checkSignature a r).deltas = siteDeltas a r := by
  unfold checkSignature at h ⊢
  dsimp only at h ⊢
  split at h
  next => exact absurd rfl h
  next hnone =>
    rw [if_neg hnone]
    split
    next => rfl
    next hnil =>
      have hempty : siteDeltas a r = [] := by simpa [siteDeltas] using hnil
      rw [hempty, Compatibility.deltas]

theorem deltas_sublist (a : AnnotationShape) (r : TypeSignature) :
    (checkSignature a r).deltas.Sublist (siteDeltas a r) := by
  by_cases h : (checkSignature a r).verdict = .conflict
  · rw [deltas_of_conflict h]
    exact List.filter_sublist
  · rw [deltas_of_not_conflict h]

theorem mem_deltas_of_conflict (h : (checkSignature a r).verdict = .conflict) :
    d ∈ (checkSignature a r).deltas ↔
      d.site ∈ comparedSites a r ∧ ∃ x y, a.detail? d.site = some x ∧ r.detail? d.site = some y ∧
        x ≠ y ∧ d = ⟨d.site, x.text, y.text, .neither⟩ := by
  rw [deltas_of_conflict h, List.mem_filter, decide_eq_true_iff, mem_siteDeltas_iff, and_assoc,
    differenceAt_eq_some_iff]
  refine and_congr_right fun _ => ?_
  constructor
  · rintro ⟨⟨y, -, -, hd⟩ | ⟨x, -, -, hd⟩ | hboth, hneither⟩
    · rw [hd] at hneither
      cases hneither
    · rw [hd] at hneither
      cases hneither
    · exact hboth
  · rintro ⟨x, y, hx, hy, hne, hd⟩
    exact ⟨.inr (.inr ⟨x, y, hx, hy, hne, hd⟩), by rw [hd]⟩

theorem not_neither_of_not_conflict (h : (checkSignature a r).verdict ≠ .conflict)
    (hd : d ∈ siteDeltas a r) : d.specific ≠ .neither := fun hneither =>
  h (checkSignature_eq_conflict_iff.2 ⟨d, hd, hneither⟩)

theorem mem_deltas_of_not_conflict (h : (checkSignature a r).verdict ≠ .conflict) :
    d ∈ (checkSignature a r).deltas ↔
      d.site ∈ comparedSites a r ∧
        ((∃ y, a.detail? d.site = none ∧ r.detail? d.site = some y ∧
            d = ⟨d.site, "?", y.text, .runtime⟩) ∨
          ∃ x, a.detail? d.site = some x ∧ r.detail? d.site = none ∧
            d = ⟨d.site, x.text, "?", .declared⟩) := by
  rw [deltas_of_not_conflict h]
  constructor
  · intro hd
    obtain ⟨hs, hat⟩ := mem_siteDeltas_iff.1 hd
    obtain hopen | hopen | ⟨_, _, -, -, -, hneither⟩ := differenceAt_eq_some_iff.1 hat
    · exact ⟨hs, .inl hopen⟩
    · exact ⟨hs, .inr hopen⟩
    · exact absurd (congrArg SignatureDelta.specific hneither) (not_neither_of_not_conflict h hd)
  · rintro ⟨hs, hopen⟩
    refine mem_siteDeltas_iff.2 ⟨hs, differenceAt_eq_some_iff.2 ?_⟩
    exact hopen.imp_right .inl

/-! ## The annotation is found again -/

theorem DType.name_injective : Function.Injective DType.name := by
  intro k k' h
  cases k <;> cases k' <;> first | rfl | exact absurd h (by decide)

theorem Dim.detail?_injective : Function.Injective Dim.detail? := by
  intro x y h
  cases x with
  | known m =>
    cases y with
    | known n => simpa [detail?] using h
    | unknown => cases h
  | unknown =>
    cases y with
    | known n => cases h
    | unknown => rfl

theorem Dim.eq_size_of_detail? {x : Dim} {p : Detail} (h : x.detail? = some p) :
    ∃ n, p = .size n := by
  cases x with
  | known n => exact ⟨n, (Option.some.inj h).symm⟩
  | unknown => cases h

/-- At one site, different details of annotations have different texts. -/
theorem eq_of_text_eq {x y : Detail} (hx : a.detail? s = some x) (hy : b.detail? s = some y)
    (h : x.text = y.text) : x = y := by
  cases s with
  | kind =>
    obtain ⟨k, -, rfl⟩ := Option.map_eq_some_iff.1 hx
    obtain ⟨k', -, rfl⟩ := Option.map_eq_some_iff.1 hy
    rw [DType.name_injective h]
  | rank =>
    obtain ⟨m, -, rfl⟩ := Option.map_eq_some_iff.1 hx
    obtain ⟨n, -, rfl⟩ := Option.map_eq_some_iff.1 hy
    rw [Text.toString_injective h]
  | axis i =>
    obtain ⟨_, -, hx⟩ := Option.bind_eq_some_iff.1 hx
    obtain ⟨_, -, hx⟩ := Option.bind_eq_some_iff.1 hx
    obtain ⟨_, -, hy⟩ := Option.bind_eq_some_iff.1 hy
    obtain ⟨_, -, hy⟩ := Option.bind_eq_some_iff.1 hy
    obtain ⟨m, rfl⟩ := Dim.eq_size_of_detail? hx
    obtain ⟨n, rfl⟩ := Dim.eq_size_of_detail? hy
    rw [UInt32.toNat_inj.1 (Text.toString_injective h)]

theorem eq_none_or_eq_of_differenceAt {p : Option Detail} {z : Detail}
    (hp : ∀ d, differenceAt s p (some z) = some d → d.specific ≠ .neither) :
    p = none ∨ p = some z := by
  cases p with
  | none => exact .inl rfl
  | some x =>
    by_cases hxz : x = z
    · exact .inr (congrArg some hxz)
    · exact absurd rfl (hp _ (if_neg hxz))

/-- What is noted of a site gives back what an annotation says there, unless it contradicts the
other side. -/
theorem detail?_eq_of_differenceAt_eq {q : Option Detail}
    (ha : ∀ d, differenceAt s (a.detail? s) q = some d → d.specific ≠ .neither)
    (hb : ∀ d, differenceAt s (b.detail? s) q = some d → d.specific ≠ .neither)
    (h : differenceAt s (a.detail? s) q = differenceAt s (b.detail? s) q) :
    a.detail? s = b.detail? s := by
  cases q with
  | none =>
    cases hx : a.detail? s with
    | none => cases hy : b.detail? s <;> simp [hx, hy, differenceAt] at h ⊢
    | some x =>
      cases hy : b.detail? s with
      | none => simp [hx, hy, differenceAt] at h
      | some y =>
        have htext : x.text = y.text := by simpa [hx, hy, differenceAt] using h
        rw [eq_of_text_eq hx hy htext]
  | some z =>
    obtain hx | hx := eq_none_or_eq_of_differenceAt ha <;>
      obtain hy | hy := eq_none_or_eq_of_differenceAt hb <;>
      simp [hx, hy, differenceAt] at h ⊢

theorem differenceAt_iff_mem_siteDeltas (hs : s ∈ comparedSites a r) :
    differenceAt s (a.detail? s) (r.detail? s) = some d ↔ d ∈ siteDeltas a r ∧ d.site = s := by
  rw [mem_siteDeltas_iff]
  constructor
  · intro h
    obtain rfl := site_of_differenceAt h
    exact ⟨⟨hs, h⟩, rfl⟩
  · rintro ⟨⟨-, h⟩, rfl⟩
    exact h

/-- An annotation that does not contradict a signature has as many axes, if it has any. -/
theorem length_eq_rank (ha : ¬ Contradictory (siteDeltas a r)) {dims : List Dim}
    (hdims : a.dims = some dims) : dims.length = r.rank := by
  rw [siteDeltas_contradictory_iff, not_not] at ha
  obtain ⟨c, hac, hrc⟩ := ha
  exact (hac.1 dims hdims).length_eq.trans hrc.1.length_eq.symm

/-- Without a contradiction, the number of axes is noted only of an annotation that leaves it open. -/
theorem dims_eq_none_iff (ha : ¬ Contradictory (siteDeltas a r)) :
    a.dims = none ↔ ∃ d ∈ siteDeltas a r, d.site = .rank := by
  constructor
  · intro hdims
    have hs : Site.rank ∈ comparedSites a r := by simp [comparedSites, hdims]
    have hnoted : differenceAt .rank (a.detail? .rank) (r.detail? .rank) =
        some ⟨.rank, "?", toString r.rank, .runtime⟩ := by
      simp only [AnnotationShape.detail?, hdims]
      rfl
    exact ⟨_, (differenceAt_iff_mem_siteDeltas hs).1 hnoted⟩
  · rintro ⟨d, hd, hsite⟩
    cases hdims : a.dims with
    | none => rfl
    | some dims =>
      have hs := (mem_siteDeltas_iff.1 hd).1
      simp [comparedSites, hdims, length_eq_rank ha hdims, hsite] at hs

/-- The differences give back the annotation, unless it contradicts the signature. -/
theorem eq_of_siteDeltas_eq (ha : ¬ Contradictory (siteDeltas a r))
    (hb : ¬ Contradictory (siteDeltas b r)) (h : siteDeltas a r = siteDeltas b r) : a = b := by
  -- Neither contradicts the signature, so at a common site the note tells the detail.
  have hat : ∀ s ∈ comparedSites a r, s ∈ comparedSites b r → a.detail? s = b.detail? s := by
    intro s hsa hsb
    refine detail?_eq_of_differenceAt_eq (q := r.detail? s) ?_ ?_ ?_
    · intro d hd hneither
      exact ha ⟨d, ((differenceAt_iff_mem_siteDeltas hsa).1 hd).1, hneither⟩
    · intro d hd hneither
      exact hb ⟨d, ((differenceAt_iff_mem_siteDeltas hsb).1 hd).1, hneither⟩
    · apply Option.ext
      intro d
      rw [differenceAt_iff_mem_siteDeltas hsa, differenceAt_iff_mem_siteDeltas hsb, h]
  have hkind : a.kind = b.kind :=
    Option.map_injective (fun _ _ => Detail.kind.inj) (hat .kind (by simp [comparedSites])
      (by simp [comparedSites]))
  have hopen : a.dims = none ↔ b.dims = none := by
    rw [dims_eq_none_iff ha, dims_eq_none_iff hb, h]
  have hdims : a.dims = b.dims := by
    cases hda : a.dims with
    | none => exact (hopen.1 hda).symm
    | some ds =>
      cases hdb : b.dims with
      | none => exact absurd (hopen.2 hdb) (by simp [hda])
      | some ds' =>
        have hlength := length_eq_rank ha hda
        have hlength' := length_eq_rank hb hdb
        refine congrArg some (List.ext_getElem (hlength.trans hlength'.symm) fun i hi hi' => ?_)
        have hsite := hat (.axis i) (by simp [comparedSites, hda, hlength, hlength ▸ hi])
          (by simp [comparedSites, hdb, hlength', hlength' ▸ hi'])
        simp only [AnnotationShape.detail?, hda, hdb, Option.bind_some,
          List.getElem?_eq_getElem hi, List.getElem?_eq_getElem hi'] at hsite
        exact Dim.detail?_injective hsite
  obtain ⟨dims, kind⟩ := a
  obtain ⟨dims', kind'⟩ := b
  simp only at hkind hdims
  rw [hkind, hdims]

/-- **A report is an exact diff, and loses nothing.** For every annotation and every runtime
signature, of any number of axes: the sites of a report are in order, the kind first and then either
the number of axes or the axes, and none is listed twice. A conflict lists just the compared sites at
which both sides say something and do not say the same, as contradictions. A refinement lists just
those at which one side is open and the other is not, with the side that says more. Each entry shows
the texts of both sides. Hence annotations that are not in conflict with a signature are compared to
it with different reports, unless they are the same. -/
theorem checkSignature_deltas (a : AnnotationShape) (r : TypeSignature) :
    ((checkSignature a r).deltas.map SignatureDelta.site).Pairwise Site.Precedes ∧
    ((checkSignature a r).deltas.map SignatureDelta.site).Nodup ∧
    ((checkSignature a r).verdict = .conflict → ∀ d, d ∈ (checkSignature a r).deltas ↔
      d.site ∈ comparedSites a r ∧ ∃ x y, a.detail? d.site = some x ∧ r.detail? d.site = some y ∧
        x ≠ y ∧ d = ⟨d.site, x.text, y.text, .neither⟩) ∧
    ((checkSignature a r).verdict = .refinement → ∀ d, d ∈ (checkSignature a r).deltas ↔
      d.site ∈ comparedSites a r ∧
        ((∃ y, a.detail? d.site = none ∧ r.detail? d.site = some y ∧
            d = ⟨d.site, "?", y.text, .runtime⟩) ∨
          ∃ x, a.detail? d.site = some x ∧ r.detail? d.site = none ∧
            d = ⟨d.site, x.text, "?", .declared⟩)) ∧
    ∀ b, (checkSignature a r).verdict ≠ .conflict → (checkSignature b r).verdict ≠ .conflict →
      a ≠ b → checkSignature a r ≠ checkSignature b r := by
  have hordered : ((checkSignature a r).deltas.map SignatureDelta.site).Pairwise Site.Precedes :=
    List.pairwise_map.2 ((siteDeltas_pairwise a r).sublist (deltas_sublist a r))
  refine ⟨hordered, hordered.imp Site.Precedes.ne, fun h _ => mem_deltas_of_conflict h,
    fun h _ => mem_deltas_of_not_conflict (by simp [h]), fun b ha hb hne heq => hne ?_⟩
  have hsites : siteDeltas a r = siteDeltas b r := by
    rw [← deltas_of_not_conflict ha, heq, deltas_of_not_conflict hb]
  exact eq_of_siteDeltas_eq (mt checkSignature_eq_conflict_iff.2 ha)
    (mt checkSignature_eq_conflict_iff.2 hb) hsites

/-- An axis that the annotation leaves open is listed, a length that it pins down as well is not.
The two annotations are told apart; one of another kind is in conflict, and the open axis is then
left out. -/
theorem checkSignature_deltas_open_axis :
    let r : TypeSignature := ⟨[.known 5, .known 3], .i32⟩
    let a : AnnotationShape := ⟨some [.unknown, .known 3], some .i32⟩
    let b : AnnotationShape := ⟨some [.known 5, .known 3], some .i32⟩
    let c : AnnotationShape := ⟨some [.unknown, .known 3], some .f32⟩
    (checkSignature a r).verdict = .refinement ∧
    ⟨.axis 0, "?", "5", .runtime⟩ ∈ (checkSignature a r).deltas ∧
    checkSignature a r ≠ checkSignature b r ∧
    (checkSignature c r).verdict = .conflict ∧
    ⟨.kind, "float32", "int32", .neither⟩ ∈ (checkSignature c r).deltas ∧
    ∀ d ∈ (checkSignature c r).deltas, d.site ≠ .axis 0 := by
  intro r a b c
  have hopen : (checkSignature a r).verdict = .refinement := by decide
  have hother : (checkSignature c r).verdict = .conflict := by decide
  obtain ⟨-, -, -, hrefines, hlossless⟩ := checkSignature_deltas a r
  obtain ⟨-, -, hconflicts, -, -⟩ := checkSignature_deltas c r
  refine ⟨hopen, (hrefines hopen _).2 ?_, hlossless b (by decide) (by decide) (by decide), hother,
    (hconflicts hother _).2 ?_, fun d hd hsite => ?_⟩
  · exact ⟨by decide, .inl ⟨.size 5, rfl, rfl, rfl⟩⟩
  · exact ⟨by decide, .kind .f32, .kind .i32, rfl, rfl, by decide, rfl⟩
  · obtain ⟨-, x, y, hx, -⟩ := (hconflicts hother d).1 hd
    rw [hsite] at hx
    cases hx

end CanonicalTypes
