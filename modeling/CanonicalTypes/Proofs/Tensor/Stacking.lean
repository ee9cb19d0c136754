import CanonicalTypes.Tensor.Stack
import Mathlib.Algebra.BigOperators.Group.List.Basic
import Mathlib.Data.List.Infix

/-!
# What counting and stacking come to

The count of a shape is the product of its lengths, and is known if and only if every product of
leading lengths fits (`elementCount?_eq_some_iff`). Slices can be stacked if and only if they all
have the kind and shape of the first, and the stack's shape counts the elements that they hold
together (`stack_cons_eq_ok_iff`). The slices need not be counted by their own shapes: they are
found again in the stack, block by block, if they are (`StackOf.even_iff`, `take_drop_flatMap`). If
slices cannot be stacked, then the error names the first of them that differs from the first one
(`stack_of_offender`), or the counting fails (`stackFault_of_stack`).
-/
namespace CanonicalTypes

namespace Shape

def lengths (s : Shape) : List Nat := s.dims.map UInt32.toNat

theorem lengths_injective : Function.Injective lengths := by
  rintro ⟨dims⟩ ⟨dims'⟩ h
  exact congrArg Shape.mk (List.map_injective_iff.2 (fun _ _ => UInt32.toNat_inj.1) h)

theorem lt_of_mem_lengths {s : Shape} {length : Nat} (h : length ∈ s.lengths) :
    length < UInt32.size := by
  obtain ⟨dim, -, rfl⟩ := List.mem_map.1 h
  exact dim.toNat_lt_size

theorem lengths_toUInt32_cons {length : Nat} (h : length < UInt32.size) (dims : List UInt32) :
    lengths ⟨length.toUInt32 :: dims⟩ = length :: lengths ⟨dims⟩ := by
  simp [lengths, Nat.mod_eq_of_lt h]

/-- Every product of leading lengths fits in a count. -/
def ProductsFit (lengths : List Nat) : Prop := ∀ p, p <+: lengths → p.prod < countLimit

theorem scaleCount?_eq_some_iff {dims : List UInt32} {count n : Nat} :
    scaleCount? count dims = some n ↔
      n = count * (dims.map UInt32.toNat).prod ∧
        ∀ p, p <+: dims.map UInt32.toNat → p ≠ [] → count * p.prod < countLimit := by
  induction dims generalizing count with
  | nil =>
    simp only [scaleCount?, List.map_nil, List.prod_nil, Nat.mul_one, Option.some.injEq]
    constructor
    · rintro rfl
      exact ⟨rfl, fun p hp hne => absurd (List.prefix_nil.1 hp) hne⟩
    · exact fun h => h.1.symm
  | cons dim dims ih =>
    simp only [scaleCount?, List.map_cons, List.prod_cons]
    split
    next hfits =>
      rw [ih, Nat.mul_assoc]
      refine and_congr_right fun _ => ⟨fun h p hp hne => ?_, fun h p hp _ => ?_⟩
      · rcases List.prefix_cons_iff.1 hp with rfl | ⟨q, rfl, hq⟩
        · exact absurd rfl hne
        -- A prefix is the head alone, or the head before a prefix of the tail.
        · by_cases hnil : q = []
          · simpa [hnil] using hfits
          · simpa [Nat.mul_assoc] using h q hq hnil
      · have hcons := h (dim.toNat :: p) (List.cons_prefix_cons.2 ⟨rfl, hp⟩) (by simp)
        simpa [Nat.mul_assoc] using hcons
    next hover =>
      have hfirst : [dim.toNat] <+: dim.toNat :: dims.map UInt32.toNat :=
        List.cons_prefix_cons.2 ⟨rfl, List.nil_prefix⟩
      constructor
      · exact fun h => nomatch h
      · exact fun h => absurd (by simpa using h.2 _ hfirst (by simp)) hover

theorem exactCount_eq_prod (s : Shape) : s.exactCount = s.lengths.prod := by
  rw [exactCount, lengths, List.prod_eq_foldr, List.foldr_map]

theorem elementCount?_eq_some_iff {s : Shape} {n : Nat} :
    s.elementCount? = some n ↔ n = s.lengths.prod ∧ ProductsFit s.lengths := by
  rw [elementCount?, scaleCount?_eq_some_iff]
  simp only [Nat.one_mul]
  refine and_congr_right fun _ => ⟨fun h p hp => ?_, fun h p hp _ => h p hp⟩
  by_cases hnil : p = []
  · rw [hnil]
    decide
  · exact h p hp hnil

theorem exactCount_of_elementCount? {s : Shape} {n : Nat} (h : s.elementCount? = some n) :
    s.exactCount = n := by
  rw [exactCount_eq_prod, (elementCount?_eq_some_iff.1 h).1]

/-- A positive leading length can be left out. -/
theorem ProductsFit.of_cons {length : Nat} {lengths : List Nat}
    (h : ProductsFit (length :: lengths)) (hpos : 0 < length) : ProductsFit lengths := by
  intro p hp
  have hcons := h (length :: p) (List.cons_prefix_cons.2 ⟨rfl, hp⟩)
  rw [List.prod_cons] at hcons
  exact Nat.lt_of_le_of_lt (Nat.le_mul_of_pos_left _ hpos) hcons

end Shape

namespace Tensor

variable {first t u : Tensor} {pre post rest : List Tensor}

theorem build_eq_ok_iff {dtype : DType} {shape : Shape} {elements : List Literal} :
    build dtype shape elements = .ok t ↔
      shape.elementCount? = some elements.length ∧ t = ⟨dtype, shape, elements⟩ := by
  unfold build
  cases hcount : shape.elementCount? with
  | none => simp
  | some count =>
    by_cases h : count = elements.length
    · simp [h, eq_comm]
    · simp [h]

theorem build_eq_error_iff {dtype : DType} {shape : Shape} {elements : List Literal}
    {e : ValueError} :
    build dtype shape elements = .error e ↔
      shape.elementCount? = none ∧ e = .shapeOverflow shape ∨
      ∃ count, shape.elementCount? = some count ∧ count ≠ elements.length ∧
        e = .elementCountMismatch shape count elements.length := by
  unfold build
  cases hcount : shape.elementCount? with
  | none => simp [eq_comm]
  | some count =>
    by_cases h : count = elements.length
    · simp [h]
    · simp [h, eq_comm]

theorem collectSlices_eq_ok_iff (index : Nat) {elements : List Literal} :
    collectSlices first index rest = .ok elements ↔
      (∀ u ∈ rest, u.dtype = first.dtype ∧ u.shape = first.shape) ∧
        elements = rest.flatMap Tensor.elements := by
  induction rest generalizing index elements with
  | nil => simp [collectSlices, eq_comm]
  | cons u rest ih =>
    by_cases hdtype : u.dtype = first.dtype
    · by_cases hshape : u.shape = first.shape
      · simp only [collectSlices, hdtype, hshape, ne_eq, not_true_eq_false, if_false,
          List.forall_mem_cons, and_self, true_and, List.flatMap_cons]
        cases hrest : collectSlices first (index + 1) rest with
        | ok collected =>
          obtain ⟨hall, rfl⟩ := (ih (index + 1)).1 hrest
          rw [Except.ok.injEq]
          exact ⟨fun h => ⟨hall, h.symm⟩, fun h => h.2.symm⟩
        | error e =>
          simp only [reduceCtorEq, false_iff, not_and]
          intro hall
          rw [(ih (index + 1)).2 ⟨hall, rfl⟩] at hrest
          cases hrest
      · simp [collectSlices, hdtype, hshape]
    · simp [collectSlices, hdtype]

/-- Slices stack to a tensor if and only if they agree with the first in kind and shape, and the
tensor has their kind, their number before their axis lengths, and their elements in order, as many
as its shape counts. -/
theorem stack_cons_eq_ok_iff :
    stack (first :: rest) = .ok t ↔
      (∀ u ∈ rest, u.dtype = first.dtype ∧ u.shape = first.shape) ∧
        t.dtype = first.dtype ∧ t.shape.lengths = (rest.length + 1) :: first.shape.lengths ∧
        t.elements = (first :: rest).flatMap Tensor.elements ∧
        t.shape.elementCount? = some t.elements.length := by
  have hmax : rest.length + 1 ≤ maxSlices ↔ rest.length + 1 < UInt32.size := by
    simp only [maxSlices, UInt32.size]
    omega
  cases hcollect : collectSlices first 1 rest with
  | error e =>
    simp only [stack, hcollect, reduceCtorEq, false_iff]
    rintro ⟨hall, -⟩
    rw [(collectSlices_eq_ok_iff 1).2 ⟨hall, rfl⟩] at hcollect
    cases hcollect
  | ok elements =>
    obtain ⟨hall, rfl⟩ := (collectSlices_eq_ok_iff 1).1 hcollect
    simp only [stack, hcollect, hmax]
    split
    next hlt =>
      have hlengths := Shape.lengths_toUInt32_cons hlt first.shape.dims
      rw [build_eq_ok_iff, ← List.flatMap_cons]
      constructor
      · rintro ⟨hcount, rfl⟩
        exact ⟨hall, rfl, hlengths, rfl, hcount⟩
      · obtain ⟨dtype, shape, elements⟩ := t
        rintro ⟨-, rfl, hshape, rfl, hcount⟩
        obtain rfl : shape = _ := Shape.lengths_injective (hshape.trans hlengths.symm)
        exact ⟨hcount, rfl⟩
    next hlarge =>
      simp only [reduceCtorEq, false_iff]
      -- No axis is as long as that.
      rintro ⟨-, -, hshape, -⟩
      exact hlarge (Shape.lt_of_mem_lengths (hshape ▸ List.mem_cons_self))

/-! ## What a stack is made of -/

/-- A tensor is the stack of slices: they have its kind and, below its leading axis, its lengths, and
it holds their elements in order. Only its own elements are counted, not those of each slice. -/
structure StackOf (t : Tensor) (slices : List Tensor) : Prop where
  dtype : ∀ u ∈ slices, u.dtype = t.dtype
  lengths : ∀ u ∈ slices, t.shape.lengths = slices.length :: u.shape.lengths
  elements : t.elements = slices.flatMap Tensor.elements
  count : t.elements.length = t.shape.exactCount

theorem stackOf_of_stack {slices : List Tensor} (h : stack slices = .ok t) : t.StackOf slices := by
  cases slices with
  | nil => cases h
  | cons first rest =>
    obtain ⟨hall, hdtype, hlengths, helements, hcount⟩ := stack_cons_eq_ok_iff.1 h
    refine ⟨List.forall_mem_cons.2 ⟨hdtype.symm, fun u hu => ?_⟩,
      List.forall_mem_cons.2 ⟨hlengths, fun u hu => ?_⟩, helements,
      (Shape.exactCount_of_elementCount? hcount).symm⟩
    · rw [(hall u hu).1, hdtype]
    · rw [(hall u hu).2, hlengths, List.length_cons]

section

variable {slices : List Tensor} (hstack : t.StackOf slices)

include hstack

/-- All slices together hold as many elements as their common shape counts for so many slices. -/
theorem StackOf.length_elements {u : Tensor} (hu : u ∈ slices) :
    t.elements.length = slices.length * u.shape.exactCount := by
  rw [hstack.count, Shape.exactCount_eq_prod, hstack.lengths u hu, List.prod_cons,
    Shape.exactCount_eq_prod]

/-- Slices are equally long if and only if each of them holds as many elements as its shape counts. -/
theorem StackOf.even_iff : (∀ u ∈ slices, ∀ w ∈ slices, u.elements.length = w.elements.length) ↔
    ∀ u ∈ slices, u.elements.length = u.shape.exactCount := by
  have hshape : ∀ u ∈ slices, ∀ w ∈ slices, u.shape = w.shape := by
    intro u hu w hw
    have hcons := (hstack.lengths u hu).symm.trans (hstack.lengths w hw)
    exact Shape.lengths_injective (List.cons.inj hcons).2
  constructor
  · intro heven u hu
    -- The mean of equal lengths is each of them.
    have hsum := hstack.length_elements hu
    rw [hstack.elements, List.length_flatMap, List.map_congr_left fun w hw => heven w hw u hu,
      List.map_const', List.sum_replicate_nat] at hsum
    exact Nat.eq_of_mul_eq_mul_left (List.length_pos_of_mem hu) hsum
  · intro hcount u hu w hw
    rw [hcount u hu, hcount w hw, hshape u hu w hw]

end

/-- The elements of equally long slices stand one block after the other. -/
theorem take_drop_flatMap {slices : List Tensor} {count : Nat}
    (hcount : ∀ u ∈ slices, u.elements.length = count) {i : Nat} (hi : i < slices.length) :
    ((slices.flatMap Tensor.elements).drop (i * count)).take count = slices[i].elements := by
  induction slices generalizing i with
  | nil => cases hi
  | cons u rest ih =>
    obtain ⟨hu, hrest⟩ := List.forall_mem_cons.1 hcount
    rw [List.flatMap_cons]
    cases i with
    | zero => rw [Nat.zero_mul, List.drop_zero, List.take_left' hu, List.getElem_cons_zero]
    | succ i =>
      rw [Nat.succ_mul, Nat.add_comm, ← List.drop_drop, List.drop_left' hu,
        ih hrest (Nat.lt_of_succ_lt_succ hi), List.getElem_cons_succ]

/-! ## Slices that do not stack -/

def StacksWith (first u : Tensor) : Prop := u.dtype = first.dtype ∧ u.shape = first.shape

/-- What is reported of a slice that does not stack with the first: its kind, or else its shape. -/
def mismatch (first : Tensor) (index : Nat) (u : Tensor) : ValueError :=
  if u.dtype ≠ first.dtype then .axisStackDTypeMismatch index first.dtype u.dtype
  else .axisStackShapeMismatch index first.shape u.shape

theorem uniform_or_offender (first : Tensor) (rest : List Tensor) :
    (∀ w ∈ rest, first.StacksWith w) ∨
      ∃ pre u post, rest = pre ++ u :: post ∧ (∀ w ∈ pre, first.StacksWith w) ∧
        ¬ first.StacksWith u := by
  induction rest with
  | nil => exact .inl (by simp)
  | cons w rest ih =>
    by_cases hw : first.StacksWith w
    · obtain hall | ⟨pre, u, post, rfl, hpre, hu⟩ := ih
      · exact .inl (List.forall_mem_cons.2 ⟨hw, hall⟩)
      · exact .inr ⟨w :: pre, u, post, rfl, List.forall_mem_cons.2 ⟨hw, hpre⟩, hu⟩
    · exact .inr ⟨[], w, rest, rfl, by simp, hw⟩

theorem collectSlices_of_offender (hpre : ∀ w ∈ pre, first.StacksWith w)
    (hu : ¬ first.StacksWith u) (index : Nat) :
    collectSlices first index (pre ++ u :: post) =
      .error (first.mismatch (index + pre.length) u) := by
  induction pre generalizing index with
  | nil =>
    by_cases hdtype : u.dtype = first.dtype
    · have hshape : u.shape ≠ first.shape := fun h => hu ⟨hdtype, h⟩
      simp [collectSlices, mismatch, hdtype, hshape]
    · simp [collectSlices, mismatch, hdtype]
  | cons w pre ih =>
    obtain ⟨⟨hdtype, hshape⟩, hpre⟩ := List.forall_mem_cons.1 hpre
    have hplace : index + 1 + pre.length = index + (w :: pre).length := by
      rw [List.length_cons]
      omega
    simp [collectSlices, hdtype, hshape, ih hpre (index + 1), hplace]

theorem stack_of_offender (hpre : ∀ w ∈ pre, first.StacksWith w) (hu : ¬ first.StacksWith u) :
    stack (first :: (pre ++ u :: post)) = .error (first.mismatch (pre.length + 1) u) := by
  rw [stack, collectSlices_of_offender hpre hu, Nat.add_comm]

/-- What is wrong with slices that do not stack: one is the first to differ from the first slice, in
kind or else in shape, or they are all alike and cannot be counted together. -/
inductive StackFault : List Tensor → ValueError → Prop where
  | dtype {first u : Tensor} {pre post : List Tensor} (hpre : ∀ w ∈ pre, first.StacksWith w)
      (hu : u.dtype ≠ first.dtype) :
      StackFault (first :: (pre ++ u :: post))
        (.axisStackDTypeMismatch (pre.length + 1) first.dtype u.dtype)
  | shape {first u : Tensor} {pre post : List Tensor} (hpre : ∀ w ∈ pre, first.StacksWith w)
      (hdtype : u.dtype = first.dtype) (hu : u.shape ≠ first.shape) :
      StackFault (first :: (pre ++ u :: post))
        (.axisStackShapeMismatch (pre.length + 1) first.shape u.shape)
  | overflow {first : Tensor} {rest : List Tensor} {shape : Shape}
      (hall : ∀ w ∈ rest, first.StacksWith w) : StackFault (first :: rest) (.shapeOverflow shape)
  | count {first : Tensor} {rest : List Tensor} {shape : Shape} {expected actual : Nat}
      (hall : ∀ w ∈ rest, first.StacksWith w) :
      StackFault (first :: rest) (.elementCountMismatch shape expected actual)

theorem stackFault_of_stack {slices : List Tensor} {e : ValueError} (hne : slices ≠ [])
    (h : stack slices = .error e) : StackFault slices e := by
  obtain ⟨first, rest, rfl⟩ := List.exists_cons_of_ne_nil hne
  obtain hall | ⟨pre, u, post, rfl, hpre, hu⟩ := uniform_or_offender first rest
  · rw [stack, (collectSlices_eq_ok_iff 1).2 ⟨hall, rfl⟩] at h
    dsimp only at h
    split at h
    · obtain ⟨-, rfl⟩ | ⟨count, -, -, rfl⟩ := build_eq_error_iff.1 h
      · exact .overflow hall
      · exact .count hall
    · cases h
      exact .overflow hall
  · rw [stack_of_offender hpre hu, Except.error.injEq] at h
    subst h
    unfold mismatch
    by_cases hdtype : u.dtype = first.dtype
    · rw [if_neg (not_not.2 hdtype)]
      exact .shape hpre hdtype fun hshape => hu ⟨hdtype, hshape⟩
    · rw [if_pos hdtype]
      exact .dtype hpre hdtype

end Tensor

end CanonicalTypes
