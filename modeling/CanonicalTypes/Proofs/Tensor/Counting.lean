import CanonicalTypes.Proofs.Tensor.Stacking
import Mathlib.Algebra.BigOperators.Ring.List
import Mathlib.Algebra.GroupWithZero.Nat
import Mathlib.Data.List.TakeWhile

/-!
# When a count overflows

A shape is counted from the left, and the count is given up when a product of leading lengths does
not fit in 64 bits. Such products only grow up to the first zero length, and are zero from there on,
so the lengths before it decide (`productsFit_iff`). A shape that holds elements has no zero length,
and its count overflows if and only if the number of elements does. The count of an empty shape can
overflow as well, if large lengths stand before the zero (`elementCount?_of_late_zero`).

The main result is `elementCount?_exact`.
-/
namespace CanonicalTypes.Shape

/-- The axis lengths before the first that is zero. -/
def leadingLengths (s : Shape) : List Nat := s.lengths.takeWhile (· ≠ 0)

variable {s s' : Shape}

/-- No product of leading lengths is larger than that of the lengths before the first zero. -/
theorem prod_le_leading {p lengths : List Nat} (hp : p <+: lengths) :
    p.prod ≤ (lengths.takeWhile (· ≠ 0)).prod := by
  -- A prefix that goes past a zero multiplies to zero; any other one ends before it.
  by_cases hzero : 0 ∈ p
  · rw [List.prod_eq_zero hzero]
    exact Nat.zero_le _
  · obtain ⟨q, rfl⟩ := hp
    have hall : ∀ n ∈ p, decide (n ≠ 0) = true := by
      intro n hn
      exact decide_eq_true fun h => hzero (h ▸ hn)
    rw [List.takeWhile_append_of_pos hall, List.prod_append]
    refine Nat.le_mul_of_pos_right _ (Nat.pos_of_ne_zero (List.prod_ne_zero ?_))
    intro hmem
    simpa using List.mem_takeWhile_imp hmem

theorem productsFit_iff {lengths : List Nat} :
    ProductsFit lengths ↔ (lengths.takeWhile (· ≠ 0)).prod < countLimit := by
  constructor
  · intro h
    exact h _ (List.takeWhile_prefix _)
  · intro h p hp
    exact Nat.lt_of_le_of_lt (prod_le_leading hp) h

/-- The count of a shape, for every shape. -/
theorem elementCount?_eq (s : Shape) :
    s.elementCount? =
      if s.leadingLengths.prod < countLimit then some s.exactCount else none := by
  rw [exactCount_eq_prod]
  split
  next hfits => exact elementCount?_eq_some_iff.2 ⟨rfl, productsFit_iff.2 hfits⟩
  next hover =>
    rw [Option.eq_none_iff_forall_ne_some]
    intro n hn
    exact hover (productsFit_iff.1 (elementCount?_eq_some_iff.1 hn).2)

theorem leadingLengths_of_exactCount (h : s.exactCount ≠ 0) : s.leadingLengths = s.lengths := by
  rw [leadingLengths, List.takeWhile_eq_self_iff]
  intro n hn
  rw [exactCount_eq_prod] at h
  exact decide_eq_true fun hzero => h (List.prod_eq_zero (hzero ▸ hn))

/-- A shape that holds elements is counted as it should be. -/
theorem elementCount?_of_exactCount (h : s.exactCount ≠ 0) :
    s.elementCount? = if s.exactCount < countLimit then some s.exactCount else none := by
  rw [elementCount?_eq, leadingLengths_of_exactCount h, ← exactCount_eq_prod]

theorem exactCount_eq_of_perm (h : s.lengths.Perm s'.lengths) : s.exactCount = s'.exactCount := by
  rw [exactCount_eq_prod, exactCount_eq_prod, h.prod_eq]

/-- The lengths before the first zero decide whether tensors of a shape are refused for its count. -/
theorem build_eq_shapeOverflow_iff {dtype : DType} {elements : List Literal} :
    Tensor.build dtype s elements = .error (.shapeOverflow s) ↔
      countLimit ≤ s.leadingLengths.prod := by
  rw [Tensor.build_eq_error_iff, elementCount?_eq]
  by_cases h : s.leadingLengths.prod < countLimit
  · simp [h]
  · simp [h, Nat.not_lt.1 h]

/-- **A count overflows if and only if the lengths before the first zero do.** For every shape: if
their product fits in 64 bits, then the answer is the exact number of elements; otherwise there is
none, and tensors of that shape are refused. Hence a shape that holds elements is counted if and only
if their exact number fits; its count does not depend on the order of the lengths, and a tensor with
so many elements is built. -/
theorem elementCount?_exact (s : Shape) :
    (s.elementCount? =
      if s.leadingLengths.prod < countLimit then some s.exactCount else none) ∧
    (∀ dtype elements, Tensor.build dtype s elements = .error (.shapeOverflow s) ↔
      countLimit ≤ s.leadingLengths.prod) ∧
    (s.exactCount ≠ 0 →
      s.elementCount? = (if s.exactCount < countLimit then some s.exactCount else none) ∧
      (∀ s' : Shape, s.lengths.Perm s'.lengths → s'.elementCount? = s.elementCount?) ∧
      ∀ dtype elements, s.exactCount = elements.length → elements.length < countLimit →
        Tensor.build dtype s elements = .ok ⟨dtype, s, elements⟩) := by
  refine ⟨elementCount?_eq s, fun _ _ => build_eq_shapeOverflow_iff,
    fun hne => ⟨elementCount?_of_exactCount hne, ?_, ?_⟩⟩
  · intro s' hperm
    have hsame := exactCount_eq_of_perm hperm
    rw [elementCount?_of_exactCount hne, elementCount?_of_exactCount (hsame ▸ hne), hsame]
  · intro dtype elements hcount hfits
    refine Tensor.build_eq_ok_iff.2 ⟨?_, rfl⟩
    rw [elementCount?_of_exactCount hne, hcount, if_pos hfits]

/-- The largest length twice, before or after a one. -/
theorem elementCount?_exact_large :
    let s : Shape := ⟨[4294967295, 4294967295, 1]⟩
    let s' : Shape := ⟨[1, 4294967295, 4294967295]⟩
    s.exactCount ≠ 0 ∧ s.lengths.Perm s'.lengths ∧
    s.elementCount? = some 18446744065119617025 ∧ s'.elementCount? = s.elementCount? ∧
    (⟨[2, 3]⟩ : Shape).exactCount = 6 ∧ 6 < countLimit ∧
    Tensor.build .bool ⟨[2, 3]⟩ (List.replicate 6 (.bool true)) =
      .ok ⟨.bool, ⟨[2, 3]⟩, List.replicate 6 (.bool true)⟩ := by
  intro s s'
  have hne : s.exactCount ≠ 0 := by decide
  have hperm : s.lengths.Perm s'.lengths := by decide
  have hsmall : (⟨[2, 3]⟩ : Shape).exactCount = 6 := rfl
  refine ⟨hne, hperm, (elementCount?_exact s).1.trans (if_pos (by decide)),
    ((elementCount?_exact s).2.2 hne).2.1 s' hperm, hsmall, by decide, ?_⟩
  exact ((elementCount?_exact ⟨[2, 3]⟩).2.2 (by decide)).2.2 .bool (List.replicate 6 (.bool true)) rfl
    (by decide)

/-- The count of a shape without elements overflows, and does not if the zero comes first. A tensor
of that shape cannot be built. -/
theorem elementCount?_of_late_zero :
    let s : Shape := ⟨[4294967295, 4294967295, 4294967295, 0]⟩
    let s' : Shape := ⟨[0, 4294967295, 4294967295, 4294967295]⟩
    s.exactCount = 0 ∧ s.exactCount < countLimit ∧ s.elementCount? = none ∧
    s.lengths.Perm s'.lengths ∧ s'.elementCount? = some 0 ∧
    s.exactCount = ([] : List Literal).length ∧
    Tensor.build .i64 s [] = .error (.shapeOverflow s) ∧
    Tensor.build .i64 s' [] = .ok ⟨.i64, s', []⟩ := by
  intro s s'
  exact ⟨rfl, by decide, by decide, by decide, by decide, rfl, rfl, rfl⟩

end CanonicalTypes.Shape
