import CanonicalTypes.Proofs.Tensor.Stacking

/-!
# Stacking and cutting into blocks

What `Tensor.stack` answers for any list of slices: if all stack with the first slice, then the
answer is that of building the whole (`stack_of_uniform`), and else the first that does not makes it
fail. There is no third case. A stack of slices that are counted by their shapes is cut into them
again (`blocks_of_stackOf`).

The main result is `stack_characterized`.
-/
namespace CanonicalTypes

/-- The shape of so many slices on top of each other. -/
def Shape.stacked (count : Nat) (s : Shape) : Shape := ⟨count.toUInt32 :: s.dims⟩

namespace Tensor

/-- The blocks of a tensor along its leading axis, each as large as the axes below it ask for. -/
def blocks (t : Tensor) : List Tensor :=
  match t.shape.dims with
  | [] => []
  | count :: dims =>
    let size := Shape.exactCount ⟨dims⟩
    (List.range count.toNat).map fun i =>
      ⟨t.dtype, ⟨dims⟩, (t.elements.drop (i * size)).take size⟩

variable {first t u : Tensor} {pre post rest slices : List Tensor}

/-! ## Slices that stack with the first -/

theorem stack_of_uniform (hall : ∀ w ∈ rest, first.StacksWith w)
    (hlen : (first :: rest).length < UInt32.size) :
    stack (first :: rest) =
      build first.dtype (first.shape.stacked (first :: rest).length)
        ((first :: rest).flatMap Tensor.elements) := by
  have hmax : rest.length + 1 ≤ maxSlices := Nat.le_sub_one_of_lt hlen
  rw [stack, (collectSlices_eq_ok_iff 1).2 ⟨hall, rfl⟩]
  exact if_pos hmax

/-! ## Cutting a stack -/

theorem blocks_of_stackOf (hstack : t.StackOf slices) (hne : slices ≠ [])
    (hcount : ∀ u ∈ slices, u.shape.exactCount = u.elements.length) : t.blocks = slices := by
  obtain ⟨first, rest, rfl⟩ := List.exists_cons_of_ne_nil hne
  have hlengths := hstack.lengths first List.mem_cons_self
  unfold blocks
  cases hdims : t.shape.dims with
  | nil => simp [Shape.lengths, hdims] at hlengths
  | cons count dims =>
    have hsplit : t.shape.lengths = count.toNat :: Shape.lengths ⟨dims⟩ := by
      rw [Shape.lengths, hdims, List.map_cons, Shape.lengths]
    have hshape : ∀ u ∈ first :: rest, u.shape = ⟨dims⟩ := by
      intro u hu
      have hu := (hstack.lengths u hu).symm.trans hsplit
      exact Shape.lengths_injective (List.cons.inj hu).2
    have hsize : ∀ u ∈ first :: rest, u.elements.length = Shape.exactCount ⟨dims⟩ := by
      intro u hu
      rw [← hcount u hu, hshape u hu]
    -- All slices are equally long, so block `i` starts where slice `i` does.
    refine List.ext_getElem ?_ fun i hi hi' => ?_
    · rw [List.length_map, List.length_range]
      exact (List.cons.inj (hsplit.symm.trans hlengths)).1
    · have hmem := List.getElem_mem hi'
      rw [List.getElem_map, List.getElem_range, hstack.elements, take_drop_flatMap hsize hi',
        ← hstack.dtype _ hmem, ← hshape _ hmem]

/-! ## What stacking answers -/

theorem exists_stack_cons_iff (hlen : (first :: rest).length < UInt32.size) :
    (∃ t, stack (first :: rest) = .ok t) ↔
      (∀ w ∈ rest, first.StacksWith w) ∧
        (first.shape.stacked (first :: rest).length).elementCount? =
          some ((first :: rest).flatMap Tensor.elements).length := by
  constructor
  · rintro ⟨t, ht⟩
    have hall : ∀ w ∈ rest, first.StacksWith w := (stack_cons_eq_ok_iff.1 ht).1
    rw [stack_of_uniform hall hlen] at ht
    exact ⟨hall, (build_eq_ok_iff.1 ht).1⟩
  · rintro ⟨hall, hcount⟩
    rw [stack_of_uniform hall hlen]
    exact ⟨_, build_eq_ok_iff.2 ⟨hcount, rfl⟩⟩

theorem stack_cons_eq_error_iff (hlen : (first :: rest).length < UInt32.size) {e : ValueError} :
    stack (first :: rest) = .error e ↔
      (∃ pre u post, rest = pre ++ u :: post ∧ (∀ w ∈ pre, first.StacksWith w) ∧
        ¬ first.StacksWith u ∧ e = first.mismatch (pre.length + 1) u) ∨
      (∀ w ∈ rest, first.StacksWith w) ∧
        let shape := first.shape.stacked (first :: rest).length
        let total := ((first :: rest).flatMap Tensor.elements).length
        (shape.elementCount? = none ∧ e = .shapeOverflow shape ∨
          ∃ count, shape.elementCount? = some count ∧ count ≠ total ∧
            e = .elementCountMismatch shape count total) := by
  constructor
  · intro h
    obtain hall | ⟨pre, u, post, rfl, hpre, hu⟩ := uniform_or_offender first rest
    · rw [stack_of_uniform hall hlen] at h
      exact .inr ⟨hall, build_eq_error_iff.1 h⟩
    · rw [stack_of_offender hpre hu, Except.error.injEq] at h
      exact .inl ⟨pre, u, post, rfl, hpre, hu, h.symm⟩
  · rintro (⟨pre, u, post, rfl, hpre, hu, rfl⟩ | ⟨hall, hcount⟩)
    · exact stack_of_offender hpre hu
    · rw [stack_of_uniform hall hlen]
      exact build_eq_error_iff.2 hcount

/-- **Stacking, for every list of slices.** Of fewer slices than an axis can be long, whatever they
hold: they stack if and only if there are any, all have the kind and the shape of the first, and the
count of their number before its lengths does not overflow and is that of all elements together. The
stack then has their kind, their number before their lengths, and their elements in order; and if
each slice is counted by its shape, it is cut into the slices again. Otherwise the error says that
there are none, or tells of the first slice that differs from the first one, its kind before its
shape, or is that of the count. -/
theorem stack_characterized (slices : List Tensor) (hlen : slices.length < UInt32.size) :
    ((∃ t, stack slices = .ok t) ↔ ∃ first rest, slices = first :: rest ∧
      (∀ w ∈ rest, first.StacksWith w) ∧
      (first.shape.stacked slices.length).elementCount? =
        some (slices.flatMap Tensor.elements).length) ∧
    (∀ t, stack slices = .ok t →
      (∀ u ∈ slices, t.dtype = u.dtype ∧ t.shape.lengths = slices.length :: u.shape.lengths) ∧
      t.elements = slices.flatMap Tensor.elements ∧
      ((∀ u ∈ slices, u.shape.exactCount = u.elements.length) → t.blocks = slices)) ∧
    ∀ e, stack slices = .error e ↔
      slices = [] ∧ e = .emptyAxisStack ∨
      ∃ first rest, slices = first :: rest ∧
        ((∃ pre u post, rest = pre ++ u :: post ∧ (∀ w ∈ pre, first.StacksWith w) ∧
            ¬ first.StacksWith u ∧ e = first.mismatch (pre.length + 1) u) ∨
          (∀ w ∈ rest, first.StacksWith w) ∧
            let shape := first.shape.stacked slices.length
            let total := (slices.flatMap Tensor.elements).length
            (shape.elementCount? = none ∧ e = .shapeOverflow shape ∨
              ∃ count, shape.elementCount? = some count ∧ count ≠ total ∧
                e = .elementCountMismatch shape count total)) := by
  refine ⟨?_, fun t ht => ?_, fun e => ?_⟩
  · cases slices with
    | nil => simp [stack]
    | cons first rest =>
      rw [exists_stack_cons_iff hlen]
      constructor
      · rintro ⟨hall, hcount⟩
        exact ⟨first, rest, rfl, hall, hcount⟩
      · rintro ⟨_, _, heq, hall, hcount⟩
        cases heq
        exact ⟨hall, hcount⟩
  · have hstack := stackOf_of_stack ht
    have hne : slices ≠ [] := by
      rintro rfl
      cases ht
    exact ⟨fun u hu => ⟨(hstack.dtype u hu).symm, hstack.lengths u hu⟩, hstack.elements,
      blocks_of_stackOf hstack hne⟩
  · cases slices with
    | nil => simp [stack, eq_comm]
    | cons first rest =>
      rw [stack_cons_eq_error_iff hlen]
      constructor
      · intro h
        exact .inr ⟨first, rest, rfl, h⟩
      · rintro (⟨hnil, -⟩ | ⟨_, _, heq, h⟩)
        · cases hnil
        · cases heq
          exact h

/-- Two rows of two are stacked and cut again. Of a third of another kind and shape, the kind is
reported. -/
theorem stack_characterized_rows :
    let row : Tensor := ⟨.i64, ⟨[2]⟩, [.int 1, .int 2]⟩
    let other : Tensor := ⟨.i64, ⟨[2]⟩, [.int 3, .int 4]⟩
    let odd : Tensor := ⟨.f64, ⟨[3]⟩, []⟩
    [row, other].length < UInt32.size ∧ [row, other, odd].length < UInt32.size ∧
    (∃ t, stack [row, other] = .ok t ∧ t.shape.lengths = [2, 2] ∧
      t.elements = [.int 1, .int 2, .int 3, .int 4] ∧ t.blocks = [row, other]) ∧
    stack [row, other, odd] = .error (.axisStackDTypeMismatch 2 .i64 .f64) := by
  intro row other odd
  have htwo : [row, other].length < UInt32.size := by decide
  have hthree : [row, other, odd].length < UInt32.size := by decide
  obtain ⟨hok, hrows, -⟩ := stack_characterized [row, other] htwo
  obtain ⟨-, -, herror⟩ := stack_characterized [row, other, odd] hthree
  obtain ⟨t, ht⟩ := hok.2 ⟨row, [other], rfl, by simp [StacksWith, row, other], by decide⟩
  obtain ⟨hshapes, helements, hblocks⟩ := hrows t ht
  refine ⟨htwo, hthree, ⟨t, ht, (hshapes row (by simp)).2, helements, hblocks ?_⟩, ?_⟩
  · simp only [List.forall_mem_cons]
    exact ⟨rfl, rfl, by simp⟩
  · refine (herror _).2 (.inr ⟨row, [other, odd], rfl, .inl ⟨[other], odd, [], rfl, ?_, ?_, rfl⟩⟩)
    · simp [StacksWith, row, other]
    · simp [StacksWith, row, odd]

end Tensor

end CanonicalTypes
