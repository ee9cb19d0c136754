import CanonicalTypes.Proofs.Resolution.Outcomes
import CanonicalTypes.Proofs.System.Builtins
import CanonicalTypes.Proofs.Tensor.Stacking

/-!
# Rows of aggregates

A sequence that is resolved as such becomes the stack of what its elements become. Elements of
different kinds or shapes are refused. A tensor that foreign code returns need not hold as many
elements as its shape counts, and stacking counts all elements together: tensors that are too short
and too long by as much pass for rows (`aggregate_of_uneven_rows`). If each of them is counted by its
shape, then every one is found again as a block of the aggregate.

The main result is `aggregate_rows`.
-/
namespace CanonicalTypes

variable {ω κ η : Type} [ForeignObject ω] {h : Host ω κ η} {s : TypeSystem κ η}

/-- **What the rows of an aggregate are.** Let a sequence that is not empty be resolved to a
registered type, as a sequence, in whatever system and with whatever tensors that foreign code
returns. Then its elements have become tensors, all of the kind of the aggregate and of its shape
below the leading axis, which has the length of the sequence. The aggregate holds their elements in
order, as many as their common shape counts for so many rows. The tensors are equally long if and
only if each of them holds as many elements as its shape counts; and if so, then the aggregate is
made of blocks of this length, the `i`-th of which are the elements of the `i`-th tensor. -/
theorem aggregate_rows (items : List (Value ω)) (hne : items ≠ []) (target : CanonicalType)
    (ht : s.types.get? target.id = some target) {c : CanonicalValue ω}
    (hok : (resolveTraced h (.sequence items) target.id s).1.result = .ok c)
    (hstrategy : (resolveTraced h (.sequence items) target.id s).1.trace.strategy =
      some .sequence) :
    ∃ elementType s₁ slices s₂ t,
      OpensSequence h s.engine.config 0 items target s elementType s₁ ∧
      BecomeTensors h s.engine.config 1 elementType items s₁ slices s₂ ∧
      c = ⟨target.id, .tensor t⟩ ∧
      (∀ u ∈ slices, u.dtype = t.dtype ∧ t.shape.lengths = items.length :: u.shape.lengths) ∧
      t.elements = slices.flatMap Tensor.elements ∧
      (∀ u ∈ slices, t.elements.length = items.length * u.shape.exactCount) ∧
      ((∀ u ∈ slices, ∀ w ∈ slices, u.elements.length = w.elements.length) ↔
        ∀ u ∈ slices, u.elements.length = u.shape.exactCount) ∧
      ((∀ u ∈ slices, u.elements.length = u.shape.exactCount) →
        ∀ i u, slices[i]? = some u →
          (t.elements.drop (i * u.shape.exactCount)).take u.shape.exactCount = u.elements) := by
  rw [resolveTraced_fst ht] at hok hstrategy
  obtain rfl | ⟨elementType, s₁, slices, t, hopens, hitems, hstack, rfl⟩ :=
    slices_of_sequence hok hstrategy
  · exact absurd rfl hne
  have hof := Tensor.stackOf_of_stack hstack
  have hlength := hitems.length_eq
  refine ⟨elementType, s₁, slices, _, t, hopens, hitems, rfl, fun u hu => ⟨hof.dtype u hu, ?_⟩,
    hof.elements, fun u hu => ?_, hof.even_iff, fun hcount i u hi => ?_⟩
  · rw [hof.lengths u hu, hlength]
  · rw [hof.length_elements hu, hlength]
  · have hu := List.mem_of_getElem? hi
    have hall : ∀ w ∈ slices, w.elements.length = u.shape.exactCount := by
      intro w hw
      rw [hof.even_iff.2 hcount w hw u hu, hcount u hu]
    obtain ⟨hlt, hget⟩ := List.getElem?_eq_some_iff.1 hi
    rw [hof.elements, Tensor.take_drop_flatMap hall hlt, hget]

/-- The host of converters that each know one tensor. -/
def tensorHost : Host FixtureObject Tensor Unit :=
  .pure (fun t _ => .ok (.tensor t)) FixtureObject.canonicalize

/-- The system with the built-in types in which two kinds of objects become these tensors. -/
def rowSystem (first second : Tensor) : TypeSystem Tensor Unit :=
  run tensorHost (.new {} ()) [
    .installBuiltins,
    .registerConverter ⟨"conformance.Derived"⟩ "Tensor" (.hosted first) .default,
    .registerConverter ⟨"conformance.Unrelated"⟩ "Tensor" (.hosted second) .default]

/-- Two rows of two integers. -/
theorem aggregate_rows_two :
    let first : Tensor := ⟨.i64, ⟨[2]⟩, [.int 1, .int 2]⟩
    let second : Tensor := ⟨.i64, ⟨[2]⟩, [.int 3, .int 4]⟩
    let s := rowSystem first second
    let items : List (Value FixtureObject) := [.object .derived, .object .unrelated]
    let c : CanonicalValue FixtureObject :=
      ⟨⟨0⟩, .tensor ⟨.i64, ⟨[2, 2]⟩, [.int 1, .int 2, .int 3, .int 4]⟩⟩
    items ≠ [] ∧ s.types.get? Builtins.tensorType.id = some Builtins.tensorType ∧
    (resolveTraced tensorHost (.sequence items) Builtins.tensorType.id s).1.result = .ok c ∧
    (resolveTraced tensorHost (.sequence items) Builtins.tensorType.id s).1.trace.strategy =
      some .sequence ∧
    ∃ (slices : List Tensor) (t : Tensor), c.payload = .tensor t ∧
      t.elements = slices.flatMap Tensor.elements ∧
      (∀ u ∈ slices, u.dtype = t.dtype ∧ t.shape.lengths = 2 :: u.shape.lengths) ∧
      ∀ u ∈ slices, t.elements.length = 2 * u.shape.exactCount := by
  intro first second s items c
  have hne : items ≠ [] := by simp [items]
  have ht : s.types.get? Builtins.tensorType.id = some Builtins.tensorType := by decide +kernel
  have hok : (resolveTraced tensorHost (.sequence items) Builtins.tensorType.id s).1.result =
      .ok c := rfl
  have hstrategy : (resolveTraced tensorHost (.sequence items) Builtins.tensorType.id
      s).1.trace.strategy = some .sequence := by decide +kernel
  obtain ⟨_, _, slices, _, t, -, -, hc, hrows, helements, hcount, -⟩ :=
    aggregate_rows items hne Builtins.tensorType ht hok hstrategy
  exact ⟨hne, ht, hok, hstrategy, slices, t, by rw [hc], helements, hrows, hcount⟩

/-- A row of two that holds one element and a row of two that holds three are stacked: what has been
the second row's first element ends up in the first row. -/
theorem aggregate_of_uneven_rows :
    let first : Tensor := ⟨.i64, ⟨[2]⟩, [.int 1]⟩
    let second : Tensor := ⟨.i64, ⟨[2]⟩, [.int 2, .int 3, .int 4]⟩
    let s := rowSystem first second
    let resolveTensor := fun v : Value FixtureObject => (resolveTraced tensorHost v ⟨0⟩ s).1
    let whole := resolveTensor (.sequence [.object .derived, .object .unrelated])
    s.Reachable ∧
    (resolveTensor (.object .derived)).result = .ok ⟨⟨0⟩, .tensor first⟩ ∧
    (resolveTensor (.object .unrelated)).result = .ok ⟨⟨0⟩, .tensor second⟩ ∧
    whole.result = .ok ⟨⟨0⟩, .tensor ⟨.i64, ⟨[2, 2]⟩, [.int 1, .int 2, .int 3, .int 4]⟩⟩ ∧
    whole.trace.strategy = some .sequence ∧
    first.elements.length ≠ second.elements.length ∧
    [Literal.int 1, .int 2, .int 3, .int 4].take 2 ≠ first.elements := by
  intro first second s resolveTensor whole
  exact ⟨reachable_run (Host.pure_lawful _ _) {} () _, rfl, rfl, rfl, rfl, by decide, by decide⟩

end CanonicalTypes
