import CanonicalTypes.Proofs.Tensor.Stacking
import CanonicalTypes.Value.Basic

/-!
# Nested lists and the arrays that they spell

A `Nested` list is a finite tree of literals. Its `Frame` is the kind and the axis lengths of the
rectangular array that it spells out: a row of items has one if and only if they all have the same,
and the row without items is one of floating-point numbers. A tensor is spelled by a nested list
(`Spells`) if it has this frame, the leaves in order, and a shape that can be counted.

`spells_cons_iff` is the step from the items to the row: a row spells exactly the stacks of what its
items spell.
-/
namespace CanonicalTypes

/-- A literal, or a list of nested lists. -/
inductive Nested where
  | leaf (literal : Literal)
  | list (items : List Nested)

/-- The kind of an array's elements, and its axis lengths, outermost first. -/
structure Frame where
  kind : DType
  lengths : List Nat
  deriving DecidableEq

/-- The frame of a row, by those of its items. -/
def Frame.row? : List (Option Frame) → Option Frame
  | [] => some ⟨.f64, [0]⟩
  | first :: rest =>
    if ∀ f ∈ rest, f = first then first.map fun f => ⟨f.kind, (rest.length + 1) :: f.lengths⟩
    else none

namespace Nested

variable {α ω : Type} {items rest : List Nested} {first : Nested}

/-! ## Folding -/

mutual

/-- What a nested list comes to, by what is done with a literal and with the results of items. -/
def fold (leaf : Literal → α) (list : List α → α) : Nested → α
  | .leaf literal => leaf literal
  | .list items => list (foldItems leaf list items)

def foldItems (leaf : Literal → α) (list : List α → α) : List Nested → List α
  | [] => []
  | n :: rest => n.fold leaf list :: foldItems leaf list rest

end

theorem foldItems_eq_map (leaf : Literal → α) (list : List α → α) (items : List Nested) :
    foldItems leaf list items = items.map (fold leaf list) := by
  induction items with
  | nil => rfl
  | cons n rest ih => rw [foldItems, ih, List.map_cons]

theorem fold_list (leaf : Literal → α) (list : List α → α) (items : List Nested) :
    fold leaf list (.list items) = list (items.map (fold leaf list)) := by
  rw [fold, foldItems_eq_map]

/-- What holds of literals, and of a list if it holds of its items, holds of every nested list. -/
@[elab_as_elim, induction_eliminator]
theorem induction {motive : Nested → Prop} (leaf : ∀ literal, motive (.leaf literal))
    (list : ∀ items, (∀ n ∈ items, motive n) → motive (.list items)) (n : Nested) : motive n :=
  @Nested.rec motive (fun items => ∀ n ∈ items, motive n) leaf list
    (fun _ h => nomatch h) (fun _ _ hn hrest => List.forall_mem_cons.2 ⟨hn, hrest⟩) n

/-- How deep lists are nested: a list is one higher than its highest item. -/
def height : Nested → Nat := fold (fun _ => 0) fun heights => 1 + heights.foldr max 0

/-- The frame of the rectangular array that is spelled out, if there is one. -/
def frame? : Nested → Option Frame := fold (fun literal => some ⟨literal.dtype, []⟩) Frame.row?

def leaves : Nested → List Literal := fold (fun literal => [literal]) List.flatten

/-- The native scalars and sequences that spell a nested list. -/
def toValue : Nested → Value ω := fold .scalar .sequence

@[simp] theorem height_leaf (literal : Literal) : (leaf literal).height = 0 := rfl

@[simp] theorem frame?_leaf (literal : Literal) :
    (leaf literal).frame? = some ⟨literal.dtype, []⟩ := rfl

@[simp] theorem leaves_leaf (literal : Literal) : (leaf literal).leaves = [literal] := rfl

@[simp] theorem toValue_leaf (literal : Literal) :
    (leaf literal).toValue = (.scalar literal : Value ω) := rfl

@[simp] theorem toValue_list (items : List Nested) :
    (list items).toValue = (.sequence (items.map toValue) : Value ω) := fold_list _ _ _

@[simp] theorem leaves_list (items : List Nested) : (list items).leaves = items.flatMap leaves := by
  rw [leaves, fold_list, List.flatMap_def]

theorem height_list (items : List Nested) :
    (list items).height = 1 + (items.map height).foldr max 0 :=
  fold_list _ _ _

theorem foldr_max_le_iff {heights : List Nat} {m : Nat} :
    heights.foldr max 0 ≤ m ↔ ∀ height ∈ heights, height ≤ m := by
  induction heights with
  | nil => simp
  | cons height rest ih => rw [List.foldr_cons, Nat.max_le, ih, List.forall_mem_cons]

theorem height_list_le_iff {m : Nat} :
    (list items).height ≤ m ↔ 0 < m ∧ ∀ n ∈ items, n.height ≤ m - 1 := by
  have hitems : (items.map height).foldr max 0 ≤ m - 1 ↔ ∀ n ∈ items, n.height ≤ m - 1 := by
    rw [foldr_max_le_iff, List.forall_mem_map]
  rw [height_list, ← hitems]
  omega

/-! ## Frames -/

@[simp] theorem frame?_nil : (list []).frame? = some ⟨.f64, [0]⟩ := rfl

/-- A row that is not empty has a frame if and only if its items have one in common. -/
theorem frame?_cons_eq_some_iff {f : Frame} :
    (list (first :: rest)).frame? = some f ↔
      ∃ g, (∀ n ∈ first :: rest, n.frame? = some g) ∧
        f = ⟨g.kind, (rest.length + 1) :: g.lengths⟩ := by
  have hrow : (list (first :: rest)).frame? =
      if ∀ n ∈ rest, n.frame? = first.frame? then
        first.frame?.map fun f => ⟨f.kind, (rest.length + 1) :: f.lengths⟩ else none := by
    rw [frame?, fold_list]
    simp [Frame.row?]
  rw [hrow]
  cases hfirst : first.frame? with
  | none => simp [hfirst]
  | some g =>
    simp only [List.forall_mem_cons, hfirst, Option.some.injEq, Option.map_some,
      Option.ite_none_right_eq_some]
    constructor
    · rintro ⟨hrest, rfl⟩
      exact ⟨g, ⟨rfl, hrest⟩, rfl⟩
    · rintro ⟨_, ⟨rfl, hrest⟩, rfl⟩
      exact ⟨hrest, rfl⟩

/-- A row without items counts as a row of floating-point numbers. -/
example :
    (list [list [], list []]).frame? = some ⟨.f64, [2, 0]⟩ ∧
    (list [list [leaf (.float 0)], list []]).frame? = none ∧
    (list [leaf (.int 1), leaf (.bool true)]).frame? = none := by
  decide

/-- The frame of a nested list counts its leaves. -/
theorem leaves_length {n : Nested} {f : Frame} (hf : n.frame? = some f) :
    n.leaves.length = f.lengths.prod := by
  induction n generalizing f with
  | leaf literal =>
    cases hf
    rfl
  | list items ih =>
    cases items with
    | nil =>
      cases hf
      rfl
    | cons first rest =>
      obtain ⟨g, hg, rfl⟩ := frame?_cons_eq_some_iff.1 hf
      have hitems : (first :: rest).map (fun n => n.leaves.length) =
          List.replicate (rest.length + 1) g.lengths.prod :=
        List.eq_replicate_iff.2 ⟨by simp, by simpa using fun n hn => ih n hn (hg n hn)⟩
      rw [leaves_list, List.length_flatMap, hitems, List.sum_replicate_nat,
        List.prod_cons]

/-! ## What is spelled -/

/-- The tensor is the array that a nested list spells out, and its shape can be counted. -/
structure Spells (n : Nested) (t : Tensor) : Prop where
  frame : n.frame? = some ⟨t.dtype, t.shape.lengths⟩
  fits : Shape.ProductsFit t.shape.lengths
  elements : t.elements = n.leaves

variable {t u : Tensor}

/-- A nested list spells at most one tensor. -/
theorem Spells.unique {n : Nested} (ht : n.Spells t) (hu : n.Spells u) : t = u := by
  obtain ⟨dtype, shape, elements⟩ := t
  obtain ⟨dtype', shape', elements'⟩ := u
  have hframe := Option.some.inj (ht.frame.symm.trans hu.frame)
  obtain ⟨rfl, hlengths⟩ := Frame.mk.inj hframe
  obtain rfl := Shape.lengths_injective hlengths
  obtain rfl : elements = elements' := ht.elements.trans hu.elements.symm
  rfl

theorem spells_scalar (literal : Literal) : (leaf literal).Spells (Tensor.scalar literal) where
  frame := rfl
  fits := (Shape.elementCount?_eq_some_iff.1 Shape.elementCount?_scalar).2
  elements := rfl

theorem spells_empty : (list []).Spells (Tensor.empty .f64) where
  frame := rfl
  fits := (Shape.elementCount?_eq_some_iff.1 (rfl : (Shape.vector 0).elementCount? = some 0)).2
  elements := rfl

/-- A frame whose lengths are axis lengths is that of a tensor. -/
theorem exists_spells {n : Nested} {f : Frame} (hf : n.frame? = some f)
    (hlengths : ∀ length ∈ f.lengths, length < UInt32.size) (hfits : Shape.ProductsFit f.lengths) :
    ∃ t, n.Spells t := by
  have hshape : (Shape.mk (f.lengths.map Nat.toUInt32)).lengths = f.lengths := by
    rw [Shape.lengths, List.map_map]
    exact (List.map_congr_left fun length hl => Nat.mod_eq_of_lt (hlengths length hl)).trans
      (List.map_id' f.lengths)
  refine ⟨⟨f.kind, ⟨f.lengths.map Nat.toUInt32⟩, n.leaves⟩, ?_, ?_, rfl⟩
  · rw [hf, hshape]
  · rw [hshape]
    exact hfits

/-- Slices of one kind and shape that are spelled by items have the frames and leaves of these. -/
theorem frames_of_spelled {slices : List Tensor} (hspells : List.Forall₂ Spells items slices)
    (hall : ∀ u ∈ slices, u.dtype = t.dtype ∧ u.shape = t.shape) :
    (∀ n ∈ items, n.frame? = some ⟨t.dtype, t.shape.lengths⟩) ∧
      slices.flatMap Tensor.elements = items.flatMap leaves := by
  induction hspells with
  | nil => simp
  | @cons n u items slices hn _ ih =>
    obtain ⟨⟨hdtype, hshape⟩, hrest⟩ := List.forall_mem_cons.1 hall
    obtain ⟨hframes, hleaves⟩ := ih hrest
    rw [List.forall_mem_cons, List.flatMap_cons, List.flatMap_cons, hleaves, hn.elements, hn.frame,
      hdtype, hshape]
    exact ⟨⟨rfl, hframes⟩, rfl⟩

/-- A row spells the stack of what its items spell. -/
theorem spells_cons_iff :
    (list (first :: rest)).Spells t ↔
      ∃ slices, List.Forall₂ Spells (first :: rest) slices ∧ Tensor.stack slices = .ok t := by
  constructor
  · intro ht
    obtain ⟨g, hg, hframe⟩ := frame?_cons_eq_some_iff.1 ht.frame
    obtain ⟨hkind, hlengths⟩ := Frame.mk.inj hframe
    obtain ⟨dim, dims, hdims, -, hinner⟩ := List.map_eq_cons_iff.1 hlengths
    -- Below the row, all items have its other axes.
    have hitems : ∀ n ∈ first :: rest, n.Spells ⟨t.dtype, ⟨dims⟩, n.leaves⟩ := by
      intro n hn
      refine ⟨?_, ?_, rfl⟩
      · rw [hg n hn, hkind, Shape.lengths, hinner]
      · rw [Shape.lengths, hinner]
        exact .of_cons (hlengths ▸ ht.fits) (Nat.succ_pos _)
    refine ⟨(first :: rest).map fun n => ⟨t.dtype, ⟨dims⟩, n.leaves⟩, ?_, ?_⟩
    · rw [List.forall₂_map_right_iff, List.forall₂_same]
      exact hitems
    · rw [List.map_cons, Tensor.stack_cons_eq_ok_iff]
      refine ⟨by simp, rfl, ?_, ?_, Shape.elementCount?_eq_some_iff.2 ⟨?_, ht.fits⟩⟩
      · rw [hlengths, List.length_map, Shape.lengths, hinner]
      · simp [ht.elements, List.flatMap_map]
      · rw [ht.elements]
        exact leaves_length ht.frame
  · rintro ⟨slices, hspells, hstack⟩
    cases hspells with
    | @cons _ u _ slices hu hrest =>
    obtain ⟨hall, hdtype, hlengths, helements, hcount⟩ := Tensor.stack_cons_eq_ok_iff.1 hstack
    obtain ⟨hframes, hleaves⟩ := frames_of_spelled (.cons hu hrest)
      (List.forall_mem_cons.2 ⟨⟨rfl, rfl⟩, hall⟩)
    refine ⟨?_, (Shape.elementCount?_eq_some_iff.1 hcount).2, ?_⟩
    · rw [hdtype, hlengths, ← hrest.length_eq]
      exact frame?_cons_eq_some_iff.2 ⟨_, hframes, rfl⟩
    · rw [helements, hleaves, leaves_list]

end Nested

end CanonicalTypes
