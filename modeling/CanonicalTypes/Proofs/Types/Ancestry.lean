import CanonicalTypes.Proofs.Types.Registration
import CanonicalTypes.Types.Ancestry
import Mathlib.Logic.Relation

/-!
# Ancestors

`HasParent` is the edge that a walk goes along. The walk is bounded by the number of registered
types, and parents have smaller ids, so it is never cut short: it decides the transitive closure of
the edge (`isAncestor_iff`, `isSameOrAncestor_iff`). From there on being an ancestor is a matter of
chains. They can be put together (`isSameOrAncestor_trans`), they lead to smaller ids
(`isSameOrAncestor_index_le`), and since a type never gets another parent, what the ancestors of a
registered type are does not depend on what is registered later (`isAncestor_eq_of_prefix`).

The main result, `isAncestor_chains`, says this of every registry that has come about by
registrations: being an ancestor is a strict order, and what is above one type is a chain.
-/
namespace CanonicalTypes.TypeRegistry

open Relation (TransGen ReflTransGen)

variable {r r' : TypeRegistry} {id ancestor middle descendant : TypeId}

def HasParent (r : TypeRegistry) (child parent : TypeId) : Prop := r.parentOf? child = some parent

/-! ## Parents -/

theorem parentOf?_eq_of_prefix (hp : r.types <+: r'.types) (hid : id.index < r.size) :
    r'.parentOf? id = r.parentOf? id := by
  rw [parentOf?, get?_eq_of_prefix hp hid, parentOf?]

/-- Only registered types have a parent, and it has a smaller id. -/
theorem WellFormed.index_lt_of_hasParent (h : r.WellFormed) (hp : r.HasParent descendant ancestor) :
    ancestor.index < descendant.index ∧ descendant.index < r.size := by
  obtain ⟨t, ht, hparent⟩ := Option.bind_eq_some_iff.1 hp
  obtain ⟨hm, rfl⟩ := h.get?_eq_some_iff.1 ht
  exact ⟨h.parent_lt t hm ancestor hparent, h.index_lt hm⟩

/-! ## What the walk decides -/

@[simp] theorem walkMeets_none (steps : Nat) : r.walkMeets ancestor steps none = false := by
  cases steps <;> rfl

/-- A walk that may take a step for each smaller id meets exactly what a chain of parents leads
to. -/
theorem WellFormed.walkMeets_iff (h : r.WellFormed) {steps : Nat} (hid : id.index < steps) :
    r.walkMeets ancestor steps (some id) = true ↔ ReflTransGen r.HasParent id ancestor := by
  induction steps generalizing id with
  | zero => cases hid
  | succ steps ih =>
    rw [ReflTransGen.cases_head_iff]
    by_cases heq : id = ancestor
    · simp [walkMeets, heq]
    · simp only [walkMeets, heq, if_false, false_or]
      cases hparent : r.parentOf? id with
      | none => simp [HasParent, hparent]
      | some p =>
        -- The parent has a smaller id, so the steps that are left are enough.
        have hlt := (h.index_lt_of_hasParent hparent).1
        rw [ih (by omega)]
        simp [HasParent, hparent]

/-- A proper ancestor is what a chain of one or more parents leads to. -/
theorem WellFormed.isAncestor_iff (h : r.WellFormed) :
    r.isAncestor ancestor descendant = true ↔ TransGen r.HasParent descendant ancestor := by
  rw [isAncestor, Relation.TransGen.head'_iff]
  cases hparent : r.parentOf? descendant with
  | none => simp [HasParent, hparent]
  | some p =>
    obtain ⟨hlt, hsize⟩ := h.index_lt_of_hasParent hparent
    rw [h.walkMeets_iff (by omega)]
    simp [HasParent, hparent]

theorem WellFormed.isSameOrAncestor_iff (h : r.WellFormed) :
    r.isSameOrAncestor ancestor descendant = true ↔
      ReflTransGen r.HasParent descendant ancestor := by
  simp [isSameOrAncestor, Relation.reflTransGen_iff_eq_or_transGen, h.isAncestor_iff]

theorem WellFormed.isSameOrAncestor_trans (h : r.WellFormed)
    (ha : r.isSameOrAncestor ancestor middle = true)
    (hd : r.isSameOrAncestor middle descendant = true) :
    r.isSameOrAncestor ancestor descendant = true := by
  rw [h.isSameOrAncestor_iff] at ha hd ⊢
  exact hd.trans ha

/-- Ancestors are registered before their descendants. -/
theorem WellFormed.isSameOrAncestor_index_le (h : r.WellFormed)
    (ha : r.isSameOrAncestor ancestor descendant = true) : ancestor.index ≤ descendant.index := by
  rw [h.isSameOrAncestor_iff] at ha
  induction ha with
  | refl => exact Nat.le_refl _
  | tail _ hstep ih =>
    have hlt := (h.index_lt_of_hasParent hstep).1
    omega

/-! ## Later registrations -/

theorem HasParent.of_prefix (h : r.WellFormed) (hp : r.types <+: r'.types) {child parent : TypeId}
    (hparent : r.HasParent child parent) : r'.HasParent child parent := by
  rw [HasParent, parentOf?_eq_of_prefix hp (h.index_lt_of_hasParent hparent).2]
  exact hparent

/-- Ancestors remain ancestors. -/
theorem WellFormed.isSameOrAncestor_of_prefix (h : r.WellFormed) (h' : r'.WellFormed)
    (hp : r.types <+: r'.types) (ha : r.isSameOrAncestor ancestor descendant = true) :
    r'.isSameOrAncestor ancestor descendant = true := by
  rw [h.isSameOrAncestor_iff] at ha
  rw [h'.isSameOrAncestor_iff]
  exact ReflTransGen.mono (fun _ _ hparent => hparent.of_prefix h hp) _ _ ha

/-- A chain from a registered type stays among the types that were registered with it. -/
theorem WellFormed.transGen_of_prefix (h : r.WellFormed) (hp : r.types <+: r'.types)
    (hid : descendant.index < r.size) (hchain : TransGen r'.HasParent descendant ancestor) :
    TransGen r.HasParent descendant ancestor ∧ ancestor.index < r.size := by
  have hback : ∀ {child parent : TypeId}, child.index < r.size → r'.HasParent child parent →
      r.HasParent child parent ∧ parent.index < r.size := by
    intro child parent hchild hparent
    rw [HasParent, parentOf?_eq_of_prefix hp hchild] at hparent
    have hlt := (h.index_lt_of_hasParent hparent).1
    exact ⟨hparent, by omega⟩
  induction hchain with
  | single hstep =>
    obtain ⟨hs, hlt⟩ := hback hid hstep
    exact ⟨.single hs, hlt⟩
  | tail _ hstep ih =>
    obtain ⟨hs, hlt⟩ := hback ih.2 hstep
    exact ⟨ih.1.tail hs, hlt⟩

/-- **Later registrations do not change the ancestors of a registered type.** -/
theorem WellFormed.isAncestor_eq_of_prefix (h : r.WellFormed) (h' : r'.WellFormed)
    (hp : r.types <+: r'.types) (hid : descendant.index < r.size) :
    r'.isAncestor ancestor descendant = r.isAncestor ancestor descendant := by
  rw [Bool.eq_iff_iff, h'.isAncestor_iff, h.isAncestor_iff]
  constructor
  · exact fun hchain => (h.transGen_of_prefix hp hid hchain).1
  · exact TransGen.mono (fun _ _ hparent => hparent.of_prefix h hp) descendant ancestor

theorem WellFormed.isSameOrAncestor_eq_of_prefix (h : r.WellFormed) (h' : r'.WellFormed)
    (hp : r.types <+: r'.types) (hid : descendant.index < r.size) :
    r'.isSameOrAncestor ancestor descendant = r.isSameOrAncestor ancestor descendant := by
  rw [isSameOrAncestor, h.isAncestor_eq_of_prefix h' hp hid, isSameOrAncestor]

/-! ## The order of ancestors -/

/-- A type has one parent at most. -/
theorem hasParent_rightUnique : Relator.RightUnique r.HasParent := by
  intro child parent parent' h h'
  exact Option.some.inj (h.symm.trans h')

/-- Proper ancestors have smaller ids. -/
theorem WellFormed.index_lt_of_isAncestor (h : r.WellFormed)
    (ha : r.isAncestor ancestor descendant = true) : ancestor.index < descendant.index := by
  rw [h.isAncestor_iff, Relation.TransGen.tail'_iff] at ha
  obtain ⟨child, hchain, hstep⟩ := ha
  have hle := h.isSameOrAncestor_index_le (h.isSameOrAncestor_iff.2 hchain)
  have hlt := (h.index_lt_of_hasParent hstep).1
  omega

/-- Two types above the same one are the same, or one of them is above the other. -/
theorem WellFormed.isAncestor_comparable (h : r.WellFormed) {a b : TypeId}
    (ha : r.isAncestor a descendant = true) (hb : r.isAncestor b descendant = true) :
    a = b ∨ r.isAncestor a b = true ∨ r.isAncestor b a = true := by
  rw [h.isAncestor_iff] at ha hb
  have hchains := ReflTransGen.total_of_right_unique hasParent_rightUnique
    ha.to_reflTransGen hb.to_reflTransGen
  simp only [Relation.reflTransGen_iff_eq_or_transGen, ← h.isAncestor_iff] at hchains
  rcases hchains with (rfl | hab) | (rfl | hba)
  · exact .inl rfl
  · exact .inr (.inr hab)
  · exact .inl rfl
  · exact .inr (.inl hba)

/-- A walk that may take more steps meets nothing else. -/
theorem WellFormed.walkMeets_of_size_le (h : r.WellFormed) {steps : Nat} (hsteps : r.size ≤ steps) :
    r.walkMeets ancestor steps (r.parentOf? descendant) = r.isAncestor ancestor descendant := by
  rw [isAncestor]
  cases hparent : r.parentOf? descendant with
  | none => rw [walkMeets_none, walkMeets_none]
  | some p =>
    obtain ⟨hlt, hsize⟩ := h.index_lt_of_hasParent hparent
    rw [Bool.eq_iff_iff, h.walkMeets_iff (by omega), h.walkMeets_iff (by omega)]

theorem runCalls_append (calls later : List Call) :
    runCalls r (calls ++ later) = (r.runCalls calls).runCalls later :=
  List.foldl_append

/-- **The bounded walk decides the transitive closure of the parent.** After any calls on the empty
registry, accepted or refused, and for all ids, registered or not: the one is an ancestor of the other
if and only if it is reached from it by one or more steps to a parent, and a walk that may take more
steps finds nothing else. So no type is its own ancestor, ancestors of ancestors are ancestors, no two
types are above each other, and of two types above the same one, one is above the other. What is
registered later does not change the ancestors of a type that is registered already. -/
theorem isAncestor_chains (calls : List Call) :
    let r := runCalls {} calls
    (∀ a d : TypeId, r.isAncestor a d = true ↔ TransGen r.HasParent d a) ∧
    (∀ (a d : TypeId) (steps : Nat), r.size ≤ steps →
      r.walkMeets a steps (r.parentOf? d) = r.isAncestor a d) ∧
    (∀ a : TypeId, r.isAncestor a a = false) ∧
    (∀ a b c : TypeId, r.isAncestor a b = true → r.isAncestor b c = true →
      r.isAncestor a c = true) ∧
    (∀ a b : TypeId, r.isAncestor a b = true → r.isAncestor b a = false) ∧
    (∀ a b d : TypeId, r.isAncestor a d = true → r.isAncestor b d = true →
      a = b ∨ r.isAncestor a b = true ∨ r.isAncestor b a = true) ∧
    ∀ (later : List Call) (a d : TypeId), d.index < r.size →
      (runCalls {} (calls ++ later)).isAncestor a d = r.isAncestor a d := by
  intro r
  have h : r.WellFormed := runCalls_wellFormed calls
  have asymmetric : ∀ a b : TypeId, r.isAncestor a b = true → r.isAncestor b a = false := by
    intro a b hab
    have hlt := h.index_lt_of_isAncestor hab
    refine Bool.eq_false_iff.2 fun hba => ?_
    have hgt := h.index_lt_of_isAncestor hba
    omega
  refine ⟨fun a d => h.isAncestor_iff, fun a d steps => h.walkMeets_of_size_le, fun a => ?_, ?_,
    asymmetric, fun a b d => h.isAncestor_comparable, fun later a d hd => ?_⟩
  · exact Bool.eq_false_iff.2 fun haa => Nat.lt_irrefl _ (h.index_lt_of_isAncestor haa)
  · intro a b c hab hbc
    rw [h.isAncestor_iff] at hab hbc ⊢
    exact hbc.trans hab
  · rw [runCalls_append]
    obtain ⟨hw, hp⟩ := runCalls_grows h later
    exact h.isAncestor_eq_of_prefix hw hp hd

end CanonicalTypes.TypeRegistry
