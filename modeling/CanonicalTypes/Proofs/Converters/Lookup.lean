import CanonicalTypes.Converters.Basic
import CanonicalTypes.Proofs.Keyed

/-!
# Look-ups and generations of the converter registry

What a look-up can find (`lookup_eq_some`, `lookup_of_find?`), also after a registration, and the
order in which registries follow each other: `Precedes` says that the generation does not go back,
and that the contents are the same as long as the generation is. Every operation only moves on in
this order, so a generation stands for the contents that the registry had in it.
-/
namespace CanonicalTypes

namespace ConverterEntry

variable {κ : Type}

def pair (e : ConverterEntry κ) : ProducerType × TypeId := (e.producer, e.target)

theorem isFor_eq (e : ConverterEntry κ) (producer : ProducerType) (target : TypeId) :
    e.isFor producer target = decide (e.pair = (producer, target)) := by
  simp [isFor, pair]

end ConverterEntry

namespace ConverterRegistry

variable {κ : Type} {r r' r'' : ConverterRegistry κ} {e : ConverterEntry κ}
  {producer : ProducerType} {supertypes : List ProducerType} {target : TypeId}

/-! ## What is found -/

theorem find?_eq_some (h : r.find? producer target = some e) :
    e ∈ r.active ∧ e.producer = producer ∧ e.target = target := by
  have hfor := List.find?_some h
  simp only [ConverterEntry.isFor, Bool.and_eq_true, decide_eq_true_eq] at hfor
  exact ⟨List.mem_of_find?_eq_some h, hfor⟩

/-- A look-up finds the active converter of the producer or of one of the supertypes, to exactly
the target. -/
theorem lookup_eq_some (h : r.lookup producer supertypes target = some e) :
    e.producer ∈ producer :: supertypes ∧ e.target = target ∧
      r.find? e.producer target = some e := by
  obtain ⟨p, hp, he⟩ := List.exists_of_findSome?_eq_some h
  obtain ⟨-, rfl, ht⟩ := find?_eq_some he
  exact ⟨hp, ht, he⟩

/-- The converter of the exact pair is found whatever the supertypes are. -/
theorem lookup_of_find? (h : r.find? producer target = some e) (supertypes : List ProducerType) :
    r.lookup producer supertypes target = some e := by
  simp [lookup, h]

/-- Without supertypes only the exact pair is asked for. -/
theorem lookup_nil (r : ConverterRegistry κ) (producer : ProducerType) (target : TypeId) :
    r.lookup producer [] target = r.find? producer target := by
  simp [lookup]

/-- If nothing is found with some supertypes, then nothing is found without them. -/
theorem lookup_nil_of_none (hnone : r.lookup producer supertypes target = none) :
    r.lookup producer [] target = none := by
  rw [lookup_nil]
  cases hfind : r.find? producer target with
  | none => rfl
  | some e =>
    rw [lookup_of_find? hfind] at hnone
    cases hnone

theorem isFor_eq_false_iff {e : ConverterEntry κ} :
    e.isFor producer target = false ↔ ¬ (e.producer = producer ∧ e.target = target) := by
  simp [ConverterEntry.isFor]

/-- Without the converter of a pair, that pair has none, and every other pair has what it had. -/
theorem find?_without (r : ConverterRegistry κ) (producer : ProducerType) (target : TypeId)
    (p : ProducerType) (id : TypeId) :
    (r.without producer target).find? (·.isFor p id) =
      if p = producer ∧ id = target then none else r.find? p id := by
  simp only [without, find?, ConverterEntry.isFor_eq, find?_filter_key, Prod.mk.injEq]

/-- After a registration its pair has the new converter, and every other pair what it had. -/
theorem find?_register (r : ConverterRegistry κ) (producer : ProducerType) (target : CanonicalType)
    (action : ConverterAction κ) (priority : ConverterPriority) (p : ProducerType) (id : TypeId) :
    (r.register producer target action priority).2.find? p id =
      if p = producer ∧ id = target.id then
        some ⟨producer, target.id, target.name, r.nextSequence, priority, action⟩
      else r.find? p id := by
  simp only [find?, register, List.find?_append]
  rw [find?_without]
  split
  next hpair => simp [ConverterEntry.isFor, hpair]
  next hpair =>
    have hnew : ConverterEntry.isFor (⟨producer, target.id, target.name, r.nextSequence, priority,
        action⟩ : ConverterEntry κ) p id = false :=
      isFor_eq_false_iff.2 fun hfor => hpair ⟨hfor.1.symm, hfor.2.symm⟩
    simp [hnew, find?]

theorem find?_register_self (r : ConverterRegistry κ) (producer : ProducerType)
    (target : CanonicalType) (action : ConverterAction κ) (priority : ConverterPriority) :
    (r.register producer target action priority).2.find? producer target.id =
      some ⟨producer, target.id, target.name, r.nextSequence, priority, action⟩ := by
  simp [find?_register]

theorem find?_register_of_ne {p : ProducerType} (hp : p ≠ producer) (r : ConverterRegistry κ)
    (target : CanonicalType) (action : ConverterAction κ) (priority : ConverterPriority)
    (id : TypeId) :
    (r.register producer target action priority).2.find? p id = r.find? p id := by
  simp [find?_register, hp]

/-- After a removal its pair has no converter, and every other pair what it had. -/
theorem find?_deregister (r : ConverterRegistry κ) (producer : ProducerType) (target : TypeId)
    (p : ProducerType) (id : TypeId) :
    (r.deregister producer target).2.find? p id =
      if p = producer ∧ id = target then none else r.find? p id := by
  unfold deregister
  split
  next hnone =>
    split
    next hpair => rw [hpair.1, hpair.2, hnone]
    · rfl
  · exact find?_without r producer target p id

/-! ## The order of generations -/

/-- One registry is a later state of another, and the same one if the generation is the same. -/
def Precedes (r r' : ConverterRegistry κ) : Prop :=
  r.generation ≤ r'.generation ∧ (r.generation = r'.generation → r = r')

theorem Precedes.refl (r : ConverterRegistry κ) : r.Precedes r := ⟨Nat.le_refl _, fun _ => rfl⟩

theorem Precedes.trans (h : r.Precedes r') (h' : r'.Precedes r'') : r.Precedes r'' := by
  refine ⟨Nat.le_trans h.1 h'.1, fun he => ?_⟩
  have h₁ := h.1
  have h₂ := h'.1
  exact (h.2 (by omega)).trans (h'.2 (by omega))

theorem Precedes.of_lt (h : r.generation < r'.generation) : r.Precedes r' :=
  ⟨Nat.le_of_lt h, fun he => absurd he (Nat.ne_of_lt h)⟩

@[simp] theorem register_generation (r : ConverterRegistry κ) (producer : ProducerType)
    (target : CanonicalType) (action : ConverterAction κ) (priority : ConverterPriority) :
    (r.register producer target action priority).2.generation = r.generation + 1 := rfl

theorem register_precedes (r : ConverterRegistry κ) (producer : ProducerType)
    (target : CanonicalType) (action : ConverterAction κ) (priority : ConverterPriority) :
    r.Precedes (r.register producer target action priority).2 :=
  .of_lt (by simp)

/-- A removal moves the registry on, unless there is nothing to remove. -/
theorem deregister_precedes (r : ConverterRegistry κ) (producer : ProducerType) (target : TypeId) :
    r.Precedes (r.deregister producer target).2 := by
  unfold deregister
  split
  · exact .refl r
  · exact .of_lt (Nat.lt_succ_self _)

end ConverterRegistry

end CanonicalTypes
