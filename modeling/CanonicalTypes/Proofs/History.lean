import Mathlib.Data.List.Basic

/-!
# The latest of its kind

Objects that are described by the calls that were made on them often depend on the latest call of some
kind. `LatestIn` says that a history has such an item: one with a property, which may speak of what
came before it, and after which nothing has happened that would take its place. Where each call may give one
value, the latest is the last of all values given (`getLast?_filterMap_concat`).
-/
namespace CanonicalTypes

variable {α β : Type*} {P : List α → α → Prop} {Q : α → Prop} {history : List α}

/-- An item of the history is `P`, given the items before it, and all later items are `Q`. -/
def LatestIn (P : List α → α → Prop) (Q : α → Prop) (history : List α) : Prop :=
  ∃ before a after, history = before ++ a :: after ∧ P before a ∧ ∀ b ∈ after, Q b

/-- An item of a history that goes on by one is the new one, or is followed by it. -/
theorem concat_eq_append_cons_iff {history before after : List α} {a b : α} :
    history ++ [b] = before ++ a :: after ↔
      (before = history ∧ a = b ∧ after = []) ∨
        ∃ middle, after = middle ++ [b] ∧ history = before ++ a :: middle := by
  constructor
  · intro hsplit
    rcases List.eq_nil_or_concat after with rfl | ⟨middle, last, rfl⟩
    · obtain ⟨rfl, heq⟩ := List.append_inj' hsplit rfl
      exact .inl ⟨rfl, (List.singleton_inj.1 heq).symm, rfl⟩
    · rw [List.concat_eq_append, ← List.cons_append, ← List.append_assoc] at hsplit
      obtain ⟨rfl, heq⟩ := List.append_inj' hsplit rfl
      rw [List.concat_eq_append, List.singleton_inj.1 heq]
      exact .inr ⟨middle, rfl, rfl⟩
  · rintro (⟨rfl, rfl, rfl⟩ | ⟨middle, rfl, rfl⟩)
    · rfl
    · simp

theorem not_latestIn_nil : ¬ LatestIn P Q [] := by
  rintro ⟨before, a, after, hsplit, -⟩
  simp at hsplit

/-- The newest item is the latest one, or leaves the latest one before it in its place. -/
theorem latestIn_concat {a : α} :
    LatestIn P Q (history ++ [a]) ↔ P history a ∨ Q a ∧ LatestIn P Q history := by
  constructor
  · rintro ⟨before, b, after, hsplit, hP, hQ⟩
    rcases concat_eq_append_cons_iff.1 hsplit with ⟨rfl, rfl, rfl⟩ | ⟨middle, rfl, rfl⟩
    · exact .inl hP
    · refine .inr ⟨hQ a (by simp), before, b, middle, rfl, hP, fun c hc => hQ c ?_⟩
      exact List.mem_append_left _ hc
  · rintro (hP | ⟨hQ, before, b, after, rfl, hP, hafter⟩)
    · exact ⟨history, a, [], rfl, hP, by simp⟩
    · refine ⟨before, b, after ++ [a], by simp, hP, fun c hc => ?_⟩
      rcases List.mem_append.1 hc with hc | hc
      · exact hafter c hc
      · rw [List.mem_singleton.1 hc]
        exact hQ

/-- The newest item gives the latest value, or leaves the latest one before it in its place. -/
theorem getLast?_filterMap_concat (f : α → Option β) (history : List α) (a : α) :
    ((history ++ [a]).filterMap f).getLast? = (f a).or (history.filterMap f).getLast? := by
  rw [List.filterMap_append, List.getLast?_append]
  cases h : f a <;> simp [h]

end CanonicalTypes
