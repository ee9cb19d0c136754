import Mathlib.Data.List.Nodup

/-!
# Lists with keys

A table is kept as a list in which every item has a key of its own. What the list has for a key after
the items of a key have been taken out (`find?_filter_key`), what an item with a key does to the others
if it is put in their place (`nodup_keys_concat`), and what is found for a key (`find?_key_eq_some_iff`).
-/
namespace CanonicalTypes

variable {α β : Type*} {key : α → β} {items kept : List α} {a : α}

/-- Without the items of a key, that key has none, and every other key has what it had. -/
theorem find?_filter_key [DecidableEq β] (key : α → β) (items : List α) (k k' : β) :
    (items.filter fun a => !decide (key a = k)).find? (fun a => decide (key a = k')) =
      if k' = k then none else items.find? fun a => decide (key a = k') := by
  rw [List.find?_filter]
  split
  next heq => simp [heq]
  next hne =>
    congr 1
    funext a
    by_cases ha : key a = k'
    · simp [ha, hne]
    · simp [ha]

/-- An item can be added to others with other keys. -/
theorem nodup_keys_concat (hitems : (items.map key).Nodup) (hkept : kept.Sublist items)
    (hother : ∀ b ∈ kept, key b ≠ key a) : ((kept ++ [a]).map key).Nodup := by
  rw [List.map_append, List.map_singleton]
  refine List.nodup_append.2 ⟨hitems.sublist (hkept.map key), by simp, ?_⟩
  intro k hk k' hk'
  obtain ⟨b, hb, rfl⟩ := List.mem_map.1 hk
  rw [List.mem_singleton.1 hk']
  exact hother b hb

/-- What is found for a key is the item that has it. -/
theorem find?_key_eq_some_iff [DecidableEq β] (hitems : (items.map key).Nodup) {k : β} :
    items.find? (fun b => decide (key b = k)) = some a ↔ a ∈ items ∧ key a = k := by
  constructor
  · intro hfound
    have hkey := List.find?_some hfound
    exact ⟨List.mem_of_find?_eq_some hfound, of_decide_eq_true hkey⟩
  · rintro ⟨ha, rfl⟩
    cases hfound : items.find? fun b => decide (key b = key a) with
    | none =>
      have hnot := List.find?_eq_none.1 hfound a ha
      simp at hnot
    | some b =>
      have hkey := List.find?_some hfound
      have hmem := List.mem_of_find?_eq_some hfound
      rw [List.inj_on_of_nodup_map hitems hmem ha (of_decide_eq_true hkey)]

end CanonicalTypes
