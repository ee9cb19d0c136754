import CanonicalTypes.Types.Basic
import Mathlib.Data.List.Nodup

/-!
# The registry's list and its index of names

A registry keeps its types in a list, where the id of a type is its place, and an index from names
to ids. `Synced` says that the two are one and the same table with distinct names. It makes every
look-up a question about membership in the list (`get?_eq_some_iff`, `find?_eq_some_iff`), it is
kept by every added type (`Synced.add`), and it is why taking a suffix of types out again restores
the registry exactly (`truncate_eq_of_append`).
-/
namespace CanonicalTypes.TypeRegistry

/-- The list and the index hold the same table, in which ids are places and names are distinct. -/
structure Synced (r : TypeRegistry) : Prop where
  id_eq : ∀ i (t : CanonicalType), r.types[i]? = some t → t.id = ⟨i⟩
  names_nodup : r.names.Nodup
  byName_eq : r.byName = (r.types.map fun t => (t.name, t.id)).reverse

theorem synced_empty : Synced {} where
  id_eq := by simp
  names_nodup := List.nodup_nil
  byName_eq := rfl

variable {r r' : TypeRegistry}

/-- The list determines the index. -/
theorem Synced.eq_of_types (h : r.Synced) (h' : r'.Synced) (ht : r.types = r'.types) : r = r' := by
  have hn : r.byName = r'.byName := by rw [h.byName_eq, h'.byName_eq, ht]
  cases r
  cases r'
  simp only at ht hn
  rw [ht, hn]

/-! ## Looking types up -/

/-- Among distinct keys a look-up finds exactly the pairs of the list. -/
theorem lookup_eq_some_iff_mem {β : Type} {k : String} {b : β} :
    ∀ {l : List (String × β)}, (l.map Prod.fst).Nodup → (l.lookup k = some b ↔ (k, b) ∈ l)
  | [], _ => by simp
  | (k', b') :: l, h => by
    simp only [List.map_cons, List.nodup_cons] at h
    by_cases hk : k = k'
    · subst hk
      have hn : (k, b) ∉ l := fun hb => h.1 (List.mem_map.2 ⟨_, hb, rfl⟩)
      simp [hn, eq_comm]
    · have hk' : (k == k') = false := by simpa using hk
      rw [List.lookup_cons, hk', lookup_eq_some_iff_mem h.2]
      simp [hk]

theorem Synced.keys_eq (h : r.Synced) : r.byName.map Prod.fst = r.names.reverse := by
  simp [h.byName_eq, names, List.map_reverse, Function.comp_def]

theorem Synced.idOf?_eq_some_iff (h : r.Synced) {name : String} {id : TypeId} :
    r.idOf? name = some id ↔ ∃ t ∈ r.types, t.name = name ∧ t.id = id := by
  have hn : (r.byName.map Prod.fst).Nodup := by
    rw [h.keys_eq]
    exact List.nodup_reverse.2 h.names_nodup
  rw [idOf?, lookup_eq_some_iff_mem hn, h.byName_eq]
  simp

theorem Synced.idOf?_eq_none_iff (h : r.Synced) {name : String} :
    r.idOf? name = none ↔ name ∉ r.names := by
  rw [← Option.not_isSome_iff_eq_none, Option.isSome_iff_exists]
  simp [h.idOf?_eq_some_iff, names]

/-- By id the registry finds the type that has the id. -/
theorem Synced.get?_eq_some_iff (h : r.Synced) {id : TypeId} {t : CanonicalType} :
    r.get? id = some t ↔ t ∈ r.types ∧ t.id = id := by
  constructor
  · intro ht
    exact ⟨List.mem_of_getElem? ht, h.id_eq _ _ ht⟩
  · rintro ⟨ht, rfl⟩
    obtain ⟨i, hi⟩ := List.mem_iff_getElem?.1 ht
    rw [get?, h.id_eq i t hi]
    exact hi

theorem Synced.get?_id (h : r.Synced) {t : CanonicalType} (ht : t ∈ r.types) :
    r.get? t.id = some t :=
  h.get?_eq_some_iff.2 ⟨ht, rfl⟩

theorem Synced.id_of_get? (h : r.Synced) {id : TypeId} {t : CanonicalType}
    (ht : r.get? id = some t) : t.id = id :=
  (h.get?_eq_some_iff.1 ht).2

/-- By name the registry finds the type that has the name. -/
theorem Synced.find?_eq_some_iff (h : r.Synced) {name : String} {t : CanonicalType} :
    r.find? name = some t ↔ t ∈ r.types ∧ t.name = name := by
  simp only [find?, Option.bind_eq_some_iff, h.idOf?_eq_some_iff]
  constructor
  · rintro ⟨id, ⟨u, hu, rfl, rfl⟩, hg⟩
    rw [h.get?_id hu] at hg
    cases hg
    exact ⟨hu, rfl⟩
  · rintro ⟨ht, rfl⟩
    exact ⟨t.id, ⟨t, ht, rfl, rfl⟩, h.get?_id ht⟩

theorem Synced.index_lt (h : r.Synced) {t : CanonicalType} (ht : t ∈ r.types) :
    t.id.index < r.size :=
  (List.getElem?_eq_some_iff.1 (h.get?_id ht)).1

/-- What is found by id is registered. -/
theorem mem_of_get {id : TypeId} {t : CanonicalType} (h : r.get id = .ok t) : t ∈ r.types := by
  unfold get at h
  split at h
  next t' hget =>
    cases h
    exact List.mem_of_getElem? hget
  · cases h

/-- What is found by name is registered. -/
theorem mem_of_lookup {name : String} {t : CanonicalType} (h : r.lookup name = .ok t) :
    t ∈ r.types := by
  unfold lookup at h
  split at h
  next t' hfind =>
    cases h
    obtain ⟨id, -, hget⟩ := Option.bind_eq_some_iff.1 hfind
    exact List.mem_of_getElem? hget
  · cases h

/-- A type keeps its id when types are added. -/
theorem get?_of_prefix (hp : r.types <+: r'.types) {id : TypeId} {t : CanonicalType}
    (ht : r.get? id = some t) : r'.get? id = some t := by
  obtain ⟨added, ha⟩ := hp
  rw [get?, ← ha, List.getElem?_append_left (List.getElem?_eq_some_iff.1 ht).1]
  exact ht

theorem exists_get? {id : TypeId} (hid : id.index < r.size) : ∃ t, r.get? id = some t :=
  ⟨_, List.getElem?_eq_getElem hid⟩

theorem index_lt_of_get? {id : TypeId} {t : CanonicalType} (ht : r.get? id = some t) :
    id.index < r.size :=
  (List.getElem?_eq_some_iff.1 ht).1

theorem get?_eq_of_prefix (hp : r.types <+: r'.types) {id : TypeId} (hid : id.index < r.size) :
    r'.get? id = r.get? id := by
  obtain ⟨t, ht⟩ := exists_get? hid
  rw [ht, get?_of_prefix hp ht]

/-- A type keeps its name when types are added. -/
theorem Synced.find?_of_prefix (h : r.Synced) (h' : r'.Synced) (hp : r.types <+: r'.types)
    {name : String} {t : CanonicalType} (ht : r.find? name = some t) : r'.find? name = some t := by
  obtain ⟨hm, hn⟩ := h.find?_eq_some_iff.1 ht
  exact h'.find?_eq_some_iff.2 ⟨hp.subset hm, hn⟩

theorem Synced.exists_find? (h : r.Synced) {name : String} (hn : name ∈ r.names) :
    ∃ t, r.find? name = some t := by
  obtain ⟨t, ht, hname⟩ := List.mem_map.1 hn
  exact ⟨t, h.find?_eq_some_iff.2 ⟨ht, hname⟩⟩

/-! ## Adding types and taking them out again -/

theorem names_add (r : TypeRegistry) (t : CanonicalType) : (r.add t).names = r.names ++ [t.name] := by
  simp [names, add]

theorem size_add (r : TypeRegistry) (t : CanonicalType) : (r.add t).size = r.size + 1 := by
  simp [size, add]

/-- A type under a new name and the next id keeps list and index in step. -/
theorem Synced.add (h : r.Synced) {t : CanonicalType} (hid : t.id = ⟨r.size⟩)
    (hname : t.name ∉ r.names) : (r.add t).Synced where
  id_eq i u hu := by
    rcases Nat.lt_trichotomy i r.types.length with hi | rfl | hi
    · exact h.id_eq i u (by simpa [TypeRegistry.add, List.getElem?_append_left hi] using hu)
    · have hu' : u = t := by simpa [TypeRegistry.add] using hu.symm
      rw [hu']
      exact hid
    · simp [TypeRegistry.add, List.getElem?_eq_none (by simp; omega : (r.types ++ [t]).length ≤ i)]
        at hu
  names_nodup := by
    simp only [names, TypeRegistry.add, List.map_append, List.map_cons, List.map_nil]
    exact List.nodup_append.2 ⟨h.names_nodup, by simp, by
      intro a ha b hb e
      simp only [List.mem_singleton] at hb
      exact hname (hb ▸ e ▸ ha)⟩
  byName_eq := by simp [TypeRegistry.add, h.byName_eq]

theorem foldl_forget (names : List String) (index : List (String × TypeId)) :
    names.foldl forget index = index.filter fun entry => entry.1 ∉ names := by
  induction names generalizing index with
  | nil => simp
  | cons name rest ih =>
    rw [List.foldl_cons, ih, forget, List.filter_filter]
    exact List.filter_congr fun entry _ => by simp [Bool.and_comm]

/-- Taking out what was added behind a registry restores it, index and all. -/
theorem truncate_eq_of_append (h : r.Synced) (h' : r'.Synced) {added : List CanonicalType}
    (ha : r'.types = r.types ++ added) : r'.truncate r.size = r := by
  have hdis : ∀ t ∈ r.types, t.name ∉ added.map CanonicalType.name := by
    have hn := h'.names_nodup
    rw [names, ha, List.map_append, List.nodup_append] at hn
    exact fun t ht hm => hn.2.2 _ (List.mem_map_of_mem ht) _ hm rfl
  have htypes : r'.types.take r.size = r.types := by simp [ha, size]
  have hdrop : r'.types.drop r.size = added := by simp [ha, size]
  have hindex : (added.map CanonicalType.name).foldl forget r'.byName = r.byName := by
    rw [foldl_forget, h'.byName_eq, h.byName_eq, ha, List.map_append, List.reverse_append,
      List.filter_append, List.filter_eq_nil_iff.2, List.nil_append, List.filter_eq_self]
    · simpa using hdis
    · simp
      exact fun t ht => ⟨t, ht, rfl⟩
  simp only [truncate, htypes, hdrop, hindex]

end CanonicalTypes.TypeRegistry
