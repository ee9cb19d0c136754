import CanonicalTypes.Proofs.Types.Index

/-!
# What registering types can do

`register_eq_ok` says all that an accepted registration does, `registerEach_grows` and
`registerAll_cases` the same of a batch: it either goes through and only adds types, or leaves the
registry as it was. A `Call` is either of the two operations, `runCalls` any sequence of them,
accepted or refused. The main result is `runCalls_wellFormed`: after every sequence of calls on the
empty registry the list and the index agree, parents come before their children and sequence
elements are the declared types.
-/
namespace CanonicalTypes.TypeRegistry

/-- Whether a type's sequence element is the one that its descriptor declares. -/
def ElementDeclared (r : TypeRegistry) (t : CanonicalType) : Prop :=
  match t.descriptor.sequenceFallback, t.sequenceElement with
  | none, none => True
  | some fallback, some e =>
    e.index ≤ t.id.index ∧ ∃ u, r.get? e = some u ∧ u.name = fallback.element
  | _, _ => False

/-- What every registry satisfies that was built by registering types. -/
structure WellFormed (r : TypeRegistry) : Prop extends r.Synced where
  parent_lt : ∀ t ∈ r.types, ∀ p, t.parent = some p → p.index < t.id.index
  element_declared : ∀ t ∈ r.types, r.ElementDeclared t

theorem wellFormed_empty : WellFormed {} where
  toSynced := synced_empty
  parent_lt := by simp
  element_declared := by simp

variable {r r' : TypeRegistry} {d : TypeDeclaration} {id : TypeId}

/-! ## One type -/

/-- An accepted registration met a free name and a free id, found what the declaration names, and
added one type. -/
theorem register_eq_ok (h : r.register d = .ok (id, r')) :
    r.idOf? d.name = none ∧ r.size < capacity ∧ id = ⟨r.size⟩ ∧
      ∃ parent element, r.resolveParent d.name d.parent = .ok parent ∧
        r.resolveElement d.name id d.descriptor.sequenceFallback = .ok element ∧
        r' = r.add ⟨id, d.name, parent, d.descriptor, element⟩ := by
  simp only [register] at h
  split at h
  · cases h
  next hname =>
  split at h
  · cases h
  next parent hparent =>
  split at h
  · cases h
  next hsize =>
  split at h
  · cases h
  next element helement =>
  cases h
  exact ⟨by simpa using hname, by omega, rfl, parent, element, hparent, helement, rfl⟩

theorem register_types (h : r.register d = .ok (id, r')) : ∃ t, r'.types = r.types ++ [t] := by
  obtain ⟨-, -, -, parent, element, -, -, rfl⟩ := register_eq_ok h
  exact ⟨_, rfl⟩

/-- A parent that was found is a registered type. -/
theorem resolveParent_mem (h : r.Synced) {name : String} {parent : Option String} {p : TypeId}
    (hp : r.resolveParent name parent = .ok (some p)) : ∃ t ∈ r.types, t.id = p := by
  cases parent with
  | none => simp [resolveParent] at hp
  | some n =>
    simp only [resolveParent] at hp
    split at hp
    next id hid =>
      cases hp
      obtain ⟨t, ht, -, rfl⟩ := h.idOf?_eq_some_iff.1 hid
      exact ⟨t, ht, rfl⟩
    · cases hp

theorem get?_add_self {t : CanonicalType} (h : id = ⟨r.size⟩) : (r.add t).get? id = some t := by
  simp [get?, add, h, size]

/-- A larger registry still has the elements that a smaller one declares. -/
theorem ElementDeclared.add {t u : CanonicalType} (hu : r.ElementDeclared u) :
    (r.add t).ElementDeclared u := by
  unfold ElementDeclared at hu ⊢
  split at hu
  · trivial
  next fallback e _ _ =>
    obtain ⟨hle, w, hw, hn⟩ := hu
    exact ⟨hle, w, get?_of_prefix (List.prefix_append _ _) hw, hn⟩
  · exact hu.elim

/-- The element of a new type is declared: it is the type itself or one that was there before. -/
theorem elementDeclared_of_resolveElement (h : r.Synced) {name : String}
    {parent element : Option TypeId} {descriptor : CapabilityDescriptor} (hid : id = ⟨r.size⟩)
    (he : r.resolveElement name id descriptor.sequenceFallback = .ok element) :
    (r.add ⟨id, name, parent, descriptor, element⟩).ElementDeclared
      ⟨id, name, parent, descriptor, element⟩ := by
  unfold ElementDeclared
  simp only
  unfold resolveElement at he
  split at he
  next hf =>
    cases he
    simp [hf]
  next fallback hf =>
    rw [hf]
    split at he
    next hself =>
      cases he
      exact ⟨Nat.le_refl _, _, get?_add_self hid, hself.symm⟩
    · split at he
      next e hfound =>
        cases he
        obtain ⟨t, ht, hn, rfl⟩ := h.idOf?_eq_some_iff.1 hfound
        have hlt := h.index_lt ht
        refine ⟨?_, t, get?_of_prefix (List.prefix_append _ _) (h.get?_id ht), hn⟩
        simp only [hid]
        omega
      · cases he

/-- An accepted registration keeps the registry well-formed. -/
theorem WellFormed.register (h : r.WellFormed) (hr : r.register d = .ok (id, r')) :
    r'.WellFormed := by
  obtain ⟨hname, -, hid, parent, element, hparent, helement, rfl⟩ := register_eq_ok hr
  refine ⟨h.toSynced.add hid (h.idOf?_eq_none_iff.1 hname), ?_, ?_⟩
  · intro t ht p hp
    rcases List.mem_append.1 ht with ht | ht
    · exact h.parent_lt t ht p hp
    · obtain rfl : t = _ := List.mem_singleton.1 ht
      simp only at hp
      subst hp
      obtain ⟨u, hu, rfl⟩ := resolveParent_mem h.toSynced hparent
      simpa [hid] using h.index_lt hu
  · intro t ht
    rcases List.mem_append.1 ht with ht | ht
    · exact (h.element_declared t ht).add
    · obtain rfl : t = _ := List.mem_singleton.1 ht
      exact elementDeclared_of_resolveElement h.toSynced hid helement

/-- A registered type has a sequence element exactly if its descriptor permits sequences. -/
theorem WellFormed.sequenceElement_isSome (h : r.WellFormed) {t : CanonicalType}
    (ht : r.get? t.id = some t) :
    t.sequenceElement.isSome = t.descriptor.sequenceFallback.isSome := by
  have hdeclared := h.element_declared t (List.mem_of_getElem? ht)
  unfold ElementDeclared at hdeclared
  split at hdeclared
  next hf he => rw [hf, he]; rfl
  next hf he => rw [hf, he]; rfl
  · exact hdeclared.elim

/-- The elements of a registered type's sequences have a registered type. -/
theorem WellFormed.element_index_lt (h : r.WellFormed) {t : CanonicalType}
    (ht : r.get? t.id = some t) {element : TypeId} (he : t.sequenceElement = some element) :
    element.index < r.size := by
  have hdeclared := h.element_declared t (List.mem_of_getElem? ht)
  unfold ElementDeclared at hdeclared
  rw [he] at hdeclared
  split at hdeclared
  next heq => cases heq
  next heq =>
    cases heq
    have hlt := index_lt_of_get? ht
    omega
  · exact hdeclared.elim

/-! ## Batches -/

/-- Whether it goes through or stops at a refusal, a batch only adds types. -/
theorem registerEach_grows (h : r.WellFormed) (ds : List TypeDeclaration) :
    (r.registerEach ds).2.WellFormed ∧ r.types <+: (r.registerEach ds).2.types := by
  induction ds generalizing r with
  | nil => exact ⟨h, List.prefix_refl _⟩
  | cons d rest ih =>
    simp only [registerEach]
    split
    · exact ⟨h, List.prefix_refl _⟩
    next id r₁ hr =>
      obtain ⟨t, ht⟩ := register_types hr
      obtain ⟨hw, hp⟩ := ih (h.register hr)
      have hgrow : r.types <+: (r₁.registerEach rest).2.types :=
        (ht ▸ List.prefix_append _ _).trans hp
      split
      next e r₂ he => rw [he] at hw hgrow; exact ⟨hw, hgrow⟩
      next ids r₂ he => rw [he] at hw hgrow; exact ⟨hw, hgrow⟩

/-- A batch goes through as it does one by one, or is refused and leaves the registry as it was. -/
theorem registerAll_cases (h : r.WellFormed) (ds : List TypeDeclaration) :
    (∃ ids, (r.registerEach ds).1 = .ok ids ∧ r.registerAll ds = (.ok ids, (r.registerEach ds).2)) ∨
      ∃ e, (r.registerEach ds).1 = .error e ∧ r.registerAll ds = (.error e, r) := by
  obtain ⟨hw, added, ha⟩ := registerEach_grows h ds
  unfold registerAll
  split
  next ids r' he => exact .inl ⟨ids, by rw [he], by rw [he]⟩
  next e r' he =>
    rw [he] at hw ha
    exact .inr ⟨e, by rw [he], by rw [truncate_eq_of_append h.toSynced hw.toSynced ha.symm]⟩

theorem registerAll_grows (h : r.WellFormed) (ds : List TypeDeclaration) :
    (r.registerAll ds).2.WellFormed ∧ r.types <+: (r.registerAll ds).2.types := by
  rcases registerAll_cases h ds with ⟨ids, -, he⟩ | ⟨e, -, he⟩
  · rw [he]
    exact registerEach_grows h ds
  · rw [he]
    exact ⟨h, List.prefix_refl _⟩

/-! ## Sequences of calls -/

inductive Call where
  | one (d : TypeDeclaration)
  | batch (ds : List TypeDeclaration)

/-- The registry after a call, whether it was accepted or refused. -/
def call (r : TypeRegistry) : Call → TypeRegistry
  | .one d =>
    match r.register d with
    | .ok (_, r') => r'
    | .error _ => r
  | .batch ds => (r.registerAll ds).2

def runCalls (r : TypeRegistry) (calls : List Call) : TypeRegistry := calls.foldl call r

theorem call_grows (h : r.WellFormed) (c : Call) :
    (r.call c).WellFormed ∧ r.types <+: (r.call c).types := by
  cases c with
  | one d =>
    simp only [call]
    split
    next id r' hr =>
      obtain ⟨t, ht⟩ := register_types hr
      exact ⟨h.register hr, ht ▸ List.prefix_append _ _⟩
    · exact ⟨h, List.prefix_refl _⟩
  | batch ds => exact registerAll_grows h ds

/-- Calls keep a registry well-formed, and never drop or change a type. -/
theorem runCalls_grows (h : r.WellFormed) (calls : List Call) :
    (r.runCalls calls).WellFormed ∧ r.types <+: (r.runCalls calls).types := by
  induction calls generalizing r with
  | nil => exact ⟨h, List.prefix_refl _⟩
  | cons c rest ih =>
    obtain ⟨hc, hp⟩ := call_grows h c
    obtain ⟨hw, hp'⟩ := ih hc
    exact ⟨hw, hp.trans hp'⟩

theorem runCalls_wellFormed (calls : List Call) : (runCalls {} calls).WellFormed :=
  (runCalls_grows wellFormed_empty calls).1

/-- **The registry's representation invariant.** After any calls on the empty registry, accepted or
refused: the type at a place has the place as its id; names are distinct, and a look-up by name
succeeds for exactly the registered names and yields a type that its id leads back to; parents have
smaller ids; and a type has a sequence element exactly if its descriptor permits sequences, namely
a type of the declared name with an id that is not larger. -/
theorem representation_invariant (calls : List Call) :
    let r := runCalls {} calls
    (∀ i (t : CanonicalType), r.types[i]? = some t → t.id = ⟨i⟩) ∧
    r.names.Nodup ∧
    (∀ name, (∃ t, r.lookup name = .ok t) ↔ name ∈ r.names) ∧
    (∀ name t, r.lookup name = .ok t → t.name = name ∧ r.get t.id = .ok t) ∧
    (∀ t ∈ r.types, ∀ p, t.parent = some p → p.index < t.id.index) ∧
    (∀ t ∈ r.types, t.sequenceElement.isSome = t.descriptor.sequenceFallback.isSome) ∧
    (∀ t ∈ r.types, ∀ e fallback, t.sequenceElement = some e →
      t.descriptor.sequenceFallback = some fallback →
        e.index ≤ t.id.index ∧ ∃ u, r.get e = .ok u ∧ u.name = fallback.element) := by
  intro r
  have h : r.WellFormed := runCalls_wellFormed calls
  have hlookup : ∀ name t, r.lookup name = .ok t ↔ t ∈ r.types ∧ t.name = name := by
    intro name t
    rw [← h.find?_eq_some_iff, lookup]
    cases r.find? name <;> simp
  have hget : ∀ id t, r.get? id = some t → r.get id = .ok t := by
    intro id t ht
    simp [get, ht]
  refine ⟨h.id_eq, h.names_nodup, ?_, ?_, h.parent_lt, ?_, ?_⟩
  · intro name
    simp [hlookup, names]
  · intro name t ht
    obtain ⟨hm, hn⟩ := (hlookup name t).1 ht
    exact ⟨hn, hget _ _ (h.get?_id hm)⟩
  · intro t ht
    have he := h.element_declared t ht
    unfold ElementDeclared at he
    split at he <;> simp_all
  · intro t ht e fallback hse hsf
    have he := h.element_declared t ht
    simp only [ElementDeclared, hse, hsf] at he
    obtain ⟨hle, u, hu, hn⟩ := he
    exact ⟨hle, u, hget _ _ hu, hn⟩

end CanonicalTypes.TypeRegistry
