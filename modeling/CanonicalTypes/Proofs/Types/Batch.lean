import CanonicalTypes.Proofs.Types.Registration

/-!
# Batches and single registrations

`Registers` says what single registrations come to that are all accepted, one after another, and
`FirstRefused` that they go well up to one which is refused. A batch stops where they stop
(`registerEach_eq_ok_iff`, `registerEach_eq_error_iff`), whatever its declarations say of each other:
a later one may name an earlier one, or repeat it. What a refused batch adds on the way is taken out
again, so that a batch is all of its registrations or none: `registerAll_refines_register`.
-/
namespace CanonicalTypes.TypeRegistry

variable {r r' : TypeRegistry} {d : TypeDeclaration} {ds : List TypeDeclaration} {id : TypeId}
  {ids : List TypeId} {e : RegistryError}

/-- Registering types one after another is accepted each time, gives these ids, and leads to this
registry. -/
inductive Registers : TypeRegistry → List TypeDeclaration → List TypeId → TypeRegistry → Prop where
  | nil (r : TypeRegistry) : Registers r [] [] r
  | cons {r r₁ r₂ : TypeRegistry} {d : TypeDeclaration} {ds : List TypeDeclaration} {id : TypeId}
      {ids : List TypeId} (first : r.register d = .ok (id, r₁)) (rest : Registers r₁ ds ids r₂) :
      Registers r (d :: ds) (id :: ids) r₂

/-- Registering types one after another is accepted up to one of them, which is refused with this
error. -/
def FirstRefused (r : TypeRegistry) (ds : List TypeDeclaration) (e : RegistryError) : Prop :=
  ∃ before d after ids r₁, ds = before ++ d :: after ∧ Registers r before ids r₁ ∧
    r₁.register d = .error e

/-! ## One declaration more in front -/

@[simp] theorem registers_nil_iff : Registers r [] ids r' ↔ ids = [] ∧ r' = r := by
  constructor
  · rintro ⟨⟩
    exact ⟨rfl, rfl⟩
  · rintro ⟨rfl, rfl⟩
    exact .nil r'

theorem registers_cons_iff :
    Registers r (d :: ds) ids r' ↔
      ∃ id r₁ rest, r.register d = .ok (id, r₁) ∧ Registers r₁ ds rest r' ∧ ids = id :: rest := by
  constructor
  · rintro (_ | ⟨first, rest⟩)
    exact ⟨_, _, _, first, rest, rfl⟩
  · rintro ⟨id, r₁, rest, first, hrest, rfl⟩
    exact .cons first hrest

@[simp] theorem not_firstRefused_nil : ¬ FirstRefused r [] e := by
  rintro ⟨before, d, after, ids, r₁, hds, -, -⟩
  simp at hds

/-- Either the first declaration is refused, or it is accepted and a later one is the first to be
refused. -/
theorem firstRefused_cons_iff :
    FirstRefused r (d :: ds) e ↔
      r.register d = .error e ∨ ∃ id r₁, r.register d = .ok (id, r₁) ∧ FirstRefused r₁ ds e := by
  constructor
  · rintro ⟨before, d', after, ids, r₁, hds, hbefore, hrefused⟩
    cases hbefore with
    | nil =>
      obtain ⟨rfl, rfl⟩ := List.cons.inj hds
      exact .inl hrefused
    | cons first rest =>
      obtain ⟨rfl, rfl⟩ := List.cons.inj hds
      exact .inr ⟨_, _, first, _, d', after, _, r₁, rfl, rest, hrefused⟩
  · rintro (hrefused | ⟨id, r₁, first, before, d', after, ids, r₂, rfl, rest, hrefused⟩)
    · exact ⟨[], d, ds, [], r, rfl, .nil r, hrefused⟩
    · exact ⟨d :: before, d', after, id :: ids, r₂, rfl, .cons first rest, hrefused⟩

/-! ## Where a batch stops -/

theorem registerEach_eq_ok_iff : r.registerEach ds = (.ok ids, r') ↔ Registers r ds ids r' := by
  induction ds generalizing r ids with
  | nil => simp [registerEach, eq_comm]
  | cons d rest ih =>
    rw [registers_cons_iff, registerEach]
    cases hfirst : r.register d with
    | error e => simp
    | ok p =>
      obtain ⟨id, r₁⟩ := p
      simp only [Except.ok.injEq, Prod.mk.injEq]
      cases hrest : r₁.registerEach rest with
      | mk answer r₂ =>
        cases answer with
        | error e =>
          simp only [Prod.mk.injEq, reduceCtorEq, false_and, false_iff]
          rintro ⟨_, _, ids', ⟨rfl, rfl⟩, hregisters, -⟩
          rw [ih.2 hregisters] at hrest
          cases hrest
        | ok ids' =>
          simp only [Prod.mk.injEq, Except.ok.injEq]
          constructor
          · rintro ⟨rfl, rfl⟩
            exact ⟨id, r₁, ids', ⟨rfl, rfl⟩, ih.1 hrest, rfl⟩
          · rintro ⟨_, _, ids'', ⟨rfl, rfl⟩, hregisters, rfl⟩
            rw [ih.2 hregisters] at hrest
            cases hrest
            exact ⟨rfl, rfl⟩

theorem registerEach_eq_error_iff : (r.registerEach ds).1 = .error e ↔ FirstRefused r ds e := by
  induction ds generalizing r with
  | nil => simp [registerEach]
  | cons d rest ih =>
    rw [firstRefused_cons_iff, registerEach]
    cases hfirst : r.register d with
    | error e => simp
    | ok p =>
      obtain ⟨id, r₁⟩ := p
      simp only [reduceCtorEq, false_or, Except.ok.injEq, Prod.mk.injEq]
      have hih := @ih r₁
      cases hrest : r₁.registerEach rest with
      | mk answer r₂ =>
        rw [hrest] at hih
        cases answer with
        | error e' =>
          simp only [hih]
          exact ⟨fun h => ⟨id, r₁, ⟨rfl, rfl⟩, h⟩, by rintro ⟨_, _, ⟨rfl, rfl⟩, h⟩; exact h⟩
        | ok ids' =>
          simp only [reduceCtorEq, false_iff] at hih ⊢
          rintro ⟨_, _, ⟨rfl, rfl⟩, h⟩
          exact hih h

/-! ## Self-contained batches -/

theorem registerAll_of_registers (h : Registers r ds ids r') : r.registerAll ds = (.ok ids, r') := by
  rw [registerAll, registerEach_eq_ok_iff.2 h]

theorem registerAll_of_firstRefused (hw : r.WellFormed) (h : FirstRefused r ds e) :
    r.registerAll ds = (.error e, r) := by
  have heach := registerEach_eq_error_iff.2 h
  rcases registerAll_cases hw ds with ⟨ids, hok, -⟩ | ⟨e', herror, hall⟩
  · rw [hok] at heach
    cases heach
  · rw [herror] at heach
    cases heach
    exact hall

theorem register_of_taken (h : r.Synced) (hname : d.name ∈ r.names) :
    r.register d = .error (.duplicateType d.name) := by
  have htaken : (r.idOf? d.name).isSome := by
    rw [Option.isSome_iff_ne_none, ne_eq, h.idOf?_eq_none_iff, not_not]
    exact hname
  rw [register, if_pos htaken]

/-- A declaration is accepted under a free name and with a free id, if what it names is there. -/
theorem register_of_free (h : r.Synced) (hname : d.name ∉ r.names) (hroom : r.size < capacity)
    {parent element : Option TypeId} (hparent : r.resolveParent d.name d.parent = .ok parent)
    (helement : r.resolveElement d.name ⟨r.size⟩ d.descriptor.sequenceFallback = .ok element) :
    r.register d = .ok (⟨r.size⟩, r.add ⟨⟨r.size⟩, d.name, parent, d.descriptor, element⟩) := by
  have hfree : r.idOf? d.name = none := h.idOf?_eq_none_iff.2 hname
  have hfits : ¬ capacity ≤ r.size := Nat.not_le.2 hroom
  simp [register, hfree, hparent, hfits, helement]

theorem Synced.exists_idOf? (h : r.Synced) {name : String} (hname : name ∈ r.names) :
    ∃ id, r.idOf? name = some id := by
  rw [← Option.ne_none_iff_exists', ne_eq, h.idOf?_eq_none_iff, not_not]
  exact hname

/-- The declarations name known types, themselves and each other only, each an earlier one, and do
not repeat a name. -/
def SelfContained : List String → List TypeDeclaration → Prop
  | _, [] => True
  | known, d :: rest =>
    (∀ parent, d.parent = some parent → parent ∈ known) ∧
      (∀ fallback, d.descriptor.sequenceFallback = some fallback →
        fallback.element = d.name ∨ fallback.element ∈ known) ∧
      d.name ∉ rest.map TypeDeclaration.name ∧ SelfContained (d.name :: known) rest

theorem SelfContained.of_append {known : List String} {before after : List TypeDeclaration}
    (h : SelfContained known (before ++ after)) : SelfContained known before := by
  induction before generalizing known with
  | nil => trivial
  | cons d rest ih =>
    obtain ⟨hparent, helement, hname, hrest⟩ := h
    have hkept : rest.map TypeDeclaration.name ⊆ (rest ++ after).map TypeDeclaration.name :=
      List.map_subset _ (List.subset_append_left _ _)
    exact ⟨hparent, helement, fun hmem => hname (hkept hmem), ih hrest⟩

/-- Under free names, and with room for all of it, a self-contained batch is accepted. -/
theorem SelfContained.exists_registers {known : List String} (h : SelfContained known ds)
    (hw : r.WellFormed) (hknown : ∀ name ∈ known, name ∈ r.names)
    (hfree : ∀ d ∈ ds, d.name ∉ r.names) (hroom : r.size + ds.length ≤ capacity) :
    ∃ ids r', Registers r ds ids r' := by
  induction ds generalizing r known with
  | nil => exact ⟨[], r, .nil r⟩
  | cons d rest ih =>
    obtain ⟨hparent, helement, hname, hrest⟩ := h
    obtain ⟨hd, hfree⟩ := List.forall_mem_cons.1 hfree
    rw [List.length_cons] at hroom
    -- All that the declaration names is registered by now, but for itself.
    have hresolved : ∃ parent, r.resolveParent d.name d.parent = .ok parent := by
      cases hp : d.parent with
      | none => exact ⟨none, rfl⟩
      | some parent =>
        obtain ⟨id, hid⟩ := hw.exists_idOf? (hknown _ (hparent _ hp))
        exact ⟨some id, by simp [resolveParent, hid]⟩
    have hfound : ∃ element,
        r.resolveElement d.name ⟨r.size⟩ d.descriptor.sequenceFallback = .ok element := by
      cases hf : d.descriptor.sequenceFallback with
      | none => exact ⟨none, rfl⟩
      | some fallback =>
        rcases helement _ hf with hself | hmem
        · exact ⟨_, by rw [resolveElement, if_pos hself]⟩
        · obtain ⟨id, hid⟩ := hw.exists_idOf? (hknown _ hmem)
          by_cases hself : fallback.element = d.name
          · exact ⟨_, by rw [resolveElement, if_pos hself]⟩
          · exact ⟨some id, by simp [resolveElement, hself, hid]⟩
    obtain ⟨parent, hparent⟩ := hresolved
    obtain ⟨element, helement⟩ := hfound
    have hfirst := register_of_free hw.toSynced hd (by omega) hparent helement
    have hnames := names_add r ⟨⟨r.size⟩, d.name, parent, d.descriptor, element⟩
    obtain ⟨ids, r', hregisters⟩ := ih hrest (hw.register hfirst)
      (by simpa [hnames] using fun name hmem => .inl (hknown name hmem))
      (fun d' hd' hmem => by
        rw [hnames] at hmem
        rcases List.mem_append.1 hmem with hmem | hmem
        · exact hfree d' hd' hmem
        · exact hname (List.mem_map.2 ⟨d', hd', List.mem_singleton.1 hmem⟩))
      (by simp [size_add]; omega)
    exact ⟨_, r', .cons hfirst hregisters⟩

/-- A self-contained batch of which a name is taken is refused, for the first such name. -/
theorem registerAll_of_taken (hw : r.WellFormed) (hc : SelfContained [] ds)
    (hroom : r.size + ds.length ≤ capacity) {name : String}
    (hfirst : (ds.map TypeDeclaration.name).find? (· ∈ r.names) = some name) :
    r.registerAll ds = (.error (.duplicateType name), r) := by
  obtain ⟨htaken, before, after, hsplit, hbefore⟩ := List.find?_eq_some_iff_append.1 hfirst
  obtain ⟨ds₁, ds₂, rfl, rfl, hds₂⟩ := List.map_eq_append_iff.1 hsplit
  obtain ⟨d, rest, rfl, rfl, -⟩ := List.map_eq_cons_iff.1 hds₂
  have hfree : ∀ d' ∈ ds₁, d'.name ∉ r.names := fun d' hd' => by
    simpa using hbefore _ (List.mem_map_of_mem hd')
  obtain ⟨ids, r₁, hregisters⟩ := hc.of_append.exists_registers hw (by simp) hfree
    (by rw [List.length_append] at hroom; omega)
  have hgrown := registerEach_grows hw ds₁
  rw [registerEach_eq_ok_iff.2 hregisters] at hgrown
  refine registerAll_of_firstRefused hw ⟨ds₁, d, rest, ids, r₁, rfl, hregisters, ?_⟩
  refine register_of_taken hgrown.1.toSynced ?_
  exact (hgrown.2.map CanonicalType.name).subset (of_decide_eq_true htaken)

/-! ## All or nothing -/

/-- **A batch refines single registrations, and is atomic.** In every registry that any calls have
led to: a batch is accepted if and only if its declarations are, one after another, and it gives the
same ids in the same order and leads to the same registry. It is refused if and only if one of them
is, with the error of the first, and the registry is then exactly what it was: the types, the index
of names, and with them every look-up, the ancestors, the fingerprint and the next id. Nor does a
refused single registration change anything. -/
theorem registerAll_refines_register (calls : List Call) (ds : List TypeDeclaration) :
    let r := runCalls {} calls
    (∀ ids r', r.registerAll ds = (.ok ids, r') ↔ Registers r ds ids r') ∧
    (∀ e r', r.registerAll ds = (.error e, r') ↔ FirstRefused r ds e ∧ r' = r) ∧
    (∀ d e, r.register d = .error e → r.call (.one d) = r) := by
  intro r
  have hw : r.WellFormed := runCalls_wellFormed calls
  refine ⟨fun ids r' => ?_, fun e r' => ?_, fun d e hrefused => by rw [call, hrefused]⟩
  · rw [← registerEach_eq_ok_iff]
    rcases registerAll_cases hw ds with ⟨ids', heach, hall⟩ | ⟨e, heach, hall⟩
    · rw [hall, ← heach]
    · rw [hall, Prod.ext_iff, Prod.ext_iff, heach]
      simp
  · rw [← registerEach_eq_error_iff]
    rcases registerAll_cases hw ds with ⟨ids, heach, hall⟩ | ⟨e', heach, hall⟩
    · rw [hall, heach, Prod.ext_iff]
      simp
    · rw [hall, heach, Prod.ext_iff]
      simp [eq_comm]

/-- A batch in which a type names an earlier one, and the last repeats an earlier one. -/
example :
    (runCalls {} [.one ⟨"Tensor", none, {}⟩]).registerAll
        [⟨"Symbol", some "Tensor", {}⟩, ⟨"Batch", some "Symbol", .ofClauses [.sequence "Symbol"]⟩,
          ⟨"Symbol", none, {}⟩] =
      (.error (.duplicateType "Symbol"), runCalls {} [.one ⟨"Tensor", none, {}⟩]) := by
  decide

end CanonicalTypes.TypeRegistry
