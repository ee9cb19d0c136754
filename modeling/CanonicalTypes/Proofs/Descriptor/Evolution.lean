import CanonicalTypes.Descriptor.Conformance
import CanonicalTypes.Types.Evolution
import Mathlib.Data.List.Chain

/-!
# Evolution of descriptors and conformance

A proposed descriptor is accepted in place of a published one if it still requires every published
member, in whatever order and however often (`checkEvolution_eq_ok_iff`). Of all objects that conform
to a descriptor, the one that has just the required members has the least (`BareObject.of`): so it is
the object to ask whether conforming to the proposed descriptor is enough for the published one, and
what it lacks is what the proposal has dropped (`missingMembers_eq_removedMembers`).

The main result is `accepted_iff_substitutable`.
-/
namespace CanonicalTypes

/-- An object of which nothing is known but its members. -/
structure BareObject where
  members : List String

instance : ForeignObject BareObject where
  producer _ := ⟨"bare"⟩
  supertypes _ := []
  hasMember o name := o.members.contains name
  denseView _ := none
  inspect _ := "BareObject"

/-- The object that has just the members that a descriptor requires. -/
def BareObject.of (d : CapabilityDescriptor) : BareObject := ⟨d.names⟩

variable {ω : Type} [ForeignObject ω] {o : ω} {published proposed : CapabilityDescriptor}
  {e : RegistryError}

/-- An object has the members that a descriptor requires, and no others. -/
def HasExactly (o : ω) (d : CapabilityDescriptor) : Prop :=
  ∀ name, ForeignObject.hasMember o name = true ↔ name ∈ d.names

theorem BareObject.hasExactly (d : CapabilityDescriptor) : HasExactly (BareObject.of d) d := by
  intro name
  simp [of, ForeignObject.hasMember]

theorem conformsObject_iff :
    conformsObject o d = true ↔ ∀ name ∈ d.names, ForeignObject.hasMember o name = true := by
  rw [conformsObject, List.all_eq_true]

theorem HasExactly.conforms (h : HasExactly o d) : conformsObject o d = true :=
  conformsObject_iff.2 fun name hname => (h name).2 hname

/-! ## What is accepted, and what is dropped -/

theorem mem_removedMembers {name : String} :
    name ∈ removedMembers published proposed ↔ name ∈ published.names ∧ name ∉ proposed.names := by
  rw [removedMembers, List.mem_filter, Bool.not_eq_true', ← Bool.not_eq_true,
    CapabilityDescriptor.requires_iff]

theorem checkEvolution_eq_ok_iff :
    checkEvolution published proposed = .ok () ↔ published.names ⊆ proposed.names := by
  have hnone : removedMembers published proposed = [] ↔ published.names ⊆ proposed.names := by
    rw [List.eq_nil_iff_forall_not_mem]
    simp only [mem_removedMembers, not_and, not_not]
    rfl
  rw [← hnone, checkEvolution]
  split
  next hempty => simpa using hempty
  next hsome => simpa using hsome

theorem eq_of_checkEvolution_eq_error (h : checkEvolution published proposed = .error e) :
    e = .breakingDescriptorChange (removedMembers published proposed) := by
  simp only [checkEvolution] at h
  split at h
  · cases h
  · cases h
    rfl

/-- What an object lacks of a published descriptor that has just the proposed members is what the
proposal drops. -/
theorem missingMembers_eq_removedMembers (h : HasExactly o proposed) :
    missingMembers o published = removedMembers published proposed := by
  refine List.filter_congr fun name _ => ?_
  rw [Bool.not_inj_iff, Bool.eq_iff_iff, h name, CapabilityDescriptor.requires_iff]

/-- What conforms to a descriptor conforms to any with fewer requirements. -/
theorem conformsObject_of_subset (hsub : published.names ⊆ proposed.names)
    (h : conformsObject o proposed = true) : conformsObject o published = true :=
  conformsObject_iff.2 fun name hname => conformsObject_iff.1 h name (hsub hname)

/-- The object with just the proposed members tells whether the proposal is accepted. -/
theorem subset_of_hasExactly (h : HasExactly o proposed) (hconforms : conformsObject o published = true) :
    published.names ⊆ proposed.names :=
  fun name hname => (h name).1 (conformsObject_iff.1 hconforms name hname)

/-- **An evolution is accepted if and only if it is substitutable.** A proposed descriptor is accepted
in place of a published one exactly if every object that conforms to the proposed one conforms to the
published one. Otherwise the refusal names what an object with just the proposed members (there is one)
lacks of the published descriptor. Every descriptor may replace itself, and what may replace a
replacement may replace the original: in a chain of accepted descriptors, none drops a member that an
earlier one requires. -/
theorem accepted_iff_substitutable (published proposed : CapabilityDescriptor) :
    (checkEvolution published proposed = .ok () ↔
      ∀ (ω : Type) [ForeignObject ω] (o : ω),
        conformsObject o proposed = true → conformsObject o published = true) ∧
    (∀ e, checkEvolution published proposed = .error e →
      HasExactly (BareObject.of proposed) proposed ∧
      ∀ (ω : Type) [ForeignObject ω] (o : ω), HasExactly o proposed →
        e = .breakingDescriptorChange (missingMembers o published)) ∧
    checkEvolution published published = .ok () ∧
    (∀ later, checkEvolution published proposed = .ok () → checkEvolution proposed later = .ok () →
      checkEvolution published later = .ok ()) ∧
    ∀ chain : List CapabilityDescriptor,
      chain.IsChain (fun d d' => checkEvolution d d' = .ok ()) →
        chain.Pairwise fun d d' => d.names ⊆ d'.names := by
  refine ⟨⟨fun haccepted ω _ o => ?_, fun hsubstitutable => ?_⟩, fun e he => ?_, ?_, ?_, ?_⟩
  · exact conformsObject_of_subset (checkEvolution_eq_ok_iff.1 haccepted)
  -- The least object that conforms to the proposal decides.
  · have hbare := BareObject.hasExactly proposed
    exact checkEvolution_eq_ok_iff.2
      (subset_of_hasExactly hbare (hsubstitutable _ _ hbare.conforms))
  · refine ⟨BareObject.hasExactly proposed, fun ω _ o ho => ?_⟩
    rw [missingMembers_eq_removedMembers ho]
    exact eq_of_checkEvolution_eq_error he
  · exact checkEvolution_eq_ok_iff.2 (List.Subset.refl _)
  · intro later hfirst hsecond
    rw [checkEvolution_eq_ok_iff] at hfirst hsecond ⊢
    exact List.Subset.trans hfirst hsecond
  · intro chain hchain
    simp only [checkEvolution_eq_ok_iff] at hchain
    exact hchain.pairwise

/-- What is dropped is named in the published order, as often as it was published. -/
example : checkEvolution
    { members := [⟨"shape", .property⟩, ⟨"dtype", .property⟩, ⟨"shape", .method none⟩] }
    { members := [⟨"device", .property⟩, ⟨"dtype", .method (some 1)⟩] } =
      .error (.breakingDescriptorChange ["shape", "shape"]) := rfl

end CanonicalTypes
