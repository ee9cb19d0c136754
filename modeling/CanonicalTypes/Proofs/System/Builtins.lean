import CanonicalTypes.Proofs.System.Transparency

/-!
# What a system with the built-in types starts from

`withBuiltins` always succeeds (`withBuiltins_eq`). In the system `installed` that it makes,
`Tensor` is the first type and permits sequences of itself, the producers of native scalars have
their converters to it, and the cache is empty.
-/
namespace CanonicalTypes

namespace Builtins

def tensorType : CanonicalType := ⟨⟨0⟩, tensor, none, tensorDescriptor, some ⟨0⟩⟩

def types : TypeRegistry := (({} : TypeRegistry).registerAll declarations).2

def ids : BuiltinIds := ⟨⟨0⟩, ⟨1⟩, ⟨2⟩, ⟨3⟩⟩

theorem registerAll_declarations :
    ({} : TypeRegistry).registerAll declarations = (.ok [⟨0⟩, ⟨1⟩, ⟨2⟩, ⟨3⟩], types) :=
  Prod.ext (by decide +kernel) rfl

theorem find?_tensor : types.find? tensor = some tensorType := by decide +kernel

theorem get_tensor : types.get tensorType.id = .ok tensorType := by decide +kernel

theorem mem_scalarProducers (dtype : DType) : ProducerType.ofDType dtype ∈ scalarProducers := by
  cases dtype <;> decide

end Builtins

namespace TypeSystem

variable {κ η : Type}

/-- Each producer of native scalars gets a converter that takes scalars as they are. -/
theorem addScalarConverters_find? (s : TypeSystem κ η) (target : CanonicalType) {p : ProducerType}
    (hp : p ∈ Builtins.scalarProducers) :
    ∃ entry, (s.addScalarConverters target).converters.find? p target.id = some entry ∧
      entry.action = .scalar := by
  -- The converter is still to come, or is there and stays.
  suffices h : ∀ (producers : List ProducerType) (s : TypeSystem κ η),
      (p ∈ producers ∨ ∃ entry, s.converters.find? p target.id = some entry ∧
        entry.action = .scalar) →
      ∃ entry, (producers.foldl (fun s p => (s.addConverter p target .scalar .default).2)
        s).converters.find? p target.id = some entry ∧ entry.action = .scalar from
    h _ s (.inl hp)
  intro producers
  induction producers with
  | nil =>
    rintro s (hmem | hfound)
    · cases hmem
    · exact hfound
  | cons q rest ih =>
    intro s h
    refine ih _ ?_
    by_cases hpq : p = q
    · subst hpq
      exact .inr ⟨_, s.converters.find?_register_self p target .scalar .default, rfl⟩
    · refine h.imp (fun hmem => (List.mem_cons.1 hmem).resolve_left hpq) fun hfound => ?_
      rwa [← s.converters.find?_register_of_ne hpq target .scalar .default] at hfound

def installed (config : EngineConfig) (host : η) : TypeSystem κ η :=
  { ({ (new config host : TypeSystem κ η) with types := Builtins.types }).addScalarConverters
      Builtins.tensorType with builtins := some Builtins.ids }

theorem installBuiltins_new (config : EngineConfig) (host : η) :
    (new config host : TypeSystem κ η).installBuiltins =
      (.ok Builtins.ids, installed config host) := by
  have hget : Builtins.types.get ⟨0⟩ = .ok Builtins.tensorType := Builtins.get_tensor
  simp only [installBuiltins, new, Builtins.registerAll_declarations, hget, Builtins.ids, installed]

/-- Installing the built-ins into a new system cannot fail. -/
theorem withBuiltins_eq (config : EngineConfig) (host : η) :
    (withBuiltins config host : Except SystemError (TypeSystem κ η)) =
      .ok (installed config host) := by
  rw [withBuiltins, installBuiltins_new]

theorem installed_evolves (config : EngineConfig) (host : η) :
    Evolves (new config host : TypeSystem κ η) (installed config host) := by
  have hinstalled :=
    installBuiltins_covered evolves_coversRegistries (new config host : TypeSystem κ η)
  rwa [installBuiltins_new] at hinstalled

theorem installed_find? (config : EngineConfig) (host : η) {p : ProducerType}
    (hp : p ∈ Builtins.scalarProducers) :
    ∃ entry, (installed config host : TypeSystem κ η).converters.find? p Builtins.tensorType.id =
      some entry ∧ entry.action = .scalar :=
  addScalarConverters_find? { (new config host : TypeSystem κ η) with types := Builtins.types }
    Builtins.tensorType hp

theorem installed_engine (config : EngineConfig) (host : η) :
    (installed config host : TypeSystem κ η).engine = { config } :=
  (addScalarConverters_cacheless Builtins.tensorType).engine
    { (new config host : TypeSystem κ η) with types := Builtins.types }

end TypeSystem

end CanonicalTypes
