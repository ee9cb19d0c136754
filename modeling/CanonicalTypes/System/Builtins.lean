import CanonicalTypes.System.Basic

/-!
# Built-in types and converters

Four canonical types and the converters of native scalars. The types are registered as one batch,
so a name that is taken leaves the system as it was.

| here | operation |
| --- | --- |
| `tensorDescriptor`, `variableDescriptor` | `tensor_descriptor`, `variable_descriptor` |
| `declarations`, `scalarProducers`        | what `install` registers |
-/
namespace CanonicalTypes.Builtins

def tensor : String := "Tensor"
def symbol : String := "Symbol"
def eager : String := "Eager"
def variableName : String := "Variable"

def tensorDescriptor : CapabilityDescriptor :=
  .ofClauses [.property "shape", .property "dtype", .entryPoint "__tensor__", .sequence tensor]

def variableDescriptor : CapabilityDescriptor :=
  .ofClauses [.method "read_value" 0, .method "assign" 1, .entryPoint "__variable__"]

def declarations : List TypeDeclaration := [
  ⟨tensor, none, tensorDescriptor⟩,
  ⟨symbol, some tensor, .ofClauses [.entryPoint "__symbol__"]⟩,
  ⟨eager, some tensor, .ofClauses [.entryPoint "__eager__"]⟩,
  ⟨variableName, none, variableDescriptor⟩]

/-- The producers of native scalars, in the order in which their converters are registered. -/
def scalarProducers : List ProducerType :=
  [ProducerType.int, ProducerType.float, ProducerType.bool, ProducerType.complex]

end CanonicalTypes.Builtins
