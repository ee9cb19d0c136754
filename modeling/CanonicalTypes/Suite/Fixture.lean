import CanonicalTypes.Binary64.Layout
import CanonicalTypes.Text.Quoted
import CanonicalTypes.Value.Basic

/-!
# Fixture objects

The foreign objects of the conformance suites: one that canonicalizes to a tensor, one whose
canonical form is itself, one that offers nothing, one that only has a dense view, and one with a
supertype.

| here | operation |
| --- | --- |
| `protocolTensor`, `variableLike`     | `ProtocolTensor`, `VariableLike` |
| `unrelated`, `denseArray`, `derived` | `UnrelatedObject`, `DenseArray`, `DerivedObject` |
-/
namespace CanonicalTypes

inductive FixtureObject where
  | protocolTensor (value : Int64)
  | variableLike (name : String)
  | unrelated
  | denseArray (rows cols : UInt32) (data : List UInt64)
  | derived

namespace FixtureObject

def producer : FixtureObject → ProducerType
  | protocolTensor _ => ⟨"conformance.ProtocolTensor"⟩
  | variableLike _ => ⟨"conformance.VariableLike"⟩
  | unrelated => ⟨"conformance.Unrelated"⟩
  | denseArray _ _ _ => ⟨"conformance.DenseArray"⟩
  | derived => ⟨"conformance.Derived"⟩

def members : FixtureObject → List String
  | protocolTensor _ => ["shape", "dtype", "__tensor__"]
  | variableLike _ => ["read_value", "assign", "__variable__"]
  | denseArray _ _ _ => ["shape"]
  | unrelated => []
  | derived => []

/-- The tensor view of a fixture. An array whose data do not fill its rows and columns has none. -/
def denseView : FixtureObject → Option Tensor
  | denseArray rows cols data =>
    (Tensor.build .f64 ⟨[rows, cols]⟩ (data.map Literal.float)).toOption
  | _ => none

def inspect : FixtureObject → String
  | protocolTensor value => "ProtocolTensor \x7b value: " ++ toString value.toInt ++ " \x7d"
  | variableLike name => "VariableLike \x7b name: " ++ Text.quoted name ++ " \x7d"
  | unrelated => "UnrelatedObject"
  | denseArray rows cols data =>
    "DenseArray \x7b rows: " ++ toString rows.toNat ++ ", cols: " ++ toString cols.toNat
      ++ ", data: " ++ Text.bracketed (data.map Binary64.inspect) ++ " \x7d"
  | derived => "DerivedObject"

instance : ForeignObject FixtureObject where
  producer := producer
  supertypes
    | derived => [⟨"conformance.Base"⟩]
    | _ => []
  hasMember o name := o.members.contains name
  denseView := denseView
  inspect := inspect

/-- The failure of a fixture to be canonicalized through another entry point than its own. -/
def wrongEntryPoint (entryPoint : String) : ConverterError := ⟨s!"no entry point `{entryPoint}`"⟩

def canonicalize (o : FixtureObject) (entryPoint : String) :
    Except ConverterError (Payload FixtureObject) :=
  match o with
  | protocolTensor value =>
    if entryPoint = "__tensor__" then .ok (.tensor (Tensor.scalar (.int value)))
    else .error (wrongEntryPoint entryPoint)
  | variableLike _ =>
    if entryPoint = "__variable__" then .ok (.handle o) else .error (wrongEntryPoint entryPoint)
  | _ => .error (.noEntryPoint o.producer entryPoint)

end FixtureObject

end CanonicalTypes
