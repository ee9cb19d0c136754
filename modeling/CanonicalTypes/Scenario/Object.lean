import CanonicalTypes.Suite.Fixture

/-!
# Scripted objects

Foreign objects given as data: what an object says about itself, and what its canonicalization
returns for each entry point. Every object has an identity, by which handles are compared; an
object that canonicalization creates gets a fresh one.
-/
namespace CanonicalTypes.Scenario

/-- What an entry point of a described object returns. -/
inductive CanonicalForm where
  | tensor (value : Tensor)
  | failure (message : String)
  /-- A new object that differs in its label only. -/
  | relabelled (label : String)

structure ObjectSpec where
  producer : ProducerType
  supertypes : List ProducerType := []
  members : List String := []
  canonicalForms : List (String × CanonicalForm) := []
  dense : Option Tensor := none
  label : String := ""
  /-- Whether the object has nothing but its producer and its members. -/
  bare : Bool := false

inductive ObjectBody where
  | fixture (object : FixtureObject)
  | described (spec : ObjectSpec)

/-- A scripted object. -/
structure ScriptedObject where
  identity : Nat
  body : ObjectBody

namespace ScriptedObject

/-- Objects are the same if their identities are. -/
instance : BEq ScriptedObject where
  beq a b := a.identity == b.identity

def inspect (o : ScriptedObject) : String :=
  match o.body with
  | .fixture f => f.inspect
  | .described d => if d.bare then s!"Bare(Obj({d.label}))" else s!"Obj({d.label})"

instance : ForeignObject ScriptedObject where
  producer o :=
    match o.body with
    | .fixture f => ForeignObject.producer f
    | .described d => d.producer
  supertypes o :=
    match o.body with
    | .fixture f => ForeignObject.supertypes f
    | .described d => if d.bare then [] else d.supertypes
  hasMember o name :=
    match o.body with
    | .fixture f => ForeignObject.hasMember f name
    | .described d => d.members.contains name
  denseView o :=
    match o.body with
    | .fixture f => ForeignObject.denseView f
    | .described d => if d.bare then none else d.dense
  inspect := inspect

end ScriptedObject

def ObjectSpec.canonicalForm? (d : ObjectSpec) (entryPoint : String) : Option CanonicalForm :=
  if d.bare then none else d.canonicalForms.lookup entryPoint

/-- Canonicalizes a scripted object. A new object has the given identity. -/
def ScriptedObject.canonicalize (o : ScriptedObject) (entryPoint : String) (fresh : Nat) :
    Except ConverterError (Payload ScriptedObject) :=
  match o.body with
  | .fixture f =>
    match f.canonicalize entryPoint with
    | .ok (.tensor t) => .ok (.tensor t)
    | .ok (.handle f) => .ok (.handle ⟨fresh, .fixture f⟩)
    | .error e => .error e
  | .described d =>
    match d.canonicalForm? entryPoint with
    | none => .error (.noEntryPoint d.producer entryPoint)
    | some (.tensor t) => .ok (.tensor t)
    | some (.failure message) => .error ⟨message⟩
    | some (.relabelled label) => .ok (.handle ⟨fresh, .described { d with label }⟩)

end CanonicalTypes.Scenario
