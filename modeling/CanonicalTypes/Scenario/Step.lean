import CanonicalTypes.Scenario.LedgerScript
import CanonicalTypes.Scenario.Object
import CanonicalTypes.Suite.Case
import CanonicalTypes.System.Facade

/-!
# The steps of a scenario

A scenario drives a type system by steps that are data. Values are expressions, since they may
refer to objects and results that earlier steps have stored. Converters are behaviours: data that
tells what a conversion returns, which may be to run more steps on the same system first.
-/
namespace CanonicalTypes.Scenario

inductive ValueExpr where
  | scalar (literal : Literal)
  | sequence (items : List ValueExpr)
  /-- The value inside `count` sequences of one item. -/
  | nested (count : Nat) (inner : ValueExpr)
  /-- A sequence of `count` copies of the value. -/
  | copies (count : Nat) (item : ValueExpr)
  | object (spec : ObjectSpec)
  | stored (name : String)
  | fixture (object : FixtureObject)
  | fixtureValue (value : FixtureValue)
  | canonicalTensor (id : TypeId) (tensor : Tensor)
  | canonicalHandle (id : TypeId) (spec : ObjectSpec)
  /-- A canonical value that an earlier step has saved. -/
  | saved (name : String)
  /-- Data that do not denote a value. -/
  | undecodable

/-- A type given by its id, which need not be registered, or by its name. -/
inductive TypeRef where
  | id (id : TypeId)
  | name (name : String)

/-- A descriptor given by the name of its type or as it is. -/
inductive DescriptorRef where
  | ofType (name : String)
  | given (descriptor : CapabilityDescriptor)

inductive SuiteCases where
  | resolution (cases : List ResolutionCase)
  | signature (cases : List SignatureCase)

mutual

inductive Behaviour where
  | constant (tensor : Tensor)
  | failure (message : String)
  /-- The tensor without axes of a native scalar. -/
  | scalar
  /-- The number of items of a sequence. -/
  | length
  /-- The payload of a canonical value. -/
  | payload
  /-- The dense view of an object. -/
  | dense
  /-- A handle to a stored object. -/
  | handle (name : String)
  /-- An integer, and one more call of the named spy. -/
  | spy (name : String) (result : Int64)
  /-- The payload of the same value resolved to the named type. -/
  | via (target : String)
  /-- One behaviour per call, the last of which repeats. -/
  | script (behaviours : List Behaviour)
  /-- Another behaviour, once some steps have been run. -/
  | reenter (steps : List Step) (after : Behaviour)
  /-- Data that do not denote a behaviour. -/
  | undecodable

inductive Step where
  | installBuiltins
  | builtins
  | registerType (declaration : TypeDeclaration)
  | registerTypes (declarations : List TypeDeclaration)
  | lookup (name : String)
  | get (id : TypeId)
  | typeName (id : TypeId)
  | isAncestor (ancestor descendant : String)
  | ancestry (ancestor descendant : TypeId)
  | types
  /-- The priority is `none` if the data do not denote one. -/
  | registerConverter (producer : ProducerType) (target : String) (behaviour : Behaviour)
      (priority : Option ConverterPriority)
  | deregister (producer : ProducerType) (target : String)
  | remove (producer : ProducerType) (target : TypeId)
  | lookupConverter (producer : ProducerType) (supertypes : List ProducerType) (target : TypeRef)
      (save : Option String)
  | convert (entry : String) (value : ValueExpr)
  | converters
  | spyCalls (name : String)
  | store (name : String) (spec : ObjectSpec)
  | conforms (value : ValueExpr) (descriptor : DescriptorRef)
  | compare (a b : String)
  | resolve (value : ValueExpr) (target : String) (save : Option String)
  | trace (value : ValueExpr) (target : TypeRef) (engine save : Option String)
  | newEngine (name : String) (config : EngineConfig) (audited : Bool)
  | invalidateCache (engine : Option String)
  | cacheSize (engine : Option String)
  | config (engine : Option String)
  | check (declared : AnnotationShape) (runtime : TypeSignature)
  | suite (cases : SuiteCases)
  | ledger (step : LedgerStep)
  /-- Data that do not denote a step. -/
  | undecodable

end

instance : Inhabited Behaviour := ⟨.undecodable⟩

instance : Inhabited Step := ⟨.undecodable⟩

end CanonicalTypes.Scenario
