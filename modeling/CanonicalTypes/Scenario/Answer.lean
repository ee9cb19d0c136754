import CanonicalTypes.Scenario.Stage

/-!
# Answers

What the steps of a scenario answer. A step whose data do not denote one is answered too, and so is
one that refers to something that was never saved.
-/
namespace CanonicalTypes.Scenario

inductive Answer where
  | nothing
  | flag (value : Bool)
  | count (value : Nat)
  | text (value : String)
  | builtins (ids : Option BuiltinIds)
  | typeId (id : TypeId)
  | typeIds (ids : List TypeId)
  | canonicalType (type : CanonicalType)
  | ancestry (proper sameOr : Bool)
  | types (registry : TypeRegistry)
  | registration (registration : Registration)
  | entry (entry : Option (ConverterEntry Callback)) (generation : Nat)
  | payload (payload : Payload ScriptedObject)
  | converters (registry : ConverterRegistry Callback)
  | conformance (conformance : Conformance)
  | comparison (values payloads : Bool)
  | resolved (value : CanonicalValue ScriptedObject) (typeName : String)
  /-- How a value was resolved, the name of the type that it became or was to become, and the size
  of the engine's cache afterwards. -/
  | traced (resolution : Resolution ScriptedObject) (typeName : String) (cacheSize : Nat)
  | compatibility (report : Compatibility)
  | report (report : ConformanceReport)
  | ledger (answer : LedgerAnswer)
  | registryError (error : RegistryError)
  | systemError (error : SystemError)
  | converterError (error : ConverterError)
  | undecodable
  | notSaved

def Answer.ofExprError : ExprError → Answer
  | .undecodable => .undecodable
  | .notSaved => .notSaved

/-- Answers with what came out of a system's operation. -/
def Answer.ofExcept {α : Type} (answer : α → Answer) : Except SystemError α → Answer
  | .ok a => answer a
  | .error e => .systemError e

end CanonicalTypes.Scenario
