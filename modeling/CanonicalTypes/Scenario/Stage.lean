import CanonicalTypes.Scenario.Step

/-!
# The stage of a scenario

What a scenario keeps beside the type system itself: stored objects, saved results, spies and
scripts with their calls, and further engines. Only one engine at a time is the system's engine;
the others are parked under their numbers. A name that is given to a new engine no longer means the
old one, which still finishes what it is running.
-/
namespace CanonicalTypes.Scenario

/-- A registered behaviour. It sees the objects that were stored when it was registered, and its
scripts are told apart by the number of the registration. -/
structure Callback where
  number : Nat
  behaviour : Behaviour
  scope : List (String × ScriptedObject)

/-- A converter that counts its calls. -/
structure Spy where
  calls : Nat := 0
  result : Int64

structure Stage where
  nextIdentity : Nat := 0
  nextCallback : Nat := 0
  objects : List (String × ScriptedObject) := []
  saved : List (String × CanonicalValue ScriptedObject) := []
  savedEntries : List (String × ConverterEntry Callback) := []
  spies : List (String × Spy) := []
  /-- The calls of each script, which is found by its place in a callback. -/
  scriptCalls : List (List Nat × Nat) := []
  /-- The number of the running engine; the system's own is number zero. -/
  running : Nat := 0
  nextEngine : Nat := 1
  engineNames : List (String × Nat) := []
  parked : List (Nat × Engine Callback) := []

/-- A type system driven by a scenario. -/
abbrev Session := TypeSystem Callback Stage

/-- The entry of a key in a list of pairs, replaced or added at the front. -/
def put {α β : Type} [DecidableEq α] (key : α) (value : β) (entries : List (α × β)) :
    List (α × β) :=
  (key, value) :: entries.filter fun e => e.1 ≠ key

namespace Session

def start (config : EngineConfig) : Session := TypeSystem.new config {}

def withBuiltins (config : EngineConfig) : Except SystemError Session :=
  TypeSystem.withBuiltins config {}

def onStage (s : Session) (f : Stage → Stage) : Session := { s with host := f s.host }

def newObject (s : Session) (body : ObjectBody) : ScriptedObject × Session :=
  (⟨s.host.nextIdentity, body⟩,
    s.onStage fun t => { t with nextIdentity := t.nextIdentity + 1 })

def addEngine (s : Session) (name : String) (engine : Engine Callback) : Session :=
  s.onStage fun t =>
    { t with
      nextEngine := t.nextEngine + 1
      engineNames := put name t.nextEngine t.engineNames
      parked := put t.nextEngine engine t.parked }

/-- Makes an engine the running one, and parks the one that was running. -/
def switchTo (s : Session) (number : Nat) : Session :=
  if s.host.running = number then s
  else
    match s.host.parked.lookup number with
    | none => s
    | some engine =>
      { s with
        engine
        host := { s.host with
          running := number
          parked := put s.host.running s.engine s.host.parked } }

/-- Runs something on an engine and returns to the engine that was running before. -/
def runOn {α : Type} (number : Nat) (f : Session → α × Session) (s : Session) : α × Session :=
  let (a, after) := f (s.switchTo number)
  (a, Session.switchTo after s.host.running)

/-- The number of a named engine, or of the system's own. -/
def engineNumber? (s : Session) : Option String → Option Nat
  | none => some 0
  | some name => s.host.engineNames.lookup name

/-- Counts a call of a spy. The first result that a spy was given stays. -/
def callSpy (s : Session) (name : String) (result : Int64) : Int64 × Session :=
  let spy := (s.host.spies.lookup name).getD { result }
  (spy.result,
    s.onStage fun t => { t with spies := put name { spy with calls := spy.calls + 1 } t.spies })

/-- Adds a spy, unless it is there already. -/
def addSpy (s : Session) (name : String) (result : Int64) : Session :=
  if (s.host.spies.lookup name).isSome then s
  else s.onStage fun t => { t with spies := put name { result } t.spies }

/-- The number of earlier calls of a script, and the session after one more. -/
def callScript (s : Session) (script : List Nat) : Nat × Session :=
  let calls := (s.host.scriptCalls.lookup script).getD 0
  (calls, s.onStage fun t => { t with scriptCalls := put script (calls + 1) t.scriptCalls })

/-- Canonicalizes an object; an object that this creates is new. -/
def canonicalize (o : ScriptedObject) (entryPoint : String) (s : Session) :
    Except ConverterError (Payload ScriptedObject) × Session :=
  (o.canonicalize entryPoint s.host.nextIdentity,
    s.onStage fun t => { t with nextIdentity := t.nextIdentity + 1 })

end Session

mutual

/-- Embeds the objects of a value made from fixtures, each with an identity of its own. -/
def embedFixtures (s : Session) : Value FixtureObject → Value ScriptedObject × Session
  | .scalar literal => (.scalar literal, s)
  | .sequence items =>
    let (items, s) := embedFixtureItems s items
    (.sequence items, s)
  | .object f =>
    let (o, s) := s.newObject (.fixture f)
    (.object o, s)
  | .canonical ⟨id, .tensor t⟩ => (.canonical ⟨id, .tensor t⟩, s)
  | .canonical ⟨id, .handle f⟩ =>
    let (o, s) := s.newObject (.fixture f)
    (.canonical ⟨id, .handle o⟩, s)

def embedFixtureItems (s : Session) :
    List (Value FixtureObject) → List (Value ScriptedObject) × Session
  | [] => ([], s)
  | v :: rest =>
    let (v, s) := embedFixtures s v
    let (rest, s) := embedFixtureItems s rest
    (v :: rest, s)

end

/-- Why an expression has no value, or a behaviour no meaning. -/
inductive ExprError where
  | undecodable
  | notSaved
  deriving DecidableEq

mutual

def evaluate (s : Session) : ValueExpr → Except ExprError (Value ScriptedObject) × Session
  | .scalar literal => (.ok (.scalar literal), s)
  | .sequence items =>
    match evaluateItems s items with
    | (.ok values, s) => (.ok (.sequence values), s)
    | (.error e, s) => (.error e, s)
  | .nested count inner =>
    match evaluate s inner with
    | (.ok v, s) => (.ok (v.nested count), s)
    | (.error e, s) => (.error e, s)
  | .copies count item =>
    match evaluate s item with
    | (.ok v, s) => (.ok (.sequence (List.replicate count v)), s)
    | (.error e, s) => (.error e, s)
  | .object spec =>
    let (o, s) := s.newObject (.described spec)
    (.ok (.object o), s)
  | .stored name =>
    match s.host.objects.lookup name with
    | some o => (.ok (.object o), s)
    | none => (.error .notSaved, s)
  | .fixture f =>
    let (o, s) := s.newObject (.fixture f)
    (.ok (.object o), s)
  | .fixtureValue value =>
    let (v, s) := embedFixtures s (value.toValue id)
    (.ok v, s)
  | .canonicalTensor id tensor => (.ok (.canonical ⟨id, .tensor tensor⟩), s)
  | .canonicalHandle id spec =>
    let (o, s) := s.newObject (.described spec)
    (.ok (.canonical ⟨id, .handle o⟩), s)
  | .saved name =>
    match s.host.saved.lookup name with
    | some c => (.ok (.canonical c), s)
    | none => (.error .notSaved, s)
  | .undecodable => (.error .undecodable, s)

def evaluateItems (s : Session) :
    List ValueExpr → Except ExprError (List (Value ScriptedObject)) × Session
  | [] => (.ok [], s)
  | e :: rest =>
    match evaluate s e with
    | (.error e, s) => (.error e, s)
    | (.ok v, s) =>
      match evaluateItems s rest with
      | (.error e, s) => (.error e, s)
      | (.ok values, s) => (.ok (v :: values), s)

end

mutual

/-- Gets ready what a behaviour refers to, in the order in which it is written: spies are added, and
objects to be handed out have to be stored. What comes before a fault stays ready. -/
def prepare (s : Session) : Behaviour → Except ExprError Unit × Session
  | .handle name =>
    if (s.host.objects.lookup name).isSome then (.ok (), s) else (.error .notSaved, s)
  | .spy name result => (.ok (), s.addSpy name result)
  | .script behaviours => prepareAll s behaviours
  | .reenter _ after => prepare s after
  | .undecodable => (.error .undecodable, s)
  | _ => (.ok (), s)

def prepareAll (s : Session) : List Behaviour → Except ExprError Unit × Session
  | [] => (.ok (), s)
  | b :: rest =>
    match prepare s b with
    | (.error e, s) => (.error e, s)
    | (.ok (), s) => prepareAll s rest

end

end CanonicalTypes.Scenario
