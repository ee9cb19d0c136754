import CanonicalTypes.Resolution.Codec
import CanonicalTypes.Scenario.Answer
import CanonicalTypes.Suite.Run

/-!
# Running a scenario

Steps answer and change the session. Behaviours run on the session that calls them, so a converter
may resolve other values, register further converters or remove itself while it runs. Conversions
that call for conversions are followed to a fixed depth.
-/
namespace CanonicalTypes.Scenario

abbrev ScriptHost := Host ScriptedObject Callback Stage

/-- Evaluates an expression and goes on with its value. -/
def withValue (e : ValueExpr) (s : Session)
    (f : Value ScriptedObject → Session → Answer × Session) : Answer × Session :=
  match evaluate s e with
  | (.ok v, s) => f v s
  | (.error e, s) => (.ofExprError e, s)

def withEngine (engine : Option String) (s : Session) (f : Session → Answer × Session) :
    Answer × Session :=
  match s.engineNumber? engine with
  | some number => s.runOn number f
  | none => (.notSaved, s)

def TypeRef.resolve (s : Session) : TypeRef → Except SystemError TypeId
  | .id number => .ok number
  | .name typeName =>
    match s.lookup typeName with
    | .ok t => .ok t.id
    | .error e => .error e

def DescriptorRef.resolve (s : Session) : DescriptorRef → Except SystemError CapabilityDescriptor
  | .ofType typeName =>
    match s.lookup typeName with
    | .ok t => .ok t.descriptor
    | .error e => .error e
  | .given d => .ok d

def saveValue (save : Option String) (c : CanonicalValue ScriptedObject) (s : Session) : Session :=
  match save with
  | none => s
  | some name => s.onStage fun t => { t with saved := put name c t.saved }

def saveEntry (save : Option String) (entry : Option (ConverterEntry Callback)) (s : Session) :
    Session :=
  match save, entry with
  | some name, some entry =>
    s.onStage fun t => { t with savedEntries := put name entry t.savedEntries }
  | _, _ => s

/-- Registers a behaviour as a converter, once what it refers to is ready. Spies stay, even if the
priority or the target turns out to be at fault. -/
def registerBehaviour (producer : ProducerType) (target : String) (behaviour : Behaviour)
    (priority : Option ConverterPriority) (s : Session) : Answer × Session :=
  match prepare s behaviour, priority with
  | (.error e, s), _ => (.ofExprError e, s)
  | (.ok (), s), none => (.undecodable, s)
  | (.ok (), s), some priority =>
    let callback : Callback := ⟨s.host.nextCallback, behaviour, s.host.objects⟩
    let s := s.onStage fun t => { t with nextCallback := t.nextCallback + 1 }
    let (r, s) := s.registerConverter producer target (.hosted callback) priority
    (.ofExcept .registration r, s)

def traceValue (h : ScriptHost) (v : Value ScriptedObject) (target : TypeId)
    (save : Option String) (s : Session) : Answer × Session :=
  let (r, s) := resolveTraced h v target s
  match r.result with
  | .ok c => (.traced r (s.types.nameOf c.typeId) s.cacheSize, saveValue save c s)
  | .error _ => (.traced r (s.types.nameOf target) s.cacheSize, s)

def runSuite (h : ScriptHost) (cases : SuiteCases) (s : Session) : Answer × Session :=
  match cases with
  | .signature cases => (.report (runSignatureSuite cases), s)
  | .resolution cases =>
    let (report, s) := runResolutionSuite h (fun f => ⟨0, .fixture f⟩) s cases
    (.report report, s)

def Step.run (h : ScriptHost) (s : Session) : Step → Answer × Session
  | .installBuiltins =>
    let (r, s) := s.installBuiltins
    (.ofExcept (fun ids => .builtins (some ids)) r, s)
  | .builtins => (.builtins s.builtins, s)
  | .registerType d =>
    let (r, s) := s.registerType d
    (.ofExcept .typeId r, s)
  | .registerTypes ds =>
    match s.registerTypes ds with
    | (.ok ids, s) => (.typeIds ids, s)
    | (.error e, s) => (.registryError e, s)
  | .lookup name => (.ofExcept .canonicalType (s.lookup name), s)
  | .get id =>
    match s.types.get id with
    | .ok t => (.canonicalType t, s)
    | .error e => (.registryError e, s)
  | .typeName id => (.text (s.types.nameOf id), s)
  | .isAncestor ancestor descendant => (.ofExcept .flag (s.isAncestor ancestor descendant), s)
  | .ancestry ancestor descendant =>
    (.ancestry (s.types.isAncestor ancestor descendant)
      (s.types.isSameOrAncestor ancestor descendant), s)
  | .types => (.types s.types, s)
  | .registerConverter producer target behaviour priority =>
    registerBehaviour producer target behaviour priority s
  | .deregister producer target =>
    let (r, s) := s.deregisterConverter producer target
    (.ofExcept .flag r, s)
  | .remove producer target =>
    let (removed, s) := s.removeConverter producer target
    (.flag removed, s)
  | .lookupConverter producer supertypes target save =>
    match target.resolve s with
    | .error e => (.systemError e, s)
    | .ok id =>
      let (found, generation) := s.converters.lookupWithGeneration producer supertypes id
      (.entry found generation, saveEntry save found s)
  | .convert name value =>
    match s.host.savedEntries.lookup name with
    | none => (.notSaved, s)
    | some entry =>
      withValue value s fun v s =>
        match h.run entry.action v s with
        | (.ok payload, s) => (.payload payload, s)
        | (.error e, s) => (.converterError e, s)
  | .converters => (.converters s.converters, s)
  | .spyCalls name =>
    match s.host.spies.lookup name with
    | some spy => (.count spy.calls, s)
    | none => (.nothing, s)
  | .store name spec =>
    let (o, s) := s.newObject (.described spec)
    (.nothing, s.onStage fun t => { t with objects := put name o t.objects })
  | .conforms value descriptor =>
    match descriptor.resolve s with
    | .error e => (.systemError e, s)
    | .ok d => withValue value s fun v s => (.conformance (.of v d), s)
  | .compare a b =>
    match s.host.saved.lookup a, s.host.saved.lookup b with
    | some a, some b => (.comparison (a == b) (a.payload == b.payload), s)
    | _, _ => (.notSaved, s)
  | .resolve value target save =>
    withValue value s fun v s =>
      withEngine none s fun s =>
        match s.resolve h v target with
        | (.ok c, s) => (.resolved c (s.types.nameOf c.typeId), saveValue save c s)
        | (.error e, s) => (.systemError e, s)
  | .trace value target engine save =>
    withValue value s fun v s =>
      match target.resolve s with
      | .error e => (.systemError e, s)
      | .ok id => withEngine engine s (traceValue h v id save)
  | .newEngine name settings audited =>
    (.nothing, s.addEngine name { config := settings, audited })
  | .invalidateCache engine =>
    withEngine engine s fun s => let s := s.invalidateCache; (.count s.cacheSize, s)
  | .cacheSize engine => withEngine engine s fun s => (.count s.cacheSize, s)
  | .config engine => withEngine engine s fun s => (.text (Codec.toText s.engine.config), s)
  | .check declared runtime => (.compatibility (checkSignature declared runtime), s)
  | .suite cases => withEngine none s (runSuite h cases)
  | .ledger step =>
    let (answer, after) := step.run s.ledger
    (.ledger answer, { s with ledger := after })
  | .undecodable => (.undecodable, s)

def runSteps (h : ScriptHost) (s : Session) : List Step → List Answer × Session
  | [] => ([], s)
  | step :: rest =>
    let (answer, s) := step.run h s
    let (answers, s) := runSteps h s rest
    (answer :: answers, s)

/-- The payload of a value resolved to a type by the system's own engine. -/
def resolveVia (h : ScriptHost) (target : String) (v : Value ScriptedObject) (s : Session) :
    Except ConverterError (Payload ScriptedObject) × Session :=
  s.runOn 0 fun s =>
    match s.resolve h v target with
    | (.ok c, s) => (.ok c.payload, s)
    | (.error e, s) => (.error ⟨e.message⟩, s)

mutual

/-- Runs a behaviour at a place in a callback. -/
def Behaviour.run (h : ScriptHost) (scope : List (String × ScriptedObject)) (place : List Nat)
    (v : Value ScriptedObject) (s : Session) :
    Behaviour → Except ConverterError (Payload ScriptedObject) × Session
  | .constant t => (.ok (.tensor t), s)
  | .failure message => (.error ⟨message⟩, s)
  | .scalar =>
    match v with
    | .scalar literal => (.ok (.tensor (Tensor.scalar literal)), s)
    | other => (.error ⟨s!"not a scalar: {other.producer.name}"⟩, s)
  | .length =>
    match v with
    | .sequence items =>
      (.ok (.tensor (Tensor.scalar (.int (Int64.ofNat items.length)))), s)
    | other => (.error ⟨s!"not a sequence: {other.producer.name}"⟩, s)
  | .payload =>
    match v with
    | .canonical c => (.ok c.payload, s)
    | other => (.error ⟨s!"not canonical: {other.producer.name}"⟩, s)
  | .dense =>
    match v.object?.bind ForeignObject.denseView with
    | some t => (.ok (.tensor t), s)
    | none => (.error ⟨"no dense view"⟩, s)
  | .handle name =>
    match scope.lookup name with
    | some o => (.ok (.handle o), s)
    | none => (.error ⟨"no such object"⟩, s)
  | .spy name result =>
    let (result, s) := s.callSpy name result
    (.ok (.tensor (Tensor.scalar (.int result))), s)
  | .via target => resolveVia h target v s
  | .script behaviours =>
    let (calls, s) := s.callScript place
    let index := min calls (behaviours.length - 1)
    Behaviour.runNth h scope (index :: place) v s behaviours index
  | .reenter steps after =>
    let (_, s) := runSteps h s steps
    after.run h scope (0 :: place) v s
  | .undecodable => (.error ⟨"no behaviour"⟩, s)

def Behaviour.runNth (h : ScriptHost) (scope : List (String × ScriptedObject)) (place : List Nat)
    (v : Value ScriptedObject) (s : Session) :
    List Behaviour → Nat → Except ConverterError (Payload ScriptedObject) × Session
  | [], _ => (.error ⟨"no behaviour"⟩, s)
  | b :: _, 0 => b.run h scope place v s
  | _ :: rest, n + 1 => Behaviour.runNth h scope place v s rest n

end

/-- The host of scripted code in which conversions call for each other at most `depth` deep. -/
def hostOfDepth : (depth : Nat) → ScriptHost
  | 0 => ⟨fun _ _ s => (.error ⟨"conversions are nested too deeply"⟩, s), Session.canonicalize⟩
  | depth + 1 =>
    ⟨fun c v s => c.behaviour.run (hostOfDepth depth) c.scope [c.number] v s,
      Session.canonicalize⟩

/-- The depth to which conversions that call for conversions are followed. It is out of reach for a
run that ends. -/
def maxConversionDepth : Nat := 1000000000

def host : ScriptHost := hostOfDepth maxConversionDepth

def run (s : Session) (steps : List Step) : List Answer := (runSteps host s steps).1

end CanonicalTypes.Scenario
