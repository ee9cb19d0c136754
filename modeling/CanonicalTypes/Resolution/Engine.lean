import CanonicalTypes.Descriptor.Conformance
import CanonicalTypes.Resolution.Trace
import CanonicalTypes.System.Basic
import CanonicalTypes.Tensor.Stack

/-!
# Resolution

Resolution turns a value into an instance of a canonical type. The first of these that applies
decides:

1. identity: the value is an instance of the target or of one of its subtypes;
2. the cached strategy for its producer and the target;
3. a registered converter of its producer, or of the first supertype that has one;
4. the target's protocol, for an object on which every required member is present;
5. aggregation, if the target permits sequences: an object's dense view, or the elements of a
   sequence, each resolved on its own and stacked.

A converter or an object that fails decides too. Aggregation resolves the elements from left to
right, one level deeper, and fails with the first failure of an element. An empty sequence has no
element to take a kind from and becomes a row of floating-point numbers. Sequences nested beyond
the configured depth are not aggregated.

| here | operation |
| --- | --- |
| `scalarPayload`                        | `scalar_to_tensor` |
| `applyConverter`                       | `ResolutionEngine::invoke_converter` |
| `applyProtocol`                        | `ResolutionEngine::invoke_protocol` |
| `lookInCache`, `replay`                | the look into the cache in `ResolutionEngine::resolve_at` |
| `resolveByLookup`, `resolveByProtocol` | the registry and the protocol in `ResolutionEngine::resolve_at` |
| `remember`                             | `ResolutionEngine::remember` |
| `resolveAt`                            | `ResolutionEngine::resolve_at` with `aggregate` |
| `resolveItems`, `stacked`              | the loop and the end of `aggregate` |
| `observe`                              | `ResolutionEngine::observe`, its record without its log lines |
| `resolveTraced`                        | `ResolutionEngine::resolve_traced` |
-/
namespace CanonicalTypes

variable {ω κ η : Type} [ForeignObject ω]

/-- The tensor without axes of a native scalar. -/
def scalarPayload (v : Value ω) : Except ConverterError (Payload ω) :=
  match v with
  | .scalar literal => .ok (.tensor (Tensor.scalar literal))
  | other => .error ⟨s!"scalar converter received `{other.producer.name}`"⟩

namespace Host

def run (h : Host ω κ η) (action : ConverterAction κ) (v : Value ω) (s : TypeSystem κ η) :
    Except ConverterError (Payload ω) × TypeSystem κ η :=
  match action with
  | .scalar => (scalarPayload v, s)
  | .hosted tag => h.convert tag v s

end Host

/-- The resolution that foreign code decides, by the payload or the error that it returned. -/
def settle (target : CanonicalType) (producer : ProducerType) (strategy : Strategy) (trace : Trace)
    (answer : Except ConverterError (Payload ω)) : Resolution ω :=
  match answer with
  | .ok payload => ⟨.ok ⟨target.id, payload⟩, trace.decide strategy⟩
  | .error e => ⟨.error (.converter target.name producer strategy e), trace.decide strategy⟩

/-- Resolves by a converter (`ResolutionEngine::invoke_converter`). -/
def applyConverter (h : Host ω κ η) (entry : ConverterEntry κ) (v : Value ω)
    (target : CanonicalType) (trace : Trace) (s : TypeSystem κ η) :
    Resolution ω × TypeSystem κ η :=
  let (answer, s) := h.run entry.action v s
  (settle target v.producer .registry trace answer, s)

/-- Resolves by an object's own canonicalization (`ResolutionEngine::invoke_protocol`). -/
def applyProtocol (h : Host ω κ η) (o : ω) (entryPoint : String) (target : CanonicalType)
    (trace : Trace) (s : TypeSystem κ η) : Resolution ω × TypeSystem κ η :=
  let (answer, s) := h.canonicalize o entryPoint s
  (settle target (ForeignObject.producer o) .protocol trace answer, s)

/-- The value itself, if it is an instance of the target. -/
def identity? (types : TypeRegistry) (target : TypeId) : Value ω → Option (CanonicalValue ω)
  | .canonical c => if types.isSameOrAncestor target c.typeId then some c else none
  | _ => none

def lookInCache (config : EngineConfig) (producer : ProducerType) (target : TypeId)
    (s : TypeSystem κ η) : Option (CachedStrategy κ) × TypeSystem κ η :=
  if config.cacheEnabled then
    -- The first look in a later generation empties the cache, so a miss may change the system.
    let (hit, cache) := s.engine.cache.get producer target s.converters.generation
    (hit, s.withCache cache)
  else (none, s)

/-- Remembers the strategy of a successful resolution, as of a generation of the converters. -/
def remember (config : EngineConfig) (r : Resolution ω) (target : TypeId)
    (strategy : CachedStrategy κ) (generation : Nat) (s : TypeSystem κ η) : TypeSystem κ η :=
  if config.cacheEnabled && r.succeeded then
    s.withCache (s.engine.cache.insert r.trace.producer target strategy generation)
  else s

/-- Replays a cached strategy. The protocol can only be replayed for an object, and for a target
that has an entry point. -/
def replay (h : Host ω κ η) (hit : Option (CachedStrategy κ)) (v : Value ω)
    (target : CanonicalType) (trace : Trace) (s : TypeSystem κ η) :
    Option (Resolution ω × TypeSystem κ η) :=
  match hit with
  | none => none
  | some (.registry entry) =>
    some (applyConverter h entry v target { trace with cacheHit := true } s)
  | some .protocol =>
    match v.object?, target.descriptor.entryPoint with
    | some o, some entryPoint =>
      some (applyProtocol h o entryPoint target { trace with cacheHit := true } s)
    | _, _ => none

/-- Where a resolution stands before it looks into a sequence. -/
inductive Progress (ω : Type) where
  | decided (r : Resolution ω)
  | undecided (trace : Trace)

/-- Resolves by the target's protocol, if it has one and the value is an object that conforms. The
generation is the one in which no converter was found. -/
def resolveByProtocol (h : Host ω κ η) (config : EngineConfig) (v : Value ω)
    (target : CanonicalType) (trace : Trace) (generation : Nat) (s : TypeSystem κ η) :
    Progress ω × TypeSystem κ η :=
  match target.descriptor.entryPoint with
  | none => (.undecided trace, s)
  | some entryPoint =>
    let trace := trace.attempt .protocol
    match v.object? with
    | none => (.undecided trace, s)
    | some o =>
      if conformsObject o target.descriptor then
        let (r, s) := applyProtocol h o entryPoint target trace s
        (.decided r, remember config r target.id .protocol generation s)
      else (.undecided trace, s)

/-- Resolves by a registered converter, or else by the protocol. -/
def resolveByLookup (h : Host ω κ η) (config : EngineConfig) (v : Value ω)
    (target : CanonicalType) (trace : Trace) (s : TypeSystem κ η) :
    Progress ω × TypeSystem κ η :=
  let trace := trace.attempt .registry
  -- What is remembered counts for the generation of this look-up, however long the converter runs.
  match s.converters.lookupWithGeneration v.producer v.supertypes target.id with
  | (some entry, generation) =>
    let (r, s) := applyConverter h entry v target trace s
    (.decided r, remember config r target.id (.registry entry) generation s)
  | (none, generation) => resolveByProtocol h config v target trace generation s

def Trace.start (v : Value ω) (target : CanonicalType) : Trace :=
  { producer := v.producer, target := target.id }

/-- Resolves without looking into sequences. -/
def resolveDirectly (h : Host ω κ η) (config : EngineConfig) (v : Value ω)
    (target : CanonicalType) (s : TypeSystem κ η) : Progress ω × TypeSystem κ η :=
  let trace := Trace.start v target
  match identity? s.types target.id v with
  | some c => (.decided ⟨.ok c, trace.decide .identity⟩, s)
  | none =>
    let (hit, s) := lookInCache config v.producer target.id s
    match replay h hit v target trace s with
    | some (r, s) => (.decided r, s)
    | none => resolveByLookup h config v target trace s

def notFound (target : CanonicalType) (trace : Trace) : Resolution ω :=
  ⟨.error (.noConversionFound target.name trace.producer trace.attempted), trace⟩

def aggregated (target : CanonicalType) (trace : Trace) (t : Tensor) : Resolution ω :=
  ⟨.ok ⟨target.id, .tensor t⟩, trace.decide .sequence⟩

/-- The resolution by stacking the resolved elements of a sequence. -/
def stacked (target : CanonicalType) (trace : Trace) (slices : List Tensor) : Resolution ω :=
  match Tensor.stack slices with
  | .ok t => aggregated target trace t
  | .error e => ⟨.error (.raggedOrMixedElements target.name trace.producer e.message), trace⟩

mutual

/-- Resolves a value that stands inside `depth` aggregated sequences
(`ResolutionEngine::resolve_at`, with the call of `aggregate` at its end written out). -/
def resolveAt (h : Host ω κ η) (config : EngineConfig) (depth : Nat) (v : Value ω)
    (target : CanonicalType) (s : TypeSystem κ η) : Resolution ω × TypeSystem κ η :=
  match resolveDirectly h config v target s with
  | (.decided r, s) => (r, s)
  | (.undecided trace, s) =>
    match target.sequenceElement with
    | none => (notFound target trace, s)
    | some element =>
      let trace := trace.attempt .sequence
      match v with
      | .object o =>
        match ForeignObject.denseView o with
        | some t => (aggregated target trace t, s)
        | none => (notFound target trace, s)
      | .sequence items =>
        if depth < config.maxSequenceDepth then
          if items.isEmpty then (aggregated target trace (Tensor.empty .f64), s)
          else
            match s.types.get? element with
            | none => (⟨.error (.unknownType element.text trace.producer), trace⟩, s)
            | some elementType =>
              -- Elements have traces of their own, so a failing one leaves this trace undecided.
              match resolveItems h config (depth + 1) target elementType 0 items s with
              | (.error failure, s) => (⟨.error failure, trace⟩, s)
              | (.ok slices, s) => (stacked target trace slices, s)
        else (notFound target trace, s)
      | _ => (notFound target trace, s)

/-- Resolves the elements of a sequence from position `index` on. Each has to become a tensor; the
first that does not fails the sequence, which was to become `outer`. -/
def resolveItems (h : Host ω κ η) (config : EngineConfig) (depth : Nat) (outer : CanonicalType)
    (elementType : CanonicalType) (index : Nat) (items : List (Value ω)) (s : TypeSystem κ η) :
    Except ResolutionFailure (List Tensor) × TypeSystem κ η :=
  match items with
  | [] => (.ok [], s)
  | v :: rest =>
    match resolveAt h config depth v elementType s with
    | (⟨.error failure, _⟩, s) => (.error failure, s)
    | (⟨.ok ⟨_, .handle _⟩, _⟩, s) =>
      (.error (.raggedOrMixedElements outer.name ProducerType.sequence
        s!"element {index} resolved to a non-dense payload"), s)
    | (⟨.ok ⟨_, .tensor t⟩, _⟩, s) =>
      match resolveItems h config depth outer elementType (index + 1) rest s with
      | (.error failure, s) => (.error failure, s)
      | (.ok slices, s) => (.ok (t :: slices), s)

end

/-- Records a resolution in the ledger, if the engine records any (`ResolutionEngine::observe`). An
identity leaves no record. -/
def observe (engine : Engine κ) (target : String) (r : Resolution ω) (s : TypeSystem κ η) :
    TypeSystem κ η :=
  if r.isIdentity then s
  else if engine.config.recordLedger && engine.audited then
    s.record (.resolution (r.toRecord target))
  else s

/-- Resolves a value to the type with an id, and tells how it was decided
(`ResolutionEngine::resolve_traced`). -/
def resolveTraced (h : Host ω κ η) (v : Value ω) (target : TypeId) (s : TypeSystem κ η) :
    Resolution ω × TypeSystem κ η :=
  -- Foreign code may put another engine in place; the one that was called goes on and records.
  let engine := s.engine
  match s.types.get? target with
  | some t =>
    let (r, s) := resolveAt h engine.config 0 v t s
    (r, observe engine t.name r s)
  | none =>
    let r : Resolution ω :=
      ⟨.error (.unknownType target.text v.producer), { producer := v.producer, target }⟩
    (r, observe engine target.text r s)

end CanonicalTypes
