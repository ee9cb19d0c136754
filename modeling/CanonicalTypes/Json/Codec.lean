import CanonicalTypes.Json.Parser
import CanonicalTypes.Json.Printer

/-!
# Typed records as JSON

A `Codec` writes the values of a type as JSON and reads them back. Records are objects with one
field per component, or arrays of the components in order; alternatives are named by a label, which
stands in one of three places:

* *outside*: the label alone, or an object whose single key it is;
* *inside*: a field of the content's own object;
* *beside*: a field next to a field with the content.

What is accepted depends a little on where a value comes from, its `Source`. Content that has to be
set aside before its label is known is `buffered`: all of it must be readable, and its labels are
read more freely.
-/
namespace CanonicalTypes

/-- Where a decoder takes a value from. -/
inductive Json.Source where
  /-- the text being read -/
  | text
  /-- a value that had been read before -/
  | tree
  /-- content set aside until its label was known -/
  | buffered
  deriving DecidableEq

class Codec (α : Type) where
  encode : α → Json
  decode : Json.Source → Json → Option α

namespace Codec

def toText {α : Type} [Codec α] (a : α) : String := (encode a).compact

def toPrettyText {α : Type} [Codec α] (a : α) : String := (encode a).pretty

def ofText? {α : Type} [Codec α] (text : String) : Option α :=
  (Json.parse? text).bind (decode .text)

/-- The value that a JSON value denotes, whose keys are first put in order. -/
def ofJson? {α : Type} [Codec α] (j : Json) : Option α := decode .tree j.normalize

end Codec

namespace Json

open Codec

/-! ## Records -/

/-- The values of the named fields, each of which may be missing but not repeated. -/
def namedFields (names : List String) (fields : List (String × Json)) :
    Option (List (Option Json)) :=
  names.mapM fun name =>
    match fields.filter (fun f => f.1 = name) with
    | [] => some none
    | [f] => some (some f.2)
    | _ => none

/-- The components of a record: the named fields of an object, or the items of an array, which has
to list all of them. -/
def components (names : List String) : Json → Option (List (Option Json))
  | array items => if items.length = names.length then some (items.map some) else none
  | object fields => namedFields names fields
  | _ => none

/-- The components of a record that has to be an object. -/
def objectComponents (names : List String) : Json → Option (List (Option Json))
  | object fields => namedFields names fields
  | _ => none

def required {α : Type} [Codec α] (source : Source) (component : Option Json) : Option α :=
  component.bind (decode source)

/-- Reads a component that may be missing or null. -/
def optional {α : Type} [Codec α] (source : Source) : Option Json → Option (Option α)
  | none => some none
  | some null => some none
  | some j => (decode source j).map some

/-! ## Labels -/

/-- A label outside its content, and the content if there is any. -/
def outerLabel : Json → Option (String × Option Json)
  | string label => some (label, none)
  | object [(label, content)] => some (label, some content)
  | _ => none

/-- Whether content may stand after a label that has none. -/
def isUnit (source : Source) : Option Json → Bool
  | none => true
  | some null => true
  | some (object []) => source = .buffered
  | _ => false

def labelled {α : Type} (label : α → String) (all : List α) (text : String) : Option α :=
  all.find? fun a => label a = text

/-- Reads one of several alternatives without content. -/
def unitLabel {α : Type} (label : α → String) (all : List α) (source : Source) (j : Json) :
    Option α :=
  match outerLabel j with
  | some (text, content) => if isUnit source content then labelled label all text else none
  | none => none

/-- Reads a label that stands inside its content. Labels in buffered content may be given by their
position. -/
def innerLabel (labels : List String) (source : Source) : Json → Option String
  | string label => if labels.contains label then some label else none
  | number (.integer (.ofNat n)) => if source = .buffered then labels[n]? else none
  | _ => none

/-- Splits content that holds its own label: the label, and the content without it. The content is
an object with the label among its fields, or an array that starts with the label. -/
def splitInner (tag : String) (labels : List String) (source : Source) :
    Json → Option (String × Json)
  | object fields =>
    match fields.filter (fun f => f.1 = tag) with
    | [f] =>
      let rest := fields.filter (fun f => f.1 ≠ tag)
      if readableFields rest then (innerLabel labels source f.2).map (·, object rest) else none
    | _ => none
  | array (first :: rest) =>
    if readableItems rest then (innerLabel labels source first).map (·, array rest) else none
  | _ => none

/-- Whether content may follow a label inside it that asks for none: fields are passed over, items
are not. -/
def isInnerUnit : Json → Bool
  | object _ => true
  | array items => items.isEmpty
  | _ => false

/-- Splits an object that holds a label beside its content. Content that comes before its label has
been buffered. An array lists the label, read as a label inside content is, and the content. -/
def splitBeside (tag content : String) (labels : List String) (source : Source) :
    Json → Option (String × Source × Option Json)
  | object fields =>
    let known := fields.filter (fun f => f.1 = tag ∨ f.1 = content)
    match known with
    | [(k, j)] => if k = tag then (unitLabel id labels source j).map (·, source, none) else none
    | [(k, j), (k', j')] =>
      if k = tag ∧ k' = content then (unitLabel id labels source j).map (·, source, some j')
      else if k = content ∧ k' = tag ∧ j.readable then
        (unitLabel id labels source j').map (·, .buffered, some j)
      else none
    | _ => none
  | array [j, j'] => (innerLabel labels source j).map (·, source, some j')
  | _ => none

/-! ## Numbers -/

def natBelow? (bound : Nat) : Json → Option Nat
  | number (.integer (.ofNat n)) => if n < bound then some n else none
  | _ => none

/-- The JSON form of a floating-point number; what is not finite has none. -/
def ofFloatBits (bits : UInt64) : Json :=
  if Binary64.isFinite bits then .number (.ofFloatBits bits) else .null

/-- Reads a floating-point number, which may be written as an integer. -/
def floatBits? : Json → Option UInt64
  | number n => n.toFloatBits?
  | _ => none

end Json

/-! ## Codecs of plain types -/

namespace Codec

instance : Codec Bool where
  encode := .bool
  decode _
    | .bool b => some b
    | _ => none

instance : Codec String where
  encode := .string
  decode _
    | .string s => some s
    | _ => none

instance : Codec UInt8 where
  encode n := .ofNat n.toNat
  decode _ j := (j.natBelow? UInt8.size).map Nat.toUInt8

instance : Codec UInt32 where
  encode n := .ofNat n.toNat
  decode _ j := (j.natBelow? UInt32.size).map Nat.toUInt32

instance : Codec UInt64 where
  encode n := .ofNat n.toNat
  decode _ j := (j.natBelow? UInt64.size).map Nat.toUInt64

/-- Counters, sizes and positions are exchanged as 64-bit naturals. -/
instance : Codec Nat where
  encode := .ofNat
  decode _ j := j.natBelow? UInt64.size

instance : Codec Int64 where
  encode n := .ofInt n.toInt
  decode _
    | .number (.integer v) =>
      if Int64.minValue.toInt ≤ v ∧ v ≤ Int64.maxValue.toInt then some (Int64.ofInt v) else none
    | _ => none

instance {α : Type} [Codec α] : Codec (List α) where
  encode as := .array (as.map encode)
  decode source
    | .array items => items.mapM (decode source)
    | _ => none

instance {α : Type} [Codec α] : Codec (Option α) where
  encode
    | none => .null
    | some a => encode a
  decode source j := Json.optional source (some j)

end Codec

end CanonicalTypes
