import CanonicalTypes.Json.Number

/-!
# JSON values

The value that a JSON text denotes. Objects keep their fields in order and keep repeated keys,
since readers disagree on both. A value can be well formed as a text and still have no content to
read: it is nested too deeply, or one of its strings names half of a surrogate pair. Such a value
is `unreadable`; skipping it is fine, reading it is not.
-/
namespace CanonicalTypes

inductive Json where
  | null
  | bool (value : Bool)
  | number (value : Json.Number)
  | string (value : String)
  | array (items : List Json)
  | object (fields : List (String × Json))
  | unreadable

namespace Json

/-- The greatest number of arrays and objects around and including one that can be read. -/
def maxDepth : Nat := 127

def ofInt (v : Int) : Json := .number (.integer v)

def ofNat (n : Nat) : Json := .ofInt n

/-- The value of a key that occurs exactly once. -/
def field? (key : String) : Json → Option Json
  | object fields =>
    match fields.filter (fun f => f.1 = key) with
    | [f] => some f.2
    | _ => none
  | _ => none

/-- The last of each run of fields with the same key. -/
def lastOfRuns : List (String × Json) → List (String × Json)
  | [] => []
  | [f] => [f]
  | f :: g :: rest =>
    if f.1 = g.1 then lastOfRuns (g :: rest) else f :: lastOfRuns (g :: rest)

/-- The fields in key order, of which the last one of each key remains. -/
def sortFields (fields : List (String × Json)) : List (String × Json) :=
  lastOfRuns (fields.mergeSort fun f g => f.1 ≤ g.1)

mutual

/-- The value with every object's fields in key order, of which the last one of each key remains. -/
def normalize : Json → Json
  | array items => array (normalizeItems items)
  | object fields => object (sortFields (normalizeFields fields))
  | j => j

def normalizeItems : List Json → List Json
  | [] => []
  | j :: rest => normalize j :: normalizeItems rest

def normalizeFields : List (String × Json) → List (String × Json)
  | [] => []
  | (key, j) :: rest => (key, normalize j) :: normalizeFields rest

end

mutual

/-- The value with every number in its plain form. -/
def plain : Json → Json
  | number n => number n.plain
  | array items => array (plainItems items)
  | object fields => object (plainFields fields)
  | j => j

def plainItems : List Json → List Json
  | [] => []
  | j :: rest => plain j :: plainItems rest

def plainFields : List (String × Json) → List (String × Json)
  | [] => []
  | (key, j) :: rest => (key, plain j) :: plainFields rest

end

mutual

/-- Whether all of a value can be read: nothing in it is unreadable and every number is finite. -/
def readable : Json → Bool
  | unreadable => false
  | number n => n.toFloatBits?.isSome
  | array items => readableItems items
  | object fields => readableFields fields
  | _ => true

def readableItems : List Json → Bool
  | [] => true
  | j :: rest => j.readable && readableItems rest

def readableFields : List (String × Json) → Bool
  | [] => true
  | (_, j) :: rest => j.readable && readableFields rest

end

mutual

/-- The number of arrays and objects on the deepest path into a value. -/
def depth : Json → Nat
  | array items => depthOfItems items + 1
  | object fields => depthOfFields fields + 1
  | _ => 0

def depthOfItems : List Json → Nat
  | [] => 0
  | j :: rest => max j.depth (depthOfItems rest)

def depthOfFields : List (String × Json) → Nat
  | [] => 0
  | (_, j) :: rest => max j.depth (depthOfFields rest)

end

end Json

end CanonicalTypes
