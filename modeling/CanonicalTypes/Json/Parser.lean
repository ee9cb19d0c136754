import CanonicalTypes.Json.Basic

/-!
# Reading JSON

A strict reader: no trailing commas, no leading zeros, no raw control characters in strings,
nothing but blanks around the value. What is well formed but cannot be read, a value nested more
than `maxDepth` deep or a string with half of a surrogate pair, becomes `unreadable`, so that a
decoder which skips the value does not stumble over it.

Every reader takes the text that is left and returns what remains after the value.
-/
namespace CanonicalTypes.Json

/-- Whether a character may stand between tokens. -/
def isBlank (c : Char) : Bool := c = ' ' || c = '\n' || c = '\r' || c = '\t'

def skipBlanks : List Char → List Char
  | [] => []
  | c :: rest => if isBlank c then skipBlanks rest else c :: rest

def codeUnit? (a b c d : Char) : Option Nat := Text.hexNatural? [a, b, c, d]

def simpleEscape? : Char → Option Char
  | '"' => some '"'
  | '\\' => some '\\'
  | '/' => some '/'
  | 'b' => some '\x08'
  | 'f' => some '\x0c'
  | 'n' => some '\n'
  | 'r' => some '\r'
  | 't' => some '\t'
  | _ => none

/-- Puts a code before those that follow it. -/
def consCode (u : Nat) : Option (List Nat × List Char) → Option (List Nat × List Char)
  | none => none
  | some (us, rest) => some (u :: us, rest)

/-- The codes of a string's characters after its opening quote, and the text after the closing
one. An escape may name half of a surrogate pair. -/
def stringCodes : List Char → Option (List Nat × List Char)
  | [] => none
  | '"' :: rest => some ([], rest)
  | '\\' :: 'u' :: a :: b :: c :: d :: rest =>
    match codeUnit? a b c d with
    | none => none
    | some u => consCode u (stringCodes rest)
  | '\\' :: c :: rest =>
    match simpleEscape? c with
    | none => none
    | some c => consCode c.toNat (stringCodes rest)
  | c :: rest => if c.toNat < 0x20 then none else consCode c.toNat (stringCodes rest)

def isHighSurrogate (u : Nat) : Bool := 0xD800 ≤ u && u < 0xDC00

def isLowSurrogate (u : Nat) : Bool := 0xDC00 ≤ u && u < 0xE000

def joinSurrogates (high low : Nat) : Char :=
  Char.ofNat (0x10000 + (high - 0xD800) * 0x400 + (low - 0xDC00))

/-- The characters of a list of codes, in which surrogates have to stand in pairs. -/
def charsOfCodes : List Nat → Option (List Char)
  | [] => some []
  | [u] => if isHighSurrogate u || isLowSurrogate u then none else some [Char.ofNat u]
  | u :: v :: rest =>
    if isHighSurrogate u then
      if isLowSurrogate v then (charsOfCodes rest).map (joinSurrogates u v :: ·) else none
    else if isLowSurrogate u then none
    else (charsOfCodes (v :: rest)).map (Char.ofNat u :: ·)

/-- A string after its opening quote, and the text after the closing one. The string is `none` when
it has no text, since an escape names half of a surrogate pair. -/
def stringBody (cs : List Char) : Option (Option String × List Char) :=
  match stringCodes cs with
  | none => none
  | some (us, rest) => some ((charsOfCodes us).map String.ofList, rest)

def spanDigits : List Char → List Nat × List Char
  | [] => ([], [])
  | c :: rest =>
    match Text.digitValue? c with
    | none => ([], c :: rest)
    | some d => let (ds, rest) := spanDigits rest; (d :: ds, rest)

/-- The part of a number before the point: a single zero, or digits that do not start with one. -/
def wholePart (cs : List Char) : Option (Nat × List Char) :=
  match spanDigits cs with
  | ([], _) => none
  | ([d], rest) => some (d, rest)
  | (d :: ds, rest) => if d = 0 then none else some (Text.ofDigits (d :: ds), rest)

def fractionPart : List Char → Option (List Nat × List Char)
  | '.' :: rest =>
    match spanDigits rest with
    | ([], _) => none
    | (ds, rest) => some (ds, rest)
  | cs => some ([], cs)

/-- The digits of an exponent after its sign. -/
def exponentDigits (negative : Bool) (cs : List Char) : Option (Option Int × List Char) :=
  match spanDigits cs with
  | ([], _) => none
  | (ds, rest) =>
    let e := Text.ofDigits ds
    some (some (if negative then -(e : Int) else e), rest)

def exponentPart : List Char → Option (Option Int × List Char)
  | [] => some (none, [])
  | c :: rest =>
    if c = 'e' ∨ c = 'E' then
      match rest with
      | '+' :: rest => exponentDigits false rest
      | '-' :: rest => exponentDigits true rest
      | rest => exponentDigits false rest
    else some (none, c :: rest)

def Number.ofParts (negative : Bool) (whole : Nat) (fraction : List Nat) (exponent : Option Int) :
    Number :=
  if fraction.isEmpty ∧ exponent.isNone ∧ ¬(negative ∧ whole = 0) then
    .integer (if negative then -(whole : Int) else whole)
  else .decimal ⟨negative, whole, fraction, exponent⟩

/-- A number after its sign. -/
def unsignedNumber (negative : Bool) (cs : List Char) : Option (Json × List Char) :=
  match wholePart cs with
  | none => none
  | some (whole, rest) =>
    match fractionPart rest with
    | none => none
    | some (fraction, rest) =>
      match exponentPart rest with
      | none => none
      | some (exponent, rest) =>
        some (.number (Number.ofParts negative whole fraction exponent), rest)

def readNumber : List Char → Option (Json × List Char)
  | '-' :: rest => unsignedNumber true rest
  | cs => unsignedNumber false cs

/-- An array or object below `depth` others, unless it is nested too deeply to be read. -/
def container (depth : Nat) (j : Json) : Json := if depth < maxDepth then j else .unreadable

/-- The object with the given fields, unless one of its keys has no text. -/
def objectOf (fields : List (Option String × Json)) : Json :=
  match fields.mapM (fun f => f.1.map fun key => (key, f.2)) with
  | some fields => .object fields
  | none => .unreadable

mutual

/-- A value below `depth` arrays and objects, at the start of the text; `fuel` bounds the number of
steps. -/
def value : Nat → Nat → List Char → Option (Json × List Char)
  | 0, _, _ => none
  | fuel + 1, depth, cs =>
    match cs with
    | 'n' :: 'u' :: 'l' :: 'l' :: rest => some (.null, rest)
    | 't' :: 'r' :: 'u' :: 'e' :: rest => some (.bool true, rest)
    | 'f' :: 'a' :: 'l' :: 's' :: 'e' :: rest => some (.bool false, rest)
    | '"' :: rest =>
      match stringBody rest with
      | none => none
      | some (some s, rest) => some (.string s, rest)
      | some (none, rest) => some (.unreadable, rest)
    | '[' :: rest =>
      match skipBlanks rest with
      | ']' :: rest => some (container depth (.array []), rest)
      | rest =>
        match items fuel (depth + 1) rest with
        | none => none
        | some (js, rest) => some (container depth (.array js), rest)
    | '{' :: rest =>
      match skipBlanks rest with
      | '}' :: rest => some (container depth (.object []), rest)
      | rest =>
        match fields fuel (depth + 1) rest with
        | none => none
        | some (fs, rest) => some (container depth (objectOf fs), rest)
    | cs => readNumber cs

/-- One or more items and the closing bracket. -/
def items : Nat → Nat → List Char → Option (List Json × List Char)
  | 0, _, _ => none
  | fuel + 1, depth, cs =>
    match value fuel depth (skipBlanks cs) with
    | none => none
    | some (j, rest) =>
      match skipBlanks rest with
      | ']' :: rest => some ([j], rest)
      | ',' :: rest =>
        match items fuel depth rest with
        | none => none
        | some (js, rest) => some (j :: js, rest)
      | _ => none

/-- One or more fields and the closing brace. -/
def fields : Nat → Nat → List Char → Option (List (Option String × Json) × List Char)
  | 0, _, _ => none
  | fuel + 1, depth, cs =>
    match skipBlanks cs with
    | '"' :: rest =>
      match stringBody rest with
      | none => none
      | some (key, rest) =>
        match skipBlanks rest with
        | ':' :: rest =>
          match value fuel depth (skipBlanks rest) with
          | none => none
          | some (j, rest) =>
            let field := (key, j)
            match skipBlanks rest with
            | '}' :: rest => some ([field], rest)
            | ',' :: rest =>
              match fields fuel depth rest with
              | none => none
              | some (fs, rest) => some (field :: fs, rest)
            | _ => none
        | _ => none
    | _ => none

end

/-- The value of a text that holds nothing else but blanks. Every step that goes deeper or on to
the next item consumes a character, so the text bounds the steps. -/
def parse? (text : String) : Option Json :=
  let cs := text.toList
  match value (2 * cs.length + 2) 0 (skipBlanks cs) with
  | some (j, rest) => if (skipBlanks rest).isEmpty then some j else none
  | none => none

end CanonicalTypes.Json
