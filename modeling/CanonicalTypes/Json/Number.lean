import CanonicalTypes.Binary64.Layout

/-!
# Numbers in JSON texts

A number keeps the form in which it was written, because its form decides what it may be read as:
an integer is written without fraction and exponent, and `-0` is no integer. The floating-point
value is computed from the leading digits that fit in 64 bits, scaled once by a power of ten; a
value beyond the largest finite number is refused.
-/
namespace CanonicalTypes.Json

/-- A number written with a fraction, an exponent or as minus zero. -/
structure Decimal where
  negative : Bool
  whole : Nat
  fraction : List Nat
  exponent : Option Int
  deriving DecidableEq

inductive Number where
  | integer (value : Int)
  | decimal (value : Decimal)
  deriving DecidableEq

/-- The bound on significands. -/
def significandLimit : Nat := UInt64.size

/-- Appends digits to a significand while it stays below the limit, and counts the digits that no
longer fit. -/
def takeDigits (significand : Nat) : List Nat → Nat × Nat
  | [] => (significand, 0)
  | d :: ds =>
    if significand * 10 + d < significandLimit then takeDigits (significand * 10 + d) ds
    else (significand, ds.length + 1)

/-- The magnitude nearest to a power of ten. -/
def powerOfTen (e : Nat) : Nat := Binary64.roundRatio (Nat.pow 10 e) 1

/-- The largest power of ten by which a magnitude is scaled at once. -/
def maxPower : Nat := 308

/-- A magnitude times a power of ten. Small powers are reached in steps of `maxPower`, of which
`fuel` bounds the number; overflow is refused. -/
def scaleMagnitude : Nat → Nat → Int → Option Nat
  | fuel, f, e =>
    if e.natAbs ≤ maxPower then
      if 0 ≤ e then
        let product := Binary64.mul f (powerOfTen e.natAbs)
        if product < Binary64.infinity then some product else none
      else some (Binary64.div f (powerOfTen e.natAbs))
    else if f = 0 then some 0
    else if 0 ≤ e then none
    else
      match fuel with
      | 0 => some 0
      | fuel + 1 => scaleMagnitude fuel (Binary64.div f (powerOfTen maxPower)) (e + maxPower)

/-- Exponents whose digits do not fit in 31 bits. -/
def exponentLimit : Nat := UInt32.size / 2

/-- The floating-point value of a decimal. Four steps take every significand to zero. -/
def Decimal.toFloatBits? (x : Decimal) : Option UInt64 :=
  let (s, beyond) := takeDigits 0 (Text.digits x.whole)
  let (s, dropped) := takeDigits s x.fraction
  let start : Int := (beyond : Int) - ((x.fraction.length : Int) - dropped)
  let e := x.exponent.getD 0
  let magnitude? :=
    if exponentLimit ≤ e.natAbs then
      if s ≠ 0 ∧ 0 ≤ e then none else some 0
    else scaleMagnitude 4 (Binary64.roundRatio s 1) (start + e)
  magnitude?.map (Binary64.withSign x.negative)

def Number.toFloatBits? : Number → Option UInt64
  | .integer v =>
    if v.natAbs < significandLimit then some (Binary64.ofInt v)
    else Decimal.toFloatBits? ⟨v < 0, v.natAbs, [], none⟩
  | .decimal x => x.toFloatBits?

/-- The shortest decimal that reads back as a finite magnitude: positional from `10 ^ -5` on. -/
def Decimal.ofMagnitude (negative : Bool) (magnitude : Nat) : Decimal :=
  let l := Binary64.layout (-5) magnitude
  ⟨negative, l.whole, l.fraction, l.exponent⟩

/-- The number that reads back as a finite pattern. -/
def Number.ofFloatBits (bits : UInt64) : Number :=
  .decimal (.ofMagnitude (Binary64.isNegative bits) (Binary64.magnitude bits))

/-- The least integer that is kept as one. -/
def leastInteger : Int := Int64.minValue.toInt

/-- A number in its plain form: integers of 64 bits stay, all else becomes the shortest decimal. -/
def Number.plain : Number → Number
  | .integer v =>
    if leastInteger ≤ v ∧ v < significandLimit then .integer v
    else ((Number.integer v).toFloatBits?.map Number.ofFloatBits).getD (.integer v)
  | .decimal x => (x.toFloatBits?.map Number.ofFloatBits).getD (.decimal x)

/-- The text of a decimal: an exponent is always signed. -/
def Decimal.render (x : Decimal) : List Char :=
  (if x.negative then ['-'] else []) ++ Text.decimal x.whole
    ++ (if x.fraction.isEmpty then [] else '.' :: x.fraction.map Text.digitChar)
    ++ match x.exponent with
      | none => []
      | some e => 'e' :: (if e < 0 then '-' else '+') :: Text.decimal e.natAbs

def Number.render : Number → List Char
  | .integer v => Text.signedDecimal v
  | .decimal x => x.render

end CanonicalTypes.Json
