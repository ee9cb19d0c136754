import CanonicalTypes.Binary64.Basic

/-!
# The shortest decimal that reads back

A finite number is written with the fewest digits that still round to it. Of two such decimals the
nearer is taken, and of two equally near ones the even. `Binary64.shortest` finds the digits on the
decimal grids of one digit, two digits and so on, looking only at the two neighbours of the value
on each grid.
-/
namespace CanonicalTypes.Binary64

/-- A positive decimal: `digits * 10 ^ exponent`. -/
structure Digits where
  digits : Nat
  exponent : Int

/-- The ratio `n / d` times `10 ^ e`. -/
def scale10 (n d : Nat) (e : Int) : Nat × Nat :=
  if 0 ≤ e then (n * Nat.pow 10 e.toNat, d) else (n, d * Nat.pow 10 (-e).toNat)

/-- The greatest `p` with `10 ^ p ≤ n / d`, for positive `n` and `d`: an estimate from the binary
exponent, moved by at most one. -/
def exponent10 (n d : Nat) : Int :=
  let estimate := Int.fdiv (exponentOf n d * 30103) 100000
  let reaches (p : Int) : Bool := let (a, b) := scale10 n d (-p); b ≤ a
  if !reaches estimate then estimate - 1
  else if reaches (estimate + 1) then estimate + 1
  else estimate

/-- Moves factors of ten from the digits to the exponent; `fuel` bounds the number of digits. -/
def Digits.strip : Nat → Digits → Digits
  | 0, x => x
  | fuel + 1, x =>
    if x.digits ≠ 0 ∧ x.digits % 10 = 0 then strip fuel ⟨x.digits / 10, x.exponent + 1⟩ else x

/-- The reals that round to a positive magnitude, as numerators over four times the denominator of
its value: lower end, value, upper end, and whether the ends belong to it. -/
structure RoundingInterval where
  low : Nat
  mid : Nat
  high : Nat
  den : Nat
  closed : Bool

/-- The rounding interval of a finite positive magnitude. Below a power of two the spacing is
halved. -/
def roundingInterval (magnitude : Nat) : RoundingInterval :=
  let (m, e) := parts magnitude
  let below := if m = Nat.pow 2 52 ∧ -1074 < e then 1 else 2
  let (up, den) := if 0 ≤ e then (Nat.pow 2 e.toNat, 4) else (1, 4 * Nat.pow 2 (-e).toNat)
  ⟨(4 * m - below) * up, 4 * m * up, (4 * m + 2) * up, den, m % 2 = 0⟩

/-- Whether `digits * 10 ^ exponent` lies in the interval. -/
def RoundingInterval.holds (i : RoundingInterval) (x : Digits) : Bool :=
  let (a, b) := scale10 x.digits 1 x.exponent
  if i.closed then i.low * b ≤ a * i.den && a * i.den ≤ i.high * b
  else i.low * b < a * i.den && a * i.den < i.high * b

/-- The best neighbour of the value on the grid of multiples of `10 ^ exponent`, if one of them
reads back. -/
def RoundingInterval.onGrid? (i : RoundingInterval) (exponent : Int) : Option Digits :=
  let (a, b) := scale10 i.mid i.den (-exponent)
  let d := a / b
  let r := a % b
  let below : Digits := ⟨d, exponent⟩
  let above : Digits := ⟨d + 1, exponent⟩
  match d ≠ 0 && i.holds below, i.holds above with
  | true, true => if 2 * r < b ∨ (2 * r = b ∧ d % 2 = 0) then some below else some above
  | true, false => some below
  | false, true => some above
  | false, false => none

/-- The first grid with a neighbour that reads back, from `count` digits on; `fuel` bounds the
number of grids. -/
def RoundingInterval.search (i : RoundingInterval) (top : Int) : Nat → Nat → Digits
  | 0, count => (i.onGrid? (top + 1 - count)).getD ⟨0, 0⟩
  | fuel + 1, count => (i.onGrid? (top + 1 - count)).getD (i.search top fuel (count + 1))

/-- The digits of a finite positive magnitude: as few as read back, and the nearest of those.
Seventeen digits always suffice. -/
def shortest (magnitude : Nat) : Digits :=
  let i := roundingInterval magnitude
  (i.search (exponent10 i.mid i.den) 17 1).strip 17

end CanonicalTypes.Binary64
