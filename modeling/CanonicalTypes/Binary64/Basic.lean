/-!
# Binary floating point in exact arithmetic

A 64-bit floating-point number is handled as its bit pattern. The pattern without the sign, its
*magnitude*, is a natural number that grows with the value it stands for, so rounding is a matter
of naturals: `Binary64.roundRatio` gives the magnitude nearest to a ratio, ties going to the even
pattern, and `Binary64.ratio` reads one back without loss. Every operation here is a rounding of an
exact ratio.
-/
namespace CanonicalTypes.Binary64

/-- The magnitude of the infinities. Magnitudes above it are not numbers. -/
def infinity : Nat := 0x7ff0000000000000

/-- The weight of the sign in a bit pattern. -/
def signWeight : Nat := UInt64.size / 2

def withSign (negative : Bool) (magnitude : Nat) : UInt64 :=
  (if negative then signWeight + magnitude else magnitude).toUInt64

def isNegative (bits : UInt64) : Bool := signWeight ≤ bits.toNat

/-- The pattern without its sign. -/
def magnitude (bits : UInt64) : Nat := bits.toNat % signWeight

def isFinite (bits : UInt64) : Bool := magnitude bits < infinity

/-- `n / d` rounded to the nearest natural, a half going to the even neighbour. -/
def roundHalfEven (n d : Nat) : Nat :=
  let q := n / d
  let r := n % d
  if 2 * r < d ∨ (2 * r = d ∧ q % 2 = 0) then q else q + 1

/-- The greatest `e` with `2 ^ e ≤ n / d`, for positive `n` and `d`. -/
def exponentOf (n d : Nat) : Int :=
  let e : Int := (Nat.log2 n : Int) - Nat.log2 d
  let reached := if 0 ≤ e then d * Nat.pow 2 e.toNat ≤ n else d ≤ n * Nat.pow 2 (-e).toNat
  if reached then e else e - 1

/-- The magnitude nearest to `n / d`, ties going to the even magnitude. Ratios beyond the largest
number give `infinity`. -/
def roundRatio (n d : Nat) : Nat :=
  if n = 0 then 0
  else
    let e := max (exponentOf n d - 52) (-1074)
    let q := if 0 ≤ e then roundHalfEven n (d * Nat.pow 2 e.toNat)
      else roundHalfEven (n * Nat.pow 2 (-e).toNat) d
    min ((e + 1074).toNat * Nat.pow 2 52 + q) infinity

/-- The significand and the binary exponent of a finite magnitude. -/
def parts (magnitude : Nat) : Nat × Int :=
  if magnitude < Nat.pow 2 52 then (magnitude, -1074)
  else (Nat.pow 2 52 + magnitude % Nat.pow 2 52, (magnitude / Nat.pow 2 52 : Nat) - 1075)

/-- The exact value of a finite magnitude as a ratio. -/
def ratio (magnitude : Nat) : Nat × Nat :=
  let (m, e) := parts magnitude
  if 0 ≤ e then (m * Nat.pow 2 e.toNat, 1) else (m, Nat.pow 2 (-e).toNat)

/-- The product of two finite magnitudes. -/
def mul (a b : Nat) : Nat :=
  let (n, d) := ratio a
  let (n', d') := ratio b
  roundRatio (n * n') (d * d')

/-- The quotient of two finite magnitudes, the second positive. -/
def div (a b : Nat) : Nat :=
  let (n, d) := ratio a
  let (n', d') := ratio b
  roundRatio (n * d') (d * n')

/-- The pattern nearest to an integer. -/
def ofInt (v : Int) : UInt64 := withSign (v < 0) (roundRatio v.natAbs 1)

end CanonicalTypes.Binary64
