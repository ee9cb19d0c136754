/-!
# Digits

Decimal and hexadecimal digits of naturals, written and read. The readers accept digits only: no
separators, no blanks, and a leading `+` just where `unsigned?` says so.
-/
namespace CanonicalTypes.Text

/-- The character of a digit below sixteen, letters in lower case. -/
def digitChar (d : Nat) : Char :=
  if d < 10 then Char.ofNat ('0'.toNat + d) else Char.ofNat ('a'.toNat + (d - 10))

/-- The decimal digits of a natural, the most significant first. -/
def digits (n : Nat) : List Nat :=
  if n < 10 then [n] else digits (n / 10) ++ [n % 10]
termination_by n

def decimal (n : Nat) : List Char := (digits n).map digitChar

/-- The decimal text of an integer, with a sign only when it is negative. -/
def signedDecimal (v : Int) : List Char :=
  if v < 0 then '-' :: decimal v.natAbs else decimal v.natAbs

def digitValue? (c : Char) : Option Nat :=
  if '0' ≤ c ∧ c ≤ '9' then some (c.toNat - '0'.toNat) else none

/-- The value of a hexadecimal digit in either case. -/
def hexValue? (c : Char) : Option Nat :=
  if '0' ≤ c ∧ c ≤ '9' then some (c.toNat - '0'.toNat)
  else if 'a' ≤ c ∧ c ≤ 'f' then some (c.toNat - 'a'.toNat + 10)
  else if 'A' ≤ c ∧ c ≤ 'F' then some (c.toNat - 'A'.toNat + 10)
  else none

def ofDigits (ds : List Nat) : Nat := ds.foldl (fun n d => n * 10 + d) 0

/-- The natural that a nonempty run of decimal digits denotes. -/
def natural? (cs : List Char) : Option Nat :=
  if cs.isEmpty then none else (cs.mapM digitValue?).map ofDigits

/-- The natural below `bound` that a text denotes: digits, with an optional leading `+`. -/
def unsigned? (bound : Nat) (text : String) : Option Nat := do
  let n ← match text.toList with
    | '+' :: rest => natural? rest
    | cs => natural? cs
  if n < bound then some n else none

/-- The integer that a text denotes: digits with an optional sign. -/
def integer? (text : String) : Option Int :=
  match text.toList with
  | '+' :: rest => (natural? rest).map fun n => (n : Int)
  | '-' :: rest => (natural? rest).map fun n => -(n : Int)
  | cs => (natural? cs).map fun n => (n : Int)

/-- The `width` hexadecimal digits of a natural. -/
def hex : (width : Nat) → (n : Nat) → List Char
  | 0, _ => []
  | width + 1, n => hex width (n / 16) ++ [digitChar (n % 16)]

def hexNatural? (cs : List Char) : Option Nat :=
  (cs.mapM hexValue?).map fun ds => ds.foldl (fun n d => n * 16 + d) 0

end CanonicalTypes.Text
