import CanonicalTypes.Binary64.Shortest
import CanonicalTypes.Text.Digits

/-!
# Digits around the point

The shortest digits of a number are laid out positionally while the power of ten of the leading
digit is neither too small nor as large as sixteen, and with an exponent otherwise. A positional
form has at least one digit after the point.
-/
namespace CanonicalTypes.Binary64

/-- A decimal number as it is written: digits before and after the point, and an exponent. -/
structure Layout where
  whole : Nat
  fraction : List Nat
  exponent : Option Int

/-- The first power of ten of a leading digit that is not written positionally. -/
def exponentForm : Int := 16

/-- The layout of a finite magnitude, positional from a leading power of ten of `least` on. -/
def layout (least : Int) (magnitude : Nat) : Layout :=
  if magnitude = 0 then ⟨0, [0], none⟩
  else
    let ⟨digits, exponent⟩ := shortest magnitude
    let ds := Text.digits digits
    let lead : Int := ds.length - 1 + exponent
    if least ≤ lead ∧ lead < exponentForm then
      if 0 ≤ exponent then ⟨digits * Nat.pow 10 exponent.toNat, [0], none⟩
      else if 0 ≤ lead then
        ⟨Text.ofDigits (ds.take (lead.toNat + 1)), ds.drop (lead.toNat + 1), none⟩
      else ⟨0, List.replicate ((-lead).toNat - 1) 0 ++ ds, none⟩
    else ⟨ds.headD 0, ds.tail, some lead⟩

/-- The text of a number in diagnostics: positional from `10 ^ -4` on. -/
def inspect (bits : UInt64) : String :=
  let sign := if isNegative bits then "-" else ""
  if infinity < magnitude bits then "NaN"
  else if magnitude bits = infinity then sign ++ "inf"
  else
    let l := layout (-4) (magnitude bits)
    let point := if l.fraction.isEmpty then [] else '.' :: l.fraction.map Text.digitChar
    let exponent := match l.exponent with
      | none => []
      | some e => 'e' :: Text.signedDecimal e
    sign ++ String.ofList (Text.decimal l.whole ++ point ++ exponent)

end CanonicalTypes.Binary64
