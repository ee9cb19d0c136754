import CanonicalTypes.Text.Digits
import CanonicalTypes.Text.Visible

/-!
# Quoted text

The form of a text in diagnostics: between quotes, with the quote, the backslash and every
character that cannot be seen escaped.
-/
namespace CanonicalTypes.Text

/-- The hexadecimal digits of a natural, without leading zeros. -/
def hexDigits (n : Nat) : List Char :=
  if n < 16 then [digitChar n] else hexDigits (n / 16) ++ [digitChar (n % 16)]
termination_by n

def quotedChar (c : Char) : List Char :=
  if c = '"' then ['\\', '"']
  else if c = '\\' then ['\\', '\\']
  else if c = '\n' then ['\\', 'n']
  else if c = '\r' then ['\\', 'r']
  else if c = '\t' then ['\\', 't']
  else if c = '\x00' then ['\\', '0']
  else if isVisible c then [c]
  else ['\\', 'u', '{'] ++ hexDigits c.toNat ++ ['}']

def quoted (s : String) : String :=
  String.ofList ('"' :: s.toList.flatMap quotedChar ++ ['"'])

def bracketed (items : List String) : String := "[" ++ String.intercalate ", " items ++ "]"

end CanonicalTypes.Text
