import CanonicalTypes.Json.Basic

/-!
# Writing JSON

Two layouts of one value: `compact` without blanks, and `pretty` with one item per line and two
blanks per level. Strings escape the quote, the backslash and the control characters, and nothing
else.
-/
namespace CanonicalTypes.Json

/-- The characters that stand for `c` inside a string. -/
def escapeChar (c : Char) : List Char :=
  if c = '"' then ['\\', '"']
  else if c = '\\' then ['\\', '\\']
  else if c = '\n' then ['\\', 'n']
  else if c = '\r' then ['\\', 'r']
  else if c = '\t' then ['\\', 't']
  else if c = '\x08' then ['\\', 'b']
  else if c = '\x0c' then ['\\', 'f']
  else if c.toNat < 0x20 then '\\' :: 'u' :: Text.hex 4 c.toNat
  else [c]

def escape : List Char → List Char
  | [] => []
  | c :: rest => escapeChar c ++ escape rest

def quote (s : String) : List Char := '"' :: (escape s.toList ++ ['"'])

mutual

/-- The text of a value without blanks. -/
def render : Json → List Char
  | null => ['n', 'u', 'l', 'l']
  | bool true => ['t', 'r', 'u', 'e']
  | bool false => ['f', 'a', 'l', 's', 'e']
  | number n => n.render
  | string s => quote s
  | array [] => ['[', ']']
  | array (j :: rest) => '[' :: (j.render ++ renderItems rest)
  | object [] => ['{', '}']
  | object ((key, j) :: rest) => '{' :: (quote key ++ ':' :: (j.render ++ renderFields rest))
  | unreadable => ['n', 'u', 'l', 'l']

/-- The items after the first one, and the closing bracket. -/
def renderItems : List Json → List Char
  | [] => [']']
  | j :: rest => ',' :: (j.render ++ renderItems rest)

/-- The fields after the first one, and the closing brace. -/
def renderFields : List (String × Json) → List Char
  | [] => ['}']
  | (key, j) :: rest => ',' :: (quote key ++ ':' :: (j.render ++ renderFields rest))

end

def compact (j : Json) : String := String.ofList j.render

def newline (level : Nat) : List Char := '\n' :: List.replicate (2 * level) ' '

mutual

/-- The text of a value with one item per line, from the given level of indentation on. -/
def renderPretty (level : Nat) : Json → List Char
  | array (j :: rest) =>
    '[' :: (newline (level + 1) ++ renderPretty (level + 1) j ++ renderPrettyItems level rest)
  | object ((key, j) :: rest) =>
    '{' :: (newline (level + 1) ++ quote key ++ ':' :: ' ' :: renderPretty (level + 1) j
      ++ renderPrettyFields level rest)
  | j => j.render

/-- The items after the first one, and the closing bracket on a line of its own. -/
def renderPrettyItems (level : Nat) : List Json → List Char
  | [] => newline level ++ [']']
  | j :: rest =>
    ',' :: (newline (level + 1) ++ renderPretty (level + 1) j ++ renderPrettyItems level rest)

def renderPrettyFields (level : Nat) : List (String × Json) → List Char
  | [] => newline level ++ ['}']
  | (key, j) :: rest =>
    ',' :: (newline (level + 1) ++ quote key ++ ':' :: ' ' :: renderPretty (level + 1) j
      ++ renderPrettyFields level rest)

end

def pretty (j : Json) : String := String.ofList (renderPretty 0 j)

end CanonicalTypes.Json
