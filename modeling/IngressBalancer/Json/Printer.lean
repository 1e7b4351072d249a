import IngressBalancer.Json.Basic
import IngressBalancer.Text.Digits
/-!
# Compact JSON text

The one text of each value: no blanks, members in their order, and in
strings an escape only where JSON demands one.
-/

namespace IngressBalancer

namespace Numeral

/-- The text of a number. -/
def render : Numeral → List Char
  | .whole neg n => (if neg then ['-'] else []) ++ Text.showNat n
  | .scientific neg m e =>
    (if neg then ['-'] else []) ++ Text.showNat m ++ 'e' :: Text.showInt e

end Numeral

namespace Json

/-- One character inside a string. -/
def escapeChar (c : Char) : List Char :=
  if c = '"' then ['\\', '"']
  else if c = '\\' then ['\\', '\\']
  else if c = '\n' then ['\\', 'n']
  else if c = '\r' then ['\\', 'r']
  else if c = '\t' then ['\\', 't']
  else if c.toNat = 8 then ['\\', 'b']
  else if c.toNat = 12 then ['\\', 'f']
  else if c.toNat < 32 then
    ['\\', 'u', '0', '0', Nat.digitChar (c.toNat / 16), Nat.digitChar (c.toNat % 16)]
  else [c]

/-- A string with its quotes. -/
def renderString (s : String) : List Char := '"' :: s.toList.flatMap escapeChar ++ ['"']

mutual

/-- The compact text of a value. -/
def render : Json → List Char
  | .null | .unreadable => ['n', 'u', 'l', 'l']
  | .bool true => ['t', 'r', 'u', 'e']
  | .bool false => ['f', 'a', 'l', 's', 'e']
  | .number n => n.render
  | .string s => renderString s
  | .list items => '[' :: renderItems items ++ [']']
  | .object members => '\x7b' :: renderMembers members ++ ['\x7d']

/-- The items of a list, with commas between them. -/
def renderItems : List Json → List Char
  | [] => []
  | [j] => render j
  | j :: js => render j ++ ',' :: renderItems js

/-- The members of an object, with commas between them. -/
def renderMembers : List (String × Json) → List Char
  | [] => []
  | [(k, j)] => renderString k ++ ':' :: render j
  | (k, j) :: ms => renderString k ++ ':' :: render j ++ ',' :: renderMembers ms

end

/-- The compact text of a value. -/
def compact (j : Json) : String := String.ofList j.render

end Json

end IngressBalancer
