import IngressBalancer.Text.Digits
import IngressBalancer.Text.Unseen
/-!
# Quoted text

The form in which a message shows a text it was given: between double
quotes, with a backslash before a quote or a backslash, the usual letters
for the common controls, and the number of every other character that would
not show by itself.
-/

namespace IngressBalancer

namespace Text

/-- One character inside the quotes. -/
def quoteChar (c : Char) : List Char :=
  if c = '"' then ['\\', '"']
  else if c = '\\' then ['\\', '\\']
  else if c = '\n' then ['\\', 'n']
  else if c = '\r' then ['\\', 'r']
  else if c = '\t' then ['\\', 't']
  else if c.toNat = 0 then ['\\', '0']
  else if isUnseen c then ['\\', 'u', '\x7b'] ++ showHex c.toNat ++ ['\x7d']
  else [c]

/-- A text as a message shows it. -/
def quoted (s : String) : String :=
  String.ofList ('"' :: s.toList.flatMap quoteChar ++ ['"'])

end Text

end IngressBalancer
