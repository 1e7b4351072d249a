import IngressBalancer.Text.Digits
/-!
# Percent encoding

A byte as a percent sign and two hexadecimal digits, and the texts in which
some characters stand for themselves and the bytes of all others are
written so.
-/

namespace IngressBalancer

namespace Text

/-- The bytes of a text. -/
def bytesOf (s : String) : List UInt8 := s.toUTF8.toList

/-- A byte with a percent sign and two upper-case digits. -/
def percentByte (b : UInt8) : List Char :=
  ['%', (hexDigit (b.toNat / 16)).toUpper, (hexDigit b.toNat).toUpper]

/-- A character as it stands, or the bytes of it. -/
def percentChar (keeps : Char → Bool) (c : Char) : List Char :=
  if keeps c then [c] else (bytesOf (String.singleton c)).flatMap percentByte

/-- A text in which only the characters that `keeps` names stand for themselves. -/
def percentEncode (keeps : Char → Bool) (cs : List Char) : List Char :=
  cs.flatMap (percentChar keeps)

end Text

end IngressBalancer
