import IngressBalancer.Text.Fields
import IngressBalancer.Text.Percent
/-!
# Form encoding

Names and values in the query of an address, read and written: `name=value`
pairs between ampersands, where a plus sign stands for a blank, and a percent sign with
two hexadecimal digits for a byte. A percent sign without them stands for
itself. A pair without an equals sign has an empty value.
-/

namespace IngressBalancer

namespace Text

/-- The bytes that a form-encoded text stands for. -/
def formBytes : List Char → List UInt8
  | [] => []
  | '+' :: cs => 32 :: formBytes cs
  | '%' :: a :: b :: cs =>
    match hexValue? a, hexValue? b with
    | some x, some y => UInt8.ofNat (16 * x + y) :: formBytes cs
    | _, _ => 37 :: formBytes (a :: b :: cs)
  | c :: cs => bytesOf (String.singleton c) ++ formBytes cs

/-- Whether a byte stands for itself in a form-encoded text. -/
def isPlainByte (b : UInt8) : Bool :=
  let c := Char.ofNat b.toNat
  isDigit c || ('a' ≤ c && c ≤ 'z') || ('A' ≤ c && c ≤ 'Z') || c ∈ ['*', '-', '.', '_']

/-- One byte in a form-encoded text. -/
def formByte (b : UInt8) : List Char :=
  if isPlainByte b then [Char.ofNat b.toNat]
  else if b = 32 then ['+']
  else percentByte b

/-- A text in form encoding. -/
def formEncode (s : String) : String := String.ofList ((bytesOf s).flatMap formByte)

/-- The pairs of a query, in their order. -/
def formPairs (query : List Char) : List (List UInt8 × List UInt8) :=
  ((pieces '&' query).filter (!·.isEmpty)).map fun pair =>
    let (name, value) := (cut? '=' pair).getD (pair, [])
    (formBytes name, formBytes value)

/-- The values that a query gives for a name. -/
def formValues (name : String) (query : List Char) : List (List UInt8) :=
  (formPairs query).filterMap fun p => if p.1 = bytesOf name then some p.2 else none

end Text

end IngressBalancer
