/-!
# Digits

Whole numbers in decimal and hexadecimal text: reading them within a bound
and writing them. A reading accepts ASCII digits alone, at least one of
them, with a plus sign in front where the rule says so.
-/

namespace IngressBalancer

namespace Text

/-- Whether `c` is one of the ten ASCII digits. -/
def isDigit (c : Char) : Bool := '0' ≤ c && c ≤ '9'

/-- The value of an ASCII digit. -/
def digitValue (c : Char) : Nat := c.toNat - '0'.toNat

/-- The number that a run of digits writes, after a number `n` of more significant digits. -/
def decimalFrom (n : Nat) (cs : List Char) : Nat :=
  cs.foldl (fun n c => 10 * n + digitValue c) n

/-- The number that a non-empty run of digits writes. -/
def decimal? (cs : List Char) : Option Nat :=
  if !cs.isEmpty && cs.all isDigit then some (decimalFrom 0 cs) else none

/-- A number up to `bound`, with an optional plus sign in front. -/
def readUpTo (bound : Nat) (cs : List Char) : Option Nat :=
  let digits := match cs with
    | '+' :: rest => rest
    | _ => cs
  (decimal? digits).filter (· ≤ bound)

/-- A number in decimal, without leading zeros. -/
def showNat (n : Nat) : List Char := Nat.toDigits 10 n

/-- A number in decimal, after a minus sign where it is negative. -/
def showInt : Int → List Char
  | .ofNat n => showNat n
  | .negSucc n => '-' :: showNat (n + 1)

/-- The value of a hexadecimal digit of either case. -/
def hexValue? (c : Char) : Option Nat :=
  if isDigit c then some (digitValue c)
  else if 'a' ≤ c && c ≤ 'f' then some (c.toNat - 'a'.toNat + 10)
  else if 'A' ≤ c && c ≤ 'F' then some (c.toNat - 'A'.toNat + 10)
  else none

/-- The lower-case hexadecimal digit of a number below sixteen. -/
def hexDigit (n : Nat) : Char := Nat.digitChar (n % 16)

/-- A number in lower-case hexadecimal, without leading zeros. -/
def showHex (n : Nat) : List Char := Nat.toDigits 16 n

end Text

end IngressBalancer
