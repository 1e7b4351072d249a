import IngressBalancer.Decimal.Binary
import IngressBalancer.Text.Digits
/-!
# Decimals of doubles

The text of a double, in few digits that read back as it. Every real number
between the midpoints to the neighbouring doubles reads back as the double.
The double and the two midpoints are brought to a common scale with a power
of ten, in 64 bits (`Binary.scaled`). The digits are those of the upper
midpoint, down to the first place below which it holds less than the gap
between the midpoints (`Scaled.cut`). Where few places follow the point, the
last digit then goes down toward the double (`Scaled.lower`); where many do,
it stays, so that the decimal need not be the nearest of its length.
-/

namespace IngressBalancer

namespace Decimal

/-- A decimal number: `digits * 10 ^ exponent`. -/
structure Digits where
  digits : Nat
  exponent : Int
deriving DecidableEq, Repr

/-! ## Scaling -/

/-- A power of ten as a whole number of 64 bits times a power of two, rounded to nearest. -/
def power64 (m : Int) : Binary :=
  let (num, den) : Nat × Nat :=
    if 0 ≤ m then (Nat.pow 10 m.toNat, 1) else (1, Nat.pow 10 (-m).toNat)
  let guess : Int := (Nat.log2 num : Int) - (Nat.log2 den : Int) - 63
  let fit (e : Int) : Nat :=
    let (n, d) :=
      if 0 ≤ e then (num, den * Nat.pow 2 e.toNat) else (num * Nat.pow 2 (-e).toNat, den)
    (2 * n + d) / (2 * d)
  if fit guess < Nat.pow 2 63 then ⟨fit (guess - 1), guess - 1⟩ else ⟨fit guess, guess⟩

/-- The power by which a number with a 64-bit mantissa and the given exponent is scaled, so that
from 32 to 60 bits are behind the point: one in eight powers is used. -/
def scalePower (exponent : Int) : Int :=
  let least := -((exponent + 61) * 30102999566398114 / Int.pow 10 17)
  least + (4 - least) % 8

/-- The upper half of a product of two 64-bit numbers, rounded to nearest. -/
def mulHigh (x y : Nat) : Nat := (x * y + Nat.pow 2 63) / Nat.pow 2 64

/-- A double at a scale: the double itself is about `value / 2 ^ point`, and `high / 2 ^ point`
is just below its upper midpoint, higher by `gap` than what is just above the lower one. -/
structure Scaled where
  value : Nat
  high : Nat
  gap : Nat
  point : Nat
  /-- The decimal exponent of the scale. -/
  exponent : Int

/-- A positive double at the scale that suits it. -/
def Binary.scaled (b : Binary) : Scaled :=
  let shift := 63 - Nat.log2 (2 * b.mantissa + 1)
  let exponent := b.exponent - 1 - shift
  let power := power64 (scalePower exponent)
  let bring (x : Nat) : Nat := mulHigh x power.mantissa
  let low :=
    if b.mantissa = Nat.pow 2 52 then (4 * b.mantissa - 1) * Nat.pow 2 shift / 2
    else (2 * b.mantissa - 1) * Nat.pow 2 shift
  let high := bring ((2 * b.mantissa + 1) * Nat.pow 2 shift) - 1
  { value := bring (2 * b.mantissa * Nat.pow 2 shift)
    high := high
    gap := high - (bring low + 1)
    point := (-(exponent + power.exponent + 64)).toNat
    exponent := -scalePower exponent }

namespace Scaled

/-! ## Digits -/

/-- The upper midpoint at some place: its digits down to there, the rest below the place, and
the gap, the distance to the double and the place itself in the same measure. -/
structure Cut where
  digits : Nat
  exponent : Int
  rest : Nat
  gap : Nat
  distance : Nat
  unit : Nat

/-- The cut at the place `10 ^ j` before the point. -/
def cutBefore (s : Scaled) (j : Nat) : Cut :=
  let unit := Nat.pow 10 j * Nat.pow 2 s.point
  ⟨s.high / unit, s.exponent + j, s.high % unit, s.gap, s.high - s.value, unit⟩

/-- The cut at the place `10 ^ (-j)` after the point. -/
def cutAfter (s : Scaled) (j : Nat) : Cut :=
  let unit := Nat.pow 2 s.point
  let scale := Nat.pow 10 j
  ⟨s.high * scale / unit, s.exponent - j, s.high * scale % unit, s.gap * scale,
    if j < 9 then (s.high - s.value) * scale else 0, unit⟩

/-- The first place below which the upper midpoint holds less than the gap. -/
def cut (s : Scaled) : Cut :=
  let places := (Nat.toDigits 10 (s.high / Nat.pow 2 s.point)).length
  match ((List.range places).reverse.map s.cutBefore).find? fun c => c.rest ≤ c.gap with
  | some c => c
  | none =>
    (((List.range 20).map fun j => s.cutAfter (j + 1)).find? fun c => c.rest < c.gap).getD
      (s.cutAfter 20)

/-- Lower the last digit as long as that leads nearer to the double, at most nine times. -/
def lower : Nat → Cut → Digits
  | 0, c => ⟨c.digits, c.exponent⟩
  | n + 1, c =>
    let rest := c.rest + c.unit
    if c.rest < c.distance ∧ rest ≤ c.gap ∧
        (rest < c.distance ∨ rest - c.distance < c.distance - c.rest) then
      lower n { c with digits := c.digits - 1, rest := rest }
    else ⟨c.digits, c.exponent⟩

/-- The decimal of a positive double. -/
def digits (s : Scaled) : Digits := lower 9 s.cut

end Scaled

/-! ## Text -/

/-- A double as text: a point and at least one digit after it from `10 ^ (-6)` to below
`10 ^ 21`, the scientific form elsewhere. -/
def showFloat (x : Float) : List Char :=
  let sign := if x.toBits.toNat / Nat.pow 2 63 = 1 then ['-'] else []
  match Binary.ofFloat? x with
  | none => if x.isNaN then ['N', 'a', 'N'] else sign ++ ['i', 'n', 'f']
  | some b =>
    if b.mantissa = 0 then sign ++ ['0', '.', '0']
    else
      let d := b.scaled.digits
      let ds := Text.showNat d.digits
      let point := ds.length + d.exponent
      sign ++
        if 0 ≤ d.exponent && point ≤ 21 then
          ds ++ List.replicate d.exponent.toNat '0' ++ ['.', '0']
        else if 0 < point && point ≤ 21 then
          ds.take point.toNat ++ '.' :: ds.drop point.toNat
        else if -6 < point && point ≤ 0 then
          '0' :: '.' :: List.replicate (-point).toNat '0' ++ ds
        else
          ds.take 1 ++ (if ds.length = 1 then [] else '.' :: ds.drop 1) ++
            'e' :: Text.showInt (point - 1)

end Decimal

end IngressBalancer
