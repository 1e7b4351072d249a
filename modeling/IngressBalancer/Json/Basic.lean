/-!
# JSON values

The values of JSON, with numbers kept as they are written and members in
the order in which they are written. A string whose escapes leave half of a
surrogate pair has no text; it is `unreadable`, as is an object with such a
key. It may stand where a value is passed over and nowhere else.
-/

namespace IngressBalancer

/-- A number as it is written. -/
inductive Numeral
  /-- Digits alone, after a minus sign where `negative` is set. -/
  | whole (negative : Bool) (digits : Nat)
  /-- A fraction or an exponent: `mantissa` times ten to `exponent`. -/
  | scientific (negative : Bool) (mantissa : Nat) (exponent : Int)
deriving DecidableEq, Repr

namespace Numeral

/-- The whole number that is written. A zero with a minus sign is no whole number. -/
def int? : Numeral → Option Int
  | .whole false n => some n
  | .whole true 0 => none
  | .whole true n => some (-n)
  | .scientific .. => none

/-- The natural number that is written. -/
def nat? (n : Numeral) : Option Nat :=
  n.int?.bind fun i => if 0 ≤ i then some i.toNat else none

/-- The number in binary floating point, rounded to nearest. -/
def toFloat : Numeral → Float
  | .whole neg n => if neg then -Float.ofNat n else Float.ofNat n
  | .scientific neg m e =>
    let x := Float.ofScientific m (e < 0) e.natAbs
    if neg then -x else x

/-- The numeral of a whole number. -/
def ofInt : Int → Numeral
  | .ofNat n => .whole false n
  | .negSucc n => .whole true (n + 1)

theorem int?_ofInt (i : Int) : (ofInt i).int? = some i := by
  cases i with
  | ofNat n => rfl
  | negSucc n => rfl

end Numeral

/-- A JSON value. -/
inductive Json
  | null
  | bool (b : Bool)
  | number (n : Numeral)
  | string (s : String)
  | list (items : List Json)
  | object (members : List (String × Json))
  /-- A string, or an object with a key, whose escapes are half of a surrogate pair. -/
  | unreadable
deriving Repr, Inhabited

namespace Json

def ofNat (n : Nat) : Json := .number (.whole false n)

def ofInt (i : Int) : Json := .number (Numeral.ofInt i)

def strings (ss : List String) : Json := .list (ss.map .string)

/-- The values of the members called `key`, in order. -/
def valuesOf (key : String) (members : List (String × Json)) : List Json :=
  members.filterMap fun m => if m.1 = key then some m.2 else none

/-- The first member called `key` of an object. -/
def get? (key : String) : Json → Option Json
  | .object members => (valuesOf key members).head?
  | _ => none

def string? : Json → Option String
  | .string s => some s
  | _ => none

def bool? : Json → Option Bool
  | .bool b => some b
  | _ => none

def list? : Json → Option (List Json)
  | .list items => some items
  | _ => none

def int? : Json → Option Int
  | .number n => n.int?
  | _ => none

def nat? : Json → Option Nat
  | .number n => n.nat?
  | _ => none

/-- The members of an object that are given, by name. -/
def ofMembers (members : List (String × Option Json)) : Json :=
  .object (members.filterMap fun m => m.2.map fun j => (m.1, j))

end Json

end IngressBalancer
