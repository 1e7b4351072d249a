import IngressBalancer.Decimal.Binary
import IngressBalancer.Decimal.Rounding
import IngressBalancer.Text.Blank
import IngressBalancer.Text.Digits
import IngressBalancer.Time.Span
/-!
# Spans in text

Spans as settings write them: `60m`, `1h30m`, `1.5h`, `250ms`, or a plain
`0`. A text is a sequence of terms, a number and a unit each. The terms add
up in binary floating point, and the sum is rounded to whole nanoseconds.
-/

namespace IngressBalancer

/-- Why a text is no span. -/
inductive SpanFault
  | empty
  /-- The text ends in a number. -/
  | missingUnit (text : String)
  /-- The text starts with a unit. -/
  | missingNumber (text : String)
  | badNumber (number : String)
  | badUnit (unit : String)
  /-- The sum is no span of less than `2 ^ 64` seconds. -/
  | outOfRange
deriving DecidableEq, Repr

def SpanFault.message : SpanFault → String
  | .empty => "Empty duration string"
  | .missingUnit text => "Missing unit in duration " ++ text
  | .missingNumber text => "Invalid duration " ++ text
  | .badNumber number => "Invalid number: " ++ number
  | .badUnit unit => "Invalid duration unit: " ++ unit
  | .outOfRange => "cannot convert float seconds to Duration: value is either too big or NaN"

namespace SpanText

/-- Whether a character belongs to a number rather than to a unit. -/
def inNumber (c : Char) : Bool := Text.isDigit c || c = '.'

/-- The longest runs of number characters and of other characters, in turn. -/
def runs : List Char → List (List Char)
  | [] => []
  | c :: cs =>
    match runs cs with
    | (d :: ds) :: rest =>
      if inNumber c == inNumber d then (c :: d :: ds) :: rest else [c] :: (d :: ds) :: rest
    | rest => [c] :: rest

/-- Digits with at most one point among them, at least one digit. -/
def isNumber (cs : List Char) : Bool := cs.any Text.isDigit && cs.count '.' ≤ 1

/-- The number that digits with at most one point write, rounded to nearest. -/
def number (cs : List Char) : Float :=
  let scale := (cs.dropWhile (· != '.')).length - 1
  Float.ofScientific (Text.decimalFrom 0 (cs.filter Text.isDigit)) true scale

/-- The seconds of one unit. -/
def unitSeconds? (cs : List Char) : Option Float :=
  match cs with
  | ['n', 's'] => some 1e-9
  | ['u', 's'] | ['\u00b5', 's'] => some 1e-6
  | ['m', 's'] => some 1e-3
  | ['s'] => some 1.0
  | ['m'] => some 60.0
  | ['h'] => some 3600.0
  | _ => none

/-- The sum in seconds of `total` and the terms that the runs write. -/
def sumTerms (text : String) : Float → List (List Char) → Except SpanFault Float
  | total, [] => .ok total
  | total, run :: rest =>
    if run.any inNumber then
      match rest with
      | [] => .error (.missingUnit text)
      | unit :: rest =>
        if isNumber run then
          match unitSeconds? unit with
          | some seconds => sumTerms text (total + number run * seconds) rest
          | none => .error (.badUnit (String.ofList unit))
        else .error (.badNumber (String.ofList run))
    else .error (.missingNumber text)

/-- A number of seconds in whole nanoseconds, a half going to the even neighbour; none for
`2 ^ 64` seconds and more. -/
def nanosOfSeconds? (x : Float) : Option Span := do
  let b ← Decimal.Binary.ofFloat? x
  let (num, den) := b.ratio
  if num / den < UInt64.size then some (Decimal.roundEven (num * 1000000000) den) else none

/-- The span that a text writes, blanks around it allowed. -/
def parse (s : String) : Except SpanFault Span :=
  match Text.trimChars s.toList with
  | [] => .error .empty
  | ['0'] => .ok 0
  | cs => do
    let total ← sumTerms (String.ofList cs) 0.0 (runs cs)
    match nanosOfSeconds? total with
    | some span => .ok span
    | none => .error .outOfRange

end SpanText

end IngressBalancer
