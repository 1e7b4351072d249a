import IngressBalancer.Json.Basic
import IngressBalancer.Text.Digits
/-!
# Reading JSON text

The value that a text writes, for exactly the texts of the JSON grammar.
Every reader takes the front of a text and returns the rest. Values nest,
so the readers of values carry a bound on the depth; the length of the text
is one (`Json.parse?`).
-/

namespace IngressBalancer

namespace Json

/-- The four blanks of JSON. -/
def isSpace (c : Char) : Bool := c = ' ' || c = '\t' || c = '\n' || c = '\r'

def skipSpace (cs : List Char) : List Char := cs.dropWhile isSpace

/-! ## Strings -/

/-- A character inside a string, or a code unit that an escape gives by number. -/
inductive Piece
  | char (c : Char)
  | unit (n : Nat)
deriving DecidableEq, Repr

/-- The number that four hexadecimal digits write. -/
def hexUnit? (a b c d : Char) : Option Nat := do
  let a ← Text.hexValue? a
  let b ← Text.hexValue? b
  let c ← Text.hexValue? c
  let d ← Text.hexValue? d
  return ((a * 16 + b) * 16 + c) * 16 + d

/-- The character that a short escape stands for. -/
def shortEscape? (c : Char) : Option Char :=
  if c = '"' then some '"'
  else if c = '\\' then some '\\'
  else if c = '/' then some '/'
  else if c = 'b' then some '\x08'
  else if c = 'f' then some '\x0c'
  else if c = 'n' then some '\n'
  else if c = 'r' then some '\r'
  else if c = 't' then some '\t'
  else none

/-- The pieces up to the closing quote. -/
def readPieces : List Char → Option (List Piece × List Char)
  | [] => none
  | '"' :: rest => some ([], rest)
  | '\\' :: 'u' :: a :: b :: c :: d :: rest => do
    let n ← hexUnit? a b c d
    let (ps, rest) ← readPieces rest
    return (.unit n :: ps, rest)
  | '\\' :: c :: rest => do
    let c ← shortEscape? c
    let (ps, rest) ← readPieces rest
    return (.char c :: ps, rest)
  | c :: rest => do
    if c.toNat < 32 || c = '\\' then none
    let (ps, rest) ← readPieces rest
    return (.char c :: ps, rest)

/-- Whether a code unit opens a surrogate pair. -/
def opensPair (n : Nat) : Bool := 0xD800 ≤ n && n < 0xDC00

/-- Whether a code unit closes a surrogate pair. -/
def closesPair (n : Nat) : Bool := 0xDC00 ≤ n && n < 0xE000

/-- The characters that the pieces write; none where half of a pair is missing. -/
def joinPieces : List Piece → Option (List Char)
  | [] => some []
  | .char c :: ps => (joinPieces ps).map (c :: ·)
  | .unit h :: .unit l :: ps =>
    if opensPair h then
      if closesPair l then
        (joinPieces ps).map (Char.ofNat (0x10000 + (h - 0xD800) * 0x400 + (l - 0xDC00)) :: ·)
      else none
    else if closesPair h then none
    else (joinPieces (.unit l :: ps)).map (Char.ofNat h :: ·)
  | .unit h :: ps =>
    if opensPair h || closesPair h then none else (joinPieces ps).map (Char.ofNat h :: ·)

/-- The text of a string after its opening quote, or `none` inside where it has no text. -/
def readString (cs : List Char) : Option (Option String × List Char) :=
  (readPieces cs).map fun p => ((joinPieces p.1).map String.ofList, p.2)

/-! ## Numbers -/

/-- A run of digits at the front, which may be empty. -/
def spanDigits (cs : List Char) : List Char × List Char :=
  (cs.takeWhile Text.isDigit, cs.dropWhile Text.isDigit)

/-- The digits before the point: a single zero, or digits that start with another. -/
def readWhole : List Char → Option (List Char × List Char)
  | '0' :: rest => some (['0'], rest)
  | cs => match spanDigits cs with
    | ([], _) => none
    | p => some p

/-- The digits after the point, none where there is no point. -/
def readFraction : List Char → Option (List Char × List Char)
  | '.' :: rest => match spanDigits rest with
    | ([], _) => none
    | p => some p
  | cs => some ([], cs)

/-- The digits of an exponent. -/
def readExponentDigits (cs : List Char) : Option (Nat × List Char) :=
  match spanDigits cs with
  | ([], _) => none
  | (ds, rest) => some (Text.decimalFrom 0 ds, rest)

/-- The exponent, or nothing where no letter announces one. -/
def readExponent : List Char → Option (Option Int × List Char)
  | c :: rest =>
    if c = 'e' || c = 'E' then
      match rest with
      | '-' :: rest => (readExponentDigits rest).map fun p => (some (-p.1), p.2)
      | '+' :: rest => (readExponentDigits rest).map fun p => (some p.1, p.2)
      | _ => (readExponentDigits rest).map fun p => (some p.1, p.2)
    else some (none, c :: rest)
  | [] => some (none, [])

/-- A number at the front. -/
def readNumber (cs : List Char) : Option (Numeral × List Char) := do
  let (neg, cs) := match cs with
    | '-' :: rest => (true, rest)
    | _ => (false, cs)
  let (whole, cs) ← readWhole cs
  let (fraction, cs) ← readFraction cs
  let (exponent, cs) ← readExponent cs
  let value := Text.decimalFrom 0 (whole ++ fraction)
  match fraction, exponent with
  | [], none => return (.whole neg value, cs)
  | _, e => return (.scientific neg value (e.getD 0 - fraction.length), cs)

/-! ## Values -/

/-- An object of members whose keys may lack a text. -/
def ofKeyed (members : List (Option String × Json)) : Json :=
  match members.mapM fun m => m.1.map fun k => (k, m.2) with
  | some ms => .object ms
  | none => .unreadable

mutual

/-- A value at the front, after blanks; `depth` bounds the nesting. -/
def readValue (depth : Nat) (cs : List Char) : Option (Json × List Char) :=
  match depth with
  | 0 => none
  | depth + 1 =>
    match skipSpace cs with
    | 'n' :: 'u' :: 'l' :: 'l' :: rest => some (.null, rest)
    | 't' :: 'r' :: 'u' :: 'e' :: rest => some (.bool true, rest)
    | 'f' :: 'a' :: 'l' :: 's' :: 'e' :: rest => some (.bool false, rest)
    | '"' :: rest =>
      (readString rest).map fun p => (p.1.elim .unreadable .string, p.2)
    | '[' :: rest =>
      match skipSpace rest with
      | ']' :: rest => some (.list [], rest)
      | _ => (readItems depth rest).map fun p => (.list p.1, p.2)
    | '\x7b' :: rest =>
      match skipSpace rest with
      | '\x7d' :: rest => some (.object [], rest)
      | _ => (readMembers depth rest).map fun p => (ofKeyed p.1, p.2)
    | cs => (readNumber cs).map fun p => (.number p.1, p.2)

/-- One or more items up to the closing bracket. -/
def readItems (depth : Nat) (cs : List Char) : Option (List Json × List Char) :=
  match depth with
  | 0 => none
  | depth + 1 => do
    let (j, cs) ← readValue depth cs
    match skipSpace cs with
    | ']' :: rest => return ([j], rest)
    | ',' :: rest =>
      let (js, rest) ← readItems depth rest
      return (j :: js, rest)
    | _ => none

/-- One or more members up to the closing brace. -/
def readMembers (depth : Nat) (cs : List Char) :
    Option (List (Option String × Json) × List Char) :=
  match depth with
  | 0 => none
  | depth + 1 => do
    match skipSpace cs with
    | '"' :: rest =>
      let (k, rest) ← readString rest
      match skipSpace rest with
      | ':' :: rest =>
        let (j, rest) ← readValue depth rest
        match skipSpace rest with
        | '\x7d' :: rest => return ([(k, j)], rest)
        | ',' :: rest =>
          let (ms, rest) ← readMembers depth rest
          return ((k, j) :: ms, rest)
        | _ => none
      | _ => none
    | _ => none

end

/-- The value that a text writes, blanks around it allowed. Between two characters that it takes
a reader calls at most one other, so twice the length bounds the depth. -/
def parseChars? (cs : List Char) : Option Json :=
  match readValue (2 * cs.length + 1) cs with
  | some (j, rest) => if (skipSpace rest).isEmpty then some j else none
  | none => none

/-- The value that a text writes. -/
def parse? (s : String) : Option Json := parseChars? s.toList

end Json

end IngressBalancer
