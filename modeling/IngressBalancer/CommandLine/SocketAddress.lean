import IngressBalancer.Text.Digits
/-!
# Socket addresses

The texts that write an address and a port: `127.0.0.1:8080`, or
`[::1]:8080` with eight groups of up to four hexadecimal digits, of which a
run of zeros may be left out once and the last two may be written as four
decimal numbers.
-/

namespace IngressBalancer

namespace SocketAddress

/-- What remains after a character. -/
def skip (c : Char) : List Char → Option (List Char)
  | d :: rest => if c = d then some rest else none
  | [] => none

/-- A run of digits, at least one of them, and what remains. -/
def digits (isDigit : Char → Bool) (cs : List Char) : Option (List Char × List Char) :=
  match cs.takeWhile isDigit with
  | [] => none
  | ds => some (ds, cs.dropWhile isDigit)

/-- What remains after a number up to 255 without needless zeros. -/
def octet (cs : List Char) : Option (List Char) := do
  let (ds, rest) ← digits Text.isDigit cs
  if ds.length ≤ 3 ∧ (ds.length = 1 ∨ ds.head? ≠ some '0') ∧ Text.decimalFrom 0 ds ≤ 255 then
    some rest
  else none

/-- What remains after four numbers with points between them. -/
def fourOctets (cs : List Char) : Option (List Char) := do
  let cs ← octet cs
  let cs ← skip '.' cs
  let cs ← octet cs
  let cs ← skip '.' cs
  let cs ← octet cs
  let cs ← skip '.' cs
  octet cs

/-- What remains after one to four hexadecimal digits. -/
def group (cs : List Char) : Option (List Char) := do
  let (ds, rest) ← digits (fun c => (Text.hexValue? c).isSome) cs
  if ds.length ≤ 4 then some rest else none

/-- How many groups there are, up to a number of them, whether four decimal numbers stand for
the last two, and what remains. -/
def groups (first : Bool) : Nat → List Char → Nat × Bool × List Char
  | 0, cs => (0, false, cs)
  | n + 1, cs =>
    let start := if first then some cs else skip ':' cs
    match (if n = 0 then none else start.bind fourOctets) with
    | some rest => (2, true, rest)
    | none =>
      match start.bind group with
      | none => (0, false, cs)
      | some rest =>
        let (k, decimal, rest) := groups false n rest
        (k + 1, decimal, rest)

/-- What remains after eight groups, or fewer with a run of zeros left out. -/
def eightGroups (cs : List Char) : Option (List Char) :=
  let (k, decimal, rest) := groups true 8 cs
  if k = 8 then some rest
  else if decimal then none
  else ((skip ':' rest).bind (skip ':')).map fun rest => (groups true (7 - k) rest).2.2

/-- What remains after the number of a zone, if there is one. -/
def zone (cs : List Char) : Option (List Char) :=
  match skip '%' cs with
  | none => some cs
  | some cs => do
    let (ds, rest) ← digits Text.isDigit cs
    if Text.decimalFrom 0 ds < UInt32.size then some rest else none

/-- Whether a colon and a port remain. -/
def isPort (cs : List Char) : Bool :=
  match (skip ':' cs).bind (digits Text.isDigit) with
  | some (ds, []) => Text.decimalFrom 0 ds < UInt16.size
  | _ => false

/-- Whether a text writes an address and a port. -/
def isValid (text : String) : Bool :=
  match fourOctets text.toList with
  | some rest => isPort rest
  | none =>
    match (skip '[' text.toList).bind eightGroups |>.bind zone |>.bind (skip ']') with
    | some rest => isPort rest
    | none => false

end SocketAddress

end IngressBalancer
