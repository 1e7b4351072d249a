import IngressBalancer.Text.Fields
/-!
# Targets

What a request asks for on the host to which it goes: a path, and a query
behind the first question mark. What follows a number sign is never sent.
A request can be made where every character may be sent as it is
(`Target.parse?`); nothing is encoded on the way.
-/

namespace IngressBalancer

/-- A path and a query. -/
structure Target where
  path : String
  query : Option String
deriving DecidableEq, Repr

namespace Target

/-- Path and query of a place on a host. -/
def ofPlace (place : List Char) : Target :=
  let sent := place.takeWhile (· ≠ '#')
  match Text.cut? '?' sent with
  | some (path, query) => ⟨String.ofList path, some (String.ofList query)⟩
  | none => ⟨String.ofList sent, none⟩

/-- Whether a character may stand in a path: what shows, but for five signs. -/
def isPathChar (c : Char) : Bool := ' ' < c && c ∉ ['#', '<', '>', '?', '\x60']

/-- Whether a character may stand in a query: what shows, but for four signs. -/
def isQueryChar (c : Char) : Bool := ' ' < c && c ∉ ['"', '#', '<', '>']

/-- The most bytes that a place may have. -/
def maxBytes : Nat := 65534

/-- The target for a place, if a request can be made for it. -/
def parse? (place : String) : Option Target :=
  let target := ofPlace place.toList
  if place.utf8ByteSize ≤ maxBytes && target.path.toList.all isPathChar &&
      (target.query.getD "").toList.all isQueryChar then
    some target
  else none

/-- Whether a character may stand in the name of a scheme. -/
def isSchemeChar (c : Char) : Bool := c.isAlphanum || c ∈ ['+', '-', '.']

/-- What an address says behind its scheme and its host, if it names those; at least a slash. -/
def placeOf (address : List Char) : List Char :=
  match address.dropWhile isSchemeChar with
  | ':' :: '/' :: '/' :: rest =>
    match rest.dropWhile (· ∉ ['/', '?', '#']) with
    | '/' :: place => '/' :: place
    | place => '/' :: place
  | _ => address

/-- The target that an address names, with or without a host in front. -/
def ofAddress (address : String) : Target := ofPlace (placeOf address.toList)

/-- The parts of the query, in their order. -/
def queryParts (t : Target) : List String :=
  ((Text.pieces '&' (t.query.getD "").toList).filter (!·.isEmpty)).map String.ofList

end Target

end IngressBalancer
