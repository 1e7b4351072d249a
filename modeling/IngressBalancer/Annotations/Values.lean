import IngressBalancer.Failure
import IngressBalancer.Json.Reader
import IngressBalancer.Json.Record
import IngressBalancer.Resource.Format
import IngressBalancer.Text.Fields
/-!
# Annotation values

How the value of one annotation is read: lists with commas, protocols in
any case, listen ports as JSON, tags as `key=value` pairs, and ports of
health checks.
-/

namespace IngressBalancer

namespace Annotations

/-- The items between commas without the blanks around them; empty items do not count. -/
def commaList (value : String) : List String :=
  ((Text.pieces ',' value.toList).map Text.trimChars).filter (!·.isEmpty) |>.map String.ofList

def readScheme (value : String) : Except ValueFault Scheme :=
  match Scheme.ofWord? value with
  | some scheme => .ok scheme
  | none => .error (.unknownScheme value)

/-- A text with its ASCII letters in upper case. -/
def upper (s : String) : String := String.ofList (s.toList.map Char.toUpper)

/-- A protocol, its letters in any case. -/
def readProtocol (value : String) : Except ValueFault Protocol :=
  match Protocol.ofWord? (upper value) with
  | some protocol => .ok protocol
  | none => .error (.unknownProtocol (upper value))

/-! ## Listen ports -/

/-- The maps from protocols to ports that a JSON text lists. -/
def portMaps? (value : String) : Option (List (SortedMap String UInt16)) :=
  (Json.parse? value).bind (Json.listOf? (Json.mapOf? Json.uint16?))

/-- One protocol and its port. -/
def readPort (entry : String × UInt16) : Except ValueFault (Protocol × UInt16) :=
  if entry.2 = 0 then .error .portZero
  else (readProtocol entry.1).map fun protocol => (protocol, entry.2)

/-- Drop each item that equals the one before it. -/
def dropRepeats {α : Type} [DecidableEq α] : List α → List α
  | [] => []
  | a :: as =>
    match dropRepeats as with
    | [] => [a]
    | b :: bs => if a = b then b :: bs else a :: b :: bs

/-- The listed ports: `[{"HTTP": 80}, {"HTTPS": 443}]`, in increasing order of the
port and otherwise as they are listed. -/
def readListenPorts (value : String) : Except ValueFault (List (Protocol × UInt16)) := do
  let some maps := portMaps? value | throw .malformedPorts
  let ports ← (maps.flatMap (·.entries)).mapM readPort
  if ports.isEmpty then throw .noListeners
  return dropRepeats (ports.mergeSort fun a b => a.2 ≤ b.2)

/-! ## Tags -/

/-- One `key=value` pair; the key is not empty. -/
def readTag (pair : String) : Except ValueFault (String × String) :=
  match Text.cut? '=' pair.toList with
  | some (k, v) =>
    let key := Text.trimChars k
    if key.isEmpty then .error (.notKeyValue pair)
    else .ok (String.ofList key, String.ofList (Text.trimChars v))
  | none => .error (.notKeyValue pair)

/-- The tags that `key=value` pairs between commas give; of two with one key, the later. -/
def readTags (value : String) : Except ValueFault (SortedMap String String) :=
  ((commaList value).mapM readTag).map SortedMap.ofList

/-! ## Health checks -/

/-- A path that starts with a slash. -/
def readPath (value : String) : Except ValueFault String :=
  if value.toList.head? = some '/' then .ok value else .error (.relativePath value)

/-- A port number other than zero. -/
def portNumber? (value : String) : Option Nat :=
  (Text.readUpTo 65535 value.toList).filter (· != 0)

/-- The port of the targets, or a port number. -/
def readCheckPort (value : String) : Except ValueFault String :=
  if value = "traffic-port" ∨ (portNumber? value).isSome then .ok value
  else .error (.notPort value)

end Annotations

end IngressBalancer
