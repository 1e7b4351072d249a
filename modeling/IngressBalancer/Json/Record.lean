import IngressBalancer.Data.SortedMap
import IngressBalancer.Json.Basic
/-!
# Records in JSON

How a record with named fields is read from a value: from an object, whose
other members are passed over, or from a list that gives every field in
order. A field may be given once. An optional field that is missing or null
is absent; any other field is required.
-/

namespace IngressBalancer

namespace Json

/-- The members from which a record with the given fields is read. -/
def record? (fields : List String) : Json → Option (List (String × Json))
  | .object members => some members
  | .list items => if items.length = fields.length then some (fields.zip items) else none
  | _ => none

/-- A required field. -/
def required? {α : Type} (decode : Json → Option α) (key : String)
    (members : List (String × Json)) : Option α :=
  match valuesOf key members with
  | [j] => decode j
  | _ => none

/-- A field that may be missing or null. -/
def optional? {α : Type} (decode : Json → Option α) (key : String)
    (members : List (String × Json)) : Option (Option α) :=
  match valuesOf key members with
  | [] | [.null] => some none
  | [j] => (decode j).map some
  | _ => none

/-- A list, item by item. -/
def listOf? {α : Type} (decode : Json → Option α) : Json → Option (List α)
  | .list items => items.mapM decode
  | _ => none

/-- A map from strings; of two members with one key, the later stays. -/
def mapOf? {α : Type} (decode : Json → Option α) : Json → Option (SortedMap String α)
  | .object members =>
    (members.mapM fun m => (decode m.2).map fun a => (m.1, a)).map SortedMap.ofList
  | _ => none

/-- One of finitely many words: the word itself, or an object that maps it to null. -/
def word? {α : Type} (read : String → Option α) : Json → Option α
  | .string s => read s
  | .object [(s, .null)] => read s
  | _ => none

/-- A whole number from `low` to `high`. -/
def intIn? (low high : Int) (j : Json) : Option Int :=
  j.int?.filter fun i => low ≤ i && i ≤ high

def uint16? (j : Json) : Option UInt16 := (intIn? 0 65535 j).map fun i => UInt16.ofNat i.toNat

def uint32? (j : Json) : Option UInt32 :=
  (intIn? 0 4294967295 j).map fun i => UInt32.ofNat i.toNat

def int32? (j : Json) : Option Int32 := (intIn? (-2147483648) 2147483647 j).map Int32.ofInt

/-- The object with the entries of a map. -/
def ofMap {α : Type} (encode : α → Json) (m : SortedMap String α) : Json :=
  .object (m.entries.map fun e => (e.1, encode e.2))

end Json

end IngressBalancer
