import IngressBalancer.Json.Basic
/-!
# Canonical JSON

A value with the members of all its objects in the order of their names.
-/

namespace IngressBalancer

namespace Json

mutual

/-- The value with all members in the order of their names. -/
def canonical : Json → Json
  | .list items => .list (canonicalItems items)
  | .object members => .object ((canonicalMembers members).mergeSort fun a b => a.1 ≤ b.1)
  | j => j

def canonicalItems : List Json → List Json
  | [] => []
  | j :: js => canonical j :: canonicalItems js

def canonicalMembers : List (String × Json) → List (String × Json)
  | [] => []
  | (k, j) :: ms => (k, canonical j) :: canonicalMembers ms

end

end Json

end IngressBalancer
