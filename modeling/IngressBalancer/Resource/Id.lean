/-!
# Resource ids

A managed ingress is known by its namespace and its name. Ids are ordered
by namespace and then by name, code point by code point.
-/

namespace IngressBalancer

/-- The identity of a managed ingress. -/
structure ResourceId where
  nspace : String
  name : String
deriving DecidableEq, Repr, Inhabited

namespace ResourceId

instance : Ord ResourceId where
  compare := compareLex (compareOn ResourceId.nspace) (compareOn ResourceId.name)

instance : Std.TransOrd ResourceId :=
  inferInstanceAs (Std.TransCmp (compareLex (compareOn ResourceId.nspace) (compareOn ResourceId.name)))

instance : Std.LawfulEqOrd ResourceId where
  eq_of_compare {a b} h := by
    have h' := compareLex_eq_eq.1 h
    obtain ⟨ns, n⟩ := a
    obtain ⟨ns', n'⟩ := b
    have h1 : ns = ns' := Std.LawfulEqCmp.eq_of_compare h'.1
    have h2 : n = n' := Std.LawfulEqCmp.eq_of_compare h'.2
    rw [h1, h2]

/-- The id as text: namespace and name with a slash between them. -/
def text (id : ResourceId) : String := id.nspace ++ "/" ++ id.name

end ResourceId

end IngressBalancer
