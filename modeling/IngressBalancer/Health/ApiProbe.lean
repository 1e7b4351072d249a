import IngressBalancer.Cluster.Format
/-!
# The probe of the cluster

The cluster counts as reachable when its API tells its version: a successful
answer whose body is an object with the version's fields, all of them texts
and none of them required.
-/

namespace IngressBalancer

namespace ApiProbe

/-- The fields of a version. -/
def versionFields : List String :=
  ["buildDate", "compiler", "gitCommit", "gitTreeState", "gitVersion", "goVersion", "major",
    "minor", "platform"]

/-- Whether a value may stand for a field. -/
def isFieldValue : Json → Bool
  | .null | .string _ => true
  | _ => false

/-- Whether a body is a version. -/
def isVersion : Json → Bool
  | .object members =>
    members.all fun m => !versionFields.contains m.1 || isFieldValue m.2
  | _ => false

/-- Whether an answer shows that the cluster is reachable. -/
def passes (status : Nat) (body : Json) : Bool := 200 ≤ status && status < 300 && isVersion body

end ApiProbe

end IngressBalancer
