import IngressBalancer.Text.Blank
import IngressBalancer.Text.Fields
import IngressBalancer.Text.Quoted
/-!
# Health endpoints

A further endpoint to be checked, written `NAME=URL`. Both sides stand
without the blanks around them, and neither may be empty.
-/

namespace IngressBalancer

/-- A named endpoint. -/
structure HealthEndpoint where
  name : String
  url : String
deriving DecidableEq, Repr

/-- The endpoint that a text writes, or the text itself for the message. -/
def HealthEndpoint.parse (raw : String) : Except String HealthEndpoint :=
  match Text.cut? '=' raw.toList with
  | none => .error raw
  | some (name, url) =>
    let name := Text.trimChars name
    let url := Text.trimChars url
    if name.isEmpty || url.isEmpty then .error raw
    else .ok ⟨String.ofList name, String.ofList url⟩

/-- What is said about a text that is no endpoint. -/
def HealthEndpoint.refusal (raw : String) : String :=
  "expected NAME=URL, got " ++ Text.quoted raw

end IngressBalancer
