import IngressBalancer.Data.SortedMap
import IngressBalancer.Json.Printer
/-!
# Responses

What the REST server sends back, and the JSON text of the health results,
which is the one place where JSON is written for people to read.
-/

namespace IngressBalancer

namespace Rest

/-- A response; without a content type it has no body. -/
structure Response where
  status : Nat
  contentType : Option String
  body : String
deriving DecidableEq, Repr

namespace Response

/-- A response without a body. -/
def bare (status : Nat) : Response := ⟨status, none, ""⟩

/-- A response with a value in JSON. -/
def json (status : Nat) (value : Json) : Response := ⟨status, some "application/json", value.compact⟩

/-- The response without its body. -/
def headOnly (r : Response) : Response := { r with body := "" }

end Response

/-- A line of an object with its members on lines of their own, four blanks in front. -/
def indentedMember (m : String × String) : List Char :=
  [' ', ' ', ' ', ' '] ++ Json.renderString m.1 ++ ':' :: ' ' :: Json.renderString m.2

/-- An object of strings as text, a member to a line, with a line feed at the end. -/
def indented (results : SortedMap String String) : String :=
  if results.isEmpty then "\x7b\x7d\n"
  else
    String.ofList ('\x7b' :: '\n' ::
      [',', '\n'].intercalate (results.entries.map indentedMember) ++ ['\n', '\x7d', '\n'])

end Rest

end IngressBalancer
