import IngressBalancer.Failure
/-!
# Name stems

Every generated name starts with a stem of one to eleven characters, each a
lower-case ASCII letter or a digit. A stem is given, or derived from the
name of the cluster.
-/

namespace IngressBalancer

namespace Stem

/-- Whether a character may stand in a stem. -/
def isAllowed (c : Char) : Bool := ('a' ≤ c && c ≤ 'z') || Text.isDigit c

/-- The allowed characters in the lower case of one character. Outside ASCII there are two
characters whose lower case holds one: the Kelvin sign and the capital I with a dot. -/
def lowerAllowed (c : Char) : List Char :=
  if isAllowed c then [c]
  else if 'A' ≤ c && c ≤ 'Z' then [c.toLower]
  else if c = '\u212a' then ['k']
  else if c = '\u0130' then ['i']
  else []

/-- The stem of a cluster: the first eleven characters of its name, in lower case, without
those that are not allowed. -/
def derive (clusterName : String) : String :=
  String.ofList ((clusterName.toList.take maxStemLength).flatMap lowerAllowed)

/-- Accept a text as a stem. -/
def validate (stem : String) : Except SettingsFault Unit :=
  if !stem.toList.all isAllowed then .error .stemAlphabet
  else if maxStemLength < stem.utf8ByteSize then .error .stemTooLong
  else if stem.isEmpty then .error .stemEmpty
  else .ok ()

end Stem

end IngressBalancer
