import IngressBalancer.Text.Fields
import IngressBalancer.Text.Percent
/-!
# Addresses in normal form

An address of the web, as a client keeps it: the segments of its path with
`.` and `..` worked off, every character that may not stand in its place
percent-encoded, and at least a slash behind the host. A location that an
answer names is read against the address that was asked (`Url.follow?`).
-/

namespace IngressBalancer

/-- How a host is spoken to. -/
inductive Transport
  | plain
  | secure
deriving DecidableEq, Repr

namespace Transport

/-- What an address says in front of its colon. -/
def word : Transport → String
  | .plain => "http"
  | .secure => "https"

/-- The port that goes without saying. -/
def port : Transport → Nat
  | .plain => 80
  | .secure => 443

end Transport

/-- An address whose parts are in normal form. -/
structure Url where
  transport : Transport
  /-- The host, and its port where that does not go without saying. -/
  host : String
  /-- The segments of the path, the first one first. -/
  path : List (List Char)
  query : Option (List Char)
  fragment : Option (List Char)
deriving DecidableEq, Repr

namespace Url

/-! ## Characters -/

/-- Whether a character of a path stands for itself. -/
def keepsInPath (c : Char) : Bool :=
  ' ' < c && c < '\x7f' && c ∉ ['"', '#', '<', '>', '?', '\x60', '\x7b', '\x7d']

/-- Whether a character of a query stands for itself. -/
def keepsInQuery (c : Char) : Bool :=
  ' ' < c && c < '\x7f' && c ∉ ['"', '#', '<', '>', '\x27']

/-- Whether a character of a fragment stands for itself. -/
def keepsInFragment (c : Char) : Bool :=
  ' ' < c && c < '\x7f' && c ∉ ['"', '<', '>', '\x60']

/-- A text without controls and blanks at its end, and without tabs and line ends inside. -/
def cleaned (cs : List Char) : List Char :=
  (cs.reverse.dropWhile (· ≤ ' ')).reverse.filter (· ∉ ['\t', '\n', '\r'])

/-- Whether a character ends a segment of a path. -/
def isSlash (c : Char) : Bool := c = '/' || c = '\\'

/-- Whether a character ends the name of a host. -/
def endsHost (c : Char) : Bool := isSlash c || c = '?' || c = '#'

/-! ## Paths -/

/-- A segment with its dots written as dots. -/
def plainDots : List Char → List Char
  | '%' :: '2' :: 'e' :: cs => '.' :: plainDots cs
  | '%' :: '2' :: 'E' :: cs => '.' :: plainDots cs
  | c :: cs => c :: plainDots cs
  | [] => []

/-- Whether a segment is the letter of a drive, which `..` does not leave. -/
def isDrive : List Char → Bool
  | [c, d] => c.isAlpha && (d = ':' || d = '|')
  | _ => false

/-- Leave the last of the segments, which come in reverse. -/
def leave : List (List Char) → List (List Char)
  | [] => []
  | s :: done => if isDrive s then s :: done else done

/-- Work off segments behind those that are `done`, which come in reverse. A dot at the end
leads to the folder itself. -/
def walk (done : List (List Char)) : List (List Char) → List (List Char)
  | [] => done.reverse
  | s :: rest =>
    let folder (done : List (List Char)) := if rest.isEmpty then [] :: done else done
    if plainDots s = ['.', '.'] then walk (folder (leave done)) rest
    else if plainDots s = ['.'] then walk (folder done) rest
    else walk (Text.percentEncode keepsInPath s :: done) rest

/-- The segments of a text that begins in the folder of the path `base`. -/
def segmentsFrom (base : List (List Char)) (cs : List Char) : List (List Char) :=
  walk base.dropLast.reverse (Text.pieces '/' (cs.map fun c => if isSlash c then '/' else c))

/-! ## Reading -/

/-- The address at a host whose path, query and fragment a text gives; a path without a slash in
front begins in the folder of `base`, and no path is `base` itself. -/
def atHost (transport : Transport) (host : String) (base : List (List Char)) (cs : List Char) :
    Url :=
  let (cs, fragment) := match Text.cut? '#' cs with
    | some (cs, fragment) => (cs, some fragment)
    | none => (cs, none)
  let (path, query) := match Text.cut? '?' cs with
    | some (path, query) => (path, some query)
    | none => (cs, none)
  { transport := transport
    host := host
    path := match path with
      | [] => base
      | c :: rest => if isSlash c then segmentsFrom [] rest else segmentsFrom base path
    query := query.map (Text.percentEncode keepsInQuery)
    fragment := fragment.map (Text.percentEncode keepsInFragment) }

/-- The address that names a host with a port, and then what `rest` says. A port ends where a
path, a query or a fragment begins. -/
def behindPort? (host rest : String) : Option Url :=
  let cs := cleaned rest.toList
  if cs.head?.all endsHost then some (atHost .plain host [[]] cs) else none

/-- Whether a character may stand in the name of a host. -/
def isHostChar (c : Char) : Bool :=
  ' ' < c && c ≠ '\x7f' && c ∉ ['%', '<', '>', '@', '[', ']', '^', '|']

/-- A host, and its port where that does not go without saying, if a text names them. -/
def host? (transport : Transport) (cs : List Char) : Option String :=
  let (name, port) := (Text.cut? ':' cs).getD (cs, [])
  let name := name.map Char.toLower
  if name.isEmpty || !name.all isHostChar then none
  else if port.isEmpty then some (String.ofList name)
  else (Text.decimal? port).bind fun n =>
    if n = transport.port then some (String.ofList name)
    else if n < 65536 then some (String.ofList (name ++ ':' :: Text.showNat n))
    else none

/-- How an address says that its host is spoken to, and what it says behind the colon. -/
def transport? (cs : List Char) : Option (Transport × List Char) :=
  [Transport.plain, Transport.secure].findSome? fun t =>
    let front := t.word.toList ++ [':']
    if (cs.take front.length).map Char.toLower = front then some (t, cs.drop front.length) else none

/-- The address to which a location leads: at a host that it names, or at the same one. A location
that names neither path nor query keeps both. -/
def follow? (u : Url) (location : String) : Option Url :=
  let cs := cleaned (location.toList.dropWhile (· ≤ ' '))
  let (transport, cs) := (transport? cs).getD (u.transport, cs)
  if transport ≠ u.transport || (cs.take 2).length = 2 && (cs.take 2).all isSlash then
    let cs := cs.dropWhile isSlash
    (host? transport (cs.takeWhile (!endsHost ·))).map fun host =>
      atHost transport host [[]] (cs.dropWhile (!endsHost ·))
  else
    let v := atHost transport u.host u.path cs
    match cs with
    | [] => some { v with query := u.query }
    | '#' :: _ => some { v with query := u.query }
    | _ => some v

/-! ## Writing -/

/-- Path and query. -/
def target (u : Url) : String :=
  String.ofList ('/' :: ['/'].intercalate u.path ++ (u.query.map ('?' :: ·)).getD [])

/-- The whole address. -/
def text (u : Url) : String :=
  u.transport.word ++ "://" ++ u.host ++ u.target ++
    String.ofList ((u.fragment.map ('#' :: ·)).getD [])

end Url

end IngressBalancer
