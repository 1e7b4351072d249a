import IngressBalancer.Address.Url
import IngressBalancer.Health.HttpStatus
import IngressBalancer.Program.About
/-!
# Probes over HTTP

An endpoint passes when it answers a `HEAD` request with a status below 400.
Where an answer sends the client elsewhere it is followed, ten times at
most. What the probe says about a failure is a chain of causes, the
outermost first.
-/

namespace IngressBalancer

namespace HttpProbe

/-- A place on a host, as it was given. -/
structure Place where
  /-- The host and its port. -/
  host : String
  /-- What stands behind the port. -/
  rest : String
deriving DecidableEq, Repr

/-- The address as it was given. -/
def Place.text (p : Place) : String := "http://" ++ p.host ++ p.rest

/-- An answer to one request. -/
structure Reply where
  status : Nat
  location : Option String
deriving DecidableEq, Repr

/-- What is at the other end. -/
inductive Peer
  /-- No connection comes about. -/
  | unreachable (reason : String)
  /-- One answer for each connection, in this order. -/
  | answering (replies : List Reply)

/-- A request as the peer sees it. -/
structure Request where
  line : String
  userAgent : String
deriving DecidableEq, Repr

/-- The request for an address. -/
def request (u : Url) : Request where
  line := "HEAD " ++ u.target ++ " HTTP/1.1"
  userAgent := Program.name ++ "/" ++ Program.version

/-- What is said where no connection comes about. -/
def noConnection (u : Url) (reason : String) : List String :=
  ["error sending request for url (" ++ u.text ++ ")", "client error (Connect)",
    "tcp connect error", reason]

/-- What is said where redirects do not end. -/
def tooManyRedirects (u : Url) : List String :=
  ["error following redirect for url (" ++ u.text ++ ")", "too many redirects"]

/-- What is said of a place that is no address. -/
def noAddress : List String := ["builder error", "invalid port number"]

/-- The place to which a reply sends the client. -/
def Reply.next? (reply : Reply) (u : Url) : Option Url :=
  if HttpStatus.isRedirect reply.status then reply.location.bind u.follow? else none

/-- Send a request, and follow so many redirects. Only the host of `start` answers. -/
def send (start : Place) : Nat → Url → List Reply → Except (List String) Unit × List Request
  | _, u, [] => (.error (noConnection u "Connection refused (os error 111)"), [])
  | left, u, reply :: replies =>
    if u.host ≠ start.host then (.error (noConnection u "Connection refused (os error 111)"), [])
    else
      match reply.next? u, left with
      | none, _ =>
        (if HttpStatus.isFine reply.status then .ok ()
          else .error [start.text ++ " returned HTTP " ++ HttpStatus.text reply.status],
          [request u])
      | some v, 0 => (.error (tooManyRedirects v), [request u])
      | some v, left + 1 =>
        let (result, seen) := send start left v replies
        (result, request u :: seen)

/-- Probe a place: the result, and the requests that reached the peer. -/
def probe (peer : Peer) (p : Place) : Except (List String) Unit × List Request :=
  match Url.behindPort? p.host p.rest with
  | none => (.error noAddress, [])
  | some u =>
    match peer with
    | .unreachable reason => (.error (noConnection u reason), [])
    | .answering replies => send p 10 u replies

end HttpProbe

end IngressBalancer
