import IngressBalancer.Text.Digits
/-!
# Steady messages

A message may hold two things that say nothing about the controller: the
number under which a task ran, and what a reader of JSON thought of a text
that it refused. `steady` leaves out both, so that equal runs leave equal
messages.
-/

namespace IngressBalancer

namespace Text

/-- What stands behind `front` in a text that begins with it. -/
def behind? (front : List Char) (cs : List Char) : Option (List Char) :=
  if front.isPrefixOf cs then some (cs.drop front.length) else none

/-- What stands behind the number of a task, where a text begins with one that panicked. -/
def behindTask? (cs : List Char) : Option (List Char) :=
  (behind? "task ".toList cs).bind fun number =>
    let rest := number.dropWhile isDigit
    if (number.takeWhile isDigit).isEmpty then none else behind? " panicked".toList rest

/-- A text with a sign in the stead of every number of a task, cut where a reader of JSON has its
say; of `skip` characters it is known that they follow a task. -/
def steadyFrom : Nat → List Char → List Char
  | _, [] => []
  | skip + 1, _ :: cs => steadyFrom skip cs
  | 0, c :: cs =>
    match behindTask? (c :: cs) with
    | some rest => "task # panicked".toList ++ steadyFrom (cs.length - rest.length) cs
    | none =>
      if "malformed JSON: ".toList.isPrefixOf (c :: cs) then "malformed JSON".toList
      else c :: steadyFrom 0 cs

/-- The steady part of a message. -/
def steady (message : String) : String := String.ofList (steadyFrom 0 message.toList)

end Text

end IngressBalancer
