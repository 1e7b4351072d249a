import IngressBalancer.Provider.Reconcile
import IngressBalancer.Controller.Status
import IngressBalancer.Text.Quoted
/-!
# The provider behind faults

The provider as the controller meets it: an inventory that answers at once,
and in front of it whatever can go wrong. A fault is set for one resource
and acts in the stead of the provider, for a while or for a number of calls.
A gate holds attempts back until it is opened. Discovery and host names can
be replaced by fixed answers. Without any of these the rig is the provider
itself.
-/

namespace IngressBalancer

/-- What an attempt does when its time has come. -/
inductive Conduct
  /-- What the provider does. -/
  | provide
  | fail (failure : Failure)
  /-- Never anything. -/
  | hang
  | panic (text : String)
  /-- Succeed with the resource as it is, its handle dropped. -/
  | dropHandle
  /-- Succeed with the resource as it is, its handle marked as deleted. -/
  | markDeleted
  /-- Succeed with the resource as it is. -/
  | nothing
deriving DecidableEq, Repr

/-- The text of a task that panicked; the number of the task is left open. -/
def panicText (text : String) : String :=
  "task # panicked with message " ++ Text.quoted text

/-- What an attempt of a resource ends in; absent where that is up to the provider. -/
def Conduct.outcome? (r : Resource) : Conduct → Option (Except Failure Resource)
  | .provide => none
  | .fail failure => some (.error failure)
  | .hang => some (.error (.timeout r.id))
  | .panic text => some (.error (.aborted r.id (panicText text)))
  | .dropHandle => some (.ok { r with handle := none })
  | .markDeleted =>
    some (.ok { r with handle := r.handle.map fun h => { h with deleted := true } })
  | .nothing => some (.ok r)

/-- A fault: what the attempts of a resource do, after a delay, for so many calls. -/
structure Fault where
  conduct : Conduct
  delay : Span
  /-- How many calls are left; absent where there is no limit. -/
  calls : Option Nat
deriving DecidableEq, Repr

/-- A provider behind faults. -/
structure Rig where
  region : String
  inventory : Inventory
  faults : SortedMap ResourceId Fault
  /-- How many may pass each gate; the last one is the gate in use. -/
  gates : List Nat
  /-- What discovery answers in the stead of the provider. -/
  discovery : Option (Except Failure (List Resource))
  /-- The host names of every resource in the stead of the provider's. -/
  hostnames : Option (Except Failure (List String))

namespace Rig

/-- A provider without load balancers, and without faults. -/
def new (region : String) : Rig := ⟨region, ∅, ∅, [], none, none⟩

/-- Set or remove the fault of a resource. -/
def setFault (g : Rig) (id : ResourceId) (fault : Option Fault) : Rig :=
  { g with faults := match fault with
    | some f => g.faults.insert id f
    | none => g.faults.erase id }

/-- Put up a closed gate. -/
def hold (g : Rig) : Rig := { g with gates := g.gates ++ [0] }

/-- Let so many more pass the gate in use. One that passes makes room for the next. -/
def letPass (g : Rig) (permits : Nat) : Rig :=
  { g with gates := g.gates.modify (g.gates.length - 1) (· + permits) }

/-- Whether the gate with a number lets attempts pass. -/
def isOpen (g : Rig) (gate : Nat) : Bool := g.gates.getD gate 1 != 0

/-- The fault that a call of a resource meets, and the rig after the call. -/
def meet (g : Rig) (id : ResourceId) : Fault × Rig :=
  match g.faults.get? id with
  | none => (⟨.provide, 0, none⟩, g)
  | some f =>
    match f.calls with
    | none => (f, g)
    | some 0 => (⟨.provide, 0, none⟩, g.setFault id none)
    | some (n + 1) =>
      (f, g.setFault id (if n = 0 then none else some { f with calls := some n }))

/-- What a discovery finds. -/
def discover (g : Rig) (scope : Scope) : Except Failure (List Resource) :=
  g.discovery.getD (.ok (g.inventory.discover scope))

/-- The host names of a resource. -/
def hostnamesOf (g : Rig) : HostnameSource Failure := fun r => g.hostnames.getD (.ok r.hostnames)

end Rig

end IngressBalancer
