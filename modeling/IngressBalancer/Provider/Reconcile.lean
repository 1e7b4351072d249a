import IngressBalancer.Event
import IngressBalancer.Provider.Inventory
/-!
# Reconciling one resource

One attempt to bring the provider to what a resource desires, in three
steps: the load balancer of the resource's handle is looked up, and a change
is decided (`Change.plan`); the change is made to the inventory; and it is
reported. The first two steps touch the inventory, and other attempts may
touch it in between. `Provider.reconcile` takes the steps in a row.
-/

namespace IngressBalancer

/-- What an attempt decides to do. -/
inductive Change
  /-- The load balancer is as desired. -/
  | keep (lb : LoadBalancer)
  /-- The load balancer has another name, and names cannot change. -/
  | refuse (held wanted : String)
  | modify (lb : LoadBalancer)
  | create (lb : LoadBalancer)
  | delete (lb : LoadBalancer)
  /-- Nothing is desired and nothing is there. -/
  | settle
deriving DecidableEq, Repr

namespace Change

/-- The load balancer of a resource's live handle. -/
def lookUp (inv : Inventory) (r : Resource) : Option LoadBalancer :=
  r.liveHandle?.bind fun h => inv.findByArn h.arn

/-- The change that a resource asks for, given the load balancer of its handle. A modified load
balancer keeps its address. -/
def decide (region : String) (r : Resource) (found : Option LoadBalancer) : Change :=
  match r.desired, found with
  | some spec, some lb =>
    if lb.spec = spec then .keep lb
    else if lb.spec.loadBalancerName ≠ spec.loadBalancerName then
      .refuse lb.spec.loadBalancerName spec.loadBalancerName
    else .modify { lb with spec := spec }
  | some spec, none => .create (Provider.provision region spec)
  | none, some lb => .delete lb
  | none, none => .settle

/-- The change that a resource asks for at an inventory. -/
def plan (region : String) (inv : Inventory) (r : Resource) : Change :=
  decide region r (lookUp inv r)

/-- The inventory after a change. -/
def applyTo (c : Change) (inv : Inventory) : Inventory :=
  match c with
  | .modify lb | .create lb => inv.insert lb.spec.loadBalancerName lb
  | .delete lb => inv.erase lb.spec.loadBalancerName
  | .keep _ | .refuse .. | .settle => inv

/-- The resource after a change, or why there is none. -/
def outcome (c : Change) (r : Resource) : Except Failure Resource :=
  match c with
  | .keep lb | .modify lb | .create lb => .ok { r with handle := some lb.handle }
  | .refuse held wanted =>
    .error (.reconcile r.id ("load balancer " ++ held ++ " cannot be renamed to " ++ wanted))
  | .delete lb => .ok { r with handle := some { lb.handle with deleted := true } }
  | .settle => .ok { r with handle := r.handle.map fun h => { h with deleted := true } }

/-- The report about a change. -/
def event? (c : Change) (id : ResourceId) : Option Event :=
  let report (reason verb : String) (lb : LoadBalancer) : Event :=
    ⟨id, .normal, reason, lb.spec.loadBalancerName ++ " " ++ verb⟩
  match c with
  | .create lb => some (report "CREATE" "created" lb)
  | .modify lb => some (report "MODIFY" "modified" lb)
  | .delete lb => some (report "DELETE" "deleted" lb)
  | .keep _ | .refuse .. | .settle => none

end Change

/-- What an attempt leaves behind. -/
structure Reconciled where
  inventory : Inventory
  outcome : Except Failure Resource
  event? : Option Event

/-- One attempt that nothing interrupts. -/
def Provider.reconcile (region : String) (inv : Inventory) (r : Resource) : Reconciled :=
  let change := Change.plan region inv r
  ⟨change.applyTo inv, change.outcome r, change.event? r.id⟩

end IngressBalancer
