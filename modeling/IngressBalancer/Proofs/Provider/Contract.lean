import IngressBalancer.Proofs.Provider.Claims
import IngressBalancer.World.Sample
/-!
# What reconciling promises

An attempt that nothing interrupts, at a provider with any history
(`Provider.Contract`): what asks for a load balancer has it, with the handle
of what stands under the name; what asks for none has none; a failure leaves
everything as it was; other names are left alone; and once an attempt has
succeeded, another one for what it has left changes and reports nothing. Each
change does its part of this (`Change.outcome_eq`,
`Provider.kept_of_stands`, `Provider.settled_of_gone`), and the whole is
`Provider.meets_contract`.
-/

namespace IngressBalancer

variable {region : String} {inv : Inventory} {r r' : Resource} {lb : LoadBalancer} {c : Change}

namespace Change

/-- The resource of an attempt as a change leaves it; a refusal writes nothing. -/
def leave (c : Change) (r : Resource) : Resource :=
  match c with
  | .keep lb | .modify lb | .create lb => { r with handle := some lb.handle }
  | .refuse .. => r
  | .delete lb => { r with handle := some { lb.handle with deleted := true } }
  | .settle => { r with handle := r.handle.map fun h => { h with deleted := true } }

/-- Whether a change is one that is refused. -/
def IsRefusal (c : Change) : Prop := ∃ held wanted, c = .refuse held wanted

/-- **An attempt succeeds with what its change leaves**, or its change is refused. -/
theorem outcome_eq (c : Change) (r : Resource) :
    c.outcome r = .ok (c.leave r) ∨ c.IsRefusal ∧ ∃ e, c.outcome r = .error e := by
  cases c with
  | refuse held wanted => exact .inr ⟨⟨held, wanted, rfl⟩, _, rfl⟩
  | _ => exact .inl rfl

theorem eq_leave_of_outcome (h : c.outcome r = .ok r') : r' = c.leave r := by
  rcases outcome_eq c r with hok | ⟨-, e, herror⟩
  · exact Except.ok.inj (h.symm.trans hok)
  · rw [herror] at h
    cases h

/-- A refusal touches nothing. -/
theorem IsRefusal.spares (h : c.IsRefusal) (inv : Inventory) (r : Resource) :
    c.applyTo inv = inv ∧ c.leave r = r := by
  obtain ⟨held, wanted, rfl⟩ := h
  exact ⟨rfl, rfl⟩

/-- A change writes to the handle alone. -/
theorem leave_frame (c : Change) (r : Resource) :
    (c.leave r).id = r.id ∧ (c.leave r).desired = r.desired := by
  cases c <;> exact ⟨rfl, rfl⟩

end Change

namespace Provider

/-- What an attempt for a resource is to do at an inventory: what becomes of the inventory and of
the resource, whether it succeeds, and that a second one has nothing left to do. -/
structure Contract (region : String) (inv : Inventory) (r : Resource) (inv' : Inventory)
    (r' : Resource) (outcome : Except Failure Resource) : Prop where
  /-- Each load balancer goes by its name, before and after. -/
  named : inv.Named region ∧ inv'.Named region
  /-- A success is about the resource as it was left. -/
  result : ∀ s, outcome = .ok s → s = r'
  /-- What asks for a spec has a load balancer with it, and the live handle of that. -/
  provides : outcome = .ok r' → ∀ spec, r.desired = some spec →
    ∃ lb, inv'.get? spec.loadBalancerName = some lb ∧ lb.spec = spec ∧
      r'.liveHandle? = some lb.handle
  /-- What asks for none leaves none behind its handle, and has none in the end. -/
  removes : outcome = .ok r' → r.desired = none →
    (∀ h, r.liveHandle? = some h → ∀ key lb, inv'.get? key = some lb → lb.arn ≠ h.arn) ∧
      ∀ h, r'.handle = some h → h.deleted = true
  /-- A failure changes nothing. -/
  fails : ∀ e, outcome = .error e → inv' = inv ∧ r' = r
  /-- Nothing is touched but what is found by the handle or stands under the desired name. -/
  frame : ∀ name, ¬ Change.Concerns inv r name → inv'.get? name = inv.get? name
  id : r'.id = r.id
  desired : r'.desired = r.desired
  /-- Once is enough. -/
  again : outcome = .ok r' → reconcile region inv' r' = ⟨inv', .ok r', none⟩

/-- **What has the load balancer that it asks for is kept as it is.** -/
theorem kept_of_stands (hinv : inv.Named region) {spec : Spec}
    (hlb : inv.get? spec.loadBalancerName = some lb) (hspec : lb.spec = spec)
    (hd : r.desired = some spec) (hh : r.handle = some lb.handle) :
    reconcile region inv r = ⟨inv, .ok r, none⟩ := by
  have hfound : Change.lookUp inv r = some lb := hinv.lookUp_eq hlb hh
  have hplan : Change.plan region inv r = .keep lb := by
    simp only [Change.plan, Change.decide, hd, hfound, hspec, if_true]
  obtain ⟨id, desired, handle⟩ := r
  obtain rfl : handle = some lb.handle := hh
  simp only [reconcile, hplan]
  rfl

/-- **What asks for nothing and has no live handle is left as it is.** -/
theorem settled_of_gone (hd : r.desired = none) (hh : ∀ h, r.handle = some h → h.deleted = true) :
    reconcile region inv r = ⟨inv, .ok r, none⟩ := by
  have hlive : r.liveHandle? = none := by
    rw [Resource.liveHandle?, Option.filter_eq_none_iff]
    intro h hmem
    rw [hh h hmem]
    decide
  have hplan : Change.plan region inv r = .settle := by
    simp only [Change.plan, Change.decide, Change.lookUp, hd, hlive, Option.bind_none]
  have hsame : (Change.settle.leave r) = r := by
    obtain ⟨id, desired, handle⟩ := r
    cases handle with
    | none => rfl
    | some h =>
      obtain ⟨arn, dnsName, deleted⟩ := h
      obtain rfl : deleted = true := hh _ rfl
      rfl
  simp only [reconcile, hplan]
  exact congrArg (fun s => Reconciled.mk inv (.ok s) none) hsame

/-- What asks for nothing has no live handle in the end. -/
theorem deleted_of_removal (hd : r.desired = none) :
    ∀ h, ((Change.plan region inv r).leave r).handle = some h → h.deleted = true := by
  intro h hh
  have hplanned := Change.planned region inv r
  generalize Change.plan region inv r = c at hh hplanned
  cases hplanned with
  | delete =>
    cases hh
    rfl
  | settle =>
    obtain ⟨h₀, -, rfl⟩ := Option.map_eq_some_iff.1 hh
    rfl
  | keep _ hsome | refuse _ hsome | modify _ hsome | create _ hsome => cases hd.symm.trans hsome

/-- **Reconciling keeps its promises**, whatever has become of the provider before, and whatever
the resource asks for and refers to. -/
theorem meets_contract (hinv : Reaches region inv) (r : Resource) :
    let done := reconcile region inv r
    Contract region inv r done.inventory ((Change.plan region inv r).leave r) done.outcome := by
  intro done
  have hnamed : done.inventory.Named region := (Reaches.change hinv hinv r).named
  have hleft : ∀ s, done.outcome = .ok s → s = (Change.plan region inv r).leave r :=
    fun s hs => Change.eq_leave_of_outcome hs
  obtain ⟨hid, hdesired⟩ := Change.leave_frame (Change.plan region inv r) r
  have hdeleted : r.desired = none →
      ∀ h, ((Change.plan region inv r).leave r).handle = some h → h.deleted = true :=
    deleted_of_removal
  refine
    { named := ⟨hinv.named, hnamed⟩
      result := hleft
      provides := fun hok spec hd => ?_
      removes := fun hok hd => ⟨fun h hh key lb hlb harn => ?_, hdeleted hd⟩
      fails := fun e he => ?_
      frame := fun name hname => ?_
      id := hid
      desired := hdesired
      again := fun hok => ?_ }
  · obtain ⟨lb, hlb, hspec, hh⟩ := stands_of_reconcile hinv.named hd hok
    exact ⟨lb, hlb, hspec, by rw [Resource.liveHandle?, hh]; rfl⟩
  · have hgone := gone_of_reconcile hinv hh hd
    rw [Inventory.findByArn, List.find?_eq_none] at hgone
    exact hgone lb (SortedMap.mem_values_iff.2 ⟨key, hlb⟩) (decide_eq_true harn)
  · rcases Change.outcome_eq (Change.plan region inv r) r with hok | ⟨hrefusal, -⟩
    · rw [show done.outcome = .ok _ from hok] at he
      cases he
    · exact hrefusal.spares inv r
  · exact Change.get?_applyTo_of_ne fun htouches => hname (Change.concerns_of_touches htouches)
  · cases hd : r.desired with
    | some spec =>
      obtain ⟨lb, hlb, hspec, hh⟩ := stands_of_reconcile hinv.named hd hok
      exact kept_of_stands hnamed hlb hspec (hdesired.trans hd) hh
    | none => exact settled_of_gone (hdesired.trans hd) (hdeleted hd)

/-- A resource whose handle leads to a load balancer with another name is refused the one that it
asks for, and nothing changes. -/
theorem meets_contract_renaming :
    let id : ResourceId := ⟨"default", "shop"⟩
    let spare := Sample.specFor id "prod-spare"
    let inv := (∅ : Inventory).insertExternal "us-east-1" spare
    let r : Resource := ⟨id, some (Sample.specFor id "prod-shop"),
      some (provision "us-east-1" spare).handle⟩
    Reaches "us-east-1" inv ∧ ∃ e, (reconcile "us-east-1" inv r).outcome = .error e ∧
      (reconcile "us-east-1" inv r).inventory = inv ∧
      (Change.plan "us-east-1" inv r).leave r = r := by
  intro id spare inv r
  have hinv : Reaches "us-east-1" inv := .insert .empty spare
  have hplan : Change.plan "us-east-1" inv r = .refuse "prod-spare" "prod-shop" := by
    decide +kernel
  have hfails := (meets_contract hinv r).fails _ (by rw [reconcile, hplan]; rfl)
  exact ⟨hinv, _, by rw [reconcile, hplan]; rfl, hfails⟩

end Provider

end IngressBalancer
