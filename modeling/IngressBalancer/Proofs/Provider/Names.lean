import IngressBalancer.Proofs.Provider.Inventory
import IngressBalancer.Provider.Reconcile
/-!
# Inventories by name

What an attempt plans is one of six changes, each for a resource and a finding
of its own (`Change.Planned`). Whatever attempts and others do to a provider
(`Provider.Reaches`), each load balancer stands under the name in its spec,
with the address of that name (`Inventory.Named`). So an address leads to one
load balancer, whoever made it, and an attempt that succeeds for a spec leaves
a load balancer with this spec under its name (`Provider.stands_of_reconcile`).
-/

namespace IngressBalancer

/-- The inventories that an empty one may turn into: by changes, each decided on at some inventory
before, and by load balancers created and removed from outside. -/
inductive Provider.Reaches (region : String) : Inventory → Prop
  | empty : Reaches region ∅
  | change {seen inv : Inventory} (hseen : Reaches region seen) (h : Reaches region inv)
    (r : Resource) : Reaches region ((Change.plan region seen r).applyTo inv)
  | insert {inv : Inventory} (h : Reaches region inv) (spec : Spec) :
    Reaches region (inv.insertExternal region spec)
  | remove {inv : Inventory} (h : Reaches region inv) (name : String) :
    Reaches region (inv.erase name)

/-- Whether a load balancer has the address of the name in its spec. -/
def LoadBalancer.IsNamed (region : String) (lb : LoadBalancer) : Prop :=
  lb.arn = Provider.arn region lb.spec.loadBalancerName

/-- Whether each load balancer stands under the name in its spec, with the address of that. -/
def Inventory.Named (region : String) (inv : Inventory) : Prop :=
  ∀ key lb, inv.get? key = some lb → key = lb.spec.loadBalancerName ∧ lb.IsNamed region

variable {region key : String} {inv seen : Inventory} {lb lb' : LoadBalancer} {r r' : Resource}
variable {spec : Spec} {found : Option LoadBalancer} {c : Change}

namespace Change

/-- The load balancer that a change puts, if it does. -/
def puts? : Change → Option LoadBalancer
  | .modify lb | .create lb => some lb
  | .keep _ | .refuse .. | .delete _ | .settle => none

/-- What may be planned for a resource at an inventory, by what is found behind its handle and by
what it desires. -/
inductive Planned (region : String) (inv : Inventory) (r : Resource) : Change → Prop
  | keep {lb : LoadBalancer} (hfound : lookUp inv r = some lb) (hd : r.desired = some lb.spec) :
    Planned region inv r (.keep lb)
  | refuse {lb : LoadBalancer} {spec : Spec} (hfound : lookUp inv r = some lb)
    (hd : r.desired = some spec) (hname : lb.spec.loadBalancerName ≠ spec.loadBalancerName) :
    Planned region inv r (.refuse lb.spec.loadBalancerName spec.loadBalancerName)
  | modify {lb : LoadBalancer} {spec : Spec} (hfound : lookUp inv r = some lb)
    (hd : r.desired = some spec) (hname : lb.spec.loadBalancerName = spec.loadBalancerName)
    (hchanged : lb.spec ≠ spec) : Planned region inv r (.modify { lb with spec := spec })
  | create {spec : Spec} (hfound : lookUp inv r = none) (hd : r.desired = some spec) :
    Planned region inv r (.create (Provider.provision region spec))
  | delete {lb : LoadBalancer} (hfound : lookUp inv r = some lb) (hd : r.desired = none) :
    Planned region inv r (.delete lb)
  | settle (hfound : lookUp inv r = none) (hd : r.desired = none) : Planned region inv r .settle

/-- **What is planned is one of these.** -/
theorem planned (region : String) (inv : Inventory) (r : Resource) :
    Planned region inv r (plan region inv r) := by
  unfold plan decide
  split
  · next spec lb hd hfound =>
    split
    · next hsame => exact .keep hfound (hsame ▸ hd)
    · next hchanged =>
      split
      · next hname => exact .refuse hfound hd hname
      · next hname => exact .modify hfound hd (not_not.1 hname) hchanged
  · next spec hd hfound => exact .create hfound hd
  · next lb hd hfound => exact .delete hfound hd
  · next hd hfound => exact .settle hfound hd

theorem planned_of_eq (h : plan region inv r = c) : Planned region inv r c :=
  h ▸ planned region inv r

/-- What is found with another spec of the same name is modified. -/
theorem plan_eq_modify {lb : LoadBalancer} (hfound : lookUp inv r = some lb)
    (hd : r.desired = some spec) (hname : lb.spec.loadBalancerName = spec.loadBalancerName)
    (hchanged : lb.spec ≠ spec) : plan region inv r = .modify { lb with spec := spec } := by
  simp only [plan, decide, hfound, hd]
  rw [if_neg hchanged, if_neg (not_not.2 hname)]

/-- **What stands after a change was put by it**, under its name, or stood there before. -/
theorem puts_or_was (h : (c.applyTo inv).get? key = some lb) :
    (c.puts? = some lb ∧ key = lb.spec.loadBalancerName) ∨ inv.get? key = some lb := by
  have hput : ∀ new : LoadBalancer,
      (inv.insert new.spec.loadBalancerName new).get? key = some lb →
        (some new = some lb ∧ key = lb.spec.loadBalancerName) ∨ inv.get? key = some lb := by
    intro new hnew
    rw [SortedMap.get?_insert_eq] at hnew
    split at hnew
    · next hkey =>
      cases hnew
      exact .inl ⟨rfl, hkey⟩
    · exact .inr hnew
  cases c with
  | modify new => exact hput new h
  | create new => exact hput new h
  | delete gone =>
    rw [applyTo, SortedMap.get?_erase_eq] at h
    split at h
    · cases h
    · exact .inr h
  | keep | refuse | settle => exact .inr h

/-- A change that puts no ill-named load balancer leaves none. -/
theorem named_applyTo (hinv : inv.Named region)
    (hc : ∀ lb, c.puts? = some lb → lb.IsNamed region) : (c.applyTo inv).Named region := by
  intro key lb hlb
  rcases puts_or_was hlb with ⟨hputs, hkey⟩ | hwas
  · exact ⟨hkey, hc lb hputs⟩
  · exact hinv key lb hwas

end Change

namespace Inventory

/-- What an address leads to stands somewhere. -/
theorem exists_of_findByArn {arn : String} (h : inv.findByArn arn = some lb) :
    lb.arn = arn ∧ ∃ key, inv.get? key = some lb :=
  ⟨by simpa using List.find?_some h, SortedMap.mem_values_iff.1 (List.mem_of_find?_eq_some h)⟩

/-- So does what an attempt finds by its handle. -/
theorem exists_of_lookUp (h : Change.lookUp inv r = some lb) :
    r.liveHandle?.map (·.arn) = some lb.arn ∧ ∃ key, inv.get? key = some lb := by
  obtain ⟨handle, hhandle, hfind⟩ := Option.bind_eq_some_iff.1 h
  obtain ⟨harn, hkey⟩ := exists_of_findByArn hfind
  exact ⟨by rw [hhandle, Option.map_some, harn], hkey⟩

/-- What an attempt decides to delete is what its handle leads to. -/
theorem arn_of_plan_delete (h : Change.plan region inv r = .delete lb) :
    r.liveHandle?.map (·.arn) = some lb.arn := by
  cases Change.planned_of_eq h with
  | delete hfound _ => exact (exists_of_lookUp hfound).1

/-- A load balancer that is put where load balancers go by their names is named, too: a modified one
keeps name and address. -/
theorem Named.isNamed_of_puts (hinv : inv.Named region)
    (h : (Change.plan region inv r).puts? = some lb) : lb.IsNamed region := by
  have hplanned := Change.planned region inv r
  generalize Change.plan region inv r = c at h hplanned
  cases hplanned with
  | @modify found _ hfound _ hname _ =>
    cases h
    obtain ⟨-, key, hkey⟩ := exists_of_lookUp hfound
    have hnamed : found.arn = Provider.arn region found.spec.loadBalancerName :=
      (hinv key found hkey).2
    rwa [hname] at hnamed
  | create => cases h; rfl
  | keep | refuse | delete | settle => cases h

/-- **Two load balancers with one address are one.** -/
theorem Named.eq_of_arn (hinv : inv.Named region) {key' : String} (h : inv.get? key = some lb)
    (h' : inv.get? key' = some lb') (harn : lb.arn = lb'.arn) : lb = lb' := by
  obtain ⟨hkey, hnamed⟩ := hinv key lb h
  obtain ⟨hkey', hnamed'⟩ := hinv key' lb' h'
  have hsame : lb.spec.loadBalancerName = lb'.spec.loadBalancerName :=
    Provider.arn_injective (hnamed.symm.trans (harn.trans hnamed'))
  rw [hkey, hsame, ← hkey', h'] at h
  exact (Option.some.inj h).symm

end Inventory

namespace Provider

/-- **Whatever becomes of a provider, its load balancers go by their names.** -/
theorem Reaches.named (h : Reaches region inv) : inv.Named region := by
  induction h with
  | empty =>
    rintro key lb ⟨⟩
  | change _ _ r ihseen ih =>
    exact Change.named_applyTo ih fun lb hlb => ihseen.isNamed_of_puts hlb
  | @insert inv _ spec ih =>
    exact Change.named_applyTo (c := .create (provision region spec)) ih fun lb hlb => by
      cases hlb
      rfl
  | remove _ name ih =>
    intro key lb hlb
    rw [SortedMap.get?_erase_eq] at hlb
    split at hlb
    · cases hlb
    · exact ih key lb hlb

/-- **An attempt that succeeds for a spec leaves a load balancer with this spec under its name**,
and the handle of that. -/
theorem stands_of_reconcile (hinv : inv.Named region) (hr : r.desired = some spec)
    (hok : (reconcile region inv r).outcome = .ok r') :
    ∃ lb, (reconcile region inv r).inventory.get? spec.loadBalancerName = some lb ∧
      lb.spec = spec ∧ r'.handle = some lb.handle := by
  have hplanned := Change.planned region inv r
  simp only [reconcile] at hok ⊢
  generalize Change.plan region inv r = c at hok hplanned
  cases hplanned with
  | @keep lb hfound hd =>
    cases hr.symm.trans hd
    cases hok
    obtain ⟨-, key, hkey⟩ := Inventory.exists_of_lookUp hfound
    obtain ⟨rfl, -⟩ := hinv key lb hkey
    exact ⟨lb, hkey, rfl, rfl⟩
  | modify _ hd =>
    cases hr.symm.trans hd
    cases hok
    exact ⟨_, SortedMap.get?_insert_self, rfl, rfl⟩
  | create _ hd =>
    cases hr.symm.trans hd
    cases hok
    exact ⟨_, SortedMap.get?_insert_self, rfl, rfl⟩
  | refuse => cases hok
  | delete _ hd | settle _ hd => cases hr.symm.trans hd

end Provider

end IngressBalancer
