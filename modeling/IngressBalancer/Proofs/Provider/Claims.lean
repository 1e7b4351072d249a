import IngressBalancer.Proofs.Provider.Names
/-!
# Who claims an address

A resource claims the addresses that it has to do with: that of its live
handle, and that of the name in the spec that it desires (`Resource.Claims`).
Where load balancers go by their names, a change that is planned for a
resource leaves alone what stands under a name whose address the resource
does not claim (`Change.get?_applyTo_plan`). What becomes of the load balancer
of its own handle is certain: where nothing is desired, it is gone
(`Provider.gone_of_reconcile`), and else it still stands where it stood
(`Provider.kept_of_reconcile`).
-/

namespace IngressBalancer

variable {region arn name key : String} {inv seen : Inventory} {lb : LoadBalancer}
variable {r : Resource} {c : Change}

/-- Whether a resource has to do with an address: its live handle has it, or the name in the spec
that it desires. -/
def Resource.Claims (region : String) (r : Resource) (arn : String) : Prop :=
  r.liveHandle?.map (·.arn) = some arn ∨
    r.desired.map (Provider.arn region ·.loadBalancerName) = some arn

instance : Decidable (r.Claims region arn) := inferInstanceAs (Decidable (_ ∨ _))

namespace Inventory.Named

variable (h : inv.Named region)
include h

/-- **The address of a name leads to what stands under it**, whoever put it there. -/
theorem findByArn_arn (name : String) :
    inv.findByArn (Provider.arn region name) = inv.get? name := by
  cases hget : inv.get? name with
  | some lb =>
    obtain ⟨hname, hnamed⟩ := h name lb hget
    have harn : lb.arn = Provider.arn region name := hname ▸ hnamed
    obtain ⟨found, hfound⟩ : ∃ found, inv.findByArn (Provider.arn region name) = some found := by
      refine Option.isSome_iff_exists.1 (List.find?_isSome.2 ⟨lb, ?_, decide_eq_true harn⟩)
      exact SortedMap.mem_values_iff.2 ⟨name, hget⟩
    obtain ⟨harn', key, hkey⟩ := exists_of_findByArn hfound
    rw [hfound, h.eq_of_arn hkey hget (harn'.trans harn.symm)]
  | none =>
    refine Option.eq_none_iff_forall_not_mem.2 fun lb hlb => ?_
    obtain ⟨harn, key, hkey⟩ := exists_of_findByArn hlb
    obtain ⟨rfl, hnamed⟩ := h key lb hkey
    have hname : lb.spec.loadBalancerName = name := Provider.arn_injective (hnamed.symm.trans harn)
    rw [hname, hget] at hkey
    cases hkey

/-- So does the handle of what stands there. -/
theorem lookUp_eq (hlb : inv.get? key = some lb) (hh : r.handle = some lb.handle) :
    Change.lookUp inv r = some lb := by
  have hlive : r.liveHandle? = some lb.handle := by
    rw [Resource.liveHandle?, hh]
    rfl
  obtain ⟨hkey, hnamed⟩ := h key lb hlb
  have harn : lb.handle.arn = Provider.arn region key := hkey ▸ hnamed
  rw [Change.lookUp, hlive, Option.bind_some, harn, h.findByArn_arn, hlb]

/-- No other address leads anywhere. -/
theorem arn_of_findByArn (hlb : inv.findByArn arn = some lb) :
    Provider.arn region lb.spec.loadBalancerName = arn := by
  obtain ⟨harn, key, hkey⟩ := exists_of_findByArn hlb
  exact (h key lb hkey).2.symm.trans harn

end Inventory.Named

namespace Change

/-- The name under which a change puts or deletes a load balancer, if it does. -/
def touches? : Change → Option String
  | .modify lb | .create lb | .delete lb => some lb.spec.loadBalancerName
  | .keep _ | .refuse .. | .settle => none

/-- A change leaves what stands under other names. -/
theorem get?_applyTo_of_ne (h : c.touches? ≠ some key) :
    (c.applyTo inv).get? key = inv.get? key := by
  cases c with
  | modify lb => exact SortedMap.get?_insert_of_ne fun hkey => h (congrArg some hkey.symm)
  | create lb => exact SortedMap.get?_insert_of_ne fun hkey => h (congrArg some hkey.symm)
  | delete lb => exact SortedMap.get?_erase_of_ne fun hkey => h (congrArg some hkey.symm)
  | _ => rfl

/-- Whether an attempt has to do with a name: it is that of what the attempt finds, or the one that
the resource asks for. -/
def Concerns (inv : Inventory) (r : Resource) (name : String) : Prop :=
  (lookUp inv r).map (·.spec.loadBalancerName) = some name ∨
    r.desired.map (·.loadBalancerName) = some name

/-- **A change touches what its attempt has to do with, and nothing else.** -/
theorem concerns_of_touches (h : (plan region seen r).touches? = some name) :
    Concerns seen r name := by
  have hplanned := planned region seen r
  generalize plan region seen r = c at h hplanned
  cases hplanned with
  | modify _ hd | create _ hd =>
    cases h
    exact .inr (by rw [hd]; rfl)
  | delete hfound =>
    cases h
    exact .inl (by rw [hfound]; rfl)
  | keep | refuse | settle => cases h

/-- **A resource claims the address of what its change touches.** -/
theorem claims_of_touches (hseen : seen.Named region)
    (h : (plan region seen r).touches? = some name) :
    r.Claims region (Provider.arn region name) := by
  rcases concerns_of_touches h with hfound | hdesired
  · obtain ⟨lb, hlb, rfl⟩ := Option.map_eq_some_iff.1 hfound
    obtain ⟨harn, key, hkey⟩ := Inventory.exists_of_lookUp hlb
    exact .inl (by rw [harn, (hseen key lb hkey).2])
  · obtain ⟨spec, hspec, rfl⟩ := Option.map_eq_some_iff.1 hdesired
    exact .inr (by rw [hspec, Option.map_some])

/-- So it leaves what stands under a name whose address the resource does not claim. -/
theorem get?_applyTo_plan (hseen : seen.Named region)
    (h : ¬ r.Claims region (Provider.arn region key)) :
    ((plan region seen r).applyTo inv).get? key = inv.get? key :=
  get?_applyTo_of_ne fun htouches => h (claims_of_touches hseen htouches)

end Change

/-- **What has the same load balancers under the names with an address has the same at it.** -/
theorem Inventory.findByArn_congr {inv' : Inventory} (h : inv.Named region) (h' : inv'.Named region)
    (hsame : ∀ name, Provider.arn region name = arn → inv'.get? name = inv.get? name) :
    inv'.findByArn arn = inv.findByArn arn := by
  by_cases hname : ∃ name, Provider.arn region name = arn
  · obtain ⟨name, rfl⟩ := hname
    rw [h.findByArn_arn, h'.findByArn_arn, hsame name rfl]
  · have hnone : ∀ {inv : Inventory}, inv.Named region → inv.findByArn arn = none := fun h =>
      Option.eq_none_iff_forall_not_mem.2 fun lb hlb => hname ⟨_, h.arn_of_findByArn hlb⟩
    rw [hnone h, hnone h']

/-! ## The load balancer of a handle -/

variable {h : Handle} {r' : Resource}

namespace Change

section Found

variable (hh : r.liveHandle? = some h) (hlb : seen.findByArn h.arn = some lb)
include hh hlb

/-- What asks for nothing has the load balancer of its handle deleted. -/
theorem plan_of_removal (hd : r.desired = none) : plan region seen r = .delete lb := by
  simp only [plan, decide, lookUp, hd, hh, Option.bind_some, hlb]

/-- What asks for a spec has it kept, or modified under its name; or there is a refusal. -/
theorem plan_cases_of_found (region : String) (hd : r.desired ≠ none) : plan region seen r = .keep lb ∨
    (∃ spec, spec.loadBalancerName = lb.spec.loadBalancerName ∧
      plan region seen r = .modify { lb with spec := spec }) ∨
    ∃ other, plan region seen r = .refuse lb.spec.loadBalancerName other := by
  obtain ⟨spec, hspec⟩ := Option.ne_none_iff_exists'.1 hd
  simp only [plan, decide, lookUp, hspec, hh, Option.bind_some, hlb]
  split
  · exact .inl rfl
  · split
    · exact .inr (.inr ⟨_, rfl⟩)
    · next hname => exact .inr (.inl ⟨spec, (not_not.1 hname).symm, rfl⟩)

/-- **So what it has in the end is a live handle with the same address**, if it succeeds. -/
theorem arn_of_outcome_plan (hd : r.desired ≠ none)
    (ho : (plan region seen r).outcome r = .ok r') : r'.liveHandle?.map (·.arn) = some h.arn := by
  have harn : lb.arn = h.arn := (Inventory.exists_of_findByArn hlb).1
  rcases plan_cases_of_found hh hlb region hd with hc | ⟨spec, -, hc⟩ | ⟨other, hc⟩ <;>
    rw [hc] at ho <;> cases ho <;> exact congrArg some harn

end Found

/-- Where load balancers go by their names, one that is deleted is gone from its address. -/
theorem findByArn_delete (hinv : inv.Named region) (hlb : lb.IsNamed region) :
    ((delete lb).applyTo inv).findByArn lb.arn = none := by
  have hnamed : ((delete lb).applyTo inv).Named region :=
    named_applyTo hinv fun _ hputs => by cases hputs
  rw [show lb.arn = _ from hlb, hnamed.findByArn_arn]
  exact SortedMap.get?_erase_self

end Change

namespace Provider

section Reconcile

variable (hinv : Reaches region inv) (hh : r.liveHandle? = some h)
include hinv hh

/-- **An attempt that desires nothing leaves nothing at the address of its handle.** -/
theorem gone_of_reconcile (hd : r.desired = none) :
    (reconcile region inv r).inventory.findByArn h.arn = none := by
  cases hlb : inv.findByArn h.arn with
  | none =>
    have hplan : Change.plan region inv r = .settle := by
      simp only [Change.plan, Change.decide, Change.lookUp, hd, hh, Option.bind_some, hlb]
    rw [reconcile, hplan]
    exact hlb
  | some lb =>
    obtain ⟨harn, key, hkey⟩ := Inventory.exists_of_findByArn hlb
    rw [reconcile, Change.plan_of_removal hh hlb hd, ← harn]
    exact Change.findByArn_delete hinv.named (hinv.named key lb hkey).2

/-- **One that desires a spec leaves the load balancer of its handle standing.** -/
theorem kept_of_reconcile (hd : r.desired ≠ none) (hlb : inv.findByArn h.arn ≠ none) :
    (reconcile region inv r).inventory.findByArn h.arn ≠ none := by
  obtain ⟨lb, hlb⟩ := Option.ne_none_iff_exists'.1 hlb
  rcases Change.plan_cases_of_found hh hlb region hd with hc | ⟨spec, hname, hc⟩ |
    ⟨other, hc⟩
  · rw [reconcile, hc]
    exact hlb ▸ Option.some_ne_none lb
  · have hnamed : ((Change.plan region inv r).applyTo inv).Named region :=
      (Reaches.change hinv hinv r).named
    rw [hc] at hnamed
    rw [reconcile, hc, ← hinv.named.arn_of_findByArn hlb, hnamed.findByArn_arn, Change.applyTo,
      hname, SortedMap.get?_insert_self]
    exact Option.some_ne_none _
  · rw [reconcile, hc]
    exact hlb ▸ Option.some_ne_none lb

end Reconcile

end Provider

end IngressBalancer
