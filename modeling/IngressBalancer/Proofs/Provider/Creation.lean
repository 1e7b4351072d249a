import IngressBalancer.Proofs.Provider.Claims
import IngressBalancer.World.Sample
/-!
# What a load balancer was created as

Everything about a load balancer follows from the spec that it was created
with, and a modification puts another spec in its place without a new host
name. Names cannot change, but schemes can, and a host name says which scheme
it was given for (`Provider.dnsName_injective`). So what has come about by
creating, modifying, keeping and adopting is what creating it anew would give
as long as no modification changes a scheme (`Provider.Builds.isCreated`), and
an attempt that succeeds gives it exactly where what it finds has the scheme
that it asks for (`Provider.created_alike`).
-/

namespace IngressBalancer

variable {region key : String} {inv seen : Inventory} {lb found : LoadBalancer}
variable {r r' : Resource} {spec : Spec} {c : Change}

/-- Whether a load balancer is what its spec creates. -/
def LoadBalancer.IsCreated (region : String) (lb : LoadBalancer) : Prop :=
  lb = Provider.provision region lb.spec

/-- Whether the change that is planned for a resource, if it is a modification, leaves the scheme
that it finds. -/
def Change.KeepsScheme (region : String) (seen : Inventory) (r : Resource) : Prop :=
  ∀ found lb, lookUp seen r = some found → plan region seen r = .modify lb →
    lb.spec.scheme = found.spec.scheme

/-- The inventories that an empty one may turn into while no modification changes a scheme: by
changes, each decided on at some inventory before, and by load balancers created and removed from
outside. -/
inductive Provider.Builds (region : String) : Inventory → Prop
  | empty : Builds region ∅
  | change {seen inv : Inventory} (hseen : Builds region seen) (h : Builds region inv)
    (r : Resource) (hkeeps : Change.KeepsScheme region seen r) :
    Builds region ((Change.plan region seen r).applyTo inv)
  | insert {inv : Inventory} (h : Builds region inv) (spec : Spec) :
    Builds region (inv.insertExternal region spec)
  | remove {inv : Inventory} (h : Builds region inv) (name : String) :
    Builds region (inv.erase name)

namespace Provider

/-- **A host name tells the scheme.** That of an internal load balancer is the longer one. -/
theorem dnsName_injective {name : String} {s s' : Scheme}
    (h : dnsName region name s = dnsName region name s') : s = s' := by
  have hlength := congrArg String.length h
  unfold dnsName at hlength
  simp only [String.length_append] at hlength
  have hword : "internal-".length ≠ "".length := by decide
  cases s <;> cases s'
  case internal.internal | internetFacing.internetFacing => rfl
  all_goals
    dsimp only at hlength
    omega

/-- What was created with one spec is what another creates, but for the spec itself, exactly where
the scheme is the same, if the name is. -/
theorem provision_modified_iff (region : String) {old : Spec}
    (hname : old.loadBalancerName = spec.loadBalancerName) :
    { provision region old with spec := spec } = provision region spec ↔
      old.scheme = spec.scheme := by
  constructor
  · intro h
    have hdns := congrArg LoadBalancer.dnsName h
    simp only [provision, hname] at hdns
    exact dnsName_injective hdns
  · intro h
    simp only [provision, hname, h]

/-- What asks for a spec and refers to nothing gets what the spec creates. -/
theorem reconcile_anew (region : String) (r : Resource) (hd : r.desired = some spec) :
    let made := reconcile region ∅ { r with handle := none }
    made.inventory.get? spec.loadBalancerName = some (provision region spec) ∧
      made.outcome = .ok { r with handle := some (provision region spec).handle } := by
  have hplan : Change.plan region ∅ { r with handle := none } =
      .create (provision region spec) := by
    simp only [Change.plan, Change.decide, hd]
    rfl
  simp only [reconcile, hplan]
  exact ⟨SortedMap.get?_insert_self, rfl⟩

end Provider

namespace Inventory

/-- Where load balancers are what their specs create, so is what a change puts, if it keeps the
scheme of what it finds. -/
theorem isCreated_of_puts (hseen : ∀ key lb, seen.get? key = some lb → lb.IsCreated region)
    (hkeeps : Change.KeepsScheme region seen r)
    (h : (Change.plan region seen r).puts? = some lb) : lb.IsCreated region := by
  cases hplan : Change.plan region seen r with
  | modify new =>
    rw [hplan] at h
    cases h
    cases Change.planned_of_eq hplan with
    | @modify found spec hfound _ hname _ =>
      obtain ⟨-, key, hkey⟩ := exists_of_lookUp hfound
      have hcreated : found = Provider.provision region found.spec := hseen key found hkey
      have hscheme : spec.scheme = found.spec.scheme := hkeeps found _ hfound hplan
      have hsame := (Provider.provision_modified_iff region hname).2 hscheme.symm
      rw [← hcreated] at hsame
      exact hsame
  | create new =>
    rw [hplan] at h
    cases h
    cases Change.planned_of_eq hplan with
    | create => rfl
  | keep | refuse | delete | settle =>
    rw [hplan] at h
    cases h

end Inventory

namespace Provider

/-- What is built has come about somehow. -/
theorem Builds.reaches (h : Builds region inv) : Reaches region inv := by
  induction h with
  | empty => exact .empty
  | change _ _ r _ ihseen ih => exact .change ihseen ih r
  | insert _ spec ih => exact .insert ih spec
  | remove _ name ih => exact .remove ih name

/-- **As long as no modification changes a scheme, each load balancer is what its spec creates.** -/
theorem Builds.isCreated (h : Builds region inv) :
    ∀ key lb, inv.get? key = some lb → lb.IsCreated region := by
  induction h with
  | empty =>
    rintro key lb ⟨⟩
  | @change seen inv _ _ r hkeeps ihseen ih =>
    intro key lb hlb
    rcases Change.puts_or_was hlb with ⟨hputs, -⟩ | hwas
    · exact Inventory.isCreated_of_puts ihseen hkeeps hputs
    · exact ih key lb hwas
  | @insert inv _ spec ih =>
    intro key lb hlb
    rcases Change.puts_or_was (c := .create (provision region spec)) hlb with ⟨hputs, -⟩ | hwas
    · cases hputs
      rfl
    · exact ih key lb hwas
  | remove _ name ih =>
    intro key lb hlb
    rw [SortedMap.get?_erase_eq] at hlb
    split at hlb
    · cases hlb
    · exact ih key lb hlb

/-- **An attempt for a spec leaves it in what an old spec created** under the same name: that of
what it finds, or the new one itself. -/
theorem Builds.exists_old (h : Builds region inv) (hd : r.desired = some spec)
    (hok : (reconcile region inv r).outcome = .ok r') :
    ∃ old : Spec, old.loadBalancerName = spec.loadBalancerName ∧
      (old.scheme = spec.scheme ↔
        ∀ found, Change.lookUp inv r = some found → found.spec.scheme = spec.scheme) ∧
      (reconcile region inv r).inventory.get? spec.loadBalancerName =
        some { provision region old with spec := spec } ∧
      r' = { r with handle := some (provision region old).handle } := by
  have hplanned := Change.planned region inv r
  simp only [reconcile] at hok ⊢
  generalize Change.plan region inv r = c at hok hplanned
  cases hplanned with
  | @keep found hfound hkept =>
    cases hd.symm.trans hkept
    cases hok
    obtain ⟨-, key, hkey⟩ := Inventory.exists_of_lookUp hfound
    obtain ⟨rfl, -⟩ := h.reaches.named key found hkey
    have hcreated : found = provision region found.spec := h.isCreated _ found hkey
    refine ⟨found.spec, rfl, by simp [hfound], ?_, by rw [← hcreated]⟩
    rw [← hcreated]
    exact hkey
  | @modify found _ hfound hasked hname _ =>
    cases hd.symm.trans hasked
    cases hok
    obtain ⟨-, key, hkey⟩ := Inventory.exists_of_lookUp hfound
    have hcreated : found = provision region found.spec := h.isCreated key found hkey
    refine ⟨found.spec, hname, by simp [hfound], ?_, by rw [← hcreated]; rfl⟩
    rw [← hcreated]
    exact SortedMap.get?_insert_self
  | create hfound hasked =>
    cases hd.symm.trans hasked
    cases hok
    exact ⟨spec, rfl, by simp [hfound], SortedMap.get?_insert_self, rfl⟩
  | refuse => cases hok
  | delete _ hnone | settle _ hnone => cases hd.symm.trans hnone

/-- **What is built is what its specs create, and what an attempt for a spec makes of it is what
creating it anew makes**, if the attempt succeeds, exactly where what it finds, if anything, has the
scheme that is asked for. Only then the resource has the host name of this scheme. -/
theorem created_alike (h : Builds region inv) :
    (∀ key lb, inv.get? key = some lb →
      key = lb.spec.loadBalancerName ∧ lb = provision region lb.spec) ∧
    ∀ r spec r', r.desired = some spec → (reconcile region inv r).outcome = .ok r' →
      let done := reconcile region inv r
      let anew := reconcile region ∅ { r with handle := none }
      let alike := ∀ found, Change.lookUp inv r = some found → found.spec.scheme = spec.scheme
      (done.inventory.get? spec.loadBalancerName = anew.inventory.get? spec.loadBalancerName ∧
        anew.outcome = .ok r' ↔ alike) ∧
      (r'.hostnames = [dnsName region spec.loadBalancerName spec.scheme] ↔ alike) := by
  refine ⟨fun key lb hlb => ⟨(h.reaches.named key lb hlb).1, h.isCreated key lb hlb⟩, ?_⟩
  intro r spec r' hd hok done anew alike
  obtain ⟨hanew, hmade⟩ := reconcile_anew region r hd
  obtain ⟨old, hname, hiff, hleft, rfl⟩ := h.exists_old hd hok
  have hsame := provision_modified_iff region hname
  refine ⟨?_, ?_⟩ <;> rw [show alike ↔ old.scheme = spec.scheme from hiff.symm]
  · constructor
    · rintro ⟨hstands, -⟩
      exact hsame.1 (Option.some.inj (hleft.symm.trans (hstands.trans hanew)))
    · intro hscheme
      have hlb := hsame.2 hscheme
      have hhandle : (provision region old).handle = (provision region spec).handle := by
        rw [← hlb]
        rfl
      exact ⟨hleft.trans ((congrArg some hlb).trans hanew.symm), by rw [hhandle]; exact hmade⟩
  · have hhost : Resource.hostnames { r with handle := some (provision region old).handle } =
        [dnsName region old.loadBalancerName old.scheme] := rfl
    rw [hhost, hname, List.singleton_inj]
    exact ⟨fun hdns => dnsName_injective hdns, fun hscheme => by rw [hscheme]⟩

/-- A load balancer that was created from outside is modified to have other targets, and is what the
new spec creates. -/
theorem created_alike_retargeted :
    let id : ResourceId := ⟨"default", "shop"⟩
    let old := Sample.specFor id "prod-shop"
    let spec := { old with targets := ["i-2", "i-3"] }
    let inv := (∅ : Inventory).insertExternal "us-east-1" old
    let r : Resource := ⟨id, some spec, some (provision "us-east-1" old).handle⟩
    Builds "us-east-1" inv ∧ r.desired = some spec ∧
      ∃ r', (reconcile "us-east-1" inv r).outcome = .ok r' ∧
        (reconcile "us-east-1" inv r).inventory.get? "prod-shop" =
          (reconcile "us-east-1" ∅ { r with handle := none }).inventory.get? "prod-shop" ∧
        r'.hostnames = [dnsName "us-east-1" "prod-shop" .internal] := by
  intro id old spec inv r
  have hinv : Builds "us-east-1" inv := .insert .empty old
  have hfound : Change.lookUp inv r = some (provision "us-east-1" old) :=
    hinv.reaches.named.lookUp_eq SortedMap.get?_insert_self rfl
  have hplan : Change.plan "us-east-1" inv r =
      .modify { provision "us-east-1" old with spec := spec } :=
    Change.plan_eq_modify hfound rfl rfl (mt (congrArg Spec.targets) (by decide))
  have halike : ∀ found, Change.lookUp inv r = some found → found.spec.scheme = spec.scheme := by
    intro found h
    cases hfound.symm.trans h
    rfl
  have hok : (reconcile "us-east-1" inv r).outcome =
      .ok { r with handle := some (provision "us-east-1" old).handle } := by
    rw [reconcile, hplan]
    rfl
  obtain ⟨hsame, hhost⟩ := (created_alike hinv).2 r spec _ rfl hok
  exact ⟨hinv, rfl, _, hok, (hsame.2 halike).1, hhost.2 halike⟩

/-- **A modified load balancer keeps the host name of its old scheme.** One that was created
internal is asked to face the internet: the attempt succeeds, what stands has the new spec, and its
host name is the internal one, which creating it anew does not give. -/
theorem scheme_modified_keeps_host_name :
    let id : ResourceId := ⟨"default", "shop"⟩
    let old := Sample.specFor id "prod-shop"
    let spec := { old with scheme := .internetFacing }
    let inv := (reconcile "us-east-1" ∅ ⟨id, some old, none⟩).inventory
    let handle := (provision "us-east-1" old).handle
    Reaches "us-east-1" inv ∧
      (reconcile "us-east-1" ∅ ⟨id, some old, none⟩).outcome = .ok ⟨id, some old, some handle⟩ ∧
      let done := reconcile "us-east-1" inv ⟨id, some spec, some handle⟩
      let anew := reconcile "us-east-1" ∅ ⟨id, some spec, none⟩
      ∃ r' lb, done.outcome = .ok r' ∧ done.inventory.get? "prod-shop" = some lb ∧
        lb.spec = spec ∧ lb ≠ provision "us-east-1" spec ∧ anew.outcome ≠ .ok r' ∧
        r'.hostnames = [dnsName "us-east-1" "prod-shop" .internal] := by
  intro id old spec inv handle
  have hinv : Reaches "us-east-1" inv := .change .empty .empty ⟨id, some old, none⟩
  obtain ⟨hstands, hcreated⟩ := reconcile_anew "us-east-1" ⟨id, some old, none⟩ rfl
  refine ⟨hinv, hcreated, ?_⟩
  intro done anew
  have hscheme : old.scheme ≠ spec.scheme := by decide
  have hplan : Change.plan "us-east-1" inv ⟨id, some spec, some handle⟩ =
      .modify { provision "us-east-1" old with spec := spec } :=
    Change.plan_eq_modify (hinv.named.lookUp_eq hstands rfl) rfl rfl
      (mt (congrArg Spec.scheme) hscheme)
  have hok : done.outcome = .ok ⟨id, some spec, some handle⟩ := by
    rw [show done.outcome = (Change.plan "us-east-1" inv _).outcome _ from rfl, hplan]
    rfl
  have hleft : done.inventory.get? "prod-shop" =
      some { provision "us-east-1" old with spec := spec } := by
    rw [show done.inventory = (Change.plan "us-east-1" inv _).applyTo inv from rfl, hplan]
    exact SortedMap.get?_insert_self
  have hne : { provision "us-east-1" old with spec := spec } ≠ provision "us-east-1" spec :=
    mt (provision_modified_iff "us-east-1"
      (show old.loadBalancerName = spec.loadBalancerName from rfl)).1 hscheme
  have hanew : anew.outcome = .ok ⟨id, some spec, some (provision "us-east-1" spec).handle⟩ :=
    (reconcile_anew "us-east-1" ⟨id, some spec, none⟩ rfl).2
  refine ⟨_, _, hok, hleft, rfl, hne, fun hsame => ?_, rfl⟩
  have hhandle : (provision "us-east-1" spec).handle = handle :=
    Option.some.inj (congrArg Resource.handle (Except.ok.inj (hanew.symm.trans hsame)))
  have hdns : dnsName "us-east-1" spec.loadBalancerName spec.scheme =
      dnsName "us-east-1" spec.loadBalancerName old.scheme :=
    Option.some.inj (congrArg Handle.dnsName hhandle)
  exact hscheme (dnsName_injective hdns).symm

end Provider

end IngressBalancer
