import IngressBalancer.Proofs.Provider.Inventory
import IngressBalancer.Provider.Reconcile
/-!
# What changes make of an inventory

A handle recalls what stood under the name of its id when it was taken
(`Drift.Recalls`); since then others may have meddled with it, in the ways
that a `Drift` allows. An attempt finds what stands there now
(`Change.lookUp_eq`), and the change that it decides for succeeds, leaves
there what its resource desires (`Change.settled_decide`), and touches
nothing else (`Change.get?_applyTo_decide`).
-/

namespace IngressBalancer

/-! ## Drifts -/

/-- Whether a load balancer that was edited still has the address, the name and the tags by which
it is known to be that of an ingress of the cluster. -/
structure LoadBalancer.Edits (scope : Scope) (lb lb' : LoadBalancer) : Prop where
  arn : lb'.arn = lb.arn
  name : lb'.spec.loadBalancerName = lb.spec.loadBalancerName
  nspaceTag : lb'.spec.tags.get? Blueprint.namespaceTag = lb.spec.tags.get? Blueprint.namespaceTag
  nameTag : lb'.spec.tags.get? Blueprint.nameTag = lb.spec.tags.get? Blueprint.nameTag
  clusterTag : lb'.spec.tags.contains (Blueprint.clusterTag scope.clusterName) =
    lb.spec.tags.contains (Blueprint.clusterTag scope.clusterName)

/-- What others may do to what stands under a name: nothing comes up there, and what stays is
edited at most. -/
structure Drift (scope : Scope) where
  /-- From what stood there to what stands there. -/
  rel : Option LoadBalancer → Option LoadBalancer → Prop
  refl : ∀ o, rel o o
  trans : ∀ {o p q}, rel o p → rel p q → rel o q
  edits : ∀ {o lb'}, rel o (some lb') → ∃ lb, o = some lb ∧ lb.Edits scope lb'

namespace Drift

variable {scope : Scope} {region : String} {id : ResourceId} {d d' : Drift scope}
variable {o o' : Option LoadBalancer} {lb lb' : LoadBalancer} {h : Option Handle}

/-- Nobody meddles. -/
def still (scope : Scope) : Drift scope where
  rel := Eq
  refl _ := rfl
  trans := Eq.trans
  edits h := ⟨_, h, ⟨rfl, rfl, rfl, rfl, rfl⟩⟩

/-- Others delete load balancers and edit them. -/
def meddling (scope : Scope) : Drift scope where
  rel o o' := ∀ lb', o' = some lb' → ∃ lb, o = some lb ∧ lb.Edits scope lb'
  refl o lb ho := ⟨lb, ho, ⟨rfl, rfl, rfl, rfl, rfl⟩⟩
  trans := by
    intro o p q hop hpq lb'' hq
    obtain ⟨lb', hp, h'⟩ := hpq lb'' hq
    obtain ⟨lb, ho, h⟩ := hop lb' hp
    exact ⟨lb, ho, h'.arn.trans h.arn, h'.name.trans h.name, h'.nspaceTag.trans h.nspaceTag,
      h'.nameTag.trans h.nameTag, h'.clusterTag.trans h.clusterTag⟩
  edits h := h _ rfl

/-- Whatever happens to it is meddling. -/
theorem rel_meddling (h : d.rel o o') : (meddling scope).rel o o' := by
  rintro lb' rfl
  exact d.edits h

theorem rel_none (h : d.rel none o) : o = none := by
  cases o with
  | none => rfl
  | some lb' =>
    obtain ⟨lb, hlb, -⟩ := d.edits h
    cases hlb

/-- An edited load balancer stands for the same ingress. -/
theorem standsFor (h : d.rel (some lb) (some lb')) (hlb : lb.StandsFor scope region id) :
    lb'.StandsFor scope region id := by
  obtain ⟨lb₁, hsome, hedit⟩ := d.edits h
  cases hsome
  exact ⟨hedit.arn.trans hlb.arn, hedit.name.trans hlb.spec.name,
    hedit.nspaceTag.trans hlb.spec.nspaceTag, hedit.nameTag.trans hlb.spec.nameTag,
    hedit.clusterTag.trans hlb.spec.clusterTag⟩

/-- Whether a handle is that of what stood under the name of an id before others may have
meddled with it. -/
def Recalls (d : Drift scope) (region : String) (id : ResourceId) (h : Option Handle)
    (o : Option LoadBalancer) : Prop :=
  ∃ seen, (∀ lb, seen = some lb → lb.StandsFor scope region id) ∧ d.rel seen o ∧
    h = seen.map (·.handle)

namespace Recalls

theorem drift (hr : d.Recalls region id h o) (ho : d.rel o o') : d.Recalls region id h o' := by
  obtain ⟨seen, hstands, hrel, hh⟩ := hr
  exact ⟨seen, hstands, d.trans hrel ho, hh⟩

theorem mono (hle : ∀ {o p}, d'.rel o p → d.rel o p) (hr : d'.Recalls region id h o) :
    d.Recalls region id h o := by
  obtain ⟨seen, hstands, hrel, hh⟩ := hr
  exact ⟨seen, hstands, hle hrel, hh⟩

/-- Where there is no handle, there is no load balancer. -/
theorem eq_none (hr : d.Recalls region id none o) : o = none := by
  obtain ⟨seen, -, hrel, hh⟩ := hr
  rw [Option.map_eq_none_iff.1 hh.symm] at hrel
  exact rel_none hrel

/-- Where nobody meddles, the handle is that of what stands there. -/
theorem eq_of_still (hr : (still scope).Recalls region id h o) : h = o.map (·.handle) := by
  obtain ⟨seen, -, hrel, hh⟩ := hr
  rwa [show seen = o from hrel] at hh

end Recalls

/-- Whether a resource is what became of another when that had been asked for, before others may
have meddled with it. -/
structure Settled (d : Drift scope) (region : String) (r r' : Resource)
    (o : Option LoadBalancer) : Prop where
  id : r'.id = r.id
  desired : r'.desired = r.desired
  made : ∃ made, (∀ lb, made = some lb → lb.StandsFor scope region r.id) ∧ d.rel made o ∧
    r'.liveHandle? = made.map (·.handle) ∧ r.desired = made.map (·.spec)

namespace Settled

variable {r r' : Resource}

theorem drift (hs : d.Settled region r r' o) (ho : d.rel o o') : d.Settled region r r' o' := by
  obtain ⟨hid, hdesired, made, hstands, hrel, hmade⟩ := hs
  exact ⟨hid, hdesired, made, hstands, d.trans hrel ho, hmade⟩

theorem recalls (hs : d.Settled region r r' o) : d.Recalls region r.id r'.liveHandle? o := by
  obtain ⟨-, -, made, hstands, hrel, hh, -⟩ := hs
  exact ⟨made, hstands, hrel, hh⟩

/-- Where nobody meddles, what stands there is what was desired. -/
theorem eq_of_still (hs : (still scope).Settled region r r' o) :
    r'.liveHandle? = o.map (·.handle) ∧ r.desired = o.map (·.spec) := by
  obtain ⟨made, -, hrel, hmade⟩ := hs.made
  rwa [show made = o from hrel] at hmade

end Settled

/-- A load balancer that is put in the stead of one, with a spec for the same ingress, is that
one edited. -/
theorem edits_provision {spec : Spec} (hlb : lb.StandsFor scope region id)
    (hspec : spec.BelongsTo scope id) : lb.Edits scope (Provider.provision region spec) where
  arn := (congrArg (Provider.arn region) hspec.name).trans hlb.arn.symm
  name := hspec.name.trans hlb.spec.name.symm
  nspaceTag := hspec.nspaceTag.trans hlb.spec.nspaceTag.symm
  nameTag := hspec.nameTag.trans hlb.spec.nameTag.symm
  clusterTag := hspec.clusterTag.trans hlb.spec.clusterTag.symm

end Drift

/-- Where others meddle, a sound inventory stays sound. -/
theorem Inventory.Sound.drift {scope : Scope} {region : String} {P : Set ResourceId}
    {d : Drift scope} {inv inv' : Inventory} (h : inv.Sound scope region P)
    (hrel : ∀ key, d.rel (inv.get? key) (inv'.get? key)) : inv'.Sound scope region P := by
  intro key lb hlb
  have hkey := hrel key
  rw [hlb] at hkey
  obtain ⟨lb₀, hlb₀, -⟩ := d.edits hkey
  obtain ⟨id, hid, hname, hstands⟩ := h key lb₀ hlb₀
  rw [hlb₀] at hkey
  exact ⟨id, hid, hname, d.standsFor hkey hstands⟩

/-! ## Changes -/

variable {scope : Scope} {region : String} {P : Set ResourceId} {inv : Inventory}
variable {r : Resource} {seen : Option LoadBalancer} {d : Drift scope} {key : String}

/-- Whether what a resource desires is a spec for its ingress. -/
def Resource.Asks (scope : Scope) (r : Resource) : Prop :=
  ∀ spec, r.desired = some spec → spec.BelongsTo scope r.id

/-- A handle that is marked as deleted is not live. -/
theorem Resource.liveHandle?_markDeleted (r : Resource) :
    liveHandle? { r with handle := r.handle.map fun h => { h with deleted := true } } = none := by
  rw [liveHandle?]
  cases r.handle <;> rfl

namespace Change

/-- **The handle of a resource leads to what stands under its name now**, whatever happened to
it meanwhile. -/
theorem lookUp_eq (hs : inv.Sound scope region P)
    (hr : d.Recalls region r.id r.liveHandle? (inv.standing scope r.id)) :
    lookUp inv r = inv.standing scope r.id := by
  obtain ⟨seen, hstands, hrel, hh⟩ := hr
  cases seen with
  | none =>
    rw [lookUp, hh, Drift.rel_none hrel]
    rfl
  | some lb =>
    rw [lookUp, hh, Option.map_some, Option.bind_some]
    have harn : lb.handle.arn = Provider.arn region (scope.nameOf r.id) := (hstands lb rfl).arn
    rw [harn, hs.findByArn_eq]

section Decide

variable (hasks : r.Asks scope) (hseen : ∀ lb, seen = some lb → lb.StandsFor scope region r.id)
include hasks hseen

/-- **What an attempt may decide to do**, with what it has seen: to put a load balancer as
desired, to keep the one that it has seen, to delete that, or nothing. It never refuses. -/
theorem decide_cases :
    (∃ lb, (decide region r seen = .create lb ∨ decide region r seen = .modify lb) ∧
      lb.StandsFor scope region r.id ∧ r.desired = some lb.spec) ∨
    (∃ lb, decide region r seen = .keep lb ∧ seen = some lb ∧ r.desired = some lb.spec) ∨
    (∃ lb, decide region r seen = .delete lb ∧ lb.StandsFor scope region r.id ∧
      r.desired = none) ∨
    (decide region r seen = .settle ∧ seen = none ∧ r.desired = none) := by
  cases hd : r.desired with
  | some spec =>
    have hspec := hasks spec hd
    cases seen with
    | none =>
      exact .inl ⟨Provider.provision region spec, .inl (by simp only [decide, hd]),
        ⟨congrArg (Provider.arn region) hspec.name, hspec⟩, rfl⟩
    | some lb =>
      have hlb := hseen lb rfl
      -- both specs are for the same ingress, so the names agree and nothing is refused
      by_cases heq : lb.spec = spec
      · exact .inr (.inl ⟨lb, by simp only [decide, hd, if_pos heq], rfl, by rw [heq]⟩)
      · have hname : lb.spec.loadBalancerName = spec.loadBalancerName :=
          hlb.spec.name.trans hspec.name.symm
        refine .inl ⟨{ lb with spec := spec }, .inr ?_, ⟨hlb.arn, hspec⟩, rfl⟩
        simp only [decide, hd, if_neg heq, ne_eq, hname, not_true_eq_false, if_false]
  | none =>
    cases seen with
    | none => exact .inr (.inr (.inr ⟨by simp only [decide, hd], rfl, rfl⟩))
    | some lb =>
      exact .inr (.inr (.inl ⟨lb, by simp only [decide, hd], hseen lb rfl, rfl⟩))

/-- **A change touches what stands under the name of its resource, and nothing else.** -/
theorem get?_applyTo_decide (hkey : key ≠ scope.nameOf r.id) :
    ((decide region r seen).applyTo inv).get? key = inv.get? key := by
  rcases decide_cases hasks hseen with ⟨lb, hc, hlb, -⟩ | ⟨lb, hc, -⟩ | ⟨lb, hc, hlb, -⟩ | ⟨hc, -⟩
  · have hput : (decide region r seen).applyTo inv = inv.insert lb.spec.loadBalancerName lb := by
      rcases hc with hc | hc <;> rw [hc, applyTo]
    rw [hput, SortedMap.get?_insert_of_ne (by rwa [hlb.spec.name])]
  · rw [hc, applyTo]
  · rw [hc, applyTo, SortedMap.get?_erase_of_ne (by rwa [hlb.spec.name])]
  · rw [hc, applyTo]

/-- **A change succeeds and leaves what its resource desires.** What it was decided on may have
been meddled with before it is made. -/
theorem settled_decide (hrel : d.rel seen (inv.standing scope r.id)) :
    ∃ r', (decide region r seen).outcome r = .ok r' ∧
      d.Settled region r r' (((decide region r seen).applyTo inv).standing scope r.id) := by
  rcases decide_cases hasks hseen with
    ⟨lb, hc, hlb, hd⟩ | ⟨lb, hc, rfl, hd⟩ | ⟨lb, hc, hlb, hd⟩ | ⟨hc, rfl, hd⟩
  -- what is put or deleted is there or gone for certain; what is kept may have drifted
  · have hput : (decide region r seen).applyTo inv = inv.insert lb.spec.loadBalancerName lb ∧
        (decide region r seen).outcome r = .ok { r with handle := some lb.handle } := by
      rcases hc with hc | hc <;> rw [hc] <;> exact ⟨rfl, rfl⟩
    refine ⟨_, hput.2, rfl, rfl, some lb, ?_, ?_, rfl, hd⟩
    · rintro _ ⟨⟩
      exact hlb
    · rw [hput.1, Inventory.standing, hlb.spec.name, SortedMap.get?_insert_self]
      exact d.refl _
  · rw [hc]
    exact ⟨_, rfl, rfl, rfl, some lb, hseen, hrel, rfl, hd⟩
  · rw [hc]
    refine ⟨_, rfl, rfl, rfl, none, ?_, ?_, rfl, hd⟩
    · rintro _ ⟨⟩
    · rw [Inventory.standing, applyTo, hlb.spec.name, SortedMap.get?_erase_self]
      exact d.refl _
  · rw [hc]
    exact ⟨_, rfl, rfl, rfl, none, hseen, hrel, r.liveHandle?_markDeleted, hd⟩

/-- A sound inventory stays sound. -/
theorem sound_applyTo_decide (hid : r.id ∈ P) (hs : inv.Sound scope region P) :
    ((decide region r seen).applyTo inv).Sound scope region P := by
  intro key lb hlb
  by_cases hkey : key = scope.nameOf r.id
  · subst hkey
    rcases decide_cases hasks hseen with ⟨lb', hc, hlb', -⟩ | ⟨lb', hc, -⟩ | ⟨lb', hc, hlb', -⟩ |
      ⟨hc, -⟩
    · have hput : (decide region r seen).applyTo inv =
          inv.insert lb'.spec.loadBalancerName lb' := by
        rcases hc with hc | hc <;> rw [hc, applyTo]
      rw [hput, hlb'.spec.name, SortedMap.get?_insert_self] at hlb
      cases hlb
      exact ⟨r.id, hid, rfl, hlb'⟩
    · rw [hc] at hlb
      exact hs _ lb hlb
    · rw [hc, applyTo, hlb'.spec.name, SortedMap.get?_erase_self] at hlb
      cases hlb
    · rw [hc] at hlb
      exact hs _ lb hlb
  · rw [get?_applyTo_decide hasks hseen hkey] at hlb
    exact hs key lb hlb

end Decide

end Change

end IngressBalancer
