import IngressBalancer.Proofs.Provider.Changes
import IngressBalancer.Proofs.World.Situation
/-!
# Faithful surroundings

Surroundings in which the provider does what it is asked for, unless a fault
strikes before that (`Surroundings.faithful`): what is declared has an id
among some ids, changes are published at once, nothing but the provider
answers, and what others do to its inventory is a drift. In these, an attempt
goes by what stands under the name of its resource all the way
(`Progress.Fits`), each of its moves keeps that up, and touches nothing else
(`Attempt.Moves.fits`).
-/

namespace IngressBalancer

/-- Whether a conduct is that of the provider, or an error, a timeout or a panic before it. -/
def Conduct.IsEarly : Conduct → Prop
  | .provide | .fail _ | .hang | .panic _ => True
  | .dropHandle | .markDeleted | .nothing => False

/-- Whether what a rig says about load balancers is what its provider says: no fault makes up a
success, and no discovery is made up. -/
structure Rig.IsFaithful (g : Rig) : Prop where
  discovery : ∀ discovered, g.discovery ≠ some (.ok discovered)
  early : ∀ id fault, g.faults.get? id = some fault → fault.conduct.IsEarly

/-- Faithful surroundings for some ids, with a drift of the inventory. -/
def Surroundings.faithful (settings : Settings) (P : Set ResourceId) (d : Drift settings.scope) :
    Surroundings where
  shows v := ∀ i ∈ v.declared settings, i.id ∈ P
  publishes p := p = some 0
  alters g g' := g'.region = g.region ∧ g'.IsFaithful ∧
    ∀ key, d.rel (g.inventory.get? key) (g'.inventory.get? key)
  answers _ _ := False

variable {scope : Scope} {region : String} {P : Set ResourceId}
variable {g g' : Rig} {id : ResourceId} {r : Resource} {now deadline : Instant}
variable {old new : Drift scope} {o o' : Option LoadBalancer}

/-! ## Rigs -/

/-- An early fault makes up no success. -/
theorem Conduct.IsEarly.exists_error {conduct : Conduct} {out : Except Failure Resource}
    (h : conduct.IsEarly) (ho : conduct.outcome? r = some out) : ∃ e, out = .error e := by
  cases conduct with
  | provide => cases ho
  | fail e => exact ⟨e, (Option.some.inj ho).symm⟩
  | hang => exact ⟨_, (Option.some.inj ho).symm⟩
  | panic text => exact ⟨_, (Option.some.inj ho).symm⟩
  | dropHandle => exact h.elim
  | markDeleted => exact h.elim
  | nothing => exact h.elim

namespace Rig

/-- Whether a rig serves a controller that declares some ids. -/
structure Serves (scope : Scope) (region : String) (P : Set ResourceId) (g : Rig) : Prop where
  region_eq : g.region = region
  faithful : g.IsFaithful
  sound : g.inventory.Sound scope region P

theorem isFaithful_new (region : String) : (Rig.new region).IsFaithful where
  discovery _ h := by cases h
  early _ _ h := by cases h

/-- A discovery that succeeds is that of the provider, where none is made up. -/
theorem eq_of_discover (h : ∀ discovered, g.discovery ≠ some (.ok discovered))
    {discovered : List Resource} (hd : g.discover scope = .ok discovered) :
    discovered = g.inventory.discover scope := by
  unfold Rig.discover at hd
  cases ho : g.discovery with
  | none =>
    rw [ho] at hd
    exact (Except.ok.inj hd).symm
  | some answer =>
    rw [ho, Option.getD_some] at hd
    exact absurd (ho.trans (congrArg some hd)) (h discovered)

theorem IsFaithful.conducts (h : g.IsFaithful) : g.Conducts Conduct.IsEarly := ⟨trivial, h.early⟩

/-- **A call meets an early fault.** -/
theorem IsFaithful.meet (h : g.IsFaithful) (id : ResourceId) :
    (g.meet id).1.conduct.IsEarly ∧ (g.meet id).2.IsFaithful := by
  obtain ⟨hearly, hrest⟩ := h.conducts.meet id
  refine ⟨hearly, ?_, hrest.fault⟩
  rw [meet_eq]
  exact h.discovery

theorem Serves.meet (h : g.Serves scope region P) (id : ResourceId) :
    (g.meet id).2.Serves scope region P := by
  have hfaithful := (h.faithful.meet id).2
  rw [meet_eq] at hfaithful ⊢
  exact ⟨h.region_eq, hfaithful, h.sound⟩

/-- A rig that has changed as faithful surroundings allow still serves. -/
theorem Serves.drift (h : g.Serves scope region P) (hregion : g'.region = g.region)
    (hfaithful : g'.IsFaithful) (hrel : ∀ key, new.rel (g.inventory.get? key)
      (g'.inventory.get? key)) : g'.Serves scope region P where
  region_eq := hregion.trans h.region_eq
  faithful := hfaithful
  sound := h.sound.drift hrel

end Rig

/-! ## What others do at the provider -/

section Meddling

variable {settings : Settings}

/-- Somebody deletes a load balancer. -/
theorem alters_erase (hg : g.IsFaithful) (name : String) :
    (Surroundings.faithful settings P (.meddling _)).alters g
      { g with inventory := g.inventory.erase name } := by
  refine ⟨rfl, ⟨hg.discovery, hg.early⟩, fun key => ?_⟩
  by_cases hkey : key = name
  · rw [hkey, SortedMap.get?_erase_self]
    exact fun lb hlb => by cases hlb
  · rw [SortedMap.get?_erase_of_ne hkey]
    exact (Drift.meddling _).refl _

/-- Somebody puts a load balancer in the stead of one that is there, with a spec for the same
ingress. -/
theorem alters_insertExternal {spec : Spec} {lb : LoadBalancer}
    (hg : g.Serves settings.scope region P) (hinj : P.InjOn settings.scope.nameOf) (hid : id ∈ P)
    (hlb : g.inventory.standing settings.scope id = some lb)
    (hspec : spec.BelongsTo settings.scope id) :
    (Surroundings.faithful settings P (.meddling _)).alters g
      { g with inventory := g.inventory.insertExternal region spec } := by
  refine ⟨rfl, ⟨hg.faithful.discovery, hg.faithful.early⟩, fun key => ?_⟩
  by_cases hkey : key = spec.loadBalancerName
  · rw [Inventory.insertExternal, hkey, SortedMap.get?_insert_self]
    rintro _ ⟨⟩
    rw [hspec.name]
    exact ⟨lb, hlb, Drift.edits_provision (hg.sound.standsFor hinj hid hlb) hspec⟩
  · rw [Inventory.insertExternal, SortedMap.get?_insert_of_ne hkey]
    exact (Drift.meddling _).refl _

end Meddling

/-! ## Attempts -/

/-- Whether an attempt for a resource that has come so far goes by what stands under its name:
until it has looked, its handle recalls that; then its change is one for that; and when the
change has been made, what it makes of the resource is settled there. -/
def Progress.Fits (old new : Drift scope) (region : String) (now : Instant) (r : Resource)
    (o : Option LoadBalancer) : Progress → Prop
  | .waiting conduct _ => conduct.IsEarly ∧ old.Recalls region r.id r.liveHandle? o
  | .decided c => ∃ seen, (∀ lb, seen = some lb → lb.StandsFor scope region r.id) ∧
      new.rel seen o ∧ c = .decide region r seen
  | .reporting c wake => (∃ t, wake = some t ∧ t ≤ now) ∧
      ∃ r', c.outcome r = .ok r' ∧ new.Settled region r r' o
  | .done (.ok r') => new.Settled region r r' o
  | .atGate _ | .hanging | .done (.error _) => old.Recalls region r.id r.liveHandle? o

namespace Progress.Fits

variable {p : Progress}

/-- What others do meanwhile is no matter. -/
theorem drift (hle : ∀ {o p}, new.rel o p → old.rel o p) (h : p.Fits old new region now r o)
    (ho : new.rel o o') : p.Fits old new region now r o' := by
  cases p with
  | waiting conduct wake => exact ⟨h.1, h.2.drift (hle ho)⟩
  | decided c =>
    obtain ⟨seen, hstands, hrel, hc⟩ := h
    exact ⟨seen, hstands, new.trans hrel ho, hc⟩
  | reporting c wake =>
    obtain ⟨hwake, r', hr', hs⟩ := h
    exact ⟨hwake, r', hr', hs.drift ho⟩
  | done out =>
    cases out with
    | ok r' => exact Drift.Settled.drift h ho
    | error e => exact Drift.Recalls.drift h (hle ho)
  | atGate gate => exact Drift.Recalls.drift h (hle ho)
  | hanging => exact Drift.Recalls.drift h (hle ho)

/-- Nor is time. -/
theorem later {t : Instant} (h : p.Fits old new region now r o) (ht : now ≤ t) :
    p.Fits old new region t r o := by
  cases p with
  | reporting c wake =>
    obtain ⟨⟨t', hwake, hle⟩, hmade⟩ := h
    exact ⟨⟨t', hwake, Nat.le_trans hle ht⟩, hmade⟩
  | done out => cases out <;> exact h
  | _ => exact h

/-- An attempt that meets an early fault has not been at the provider yet. -/
theorem progressOf {f : Fault} (hf : f.conduct.IsEarly)
    (h : old.Recalls region r.id r.liveHandle? o) :
    (World.progressOf now f).Fits old new region now r o := by
  unfold World.progressOf
  split
  · exact h
  · exact ⟨hf, h⟩

end Progress.Fits

/-- **The attempts of a pass set out with what their handles recall.** -/
theorem Rig.Serves.openAll (hg : g.Serves scope region P) (new : Drift scope)
    (now deadline : Instant) (rs : List Resource)
    (hr : ∀ r ∈ rs, old.Recalls region r.id r.liveHandle? (g.inventory.standing scope r.id)) :
    (openAll now deadline rs g).2.Serves scope region P ∧
      ∀ a ∈ (openAll now deadline rs g).1, a.progress.Fits old new region now a.resource
        (g.inventory.standing scope a.resource.id) := by
  induction rs generalizing g with
  | nil => exact ⟨hg, fun a ha => absurd ha List.not_mem_nil⟩
  | cons r rs ih =>
    have hfirst : (openOne now deadline r g).2.Serves scope region P ∧
        (openOne now deadline r g).2.inventory = g.inventory ∧
        (openOne now deadline r g).1.resource = r ∧
        (openOne now deadline r g).1.progress.Fits old new region now r
          (g.inventory.standing scope r.id) := by
      have hrecalls := hr r List.mem_cons_self
      unfold openOne
      split
      · exact ⟨hg.meet r.id, by rw [meet_eq], rfl,
          .progressOf (hg.faithful.meet r.id).1 hrecalls⟩
      · exact ⟨hg, rfl, rfl, hrecalls⟩
    obtain ⟨hserves, hinv, hres, hfits⟩ := hfirst
    -- the rest is called at a rig with the same inventory
    obtain ⟨hserves', hfits'⟩ := ih hserves fun r' hr' => by
      rw [hinv]
      exact hr r' (List.mem_cons_of_mem _ hr')
    refine ⟨hserves', fun a ha => ?_⟩
    rcases List.mem_cons.1 ha with rfl | ha
    · rw [hres]
      exact hfits
    · have := hfits' a ha
      rwa [hinv] at this

/-- **A move of an attempt keeps to what stands under the name of its resource**: the attempt
still goes by that afterwards, and nothing else in the inventory has changed. -/
theorem Attempt.Moves.fits {a a' : Attempt} (hm : a.Moves now (some 0) g g' a')
    (hinj : P.InjOn scope.nameOf) (hg : g.Serves scope region P) (hid : a.resource.id ∈ P)
    (hasks : a.resource.Asks scope)
    (hf : a.progress.Fits old new region now a.resource
      (g.inventory.standing scope a.resource.id)) :
    g'.Serves scope region P ∧
      a'.progress.Fits old new region now a.resource
        (g'.inventory.standing scope a.resource.id) ∧
      ∀ key, key ≠ scope.nameOf a.resource.id → g'.inventory.get? key = g.inventory.get? key := by
  cases hm with
  | late hd hopen hundecided hwaiting hpublishing =>
    -- what is late has not been at the provider yet, since changes are published at once
    refine ⟨hg, ?_, fun _ _ => rfl⟩
    cases hp : a.progress with
    | done out => exact absurd hp (hopen out)
    | decided c => exact absurd hp (hundecided c)
    | reporting c wake =>
      rw [hp] at hf
      obtain ⟨⟨t, rfl, ht⟩, -⟩ := hf
      exact absurd ht (Nat.not_le.2 (hpublishing c t hp))
    | waiting conduct wake =>
      rw [hp] at hf
      exact hf.2
    | atGate gate =>
      rw [hp] at hf
      exact hf
    | hanging =>
      rw [hp] at hf
      exact hf
  | meet hp =>
    rw [hp] at hf
    have hinv : (g.meet a.resource.id).2.inventory = g.inventory := by rw [Rig.meet_eq]
    refine ⟨hg.meet a.resource.id, ?_, fun _ _ => by rw [hinv]⟩
    rw [hinv]
    exact .progressOf (hg.faithful.meet a.resource.id).1 hf
  | strike hp ho =>
    rw [hp] at hf
    obtain ⟨e, rfl⟩ := hf.1.exists_error ho
    exact ⟨hg, hf.2, fun _ _ => rfl⟩
  | look hp ho =>
    -- the handle is at most stale, and leads to what stands there now
    rw [hp] at hf
    have hplan : Change.plan g.region g.inventory a.resource =
        .decide region a.resource (g.inventory.standing scope a.resource.id) := by
      rw [Change.plan, hg.region_eq, Change.lookUp_eq hg.sound hf.2]
    exact ⟨hg, ⟨_, fun lb hlb => hg.sound.standsFor hinj hid hlb, new.refl _, hplan⟩,
      fun _ _ => rfl⟩
  | change hp hnext =>
    rw [hp] at hf
    obtain ⟨seen, hstands, hrel, rfl⟩ := hf
    obtain ⟨r', hr', hsettled⟩ := Change.settled_decide hasks hstands hrel
    refine ⟨⟨hg.region_eq, ⟨hg.faithful.discovery, hg.faithful.early⟩,
      Change.sound_applyTo_decide hasks hstands hid hg.sound⟩, ?_, fun key hkey =>
      Change.get?_applyTo_decide hasks hstands hkey⟩
    rcases hnext with ⟨-, rfl⟩ | ⟨-, rfl⟩
    · exact ⟨⟨now, rfl, Nat.le_refl _⟩, r', hr', hsettled⟩
    · rw [hr']
      exact hsettled
  | published hp hwake =>
    rw [hp] at hf
    obtain ⟨-, r', hr', hsettled⟩ := hf
    refine ⟨hg, ?_, fun _ _ => rfl⟩
    rw [hr']
    exact hsettled

end IngressBalancer
