import IngressBalancer.Proofs.Provider.Claims
import IngressBalancer.Proofs.World.Tracking
/-!
# What comes about at the provider

Surroundings in which anything goes, as long as what others do at the provider
is what can be done there (`Surroundings.outOfBand`): whoever creates, changes
or removes a load balancer, under whatever name and with whatever tags. The
inventory is always one that an empty one may turn into, and a change that is
about to be made was planned at one (`Provisions.turn`, `Runs.provisions`). So
where nobody else is at the provider, a pass leaves alone what stands under a
name whose address no resource of its batch claims (`Runs.spares`).
-/

namespace IngressBalancer

/-- Anything goes, where others do at the provider what can be done there. -/
def Surroundings.outOfBand : Surroundings where
  shows _ := True
  publishes _ := True
  alters g g' := g'.region = g.region ∧
    (Provider.Reaches g.region g.inventory → Provider.Reaches g.region g'.inventory)
  answers := any.answers

/-- Anything goes, where nobody else is at the provider. -/
def Surroundings.handsOff : Surroundings where
  shows _ := True
  publishes _ := True
  alters g g' := g'.region = g.region ∧ g'.inventory = g.inventory
  answers := any.answers

theorem Surroundings.outOfBand_within_any : outOfBand.Within any :=
  within_any fun _ _ h => h

theorem Surroundings.handsOff_within_outOfBand : handsOff.Within outOfBand where
  shows _ h := h
  publishes _ h := h
  alters _ _ h := ⟨h.1, fun hreaches => h.2 ▸ hreaches⟩
  answers _ _ h := h

variable {region : String} {g g' : Rig} {r : Resource} {a a' : Attempt} {now : Instant}
variable {publication : Option Span}

/-- Whether the change that an attempt is about to make, if any, was planned at an inventory that
there may have been. -/
def Progress.IsPlanned (region : String) (r : Resource) (p : Progress) : Prop :=
  ∀ c, p = .decided c → ∃ seen, Provider.Reaches region seen ∧ c = .plan region seen r

theorem Progress.isPlanned_done (o : Except Failure Resource) :
    (Progress.done o).IsPlanned region r := fun c hc => by cases hc

theorem Progress.IsFresh.isPlanned {Q : Conduct → Prop} {p : Progress} (h : p.IsFresh Q) :
    p.IsPlanned region r := by
  rintro c rfl
  exact h.elim

/-- Whether the inventory of a rig is one that there may be. -/
structure Rig.Provides (region : String) (g : Rig) : Prop where
  region_eq : g.region = region
  reaches : Provider.Reaches region g.inventory

/-- **A move of an attempt is what can be done at the provider**, and leaves alone what stands
under a name whose address its resource does not claim. -/
theorem Attempt.Moves.provides (hm : a.Moves now publication g g' a') (hg : g.Provides region)
    (ha : a.progress.IsPlanned region a.resource) :
    g'.Provides region ∧ a'.progress.IsPlanned region a.resource ∧
      ∀ name, ¬ a.resource.Claims region (Provider.arn region name) →
        g'.inventory.get? name = g.inventory.get? name := by
  obtain ⟨hregion, hreaches⟩ := hg
  cases hm with
  | late => exact ⟨⟨hregion, hreaches⟩, Progress.isPlanned_done _, fun _ _ => rfl⟩
  | meet =>
    rw [Rig.meet_eq]
    exact ⟨⟨hregion, hreaches⟩,
      (Rig.isFresh_progressOf (P := fun _ => True) trivial).isPlanned, fun _ _ => rfl⟩
  | strike => exact ⟨⟨hregion, hreaches⟩, Progress.isPlanned_done _, fun _ _ => rfl⟩
  | look =>
    refine ⟨⟨hregion, hreaches⟩, fun c hc => ?_, fun _ _ => rfl⟩
    cases hc
    exact ⟨g.inventory, hreaches, by rw [hregion]⟩
  | change hp hnext =>
    obtain ⟨seen, hseen, rfl⟩ := ha _ hp
    refine ⟨⟨hregion, .change hseen hreaches a.resource⟩, ?_, fun name hname =>
      Change.get?_applyTo_plan hseen.named hname⟩
    rcases hnext with ⟨-, rfl⟩ | ⟨-, rfl⟩
    · exact fun c hc => by cases hc
    · exact Progress.isPlanned_done _
  | published => exact ⟨⟨hregion, hreaches⟩, Progress.isPlanned_done _, fun _ _ => rfl⟩

namespace World

variable {S : Surroundings} {settings : Settings} {view : View} {monitor : Monitor}
variable {es es' : List Episode} {c c' : Situation} {f : Flight} {attempts : List Attempt}
variable {u w : World}

/-- Whether all that has come about at the provider, and is about to, is what can be done there. -/
structure Provisions (region : String) (c : Situation) : Prop where
  provides : c.rig.Provides region
  planned : ∀ a ∈ c.attempts, a.progress.IsPlanned region a.resource

namespace Provisions

variable (h : Provisions region c)
include h

theorem takeOff : Provisions region c.takeOff := by
  have hconducts : c.rig.Conducts fun _ => True := ⟨trivial, fun _ _ _ => trivial⟩
  refine ⟨?_, fun a ha => ((hconducts.openAll c.now _ c.flight.batch).2 a ha).isPlanned⟩
  show Rig.Provides region c.opened.2
  rw [Situation.opened, Rig.openAll_eq]
  exact ⟨h.provides.region_eq, h.provides.reaches⟩

/-- What is known of an attempt in the air. -/
theorem of_mem (hair : c.air = some (f, attempts)) {a : Attempt} (ha : a ∈ attempts) :
    a.progress.IsPlanned region a.resource :=
  h.planned a (by rwa [Situation.attempts_of_air hair])

/-- Another attempt in the stead of one for the same resource. -/
theorem set (hair : c.air = some (f, attempts)) {a a' : Attempt} (ha : a ∈ attempts)
    (hr : a'.resource = a.resource) {g : Rig} (hg : g.Provides region)
    (hp : a'.progress.IsPlanned region a.resource) :
    Provisions region { c with rig := g, air := some (f, setAttempt attempts a') } := by
  refine ⟨hg, fun b hb => ?_⟩
  rcases (mem_setAttempt ha hr).1 hb with rfl | ⟨hb, -⟩
  · rwa [hr]
  · exact h.of_mem hair hb

/-- **Every turn does what can be done at the provider.** -/
theorem turn (hturn : c.Turn .outOfBand es c') : Provisions region c' := by
  obtain ⟨hregion, hreaches⟩ := h.provides
  cases hturn with
  | rig halters =>
    obtain ⟨hregion', hreaches'⟩ := halters
    rw [hregion] at hregion' hreaches'
    exact ⟨⟨hregion', hreaches' hreaches⟩, h.planned⟩
  | takeOff => exact h.takeOff
  | attempt hair ha hm =>
    obtain ⟨hg, hp, -⟩ := hm.provides h.provides (h.of_mem hair ha)
    exact h.set hair ha hm.resource_eq hg hp
  | answer hair ha =>
    refine h.set hair ha ?_ h.provides (Progress.isPlanned_done _)
    rfl
  | land => exact ⟨h.provides, fun a ha => absurd ha List.not_mem_nil⟩
  | resync => exact ⟨h.provides, fun a ha => absurd ha List.not_mem_nil⟩
  | _ => exact ⟨h.provides, h.planned⟩

end Provisions

/-- A provider without load balancers provides. -/
theorem provisions_new :
    Provisions region (World.new settings view (Rig.new region) monitor).situation :=
  ⟨⟨rfl, .empty⟩, fun _ ha => absurd ha List.not_mem_nil⟩

/-- **Along a run the inventory is always one that there may be**, whoever is at the provider. -/
theorem Runs.provisions (ho : u.Orderly) (hp : Provisions region u.situation)
    (h : Runs .outOfBand u es w) : Provisions region w.situation :=
  Runs.invariant (I := fun _ c => Provisions region c) ho hp
    (fun _ _ _ _ hc hturn => hc.turn hturn) h

/-- **A pass spares what none of its resources claims**, where nobody else is at the provider. -/
theorem Runs.spares {es₀ : List Episode} (ho : u.Orderly) (ht : Tells settings es₀ u.situation)
    (hp : Provisions region u.situation) (hair : u.air = some (f, attempts))
    (h : Runs .handsOff u [] w) {name : String}
    (hname : ∀ r ∈ f.batch, ¬ r.Claims region (Provider.arn region name)) :
    w.rig.inventory.get? name = u.rig.inventory.get? name := by
  refine (Runs.invariant_nil (I := fun c => Provisions region c ∧ Tells settings es₀ c ∧
    (∃ attempts, c.air = some (f, attempts)) ∧
      c.rig.inventory.get? name = u.rig.inventory.get? name) ho ⟨hp, ht, ⟨_, hair⟩, rfl⟩ ?_ h).2.2.2
  rintro c c' ⟨hp, ht, ⟨attempts, hair⟩, hsame⟩ hturn
  have hp' : Provisions region c' := hp.turn (hturn.mono Surroundings.handsOff_within_outOfBand)
  have ht' : Tells settings es₀ c' := by
    have hany : ∀ r o, Surroundings.handsOff.answers r o → Surroundings.any.answers r o :=
      fun _ _ hsaid => hsaid
    have hnext := ht.turn (hturn.any hany)
    rwa [List.append_nil] at hnext
  refine ⟨hp', ht', ?_⟩
  cases hturn with
  | rig halters => exact ⟨⟨attempts, hair⟩, by rw [← hsame, ← halters.2]⟩
  | takeOff hnone =>
    rw [hair] at hnone
    cases hnone
  | attempt hair' ha hm =>
    rw [hair] at hair'
    cases hair'
    obtain ⟨-, -, hspares⟩ := hm.provides hp.provides (hp.of_mem hair ha)
    have hbatch := (ht.inAir _ _ hair).mem_batch ha
    exact ⟨⟨_, rfl⟩, (hspares name (hname _ hbatch)).trans hsame⟩
  | answer hair' =>
    rw [hair] at hair'
    cases hair'
    exact ⟨⟨_, rfl⟩, hsame⟩
  | _ => exact ⟨⟨attempts, hair⟩, hsame⟩

end World

end IngressBalancer
