import IngressBalancer.Proofs.Controller.Handles
import IngressBalancer.Proofs.World.Faithful
import IngressBalancer.Proofs.World.Flights
/-!
# The registry tracks the provider

Among faithful surroundings, the registry and the attempts in the air know of
every load balancer that there is (`Tracks`). An id that no attempt is for
has the handle of what stood under its name before others may have meddled
with it; what an attempt knows of its own id is told by how far it has come
(`Progress.Fits`). Every turn keeps this up (`Tracks.turn`): an attempt
touches nothing but what stands under its name, and a landing hands over to
the registry what the attempts knew.
-/

namespace IngressBalancer

/-- The attempts in the air. -/
def Situation.attempts (c : Situation) : List Attempt := c.air.elim [] (·.2)

theorem Situation.attempts_of_air {c : Situation} {f : Flight} {attempts : List Attempt}
    (h : c.air = some (f, attempts)) : c.attempts = attempts := by
  rw [Situation.attempts, h, Option.elim_some]

theorem Situation.attempts_of_none {c : Situation} (h : c.air = none) : c.attempts = [] := by
  rw [Situation.attempts, h, Option.elim_none]

namespace World

variable {settings : Settings} {region : String} {P : Set ResourceId}
variable {old new : Drift settings.scope} {es es' : List Episode} {c c' : Situation}
variable {f : Flight} {attempts : List Attempt} {a a' : Attempt} {g : Rig} {id : ResourceId}

/-- What is known of the load balancers there are, with what others may have done to them (`old`)
and do (`new`). -/
structure Tracks (settings : Settings) (region : String) (P : Set ResourceId)
    (old new : Drift settings.scope) (c : Situation) : Prop where
  shown : ∀ i ∈ c.view.declared settings, i.id ∈ P
  prompt : c.publication = some 0
  serves : c.rig.Serves settings.scope region P
  tracked : ∀ id, c.state.registry.contains id = true → id ∈ P
  worked : ∀ f attempts, c.air = some (f, attempts) → ∀ id, f.working.contains id = true → id ∈ P
  /-- What nobody is at is known from the registry. -/
  grounded : ∀ id ∈ P, id ∉ c.attempts.map (·.resource.id) → old.Recalls region id
    (c.state.registry.handle? id) (c.rig.inventory.standing settings.scope id)
  fits : ∀ a ∈ c.attempts, a.progress.Fits old new region c.now a.resource
    (c.rig.inventory.standing settings.scope a.resource.id)

/-! ## Passes in the air -/

/-- What a resync would look for. -/
theorem Tells.scope_eq (h : Tells settings es c) : c.scope = settings.scope := by
  rw [← h.same]
  rfl

/-- A resource that is being reconciled has one of the ids, and asks for what was built for it. -/
theorem InAir.asks (h : InAir settings c.state f attempts) (ha : a ∈ attempts)
    (hw : ∀ id, f.working.contains id = true → id ∈ P) :
    a.resource.id ∈ P ∧ a.resource.Asks settings.scope := by
  have hmem := h.mem_batch ha
  obtain ⟨v, startedAt, rfl⟩ := h.setOut
  exact ⟨hw _ (Flight.contains_of_mem_batch hmem), Flight.asks_of_mem_batch hmem⟩

section Landing

variable {s : SyncState} {settings' : Settings} {os : List Flight.Outcome} {now : Instant}
variable (h : InAir settings s f attempts) (ho : outcomes? attempts = some os)
include h ho

/-- What succeeded decides about the handle. -/
theorem InAir.handle?_of_ok {r : Resource} (ha : a ∈ attempts)
    (hdone : a.progress = .done (.ok r)) :
    ((Episode.pass f os now).commit settings' s).registry.handle? a.resource.id =
      r.liveHandle? := by
  obtain ⟨-, -, hkeep⟩ : (Episode.pass f os now).IsWhole settings s := h.isWhole ho
  have hnd : (os.map (·.1)).Nodup := map_fst_of_outcomes? ho ▸ h.nodup_ids
  obtain ⟨out, hout, hmem⟩ := exists_outcome_of_mem ho ha
  cases hdone.symm.trans hout
  exact Flight.handle?_commit_ok hkeep hnd hmem

/-- What failed keeps the handle with which it was tried. -/
theorem InAir.handle?_of_error {e : Failure} (ha : a ∈ attempts)
    (hdone : a.progress = .done (.error e)) :
    ((Episode.pass f os now).commit settings' s).registry.handle? a.resource.id =
      a.resource.liveHandle? := by
  obtain ⟨⟨v, startedAt, hf⟩, -, hkeep⟩ : (Episode.pass f os now).IsWhole settings s :=
    h.isWhole ho
  have hnd : (os.map (·.1)).Nodup := map_fst_of_outcomes? ho ▸ h.nodup_ids
  obtain ⟨out, hout, hmem⟩ := exists_outcome_of_mem ho ha
  cases hdone.symm.trans hout
  have hbatch := h.mem_batch ha
  have hcommit : ((Episode.pass f os now).commit settings' s).registry.handle? a.resource.id =
    f.working.handle? a.resource.id := Flight.handle?_commit_error hkeep hnd hmem
  rw [hf] at hbatch
  rw [hcommit, hf, Flight.handle?_working, Flight.liveHandle?_of_mem_batch hbatch]

/-- What was not attempted keeps the handle that is tracked. -/
theorem InAir.handle?_of_idle (hid : id ∉ attempts.map (·.resource.id)) :
    ((Episode.pass f os now).commit settings' s).registry.handle? id =
      s.registry.handle? id := by
  obtain ⟨⟨v, startedAt, hf⟩, -, hkeep⟩ : (Episode.pass f os now).IsWhole settings s :=
    h.isWhole ho
  have hcommit : ((Episode.pass f os now).commit settings' s).registry.handle? id =
    f.working.handle? id := Flight.handle?_commit_idle hkeep (map_fst_of_outcomes? ho ▸ hid)
  rw [hcommit, hf, Flight.handle?_working]

/-- What is tracked after a landing was worked on. -/
theorem InAir.contains_working
    (hid : ((Episode.pass f os now).commit settings' s).registry.contains id = true) :
    f.working.contains id = true := by
  obtain ⟨⟨v, startedAt, hf⟩, hcovers, hkeep⟩ : (Episode.pass f os now).IsWhole settings s :=
    h.isWhole ho
  have hbatch : ∀ r ∈ f.batch, f.working.contains r.id = true := by
    rw [hf]
    exact fun r hr => Flight.contains_of_mem_batch hr
  exact Flight.contains_of_commit hkeep hbatch hcovers hid

end Landing

namespace Tracks

/-- **A pass sets out with what the registry knows.** -/
theorem takeOff (h : Tracks settings region P old new c) (new' : Drift settings.scope)
    (ht : Tells settings es c) (hair : c.air = none) :
    Tracks settings region P old new' c.takeOff := by
  have hflight := ht.flight_eq
  have hnobody : ∀ id, id ∉ c.attempts.map (·.resource.id) := by
    rw [Situation.attempts_of_none hair]
    exact fun _ => List.not_mem_nil
  have hworking : ∀ id, c.flight.working.contains id = true → id ∈ P := by
    intro id hid
    rw [hflight, Flight.contains_working] at hid
    rcases hid with ⟨i, hi, rfl⟩ | hid
    · exact h.shown i hi
    · exact h.tracked id hid
  have hrecalls : ∀ r ∈ c.flight.batch, old.Recalls region r.id r.liveHandle?
      (c.rig.inventory.standing settings.scope r.id) := by
    intro r hr
    rw [hflight] at hr hworking
    have hid : r.id ∈ P := hworking r.id (Flight.contains_of_mem_batch hr)
    rw [Flight.liveHandle?_of_mem_batch hr]
    exact h.grounded r.id hid (hnobody r.id)
  obtain ⟨hserves, hfits⟩ := h.serves.openAll new' c.now
    (Instant.after c.now c.settings.reconcileTimeout) c.flight.batch hrecalls
  constructor
  · exact h.shown
  · exact h.prompt
  · exact hserves
  · exact h.tracked
  · rintro f attempts ⟨⟩
    exact hworking
  · intro id hid _
    rw [c.inventory_takeOff]
    exact h.grounded id hid (hnobody id)
  · rw [c.inventory_takeOff]
    exact hfits

section Turns

variable (h : Tracks settings region P old new c) (ht : Tells settings es c)
include h ht

/-- **An attempt keeps to what stands under its name.** -/
theorem attempt (hinj : P.InjOn settings.scope.nameOf) (hair : c.air = some (f, attempts))
    (ha : a ∈ attempts) (hm : a.Moves c.now c.publication c.rig g a') :
    Tracks settings region P old new
      { c with rig := g, air := some (f, setAttempt attempts a') } := by
  have hattempts := Situation.attempts_of_air hair
  have hin := ht.inAir f attempts hair
  obtain ⟨hid, hasks⟩ := hin.asks ha (h.worked f attempts hair)
  have hfits := h.fits
  rw [hattempts] at hfits
  rw [h.prompt] at hm
  obtain ⟨hserves, hfit, hrest⟩ := hm.fits hinj h.serves hid hasks (hfits a ha)
  -- what stands under the other names
  have hother : ∀ id ∈ P, id ≠ a.resource.id →
      g.inventory.standing settings.scope id = c.rig.inventory.standing settings.scope id :=
    fun id hid' hne => hrest _ fun hname => hne (hinj hid' hid hname)
  have hids : (setAttempt attempts a').map (·.resource.id) = attempts.map (·.resource.id) := by
    have hres := map_resource_setAttempt hin.nodup_ids ha hm.resource_eq
    have := congrArg (List.map Resource.id) hres
    rwa [List.map_map, List.map_map] at this
  constructor
  · exact h.shown
  · exact h.prompt
  · exact hserves
  · exact h.tracked
  · rintro f' attempts' ⟨⟩
    exact h.worked f attempts hair
  · intro id hid' hnot
    have hnot' : id ∉ attempts.map (·.resource.id) := hids ▸ hnot
    have hne : id ≠ a.resource.id := fun he => hnot' (he ▸ List.mem_map_of_mem ha)
    have hground := h.grounded id hid' (hattempts ▸ hnot')
    rwa [← hother id hid' hne] at hground
  · intro b hb
    rcases (mem_setAttempt ha hm.resource_eq).1 hb with rfl | ⟨hb, hne⟩
    · rw [hm.resource_eq]
      exact hfit
    · have hfit' := hfits b hb
      rwa [← hother _ (hin.asks hb (h.worked f attempts hair)).1 hne] at hfit'

/-- **A landing hands over to the registry what the attempts knew.** -/
theorem land (hle : ∀ {o p}, new.rel o p → old.rel o p) {os : List Flight.Outcome}
    (hair : c.air = some (f, attempts)) (ho : outcomes? attempts = some os) :
    Tracks settings region P old new (c.commit (.pass f os c.now)) := by
  have hattempts := Situation.attempts_of_air hair
  have hin := ht.inAir f attempts hair
  have hfits := h.fits
  rw [hattempts] at hfits
  have hstate : (c.commit (.pass f os c.now)).state =
    (Episode.pass f os c.now).commit c.settings c.state := rfl
  constructor
  · exact h.shown
  · exact h.prompt
  · exact h.serves
  · exact fun id hid => h.worked f attempts hair id (hin.contains_working ho hid)
  · rintro f' attempts' ⟨⟩
  · intro id hid _
    rw [hstate]
    -- an id that was in the air is known from its attempt, any other one as before
    by_cases hmem : id ∈ attempts.map (·.resource.id)
    · obtain ⟨a, ha, rfl⟩ := List.mem_map.1 hmem
      obtain ⟨out, hdone, -⟩ := exists_outcome_of_mem ho ha
      have hfit := hfits a ha
      rw [hdone] at hfit
      cases out with
      | ok r =>
        rw [hin.handle?_of_ok ho ha hdone]
        exact (Drift.Settled.recalls hfit).mono hle
      | error e =>
        rw [hin.handle?_of_error ho ha hdone]
        exact hfit
    · rw [hin.handle?_of_idle ho hmem]
      exact h.grounded id hid (hattempts ▸ hmem)
  · intro a ha
    exact absurd ha List.not_mem_nil

/-- **A resync finds what there is.** -/
theorem resync (hinj : P.InjOn settings.scope.nameOf) {discovered : List Resource}
    (hd : c.rig.discover c.scope = .ok discovered) :
    Tracks settings region P old new (c.commit (.resync discovered c.now)) := by
  have hfound : discovered = c.rig.inventory.discover settings.scope :=
    Rig.eq_of_discover h.serves.faithful.discovery (ht.scope_eq ▸ hd)
  have hregistry : (c.commit (.resync discovered c.now)).state.registry =
      Resync.adopt (c.rig.inventory.discover settings.scope) := by
    rw [← hfound]
    rfl
  constructor
  · exact h.shown
  · exact h.prompt
  · exact h.serves
  · intro id hid
    rw [hregistry, Registry.contains_eq_isSome] at hid
    obtain ⟨r, hr⟩ := Option.isSome_iff_exists.1 hid
    exact ((Resync.get?_adopt_eq_some h.serves.sound hinj).1 hr).1
  · rintro f attempts ⟨⟩
  · intro id hid _
    -- the handle is fresh, whatever the registry knew
    rw [hregistry, Resync.handle?_adopt h.serves.sound hinj hid]
    exact ⟨_, fun lb hlb => h.serves.sound.standsFor hinj hid hlb, old.refl _, rfl⟩
  · intro a ha
    exact absurd ha List.not_mem_nil

/-- **Every turn among faithful surroundings keeps the registry tracking the provider.** -/
theorem turn (hinj : P.InjOn settings.scope.nameOf) (hle : ∀ {o p}, new.rel o p → old.rel o p)
    (hturn : c.Turn (.faithful settings P new) es' c') :
    Tracks settings region P old new c' := by
  cases hturn with
  | rest => exact h
  | tick hlater => exact { h with fits := fun a ha => (h.fits a ha).later hlater }
  | view hshown => exact { h with shown := hshown }
  | publication hprompt => exact { h with prompt := hprompt }
  | rig halters =>
    obtain ⟨hregion, hfaithful, hrel⟩ := halters
    exact { h with
      serves := h.serves.drift hregion hfaithful hrel
      grounded := fun id hid hnot => (h.grounded id hid hnot).drift (hle (hrel _))
      fits := fun a ha => (h.fits a ha).drift hle (hrel _) }
  | takeOff hair => exact h.takeOff new ht hair
  | attempt hair ha hm => exact h.attempt ht hinj hair ha hm
  | answer hair ha hopen hsaid => exact hsaid.elim
  | land hair ho => exact h.land ht hle hair ho
  | resync hair hd => exact h.resync ht hinj hd

end Turns

end Tracks

/-- **Along a run among faithful surroundings the registry tracks the provider**, from an empty
provider on. -/
theorem Runs.tracks {d : Drift settings.scope} {view : View} {monitor : Monitor} {w : World}
    (hinj : P.InjOn settings.scope.nameOf) (hview : ∀ i ∈ view.declared settings, i.id ∈ P)
    (h : Runs (.faithful settings P d) (World.new settings view (Rig.new region) monitor) es w) :
    Tells settings es w.situation ∧ Tracks settings region P d d w.situation := by
  refine Runs.invariant (I := fun es c => Tells settings es c ∧ Tracks settings region P d d c)
    (orderly_new _ _ _ _) ⟨tells_new, ?_⟩ ?_ h
  · constructor
    · exact hview
    · rfl
    · exact ⟨rfl, Rig.isFaithful_new region, fun key lb hlb => by cases hlb⟩
    · rintro id ⟨⟩
    · rintro f attempts ⟨⟩
    · exact fun id _ _ => ⟨none, fun lb hlb => (by cases hlb), d.refl _, rfl⟩
    · exact fun a ha => absurd ha List.not_mem_nil
  · rintro es c es' c' ⟨ht, htracks⟩ hturn
    exact ⟨ht.turn (hturn.any fun _ _ hsaid => False.elim hsaid), htracks.turn ht hinj id hturn⟩

end World

end IngressBalancer
