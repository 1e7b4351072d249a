import IngressBalancer.Proofs.World.Tracking
/-!
# A pass repairs what others did

Others may delete the load balancers of a controller and edit them, at any
moment of any run. A pass that sets out afterwards and that nobody disturbs
(`Underway`) leaves behind, where nothing fails and nothing waits, just what
the ingresses of its view declare (`pass_repairs`): each spec that could be
built stands at the provider, with its live handle in the registry; what is
held is as it was; and nothing else is left.
-/

namespace IngressBalancer

namespace World

variable {settings : Settings} {region : String} {P : Set ResourceId} {view : View}
variable {monitor : Monitor} {w w' : World} {es : List Episode} {c₀ c c' : Situation}
variable {f : Flight} {attempts : List Attempt} {os : List Flight.Outcome} {id : ResourceId}
variable {r : Resource}

/-- A pass that set out from `c₀` is in the air, and nobody has disturbed it: what its batch does
not ask for is as it was. -/
structure Underway (settings : Settings) (region : String) (P : Set ResourceId)
    (es : List Episode) (c₀ c : Situation) : Prop where
  tells : Tells settings es c
  tracks : Tracks settings region P (.meddling _) (.still _) c
  state : c.state = c₀.state
  air : ∃ attempts, c.air = some (c₀.flight, attempts)
  idle : ∀ id ∈ P, id ∉ c₀.flight.batch.map (·.id) →
    c.rig.inventory.standing settings.scope id = c₀.rig.inventory.standing settings.scope id

namespace Underway

/-- **Every turn leaves the pass undisturbed**, as long as it commits nothing. -/
theorem turn (h : Underway settings region P es c₀ c) (hinj : P.InjOn settings.scope.nameOf)
    (hturn : c.Turn (.faithful settings P (.still _)) [] c') :
    Underway settings region P es c₀ c' := by
  have htells : Tells settings es c' := by
    have := h.tells.turn (hturn.any fun _ _ hsaid => False.elim hsaid)
    rwa [List.append_nil] at this
  have htracks := h.tracks.turn h.tells hinj Drift.rel_meddling hturn
  obtain ⟨attempts, hair⟩ := h.air
  cases hturn with
  | rig halters =>
    refine ⟨htells, htracks, h.state, h.air, fun id hid hnot => ?_⟩
    rw [← h.idle id hid hnot]
    exact (halters.2.2 _).symm
  | takeOff hnone =>
    rw [hair] at hnone
    cases hnone
  | @attempt f attempts' a a' g hair' ha hm =>
    rw [hair] at hair'
    cases hair'
    refine ⟨htells, htracks, h.state, ⟨_, rfl⟩, fun id hid hnot => ?_⟩
    have hin := h.tells.inAir _ _ hair
    obtain ⟨hid', hasks⟩ := hin.asks ha (h.tracks.worked _ _ hair)
    have hfits := h.tracks.fits a (by rwa [Situation.attempts_of_air hair])
    rw [h.tracks.prompt] at hm
    obtain ⟨-, -, hrest⟩ := hm.fits hinj h.tracks.serves hid' hasks hfits
    -- the attempt is for a resource of the batch, so it touches another name
    have hne : id ≠ a.resource.id := fun he => hnot (he ▸ List.mem_map_of_mem (hin.mem_batch ha))
    rw [← h.idle id hid hnot]
    exact hrest _ fun hname => hne (hinj hid hid' hname)
  | answer _ _ _ hsaid => exact hsaid.elim
  | _ => exact ⟨htells, htracks, h.state, h.air, h.idle⟩

end Underway

/-- A pass that has set out stays undisturbed along a run that commits nothing. -/
theorem Runs.underway {w₀ : World} (hinj : P.InjOn settings.scope.nameOf) (ho : w₀.Orderly)
    (h0 : Underway settings region P es c₀ w₀.situation)
    (h : Runs (.faithful settings P (.still _)) w₀ [] w) :
    Underway settings region P es c₀ w.situation :=
  Runs.invariant_nil ho h0 (fun _ _ hc hturn => hc.turn hinj hturn) h

/-! ## Where nothing fails and nothing waits -/

namespace Underway

/-- What is held is as it was, whatever else happens. -/
theorem standing_of_held (h : Underway settings region P es c₀ c) (ht₀ : Tells settings es c₀)
    {i : Ingress} (hi : i ∈ c₀.view.declared settings) (hid : i.id ∈ P) {e : Failure}
    (he : settings.specOf c₀.view i = .error e) :
    c.rig.inventory.standing settings.scope i.id =
      c₀.rig.inventory.standing settings.scope i.id := by
  refine h.idle i.id hid fun hmem => ?_
  obtain ⟨r, hr, hrid⟩ := List.mem_map.1 hmem
  rw [ht₀.flight_eq] at hr
  have hfree := Flight.not_held_of_mem_batch hr
  rw [hrid, DesiredSet.isHeld_build.2 ⟨i, hi, rfl, e, he⟩] at hfree
  cases hfree

section Landing

variable (h : Underway settings region P es c₀ c)
variable (hair : c.air = some (c₀.flight, attempts)) (hos : outcomes? attempts = some os)
variable (hfailures : Flight.failures os = 0)
include h hair hos hfailures

/-- Each resource of the batch has come to what it asked for. -/
theorem exists_success (hr : r ∈ c₀.flight.batch) : ∃ r', (r.id, .ok r') ∈ os ∧ r'.id = r.id ∧
    r'.desired = r.desired ∧
    r'.liveHandle? = (c.rig.inventory.standing settings.scope r.id).map (·.handle) ∧
    r.desired = (c.rig.inventory.standing settings.scope r.id).map (·.spec) := by
  rw [← (h.tells.inAir _ _ hair).batch] at hr
  obtain ⟨a, ha, rfl⟩ := List.mem_map.1 hr
  obtain ⟨out, hdone, hmem⟩ := exists_outcome_of_mem hos ha
  have hfit := h.tracks.fits a (by rwa [Situation.attempts_of_air hair])
  rw [hdone] at hfit
  cases out with
  | error e =>
    rw [Flight.failures, List.countP_eq_zero] at hfailures
    exact absurd rfl (hfailures _ hmem)
  | ok r' =>
    obtain ⟨hlive, hdesired⟩ := Drift.Settled.eq_of_still hfit
    exact ⟨r', hmem, hfit.id, hfit.desired, hlive, hdesired⟩

variable (ht₀ : Tells settings es c₀) (hd : c₀.flight.deferred = 0) (hp : c₀.flight.parked = 0)
include ht₀ hd hp

/-- **A spec that could be built stands at the provider**, with its live handle in the
registry. -/
theorem exists_standing_of_spec (hnd : ((c₀.view.declared settings).map (·.id)).Nodup)
    {i : Ingress} (hi : i ∈ c₀.view.declared settings) {spec : Spec}
    (hs : settings.specOf c₀.view i = .ok spec) :
    ∃ lb, c.rig.inventory.get? spec.loadBalancerName = some lb ∧ lb.spec = spec ∧
      (c.commit (.pass c₀.flight os c.now)).state.registry.get? i.id =
        some ⟨i.id, some spec, some lb.handle⟩ := by
  have hname : spec.loadBalancerName = settings.scope.nameOf i.id :=
    (Settings.belongsTo_of_specOf hs).name
  obtain ⟨r, hr, hrid, hrspec⟩ : ∃ r ∈ c₀.flight.batch, r.id = i.id ∧ r.desired = some spec := by
    rw [ht₀.flight_eq] at hd hp ⊢
    exact ⟨_, Flight.mem_batch_of_spec hd hp hnd hi hs, Registry.id_carried _ _, rfl⟩
  obtain ⟨r', hmem, hid, hdesired, hlive, hspec⟩ := h.exists_success hair hos hfailures hr
  rw [hrspec, hrid] at hspec
  obtain ⟨lb, hlb, hlbspec⟩ := Option.map_eq_some_iff.1 hspec.symm
  rw [hrid, hlb, Option.map_some] at hlive
  refine ⟨lb, hname ▸ hlb, hlbspec, ?_⟩
  -- the success decides about the entry, and it is live
  have hin := h.tells.inAir _ _ hair
  obtain ⟨-, -, hkeep⟩ : (Episode.pass c₀.flight os c.now).IsWhole settings c.state :=
    hin.isWhole hos
  have hids : (os.map (·.1)).Nodup := map_fst_of_outcomes? hos ▸ hin.nodup_ids
  rw [hrid] at hmem
  have hcommit : (c.commit (.pass c₀.flight os c.now)).state.registry.get? i.id =
    (some r').filter Resource.isLive := Flight.get?_commit_ok hids hkeep hmem
  have hisLive : r'.isLive = true := by
    rw [Resource.isLive, hlive]
    rfl
  have hr' : r' = ⟨i.id, some spec, some lb.handle⟩ := by
    rw [← hrid, ← hid, ← hrspec, ← hdesired, ← Resource.handle_of_liveHandle? hlive]
  rw [hcommit, Option.filter_some_pos hisLive, hr']

/-- **Nothing is left that nobody declares.** -/
theorem exists_declared_of_standing {key : String} {lb : LoadBalancer}
    (htracks₀ : Tracks settings region P (.meddling _) (.meddling _) c₀) (hair₀ : c₀.air = none)
    (hlb : c.rig.inventory.get? key = some lb) :
    ∃ i ∈ c₀.view.declared settings, lb.owner? = some i.id := by
  obtain ⟨id, hid, rfl, hstands⟩ := h.tracks.serves.sound key lb hlb
  by_contra hno
  have hdecl : ¬ c₀.view.Declares settings id := by
    rintro ⟨i, hi, rfl⟩
    exact hno ⟨i, hi, hstands.spec.owner?_eq⟩
  have hstanding : c.rig.inventory.standing settings.scope id = some lb := hlb
  cases hs : c₀.state.registry.get? id with
  | some s =>
    -- what is tracked was asked to go
    have hsid : s.toRemoval.id = id := (Registry.id_of_get? hs : s.id = id)
    have hr : s.toRemoval ∈ c₀.flight.batch := by
      rw [ht₀.flight_eq] at hd hp ⊢
      exact Flight.mem_batch_of_undeclared hd hp hdecl hs
    obtain ⟨-, -, -, -, -, hspec⟩ := h.exists_success hair hos hfailures hr
    rw [hsid, hstanding] at hspec
    cases hspec
  | none =>
    -- what is not tracked was not there
    have hnot : id ∉ c₀.flight.batch.map (·.id) := by
      rintro hmem
      obtain ⟨r, hr, rfl⟩ := List.mem_map.1 hmem
      rw [ht₀.flight_eq] at hr
      obtain ⟨s, hs', -⟩ := Flight.removal_of_mem_batch hr hdecl
      rw [hs] at hs'
      cases hs'
    have hgone := htracks₀.grounded id hid (by
      rw [Situation.attempts_of_none hair₀]
      exact List.not_mem_nil)
    rw [Registry.handle?, hs, Option.bind_none] at hgone
    rw [h.idle id hid hnot, hgone.eq_none] at hstanding
    cases hstanding

end Landing

end Underway

/-- **A pass repairs what others did.** Take whatever has happened to a controller and a provider
that were empty at first: passes and resyncs, faults that strike before the provider is called,
and others who deleted load balancers and edited them in place. When a pass sets out then, for a
view in which no two ingresses that declare a load balancer share an id, and ends without that
anybody meddles meanwhile, and without a failure and nobody waiting, then each spec that could be
built stands at the provider, with its live handle in the registry; the load balancers of held
ids are untouched; and every load balancer belongs to an id that is declared. -/
theorem pass_repairs (hinj : P.InjOn settings.scope.nameOf)
    (hview : ∀ i ∈ view.declared settings, i.id ∈ P)
    (hbefore : Runs (.faithful settings P (.meddling _))
      (World.new settings view (Rig.new region) monitor) es w)
    {t : Task} (ht : t ∈ w.tasks) (hact : t.activity = .queued .converge)
    (hheld : w.lock.isHeldBy t.number = true)
    (hdistinct : ((w.view.declared settings).map (·.id)).Nodup)
    (hduring : Runs (.faithful settings P (.still _)) (w.takeOff t) [] w')
    {t' : Task} (ht' : t' ∈ w'.tasks) (hact' : t'.activity = .converging f attempts)
    (hos : outcomes? attempts = some os)
    (hreport : let report := (f.commit w'.settings w'.state w'.metrics os w'.now).report
      report.failed = 0 ∧ report.deferred = 0 ∧ report.parked = 0) :
    (∀ i ∈ w.view.declared settings, ∀ spec, settings.specOf w.view i = .ok spec →
      ∃ lb, (w'.land t' f os).rig.inventory.get? spec.loadBalancerName = some lb ∧
        lb.spec = spec ∧ (w'.land t' f os).state.registry.get? i.id =
          some ⟨i.id, some spec, some lb.handle⟩) ∧
    (∀ i ∈ w.view.declared settings, ∀ e, settings.specOf w.view i = .error e →
      (w'.land t' f os).rig.inventory.get? (settings.scope.nameOf i.id) =
        w.rig.inventory.get? (settings.scope.nameOf i.id)) ∧
    ∀ key lb, (w'.land t' f os).rig.inventory.get? key = some lb →
      ∃ i ∈ w.view.declared settings, lb.owner? = some i.id := by
  obtain ⟨htells, htracks⟩ := hbefore.tracks hinj hview
  have ho : w.Orderly := hbefore.orderly (orderly_new _ _ _ _)
  have hair₀ : w.situation.air = none :=
    ho.air_eq_none_of_held ht hheld (by simp [Task.flying, hact])
  obtain ⟨ho₀, hoff⟩ := ho.takesOff ht hact hheld
  -- the pass sets out with what the registry knows, and nobody has disturbed it yet
  have hstart : Underway settings region P es w.situation (w.takeOff t).situation := by
    rw [hoff]
    constructor
    · have hturn : w.situation.Turn .any [] w.situation.takeOff := .takeOff hair₀
      have := htells.turn hturn
      rwa [List.append_nil] at this
    · exact htracks.takeOff _ htells hair₀
    · rfl
    · exact ⟨_, rfl⟩
    · intro id _ _
      rw [Situation.inventory_takeOff]
  have hunder : Underway settings region P es w.situation w'.situation :=
    Runs.underway hinj ho₀ hstart hduring
  have ho' : w'.Orderly := hduring.orderly ho₀
  have hair : w'.situation.air = some (f, attempts) :=
    ho'.air_of_flying ht' (Task.flying_eq_some.2 hact')
  -- the pass that ends is the one that set out
  obtain ⟨attempts', hair'⟩ := hunder.air
  rw [hair] at hair'
  cases hair'
  obtain ⟨hfailed, hd, hp⟩ := hreport
  have hfailures : Flight.failures os = 0 := Flight.failed_commit.symm.trans hfailed
  rw [rig_land, state_land]
  refine ⟨fun i hi spec hs => ?_, fun i hi e he => ?_, fun key lb hlb => ?_⟩
  · exact hunder.exists_standing_of_spec hair hos hfailures htells hd hp hdistinct hi hs
  · exact hunder.standing_of_held htells hi (htracks.shown i hi) he
  · exact hunder.exists_declared_of_standing hair hos hfailures htells hd hp htracks hair₀ hlb

/-- The world of the shop after its first pass, and after somebody has put a load balancer without
routes in the stead of what that had created. -/
def edited : World :=
  let spec := Sample.specFor Sample.shop (Sample.accepted.scope.nameOf Sample.shop)
  { openedOnce with rig := { openedOnce.rig with
    inventory := openedOnce.rig.inventory.insertExternal "us-east-1" spec } }

/-- The same world after somebody has deleted that. -/
def meddled : World := { openedOnce with rig := { openedOnce.rig with inventory := ∅ } }

/-- The same world with another pass under way. -/
def repairing : World := meddled.ask { meddled.operator with yield := none } .converge

/-- The end of that pass, before it lands: its attempt has made its three moves. -/
def repaired : World :=
  ((List.replicate 3 Sample.shop).foldlM (fun (w : World) id => w.move (.attempt 0 id))
    (repairing.takeOff repairing.operator)).getD repairing

/-- It creates the load balancer of the shop again. -/
theorem pass_repairs_meddled :
    meddled.rig.inventory.isEmpty = true ∧
    ∃ f os lb, (repaired.land repaired.operator f os).rig.inventory.get?
        lb.spec.loadBalancerName = some lb ∧
      (repaired.land repaired.operator f os).state.registry.get? Sample.shop =
        some ⟨Sample.shop, some lb.spec, some lb.handle⟩ := by
  have hinj : ({Sample.shop} : Set ResourceId).InjOn Sample.accepted.scope.nameOf :=
    Set.injOn_singleton _ _
  -- before the pass: another one, the edit, and the deletion
  have hpass : opening.obey Sample.shopPass = some openedOnce := rfl
  obtain ⟨es, hfirst⟩ := Runs.obey
    (S := .faithful Sample.accepted {Sample.shop} (.meddling _)) .start ⟨.head _, rfl, rfl⟩ hpass
  obtain ⟨-, htracks⟩ := hfirst.tracks hinj Sample.id_of_declared
  have hstands : (openedOnce.rig.inventory.standing Sample.accepted.scope Sample.shop).isSome =
      true := by decide +kernel
  obtain ⟨lb, hlb⟩ := Option.isSome_iff_exists.1 hstands
  have hspec : (Sample.specFor Sample.shop (Sample.accepted.scope.nameOf Sample.shop)).BelongsTo
      Sample.accepted.scope Sample.shop := ⟨rfl, rfl, rfl, rfl⟩
  have hedits : (Surroundings.faithful Sample.accepted {Sample.shop} (.meddling _)).alters
      openedOnce.rig edited.rig := alters_insertExternal htracks.serves hinj rfl hlb hspec
  have herased : edited.rig.inventory.erase (Sample.accepted.scope.nameOf Sample.shop) = ∅ := by
    decide +kernel
  have herases : (Surroundings.faithful Sample.accepted {Sample.shop} (.meddling _)).alters
      edited.rig _ := alters_erase hedits.2.1 (Sample.accepted.scope.nameOf Sample.shop)
  rw [herased] at herases
  have hmeddled := (hfirst.happen (.rig hedits)).happen (.rig herases)
  have hbefore := hmeddled.happen (.order .converge (.head _) rfl (.inr rfl))
  -- and during it: the moves of its attempt
  have hmoves : (List.replicate 3 Sample.shop).foldlM
    (fun (w : World) id => w.move (.attempt 0 id)) (repairing.takeOff repairing.operator) =
      some repaired := rfl
  have hduring : Runs (.faithful Sample.accepted {Sample.shop} (.still _))
    (repairing.takeOff repairing.operator) [] repaired := Runs.attempts .start hmoves
  obtain ⟨f, attempts, os, hact, hos, hreport⟩ : ∃ f attempts os,
      repaired.operator.activity = .converging f attempts ∧ outcomes? attempts = some os ∧
      let report := (f.commit repaired.settings repaired.state repaired.metrics os
        repaired.now).report
      report.failed = 0 ∧ report.deferred = 0 ∧ report.parked = 0 :=
    ⟨_, _, _, rfl, rfl, rfl, rfl, rfl⟩
  have hdistinct : ((Sample.shopView.declared Sample.accepted).map (·.id)).Nodup := by
    rw [Sample.declared_shopView]
    exact List.nodup_singleton _
  obtain ⟨hbuilt, -, -⟩ := pass_repairs hinj Sample.id_of_declared hbefore (.head _) rfl rfl
    hdistinct hduring (.head _) hact hos hreport
  have hi : Sample.ingress "default" "shop" "shop" 80 ∈
      Sample.shopView.declared Sample.accepted := by
    rw [Sample.declared_shopView]
    exact List.mem_singleton_self _
  obtain ⟨spec, hspec⟩ : ∃ spec, Sample.accepted.specOf Sample.shopView
      (Sample.ingress "default" "shop" "shop" 80) = .ok spec := ⟨_, rfl⟩
  obtain ⟨lb, hlb, rfl, hentry⟩ := hbuilt _ hi spec hspec
  exact ⟨rfl, f, os, lb, hlb, hentry⟩

end World

end IngressBalancer
