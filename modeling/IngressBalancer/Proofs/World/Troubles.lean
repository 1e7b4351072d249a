import IngressBalancer.Proofs.Provider.Addresses
import IngressBalancer.Proofs.World.Tracking
/-!
# Troubled surroundings

Surroundings in which nearly all may go wrong (`Surroundings.troubled`):
faults strike before the provider is called and in its stead, publications
hang, attempts are broken off, and others delete load balancers and edit
them. So load balancers may be lost from sight, and handles lead nowhere. But
no handle ever points to the name of another id, and nothing stands anywhere
but under its own name (`Aimed`): that is kept by every turn (`Aimed.turn`).
-/

namespace IngressBalancer

/-- Troubled surroundings for some ids. -/
def Surroundings.troubled (settings : Settings) (P : Set ResourceId) : Surroundings where
  shows v := ∀ i ∈ v.declared settings, i.id ∈ P
  publishes _ := True
  alters g g' := g'.region = g.region ∧ (∀ discovered, g'.discovery ≠ some (.ok discovered)) ∧
    ∀ key, (Drift.meddling settings.scope).rel (g.inventory.get? key) (g'.inventory.get? key)
  answers _ outcome := ∃ e, outcome = .error e

/-- Whatever is answered there is no success. -/
theorem Surroundings.any_of_troubled {settings : Settings} {P : Set ResourceId} (r : Resource)
    (o : Except Failure Resource) (h : (troubled settings P).answers r o) : any.answers r o := by
  obtain ⟨e, rfl⟩ := h
  rintro r' ⟨⟩

variable {scope : Scope} {region : String} {P : Set ResourceId} {g g' : Rig}
variable {r : Resource} {now : Instant} {publication : Option Span} {a a' : Attempt}

/-! ## Rigs and attempts -/

/-- Whether a rig hosts load balancers of some ids, each under its name, and makes up no
discovery. -/
structure Rig.Hosts (scope : Scope) (region : String) (P : Set ResourceId) (g : Rig) : Prop where
  region_eq : g.region = region
  discovery : ∀ discovered, g.discovery ≠ some (.ok discovered)
  sound : g.inventory.Sound scope region P

/-- Faults are no matter. -/
theorem Rig.Hosts.of_faults {faults : SortedMap ResourceId Fault}
    (h : g.Hosts scope region P) : { g with faults := faults }.Hosts scope region P :=
  ⟨h.region_eq, h.discovery, h.sound⟩

/-- Whether an attempt aims at its own name: by the change that it has decided for, and by the
handle that it brings. -/
def Progress.Aims (scope : Scope) (region : String) (r : Resource) : Progress → Prop
  | .decided c | .reporting c _ => ∃ seen,
      (∀ lb, seen = some lb → lb.StandsFor scope region r.id) ∧ c = .decide region r seen
  | .done (.ok r') => ∀ h, r'.liveHandle? = some h → h.PointsTo scope region r.id
  | .atGate _ | .waiting .. | .hanging | .done (.error _) => True

theorem Progress.Aims.of_points {r' : Resource} (hid : r'.id = r.id) (h : r'.Points scope region) :
    (Progress.done (.ok r')).Aims scope region r := by
  intro handle hh
  rw [← hid]
  exact h handle hh

theorem Progress.IsFresh.aims {Q : Conduct → Prop} {p : Progress} (h : p.IsFresh Q) :
    p.Aims scope region r := by
  cases p with
  | decided c => exact h.elim
  | reporting c wake => exact h.elim
  | done o => exact h.elim
  | _ => trivial

/-- A fault that makes up a success keeps the handle at most. -/
theorem Conduct.points_of_outcome? {conduct : Conduct} {r' : Resource}
    (ho : conduct.outcome? r = some (.ok r')) (hr : r.Points scope region) :
    r'.Points scope region := by
  intro h hh
  cases conduct <;> cases ho
  · cases hh
  · rw [Resource.liveHandle?_markDeleted] at hh
    cases hh
  · exact hr h hh

/-- What the change of an attempt makes of its resource points to the name. -/
theorem Change.aims_of_outcome {c : Change} {seen : Option LoadBalancer}
    (hasks : r.Asks scope) (hseen : ∀ lb, seen = some lb → lb.StandsFor scope region r.id)
    (hc : c = .decide region r seen) : (Progress.done (c.outcome r)).Aims scope region r := by
  subst hc
  cases ho : (decide region r seen).outcome r with
  | error e => trivial
  | ok r' => exact .of_points (id_of_outcome ho) (points_of_outcome_decide hasks hseen ho)

/-- **A move of an attempt aims at its own name.** -/
theorem Attempt.Moves.aims (hm : a.Moves now publication g g' a')
    (hinj : P.InjOn scope.nameOf) (hg : g.Hosts scope region P) (hid : a.resource.id ∈ P)
    (hasks : a.resource.Asks scope) (hpoints : a.resource.Points scope region)
    (h : a.progress.Aims scope region a.resource) :
    g'.Hosts scope region P ∧ a'.progress.Aims scope region a.resource := by
  cases hm with
  | late => exact ⟨hg, trivial⟩
  | meet hp =>
    rw [Rig.meet_eq]
    exact ⟨hg.of_faults, (Rig.isFresh_progressOf (P := fun _ => True) trivial).aims⟩
  | @strike conduct wake o hp ho =>
    refine ⟨hg, ?_⟩
    cases o with
    | error e => trivial
    | ok r' => exact .of_points (Conduct.id_of_outcome? ho) (Conduct.points_of_outcome? ho hpoints)
  | look hp ho =>
    refine ⟨hg, _, fun lb hlb => ?_, by rw [Change.plan, hg.region_eq]⟩
    -- what the handle leads to stands under the name
    rw [Change.lookUp_of_points hg.sound hpoints, Option.bind_eq_some_iff] at hlb
    obtain ⟨-, -, hlb⟩ := hlb
    exact hg.sound.standsFor hinj hid hlb
  | change hp hnext =>
    rw [hp] at h
    obtain ⟨seen, hseen, rfl⟩ := h
    refine ⟨⟨hg.region_eq, hg.discovery, Change.sound_applyTo_decide hasks hseen hid hg.sound⟩, ?_⟩
    rcases hnext with ⟨-, rfl⟩ | ⟨-, rfl⟩
    · exact ⟨seen, hseen, rfl⟩
    · exact Change.aims_of_outcome hasks hseen rfl
  | published hp hwake =>
    rw [hp] at h
    obtain ⟨seen, hseen, hc⟩ := h
    exact ⟨hg, Change.aims_of_outcome hasks hseen hc⟩

namespace World

variable {settings : Settings} {es es' : List Episode} {c c' : Situation} {f : Flight}
variable {attempts : List Attempt} {os : List Flight.Outcome} {view : View} {monitor : Monitor}
variable {u w : World} {s : SyncState}

/-- The handle of a resource that is being reconciled is the one that is tracked. -/
theorem InAir.liveHandle?_eq (h : InAir settings s f attempts) (ha : a ∈ attempts) :
    a.resource.liveHandle? = s.registry.handle? a.resource.id := by
  have hmem := h.mem_batch ha
  obtain ⟨v, startedAt, rfl⟩ := h.setOut
  exact Flight.liveHandle?_of_mem_batch hmem

/-- Whether everything in a situation aims at its own name. -/
structure Aimed (settings : Settings) (region : String) (P : Set ResourceId) (c : Situation) :
    Prop where
  shown : ∀ i ∈ c.view.declared settings, i.id ∈ P
  hosts : c.rig.Hosts settings.scope region P
  tracked : ∀ id, c.state.registry.contains id = true → id ∈ P
  points : ∀ id h, c.state.registry.handle? id = some h → h.PointsTo settings.scope region id
  worked : ∀ f attempts, c.air = some (f, attempts) → ∀ id, f.working.contains id = true → id ∈ P
  attempts : ∀ a ∈ c.attempts, a.progress.Aims settings.scope region a.resource

namespace Aimed

/-- What a pass that sets out works on has one of the ids. -/
theorem mem_of_flight (h : Aimed settings region P c) (ht : Tells settings es c)
    {id : ResourceId} (hid : c.flight.working.contains id = true) : id ∈ P := by
  rw [ht.flight_eq, Flight.contains_working] at hid
  rcases hid with ⟨i, hi, rfl⟩ | hid
  · exact h.shown i hi
  · exact h.tracked id hid

/-- **A pass sets out with handles that point to their names.** -/
theorem takeOff (h : Aimed settings region P c) (ht : Tells settings es c) :
    Aimed settings region P c.takeOff := by
  refine ⟨h.shown, ?_, h.tracked, h.points, ?_, fun a ha => ?_⟩
  · show Rig.Hosts _ _ _ c.opened.2
    rw [Situation.opened, Rig.openAll_eq]
    exact h.hosts.of_faults
  · rintro f attempts ⟨⟩
    exact fun id hid => h.mem_of_flight ht hid
  · have hconducts : c.rig.Conducts fun _ => True := ⟨trivial, fun _ _ _ => trivial⟩
    exact ((hconducts.openAll c.now _ c.flight.batch).2 a ha).aims

section Turns

variable (h : Aimed settings region P c) (ht : Tells settings es c)
include h ht

/-- What is known of an attempt in the air. -/
theorem of_mem (hair : c.air = some (f, attempts)) (ha : a ∈ attempts) :
    a.resource.id ∈ P ∧ a.resource.Asks settings.scope ∧
      a.resource.Points settings.scope region ∧
      a.progress.Aims settings.scope region a.resource := by
  have hin := ht.inAir f attempts hair
  obtain ⟨hid, hasks⟩ := hin.asks ha (h.worked f attempts hair)
  refine ⟨hid, hasks, fun handle hh => ?_, h.attempts a (by rwa [Situation.attempts_of_air hair])⟩
  rw [hin.liveHandle?_eq ha] at hh
  exact h.points _ handle hh

theorem attempt (hinj : P.InjOn settings.scope.nameOf) (hair : c.air = some (f, attempts))
    (ha : a ∈ attempts) (hm : a.Moves c.now c.publication c.rig g a') :
    Aimed settings region P { c with rig := g, air := some (f, setAttempt attempts a') } := by
  obtain ⟨hid, hasks, hpoints, haims⟩ := h.of_mem ht hair ha
  obtain ⟨hhosts, haims'⟩ := hm.aims hinj h.hosts hid hasks hpoints haims
  refine ⟨h.shown, hhosts, h.tracked, h.points, ?_, fun b hb => ?_⟩
  · rintro f' attempts' ⟨⟩
    exact h.worked f attempts hair
  · rcases (mem_setAttempt ha hm.resource_eq).1 hb with rfl | ⟨hb, -⟩
    · rwa [hm.resource_eq]
    · exact (h.of_mem ht hair hb).2.2.2

/-- **A landing leaves handles that point to their names.** -/
theorem land (hair : c.air = some (f, attempts)) (ho : outcomes? attempts = some os) :
    Aimed settings region P (c.commit (.pass f os c.now)) := by
  have hin := ht.inAir f attempts hair
  refine ⟨h.shown, h.hosts, fun id hid => h.worked f attempts hair id (hin.contains_working ho hid),
    fun id handle hh => ?_, ?_, fun a ha => absurd ha List.not_mem_nil⟩
  · have hstate : (c.commit (.pass f os c.now)).state =
      (Episode.pass f os c.now).commit c.settings c.state := rfl
    rw [hstate] at hh
    by_cases hmem : id ∈ attempts.map (·.resource.id)
    · obtain ⟨a, ha, rfl⟩ := List.mem_map.1 hmem
      obtain ⟨out, hdone, -⟩ := exists_outcome_of_mem ho ha
      obtain ⟨-, -, hpoints, haims⟩ := h.of_mem ht hair ha
      cases out with
      | ok r =>
        rw [hin.handle?_of_ok ho ha hdone] at hh
        rw [hdone] at haims
        exact haims handle hh
      | error e =>
        rw [hin.handle?_of_error ho ha hdone] at hh
        exact hpoints handle hh
    · rw [hin.handle?_of_idle ho hmem] at hh
      exact h.points id handle hh
  · rintro f' attempts' ⟨⟩

/-- So does a resync. -/
theorem resync (hinj : P.InjOn settings.scope.nameOf) {discovered : List Resource}
    (hd : c.rig.discover c.scope = .ok discovered) :
    Aimed settings region P (c.commit (.resync discovered c.now)) := by
  have hfound : discovered = c.rig.inventory.discover settings.scope :=
    Rig.eq_of_discover h.hosts.discovery (ht.scope_eq ▸ hd)
  have hregistry : (c.commit (.resync discovered c.now)).state.registry =
      Resync.adopt (c.rig.inventory.discover settings.scope) := by
    rw [← hfound]
    rfl
  have htracked : ∀ id, (c.commit (.resync discovered c.now)).state.registry.contains id = true →
      id ∈ P := by
    intro id hid
    rw [hregistry, Registry.contains_eq_isSome] at hid
    obtain ⟨r, hr⟩ := Option.isSome_iff_exists.1 hid
    exact ((Resync.get?_adopt_eq_some h.hosts.sound hinj).1 hr).1
  refine ⟨h.shown, h.hosts, htracked, fun id handle hh => ?_, ?_,
    fun a ha => absurd ha List.not_mem_nil⟩
  · obtain ⟨r, hr, hlive⟩ := Option.bind_eq_some_iff.1 hh
    rw [hregistry] at hr
    obtain ⟨hid, lb, hlb, rfl⟩ := (Resync.get?_adopt_eq_some h.hosts.sound hinj).1 hr
    cases hlive
    exact (h.hosts.sound.standsFor hinj hid hlb).arn
  · rintro f' attempts' ⟨⟩

/-- **Every turn among troubled surroundings keeps everything aimed at its own name.** -/
theorem turn (hinj : P.InjOn settings.scope.nameOf)
    (hturn : c.Turn (.troubled settings P) es' c') : Aimed settings region P c' := by
  cases hturn with
  | view hshown => exact { h with shown := hshown }
  | rig halters =>
    obtain ⟨hregion, hdiscovery, hrel⟩ := halters
    exact { h with
      hosts := ⟨hregion.trans h.hosts.region_eq, hdiscovery, h.hosts.sound.drift hrel⟩ }
  | takeOff hair => exact h.takeOff ht
  | attempt hair ha hm => exact h.attempt ht hinj hair ha hm
  | @answer f attempts a outcome hair ha hopen hsaid =>
    obtain ⟨e, rfl⟩ := hsaid
    refine { h with worked := ?_, attempts := fun b hb => ?_ }
    · rintro f' attempts' ⟨⟩
      exact h.worked f attempts hair
    · have hsame : ({ a with progress := .done (.error e) } : Attempt).resource = a.resource := rfl
      rcases (mem_setAttempt ha hsame).1 hb with rfl | ⟨hb, -⟩
      · trivial
      · exact (h.of_mem ht hair hb).2.2.2
  | land hair ho => exact h.land ht hair ho
  | resync hair hd => exact h.resync ht hinj hd
  | _ => exact { h with }

end Turns

end Aimed

/-- **Along a run among troubled surroundings everything stays aimed at its own name.** -/
theorem Runs.aimed {es₀ : List Episode} (hinj : P.InjOn settings.scope.nameOf) (ho : u.Orderly)
    (ht : Tells settings es₀ u.situation) (ha : Aimed settings region P u.situation)
    (h : Runs (.troubled settings P) u es w) :
    Tells settings (es₀ ++ es) w.situation ∧ Aimed settings region P w.situation :=
  h.invariant_of_tells Surroundings.any_of_troubled ho ht
    (I := fun _ => Aimed settings region P) ha fun _ _ _ _ ht ha hturn => ha.turn ht hinj hturn

/-- With an empty provider and a controller that has just been made it is so. -/
theorem aimed_new (hview : ∀ i ∈ view.declared settings, i.id ∈ P) :
    Aimed settings region P (World.new settings view (Rig.new region) monitor).situation := by
  constructor
  · exact hview
  · exact ⟨rfl, fun _ h => (by cases h), fun _ _ h => by cases h⟩
  · rintro id ⟨⟩
  · rintro id h ⟨⟩
  · rintro f attempts ⟨⟩
  · exact fun a ha => absurd ha List.not_mem_nil

end World

end IngressBalancer
