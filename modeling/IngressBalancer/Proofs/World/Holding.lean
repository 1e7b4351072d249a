import IngressBalancer.Proofs.Controller.Held
import IngressBalancer.Proofs.World.Isolation
import IngressBalancer.Proofs.World.Provisions
/-!
# Passes and what they hold

A pass leaves alone what it holds (`held_left_alone`), whatever becomes of all
the rest: it makes no call for it, keeps its entry and its record, does not
remove it, and reports about it once. Nor does the pass touch a load balancer
whose address no resource of its batch claims. Without that nothing would be
certain (`held_overwritten`): the name of a load balancer has only fifteen
digits of a hash, so two ids may share one, and then the other id makes its own
load balancer of the one that is held.
-/

namespace IngressBalancer

namespace Sample

/-- A view with the shop and the cafe, in which the service behind the shop is gone. -/
def strandedView : View where
  ingresses := [ingress "default" "shop" "shop" 80, ingress "default" "cafe" "cafe" 80]
  nodes := []
  service? s _ := if s = cafe then some (nodePortService "default" "cafe" 80 30080) else none
  configMap? _ := none

/-- Two ids for which the first fifteen digits of the hash are the same. -/
def elder : ResourceId := ⟨"default", "bcadd6df0e6cb42"⟩

def younger : ResourceId := ⟨"default", "28aac3e623f19b9"⟩

/-- A view with the elder one and the service behind it. -/
def elderView : View where
  ingresses := [ingress "default" elder.name "first" 80]
  nodes := []
  service? s _ :=
    if s.name = "first" then some (nodePortService "default" "first" 80 30080) else none
  configMap? _ := none

/-- A view with both, in which the service behind the elder one is gone. -/
def twinsView : View where
  ingresses := [ingress "default" elder.name "first" 80,
    ingress "default" younger.name "second" 80]
  nodes := []
  service? s _ :=
    if s.name = "second" then some (nodePortService "default" "second" 80 30080) else none
  configMap? _ := none

end Sample

/-- **A pass does not claim the address of what it holds**, where the names of the ids that it works
on differ and the handles that are tracked point to their own names. -/
theorem Flight.not_claims_of_held {settings : Settings} {region : String} {id : ResourceId}
    {s : SyncState} {now : Instant} {v : View}
    (hinj : {id | (Flight.start settings v s now).working.contains id = true}.InjOn
      settings.scope.nameOf)
    (hpoints : ∀ id h, s.registry.handle? id = some h → h.PointsTo settings.scope region id)
    (hid : (DesiredSet.build settings v s.registry).held.contains id = true) :
    ∀ r ∈ (Flight.start settings v s now).batch,
      ¬ r.Claims region (Provider.arn region (settings.scope.nameOf id)) := by
  intro r hr hclaims
  have hworked : (Flight.start settings v s now).working.contains id = true := by
    obtain ⟨i, hi, hi', -⟩ := DesiredSet.isHeld_build.1 hid
    exact Flight.contains_working.2 (.inl ⟨i, hi, hi'⟩)
  -- whatever the resource claims has its own name
  have hname : settings.scope.nameOf r.id = settings.scope.nameOf id := by
    rcases hclaims with hclaims | hclaims
    · obtain ⟨h, hh, harn⟩ := Option.map_eq_some_iff.1 hclaims
      rw [Flight.liveHandle?_of_mem_batch hr] at hh
      exact Provider.arn_injective ((hpoints _ h hh).symm.trans harn)
    · obtain ⟨spec, hspec, harn⟩ := Option.map_eq_some_iff.1 hclaims
      rw [(Flight.asks_of_mem_batch hr spec hspec).name] at harn
      exact Provider.arn_injective harn
  have hsame : r.id = id := hinj (Flight.contains_of_mem_batch hr) hworked hname
  exact Flight.not_mem_batch_of_held hid (List.mem_map.2 ⟨r, hr, hsame⟩)

namespace World

variable {settings : Settings} {view : View} {region : String} {monitor : Monitor}
variable {es : List Episode} {u w : World} {t t' : Task} {f : Flight} {attempts : List Attempt}
variable {os : List Flight.Outcome} {id : ResourceId} {i : Ingress} {e : Failure}

/-! ## While a pass is in the air -/

/-- **Nothing is reported but about its batch.** -/
theorem Runs.silent (ho : u.Orderly) (ht : Tells settings es u.situation)
    (hair : u.air = some (f, attempts)) (hid : id ∉ f.batch.map (·.id)) {es' : List Episode}
    (h : Runs .any u es' w) (hnil : es' = []) : w.reportsOf id = u.reportsOf id := by
  induction h with
  | start => rfl
  | @happen es₁ es₂ w w' hrun hw ih =>
    obtain ⟨rfl, rfl⟩ := List.append_eq_nil_iff.1 hnil
    obtain ⟨⟨attempts', hair'⟩, -⟩ := hrun.aloft ho hair
    obtain ⟨new, hnotes, hnew⟩ := notes_of_happens (hrun.orderly ho) hw
    have hnone : new.filter (·.id = id) = [] := by
      cases hnotes with
      | nothing => rfl
      | problems f hnobody =>
        rw [hair'] at hnobody
        cases hnobody
      | @change f' attempts₁ a c e hair₁ ha hc he =>
        rw [hair'] at hair₁
        cases hair₁
        have hbatch := ((hrun.tells_append ho ht).inAir _ _ hair').mem_batch ha
        have hne : e.id ≠ id := fun heq =>
          hid (heq ▸ Change.id_of_event? he ▸ List.mem_map_of_mem hbatch)
        rw [List.filter_cons_of_neg (by simpa using hne), List.filter_nil]
    rw [reportsOf_append hnew, hnone, List.append_nil, ih rfl]

section SetOut

variable (ho : u.Orderly) (htells : Tells settings es u.situation) (ht : t ∈ u.tasks)
variable (hact : t.activity = .queued .converge) (hheld : u.lock.isHeldBy t.number = true)
include ho htells ht hact hheld

/-- Since a pass set out, only its problems were reported about an id that is not in its batch. -/
theorem Runs.reportsOf_eq_told (hid : id ∉ u.situation.flight.batch.map (·.id))
    (h : Runs .any (u.takeOff t) [] w) : w.reportsOf id = u.told id := by
  obtain ⟨ho₁, -⟩ := ho.takesOff ht hact hheld
  have hoff : (u.takeOff t).reportsOf id = u.told id := reportsOf_append events_takeOff
  rw [h.silent ho₁ (htells.takeOff ho ht hact hheld) (ho.air_takeOff ht hact hheld) hid rfl, hoff]

/-- Where the spec of an ingress cannot be built, one warning is published about it from when a pass
sets out until it has landed. -/
theorem Runs.reportsOf_land_of_error (hnd : ((u.view.declared settings).map (·.id)).Nodup)
    (hi : i ∈ u.view.declared settings) (he : settings.specOf u.view i = .error e)
    (h : Runs .any (u.takeOff t) [] w) (hflown : Flown settings es u w f attempts)
    (hos : outcomes? attempts = some os) : (w.land t' f os).reportsOf i.id =
      u.reportsOf i.id ++ [⟨i.id, .warning,
        if e.isLookup then "LookupFailed" else "InvalidIngress", e.message⟩] := by
  obtain ⟨-, hcovers, hkeep⟩ := hflown.isWhole hos
  have hflight : f = u.situation.flight := hflown.flight.trans htells.flight_eq.symm
  have hbatch : i.id ∉ f.batch.map (·.id) := by
    rw [hflown.flight]
    exact Flight.not_mem_batch_of_held (Flight.held_of_error hi he)
  have hproblems : f.problemEvents.filter (·.id = i.id) = [Flight.problemEvent (i.id, e)] := by
    rw [hflown.flight]
    exact Flight.problemEvents_of_error hi he hnd
  have hlanding : (f.tally w.settings.retry os).events.filter (·.id = i.id) = [] := by
    rw [hflown.flight] at hcovers ⊢
    exact Flight.reports_of_error hi he hcovers hkeep _
  have htold := h.reportsOf_eq_told ho htells ht hact hheld (hflight ▸ hbatch)
  rw [told, ← hflight, hproblems, Flight.problemEvent_eq] at htold
  rw [reportsOf_land, hlanding, List.append_nil, htold]

/-- **Since a pass set out, no load balancer has changed whose address none of its resources
claims**, where nobody else is at the provider. -/
theorem Runs.findByArn_eq (hp : Provisions region u.situation)
    (h : Runs .handsOff (u.takeOff t) [] w) {arn : String}
    (harn : ∀ r ∈ u.situation.flight.batch, ¬ r.Claims region arn) :
    w.rig.inventory.findByArn arn = u.rig.inventory.findByArn arn := by
  obtain ⟨ho₁, hoff⟩ := ho.takesOff ht hact hheld
  have hp₁ : Provisions region (u.takeOff t).situation := hoff ▸ hp.takeOff
  have hp' : Provisions region w.situation :=
    (h.mono Surroundings.handsOff_within_outOfBand).provisions ho₁ hp₁
  have hinv : (u.takeOff t).rig.inventory = u.rig.inventory := by
    rw [← rig_situation, hoff]
    exact u.situation.inventory_takeOff
  refine Inventory.findByArn_congr hp.provides.reaches.named hp'.provides.reaches.named
    fun name hname => ?_
  exact (h.spares ho₁ (htells.takeOff ho ht hact hheld) hp₁ (ho.air_takeOff ht hact hheld)
    fun r hr => hname ▸ harn r hr).trans (by rw [hinv])

end SetOut

/-! ## What is held -/

/-- **A pass leaves alone what it holds.** Take whatever has happened to a controller, and whatever
others have done at its provider: created load balancers under any names and with any tags, changed
them and removed them. A pass sets out then, with no two declared ingresses of one id, and lands,
whatever happens meanwhile. Where the spec of an ingress cannot be built, no call is made for it;
its record stays as it is, with all that is in it, and so does its entry, or there is none; it is
not removed; and one warning is published about it. And where nobody else is at the provider
meanwhile, each load balancer stays as it is whose address no resource of the batch claims. That is
so of the one under the name of the ingress where all ids that the pass works on go by different
names, and all handles that are tracked point to the names of their ids. -/
theorem held_left_alone
    (hbefore : Runs .outOfBand (World.new settings view (Rig.new region) monitor) es u)
    (ht : t ∈ u.tasks) (hact : t.activity = .queued .converge)
    (hheld : u.lock.isHeldBy t.number = true) (hnd : ((u.view.declared settings).map (·.id)).Nodup)
    (hi : i ∈ u.view.declared settings) (he : settings.specOf u.view i = .error e)
    (hduring : Runs .any (u.takeOff t) [] w) (ht' : t' ∈ w.tasks)
    (hact' : t'.activity = .converging f attempts) (hos : outcomes? attempts = some os) :
    let w' := w.land t' f os
    (∃ calls, w'.calls = u.calls ++ calls ∧ i.id ∉ calls.map (·.id)) ∧
      w'.state.retries.get? i.id = u.state.retries.get? i.id ∧
      w'.state.registry.get? i.id = u.state.registry.get? i.id ∧
      i.id ∉ (w.landingReport f os).removed ∧
      w'.reportsOf i.id = u.reportsOf i.id ++ [⟨i.id, .warning,
        if e.isLookup then "LookupFailed" else "InvalidIngress", e.message⟩] ∧
      (Runs .handsOff (u.takeOff t) [] w → ∀ arn, (∀ r ∈ f.batch, ¬ r.Claims region arn) →
        w'.rig.inventory.findByArn arn = u.rig.inventory.findByArn arn) ∧
      (Runs .handsOff (u.takeOff t) [] w →
        {id | f.working.contains id = true}.InjOn settings.scope.nameOf →
        (∀ id h, u.state.registry.handle? id = some h → h.PointsTo settings.scope region id) →
        let arn := Provider.arn region (settings.scope.nameOf i.id)
        w'.rig.inventory.findByArn arn = u.rig.inventory.findByArn arn) := by
  intro w'
  have ho : u.Orderly := hbefore.orderly (orderly_new _ _ _ _)
  have htells : Tells settings es u.situation :=
    (hbefore.mono Surroundings.outOfBand_within_any).tells
  have h : Flown settings es u w f attempts := hduring.flown ho htells ht hact hheld ht' hact'
  obtain ⟨-, hcovers, hkeep⟩ := h.isWhole hos
  have hflight : f = u.situation.flight := h.flight.trans htells.flight_eq.symm
  have hcommit : w'.state = (Episode.pass f os w.now).commit w.settings w.state := state_land
  have hlive : ∀ r ∈ u.state.registry.toList, r.isLive = true := htells.committed.sound.live
  have hbatch : i.id ∉ f.batch.map (·.id) := by
    rw [h.flight]
    exact Flight.not_mem_batch_of_held (Flight.held_of_error hi he)
  have hspares : Runs .handsOff (u.takeOff t) [] w → ∀ arn,
      (∀ r ∈ f.batch, ¬ r.Claims region arn) →
        w'.rig.inventory.findByArn arn = u.rig.inventory.findByArn arn := by
    intro hquiet arn harn
    rw [show w'.rig = w.rig from rig_land]
    exact hquiet.findByArn_eq ho htells ht hact hheld
      (hbefore.provisions (orderly_new _ _ _ _) provisions_new) (hflight ▸ harn)
  refine ⟨⟨f.batch.map (Call.of u.now), ?_, ?_⟩, ?_, ?_, ?_, ?_, hspares,
    fun hquiet hinj hpoints => hspares hquiet _ ?_⟩
  · exact (congrArg Situation.calls (h.lands hos ht' hact').2.1).trans h.calls
  · rwa [Call.map_id_of]
  · rw [hcommit]
    rw [h.flight] at hcovers ⊢
    exact Flight.get?_retries_commit_of_error hi he hcovers hkeep
  · rw [hcommit]
    rw [h.flight] at hcovers ⊢
    exact Flight.get?_registry_commit_of_error hi he hcovers hkeep hnd hlive
  · rw [h.flight]
    exact Flight.not_mem_removed_of_declared hi
  · exact hduring.reportsOf_land_of_error ho htells ht hact hheld hnd hi he h hos
  · rw [h.flight] at hinj ⊢
    exact Flight.not_claims_of_held hinj hpoints (Flight.held_of_error hi he)

/-- A world that shows something else, and whose operator is about to set out for a pass. -/
def turnedTo (w : World) (v : View) : World :=
  ({ w with view := v } : World).ask { w.operator with yield := none } .converge

theorem Runs.turnedTo {w₀ : World} (h : Runs .outOfBand w₀ es w) (hidle : w.IsIdle) (v : View) :
    Runs .outOfBand w₀ es (w.turnedTo v) := by
  have hshows : w.Happens .outOfBand [] { w with view := v } := .view trivial
  have hasks : ({ w with view := v } : World).Happens .outOfBand [] (w.turnedTo v) :=
    .order .converge hidle.1 hidle.2.1 (.inr hidle.2.2)
  have hruns := Runs.happen (.happen h hshows) hasks
  rwa [List.append_nil, List.append_nil] at hruns

/-- A world after its operator has set out for a pass, and some moves of the attempts. -/
def flownBy (u : World) (ids : List ResourceId) : World :=
  (ids.foldlM (fun (w : World) id => w.move (.attempt 0 id)) (u.takeOff u.operator)).getD u

theorem runs_flownBy {S : Surroundings} {ids : List ResourceId}
    (h : (ids.foldlM (fun (w : World) id => w.move (.attempt 0 id))
      (u.takeOff u.operator)).isSome = true) :
    Runs S (u.takeOff u.operator) [] (u.flownBy ids) := by
  obtain ⟨w, hw⟩ := Option.isSome_iff_exists.1 h
  rw [flownBy, hw]
  exact .attempts .start hw

/-- The shop has its load balancer, but the service behind it is gone, and a pass is about to set
out for the cafe. -/
def stranded : World := openedOnce.turnedTo Sample.strandedView

theorem runs_stranded : ∃ es, Runs .outOfBand opening es stranded := by
  have hfirst : opening.obey Sample.shopPass = some openedOnce := rfl
  obtain ⟨es, hruns⟩ := (Runs.start (S := .outOfBand)).obey ⟨.head _, rfl, rfl⟩ hfirst
  exact ⟨es, hruns.turnedTo ⟨.head _, rfl, rfl⟩ _⟩

/-- What is to be checked where different ids go by different names. -/
theorem injOn_of_all {g : Registry} {name : ResourceId → String}
    (h : (g.ids.all fun a => g.ids.all fun b => name a != name b || a = b) = true) :
    {id | g.contains id = true}.InjOn name := by
  intro a ha b hb heq
  have hb' := List.all_eq_true.1 (List.all_eq_true.1 h a (Registry.mem_ids_iff.2 ha)) b
    (Registry.mem_ids_iff.2 hb)
  simpa [heq] using hb'

/-- What is to be checked where handles point to the names of their ids. -/
theorem pointsTo_of_all {g : Registry} {scope : Scope} {region : String}
    (h : (g.ids.all fun id => (g.handle? id).all fun h =>
      h.arn = Provider.arn region (scope.nameOf id)) = true) :
    ∀ id h, g.handle? id = some h → h.PointsTo scope region id := by
  intro id handle hid
  obtain ⟨r, hr, -⟩ := Option.bind_eq_some_iff.1 hid
  have hmem : id ∈ g.ids := Registry.mem_ids_iff.2 (by rw [Registry.contains_eq_isSome, hr]; rfl)
  have hall := List.all_eq_true.1 h id hmem
  rw [hid, Option.all_some, decide_eq_true_eq] at hall
  exact hall

/-- The pass creates the load balancer of the cafe, and leaves that of the shop. -/
theorem held_left_alone_stranded :
    let w := stranded.flownBy [Sample.cafe, Sample.cafe, Sample.cafe]
    ∃ f os, w.IsAtEnd w.operator f os ∧ (w.landingReport f os).succeeded = 1 ∧
      ((w.land w.operator f os).reportsOf Sample.shop).map (·.reason) =
        ["CREATE", "LookupFailed"] ∧
      (w.land w.operator f os).state.registry.get? Sample.shop =
        stranded.state.registry.get? Sample.shop ∧
      (∃ h, stranded.state.registry.handle? Sample.shop = some h ∧
        (w.land w.operator f os).rig.inventory.findByArn h.arn =
          stranded.rig.inventory.findByArn h.arn) ∧
      let arn := Provider.arn "us-east-1" (Sample.accepted.scope.nameOf Sample.shop)
      (stranded.rig.inventory.findByArn arn).isSome = true ∧
        (w.land w.operator f os).rig.inventory.findByArn arn =
          stranded.rig.inventory.findByArn arn := by
  intro w
  obtain ⟨es, hbefore⟩ := runs_stranded
  obtain ⟨f, attempts, os, h, hact, hos, hone, hh, hclaims, hnames⟩ : ∃ f attempts os h,
      w.operator.activity = .converging f attempts ∧ outcomes? attempts = some os ∧
        (w.landingReport f os).succeeded = 1 ∧
        stranded.state.registry.handle? Sample.shop = some h ∧
        (∀ r ∈ f.batch, ¬ r.Claims "us-east-1" h.arn) ∧
        (f.working.ids.all fun a => f.working.ids.all fun b =>
          Sample.accepted.scope.nameOf a != Sample.accepted.scope.nameOf b || a = b) = true :=
    ⟨_, _, _, _, rfl, rfl, rfl, rfl, by decide +kernel, by decide +kernel⟩
  have hmem : stranded.operator ∈ stranded.tasks := .head _
  have hmem' : w.operator ∈ w.tasks := .head _
  have hduring : ∀ S, Runs S (stranded.takeOff stranded.operator) [] w := fun _ =>
    runs_flownBy rfl
  obtain ⟨-, -, hentry, -, hreports, hinv, hown⟩ := held_left_alone hbefore hmem rfl rfl
    (by decide) (.head _) rfl (hduring _) hmem' hact hos
  have hreasons : ((w.land w.operator f os).reportsOf Sample.shop).map (·.reason) =
      (stranded.reportsOf Sample.shop).map (·.reason) ++ ["LookupFailed"] :=
    (congrArg (List.map (·.reason)) hreports).trans (List.map_append)
  have hpoints : ∀ id h, stranded.state.registry.handle? id = some h →
      h.PointsTo Sample.accepted.scope "us-east-1" id := pointsTo_of_all (by decide +kernel)
  exact ⟨f, os, ⟨hmem', _, hact, hos⟩, hone, hreasons, hentry,
    ⟨h, hh, hinv (hduring _) _ hclaims⟩, by decide +kernel,
    hown (hduring _) (injOn_of_all hnames) hpoints⟩

/-- A world with the elder twin, after a pass. -/
def twinsOnce : World :=
  let twins := World.new Sample.accepted Sample.elderView (Rig.new "us-east-1") .empty
  (twins.obey (.converge, [.task 0, .attempt 0 Sample.elder, .attempt 0 Sample.elder,
    .attempt 0 Sample.elder, .task 0])).getD twins

/-- The service behind the elder one is gone, and a pass is about to set out for the younger. -/
def twinsApart : World := twinsOnce.turnedTo Sample.twinsView

/-- **What is held may be overwritten.** The elder twin has its load balancer and is held, since the
service behind it is gone. A pass creates that of the younger; nobody else is at the provider. But
the two go by one name, so what stands at the address of the elder is another load balancer when
the pass has landed. -/
theorem held_overwritten :
    let u := twinsApart
    let w := u.flownBy [Sample.younger, Sample.younger, Sample.younger]
    ∃ es t' f os i e h, Runs .outOfBand
        (World.new Sample.accepted Sample.elderView (Rig.new "us-east-1") .empty) es u ∧
      u.operator ∈ u.tasks ∧ u.operator.activity = .queued .converge ∧
      u.lock.isHeldBy u.operator.number = true ∧
      ((u.view.declared Sample.accepted).map (·.id)).Nodup ∧
      i ∈ u.view.declared Sample.accepted ∧ Sample.accepted.specOf u.view i = .error e ∧
      u.state.registry.handle? i.id = some h ∧
      Runs .handsOff (u.takeOff u.operator) [] w ∧ w.IsAtEnd t' f os ∧
      (w.land t' f os).rig.inventory.findByArn h.arn ≠ u.rig.inventory.findByArn h.arn := by
  intro u w
  have hfirst : (World.new Sample.accepted Sample.elderView (Rig.new "us-east-1") .empty).obey
      (.converge, [.task 0, .attempt 0 Sample.elder, .attempt 0 Sample.elder,
        .attempt 0 Sample.elder, .task 0]) = some twinsOnce := rfl
  obtain ⟨es, hruns⟩ := (Runs.start (S := .outOfBand)).obey ⟨.head _, rfl, rfl⟩ hfirst
  have hbefore := hruns.turnedTo ⟨.head _, rfl, rfl⟩ Sample.twinsView
  -- the pass is at its end
  have hdone : (w.air.bind fun x => outcomes? x.2).isSome = true := by decide +kernel
  obtain ⟨os, hos⟩ := Option.isSome_iff_exists.1 hdone
  obtain ⟨⟨f, attempts⟩, hair, hos⟩ := Option.bind_eq_some_iff.1 hos
  obtain ⟨t', ht', hflying⟩ := List.exists_of_findSome?_eq_some hair
  have hend : w.IsAtEnd t' f os := ⟨ht', attempts, Task.flying_eq_some.1 hflying, hos⟩
  have hother : (u.state.registry.handle? Sample.elder).any (fun h =>
      w.rig.inventory.findByArn h.arn ≠ u.rig.inventory.findByArn h.arn) = true := by
    decide +kernel
  obtain ⟨h, hh, hne⟩ := (Option.any_eq_true _ _).1 hother
  refine ⟨es, t', f, os, _, _, h, hbefore, .head _, rfl, rfl, by decide, .head _, rfl, hh,
    runs_flownBy (by decide +kernel), hend, ?_⟩
  rw [rig_land]
  exact of_decide_eq_true hne

end World

end IngressBalancer
