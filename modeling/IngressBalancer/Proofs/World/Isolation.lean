import IngressBalancer.Proofs.World.Endings
/-!
# Passes apart from order and failures

Two ends of a pass that set out from one world, be it with other faults
(`World.under`). To an id whose attempt meets the same fault in both they
are the same (`Ended.alike`): its attempt is on the same course, and nothing
that becomes of the other ids has to do with it. So what fails fails alone
(`failures_stay_apart`), and where all faults are the same, nothing depends
on the order in which the attempts move (`order_is_no_matter`).
-/

namespace IngressBalancer

namespace Sample

/-- The ingress next to the shop. -/
def cafe : ResourceId := ⟨"default", "cafe"⟩

/-- A view with the shop and the cafe, and a service behind each. -/
def streetView : View where
  ingresses := [ingress "default" "shop" "shop" 80, ingress "default" "cafe" "cafe" 80]
  nodes := []
  service? s _ := some (nodePortService s.nspace s.name 80 30080)
  configMap? _ := none

/-- A table in which the cafe panics. -/
def panicking : SortedMap ResourceId Fault :=
  SortedMap.insert ∅ cafe ⟨.panic "fire", 0, none⟩

theorem injOn_street : Set.InjOn accepted.scope.nameOf {shop, cafe} := by
  have hne : accepted.scope.nameOf shop ≠ accepted.scope.nameOf cafe := by decide +kernel
  exact Set.injOn_pair.2 fun hname => absurd hname hne

theorem id_of_declared_street :
    ∀ i ∈ streetView.declared accepted, i.id ∈ ({shop, cafe} : Set ResourceId) := by
  intro i hi
  have hdeclared : streetView.declared accepted =
    [ingress "default" "shop" "shop" 80, ingress "default" "cafe" "cafe" 80] := rfl
  rw [hdeclared] at hi
  rcases List.mem_pair.1 hi with rfl | rfl
  · exact .inl rfl
  · exact .inr rfl

end Sample

/-- Whether two passes had the same in mind: what they report is the same, but for what has become
of it. -/
structure PassReport.SamePlan (report report' : PassReport) : Prop where
  declared : report.declared = report'.declared
  removed : report.removed = report'.removed
  dispatched : report.dispatched = report'.dispatched
  held : report.held = report'.held
  deferred : report.deferred = report'.deferred
  parked : report.parked = report'.parked

theorem PassReport.SamePlan.trans {r r' r'' : PassReport} (h : r.SamePlan r')
    (h' : r'.SamePlan r'') : r.SamePlan r'' :=
  ⟨h.declared.trans h'.declared, h.removed.trans h'.removed, h.dispatched.trans h'.dispatched,
    h.held.trans h'.held, h.deferred.trans h'.deferred, h.parked.trans h'.parked⟩

theorem PassReport.SamePlan.symm {r r' : PassReport} (h : r.SamePlan r') : r'.SamePlan r :=
  ⟨h.declared.symm, h.removed.symm, h.dispatched.symm, h.held.symm, h.deferred.symm,
    h.parked.symm⟩

/-- What a pass has in mind, as a report without outcomes. -/
def Flight.plan (f : Flight) : PassReport :=
  ⟨f.desired.resources.size, f.removed.map (·.id), f.batch.length, 0, 0, f.desired.held.size,
    f.deferred, f.parked, 0, 0⟩

theorem Flight.samePlan_commit {f : Flight} {settings : Settings} {state : SyncState}
    {metrics : Metrics} {os : List Outcome} {now : Instant} :
    (f.commit settings state metrics os now).report.SamePlan f.plan :=
  ⟨rfl, rfl, rfl, rfl, rfl, rfl⟩

namespace World

variable {settings : Settings} {region : String} {P : Set ResourceId} {es : List Episode}
variable {view : View} {monitor : Monitor} {u w w₁ w₂ : World} {t t₁ t₂ : Task}
variable {f f₁ f₂ : Flight} {attempts₁ attempts₂ : List Attempt}
variable {os os₁ os₂ : List Flight.Outcome} {id : ResourceId}
variable {faults₁ faults₂ : SortedMap ResourceId Fault}

/-- A world with other faults. -/
def under (u : World) (faults : SortedMap ResourceId Fault) : World :=
  u.alterRig fun g => { g with faults := faults }

/-- Whether two worlds are the same to an id: by its entry, its retry record, what stands under its
name, and what was reported about it. -/
structure Alike (id : ResourceId) (w w' : World) : Prop where
  entry : w.state.registry.get? id = w'.state.registry.get? id
  record : w.state.retries.get? id = w'.state.retries.get? id
  standing : w.rig.inventory.standing w.settings.scope id =
    w'.rig.inventory.standing w'.settings.scope id
  reports : w.reportsOf id = w'.reportsOf id

/-- The faults do not matter to a pass that is about to set out. -/
theorem Departs.under (h : Departs P es u t) (faults : SortedMap ResourceId Fault) :
    Departs P es (u.under faults) t where
  orderly := h.orderly.congr rfl rfl
  tells := ⟨h.tells.same, h.tells.committed, h.tells.inAir⟩
  aimed := { h.aimed with hosts := h.aimed.hosts.of_faults }
  mem := h.mem
  queued := h.queued
  held := h.held
  gates := h.gates

/-- An attempt that meets the same fault is on the same course. -/
theorem courseOf_under {r : Resource} (h : faults₁.get? r.id = faults₂.get? r.id) :
    (u.under faults₁).courseOf r = (u.under faults₂).courseOf r := by
  have hfault : ((u.under faults₁).rig.meet r.id).1 = ((u.under faults₂).rig.meet r.id).1 :=
    Rig.meet_fst_congr h
  rw [courseOf, hfault]
  rfl

theorem reportsOf_land : (w.land t f os).reportsOf id =
    w.reportsOf id ++ (f.tally w.settings.retry os).events.filter (·.id = id) :=
  reportsOf_append events_land

theorem settings_land : (w.land t f os).settings = w.settings := by
  simp only [land]
  obtain ⟨u, -, -, -, hu⟩ := finish_eq _ t _
  rw [hu]
  rfl

namespace Ended

variable (h₁ : Ended P es (u.under faults₁) w₁ f₁ attempts₁ os₁)
variable (h₂ : Ended P es (u.under faults₂) w₂ f₂ attempts₂ os₂)
include h₁ h₂

theorem flight_eq : f₁ = f₂ :=
  (h₁.onCourse.flight_eq h₁.air).trans (h₂.onCourse.flight_eq h₂.air).symm

variable (hfault : faults₁.get? id = faults₂.get? id)
include hfault

/-- The attempt for an id has the same outcome. -/
theorem mem_outcomes_iff (out : Except Failure Resource) : (id, out) ∈ os₁ ↔ (id, out) ∈ os₂ := by
  rw [h₁.onCourse.outcomes_eq h₁.air h₁.done, h₂.onCourse.outcomes_eq h₂.air h₂.done,
    List.mem_map, List.mem_map]
  refine exists_congr fun r => and_congr_right fun _ => ?_
  rw [Prod.mk.injEq, Prod.mk.injEq]
  refine and_congr_right fun hid => ?_
  rw [courseOf_under (hid ▸ hfault)]

/-- The same has been reported about it. -/
theorem reportsOf_eq : w₁.reportsOf id = w₂.reportsOf id := by
  by_cases hbatch : id ∈ u.situation.flight.batch.map (·.id)
  · obtain ⟨r, hr, rfl⟩ := List.mem_map.1 hbatch
    rw [h₁.onCourse.reportsOf_eq h₁.air h₁.done hr, h₂.onCourse.reportsOf_eq h₂.air h₂.done hr,
      courseOf_under hfault]
    rfl
  · rw [h₁.onCourse.silent id hbatch, h₂.onCourse.silent id hbatch]
    rfl

/-- And the same stands under its name. -/
theorem standing_eq (hinj : P.InjOn u.settings.scope.nameOf) (hid : id ∈ P) :
    w₁.rig.inventory.standing u.settings.scope id =
      w₂.rig.inventory.standing u.settings.scope id := by
  by_cases hbatch : id ∈ u.situation.flight.batch.map (·.id)
  · obtain ⟨r, hr, rfl⟩ := List.mem_map.1 hbatch
    have hleft₁ := h₁.onCourse.standing_eq h₁.air h₁.done hr
    have hleft₂ := h₂.onCourse.standing_eq h₂.air h₂.done hr
    rw [courseOf_under hfault] at hleft₁
    exact hleft₁.trans hleft₂.symm
  · -- nothing in the batch has its name
    have hname : ∀ r ∈ u.situation.flight.batch,
        u.settings.scope.nameOf id ≠ u.settings.scope.nameOf r.id := by
      intro r hr hname
      obtain ⟨a, ha, rfl⟩ := h₁.onCourse.exists_attempt h₁.air hr
      have hair := h₁.air
      rw [h₁.onCourse.flight_eq h₁.air] at hair
      have hmem := (h₁.onCourse.of_mem ha hair).2.1
      exact hbatch (hinj hid hmem hname ▸ List.mem_map_of_mem hr)
    exact (h₁.onCourse.others _ hname).trans (h₂.onCourse.others _ hname).symm

/-- **To an id that meets the same fault two ends are the same**, after the landing too. -/
theorem alike (hinj : P.InjOn u.settings.scope.nameOf) (hid : id ∈ P) :
    (w₁.land t₁ f₁ os₁).Alike id (w₂.land t₂ f₂ os₂) := by
  obtain rfl : f₁ = f₂ := h₁.flight_eq h₂
  have hsettings₁ : w₁.settings = u.settings := h₁.onCourse.tells.same
  have hsettings₂ : w₂.settings = u.settings := h₂.onCourse.tells.same
  have hstate₁ : w₁.state = u.state := h₁.state
  have hstate₂ : w₂.state = u.state := h₂.state
  have hin₁ := h₁.onCourse.tells.inAir _ _ h₁.air
  have hin₂ := h₂.onCourse.tells.inAir _ _ h₂.air
  have hwhole₁ : (Episode.pass f₁ os₁ w₁.now).IsWhole u.settings w₁.state := hin₁.isWhole h₁.done
  have hwhole₂ : (Episode.pass f₁ os₂ w₂.now).IsWhole u.settings w₂.state := hin₂.isWhole h₂.done
  have hnd₁ : (os₁.map (·.1)).Nodup := map_fst_of_outcomes? h₁.done ▸ hin₁.nodup_ids
  have hnd₂ : (os₂.map (·.1)).Nodup := map_fst_of_outcomes? h₂.done ▸ hin₂.nodup_ids
  have hagree : Flight.Tally.Agree id (f₁.tally u.settings.retry os₁)
      (f₁.tally u.settings.retry os₂) :=
    Flight.Tally.agree_foldl_take_of_iff hnd₁ hnd₂ hwhole₁.2.2 hwhole₂.2.2
      (h₁.mem_outcomes_iff h₂ hfault)
  constructor
  · rw [state_land, state_land, hsettings₁, hsettings₂, hstate₁, hstate₂]
    exact (Flight.commit_agree hagree).1
  · rw [state_land, state_land, hsettings₁, hsettings₂, hstate₁, hstate₂]
    exact (Flight.commit_agree hagree).2
  · rw [settings_land, settings_land, rig_land, rig_land, hsettings₁, hsettings₂]
    exact h₁.standing_eq h₂ hfault hinj hid
  · rw [reportsOf_land, reportsOf_land, hsettings₁, hsettings₂, hagree.reports,
      h₁.reportsOf_eq h₂ hfault]

end Ended

/-- **In what order the attempts of a pass move does not show at its end.** -/
theorem Ended.eq_of_order (h₁ : Ended P es u w₁ f₁ attempts₁ os₁)
    (h₂ : Ended P es u w₂ f₂ attempts₂ os₂) :
    f₁ = f₂ ∧ os₁ = os₂ ∧ w₁.rig.inventory = w₂.rig.inventory ∧
      ∀ id, w₁.reportsOf id = w₂.reportsOf id := by
  -- each is an end under the faults that are there
  have h₁' : Ended P es (u.under u.rig.faults) w₁ f₁ attempts₁ os₁ := h₁
  have h₂' : Ended P es (u.under u.rig.faults) w₂ f₂ attempts₂ os₂ := h₂
  have hos : os₁ = os₂ := (h₁.onCourse.outcomes_eq h₁.air h₁.done).trans
    (h₂.onCourse.outcomes_eq h₂.air h₂.done).symm
  refine ⟨h₁'.flight_eq h₂', hos, SortedMap.ext_get? fun key => ?_, fun id => ?_⟩
  · by_cases hkey : ∃ r ∈ u.situation.flight.batch, key = u.settings.scope.nameOf r.id
    · obtain ⟨r, hr, rfl⟩ := hkey
      exact (h₁.onCourse.standing_eq h₁.air h₁.done hr).trans
        (h₂.onCourse.standing_eq h₂.air h₂.done hr).symm
    · simp only [not_exists, not_and] at hkey
      exact (h₁.onCourse.others key hkey).trans (h₂.onCourse.others key hkey).symm
  · exact h₁'.reportsOf_eq h₂' rfl

/-- After whatever has happened, a task that holds the lock for a pass is about to set out. -/
theorem Runs.departs (hinj : P.InjOn settings.scope.nameOf)
    (hview : ∀ i ∈ view.declared settings, i.id ∈ P)
    (hbefore : Runs (.troubled settings P)
      (World.new settings view (Rig.new region) monitor) es u)
    (ht : t ∈ u.tasks) (hact : t.activity = .queued .converge)
    (hheld : u.lock.isHeldBy t.number = true) (hgates : u.rig.gates = []) :
    u.settings = settings ∧ Departs P es u t := by
  obtain ⟨htells, haimed⟩ := hbefore.aimed hinj (orderly_new _ _ _ _) tells_new (aimed_new hview)
  obtain rfl : u.settings = settings := htells.same
  obtain rfl : u.rig.region = region := haimed.hosts.region_eq
  exact ⟨rfl, hbefore.orderly (orderly_new _ _ _ _), htells, haimed, ht, hact, hheld, hgates⟩

/-- A shop with a cafe next door, and a pass that is about to set out for both. -/
def street : World :=
  let w := World.new Sample.accepted Sample.streetView (Rig.new "us-east-1") .empty
  w.ask { w.operator with yield := none } .converge

/-- The street under some faults, after moves of the attempts for these. -/
def streetAfter (faults : SortedMap ResourceId Fault) (ids : List ResourceId) : World :=
  (ids.foldlM (fun (w : World) id => w.move (.attempt 0 id))
    ((street.under faults).takeOff street.operator)).getD street

theorem runs_street : Runs (.troubled Sample.accepted {Sample.shop, Sample.cafe})
    (World.new Sample.accepted Sample.streetView (Rig.new "us-east-1") .empty) [] street :=
  Runs.happen .start (.order .converge (.head _) rfl (.inr rfl))

theorem unfolds_streetAfter {faults : SortedMap ResourceId Fault} {ids : List ResourceId}
    (h : (ids.foldlM (fun (w : World) id => w.move (.attempt 0 id))
      ((street.under faults).takeOff street.operator)).isSome = true) :
    Unfolds (.steady Sample.accepted {Sample.shop, Sample.cafe} street.publication)
      ((street.under faults).takeOff street.operator) (streetAfter faults ids) := by
  obtain ⟨w, hw⟩ := Option.isSome_iff_exists.1 h
  rw [streetAfter, hw]
  exact .foldlM_move .start hw

/-- **What fails fails alone.** Take whatever has happened to a controller and a provider that were
empty at first: passes and resyncs, faults of all kinds, and others who deleted load balancers and
edited them in place. When a pass sets out then, under one table of faults or under another, and
nobody meddles until it lands, it can be brought to its end wherever it is. Where the two tables
agree on an id, it comes to the same for this id, whatever the faults of the others: its entry, its
retry record, its load balancer and the reports about it, and so does all that the pass had in
mind. The clock goes on as the attempts need it, so the slowest may keep all others waiting. -/
theorem failures_stay_apart (hinj : P.InjOn settings.scope.nameOf)
    (hview : ∀ i ∈ view.declared settings, i.id ∈ P)
    (hbefore : Runs (.troubled settings P)
      (World.new settings view (Rig.new region) monitor) es u)
    (ht : t ∈ u.tasks) (hact : t.activity = .queued .converge)
    (hheld : u.lock.isHeldBy t.number = true) (hgates : u.rig.gates = [])
    (hid : id ∈ P) (hfault : faults₁.get? id = faults₂.get? id) :
    (∀ faults w, Unfolds (.steady settings P u.publication) ((u.under faults).takeOff t) w →
      ∃ w' t' f os, Unfolds (.steady settings P u.publication) w w' ∧ w'.IsAtEnd t' f os) ∧
    ∀ w₁ t₁ f₁ os₁ w₂ t₂ f₂ os₂,
      Unfolds (.steady settings P u.publication) ((u.under faults₁).takeOff t) w₁ →
      w₁.IsAtEnd t₁ f₁ os₁ →
      Unfolds (.steady settings P u.publication) ((u.under faults₂).takeOff t) w₂ →
      w₂.IsAtEnd t₂ f₂ os₂ →
      (w₁.land t₁ f₁ os₁).Alike id (w₂.land t₂ f₂ os₂) ∧
        (w₁.landingReport f₁ os₁).SamePlan (w₂.landingReport f₂ os₂) := by
  obtain ⟨rfl, hdeparts⟩ := hbefore.departs hinj hview ht hact hheld hgates
  refine ⟨fun faults w hw => (hdeparts.under faults).exists_landing hinj hw, ?_⟩
  intro w₁ t₁ f₁ os₁ w₂ t₂ f₂ os₂ hw₁ hend₁ hw₂ hend₂
  obtain ⟨attempts₁, h₁⟩ := (hdeparts.under faults₁).ended hinj hw₁ hend₁
  obtain ⟨attempts₂, h₂⟩ := (hdeparts.under faults₂).ended hinj hw₂ hend₂
  refine ⟨h₁.alike h₂ hfault hinj hid, ?_⟩
  obtain rfl : f₁ = f₂ := h₁.flight_eq h₂
  exact Flight.samePlan_commit.trans Flight.samePlan_commit.symm

/-- When the attempt for the cafe panics, the shop is none the wiser. -/
theorem failures_stay_apart_street :
    let calm := streetAfter ∅
      [Sample.shop, Sample.shop, Sample.shop, Sample.cafe, Sample.cafe, Sample.cafe]
    let alarmed := streetAfter Sample.panicking
      [Sample.cafe, Sample.shop, Sample.shop, Sample.shop]
    ∃ f₁ os₁ f₂ os₂, calm.IsAtEnd calm.operator f₁ os₁ ∧ Flight.failures os₁ = 0 ∧
      alarmed.IsAtEnd alarmed.operator f₂ os₂ ∧ Flight.failures os₂ = 1 ∧
      (calm.land calm.operator f₁ os₁).Alike Sample.shop
        (alarmed.land alarmed.operator f₂ os₂) := by
  intro calm alarmed
  obtain ⟨f₁, os₁, hend₁, hnone⟩ : ∃ f os, calm.IsAtEnd calm.operator f os ∧
      Flight.failures os = 0 := ⟨_, _, ⟨.head _, _, rfl, rfl⟩, rfl⟩
  obtain ⟨f₂, os₂, hend₂, hone⟩ : ∃ f os, alarmed.IsAtEnd alarmed.operator f os ∧
      Flight.failures os = 1 := ⟨_, _, ⟨.head _, _, rfl, rfl⟩, rfl⟩
  obtain ⟨-, hends⟩ := failures_stay_apart Sample.injOn_street Sample.id_of_declared_street
    runs_street (.head _) rfl rfl rfl (.inl rfl) (show (∅ : SortedMap ResourceId Fault).get?
      Sample.shop = Sample.panicking.get? Sample.shop from rfl)
  obtain ⟨halike, -⟩ := hends calm _ f₁ os₁ alarmed _ f₂ os₂ (unfolds_streetAfter rfl) hend₁
    (unfolds_streetAfter rfl) hend₂
  exact ⟨f₁, os₁, f₂, os₂, hend₁, hnone, hend₂, hone, halike⟩

/-- **The order of the attempts is no matter.** Take whatever has happened to a controller and a
provider that were empty at first: passes and resyncs, faults of all kinds, and others who deleted
load balancers and edited them in place. When a pass sets out then, and nobody meddles until it
lands, its attempts may move in any order, each looking at the inventory and changing it in steps
of their own, on a clock that goes on when no attempt can move. However they do, the pass can be
brought to its end, and that is always the same: the inventory, the outcome of each attempt and the
reports about each id, and so are the state and the report when it lands. -/
theorem order_is_no_matter (hinj : P.InjOn settings.scope.nameOf)
    (hview : ∀ i ∈ view.declared settings, i.id ∈ P)
    (hbefore : Runs (.troubled settings P)
      (World.new settings view (Rig.new region) monitor) es u)
    (ht : t ∈ u.tasks) (hact : t.activity = .queued .converge)
    (hheld : u.lock.isHeldBy t.number = true) (hgates : u.rig.gates = []) :
    (∀ w, Unfolds (.steady settings P u.publication) (u.takeOff t) w →
      ∃ w' t' f os, Unfolds (.steady settings P u.publication) w w' ∧ w'.IsAtEnd t' f os) ∧
    ∀ w₁ t₁ f₁ os₁ w₂ t₂ f₂ os₂,
      Unfolds (.steady settings P u.publication) (u.takeOff t) w₁ → w₁.IsAtEnd t₁ f₁ os₁ →
      Unfolds (.steady settings P u.publication) (u.takeOff t) w₂ → w₂.IsAtEnd t₂ f₂ os₂ →
      os₁ = os₂ ∧ w₁.rig.inventory = w₂.rig.inventory ∧
        (∀ id, w₁.reportsOf id = w₂.reportsOf id) ∧
        w₁.landingReport f₁ os₁ = w₂.landingReport f₂ os₂ ∧
        { (w₁.land t₁ f₁ os₁).state with lastUpdate := none } =
          { (w₂.land t₂ f₂ os₂).state with lastUpdate := none } ∧
        ∀ id, (w₁.land t₁ f₁ os₁).reportsOf id = (w₂.land t₂ f₂ os₂).reportsOf id := by
  obtain ⟨rfl, hdeparts⟩ := hbefore.departs hinj hview ht hact hheld hgates
  refine ⟨fun w hw => hdeparts.exists_landing hinj hw, ?_⟩
  intro w₁ t₁ f₁ os₁ w₂ t₂ f₂ os₂ hw₁ hend₁ hw₂ hend₂
  obtain ⟨attempts₁, h₁⟩ := hdeparts.ended hinj hw₁ hend₁
  obtain ⟨attempts₂, h₂⟩ := hdeparts.ended hinj hw₂ hend₂
  obtain ⟨rfl, rfl, hinventory, hreports⟩ := h₁.eq_of_order h₂
  have hsettings₁ : w₁.settings = u.settings := h₁.onCourse.tells.same
  have hsettings₂ : w₂.settings = u.settings := h₂.onCourse.tells.same
  refine ⟨rfl, hinventory, hreports, ?_, ?_, fun id => ?_⟩
  · rw [landingReport, landingReport, hsettings₁, hsettings₂, h₁.state, h₂.state]
    exact Flight.report_commit_congr _
  · rw [state_land, state_land, hsettings₁, hsettings₂, h₁.state, h₂.state]
    exact Flight.state_commit_later
  · rw [reportsOf_land, reportsOf_land, hsettings₁, hsettings₂, hreports]

/-- Whether the shop comes first or both are at it at once, the street looks the same. -/
theorem order_is_no_matter_street :
    let first := streetAfter ∅
      [Sample.shop, Sample.shop, Sample.shop, Sample.cafe, Sample.cafe, Sample.cafe]
    let mixed := streetAfter ∅
      [Sample.cafe, Sample.shop, Sample.shop, Sample.cafe, Sample.cafe, Sample.shop]
    ∃ f₁ os₁ f₂ os₂, first.IsAtEnd first.operator f₁ os₁ ∧ Flight.failures os₁ = 0 ∧
      mixed.IsAtEnd mixed.operator f₂ os₂ ∧ os₁ = os₂ ∧
      first.rig.inventory = mixed.rig.inventory := by
  intro first mixed
  obtain ⟨f₁, os₁, hend₁, hnone⟩ : ∃ f os, first.IsAtEnd first.operator f os ∧
      Flight.failures os = 0 := ⟨_, _, ⟨.head _, _, rfl, rfl⟩, rfl⟩
  obtain ⟨f₂, os₂, hend₂⟩ : ∃ f os, mixed.IsAtEnd mixed.operator f os :=
    ⟨_, _, .head _, _, rfl, rfl⟩
  obtain ⟨-, hends⟩ := order_is_no_matter Sample.injOn_street Sample.id_of_declared_street
    runs_street (.head _) rfl rfl rfl
  obtain ⟨hos, hinventory, -⟩ := hends first _ f₁ os₁ mixed _ f₂ os₂ (unfolds_streetAfter rfl)
    hend₁ (unfolds_streetAfter rfl) hend₂
  exact ⟨f₁, os₁, f₂, os₂, hend₁, hnone, hend₂, hos, hinventory⟩

end World

end IngressBalancer
