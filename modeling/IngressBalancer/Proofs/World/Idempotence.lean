import IngressBalancer.Proofs.World.Accounts
import IngressBalancer.Proofs.World.Undisturbed
/-!
# A pass again changes nothing

After an undisturbed pass without failures, in which nobody had to wait, the
state is quiescent. When a pass sets out for the same view again, each of its
attempts finds what its resource asks for and keeps it (`Keeping`). So it can
always be finished (`Keeping.exists_landing`), and leaves the registry, the
inventory, the counts and the retry book as they were (`pass_idempotent`).
-/

namespace IngressBalancer

/-- Whether an attempt has come so far without a change and without a failure. -/
def Progress.IsCalm : Progress → Prop
  | .waiting .. | .decided _ | .done (.ok _) => True
  | .atGate _ | .hanging | .reporting .. | .done (.error _) => False

/-- How many moves are left to a calm attempt. -/
def Progress.movesLeft : Progress → Nat
  | .waiting .. => 2
  | .decided _ => 1
  | _ => 0

/-- A calm attempt that is not done waits or has decided. -/
theorem Progress.IsCalm.waiting_or_decided {p : Progress} (h : p.IsCalm)
    (hopen : ∀ out, p ≠ .done out) :
    (∃ conduct wake, p = .waiting conduct wake) ∨ ∃ c, p = .decided c := by
  cases p with
  | waiting conduct wake => exact .inl ⟨conduct, wake, rfl⟩
  | decided c => exact .inr ⟨c, rfl⟩
  | done out => exact absurd rfl (hopen out)
  | _ => exact h.elim

variable {region : String} {now : Instant} {publication : Option Span} {g g' : Rig}
variable {a a' : Attempt} {o : Option LoadBalancer} {r : Resource}

/-- A change that was decided on for what rests keeps it. -/
theorem Progress.Works.keeps {c : Change} (h : (Progress.decided c).Works region now r o)
    (hr : r.Rests o) : ∃ lb, c = .keep lb := by
  obtain ⟨lb, hlb⟩ : ∃ lb, Change.decide region r (r.liveHandle?.bind fun _ => o) = .keep lb :=
    Change.decide_of_rests hr
  exact ⟨lb, h.trans hlb⟩

/-- **An attempt for what rests leaves the inventory alone**, and stays calm. -/
theorem Attempt.Moves.calm (hm : a.Moves now publication g g' a')
    (hw : a.progress.Works region now a.resource o) (hr : a.resource.Rests o)
    (hcalm : a.progress.IsCalm) : g'.inventory = g.inventory ∧ a'.progress.IsCalm := by
  cases hm with
  | late hd hopen hundecided hwaiting hpublishing =>
    -- a calm attempt can go on at any time, so it is never late
    rcases hcalm.waiting_or_decided hopen with ⟨conduct, wake, hp⟩ | ⟨c, hp⟩
    · rw [hp] at hw
      exact absurd hw.2 (Nat.not_le.2 (hwaiting conduct wake hp))
    · exact absurd hp (hundecided c)
  | meet hp =>
    rw [hp] at hcalm
    exact hcalm.elim
  | strike hp ho =>
    rw [hp] at hw
    rw [hw.1] at ho
    cases ho
  | look hp ho => exact ⟨rfl, trivial⟩
  | change hp hnext =>
    rw [hp] at hw
    obtain ⟨lb, rfl⟩ := hw.keeps hr
    rcases hnext with ⟨hloud, -⟩ | ⟨-, rfl⟩
    · exact absurd rfl hloud
    · exact ⟨rfl, trivial⟩
  | published hp hwake =>
    rw [hp] at hcalm
    exact hcalm.elim

namespace World

variable {settings : Settings} {P : Set ResourceId} {es : List Episode} {c₀ c c' : Situation}
variable {f f' : Flight} {attempts attempts' : List Attempt} {os : List Flight.Outcome}
variable {u u' v w w' : World} {t t' t₁ : Task} {view : View} {monitor : Monitor}

/-- A pass in the air, undisturbed, that only keeps what there is. -/
structure Keeping (settings : Settings) (region : String) (P : Set ResourceId)
    (es : List Episode) (c₀ c : Situation) : Prop where
  working : Working settings region P es c₀ c
  rests : ∀ r ∈ c₀.flight.batch, r.Rests (c₀.rig.inventory.standing settings.scope r.id)
  inventory : c.rig.inventory = c₀.rig.inventory
  calm : ∀ a ∈ c.attempts, a.progress.IsCalm

namespace Keeping

variable (h : Keeping settings region P es c₀ c)
include h

theorem rests_of_mem (hair : c.air = some (f, attempts)) (ha : a ∈ attempts) :
    a.resource.Rests (c.rig.inventory.standing settings.scope a.resource.id) := by
  obtain ⟨attempts', hair'⟩ := h.working.air
  rw [hair] at hair'
  cases hair'
  rw [h.inventory]
  exact h.rests _ ((h.working.tells.inAir _ _ hair).mem_batch ha)

theorem turn (hinj : P.InjOn settings.scope.nameOf) (hturn : c.Turn (.quiet settings P) [] c') :
    Keeping settings region P es c₀ c' := by
  have hworking := h.working.turn hinj hturn
  cases hturn with
  | rig halters => exact ⟨hworking, h.rests, halters.2.2.trans h.inventory, h.calm⟩
  | takeOff hnone =>
    obtain ⟨attempts, hair⟩ := h.working.air
    rw [hair] at hnone
    cases hnone
  | @attempt f attempts a a' g hair ha hm =>
    have hattempts := Situation.attempts_of_air hair
    obtain ⟨hinv, hcalm⟩ := hm.calm (h.working.works a (hattempts ▸ ha)) (h.rests_of_mem hair ha)
      (h.calm a (hattempts ▸ ha))
    refine ⟨hworking, h.rests, hinv.trans h.inventory, fun b hb => ?_⟩
    rcases (mem_setAttempt ha hm.resource_eq).1 hb with rfl | ⟨hb, -⟩
    · exact hcalm
    · exact h.calm b (hattempts ▸ hb)
  | answer _ _ _ hsaid => exact hsaid.elim
  | _ => exact ⟨hworking, h.rests, h.inventory, h.calm⟩

/-- **Every attempt succeeds with what it was given.** -/
theorem exists_of_mem_outcomes (hair : c.air = some (f, attempts))
    (hos : outcomes? attempts = some os) : ∀ o ∈ os, ∃ r ∈ f.batch, o = (r.id, .ok r) := by
  intro o ho
  obtain ⟨a, ha, hdone, hid⟩ := exists_of_mem_outcomes? hos ho
  have hattempts := Situation.attempts_of_air hair
  have hcalm := h.calm a (hattempts ▸ ha)
  have hworks := h.working.works a (hattempts ▸ ha)
  rw [hdone] at hcalm hworks
  obtain ⟨id, out⟩ := o
  cases out with
  | error e => exact hcalm.elim
  | ok r' =>
    have hsame : r' = a.resource := hworks.eq_of_rests (h.rests_of_mem hair ha)
    refine ⟨a.resource, (h.working.tells.inAir _ _ hair).mem_batch ha, ?_⟩
    rw [hsame, show id = a.resource.id from hid]

end Keeping

/-- **A pass that sets out from a quiescent state only keeps what there is.** -/
theorem Keeping.takeOff (ht : Tells settings es c) (ha : Aimed settings region P c)
    (hair : c.air = none) (hfaults : c.rig.faults = ∅) (hgates : c.rig.gates = [])
    (hq : c.state.Quiescent settings c.view c.rig.inventory) :
    Keeping settings region P es c c.takeOff where
  working := .takeOff ht ha hair hfaults hgates
  rests r hr := by
    rw [ht.flight_eq] at hr
    exact hq.rests_of_mem_batch hr
  inventory := c.inventory_takeOff
  calm a hmem := by
    rw [opened_of_clear hfaults hgates hmem]
    trivial

theorem Runs.keeping (hinj : P.InjOn settings.scope.nameOf) (ho : u.Orderly)
    (h₀ : Keeping settings region P es c₀ u.situation) (h : Runs (.quiet settings P) u [] w) :
    Keeping settings region P es c₀ w.situation :=
  Runs.invariant_nil ho h₀ (fun _ _ hc hturn => hc.turn hinj hturn) h

/-! ## Such a pass can be finished -/

/-- How many moves are left to some attempts. -/
def movesLeft : List Attempt → Nat
  | [] => 0
  | a :: as => a.progress.movesLeft + movesLeft as

theorem movesLeft_eq (attempts : List Attempt) :
    movesLeft attempts = Attempt.total (·.progress.movesLeft) attempts := by
  induction attempts with
  | nil => rfl
  | cons a as ih => rw [movesLeft, ih, Attempt.total]

/-- A move of one attempt leaves fewer. -/
theorem movesLeft_setAttempt (hnd : (attempts.map (·.resource.id)).Nodup) (ha : a ∈ attempts)
    (hr : a'.resource = a.resource) (hlt : a'.progress.movesLeft < a.progress.movesLeft) :
    movesLeft (setAttempt attempts a') < movesLeft attempts := by
  rw [movesLeft_eq, movesLeft_eq]
  exact total_setAttempt_lt (·.progress.movesLeft) hnd ha hr hlt

namespace Keeping

/-- An attempt that is not done can go on at once. -/
theorem exists_advance (h : Keeping settings region P es c₀ w.situation)
    (hair : w.situation.air = some (f, attempts)) (ha : a ∈ attempts)
    (hopen : ∀ o, a.progress ≠ .done o) : ∃ a' w', w.advance a = some (a', w') ∧
      a'.progress.movesLeft < a.progress.movesLeft := by
  have hattempts := Situation.attempts_of_air hair
  have hworks := h.working.works a (hattempts ▸ ha)
  rcases (h.calm a (hattempts ▸ ha)).waiting_or_decided hopen with ⟨conduct, wake, hp⟩ | ⟨c, hp⟩
  · rw [hp] at hworks ⊢
    obtain ⟨rfl, hwake⟩ := hworks
    have hnow : wake ≤ w.now := hwake
    refine ⟨{ a with progress := .decided (.plan w.rig.region w.rig.inventory a.resource) }, w,
      ?_, Nat.lt_add_one 1⟩
    simp only [advance, hp, if_pos hnow]
    rfl
  · rw [hp] at hworks ⊢
    obtain ⟨lb, rfl⟩ := hworks.keeps (h.rests_of_mem hair ha)
    exact ⟨{ a with progress := .done ((Change.keep lb).outcome a.resource) },
      w.alterRig fun g => { g with inventory := (Change.keep lb).applyTo g.inventory },
      by simp only [advance, hp, Change.event?], Nat.zero_lt_one⟩

/-- **Wherever the pass is, it can be finished**: the moves that are left to its attempts get
fewer, and each of them is possible. -/
theorem exists_landing (hinj : P.InjOn settings.scope.nameOf) (ho : w.Orderly)
    (h : Keeping settings region P es c₀ w.situation) (ht : t ∈ w.tasks)
    (hact : t.activity = .converging f attempts) :
    ∃ w' t' attempts' os, Runs (.quiet settings P) w [] w' ∧ t' ∈ w'.tasks ∧
      t'.activity = .converging f attempts' ∧ outcomes? attempts' = some os := by
  induction hn : movesLeft attempts using Nat.strongRecOn generalizing w t attempts with
  | ind n ih =>
    by_cases hdone : ∀ a ∈ attempts, ∃ o, a.progress = .done o
    · obtain ⟨os, hos⟩ := exists_outcomes? hdone
      exact ⟨w, t, attempts, os, .start, ht, hact, hos⟩
    · simp only [not_forall, not_exists] at hdone
      obtain ⟨a, ha, hopen⟩ := hdone
      have hair : w.situation.air = some (f, attempts) :=
        ho.air_of_flying ht (Task.flying_eq_some.2 hact)
      have hnd := (h.working.tells.inAir _ _ hair).nodup_ids
      obtain ⟨a', w₁, hadv, hlt⟩ := h.exists_advance hair ha hopen
      have hmove : w.Happens (.quiet settings P) []
          (w₁.put { t with activity := .converging f (setAttempt attempts a') }) :=
        .move _ (ho.move_attempt ht hact hnd ha hadv)
      have hrun : Runs (.quiet settings P) w []
          (w₁.put { t with activity := .converging f (setAttempt attempts a') }) :=
        Runs.happen .start hmove
      obtain ⟨hm, events, hw₁⟩ := moves_of_advance hadv
      have ht₁ : t ∈ w₁.tasks := by
        rw [hw₁]
        exact ht
      obtain ⟨w', t', attempts', os, hrest, hlanding⟩ := ih _
        (hn ▸ movesLeft_setAttempt hnd ha hm.resource_eq hlt) (hrun.orderly ho)
        (hrun.keeping hinj ho h) (mem_put.2 (.inl ⟨rfl, t, ht₁, rfl⟩)) rfl rfl
      exact ⟨w', t', attempts', os, hrun.trans hrest, hlanding⟩

end Keeping

/-! ## One pass after another -/

/-- Whatever happens in quiet surroundings may happen among any. -/
theorem Runs.any_of_quiet (h : Runs (.quiet settings P) u es w) : Runs .any u es w :=
  Runs.any (S := .quiet settings P) (fun _ _ hsaid => False.elim hsaid) h

/-- **An undisturbed pass that lands without failures, and in which nobody had to wait, leaves a
quiescent state.** -/
theorem Flown.quiescent (h : Flown settings es u v f attempts) (t : Task)
    (hw : Working settings region P es c₀ v.situation) (hos : outcomes? attempts = some os)
    (hreport : let report := (f.commit v.settings v.state v.metrics os v.now).report
      report.failed = 0 ∧ report.deferred = 0 ∧ report.parked = 0) :
    (v.land t f os).state.Quiescent settings u.view v.rig.inventory := by
  obtain ⟨hfailed, hdeferred, hparked⟩ := hreport
  have hattains := hw.attains h.air h.flight h.state hos (Flight.failed_commit.symm.trans hfailed)
    hdeferred hparked
  have hsettings : v.settings = settings := h.tells.same
  rw [state_land, hsettings, h.state, h.flight]
  exact hattains.quiescent_commit

/-- Nobody touches the inventory along a run that commits nothing, as long as no pass sets
out. -/
theorem Runs.inventory_eq (ho : u.Orderly) (h : Runs (.quiet settings P) u [] w)
    (hair : w.air = none) : w.rig.inventory = u.rig.inventory := by
  -- a pass that has set out stays in the air
  refine Runs.invariant_nil (I := fun c => c.air = none → c.rig.inventory = u.rig.inventory) ho
    (fun _ => rfl) (fun c c' hc hturn => ?_) h hair
  cases hturn with
  | rig halters => exact fun hnone => halters.2.2.trans (hc hnone)
  | takeOff => exact fun hnone => by cases hnone
  | attempt => exact fun hnone => by cases hnone
  | answer => exact fun hnone => by cases hnone
  | _ => exact hc

/-- Whether a pass that sets out at `u`, and is in the air at `w`, lands without having changed
anything, and says so. -/
structure ChangesNothing (u w : World) (t : Task) (f : Flight) (os : List Flight.Outcome) :
    Prop where
  registry : (w.land t f os).state.registry = u.state.registry
  inventory : (w.land t f os).rig.inventory = u.rig.inventory
  counts : (w.land t f os).state.namespaceCounts = u.state.namespaceCounts
  retries : (w.land t f os).state.retries = u.state.retries
  report : let report := (f.commit w.settings w.state w.metrics os w.now).report
    report.removed = [] ∧ report.failed = 0 ∧ report.deferred = 0 ∧ report.parked = 0
  events : ∃ events, (w.land t f os).events = u.events ++ events ∧
    ∀ e ∈ events, e.what.isChange = false

section Again

variable (ht : t ∈ u.tasks) (hact : t.activity = .queued .converge)
variable (hheld : u.lock.isHeldBy t.number = true) (ho : u.Orderly)
variable (hinj : P.InjOn settings.scope.nameOf)
variable (hk : Keeping settings region P es u.situation (u.takeOff t).situation)
include ht hact hheld ho hinj hk

/-- A pass that only keeps what there is reports no change. -/
theorem Keeping.isChange_eq_false (hrun : Runs (.quiet settings P) (u.takeOff t) [] w) :
    ∃ events, (w.land t' f os).events = u.events ++ events ∧
      ∀ e ∈ events, e.what.isChange = false := by
  have ho₁ := (ho.takesOff ht hact hheld).1
  obtain ⟨during, hduring, hquiet⟩ := hrun.isChange_eq_false ho₁
    (fun x hx f attempts hair a ha c hc => by
      have hkx : Keeping settings region P es u.situation x.situation :=
        hx.keeping hinj ho₁ hk
      have hworks := hkx.working.works a (by rwa [Situation.attempts_of_air hair])
      rw [hc] at hworks
      obtain ⟨lb, rfl⟩ := hworks.keeps (hkx.rests_of_mem hair ha)
      rfl) rfl
  refine ⟨_, by rw [events_land, hduring, events_takeOff, List.append_assoc, List.append_assoc],
    fun e he => ?_⟩
  simp only [List.mem_append, List.mem_map] at he
  rcases he with ⟨e, he, rfl⟩ | he | ⟨e, he, rfl⟩
  · obtain ⟨p, -, rfl⟩ := List.mem_map.1 he
    exact (Flight.isFailure_problemEvent p).2
  · exact hquiet e he
  · exact (Flight.isFailure_of_mem_tally he).2

/-- **A pass from a quiescent state changes nothing.** -/
theorem Flown.changesNothing (h : Flown settings es u w f attempts)
    (htells : Tells settings es u.situation)
    (hq : u.state.Quiescent settings u.view u.rig.inventory)
    (hrun : Runs (.quiet settings P) (u.takeOff t) [] w) (ht' : t' ∈ w.tasks)
    (hact' : t'.activity = .converging f attempts) (hos : outcomes? attempts = some os) :
    ChangesNothing u w t' f os := by
  have hkeeping : Keeping settings region P es u.situation w.situation :=
    hrun.keeping hinj (ho.takesOff ht hact hheld).1 hk
  have hsame := hkeeping.exists_of_mem_outcomes h.air hos
  have hfailures : Flight.failures os = 0 := by
    rw [Flight.failures, List.countP_eq_zero]
    intro o hmem
    obtain ⟨r, -, rfl⟩ := hsame o hmem
    exact Bool.false_ne_true
  have hland : (w.land t' f os).state =
      ((Flight.start settings u.view u.state u.now).commit settings u.state .empty os w.now).state := by
    rw [state_land, show w.settings = settings from h.tells.same, h.state, h.flight]
    rfl
  have hcovers := (h.isWhole hos).2.1
  rw [h.flight] at hsame hcovers
  obtain ⟨hregistry, hretries⟩ : (w.land t' f os).state.registry = u.state.registry ∧
      (w.land t' f os).state.retries = u.state.retries := by
    rw [hland]
    exact hq.commit_eq hcovers hsame
  obtain ⟨-, -, hafter⟩ := h.lands hos ht' hact'
  constructor
  · exact hregistry
  · rw [rig_land]
    exact hkeeping.inventory
  · have hcounted : (w.land t' f os).state.namespaceCounts =
      (w.land t' f os).state.registry.namespaceCounts := hafter.committed.sound.counted
    rw [hcounted, hregistry]
    exact htells.committed.sound.counted.symm
  · exact hretries
  · refine ⟨?_, Flight.failed_commit.trans hfailures, ?_, ?_⟩
    · show f.removed.map (·.id) = []
      rw [h.flight, hq.removed_eq_nil, List.map_nil]
    · show f.deferred = 0
      rw [h.flight, hq.none_waiting.1]
    · show f.parked = 0
      rw [h.flight, hq.none_waiting.2]
  · exact hk.isChange_eq_false ht hact hheld ho hinj hrun

end Again

/-- **A pass again changes nothing.** Take whatever has happened to a controller and a provider
that were empty at first: passes and resyncs, faults of all kinds, and others who deleted load
balancers and edited them in place. When a pass sets out then, where no fault is set and no gate
is up, and ends without that anybody meddles meanwhile, without a failure, and with nobody
deferred or parked, then a pass that sets out for the same view at any later time, likewise
undisturbed, can be finished wherever it is, and changes nothing when it lands: neither the
registry nor the inventory, the counts or the retry book; it removes nothing, fails in nothing,
lets nobody wait, and reports no change at the provider. -/
theorem pass_idempotent (hinj : P.InjOn settings.scope.nameOf)
    (hview : ∀ i ∈ view.declared settings, i.id ∈ P)
    (hbefore : Runs (.troubled settings P)
      (World.new settings view (Rig.new region) monitor) es u)
    (ht : t ∈ u.tasks) (hact : t.activity = .queued .converge)
    (hheld : u.lock.isHeldBy t.number = true)
    (hclear : u.rig.faults = ∅ ∧ u.rig.gates = [])
    (hduring : Runs (.quiet settings P) (u.takeOff t) [] v)
    (ht' : t' ∈ v.tasks) (hact' : t'.activity = .converging f attempts)
    (hos : outcomes? attempts = some os)
    (hreport : let report := (f.commit v.settings v.state v.metrics os v.now).report
      report.failed = 0 ∧ report.deferred = 0 ∧ report.parked = 0)
    (hbetween : Runs (.quiet settings P) (v.land t' f os) [] u')
    (hsame : u'.view = u.view) (ht₁ : t₁ ∈ u'.tasks) (hact₁ : t₁.activity = .queued .converge)
    (hheld₁ : u'.lock.isHeldBy t₁.number = true)
    (hclear₁ : u'.rig.faults = ∅ ∧ u'.rig.gates = []) :
    ∀ w t f attempts, Runs (.quiet settings P) (u'.takeOff t₁) [] w → t ∈ w.tasks →
      t.activity = .converging f attempts →
      (∃ w' t' attempts' os, Runs (.quiet settings P) w [] w' ∧ t' ∈ w'.tasks ∧
        t'.activity = .converging f attempts' ∧ outcomes? attempts' = some os) ∧
      ∀ os, outcomes? attempts = some os → ChangesNothing u' w t f os := by
  have ho : u.Orderly := hbefore.orderly (orderly_new _ _ _ _)
  obtain ⟨htells, haimed⟩ := hbefore.aimed hinj (orderly_new _ _ _ _)
    tells_new (aimed_new hview)
  -- the first pass
  obtain ⟨ho₁, hoff⟩ := ho.takesOff ht hact hheld
  have hworking : Working settings region P es u.situation v.situation := by
    refine Runs.working hinj ho₁ ?_ hduring
    rw [hoff]
    exact .takeOff htells haimed (ho.air_of_queued ht hact hheld) hclear.1 hclear.2
  have hflown := (hduring.any_of_quiet).flown ho htells ht hact hheld ht' hact'
  obtain ⟨holand, hland, htellsl⟩ := hflown.lands hos ht' hact'
  have haimedl : Aimed settings region P (v.land t' f os).situation := by
    rw [hland]
    exact hworking.aimed.land hworking.tells hflown.air hos
  have hquiescent := hflown.quiescent t' hworking hos hreport
  -- until the next one sets out
  have ho' : u'.Orderly := hbetween.orderly holand
  obtain ⟨htells', haimed'⟩ := (hbetween.mono
    (Surroundings.quiet_within_troubled settings P)).aimed hinj holand htellsl haimedl
  rw [List.append_nil] at htells'
  have hair' := ho'.air_of_queued ht₁ hact₁ hheld₁
  have hq : u'.state.Quiescent settings u'.view u'.rig.inventory := by
    rw [hbetween.state_eq holand, hsame, hbetween.inventory_eq holand hair', rig_land]
    exact hquiescent
  have hk : Keeping settings region P (es ++ [.pass f os v.now]) u'.situation
      (u'.takeOff t₁).situation := by
    rw [(ho'.takesOff ht₁ hact₁ hheld₁).2]
    exact .takeOff htells' haimed' hair' hclear₁.1 hclear₁.2 hq
  -- which only keeps what there is
  intro w t f attempts hrun ht hact
  have ho₁' := (ho'.takesOff ht₁ hact₁ hheld₁).1
  have hflown' := hrun.any_of_quiet.flown ho' htells' ht₁ hact₁ hheld₁ ht hact
  refine ⟨(hrun.keeping hinj ho₁' hk).exists_landing hinj (hrun.orderly ho₁') ht hact,
    fun os hos => ?_⟩
  exact hflown'.changesNothing ht₁ hact₁ hheld₁ ho' hinj hk htells' hq hrun ht hact hos

/-- The world of the shop with its first pass under way. -/
def launching : World := opening.ask { opening.operator with yield := none } .converge

/-- The end of that pass, before it lands: its attempt has made its three moves. -/
def launched : World :=
  ((List.replicate 3 Sample.shop).foldlM (fun (w : World) id => w.move (.attempt 0 id))
    (launching.takeOff launching.operator)).getD launching

/-- The world after that pass, with another one under way. -/
def relaunching : World :=
  let landed := (launched.move (.task 0)).getD launched
  landed.ask { landed.operator with yield := none } .converge

/-- The second pass changes nothing. -/
theorem pass_idempotent_relaunching : relaunching.rig.inventory.isEmpty = false ∧
    ∃ w t f os, ChangesNothing relaunching w t f os := by
  refine ⟨rfl, ?_⟩
  have hbefore : Runs (.troubled Sample.accepted {Sample.shop}) opening [] launching :=
    Runs.happen .start (.order .converge (.head _) rfl (.inr rfl))
  have hmoves : (List.replicate 3 Sample.shop).foldlM
    (fun (w : World) id => w.move (.attempt 0 id)) (launching.takeOff launching.operator) =
      some launched := rfl
  have hduring : Runs (.quiet Sample.accepted {Sample.shop})
    (launching.takeOff launching.operator) [] launched := Runs.attempts .start hmoves
  obtain ⟨f, attempts, os, hact, hos, hreport, hland⟩ : ∃ f attempts os,
      launched.operator.activity = .converging f attempts ∧ outcomes? attempts = some os ∧
      (let report := (f.commit launched.settings launched.state launched.metrics os
        launched.now).report
      report.failed = 0 ∧ report.deferred = 0 ∧ report.parked = 0) ∧
      launched.move (.task 0) = some (launched.land launched.operator f os) :=
    ⟨_, _, _, rfl, rfl, ⟨rfl, rfl, rfl⟩, rfl⟩
  have hbetween : Runs (.quiet Sample.accepted {Sample.shop})
      (launched.land launched.operator f os) [] relaunching := by
    rw [relaunching, hland]
    exact Runs.happen .start (.order .converge (.head _) rfl (.inr rfl))
  have hagain := pass_idempotent (Set.injOn_singleton _ _) Sample.id_of_declared hbefore (.head _)
    rfl rfl ⟨rfl, rfl⟩ hduring (.head _) hact hos hreport hbetween rfl (.head _) rfl rfl ⟨rfl, rfl⟩
  obtain ⟨f', attempts', hact'⟩ : ∃ f attempts,
      (relaunching.takeOff relaunching.operator).operator.activity = .converging f attempts :=
    ⟨_, _, rfl⟩
  -- the second pass can be finished, and changes nothing when it lands
  obtain ⟨⟨w, t, attempts'', os', hrun, ht, hact'', hos'⟩, -⟩ :=
    hagain _ _ f' attempts' .start (.head _) hact'
  exact ⟨w, t, f', os', (hagain w t f' attempts'' hrun ht hact'').2 os' hos'⟩

end World

end IngressBalancer
