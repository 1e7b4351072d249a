import IngressBalancer.Proofs.World.Measures
import IngressBalancer.Proofs.World.Waiting
import IngressBalancer.Cluster.Cache
/-!
# How often the watchdog looks

The watchdog sleeps for a tick, looks when the last pass was committed, and
asks for a pass if that is more than the threshold ago. Its ticks drift: they
start again after every look, after every pass of its own, and it may have to
wait for the lock while others run passes, as long as they like.

On a clock that never goes past a moment at which the watchdog may move
(`World.Patrols`) it knows at every moment how long ago the last pass can be
(`OnBeat`): while it sleeps, that is at most the threshold when it fell
asleep; and if it has to wait for the lock, a pass has just been committed
when it gets it. So whenever it looks, the last pass is no further back than
the threshold and one tick (`watchdog_cadence`).
-/

namespace IngressBalancer

/-- A committed state has the moment of the last pass, if there was one. -/
theorem Committed.lastUpdate_eq_none {settings : Settings} {es : List Episode} {s : SyncState}
    (h : Committed settings es s) : s.lastUpdate = none ↔ s.passes = 0 := by
  induction h with
  | initial => exact ⟨fun _ => rfl, fun _ => rfl⟩
  | @next es s e _ _ ih =>
    cases e with
    | pass f os endedAt =>
      exact iff_of_false (Option.some_ne_none _) (Nat.succ_ne_zero _)
    | resync discovered endedAt => exact ih

theorem Watchdog.isDue_iff {last? : Option Instant} {now : Instant} :
    Watchdog.isDue last? now = true ↔
      last? = none ∨ ∃ last, last? = some last ∧ Watchdog.threshold < now - last := by
  cases last? with
  | none => simp [isDue]
  | some last =>
    simp only [isDue, decide_eq_true_eq, reduceCtorEq, Option.some.injEq, exists_eq_left', false_or]
    rw [Nat.lt_sub_iff_add_lt, Nat.add_comm]

namespace World

variable {S : Surroundings} {w w' w₀ : World} {t u x : Task} {es : List Episode} {f : Flight}
variable {os : List Flight.Outcome} {settings : Settings} {view : View} {rig : Rig}
variable {monitor : Monitor} {moment : Instant} {span : Span}

/-! ## The clock and the last pass -/

theorem now_finish (w : World) (t : Task) (y : Yield) : (w.finish t y).now = w.now := by
  obtain ⟨u, -, -, -, hu⟩ := finish_eq w t y
  rw [hu]
  rfl

/-- Moves take no time. -/
theorem now_of_moveTask (h : w.moveTask t = some w') : w'.now = w.now := by
  cases moves_of_moveTask h with
  | takesOff =>
    rw [takeOff_eq]
    rfl
  | resyncs =>
    obtain ⟨_, _, _, _, hw⟩ := resync_frame w t
    rw [hw]
  | inspects =>
    obtain ⟨_, _, _, hw⟩ := inspect_frame w t
    rw [hw]
  | lands => exact now_finish _ _ _
  | reports => exact now_finish _ _ _
  | _ => rfl

/-- Time passes by itself, or not at all. -/
theorem now_or_ticks (h : w.Happens S es w') :
    w'.now = w.now ∨ ∃ now, w.now ≤ now ∧ w' = { w with now := now } := by
  cases h with
  | move m h =>
    refine .inl ?_
    cases m with
    | task number =>
      obtain ⟨t, -, hmove⟩ := Option.bind_eq_some_iff.1 h
      exact now_of_moveTask hmove
    | attempt number id =>
      obtain ⟨t, -, hmove⟩ := Option.bind_eq_some_iff.1 h
      obtain ⟨_, _, _, _, _, -, rfl⟩ := eq_of_moveAttempt hmove
      rfl
  | tick h => exact .inr ⟨_, h, rfl⟩
  | notify =>
    rcases notify_cases w with ⟨t, -, -, -, hw⟩ | hw
    · exact .inl (by rw [hw]; rfl)
    · exact .inl (by rw [hw])
  | _ => exact .inl rfl

/-- Time does not go back. -/
theorem now_le_of_happens (h : w.Happens S es w') : w.now ≤ w'.now := by
  rcases now_or_ticks h with hnow | ⟨now, hle, rfl⟩
  · exact hnow.ge
  · exact hle

theorem lastUpdate_land : (w.land t f os).state.lastUpdate = some w.now := by
  rw [state_land]
  rfl

/-- The moment of the last pass stays as it is, or it is now. -/
theorem lastUpdate_of_happens (ho : w.Orderly) (h : w.Happens S es w') :
    w'.state.lastUpdate = w.state.lastUpdate ∨ w'.state.lastUpdate = some w.now := by
  cases measures_of_happens ho h with
  | rest hstate => exact .inl (by rw [hstate])
  | start f hstate => exact .inl (by rw [hstate])
  | landing f os hstate => exact .inr (by rw [hstate]; rfl)
  | resync discovered hstate => exact .inl (by rw [hstate]; rfl)

/-- The last pass does not lie ahead. -/
theorem Runs.lastUpdate_le (h : Runs S (World.new settings view rig monitor) es w) :
    ∀ last, w.state.lastUpdate = some last → last ≤ w.now := by
  induction h with
  | start => exact fun last h => by cases h
  | @happen _ _ w w' hrun hw ih =>
    intro last hlast
    have hle := now_le_of_happens hw
    rcases lastUpdate_of_happens (hrun.orderly (orderly_new _ _ _ _)) hw with hsame | hnew
    · exact (ih last (hsame ▸ hlast)).trans hle
    · rw [hnew] at hlast
      cases hlast
      exact hle

/-- Whether the last pass, if there was one, lies within a span before a moment. -/
def PassedWithin (w : World) (span : Span) (moment : Instant) : Prop :=
  ∀ last, w.state.lastUpdate = some last → moment ≤ last + span

/-- A pass that has just been committed lies within any span. -/
theorem PassedWithin.of_landed (h : w'.state.lastUpdate = some w.now)
    (hle : moment ≤ w.now + span) : w'.PassedWithin span moment := by
  intro last hlast
  rw [h] at hlast
  cases hlast
  exact hle

/-- Whatever happens, the last pass lies no further back. -/
theorem PassedWithin.happen (hp : w.PassedWithin span moment) (ho : w.Orderly)
    (h : w.Happens S es w') (hle : moment ≤ w.now + span) : w'.PassedWithin span moment := by
  rcases lastUpdate_of_happens ho h with hsame | hnew
  · exact fun last hlast => hp last (hsame ▸ hlast)
  · exact .of_landed hnew hle

/-! ## The watchdog on its beat -/

/-- Whether only passes and one watchdog have to do with the lock. -/
structure Guarded (w : World) : Prop where
  alone : ∀ t ∈ w.tasks, t.stake?.isSome → t.role.RunsPasses ∨ t.role = .watchdog
  one : ∀ t ∈ w.tasks, ∀ u ∈ w.tasks, t.role = .watchdog → u.role = .watchdog →
    t.number = u.number

/-- Whether the clock may go on to a moment: the watchdog can wait until then. -/
def AwaitsWatchdog (w : World) (now : Instant) : Prop :=
  w.now < now → ∀ t ∈ w.tasks, t.role = .watchdog →
    w.moveTask t = none ∧ ∀ wake, t.activity = .asleep wake → now ≤ wake

/-- A run in which only passes and one watchdog have to do with the lock, on a clock that waits for
the watchdog. -/
inductive Patrols (w₀ : World) : World → Prop
  | start : Patrols w₀ w₀
  | happen {es : List Episode} {w w' : World} (h : Patrols w₀ w) (hw : w.Happens .any es w')
    (hg : w'.Guarded) (hclock : w.AwaitsWatchdog w'.now) : Patrols w₀ w'

theorem Patrols.runs (h : Patrols w₀ w) : ∃ es, Runs .any w₀ es w := by
  induction h with
  | start => exact ⟨[], .start⟩
  | happen _ hw _ _ ih =>
    obtain ⟨es, hrun⟩ := ih
    exact ⟨_, hrun.happen hw⟩

theorem Patrols.guarded (hg : w₀.Guarded) (h : Patrols w₀ w) : w.Guarded := by
  cases h with
  | start => exact hg
  | happen _ _ hg' => exact hg'

/-- How far back the last pass can be, by what the watchdog does. -/
structure OnBeat (w : World) (t : Task) : Prop where
  starting : t.activity = .starting → w.PassedWithin Watchdog.threshold w.now
  asleep : ∀ wake, t.activity = .asleep wake → w.now ≤ wake ∧ wake ≤ w.now + Watchdog.tick ∧
    w.PassedWithin (Watchdog.threshold + Watchdog.tick) wake
  looks : t.activity = .queued .inspect → w.lock.isHeldBy t.number = true →
    w.PassedWithin (Watchdog.threshold + Watchdog.tick) w.now

namespace OnBeat

/-- A watchdog that has not taken its first step, when the last pass is no further back than the
threshold. -/
theorem of_starting (hact : t.activity = .starting)
    (hp : w.PassedWithin Watchdog.threshold w.now) : w.OnBeat t := by
  refine ⟨fun _ => hp, ?_, ?_⟩
  all_goals
    intros
    simp_all

/-- A watchdog that falls asleep when the last pass is no further back than the threshold. -/
theorem of_asleep (hact : t.activity = .asleep (w.now + Watchdog.tick))
    (hp : w.PassedWithin Watchdog.threshold w.now) : w.OnBeat t := by
  constructor
  · intro h
    rw [hact] at h
    cases h
  · intro wake h
    rw [hact] at h
    cases h
    refine ⟨Nat.le_add_right _ _, Nat.le_refl _, fun last hlast => ?_⟩
    rw [← Nat.add_assoc]
    exact Nat.add_le_add_right (hp last hlast) _
  · intro h
    rw [hact] at h
    cases h

/-- A watchdog that runs a pass or waits to do so. -/
theorem of_pass (hact : t.activity = .queued .converge ∨
    ∃ f attempts, t.activity = .converging f attempts) : w.OnBeat t := by
  rcases hact with hact | ⟨f, attempts, hact⟩ <;> constructor <;> intros <;> simp_all

/-- **While time passes**, the watchdog sleeps, runs a pass, or waits to do so. -/
theorem tick {now : Instant} (h : w.OnBeat t) (ht : t ∈ w.tasks) (hr : t.role = .watchdog)
    (hle : w.now ≤ now) (hclock : w.AwaitsWatchdog now) :
    ({ w with now := now } : World).OnBeat t := by
  rcases Nat.eq_or_lt_of_le hle with rfl | hlt
  · exact h
  obtain ⟨hnone, hwake⟩ := hclock hlt t ht hr
  constructor
  · intro hact
    simp [moveTask, hact, hr] at hnone
  · intro wake hact
    obtain ⟨-, hsoon, hp⟩ := h.asleep wake hact
    exact ⟨hwake wake hact, hsoon.trans (Nat.add_le_add_right hle _), hp⟩
  · intro hact (hheld : w.lock.isHeldBy t.number = true)
    simp [moveTask, hact, hheld] at hnone

/-- **A watchdog that waits for the lock** gets it when a pass has just been committed. -/
theorem lastUpdate_of_served (hs : w.Served) (ho : w.Orderly) (hf : w.Fit) (hg : w.Guarded)
    (ht : t ∈ w.tasks) (hr : t.role = .watchdog) (hact : t.activity = .queued .inspect)
    (hno : ¬ w.lock.isHeldBy t.number = true) (h : w.Happens S es w') (ho' : w'.Orderly)
    (hheld : w'.lock.isHeldBy t.number = true) : w'.state.lastUpdate = some w.now := by
  obtain ⟨x, hx, hne, a, ha, hholds⟩ := hs.exists_holder ho ht hact hno
  have hpass : x.role.RunsPasses := by
    refine (hg.alone x hx (by rw [ha]; rfl)).resolve_right fun hr' => hne ?_
    exact ho.eq_of_number hx ht (hg.one x hx t ht hr' hr)
  have hwriter := ho.writer_of_holder hf hx hpass hholds
  rcases keeps_or_lands ho hf hx hpass hwriter h with hkeeps | ⟨f, os, rfl⟩
  · -- then nobody else has it
    obtain ⟨b, hb⟩ := Lock.isHeldBy_iff.1 hheld
    have hn := Lock.eq_of_mem_holders ho'.sound hkeeps hb
    exact absurd (ho.eq_of_number hx ht hn.symm) hne
  · exact lastUpdate_land

/-- **A watchdog that does nothing** stays on its beat, whatever happens at this moment. -/
theorem rest (h : w.OnBeat t) (hs : w.Served) (ho : w.Orderly) (hf : w.Fit) (hg : w.Guarded)
    (ht : t ∈ w.tasks) (hr : t.role = .watchdog) (hw : w.Happens S es w')
    (hnow : w'.now = w.now) : w'.OnBeat t := by
  constructor
  · intro hact
    rw [hnow]
    exact (h.starting hact).happen ho hw (Nat.le_add_right _ _)
  · intro wake hact
    obtain ⟨hlate, hsoon, hp⟩ := h.asleep wake hact
    rw [hnow]
    exact ⟨hlate, hsoon, hp.happen ho hw (hsoon.trans (Nat.add_le_add_left (Nat.le_add_left _ _) _))⟩
  · intro hact hheld
    rw [hnow]
    by_cases hheld₀ : w.lock.isHeldBy t.number = true
    · exact (h.looks hact hheld₀).happen ho hw (Nat.le_add_right _ _)
    · exact .of_landed (lastUpdate_of_served hs ho hf hg ht hr hact hheld₀ hw
        (turn_of_happens ho hw).1 hheld) (Nat.le_add_right _ _)

/-- **A watchdog that goes on** stays on its beat. -/
theorem becomes (h : w.OnBeat t) (ho : w.Orderly) (hfits : t.Fits) (hr : t.role = .watchdog)
    (hw : w.Happens S es w') (hnow : w'.now = w.now) (hb : t.Becomes w w' u) : w'.OnBeat u := by
  have hin : t.role ≠ .operator := by rw [hr]; exact Role.noConfusion
  have hrest : w.restOf t.role = .asleep (w'.now + Watchdog.tick) := by rw [hr, hnow]; rfl
  cases hact : t.activity with
  | starting =>
    obtain ⟨-, ha⟩ := hb.moved hin (by simp [hact]) (by simp [Task.flying, hact])
    refine of_asleep (by rw [ha.activity_eq, nextOf, hact, ← hrest]; simp [hr]) ?_
    rw [hnow]
    exact (h.starting hact).happen ho hw (Nat.le_add_right _ _)
  | asleep wake =>
    obtain ⟨hwake, hact'⟩ := hb.of_asleep hin hact
    obtain ⟨hlate, -, hp⟩ := h.asleep wake hact
    obtain rfl : w.now = wake := Nat.le_antisymm hlate hwake
    rw [if_pos hr] at hact'
    constructor
    · intro h'
      rw [hact'] at h'
      cases h'
    · intro wake' h'
      rw [hact'] at h'
      cases h'
    · intro _ _
      rw [hnow]
      exact hp.happen ho hw (Nat.le_add_right _ _)
  | queued e =>
    have he : e = .inspect ∨ e = .converge := by
      simpa [Task.Fits, hact, hr, Role.errands] using hfits
    rcases he with rfl | rfl
    · obtain ⟨-, ha⟩ := hb.of_inspect hin hact
      have hact' := ha.activity_eq
      simp only [nextOf, hact, hr, true_and] at hact'
      split at hact'
      · exact of_pass (.inl hact')
      · next hdue =>
        refine of_asleep (hact'.trans (hr ▸ hrest)) ?_
        rw [hnow]
        refine PassedWithin.happen (fun last hlast => ?_) ho hw (Nat.le_add_right _ _)
        rw [hlast] at hdue
        simpa [Watchdog.isDue] using hdue
    · exact of_pass (.inr ⟨_, _, (hb.of_converge hin hact).2⟩)
  | converging f attempts =>
    rcases hb.of_converging hin hact with ⟨attempts', hact'⟩ | ⟨⟨os, rfl⟩, hact'⟩
    · exact of_pass (.inr ⟨_, _, hact'⟩)
    · refine of_asleep (hact'.trans hrest) (.of_landed lastUpdate_land ?_)
      rw [hnow]
      exact Nat.le_add_right _ _
  | listening => simp [Task.Fits, hact, hr] at hfits
  | woken => simp [Task.Fits, hact, hr] at hfits
  | probing wake => simp [Task.Fits, hact, hr, Role.errands] at hfits
  | finished =>
    obtain ⟨hmove, -⟩ := hb.moved hin (by simp [hact]) (by simp [Task.flying, hact])
    simp [moveTask, hact] at hmove

/-- **Each happening leaves the watchdog on its beat.** -/
theorem happen (h : w.OnBeat t) (hs : w.Served) (ho : w.Orderly) (hf : w.Fit) (hg : w.Guarded)
    (ht : t ∈ w.tasks) (hr : t.role = .watchdog) (hw : w.Happens S es w')
    (hclock : w.AwaitsWatchdog w'.now) : ∃ u ∈ w'.tasks, u.role = .watchdog ∧ w'.OnBeat u := by
  rcases now_or_ticks hw with hnow | ⟨now, hle, rfl⟩
  · rcases (changes_of_happens hw).mem_or ho ht with ht' | ⟨u, hu, hb⟩
    · exact ⟨t, ht', hr, h.rest hs ho hf hg ht hr hw hnow⟩
    · exact ⟨u, hu, hb.same.2.trans hr, h.becomes ho (hf t ht) hr hw hnow hb⟩
  · exact ⟨t, ht, hr, h.tick ht hr hle hclock⟩

end OnBeat

theorem Patrols.exists_onBeat (hrun : Runs .any (World.new settings view rig monitor) es w₀)
    (hp : w₀.PassedWithin Watchdog.threshold w₀.now) (hg : (w₀.spawn .watchdog).Guarded)
    (h : Patrols (w₀.spawn .watchdog) w) : ∃ t ∈ w.tasks, t.role = .watchdog ∧ w.OnBeat t := by
  induction h with
  | start =>
    exact ⟨_, List.mem_append_right _ (List.mem_singleton_self _), rfl, .of_starting rfl hp⟩
  | happen hpatrol hw _ hclock ih =>
    obtain ⟨t, ht, hr, hbeat⟩ := ih
    obtain ⟨es', hrest⟩ := hpatrol.runs
    have hall := (hrun.happen (.spawn .watchdog)).trans hrest
    exact hbeat.happen (hall.served served_new) (hall.orderly (orderly_new _ _ _ _))
      (hall.fit fit_new) (hpatrol.guarded hg) ht hr hw hclock

/-- **The watchdog stays on its beat** when the last pass was no further back than the threshold
as it started. -/
theorem Patrols.onBeat (hrun : Runs .any (World.new settings view rig monitor) es w₀)
    (hp : w₀.PassedWithin Watchdog.threshold w₀.now) (hg : (w₀.spawn .watchdog).Guarded)
    (h : Patrols (w₀.spawn .watchdog) w) (ho : w.Orderly) (ht : t ∈ w.tasks)
    (hr : t.role = .watchdog) : w.OnBeat t := by
  obtain ⟨u, hu, hr', hbeat⟩ := h.exists_onBeat hrun hp hg
  rw [← ho.eq_of_number hu ht ((h.guarded hg).one u hu t ht hr' hr)]
  exact hbeat

/-- **The cadence of the watchdog.** A watchdog is added when no pass has been committed, or the
last one is no further back than the threshold; from then on only passes and this watchdog have to
do with the lock, which take as long as they like, and the clock waits for the watchdog. Whenever it
looks, the last pass is no further back than the threshold and one tick; and with this look it asks
for a pass at the same moment if and only if no pass has ever been committed, or the last one is
further back than the threshold. -/
theorem watchdog_cadence (hrun : Runs .any (World.new settings view rig monitor) es w₀)
    (hstart : w₀.PassedWithin Watchdog.threshold w₀.now) (hg : (w₀.spawn .watchdog).Guarded)
    (h : Patrols (w₀.spawn .watchdog) w) (ht : t ∈ w.tasks) (hr : t.role = .watchdog)
    (hact : t.activity = .queued .inspect) (hheld : w.lock.isHeldBy t.number = true) :
    (∀ last, w.state.lastUpdate = some last →
      last ≤ w.now ∧ w.now - last ≤ Watchdog.threshold + Watchdog.tick) ∧
    ∃ w', w.move (.task t.number) = some w' ∧ w'.now = w.now ∧
      ({ t with activity := .queued .converge } ∈ w'.tasks ↔ w.state.passes = 0 ∨
        ∃ last, w.state.lastUpdate = some last ∧ Watchdog.threshold < w.now - last) := by
  obtain ⟨es', hrest⟩ := h.runs
  have hrun' := (hrun.happen (.spawn .watchdog)).trans hrest
  have ho : w.Orderly := hrun'.orderly (orderly_new _ _ _ _)
  have hmove : w.moveTask t = some (w.inspect t) := by simp [moveTask, hact, hheld]
  refine ⟨fun last hlast => ?_, w.inspect t, ?_, now_of_moveTask hmove, ?_⟩
  · have hp := (h.onBeat hrun hstart hg ho ht hr).looks hact hheld last hlast
    exact ⟨hrun'.lastUpdate_le last hlast, Nat.sub_le_iff_le_add'.2 hp⟩
  · rw [move, ho.task?_of_mem ht]
    exact hmove
  · have hnever : w.state.lastUpdate = none ↔ w.state.passes = 0 :=
      hrun'.tells.committed.lastUpdate_eq_none
    rw [← hnever, ← Watchdog.isDue_iff]
    constructor
    · intro hasks
      obtain ⟨u, ha, htasks, -⟩ := after_of_moveTask hmove
      rw [htasks] at hasks
      have hu : { t with activity := .queued .converge } = u :=
        ((mem_put.1 hasks).resolve_right fun h => h.2 ha.same.1.symm).1
      have hnext : w.nextOf t = .queued .converge := by rw [← ha.activity_eq, ← hu]
      by_contra hdue
      simp [nextOf, hact, hr, hdue, restOf] at hnext
    · intro hdue
      have hforced : w.inspect t =
          ({ w with lock := w.lock.release t.number }).ask t .converge := by
        simp only [inspect, hr, hdue, if_true]
      rw [hforced]
      exact mem_put.2 (.inl ⟨rfl, t, ht, rfl⟩)

example : Watchdog.threshold + Watchdog.tick = Span.ofSecs 70 := rfl

/-! ## Two looks -/

/-- What is to be checked of a world in which the watchdog has a given number. -/
theorem guarded_of_all (n : Nat) (h : (w.tasks.all fun t =>
    (t.stake?.isNone || t.role = .update || t.role = .driver || t.role = .watchdog) &&
      (t.role != .watchdog || t.number = n)) = true) : w.Guarded := by
  simp only [List.all_eq_true, Bool.and_eq_true, Bool.or_eq_true, bne_iff_ne,
    decide_eq_true_eq] at h
  constructor
  · intro t ht hs
    obtain ⟨((hnone | hr) | hr) | hr, -⟩ := h t ht
    · rw [Option.isNone_iff_eq_none.1 hnone] at hs
      cases hs
    · exact .inl (.inl hr)
    · exact .inl (.inr hr)
    · exact .inr hr
  · intro t ht u hu hr hr'
    exact ((h t ht).2.resolve_left (absurd hr)).trans ((h u hu).2.resolve_left (absurd hr')).symm

/-- The world after a move of a task, if it can make one. -/
def afterMove (w : World) (number : Nat) : World := (w.move (.task number)).getD w

/-- Moves need no time. -/
theorem Patrols.afterMove (h : Patrols w₀ w) (number : Nat) (hg : (w.afterMove number).Guarded) :
    Patrols w₀ (w.afterMove number) := by
  cases hmove : w.move (.task number) with
  | none => rwa [World.afterMove, hmove]
  | some w' =>
    rw [World.afterMove, hmove] at hg ⊢
    obtain ⟨t, -, hmove'⟩ := Option.bind_eq_some_iff.1 hmove
    exact h.happen (.move _ hmove) hg fun hlt =>
      absurd hlt (Nat.not_lt_of_le (now_of_moveTask hmove').le)

/-- Time passes where each watchdog sleeps until then. -/
theorem Patrols.sleep (h : Patrols w₀ w) (hle : w.now ≤ moment)
    (hg : ({ w with now := moment } : World).Guarded)
    (hsleeps : (w.tasks.all fun t => t.role != .watchdog || ((w.moveTask t).isNone &&
      match t.activity with
      | .asleep wake => decide (moment ≤ wake)
      | _ => true)) = true) : Patrols w₀ { w with now := moment } := by
  refine h.happen (.tick hle) hg fun _ t ht hr => ?_
  have hrest := List.all_eq_true.1 hsleeps t ht
  rw [hr, Bool.or_eq_true, Bool.and_eq_true] at hrest
  obtain ⟨hnone, hwake⟩ := hrest.resolve_left (by decide)
  refine ⟨Option.isNone_iff_eq_none.1 hnone, fun wake hact => ?_⟩
  rw [hact] at hwake
  exact of_decide_eq_true hwake

/-- The watchdog, about to look. -/
def watchdog (number : Nat) : Task := ⟨number, .watchdog, .queued .inspect, none, 0, []⟩

/-- A controller with nothing to do. -/
def idle : World := .new Sample.accepted Cache.empty.view (Rig.new "us-east-1") .empty

/-- Its watchdog sleeps, and a pass has been committed at the start. -/
def passed : World := [1, 2, 2, 2].foldl afterMove ((idle.spawn .watchdog).spawn .update)

/-- After ten seconds the watchdog looks. -/
def looking : World := ({ passed with now := Span.ofSecs 10 } : World).afterMove 1

theorem patrols_looking : Patrols (idle.spawn .watchdog) looking := by
  have hstart : Patrols (idle.spawn .watchdog) (idle.spawn .watchdog) := .start
  have h₀ := hstart.happen (.spawn .update) (guarded_of_all 1 rfl) fun hlt =>
    absurd hlt (Nat.lt_irrefl _)
  have h₁ := (((h₀.afterMove 1 (guarded_of_all 1 rfl)).afterMove 2 (guarded_of_all 1 rfl)).afterMove
    2 (guarded_of_all 1 rfl)).afterMove 2 (guarded_of_all 1 rfl)
  have h₂ : Patrols (idle.spawn .watchdog) { passed with now := Span.ofSecs 10 } :=
    h₁.sleep (Nat.zero_le _) (guarded_of_all 1 rfl) (by decide +kernel)
  exact h₂.afterMove 1 (guarded_of_all 1 rfl)

/-- A minute after the only pass, and without a watchdog so far. -/
def quiet : World :=
  { [1, 1, 1].foldl afterMove (idle.spawn .update) with now := Span.ofSecs 60 }

theorem runs_quiet : ∃ es, Runs .any idle es quiet := by
  have hspawn : Runs .any idle [] (idle.spawn .update) := Runs.start.happen (.spawn .update)
  have hmoves : [.task 1, .task 1, .task 1].foldlM move (idle.spawn .update) =
      some ([1, 1, 1].foldl afterMove (idle.spawn .update)) := rfl
  obtain ⟨es, hrun⟩ := hspawn.moves hmoves
  exact ⟨_, hrun.happen (.tick (Nat.zero_le _))⟩

/-- Ten seconds later the watchdog that is added then looks. -/
def lookingLate : World :=
  ({ (quiet.spawn .watchdog).afterMove 2 with now := Span.ofSecs 70 } : World).afterMove 2

theorem patrols_lookingLate : Patrols (quiet.spawn .watchdog) lookingLate := by
  have hstart : Patrols (quiet.spawn .watchdog) (quiet.spawn .watchdog) := .start
  have h₁ := hstart.afterMove 2 (guarded_of_all 2 rfl)
  have h₂ : Patrols (quiet.spawn .watchdog)
      { (quiet.spawn .watchdog).afterMove 2 with now := Span.ofSecs 70 } :=
    h₁.sleep (Nat.le_of_ble_eq_true rfl) (guarded_of_all 2 rfl) (by decide +kernel)
  exact h₂.afterMove 2 (guarded_of_all 2 rfl)

/-- After a pass at the start the watchdog looks after ten seconds, and asks for none. A watchdog
that is added a minute after the pass looks when the pass is as far back as it may be, and asks for
another. -/
theorem watchdog_cadence_idle :
    (looking.state.lastUpdate = some 0 ∧
      looking.now - 0 ≤ Watchdog.threshold + Watchdog.tick ∧
      ∃ w', looking.move (.task 1) = some w' ∧ w'.now = looking.now ∧
        { watchdog 1 with activity := .queued .converge } ∉ w'.tasks) ∧
    lookingLate.state.lastUpdate = some 0 ∧
    lookingLate.now - 0 = Watchdog.threshold + Watchdog.tick ∧
    ∃ w', lookingLate.move (.task 2) = some w' ∧
      { watchdog 2 with activity := .queued .converge } ∈ w'.tasks := by
  constructor
  · have hrun : Runs .any idle [] idle := .start
    have hmem : watchdog 1 ∈ looking.tasks := .tail _ (.head _)
    obtain ⟨hage, w', hmove, hnow, hasks⟩ := watchdog_cadence hrun nofun (guarded_of_all 1 rfl)
      patrols_looking hmem rfl rfl rfl
    refine ⟨rfl, (hage 0 rfl).2, w', hmove, hnow, fun hin => ?_⟩
    rcases hasks.1 hin with hnone | ⟨last, hlast, hlt⟩
    · cases hnone
    · cases hlast
      exact absurd hlt (by decide)
  · obtain ⟨es, hrun⟩ := runs_quiet
    have hmem : watchdog 2 ∈ lookingLate.tasks := .tail _ (.tail _ (.head _))
    have hstart : quiet.PassedWithin Watchdog.threshold quiet.now := by
      rintro last ⟨⟩
      exact Nat.le_of_ble_eq_true rfl
    obtain ⟨-, w', hmove, -, hasks⟩ := watchdog_cadence hrun hstart (guarded_of_all 2 rfl)
      patrols_lookingLate hmem rfl rfl rfl
    exact ⟨rfl, rfl, w', hmove, hasks.2 (.inr ⟨0, rfl, by decide⟩)⟩

end World

end IngressBalancer
