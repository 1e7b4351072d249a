import IngressBalancer.Proofs.Health.Reports
import IngressBalancer.Proofs.World.Cadence
/-!
# The probes under the lock

Whoever is asked for the health of everything runs the probes while holding the
lock for reading. He has the lock from the moment at which it is given to him until the round
is over. On a clock that waits for him (`World.AwaitsProbes`), as that of a schedule does
(`awaitsProbes_of_nextTimer?`), that is no longer than a probe may take, whatever
the probes do (`World.Checks.now_le`).
-/

namespace IngressBalancer

namespace World

variable {S : Surroundings} {w w' w₀ : World} {t u : Task} {es : List Episode} {number : Nat}
variable {settings : Settings} {view : View} {rig : Rig} {monitor : Monitor}

/-! ## Who has a stake in the lock -/

/-- **Who has or wants the lock**, and has no pass in the air, goes on by a move of his own or not
at all, unless he gives up. -/
theorem Happens.of_stake (ho : w.Orderly) (h : w.Happens S es w') (ht : t ∈ w.tasks)
    (hstake : t.stake? ≠ none) (hu : u ∈ w'.tasks) (hn : u.number = t.number) :
    u = t ∨ u.stake? = none ∨ t.flying.isSome ∨ w.moveTask t = some w' ∧ t.After w u := by
  have hsame : u ∈ w.tasks → u = t := fun hu => ho.eq_of_number hu ht hn
  have hput : ∀ {x t₀ : Task}, u ∈ (w.put x).tasks → t₀ ∈ w.tasks → x.number = t₀.number →
      u = t ∨ u = x ∧ t₀ = t := by
    intro x t₀ hu ht₀ hx
    rcases mem_put.1 hu with ⟨rfl, -⟩ | ⟨hu, -⟩
    · exact .inr ⟨rfl, ho.eq_of_number ht₀ ht (hx.symm.trans hn)⟩
    · exact .inl (hsame hu)
  cases h with
  | move m h =>
    cases m with
    | task number =>
      obtain ⟨t₀, ht₀, hmove⟩ := Option.bind_eq_some_iff.1 h
      obtain ⟨x, ha, htasks, -⟩ := after_of_moveTask hmove
      rw [htasks] at hu
      rcases hput hu (mem_of_task? ht₀).1 ha.same.1 with hu | ⟨rfl, rfl⟩
      · exact .inl hu
      · exact .inr (.inr (.inr ⟨hmove, ha⟩))
    | attempt number id =>
      obtain ⟨t₀, ht₀, hmove⟩ := Option.bind_eq_some_iff.1 h
      obtain ⟨_, _, _, _, _, hact, rfl⟩ := eq_of_moveAttempt hmove
      rcases hput hu (mem_of_task? ht₀).1 rfl with hu | ⟨rfl, rfl⟩
      · exact .inl hu
      · exact .inr (.inr (.inl (by simp [Task.flying, hact])))
  | notify =>
    rcases notify_cases w with ⟨t₀, ht₀, -, -, hw⟩ | hw
    · rw [hw] at hu
      rcases hput hu ht₀ rfl with hu | ⟨rfl, rfl⟩
      · exact .inl hu
      · exact .inr (.inl rfl)
    · rw [hw] at hu
      exact .inl (hsame hu)
  | spawn role =>
    rcases List.mem_append.1 hu with hu | hu
    · exact .inl (hsame hu)
    · rw [List.mem_singleton.1 hu]
      exact .inr (.inl rfl)
  | order e ht₀ hrole hrest =>
    rcases hput hu ht₀ rfl with hu | ⟨rfl, rfl⟩
    · exact .inl hu
    · refine absurd ?_ hstake
      rcases hrest with hrest | hrest <;> simp [Task.stake?, hrest]
  | giveUp ht₀ hrole hwait =>
    rcases hput hu ht₀ rfl with hu | ⟨rfl, rfl⟩
    · exact .inl hu
    · exact .inr (.inl rfl)
  | answer ht₀ hact =>
    rcases hput hu ht₀ rfl with hu | ⟨rfl, rfl⟩
    · exact .inl hu
    · exact .inr (.inr (.inl (by simp [Task.flying, hact])))
  | _ => exact .inl (hsame hu)

/-! ## Who waits for the probes -/

/-- A task turns to the probes when it has the lock for that. -/
theorem nextOf_eq_probing {wake : Instant} (h : w.nextOf t = .probing wake) :
    t.activity = .queued .probe ∧ wake = w.now + w.monitor.span := by
  have hrest : w.restOf t.role ≠ .probing wake := by
    cases t.role <;> exact nofun
  cases hact : t.activity with
  | queued e =>
    cases e with
    | probe =>
      rw [nextOf, hact] at h
      cases h
      exact ⟨rfl, rfl⟩
    | inspect =>
      simp only [nextOf, hact] at h
      split at h
      · cases h
      · exact absurd h hrest
    | _ => simp [nextOf, hact, hrest] at h
  | starting | listening =>
    simp only [nextOf, hact] at h
    split at h
    · cases h
    · first | exact absurd h hrest | cases h
  | _ => simp [nextOf, hact, hrest] at h

/-- **Whoever waits for the probes** does not wait longer than one may take. -/
theorem Runs.probing_le (h : Runs S (World.new settings view rig monitor) es w) :
    ∀ t ∈ w.tasks, ∀ wake, t.activity = .probing wake → wake ≤ w.now + probeLimit := by
  induction h with
  | start =>
    intro t ht wake hact
    rw [List.mem_singleton.1 ht] at hact
    cases hact
  | @happen _ _ w w' _ hw ih =>
    intro u hu wake hact
    refine le_trans ?_ (Nat.add_le_add_right (now_le_of_happens hw) probeLimit)
    rcases (changes_of_happens hw).mem hu with hu | hstarting | ⟨t, ht, hb⟩
    · exact ih u hu wake hact
    · rw [hact] at hstarting
      cases hstarting
    · cases hb with
      | moves _ ha =>
        obtain ⟨-, rfl⟩ := nextOf_eq_probing (ha.activity_eq.symm.trans hact)
        exact Nat.add_le_add_left w.monitor.span_le_probeLimit w.now
      | _ => cases hact

/-- Whether a task has the lock to run the probes. -/
structure Checking (w : World) (t : Task) : Prop where
  mem : t ∈ w.tasks
  held : w.lock.isHeldBy t.number = true
  busy : t.activity = .queued .probe ∨ ∃ wake, t.activity = .probing wake

/-- Whether the clock may go on to a moment: who has the lock to run the probes can wait until
then. -/
def AwaitsProbes (w : World) (now : Instant) : Prop :=
  w.now < now → ∀ t, w.Checking t →
    w.moveTask t = none ∧ ∀ wake, t.activity = .probing wake → now ≤ wake

/-- What may happen from one moment on while a task has the lock to run the probes, on a clock that
waits for it. -/
inductive Checks (number : Nat) (w₀ : World) : World → Prop
  | start {t : Task} (ht : w₀.Checking t) (hn : t.number = number) : Checks number w₀ w₀
  | happen {es : List Episode} {w w' : World} {t : Task} (h : Checks number w₀ w)
    (hw : w.Happens .any es w') (hclock : w.AwaitsProbes w'.now) (ht : w'.Checking t)
    (hn : t.number = number) : Checks number w₀ w'

theorem Checks.runs (h : Checks number w₀ w) : ∃ es, Runs .any w₀ es w := by
  induction h with
  | start => exact ⟨[], .start⟩
  | happen _ hw _ _ _ ih =>
    obtain ⟨es, hrun⟩ := ih
    exact ⟨_, hrun.happen hw⟩

/-- How long a task has had the lock to run the probes since a moment. -/
structure CheckingSince (now₀ : Instant) (w : World) (t : Task) : Prop where
  checking : w.Checking t
  queued : t.activity = .queued .probe → w.now = now₀
  probing : ∀ wake, t.activity = .probing wake →
    wake ≤ now₀ + probeLimit ∧ (w.now ≤ wake ∨ w.now = now₀)

variable {now₀ : Instant}

theorem CheckingSince.now_le (h : w.CheckingSince now₀ t) : w.now ≤ now₀ + probeLimit := by
  rcases h.checking.busy with hact | ⟨wake, hact⟩
  · exact (h.queued hact).le.trans (Nat.le_add_right _ _)
  · obtain ⟨hwake, hnow | hnow⟩ := h.probing wake hact
    · exact hnow.trans hwake
    · exact hnow.le.trans (Nat.le_add_right _ _)

/-- **While time passes**, it waits for the probes. -/
theorem CheckingSince.tick {now : Instant} (h : w.CheckingSince now₀ t) (hle : w.now ≤ now)
    (hclock : w.AwaitsProbes now) : ({ w with now := now } : World).CheckingSince now₀ t := by
  rcases Nat.eq_or_lt_of_le hle with rfl | hlt
  · exact h
  obtain ⟨hnone, hwake⟩ := hclock hlt t h.checking
  refine ⟨⟨h.checking.mem, h.checking.held, h.checking.busy⟩, fun hact => ?_, fun wake hact =>
    ⟨(h.probing wake hact).1, .inl (hwake wake hact)⟩⟩
  simp [moveTask, hact, h.checking.held] at hnone

/-- **When it goes on**, it has just begun to wait for them. -/
theorem CheckingSince.go (h : w.CheckingSince now₀ t) (ho : w.Orderly) (hw : w.Happens S es w')
    (hnow : w'.now = w.now) (hu : w'.Checking u) (hn : u.number = t.number) : w'.CheckingSince now₀ u := by
  have hstake : t.stake? ≠ none := by
    rcases h.checking.busy with hact | ⟨wake, hact⟩ <;> simp [Task.stake?, hact]
  have hground : t.flying = none := by
    rcases h.checking.busy with hact | ⟨wake, hact⟩ <;> simp [Task.flying, hact]
  rcases hw.of_stake ho h.checking.mem hstake hu.mem hn with rfl | hnone | hflies | ⟨-, ha⟩
  · exact ⟨hu, fun hact => hnow.trans (h.queued hact), fun wake hact => by
      rw [hnow]
      exact h.probing wake hact⟩
  · rcases hu.busy with hact | ⟨wake, hact⟩ <;> simp [Task.stake?, hact] at hnone
  · simp [hground] at hflies
  · have hnext := ha.activity_eq
    rcases hu.busy with hact | ⟨wake, hact⟩
    · -- nobody who has the lock asks for it again
      exfalso
      rw [hact] at hnext
      rcases h.checking.busy with hact' | ⟨wake', hact'⟩ <;> rw [nextOf, hact'] at hnext
      · cases hnext
      · dsimp only at hnext
        cases hr : t.role <;> rw [hr] at hnext <;> cases hnext
    · obtain ⟨hact', rfl⟩ := nextOf_eq_probing (hnext.symm.trans hact)
      have hsince : w.now = now₀ := h.queued hact'
      refine ⟨hu, fun hqueued => ?_, fun wake' hwake' => ?_⟩
      · rw [hact] at hqueued
        cases hqueued
      · rw [hact] at hwake'
        cases hwake'
        refine ⟨?_, .inr (hnow.trans hsince)⟩
        rw [hsince]
        exact Nat.add_le_add_left w.monitor.span_le_probeLimit now₀

/-- **Nobody has the lock for the probes longer than one may take**, from whatever moment of a
run at which he has it, on a clock that waits for him. -/
theorem Checks.now_le (hrun : Runs .any (World.new settings view rig monitor) es w₀)
    (h : Checks number w₀ w) : w.now ≤ w₀.now + probeLimit := by
  have hsince : ∃ t, t.number = number ∧ w.CheckingSince w₀.now t := by
    induction h with
    | @start t ht hn =>
      exact ⟨t, hn, ht, fun _ => rfl, fun wake hact =>
        ⟨hrun.probing_le t ht.mem wake hact, .inr rfl⟩⟩
    | @happen _ w w' u h hw hclock hu hn ih =>
      obtain ⟨t, hn', hsince⟩ := ih
      rcases now_or_ticks hw with hnow | ⟨now, hle, rfl⟩
      · obtain ⟨es', hrest⟩ := h.runs
        exact ⟨u, hn, hsince.go ((hrun.trans hrest).orderly (orderly_new _ _ _ _)) hw hnow hu
          (hn.trans hn'.symm)⟩
      · exact ⟨t, hn', hsince.tick hle hclock⟩
  obtain ⟨t, -, hsince⟩ := hsince
  exact hsince.now_le

/-- **The clock of a schedule waits for the probes.** -/
theorem awaitsProbes_of_nextTimer? {limit : Option Instant} {now : Instant} (ho : w.Orderly)
    (hnext : w.next? = none) (htimer : w.nextTimer? limit = some now) : w.AwaitsProbes now := by
  intro _ t ht
  rw [next?, List.findSome?_eq_none_iff] at hnext
  have hmove : w.move (.task t.number) = none :=
    hnext _ (List.mem_flatMap.2 ⟨t, ht.mem, List.mem_append_right _ (List.mem_singleton_self _)⟩)
  rw [move, ho.task?_of_mem ht.mem] at hmove
  refine ⟨hmove, fun wake hact => ?_⟩
  have hwake : wake ∈ w.tasks.flatMap timers :=
    List.mem_flatMap.2 ⟨t, ht.mem, by simp [timers, hact]⟩
  exact (List.min?_eq_some_iff.1 htimer).2 wake (List.mem_append_left _ hwake)

/-- **The report of the probes.** Take any registrations, repeated names among them, and let the
probes do whatever they do. In whatever order they are looked at, a round of them comes to an end,
with the report of the monitor and just when its span is over: that is the longest of the spans of
the registered probes, each the time to its answer or five seconds, whichever is less. Nobody has the
lock for the probes longer than five seconds. The results have the registered names; under each
is what its own probe comes to, and no other registrations change that; and all is well exactly where
every probe succeeds within the limit. -/
theorem health_report (checks : List (String × Probe)) :
    let m := Monitor.ofList checks
    (∀ now₀ n r, Round.Runs (Round.start m now₀) n r →
      n ≤ m.probes.size + m.span ∧ r.now ≤ now₀ + m.span ∧
      ((r.report? m = none ∧ ∃ r', r.Step r') ∨
        r.report? m = some m.report ∧ r.now = now₀ + m.span)) ∧
    ((∀ name p, registered checks name = some p → p.span ≤ m.span) ∧
      (checks = [] ∧ m.span = 0 ∨ ∃ name p, registered checks name = some p ∧ m.span = p.span) ∧
      m.span ≤ probeLimit) ∧
    (∀ settings view rig es w₀ number w, Runs .any (World.new settings view rig m) es w₀ →
      Checks number w₀ w → w.now ≤ w₀.now + probeLimit) ∧
    (∀ name, name ∈ m.report.results.keys ↔ name ∈ checks.map (·.1)) ∧
    (∀ name text, m.report.results.get? name = some text ↔
      ∃ p, registered checks name = some p ∧ p.Says text) ∧
    (∀ checks' name, registered checks' name = registered checks name →
      (Monitor.ofList checks').report.results.get? name = m.report.results.get? name) ∧
    (m.report.healthy = true ↔ ∀ name p, registered checks name = some p → p.Succeeds) := by
  intro m
  refine ⟨fun now₀ n r h => h.spec, ⟨fun name p h => Monitor.span_le_of_registered h,
    Monitor.span_ofList_cases checks, m.span_le_probeLimit⟩,
    fun settings view rig es w₀ number w hrun h => h.now_le hrun,
    fun name => Monitor.mem_keys_results_iff, fun name text => Monitor.get?_results_iff,
    fun checks' name h => ?_, Monitor.healthy_iff⟩
  rw [Monitor.get?_results, Monitor.get?_results, h]

/-- A probe that never answers takes the place of one that succeeds; another one succeeds after
a second. -/
theorem health_report_stuck :
    let checks := [("kubernetes", ⟨some 0, .ok ()⟩), ("provider", ⟨some (Span.ofSecs 1), .ok ()⟩),
      ("kubernetes", ⟨none, .ok ()⟩)]
    let report := (Monitor.ofList checks).report
    report.results.get? "kubernetes" = some "timed out after 5s" ∧
    report.results.get? "provider" = some "OK" ∧ report.healthy = false := by
  intro checks report
  obtain ⟨-, -, -, -, hresults, -, hhealthy⟩ := health_report checks
  have hstuck : registered checks "kubernetes" = some ⟨none, .ok ()⟩ := rfl
  have hanswers : registered checks "provider" = some ⟨some (Span.ofSecs 1), .ok ()⟩ := rfl
  refine ⟨(hresults _ _).2 ⟨_, hstuck, .late nofun⟩,
    (hresults _ _).2 ⟨_, hanswers, .ok ⟨⟨_, rfl, by decide⟩, rfl⟩⟩, ?_⟩
  rw [← Bool.not_eq_true]
  intro hwell
  obtain ⟨⟨d, hd, -⟩, -⟩ := hhealthy.1 hwell _ _ hstuck
  cases hd

end World

end IngressBalancer
