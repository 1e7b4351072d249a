import IngressBalancer.Proofs.World.Unfolding
/-!
# The end of a pass

A pass that nobody disturbs can be brought to its end, wherever it is
(`Departs.exists_landing`): every move of an attempt leaves it fewer, and
where none can move at once, the clock goes on to the first timer
(`exists_next`). In the end all has come to what the courses come to: the
outcomes (`OnCourse.outcomes_eq`), what stands under each name
(`OnCourse.standing_eq`), and what was reported (`OnCourse.reportsOf_eq`).
-/

namespace IngressBalancer

/-- How many moves are left to an attempt, at most. -/
def Progress.stepsLeft : Progress → Nat
  | .atGate _ => 4
  | .waiting .. => 3
  | .decided _ => 2
  | .hanging | .reporting .. => 1
  | .done _ => 0

theorem Progress.stepsLeft_progressOf_le (now : Instant) (f : Fault) :
    (World.progressOf now f).stepsLeft ≤ 3 := by
  unfold World.progressOf
  split
  · exact Nat.succ_le_succ (Nat.zero_le 2)
  · exact Nat.le_refl 3

theorem Progress.stepsLeft_pos {p : Progress} (h : ∀ o, p ≠ .done o) : 0 < p.stepsLeft := by
  cases p with
  | done o => exact absurd rfl (h o)
  | _ => exact Nat.succ_pos _

/-- **A move of an attempt leaves it fewer moves.** -/
theorem Attempt.Moves.stepsLeft_lt {now : Instant} {publication : Option Span} {g g' : Rig}
    {a a' : Attempt} (h : a.Moves now publication g g' a') :
    a'.progress.stepsLeft < a.progress.stepsLeft := by
  cases h with
  | late _ hopen => exact Progress.stepsLeft_pos hopen
  | meet hp =>
    rw [hp]
    exact Nat.lt_succ_of_le (Progress.stepsLeft_progressOf_le _ _)
  | strike hp =>
    rw [hp]
    exact Nat.succ_pos 2
  | look hp =>
    rw [hp]
    exact Nat.lt_succ_self 2
  | change hp hnext =>
    rw [hp]
    rcases hnext with ⟨-, rfl⟩ | ⟨-, rfl⟩
    · exact Nat.lt_succ_self 1
    · exact Nat.succ_pos 1
  | published hp =>
    rw [hp]
    exact Nat.succ_pos 0

/-- Whether an attempt can move at a moment: it has decided, or one of its timers has come. -/
def Attempt.IsReady (now : Instant) (a : Attempt) : Prop :=
  (∃ c, a.progress = .decided c) ∨ ∃ timer ∈ World.attemptTimers a, timer ≤ now

/-- One that is not done has a timer, unless it has decided. -/
theorem Attempt.exists_timer {a : Attempt} (hopen : ∀ o, a.progress ≠ .done o)
    (hundecided : ∀ c, a.progress ≠ .decided c) : ∃ timer, timer ∈ World.attemptTimers a := by
  unfold World.attemptTimers
  cases hp : a.progress with
  | done o => exact absurd hp (hopen o)
  | decided c => exact absurd hp (hundecided c)
  | _ => exact ⟨_, List.mem_cons_self⟩

namespace World

variable {u v w w' : World} {t : Task} {f : Flight} {attempts attempts' : List Attempt}
variable {a a' : Attempt} {P : Set ResourceId} {es : List Episode} {os os' : List Flight.Outcome}

/-- **An attempt that is ready can move.** -/
theorem exists_advance (h : a.IsReady w.now) : ∃ a' w', w.advance a = some (a', w') := by
  have hlate : a.deadline ≤ w.now → ∃ a' w', (if a.deadline ≤ w.now then
      some (({ a with progress := .done (.error (.timeout a.resource.id)) } : Attempt), w)
      else none) = some (a', w') := fun hd => ⟨_, _, if_pos hd⟩
  unfold Attempt.IsReady attemptTimers at h
  unfold advance
  cases hp : a.progress with
  | done o => simp [hp] at h
  | decided c =>
    simp only
    split
    · exact ⟨_, _, rfl⟩
    · exact ⟨_, _, rfl⟩
  | hanging => exact hlate (by simpa [hp] using h)
  | atGate gate =>
    simp only
    split
    · exact ⟨_, _, rfl⟩
    · exact hlate (by simpa [hp] using h)
  | waiting conduct wake =>
    simp only
    split
    · exact ⟨_, _, rfl⟩
    · next hwake => exact hlate (by simpa [hp, hwake] using h)
  | reporting c wake =>
    simp only
    split
    · exact ⟨_, _, rfl⟩
    · next hwake =>
      refine hlate ?_
      rw [hp] at h
      rcases h with ⟨c', hc⟩ | ⟨timer, htimer, hle⟩
      · cases hc
      · rcases List.mem_cons.1 htimer with rfl | htimer
        · exact hle
        · refine absurd ?_ hwake
          rw [Option.mem_toList] at htimer
          exact Option.any_eq_true _ _ |>.2 ⟨timer, htimer, decide_eq_true hle⟩

/-- **Unless all attempts are done, there is a moment that all can wait for and at which one of
them is ready.** -/
theorem exists_next (now : Instant) (h : ∃ a ∈ attempts, ∀ o, a.progress ≠ .done o) :
    ∃ t, now ≤ t ∧ (now < t → ∀ a ∈ attempts, a.CanWait t) ∧ ∃ a ∈ attempts, a.IsReady t := by
  by_cases hready : ∃ a ∈ attempts, a.IsReady now
  · exact ⟨now, Nat.le_refl _, fun hlt => absurd hlt (Nat.lt_irrefl _), hready⟩
  · simp only [not_exists, not_and, Attempt.IsReady, not_or, Nat.not_le] at hready
    obtain ⟨a, ha, hopen⟩ := h
    obtain ⟨timer, htimer⟩ := Attempt.exists_timer hopen (hready a ha).1
    -- the first of all timers
    obtain ⟨t, ht⟩ : ∃ t, (attempts.flatMap attemptTimers).min? = some t := by
      refine Option.isSome_iff_exists.1 (List.isSome_min?_of_mem (a := timer) ?_)
      exact List.mem_flatMap.2 ⟨a, ha, htimer⟩
    obtain ⟨hmem, hfirst⟩ := List.min?_eq_some_iff.1 ht
    obtain ⟨b, hb, hb'⟩ := List.mem_flatMap.1 hmem
    refine ⟨t, Nat.le_of_lt ((hready b hb).2 t hb'), fun _ c hc => ⟨(hready c hc).1, ?_⟩,
      b, hb, .inr ⟨t, hb', Nat.le_refl t⟩⟩
    exact fun timer' htimer' => hfirst timer' (List.mem_flatMap.2 ⟨c, hc, htimer'⟩)

/-- Whether the pass of a task is at its end: all attempts are done, with these outcomes. -/
structure IsAtEnd (w : World) (t : Task) (f : Flight) (os : List Flight.Outcome) : Prop where
  mem : t ∈ w.tasks
  done : ∃ attempts, t.activity = .converging f attempts ∧ outcomes? attempts = some os

/-- **A pass on its courses can be brought to its end.** -/
theorem OnCourse.exists_landing (hinj : P.InjOn u.settings.scope.nameOf)
    (h : OnCourse P es u w) (ht : t ∈ w.tasks) (hact : t.activity = .converging f attempts) :
    ∃ w' t' os, Unfolds (.steady u.settings P u.publication) w w' ∧ w'.IsAtEnd t' f os := by
  induction hn : Attempt.total (·.progress.stepsLeft) attempts using Nat.strongRecOn
    generalizing w t attempts with
  | ind n ih =>
    by_cases hdone : ∀ a ∈ attempts, ∃ o, a.progress = .done o
    · obtain ⟨os, hos⟩ := exists_outcomes? hdone
      exact ⟨w, t, os, .start, ht, attempts, hact, hos⟩
    · have hopen : ∃ a ∈ attempts, ∀ o, a.progress ≠ .done o := by
        simpa only [not_forall, not_exists, exists_prop] using hdone
      have hair : w.air = some (f, attempts) :=
        h.orderly.air_of_flying ht (Task.flying_eq_some.2 hact)
      have hnd : (attempts.map (·.resource.id)).Nodup := (h.tells.inAir _ _ hair).nodup_ids
      -- the clock goes on to the next moment, unless that is now
      obtain ⟨now, hlater, hwait, a, ha, hready⟩ := exists_next w.now hopen
      have htick : w.Happens (.steady u.settings P u.publication) [] { w with now := now } :=
        .tick hlater
      have hclock : w.Awaits now := by
        intro hlt f' attempts' hair'
        rw [hair] at hair'
        cases hair'
        exact hwait hlt
      have h₁ : OnCourse P es u { w with now := now } := h.happen hinj htick hclock
      -- and an attempt moves
      obtain ⟨a', w₂, hadv⟩ := exists_advance (w := { w with now := now }) hready
      obtain ⟨hm, events, hw₂⟩ := moves_of_advance hadv
      have hmove : Happens (.steady u.settings P u.publication) { w with now := now } []
          (w₂.put { t with activity := .converging f (setAttempt attempts a') }) :=
        .move _ (h₁.orderly.move_attempt ht hact hnd ha hadv)
      have hstill : Awaits { w with now := now }
          (w₂.put { t with activity := .converging f (setAttempt attempts a') }).now := by
        intro hlt
        rw [hw₂] at hlt
        exact absurd hlt (Nat.lt_irrefl _)
      have ht₂ : t ∈ w₂.tasks := by
        rw [hw₂]
        exact ht
      have hfewer := total_setAttempt_lt (·.progress.stepsLeft) hnd ha hm.resource_eq
        hm.stepsLeft_lt
      obtain ⟨w', t', os, hrest, hend⟩ := ih _ (hn ▸ hfewer) (h₁.happen hinj hmove hstill)
        (mem_put.2 (.inl ⟨rfl, t, ht₂, rfl⟩)) rfl rfl
      exact ⟨w', t', os, .trans (.happen (.happen .start htick hclock) hmove hstill) hrest, hend⟩

/-! ## What all has come to -/

namespace OnCourse

variable (h : OnCourse P es u w) (hair : w.air = some (f, attempts))
include h hair

theorem flight_eq : f = u.situation.flight := by
  obtain ⟨attempts', hair'⟩ := h.air
  rw [hair] at hair'
  exact congrArg Prod.fst (Option.some.inj hair')

/-- Each resource of the batch has its attempt. -/
theorem exists_attempt {r : Resource} (hr : r ∈ u.situation.flight.batch) :
    ∃ a ∈ attempts, a.resource = r := by
  rw [← h.flight_eq hair, ← (h.tells.inAir _ _ hair).batch] at hr
  exact List.mem_map.1 hr

variable {os : List Flight.Outcome} (hos : outcomes? attempts = some os)
include hos

/-- An attempt that is done has come to its ending. -/
theorem isOn_of_mem (ha : a ∈ attempts) :
    a.progress = .done (u.courseOf a.resource).ending.outcome ∧
      w.rig.inventory.standing u.settings.scope a.resource.id =
        (u.courseOf a.resource).ending.left ∧
      w.reportsOf a.resource.id =
        u.told a.resource.id ++ (u.courseOf a.resource).ending.reports := by
  have hattempts : w.situation.attempts = attempts := Situation.attempts_of_air hair
  obtain ⟨outcome, hdone, -⟩ := exists_outcome_of_mem hos ha
  obtain ⟨reports, htold, hon⟩ := h.course a (hattempts ▸ ha)
  have hend := hon.progress
  rw [hdone] at hend
  obtain ⟨rfl, hleft, rfl⟩ := hend
  exact ⟨hdone, hleft, htold⟩

/-- **The outcomes are those that the courses come to**, in the order of the batch. -/
theorem outcomes_eq : os = u.situation.flight.batch.map fun r =>
    (r.id, (u.courseOf r).ending.outcome) := by
  have hin := h.tells.inAir _ _ hair
  have hall : ∀ a ∈ attempts, a.progress = .done (u.courseOf a.resource).ending.outcome :=
    fun a ha => (h.isOn_of_mem hair hos ha).1
  rw [← h.flight_eq hair, ← hin.batch, List.map_map]
  rw [outcomes?_eq_some_iff] at hos
  clear hair hin
  induction hos with
  | nil => rfl
  | @cons a o as os hdone _ ih =>
    have hrest := ih fun b hb => hall b (List.mem_cons_of_mem _ hb)
    have hfirst : o = (a.resource.id, (u.courseOf a.resource).ending.outcome) := by
      have hsame := Progress.done.inj (hdone.1.symm.trans (hall a List.mem_cons_self))
      exact Prod.ext hdone.2 hsame
    rw [List.map_cons, ← hrest, hfirst]
    rfl

/-- **What stands under the name of a resource of the batch is what its course has left.** -/
theorem standing_eq {r : Resource} (hr : r ∈ u.situation.flight.batch) :
    w.rig.inventory.standing u.settings.scope r.id = (u.courseOf r).ending.left := by
  obtain ⟨a, ha, rfl⟩ := h.exists_attempt hair hr
  exact (h.isOn_of_mem hair hos ha).2.1

/-- **What is reported about it is what its course has reported.** -/
theorem reportsOf_eq {r : Resource} (hr : r ∈ u.situation.flight.batch) :
    w.reportsOf r.id = u.told r.id ++ (u.courseOf r).ending.reports := by
  obtain ⟨a, ha, rfl⟩ := h.exists_attempt hair hr
  exact (h.isOn_of_mem hair hos ha).2.2

end OnCourse

/-! ## From the start to the end -/

/-- A task is about to set out for a pass, and no gate is up. -/
structure Departs (P : Set ResourceId) (es : List Episode) (u : World) (t : Task) : Prop where
  orderly : u.Orderly
  tells : Tells u.settings es u.situation
  aimed : Aimed u.settings u.rig.region P u.situation
  mem : t ∈ u.tasks
  queued : t.activity = .queued .converge
  held : u.lock.isHeldBy t.number = true
  gates : u.rig.gates = []

/-- The pass that set out from `u` is at its end at `w`. -/
structure Ended (P : Set ResourceId) (es : List Episode) (u w : World) (f : Flight)
    (attempts : List Attempt) (os : List Flight.Outcome) : Prop where
  onCourse : OnCourse P es u w
  air : w.air = some (f, attempts)
  done : outcomes? attempts = some os
  state : w.state = u.state

namespace Departs

variable (h : Departs P es u t)
include h

theorem onCourse : OnCourse P es u (u.takeOff t) :=
  .takeOff h.orderly h.tells h.aimed h.mem h.queued h.held h.gates

variable (hinj : P.InjOn u.settings.scope.nameOf)
variable (hw : Unfolds (.steady u.settings P u.publication) (u.takeOff t) w)
include hinj hw

/-- **Wherever the pass is, it can be brought to its end.** -/
theorem exists_landing : ∃ w' t' f os,
    Unfolds (.steady u.settings P u.publication) w w' ∧ w'.IsAtEnd t' f os := by
  have hon : OnCourse P es u w := hw.onCourse hinj h.onCourse
  obtain ⟨attempts, hair⟩ := hon.air
  obtain ⟨t', ht', hflying⟩ := List.exists_of_findSome?_eq_some hair
  obtain ⟨w', t'', os, hrun, hend⟩ := hon.exists_landing hinj ht' (Task.flying_eq_some.1 hflying)
  exact ⟨w', t'', _, os, hrun, hend⟩

/-- Where it is at its end, all has come to what the courses come to. -/
theorem ended {t' : Task} (hend : w.IsAtEnd t' f os) : ∃ attempts,
    Ended P es u w f attempts os := by
  have hon : OnCourse P es u w := hw.onCourse hinj h.onCourse
  obtain ⟨ht', attempts, hact', hos⟩ := hend
  obtain ⟨ho₁, hoff⟩ := h.orderly.takesOff h.mem h.queued h.held
  have hair : w.air = some (f, attempts) :=
    hon.orderly.air_of_flying ht' (Task.flying_eq_some.2 hact')
  have hstate : (u.takeOff t).state = u.state := by
    rw [← state_situation, hoff]
    rfl
  exact ⟨attempts, hon, hair, hos, (hw.runs.state_eq ho₁).trans hstate⟩

end Departs

end World

end IngressBalancer
