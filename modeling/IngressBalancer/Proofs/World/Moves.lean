import IngressBalancer.Proofs.World.Order
/-!
# What tasks do

The moves of tasks, said once (`Task.Moves`): a task goes on without the
lock, asks for it, or does or finishes what it holds the lock for. What
follows for the situation of a world, and for what readers see, is proved by
these cases and not by those of the program (`moves_of_moveTask`).
-/

namespace IngressBalancer

/-- How a task goes on that neither has nor wants the lock, and whether a wake-up is stored then. -/
inductive Task.Goes (w : World) (t : Task) : Bool → Task → Prop
  | listens (h : t.activity = .starting) (hr : t.role = .driver) :
    Goes w t w.signal { t with activity := .listening }
  | watches (h : t.activity = .starting) (hr : t.role = .watchdog) :
    Goes w t w.signal { t with activity := .asleep (w.now + Watchdog.tick) }
  | drifts (h : t.activity = .starting) (hr : t.role = .drift) :
    Goes w t w.signal { t with activity := .asleep (Instant.after w.now w.settings.syncInterval) }
  | subscribes (h : t.activity = .starting) (hr : t.role = .publisher) :
    Goes w t w.signal { t with activity := .listening, seen := w.state.passes }
  | hears (h : t.activity = .listening) (hr : t.role ≠ .publisher) (hsignal : w.signal = true) :
    Goes w t false { t with activity := .woken }

/-- What a task asks for the lock for, and what it takes note of. -/
inductive Task.Asks (w : World) (t : Task) : Task → Errand → Prop
  | starts (h : t.activity = .starting) (hr : t.role = .update) : Asks w t t .converge
  | wakes {wake : Instant} (h : t.activity = .asleep wake) (hwake : wake ≤ w.now) :
    Asks w t t (if t.role = .watchdog then .inspect else .resync)
  | notes (h : t.activity = .listening) (hr : t.role = .publisher)
    (hnew : t.seen ≠ w.state.passes) :
    Asks w t { t with seen := w.state.passes, listed := w.view.ingresses } .inspect
  | answers (h : t.activity = .woken) : Asks w t t .converge

open World in
/-- One move of a task, and the world after it. -/
inductive Task.Moves (w : World) (t : Task) : World → Prop
  /-- It goes on, and neither had nor has a stake in the lock; it may have taken a wake-up. -/
  | goes {u : Task} (signal : Bool) (hn : u.number = t.number) (hy : u.yield = t.yield)
    (hs : t.stake? = none) (hs' : u.stake? = none) (hg : t.Goes w signal u) :
    Moves w t (({ w with signal := signal }).put u)
  | asks {u : Task} (e : Errand) (hn : u.number = t.number) (hy : u.yield = t.yield)
    (hs : t.stake? = none) (ha : t.Asks w u e) : Moves w t (w.ask u e)
  | takesOff (h : t.activity = .queued .converge) (hheld : w.lock.isHeldBy t.number = true) :
    Moves w t (w.takeOff t)
  | resyncs (h : t.activity = .queued .resync) (hheld : w.lock.isHeldBy t.number = true) :
    Moves w t (w.resync t)
  | inspects (h : t.activity = .queued .inspect) (hheld : w.lock.isHeldBy t.number = true) :
    Moves w t (w.inspect t)
  | probes (h : t.activity = .queued .probe) :
    Moves w t (w.put { t with activity := .probing (w.now + w.monitor.span) })
  | lands {f : Flight} {attempts : List Attempt} {os : List Flight.Outcome}
    (h : t.activity = .converging f attempts) (hos : outcomes? attempts = some os) :
    Moves w t (w.land t f os)
  | reports {wake : Instant} (h : t.activity = .probing wake) :
    Moves w t (w.finish t (.health w.monitor.report))

namespace World

variable {w w' : World} {t : Task}

/-- Who has no stake in the lock commits nothing. -/
theorem episodesOf_of_stake? (h : t.stake? = none) : w.episodesOf t = [] := by
  unfold Task.stake? at h
  unfold episodesOf
  split at h <;> simp_all

/-- **A move of a task is one of eight.** -/
theorem moves_of_moveTask (h : w.moveTask t = some w') : t.Moves w w' := by
  unfold moveTask at h
  cases hact : t.activity with
  | finished =>
    rw [hact] at h
    cases h
  | starting =>
    have hstake : t.stake? = none := by simp [Task.stake?, hact]
    simp only [hact] at h
    split at h
    · cases h
    · next hr =>
      cases h
      exact .asks .converge rfl rfl hstake (.starts hact hr)
    · next hr =>
      cases h
      exact .goes w.signal rfl rfl hstake rfl (.listens hact hr)
    · next hr =>
      cases h
      exact .goes w.signal rfl rfl hstake rfl (.watches hact hr)
    · next hr =>
      cases h
      exact .goes w.signal rfl rfl hstake rfl (.drifts hact hr)
    · next hr =>
      cases h
      exact .goes w.signal rfl rfl hstake rfl (.subscribes hact hr)
  | asleep wake =>
    have hstake : t.stake? = none := by simp [Task.stake?, hact]
    simp only [hact] at h
    split at h
    · next hwake =>
      cases h
      exact .asks _ rfl rfl hstake (.wakes hact hwake)
    · cases h
  | listening =>
    have hstake : t.stake? = none := by simp [Task.stake?, hact]
    simp only [hact] at h
    split at h
    · next hr =>
      split at h
      · next hnew =>
        cases h
        rw [← hact]
        exact .asks .inspect rfl rfl hstake (.notes hact hr hnew)
      · cases h
    · next hr =>
      split at h
      · next hsignal =>
        cases h
        exact .goes false rfl rfl hstake rfl (.hears hact hr hsignal)
      · cases h
  | woken =>
    have hstake : t.stake? = none := by simp [Task.stake?, hact]
    simp only [hact] at h
    cases h
    exact .asks .converge rfl rfl hstake (.answers hact)
  | queued e =>
    simp only [hact] at h
    split at h
    · next hheld =>
      cases e with
      | converge =>
        cases h
        exact .takesOff hact hheld
      | resync =>
        cases h
        exact .resyncs hact hheld
      | inspect =>
        cases h
        exact .inspects hact hheld
      | probe =>
        cases h
        exact .probes hact
    · cases h
  | converging f attempts =>
    simp only [hact, Option.map_eq_some_iff] at h
    obtain ⟨os, hos, rfl⟩ := h
    exact .lands hact hos
  | probing wake =>
    simp only [hact] at h
    split at h
    · cases h
      exact .reports hact
    · cases h

/-- A move of an attempt changes its pass, the rig and the record of events at most. -/
theorem eq_of_moveAttempt {id : ResourceId} (h : w.moveAttempt t id = some w') :
    ∃ f attempts attempts' g events, t.activity = .converging f attempts ∧
      w' = ({ w with rig := g, events := events } : World).put
        { t with activity := .converging f attempts' } := by
  unfold moveAttempt at h
  split at h
  · next f attempts hact =>
    split at h
    · cases h
    · obtain ⟨⟨a', w₁⟩, hadv, rfl⟩ := Option.map_eq_some_iff.1 h
      obtain ⟨-, events, hw₁⟩ := moves_of_advance hadv
      refine ⟨f, attempts, attempts.map fun b => if b.resource.id = id then a' else b, w₁.rig,
        events, hact, ?_⟩
      rw [← hw₁]
  · cases h

end World

end IngressBalancer
