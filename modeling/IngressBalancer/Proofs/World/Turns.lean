import IngressBalancer.Proofs.World.Moves
/-!
# Happenings are turns

Whatever happens to an orderly world leaves it orderly and is a turn of its
situation, with the same episodes (`turn_of_happens`): first what one task
may do, then all that may happen. So what turns preserve, runs preserve
(`Runs.invariant`).
-/

namespace IngressBalancer

namespace World

variable {S : Surroundings} {w w' : World} {t t' : Task} {f : Flight}
variable {attempts : List Attempt} {es : List Episode} {l : Lock}

/-! ## What a task that goes on leaves of the situation -/

/-- Nothing is in the air after the task of a pass has gone on to something else. -/
theorem air_put_of_landed (ho : w.Orderly) (ht : t ∈ w.tasks) (hn : t'.number = t.number)
    (hf : t.flying.isSome) (hf' : t'.flying = none) : (w.put t').air = none := by
  refine Orderly.air_eq_none fun u hu => ?_
  rcases mem_put.1 hu with ⟨rfl, -⟩ | ⟨hu, hne⟩
  · exact hf'
  · cases hu' : u.flying with
    | none => rfl
    | some x =>
      rw [ho.eq_of_flying ht hf hu (by rw [hu']; rfl), hn] at hne
      exact absurd rfl hne

/-- A task that has to do with no pass leaves all as it was. -/
theorem situation_put_of_still (ho : w.Orderly) (ht : t ∈ w.tasks) (hn : t'.number = t.number)
    (hf : t.flying = none) (hf' : t'.flying = none)
    (ho' : (({ w with lock := l }).put t').Orderly) :
    (({ w with lock := l }).put t').situation = w.situation := by
  have hair : (({ w with lock := l }).put t').air = w.air := by
    cases ha : w.air with
    | none =>
      rw [air, List.findSome?_eq_none_iff] at ha
      refine Orderly.air_eq_none fun u hu => ?_
      rcases mem_put.1 hu with ⟨rfl, -⟩ | ⟨hu, -⟩
      · exact hf'
      · exact ha u hu
    | some x =>
      obtain ⟨u, hu, hx⟩ := List.exists_of_findSome?_eq_some ha
      refine ho'.air_of_flying (mem_put.2 (.inr ⟨hu, fun hun => ?_⟩)) hx
      rw [ho.eq_of_number hu ht (hun.trans hn), hf] at hx
      cases hx
  have hrest : { (({ w with lock := l }).put t').situation with air := w.air } =
    w.situation := rfl
  rw [← hrest, ← hair]
  rfl

namespace Orderly

/-- A task without a pass goes on with the stake that it has. -/
theorem still (ho : w.Orderly) (t' : Task) (ht : t ∈ w.tasks) (hn : t'.number = t.number)
    (hs : t'.stake? = t.stake?) (hf : t.flying = none) (hf' : t'.flying = none) :
    (w.put t').Orderly ∧ (w.put t').situation = w.situation := by
  have ho' : (w.put t').Orderly := ho.put_same ht hn hs fun h => by rw [hf'] at h; cases h
  exact ⟨ho', situation_put_of_still ho ht hn hf hf' ho'⟩

theorem asks (ho : w.Orderly) (t' : Task) (ht : t ∈ w.tasks) (hn : t'.number = t.number)
    (hs : t.stake? = none) (e : Errand) :
    (w.ask t' e).Orderly ∧ (w.ask t' e).situation = w.situation := by
  have ho' := ho.ask ht hn hs e
  exact ⟨ho', situation_put_of_still ho ht hn (Task.flying_of_stake? hs) rfl ho'⟩

theorem releases (ho : w.Orderly) (t' : Task) (ht : t ∈ w.tasks) (hn : t'.number = t.number)
    (hs : t'.stake? = none) (hf : t.flying = none) :
    (({ w with lock := w.lock.release t.number }).put t').Orderly ∧
      (({ w with lock := w.lock.release t.number }).put t').situation = w.situation := by
  have ho' := ho.release ht hn hs
  exact ⟨ho', situation_put_of_still ho ht hn hf (Task.flying_of_stake? hs) ho'⟩

end Orderly

/-- After an errand a task has given the lock back and has no stake in it, and what the errand
yielded at most. -/
theorem finish_eq (w : World) (t : Task) (y : Yield) : ∃ u : Task, u.number = t.number ∧
    u.stake? = none ∧ (u.yield = t.yield ∨ u.yield = some y) ∧
      w.finish t y = ({ w with lock := w.lock.release t.number }).put u := by
  unfold finish
  split
  · exact ⟨{ t with activity := .listening }, rfl, rfl, .inl rfl, rfl⟩
  · exact ⟨{ t with activity := .listening }, rfl, rfl, .inl rfl, rfl⟩
  · exact ⟨{ t with activity := .asleep (w.now + Watchdog.tick) }, rfl, rfl, .inl rfl, rfl⟩
  · exact ⟨{ t with activity := .asleep (Instant.after w.now w.settings.syncInterval) },
      rfl, rfl, .inl rfl, rfl⟩
  · exact ⟨{ t with yield := some y, activity := .finished }, rfl, rfl, .inr rfl, rfl⟩
  · exact ⟨{ t with yield := some y, activity := .finished }, rfl, rfl, .inr rfl, rfl⟩

/-- A look changes nothing but the lock, the tasks, and the statuses that were written. -/
theorem inspect_frame (w : World) (t : Task) : ∃ l ts statuses,
    w.inspect t = { w with lock := l, tasks := ts, statuses := statuses } := by
  unfold inspect
  split
  · split
    · exact ⟨_, _, _, rfl⟩
    · obtain ⟨u, -, -, -, hu⟩ := finish_eq w t (.state w.state)
      exact ⟨_, _, _, hu⟩
  · obtain ⟨u, -, -, -, hu⟩ := finish_eq _ t (.state w.state)
    exact ⟨_, _, _, hu⟩
  · obtain ⟨u, -, -, -, hu⟩ := finish_eq w t (.state w.state)
    exact ⟨_, _, _, hu⟩

/-- A resync changes nothing but the lock, the tasks, the state and the metrics. -/
theorem resync_frame (w : World) (t : Task) : ∃ l ts s m,
    w.resync t = { w with lock := l, tasks := ts, state := s, metrics := m } := by
  unfold resync
  split
  · next failure _ =>
    obtain ⟨u, -, -, -, hu⟩ := finish_eq w t (.resynced (.error failure))
    exact ⟨_, _, _, _, hu⟩
  · next discovered _ =>
    let r := Resync.run w.state w.metrics discovered w.now 0
    obtain ⟨u, -, -, -, hu⟩ := finish_eq ({ w with state := r.state, metrics := r.metrics }) t
      (.resynced (.ok r.state.registry.size))
    exact ⟨_, _, _, _, hu⟩

@[simp] theorem state_finish (w : World) (t : Task) (y : Yield) :
    (w.finish t y).state = w.state := by
  obtain ⟨u, -, -, -, hu⟩ := finish_eq w t y
  rw [hu]
  rfl

@[simp] theorem rig_finish (w : World) (t : Task) (y : Yield) : (w.finish t y).rig = w.rig := by
  obtain ⟨u, -, -, -, hu⟩ := finish_eq w t y
  rw [hu]
  rfl

/-- A landing commits what the pass makes of the state, and leaves the provider alone. -/
theorem state_land {os : List Flight.Outcome} : (w.land t f os).state =
    (Episode.pass f os w.now).commit w.settings w.state := by
  simp only [land, state_finish]
  exact Flight.state_commit_congr .empty

@[simp] theorem rig_land {os : List Flight.Outcome} : (w.land t f os).rig = w.rig := by
  simp only [land, rig_finish]
  rfl

namespace Orderly

/-- A task without a pass finishes its errand. -/
theorem finishes (ho : w.Orderly) (ht : t ∈ w.tasks) (hf : t.flying = none) (y : Yield) :
    (w.finish t y).Orderly ∧ (w.finish t y).situation = w.situation := by
  obtain ⟨u, hn, hs, -, hu⟩ := finish_eq w t y
  rw [hu]
  exact ho.releases u ht hn hs hf

/-- A task finishes its pass. -/
theorem lands (ho : w.Orderly) (ht : t ∈ w.tasks) (hf : t.flying.isSome) (y : Yield) :
    (w.finish t y).Orderly ∧ (w.finish t y).situation = { w.situation with air := none } := by
  obtain ⟨u, hn, hs, -, hu⟩ := finish_eq w t y
  have hair : (w.put u).air = none :=
    air_put_of_landed ho ht hn hf (Task.flying_of_stake? hs)
  rw [hu, ← hair]
  exact ⟨ho.release ht hn hs, rfl⟩

end Orderly

/-! ## Errands -/

/-- A pass sets out. -/
theorem Orderly.takesOff (ho : w.Orderly) (ht : t ∈ w.tasks)
    (hact : t.activity = .queued .converge) (hheld : w.lock.isHeldBy t.number = true) :
    (w.takeOff t).Orderly ∧ (w.takeOff t).situation = w.situation.takeOff := by
  have hstake : t.stake? = some .exclusive := by simp [Task.stake?, hact, Errand.access]
  let f := w.situation.flight
  let u : Task := { t with activity := .converging f w.situation.opened.1 }
  have hput : w.takeOff t = (w.sendOff f).put u := takeOff_eq w t
  have ho₁ : (w.sendOff f).Orderly := ho.congr rfl rfl
  have ho' : ((w.sendOff f).put u).Orderly := ho₁.put_same ht rfl hstake.symm fun _ =>
    ho.writer_of_held ht hheld hstake
  have hair : ((w.sendOff f).put u).air = w.situation.takeOff.air :=
    ho'.air_of_flying (mem_put.2 (.inl ⟨rfl, t, ht, rfl⟩)) rfl
  rw [hput]
  refine ⟨ho', ?_⟩
  calc ((w.sendOff f).put u).situation
      = { (w.sendOff f).situation with air := ((w.sendOff f).put u).air } := rfl
    _ = w.situation.takeOff := by
      rw [hair]
      rfl

/-- Then it is in the air, with its attempts. -/
theorem Orderly.air_takeOff (ho : w.Orderly) (ht : t ∈ w.tasks)
    (hact : t.activity = .queued .converge) (hheld : w.lock.isHeldBy t.number = true) :
    (w.takeOff t).air = some (w.situation.flight, w.situation.opened.1) :=
  congrArg Situation.air (ho.takesOff ht hact hheld).2

theorem turn_takeOff (ho : w.Orderly) (ht : t ∈ w.tasks) (hact : t.activity = .queued .converge)
    (hheld : w.lock.isHeldBy t.number = true) :
    (w.takeOff t).Orderly ∧ w.situation.Turn S [] (w.takeOff t).situation := by
  obtain ⟨ho', hs⟩ := ho.takesOff ht hact hheld
  rw [hs]
  exact ⟨ho', .takeOff (ho.air_eq_none_of_held ht hheld (by simp [Task.flying, hact]))⟩

theorem turn_land (ho : w.Orderly) (ht : t ∈ w.tasks) (hact : t.activity = .converging f attempts)
    {os : List Flight.Outcome} (hos : outcomes? attempts = some os) :
    (w.land t f os).Orderly ∧
      w.situation.Turn S [.pass f os w.now] (w.land t f os).situation := by
  have hf : t.flying = some (f, attempts) := Task.flying_eq_some.2 hact
  let c := f.commit w.settings w.state w.metrics os w.now
  have ho₁ : (({ w with state := c.state, metrics := c.metrics }).note c.events).Orderly :=
    ho.congr rfl rfl
  obtain ⟨ho', hsit⟩ := ho₁.lands ht (by rw [hf]; rfl) (.report c.report)
  refine ⟨ho', ?_⟩
  have hstate : c.state = (Episode.pass f os w.now).commit w.settings w.state :=
    Flight.state_commit_congr .empty
  have hland : (w.land t f os).situation = { w.situation with state := c.state, air := none } :=
    hsit
  rw [hland, hstate]
  exact .land (ho.air_of_flying ht hf) hos

theorem turn_resync (ho : w.Orderly) (ht : t ∈ w.tasks) (hact : t.activity = .queued .resync)
    (hheld : w.lock.isHeldBy t.number = true) :
    (w.resync t).Orderly ∧ w.situation.Turn S (w.episodesOf t) (w.resync t).situation := by
  have hstill : t.flying = none := by simp [Task.flying, hact]
  have hair := ho.air_eq_none_of_held ht hheld hstill
  simp only [episodesOf, hact, hheld, if_true, resync]
  cases hd : w.rig.discover w.scope with
  | error failure =>
    obtain ⟨ho', hsit⟩ := ho.finishes ht hstill (.resynced (.error failure))
    refine ⟨ho', ?_⟩
    simp only
    rw [hsit]
    exact .rest
  | ok discovered =>
    let r := Resync.run w.state w.metrics discovered w.now 0
    have ho₁ : ({ w with state := r.state, metrics := r.metrics } : World).Orderly :=
      ho.congr rfl rfl
    obtain ⟨ho', hsit⟩ := ho₁.finishes ht hstill (.resynced (.ok r.state.registry.size))
    refine ⟨ho', ?_⟩
    have hcommit : ({ w with state := r.state, metrics := r.metrics } : World).situation =
        w.situation.commit (.resync discovered w.now) := by
      have hnone : w.situation.commit (.resync discovered w.now) =
          { w.situation.commit (.resync discovered w.now) with air := w.air } := by
        rw [hair]
        rfl
      rw [hnone]
      rfl
    simp only
    rw [hsit, hcommit]
    exact .resync hair hd

theorem turn_inspect (ho : w.Orderly) (ht : t ∈ w.tasks) (hact : t.activity = .queued .inspect) :
    (w.inspect t).Orderly ∧ (w.inspect t).situation = w.situation := by
  have hstill : t.flying = none := by simp [Task.flying, hact]
  unfold inspect
  split
  · split
    · have ho' := ho.releaseAsk ht .converge
      have hs := situation_put_of_still ho ht (by rfl) hstill (by rfl) ho'
      exact ⟨ho', hs⟩
    · exact ho.finishes ht hstill _
  · have ho₁ : ({ w with
        statuses := w.statuses ++ w.state.registry.pendingStatuses w.rig.hostnamesOf
          w.settings.ingressClass t.listed } : World).Orderly := ho.congr rfl rfl
    exact ho₁.finishes ht hstill _
  · exact ho.finishes ht hstill _

/-! ## Moves -/

/-- A world in the same situation is one turn away. -/
theorem turn_of_eq (h : w'.situation = w.situation) : w.situation.Turn S [] w'.situation := by
  rw [h]
  exact .rest

/-- **A move of a task is a turn.** -/
theorem turn_of_moveTask (ho : w.Orderly) (ht : t ∈ w.tasks) (h : w.moveTask t = some w') :
    w'.Orderly ∧ w.situation.Turn S (w.episodesOf t) w'.situation := by
  cases moves_of_moveTask h with
  | goes signal hn hy hs hs' =>
    have ho₁ : ({ w with signal := signal } : World).Orderly := ho.congr rfl rfl
    obtain ⟨ho', hsit⟩ := ho₁.still _ ht hn (hs'.trans hs.symm) (Task.flying_of_stake? hs)
      (Task.flying_of_stake? hs')
    rw [episodesOf_of_stake? hs]
    exact ⟨ho', turn_of_eq hsit⟩
  | asks e hn hy hs =>
    obtain ⟨ho', hsit⟩ := ho.asks _ ht hn hs e
    rw [episodesOf_of_stake? hs]
    exact ⟨ho', turn_of_eq hsit⟩
  | takesOff hact hheld =>
    have hnil : w.episodesOf t = [] := by simp [episodesOf, hact]
    rw [hnil]
    exact turn_takeOff ho ht hact hheld
  | resyncs hact hheld => exact turn_resync ho ht hact hheld
  | inspects hact =>
    have hnil : w.episodesOf t = [] := by simp [episodesOf, hact]
    obtain ⟨ho', hsit⟩ := turn_inspect ho ht hact
    rw [hnil]
    exact ⟨ho', turn_of_eq hsit⟩
  | probes hact =>
    -- it keeps the lock that it has
    have hnil : w.episodesOf t = [] := by simp [episodesOf, hact]
    have hstill : t.flying = none := by simp [Task.flying, hact]
    obtain ⟨ho', hsit⟩ := ho.still { t with activity := .probing (w.now + w.monitor.span) } ht
      rfl (by simp [Task.stake?, hact, Errand.access]) hstill rfl
    rw [hnil]
    exact ⟨ho', turn_of_eq hsit⟩
  | @lands f attempts os hact hos =>
    have hone : w.episodesOf t = [.pass f os w.now] := by simp [episodesOf, hact, hos]
    rw [hone]
    exact turn_land ho ht hact hos
  | reports hact =>
    have hnil : w.episodesOf t = [] := by simp [episodesOf, hact]
    have hstill : t.flying = none := by simp [Task.flying, hact]
    obtain ⟨ho', hsit⟩ := ho.finishes ht hstill (.health w.monitor.report)
    rw [hnil]
    exact ⟨ho', turn_of_eq hsit⟩

/-- The task of a pass goes on with other attempts. -/
theorem Orderly.continues (ho : w.Orderly) (ht : t ∈ w.tasks)
    (hact : t.activity = .converging f attempts) (attempts' : List Attempt) :
    (w.put { t with activity := .converging f attempts' }).Orderly ∧
      (w.put { t with activity := .converging f attempts' }).situation =
        { w.situation with air := some (f, attempts') } := by
  have hstake : t.stake? = some .exclusive := by simp [Task.stake?, hact]
  have ho' : (w.put { t with activity := .converging f attempts' }).Orderly := by
    refine ho.put_same ht rfl hstake.symm fun _ => ho.flies t ht ?_
    rw [Task.flying_eq_some.2 hact]
    rfl
  refine ⟨ho', ?_⟩
  rw [← ho'.air_of_flying (mem_put.2 (.inl ⟨rfl, t, ht, rfl⟩)) rfl]
  rfl

/-- **A move of an attempt is a turn.** -/
theorem turn_of_moveAttempt {id : ResourceId} (ho : w.Orderly) (ht : t ∈ w.tasks)
    (h : w.moveAttempt t id = some w') :
    w'.Orderly ∧ w.situation.Turn S [] w'.situation := by
  unfold moveAttempt at h
  split at h
  · next f attempts hact =>
    split at h
    · cases h
    · next a hfind =>
      obtain ⟨⟨a', w₁⟩, hadv, rfl⟩ := Option.map_eq_some_iff.1 h
      have ha := List.mem_of_find?_eq_some hfind
      have hid : a.resource.id = id := by simpa using List.find?_some hfind
      obtain ⟨hm, events, hw₁⟩ := moves_of_advance hadv
      have ho₁ : w₁.Orderly := ho.congr (by rw [hw₁]) (by rw [hw₁])
      have ht₁ : t ∈ w₁.tasks := by rw [hw₁]; exact ht
      have hset : (attempts.map fun b => if b.resource.id = id then a' else b) =
          setAttempt attempts a' := by rw [setAttempt, hm.resource_eq, hid]
      obtain ⟨ho', hs⟩ := ho₁.continues ht₁ hact (setAttempt attempts a')
      have hs₁ : { w₁.situation with air := some (f, setAttempt attempts a') } =
          { w.situation with rig := w₁.rig, air := some (f, setAttempt attempts a') } := by
        rw [hw₁]
        rfl
      simp only [hset]
      rw [hs, hs₁]
      exact ⟨ho', .attempt (ho.air_of_flying ht (Task.flying_eq_some.2 hact)) ha hm⟩
  · cases h

/-- The move of an attempt that can go on. -/
theorem Orderly.move_attempt (ho : w.Orderly) (ht : t ∈ w.tasks)
    (hact : t.activity = .converging f attempts) (hnd : (attempts.map (·.resource.id)).Nodup)
    (ha : a ∈ attempts) (hadv : w.advance a = some (a', w')) :
    w.move (.attempt t.number a.resource.id) =
      some (w'.put { t with activity := .converging f (setAttempt attempts a') }) := by
  have hset : (attempts.map fun b => if b.resource.id = a.resource.id then a' else b) =
      setAttempt attempts a' := by rw [setAttempt, (moves_of_advance hadv).1.resource_eq]
  have hmove : w.move (.attempt t.number a.resource.id) =
      (w.task? t.number).bind fun t => w.moveAttempt t a.resource.id := rfl
  rw [hmove, ho.task?_of_mem ht, Option.bind_some, moveAttempt]
  simp only [hact, find?_key_eq_some hnd ha, hadv, Option.map_some, hset]

/-! ## All that may happen -/

/-- A new task has a number of its own, and no stake in the lock yet. -/
theorem turn_spawn (ho : w.Orderly) (role : Role) :
    (w.spawn role).Orderly ∧ (w.spawn role).situation = w.situation := by
  constructor
  · constructor
    · simp only [spawn, List.map_append, List.map_cons, List.map_nil]
      refine List.nodup_append.2 ⟨ho.nodup, List.nodup_singleton _, fun n hn m hm => ?_⟩
      -- the new number is above all others
      have hle : n ≤ (w.tasks.map (·.number)).foldl max 0 := by
        rw [List.foldl_max]
        exact Nat.le_trans (List.le_max?_getD_of_mem hn) (Nat.le_max_right _ _)
      rw [List.mem_singleton.1 hm]
      omega
    · exact ho.sound
    · intro p hp
      obtain ⟨t, ht, hn, hs⟩ := ho.staked p hp
      exact ⟨t, List.mem_append_left _ ht, hn, hs⟩
    · intro t ht hf
      rcases List.mem_append.1 ht with ht | ht
      · exact ho.flies t ht hf
      · rw [List.mem_singleton.1 ht] at hf
        cases hf
  · have hair : (w.spawn role).air = w.air := by
      rw [air, spawn, List.findSome?_append]
      exact Option.or_none
    have hrest : { (w.spawn role).situation with air := w.air } = w.situation := rfl
    rw [← hrest, ← hair]
    rfl

/-- A wake-up reaches a driver that listens, or is stored. -/
theorem notify_cases (w : World) :
    (∃ t ∈ w.tasks, t.role = .driver ∧ t.activity = .listening ∧
      w.notify = w.put { t with activity := .woken }) ∨
    w.notify = { w with signal := true } := by
  unfold notify
  split
  · next t hfind =>
    have hp := List.find?_some hfind
    rw [Bool.and_eq_true, decide_eq_true_eq] at hp
    have hact : t.activity = .listening := by
      cases hact : t.activity <;> simp [hact] at hp ⊢
    exact .inl ⟨t, List.mem_of_find?_eq_some hfind, hp.1, hact, rfl⟩
  · exact .inr rfl

/-- A wake-up leaves the situation as it was. -/
theorem turn_notify (ho : w.Orderly) :
    w.notify.Orderly ∧ w.notify.situation = w.situation := by
  rcases notify_cases w with ⟨t, ht, -, hact, hw⟩ | hw
  · have hstake : t.stake? = none := by simp [Task.stake?, hact]
    rw [hw]
    exact ho.still { t with activity := .woken } ht rfl hstake.symm
      (Task.flying_of_stake? hstake) rfl
  · rw [hw]
    exact ⟨ho.congr rfl rfl, rfl⟩

/-- **Whatever happens to an orderly world leaves it orderly and is a turn of its situation.** -/
theorem turn_of_happens (ho : w.Orderly) (h : w.Happens S es w') :
    w'.Orderly ∧ w.situation.Turn S es w'.situation := by
  cases h with
  | move m h =>
    cases m with
    | task number =>
      obtain ⟨t, ht, hmove⟩ := Option.bind_eq_some_iff.1 h
      rw [episodes, ht]
      exact turn_of_moveTask ho (mem_of_task? ht).1 hmove
    | attempt number id =>
      obtain ⟨t, ht, hmove⟩ := Option.bind_eq_some_iff.1 h
      exact turn_of_moveAttempt ho (mem_of_task? ht).1 hmove
  | tick h => exact ⟨ho.congr rfl rfl, .tick h⟩
  | view h => exact ⟨ho.congr rfl rfl, .view h⟩
  | publication h => exact ⟨ho.congr rfl rfl, .publication h⟩
  | rig h => exact ⟨ho.congr rfl rfl, .rig h⟩
  | notify =>
    obtain ⟨ho', hs⟩ := turn_notify ho
    exact ⟨ho', turn_of_eq hs⟩
  | spawn role =>
    obtain ⟨ho', hs⟩ := turn_spawn ho role
    exact ⟨ho', turn_of_eq hs⟩
  | @order t e ht _ hrest =>
    have hstake : t.stake? = none := by rcases hrest with h | h <;> simp [Task.stake?, h]
    obtain ⟨ho', hs⟩ := ho.asks { t with yield := none } ht rfl hstake e
    exact ⟨ho', turn_of_eq hs⟩
  | @giveUp t e ht _ hwait =>
    have hstill : t.flying = none := by simp [Task.flying, hwait]
    obtain ⟨ho', hs⟩ := ho.releases { t with activity := .finished } ht rfl rfl hstill
    exact ⟨ho', turn_of_eq hs⟩
  | @answer t f attempts a outcome ht hact ha hopen hsaid =>
    obtain ⟨hord, hs⟩ := ho.continues ht hact
      (setAttempt attempts { a with progress := .done outcome })
    rw [hs]
    exact ⟨hord, .answer (ho.air_of_flying ht (Task.flying_eq_some.2 hact)) ha hopen hsaid⟩

theorem Runs.orderly {w₀ : World} (ho : w₀.Orderly) (h : Runs S w₀ es w) : w.Orderly := by
  induction h with
  | start => exact ho
  | happen _ hw ih => exact (turn_of_happens ih hw).1

/-- **What turns preserve, runs preserve.** -/
theorem Runs.invariant {I : List Episode → Situation → Prop} {w₀ : World} (ho : w₀.Orderly)
    (h0 : I [] w₀.situation)
    (hturn : ∀ es c es' c', I es c → c.Turn S es' c' → I (es ++ es') c')
    (h : Runs S w₀ es w) : I es w.situation := by
  induction h with
  | start => exact h0
  | happen hrun hw ih => exact hturn _ _ _ _ ih (turn_of_happens (hrun.orderly ho) hw).2

/-- What turns preserve that commit nothing, runs preserve that commit nothing. -/
theorem Runs.invariant_nil {I : Situation → Prop} {w₀ : World} (ho : w₀.Orderly)
    (h0 : I w₀.situation) (hturn : ∀ c c', I c → c.Turn S [] c' → I c') (h : Runs S w₀ [] w) :
    I w.situation := by
  refine Runs.invariant (I := fun es c => es = [] → I c) ho (fun _ => h0)
    (fun es c es' c' hc hnext hnil => ?_) h rfl
  obtain ⟨hbefore, rfl⟩ := List.append_eq_nil_iff.1 hnil
  exact hturn c c' (hc hbefore) hnext

end World

end IngressBalancer
