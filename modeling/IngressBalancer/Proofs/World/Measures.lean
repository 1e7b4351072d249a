import IngressBalancer.Proofs.Metrics.Readings
import IngressBalancer.Proofs.World.Retries
/-!
# What is measured along a run

The metrics change when a pass sets out, when it lands, and when a resync is
committed, and not otherwise (`measures_of_happens`). So along every run
they can be read off from the state and from the passes so far
(`metrics_follow`): the gauges show what the committed registry and the
committed retry book hold, and the counters add up what all passes have met.
-/

namespace IngressBalancer

namespace Episode

/-- How many passes an episode is. -/
def passes : Episode → Nat
  | .pass .. => 1
  | .resync .. => 0

/-- The specs that a pass could not build, and its attempts that failed. -/
def troubles : Episode → Nat
  | .pass f os _ => f.desired.problems.length + Flight.failures os
  | .resync .. => 0

end Episode

/-- A committed state counts the passes that led to it. -/
theorem Committed.passes_eq {settings : Settings} {es : List Episode} {s : SyncState}
    (h : Committed settings es s) : s.passes = (es.map Episode.passes).sum := by
  induction h with
  | initial => rfl
  | @next es s e _ _ ih =>
    rw [List.map_append, List.sum_append, ← ih]
    cases e <;> rfl

/-- While a pass is in the air, it stays there until something is committed. -/
theorem Situation.Turn.aloft {S : Surroundings} {c c' : Situation} (h : c.Turn S [] c')
    (hair : c.air ≠ none) : c'.air.map (·.1) = c.air.map (·.1) ∧ c'.state = c.state := by
  cases h with
  | takeOff hnone => exact absurd hnone hair
  | attempt hsome => exact ⟨by rw [hsome]; rfl, rfl⟩
  | answer hsome => exact ⟨by rw [hsome]; rfl, rfl⟩
  | _ => exact ⟨rfl, rfl⟩

namespace World

variable {S : Surroundings} {w w' : World} {t : Task} {es : List Episode}
variable {settings : Settings} {view : View} {rig : Rig} {monitor : Monitor}
variable {f : Flight} {os : List Flight.Outcome}

/-- The pass that is in the air. -/
def aloft (w : World) : Option Flight := w.air.map (·.1)

/-- What becomes of the metrics when something happens. -/
inductive Measures (w w' : World) : List Episode → Prop
  /-- They stay as they are. -/
  | rest (hstate : w'.state = w.state) (hmetrics : w'.metrics = w.metrics)
    (haloft : w'.aloft = w.aloft) : Measures w w' []
  /-- A pass sets out. -/
  | start (f : Flight) (hstate : w'.state = w.state)
    (hmetrics : w'.metrics = f.countStart w.metrics) (haloft : w.aloft = none)
    (haloft' : w'.aloft = some f) : Measures w w' []
  /-- A pass lands. -/
  | landing (f : Flight) (os : List Flight.Outcome)
    (hstate : w'.state = (f.commit w.settings w.state w.metrics os w.now).state)
    (hmetrics : w'.metrics = (f.commit w.settings w.state w.metrics os w.now).metrics)
    (haloft : w.aloft = some f) (haloft' : w'.aloft = none) :
    Measures w w' [.pass f os w.now]
  /-- A resync is committed. -/
  | resync (discovered : List Resource)
    (hstate : w'.state = (Resync.run w.state w.metrics discovered w.now 0).state)
    (hmetrics : w'.metrics = (Resync.run w.state w.metrics discovered w.now 0).metrics)
    (haloft : w.aloft = none) (haloft' : w'.aloft = none) :
    Measures w w' [.resync discovered w.now]

/-! ## One happening -/

theorem metrics_finish (w : World) (t : Task) (y : Yield) :
    (w.finish t y).metrics = w.metrics := by
  obtain ⟨u, -, -, -, hu⟩ := finish_eq w t y
  rw [hu]
  rfl

theorem metrics_takeOff : (w.takeOff t).metrics = w.situation.flight.countStart w.metrics := by
  unfold takeOff
  simp only [callAll_eq]
  rfl

theorem metrics_land : (w.land t f os).metrics =
    (f.commit w.settings w.state w.metrics os w.now).metrics := by
  simp only [land, metrics_finish]
  rfl

theorem metrics_inspect (w : World) (t : Task) : (w.inspect t).metrics = w.metrics := by
  obtain ⟨_, _, _, h⟩ := inspect_frame w t
  rw [h]

/-- Where the situation is the same, only the metrics are to be compared. -/
theorem Measures.of_situation (hsituation : w'.situation = w.situation)
    (hmetrics : w'.metrics = w.metrics) : Measures w w' [] :=
  .rest (congrArg Situation.state hsituation) hmetrics
    (congrArg (fun c => c.air.map (·.1)) hsituation)

/-- A resync measures itself, as far as it commits anything. -/
theorem measures_resync (ho : w.Orderly) (ht : t ∈ w.tasks) (hact : t.activity = .queued .resync)
    (hheld : w.lock.isHeldBy t.number = true) :
    Measures w (w.resync t) (w.episodesOf t) := by
  have hstill : t.flying = none := by simp [Task.flying, hact]
  have hair : w.air = none := ho.air_eq_none_of_held ht hheld hstill
  simp only [episodesOf, hact, hheld, if_true, resync]
  cases hd : w.rig.discover w.scope with
  | error failure =>
    exact .of_situation (ho.finishes ht hstill _).2 (metrics_finish _ _ _)
  | ok discovered =>
    let r := Resync.run w.state w.metrics discovered w.now 0
    have ho₁ : ({ w with state := r.state, metrics := r.metrics } : World).Orderly :=
      ho.congr rfl rfl
    have hs := (ho₁.finishes ht hstill (.resynced (.ok r.state.registry.size))).2
    have hair' := (congrArg Situation.air hs).trans hair
    refine .resync discovered (state_finish _ _ _) (metrics_finish _ _ _) ?_ ?_
    · rw [aloft, hair]
      rfl
    · exact congrArg (Option.map (·.1)) hair'

/-- A move of a task measures what the pass or the resync does. -/
theorem measures_of_moveTask (ho : w.Orderly) (ht : t ∈ w.tasks) (h : w.moveTask t = some w') :
    Measures w w' (w.episodesOf t) := by
  cases moves_of_moveTask h with
  | goes signal hn hy hs hs' =>
    have ho₁ : ({ w with signal := signal } : World).Orderly := ho.congr rfl rfl
    rw [episodesOf_of_stake? hs]
    exact .of_situation (ho₁.still _ ht hn (hs'.trans hs.symm) (Task.flying_of_stake? hs)
      (Task.flying_of_stake? hs')).2 rfl
  | asks e hn hy hs =>
    rw [episodesOf_of_stake? hs]
    exact .of_situation (ho.asks _ ht hn hs e).2 rfl
  | takesOff hact hheld =>
    have hnil : w.episodesOf t = [] := by simp [episodesOf, hact]
    have hsituation := (ho.takesOff ht hact hheld).2
    rw [hnil]
    refine .start w.situation.flight (congrArg Situation.state hsituation) metrics_takeOff ?_ ?_
    · exact congrArg (Option.map (·.1)) (ho.air_of_queued ht hact hheld)
    · exact congrArg (fun c => c.air.map (·.1)) hsituation
  | resyncs hact hheld => exact measures_resync ho ht hact hheld
  | inspects hact =>
    have hnil : w.episodesOf t = [] := by simp [episodesOf, hact]
    rw [hnil]
    exact .of_situation (turn_inspect ho ht hact).2 (metrics_inspect w t)
  | probes hact =>
    have hnil : w.episodesOf t = [] := by simp [episodesOf, hact]
    have hstill : t.flying = none := by simp [Task.flying, hact]
    rw [hnil]
    exact .of_situation (ho.still { t with activity := .probing (w.now + w.monitor.span) } ht
      rfl (by simp [Task.stake?, hact, Errand.access]) hstill rfl).2 rfl
  | @lands f attempts os hact hos =>
    have hone : w.episodesOf t = [.pass f os w.now] := by simp [episodesOf, hact, hos]
    have hflying : t.flying = some (f, attempts) := Task.flying_eq_some.2 hact
    have hlanded := (turn_land (S := .any) ho ht hact hos).2.eq_commit
    rw [hone]
    refine .landing f os ?_ metrics_land ?_ ?_
    · exact state_land.trans (Flight.state_commit_congr w.metrics)
    · exact congrArg (Option.map (·.1)) (ho.air_of_flying ht hflying)
    · exact congrArg (fun c => c.air.map (·.1)) hlanded
  | reports hact =>
    have hnil : w.episodesOf t = [] := by simp [episodesOf, hact]
    have hstill : t.flying = none := by simp [Task.flying, hact]
    rw [hnil]
    exact .of_situation (ho.finishes ht hstill _).2 (metrics_finish _ _ _)

/-- A move of an attempt measures nothing. -/
theorem measures_of_moveAttempt {id : ResourceId} (ho : w.Orderly) (ht : t ∈ w.tasks)
    (h : w.moveAttempt t id = some w') : Measures w w' [] := by
  obtain ⟨-, hturn⟩ := turn_of_moveAttempt (S := .any) ho ht h
  obtain ⟨_, _, _, _, _, hact, rfl⟩ := eq_of_moveAttempt h
  have hair := ho.air_of_flying ht (Task.flying_eq_some.2 hact)
  obtain ⟨haloft, hstate⟩ := hturn.aloft fun hnone => by
    rw [air_situation, hair] at hnone
    cases hnone
  exact .rest hstate rfl haloft

/-- **Nothing is measured but passes and resyncs.** -/
theorem measures_of_happens (ho : w.Orderly) (h : w.Happens S es w') : Measures w w' es := by
  cases h with
  | move m h =>
    cases m with
    | task number =>
      obtain ⟨t, ht, hmove⟩ := Option.bind_eq_some_iff.1 h
      rw [episodes, ht]
      exact measures_of_moveTask ho (mem_of_task? ht).1 hmove
    | attempt number id =>
      obtain ⟨t, ht, hmove⟩ := Option.bind_eq_some_iff.1 h
      exact measures_of_moveAttempt ho (mem_of_task? ht).1 hmove
  | notify =>
    refine .of_situation (turn_notify ho).2 ?_
    unfold notify
    split <;> rfl
  | spawn role => exact .of_situation (turn_spawn ho role).2 rfl
  | @order t e ht _ hrest =>
    have hstake : t.stake? = none := by rcases hrest with h | h <;> simp [Task.stake?, h]
    exact .of_situation (ho.asks { t with yield := none } ht rfl hstake e).2 rfl
  | @giveUp t e ht _ hwait =>
    have hstill : t.flying = none := by simp [Task.flying, hwait]
    exact .of_situation (ho.releases { t with activity := .finished } ht rfl rfl hstill).2 rfl
  | @answer t f attempts a outcome ht hact ha hopen hsaid =>
    have hair := ho.air_of_flying ht (Task.flying_eq_some.2 hact)
    have hs := (ho.continues ht hact
      (setAttempt attempts { a with progress := .done outcome })).2
    refine .rest (congrArg Situation.state hs) rfl ?_
    rw [aloft, aloft, ← air_situation, hs, hair]
    rfl
  | _ => exact .rest rfl rfl rfl

/-! ## A whole run -/

/-- What the metrics read, given the state and the passes so far. -/
structure Measured (settings : Settings) (es : List Episode) (w : World) : Prop where
  managed : w.metrics.Shows w.state.namespaceCounts
  parked : w.metrics.parked = w.state.retries.parked settings.retry.maxFailures
  updates : w.metrics.updates = (es.map Episode.passes).sum + w.aloft.elim 0 fun _ => 1
  failures : w.metrics.failures = (es.map Episode.troubles).sum +
    w.aloft.elim 0 fun f => f.desired.problems.length

theorem measured_new : Measured settings [] (World.new settings view rig monitor) :=
  ⟨Metrics.shows_empty, rfl, rfl, rfl⟩

/-- **Each happening is measured.** -/
theorem Measured.happen {es' : List Episode} (h : Measured settings es w)
    (hsame : w.settings = settings) (hm : Measures w w' es') :
    Measured settings (es ++ es') w' := by
  obtain ⟨hmanaged, hparked, hupdates, hfailures⟩ := h
  cases hm with
  | rest hstate hmetrics haloft =>
    rw [List.append_nil]
    constructor
    · rwa [hmetrics, hstate]
    · rwa [hmetrics, hstate]
    · rwa [hmetrics, haloft]
    · rwa [hmetrics, haloft]
  | start f hstate hmetrics haloft haloft' =>
    obtain ⟨errors, hcounted, hsum⟩ := f.countStart_adds w.metrics
    rw [hcounted] at hmetrics
    rw [haloft] at hupdates hfailures
    rw [List.append_nil]
    constructor
    · rwa [hmetrics, hstate]
    · rwa [hmetrics, hstate]
    · rw [hmetrics, haloft']
      exact congrArg (· + 1) hupdates
    · rw [hmetrics, haloft']
      exact hsum.trans (congrArg (· + f.desired.problems.length) hfailures)
  | landing f os hstate hmetrics haloft haloft' =>
    obtain ⟨hshows, hparked', hupdates', hfailures'⟩ :=
      f.metrics_commit w.settings os w.now hmanaged
    rw [haloft] at hupdates hfailures
    rw [← hmetrics] at hshows hparked' hupdates' hfailures'
    rw [← hstate] at hshows hparked'
    constructor
    · exact hshows
    · rwa [hsame] at hparked'
    · rw [hupdates', hupdates, haloft', List.map_append, List.sum_append]
      rfl
    · rw [hfailures', hfailures, haloft', List.map_append, List.sum_append]
      exact Nat.add_assoc _ _ _
  | resync discovered hstate hmetrics haloft haloft' =>
    obtain ⟨hshows, hparked', hupdates', hfailures'⟩ :=
      Resync.metrics_run discovered w.now 0 settings.retry.maxFailures hmanaged
    rw [haloft] at hupdates hfailures
    rw [← hmetrics] at hshows hparked' hupdates' hfailures'
    rw [← hstate] at hshows hparked'
    constructor
    · exact hshows
    · exact hparked'
    · rw [hupdates', hupdates, haloft', List.map_append, List.sum_append]
      rfl
    · rw [hfailures', hfailures, haloft', List.map_append, List.sum_append]
      rfl

theorem Runs.measured (h : Runs .any (World.new settings view rig monitor) es w) :
    Measured settings es w := by
  induction h with
  | start => exact measured_new
  | happen hrun hw ih =>
    exact ih.happen hrun.tells.same
      (measures_of_happens (hrun.orderly (orderly_new _ _ _ _)) hw)

/-- **Metrics follow the state.** Along every run of a controller that has just been made, among
whatever surroundings, the gauge of the managed ingresses reads in each namespace how many entries
of the registry lie there, and that of the parked resources how many records of the retry book are
parked. The passes started are those committed, and the failures counted are the problems and the
failed attempts of these passes; a pass in the air is one more, with the problems that it met. -/
theorem metrics_follow (h : Runs .any (World.new settings view rig monitor) es w) :
    (∀ ns, w.metrics.managed.getD ns 0 =
      w.state.registry.toList.countP (·.id.nspace = ns)) ∧
    w.metrics.parked =
      (w.state.retries.records.values.filter (·.isParked settings.retry.maxFailures)).length ∧
    w.state.passes = (es.map Episode.passes).sum ∧
    w.metrics.updates = w.state.passes + w.aloft.elim 0 (fun _ => 1) ∧
    w.metrics.errors.values.sum = (es.map Episode.troubles).sum +
      w.aloft.elim 0 fun f => f.desired.problems.length := by
  obtain ⟨hmanaged, hparked, hupdates, hfailures⟩ := h.measured
  have hpasses : w.state.passes = (es.map Episode.passes).sum := h.tells.committed.passes_eq
  refine ⟨fun ns => ?_, hparked, hpasses, ?_, hfailures⟩
  · have hcounted : w.state.namespaceCounts = w.state.registry.namespaceCounts :=
      h.tells.committed.sound.counted
    rw [hmanaged ns, hcounted, Registry.getD_namespaceCounts, ← Registry.map_id_toList,
      Registry.countIn, List.countP_map]
    rfl
  · rw [hupdates, hpasses]

/-- After an attempt that timed out, and with the next pass in the air, two passes were started
and one failure was counted. -/
theorem metrics_follow_retrying : retrying.state.passes = 1 ∧ retrying.metrics.updates = 2 ∧
    retrying.metrics.errors.values.sum = 1 := by
  have hrun : Runs .any hanging [timeoutPass] retrying := runs_timedOut.trans runs_retrying
  obtain ⟨-, -, hpasses, hupdates, hfailures⟩ := metrics_follow hrun
  have haloft : retrying.aloft.map (·.desired.problems.length) = some 0 := by decide +kernel
  obtain ⟨f, hf, hnone⟩ := Option.map_eq_some_iff.1 haloft
  rw [hf] at hupdates hfailures
  refine ⟨hpasses, ?_, ?_⟩
  · rw [hupdates, hpasses]
    rfl
  · rw [hfailures, Option.elim_some, hnone]
    rfl

end World

end IngressBalancer
