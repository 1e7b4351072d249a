import IngressBalancer.Proofs.Controller.Records
import IngressBalancer.Proofs.World.Flights
/-!
# What a run records

The calls and the events of a world, traced back to what happened. Every call
was made by a pass for its batch (`Runs.calls_eq`). An event reports a spec
that could not be built, a change that an attempt made, or a failure that a
pass took into account when it landed (`notes_of_happens`); so the reports
about failures are those of the passes that a run commits, one after the
other (`Runs.failures_eq`), and changes are reported by attempts only
(`Runs.isChange_eq_false`).
-/

namespace IngressBalancer

/-! ## Kinds of events -/

/-- Whether an event reports a failed attempt. -/
def Event.isFailure (e : Event) : Bool :=
  e.reason = "ReconcileFailed" || e.reason = "ReconcileParked"

/-- Whether an event reports a change at the provider. -/
def Event.isChange (e : Event) : Bool :=
  e.reason = "CREATE" || e.reason = "MODIFY" || e.reason = "DELETE"

namespace Flight

theorem isFailure_failureEvent (id : ResourceId) (e : Failure) (outcome : FailureOutcome) :
    (failureEvent id e outcome).isFailure = true ∧
      (failureEvent id e outcome).isChange = false := by
  cases outcome <;> exact ⟨rfl, rfl⟩

theorem isFailure_problemEvent (p : ResourceId × Failure) :
    (problemEvent p).isFailure = false ∧ (problemEvent p).isChange = false := by
  obtain ⟨id, e⟩ := p
  cases e <;> exact ⟨rfl, rfl⟩

/-- What a pass reports when it lands is failures. -/
theorem isFailure_of_mem_foldl_take {policy : RetryPolicy} {now : Instant} {e : Event}
    (os : List Outcome) (t : Tally) (ht : ∀ e ∈ t.events, e.isFailure = true ∧ e.isChange = false)
    (h : e ∈ (os.foldl (Tally.take policy now) t).events) :
    e.isFailure = true ∧ e.isChange = false := by
  induction os generalizing t with
  | nil => exact ht e h
  | cons o os ih =>
    refine ih (t.take policy now o) (fun e' he' => ?_) h
    obtain ⟨id, err | r⟩ := o
    · simp only [Tally.take, Tally.fail] at he'
      split at he'
      · exact ht e' he'
      · rcases List.mem_append.1 he' with he' | he'
        · exact ht e' he'
        · rw [List.mem_singleton.1 he']
          exact isFailure_failureEvent _ _ _
    · exact ht e' he'

theorem isFailure_of_mem_tally {f : Flight} {policy : RetryPolicy} {os : List Outcome} {e : Event}
    (h : e ∈ (f.tally policy os).events) : e.isFailure = true ∧ e.isChange = false :=
  isFailure_of_mem_foldl_take os _ (fun _ h => absurd h List.not_mem_nil) h

end Flight

theorem Change.isFailure_of_event? {c : Change} {id : ResourceId} {e : Event}
    (h : c.event? id = some e) : e.isFailure = false := by
  cases c <;> cases h <;> rfl

/-! ## What the episodes of a run add -/

/-- Calls have the ids of the resources that they are for. -/
theorem Call.map_id_of (now : Instant) (rs : List Resource) :
    (rs.map (Call.of now)).map (·.id) = rs.map (·.id) := by
  rw [List.map_map]
  rfl

/-- The calls that a pass makes when it sets out. -/
def Flight.calls (f : Flight) : List Call := f.batch.map (Call.of f.startedAt)

namespace Episode

def calls : Episode → List Call
  | .pass f _ _ => f.calls
  | .resync .. => []

/-- What a pass reports when it lands. -/
def reports (policy : RetryPolicy) : Episode → List Event
  | .pass f os _ => (f.tally policy os).events
  | .resync .. => []

end Episode

/-- The calls of a pass in the air. -/
def Situation.airCalls (c : Situation) : List Call := c.air.elim [] (·.1.calls)

namespace World

variable {S : Surroundings} {u w w' : World} {t : Task} {es : List Episode}
variable {settings : Settings} {f : Flight} {os : List Flight.Outcome}

/-! ## Calls -/

/-- **The calls of a run are those of the passes that it commits and of the one in the air.** -/
theorem Runs.calls_eq (ho : u.Orderly) (hair : u.air = none) (h : Runs S u es w) :
    w.calls = u.calls ++ (es.flatMap Episode.calls ++ w.situation.airCalls) := by
  refine Runs.invariant
    (I := fun es c => c.calls = u.calls ++ (es.flatMap Episode.calls ++ c.airCalls)) ho ?_ ?_ h
  · have hnone : u.situation.air = none := hair
    rw [Situation.airCalls, hnone]
    exact (List.append_nil _).symm
  · intro es c es' c' hc hturn
    cases hturn with
    | takeOff hair =>
      have hstart : c.takeOff.airCalls = c.flight.batch.map (Call.of c.now) := rfl
      rw [Situation.airCalls, hair, Option.elim_none, List.append_nil] at hc
      rw [hstart, List.append_nil, ← List.append_assoc, ← hc]
      rfl
    | attempt hair ha hm =>
      rw [Situation.airCalls, hair] at hc
      rwa [List.append_nil]
    | answer hair ha hopen hsaid =>
      rw [Situation.airCalls, hair] at hc
      rwa [List.append_nil]
    | @land f attempts os hair hos =>
      rw [Situation.airCalls, hair] at hc
      rw [List.flatMap_append, List.append_assoc]
      exact hc.trans (by rw [List.flatMap_singleton]; simp [Situation.airCalls, Situation.commit,
        Episode.calls])
    | resync hair hd =>
      rw [Situation.airCalls, hair] at hc
      rw [List.flatMap_append, List.append_assoc]
      exact hc
    | _ => rwa [List.append_nil]

/-! ## Events -/

@[simp] theorem events_finish (w : World) (t : Task) (y : Yield) :
    (w.finish t y).events = w.events := by
  obtain ⟨u, -, -, -, hu⟩ := finish_eq w t y
  rw [hu]
  rfl

theorem events_takeOff : (w.takeOff t).events =
    w.events ++ w.situation.flight.problemEvents.map (Stamped.mk w.now) := by
  unfold takeOff
  simp only [callAll_eq]
  rfl

theorem events_land : (w.land t f os).events =
    w.events ++ (f.tally w.settings.retry os).events.map (Stamped.mk w.now) := by
  simp only [land, events_finish, note, Flight.events_commit]

theorem events_inspect (w : World) (t : Task) : (w.inspect t).events = w.events := by
  unfold inspect
  split
  · split
    · rfl
    · exact events_finish _ _ _
  · exact events_finish _ _ _
  · exact events_finish _ _ _

theorem events_resync (w : World) (t : Task) : (w.resync t).events = w.events := by
  unfold resync
  split <;> exact events_finish _ _ _

/-- What is noted when something happens. -/
inductive Notes (w : World) : List Episode → List Event → Prop
  | nothing {es : List Episode} (h : ∀ f os now, .pass f os now ∉ es) : Notes w es []
  /-- A pass sets out, and some specs could not be built. -/
  | problems (f : Flight) (hair : w.air = none) : Notes w [] f.problemEvents
  /-- An attempt makes a change. -/
  | change {f : Flight} {attempts : List Attempt} {a : Attempt} {c : Change} {e : Event}
    (hair : w.air = some (f, attempts)) (ha : a ∈ attempts) (hc : a.progress = .decided c)
    (he : c.event? a.resource.id = some e) : Notes w [] [e]
  | landing (f : Flight) (os : List Flight.Outcome) :
    Notes w [.pass f os w.now] (f.tally w.settings.retry os).events

theorem notes_nil (w : World) : Notes w [] [] := .nothing fun _ _ _ h => absurd h List.not_mem_nil

/-- A move of a task notes what the pass does that it starts or ends. -/
theorem notes_of_moveTask (ho : w.Orderly) (ht : t ∈ w.tasks) (h : w.moveTask t = some w') :
    ∃ events, Notes w (w.episodesOf t) events ∧
      w'.events = w.events ++ events.map (Stamped.mk w.now) := by
  -- whatever is not a pass notes nothing
  have hstill : (∀ f attempts, t.activity ≠ .converging f attempts) → w'.events = w.events →
      ∃ events, Notes w (w.episodesOf t) events ∧
        w'.events = w.events ++ events.map (Stamped.mk w.now) := by
    intro hact hsame
    refine ⟨[], .nothing fun f os now hmem => ?_, by rw [hsame, List.map_nil, List.append_nil]⟩
    unfold episodesOf at hmem
    split at hmem
    · next f attempts h => exact hact f attempts h
    · split at hmem
      · split at hmem <;> simp at hmem
      · cases hmem
    · cases hmem
  cases moves_of_moveTask h with
  | goes signal hn hy hs hs' =>
    refine hstill (fun f attempts hact => ?_) rfl
    simp [Task.stake?, hact] at hs
  | asks e hn hy hs =>
    refine hstill (fun f attempts hact => ?_) rfl
    simp [Task.stake?, hact] at hs
  | takesOff hact hheld =>
    have hnil : w.episodesOf t = [] := by simp [episodesOf, hact]
    rw [hnil]
    exact ⟨_, .problems _ (ho.air_of_queued ht hact hheld), events_takeOff⟩
  | resyncs hact hheld => exact hstill (by simp [hact]) (events_resync w t)
  | inspects hact => exact hstill (by simp [hact]) (events_inspect w t)
  | probes hact => exact hstill (by simp [hact]) rfl
  | @lands f attempts os hact hos =>
    have hone : w.episodesOf t = [.pass f os w.now] := by simp [episodesOf, hact, hos]
    rw [hone]
    exact ⟨_, .landing f os, events_land⟩
  | reports hact => exact hstill (by simp [hact]) (events_finish _ _ _)

/-- An attempt notes the change that it makes. -/
theorem events_of_advance {a a' : Attempt} (h : w.advance a = some (a', w')) :
    w'.events = w.events ∨ ∃ c e, a.progress = .decided c ∧ c.event? a.resource.id = some e ∧
      w'.events = w.events ++ [⟨w.now, e⟩] := by
  unfold advance at h
  simp only at h
  split at h
  · cases h
  · split at h <;> cases h
    exact .inl rfl
  · split at h
    · cases h
      exact .inl rfl
    · split at h <;> cases h
      exact .inl rfl
  · split at h
    · cases h
      exact .inl rfl
    · split at h <;> cases h
      exact .inl rfl
  · next c hc =>
    split at h
    · cases h
      exact .inl rfl
    · next e he =>
      cases h
      exact .inr ⟨c, e, hc, he, rfl⟩
  · split at h
    · cases h
      exact .inl rfl
    · split at h <;> cases h
      exact .inl rfl

theorem notes_of_moveAttempt {id : ResourceId} (ho : w.Orderly) (ht : t ∈ w.tasks)
    (h : w.moveAttempt t id = some w') : ∃ events,
      Notes w [] events ∧ w'.events = w.events ++ events.map (Stamped.mk w.now) := by
  unfold moveAttempt at h
  split at h
  · next f attempts hact =>
    split at h
    · cases h
    · next a hfind =>
      obtain ⟨⟨a', w₁⟩, hadv, rfl⟩ := Option.map_eq_some_iff.1 h
      have ha := List.mem_of_find?_eq_some hfind
      have hair := ho.air_of_flying ht (Task.flying_eq_some.2 hact)
      rcases events_of_advance hadv with hsame | ⟨c, e, hc, he, hadded⟩
      · exact ⟨[], notes_nil w, hsame.trans (List.append_nil _).symm⟩
      · exact ⟨[e], .change hair ha hc he, hadded⟩
  · cases h

/-- **Whatever happens notes nothing but problems, changes and failures.** -/
theorem notes_of_happens (ho : w.Orderly) (h : w.Happens S es w') : ∃ events,
    Notes w es events ∧ w'.events = w.events ++ events.map (Stamped.mk w.now) := by
  cases h with
  | move m h =>
    cases m with
    | task number =>
      obtain ⟨t, ht, hmove⟩ := Option.bind_eq_some_iff.1 h
      rw [episodes, ht]
      exact notes_of_moveTask ho (mem_of_task? ht).1 hmove
    | attempt number id =>
      obtain ⟨t, ht, hmove⟩ := Option.bind_eq_some_iff.1 h
      exact notes_of_moveAttempt ho (mem_of_task? ht).1 hmove
  | notify =>
    refine ⟨[], notes_nil w, ?_⟩
    unfold notify
    split <;> exact (List.append_nil _).symm
  | _ => exact ⟨[], notes_nil w, (List.append_nil _).symm⟩

/-- The failures among what is noted are those that a pass lands with. -/
theorem Notes.filter_isFailure {events : List Event} (h : Notes w es events) :
    events.filter (·.isFailure) = es.flatMap (Episode.reports w.settings.retry) := by
  cases h with
  | nothing hno =>
    have hnil : ∀ e ∈ es, e.reports w.settings.retry = [] := by
      rintro (⟨f, os, now⟩ | _) he
      · exact absurd he (hno f os now)
      · rfl
    exact (List.flatMap_eq_nil_iff.2 hnil).symm
  | problems f =>
    rw [List.flatMap_nil, List.filter_eq_nil_iff]
    intro e he
    obtain ⟨p, -, rfl⟩ := List.mem_map.1 he
    rw [(Flight.isFailure_problemEvent p).1]
    exact Bool.false_ne_true
  | change hair ha hc he =>
    rw [List.filter_cons_of_neg (by rw [Change.isFailure_of_event? he]; exact Bool.false_ne_true)]
    rfl
  | landing f os =>
    rw [List.flatMap_singleton]
    exact List.filter_eq_self.2 fun e he => (Flight.isFailure_of_mem_tally he).1

/-- **The reports about failures along a run are those of the passes that it commits.** -/
theorem Runs.failures_eq {es₀ : List Episode} (ho : u.Orderly)
    (ht : Tells settings es₀ u.situation) (h : Runs .any u es w) :
    ∃ events, w.events = u.events ++ events ∧
      (events.map (·.what)).filter (·.isFailure) =
        es.flatMap (Episode.reports settings.retry) := by
  induction h with
  | start => exact ⟨[], (List.append_nil _).symm, rfl⟩
  | @happen es es' w w' hrun hw ih =>
    obtain ⟨events, hevents, hfailures⟩ := ih
    obtain ⟨new, hnotes, hnew⟩ := notes_of_happens (hrun.orderly ho) hw
    refine ⟨events ++ new.map (Stamped.mk w.now), ?_, ?_⟩
    · rw [hnew, hevents, List.append_assoc]
    · have hwhat : (new.map (Stamped.mk w.now)).map (·.what) = new := by
        rw [List.map_map]
        exact List.map_id _
      have hsame : w.settings = settings := (hrun.tells_append ho ht).same
      rw [List.map_append, List.filter_append, hfailures, hwhat, hnotes.filter_isFailure, hsame,
        List.flatMap_append]

/-- **Where no attempt is about to change anything, no change is reported**, along a run that
commits nothing. -/
theorem Runs.isChange_eq_false (ho : u.Orderly)
    (hkeeps : ∀ v, Runs S u [] v → ∀ f attempts, v.air = some (f, attempts) → ∀ a ∈ attempts,
      ∀ c, a.progress = .decided c → c.event? a.resource.id = none)
    (h : Runs S u es w) (hnil : es = []) :
    ∃ events, w.events = u.events ++ events ∧ ∀ e ∈ events, e.what.isChange = false := by
  induction h with
  | start => exact ⟨[], (List.append_nil _).symm, fun e he => absurd he List.not_mem_nil⟩
  | @happen es es' w w' hrun hw ih =>
    obtain ⟨rfl, rfl⟩ := List.append_eq_nil_iff.1 hnil
    obtain ⟨events, hevents, hquiet⟩ := ih rfl
    obtain ⟨new, hnotes, hnew⟩ := notes_of_happens (hrun.orderly ho) hw
    refine ⟨events ++ new.map (Stamped.mk w.now), by rw [hnew, hevents, List.append_assoc], ?_⟩
    intro e he
    rcases List.mem_append.1 he with he | he
    · exact hquiet e he
    · obtain ⟨e', he', rfl⟩ := List.mem_map.1 he
      cases hnotes with
      | nothing => cases he'
      | problems f =>
        obtain ⟨p, -, rfl⟩ := List.mem_map.1 he'
        exact (Flight.isFailure_problemEvent p).2
      | change hair ha hc hsome =>
        rw [hkeeps w hrun _ _ hair _ ha _ hc] at hsome
        cases hsome

end World

end IngressBalancer
