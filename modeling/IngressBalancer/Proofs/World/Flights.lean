import IngressBalancer.Proofs.World.Turns
/-!
# The committed state

Among whatever surroundings, the state of a world is the one that its
episodes have committed, one whole pass or resync after the other
(`Runs.tells`). A pass in the air has set out from that state, with an
attempt for each resource of its batch, and lands as a whole one
(`InAir.isWhole`).
-/

namespace IngressBalancer

namespace World

variable {settings : Settings} {view : View} {rig : Rig} {monitor : Monitor}
variable {w : World} {es es' : List Episode} {s : SyncState}

/-- What holds of a pass in the air: it set out from the committed state, with an attempt for
each resource of its batch, and each that succeeded did so with its id. -/
structure InAir (settings : Settings) (s : SyncState) (f : Flight) (attempts : List Attempt) :
    Prop where
  setOut : ∃ v startedAt, f = Flight.start settings v s startedAt
  batch : attempts.map (·.resource) = f.batch
  keepsId : ∀ a ∈ attempts, a.KeepsId

/-- The state is the committed one, and a pass in the air set out from there. -/
structure Tells (settings : Settings) (es : List Episode) (c : Situation) : Prop where
  same : c.settings = settings
  committed : Committed settings es c.state
  inAir : ∀ f attempts, c.air = some (f, attempts) → InAir settings c.state f attempts

/-- The pass that would set out. -/
theorem Tells.flight_eq {c : Situation} (h : Tells settings es c) :
    c.flight = .start settings c.view c.state c.now := by
  rw [Situation.flight, h.same]

namespace InAir

variable {f : Flight} {attempts : List Attempt} {a a' : Attempt} (h : InAir settings s f attempts)
include h

/-- Each attempt is for a resource of the batch. -/
theorem mem_batch (ha : a ∈ attempts) : a.resource ∈ f.batch := by
  rw [← h.batch]
  exact List.mem_map_of_mem ha

/-- No two attempts are for one id. -/
theorem nodup_ids : (attempts.map (·.resource.id)).Nodup := by
  obtain ⟨v, startedAt, hf⟩ := h.setOut
  have hbatch : ((Flight.start settings v s startedAt).batch.map (·.id)).Nodup :=
    Flight.nodup_batch
  rwa [← hf, ← h.batch, List.map_map] at hbatch

/-- Another attempt in the stead of one for the same resource. -/
theorem set (ha : a ∈ attempts) (hr : a'.resource = a.resource) (hk : a'.KeepsId) :
    InAir settings s f (setAttempt attempts a') where
  setOut := h.setOut
  batch := by rw [map_resource_setAttempt h.nodup_ids ha hr, h.batch]
  keepsId b hb := by
    rcases (mem_setAttempt ha hr).1 hb with rfl | ⟨hb, -⟩
    · exact hk
    · exact h.keepsId b hb

/-- The outcomes of all attempts make a whole pass. -/
theorem isWhole {os : List Flight.Outcome} {now : Instant} (ho : outcomes? attempts = some os) :
    (Episode.pass f os now).IsWhole settings s := by
  refine ⟨h.setOut, ?_, ?_⟩
  · rw [Flight.Covers, map_fst_of_outcomes? ho, ← h.batch, List.map_map]
    rfl
  · intro o hmem r hr
    obtain ⟨a, ha, hdone, hid⟩ := exists_of_mem_outcomes? ho hmem
    rw [hid]
    exact h.keepsId a ha r (hr ▸ hdone)

end InAir

/-- **Each turn leaves in the air what set out from the state that is there.** -/
theorem inAir_turn {c c' : Situation} (same : c.settings = settings)
    (inAir : ∀ f attempts, c.air = some (f, attempts) → InAir settings c.state f attempts)
    (hturn : c.Turn .any es' c') : c'.settings = settings ∧
      ∀ f attempts, c'.air = some (f, attempts) → InAir settings c'.state f attempts := by
  cases hturn with
  | takeOff =>
    refine ⟨same, fun f attempts hf => ?_⟩
    cases hf
    -- nothing has succeeded yet
    refine ⟨⟨c.view, c.now, by rw [← same]; rfl⟩, Rig.map_resource_openAll _ _, fun a ha r hr => ?_⟩
    exact absurd hr (Rig.ne_done_of_mem_openAll _ _ ha _)
  | attempt hair ha hm =>
    refine ⟨same, fun f attempts hf => ?_⟩
    cases hf
    exact (inAir _ _ hair).set ha hm.resource_eq hm.keepsId
  | answer hair ha _ hsaid =>
    refine ⟨same, fun f attempts hf => ?_⟩
    cases hf
    exact (inAir _ _ hair).set ha rfl fun r hr => hsaid r (Progress.done.inj hr)
  | land => exact ⟨same, fun f attempts hf => by cases hf⟩
  | resync => exact ⟨same, fun f attempts hf => by cases hf⟩
  | _ => exact ⟨same, inAir⟩

/-- **Each turn keeps the state the committed one.** -/
theorem Tells.turn {c c' : Situation} (h : Tells settings es c)
    (hturn : c.Turn .any es' c') : Tells settings (es ++ es') c' := by
  obtain ⟨same, committed, inAir⟩ := h
  obtain ⟨same', inAir'⟩ := inAir_turn same inAir hturn
  refine ⟨same', ?_, inAir'⟩
  cases hturn with
  | land hair ho =>
    rw [Situation.commit, same]
    exact .next committed ((inAir _ _ hair).isWhole ho)
  | resync =>
    rw [Situation.commit, same]
    exact .next committed trivial
  | _ => rwa [List.append_nil]

/-- A controller that has just been made has committed nothing. -/
theorem tells_new : Tells settings [] (World.new settings view rig monitor).situation :=
  ⟨rfl, .initial, fun _ _ hf => by cases hf⟩

/-- **The state of a world is the one that its episodes have committed.** -/
theorem Runs.tells (h : Runs .any (World.new settings view rig monitor) es w) :
    Tells settings es w.situation :=
  Runs.invariant (I := Tells settings) (orderly_new _ _ _ _) tells_new
    (fun _ _ _ _ hc hturn => hc.turn hturn) h

/-- The state changes when something is committed, and only then. -/
theorem Runs.state_eq {S : Surroundings} {u : World} (ho : u.Orderly) (h : Runs S u [] w) :
    w.state = u.state := by
  refine Runs.invariant_nil (I := fun c => c.state = u.state) ho rfl (fun c c' hc hturn => ?_) h
  cases hturn <;> exact hc

/-- A pass stays in the air along a run that commits nothing, and no call is made meanwhile. -/
theorem Runs.aloft {S : Surroundings} {u : World} {f : Flight} {attempts : List Attempt}
    (ho : u.Orderly) (hair : u.air = some (f, attempts)) (h : Runs S u [] w) :
    (∃ attempts', w.air = some (f, attempts')) ∧ w.calls = u.calls := by
  refine Runs.invariant_nil (I := fun c => (∃ attempts', c.air = some (f, attempts')) ∧
    c.calls = u.calls) ho ⟨⟨attempts, hair⟩, rfl⟩ (fun c c' hc hturn => ?_) h
  obtain ⟨⟨attempts₁, hair₁⟩, hcalls⟩ := hc
  cases hturn with
  | takeOff hnone =>
    rw [hair₁] at hnone
    cases hnone
  | attempt hair₂ =>
    rw [hair₁] at hair₂
    cases hair₂
    exact ⟨⟨_, rfl⟩, hcalls⟩
  | answer hair₂ =>
    rw [hair₁] at hair₂
    cases hair₂
    exact ⟨⟨_, rfl⟩, hcalls⟩
  | _ => exact ⟨⟨attempts₁, hair₁⟩, hcalls⟩

/-- **The state stays the committed one from any world on**, and what turns preserve where it is,
runs preserve. -/
theorem Runs.invariant_of_tells {S : Surroundings}
    (hS : ∀ r o, S.answers r o → Surroundings.any.answers r o) {u : World} {es₀ : List Episode}
    (ho : u.Orderly) (ht : Tells settings es₀ u.situation)
    {I : List Episode → Situation → Prop} (h0 : I [] u.situation)
    (hturn : ∀ es c es' c', Tells settings (es₀ ++ es) c → I es c → c.Turn S es' c' →
      I (es ++ es') c') (h : Runs S u es w) :
    Tells settings (es₀ ++ es) w.situation ∧ I es w.situation := by
  refine Runs.invariant (I := fun es c => Tells settings (es₀ ++ es) c ∧ I es c) ho
    ⟨by rwa [List.append_nil], h0⟩ ?_ h
  rintro es c es' c' ⟨ht, hc⟩ hnext
  refine ⟨?_, hturn es c es' c' ht hc hnext⟩
  rw [← List.append_assoc]
  exact ht.turn (hnext.any hS)

theorem Runs.tells_append {u : World} {es₀ : List Episode} (ho : u.Orderly)
    (ht : Tells settings es₀ u.situation) (h : Runs .any u es w) :
    Tells settings (es₀ ++ es) w.situation :=
  (h.invariant_of_tells (fun _ _ ho => ho) ho ht (I := fun _ _ => True) trivial
    fun _ _ _ _ _ _ _ => trivial).1

/-! ## From one end of a pass to the other -/

/-- What a pass reports that lands with some outcomes. -/
def landingReport (w : World) (f : Flight) (os : List Flight.Outcome) : PassReport :=
  (f.commit w.settings w.state w.metrics os w.now).report

/-- A pass set out at `u` and is in the air at `v`, with nothing committed in between. -/
structure Flown (settings : Settings) (es : List Episode) (u v : World) (f : Flight)
    (attempts : List Attempt) : Prop where
  orderly : v.Orderly
  tells : Tells settings es v.situation
  flight : f = .start settings u.view u.state u.now
  air : v.air = some (f, attempts)
  state : v.state = u.state
  calls : v.calls = u.calls ++ f.batch.map (Call.of u.now)

variable {u v : World} {t t' : Task} {f : Flight} {attempts : List Attempt}

/-- Who holds the lock for a pass has none in the air yet. -/
theorem Orderly.air_of_queued (ho : w.Orderly) (ht : t ∈ w.tasks)
    (hact : t.activity = .queued .converge) (hheld : w.lock.isHeldBy t.number = true) :
    w.situation.air = none :=
  ho.air_eq_none_of_held ht hheld (by simp [Task.flying, hact])

/-- A pass sets out from the committed state. -/
theorem Tells.takeOff (h : Tells settings es w.situation) (ho : w.Orderly) (ht : t ∈ w.tasks)
    (hact : t.activity = .queued .converge) (hheld : w.lock.isHeldBy t.number = true) :
    Tells settings es (w.takeOff t).situation := by
  have hnext := h.turn (.takeOff (ho.air_of_queued ht hact hheld))
  rwa [List.append_nil, ← (ho.takesOff ht hact hheld).2] at hnext

/-- **The pass that is in the air after a while is the one that set out.** -/
theorem Runs.flown (ho : u.Orderly) (htells : Tells settings es u.situation) (ht : t ∈ u.tasks)
    (hact : t.activity = .queued .converge) (hheld : u.lock.isHeldBy t.number = true)
    (h : Runs .any (u.takeOff t) [] v) (ht' : t' ∈ v.tasks)
    (hact' : t'.activity = .converging f attempts) : Flown settings es u v f attempts := by
  obtain ⟨ho₁, hoff⟩ := ho.takesOff ht hact hheld
  have hair : v.air = some (f, attempts) :=
    (h.orderly ho₁).air_of_flying ht' (Task.flying_eq_some.2 hact')
  have hair₁ := ho.air_takeOff ht hact hheld
  have hstate₁ : (u.takeOff t).state = u.state := by
    rw [← state_situation, hoff]
    rfl
  have hcalls₁ : (u.takeOff t).calls =
      u.calls ++ u.situation.flight.batch.map (Call.of u.now) := by
    rw [← calls_situation, hoff]
    rfl
  obtain ⟨⟨attempts', hair'⟩, hcalls⟩ := h.aloft ho₁ hair₁
  rw [hair] at hair'
  cases hair'
  have htells' := h.tells_append ho₁ (htells.takeOff ho ht hact hheld)
  rw [List.append_nil] at htells'
  exact ⟨h.orderly ho₁, htells', htells.flight_eq, hair, (h.state_eq ho₁).trans hstate₁,
    hcalls.trans hcalls₁⟩

namespace Flown

variable {os : List Flight.Outcome} (h : Flown settings es u v f attempts)
include h

/-- It set out from the state that is still the committed one. -/
theorem inAir : InAir settings v.state f attempts := h.tells.inAir f attempts h.air

variable (hos : outcomes? attempts = some os)
include hos

theorem isWhole : (Episode.pass f os v.now).IsWhole settings v.state := h.inAir.isWhole hos

/-- **And it lands with what its attempts have brought.** -/
theorem lands (ht' : t' ∈ v.tasks) (hact' : t'.activity = .converging f attempts) :
    (v.land t' f os).Orderly ∧
      (v.land t' f os).situation = v.situation.commit (.pass f os v.now) ∧
      Tells settings (es ++ [.pass f os v.now]) (v.land t' f os).situation := by
  obtain ⟨ho, hturn⟩ := turn_land (S := .any) h.orderly ht' hact' hos
  exact ⟨ho, hturn.eq_commit, h.tells.turn hturn⟩

end Flown

end World

end IngressBalancer
