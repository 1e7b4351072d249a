import IngressBalancer.Proofs.World.Turns
/-!
# What each task is there for

A task needs the lock for what its role is there for and for nothing else,
and waits for what its role waits for (`Task.Fits`); that holds along every
run (`Runs.fit`). What a happening makes of the tasks and of the lock is said
once (`Changes`): nothing, a new task, or one task that goes on, by a move of
its own (`Task.After`), with the attempts of its pass, or since it was woken
up or given an order. The lock changes with the stake of that task
(`Lock.Deals`), and what the task does after its move is computed
(`World.nextOf`).
-/

namespace IngressBalancer

/-- What a role needs the lock for. -/
def Role.errands : Role → List Errand
  | .operator => [.converge, .resync, .inspect, .probe]
  | .update | .driver => [.converge]
  | .watchdog => [.inspect, .converge]
  | .drift => [.resync]
  | .publisher => [.inspect]

/-- Whether a task does what its role is there for. -/
def Task.Fits (t : Task) : Prop :=
  match t.activity with
  | .starting | .finished => True
  | .asleep _ => t.role = .watchdog ∨ t.role = .drift
  | .listening => t.role = .driver ∨ t.role = .publisher
  | .woken => t.role = .driver
  | .queued e => e ∈ t.role.errands
  | .converging .. => .converge ∈ t.role.errands
  | .probing _ => .probe ∈ t.role.errands

/-- What a task turns to when its errand is done. -/
def World.restOf (w : World) : Role → Activity
  | .driver | .publisher => .listening
  | .watchdog => .asleep (w.now + Watchdog.tick)
  | .drift => .asleep (Instant.after w.now w.settings.syncInterval)
  | .operator | .update => .finished

/-- What a task does after its next move. -/
def World.nextOf (w : World) (t : Task) : Activity :=
  match t.activity with
  | .starting => if t.role = .update then .queued .converge else w.restOf t.role
  | .asleep _ => .queued (if t.role = .watchdog then .inspect else .resync)
  | .listening => if t.role = .publisher then .queued .inspect else .woken
  | .woken => .queued .converge
  | .queued .converge => .converging w.situation.flight w.situation.opened.1
  | .queued .inspect =>
    if t.role = .watchdog ∧ Watchdog.isDue w.state.lastUpdate w.now = true then .queued .converge
    else w.restOf t.role
  | .queued .probe => .probing (w.now + w.monitor.span)
  | .queued .resync | .converging .. | .probing _ => w.restOf t.role
  | .finished => .finished

/-- The passes that it has taken note of then. -/
def World.notedBy (w : World) (t : Task) : Nat :=
  match t.role, t.activity with
  | .publisher, .starting | .publisher, .listening => w.state.passes
  | _, _ => t.seen

/-- Whether a task has come to the end of its errand. -/
inductive Task.Completes (w : World) (t : Task) : Prop
  | resync (h : t.activity = .queued .resync) (hheld : w.lock.isHeldBy t.number = true)
  | inspect (h : t.activity = .queued .inspect) (hheld : w.lock.isHeldBy t.number = true)
    (hdue : t.role = .watchdog → Watchdog.isDue w.state.lastUpdate w.now = false)
  | pass {f : Flight} {attempts : List Attempt} {os : List Flight.Outcome}
    (h : t.activity = .converging f attempts) (hos : World.outcomes? attempts = some os)
  | probe {wake : Instant} (h : t.activity = .probing wake)

/-- What a task is after a move of its own. -/
inductive Task.After (w : World) (t : Task) : Task → Prop
  | goes {signal : Bool} {u : Task} (h : t.Goes w signal u) : After w t u
  | asks {u : Task} {e : Errand} (h : t.Asks w u e) : After w t { u with activity := .queued e }
  | takesOff (h : t.activity = .queued .converge) (hheld : w.lock.isHeldBy t.number = true) :
    After w t { t with activity := .converging w.situation.flight w.situation.opened.1 }
  /-- The watchdog asks for a pass. -/
  | forces (h : t.activity = .queued .inspect) (hheld : w.lock.isHeldBy t.number = true)
    (hr : t.role = .watchdog) (hdue : Watchdog.isDue w.state.lastUpdate w.now = true) :
    After w t { t with activity := .queued .converge }
  | probes (h : t.activity = .queued .probe) :
    After w t { t with activity := .probing (w.now + w.monitor.span) }
  | rests {u : Task} (h : t.Completes w) (hn : u.number = t.number) (hr : u.role = t.role)
    (hs : u.seen = t.seen) (hact : u.activity = w.restOf t.role) : After w t u

/-- How a task goes on when something happens. -/
inductive Task.Becomes (w w' : World) (t : Task) : Task → Prop
  | moves {u : Task} (h : w.moveTask t = some w') (ha : t.After w u) : Becomes w w' t u
  /-- Its pass stays in the air. -/
  | flies {f : Flight} {attempts : List Attempt} (h : t.activity = .converging f attempts)
    (attempts' : List Attempt) :
    Becomes w w' t { t with activity := .converging f attempts' }
  | woken (h : t.activity = .listening) (hr : t.role = .driver) (hw : w' = w.notify) :
    Becomes w w' t { t with activity := .woken }
  | ordered (e : Errand) (hr : t.role = .operator) :
    Becomes w w' t { t with yield := none, activity := .queued e }
  | givesUp (hr : t.role = .operator) : Becomes w w' t { t with activity := .finished }

/-- What becomes of the lock when a task goes on. -/
inductive Lock.Deals (l : Lock) (t u : Task) : Lock → Prop
  | keeps (h : u.stake? = t.stake?) : Deals l t u l
  | asks {a : Access} (h : t.stake? = none) (h' : u.stake? = some a) :
    Deals l t u (l.request t.number a)
  | gives (h : u.stake? = none) : Deals l t u (l.release t.number)
  /-- It gives the lock back, and asks for it again. -/
  | exchanges (h : t.stake? = some .shared) (h' : u.stake? = some .exclusive) :
    Deals l t u ((l.release t.number).request t.number .exclusive)

namespace World

variable {S : Surroundings} {w w' w₁ : World} {t u : Task} {es : List Episode}
variable {settings : Settings} {view : View} {rig : Rig} {monitor : Monitor}

/-- What a happening makes of the tasks and of the lock. -/
inductive Changes (w w' : World) : Prop
  | rest (h : w'.tasks = w.tasks) (hl : w'.lock = w.lock)
  | spawn (role : Role) (h : w' = w.spawn role)
  | one {t u : Task} (ht : t ∈ w.tasks) (hb : t.Becomes w w' u)
    (h : w'.tasks = (w.put u).tasks) (hl : w.lock.Deals t u w'.lock)

/-! ## One task -/

/-- A task that is done gives the lock back and turns to what its role turns to. -/
theorem finish_rests (w : World) (t : Task) (y : Yield) : ∃ u : Task, u.number = t.number ∧
    u.role = t.role ∧ u.seen = t.seen ∧ u.activity = w.restOf t.role ∧
      w.finish t y = ({ w with lock := w.lock.release t.number }).put u := by
  have hturn : w.finish t y = w.leave t (w.restOf t.role) ∨
      w.finish t y = w.leave { t with yield := some y } (w.restOf t.role) := by
    unfold finish
    cases t.role with
    | operator | update => exact .inr rfl
    | _ => exact .inl rfl
  rcases hturn with h | h
  · exact ⟨{ t with activity := w.restOf t.role }, rfl, rfl, rfl, rfl, h⟩
  · exact ⟨{ t with yield := some y, activity := w.restOf t.role }, rfl, rfl, rfl, rfl, h⟩

/-- After an errand a task has turned to what its role turns to, and given the lock back. -/
theorem rests_of_finish {y : Yield} (h : t.Completes w) (hw : w' = w₁.finish t y)
    (hnow : w₁.now = w.now) (hsettings : w₁.settings = w.settings) (htasks : w₁.tasks = w.tasks)
    (hlock : w₁.lock = w.lock) :
    ∃ u, t.After w u ∧ w'.tasks = (w.put u).tasks ∧ w.lock.Deals t u w'.lock := by
  obtain ⟨u, hn, hr, hs, hact, hu⟩ := finish_rests w₁ t y
  have hrest : w₁.restOf t.role = w.restOf t.role := by
    simp only [restOf, hnow, hsettings]
  rw [hrest] at hact
  have hnone : u.stake? = none := by
    rw [Task.stake?, hact]
    cases t.role <;> rfl
  refine ⟨u, .rests h hn hr hs hact, ?_, ?_⟩
  · simp only [hw, hu, put, htasks]
  · simp only [hw, hu, put, hlock]
    exact .gives hnone

/-- **A move of a task** changes that task only, and its stake in the lock. -/
theorem after_of_moveTask (h : w.moveTask t = some w') :
    ∃ u, t.After w u ∧ w'.tasks = (w.put u).tasks ∧ w.lock.Deals t u w'.lock := by
  cases moves_of_moveTask h with
  | goes signal hn hy hs hs' hg => exact ⟨_, .goes hg, rfl, .keeps (hs'.trans hs.symm)⟩
  | @asks u e hn hy hs ha =>
    refine ⟨_, .asks ha, rfl, ?_⟩
    rw [ask, hn]
    exact .asks hs rfl
  | takesOff hact hheld =>
    refine ⟨_, .takesOff hact hheld, ?_⟩
    rw [takeOff_eq]
    exact ⟨rfl, .keeps (by simp [Task.stake?, hact, Errand.access])⟩
  | resyncs hact hheld =>
    unfold resync
    split <;> exact rests_of_finish (.resync hact hheld) rfl rfl rfl rfl rfl
  | inspects hact hheld =>
    unfold inspect
    split
    · next hr =>
      split
      · next hdue =>
        have hs : t.stake? = some .shared := by simp [Task.stake?, hact, Errand.access]
        exact ⟨_, .forces hact hheld hr hdue, rfl, .exchanges hs rfl⟩
      · next hdue =>
        exact rests_of_finish (.inspect hact hheld fun _ => by simpa using hdue) rfl rfl rfl rfl rfl
    · next hr =>
      refine rests_of_finish (.inspect hact hheld fun hw => ?_) rfl rfl rfl rfl rfl
      rw [hr] at hw
      cases hw
    · next hr _ =>
      exact rests_of_finish (.inspect hact hheld fun hw => absurd hw hr) rfl rfl rfl rfl rfl
  | probes hact =>
    exact ⟨_, .probes hact, rfl, .keeps (by simp [Task.stake?, hact, Errand.access])⟩
  | lands hact hos => exact rests_of_finish (.pass hact hos) rfl rfl rfl rfl rfl
  | reports hact => exact rests_of_finish (.probe hact) rfl rfl rfl rfl rfl

end World

namespace Task

variable {w w' : World} {t u : Task}

/-- It stays the task that it was. -/
theorem After.same (h : t.After w u) : u.number = t.number ∧ u.role = t.role := by
  cases h with
  | goes hg => cases hg <;> exact ⟨rfl, rfl⟩
  | asks ha => cases ha <;> exact ⟨rfl, rfl⟩
  | rests h hn hr => exact ⟨hn, hr⟩
  | _ => exact ⟨rfl, rfl⟩

theorem Becomes.same (h : t.Becomes w w' u) : u.number = t.number ∧ u.role = t.role := by
  cases h with
  | moves h ha => exact ha.same
  | _ => exact ⟨rfl, rfl⟩

theorem After.fits (ht : t.Fits) (h : t.After w u) : u.Fits := by
  cases h with
  | goes hg =>
    cases hg with
    | listens h hr => exact .inl hr
    | watches h hr => exact .inl hr
    | drifts h hr => exact .inr hr
    | subscribes h hr => exact .inr hr
    | hears h hr =>
      simp only [Fits, h] at ht
      exact ht.resolve_right hr
  | asks ha =>
    cases ha with
    | starts h hr => simp [Fits, hr, Role.errands]
    | wakes h hwake =>
      simp only [Fits, h] at ht
      rcases ht with hr | hr <;> simp [Fits, hr, Role.errands]
    | notes h hr => simp [Fits, hr, Role.errands]
    | answers h =>
      simp only [Fits, h] at ht
      simp [Fits, ht, Role.errands]
  | takesOff h => simpa only [Fits, h] using ht
  | forces h hheld hr => simp [Fits, hr, Role.errands]
  | probes h => simpa only [Fits, h] using ht
  | rests h hn hr hs hact =>
    rw [Fits, hact, hr]
    cases t.role <;> simp [World.restOf]

theorem Becomes.fits (ht : t.Fits) (h : t.Becomes w w' u) : u.Fits := by
  cases h with
  | moves h ha => exact ha.fits ht
  | flies h => simpa only [Fits, h] using ht
  | woken h hr => exact hr
  | ordered e hr => cases e <;> simp [Fits, hr, Role.errands]
  | givesUp => trivial

/-! ### What it does next -/

theorem After.activity_eq (h : t.After w u) : u.activity = w.nextOf t := by
  cases h with
  | goes hg =>
    cases hg with
    | hears hact hr => simp [World.nextOf, hact, hr]
    | _ => simp [World.nextOf, World.restOf, *]
  | asks ha => cases ha <;> simp [World.nextOf, *]
  | takesOff hact => simp [World.nextOf, hact]
  | forces hact _ hr hdue => simp [World.nextOf, hact, hr, hdue]
  | probes hact => simp [World.nextOf, hact]
  | rests hc _ _ _ hrest =>
    rw [hrest]
    cases hc with
    | inspect hact _ hdue => simp +contextual [World.nextOf, hact, hdue]
    | _ hact => simp [World.nextOf, hact]

theorem After.seen_eq (h : t.After w u) : u.seen = w.notedBy t := by
  cases h with
  | goes hg => cases hg <;> simp [World.notedBy, *]
  | asks ha => cases ha <;> simp [World.notedBy, *]
  | rests hc _ _ hs =>
    rw [hs]
    cases hc <;> simp [World.notedBy, *]
  | _ => simp [World.notedBy, *]

/-- A publisher that is woken up takes the ingresses down. -/
theorem After.listed_eq (h : t.After w u) (hact : t.activity = .listening)
    (hr : t.role = .publisher) : u.listed = w.view.ingresses := by
  cases h with
  | goes hg => cases hg <;> simp_all
  | asks ha => cases ha <;> simp_all
  | rests hc => cases hc <;> simp_all
  | _ => simp_all

namespace Becomes

open World

variable (h : t.Becomes w w' u) (hr : t.role ≠ .operator)
include h hr

/-- A task that takes no orders, does not wait to be woken up and has no pass in the air goes on
by a move of its own. -/
theorem moved (hlistens : t.activity = .listening → t.role ≠ .driver)
    (hf : t.flying = none) : w.moveTask t = some w' ∧ t.After w u := by
  cases h with
  | moves hmove ha => exact ⟨hmove, ha⟩
  | flies hact => simp [Task.flying, hact] at hf
  | woken hact hr' => exact absurd hr' (hlistens hact)
  | ordered e hr' => exact absurd hr' hr
  | givesUp hr' => exact absurd hr' hr

/-- Who was woken up asks for the lock. -/
theorem of_woken (hact : t.activity = .woken) : u.activity = .queued .converge := by
  obtain ⟨-, ha⟩ := h.moved hr (by simp [hact]) (by simp [flying, hact])
  rw [ha.activity_eq, nextOf, hact]

/-- Who has slept asks for the lock when it is time. -/
theorem of_asleep {wake : Instant} (hact : t.activity = .asleep wake) :
    wake ≤ w.now ∧ u.activity = .queued (if t.role = .watchdog then .inspect else .resync) := by
  obtain ⟨hmove, ha⟩ := h.moved hr (by simp [hact]) (by simp [flying, hact])
  refine ⟨?_, by rw [ha.activity_eq, nextOf, hact]⟩
  by_contra hlate
  simp [moveTask, hact, hlate] at hmove

/-- Who waits for the lock goes on when it has it. -/
theorem held_of_queued {e : Errand} (hact : t.activity = .queued e) :
    w.lock.isHeldBy t.number = true := by
  obtain ⟨hmove, -⟩ := h.moved hr (by simp [hact]) (by simp [flying, hact])
  by_contra hno
  simp [moveTask, hact, hno] at hmove

/-- Who waits for the lock to run a pass sets out when it has it. -/
theorem of_converge (hact : t.activity = .queued .converge) : w' = w.takeOff t ∧
    u.activity = .converging w.situation.flight w.situation.opened.1 := by
  obtain ⟨hmove, ha⟩ := h.moved hr (by simp [hact]) (by simp [flying, hact])
  have hheld := h.held_of_queued hr hact
  exact ⟨by simpa [moveTask, hact, hheld] using hmove.symm, by rw [ha.activity_eq, nextOf, hact]⟩

/-- Who waits for the lock to look at the state does so when it has it. -/
theorem of_inspect (hact : t.activity = .queued .inspect) : w' = w.inspect t ∧ t.After w u := by
  obtain ⟨hmove, ha⟩ := h.moved hr (by simp [hact]) (by simp [flying, hact])
  have hheld := h.held_of_queued hr hact
  exact ⟨by simpa [moveTask, hact, hheld] using hmove.symm, ha⟩

/-- Who runs a pass goes on with it, or commits it and then is at rest. -/
theorem of_converging {f : Flight} {attempts : List Attempt}
    (hact : t.activity = .converging f attempts) :
    (∃ attempts', u.activity = .converging f attempts') ∨
      (∃ os, w' = w.land t f os) ∧ u.activity = w.restOf t.role := by
  cases h with
  | moves hmove ha =>
    obtain ⟨os, -, hos⟩ : ∃ os, outcomes? attempts = some os ∧ w.land t f os = w' := by
      simpa [moveTask, hact] using hmove
    exact .inr ⟨⟨os, hos.symm⟩, by rw [ha.activity_eq, nextOf, hact]⟩
  | flies hact' attempts' =>
    rw [hact] at hact'
    cases hact'
    exact .inl ⟨attempts', rfl⟩
  | woken hact' => simp [hact] at hact'
  | ordered e hr' => exact absurd hr' hr
  | givesUp hr' => exact absurd hr' hr

end Becomes

end Task

/-! ## All of them -/

namespace World

variable {S : Surroundings} {w w' : World} {t u : Task} {es : List Episode}
variable {settings : Settings} {view : View} {rig : Rig} {monitor : Monitor}

/-- **Whatever happens changes one task at most, or adds one.** -/
theorem changes_of_happens (h : w.Happens S es w') : w.Changes w' := by
  cases h with
  | move m h =>
    cases m with
    | task number =>
      obtain ⟨t, ht, hmove⟩ := Option.bind_eq_some_iff.1 h
      obtain ⟨u, ha, htasks, hlock⟩ := after_of_moveTask hmove
      exact .one (mem_of_task? ht).1 (.moves hmove ha) htasks hlock
    | attempt number id =>
      obtain ⟨t, ht, hmove⟩ := Option.bind_eq_some_iff.1 h
      obtain ⟨_, _, attempts', _, _, hact, rfl⟩ := eq_of_moveAttempt hmove
      exact .one (mem_of_task? ht).1 (.flies hact attempts') rfl
        (.keeps (by simp [Task.stake?, hact]))
  | notify =>
    rcases notify_cases w with ⟨t, ht, hr, hact, hw⟩ | hw
    · refine .one ht (.woken hact hr rfl) (by rw [hw]) ?_
      rw [hw]
      exact .keeps (by simp [Task.stake?, hact])
    · exact .rest (by rw [hw]) (by rw [hw])
  | spawn role => exact .spawn role rfl
  | @order t e ht hrole hrest =>
    have hs : t.stake? = none := by rcases hrest with h | h <;> simp [Task.stake?, h]
    exact .one ht (.ordered e hrole) rfl (.asks hs rfl)
  | giveUp ht hrole => exact .one ht (.givesUp hrole) rfl (.gives rfl)
  | answer ht hact => exact .one ht (.flies hact _) rfl (.keeps (by simp [Task.stake?, hact]))
  | _ => exact .rest rfl rfl

/-- A task that is there afterwards was there before, is new, or has gone on. -/
theorem Changes.mem (h : w.Changes w') (hu : u ∈ w'.tasks) :
    u ∈ w.tasks ∨ u.activity = .starting ∨ ∃ t ∈ w.tasks, t.Becomes w w' u := by
  cases h with
  | rest h =>
    rw [h] at hu
    exact .inl hu
  | spawn role h =>
    rw [h] at hu
    rcases List.mem_append.1 hu with hu | hu
    · exact .inl hu
    · rw [List.mem_singleton.1 hu]
      exact .inr (.inl rfl)
  | @one t u' ht hb h =>
    rw [h] at hu
    rcases mem_put.1 hu with ⟨rfl, -⟩ | ⟨hu, -⟩
    · exact .inr (.inr ⟨t, ht, hb⟩)
    · exact .inl hu

/-- A task that was there before is still there, or has gone on. -/
theorem Changes.mem_or (ho : w.Orderly) (h : w.Changes w') (ht : t ∈ w.tasks) :
    t ∈ w'.tasks ∨ ∃ u ∈ w'.tasks, t.Becomes w w' u := by
  cases h with
  | rest h => exact .inl (by rwa [h])
  | spawn role h =>
    rw [h]
    exact .inl (List.mem_append_left _ ht)
  | @one s u hs hb h =>
    rw [h]
    by_cases hn : t.number = u.number
    · rw [hb.same.1] at hn
      cases ho.eq_of_number ht hs hn
      exact .inr ⟨u, mem_put.2 (.inl ⟨rfl, t, ht, hb.same.1.symm⟩), hb⟩
    · exact .inl (mem_put.2 (.inr ⟨ht, hn⟩))

/-- Whether all tasks do what their roles are there for. -/
def Fit (w : World) : Prop := ∀ t ∈ w.tasks, t.Fits

theorem fit_new : (World.new settings view rig monitor).Fit := by
  intro t ht
  rw [List.mem_singleton.1 ht]
  trivial

theorem Fit.happen (hf : w.Fit) (h : w.Happens S es w') : w'.Fit := by
  intro u hu
  rcases (changes_of_happens h).mem hu with hu | hact | ⟨t, ht, hb⟩
  · exact hf u hu
  · rw [Task.Fits, hact]
    trivial
  · exact hb.fits (hf t ht)

/-- **Along every run each task does what its role is there for.** -/
theorem Runs.fit {w₀ : World} (hf : w₀.Fit) (h : Runs S w₀ es w) : w.Fit := by
  induction h with
  | start => exact hf
  | happen _ hw ih => exact ih.happen hw

end World

end IngressBalancer
