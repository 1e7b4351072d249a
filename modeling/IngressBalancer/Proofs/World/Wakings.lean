import IngressBalancer.Proofs.World.Flights
import IngressBalancer.Proofs.World.Roles
import IngressBalancer.World.Watching
/-!
# Wake-ups

Each kind of object has its reflector, which applies what its watch reports
to the cache and then wakes the driver; in between it owes that wake-up.
Meanwhile anything else may happen to the world (`Reflecting.Step`): the
driver takes the wake-up, waits for the lock behind passes of the watchdog
and resyncs, and sets out with what the cache shows at that moment.

A wake-up that was given and not taken is stored, or the driver is on its way
to the lock (`World.Stirred`), until it sets out. So no change is lost
(`Reflecting.no_change_is_lost`).
-/

namespace IngressBalancer

def ClusterObject.kind : ClusterObject → Kind
  | .ingress _ => .ingress
  | .service _ => .service
  | .node _ => .node
  | .configMap _ => .configMap

/-- The kind of the object that a watch reports about. -/
def WatchEvent.kind? : WatchEvent → Option Kind
  | .applied o => some o.kind
  | .deleted kind _ => some kind
  | .failed => none

/-- An event wakes the driver when it is about an object. -/
theorem WatchEvent.wakes_eq (e : WatchEvent) : e.wakes = e.kind?.isSome := by
  cases e <;> rfl

/-- Anything goes, but what the cluster shows is the matter of the reflectors. -/
def Surroundings.watched : Surroundings := { Surroundings.any with shows := fun _ => False }

theorem Surroundings.watched_within_any : Surroundings.watched.Within .any :=
  within_any fun _ _ h => h

/-- Where the cluster comes to show nothing else, turns leave the view as it is. -/
theorem Situation.Turn.view_eq {S : Surroundings} {c c' : Situation} {es : List Episode}
    (hS : ∀ v, ¬ S.shows v) (h : c.Turn S es c') : c'.view = c.view := by
  cases h with
  | view hv => exact absurd hv (hS _)
  | _ => rfl

/-- A cluster that is watched, with the kinds whose reflectors have applied something and not yet
woken the driver. -/
structure Reflecting extends Watching where
  owing : List Kind

/-- What matters of what happens. -/
inductive Tiding
  /-- A reflector has applied what its watch reported. -/
  | applied (e : WatchEvent)
  /-- The driver has set out on a pass, with what the cluster shows. -/
  | read (view : View) (flight : Flight)

/-- The changes among what happened. -/
def changes (ts : List Tiding) : List WatchEvent :=
  ts.filterMap fun
    | .applied e => some e
    | .read .. => none

theorem changes_append (ts ts' : List Tiding) : changes (ts ++ ts') = changes ts ++ changes ts' :=
  List.filterMap_append

namespace World

/-- Whether it is the driver who sets out between two worlds. -/
def DriverSetsOut (w w' : World) : Prop := ∃ t ∈ w.tasks, t.role = .driver ∧
  t.activity = .queued .converge ∧ w.lock.isHeldBy t.number = true ∧ w' = w.takeOff t

/-- Whether a wake-up is stored, or the driver has taken one and not set out yet. -/
def Stirred (w : World) : Prop := w.signal = true ∨
  ∃ t ∈ w.tasks, t.role = .driver ∧ (t.activity = .woken ∨ t.activity = .queued .converge)

variable {S : Surroundings} {w w' : World} {t u : Task} {es : List Episode} {y : Yield}

theorem signal_finish (w : World) (t : Task) (y : Yield) : (w.finish t y).signal = w.signal := by
  obtain ⟨u, -, -, -, -, hu⟩ := finish_rests w t y
  rw [hu]
  rfl

/-- A move of a task leaves a stored wake-up alone, or takes it. -/
theorem signal_of_moveTask (h : w.moveTask t = some w') : w'.signal = w.signal ∨
    (t.activity = .listening ∧ t.role ≠ .publisher ∧
      w'.tasks = (w.put { t with activity := .woken }).tasks) := by
  cases moves_of_moveTask h with
  | goes signal hn hy hs hs' hg =>
    cases hg with
    | hears hact hr => exact .inr ⟨hact, hr, rfl⟩
    | _ => exact .inl rfl
  | takesOff =>
    rw [takeOff_eq]
    exact .inl rfl
  | resyncs =>
    obtain ⟨_, _, _, _, hw⟩ := resync_frame w t
    exact .inl (by rw [hw])
  | inspects =>
    obtain ⟨_, _, _, hw⟩ := inspect_frame w t
    exact .inl (by rw [hw])
  | lands => exact .inl (signal_finish _ _ _)
  | reports => exact .inl (signal_finish _ _ _)
  | _ => exact .inl rfl

/-- A wake-up stirs the driver. -/
theorem stirred_notify (w : World) : w.notify.Stirred := by
  rcases notify_cases w with ⟨t, ht, hr, -, hw⟩ | hw
  · rw [hw]
    exact .inr ⟨_, mem_put.2 (.inl ⟨rfl, t, ht, rfl⟩), hr, .inl rfl⟩
  · rw [hw]
    exact .inl rfl

/-- A stored wake-up stays, or the driver takes it. -/
theorem stirred_of_signal (hf : w.Fit) (h : w.Happens S es w') (hsignal : w.signal = true) :
    w'.Stirred := by
  cases h with
  | move m h =>
    cases m with
    | task number =>
      obtain ⟨t, ht, hmove⟩ := Option.bind_eq_some_iff.1 h
      obtain ⟨hmem, -⟩ := mem_of_task? ht
      rcases signal_of_moveTask hmove with hs | ⟨hact, hr, htasks⟩
      · exact .inl (hs.trans hsignal)
      · -- nobody else listens for wake-ups
        have hfits := hf t hmem
        simp only [Task.Fits, hact] at hfits
        refine .inr ⟨{ t with activity := .woken }, ?_, hfits.resolve_right hr, .inl rfl⟩
        rw [htasks]
        exact mem_put.2 (.inl ⟨rfl, t, hmem, rfl⟩)
    | attempt number id =>
      obtain ⟨t, ht, hmove⟩ := Option.bind_eq_some_iff.1 h
      obtain ⟨_, _, _, _, _, -, rfl⟩ := eq_of_moveAttempt hmove
      exact .inl hsignal
  | notify => exact stirred_notify w
  | _ => exact .inl hsignal

/-- **Whoever has been stirred stays so until the driver sets out.** -/
theorem Stirred.happen (hs : w.Stirred) (ho : w.Orderly) (hf : w.Fit) (h : w.Happens S es w')
    (hno : ¬ w.DriverSetsOut w') : w'.Stirred := by
  rcases hs with hsignal | ⟨d, hd, hr, hact⟩
  · exact stirred_of_signal hf h hsignal
  rcases (changes_of_happens h).mem_or ho hd with hd' | ⟨u, hu, hb⟩
  · exact .inr ⟨d, hd', hr, hact⟩
  have hin : d.role ≠ .operator := by rw [hr]; exact Role.noConfusion
  rcases hact with hact | hact
  · exact .inr ⟨u, hu, hb.same.2.trans hr, .inr (hb.of_woken hin hact)⟩
  · have hheld := hb.held_of_queued hin hact
    exact absurd ⟨d, hd, hr, hact, hheld, (hb.of_converge hin hact).1⟩ hno

end World

namespace Reflecting

/-- What may happen next, with what matters of it. -/
inductive Step (S : Surroundings) : Reflecting → List Tiding → Reflecting → Prop
  /-- A reflector applies what its watch reports, and owes a wake-up for it. -/
  | apply {s : Reflecting} {k : Kind} {e : WatchEvent} (hk : e.kind? = some k)
    (hfree : k ∉ s.owing) : Step S s [.applied e]
      { ({ s.toWatching with cache := s.cache.handle e } : Watching).refresh with
        owing := k :: s.owing }
  /-- A reflector wakes the driver. -/
  | wake {s : Reflecting} {k : Kind} (hk : k ∈ s.owing) :
    Step S s [] { s.toWatching.notify with owing := s.owing.erase k }
  /-- The driver sets out. -/
  | setsOut {s : Reflecting} {w : World} {es : List Episode} (h : s.world.Happens S es w)
    (hd : s.world.DriverSetsOut w) :
    Step S s [.read s.world.view s.world.situation.flight] { s with world := w }
  /-- Something else happens to the world. -/
  | happens {s : Reflecting} {w : World} {es : List Episode} (h : s.world.Happens S es w)
    (hno : ¬ s.world.DriverSetsOut w) : Step S s [] { s with world := w }

/-- A run, with what matters of it. -/
inductive Runs (S : Surroundings) (s₀ : Reflecting) : List Tiding → Reflecting → Prop
  | start : Runs S s₀ [] s₀
  | step {ts ts' : List Tiding} {s s' : Reflecting} (h : Runs S s₀ ts s)
    (hs : Step S s ts' s') : Runs S s₀ (ts ++ ts') s'

/-- A controller that has just been made, and the cache that it looks at. -/
def new (settings : Settings) (cache : Cache) (rig : Rig) (monitor : Monitor) : Reflecting :=
  ⟨⟨.new settings cache.view rig monitor, cache⟩, []⟩

variable {settings : Settings} {cache : Cache} {rig : Rig} {monitor : Monitor}
variable {s₀ s s' : Reflecting} {ts ts' : List Tiding}

/-- To take an event at once is one way in which a reflector may go on. -/
theorem Runs.handle {S : Surroundings} {k : Kind} {e : WatchEvent} (h : Runs S s₀ ts s)
    (hk : e.kind? = some k) (hfree : k ∉ s.owing) :
    Runs S s₀ (ts ++ [.applied e]) { s.toWatching.handle e with owing := s.owing } := by
  have hboth := (h.step (.apply hk hfree)).step (.wake List.mem_cons_self)
  have hwakes : e.wakes = true := by rw [e.wakes_eq, hk]; rfl
  rw [List.append_nil, List.erase_cons_head] at hboth
  simpa only [Watching.handle, hwakes, if_true] using hboth

/-- The world has a run of its own. -/
theorem Runs.world (h : Runs .watched (new settings cache rig monitor) ts s) :
    ∃ es, World.Runs .any (World.new settings cache.view rig monitor) es s.world := by
  induction h with
  | start => exact ⟨[], .start⟩
  | step _ hs ih =>
    obtain ⟨es, hrun⟩ := ih
    cases hs with
    | apply => exact ⟨_, hrun.happen (.view trivial)⟩
    | wake => exact ⟨_, hrun.happen .notify⟩
    | setsOut hw => exact ⟨_, hrun.happen (hw.mono Surroundings.watched_within_any)⟩
    | happens hw => exact ⟨_, hrun.happen (hw.mono Surroundings.watched_within_any)⟩

/-- Whether the last thing that happened is that the driver has read what the cache shows. -/
def CaughtUp (settings : Settings) (ts : List Tiding) (s : Reflecting) : Prop :=
  ∃ before state now, ts = before ++
    [.read s.cache.view (Flight.start settings s.cache.view state now)]

/-- The world shows what the cache does, the cache holds all changes, and the driver has read them
or is going to. -/
structure Minds (settings : Settings) (cache : Cache) (ts : List Tiding) (s : Reflecting) :
    Prop where
  shows : s.world.view = s.cache.view
  holds : s.cache = (changes ts).foldl Cache.handle cache
  minds : ts = [] ∨ CaughtUp settings ts s ∨ s.owing ≠ [] ∨ s.world.Stirred

/-- **Each step keeps it so.** -/
theorem Minds.step (h : Minds settings cache ts s) (ho : s.world.Orderly) (hf : s.world.Fit)
    (hsame : s.world.settings = settings) (hs : Step .watched s ts' s') :
    Minds settings cache (ts ++ ts') s' := by
  obtain ⟨hshows, hholds, hminds⟩ := h
  have hview : ∀ {es w}, s.world.Happens .watched es w → w.view = s.cache.view := fun hw =>
    ((World.turn_of_happens ho hw).2.view_eq fun _ hv => hv).trans hshows
  cases hs with
  | @apply _ k e =>
    refine ⟨rfl, ?_, .inr (.inr (.inl (List.cons_ne_nil _ _)))⟩
    rw [changes_append, List.foldl_append, ← hholds]
    rfl
  | wake hk =>
    rw [List.append_nil]
    exact ⟨hview .notify, hholds, .inr (.inr (.inr (World.stirred_notify _)))⟩
  | setsOut hw =>
    refine ⟨hview hw, ?_, .inr (.inl ⟨ts, s.world.state, s.world.now, ?_⟩)⟩
    · rw [changes_append, List.foldl_append, ← hholds]
      rfl
    · rw [World.situation, Situation.flight, hshows, hsame]
  | happens hw hno =>
    rw [List.append_nil]
    refine ⟨hview hw, hholds, ?_⟩
    rcases hminds with hnil | hcaught | howing | hstirred
    · exact .inl hnil
    · exact .inr (.inl hcaught)
    · exact .inr (.inr (.inl howing))
    · exact .inr (.inr (.inr (hstirred.happen ho hf hw hno)))

theorem Runs.minds (h : Runs .watched (new settings cache rig monitor) ts s) :
    Minds settings cache ts s := by
  induction h with
  | start => exact ⟨rfl, rfl, .inl rfl⟩
  | step hrun hs ih =>
    obtain ⟨es, hworld⟩ := hrun.world
    exact ih.step (hworld.orderly (World.orderly_new _ _ _ _)) (hworld.fit World.fit_new)
      hworld.tells.same hs

/-- **No change is lost.** Whatever happens, and in whatever order the reflectors apply what they
watch and wake the driver: when the driver waits with no wake-up stored, and no reflector has yet
to wake it, then either nothing was ever applied, or the driver's last pass set out after the last
change, with what a cache shows that holds every change so far. -/
theorem no_change_is_lost (h : Runs .watched (new settings cache rig monitor) ts s)
    (hwaits : ∀ t ∈ s.world.tasks, t.role = .driver → t.activity = .listening)
    (hsignal : s.world.signal = false) (howing : s.owing = []) :
    ts = [] ∨ ∃ before v f, ts = before ++ [.read v f] ∧
      v = ((changes ts).foldl Cache.handle cache).view ∧
      ∃ state now, f = .start settings v state now := by
  obtain ⟨-, hholds, hminds⟩ := h.minds
  rcases hminds with hnil | ⟨before, state, now, hread⟩ | hsome | hstirred | ⟨t, ht, hr, hact⟩
  · exact .inl hnil
  · rw [← hholds]
    exact .inr ⟨before, _, _, hread, rfl, state, now, rfl⟩
  · exact absurd howing hsome
  · rw [hsignal] at hstirred
    cases hstirred
  · rw [hwaits t ht hr] at hact
    rcases hact with hact | hact <;> cases hact

/-! ## One change -/

/-- Nobody waits for the lock to run a pass, so nobody sets out. -/
theorem not_setsOut {w w' : World}
    (h : (w.tasks.all fun t => !(t.activity matches .queued .converge)) = true) :
    ¬ w.DriverSetsOut w' := by
  rintro ⟨t, ht, -, hact, -⟩
  simpa [hact] using List.all_eq_true.1 h t ht

def sampleNode : Node := Sample.node "node-1" "aws:///us-east-1a/i-1" ∅

/-- A node is applied before the driver is there; when the driver waits, it has read it. -/
theorem no_change_is_lost_node : ∃ ts s, Runs .watched
    (new Sample.accepted .empty (Rig.new "us-east-1") .empty) ts s ∧
    (∃ t ∈ s.world.tasks, t.role = .driver ∧ t.activity = .listening) ∧
    ∃ before v f, ts = before ++ [.read v f] ∧ v.nodes = [sampleNode] := by
  have h₀ : Runs .watched (new Sample.accepted .empty (Rig.new "us-east-1") .empty) [] _ := .start
  have h₁ := h₀.step (.apply (k := .node) (e := .applied (.node sampleNode)) rfl List.not_mem_nil)
  have h₂ := h₁.step (.wake (.head _))
  have h₃ := h₂.step (.happens (.spawn .driver) (not_setsOut rfl))
  have h₄ := h₃.step (.happens (.move (.task 1) rfl) (not_setsOut rfl))
  have h₅ := h₄.step (.happens (.move (.task 1) rfl) (not_setsOut rfl))
  have h₆ := h₅.step (.happens (.move (.task 1) rfl) (not_setsOut rfl))
  have h₇ := h₆.step (.setsOut (.move (.task 1) rfl) ⟨_, .tail _ (.head _), rfl, rfl, rfl, rfl⟩)
  have h₈ := h₇.step (.happens (.move (.task 1) rfl) (not_setsOut rfl))
  refine ⟨_, _, h₈, ⟨_, .tail _ (.head _), rfl, rfl⟩, ?_⟩
  have hlast := no_change_is_lost h₈ (fun t ht hr => by
    rcases List.mem_cons.1 ht with rfl | ht
    · cases hr
    · rw [List.mem_singleton.1 ht]
      rfl) rfl rfl
  rcases hlast with hnil | ⟨before, v, f, hts, hv, -⟩
  · cases hnil
  · exact ⟨before, v, f, hts, by rw [hv]; rfl⟩

end Reflecting

end IngressBalancer
