import IngressBalancer.Proofs.World.Roles
import IngressBalancer.Proofs.World.Traces
/-!
# When statuses are written

A publisher takes note of how many passes have been committed, lists the
ingresses, looks which of their statuses are to be written, and waits until
there are more passes. So when it waits in vain, it listed and looked after
the last pass was committed, or nothing was committed since it took note for
the first time; and what it wrote is what the state of that moment calls for:
the state that the last pass left, unless a resync came in between
(`blocked_publisher`).

Two things are not said here, and do not hold (`last_pass_not_shown`). A pass
that is committed before the publisher takes its first step is one that it
has already seen, and its statuses are not written. And where a resync is
committed before the publisher gets to look, the statuses are those of the
resync, and not of the pass that woke the publisher up.
-/

namespace IngressBalancer

namespace World

variable {S : Surroundings} {w w' w₀ v v' : World} {t p u : Task} {es : List Episode} {n k : Nat}
variable {steps : List (World × World)} {listed : List Ingress}
variable {Q Q' : World → World → List (World × World) → Prop}
variable {settings : Settings} {view : View} {rig : Rig} {monitor : Monitor}

/-- The statuses that are to be written, of some ingresses. -/
def pendingFor (w : World) (ingresses : List Ingress) : List (ResourceId × List StatusPoint) :=
  w.state.registry.pendingStatuses w.rig.hostnamesOf w.settings.ingressClass ingresses

/-- The first step of a publisher: it takes note of the passes that there have been. -/
def Subscribes (n : Nat) (w w' : World) : Prop :=
  ∃ t ∈ w.tasks, t.number = n ∧ t.role = .publisher ∧ t.activity = .starting ∧
    w' = w.put { t with activity := .listening, seen := w.state.passes }

/-- A publisher is woken up: it takes note of the passes, lists the ingresses, and asks for the
lock. -/
def Calls (n : Nat) (w w' : World) : Prop :=
  ∃ t ∈ w.tasks, t.number = n ∧ t.role = .publisher ∧ t.activity = .listening ∧
    w' = w.ask { t with seen := w.state.passes, listed := w.view.ingresses } .inspect

/-- A publisher that has the lock looks which of the ingresses that it listed have pending
statuses. -/
def Looks (n : Nat) (listed : List Ingress) (w w' : World) : Prop :=
  ∃ t ∈ w.tasks, t.number = n ∧ t.role = .publisher ∧ t.activity = .queued .inspect ∧
    t.listed = listed ∧ w.lock.isHeldBy n = true ∧ w' = w.inspect t

/-- Whether a publisher is not woken up in some steps. -/
def CallsNever (n : Nat) (steps : List (World × World)) : Prop :=
  ∀ s ∈ steps, ¬ s.1.Calls n s.2

/-- A publisher calls, for the last time so far, and in one of the steps afterwards it looks at
what it listed then. -/
def Publishes (n : Nat) (w w' : World) (after : List (World × World)) : Prop :=
  w.Calls n w' ∧ CallsNever n after ∧ ∃ between l l' late,
    after = between ++ (l, l') :: late ∧ l.Looks n w.view.ingresses l'

/-- Whether a publisher waits, and all passes so far are ones that it has taken note of. -/
def IsBlocked (w : World) (p : Task) : Prop :=
  p.role = .publisher ∧ p.activity = .listening ∧ p.seen = w.state.passes

/-- Who looks writes all that is pending. -/
theorem Looks.statuses_eq (h : w.Looks n listed w') :
    w'.statuses = w.statuses ++ w.pendingFor listed := by
  obtain ⟨t, -, -, hr, -, rfl, -, rfl⟩ := h
  obtain ⟨u, -, -, -, hu⟩ := finish_eq
    { w with statuses := w.statuses ++ w.pendingFor t.listed } t (.state w.state)
  have hlook : w.inspect t =
      ({ w with statuses := w.statuses ++ w.pendingFor t.listed }).finish t (.state w.state) := by
    simp only [inspect, hr]
    rfl
  rw [hlook, hu]
  rfl

/-- Who calls commits nothing. -/
theorem Calls.state_eq (h : w.Calls n w') : w'.state = w.state := by
  obtain ⟨t, -, -, -, -, rfl⟩ := h
  rfl

/-- Who calls has waited until then. -/
theorem Calls.activity_eq (ho : w.Orderly) (h : w.Calls t.number w') (ht : t ∈ w.tasks) :
    t.activity = .listening := by
  obtain ⟨u, hu, hn, -, hact, -⟩ := h
  rw [ho.eq_of_number ht hu hn.symm]
  exact hact

/-- Who calls does not stay as he is. -/
theorem Calls.not_mem (ho : w.Orderly) (h : w.Calls t.number w') (ht : t ∈ w.tasks) :
    t ∉ w'.tasks := by
  intro ht'
  have hact := h.activity_eq ho ht
  obtain ⟨u, hu, hn, -, -, rfl⟩ := h
  rcases mem_put.1 ht' with ⟨rfl, -⟩ | ⟨-, hne⟩
  · cases hact
  · exact hne hn.symm

/-- One more step without a call. -/
theorem CallsNever.step (h : CallsNever n steps) (hw : ¬ w.Calls n w') :
    CallsNever n (steps ++ [(w, w')]) :=
  List.forall_mem_append.2 ⟨h, List.forall_mem_singleton.2 hw⟩

/-! ## Since a step -/

/-- There was a step of some kind when at least `k` passes had been committed, and unless there
are more by now, none was committed since. -/
def Since (Q : World → World → List (World × World) → Prop) (k : Nat)
    (steps : List (World × World)) (w : World) : Prop :=
  ∃ before v v' after, steps = before ++ (v, v') :: after ∧ Q v v' after ∧ k ≤ v.state.passes ∧
    v.state.passes ≤ w.state.passes ∧ (v.state.passes = w.state.passes → CommitNone after)

theorem Since.now (hQ : Q w w' []) (hk : k ≤ w.state.passes)
    (hle : w.state.passes ≤ w'.state.passes) : Since Q k (steps ++ [(w, w')]) w' :=
  ⟨steps, w, w', [], rfl, hQ, hk, hle, fun _ _ hs => absurd hs List.not_mem_nil⟩

/-- What there was is still there after one more step, and may have become more with it. -/
theorem Since.step (h : Since Q k steps w) (hle : w.state.passes ≤ w'.state.passes)
    (hQ : ∀ v v' after, Q v v' after → Q' v v' (after ++ [(w, w')])) :
    Since Q' k (steps ++ [(w, w')]) w' := by
  obtain ⟨before, v, v', after, hsteps, hq, hk, hv, hnone⟩ := h
  refine ⟨before, v, v', after ++ [(w, w')], ?_, hQ v v' after hq, hk, hv.trans hle,
    fun heq s hs => ?_⟩
  · rw [hsteps, List.append_assoc, List.cons_append]
  · -- with as many passes as then, there were as many all the time
    have hmid : v.state.passes = w.state.passes := by omega
    rcases List.mem_append.1 hs with hs | hs
    · exact hnone hmid s hs
    · rw [List.mem_singleton.1 hs]
      exact (hmid.symm.trans heq).symm

/-- When there are no more passes than had been seen, none was committed since. -/
theorem Since.last (h : Since Q w.state.passes steps w) :
    ∃ before v v' after, steps = before ++ (v, v') :: after ∧ Q v v' after ∧
      CommitNone after := by
  obtain ⟨before, v, v', after, hsteps, hQ, hk, hv, hnone⟩ := h
  exact ⟨before, v, v', after, hsteps, hQ, hnone (Nat.le_antisymm hv hk)⟩

/-! ## What a publisher knows -/

/-- What a publisher has taken note of is what there was when it called last or subscribed: while
it waits, it has looked since; while it is on its way, it will look at what it listed then. -/
structure Informed (steps : List (World × World)) (w : World) (p : Task) : Prop where
  listening : p.activity = .listening → Since (fun v v' after =>
    v.Publishes p.number v' after ∨ v.Subscribes p.number v') p.seen steps w
  queued : p.activity = .queued .inspect → Since (fun v v' after =>
    v.Calls p.number v' ∧ CallsNever p.number after ∧ p.listed = v.view.ingresses) p.seen steps w

/-- Who has not taken a step knows nothing. -/
theorem Informed.starting (hact : p.activity = .starting) : Informed steps w p := by
  constructor <;> intro hact' <;> rw [hact] at hact' <;> cases hact'

/-- What was published stays published. -/
theorem Publishes.step {after : List (World × World)} (h : v.Publishes n v' after)
    (hw : ¬ w.Calls n w') : v.Publishes n v' (after ++ [(w, w')]) := by
  obtain ⟨hcall, hnever, between, l, l', late, rfl, hlook⟩ := h
  exact ⟨hcall, hnever.step hw, between, l, l', late ++ [(w, w')],
    by rw [List.append_assoc, List.cons_append], hlook⟩

/-- A publisher that does nothing knows what it did. -/
theorem Informed.rest (h : Informed steps w p) (hle : w.state.passes ≤ w'.state.passes)
    (hw : ¬ w.Calls p.number w') : Informed (steps ++ [(w, w')]) w' p where
  listening hact := (h.listening hact).step hle fun _ _ _ hq => hq.imp_left (·.step hw)
  queued hact := (h.queued hact).step hle fun _ _ _ hq => ⟨hq.1, hq.2.1.step hw, hq.2.2⟩

/-- **A publisher that goes on** knows what it has done. -/
theorem Informed.becomes (h : Informed steps w t) (ho : w.Orderly) (ht : t ∈ w.tasks)
    (hfits : t.Fits) (hr : t.role = .publisher) (hb : t.Becomes w w' u)
    (hle : w.state.passes ≤ w'.state.passes) : Informed (steps ++ [(w, w')]) w' u := by
  have hin : t.role ≠ .operator := by rw [hr]; exact Role.noConfusion
  have hn : u.number = t.number := hb.same.1
  cases hact : t.activity with
  | starting =>
    obtain ⟨hmove, ha⟩ := hb.moved hin (by simp [hact]) (by simp [Task.flying, hact])
    have hw : w' = w.put { t with activity := .listening, seen := w.state.passes } := by
      simpa [moveTask, hact, hr] using hmove.symm
    have hseen : u.seen = w.state.passes := by simp [ha.seen_eq, notedBy, hact, hr]
    refine ⟨fun _ => .now (.inr ⟨t, ht, hn.symm, hr, hact, hw⟩) hseen.le hle, fun hq => ?_⟩
    simp [ha.activity_eq, nextOf, restOf, hact, hr] at hq
  | listening =>
    obtain ⟨hmove, ha⟩ := hb.moved hin (fun _ => by simp [hr]) (by simp [Task.flying, hact])
    obtain ⟨-, hw⟩ : t.seen ≠ w.state.passes ∧
        w.ask { t with seen := w.state.passes, listed := w.view.ingresses } .inspect = w' := by
      simpa [moveTask, hact, hr] using hmove
    have hseen : u.seen = w.state.passes := by simp [ha.seen_eq, notedBy, hact, hr]
    refine ⟨fun hl => ?_, fun _ => .now ⟨⟨t, ht, hn.symm, hr, hact, hw.symm⟩, ?_, ?_⟩ hseen.le hle⟩
    · simp [ha.activity_eq, nextOf, hact, hr] at hl
    · exact fun s hs => absurd hs List.not_mem_nil
    · exact ha.listed_eq hact hr
  | queued e =>
    obtain rfl : e = .inspect := by simpa [Task.Fits, hact, hr, Role.errands] using hfits
    obtain ⟨hw, ha⟩ := hb.of_inspect hin hact
    have hheld := hb.held_of_queued hin hact
    have hseen : u.seen = t.seen := by simp [ha.seen_eq, notedBy, hact, hr]
    have hno : ¬ w.Calls t.number w' := fun hcall => by
      have hlistens := hcall.activity_eq ho ht
      rw [hact] at hlistens
      cases hlistens
    -- the look answers the call with which it went to wait
    have hlook : ∀ (v v' : World) after, v.Calls t.number v' ∧ CallsNever t.number after ∧
        t.listed = v.view.ingresses →
        v.Publishes u.number v' (after ++ [(w, w')]) ∨ v.Subscribes u.number v' := by
      rintro v v' after ⟨hcall, hnever, hlisted⟩
      rw [hn]
      exact .inl ⟨hcall, hnever.step hno, after, w, w', [], rfl, t, ht, rfl, hr, hact, hlisted,
        hheld, hw⟩
    refine ⟨fun _ => ?_, fun hq => ?_⟩
    · rw [hseen]
      exact (h.queued hact).step hle hlook
    · simp [ha.activity_eq, nextOf, restOf, hact, hr] at hq
  | asleep wake => simp [Task.Fits, hact, hr] at hfits
  | woken => simp [Task.Fits, hact, hr] at hfits
  | converging f attempts => simp [Task.Fits, hact, hr, Role.errands] at hfits
  | probing wake => simp [Task.Fits, hact, hr, Role.errands] at hfits
  | finished =>
    cases hb with
    | moves hmove => simp [moveTask, hact] at hmove
    | _ => simp_all

/-- **Along every run publishers know what they have done**, from where they have not taken their
first step. -/
theorem Traces.informed (ho : w₀.Orderly) (hf : w₀.Fit)
    (hnone : ∀ t ∈ w₀.tasks, t.role = .publisher → t.activity = .starting)
    (h : Traces S w₀ steps w) (hp : p ∈ w.tasks) (hr : p.role = .publisher) :
    Informed steps w p := by
  induction h generalizing p with
  | start => exact .starting (hnone p hp hr)
  | happen htrace hw ih =>
    obtain ⟨es, hrun⟩ := htrace.runs
    have ho' := hrun.orderly ho
    have hle := passes_le ho' hw
    rcases (changes_of_happens hw).mem hp with hp₀ | hact | ⟨t, ht, hb⟩
    · exact (ih hp₀ hr).rest hle fun hcall => hcall.not_mem ho' hp₀ hp
    · exact .starting hact
    · have hr' : t.role = .publisher := hb.same.2.symm.trans hr
      exact (ih ht hr').becomes ho' ht (hrun.fit hf t ht) hr' hb hle

/-- **What a publisher that is blocked has seen.** Whatever happens from the moment when a
controller has publishers that have not taken their first step: when one of them waits in vain for
a pass to be committed, then since the last one was, it has listed the ingresses for the last time,
looked which of them have pending statuses, and written these; or none was committed since it took
its first step. The state that it looked at is the one after whatever step was the last to commit a
pass, unless a resync was committed since. -/
theorem blocked_publisher (hrun : Runs S (World.new settings view rig monitor) es w₀)
    (hnone : ∀ t ∈ w₀.tasks, t.role = .publisher → t.activity = .starting)
    (h : Traces S w₀ steps w) (hp : p ∈ w.tasks) (hblocked : w.IsBlocked p) :
    (∃ before c c' between l l' late,
      steps = before ++ (c, c') :: (between ++ (l, l') :: late) ∧
      c.Calls p.number c' ∧ l.Looks p.number c.view.ingresses l' ∧
      l'.statuses = l.statuses ++ l.pendingFor c.view.ingresses ∧
      CallsNever p.number (between ++ (l, l') :: late) ∧
      CommitNone ((c, c') :: (between ++ (l, l') :: late)) ∧
      ∀ early d d' mid, before = early ++ (d, d') :: mid → CommitNone mid →
        (∀ s ∈ mid ++ (c, c') :: between, ¬ s.1.Resyncs S s.2) → l.state = d'.state) ∨
    ∃ before v v' after, steps = before ++ (v, v') :: after ∧ v.Subscribes p.number v' ∧
      CommitNone after := by
  obtain ⟨hr, hact, hseen⟩ := hblocked
  have ho : w₀.Orderly := hrun.orderly (orderly_new _ _ _ _)
  have hinformed := h.informed ho (hrun.fit fit_new) hnone hp hr
  have hsince := hinformed.listening hact
  rw [hseen] at hsince
  obtain ⟨before, c, c', after, hsteps, hdone | hsub, hcommit⟩ := hsince.last
  · obtain ⟨hcall, hnever, between, l, l', late, rfl, hlook⟩ := hdone
    have hcalled : c'.state.passes = c.state.passes := congrArg _ hcall.state_eq
    refine .inl ⟨before, c, c', between, l, l', late, hsteps, hcall, hlook, hlook.statuses_eq,
      hnever, List.forall_mem_cons.2 ⟨hcalled, hcommit⟩, ?_⟩
    rintro early d d' mid rfl hmid hno
    have hcut : steps = (early ++ (d, d') :: (mid ++ (c, c') :: between)) ++ (l, l') :: late := by
      rw [hsteps]
      simp only [List.append_assoc, List.cons_append]
    have hbetween : CommitNone (mid ++ (c, c') :: between) :=
      List.forall_mem_append.2 ⟨hmid, List.forall_mem_cons.2
        ⟨hcalled, (List.forall_mem_append.1 hcommit).1⟩⟩
    exact (h.upTo hcut).state_eq ho rfl hbetween hno
  · exact .inr ⟨before, c, c', after, hsteps, hsub, hcommit⟩

/-! ## Three ways to go on -/

/-- A controller with its watchdog, its drift loop, its driver and its publisher, which have not
taken a step. The first lists have been read. -/
def staffed (view : View) (rig : Rig) : World :=
  ((((World.new Sample.accepted view rig .empty).spawn .watchdog).spawn .drift).notify.spawn
    .driver).spawn .publisher

theorem runs_staffed (view : View) (rig : Rig) :
    Runs .any (World.new Sample.accepted view rig .empty) [] (staffed view rig) :=
  ((((Runs.start.happen (.spawn .watchdog)).happen (.spawn .drift)).happen .notify).happen
    (.spawn .driver)).happen (.spawn .publisher)

/-- Nobody has taken the first step yet. -/
theorem starting_staffed (t : Task) (ht : t ∈ (staffed view rig).tasks)
    (hr : t.role = .publisher) : t.activity = .starting := by
  have htasks : (staffed view rig).tasks = [⟨0, .operator, .finished, none, 0, []⟩,
    ⟨1, .watchdog, .starting, none, 0, []⟩, ⟨2, .drift, .starting, none, 0, []⟩,
    ⟨3, .driver, .starting, none, 0, []⟩, ⟨4, .publisher, .starting, none, 0, []⟩] := rfl
  rw [htasks] at ht
  simp only [List.mem_cons, List.not_mem_nil, or_false] at ht
  rcases ht with rfl | rfl | rfl | rfl | rfl
  · cases hr
  all_goals rfl

/-- The shop, which is being deleted and still shows where its load balancer was. -/
def leavingShop : Ingress :=
  { Sample.ingress "default" "shop" "shop" 80 with
    metadata := { ObjectMeta.named "default" "shop" with deleting := true }
    status := [.ofHostname "internal-prod-shop.us-east-1.elb.amazonaws.com"] }

/-- A controller that sees nothing else. -/
def leaving : World := staffed { Sample.shopView with ingresses := [leavingShop] } (.new "us-east-1")

/-- The publisher takes its first step, then the driver runs its first pass. -/
def promptMoves : List Move := [.task 4, .task 3, .task 3, .task 3, .task 3, .task 3, .task 4, .task 4]

/-- The driver runs its first pass, then the publisher takes its first step. -/
def lateMoves : List Move := [.task 3, .task 3, .task 3, .task 3, .task 3, .task 4]

/-- The world after the publisher was in time. -/
def prompt : World := (promptMoves.foldlM move leaving).getD leaving

/-- The world after it was not. -/
def late : World := (lateMoves.foldlM move leaving).getD leaving

/-- The publisher, when it has taken note of the first pass. -/
def publisher (listed : List Ingress) : Task := ⟨4, .publisher, .listening, none, 1, listed⟩

/-- The publisher that was in time has listed the shop and looked since the first pass, and has
written its status. -/
theorem blocked_publisher_prompt : prompt.state.passes = 1 ∧
    prompt.statuses = [(Sample.shop, [])] ∧
    ∃ before c c' between l l' late,
      stepsOf promptMoves leaving = before ++ (c, c') :: (between ++ (l, l') :: late) ∧
      c.Calls 4 c' ∧ l.Looks 4 c.view.ingresses l' ∧ CallsNever 4 (between ++ (l, l') :: late) ∧
      CommitNone ((c, c') :: (between ++ (l, l') :: late)) := by
  have htrace : Traces .any leaving (stepsOf promptMoves leaving) prompt := traces_stepsOf rfl
  have hmem : publisher [leavingShop] ∈ prompt.tasks :=
    .tail _ (.tail _ (.tail _ (.tail _ (.head _))))
  refine ⟨rfl, rfl, ?_⟩
  rcases blocked_publisher (runs_staffed _ _) (fun _ => starting_staffed _) htrace hmem
    ⟨rfl, rfl, rfl⟩ with
    ⟨before, c, c', between, l, l', late, hsteps, hcall, hlook, -, hnever, hnone, -⟩ |
    ⟨before, v, v', after, hsteps, ⟨t, ht, -, hr, hact, hv⟩, hnone⟩
  · exact ⟨before, c, c', between, l, l', late, hsteps, hcall, hlook, hnever, hnone⟩
  · -- it subscribed before the first pass was committed
    have hpasses := htrace.passes_eq hsteps hnone
    have hbefore : ∀ s ∈ stepsOf promptMoves leaving, ∀ t ∈ s.1.tasks, t.role = .publisher →
        t.activity matches .starting → s.1.state.passes = 0 := by decide +kernel
    have hnever := hbefore (v, v') (by simp [hsteps]) t ht hr (by rw [hact])
    rw [hv] at hpasses
    exact absurd (hpasses.trans hnever) Nat.one_ne_zero

/-- The shop is served. -/
def serving : World := staffed Sample.shopView (.new "us-east-1")

/-- The publisher takes its first step, and the drift loop goes to sleep. -/
def drowsyMoves : List Move := [.task 4, .task 2]

def drowsy : World := (drowsyMoves.foldlM move serving).getD serving

/-- An hour later. -/
def wakeful : World := { drowsy with now := Span.ofSecs 3600 }

/-- The driver runs its first pass, and the drift loop waits until that has been committed. -/
def flightMoves : List Move :=
  [.task 3, .task 3, .task 3, .task 3, .task 2, .attempt 3 Sample.shop, .attempt 3 Sample.shop,
    .attempt 3 Sample.shop]

def inFlight : World := (flightMoves.foldlM move wakeful).getD wakeful

/-- The load balancer is taken away at the provider. -/
def robbed : World := { inFlight with rig := { inFlight.rig with inventory := ∅ } }

/-- The pass is committed, the publisher is woken up and gets in line, the drift loop resyncs, and
the publisher looks. -/
def overtakenMoves : List Move := [.task 3, .task 4, .task 2, .task 4]

def overtaken : World := (overtakenMoves.foldlM move robbed).getD robbed

/-- The pass has been committed, and nothing else has happened since. -/
def landed : World := (robbed.move (.task 3)).getD robbed

/-- All these steps. -/
def overtakenSteps : List (World × World) :=
  stepsOf drowsyMoves serving ++ [(drowsy, wakeful)] ++ stepsOf flightMoves wakeful ++
    [(inFlight, robbed)] ++ stepsOf overtakenMoves robbed

theorem traces_overtaken : Traces .any serving overtakenSteps overtaken := by
  have hdrowsy : Traces .any serving (stepsOf drowsyMoves serving) drowsy := traces_stepsOf rfl
  have hwakeful : Traces .any serving (stepsOf drowsyMoves serving ++ [(drowsy, wakeful)])
      wakeful := hdrowsy.happen (.tick (Nat.zero_le _))
  have hflight : flightMoves.foldlM move wakeful = some inFlight := rfl
  have hrobbed : Traces .any serving (stepsOf drowsyMoves serving ++ [(drowsy, wakeful)] ++
      stepsOf flightMoves wakeful ++ [(inFlight, robbed)]) robbed :=
    (hwakeful.moves hflight).happen (.rig trivial)
  have hlast : overtakenMoves.foldlM move robbed = some overtaken := rfl
  exact hrobbed.moves hlast

/-- Whether a publisher has looked since the last pass was committed, and wrote what the state
that this pass left calls for. -/
def ShowsLastPass (n : Nat) (steps : List (World × World)) : Prop :=
  ∃ early d d' mid listed l l' late, steps = early ++ (d, d') :: (mid ++ (l, l') :: late) ∧
    d'.state.passes ≠ d.state.passes ∧ CommitNone (mid ++ (l, l') :: late) ∧
    l.Looks n listed l' ∧
    l'.statuses = l.statuses ++ pendingFor { l with state := d'.state } listed

/-- It has not where no look writes what some pass left. -/
theorem not_showsLastPass (h : (steps.all fun d => steps.all fun l => l.1.tasks.all fun t =>
      !(d.2.state.passes != d.1.state.passes &&
        (t.role = .publisher && t.activity matches .queued .inspect) &&
        l.2.statuses = l.1.statuses ++ pendingFor { l.1 with state := d.2.state } t.listed)) =
      true) : ¬ ShowsLastPass n steps := by
  rintro ⟨early, d, d', mid, listed, l, l', late, hsteps, hcommit, -, hlook, hstatuses⟩
  obtain ⟨t, ht, -, hr, hact, rfl, -⟩ := hlook
  have hd := List.all_eq_true.1 h (d, d') (by simp [hsteps])
  have hl := List.all_eq_true.1 hd (l, l') (by simp [hsteps])
  simpa [hcommit, hr, hact, hstatuses] using List.all_eq_true.1 hl t ht

/-- **What a blocked publisher wrote need not be what the last pass left.** The driver may commit a
pass before the publisher takes its first step: then the publisher has never looked, though there
is a status to be written. And while a pass is in the air, the drift loop may get in line for the
lock before the publisher is woken up: then the publisher looks when the load balancer that the
pass has left in the registry is no longer there. -/
theorem last_pass_not_shown :
    (Traces .any leaving (stepsOf lateMoves leaving) late ∧ publisher [] ∈ late.tasks ∧
      late.IsBlocked (publisher []) ∧ late.air = none ∧ late.state.passes = 1 ∧
      ¬ ShowsLastPass 4 (stepsOf lateMoves leaving) ∧
      late.statuses = [] ∧ late.pendingFor late.view.ingresses = [(Sample.shop, [])]) ∧
    (Traces .any serving overtakenSteps overtaken ∧
      publisher serving.view.ingresses ∈ overtaken.tasks ∧
      overtaken.IsBlocked (publisher serving.view.ingresses) ∧ overtaken.air = none ∧
      overtaken.state.passes = 1 ∧ ¬ ShowsLastPass 4 overtakenSteps ∧
      overtaken.statuses = [] ∧
      (landed.pendingFor serving.view.ingresses).map (·.1) = [Sample.shop]) := by
  have hmem : ∀ {a b c d e : Task}, e ∈ [a, b, c, d, e] := by simp
  have hlate : ¬ ShowsLastPass 4 (stepsOf lateMoves leaving) :=
    not_showsLastPass (by decide +kernel)
  have hovertaken : ¬ ShowsLastPass 4 overtakenSteps := not_showsLastPass (by decide +kernel)
  exact ⟨⟨traces_stepsOf rfl, hmem, ⟨rfl, rfl, rfl⟩, rfl, rfl, hlate, rfl, rfl⟩,
    traces_overtaken, hmem, ⟨rfl, rfl, rfl⟩, rfl, rfl, hovertaken, rfl, by decide +kernel⟩

end World

end IngressBalancer
