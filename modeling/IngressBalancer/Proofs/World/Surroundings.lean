import IngressBalancer.Proofs.Controller.Committed
import IngressBalancer.World.Sample
import IngressBalancer.World.Schedule
import Mathlib.Data.Set.Insert
/-!
# A world among its surroundings

Whatever may happen to a running controller (`World.Happens`): its own steps
in any order, orders and wake-ups from outside, new tasks, and changes of
what surrounds it. `Surroundings` say which changes there may be: what the
cluster comes to show, how the provider and its faults change, how long
publications take, and what other providers answer. Each happening brings
along the episodes that it commits, and a run collects them (`World.Runs`).
-/

namespace IngressBalancer

/-- What may happen around a controller. -/
structure Surroundings where
  /-- What the cluster may come to show. -/
  shows : View → Prop
  /-- How long publications may come to take. -/
  publishes : Option Span → Prop
  /-- How the provider and its faults may change. -/
  alters : Rig → Rig → Prop
  /-- What an attempt may end in, whatever the provider says. -/
  answers : Resource → Except Failure Resource → Prop

/-- Anything goes, as long as a success is a resource with the id that was asked for. -/
def Surroundings.any : Surroundings where
  shows _ := True
  publishes _ := True
  alters _ _ := True
  answers r outcome := ∀ r', outcome = .ok r' → r'.id = r.id

/-- Whether whatever may happen among some surroundings may happen among others. -/
structure Surroundings.Within (S S' : Surroundings) : Prop where
  shows : ∀ v, S.shows v → S'.shows v
  publishes : ∀ p, S.publishes p → S'.publishes p
  alters : ∀ g g', S.alters g g' → S'.alters g g'
  answers : ∀ r o, S.answers r o → S'.answers r o

/-- Anything goes where all that is answered keeps the id that was asked for. -/
theorem Surroundings.within_any {S : Surroundings}
    (hS : ∀ r o, S.answers r o → Surroundings.any.answers r o) : S.Within .any :=
  ⟨fun _ _ => trivial, fun _ _ => trivial, fun _ _ _ => trivial, hS⟩

/-- Put an attempt in the stead of the one for its resource. -/
def setAttempt (attempts : List Attempt) (a : Attempt) : List Attempt :=
  attempts.map fun b => if b.resource.id = a.resource.id then a else b

namespace World

/-- What a move of a task commits. -/
def episodesOf (w : World) (t : Task) : List Episode :=
  match t.activity with
  | .converging f attempts => ((outcomes? attempts).map fun os => .pass f os w.now).toList
  | .queued .resync =>
    if w.lock.isHeldBy t.number then
      match w.rig.discover w.scope with
      | .ok discovered => [.resync discovered w.now]
      | .error _ => []
    else []
  | _ => []

/-- What a move commits; attempts commit nothing. -/
def episodes (w : World) : Move → List Episode
  | .task number => (w.task? number).elim [] w.episodesOf
  | .attempt .. => []

/-- Something happens, and commits some episodes. -/
inductive Happens (S : Surroundings) : World → List Episode → World → Prop
  | move {w w' : World} (m : Move) (h : w.move m = some w') : Happens S w (w.episodes m) w'
  | tick {w : World} {t : Instant} (h : w.now ≤ t) : Happens S w [] { w with now := t }
  | view {w : World} {v : View} (h : S.shows v) : Happens S w [] { w with view := v }
  | publication {w : World} {p : Option Span} (h : S.publishes p) :
    Happens S w [] { w with publication := p }
  | rig {w : World} {g : Rig} (h : S.alters w.rig g) : Happens S w [] { w with rig := g }
  | notify {w : World} : Happens S w [] w.notify
  | spawn {w : World} (role : Role) : Happens S w [] (w.spawn role)
  /-- Somebody outside who is at rest gives an order. -/
  | order {w : World} {t : Task} (e : Errand) (ht : t ∈ w.tasks) (hrole : t.role = .operator)
    (hrest : t.activity = .starting ∨ t.activity = .finished) :
    Happens S w [] (w.ask { t with yield := none } e)
  /-- Somebody outside gives up waiting for the lock. -/
  | giveUp {w : World} {t : Task} {e : Errand} (ht : t ∈ w.tasks) (hrole : t.role = .operator)
    (hwait : t.activity = .queued e) : Happens S w [] (w.leave t .finished)
  /-- An attempt ends in what another provider answers. -/
  | answer {w : World} {t : Task} {f : Flight} {attempts : List Attempt} {a : Attempt}
    {outcome : Except Failure Resource} (ht : t ∈ w.tasks)
    (hf : t.activity = .converging f attempts) (ha : a ∈ attempts)
    (hopen : ∀ o, a.progress ≠ .done o) (ho : S.answers a.resource outcome) :
    Happens S w [] (w.put { t with
      activity := .converging f (setAttempt attempts { a with progress := .done outcome }) })

/-- A run, with the episodes that it commits. -/
inductive Runs (S : Surroundings) (w₀ : World) : List Episode → World → Prop
  | start : Runs S w₀ [] w₀
  | happen {es es' : List Episode} {w w' : World} (h : Runs S w₀ es w)
    (hw : w.Happens S es' w') : Runs S w₀ (es ++ es') w'

variable {S : Surroundings} {w w' : World}

theorem Runs.trans {w₀ : World} {es es' : List Episode} (h : Runs S w₀ es w)
    (h' : Runs S w es' w') : Runs S w₀ (es ++ es') w' := by
  induction h' with
  | start => rwa [List.append_nil]
  | happen _ hw ih =>
    rw [← List.append_assoc]
    exact .happen ih hw

theorem Happens.mono {S' : Surroundings} {es : List Episode} (hS : S.Within S')
    (h : w.Happens S es w') : w.Happens S' es w' := by
  cases h with
  | move m h => exact .move m h
  | tick h => exact .tick h
  | view h => exact .view (hS.shows _ h)
  | publication h => exact .publication (hS.publishes _ h)
  | rig h => exact .rig (hS.alters _ _ h)
  | notify => exact .notify
  | spawn role => exact .spawn role
  | order e ht hrole hrest => exact .order e ht hrole hrest
  | giveUp ht hrole hwait => exact .giveUp ht hrole hwait
  | answer ht hf ha hopen ho => exact .answer ht hf ha hopen (hS.answers _ _ ho)

theorem Runs.mono {S' : Surroundings} {w₀ : World} {es : List Episode} (hS : S.Within S')
    (h : Runs S w₀ es w) : Runs S' w₀ es w := by
  induction h with
  | start => exact .start
  | happen _ hw ih => exact .happen ih (hw.mono hS)

theorem Runs.any {w₀ : World} {es : List Episode}
    (hS : ∀ r o, S.answers r o → Surroundings.any.answers r o) (h : Runs S w₀ es w) :
    Runs .any w₀ es w :=
  h.mono (Surroundings.within_any hS)

/-- Every step of a world happens among whatever surroundings. -/
theorem happens_of_step (h : w.Step w') : ∃ es, w.Happens S es w' := by
  cases h with
  | move m h => exact ⟨_, .move m h⟩
  | tick h => exact ⟨_, .tick h⟩

/-- **What the schedule makes of a world is a run of it.** -/
theorem runs_runFor (goal : World → Bool) (limit : Option Instant) (n : Nat) {w₀ : World}
    {es : List Episode} (h : Runs S w₀ es w) : ∃ es', Runs S w₀ es' (runFor goal limit n w) := by
  induction n generalizing w es with
  | zero => exact ⟨es, h⟩
  | succ n ih =>
    unfold runFor
    split
    · exact ⟨es, h⟩
    · split
      · next hnext =>
        obtain ⟨es', hes'⟩ := happens_of_step (S := S) (step_of_next? hnext)
        exact ih (.happen h hes')
      · split
        · split
          · next hlt => exact ih (.happen h (.tick (Nat.le_of_lt hlt)))
          · exact ⟨es, h⟩
        · exact ⟨es, h⟩

/-! ## Orders in a row -/

/-- The world after an order to whoever is outside, and some moves. -/
def obey (w : World) (order : Errand × List Move) : Option World :=
  order.2.foldlM move (w.ask { w.operator with yield := none } order.1)

/-- Whether the operator is there and at rest. -/
def IsIdle (w : World) : Prop :=
  w.operator ∈ w.tasks ∧ w.operator.role = .operator ∧ w.operator.activity = .finished

theorem Runs.moves {w₀ : World} {es : List Episode} {ms : List Move} (h : Runs S w₀ es w)
    (hm : ms.foldlM move w = some w') : ∃ es', Runs S w₀ es' w' := by
  induction ms generalizing w es with
  | nil =>
    cases hm
    exact ⟨es, h⟩
  | cons m ms ih =>
    obtain ⟨w₁, hfirst, hrest⟩ := Option.bind_eq_some_iff.1 hm
    exact ih (.happen h (.move m hfirst)) hrest

/-- Moves of attempts commit nothing. -/
theorem Runs.attempts {w₀ : World} {es : List Episode} {number : Nat} {ids : List ResourceId}
    (h : Runs S w₀ es w) (hm : ids.foldlM (fun w id => w.move (.attempt number id)) w = some w') :
    Runs S w₀ es w' := by
  induction ids generalizing w with
  | nil =>
    cases hm
    exact h
  | cons id ids ih =>
    obtain ⟨w₁, hfirst, hrest⟩ := Option.bind_eq_some_iff.1 hm
    have hnext := Runs.happen h (.move _ hfirst)
    rw [episodes, List.append_nil] at hnext
    exact ih hnext hrest

/-- **An order that is carried out is part of a run.** -/
theorem Runs.obey {w₀ : World} {es : List Episode} {order : Errand × List Move}
    (h : Runs S w₀ es w) (hidle : w.IsIdle) (ho : w.obey order = some w') :
    ∃ es', Runs S w₀ es' w' :=
  Runs.moves (.happen h (.order order.1 hidle.1 hidle.2.1 (.inr hidle.2.2))) ho

end World

namespace Sample

def shop : ResourceId := ⟨"default", "shop"⟩

/-- A view with one ingress and the service behind it. -/
def shopView : View where
  ingresses := [ingress "default" "shop" "shop" 80]
  nodes := []
  service? s _ := if s = shop then some (nodePortService "default" "shop" 80 30080) else none
  configMap? _ := none

/-- A pass in which the attempt for the shop makes each of its moves. -/
def shopPass : Errand × List World.Move :=
  (.converge, [.task 0, .attempt 0 shop, .attempt 0 shop, .attempt 0 shop, .task 0])

theorem declared_shopView :
    shopView.declared accepted = [ingress "default" "shop" "shop" 80] := rfl

/-- The shop is all that the view declares. -/
theorem id_of_declared : ∀ i ∈ shopView.declared accepted, i.id ∈ ({shop} : Set ResourceId) := by
  rw [declared_shopView]
  rintro i hi
  rw [List.mem_singleton.1 hi]
  rfl

end Sample

namespace World

/-- A world whose view declares the shop, and whose provider is empty. -/
def opening : World := .new Sample.accepted Sample.shopView (Rig.new "us-east-1") .empty

/-- The same world after a pass. -/
def openedOnce : World := (opening.obey Sample.shopPass).getD opening

end World

end IngressBalancer
