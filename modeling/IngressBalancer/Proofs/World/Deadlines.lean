import IngressBalancer.Proofs.Controller.Handles
import IngressBalancer.Proofs.World.Attempts
import Mathlib.Logic.Relation
/-!
# What a deadline cuts off

An attempt looks at the inventory, makes its change, and then waits until the
change is published. Its deadline may strike at any time but between the look
and the change. Before the change it leaves the provider as it is; after it,
the change stays although the attempt has failed.

`Attempt.History` is what becomes of one attempt while others act on the
provider as well. If it fails, and the publication that it began, if any, was
through in time, then all that has become of the inventory is the doing of
others (`Attempt.left_alone_of_error`). What it did not publish in time is
there, and nobody knows (`World.created_and_forgotten`).
-/

namespace IngressBalancer

/-- The publication of a change: when it began and how long it takes. The span is absent where
it never ends. -/
structure Publication where
  begun : Instant
  span : Option Span

/-- Whether a publication is through when a deadline strikes. -/
def Publication.InTime (deadline : Instant) (q : Publication) : Prop :=
  ∃ s, q.span = some s ∧ (s = 0 ∨ q.begun + s ≤ deadline)

/-- The publication that an attempt has just begun, if it waits for one now. -/
def Attempt.begins (now : Instant) (span : Option Span) (a : Attempt) : List Publication :=
  match a.progress with
  | .reporting .. => [⟨now, span⟩]
  | _ => []

/-- What becomes of an attempt from its beginning, and the publications that it begins. Others act
on the provider meanwhile, and change the inventory as `R` says. -/
inductive Attempt.History (R : Inventory → Inventory → Prop) (g₀ : Rig) (a₀ : Attempt) :
    List Publication → Instant → Rig → Attempt → Prop
  | start {now : Instant} : History R g₀ a₀ [] now g₀ a₀
  | tick {qs : List Publication} {now t : Instant} {g : Rig} {a : Attempt}
    (h : History R g₀ a₀ qs now g a) (ht : now ≤ t) : History R g₀ a₀ qs t g a
  | others {qs : List Publication} {now : Instant} {g g' : Rig} {a : Attempt}
    (h : History R g₀ a₀ qs now g a) (hR : Relation.ReflGen R g.inventory g'.inventory) :
    History R g₀ a₀ qs now g' a
  | move {qs : List Publication} {now : Instant} {g g' : Rig} {a a' : Attempt}
    {span : Option Span} (h : History R g₀ a₀ qs now g a) (hm : a.Moves now span g g' a') :
    History R g₀ a₀ (qs ++ a'.begins now span) now g' a'

/-- Whether an attempt that has come so far has kept off the inventory. It has as long as it has
not made its change, and when it fails, except where its publication was not through in time. -/
def Progress.KeepsOff (R : Inventory → Inventory → Prop) (before after : Inventory)
    (deadline now : Instant) (id : ResourceId) (qs : List Publication) : Progress → Prop
  | .atGate _ | .waiting .. | .hanging | .decided _ => Relation.ReflTransGen R before after
  | .reporting c wake => c.event? id ≠ none ∧
      ∃ q ∈ qs, q.begun ≤ now ∧ wake = q.span.map (q.begun + ·)
  | .done (.ok _) => True
  | .done (.error _) => Relation.ReflTransGen R before after ∨ ∃ q ∈ qs, ¬ q.InTime deadline

/-- A change that is published succeeds. -/
theorem Change.exists_ok_of_event {c : Change} {id : ResourceId} (h : c.event? id ≠ none)
    (r : Resource) : ∃ r', c.outcome r = .ok r' := by
  cases c with
  | refuse held wanted => exact absurd rfl h
  | keep | modify | create | delete | settle => exact ⟨_, rfl⟩

/-- One that fails changes nothing. -/
theorem Change.applyTo_of_error {c : Change} {r : Resource} {e : Failure}
    (h : c.outcome r = .error e) (inv : Inventory) : c.applyTo inv = inv := by
  cases c with
  | refuse held wanted => rfl
  | keep | modify | create | delete | settle => cases h

namespace Attempt

variable {R : Inventory → Inventory → Prop} {g₀ g g' : Rig} {a₀ a a' : Attempt} {e : Failure}
variable {qs : List Publication} {now t : Instant} {span : Option Span} {before : Inventory}

/-- Whether an attempt has kept off the inventory. -/
def KeepsOff (R : Inventory → Inventory → Prop) (before : Inventory) (qs : List Publication)
    (now : Instant) (g : Rig) (a : Attempt) : Prop :=
  a.progress.KeepsOff R before g.inventory a.deadline now a.resource.id qs

namespace KeepsOff

theorem tick (h : a.KeepsOff R before qs now g) (ht : now ≤ t) : a.KeepsOff R before qs t g := by
  unfold KeepsOff at h ⊢
  cases hp : a.progress with
  | reporting c wake =>
    rw [hp] at h
    obtain ⟨hevent, q, hq, hbegun, hwake⟩ := h
    exact ⟨hevent, q, hq, hbegun.trans ht, hwake⟩
  | atGate | waiting | hanging | decided => rwa [hp] at h
  | done o =>
    rw [hp] at h
    cases o <;> exact h

/-- What others do is their doing. -/
theorem others (h : a.KeepsOff R before qs now g)
    (hR : Relation.ReflGen R g.inventory g'.inventory) : a.KeepsOff R before qs now g' := by
  have hchain : Relation.ReflTransGen R before g.inventory →
      Relation.ReflTransGen R before g'.inventory := fun hbefore =>
    hbefore.trans hR.to_reflTransGen
  unfold KeepsOff at h ⊢
  cases hp : a.progress with
  | atGate | waiting | hanging | decided =>
    rw [hp] at h
    exact hchain h
  | reporting c wake => rwa [hp] at h
  | done o =>
    rw [hp] at h
    cases o with
    | ok r => trivial
    | error e => exact h.imp_left hchain

/-- **A move that fails has kept off**, unless it cuts a publication off. -/
theorem move (h : a.KeepsOff R before qs now g) (hm : a.Moves now span g g' a') :
    a'.KeepsOff R before (qs ++ a'.begins now span) now g' := by
  unfold KeepsOff at h
  cases hm with
  | late hd hopen hundecided _ hpublishing =>
    cases hp : a.progress with
    | atGate | waiting | hanging =>
      rw [hp] at h
      exact .inl h
    | decided c => exact absurd hp (hundecided c)
    | done o => exact absurd hp (hopen o)
    | reporting c wake =>
      -- it is past the deadline, and the publication is still not through
      rw [hp] at h
      obtain ⟨-, q, hq, hbegun, hwake⟩ := h
      refine .inr ⟨q, List.mem_append_left _ hq, ?_⟩
      rintro ⟨s, hs, hin : s = 0 ∨ q.begun + s ≤ a.deadline⟩
      have hlate : now < q.begun + s := by
        refine hpublishing c _ ?_
        rw [hp, hwake, hs]
        rfl
      rcases hin with rfl | hin
      · exact Nat.not_lt.2 hbegun hlate
      · exact Nat.lt_irrefl now (Nat.lt_of_lt_of_le hlate (Nat.le_trans hin hd))
  | meet hp =>
    rw [hp] at h
    have hinv : (g.meet a.resource.id).2.inventory = g.inventory := by rw [Rig.meet_eq]
    unfold KeepsOff World.progressOf
    rw [hinv]
    split <;> exact h
  | strike hp ho =>
    rw [hp] at h
    rename_i o
    cases o with
    | ok r => trivial
    | error e => exact .inl h
  | look hp ho =>
    rw [hp] at h
    exact h
  | @change c p hp hnext =>
    rw [hp] at h
    rcases hnext with ⟨hevent, rfl⟩ | ⟨-, rfl⟩
    · exact ⟨hevent, ⟨now, span⟩, List.mem_append_right _ List.mem_cons_self, le_rfl, rfl⟩
    · -- what needs no publication has succeeded or changed nothing
      cases ho : c.outcome a.resource with
      | ok r => trivial
      | error e =>
        refine .inl ?_
        rw [c.applyTo_of_error ho]
        exact h
  | @published c wake hp hwake =>
    rw [hp] at h
    obtain ⟨r', hr'⟩ := c.exists_ok_of_event h.1 a.resource
    unfold KeepsOff
    rw [hr']
    trivial

end KeepsOff

/-- An attempt keeps its resource and its deadline. -/
theorem History.same (h : History R g₀ a₀ qs now g a) :
    a.resource = a₀.resource ∧ a.deadline = a₀.deadline := by
  induction h with
  | start => exact ⟨rfl, rfl⟩
  | tick _ _ ih => exact ih
  | others _ _ ih => exact ih
  | move _ hm ih => cases hm <;> exact ih

/-- **An attempt keeps off the inventory in all its history.** -/
theorem History.keepsOff (hfresh : a₀.progress.IsFresh fun _ => True)
    (h : History R g₀ a₀ qs now g a) : a.KeepsOff R g₀.inventory qs now g := by
  induction h with
  | start =>
    unfold KeepsOff
    cases hp : a₀.progress with
    | atGate | waiting | hanging => exact .refl
    | decided | reporting | done => rw [hp] at hfresh; exact hfresh.elim
  | tick _ ht ih => exact ih.tick ht
  | others _ hR ih => exact ih.others hR
  | move _ hm ih => exact ih.move hm

/-- **What a failed attempt leaves behind is what others made of it**, where whatever it published
was through in time: alone it leaves the inventory as it found it. The pass keeps the resource of
the attempt as the attempt was given it, if that is live, with the handle that was tracked. -/
theorem left_alone_of_error {settings : Settings} {v : View} {s : SyncState}
    {os : List Flight.Outcome} {startedAt : Instant} (metrics : Metrics) (endedAt : Instant)
    (hmem : a₀.resource ∈ (Flight.start settings v s startedAt).batch)
    (hfresh : a₀.progress.IsFresh fun _ => True) (h : History R g₀ a₀ qs now g a)
    (herr : a.progress = .done (.error e)) (hin : ∀ q ∈ qs, q.InTime a₀.deadline)
    (hk : Flight.KeepIds os) (hnd : (os.map (·.1)).Nodup) (hos : (a₀.resource.id, .error e) ∈ os) :
    let kept := ((Flight.start settings v s startedAt).commit settings s metrics os
      endedAt).state.registry
    Relation.ReflTransGen R g₀.inventory g.inventory ∧
      ((∀ i i', ¬ R i i') → g.inventory = g₀.inventory) ∧
      kept.get? a₀.resource.id = (some a₀.resource).filter Resource.isLive ∧
      kept.handle? a₀.resource.id = s.registry.handle? a₀.resource.id := by
  intro kept
  have hothers : Relation.ReflTransGen R g₀.inventory g.inventory := by
    have hkeeps := h.keepsOff hfresh
    rw [KeepsOff, herr] at hkeeps
    refine hkeeps.resolve_right ?_
    rintro ⟨q, hq, hlate⟩
    rw [h.same.2] at hlate
    exact hlate (hin q hq)
  refine ⟨hothers, fun halone => ?_, ?_, ?_⟩
  · rcases hothers.cases_tail with heq | ⟨i, -, hR⟩
    · exact heq
    · exact absurd hR (halone _ _)
  · rw [Flight.get?_commit_error hnd hk hos, (Flight.mem_batch_iff.1 hmem).1]
  · rw [Flight.handle?_commit_error hk hnd hos, Flight.handle?_working]

/-- An attempt for the shop that hangs until its deadline leaves its load balancer alone, and the
pass keeps its entry. -/
theorem left_alone_of_error_hanging :
    let f := Flight.start Sample.accepted Sample.shopView World.openedOnce.state 0
    ∃ r ∈ f.batch,
      let kept := (f.commit Sample.accepted World.openedOnce.state .empty
        [(r.id, .error (.timeout r.id))] (Span.ofSecs 300)).state.registry
      History (fun _ _ => False) World.openedOnce.rig ⟨r, Span.ofSecs 300, .hanging⟩ []
        (Span.ofSecs 300) World.openedOnce.rig
        ⟨r, Span.ofSecs 300, .done (.error (.timeout r.id))⟩ ∧
      kept.get? r.id = some r ∧ r.isLive = true ∧
      kept.handle? r.id = World.openedOnce.state.registry.handle? r.id := by
  intro f
  obtain ⟨r, hr, hlive⟩ : ∃ r,
      (Flight.start Sample.accepted Sample.shopView World.openedOnce.state 0).batch = [r] ∧
        r.isLive = true := ⟨_, rfl, rfl⟩
  have hmem : r ∈ (Flight.start Sample.accepted Sample.shopView World.openedOnce.state 0).batch :=
    hr ▸ List.mem_cons_self
  have hstart : History (fun _ _ => False) World.openedOnce.rig ⟨r, Span.ofSecs 300, .hanging⟩ []
      0 World.openedOnce.rig ⟨r, Span.ofSecs 300, .hanging⟩ := .start
  have hlate : Moves (Span.ofSecs 300) none World.openedOnce.rig ⟨r, Span.ofSecs 300, .hanging⟩
      World.openedOnce.rig ⟨r, Span.ofSecs 300, .done (.error (.timeout r.id))⟩ :=
    .late le_rfl (by simp) (by simp) (by simp) (by simp)
  have hhistory := (hstart.tick (Nat.zero_le _)).move hlate
  have hids : Flight.KeepIds [(r.id, .error (.timeout r.id))] := by
    intro o ho r' hr'
    rw [List.mem_singleton.1 ho] at hr'
    cases hr'
  have hfresh : (⟨r, Span.ofSecs 300, .hanging⟩ : Attempt).progress.IsFresh fun _ => True := trivial
  obtain ⟨-, -, hentry, hhandle⟩ := left_alone_of_error .empty (Span.ofSecs 300) hmem hfresh
    hhistory rfl (fun q hq => absurd hq List.not_mem_nil) hids (List.nodup_singleton _)
    List.mem_cons_self
  refine ⟨r, hmem, hhistory, hentry.trans ?_, hlive, hhandle⟩
  rw [Option.filter_some, if_pos hlive]

end Attempt

/-! ## What is cut off -/

namespace World

variable {S : Surroundings} {w₀ u w w' : World} {es : List Episode} {ms : List Move} {t : Instant}

/-- An order that is begun and takes its time. -/
theorem Runs.linger {order : Errand × List Move} (h : Runs S w₀ es w) (hidle : w.IsIdle)
    (ho : w.obey order = some u) (ht : u.now ≤ t)
    (hm : ms.foldlM move { u with now := t } = some w') : ∃ es', Runs S w₀ es' w' := by
  obtain ⟨es', hbegun⟩ := h.obey hidle ho
  exact (hbegun.happen (.tick ht)).moves hm

/-- When an attempt is cut off that sets out at once. -/
def cutoff : Instant := Instant.after 0 Sample.accepted.reconcileTimeout

/-- The moves of a pass whose one attempt is cut off. -/
def cuttingOff : List Move := [.attempt 0 Sample.shop, .task 0]

/-- A world whose publications never end. -/
def unheard : World := { opening with publication := none }

/-- A pass in it: the attempt for the shop has made its change, and waits for the publication. -/
def forgetting : World :=
  (unheard.obey (.converge, [.task 0, .attempt 0 Sample.shop, .attempt 0 Sample.shop])).getD unheard

/-- The deadline has struck. -/
def forgotten : World := (cuttingOff.foldlM move { forgetting with now := cutoff }).getD forgetting

/-- A world with the shop, whose spec is a new one since. The provider will hang. -/
def amended : World :=
  { openedOnce with
    view := { Sample.shopView with nodes := [Sample.node "n" "aws:///us-east-1a/i-0123456789" ∅] }
    rig := openedOnce.rig.setFault Sample.shop (some ⟨.hang, 0, none⟩) }

/-- A pass in it: the attempt for the shop hangs. -/
def stalling : World := (amended.obey (.converge, [.task 0])).getD amended

/-- The deadline has struck. -/
def outdated : World := (cuttingOff.foldlM move { stalling with now := cutoff }).getD stalling

/-- **A change may outlive the attempt that made it.** The attempt for the shop has failed, and the
registry of the pass is empty; but its load balancer is there. Nor does the entry that a pass
keeps tell what the provider has: the spec of the shop is the new one, and its load balancer still
has the old one. -/
theorem created_and_forgotten :
    (∃ es report, Runs .any opening es forgotten ∧
      forgotten.operator.yield = some (.report report) ∧ report.failed = 1 ∧
      forgotten.state.registry.isEmpty = true ∧ opening.rig.inventory.isEmpty = true ∧
      forgotten.rig.inventory.size = 1) ∧
    ∃ es report r lb, Runs .any opening es outdated ∧
      outdated.operator.yield = some (.report report) ∧ report.failed = 1 ∧
      outdated.state.registry.get? Sample.shop = some r ∧
      Change.lookUp outdated.rig.inventory r = some lb ∧ r.desired ≠ some lb.spec := by
  constructor
  · have hunheard : Runs .any opening [] unheard := .happen .start (.publication trivial)
    have hpass : unheard.obey (.converge, [.task 0, .attempt 0 Sample.shop,
        .attempt 0 Sample.shop]) = some forgetting := rfl
    have hmoves : cuttingOff.foldlM move { forgetting with now := cutoff } = some forgotten := rfl
    obtain ⟨es, hruns⟩ := hunheard.linger ⟨.head _, rfl, rfl⟩ hpass (Nat.zero_le _) hmoves
    exact ⟨es, _, hruns, rfl, rfl, rfl, rfl, rfl⟩
  · have hfirst : opening.obey Sample.shopPass = some openedOnce := rfl
    obtain ⟨es, hopened⟩ := Runs.obey .start ⟨.head _, rfl, rfl⟩ hfirst
    have hshown : Runs .any opening (es ++ []) { openedOnce with view := amended.view } :=
      hopened.happen (.view trivial)
    have halters : Surroundings.any.alters openedOnce.rig amended.rig := trivial
    have hamended : Runs .any opening (es ++ [] ++ []) amended := hshown.happen (.rig halters)
    have hpass : amended.obey (.converge, [.task 0]) = some stalling := rfl
    have hmoves : cuttingOff.foldlM move { stalling with now := cutoff } = some outdated := rfl
    obtain ⟨es', hruns⟩ := hamended.linger ⟨.head _, rfl, rfl⟩ hpass (Nat.zero_le _) hmoves
    obtain ⟨r, hentry, hnew⟩ : ∃ r, outdated.state.registry.get? Sample.shop = some r ∧
        r.desired.map (·.targets) = some ["i-0123456789"] := ⟨_, rfl, rfl⟩
    have hfound : ((outdated.state.registry.get? Sample.shop).bind
        (Change.lookUp outdated.rig.inventory)).map (·.spec.targets) = some [] := by
      decide +kernel
    rw [hentry, Option.bind_some] at hfound
    obtain ⟨lb, hlb, hold⟩ := Option.map_eq_some_iff.1 hfound
    refine ⟨es', _, r, lb, hruns, rfl, rfl, hentry, hlb, fun hsame => ?_⟩
    rw [hsame, Option.map_some, hold] at hnew
    cases hnew

end World

end IngressBalancer
