import IngressBalancer.Proofs.World.Flights
import IngressBalancer.World.Operator
/-!
# What readers see

Among whatever surroundings, the state of a world is the one that its
episodes have committed, one whole pass or resync after the other, and what
a reader gets is the state after some of them (`reads_committed`). While a
pass is in the air no reader holds the lock, so there is nothing in between
to be seen.
-/

namespace IngressBalancer

namespace World

variable {settings : Settings} {view : View} {rig : Rig} {monitor : Monitor}
variable {w w' : World} {es es' : List Episode} {s : SyncState} {t t' u : Task} {y : Yield}

/-! ## What readers got -/

/-- Whether somebody got a state as the answer to an order. -/
def HasRead (w : World) (s : SyncState) : Prop := ∃ t ∈ w.tasks, t.yield = some (.state s)

/-- A task goes on without having read another state than that of its world. -/
def Reads (w : World) (t t' : Task) : Prop :=
  ∀ s, t'.yield = some (.state s) → t.yield = some (.state s) ∨ s = w.state

theorem hasRead_of_tasks (ht : t ∈ w.tasks) (hr : Reads w t t')
    (htasks : w'.tasks = (w.put t').tasks) (h : w'.HasRead s) : w.HasRead s ∨ s = w.state := by
  obtain ⟨u, hu, hs⟩ := h
  rw [htasks] at hu
  rcases mem_put.1 hu with ⟨rfl, -⟩ | ⟨hu, -⟩
  · exact (hr s hs).imp_left fun hs => ⟨t, ht, hs⟩
  · exact .inl ⟨u, hu, hs⟩

/-- Who finishes an errand has read what it yielded at most. -/
theorem exists_task_finish {w₁ : World} (h : w' = w₁.finish t y) (htasks : w₁.tasks = w.tasks)
    (hy : ∀ s, y = .state s → s = w.state) :
    ∃ t', Reads w t t' ∧ w'.tasks = (w.put t').tasks := by
  obtain ⟨u, -, -, hu, hw⟩ := finish_eq w₁ t y
  refine ⟨u, fun s hs => ?_, by rw [h, hw, put, put, htasks]⟩
  rcases hu with hu | hu
  · exact .inl (hu ▸ hs)
  · exact .inr (hy s (Option.some.inj (hu.symm.trans hs)))

/-- **A task that reads the state reads that of its world.** -/
theorem exists_task_of_moveTask (h : w.moveTask t = some w') :
    ∃ t', Reads w t t' ∧ w'.tasks = (w.put t').tasks := by
  have hput : ∀ u : Task, w'.tasks = (w.put u).tasks → u.yield = t.yield →
      ∃ t', Reads w t t' ∧ w'.tasks = (w.put t').tasks := fun u hu hy =>
    ⟨u, fun s hs => .inl (hy ▸ hs), hu⟩
  cases moves_of_moveTask h with
  | @goes u signal hn hy hs hs' => exact hput u rfl hy
  | @asks u e hn hy hs => exact hput { u with activity := .queued e } rfl hy
  | takesOff hact hheld =>
    refine hput { t with
      activity := .converging w.situation.flight w.situation.opened.1 } ?_ rfl
    unfold takeOff
    simp only [callAll_eq]
    rfl
  | resyncs hact hheld =>
    unfold resync
    split <;> exact exists_task_finish rfl rfl (by simp)
  | inspects hact =>
    unfold inspect
    split
    · split
      · exact ⟨{ t with activity := .queued .converge }, fun s hs => .inl hs, rfl⟩
      · exact exists_task_finish rfl rfl (by simp)
    all_goals exact exists_task_finish rfl rfl (by simp)
  | probes hact => exact hput { t with activity := .probing (w.now + w.monitor.span) } rfl rfl
  | lands hact hos => exact exists_task_finish rfl rfl (by simp)
  | reports hact => exact exists_task_finish rfl rfl (by simp)

/-- A move of an attempt leaves the yield of its task alone. -/
theorem exists_task_of_moveAttempt {id : ResourceId} (h : w.moveAttempt t id = some w') :
    ∃ t', t'.yield = t.yield ∧ w'.tasks = (w.put t').tasks := by
  obtain ⟨f, _, attempts', _, _, -, rfl⟩ := eq_of_moveAttempt h
  exact ⟨{ t with activity := .converging f attempts' }, rfl, rfl⟩

theorem hasRead_of_happens {S : Surroundings} (h : w.Happens S es w') (hs : w'.HasRead s) :
    w.HasRead s ∨ s = w.state := by
  have hput : ∀ {t : Task} (u : Task), t ∈ w.tasks → (u.yield = t.yield ∨ u.yield = none) →
      w'.tasks = (w.put u).tasks → w.HasRead s ∨ s = w.state := by
    intro t u ht hy htasks
    refine hasRead_of_tasks ht (fun s' hs' => ?_) htasks hs
    rcases hy with hy | hy
    · exact .inl (hy ▸ hs')
    · rw [hy] at hs'
      cases hs'
  cases h with
  | move m h =>
    cases m with
    | task number =>
      obtain ⟨t, ht, hmove⟩ := Option.bind_eq_some_iff.1 h
      obtain ⟨t', hr, htasks⟩ := exists_task_of_moveTask hmove
      exact hasRead_of_tasks (mem_of_task? ht).1 hr htasks hs
    | attempt number id =>
      obtain ⟨t, ht, hmove⟩ := Option.bind_eq_some_iff.1 h
      obtain ⟨t', hy, htasks⟩ := exists_task_of_moveAttempt hmove
      exact hput t' (mem_of_task? ht).1 (.inl hy) htasks
  | notify =>
    unfold notify at hs hput
    split at hs
    · next t hfind =>
      rw [hfind] at hput
      exact hput { t with activity := .woken } (List.mem_of_find?_eq_some hfind) (.inl rfl) rfl
    · exact .inl hs
  | spawn role =>
    obtain ⟨t, ht, hy⟩ := hs
    rcases List.mem_append.1 ht with ht | ht
    · exact .inl ⟨t, ht, hy⟩
    · rw [List.mem_singleton.1 ht] at hy
      cases hy
  | @order t e ht _ _ =>
    exact hput { t with yield := none, activity := .queued e } ht (.inr rfl) rfl
  | @giveUp t e ht _ _ =>
    exact hput { t with activity := .finished } ht (.inl rfl) rfl
  | @answer t f attempts a outcome ht _ _ _ _ =>
    exact hput { t with
      activity := .converging f (setAttempt attempts { a with progress := .done outcome }) }
      ht (.inl rfl) rfl
  | _ => exact .inl hs

/-- What somebody got was committed by episodes of the run, from its start on. -/
theorem Runs.committed_of_hasRead (h : Runs .any (World.new settings view rig monitor) es w)
    (hs : w.HasRead s) : ∃ es', es' <+: es ∧ Committed settings es' s := by
  induction h with
  | start =>
    obtain ⟨t, ht, hy⟩ := hs
    rw [List.mem_singleton.1 ht] at hy
    cases hy
  | @happen es es' w w' hrun hw ih =>
    rcases hasRead_of_happens hw hs with hs | rfl
    · obtain ⟨es₁, hpre, hc⟩ := ih hs
      exact ⟨es₁, hpre.trans (List.prefix_append _ _), hc⟩
    · exact ⟨es, List.prefix_append _ _, hrun.tells.committed⟩

/-- Who is at rest outside and reads the state gets it in a run that goes on from here. -/
theorem Runs.hasRead_of_readState {S : Surroundings} {w₀ : World} {within : Option Span}
    (h : Runs S w₀ es w) (hmem : w.operator ∈ w.tasks) (hrole : w.operator.role = .operator)
    (hrest : w.operator.activity = .starting ∨ w.operator.activity = .finished)
    (hs : (w.readState within).2 = some s) : ∃ es' w', Runs S w₀ es' w' ∧ w'.HasRead s := by
  have hasked := Runs.happen h (.order .inspect hmem hrole hrest)
  obtain ⟨es', hrun⟩ := runs_runFor (fun w => w.operator.yield.isSome)
    (within.map (w.now + ·)) stepBound hasked
  refine ⟨es', _, hrun, ?_⟩
  have hyield : (runFor (fun w => w.operator.yield.isSome) (within.map (w.now + ·)) stepBound
      (w.ask { w.operator with yield := none } .inspect)).operator.yield = some (.state s) := by
    unfold readState perform at hs
    simp only at hs
    split at hs
    · next hperform =>
      split at hperform
      · next hy =>
        cases hperform
        cases hs
        exact hy
      · cases hperform
    · cases hs
  generalize runFor _ _ _ _ = w₂ at hyield
  unfold operator at hyield
  cases ht : w₂.task? 0 with
  | none =>
    rw [ht] at hyield
    cases hyield
  | some t =>
    rw [ht] at hyield
    exact ⟨t, (mem_of_task? ht).1, hyield⟩

/-- **What readers see is committed.** Among whatever surroundings the state is what whole
passes and resyncs have committed, one after the other; so is what a reader got or gets, after
some of them; and while a pass is in the air, nobody but its task holds the lock. -/
theorem reads_committed (h : Runs .any (World.new settings view rig monitor) es w) :
    Committed settings es w.state ∧
    (∀ s, w.HasRead s → ∃ es', es' <+: es ∧ Committed settings es' s ∧
      s.Sound (Episode.lastPass? es') ∧ s.snapshot.Consistent) ∧
    (∀ within n, w.operator ∈ w.tasks → w.operator.role = .operator →
      (w.operator.activity = .starting ∨ w.operator.activity = .finished) →
      (w.snapshot within).2 = some n → ∃ es' s, Committed settings es' s ∧
        s.Sound (Episode.lastPass? es') ∧ n = s.snapshot ∧ n.Consistent) ∧
    ∀ t ∈ w.tasks, t.flying.isSome → ∀ u ∈ w.tasks, w.lock.isHeldBy u.number = true → u = t := by
  refine ⟨h.tells.committed, fun s hs => ?_, fun within n hmem hrole hrest hn => ?_,
    fun t ht hf u hu hheld => (h.orderly (orderly_new _ _ _ _)).eq_of_held ht hf hu hheld⟩
  · obtain ⟨es', hpre, hc⟩ := h.committed_of_hasRead hs
    exact ⟨es', hpre, hc, hc.sound, SyncState.consistent_snapshot hc.sound⟩
  · obtain ⟨s, hs, rfl⟩ := Option.map_eq_some_iff.1 hn
    obtain ⟨es₁, w₁, hrun, hread⟩ := h.hasRead_of_readState hmem hrole hrest hs
    obtain ⟨es', -, hc⟩ := hrun.committed_of_hasRead hread
    exact ⟨es', s, hc, hc.sound, rfl, SyncState.consistent_snapshot hc.sound⟩

/-- A reader after the pass gets a consistent snapshot with the shop in it. -/
theorem reads_committed_opening : ∃ es w s, Runs .any opening es w ∧ w.HasRead s ∧
    s.registry.contains Sample.shop = true ∧ s.snapshot.Consistent := by
  have h₀ : Runs .any opening [] opening := .start
  have hpass : opening.obey Sample.shopPass = some openedOnce := rfl
  obtain ⟨es₁, h₁⟩ := h₀.obey ⟨.head _, rfl, rfl⟩ hpass
  obtain ⟨w, hread, htasks⟩ : ∃ w, openedOnce.obey (.inspect, [.task 0]) = some w ∧
      w.tasks = [⟨0, .operator, .finished, some (.state openedOnce.state), 0, []⟩] := ⟨_, rfl, rfl⟩
  obtain ⟨es₂, h₂⟩ := h₁.obey ⟨.head _, rfl, rfl⟩ hread
  have hs : w.HasRead openedOnce.state := ⟨_, by rw [htasks]; exact .head _, rfl⟩
  obtain ⟨es', -, -, -, hcons⟩ := (reads_committed h₂).2.1 _ hs
  exact ⟨es₂, w, _, h₂, hs, rfl, hcons⟩

end World

end IngressBalancer
