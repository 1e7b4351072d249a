import IngressBalancer.Proofs.World.Lock
import IngressBalancer.Proofs.World.Situation
/-!
# One pass at a time

In a world that came about by itself, every stake in the lock belongs to a
task that is there for it, and the task with a pass in the air is the writer
(`World.Orderly`). So there is one pass in the air at most, nobody else
holds the lock meanwhile (`Orderly.eq_of_held`). A task may go on in any way
in which its own stake goes with it (`Orderly.put`): by asking for the lock,
by giving it back, or with the stake that it has.
-/

namespace IngressBalancer

namespace Task

/-- How a task has or wants the lock, if it does. -/
def stake? (t : Task) : Option Access :=
  match t.activity with
  | .queued e => some e.access
  | .converging .. => some .exclusive
  | .probing _ => some .shared
  | _ => none

/-- The pass of a task that has one in the air. -/
def flying (t : Task) : Option (Flight × List Attempt) :=
  match t.activity with
  | .converging f attempts => some (f, attempts)
  | _ => none

theorem flying_eq_some {t : Task} {f : Flight} {attempts : List Attempt} :
    t.flying = some (f, attempts) ↔ t.activity = .converging f attempts := by
  unfold flying
  split
  · next h => simp [h]
  · next h => simpa using fun he => h _ _ he

/-- Who has no stake in the lock has no pass in the air. -/
theorem flying_of_stake? {t : Task} (h : t.stake? = none) : t.flying = none := by
  unfold stake? at h
  unfold flying
  split at h <;> simp_all

end Task

namespace World

/-- The pass in the air. -/
def air (w : World) : Option (Flight × List Attempt) := w.tasks.findSome? Task.flying

/-- What of a world its passes and resyncs depend on and change. -/
def situation (w : World) : Situation where
  settings := w.settings
  view := w.view
  rig := w.rig
  publication := w.publication
  now := w.now
  state := w.state
  air := w.air
  calls := w.calls

/-! Parts of a situation are parts of the world. These are stated since a look into a world that a
move has made is dear. -/

theorem air_situation (w : World) : w.situation.air = w.air := rfl

theorem state_situation (w : World) : w.situation.state = w.state := rfl

theorem calls_situation (w : World) : w.situation.calls = w.calls := rfl

theorem rig_situation (w : World) : w.situation.rig = w.rig := rfl

theorem now_situation (w : World) : w.situation.now = w.now := rfl

theorem publication_situation (w : World) : w.situation.publication = w.publication := rfl

/-- Every stake in the lock belongs to a task, and passes are run by the writer. -/
structure Orderly (w : World) : Prop where
  nodup : (w.tasks.map (·.number)).Nodup
  sound : w.lock.Sound
  staked : ∀ p ∈ w.lock.stakes, ∃ t ∈ w.tasks, t.number = p.1 ∧ t.stake? = some p.2
  flies : ∀ t ∈ w.tasks, t.flying.isSome → w.lock.writer = some t.number

variable {S : Surroundings} {w w' : World} {t t' u : Task} {l : Lock}

theorem orderly_new (settings : Settings) (view : View) (rig : Rig) (monitor : Monitor) :
    (World.new settings view rig monitor).Orderly where
  nodup := by simp [World.new]
  sound h := by cases h
  staked _ h := absurd h List.not_mem_nil
  flies t ht h := by
    simp only [World.new, List.mem_singleton] at ht
    rw [ht] at h
    cases h

theorem mem_of_task? {n : Nat} (h : w.task? n = some t) : t ∈ w.tasks ∧ t.number = n :=
  ⟨List.mem_of_find?_eq_some h, by simpa using List.find?_some h⟩

theorem mem_put : u ∈ (w.put t').tasks ↔
    (u = t' ∧ ∃ v ∈ w.tasks, v.number = t'.number) ∨ (u ∈ w.tasks ∧ u.number ≠ t'.number) := by
  simp only [put, List.mem_map]
  constructor
  · rintro ⟨v, hv, rfl⟩
    split
    · next hn => exact .inl ⟨rfl, v, hv, hn⟩
    · next hn => exact .inr ⟨hv, hn⟩
  · rintro (⟨rfl, v, hv, hn⟩ | ⟨hu, hn⟩)
    · exact ⟨v, hv, if_pos hn⟩
    · exact ⟨u, hu, if_neg hn⟩

theorem map_number_put (w : World) (t' : Task) :
    (w.put t').tasks.map (·.number) = w.tasks.map (·.number) := by
  rw [put, List.map_map]
  refine List.map_congr_left fun u _ => ?_
  by_cases hn : u.number = t'.number
  · rw [Function.comp_apply, if_pos hn, hn]
  · rw [Function.comp_apply, if_neg hn]

/-! ## The lock and the air -/

namespace Orderly

theorem eq_of_number (ho : w.Orderly) (ht : t ∈ w.tasks) (hu : u ∈ w.tasks)
    (h : t.number = u.number) : t = u :=
  List.inj_on_of_nodup_map ho.nodup ht hu h

/-- A task is found by its number. -/
theorem task?_of_mem (ho : w.Orderly) (ht : t ∈ w.tasks) : w.task? t.number = some t :=
  find?_key_eq_some ho.nodup ht

/-- A stake under the number of a task is its own. -/
theorem stake?_of_mem (ho : w.Orderly) (ht : t ∈ w.tasks) {a : Access}
    (h : (t.number, a) ∈ w.lock.stakes) : t.stake? = some a := by
  obtain ⟨u, hu, hn, hs⟩ := ho.staked _ h
  exact ho.eq_of_number hu ht hn ▸ hs

/-- Who holds the lock to write is the writer. -/
theorem writer_of_held (ho : w.Orderly) (ht : t ∈ w.tasks)
    (h : w.lock.isHeldBy t.number = true) (hs : t.stake? = some .exclusive) :
    w.lock.writer = some t.number := by
  obtain ⟨a, ha⟩ := Lock.isHeldBy_iff.1 h
  have hstake := ho.stake?_of_mem ht (Lock.mem_stakes_of_mem_holders ha)
  rw [hs] at hstake
  cases hstake
  rcases Lock.mem_holders.1 ha with ⟨hw, -⟩ | ⟨-, hne⟩
  · exact hw
  · cases hne

/-- **While a pass is in the air, nobody but its task holds the lock.** -/
theorem eq_of_held (ho : w.Orderly) (ht : t ∈ w.tasks) (hf : t.flying.isSome)
    (hu : u ∈ w.tasks) (h : w.lock.isHeldBy u.number = true) : u = t := by
  obtain ⟨a, ha⟩ := Lock.isHeldBy_iff.1 h
  exact ho.eq_of_number hu ht (Lock.eq_of_mem_holders ho.sound (ho.flies t ht hf) ha)

/-- Two tasks with a pass in the air are one. -/
theorem eq_of_flying (ho : w.Orderly) (ht : t ∈ w.tasks) (hf : t.flying.isSome)
    (hu : u ∈ w.tasks) (hg : u.flying.isSome) : u = t := by
  have hw := ho.flies t ht hf
  rw [ho.flies u hu hg] at hw
  exact ho.eq_of_number hu ht (Option.some.inj hw)

theorem air_of_flying (ho : w.Orderly) (ht : t ∈ w.tasks) {x : Flight × List Attempt}
    (h : t.flying = some x) : w.air = some x := by
  cases ha : w.air with
  | none =>
    rw [air, List.findSome?_eq_none_iff] at ha
    rw [ha t ht] at h
    cases h
  | some y =>
    obtain ⟨u, hu, hy⟩ := List.exists_of_findSome?_eq_some ha
    rw [← ho.eq_of_flying hu (by rw [hy]; rfl) ht (by rw [h]; rfl), h] at hy
    exact hy.symm

theorem air_eq_none (h : ∀ u ∈ w.tasks, u.flying = none) : w.air = none :=
  List.findSome?_eq_none_iff.2 h

/-- Who holds the lock without a pass in the air is alone with that. -/
theorem air_eq_none_of_held (ho : w.Orderly) (ht : t ∈ w.tasks)
    (h : w.lock.isHeldBy t.number = true) (hf : t.flying = none) : w.air = none := by
  refine air_eq_none fun u hu => ?_
  cases hu' : u.flying with
  | none => rfl
  | some x =>
    rw [ho.eq_of_held hu (by rw [hu']; rfl) ht h, hu'] at hf
    cases hf

/-! ## One task at a time -/

theorem congr (ho : w.Orderly) (hl : w'.lock = w.lock) (ht : w'.tasks = w.tasks) :
    w'.Orderly where
  nodup := by rw [ht]; exact ho.nodup
  sound := by rw [hl]; exact ho.sound
  staked := by rw [hl, ht]; exact ho.staked
  flies := by rw [hl, ht]; exact ho.flies

/-- A task goes on, and the lock changes with it: its own stake is that of what it goes on to,
and all others keep theirs. -/
theorem put (ho : w.Orderly) (ht : t ∈ w.tasks) (hn : t'.number = t.number) (hs : l.Sound)
    (hmine : ∀ a, (t.number, a) ∈ l.stakes → t'.stake? = some a)
    (hothers : ∀ p ∈ l.stakes, p.1 ≠ t.number → p ∈ w.lock.stakes)
    (hwriter : ∀ n, n ≠ t.number → w.lock.writer = some n → l.writer = some n)
    (hfly : t'.flying.isSome → l.writer = some t.number) :
    (({ w with lock := l }).put t').Orderly where
  nodup := by rw [map_number_put]; exact ho.nodup
  sound := hs
  staked p hp := by
    by_cases hpn : p.1 = t.number
    · refine ⟨t', mem_put.2 (.inl ⟨rfl, t, ht, hn.symm⟩), hn.trans hpn.symm, hmine p.2 ?_⟩
      rw [← hpn]
      exact hp
    · obtain ⟨u, hu, hun, hus⟩ := ho.staked p (hothers p hp hpn)
      exact ⟨u, mem_put.2 (.inr ⟨hu, by rw [hun, hn]; exact hpn⟩), hun, hus⟩
  flies u hu hf := by
    rcases mem_put.1 hu with ⟨rfl, -⟩ | ⟨hu, hne⟩
    · rw [hn]
      exact hfly hf
    · exact hwriter u.number (by rw [← hn]; exact hne) (ho.flies u hu hf)

/-- A task goes on with the stake that it has. -/
theorem put_same (ho : w.Orderly) (ht : t ∈ w.tasks) (hn : t'.number = t.number)
    (hs : t'.stake? = t.stake?) (hfly : t'.flying.isSome → w.lock.writer = some t.number) :
    (w.put t').Orderly :=
  ho.put ht hn ho.sound (fun _ h => hs.trans (ho.stake?_of_mem ht h)) (fun _ h _ => h)
    (fun _ _ h => h) hfly

/-- A task asks for the lock. -/
theorem ask (ho : w.Orderly) (ht : t ∈ w.tasks) (hn : t'.number = t.number)
    (hs : t.stake? = none) (e : Errand) : (w.ask t' e).Orderly := by
  refine ho.put ht hn (Lock.sound_request ho.sound) (fun a ha => ?_) (fun p hp hpn => ?_)
    (fun _ _ h => Lock.writer_request h) fun h => by cases h
  · rcases Lock.mem_stakes_request.1 ha with h | h
    · rw [(Prod.mk.inj h).2]
      rfl
    · rw [ho.stake?_of_mem ht h] at hs
      cases hs
  · rcases Lock.mem_stakes_request.1 hp with rfl | h
    · exact absurd hn hpn
    · exact h

/-- A task without a stake has given the lock back. -/
theorem release (ho : w.Orderly) (ht : t ∈ w.tasks) (hn : t'.number = t.number)
    (hs : t'.stake? = none) :
    (({ w with lock := w.lock.release t.number }).put t').Orderly := by
  refine ho.put ht hn (Lock.sound_release ho.sound) (fun a ha => ?_)
    (fun p hp _ => (Lock.mem_stakes_release.1 hp).2) (fun _ hne h => Lock.writer_release h hne)
    fun h => ?_
  · exact absurd rfl (Lock.mem_stakes_release.1 ha).1
  · rw [Task.flying_of_stake? hs] at h
    cases h

/-- A task gives the lock back and asks for it again. -/
theorem releaseAsk (ho : w.Orderly) (ht : t ∈ w.tasks) (e : Errand) :
    (({ w with lock := w.lock.release t.number }).ask t e).Orderly := by
  refine ho.put ht rfl (Lock.sound_request (Lock.sound_release ho.sound)) (fun a ha => ?_)
    (fun p hp hpn => ?_) (fun _ hne h => Lock.writer_request (Lock.writer_release h hne))
    fun h => by cases h
  · rcases Lock.mem_stakes_request.1 ha with h | h
    · cases h
      rfl
    · exact absurd rfl (Lock.mem_stakes_release.1 h).1
  · rcases Lock.mem_stakes_request.1 hp with rfl | h
    · exact absurd rfl hpn
    · exact (Lock.mem_stakes_release.1 h).2

end Orderly

end World

end IngressBalancer
