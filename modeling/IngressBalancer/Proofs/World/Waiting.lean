import IngressBalancer.Proofs.World.Roles
/-!
# Whom a task waits for

Along every run the lock knows everybody who has or wants it, and nobody
waits for it while it is free (`World.Served`). So whoever waits does so for
somebody else who holds it (`Served.exists_holder`). A pass that has the lock
keeps it until it is committed (`keeps_or_lands`).
-/

namespace IngressBalancer

/-- Whether a role is there to run passes, and for nothing else. -/
def Role.RunsPasses (r : Role) : Prop := r = .update ∨ r = .driver

theorem Role.RunsPasses.ne_operator {r : Role} (h : r.RunsPasses) : r ≠ .operator := by
  rcases h with rfl | rfl <;> exact Role.noConfusion

/-- Who runs passes needs the lock for himself. -/
theorem Task.Fits.of_runsPasses {t : Task} {a : Access} (ht : t.Fits) (hr : t.role.RunsPasses)
    (ha : t.stake? = some a) : a = .exclusive ∧
      (t.activity = .queued .converge ∨ ∃ f attempts, t.activity = .converging f attempts) := by
  cases hact : t.activity with
  | queued e =>
    obtain rfl : e = .converge := by
      rcases hr with hr | hr <;> simpa [Task.Fits, hact, hr, Role.errands] using ht
    exact ⟨by simpa [Task.stake?, hact, Errand.access] using ha.symm, .inl rfl⟩
  | converging f attempts =>
    exact ⟨by simpa [Task.stake?, hact] using ha.symm, .inr ⟨f, attempts, rfl⟩⟩
  | probing wake => rcases hr with hr | hr <;> simp [Task.Fits, hact, hr, Role.errands] at ht
  | _ => simp [Task.stake?, hact] at ha

namespace Lock.Deals

variable {l l' : Lock} {t u : Task} {n : Nat} {a : Access} {p : Nat × Access}

/-- Who goes on has the stake that it has or wants. -/
theorem mem_stakes_own (h : l.Deals t u l')
    (hold : ∀ a, t.stake? = some a → (t.number, a) ∈ l.stakes) (ha : u.stake? = some a) :
    (t.number, a) ∈ l'.stakes := by
  cases h with
  | keeps hs => exact hold a (hs ▸ ha)
  | asks _ hs =>
    rw [hs] at ha
    cases ha
    exact mem_stakes_request.2 (.inl rfl)
  | gives hs =>
    rw [hs] at ha
    cases ha
  | exchanges _ hs =>
    rw [hs] at ha
    cases ha
    exact mem_stakes_request.2 (.inl rfl)

/-- All others keep theirs. -/
theorem mem_stakes_other (h : l.Deals t u l') (hne : p.1 ≠ t.number) (hp : p ∈ l.stakes) :
    p ∈ l'.stakes := by
  cases h with
  | keeps => exact hp
  | asks => exact mem_stakes_request.2 (.inr hp)
  | gives => exact mem_stakes_release.2 ⟨hne, hp⟩
  | exchanges => exact mem_stakes_request.2 (.inr (mem_stakes_release.2 ⟨hne, hp⟩))

theorem busy (h : l.Deals t u l') (hb : l.Busy) : l'.Busy := by
  cases h with
  | keeps => exact hb
  | gives => exact busy_release
  | _ => exact busy_request

/-- A writer keeps the lock, unless it is the writer who gives it back. -/
theorem writer (h : l.Deals t u l') (hw : l.writer = some n) : l'.writer = some n ∨
    (t.number = n ∧ (u.stake? = none ∨ t.stake? = some .shared)) := by
  cases h with
  | keeps => exact .inl hw
  | asks => exact .inl (writer_request hw)
  | gives hs =>
    by_cases hn : n = t.number
    · exact .inr ⟨hn.symm, .inl hs⟩
    · exact .inl (writer_release hw hn)
  | exchanges hs =>
    by_cases hn : n = t.number
    · exact .inr ⟨hn.symm, .inr hs⟩
    · exact .inl (writer_request (writer_release hw hn))

end Lock.Deals

namespace World

variable {S : Surroundings} {w w' w₀ : World} {t u x : Task} {es : List Episode} {e : Errand}
variable {settings : Settings} {view : View} {rig : Rig} {monitor : Monitor}

/-- Whether the lock knows all who have or want it, and nobody waits for it in vain. -/
structure Served (w : World) : Prop where
  staked : ∀ t ∈ w.tasks, ∀ a, t.stake? = some a → (t.number, a) ∈ w.lock.stakes
  busy : w.lock.Busy

theorem served_new : (World.new settings view rig monitor).Served where
  staked t ht a ha := by
    rw [List.mem_singleton.1 ht] at ha
    cases ha
  busy h := absurd rfl h

theorem Served.happen (hs : w.Served) (h : w.Happens S es w') : w'.Served := by
  cases changes_of_happens h with
  | rest htasks hlock =>
    constructor
    · rw [htasks, hlock]
      exact hs.staked
    · rw [hlock]
      exact hs.busy
  | spawn role hw =>
    rw [hw]
    refine ⟨fun v hv a ha => ?_, hs.busy⟩
    rcases List.mem_append.1 hv with hv | hv
    · exact hs.staked v hv a ha
    · rw [List.mem_singleton.1 hv] at ha
      cases ha
  | one ht hb htasks hlock =>
    refine ⟨fun v hv a ha => ?_, hlock.busy hs.busy⟩
    rw [htasks] at hv
    rcases mem_put.1 hv with ⟨rfl, -⟩ | ⟨hv, hne⟩
    · rw [hb.same.1]
      exact hlock.mem_stakes_own (hs.staked _ ht) ha
    · rw [hb.same.1] at hne
      exact hlock.mem_stakes_other hne (hs.staked v hv a ha)

theorem Runs.served (hs : w₀.Served) (h : Runs S w₀ es w) : w.Served := by
  induction h with
  | start => exact hs
  | happen _ hw ih => exact ih.happen hw

/-- **Who waits for the lock does so for somebody else who holds it.** -/
theorem Served.exists_holder (hs : w.Served) (ho : w.Orderly) (ht : t ∈ w.tasks)
    (hact : t.activity = .queued e) (hno : ¬ w.lock.isHeldBy t.number = true) :
    ∃ x ∈ w.tasks, x ≠ t ∧ ∃ a, x.stake? = some a ∧ (x.number, a) ∈ w.lock.holders := by
  have hmine : (t.number, e.access) ∈ w.lock.stakes :=
    hs.staked t ht _ (by simp [Task.stake?, hact])
  have hwaits : (t.number, e.access) ∈ w.lock.queue :=
    (List.mem_append.1 hmine).resolve_left fun hheld => hno (Lock.isHeldBy_iff.2 ⟨_, hheld⟩)
  obtain ⟨⟨n, a⟩, hholds⟩ := List.exists_mem_of_ne_nil _ (hs.busy (List.ne_nil_of_mem hwaits))
  obtain ⟨x, hx, rfl, ha⟩ := ho.staked _ (Lock.mem_stakes_of_mem_holders hholds)
  refine ⟨x, hx, fun hxt => hno ?_, a, ha, hholds⟩
  rw [← hxt]
  exact Lock.isHeldBy_iff.2 ⟨a, hholds⟩

/-- Who holds the lock to run a pass has it alone. -/
theorem Orderly.writer_of_holder (ho : w.Orderly) (hf : w.Fit) (hx : x ∈ w.tasks)
    (hr : x.role.RunsPasses) {a : Access} (h : (x.number, a) ∈ w.lock.holders) :
    w.lock.writer = some x.number := by
  have ha : x.stake? = some a := ho.stake?_of_mem hx (Lock.mem_stakes_of_mem_holders h)
  obtain ⟨rfl, -⟩ := (hf x hx).of_runsPasses hr ha
  rcases Lock.mem_holders.1 h with ⟨hw, -⟩ | ⟨-, hne⟩
  · exact hw
  · cases hne

/-- **A pass that has the lock keeps it until it is committed.** -/
theorem keeps_or_lands (ho : w.Orderly) (hf : w.Fit) (hx : x ∈ w.tasks) (hr : x.role.RunsPasses)
    (hw : w.lock.writer = some x.number) (h : w.Happens S es w') :
    w'.lock.writer = some x.number ∨ ∃ f os, w' = w.land x f os := by
  cases changes_of_happens h with
  | rest _ hlock => exact .inl (hlock ▸ hw)
  | spawn role hspawn =>
    rw [hspawn]
    exact .inl hw
  | @one t u ht hb _ hlock =>
    rcases hlock.writer hw with hw' | ⟨hn, hgone⟩
    · exact .inl hw'
    obtain rfl : t = x := ho.eq_of_number ht hx hn
    have hholds : (t.number, .exclusive) ∈ w.lock.holders := Lock.mem_holders.2 (.inl ⟨hw, rfl⟩)
    have hstake : t.stake? = some .exclusive :=
      ho.stake?_of_mem hx (Lock.mem_stakes_of_mem_holders hholds)
    have hnone : u.stake? = none := hgone.resolve_right fun hshared => by
      rw [hstake] at hshared
      cases hshared
    have hin : t.role ≠ .operator := hr.ne_operator
    obtain ⟨-, hact | ⟨f, attempts, hact⟩⟩ := (hf t hx).of_runsPasses hr hstake
    · -- it has only just set out
      simp [Task.stake?, (hb.of_converge hin hact).2] at hnone
    · rcases hb.of_converging hin hact with ⟨attempts', hact'⟩ | ⟨⟨os, hland⟩, -⟩
      · simp [Task.stake?, hact'] at hnone
      · exact .inr ⟨f, os, hland⟩

end World

end IngressBalancer
