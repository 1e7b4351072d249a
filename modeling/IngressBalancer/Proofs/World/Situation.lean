import IngressBalancer.Proofs.World.Attempts
/-!
# The situation of a world

A world without its tasks and its lock: what the cluster shows, the rig, the
committed state, and the one pass that may be in the air with its attempts.
`Situation.Turn` says how a situation may turn into the next. It is small
where the world is large, so what passes and resyncs do is proved of turns;
that happenings of a world are turns of its situation is the matter of
`IngressBalancer.Proofs.World.Turns`.
-/

namespace IngressBalancer

/-- What of a world its passes and resyncs depend on and change. -/
structure Situation where
  settings : Settings
  view : View
  rig : Rig
  publication : Option Span
  now : Instant
  state : SyncState
  /-- The pass that has set out and not been committed, with its attempts. -/
  air : Option (Flight × List Attempt)
  calls : List Call

namespace Situation

/-- What a resync looks for at the provider. -/
def scope (c : Situation) : Scope := ⟨c.settings.clusterName, c.settings.stem⟩

/-- The pass that would set out now. -/
def flight (c : Situation) : Flight := .start c.settings c.view c.state c.now

/-- The attempts of that pass, and the rig after it has called the provider. -/
def opened (c : Situation) : List Attempt × Rig :=
  c.rig.openAll c.now (Instant.after c.now c.settings.reconcileTimeout) c.flight.batch

/-- A pass sets out. -/
def takeOff (c : Situation) : Situation :=
  { c with
    rig := c.opened.2
    air := some (c.flight, c.opened.1)
    calls := c.calls ++ c.flight.batch.map (Call.of c.now) }

theorem inventory_takeOff (c : Situation) : c.takeOff.rig.inventory = c.rig.inventory :=
  Rig.inventory_openAll _ _

/-- An episode is committed, and leaves nothing in the air. -/
def commit (c : Situation) (e : Episode) : Situation :=
  { c with state := e.commit c.settings c.state, air := none }

/-- From one situation to the next, with the episodes that are committed on the way. -/
inductive Turn (S : Surroundings) : Situation → List Episode → Situation → Prop
  /-- Nothing happens that matters here. -/
  | rest {c : Situation} : Turn S c [] c
  | tick {c : Situation} {t : Instant} (h : c.now ≤ t) : Turn S c [] { c with now := t }
  | view {c : Situation} {v : View} (h : S.shows v) : Turn S c [] { c with view := v }
  | publication {c : Situation} {p : Option Span} (h : S.publishes p) :
    Turn S c [] { c with publication := p }
  | rig {c : Situation} {g : Rig} (h : S.alters c.rig g) : Turn S c [] { c with rig := g }
  | takeOff {c : Situation} (h : c.air = none) : Turn S c [] c.takeOff
  | attempt {c : Situation} {f : Flight} {attempts : List Attempt} {a a' : Attempt} {g : Rig}
    (h : c.air = some (f, attempts)) (ha : a ∈ attempts)
    (hm : a.Moves c.now c.publication c.rig g a') :
    Turn S c [] { c with rig := g, air := some (f, setAttempt attempts a') }
  | answer {c : Situation} {f : Flight} {attempts : List Attempt} {a : Attempt}
    {outcome : Except Failure Resource} (h : c.air = some (f, attempts)) (ha : a ∈ attempts)
    (hopen : ∀ o, a.progress ≠ .done o) (ho : S.answers a.resource outcome) :
    Turn S c [] { c with
      air := some (f, setAttempt attempts { a with progress := .done outcome }) }
  | land {c : Situation} {f : Flight} {attempts : List Attempt} {os : List Flight.Outcome}
    (h : c.air = some (f, attempts)) (ho : World.outcomes? attempts = some os) :
    Turn S c [.pass f os c.now] (c.commit (.pass f os c.now))
  | resync {c : Situation} {discovered : List Resource} (h : c.air = none)
    (hd : c.rig.discover c.scope = .ok discovered) :
    Turn S c [.resync discovered c.now] (c.commit (.resync discovered c.now))

theorem Turn.mono {S S' : Surroundings} {c c' : Situation} {es : List Episode} (hS : S.Within S')
    (h : c.Turn S es c') : c.Turn S' es c' := by
  cases h with
  | rest => exact .rest
  | tick h => exact .tick h
  | view h => exact .view (hS.shows _ h)
  | publication h => exact .publication (hS.publishes _ h)
  | rig h => exact .rig (hS.alters _ _ h)
  | takeOff h => exact .takeOff h
  | attempt h ha hm => exact .attempt h ha hm
  | answer h ha hopen ho => exact .answer h ha hopen (hS.answers _ _ ho)
  | land h ho => exact .land h ho
  | resync h hd => exact .resync h hd

/-- Where nobody answers with another id, every turn is one among any surroundings. -/
theorem Turn.any {S : Surroundings} {c c' : Situation} {es : List Episode}
    (hS : ∀ r o, S.answers r o → Surroundings.any.answers r o) (h : c.Turn S es c') :
    c.Turn .any es c' :=
  h.mono (Surroundings.within_any hS)

/-- A turn that commits an episode does nothing else. -/
theorem Turn.eq_commit {S : Surroundings} {c c' : Situation} {e : Episode}
    (h : c.Turn S [e] c') : c' = c.commit e := by
  cases h <;> rfl

end Situation

/-! ## The attempts of a pass -/

variable {attempts : List Attempt} {a a' b : Attempt}

theorem mem_setAttempt (ha : a ∈ attempts) (hr : a'.resource = a.resource) :
    b ∈ setAttempt attempts a' ↔
      b = a' ∨ (b ∈ attempts ∧ b.resource.id ≠ a.resource.id) := by
  simp only [setAttempt, List.mem_map, hr]
  constructor
  · rintro ⟨c, hc, rfl⟩
    split
    · exact .inl rfl
    · next hne => exact .inr ⟨hc, hne⟩
  · rintro (rfl | ⟨hb, hne⟩)
    · exact ⟨a, ha, if_pos rfl⟩
    · exact ⟨b, hb, if_neg hne⟩

/-- Where there is no attempt for the resource, nothing is put. -/
theorem setAttempt_of_not_mem (h : a.resource.id ∉ attempts.map (·.resource.id)) :
    setAttempt attempts a = attempts := by
  refine (List.map_congr_left fun b hb => ?_).trans (List.map_id _)
  have hne : b.resource.id ≠ a.resource.id := fun hid => h (hid ▸ List.mem_map_of_mem hb)
  exact if_neg hne

/-- Putting an attempt in the stead of the one for its resource keeps the resources, as long as
each id has one. -/
theorem map_resource_setAttempt (hnd : (attempts.map (·.resource.id)).Nodup) (ha : a ∈ attempts)
    (hr : a'.resource = a.resource) :
    (setAttempt attempts a').map (·.resource) = attempts.map (·.resource) := by
  rw [setAttempt, List.map_map]
  refine List.map_congr_left fun b hb => ?_
  by_cases hid : b.resource.id = a'.resource.id
  · have hba : b = a := List.inj_on_of_nodup_map hnd hb ha (hid.trans (congrArg _ hr))
    rw [Function.comp_apply, if_pos hid, hr, hba]
  · simp only [Function.comp_apply, if_neg hid]

/-- The sizes of some attempts taken together. -/
def Attempt.total (size : Attempt → Nat) : List Attempt → Nat
  | [] => 0
  | a :: as => size a + total size as

/-- Putting an attempt in the stead of a larger one makes the total smaller. -/
theorem total_setAttempt_lt (size : Attempt → Nat) (hnd : (attempts.map (·.resource.id)).Nodup)
    (ha : a ∈ attempts) (hr : a'.resource = a.resource) (hlt : size a' < size a) :
    Attempt.total size (setAttempt attempts a') < Attempt.total size attempts := by
  induction attempts with
  | nil => exact absurd ha List.not_mem_nil
  | cons b bs ih =>
    rw [List.map_cons, List.nodup_cons] at hnd
    have hcons : setAttempt (b :: bs) a' =
      (if b.resource.id = a'.resource.id then a' else b) :: setAttempt bs a' := rfl
    rw [hcons, Attempt.total, Attempt.total]
    rcases List.mem_cons.1 ha with rfl | ha
    · rw [if_pos (congrArg _ hr.symm), setAttempt_of_not_mem (hr ▸ hnd.1)]
      omega
    · have hne : b.resource.id ≠ a'.resource.id := fun hid =>
        hnd.1 (hid ▸ hr ▸ List.mem_map_of_mem ha)
      have hrest := ih hnd.2 ha
      rw [if_neg hne]
      omega

end IngressBalancer
