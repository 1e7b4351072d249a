import IngressBalancer.Proofs.Data.SortedMap
import IngressBalancer.Proofs.World.Surroundings
import Mathlib.Data.List.Forall2
/-!
# What attempts do

The attempts of a pass by what they need of the world: a rig, the moment and
how long publications take. Calling the provider for a batch
(`Rig.openAll`) and each move of an attempt (`Attempt.Moves`) change nothing
but the rig and the records, and `World.callAll` and `World.advance` do just
that (`callAll_eq`, `moves_of_advance`).
-/

namespace IngressBalancer

/-- How a call of the provider is recorded. -/
def Call.of (now : Instant) (r : Resource) : Call := ⟨now, r.id, r.isRemoval, r.isLive⟩

namespace Rig

/-- The first moment of an attempt: it waits at the gate in use, or meets a fault. -/
def openOne (now deadline : Instant) (r : Resource) (g : Rig) : Attempt × Rig :=
  if g.gates.isEmpty then (⟨r, deadline, World.progressOf now (g.meet r.id).1⟩, (g.meet r.id).2)
  else (⟨r, deadline, .atGate (g.gates.length - 1)⟩, g)

/-- The same for each resource of a batch, one after the other. -/
def openAll (now deadline : Instant) : List Resource → Rig → List Attempt × Rig
  | [], g => ([], g)
  | r :: rs, g =>
    let first := openOne now deadline r g
    let rest := openAll now deadline rs first.2
    (first.1 :: rest.1, rest.2)

end Rig

/-- One move of an attempt at a moment, with how long publications take; from a rig to a rig. -/
inductive Attempt.Moves (now : Instant) (publication : Option Span) :
    Rig → Attempt → Rig → Attempt → Prop
  /-- The deadline strikes. An attempt that has decided is past it, and one that can go on
does. -/
  | late {g : Rig} {a : Attempt} (h : a.deadline ≤ now)
    (hopen : ∀ o, a.progress ≠ .done o) (hundecided : ∀ c, a.progress ≠ .decided c)
    (hwaiting : ∀ conduct t, a.progress = .waiting conduct t → now < t)
    (hpublishing : ∀ c t, a.progress = .reporting c (some t) → now < t) :
    Moves now publication g a g { a with progress := .done (.error (.timeout a.resource.id)) }
  /-- It passes the gate and meets a fault. -/
  | meet {g : Rig} {a : Attempt} {gate : Nat} (h : a.progress = .atGate gate) :
    Moves now publication g a (g.meet a.resource.id).2
      { a with progress := World.progressOf now (g.meet a.resource.id).1 }
  /-- The fault strikes. -/
  | strike {g : Rig} {a : Attempt} {conduct : Conduct} {wake : Instant}
    {o : Except Failure Resource} (h : a.progress = .waiting conduct wake)
    (ho : conduct.outcome? a.resource = some o) :
    Moves now publication g a g { a with progress := .done o }
  /-- It looks at the inventory and decides. -/
  | look {g : Rig} {a : Attempt} {conduct : Conduct} {wake : Instant}
    (h : a.progress = .waiting conduct wake) (ho : conduct.outcome? a.resource = none) :
    Moves now publication g a g
      { a with progress := .decided (.plan g.region g.inventory a.resource) }
  /-- It makes the change, and waits until that is published, or is done where there is nothing
to publish. -/
  | change {g : Rig} {a : Attempt} {c : Change} {p : Progress} (h : a.progress = .decided c)
    (hp : (c.event? a.resource.id ≠ none ∧ p = .reporting c (publication.map (now + ·))) ∨
      (c.event? a.resource.id = none ∧ p = .done (c.outcome a.resource))) :
    Moves now publication g a { g with inventory := c.applyTo g.inventory }
      { a with progress := p }
  /-- The change is published. -/
  | published {g : Rig} {a : Attempt} {c : Change} {wake : Instant}
    (h : a.progress = .reporting c (some wake)) (hwake : wake ≤ now) :
    Moves now publication g a g { a with progress := .done (c.outcome a.resource) }

/-! ## Ids -/

/-- A change leaves a resource with the id that it had. -/
theorem Change.id_of_outcome {c : Change} {r r' : Resource} (h : c.outcome r = .ok r') :
    r'.id = r.id := by
  cases c <;> cases h <;> rfl

/-- So does a fault. -/
theorem Conduct.id_of_outcome? {conduct : Conduct} {r r' : Resource}
    (h : conduct.outcome? r = some (.ok r')) : r'.id = r.id := by
  cases conduct <;> cases h <;> rfl

namespace Attempt

variable {now deadline : Instant} {publication : Option Span} {g g' : Rig} {a a' : Attempt}

/-- Whether what an attempt has succeeded with, if it has, has the id that it is for. -/
def KeepsId (a : Attempt) : Prop := ∀ r, a.progress = .done (.ok r) → r.id = a.resource.id

theorem progressOf_ne_done (now : Instant) (f : Fault) (o : Except Failure Resource) :
    World.progressOf now f ≠ .done o := by
  unfold World.progressOf
  split <;> simp

/-- An attempt keeps its resource. -/
theorem Moves.resource_eq (h : a.Moves now publication g g' a') : a'.resource = a.resource := by
  cases h <;> rfl

/-- A move succeeds with the id of the resource, if it does. -/
theorem Moves.keepsId (h : a.Moves now publication g g' a') : a'.KeepsId := by
  intro r hr
  rw [h.resource_eq]
  cases h with
  | late => cases hr
  | meet => exact absurd hr (progressOf_ne_done _ _ _)
  | strike _ ho =>
    cases hr
    exact Conduct.id_of_outcome? ho
  | look => cases hr
  | change _ hp =>
    rcases hp with ⟨-, rfl⟩ | ⟨-, rfl⟩
    · cases hr
    · exact Change.id_of_outcome (Progress.done.inj hr)
  | published => exact Change.id_of_outcome (Progress.done.inj hr)

end Attempt

/-- Whether an attempt has not been at the provider yet, and will meet a conduct of some kind when
its time comes. -/
def Progress.IsFresh (P : Conduct → Prop) : Progress → Prop
  | .atGate _ | .hanging => True
  | .waiting conduct _ => P conduct
  | .decided _ | .reporting .. | .done _ => False

/-- Whether every call of a rig meets a conduct of some kind. -/
structure Rig.Conducts (P : Conduct → Prop) (g : Rig) : Prop where
  provide : P .provide
  fault : ∀ id f, g.faults.get? id = some f → P f.conduct

namespace Rig

variable {now deadline : Instant} {a : Attempt} {g g' : Rig} {P : Conduct → Prop}

theorem Conducts.setFault (h : g.Conducts P) {id : ResourceId} {f : Option Fault}
    (hf : ∀ fault, f = some fault → P fault.conduct) : (g.setFault id f).Conducts P where
  provide := h.provide
  fault id' fault hget := by
    cases f with
    | none =>
      simp only [Rig.setFault, SortedMap.get?_erase_eq] at hget
      split at hget
      · cases hget
      · exact h.fault id' fault hget
    | some f =>
      simp only [Rig.setFault, SortedMap.get?_insert_eq] at hget
      split at hget
      · exact Option.some.inj hget ▸ hf f rfl
      · exact h.fault id' fault hget

/-- **A call meets such a conduct**, and so will the next ones. -/
theorem Conducts.meet (h : g.Conducts P) (id : ResourceId) :
    P (g.meet id).1.conduct ∧ (g.meet id).2.Conducts P := by
  unfold Rig.meet
  cases hf : g.faults.get? id with
  | none => exact ⟨h.provide, h⟩
  | some f =>
    have hfault := h.fault id f hf
    simp only
    split
    · exact ⟨hfault, h⟩
    · have hset : (g.setFault id none).Conducts P := h.setFault fun _ hnone => by cases hnone
      exact ⟨h.provide, hset⟩
    · refine ⟨hfault, Conducts.setFault h fun fault hsome => ?_⟩
      split at hsome
      · cases hsome
      · exact Option.some.inj hsome ▸ hfault

theorem isFresh_progressOf {f : Fault} (h : P f.conduct) :
    (World.progressOf now f).IsFresh P := by
  unfold World.progressOf
  split
  · trivial
  · exact h

/-- **The attempts of a pass set out fresh.** -/
theorem Conducts.openAll (h : g.Conducts P) (now deadline : Instant) (rs : List Resource) :
    (Rig.openAll now deadline rs g).2.Conducts P ∧
      ∀ a ∈ (Rig.openAll now deadline rs g).1, a.progress.IsFresh P := by
  induction rs generalizing g with
  | nil => exact ⟨h, fun a ha => absurd ha List.not_mem_nil⟩
  | cons r rs ih =>
    have hfirst : (openOne now deadline r g).2.Conducts P ∧
        (openOne now deadline r g).1.progress.IsFresh P := by
      unfold openOne
      split
      · exact ⟨(h.meet r.id).2, isFresh_progressOf (h.meet r.id).1⟩
      · exact ⟨h, trivial⟩
    obtain ⟨hrest, hfresh⟩ := ih hfirst.1
    refine ⟨hrest, fun a ha => ?_⟩
    rcases List.mem_cons.1 ha with rfl | ha
    · exact hfirst.2
    · exact hfresh a ha

/-- Meeting a fault uses it up at most. -/
theorem meet_eq (g : Rig) (id : ResourceId) :
    (g.meet id).2 = { g with faults := (g.meet id).2.faults } := by
  unfold meet
  split
  · rfl
  · split <;> rfl

/-- So does calling the provider for a batch. -/
theorem openAll_eq (rs : List Resource) (g : Rig) : (openAll now deadline rs g).2 =
    { g with faults := (openAll now deadline rs g).2.faults } := by
  induction rs generalizing g with
  | nil => rfl
  | cons r rs ih =>
    have hfirst : (openOne now deadline r g).2 =
        { g with faults := (openOne now deadline r g).2.faults } := by
      unfold openOne
      split
      · exact meet_eq g r.id
      · rfl
    rw [openAll, ih, hfirst]

theorem inventory_openAll (rs : List Resource) (g : Rig) :
    (openAll now deadline rs g).2.inventory = g.inventory := by
  rw [openAll_eq]

/-- Where there are no faults and no gates, every attempt may look at the inventory at once. -/
theorem openAll_of_clear (hfaults : g.faults = ∅) (hgates : g.gates = []) (rs : List Resource) :
    openAll now deadline rs g =
      (rs.map fun r => ⟨r, deadline, .waiting .provide now⟩, g) := by
  have hone : ∀ r, openOne now deadline r g = (⟨r, deadline, .waiting .provide now⟩, g) := by
    intro r
    have hmeet : g.meet r.id = (⟨.provide, 0, none⟩, g) := by
      rw [meet, hfaults]
      rfl
    simp only [openOne, hgates, List.isEmpty_nil, if_true, hmeet]
    rfl
  induction rs with
  | nil => rfl
  | cons r rs ih => rw [openAll, hone, ih, List.map_cons]

/-- A pass opens one attempt for each resource of its batch. -/
theorem map_resource_openAll (rs : List Resource) (g : Rig) :
    (openAll now deadline rs g).1.map (·.resource) = rs := by
  induction rs generalizing g with
  | nil => rfl
  | cons r rs ih =>
    have hfirst : (openOne now deadline r g).1.resource = r := by
      unfold openOne
      split <;> rfl
    rw [openAll, List.map_cons, ih, hfirst]

/-- None of them is done yet. -/
theorem ne_done_of_mem_openAll (rs : List Resource) (g : Rig)
    (ha : a ∈ (openAll now deadline rs g).1) (o : Except Failure Resource) :
    a.progress ≠ .done o := by
  induction rs generalizing g with
  | nil => exact absurd ha List.not_mem_nil
  | cons r rs ih =>
    rcases List.mem_cons.1 ha with rfl | ha
    · unfold openOne
      split
      · exact Attempt.progressOf_ne_done _ _ _
      · simp
    · exact ih _ ha

/-- A move of an attempt sets no fault. -/
theorem Conducts.moves {publication : Option Span} {a' : Attempt} (h : g.Conducts P)
    (hm : a.Moves now publication g g' a') : g'.Conducts P := by
  cases hm with
  | meet => exact (h.meet _).2
  | change => exact ⟨h.provide, h.fault⟩
  | _ => exact h

end Rig

namespace World

variable {w w' : World} {a a' : Attempt} {r : Resource} {attempts : List Attempt}
variable {os : List Flight.Outcome}

/-! ## Calls -/

theorem call_eq (w : World) (r : Resource) :
    w.call r = ((w.rig.openOne w.now (Instant.after w.now w.settings.reconcileTimeout) r).1,
      { w with
        calls := w.calls ++ [Call.of w.now r]
        rig := (w.rig.openOne w.now (Instant.after w.now w.settings.reconcileTimeout) r).2 }) := by
  by_cases hg : w.rig.gates.isEmpty = true
  · simp only [call, Rig.openOne, if_pos hg]
    rfl
  · simp only [call, Rig.openOne, if_neg hg]
    rfl

/-- **Calling the provider for a batch** adds the calls to the record and changes the rig. -/
theorem callAll_eq (rs : List Resource) (w : World) :
    callAll rs w =
      ((w.rig.openAll w.now (Instant.after w.now w.settings.reconcileTimeout) rs).1,
      { w with
        calls := w.calls ++ rs.map (Call.of w.now)
        rig := (w.rig.openAll w.now (Instant.after w.now w.settings.reconcileTimeout) rs).2 }) := by
  induction rs generalizing w with
  | nil => simp [callAll, Rig.openAll]
  | cons r rs ih => simp [callAll, call_eq, ih, Rig.openAll]

/-- What a pass changes of the world when it sets out, but for its task. -/
def sendOff (w : World) (f : Flight) : World :=
  ({ w with
    metrics := f.countStart w.metrics
    rig := (w.rig.openAll w.now (Instant.after w.now w.settings.reconcileTimeout) f.batch).2
    calls := w.calls ++ f.batch.map (Call.of w.now) }).note f.problemEvents

/-- **A pass sets out with an attempt for each resource of its batch.** -/
theorem takeOff_eq (w : World) (t : Task) :
    let f := Flight.start w.settings w.view w.state w.now
    let deadline := Instant.after w.now w.settings.reconcileTimeout
    let attempts := (w.rig.openAll w.now deadline f.batch).1
    w.takeOff t = (w.sendOff f).put { t with activity := .converging f attempts } := by
  unfold takeOff
  simp only [callAll_eq]
  rfl

/-! ## Moves -/

/-- **A move of an attempt is one of six**, and of the world it changes the rig and the record
of events at most. -/
theorem moves_of_advance (h : w.advance a = some (a', w')) :
    a.Moves w.now w.publication w.rig w'.rig a' ∧
      ∃ events, w' = { w with rig := w'.rig, events := events } := by
  unfold advance at h
  -- what an attempt does that is late, wherever lateness is looked for
  have hlate : ∀ {o : Option (Attempt × World)}, o = some (a', w') →
      o = (if a.deadline ≤ w.now then
        some ({ a with progress := .done (.error (.timeout a.resource.id)) }, w) else none) →
      a.deadline ≤ w.now ∧ a' = { a with progress := .done (.error (.timeout a.resource.id)) } ∧
        w' = w := by
    rintro o rfl ho
    split at ho
    · next hd =>
      cases ho
      exact ⟨hd, rfl, rfl⟩
    · cases ho
  cases hp : a.progress with
  | done o =>
    rw [hp] at h
    cases h
  | hanging =>
    rw [hp] at h
    obtain ⟨hd, rfl, rfl⟩ := hlate h rfl
    exact ⟨.late hd (by simp [hp]) (by simp [hp]) (by simp [hp]) (by simp [hp]), _, rfl⟩
  | atGate gate =>
    simp only [hp] at h
    split at h
    · cases h
      exact ⟨.meet hp, _, rfl⟩
    · obtain ⟨hd, rfl, rfl⟩ := hlate h rfl
      exact ⟨.late hd (by simp [hp]) (by simp [hp]) (by simp [hp]) (by simp [hp]), _, rfl⟩
  | waiting conduct wake =>
    simp only [hp] at h
    split at h
    · cases h
      cases ho : conduct.outcome? a.resource with
      | none => exact ⟨.look hp ho, _, rfl⟩
      | some o => exact ⟨.strike hp ho, _, rfl⟩
    · next hwake =>
      obtain ⟨hd, rfl, rfl⟩ := hlate h rfl
      refine ⟨.late hd (by simp [hp]) (by simp [hp]) (fun conduct' t hc => ?_) (by simp [hp]), _,
        rfl⟩
      rw [hp] at hc
      cases hc
      exact Nat.lt_of_not_le hwake
  | decided c =>
    simp only [hp] at h
    split at h
    · next hquiet =>
      cases h
      exact ⟨.change hp (.inr ⟨hquiet, rfl⟩), _, rfl⟩
    · next e he =>
      cases h
      exact ⟨.change hp (.inl ⟨by rw [he]; exact Option.some_ne_none e, rfl⟩), _, rfl⟩
  | reporting c wake =>
    simp only [hp] at h
    split at h
    · next hwake =>
      cases h
      obtain ⟨t, rfl, ht⟩ := (Option.any_eq_true _ _).1 hwake
      exact ⟨.published hp (of_decide_eq_true ht), _, rfl⟩
    · next hwake =>
      obtain ⟨hd, rfl, rfl⟩ := hlate h rfl
      refine ⟨.late hd (by simp [hp]) (by simp [hp]) (by simp [hp]) fun c' t hc => ?_, _, rfl⟩
      rw [hp] at hc
      cases hc
      simpa using hwake

/-! ## Outcomes -/

/-- **All attempts are done** exactly when each has an outcome, under the id of its resource. -/
theorem outcomes?_eq_some_iff : outcomes? attempts = some os ↔
    List.Forall₂ (fun a o => a.progress = .done o.2 ∧ o.1 = a.resource.id) attempts os := by
  induction attempts generalizing os with
  | nil => simp [outcomes?, eq_comm]
  | cons a as ih =>
    rw [List.forall₂_cons_left_iff]
    simp only [outcomes?, List.mapM_cons, Option.bind_eq_bind, Option.bind_eq_some_iff,
      Option.pure_def, Option.some.injEq]
    constructor
    · rintro ⟨p, hp, ps, hps, rfl⟩
      refine ⟨p, ps, ?_, ih.1 hps, rfl⟩
      split at hp
      · next o ho =>
        cases hp
        exact ⟨ho, rfl⟩
      · cases hp
    · rintro ⟨⟨id, o⟩, ps, ⟨ho, rfl⟩, hps, rfl⟩
      exact ⟨(a.resource.id, o), by rw [ho], ps, ih.2 hps, rfl⟩

theorem exists_outcomes? (h : ∀ a ∈ attempts, ∃ o, a.progress = .done o) :
    ∃ os, outcomes? attempts = some os := by
  induction attempts with
  | nil => exact ⟨[], rfl⟩
  | cons a as ih =>
    obtain ⟨o, ho⟩ := h a List.mem_cons_self
    obtain ⟨os, hos⟩ := ih fun b hb => h b (List.mem_cons_of_mem _ hb)
    exact ⟨(a.resource.id, o) :: os,
      outcomes?_eq_some_iff.2 (.cons ⟨ho, rfl⟩ (outcomes?_eq_some_iff.1 hos))⟩

/-- The outcomes stand under the ids of the attempts, in their order. -/
theorem map_fst_of_outcomes? (h : outcomes? attempts = some os) :
    os.map (·.1) = attempts.map (·.resource.id) := by
  rw [outcomes?_eq_some_iff] at h
  induction h with
  | nil => rfl
  | cons ho _ ih => rw [List.map_cons, List.map_cons, ih, ho.2]

/-- Each outcome is that of an attempt. -/
theorem exists_of_mem_outcomes? (h : outcomes? attempts = some os) {o : Flight.Outcome}
    (ho : o ∈ os) : ∃ a ∈ attempts, a.progress = .done o.2 ∧ o.1 = a.resource.id := by
  rw [outcomes?_eq_some_iff] at h
  induction h with
  | nil => exact absurd ho List.not_mem_nil
  | cons hd _ ih =>
    rcases List.mem_cons.1 ho with rfl | ho
    · exact ⟨_, List.mem_cons_self, hd⟩
    · obtain ⟨a, ha, hao⟩ := ih ho
      exact ⟨a, List.mem_cons_of_mem _ ha, hao⟩

/-- Each attempt has an outcome. -/
theorem exists_outcome_of_mem (h : outcomes? attempts = some os) (ha : a ∈ attempts) :
    ∃ o, a.progress = .done o ∧ (a.resource.id, o) ∈ os := by
  rw [outcomes?_eq_some_iff] at h
  induction h with
  | nil => exact absurd ha List.not_mem_nil
  | @cons b p as ps hd _ ih =>
    rcases List.mem_cons.1 ha with rfl | ha
    · obtain ⟨ho, hid⟩ := hd
      exact ⟨p.2, ho, by rw [← hid]; exact List.mem_cons_self⟩
    · obtain ⟨o, ho, hmem⟩ := ih ha
      exact ⟨o, ho, List.mem_cons_of_mem _ hmem⟩

end World

end IngressBalancer
