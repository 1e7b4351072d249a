import IngressBalancer.Proofs.World.Undisturbed
/-!
# The course of an attempt

What becomes of an attempt that nobody disturbs is settled when it sets out:
by its resource, the fault that it meets, what stands under its name, the
deadline, and how long publications take (`Course`). From these its ending
can be told: what it brings, what it leaves under the name, and what it
reports (`Course.ending`). However far it has come, it is on its course
(`Progress.IsOn`), and each of its moves keeps it there (`isOn_of_advance`).
-/

namespace IngressBalancer

/-- What stands under the name of its resource after a change. -/
def Change.leaves (c : Change) (o : Option LoadBalancer) : Option LoadBalancer :=
  match c with
  | .modify lb | .create lb => some lb
  | .delete _ => none
  | .keep _ | .refuse .. | .settle => o

/-- All that the ending of an attempt depends on. -/
structure Course where
  region : String
  /-- How long it takes to publish a change; absent where that never ends. -/
  publication : Option Span
  startedAt : Instant
  deadline : Instant
  fault : Fault
  resource : Resource
  /-- What stood under the name of the resource when the attempt set out. -/
  found : Option LoadBalancer

/-- What an attempt comes to. -/
structure Ending where
  outcome : Except Failure Resource
  /-- What stands under the name of its resource. -/
  left : Option LoadBalancer
  reports : List Event

namespace Course

/-- When the fault strikes, or the provider is called. -/
def wake (k : Course) : Instant := k.startedAt + k.fault.delay

/-- The outcome of an attempt that is late. -/
def late (k : Course) : Except Failure Resource := .error (.timeout k.resource.id)

/-- The change that the attempt decides for, if it comes so far. -/
def change (k : Course) : Change :=
  .decide k.region k.resource (k.resource.liveHandle?.bind fun _ => k.found)

/-- Whether the attempt acts in time, be it the fault or the provider that does. -/
def Acts (k : Course) : Prop := k.fault.conduct ≠ .hang ∧ k.wake ≤ k.deadline

instance (k : Course) : Decidable k.Acts := inferInstanceAs (Decidable (_ ∧ _))

/-- What the attempt brings by its change: nothing where that is not published in time. -/
def brings (k : Course) : Except Failure Resource :=
  if k.change.event? k.resource.id = none ∨
      k.publication.any (fun span => k.wake + span ≤ k.deadline) = true then
    k.change.outcome k.resource
  else k.late

/-- **What the attempt comes to.** A hanging one, and one that is called too late, leaves all as
it is. So does one with a fault that strikes. Any other one makes its change, even where that is
not published in time. -/
def ending (k : Course) : Ending :=
  if k.Acts then
    match k.fault.conduct.outcome? k.resource with
    | some outcome => ⟨outcome, k.found, []⟩
    | none => ⟨k.brings, k.change.leaves k.found, (k.change.event? k.resource.id).toList⟩
  else ⟨k.late, k.found, []⟩

theorem ending_of_not_acts {k : Course} (h : ¬ k.Acts) : k.ending = ⟨k.late, k.found, []⟩ :=
  if_neg h

theorem ending_of_strikes {k : Course} {outcome : Except Failure Resource} (h : k.Acts)
    (ho : k.fault.conduct.outcome? k.resource = some outcome) :
    k.ending = ⟨outcome, k.found, []⟩ := by
  rw [ending, if_pos h, ho]

theorem ending_of_provides {k : Course} (h : k.Acts)
    (ho : k.fault.conduct.outcome? k.resource = none) :
    k.ending =
      ⟨k.brings, k.change.leaves k.found, (k.change.event? k.resource.id).toList⟩ := by
  rw [ending, if_pos h, ho]

end Course

/-- Whether an attempt that has come so far is on its course, with this under its name by now,
and with these reports so far. Until it is done, its deadline has not gone by. -/
def Progress.IsOn (k : Course) (now : Instant) (o : Option LoadBalancer) (reports : List Event) :
    Progress → Prop
  | .atGate _ => False
  | .hanging => now ≤ k.deadline ∧ k.fault.conduct = .hang ∧ o = k.found ∧ reports = []
  | .waiting conduct wake => now ≤ k.deadline ∧ now ≤ wake ∧ wake = k.wake ∧ conduct ≠ .hang ∧
      conduct = k.fault.conduct ∧ o = k.found ∧ reports = []
  | .decided c => now ≤ k.deadline ∧ now = k.wake ∧ k.Acts ∧
      k.fault.conduct.outcome? k.resource = none ∧ c = k.change ∧ o = k.found ∧ reports = []
  | .reporting c wake => now ≤ k.deadline ∧ k.Acts ∧
      k.fault.conduct.outcome? k.resource = none ∧ c.event? k.resource.id ≠ none ∧
      wake = k.publication.map (k.wake + ·) ∧ c = k.change ∧ o = k.ending.left ∧
      reports = k.ending.reports
  | .done outcome => outcome = k.ending.outcome ∧ o = k.ending.left ∧ reports = k.ending.reports

/-- An attempt on its course. -/
structure Attempt.IsOn (k : Course) (now : Instant) (o : Option LoadBalancer)
    (reports : List Event) (a : Attempt) : Prop where
  resource : a.resource = k.resource
  deadline : a.deadline = k.deadline
  progress : a.progress.IsOn k now o reports

/-- Whether an attempt can wait until a moment: it cannot move before. -/
def Attempt.CanWait (t : Instant) (a : Attempt) : Prop :=
  (∀ c, a.progress ≠ .decided c) ∧ ∀ timer ∈ World.attemptTimers a, t ≤ timer

variable {scope : Scope} {region : String} {P : Set ResourceId} {inv : Inventory}
variable {k : Course} {now t : Instant} {o : Option LoadBalancer} {reports : List Event}
variable {a a' : Attempt} {r : Resource} {seen : Option LoadBalancer} {w w' : World}

/-- What a change leaves under the name of its resource. -/
theorem Change.standing_applyTo_decide (hasks : r.Asks scope)
    (hseen : ∀ lb, seen = some lb → lb.StandsFor scope region r.id) :
    ((decide region r seen).applyTo inv).standing scope r.id =
      (decide region r seen).leaves (inv.standing scope r.id) := by
  rcases decide_cases hasks hseen with ⟨lb, hc | hc, hlb, -⟩ | ⟨lb, hc, -⟩ | ⟨lb, hc, hlb, -⟩ |
    ⟨hc, -⟩
  · rw [hc, applyTo, leaves, Inventory.standing, hlb.spec.name, SortedMap.get?_insert_self]
  · rw [hc, applyTo, leaves, Inventory.standing, hlb.spec.name, SortedMap.get?_insert_self]
  · rw [hc]
    rfl
  · rw [hc, applyTo, leaves, Inventory.standing, hlb.spec.name, SortedMap.get?_erase_self]
  · rw [hc]
    rfl

/-- A change is reported under the id of its resource. -/
theorem Change.id_of_event? {c : Change} {id : ResourceId} {e : Event}
    (h : c.event? id = some e) : e.id = id := by
  cases c <;> cases h <;> rfl

namespace Attempt.IsOn

/-- An attempt sets out on its course. -/
theorem setOut (hstart : k.startedAt ≤ k.deadline) :
    Attempt.IsOn k k.startedAt k.found []
      ⟨k.resource, k.deadline, World.progressOf k.startedAt k.fault⟩ where
  resource := rfl
  deadline := rfl
  progress := by
    unfold World.progressOf
    split
    · next hhang => exact ⟨hstart, hhang, rfl, rfl⟩
    · next hacts =>
      have hwake : k.startedAt ≤ k.wake := Nat.le_add_right _ _
      exact ⟨hstart, hwake, rfl, hacts, rfl, rfl, rfl⟩

/-- While it can wait, time does not take it off. -/
theorem later (h : a.IsOn k now o reports) (hwait : a.CanWait t) : a.IsOn k t o reports := by
  obtain ⟨hresource, hdeadline, hprogress⟩ := h
  obtain ⟨hundecided, htimers⟩ := hwait
  refine ⟨hresource, hdeadline, ?_⟩
  unfold World.attemptTimers at htimers
  rw [hdeadline] at htimers
  cases hp : a.progress with
  | decided c => exact absurd hp (hundecided c)
  | atGate gate =>
    rw [hp] at hprogress
    exact hprogress
  | hanging =>
    rw [hp] at hprogress htimers
    exact ⟨htimers _ List.mem_cons_self, hprogress.2⟩
  | waiting conduct wake =>
    rw [hp] at hprogress htimers
    have hwake : t ≤ wake := htimers _ List.mem_cons_self
    have hlate : t ≤ k.deadline := htimers _ (List.mem_cons_of_mem _ List.mem_cons_self)
    exact ⟨hlate, hwake, hprogress.2.2⟩
  | reporting c wake =>
    rw [hp] at hprogress htimers
    exact ⟨htimers _ List.mem_cons_self, hprogress.2⟩
  | done outcome =>
    rw [hp] at hprogress
    exact hprogress

end Attempt.IsOn

namespace World

/-- What a move of an attempt on its course leaves behind: the attempt is still on it, with what
it has reported since, and nothing has changed under any other name. -/
structure Advances (scope : Scope) (k : Course) (reports : List Event) (w w' : World)
    (a' : Attempt) : Prop where
  isOn : ∃ new, w'.events = w.events ++ new.map (Stamped.mk w.now) ∧
    (∀ e ∈ new, e.id = k.resource.id) ∧
    a'.IsOn k w.now (w'.rig.inventory.standing scope k.resource.id) (reports ++ new)
  others : ∀ key, key ≠ scope.nameOf k.resource.id →
    w'.rig.inventory.get? key = w.rig.inventory.get? key

/-- A move that reports nothing and touches nothing. -/
theorem Advances.of_quiet
    (h : a'.IsOn k w.now (w.rig.inventory.standing scope k.resource.id) reports) :
    Advances scope k reports w w a' where
  isOn := ⟨[], (List.append_nil _).symm, fun _ he => absurd he List.not_mem_nil,
    (List.append_nil reports).symm ▸ h⟩
  others _ _ := rfl

/-- The deadline ends an attempt that has not acted in time. -/
theorem Advances.of_late
    (hm : (if k.deadline ≤ w.now then some (⟨k.resource, k.deadline, .done k.late⟩, w) else none) =
      some (a', w'))
    (hend : k.deadline ≤ w.now → k.ending.outcome = k.late ∧
      w.rig.inventory.standing scope k.resource.id = k.ending.left ∧
      reports = k.ending.reports) : Advances scope k reports w w' a' := by
  split at hm
  · next hd =>
    cases hm
    obtain ⟨hout, hleft, hreports⟩ := hend hd
    exact .of_quiet ⟨rfl, rfl, hout.symm, hleft, hreports⟩
  · cases hm

/-- A hanging attempt ends when its deadline strikes. -/
theorem advances_of_hanging
    (h : Progress.IsOn k w.now (w.rig.inventory.standing scope k.resource.id) reports .hanging)
    (hm : w.advance ⟨k.resource, k.deadline, .hanging⟩ = some (a', w')) :
    Advances scope k reports w w' a' := by
  obtain ⟨-, hhang, hfound, hreports⟩ := h
  have hnot : ¬ k.Acts := fun hacts => hacts.1 hhang
  refine .of_late hm fun _ => ?_
  rw [Course.ending_of_not_acts hnot]
  exact ⟨rfl, hfound, hreports⟩

/-- The change is published, or too late to be. -/
theorem advances_of_reporting {c : Change} {wake : Option Instant}
    (h : Progress.IsOn k w.now (w.rig.inventory.standing scope k.resource.id) reports
      (.reporting c wake))
    (hm : w.advance ⟨k.resource, k.deadline, .reporting c wake⟩ = some (a', w')) :
    Advances scope k reports w w' a' := by
  obtain ⟨hnow, hacts, ho, hloud, rfl, rfl, hleft, hreports⟩ := h
  have hending := Course.ending_of_provides hacts ho
  simp only [advance] at hm
  split at hm
  · next hwake =>
    -- since the deadline has not gone by, this is in time
    cases hm
    refine .of_quiet ⟨rfl, rfl, ?_, hleft, hreports⟩
    rw [hending]
    refine (if_pos (.inr ?_)).symm
    rw [Option.any_map, Option.any_eq_true] at hwake
    obtain ⟨span, hspan, hle⟩ := hwake
    rw [hspan]
    exact decide_eq_true (Nat.le_trans (of_decide_eq_true hle) hnow)
  · next hwake =>
    refine .of_late hm fun hd => ⟨?_, hleft, hreports⟩
    rw [hending]
    refine if_neg (not_or.2 ⟨hloud, fun hany => hwake ?_⟩)
    rw [Option.any_eq_true] at hany
    obtain ⟨span, hspan, hle⟩ := hany
    rw [hspan]
    exact decide_eq_true (Nat.le_trans (of_decide_eq_true hle) hd)

section Advance

variable (hg : w.rig.Hosts scope k.region P)
include hg

/-- At its time the fault strikes, or the provider is asked what there is. -/
theorem advances_of_waiting {conduct : Conduct} {wake : Instant}
    (hpoints : k.resource.Points scope k.region)
    (h : Progress.IsOn k w.now (w.rig.inventory.standing scope k.resource.id) reports
      (.waiting conduct wake))
    (hm : w.advance ⟨k.resource, k.deadline, .waiting conduct wake⟩ = some (a', w')) :
    Advances scope k reports w w' a' := by
  obtain ⟨hnow, hbefore, rfl, hhang, rfl, hfound, hreports⟩ := h
  simp only [advance] at hm
  split at hm
  · next hwake =>
    have htime : w.now = k.wake := Nat.le_antisymm hbefore hwake
    have hacts : k.Acts := ⟨hhang, htime ▸ hnow⟩
    cases hm
    refine .of_quiet ⟨rfl, rfl, ?_⟩
    cases ho : k.fault.conduct.outcome? k.resource with
    | some outcome =>
      have hending := Course.ending_of_strikes hacts ho
      refine ⟨?_, ?_, ?_⟩
      · rw [hending]
      · rw [hending]
        exact hfound
      · rw [hending]
        exact hreports
    | none =>
      refine ⟨hnow, htime, hacts, ho, ?_, hfound, hreports⟩
      rw [Change.plan, hg.region_eq, Change.lookUp_of_points hg.sound hpoints, hfound]
      rfl
  · next hwake =>
    refine .of_late hm fun hd => ?_
    have hnot : ¬ k.Acts := fun hacts => hwake (Nat.le_trans hacts.2 hd)
    rw [Course.ending_of_not_acts hnot]
    exact ⟨rfl, hfound, hreports⟩

/-- The change is made, and reported where it is one. -/
theorem advances_of_decided {c : Change} (hinj : P.InjOn scope.nameOf) (hid : k.resource.id ∈ P)
    (hasks : k.resource.Asks scope) (hpub : w.publication = k.publication)
    (h : Progress.IsOn k w.now (w.rig.inventory.standing scope k.resource.id) reports
      (.decided c))
    (hm : w.advance ⟨k.resource, k.deadline, .decided c⟩ = some (a', w')) :
    Advances scope k reports w w' a' := by
  obtain ⟨hnow, htime, hacts, ho, rfl, hfound, hreports⟩ := h
  have hending := Course.ending_of_provides hacts ho
  have hseen : ∀ lb, (k.resource.liveHandle?.bind fun _ => k.found) = some lb →
      lb.StandsFor scope k.region k.resource.id := by
    intro lb hlb
    obtain ⟨-, -, hlb⟩ := Option.bind_eq_some_iff.1 hlb
    exact hg.sound.standsFor hinj hid (hfound.trans hlb)
  have hleft : (k.change.applyTo w.rig.inventory).standing scope k.resource.id =
      k.ending.left := by
    rw [hending, ← hfound]
    exact Change.standing_applyTo_decide hasks hseen
  have hothers : ∀ key, key ≠ scope.nameOf k.resource.id →
      (k.change.applyTo w.rig.inventory).get? key = w.rig.inventory.get? key := fun key hkey =>
    Change.get?_applyTo_decide hasks hseen hkey
  simp only [advance] at hm
  split at hm
  · next hsilent =>
    cases hm
    refine ⟨⟨[], (List.append_nil _).symm, fun _ he => absurd he List.not_mem_nil, rfl, rfl,
      ?_, hleft, ?_⟩, hothers⟩
    · rw [hending]
      exact (if_pos (.inl hsilent)).symm
    · rw [hending, hreports, hsilent]
      rfl
  · next e he =>
    cases hm
    refine ⟨⟨[e], rfl, fun e' he' => ?_, rfl, rfl, hnow, hacts, ho, ?_, ?_, rfl, hleft,
      ?_⟩, hothers⟩
    · rw [List.mem_singleton.1 he']
      exact Change.id_of_event? he
    · rw [he]
      exact Option.some_ne_none e
    · rw [← htime, ← hpub]
      rfl
    · rw [hending, hreports, he]
      rfl

/-- **A move of an attempt keeps it on its course**, and touches nothing but what stands under
its name. -/
theorem isOn_of_advance (hinj : P.InjOn scope.nameOf) (hid : k.resource.id ∈ P)
    (hasks : k.resource.Asks scope) (hpoints : k.resource.Points scope k.region)
    (hpub : w.publication = k.publication)
    (h : a.IsOn k w.now (w.rig.inventory.standing scope k.resource.id) reports)
    (hm : w.advance a = some (a', w')) : Advances scope k reports w w' a' := by
  obtain ⟨resource, deadline, progress⟩ := a
  obtain ⟨hresource, hdeadline, hprogress⟩ := h
  obtain rfl : resource = k.resource := hresource
  obtain rfl : deadline = k.deadline := hdeadline
  cases progress with
  | atGate gate => exact hprogress.elim
  | hanging => exact advances_of_hanging hprogress hm
  | waiting conduct wake => exact advances_of_waiting hg hpoints hprogress hm
  | decided c => exact advances_of_decided hg hinj hid hasks hpub hprogress hm
  | reporting c wake => exact advances_of_reporting hprogress hm
  | done outcome => cases hm

end Advance

end World

end IngressBalancer
