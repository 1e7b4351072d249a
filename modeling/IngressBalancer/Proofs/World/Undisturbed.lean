import IngressBalancer.Proofs.Controller.Quiescence
import IngressBalancer.Proofs.World.Troubles
/-!
# Undisturbed passes

A pass that sets out where no fault is set and no gate is up, and that nobody
disturbs until it lands (`Surroundings.quiet`). Each of its attempts is for
what stands under the name of its resource all the way (`Progress.Works`): no
other attempt touches that, and nobody else does. So what succeeds has become
what it asked for, and a pass without failures in which nobody had to wait
attains all that it was to (`Working.attains`).
-/

namespace IngressBalancer

/-- Surroundings in which nobody touches the inventory, and nobody but the provider answers. -/
def Surroundings.quiet (settings : Settings) (P : Set ResourceId) : Surroundings where
  shows v := ∀ i ∈ v.declared settings, i.id ∈ P
  publishes _ := True
  alters g g' := g'.region = g.region ∧ (∀ discovered, g'.discovery ≠ some (.ok discovered)) ∧
    g'.inventory = g.inventory
  answers _ _ := False

theorem Surroundings.quiet_within_troubled (settings : Settings) (P : Set ResourceId) :
    (quiet settings P).Within (troubled settings P) where
  shows _ h := h
  publishes _ h := h
  alters g g' h := by
    obtain ⟨hregion, hdiscovery, hinv⟩ := h
    refine ⟨hregion, hdiscovery, fun key => ?_⟩
    rw [hinv]
    exact Drift.refl _ _
  answers _ _ h := h.elim

variable {scope : Scope} {region : String} {P : Set ResourceId} {g g' : Rig}
variable {r : Resource} {now : Instant} {publication : Option Span} {a a' : Attempt}
variable {o : Option LoadBalancer}

/-- Whether an attempt that nobody disturbs goes by what stands under its name: it may look at
once; its change is for that; and when the change has been made, its resource has become what it
asked for. -/
def Progress.Works (region : String) (now : Instant) (r : Resource) (o : Option LoadBalancer) :
    Progress → Prop
  | .waiting conduct wake => conduct = .provide ∧ wake ≤ now
  | .decided c => c = .decide region r (r.liveHandle?.bind fun _ => o)
  | .reporting c _ => ∃ r', c.outcome r = .ok r' ∧ r.Becomes r' o
  | .done (.ok r') => r.Becomes r' o
  | .done (.error _) => True
  | .atGate _ | .hanging => False

theorem Progress.Works.later {p : Progress} {t : Instant} (h : p.Works region now r o)
    (ht : now ≤ t) : p.Works region t r o := by
  cases p with
  | waiting conduct wake => exact ⟨h.1, Nat.le_trans h.2 ht⟩
  | done out => cases out <;> exact h
  | _ => exact h

/-- **A move of an attempt goes by what stands under its name**, and touches nothing else. -/
theorem Attempt.Moves.works (hm : a.Moves now publication g g' a')
    (hinj : P.InjOn scope.nameOf) (hg : g.Hosts scope region P) (hid : a.resource.id ∈ P)
    (hasks : a.resource.Asks scope) (hpoints : a.resource.Points scope region)
    (h : a.progress.Works region now a.resource (g.inventory.standing scope a.resource.id)) :
    a'.progress.Works region now a.resource (g'.inventory.standing scope a.resource.id) ∧
      ∀ key, key ≠ scope.nameOf a.resource.id →
        g'.inventory.get? key = g.inventory.get? key := by
  cases hm with
  | late => exact ⟨trivial, fun _ _ => rfl⟩
  | meet hp =>
    rw [hp] at h
    exact h.elim
  | strike hp ho =>
    rw [hp] at h
    rw [h.1] at ho
    cases ho
  | look hp ho =>
    refine ⟨?_, fun _ _ => rfl⟩
    show Change.plan g.region g.inventory a.resource = _
    rw [Change.plan, hg.region_eq, Change.lookUp_of_points hg.sound hpoints]
  | @change c p hp hnext =>
    rw [hp] at h
    have hseen : ∀ lb, (a.resource.liveHandle?.bind fun _ =>
        g.inventory.standing scope a.resource.id) = some lb →
        lb.StandsFor scope region a.resource.id := by
      intro lb hlb
      obtain ⟨-, -, hlb⟩ := Option.bind_eq_some_iff.1 hlb
      exact hg.sound.standsFor hinj hid hlb
    have hstill : (a.resource.liveHandle?.bind fun _ =>
        g.inventory.standing scope a.resource.id) = none ∨
        (a.resource.liveHandle?.bind fun _ => g.inventory.standing scope a.resource.id) =
          g.inventory.standing scope a.resource.id := by
      cases a.resource.liveHandle? with
      | none => exact .inl rfl
      | some _ => exact .inr rfl
    obtain ⟨r', ho, hbecomes⟩ := Change.becomes_decide hasks hseen hstill
    subst h
    refine ⟨?_, fun key hkey => Change.get?_applyTo_decide hasks hseen hkey⟩
    rcases hnext with ⟨-, rfl⟩ | ⟨-, rfl⟩
    · exact ⟨r', ho, hbecomes⟩
    · rw [ho]
      exact hbecomes
  | published hp hwake =>
    rw [hp] at h
    obtain ⟨r', ho, hbecomes⟩ := h
    refine ⟨?_, fun _ _ => rfl⟩
    rw [ho]
    exact hbecomes

namespace World

variable {settings : Settings} {es : List Episode} {c₀ c c' : Situation} {f : Flight}
variable {attempts : List Attempt} {os : List Flight.Outcome} {u w : World}

/-- A pass that set out from `c₀` is in the air, and nobody has disturbed it. -/
structure Working (settings : Settings) (region : String) (P : Set ResourceId)
    (es : List Episode) (c₀ c : Situation) : Prop where
  tells : Tells settings es c
  aimed : Aimed settings region P c
  air : ∃ attempts, c.air = some (c₀.flight, attempts)
  works : ∀ a ∈ c.attempts, a.progress.Works region c.now a.resource
    (c.rig.inventory.standing settings.scope a.resource.id)

/-- Where no fault is set and no gate is up, every attempt of a pass may look at once. -/
theorem opened_of_clear (hfaults : c.rig.faults = ∅) (hgates : c.rig.gates = [])
    (ha : a ∈ c.opened.1) : a.progress = .waiting .provide c.now := by
  rw [Situation.opened, Rig.openAll_of_clear hfaults hgates, List.mem_map] at ha
  obtain ⟨r, -, rfl⟩ := ha
  rfl

/-- **A pass sets out undisturbed where no fault is set and no gate is up.** -/
theorem Working.takeOff (ht : Tells settings es c) (ha : Aimed settings region P c)
    (hair : c.air = none) (hfaults : c.rig.faults = ∅) (hgates : c.rig.gates = []) :
    Working settings region P es c c.takeOff := by
  refine ⟨?_, ha.takeOff ht, ⟨_, rfl⟩, fun a hmem => ?_⟩
  · have hturn : c.Turn .any [] c.takeOff := .takeOff hair
    have := ht.turn hturn
    rwa [List.append_nil] at this
  · rw [opened_of_clear hfaults hgates hmem]
    exact ⟨rfl, Nat.le_refl _⟩

namespace Working

variable (h : Working settings region P es c₀ c)
include h

/-- **Every turn in quiet surroundings leaves the pass undisturbed**, as long as it commits
nothing. -/
theorem turn (hinj : P.InjOn settings.scope.nameOf) (hturn : c.Turn (.quiet settings P) [] c') :
    Working settings region P es c₀ c' := by
  have htells : Tells settings es c' := by
    have := h.tells.turn (hturn.any fun _ _ hsaid => False.elim hsaid)
    rwa [List.append_nil] at this
  have haimed : Aimed settings region P c' :=
    h.aimed.turn h.tells hinj (hturn.mono (Surroundings.quiet_within_troubled settings P))
  obtain ⟨attempts, hair⟩ := h.air
  cases hturn with
  | tick hlater => exact ⟨htells, haimed, h.air, fun a ha => (h.works a ha).later hlater⟩
  | rig halters =>
    refine ⟨htells, haimed, h.air, fun a ha => ?_⟩
    have := h.works a ha
    rwa [← halters.2.2] at this
  | takeOff hnone =>
    rw [hair] at hnone
    cases hnone
  | @attempt f attempts' a a' g hair' ha hm =>
    have hattempts := Situation.attempts_of_air hair'
    rw [hair] at hair'
    cases hair'
    obtain ⟨hid, hasks, hpoints, -⟩ := h.aimed.of_mem h.tells hair ha
    obtain ⟨hworks, hrest⟩ :=
      hm.works hinj h.aimed.hosts hid hasks hpoints (h.works a (hattempts ▸ ha))
    refine ⟨htells, haimed, ⟨_, rfl⟩, fun b hb => ?_⟩
    rcases (mem_setAttempt ha hm.resource_eq).1 hb with rfl | ⟨hb, hne⟩
    · rw [hm.resource_eq]
      exact hworks
    · -- the move is for another name
      have hid' := (h.aimed.of_mem h.tells hair hb).1
      have hsame : g.inventory.standing settings.scope b.resource.id =
          c.rig.inventory.standing settings.scope b.resource.id :=
        hrest _ fun hname => hne (hinj hid' hid hname)
      have := h.works b (hattempts ▸ hb)
      rwa [← hsame] at this
  | answer _ _ _ hsaid => exact hsaid.elim
  | _ => exact ⟨htells, haimed, h.air, h.works⟩

/-- **An undisturbed pass that lands without failures, and in which nobody had to wait, has
attained all that it was to.** -/
theorem attains {v : View} {s : SyncState} {now : Instant}
    (hair : c.air = some (f, attempts)) (hf : f = .start settings v s now)
    (hs : c.state = s) (hos : outcomes? attempts = some os) (hfailures : Flight.failures os = 0)
    (hdeferred : f.deferred = 0) (hparked : f.parked = 0) :
    Flight.Attains settings v s now os c.now c.rig.inventory := by
  subst hf hs
  have hin := h.tells.inAir _ _ hair
  refine ⟨hdeferred, hparked, hin.isWhole hos, fun r hr => ?_⟩
  rw [← hin.batch] at hr
  obtain ⟨a, ha, rfl⟩ := List.mem_map.1 hr
  obtain ⟨out, hdone, hmem⟩ := exists_outcome_of_mem hos ha
  have hworks := h.works a (by rwa [Situation.attempts_of_air hair])
  rw [hdone] at hworks
  cases out with
  | error e =>
    rw [Flight.failures, List.countP_eq_zero] at hfailures
    exact absurd rfl (hfailures _ hmem)
  | ok r' => exact ⟨r', hmem, hworks⟩

end Working

/-- A pass that has set out stays undisturbed along a run that commits nothing. -/
theorem Runs.working (hinj : P.InjOn settings.scope.nameOf) (ho : u.Orderly)
    (h₀ : Working settings region P es c₀ u.situation) (h : Runs (.quiet settings P) u [] w) :
    Working settings region P es c₀ w.situation :=
  Runs.invariant_nil ho h₀ (fun _ _ hc hturn => hc.turn hinj hturn) h

end World

end IngressBalancer
