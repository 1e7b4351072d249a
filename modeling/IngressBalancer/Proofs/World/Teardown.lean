import IngressBalancer.Proofs.Controller.Undeclared
import IngressBalancer.Proofs.World.Accounts
import IngressBalancer.Proofs.World.Tracking
/-!
# What is torn down

A pass that sets out after an id, declared before, is no longer declared
calls the provider once for it, with no spec (`teardown`). At a provider that
may only fail before it is called, an attempt with no spec that succeeds
leaves nothing live (`TearsDown`), so the id is forgotten, and it stays
forgotten until somebody declares it or a resync finds it (`Forgets`). Where
the attempt fails, the entry stays as it is, to be removed by the next pass.
-/

namespace IngressBalancer

/-- Surroundings with whatever provider that does what it is asked for, unless a fault strikes
before that. -/
def Surroundings.provided : Surroundings where
  shows _ := True
  publishes _ := True
  alters _ g := g.IsFaithful
  answers _ _ := False

/-- Whether an episode brings an id: a pass that declares it, or a resync that finds it. -/
def Episode.Brings (id : ResourceId) : Episode → Prop
  | .pass f _ _ => f.desired.resources.contains id = true
  | .resync discovered _ => ∃ r ∈ discovered, r.id = id

variable {settings : Settings} {id : ResourceId} {region : String} {inv : Inventory}
variable {r r' : Resource} {now : Instant} {publication : Option Span} {g g' : Rig}
variable {a a' : Attempt} {s : SyncState}

/-! ## Attempts -/

/-- **What asks for nothing is not live after it has been at the provider.** -/
theorem Change.isLive_of_outcome_plan (hd : r.desired = none)
    (ho : (Change.plan region inv r).outcome r = .ok r') : r'.isLive = false := by
  simp only [Change.plan, Change.decide, hd] at ho
  cases hfound : Change.lookUp inv r with
  | some lb =>
    rw [hfound] at ho
    cases ho
    rfl
  | none =>
    rw [hfound] at ho
    cases ho
    rw [Resource.isLive, Resource.liveHandle?_markDeleted]
    rfl

/-- Whether an attempt that asks for its load balancer to go leaves nothing live where it
succeeds. -/
def Progress.TearsDown (r : Resource) : Progress → Prop
  | .atGate _ | .hanging | .done (.error _) => True
  | .waiting conduct _ => conduct.IsEarly
  | .decided c | .reporting c _ => ∀ r', c.outcome r = .ok r' → r'.isLive = false
  | .done (.ok r') => r'.isLive = false

theorem Progress.IsFresh.tearsDown {p : Progress} (h : p.IsFresh Conduct.IsEarly) :
    p.TearsDown r := by
  cases p with
  | decided c => exact h.elim
  | reporting c wake => exact h.elim
  | done o => exact h.elim
  | _ => exact h

theorem Attempt.Moves.tearsDown (hm : a.Moves now publication g g' a')
    (hg : g.Conducts Conduct.IsEarly) (hd : a.resource.desired = none)
    (h : a.progress.TearsDown a.resource) : a'.progress.TearsDown a.resource := by
  cases hm with
  | late => trivial
  | meet hp => exact (Rig.isFresh_progressOf (hg.meet a.resource.id).1).tearsDown
  | strike hp ho =>
    rw [hp] at h
    obtain ⟨e, rfl⟩ := Conduct.IsEarly.exists_error h ho
    trivial
  | look hp ho => exact fun r' hr' => Change.isLive_of_outcome_plan hd hr'
  | @change c p hp hnext =>
    rw [hp] at h
    rcases hnext with ⟨-, rfl⟩ | ⟨-, rfl⟩
    · exact h
    · show Progress.TearsDown a.resource (.done (c.outcome a.resource))
      cases ho : c.outcome a.resource with
      | ok r' => exact h r' ho
      | error e => trivial
  | @published c wake hp hwake =>
    rw [hp] at h
    show Progress.TearsDown a.resource (.done (c.outcome a.resource))
    cases ho : c.outcome a.resource with
    | ok r' => exact h r' ho
    | error e => trivial

namespace World

variable {rig : Rig} {view : View} {monitor : Monitor} {u v w : World} {c c' : Situation}
variable {es es' : List Episode} {f f₀ : Flight} {attempts : List Attempt}
variable {os : List Flight.Outcome} {t t' : Task}

/-- What holds of the attempts in the air at such a provider. -/
structure TearsDown (c : Situation) : Prop where
  early : c.rig.Conducts Conduct.IsEarly
  attempts : ∀ a ∈ c.attempts, a.resource.desired = none → a.progress.TearsDown a.resource

theorem TearsDown.takeOff (h : TearsDown c) : TearsDown c.takeOff := by
  obtain ⟨hearly, hfresh⟩ := h.early.openAll c.now
    (Instant.after c.now c.settings.reconcileTimeout) c.flight.batch
  exact ⟨hearly, fun a ha _ => (hfresh a ha).tearsDown⟩

theorem TearsDown.turn (h : TearsDown c) (hturn : c.Turn .provided es c') : TearsDown c' := by
  cases hturn with
  | rig hg => exact ⟨hg.conducts, h.attempts⟩
  | takeOff => exact h.takeOff
  | @attempt f attempts a a' g hair ha hm =>
    have hattempts := Situation.attempts_of_air hair
    refine ⟨h.early.moves hm, fun b hb hd => ?_⟩
    rcases (mem_setAttempt ha hm.resource_eq).1 hb with rfl | ⟨hb, -⟩
    · rw [hm.resource_eq] at hd ⊢
      exact hm.tearsDown h.early hd (h.attempts a (hattempts ▸ ha) hd)
    · exact h.attempts b (hattempts ▸ hb) hd
  | answer hair ha hopen hsaid => exact hsaid.elim
  | land => exact ⟨h.early, fun a ha => absurd ha List.not_mem_nil⟩
  | resync => exact ⟨h.early, fun a ha => absurd ha List.not_mem_nil⟩
  | _ => exact ⟨h.early, h.attempts⟩

theorem Runs.tearsDown (ho : u.Orderly) (h₀ : TearsDown u.situation)
    (h : Runs .provided u es w) : TearsDown w.situation :=
  Runs.invariant (I := fun _ => TearsDown) ho h₀ (fun _ _ _ _ hc hturn => hc.turn hturn) h

/-- An attempt with no spec that succeeded left nothing live. -/
theorem TearsDown.isLive_of_outcome (h : TearsDown c) (hair : c.air = some (f, attempts))
    (hin : InAir settings s f attempts) (hos : outcomes? attempts = some os)
    (hr : r ∈ f.batch) (hd : r.desired = none) (ho : (r.id, .ok r') ∈ os) : r'.isLive = false := by
  obtain ⟨a, ha, hdone, hid⟩ := exists_of_mem_outcomes? hos ho
  obtain ⟨v, startedAt, hf⟩ := hin.setOut
  have hnd : (f.batch.map (·.id)).Nodup := hf ▸ Flight.nodup_batch
  have hsame : a.resource = r := List.inj_on_of_nodup_map hnd (hin.mem_batch ha) hr hid.symm
  have hdown := h.attempts a (by rwa [Situation.attempts_of_air hair]) (hsame ▸ hd)
  rwa [hdone] at hdown

/-! ## What is forgotten -/

/-- Whether an id is forgotten: it is not in the registry nor in the retry book, and no pass of
some episodes had to do with it. -/
structure Forgets (id : ResourceId) (es : List Episode) (c : Situation) : Prop where
  entry : c.state.registry.get? id = none
  record : c.state.retries.get? id = none
  passes : ∀ f os now, .pass f os now ∈ es →
    id ∉ f.removed.map (·.id) ∧ id ∉ f.batch.map (·.id)

/-- **What is forgotten stays so** until an episode brings it. -/
theorem Forgets.turn (h : Forgets id es c) (ht : Tells settings es' c)
    {es₁ : List Episode} (hturn : c.Turn .any es₁ c') (hno : ∀ e ∈ es₁, ¬ e.Brings id) :
    Forgets id (es ++ es₁) c' := by
  cases hturn with
  | @land f attempts os hair hos =>
    have hin := ht.inAir f attempts hair
    obtain ⟨-, hcovers, hkeep⟩ : (Episode.pass f os c.now).IsWhole settings c.state :=
      hin.isWhole hos
    have hdecl : f.desired.resources.contains id = false :=
      Bool.eq_false_iff.2 (hno _ List.mem_cons_self)
    obtain ⟨v, startedAt, rfl⟩ := hin.setOut
    obtain ⟨hentry, hrecord⟩ :=
      Flight.commit_of_absent hdecl h.entry c.settings c.state .empty c.now hcovers hkeep
    refine ⟨hentry, hrecord, fun f' os' now hmem => ?_⟩
    rcases List.mem_append.1 hmem with hmem | hmem
    · exact h.passes f' os' now hmem
    · cases List.mem_singleton.1 hmem
      exact Flight.not_mem_of_absent hdecl h.entry
  | @resync discovered hair hd =>
    refine ⟨Option.eq_none_iff_forall_ne_some.2 fun r hr => ?_, rfl, fun f' os' now hmem => ?_⟩
    · obtain ⟨r', hr', -, -, hid⟩ := Resync.exists_of_get?_adopt hr
      exact hno _ List.mem_cons_self ⟨r', hr', hid⟩
    · rcases List.mem_append.1 hmem with hmem | hmem
      · exact h.passes f' os' now hmem
      · cases List.mem_singleton.1 hmem
  | _ => exact ⟨h.entry, h.record, fun f os now hmem =>
      h.passes f os now (by rwa [List.append_nil] at hmem)⟩

/-- **So an id that is forgotten stays so along a run that does not bring it**: no pass lists it
or calls the provider for it. -/
theorem Runs.forgets {es₀ : List Episode} (ho : u.Orderly) (ht : Tells settings es₀ u.situation)
    (hentry : u.state.registry.get? id = none) (hrecord : u.state.retries.get? id = none)
    (h : Runs .any u es w) (hno : ∀ e ∈ es, ¬ e.Brings id) : Forgets id es w.situation := by
  refine (h.invariant_of_tells (fun _ _ ho => ho) ho ht (I := fun es c =>
    (∀ e ∈ es, ¬ e.Brings id) → Forgets id es c)
    (fun _ => ⟨hentry, hrecord, fun _ _ _ hmem => absurd hmem List.not_mem_nil⟩) ?_).2 hno
  intro es c es₁ c' ht hc hturn hno
  exact (hc fun e he => hno e (List.mem_append_left _ he)).turn ht hturn fun e he =>
    hno e (List.mem_append_right _ he)

/-- How an id is absent along a run from one world to another: from the registry, the retry book
and the snapshots at its end, and from what its passes list as removed and call the provider
for. -/
structure Absent (id : ResourceId) (u : World) (es : List Episode) (w : World) : Prop where
  entry : w.state.registry.contains id = false
  record : w.state.retries.get? id = none
  exported : ∀ i ∈ w.state.snapshot.ingresses, i.resource.id ≠ id
  removed : ∀ f os now, .pass f os now ∈ es → id ∉ f.removed.map (·.id)
  calls : ∃ calls, w.calls = u.calls ++ calls ∧ ∀ call ∈ calls, call.id ≠ id

/-- **What is forgotten is absent from then on**, until an episode or the pass in the air brings
it. -/
theorem Runs.absent {es₀ : List Episode} (ho : u.Orderly) (hair : u.air = none)
    (ht : Tells settings es₀ u.situation) (hentry : u.state.registry.get? id = none)
    (hrecord : u.state.retries.get? id = none) (h : Runs .any u es w)
    (hno : ∀ e ∈ es, ¬ e.Brings id)
    (hdecl : ∀ f attempts, w.air = some (f, attempts) → f.desired.resources.contains id = false) :
    Absent id u es w := by
  have hforgets := h.forgets ho ht hentry hrecord hno
  have hcontains : w.state.registry.contains id = false := by
    rw [Registry.contains_eq_isSome, show w.state.registry.get? id = none from hforgets.entry]
    rfl
  refine ⟨hcontains, hforgets.record, fun i hi hid => ?_, fun f os now hmem =>
    (hforgets.passes f os now hmem).1, _, h.calls_eq ho hair, fun call hcall hid => ?_⟩
  · have hmem : i.resource ∈ w.state.registry.toList := by
      rw [← SyncState.map_resource_snapshot]
      exact List.mem_map_of_mem hi
    have hget : w.state.registry.get? id = some i.resource :=
      hid ▸ Registry.mem_toList_iff.1 hmem
    rw [show w.state.registry.get? id = none from hforgets.entry] at hget
    cases hget
  · rcases List.mem_append.1 hcall with hcall | hcall
    · obtain ⟨e, he, hcall⟩ := List.mem_flatMap.1 hcall
      cases e with
      | resync => cases hcall
      | pass f os now =>
        obtain ⟨r, hr, rfl⟩ := List.mem_map.1 hcall
        exact (hforgets.passes f os now he).2 (List.mem_map.2 ⟨r, hr, hid⟩)
    · cases hw : w.air with
      | none =>
        rw [Situation.airCalls, show w.situation.air = none from hw] at hcall
        cases hcall
      | some x =>
        obtain ⟨f, attempts⟩ := x
        rw [Situation.airCalls, show w.situation.air = some (f, attempts) from hw] at hcall
        obtain ⟨r, hr, rfl⟩ := List.mem_map.1 hcall
        have hdecl' := hdecl f attempts hw
        obtain ⟨v, startedAt, rfl⟩ := ((h.tells_append ho ht).inAir f attempts hw).setOut
        exact (Flight.not_mem_of_absent hdecl' hforgets.entry).2 (List.mem_map.2 ⟨r, hr, hid⟩)

section Flown

variable (h : Flown settings es u v f attempts) (hgone : ¬ u.view.Declares settings id)
variable (hr : u.state.registry.get? id = some r)
include h hgone hr

/-- **A pass lists a tracked id that nobody declares once and calls the provider for it once**,
with no spec, where no record for a removal is left. -/
theorem Flown.removes (hrecord : ∀ known, u.state.retries.get? id = some known →
    known.desired ≠ none) (hlive : r.isLive = true) :
    (f.removed.map (·.id)).count id = 1 ∧ r.toRemoval ∈ f.batch ∧
      ∃ calls, v.calls = u.calls ++ calls ∧
        calls.filter (·.id = id) = [⟨u.now, id, true, true⟩] := by
  have hrid : r.id = id := Registry.id_of_get? hr
  have hbatch : r.toRemoval ∈ f.batch := h.flight ▸ Flight.removal_mem_batch hgone hr hrecord
  refine ⟨h.flight ▸ Flight.count_removed hgone hr, hbatch, _, h.calls, ?_⟩
  have hkeys : ((f.batch.map (Call.of u.now)).map (·.id)).Nodup := by
    rw [Call.map_id_of, h.flight]
    exact Flight.nodup_batch
  have hone := filter_key_eq_singleton hkeys (List.mem_map_of_mem hbatch)
  have heq : Call.of u.now r.toRemoval = ⟨u.now, id, true, true⟩ := by
    rw [Call.of, show r.toRemoval.isLive = true from hlive]
    exact congrArg (fun id => Call.mk u.now id true true) hrid
  rwa [heq] at hone

/-- Where the attempt fails, the entry stays, to be removed. -/
theorem Flown.entry_of_error (t' : Task) (hos : outcomes? attempts = some os)
    (hlive : r.isLive = true) {e : Failure} (hout : (id, .error e) ∈ os) :
    (v.land t' f os).state.registry.get? id = some r.toRemoval := by
  have hnd : (os.map (·.1)).Nodup := map_fst_of_outcomes? hos ▸ h.inAir.nodup_ids
  refine (congrArg (fun s => s.registry.get? id) state_land).trans ?_
  refine (Flight.get?_commit_error hnd (h.isWhole hos).2.2 hout).trans ?_
  have hchecked : (Flight.start settings u.view u.state u.now).checked? id = some r.toRemoval :=
    Flight.checked?_of_undeclared hgone hr
  rw [h.flight, (Flight.checked?_eq_some.1 hchecked).2, Option.filter_some_pos]
  exact hlive

end Flown

/-- Where an attempt succeeds and leaves nothing live, neither the registry nor the retry book
know the id when the pass has landed. -/
theorem Flown.forgotten_of_ok (h : Flown settings es u v f attempts)
    (hos : outcomes? attempts = some os) (hout : (id, .ok r') ∈ os) (hdead : r'.isLive = false) :
    (v.land t' f os).state.registry.get? id = none ∧
      (v.land t' f os).state.retries.get? id = none := by
  have hnd : (os.map (·.1)).Nodup := map_fst_of_outcomes? hos ▸ h.inAir.nodup_ids
  have hkeep : Flight.KeepIds os := (h.isWhole hos).2.2
  constructor
  · refine (congrArg (fun s => s.registry.get? id) state_land).trans ?_
    refine (Flight.get?_commit_ok hnd hkeep hout).trans ?_
    rw [Option.filter_some_neg (by simp [hdead])]
  · exact (congrArg (fun s => s.retries.get? id) state_land).trans
      (Flight.get?_retries_commit_ok hnd hkeep hout)

/-- Whatever happens among such surroundings may happen among any. -/
theorem Runs.any_of_provided (h : Runs .provided u es w) : Runs .any u es w :=
  Runs.any (S := .provided) (fun _ _ hsaid => False.elim hsaid) h

/-- **What is no longer declared is torn down.** Take any run with a provider that may only fail
before it is called, and an id that the last pass declared and did not hold, that is in the
registry, and that nobody declares when the next pass sets out. That pass lists the id once among
what it has removed, and calls the provider for it once, with no spec, whatever the last pass left
in the retry book. Where the attempt succeeds, the id is gone from the registry and the retry book
when the pass lands, and absent from then on, until it is declared again or a resync finds it.
Where the attempt fails, the entry keeps its handle, with no spec; and if nothing is committed
before the next pass sets out, and the id is still not declared, that one lists it again. -/
theorem teardown (hrig : rig.IsFaithful)
    (hbefore : Runs .provided (World.new settings view rig monitor) es u)
    (ht : t ∈ u.tasks) (hact : t.activity = .queued .converge)
    (hheld : u.lock.isHeldBy t.number = true) (hlast : Episode.lastPass? es = some f₀)
    (hdecl : f₀.desired.resources.contains id = true)
    (hfree : f₀.desired.held.contains id = false) (hr : u.state.registry.get? id = some r)
    (hgone : ¬ u.view.Declares settings id)
    (hduring : Runs .provided (u.takeOff t) [] v) (ht' : t' ∈ v.tasks)
    (hact' : t'.activity = .converging f attempts) (hos : outcomes? attempts = some os) :
    let landed := v.land t' f os
    let report := (f.commit v.settings v.state v.metrics os v.now).report
    report.removed.count id = 1 ∧
    (∃ calls, v.calls = u.calls ++ calls ∧
      calls.filter (·.id = id) = [⟨u.now, id, true, true⟩]) ∧
    ∃ outcome, (id, outcome) ∈ os ∧
      (∀ r', outcome = .ok r' → landed.state.registry.get? id = none ∧
        landed.state.retries.get? id = none ∧
        ∀ es' w, Runs .provided landed es' w → (∀ e ∈ es', ¬ e.Brings id) →
          (∀ f attempts, w.air = some (f, attempts) →
            f.desired.resources.contains id = false) → Absent id landed es' w) ∧
      ∀ e, outcome = .error e → landed.state.registry.get? id = some r.toRemoval ∧
        r.toRemoval.isLive = true ∧
        ∀ w, Runs .provided landed [] w → ¬ w.view.Declares settings id →
          (w.situation.flight.removed.map (·.id)).count id = 1 := by
  have ho : u.Orderly := hbefore.orderly (orderly_new _ _ _ _)
  have htells : Tells settings es u.situation := hbefore.any_of_provided.tells
  have h : Flown settings es u v f attempts :=
    hduring.any_of_provided.flown ho htells ht hact hheld ht' hact'
  obtain ⟨holand, hland, htellsl⟩ := h.lands hos ht' hact'
  have hrid : r.id = id := Registry.id_of_get? hr
  have hlive : r.isLive = true :=
    htells.committed.sound.live r (Registry.mem_toList_iff.2 (hrid.symm ▸ hr))
  obtain ⟨hremoved, hbatch, hcalls⟩ := h.removes hgone hr
    (fun known hknown => htells.committed.desired_ne_none hlast hdecl hfree hknown) hlive
  obtain ⟨outcome, hout⟩ : ∃ outcome, (id, outcome) ∈ os := by
    have hmem : id ∈ os.map (·.1) := by
      rw [(h.isWhole hos).2.1]
      exact List.mem_map.2 ⟨_, hbatch, hrid⟩
    obtain ⟨⟨id', outcome⟩, hout, rfl⟩ := List.mem_map.1 hmem
    exact ⟨outcome, hout⟩
  refine ⟨hremoved, hcalls, outcome, hout, fun r' hok => ?_, fun e herr => ?_⟩
  · subst hok
    -- the attempt left nothing live
    have hdowns : TearsDown v.situation := by
      have h₀ : TearsDown (World.new settings view rig monitor).situation :=
        ⟨hrig.conducts, fun a ha => absurd ha List.not_mem_nil⟩
      obtain ⟨ho₁, hoff⟩ := ho.takesOff ht hact hheld
      have h₁ := (Runs.tearsDown (orderly_new _ _ _ _) h₀ hbefore).takeOff
      rw [← hoff] at h₁
      exact Runs.tearsDown ho₁ h₁ hduring
    have hdead : r'.isLive = false :=
      hdowns.isLive_of_outcome h.air h.inAir hos hbatch rfl (hrid.symm ▸ hout)
    obtain ⟨hentry, hrecord⟩ := h.forgotten_of_ok hos hout hdead
    exact ⟨hentry, hrecord, fun es' w hrun hno hdecl' => Runs.absent holand
      (congrArg Situation.air hland) htellsl hentry hrecord hrun.any_of_provided hno hdecl'⟩
  · subst herr
    have hentry := h.entry_of_error hgone hr t' hos hlive hout
    refine ⟨hentry, hlive, fun w hrun hgone' => ?_⟩
    rw [(hrun.any_of_provided.tells_append holand htellsl).flight_eq]
    have hstill : w.state.registry.get? id = some r.toRemoval :=
      (congrArg (fun s => s.registry.get? id) (hrun.state_eq holand)).trans hentry
    exact Flight.count_removed hgone' hstill

/-! ## A shop that closes -/

/-- The world of the shop after its first pass, where the shop is no longer declared, somebody has
deleted its load balancer, and the next pass is under way. -/
def closing : World :=
  { openedOnce with
    view := { Sample.shopView with ingresses := [] }
    rig := { openedOnce.rig with inventory := ∅ } }.ask
      { openedOnce.operator with yield := none } .converge

/-- The end of that pass, before it lands. -/
def closed : World :=
  ((List.replicate 2 Sample.shop).foldlM (fun (w : World) id => w.move (.attempt 0 id))
    (closing.takeOff closing.operator)).getD closing

/-- The run up to that pass; the last one has declared the shop and not held it. -/
theorem runs_closing : ∃ es f, Runs .provided opening es closing ∧
    Episode.lastPass? es = some f ∧ f.desired.resources.contains Sample.shop = true ∧
    f.desired.held.contains Sample.shop = false := by
  have h₀ : Runs .provided opening [] opening := .start
  have h₁ := (h₀.happen (.order .converge (.head _) rfl (.inr rfl))).happen (.move (.task 0) rfl)
  have h₂ := ((h₁.happen (.move (.attempt 0 Sample.shop) rfl)).happen
    (.move (.attempt 0 Sample.shop) rfl)).happen (.move (.attempt 0 Sample.shop) rfl)
  have hland := h₂.happen (.move (.task 0) rfl)
  have hfaithful : closing.rig.IsFaithful := ⟨by rintro _ ⟨⟩, by rintro _ _ ⟨⟩⟩
  have hclosing := ((hland.happen (.view (v := { Sample.shopView with ingresses := [] })
    trivial)).happen (.rig hfaithful)).happen (.order .converge (.head _) rfl (.inr rfl))
  exact ⟨_, opening.situation.flight, hclosing, rfl, rfl, rfl⟩

/-- The pass tears the shop down. -/
theorem teardown_closing : ∃ f os, (f.removed.map (·.id)).count Sample.shop = 1 ∧
    (closed.land closed.operator f os).state.registry.get? Sample.shop = none := by
  obtain ⟨es, f₀, hbefore, hlast, hdecl, hfree⟩ := runs_closing
  have hfaithful : opening.rig.IsFaithful := Rig.isFaithful_new _
  have hmoves : (List.replicate 2 Sample.shop).foldlM
    (fun (w : World) id => w.move (.attempt 0 id)) (closing.takeOff closing.operator) =
      some closed := rfl
  have hduring : Runs .provided (closing.takeOff closing.operator) [] closed :=
    Runs.attempts .start hmoves
  obtain ⟨r, hr⟩ : ∃ r, closing.state.registry.get? Sample.shop = some r := ⟨_, rfl⟩
  have hgone : ¬ closing.view.Declares Sample.accepted Sample.shop := by
    rintro ⟨i, hi, -⟩
    cases hi
  obtain ⟨f, attempts, r', hact, hos⟩ : ∃ f attempts r',
      closed.operator.activity = .converging f attempts ∧
        outcomes? attempts = some [(Sample.shop, .ok r')] := ⟨_, _, _, rfl, rfl⟩
  obtain ⟨hremoved, -, outcome, hout, hok, -⟩ := teardown hfaithful hbefore (.head _) rfl rfl hlast
    hdecl hfree hr hgone hduring (.head _) hact hos
  rw [List.mem_singleton] at hout
  cases hout
  exact ⟨f, _, hremoved, (hok r' rfl).1⟩

end World

end IngressBalancer
