import IngressBalancer.Proofs.Controller.Listing
import IngressBalancer.Proofs.Data.Likes
import IngressBalancer.Proofs.World.Isolation
/-!
# Worlds that differ in order only

Two worlds may differ in nothing but the order in which the cluster lists its
objects, and what follows from that (`World.Relisted`): the order of the
problems that a pass in the air has met, of the ingresses that a publisher
took down, of the reports about different ids, and of the statuses written
at one moment. Whatever one of them does, the
other can do as well, and they still differ in nothing else
(`Relisted.happens`, `Relisted.runs`). So **the order of a listing is no
matter** (`listing_is_no_matter`).
-/

namespace IngressBalancer

/-- Whether two lists of events are the same but for the order of those about different ids. -/
structure SameReports (es es' : List (Stamped Event)) : Prop where
  perm : es.Perm es'
  each : ∀ id, es.filter (·.what.id = id) = es'.filter (·.what.id = id)

theorem SameReports.refl (es : List (Stamped Event)) : SameReports es es :=
  ⟨.refl _, fun _ => rfl⟩

theorem SameReports.append {es es' new new' : List (Stamped Event)} (h : SameReports es es')
    (hnew : SameReports new new') : SameReports (es ++ new) (es' ++ new') :=
  ⟨h.perm.append hnew.perm, fun id => by
    rw [List.filter_append, List.filter_append, h.each, hnew.each]⟩

/-- What passes report that met their problems in another order. -/
theorem Flight.Reorders.sameReports {f f' : Flight} (h : f.Reorders f') (now : Instant) :
    SameReports (f.problemEvents.map (Stamped.mk now)) (f'.problemEvents.map (Stamped.mk now)) := by
  obtain ⟨hperm, heach⟩ := h.problemEvents
  refine ⟨hperm.map _, fun id => ?_⟩
  rw [List.filter_map, List.filter_map]
  exact congrArg (List.map (Stamped.mk now)) (heach id)

/-- Whether two tasks are the same but for the order of the ingresses that they took down, and for
the problems of a pass that they run. -/
inductive Task.Relisted (t : Task) : Task → Prop
  | same {listed : List Ingress} (hl : t.listed.Perm listed) : Relisted t { t with listed := listed }
  | converging {f f' : Flight} {attempts : List Attempt} {listed : List Ingress}
    (hl : t.listed.Perm listed) (hact : t.activity = .converging f attempts) (hf : f.Reorders f') :
    Relisted t { t with activity := .converging f' attempts, listed := listed }

/-- Whether two episodes are the same but for the problems of a pass. -/
inductive Episode.Relisted : Episode → Episode → Prop
  | pass {f f' : Flight} (h : f.Reorders f') (os : List Flight.Outcome) (now : Instant) :
    Relisted (.pass f os now) (.pass f' os now)
  | resync (discovered : List Resource) (now : Instant) :
    Relisted (.resync discovered now) (.resync discovered now)

theorem Episode.Relisted.refl (e : Episode) : e.Relisted e := by
  cases e with
  | pass f os now => exact .pass (.refl f) os now
  | resync discovered now => exact .resync discovered now

/-- Whether two views are the same, or list the same another way and no two ingresses with one
id. -/
def View.Alike (v v' : View) : Prop :=
  v' = v ∨ v.Relists v' ∧ (v.ingresses.map (·.id)).Nodup

theorem View.Alike.ingresses {v v' : View} (h : v.Alike v') : v.ingresses.Perm v'.ingresses := by
  rcases h with rfl | ⟨h, -⟩
  · exact .refl _
  · exact h.ingresses

/-- Whether two worlds differ in nothing but the order of listings, and in what follows from
that. -/
inductive World.Relisted (w : World) : World → Prop
  | mk {v : View} {tasks : List Task} {events : List (Stamped Event)}
    {statuses : List (ResourceId × List StatusPoint)} (hv : w.view.Alike v)
    (ht : List.Forall₂ Task.Relisted w.tasks tasks) (he : SameReports w.events events)
    (hs : w.statuses.Perm statuses) :
    Relisted w { w with view := v, tasks := tasks, events := events, statuses := statuses }

/-! ## Tasks -/

theorem Task.Relisted.refl (t : Task) : t.Relisted t := .same (.refl _)

/-- Tasks that go on to one activity. -/
theorem Task.Relisted.goes {t t' : Task} (h : t.Relisted t') (a : Activity) :
    Task.Relisted { t with activity := a } { t' with activity := a } := by
  cases h with
  | same hl => exact .same hl
  | converging hl => exact .same hl

/-- Tasks with one yield. -/
theorem Task.Relisted.yields {t t' : Task} (h : t.Relisted t') (y : Option Yield) :
    Task.Relisted { t with yield := y } { t' with yield := y } := by
  cases h with
  | same hl => exact .same hl
  | converging hl hact hf => exact .converging hl hact hf

/-- Tasks that run passes which differ in the order of their problems. -/
theorem Task.Relisted.flies {t t' : Task} {f f' : Flight} (h : t.Relisted t') (hf : f.Reorders f')
    (attempts : List Attempt) : Task.Relisted { t with activity := .converging f attempts }
      { t' with activity := .converging f' attempts } := by
  cases h with
  | same hl => exact .converging hl rfl hf
  | converging hl => exact .converging hl rfl hf

theorem Task.Relisted.listed {t t' : Task} (h : t.Relisted t') : t.listed.Perm t'.listed := by
  cases h with
  | same hl => exact hl
  | converging hl => exact hl

theorem Task.Relisted.number_eq {t t' : Task} (h : t.Relisted t') : t'.number = t.number := by
  cases h <;> rfl

theorem Task.Relisted.role_eq {t t' : Task} (h : t.Relisted t') : t'.role = t.role := by
  cases h <;> rfl

namespace World

variable {S : Surroundings} {w w' w₁ : World} {t t' : Task} {es : List Episode}

namespace Relisted

theorem refl (w : World) : w.Relisted w := by
  have htasks : List.Forall₂ Task.Relisted w.tasks w.tasks :=
    List.forall₂_same.2 fun t _ => .refl t
  exact .mk (.inl rfl) htasks (.refl _) (.refl _)

/-- Another view that lists the same. -/
theorem of_relists {v' : View} (h : w.view.Relists v')
    (hnd : (w.view.ingresses.map (·.id)).Nodup) : w.Relisted { w with view := v' } :=
  .mk (.inr ⟨h, hnd⟩) (List.forall₂_same.2 fun t _ => .refl t) (.refl _) (.refl _)

section Parts

variable (h : w.Relisted w')
include h

theorem state_eq : w'.state = w.state := by
  cases h
  rfl

theorem calls_eq : w'.calls = w.calls := by
  cases h
  rfl

theorem lock_eq : w'.lock = w.lock := by
  cases h
  rfl

theorem view : w.view.Alike w'.view := by
  cases h with
  | mk hv => exact hv

theorem task? (n : Nat) : Option.Rel Task.Relisted (w.task? n) (w'.task? n) := by
  cases h with
  | mk _ ht => exact find?_of_forall₂ ht fun t t' htt => by rw [htt.number_eq]

/-- **From both worlds a pass sets out alike.** -/
theorem reorders : (Flight.start w.settings w.view w.state w.now).Reorders
    (Flight.start w'.settings w'.view w'.state w'.now) := by
  cases h with
  | mk hv =>
    rcases hv with rfl | ⟨hrelists, hnd⟩
    · exact .refl _
    · exact Flight.reorders_start hrelists (hnd.sublist (List.filter_sublist.map _))

end Parts

/-! ## What one task does -/

section Steps

variable (h : w.Relisted w')
include h

theorem setLock (l : Lock) : ({ w with lock := l }).Relisted { w' with lock := l } := by
  cases h with
  | mk hv ht he hs => exact .mk hv ht he hs

variable (ht : t.Relisted t')
include ht

theorem puts : (w.put t).Relisted (w'.put t') := by
  cases h with
  | mk hv htasks he hs =>
    refine .mk hv ?_ he hs
    refine List.forall₂_map_left_iff.2 (List.forall₂_map_right_iff.2 ?_)
    refine htasks.imp fun u u' hu => ?_
    rw [hu.number_eq, ht.number_eq]
    split
    · exact ht
    · exact hu

theorem asks (e : Errand) : (w.ask t e).Relisted (w'.ask t' e) := by
  have hput := (h.setLock (w.lock.request t.number e.access)).puts (ht.goes (.queued e))
  have hlock : w'.lock.request t'.number e.access = w.lock.request t.number e.access := by
    rw [h.lock_eq, ht.number_eq]
  unfold ask
  rw [hlock]
  exact hput

theorem leaves (a : Activity) : (w.leave t a).Relisted (w'.leave t' a) := by
  have hput := (h.setLock (w.lock.release t.number)).puts (ht.goes a)
  have hlock : w'.lock.release t'.number = w.lock.release t.number := by
    rw [h.lock_eq, ht.number_eq]
  unfold leave
  rw [hlock]
  exact hput

theorem finishes (y : Yield) : (w.finish t y).Relisted (w'.finish t' y) := by
  have hnow : w'.now = w.now := by
    cases h
    rfl
  have hsettings : w'.settings = w.settings := by
    cases h
    rfl
  have hleaves : ∀ a, (w.leave t a).Relisted (w'.leave t' a) := h.leaves ht
  have hyields := h.leaves (ht.yields (some y)) .finished
  rw [ht.role_eq] at hyields
  unfold finish
  rw [ht.role_eq, hnow, hsettings]
  split
  · exact hleaves _
  · exact hleaves _
  · exact hleaves _
  · exact hleaves _
  · exact hyields
  · exact hyields

/-- A pass sets out. -/
theorem takesOff : (w.takeOff t).Relisted (w'.takeOff t') := by
  have hf := h.reorders
  cases h with
  | @mk v tasks events statuses hv htasks he hs =>
    let f := Flight.start w.settings w.view w.state w.now
    let f' := Flight.start w.settings v w.state w.now
    let w' : World :=
      { w with view := v, tasks := tasks, events := events, statuses := statuses }
    let attempts :=
      (w.rig.openAll w.now (Instant.after w.now w.settings.reconcileTimeout) f.batch).1
    have hoff : (w.sendOff f).Relisted (w'.sendOff f') := by
      unfold sendOff
      rw [hf.batch_eq, hf.countStart_eq]
      exact .mk hv htasks (he.append (hf.sameReports w.now)) hs
    have hput := hoff.puts (ht.flies hf attempts)
    rw [takeOff_eq, takeOff_eq]
    have hbatch : f'.batch = f.batch := hf.batch_eq
    dsimp only
    rw [show (Flight.start w.settings v w.state w.now).batch = f.batch from hbatch]
    exact hput

/-- A pass lands. -/
theorem lands {f f' : Flight} (hf : f.Reorders f') (os : List Flight.Outcome) :
    (w.land t f os).Relisted (w'.land t' f' os) := by
  let c := f.commit w.settings w.state w.metrics os w.now
  cases h with
  | @mk v tasks events statuses hv htasks he hs =>
    let w' : World :=
      { w with view := v, tasks := tasks, events := events, statuses := statuses }
    have hcommitted : (({ w with state := c.state, metrics := c.metrics }).note c.events).Relisted
        (({ w' with state := c.state, metrics := c.metrics }).note c.events) :=
      .mk hv htasks (he.append (.refl _)) hs
    have hland : w'.land t' f' os =
        (({ w' with state := c.state, metrics := c.metrics }).note c.events).finish t'
          (.report c.report) := by
      rw [land, hf.commit_eq]
    rw [hland]
    exact hcommitted.finishes ht (.report c.report)

theorem resyncs : (w.resync t).Relisted (w'.resync t') := by
  have hsame : w'.rig.discover w'.scope = w.rig.discover w.scope := by
    cases h
    rfl
  unfold resync
  rw [hsame]
  cases w.rig.discover w.scope with
  | error e => exact h.finishes ht (.resynced (.error e))
  | ok discovered =>
    cases h with
    | mk hv htasks he hs =>
      let done := Resync.run w.state w.metrics discovered w.now 0
      have hdone : ({ w with state := done.state, metrics := done.metrics } : World).Relisted _ :=
        .mk hv htasks he hs
      exact hdone.finishes ht (.resynced (.ok done.state.registry.size))

/-- The statuses of one moment are written in the order of the listing. -/
theorem inspects : (w.inspect t).Relisted (w'.inspect t') := by
  have hrequests : ∀ l, (({ w with lock := l }).ask t .converge).Relisted
      (({ w' with lock := l }).ask t' .converge) := fun l => (h.setLock l).asks ht _
  have hfinishes : ∀ y, (w.finish t y).Relisted (w'.finish t' y) := h.finishes ht
  have hlock : w'.lock.release t'.number = w.lock.release t.number := by
    rw [h.lock_eq, ht.number_eq]
  have hlisted := ht.listed
  unfold inspect
  rw [ht.role_eq, hlock]
  cases h with
  | @mk v tasks events statuses hv htasks he hs =>
    split
    · split
      · exact hrequests _
      · exact hfinishes _
    · have hpending := (hlisted.filter (·.isManaged w.settings.ingressClass)).filterMap
        fun i =>
          let wanted := w.state.registry.statusFor w.rig.hostnamesOf i.id
          if i.status = wanted then none else some (i.id, wanted)
      have hwritten : ({ w with
          statuses := w.statuses ++ w.state.registry.pendingStatuses w.rig.hostnamesOf
            w.settings.ingressClass t.listed } : World).Relisted _ :=
        .mk hv htasks he (hs.append hpending)
      exact hwritten.finishes ht _
    · exact hfinishes _

/-- **A task makes the same move in both worlds.** -/
theorem moveTask : Option.Rel World.Relisted (w.moveTask t) (w'.moveTask t') := by
  have hasks : ∀ e, (w.ask t e).Relisted (w'.ask t' e) := h.asks ht
  have htakesOff := h.takesOff ht
  have hresyncs := h.resyncs ht
  have hinspects := h.inspects ht
  have hfinishes := h.finishes ht
  have hlands : ∀ {f f' : Flight}, f.Reorders f' → ∀ os,
      (w.land t f os).Relisted (w'.land t' f' os) := fun hf os => h.lands ht hf os
  cases ht with
  | @converging f f' attempts listed hl hact hf =>
    unfold World.moveTask
    simp only [hact]
    cases outcomes? attempts with
    | none => exact .none
    | some os => exact .some (hlands hf os)
  | @same listed hl =>
    have hputs : ∀ (a : Activity) (seen : Nat),
        (w.put { t with activity := a, seen := seen }).Relisted
          (w'.put { t with activity := a, seen := seen, listed := listed }) :=
      fun a seen => h.puts (.same hl)
    have hlooks : (w.ask { t with seen := w.state.passes, listed := w.view.ingresses }
          .inspect).Relisted
        (w'.ask { t with seen := w.state.passes, listed := w'.view.ingresses } .inspect) :=
      h.asks (.same h.view.ingresses) .inspect
    have hwakes : (({ w with signal := false }).put { t with activity := .woken }).Relisted
        (({ w' with signal := false }).put { t with activity := .woken, listed := listed }) := by
      cases h with
      | mk hv htasks he hs => exact puts (.mk hv htasks he hs) (.same hl)
    cases h with
    | @mk v tasks events statuses hv htasks he hs =>
      unfold World.moveTask
      cases t.activity with
      | finished => exact .none
      | starting =>
        dsimp only
        split
        · exact .none
        · exact .some (hasks _)
        · exact .some (hputs _ _)
        · exact .some (hputs _ _)
        · exact .some (hputs _ _)
        · exact .some (hputs _ _)
      | asleep wake =>
        dsimp only
        split
        · exact .some (hasks _)
        · exact .none
      | listening =>
        dsimp only
        split
        · split
          · exact .some hlooks
          · exact .none
        · split
          · exact .some hwakes
          · exact .none
      | woken => exact .some (hasks _)
      | queued e =>
        dsimp only
        split
        · cases e with
          | converge => exact .some htakesOff
          | resync => exact .some hresyncs
          | inspect => exact .some hinspects
          | probe => exact .some (hputs _ _)
        · exact .none
      | converging f attempts =>
        dsimp only
        cases outcomes? attempts with
        | none => exact .none
        | some os => exact .some (hlands (.refl f) os)
      | probing wake =>
        dsimp only
        split
        · exact .some (hfinishes _)
        · exact .none

omit ht in
/-- **An attempt makes the same move in both worlds.** -/
theorem advances (a : Attempt) : Option.Rel
    (fun p p' : Attempt × World => p'.1 = p.1 ∧ p.2.Relisted p'.2) (w.advance a) (w'.advance a) := by
  have hstays : ∀ a' : Attempt, Option.Rel
      (fun p p' : Attempt × World => p'.1 = p.1 ∧ p.2.Relisted p'.2) (some (a', w))
      (some (a', w')) := fun a' => .some ⟨rfl, h⟩
  have hrig : ∀ g : Rig, ({ w with rig := g }).Relisted { w' with rig := g } := by
    intro g
    cases h with
    | mk hv htasks he hs => exact .mk hv htasks he hs
  have hnotes : ∀ (g : Rig) (e : Event), (({ w with rig := g }).note [e]).Relisted
      (({ w' with rig := g }).note [e]) := by
    intro g e
    cases h with
    | mk hv htasks he hs => exact .mk hv htasks (he.append (.refl _)) hs
  cases h with
  | @mk v tasks events statuses hv htasks he hs =>
    unfold advance
    dsimp only
    split
    · exact .none
    · split
      · exact hstays _
      · exact .none
    · split
      · exact .some ⟨rfl, hrig _⟩
      · split
        · exact hstays _
        · exact .none
    · split
      · exact hstays _
      · split
        · exact hstays _
        · exact .none
    · split
      · exact .some ⟨rfl, hrig _⟩
      · exact .some ⟨rfl, hnotes _ _⟩
    · split
      · exact hstays _
      · split
        · exact hstays _
        · exact .none

theorem moveAttempt (id : ResourceId) :
    Option.Rel World.Relisted (w.moveAttempt t id) (w'.moveAttempt t' id) := by
  -- the attempts of both passes are the same
  have hmoves : ∀ {f f' : Flight}, f.Reorders f' → ∀ (attempts : List Attempt) (a : Attempt),
      let set (a : Attempt) := attempts.map fun b => if b.resource.id = id then a else b
      Option.Rel World.Relisted
        ((w.advance a).map fun p => p.2.put { t with activity := .converging f (set p.1) })
        ((w'.advance a).map fun p => p.2.put { t' with activity := .converging f' (set p.1) }) := by
    intro f f' hf attempts a set
    refine rel_map (h.advances a) ?_
    rintro ⟨a₁, w₁⟩ ⟨_, w₁'⟩ ⟨rfl, hw⟩
    exact hw.puts (ht.flies hf _)
  cases ht with
  | @converging f f' attempts listed hl hact hf =>
    unfold World.moveAttempt
    simp only [hact]
    cases attempts.find? (·.resource.id = id) with
    | none => exact .none
    | some a => exact hmoves hf attempts a
  | same =>
    unfold World.moveAttempt
    cases t.activity with
    | converging f attempts =>
      dsimp only
      cases attempts.find? (·.resource.id = id) with
      | none => exact .none
      | some a => exact hmoves (.refl f) attempts a
    | _ => exact .none

end Steps

/-! ## All that may happen -/

section Happenings

variable (h : w.Relisted w')
include h

theorem moves (m : Move) : Option.Rel World.Relisted (w.move m) (w'.move m) := by
  cases m with
  | task number => exact rel_bind (h.task? number) fun _ _ ht => h.moveTask ht
  | attempt number id => exact rel_bind (h.task? number) fun _ _ ht => h.moveAttempt ht id

/-- A task commits the same in both worlds. -/
theorem episodesOf (ht : t.Relisted t') :
    List.Forall₂ Episode.Relisted (w.episodesOf t) (w'.episodesOf t') := by
  have hsame : ∀ es : List Episode, List.Forall₂ Episode.Relisted es es := fun es =>
    List.forall₂_same.2 fun e _ => .refl e
  cases h with
  | @mk v tasks events statuses hv htasks he hs =>
    cases ht with
    | same => exact hsame (w.episodesOf t)
    | @converging f f' attempts listed hl hact hf =>
      unfold World.episodesOf
      simp only [hact]
      cases outcomes? attempts with
      | none => exact .nil
      | some os => exact .cons (.pass hf os w.now) .nil

theorem episodes (m : Move) :
    List.Forall₂ Episode.Relisted (w.episodes m) (w'.episodes m) := by
  cases m with
  | attempt number id => exact .nil
  | task number => exact rel_elim (h.task? number) .nil fun t t' ht => h.episodesOf ht

theorem notifies : w.notify.Relisted w'.notify := by
  have hsignal : ({ w with signal := true }).Relisted { w' with signal := true } := by
    cases h with
    | mk hv htasks he hs => exact .mk hv htasks he hs
  -- a wake-up goes to the same task in both
  have hfound : ∀ p : Task → Bool, (∀ t t', t.Relisted t' → p t' = p t) →
      Option.Rel Task.Relisted (w.tasks.find? p) (w'.tasks.find? p) := by
    intro p hp
    cases h with
    | mk hv htasks he hs => exact find?_of_forall₂ htasks hp
  unfold notify
  generalize hfind : w.tasks.find? _ = o, hfind' : w'.tasks.find? _ = o'
  have hrel : Option.Rel Task.Relisted o o' := by
    rw [← hfind, ← hfind']
    refine hfound _ fun t t' ht => ?_
    cases ht with
    | same => rfl
    | converging hl hact hf => simp only [hact]
  cases hrel with
  | none => exact hsignal
  | some ht => exact h.puts (ht.goes .woken)

theorem spawns (role : Role) : (w.spawn role).Relisted (w'.spawn role) := by
  cases h with
  | @mk v tasks events statuses hv htasks he hs =>
    have hnumbers : tasks.map (·.number) = w.tasks.map (·.number) := by
      rw [← List.forall₂_eq_eq_eq, List.forall₂_map_left_iff, List.forall₂_map_right_iff]
      exact htasks.flip.imp fun t' t ht => ht.number_eq
    unfold spawn
    dsimp only
    rw [hnumbers]
    exact .mk hv (List.rel_append htasks (.cons (.refl _) .nil)) he hs

/-- **Whatever happens to one world can happen to the other**, and they still differ in nothing
but order. -/
theorem happens (hw : w.Happens S es w₁) : ∃ es' w₁', w'.Happens S es' w₁' ∧ w₁.Relisted w₁' ∧
    List.Forall₂ Episode.Relisted es es' := by
  have hmembers : ∀ {t : Task}, t ∈ w.tasks → ∃ t' ∈ w'.tasks, t.Relisted t' := by
    intro t ht
    cases h with
    | mk hv htasks he hs => exact exists_of_forall₂ htasks ht
  cases hw with
  | move m hm =>
    have hrel := h.moves m
    rw [hm] at hrel
    cases hm' : w'.move m with
    | none =>
      rw [hm'] at hrel
      cases hrel
    | some w₁' =>
      rw [hm'] at hrel
      cases hrel with
      | some hrel => exact ⟨_, w₁', .move m hm', hrel, h.episodes m⟩
  | notify => exact ⟨[], _, .notify, h.notifies, .nil⟩
  | spawn role => exact ⟨[], _, .spawn role, h.spawns role, .nil⟩
  | @order t e ht hrole hrest =>
    obtain ⟨t', ht', hrel⟩ := hmembers ht
    have hyields := hrel.yields none
    cases hrel with
    | same =>
      exact ⟨[], _, .order e ht' hrole hrest, h.asks hyields e, .nil⟩
    | converging hl hact hf =>
      rw [hact] at hrest
      rcases hrest with hrest | hrest <;> cases hrest
  | @giveUp t e ht hrole hwait =>
    obtain ⟨t', ht', hrel⟩ := hmembers ht
    cases hrel with
    | same hl => exact ⟨[], _, .giveUp ht' hrole hwait, h.leaves (.same hl) _, .nil⟩
    | converging hl hact hf =>
      rw [hact] at hwait
      cases hwait
  | @answer t f attempts a outcome ht hact ha hopen hsaid =>
    obtain ⟨t', ht', hrel⟩ := hmembers ht
    cases hrel with
    | same hl =>
      exact ⟨[], _, .answer ht' hact ha hopen hsaid, h.puts (.same hl), .nil⟩
    | @converging f₀ f' attempts' listed hl hact' hf =>
      rw [hact] at hact'
      cases hact'
      refine ⟨[], _, .answer ht' rfl ha hopen hsaid, h.puts ?_, .nil⟩
      exact .converging hl rfl hf
  | tick ht =>
    cases h with
    | mk hv htasks he hs => exact ⟨[], _, .tick ht, .mk hv htasks he hs, .nil⟩
  | view hv' =>
    cases h with
    | mk hv htasks he hs => exact ⟨[], _, .view hv', .mk (.inl rfl) htasks he hs, .nil⟩
  | publication hp =>
    cases h with
    | mk hv htasks he hs => exact ⟨[], _, .publication hp, .mk hv htasks he hs, .nil⟩
  | rig hg =>
    cases h with
    | mk hv htasks he hs => exact ⟨[], _, .rig hg, .mk hv htasks he hs, .nil⟩

/-- **So whatever run there is from one world, there is one like it from the other.** -/
theorem runs (hrun : Runs S w es w₁) : ∃ es' w₁', Runs S w' es' w₁' ∧ w₁.Relisted w₁' ∧
    List.Forall₂ Episode.Relisted es es' := by
  induction hrun with
  | start => exact ⟨[], w', .start, h, .nil⟩
  | happen _ hw ih =>
    obtain ⟨es₁, w₁', hrun', hrel, hes⟩ := ih
    obtain ⟨es₂, w₂', hw', hrel', hes'⟩ := hrel.happens hw
    exact ⟨es₁ ++ es₂, w₂', .happen hrun' hw', hrel', List.rel_append hes hes'⟩

end Happenings

end Relisted

/-- **The order of a listing is no matter.** Take two views that list the same in another order,
the nodes as often as they like, and no two ingresses with one id. From whatever state a pass sets
out, and whatever its attempts end in and publish, it has the same resources reconciled from both
views, commits the same and reports the same; and it publishes the same, the same about each id in
one order. And whatever may happen to a controller that sees the one may happen to it when it sees
the other, with a world in the end that differs in nothing but order. -/
theorem listing_is_no_matter {v v' : View} (h : v.Relists v')
    (hnd : (v.ingresses.map (·.id)).Nodup) :
    (∀ (settings : Settings) (state : SyncState) (now endedAt : Instant) (metrics : Metrics)
      (answer : Resource → Except Failure Resource) (said : Resource → List Event),
      let f := Flight.start settings v state now
      let f' := Flight.start settings v' state now
      let c := f.commit settings state (f.countStart metrics) (f.outcomes answer) endedAt
      let c' := f'.commit settings state (f'.countStart metrics) (f'.outcomes answer) endedAt
      f'.batch = f.batch ∧ c'.state = c.state ∧ c'.report = c.report ∧ c'.metrics = c.metrics ∧
        (f.published said c).Perm (f'.published said c') ∧
        ∀ id, (f.published said c).filter (·.id = id) =
          (f'.published said c').filter (·.id = id)) ∧
    ∀ (S : Surroundings) (u : World) (es : List Episode) (w : World), u.view = v →
      Runs S u es w → ∃ es' w', Runs S { u with view := v' } es' w' ∧ w.Relisted w' ∧
        List.Forall₂ Episode.Relisted es es' := by
  constructor
  · intro settings state now endedAt metrics answer said f f' c c'
    have hf : f.Reorders f' :=
      Flight.reorders_start h (hnd.sublist (List.filter_sublist.map _))
    have hc : c' = c := by
      have houtcomes : f'.outcomes answer = f.outcomes answer := by
        rw [Flight.outcomes, Flight.outcomes, hf.batch_eq]
      exact (hf.commit_eq _ _ _ _ _).trans (by rw [hf.countStart_eq, houtcomes])
    rw [hc]
    exact ⟨hf.batch_eq, rfl, rfl, rfl, hf.published said c⟩
  · rintro S u es w rfl hruns
    exact (Relisted.of_relists h hnd).runs hruns

end World

namespace Sample

/-- The street with two nodes. -/
def servedStreet : View :=
  { streetView with
    nodes := [node "a" "aws:///us-east-1a/i-1" ∅, node "b" "aws:///us-east-1b/i-2" ∅] }

/-- The same street, listed the other way round and one of its nodes twice. -/
def servedStreetAgain : View :=
  { servedStreet with
    ingresses := servedStreet.ingresses.reverse
    nodes := servedStreet.nodes.reverse ++ servedStreet.nodes.take 1 }

end Sample

namespace World

/-- From both ends of the street a pass creates the same two load balancers, with both nodes behind
each. -/
theorem listing_is_no_matter_street :
    let start v := Flight.start Sample.accepted v .initial 0
    (start Sample.servedStreetAgain).batch = (start Sample.servedStreet).batch ∧
      (start Sample.servedStreet).batch.map (fun r => (r.id, r.desired.map (·.targets))) =
        [(Sample.cafe, some ["i-1", "i-2"]), (Sample.shop, some ["i-1", "i-2"])] := by
  intro start
  have hrelists : Sample.servedStreet.Relists Sample.servedStreetAgain := by
    refine ⟨(List.reverse_perm _).symm, fun n => ?_, rfl, rfl⟩
    simp only [Sample.servedStreetAgain, List.mem_append, List.mem_reverse]
    exact ⟨.inl, fun hn => hn.elim id List.mem_of_mem_take⟩
  have hnd : (Sample.servedStreet.ingresses.map (·.id)).Nodup := by decide
  obtain ⟨hpass, -⟩ := listing_is_no_matter hrelists hnd
  obtain ⟨hbatch, -⟩ := hpass Sample.accepted .initial 0 0 .empty .ok fun _ => []
  exact ⟨hbatch, by decide +kernel⟩

end World

end IngressBalancer
