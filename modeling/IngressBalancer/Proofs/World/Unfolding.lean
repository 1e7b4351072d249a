import IngressBalancer.Proofs.World.Accounts
import IngressBalancer.Proofs.World.Courses
/-!
# Passes on a clock that waits

A pass in the air, and whatever may happen around it until it lands, on a
clock that never goes past a moment at which an attempt may move
(`World.Unfolds`). Whatever happens then is a move of one of its attempts, or
leaves them and what was reported alone (`stirs_of_happens`). So where nobody
disturbs the pass, each attempt stays on its course (`Unfolds.onCourse`), and
under the names and about the ids of no attempt all stays as it was.
-/

namespace IngressBalancer

/-- Surroundings in which nobody disturbs a pass, and publications take as long as they do. -/
def Surroundings.steady (settings : Settings) (P : Set ResourceId) (publication : Option Span) :
    Surroundings :=
  { quiet settings P with publishes := (· = publication) }

/-- What happens in steady surroundings happens in troubled ones. -/
theorem Surroundings.steady_within_troubled (settings : Settings) (P : Set ResourceId)
    (publication : Option Span) :
    (steady settings P publication).Within (troubled settings P) where
  shows _ h := h
  publishes _ _ := trivial
  alters := (quiet_within_troubled settings P).alters
  answers _ _ h := h.elim

/-! ## The faults that a batch meets -/

namespace Rig

variable {g g' : Rig} {id id' : ResourceId} {now deadline : Instant}

/-- What fault a call meets depends on what is set for its id alone. -/
theorem meet_fst_congr (h : g.faults.get? id = g'.faults.get? id) :
    (g.meet id).1 = (g'.meet id).1 := by
  unfold meet
  rw [h]
  split
  · rfl
  · split <;> rfl

/-- And uses up no other. -/
theorem faults_meet_of_ne (h : id ≠ id') :
    (g.meet id').2.faults.get? id = g.faults.get? id := by
  have hset : ∀ fault, (g.setFault id' fault).faults.get? id = g.faults.get? id := by
    intro fault
    cases fault with
    | none => exact SortedMap.get?_erase_of_ne h
    | some f => exact SortedMap.get?_insert_of_ne h
  unfold meet
  split
  · rfl
  · split
    · rfl
    · exact hset none
    · exact hset _

/-- **Where no gate is up, each attempt of a batch meets the fault that is set for its id.** -/
theorem openAll_of_no_gates (rs : List Resource) (hgates : g.gates = [])
    (hnd : (rs.map (·.id)).Nodup) : (openAll now deadline rs g).1 =
      rs.map fun r => ⟨r, deadline, World.progressOf now (g.meet r.id).1⟩ := by
  induction rs generalizing g with
  | nil => rfl
  | cons r rs ih =>
    rw [List.map_cons, List.nodup_cons] at hnd
    have hfirst : openOne now deadline r g =
        (⟨r, deadline, World.progressOf now (g.meet r.id).1⟩, (g.meet r.id).2) := by
      rw [openOne, hgates]
      rfl
    have hrest : ∀ r' ∈ rs, ((g.meet r.id).2.meet r'.id).1 = (g.meet r'.id).1 := by
      intro r' hr'
      have hne : r'.id ≠ r.id := fun hid => hnd.1 (hid ▸ List.mem_map_of_mem hr')
      exact meet_fst_congr (faults_meet_of_ne hne)
    have hgates' : (g.meet r.id).2.gates = [] := by
      rw [meet_eq]
      exact hgates
    rw [openAll, hfirst, ih hgates' hnd.2, List.map_cons]
    exact congrArg _ (List.map_congr_left fun r' hr' => by rw [hrest r' hr'])

end Rig

namespace World

variable {S : Surroundings} {u w w' : World} {t : Task} {f : Flight} {attempts : List Attempt}
variable {es : List Episode}

/-- Whether the clock may go on to a moment: every attempt in the air can wait until then. -/
def Awaits (w : World) (now : Instant) : Prop :=
  w.now < now → ∀ f attempts, w.air = some (f, attempts) → ∀ a ∈ attempts, a.CanWait now

/-- A run that commits nothing, on a clock that waits for every attempt. -/
inductive Unfolds (S : Surroundings) (u : World) : World → Prop
  | start : Unfolds S u u
  | happen {w w' : World} (h : Unfolds S u w) (hw : w.Happens S [] w') (hclock : w.Awaits w'.now) :
    Unfolds S u w'

theorem Unfolds.runs (h : Unfolds S u w) : Runs S u [] w := by
  induction h with
  | start => exact .start
  | happen _ hw _ ih => exact .happen ih hw

theorem Unfolds.trans {v : World} (h : Unfolds S u v) (h' : Unfolds S v w) : Unfolds S u w := by
  induction h' with
  | start => exact h
  | happen _ hw hclock ih => exact .happen ih hw hclock

/-- Moves of attempts take no time. -/
theorem Unfolds.foldlM_move {number : Nat} {ids : List ResourceId} (h : Unfolds S u w)
    (hm : ids.foldlM (fun (w : World) id => w.move (.attempt number id)) w = some w') :
    Unfolds S u w' := by
  induction ids generalizing w with
  | nil =>
    cases hm
    exact h
  | cons id ids ih =>
    obtain ⟨w₁, hfirst, hrest⟩ := Option.bind_eq_some_iff.1 hm
    have hnow : w₁.now = w.now := by
      obtain ⟨t, -, hmove⟩ := Option.bind_eq_some_iff.1 hfirst
      obtain ⟨_, _, _, _, _, -, rfl⟩ := eq_of_moveAttempt hmove
      rfl
    exact ih (.happen h (.move _ hfirst) fun hlt => absurd hlt (hnow ▸ Nat.lt_irrefl _)) hrest

/-- The reports about an id, in their order. -/
def reportsOf (w : World) (id : ResourceId) : List Event :=
  (w.events.map (·.what)).filter (·.id = id)

theorem reportsOf_append {new : List Event} {now : Instant} {id : ResourceId}
    (h : w'.events = w.events ++ new.map (Stamped.mk now)) :
    w'.reportsOf id = w.reportsOf id ++ new.filter (·.id = id) := by
  have hwhat : (new.map (Stamped.mk now)).map (·.what) = new := by
    rw [List.map_map]
    exact List.map_id _
  rw [reportsOf, h, List.map_append, hwhat, List.filter_append]
  rfl

/-! ## What may happen while a pass is in the air -/

/-- What happens while a pass is in the air: one of its attempts moves, or something happens
around it. -/
inductive Stirs (S : Surroundings) (f : Flight) (attempts : List Attempt) (w w' : World) : Prop
  | attempt {a a' : Attempt} {w₁ : World} (ha : a ∈ attempts)
    (hm : w.advance a = some (a', w₁)) (hair : w'.air = some (f, setAttempt attempts a'))
    (hrig : w'.rig = w₁.rig) (hevents : w'.events = w₁.events) (hnow : w'.now = w.now)
    (hpub : w'.publication = w.publication)
  | around (hair : w'.air = w.air) (hevents : w'.events = w.events) (hnow : w.now ≤ w'.now)
    (hrig : w'.rig = w.rig ∨ S.alters w.rig w'.rig)
    (hpub : w'.publication = w.publication ∨ S.publishes w'.publication)
  /-- An attempt ends in what another provider answers. -/
  | answer {r : Resource} {o : Except Failure Resource} (h : S.answers r o)

/-- What leaves the situation leaves the pass alone. -/
theorem Stirs.of_situation_eq (h : w'.situation = w.situation) (hevents : w'.events = w.events) :
    Stirs S f attempts w w' :=
  .around (congrArg Situation.air h) hevents (congrArg Situation.now h).ge
    (.inl (congrArg Situation.rig h)) (.inl (congrArg Situation.publication h))

/-- **A move of a task leaves the pass in the air alone**, unless it lands. -/
theorem situation_of_moveTask (ho : w.Orderly) (hair : w.air = some (f, attempts))
    (ht : t ∈ w.tasks) (hes : w.episodesOf t = []) (h : w.moveTask t = some w') :
    w'.situation = w.situation ∧ w'.events = w.events := by
  -- whoever holds the lock is the task of the pass
  have hbusy : w.lock.isHeldBy t.number = true → t.flying ≠ none := by
    intro hheld hstill
    have hnone := ho.air_eq_none_of_held ht hheld hstill
    rw [hair] at hnone
    cases hnone
  cases moves_of_moveTask h with
  | goes signal hn hy hs hs' =>
    have ho₁ : ({ w with signal := signal } : World).Orderly := ho.congr rfl rfl
    obtain ⟨-, hsit⟩ := ho₁.still _ ht hn (hs'.trans hs.symm) (Task.flying_of_stake? hs)
      (Task.flying_of_stake? hs')
    exact ⟨hsit, rfl⟩
  | asks e hn hy hs => exact ⟨(ho.asks _ ht hn hs e).2, rfl⟩
  | takesOff hact hheld => exact absurd (by simp [Task.flying, hact]) (hbusy hheld)
  | resyncs hact hheld => exact absurd (by simp [Task.flying, hact]) (hbusy hheld)
  | inspects hact => exact ⟨(turn_inspect ho ht hact).2, events_inspect w t⟩
  | probes hact =>
    have hstill : t.flying = none := by simp [Task.flying, hact]
    obtain ⟨-, hsit⟩ := ho.still { t with activity := .probing (w.now + w.monitor.span) } ht
      rfl (by simp [Task.stake?, hact, Errand.access]) hstill rfl
    exact ⟨hsit, rfl⟩
  | lands hact hos => simp [episodesOf, hact, hos] at hes
  | reports hact =>
    have hstill : t.flying = none := by simp [Task.flying, hact]
    exact ⟨(ho.finishes ht hstill (.health w.monitor.report)).2, events_finish _ _ _⟩

theorem stirs_of_moveAttempt {id : ResourceId} (ho : w.Orderly)
    (hair : w.air = some (f, attempts)) (ht : t ∈ w.tasks) (h : w.moveAttempt t id = some w') :
    Stirs S f attempts w w' := by
  unfold moveAttempt at h
  split at h
  · next f' attempts' hact =>
    -- the pass of the task is the one in the air
    have hair' := ho.air_of_flying ht (Task.flying_eq_some.2 hact)
    rw [hair] at hair'
    cases hair'
    split at h
    · cases h
    · next a hfind =>
      obtain ⟨⟨a', w₁⟩, hadv, rfl⟩ := Option.map_eq_some_iff.1 h
      have ha := List.mem_of_find?_eq_some hfind
      have hid : a.resource.id = id := by simpa using List.find?_some hfind
      obtain ⟨hm, events, hw₁⟩ := moves_of_advance hadv
      have ho₁ : w₁.Orderly := ho.congr (by rw [hw₁]) (by rw [hw₁])
      have ht₁ : t ∈ w₁.tasks := by rw [hw₁]; exact ht
      have hset : (attempts.map fun b => if b.resource.id = id then a' else b) =
          setAttempt attempts a' := by rw [setAttempt, hm.resource_eq, hid]
      obtain ⟨-, hs⟩ := ho₁.continues ht₁ hact (setAttempt attempts a')
      simp only [hset]
      refine .attempt ha hadv (congrArg Situation.air hs) rfl rfl ?_ ?_
      · show w₁.now = w.now
        rw [hw₁]
      · show w₁.publication = w.publication
        rw [hw₁]
  · cases h

/-- **Whatever happens while a pass is in the air is a move of one of its attempts, or leaves
them alone**, where nothing is committed. -/
theorem stirs_of_happens (ho : w.Orderly) (hair : w.air = some (f, attempts))
    (h : w.Happens S es w') (hes : es = []) : Stirs S f attempts w w' := by
  cases h with
  | move m h =>
    cases m with
    | task number =>
      obtain ⟨t, ht, hmove⟩ := Option.bind_eq_some_iff.1 h
      rw [episodes, ht] at hes
      obtain ⟨hsit, hevents⟩ := situation_of_moveTask ho hair (mem_of_task? ht).1 hes hmove
      exact .of_situation_eq hsit hevents
    | attempt number id =>
      obtain ⟨t, ht, hmove⟩ := Option.bind_eq_some_iff.1 h
      exact stirs_of_moveAttempt ho hair (mem_of_task? ht).1 hmove
  | tick hlater => exact .around rfl rfl hlater (.inl rfl) (.inl rfl)
  | view => exact .around rfl rfl (Nat.le_refl _) (.inl rfl) (.inl rfl)
  | publication h => exact .around rfl rfl (Nat.le_refl _) (.inl rfl) (.inr h)
  | rig h => exact .around rfl rfl (Nat.le_refl _) (.inr h) (.inl rfl)
  | notify =>
    refine .of_situation_eq (turn_notify ho).2 ?_
    unfold notify
    split <;> rfl
  | spawn role => exact .of_situation_eq (turn_spawn ho role).2 rfl
  | @order t e ht _ hrest =>
    have hstake : t.stake? = none := by rcases hrest with h | h <;> simp [Task.stake?, h]
    exact .of_situation_eq (ho.asks { t with yield := none } ht rfl hstake e).2 rfl
  | @giveUp t e ht _ hwait =>
    have hstill : t.flying = none := by simp [Task.flying, hwait]
    exact .of_situation_eq (ho.releases { t with activity := .finished } ht rfl rfl hstill).2 rfl
  | answer _ _ _ _ hsaid => exact .answer hsaid

/-! ## Passes that nobody disturbs -/

/-- The course of the attempt for a resource, where a pass sets out. -/
def courseOf (u : World) (r : Resource) : Course where
  region := u.rig.region
  publication := u.publication
  startedAt := u.now
  deadline := Instant.after u.now u.settings.reconcileTimeout
  fault := (u.rig.meet r.id).1
  resource := r
  found := u.rig.inventory.standing u.settings.scope r.id

/-- What has been reported about an id when a pass has set out. -/
def told (u : World) (id : ResourceId) : List Event :=
  u.reportsOf id ++ u.situation.flight.problemEvents.filter (·.id = id)

/-- A pass that set out from `u` is in the air at `w`, and each of its attempts is on its
course. -/
structure OnCourse (P : Set ResourceId) (es : List Episode) (u w : World) : Prop where
  orderly : w.Orderly
  tells : Tells u.settings es w.situation
  aimed : Aimed u.settings u.rig.region P w.situation
  publication : w.publication = u.publication
  air : ∃ attempts, w.air = some (u.situation.flight, attempts)
  course : ∀ a ∈ w.situation.attempts, ∃ reports,
    w.reportsOf a.resource.id = u.told a.resource.id ++ reports ∧
      a.IsOn (u.courseOf a.resource) w.now
        (w.rig.inventory.standing u.settings.scope a.resource.id) reports
  /-- Under other names nothing has changed. -/
  others : ∀ key, (∀ r ∈ u.situation.flight.batch, key ≠ u.settings.scope.nameOf r.id) →
    w.rig.inventory.get? key = u.rig.inventory.get? key
  /-- About other ids nothing was reported. -/
  silent : ∀ id, id ∉ u.situation.flight.batch.map (·.id) → w.reportsOf id = u.told id

variable {P : Set ResourceId} {a a' : Attempt} {w₁ : World}

/-- **The attempts of a pass set out on their courses**, where no gate is up. -/
theorem OnCourse.takeOff (ho : u.Orderly) (htells : Tells u.settings es u.situation)
    (haimed : Aimed u.settings u.rig.region P u.situation) (ht : t ∈ u.tasks)
    (hact : t.activity = .queued .converge) (hheld : u.lock.isHeldBy t.number = true)
    (hgates : u.rig.gates = []) : OnCourse P es u (u.takeOff t) := by
  obtain ⟨ho₁, hoff⟩ := ho.takesOff ht hact hheld
  have hair : u.situation.air = none := ho.air_of_queued ht hact hheld
  have htells₁ := htells.takeOff ho ht hact hheld
  have haimed₁ := haimed.takeOff htells
  have hevents : ∀ id, (u.takeOff t).reportsOf id = u.told id := fun id =>
    reportsOf_append events_takeOff
  have hinv : (u.takeOff t).rig.inventory = u.rig.inventory := by
    rw [← rig_situation, hoff]
    exact u.situation.inventory_takeOff
  have hnow : (u.takeOff t).now = u.now := by
    rw [← now_situation, hoff]
    rfl
  have hattempts : (u.takeOff t).situation.attempts = u.situation.flight.batch.map fun r =>
      ⟨r, Instant.after u.now u.settings.reconcileTimeout,
        progressOf u.now (u.rig.meet r.id).1⟩ := by
    have hnd : (u.situation.flight.batch.map (·.id)).Nodup := Flight.nodup_batch
    rw [hoff]
    exact Rig.openAll_of_no_gates _ hgates hnd
  constructor
  · exact ho₁
  · exact htells₁
  · rw [hoff]
    exact haimed₁
  · rw [← publication_situation, hoff]
    rfl
  · exact ⟨_, ho.air_takeOff ht hact hheld⟩
  · intro a ha
    rw [hattempts, List.mem_map] at ha
    obtain ⟨r, -, rfl⟩ := ha
    rw [hnow, hinv]
    refine ⟨[], by rw [hevents, List.append_nil], ?_⟩
    exact Attempt.IsOn.setOut (k := u.courseOf r) (Instant.le_after _ _)
  · intro key _
    rw [hinv]
  · intro id _
    exact hevents id

namespace OnCourse

variable (h : OnCourse P es u w)
include h

/-- What is known of an attempt in the air: its resource is of the batch and has one of the ids,
and its handle and what it asks for are for its own name. -/
theorem of_mem (ha : a ∈ attempts) (hair : w.air = some (u.situation.flight, attempts)) :
    a.resource ∈ u.situation.flight.batch ∧ a.resource.id ∈ P ∧
      a.resource.Asks u.settings.scope ∧ a.resource.Points u.settings.scope u.rig.region := by
  obtain ⟨hid, hasks, hpoints, -⟩ := h.aimed.of_mem h.tells hair ha
  exact ⟨(h.tells.inAir _ _ hair).mem_batch ha, hid, hasks, hpoints⟩

/-- A move of one attempt leaves all others on their courses. -/
theorem attempt (hinj : P.InjOn u.settings.scope.nameOf)
    (ho' : w'.Orderly) (htells' : Tells u.settings es w'.situation)
    (haimed' : Aimed u.settings u.rig.region P w'.situation)
    (hair₀ : w.air = some (u.situation.flight, attempts)) (ha : a ∈ attempts)
    (hm : w.advance a = some (a', w₁))
    (hair : w'.air = some (u.situation.flight, setAttempt attempts a'))
    (hrig : w'.rig = w₁.rig) (hevents : w'.events = w₁.events) (hnow : w'.now = w.now)
    (hpub : w'.publication = w.publication) : OnCourse P es u w' := by
  obtain ⟨hbatch, hid, hasks, hpoints⟩ := h.of_mem ha hair₀
  have hcourse : ∀ b ∈ attempts, ∃ reports,
      w.reportsOf b.resource.id = u.told b.resource.id ++ reports ∧
        b.IsOn (u.courseOf b.resource) w.now
          (w.rig.inventory.standing u.settings.scope b.resource.id) reports := by
    have hall := h.course
    rwa [Situation.attempts_of_air hair₀] at hall
  obtain ⟨reports, hreports, hon⟩ := hcourse a ha
  have hmove : Advances u.settings.scope (u.courseOf a.resource) reports w w₁ a' :=
    isOn_of_advance h.aimed.hosts hinj hid hasks hpoints h.publication hon hm
  obtain ⟨⟨new, hnew, hids, hon'⟩, hothers⟩ := hmove
  have hadded : w'.events = w.events ++ new.map (Stamped.mk w.now) := hevents.trans hnew
  have hresource : a'.resource = a.resource := hon'.resource
  constructor
  · exact ho'
  · exact htells'
  · exact haimed'
  · exact hpub.trans h.publication
  · exact ⟨_, hair⟩
  · intro b hb
    rw [Situation.attempts_of_air hair, mem_setAttempt ha hresource] at hb
    rcases hb with rfl | ⟨hb, hne⟩
    · have hall : new.filter (·.id = a.resource.id) = new :=
        List.filter_eq_self.2 fun e he => decide_eq_true (hids e he)
      refine ⟨reports ++ new, ?_, ?_⟩
      · rw [hresource, reportsOf_append hadded, hall, hreports, List.append_assoc]
      · rw [hresource, hnow, hrig]
        exact hon'
    · obtain ⟨reports', hreports', hon''⟩ := hcourse b hb
      have hname : u.settings.scope.nameOf b.resource.id ≠
          u.settings.scope.nameOf a.resource.id := fun hname =>
        hne (hinj (h.of_mem hb hair₀).2.1 hid hname)
      have hnone : new.filter (·.id = b.resource.id) = [] := by
        rw [List.filter_eq_nil_iff]
        intro e he heq
        exact hne ((of_decide_eq_true heq).symm.trans (hids e he))
      have hsame : w₁.rig.inventory.standing u.settings.scope b.resource.id =
          w.rig.inventory.standing u.settings.scope b.resource.id := hothers _ hname
      refine ⟨reports', ?_, ?_⟩
      · rw [reportsOf_append hadded, hnone, List.append_nil, hreports']
      · rw [hnow, hrig, hsame]
        exact hon''
  · intro key hkey
    rw [hrig, hothers key (hkey _ hbatch), h.others key hkey]
  · intro id hnot
    have hnone : new.filter (·.id = id) = [] := by
      rw [List.filter_eq_nil_iff]
      intro e he heq
      have hid' : id = a.resource.id := (of_decide_eq_true heq).symm.trans (hids e he)
      exact hnot (hid' ▸ List.mem_map_of_mem hbatch)
    rw [reportsOf_append hadded, hnone, List.append_nil, h.silent id hnot]

/-- **Whatever happens leaves each attempt on its course**, where nobody disturbs the pass. -/
theorem happen (hinj : P.InjOn u.settings.scope.nameOf)
    (hw : w.Happens (.steady u.settings P u.publication) [] w') (hclock : w.Awaits w'.now) :
    OnCourse P es u w' := by
  obtain ⟨ho', hturn⟩ := turn_of_happens h.orderly hw
  have htells' : Tells u.settings es w'.situation := by
    have hnext := h.tells.turn (hturn.any fun _ _ hsaid => False.elim hsaid)
    rwa [List.append_nil] at hnext
  have haimed' : Aimed u.settings u.rig.region P w'.situation :=
    h.aimed.turn h.tells hinj (hturn.mono (Surroundings.steady_within_troubled _ _ _))
  obtain ⟨attempts, hair₀⟩ := h.air
  cases stirs_of_happens h.orderly hair₀ hw rfl with
  | attempt ha hm hair hrig hevents hnow hpub =>
    exact h.attempt hinj ho' htells' haimed' hair₀ ha hm hair hrig hevents hnow hpub
  | answer hsaid => exact hsaid.elim
  | around hair hevents hnow hrig hpub =>
    have hinv : w'.rig.inventory = w.rig.inventory := by
      rcases hrig with hrig | ⟨-, -, hinv⟩
      · rw [hrig]
      · exact hinv
    have hreports : ∀ id, w'.reportsOf id = w.reportsOf id := fun id => by
      rw [reportsOf, hevents, reportsOf]
    constructor
    · exact ho'
    · exact htells'
    · exact haimed'
    · rcases hpub with hpub | hpub
      · exact hpub.trans h.publication
      · exact hpub
    · exact ⟨attempts, hair.trans hair₀⟩
    · intro a ha
      rw [Situation.attempts_of_air (hair.trans hair₀)] at ha
      obtain ⟨reports, htold, hon⟩ := h.course a (by rwa [Situation.attempts_of_air hair₀])
      refine ⟨reports, by rw [hreports, htold], ?_⟩
      rw [hinv]
      -- the clock has waited for the attempt, if it has gone on at all
      rcases Nat.lt_or_ge w.now w'.now with hlt | hge
      · exact hon.later (hclock hlt _ _ hair₀ a ha)
      · rwa [Nat.le_antisymm hge hnow]
    · intro key hkey
      rw [hinv, h.others key hkey]
    · intro id hid
      rw [hreports, h.silent id hid]

end OnCourse

/-- **Along a pass that nobody disturbs each attempt stays on its course.** -/
theorem Unfolds.onCourse {v : World} (hinj : P.InjOn u.settings.scope.nameOf)
    (h₀ : OnCourse P es u v) (h : Unfolds (.steady u.settings P u.publication) v w) :
    OnCourse P es u w := by
  induction h with
  | start => exact h₀
  | happen _ hw hclock ih => exact ih.happen hinj hw hclock

end World

end IngressBalancer
