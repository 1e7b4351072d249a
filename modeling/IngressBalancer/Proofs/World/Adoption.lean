import IngressBalancer.Proofs.Controller.Adoption
import IngressBalancer.Proofs.World.Faithful
import IngressBalancer.Proofs.World.Provisions
/-!
# What a resync tracks, and for how long

A resync loses load balancers from sight. Of those that it discovers under one
id it tracks the last alone (`resync_tracks_last`, `resync_loses_first`), so
it loses none exactly where no two have one owner. What it does track is safe:
as long as nobody makes up a success, it stays tracked until nothing stands at
its address (`Runs.tracked_until_gone`). A move of an attempt is all there is
to that (`Attempt.Moves.keeps`), since passes set out with the handles that
are tracked.
-/

namespace IngressBalancer

/-- Anything goes, where others do at the provider what can be done there, and nobody but the
provider says that an attempt has succeeded. -/
def Surroundings.honest : Surroundings where
  shows _ := True
  publishes _ := True
  alters g g' := outOfBand.alters g g' ∧ g'.Conducts Conduct.IsEarly
  answers _ o := ∃ e, o = .error e

theorem Surroundings.honest_within_outOfBand : honest.Within outOfBand where
  shows _ h := h
  publishes _ h := h
  alters _ _ h := h.1
  answers _ _ h r' hr' := by
    obtain ⟨e, rfl⟩ := h
    cases hr'

/-- Whether an episode is a pass. -/
def Episode.IsPass : Episode → Prop
  | .pass .. => True
  | .resync .. => False

variable {region arn : String} {g g' : Rig} {r : Resource} {a a' : Attempt} {now : Instant}
variable {publication : Option Span}

/-- Whether what is there in the end has a live handle with an address, where there is a success. -/
def KeepsArn (arn : String) (o : Except Failure Resource) : Prop :=
  ∀ r, o = .ok r → r.liveHandle?.map (·.arn) = some arn

theorem keepsArn_error (e : Failure) : KeepsArn arn (.error e) := fun _ h => by cases h

/-- Whether an attempt leaves a live handle with an address, if it succeeds, or is about to delete
what stands there. -/
def Progress.Keeps (region arn : String) (r : Resource) : Progress → Prop
  | .atGate _ | .hanging => True
  | .waiting conduct _ => conduct.IsEarly
  | .decided c => KeepsArn arn (c.outcome r) ∨
      ∃ lb, c = .delete lb ∧ lb.IsNamed region ∧ lb.arn = arn
  | .reporting c _ => KeepsArn arn (c.outcome r)
  | .done o => KeepsArn arn o

theorem Progress.IsFresh.keeps {p : Progress} (h : p.IsFresh Conduct.IsEarly) :
    p.Keeps region arn r := by
  cases p with
  | atGate => trivial
  | hanging => trivial
  | waiting => exact h
  | decided => exact h.elim
  | reporting => exact h.elim
  | done => exact h.elim

/-- **A move of an attempt for what is tracked keeps its address**, unless nothing stands there
before or afterwards. -/
theorem Attempt.Moves.keeps (hm : a.Moves now publication g g' a') (hg : g.Provides region)
    (hearly : g.Conducts Conduct.IsEarly) (hr : a.resource.liveHandle?.map (·.arn) = some arn)
    (ha : a.progress.Keeps region arn a.resource) :
    a'.progress.Keeps region arn a.resource ∨ g.inventory.findByArn arn = none ∨
      g'.inventory.findByArn arn = none := by
  obtain ⟨h, hh, rfl⟩ := Option.map_eq_some_iff.1 hr
  have hnamed := hg.reaches.named
  cases hm with
  | late => exact .inl (keepsArn_error _)
  | meet =>
    have hfresh : (World.progressOf now (g.meet a.resource.id).1).IsFresh Conduct.IsEarly :=
      Rig.isFresh_progressOf (hearly.meet _).1
    exact .inl hfresh.keeps
  | strike hp ho =>
    rw [hp] at ha
    obtain ⟨e, rfl⟩ := Conduct.IsEarly.exists_error ha ho
    exact .inl (keepsArn_error e)
  | look =>
    cases hlb : g.inventory.findByArn h.arn with
    | none => exact .inr (.inl rfl)
    | some lb =>
      refine .inl ?_
      by_cases hd : a.resource.desired = none
      · obtain ⟨harn, key, hkey⟩ := Inventory.exists_of_findByArn hlb
        exact .inr ⟨lb, Change.plan_of_removal hh hlb hd,
          hg.region_eq ▸ (hnamed key lb hkey).2, harn⟩
      · exact .inl fun r' hr' => Change.arn_of_outcome_plan hh hlb hd hr'
  | change hp hnext =>
    rw [hp] at ha
    rcases ha with hkeeps | ⟨lb, rfl, hlb, harn⟩
    · rcases hnext with ⟨-, rfl⟩ | ⟨-, rfl⟩
      · exact .inl hkeeps
      · exact .inl hkeeps
    · exact .inr (.inr (harn ▸ Change.findByArn_delete hnamed hlb))
  | published hp =>
    rw [hp] at ha
    exact .inl ha

namespace World

variable {settings : Settings} {es : List Episode} {c c' : Situation} {u v w : World} {t : Task}
variable {id : ResourceId} {found : List Resource}

/-- What is known while a load balancer is tracked as that of an id. -/
structure Watches (settings : Settings) (region : String) (id : ResourceId) (arn : String)
    (c : Situation) : Prop where
  provisions : Provisions region c
  same : c.settings = settings
  inAir : ∀ f attempts, c.air = some (f, attempts) → InAir settings c.state f attempts
  early : c.rig.Conducts Conduct.IsEarly
  tracked : (c.state.registry.handle? id).map (·.arn) = some arn
  keeps : ∀ a ∈ c.attempts, a.resource.id = id → a.progress.Keeps region arn a.resource

namespace Watches

variable {f : Flight} {attempts : List Attempt} {os : List Flight.Outcome}
variable (h : Watches settings region id arn c)
include h

/-- An attempt for the id has the handle that is tracked. -/
theorem arn_of_mem (hair : c.air = some (f, attempts)) (ha : a ∈ attempts)
    (hid : a.resource.id = id) : a.resource.liveHandle?.map (·.arn) = some arn := by
  have hin := h.inAir f attempts hair
  have hmem := hin.mem_batch ha
  obtain ⟨view, startedAt, rfl⟩ := hin.setOut
  rw [Flight.liveHandle?_of_mem_batch hmem, hid]
  exact h.tracked

/-- Another attempt in the stead of one for the same resource. -/
theorem keeps_set (hair : c.air = some (f, attempts)) (ha : a ∈ attempts)
    (hr : a'.resource = a.resource)
    (hkeeps : a.resource.id = id → a'.progress.Keeps region arn a.resource) :
    ∀ b ∈ setAttempt attempts a', b.resource.id = id → b.progress.Keeps region arn b.resource := by
  intro b hb hid
  rcases (mem_setAttempt ha hr).1 hb with rfl | ⟨hb, -⟩
  · rw [hr] at hid ⊢
    exact hkeeps hid
  · exact h.keeps b (by rwa [Situation.attempts_of_air hair]) hid

/-- **A landing leaves it tracked.** -/
theorem tracked_land (hair : c.air = some (f, attempts)) (hos : outcomes? attempts = some os) :
    ((c.commit (.pass f os c.now)).state.registry.handle? id).map (·.arn) = some arn := by
  have hin := h.inAir f attempts hair
  rw [Situation.commit]
  by_cases hid : id ∈ attempts.map (·.resource.id)
  · obtain ⟨a, ha, rfl⟩ := List.mem_map.1 hid
    obtain ⟨out, hdone, -⟩ := exists_outcome_of_mem hos ha
    cases out with
    | ok r =>
      have hkeeps := h.keeps a (by rwa [Situation.attempts_of_air hair]) rfl
      rw [hdone] at hkeeps
      rw [hin.handle?_of_ok hos ha hdone]
      exact hkeeps r rfl
    | error e =>
      rw [hin.handle?_of_error hos ha hdone]
      exact h.arn_of_mem hair ha rfl
  · rw [hin.handle?_of_idle hos hid]
    exact h.tracked

/-- **Every turn leaves it tracked that commits no resync**, unless nothing stands at the address
before or afterwards. -/
theorem turn (hturn : c.Turn .honest es c') (hpasses : ∀ e ∈ es, e.IsPass) :
    Watches settings region id arn c' ∨ c.rig.inventory.findByArn arn = none ∨
      c'.rig.inventory.findByArn arn = none := by
  have houtOfBand : c.Turn .outOfBand es c' := hturn.mono Surroundings.honest_within_outOfBand
  have hprovisions : Provisions region c' := h.provisions.turn houtOfBand
  obtain ⟨hsame, hinAir⟩ := inAir_turn h.same h.inAir
    (houtOfBand.mono Surroundings.outOfBand_within_any)
  cases hturn with
  | rig halters =>
    exact .inl ⟨hprovisions, hsame, hinAir, halters.2, h.tracked, h.keeps⟩
  | takeOff =>
    obtain ⟨hearly, hfresh⟩ := h.early.openAll c.now
      (Instant.after c.now c.settings.reconcileTimeout) c.flight.batch
    exact .inl ⟨hprovisions, hsame, hinAir, hearly, h.tracked, fun a ha _ => (hfresh a ha).keeps⟩
  | @attempt f attempts a a' g hair ha hm =>
    have hset := h.keeps_set hair ha hm.resource_eq
    have hwatch : (a.resource.id = id → a'.progress.Keeps region arn a.resource) →
        Watches settings region id arn
          { c with rig := g, air := some (f, setAttempt attempts a') } := fun hkeeps =>
      ⟨hprovisions, hsame, hinAir, h.early.moves hm, h.tracked, hset hkeeps⟩
    by_cases hid : a.resource.id = id
    · have hbefore := h.keeps a (by rwa [Situation.attempts_of_air hair]) hid
      exact (hm.keeps h.provisions.provides h.early (h.arn_of_mem hair ha hid) hbefore).imp_left
        fun hkeeps => hwatch fun _ => hkeeps
    · exact .inl (hwatch fun heq => absurd heq hid)
  | @answer f attempts a outcome hair ha _ hsaid =>
    obtain ⟨e, rfl⟩ := hsaid
    have hr : ({ a with progress := .done (.error e) } : Attempt).resource = a.resource := rfl
    exact .inl ⟨hprovisions, hsame, hinAir, h.early, h.tracked,
      h.keeps_set hair ha hr fun _ => keepsArn_error e⟩
  | land hair hos =>
    exact .inl ⟨hprovisions, hsame, hinAir, h.early, h.tracked_land hair hos,
      fun a ha => absurd ha List.not_mem_nil⟩
  | resync => exact (hpasses _ (.head _)).elim
  | _ => exact .inl ⟨hprovisions, hsame, hinAir, h.early, h.tracked, h.keeps⟩

end Watches

/-- **What is tracked stays tracked until nothing stands at its address**, as long as there is no
resync. -/
theorem Runs.tracked_until_gone (ho : u.Orderly) (h0 : Watches settings region id arn u.situation)
    (h : Runs .honest u es v) (hpasses : ∀ e ∈ es, e.IsPass) :
    Watches settings region id arn v.situation ∨
      ∃ es₁ es₂ x, Runs .honest u es₁ x ∧ Runs .honest x es₂ v ∧
        x.rig.inventory.findByArn arn = none := by
  induction h with
  | start => exact .inl h0
  | @happen es₁ es₂ w w' hrun hw ih =>
    have hnext := (turn_of_happens (hrun.orderly ho) hw).2
    have hstep : Runs .honest w es₂ w' := Runs.happen .start hw
    rcases ih fun e he => hpasses e (List.mem_append_left _ he) with
      hwatch | ⟨_, _, x, h₁, h₂, hx⟩
    · rcases hwatch.turn hnext fun e he => hpasses e (List.mem_append_right _ he) with
        hwatch' | hgone | hgone
      · exact .inl hwatch'
      · exact .inr ⟨_, _, w, hrun, hstep, hgone⟩
      · exact .inr ⟨_, _, w', hrun.happen hw, .start, hgone⟩
    · exact .inr ⟨_, _, x, h₁, h₂.happen hw, hx⟩

/-! ## Resyncs -/

section Resync

variable (ho : w.Orderly) (ht : t ∈ w.tasks) (hact : t.activity = .queued .resync)
variable (hheld : w.lock.isHeldBy t.number = true)
include ho ht hact hheld

/-- A resync that succeeds does nothing but commit what it has discovered. -/
theorem Orderly.situation_resync (hd : w.rig.discover w.scope = .ok found) :
    (w.resync t).Orderly ∧
      (w.resync t).situation = w.situation.commit (.resync found w.now) := by
  obtain ⟨ho', hturn⟩ := turn_resync (S := .any) ho ht hact hheld
  have hes : w.episodesOf t = [.resync found w.now] := by
    simp only [episodesOf, hact, hheld, if_true, hd]
  rw [hes] at hturn
  exact ⟨ho', hturn.eq_commit⟩

/-- What a resync tracks is watched from then on. -/
theorem Orderly.watches_resync (hp : w.rig.Provides region)
    (hearly : w.rig.Conducts Conduct.IsEarly) (hd : w.rig.discover w.scope = .ok found)
    (hid : ((w.resync t).state.registry.handle? id).map (·.arn) = some arn) :
    Watches w.settings region id arn (w.resync t).situation := by
  obtain ⟨-, hsit⟩ := ho.situation_resync ht hact hheld hd
  rw [← state_situation] at hid
  rw [hsit] at hid ⊢
  exact {
    provisions := ⟨hp, fun a ha => absurd ha List.not_mem_nil⟩
    same := rfl
    inAir := fun f attempts hair => by cases hair
    early := hearly
    tracked := hid
    keeps := fun a ha => absurd ha List.not_mem_nil }

/-- **A resync tracks the last of the load balancers that it discovers under one id**, and no other.
Take any state of a controller, and whatever has been done at its provider: load balancers created,
changed and removed, under any names and with any tags. A resync then discovers some. Each of them
is tracked unless a later one has its owner, so there are as many entries as owners, and all of them
are tracked exactly where no two have one owner. What is tracked is held or dispatched by the next
pass, whatever it is shown: the load balancer is removed where nobody declares the id, and left
standing else. And as long as there is no other resync and nobody makes up a success, it stays
tracked until nothing stands at its address. -/
theorem resync_tracks_last (hp : w.rig.Provides region)
    (hdiscovery : ∀ discovered, w.rig.discovery ≠ some (.ok discovered))
    (hd : w.rig.discover w.scope = .ok found) :
    let u := w.resync t
    (∀ before r after h, found = before ++ r :: after → r.liveHandle? = some h →
      (u.state.registry.Tracks h.arn ↔ ∀ r' ∈ after, r'.id ≠ r.id)) ∧
    u.state.registry.size = {id | ∃ r ∈ found, r.id = id}.ncard ∧
    (u.state.registry.size = found.length ↔ (found.map (·.id)).Nodup) ∧
    (∀ r ∈ u.state.registry.toList, ∀ h, r.liveHandle? = some h → ∀ view now,
      let f := Flight.start w.settings view u.state now
      f.desired.held.contains r.id = true ∨ ∃ r' ∈ f.batch, r'.id = r.id ∧
        ∀ inv, Provider.Reaches region inv →
          let left := (Provider.reconcile region inv r').inventory
          (¬ view.Declares w.settings r.id → left.findByArn h.arn = none) ∧
          (view.Declares w.settings r.id → inv.findByArn h.arn ≠ none →
            left.findByArn h.arn ≠ none)) ∧
    (w.rig.Conducts Conduct.IsEarly → ∀ arn, u.state.registry.Tracks arn →
      ∀ es v, Runs .honest u es v → (∀ e ∈ es, e.IsPass) → v.state.registry.Tracks arn ∨
        ∃ es₁ es₂ x, Runs .honest u es₁ x ∧ Runs .honest x es₂ v ∧
          x.rig.inventory.findByArn arn = none) := by
  intro u
  obtain rfl : found = w.rig.inventory.discover w.scope := Rig.eq_of_discover hdiscovery hd
  obtain ⟨ho', hsit⟩ := ho.situation_resync ht hact hheld hd
  have hregistry : u.state.registry = Resync.adopt (w.rig.inventory.discover w.scope) :=
    congrArg (fun c => c.state.registry) hsit
  have hretries : u.state.retries = ∅ := congrArg (fun c => c.state.retries) hsit
  refine ⟨fun before r after h hfound hh => ?_, ?_, ?_, fun r hr h hh view now => ?_,
    fun hearly arn harn es v hruns hpasses => ?_⟩
  · rw [hregistry]
    exact Resync.tracks_adopt_iff hp.reaches.named hfound hh
  · rw [hregistry]
    exact Resync.size_adopt
  · rw [hregistry]
    exact Resync.size_adopt_eq_length_iff
  · -- nothing has failed since the resync
    exact Flight.held_or_settled hr hh (by rw [hretries]; rfl)
  · obtain ⟨id, hid⟩ := Registry.tracks_iff.1 harn
    have hwatches := ho.watches_resync ht hact hheld hp hearly hd hid
    exact (hruns.tracked_until_gone ho' hwatches hpasses).imp_left fun hwatches' =>
      Registry.tracks_iff.2 ⟨id, hwatches'.tracked⟩

end Resync

/-- A world with load balancers that somebody has created, and with a resync under way. -/
def inhabited (specs : List Spec) : World :=
  let inventory := specs.foldl (fun inv spec => inv.insertExternal "us-east-1" spec) ∅
  ({ opening with rig := { opening.rig with inventory := inventory } } : World).ask
    { opening.operator with yield := none } .resync

theorem reaches_inhabited (specs : List Spec) :
    Provider.Reaches "us-east-1" (inhabited specs).rig.inventory := by
  have hinsert : ∀ inv, Provider.Reaches "us-east-1" inv → Provider.Reaches "us-east-1"
      (specs.foldl (fun inv spec => inv.insertExternal "us-east-1" spec) inv) := by
    induction specs with
    | nil => exact fun inv hinv => hinv
    | cons spec specs ih => exact fun inv hinv => ih _ (hinv.insert spec)
  exact hinsert ∅ .empty

theorem runs_inhabited (specs : List Spec) : Runs .outOfBand opening [] (inhabited specs) := by
  have hcreated : opening.Happens .outOfBand []
      { opening with rig := (inhabited specs).rig } := .rig ⟨rfl, fun _ => reaches_inhabited specs⟩
  exact .happen (.happen .start hcreated) (.order .resync (.head _) rfl (.inr rfl))

/-- A shop and a cafe with a load balancer each: both are tracked. -/
theorem resync_tracks_last_apart :
    let w := inhabited [Sample.specFor ⟨"default", "cafe"⟩ "prod-cafe",
      Sample.specFor Sample.shop "prod-shop"]
    let u := w.resync w.operator
    u.state.registry.size = 2 ∧
      u.state.registry.Tracks (Provider.arn "us-east-1" "prod-cafe") ∧
      u.state.registry.Tracks (Provider.arn "us-east-1" "prod-shop") := by
  intro w u
  have ho : w.Orderly := (runs_inhabited _).orderly (orderly_new _ _ _ _)
  let adopted (id : ResourceId) (name : String) : Resource :=
    ⟨id, none, some (Provider.provision "us-east-1" (Sample.specFor id name)).handle⟩
  obtain ⟨found, hd, hfound⟩ : ∃ found, w.rig.discover w.scope = .ok found ∧
      found = [adopted ⟨"default", "cafe"⟩ "prod-cafe", adopted Sample.shop "prod-shop"] :=
    ⟨_, rfl, by decide +kernel⟩
  have hmem : w.operator ∈ w.tasks := .head _
  obtain ⟨htracks, -, hsize, -⟩ := resync_tracks_last ho hmem rfl rfl
    ⟨rfl, reaches_inhabited _⟩ (fun _ h => by cases h) hd
  have hnd : (found.map (·.id)).Nodup := by
    rw [hfound]
    decide
  refine ⟨?_, (htracks [] _ _ _ hfound rfl).2 ?_, (htracks [_] _ [] _ hfound rfl).2 ?_⟩
  · rw [hsize.2 hnd, hfound]
    rfl
  · decide
  · decide

/-- **A resync loses the first of two.** Somebody has created two load balancers with the tags of
the shop. A resync discovers both of them, but it tracks only one. -/
theorem resync_loses_first :
    let w := inhabited [Sample.specFor Sample.shop "prod-shop",
      Sample.specFor Sample.shop "prod-spare"]
    let u := w.resync w.operator
    Runs .outOfBand opening [] w ∧ w.operator ∈ w.tasks ∧
      w.operator.activity = .queued .resync ∧ w.lock.isHeldBy w.operator.number = true ∧
      ∃ found, w.rig.discover w.scope = .ok found ∧ found.length = 2 ∧
        u.state.registry.size = 1 ∧
        ∃ r ∈ found, ∃ h, r.liveHandle? = some h ∧ ¬ u.state.registry.Tracks h.arn := by
  intro w u
  have hlost : ∃ r ∈ w.rig.inventory.discover w.scope, (r.liveHandle?.any fun h =>
      ¬ u.state.registry.Tracks h.arn) = true := by decide +kernel
  obtain ⟨r, hr, hany⟩ := hlost
  obtain ⟨h, hh, hne⟩ := (Option.any_eq_true _ _).1 hany
  exact ⟨runs_inhabited _, .head _, rfl, rfl, _, rfl, by decide +kernel, by decide +kernel,
    r, hr, h, hh, of_decide_eq_true hne⟩

end World

end IngressBalancer
