import IngressBalancer.Proofs.Controller.Strain
import IngressBalancer.Proofs.World.Accounts
import IngressBalancer.Proofs.World.Removals
/-!
# Retries

A stretch of a run in which an id keeps failing: only passes are committed,
each leaves the id tracked, all that is checked under it desires one value,
and no attempt for it succeeds. Along such a stretch the calls for the id,
the reports about it and its record are those of its failures in a row
(`Strained`). So there are no more calls than the policy allows, parking is
reported once and ends them (`bounded_retries`), and each of them waits for
the moment at which the one before it had set out, with the delay added
(`retries_spaced`): for that, and not for its end
(`retried_at_once`).
-/

namespace IngressBalancer

namespace Episode

/-- The attempts for an id that failed. -/
def misses (id : ResourceId) : Episode → List Miss
  | .pass f os _ => f.misses os id
  | .resync .. => []

/-- Whether an episode strains an id: a pass may do so, a resync does not. -/
def Strains (id : ResourceId) (d : Option Spec) : Episode → Prop
  | .pass f os _ => f.Strains os id d
  | .resync .. => False

end Episode

/-- What is reported about failures in a row, by their numbers in it; `n` came before. -/
def Miss.reports (policy : RetryPolicy) (id : ResourceId) (n : Nat) (ms : List Miss) :
    List Event :=
  ms.mapIdx fun k m =>
    Flight.failureEvent id m.failure (policy.outcomeOf (n + k + 1) m.failure)

variable {settings : Settings} {s : SyncState} {f : Flight} {os : List Flight.Outcome}
variable {endedAt : Instant} {id : ResourceId} {d : Option Spec} {first record : Option RetryRecord}
variable {ms : List Miss} {policy : RetryPolicy}

/-! ## Reports -/

/-- Parking is reported among the failures. -/
theorem Event.countP_parked (events : List Event) :
    events.countP (fun e => e.id = id && e.reason = "ReconcileParked") =
      (events.filter fun e => e.id = id && e.isFailure).countP
        (·.reason = "ReconcileParked") := by
  rw [List.countP_filter]
  refine List.countP_congr fun e _ => ?_
  simp only [Bool.and_eq_true, decide_eq_true_eq, isFailure, Bool.or_eq_true]
  tauto

namespace Miss

theorem reports_append (n : Nat) (ms ms' : List Miss) :
    reports policy id n (ms ++ ms') =
      reports policy id n ms ++ reports policy id (n + ms.length) ms' := by
  rw [reports, List.mapIdx_append]
  simp only [reports, Nat.add_assoc, Nat.add_comm, Nat.add_left_comm]

/-- A report that is about a failure to be retried does not say that the resource is parked. -/
theorem reason_of_retried {m : Miss} {n : Nat} (h : m.failure.isRetriable = true)
    (hn : n < policy.maxFailures.toNat) :
    (Flight.failureEvent id m.failure (policy.outcomeOf n m.failure)).reason ≠
      "ReconcileParked" := by
  rw [RetryPolicy.outcomeOf, if_pos ⟨h, hn⟩]
  exact (by decide : "ReconcileFailed" ≠ "ReconcileParked")

end Miss

namespace RetryBook.Streak

/-- **Only the last failure of a streak can park**, and it does not where one more attempt is
due. -/
theorem length_le_of_parked (h : Streak policy d first ms record) {k : Nat} (hk : k < ms.length)
    (hparked : (Flight.failureEvent id ms[k].failure
      (policy.outcomeOf (countFor d first + k + 1) ms[k].failure)).reason = "ReconcileParked") :
    ms.length ≤ k + 1 ∧ ∀ now, ¬ Due policy d now record := by
  have hretried : ∀ n, n = countFor d first + (k + 1) → ms[k].failure.isRetriable = true →
      ¬ n < policy.maxFailures.toNat := by
    rintro n rfl hretriable hlt
    exact Miss.reason_of_retried hretriable hlt hparked
  have hlast : ms.length ≤ k + 1 := by
    by_contra hlt
    obtain ⟨⟨hretriable, hbound⟩, -⟩ := h.spaced (Nat.lt_of_not_le hlt)
    exact hretried _ rfl hretriable hbound
  refine ⟨hlast, fun now hdue => ?_⟩
  obtain ⟨hretriable, hbound, -⟩ := h.due (getLast?_eq k hk hlast) hdue
  exact hretried _ (by omega) hretriable hbound

/-- **After a report that parks there are no more failures**, and no attempt is due. -/
theorem ended_of_parked {ms' : List Miss} {e : Event} (h : Streak policy d first (ms ++ ms') record)
    (he : e ∈ Miss.reports policy id (countFor d first) ms)
    (hparked : e.reason = "ReconcileParked") : ms' = [] ∧ ∀ now, ¬ Due policy d now record := by
  obtain ⟨k, hk, rfl⟩ := List.mem_mapIdx.1 he
  have hk' : k < (ms ++ ms').length := by
    rw [List.length_append]
    omega
  have hget : (ms ++ ms')[k] = ms[k] := List.getElem_append_left hk
  obtain ⟨hle, hnever⟩ := h.length_le_of_parked hk' (by
    rw [hget]
    exact hparked)
  refine ⟨List.length_eq_zero_iff.1 ?_, hnever⟩
  rw [List.length_append] at hle
  omega

/-- Parking is reported once at most. -/
theorem countP_parked_le (h : Streak policy d first ms record) :
    (Miss.reports policy id (countFor d first) ms).countP (·.reason = "ReconcileParked") ≤ 1 := by
  rcases List.eq_nil_or_concat' ms with rfl | ⟨init, m, rfl⟩
  · exact Nat.zero_le _
  · have hinit : (Miss.reports policy id (countFor d first) init).countP
        (·.reason = "ReconcileParked") = 0 := by
      rw [List.countP_eq_zero]
      intro e he hparked
      exact List.cons_ne_nil _ _ (h.ended_of_parked he (of_decide_eq_true hparked)).1
    rw [Miss.reports_append, List.countP_append, hinit, Nat.zero_add]
    exact List.countP_le_length

end RetryBook.Streak

namespace Flight

/-- A pass that strains an id calls the provider for each of its failures. -/
theorem map_time_calls (he : (Episode.pass f os endedAt).IsWhole settings s)
    (hf : f.Strains os id d) :
    (f.calls.filter (·.id = id)).map (·.time) = (f.misses os id).map (·.startedAt) := by
  have hnd := nodup_of_isWhole he
  have hcovers : os.map (·.1) = f.batch.map (·.id) := he.2.1
  have hcalls : f.calls.map (·.id) = f.batch.map (·.id) := Call.map_id_of _ _
  by_cases hmem : id ∈ os.map (·.1)
  · obtain ⟨e, ho⟩ := hf.exists_error hmem
    rw [hcovers] at hmem hnd
    obtain ⟨r, hr, rfl⟩ := List.mem_map.1 hmem
    have hcall : Call.of f.startedAt r ∈ f.calls := List.mem_map_of_mem hr
    have hone := filter_key_eq_singleton (hcalls ▸ hnd) hcall
    rw [misses_of_mem (hcovers ▸ hnd) ho]
    exact congrArg (List.map (·.time)) hone
  · rw [misses_of_not_mem hmem, filter_key_eq_nil (by rwa [hcalls, ← hcovers])]
    rfl

end Flight

namespace World

open RetryBook (Streak Due countFor)

variable {rig : Rig} {view : View} {monitor : Monitor} {u v w : World}
variable {es₀ es es₁ es₂ : List Episode} {c c' : Situation}

/-- What holds along a stretch in which an id keeps failing: its record, the reports about it
and the calls for it are those of its failures in a row. -/
structure Strained (settings : Settings) (id : ResourceId) (d : Option Spec)
    (first : Option RetryRecord) (es : List Episode) (c : Situation) : Prop where
  streak : Streak settings.retry d first (es.flatMap (Episode.misses id)) (c.state.retries.get? id)
  reports : (es.flatMap (Episode.reports settings.retry)).filter (·.id = id) =
    Miss.reports settings.retry id (countFor d first) (es.flatMap (Episode.misses id))
  calls : ((es.flatMap Episode.calls).filter (·.id = id)).map (·.time) =
    (es.flatMap (Episode.misses id)).map (·.startedAt)

/-- **Each pass of the stretch adds its failure**, if it has one. -/
theorem Strained.pass (h : Strained settings id d first es c)
    (he : (Episode.pass f os endedAt).IsWhole settings c.state) (hf : f.Strains os id d)
    (hstate : c'.state = (Episode.pass f os endedAt).commit settings c.state) :
    Strained settings id d first (es ++ [Episode.pass f os endedAt]) c' := by
  have hadd : (es ++ [Episode.pass f os endedAt]).flatMap (Episode.misses id) =
      es.flatMap (Episode.misses id) ++ f.misses os id := by
    rw [List.flatMap_append, List.flatMap_singleton]
    rfl
  constructor
  · rw [hadd, hstate]
    exact h.streak.pass he hf
  · rw [hadd, List.flatMap_append, List.filter_append, h.reports, Miss.reports_append,
      List.flatMap_singleton]
    refine congrArg _ ((h.streak.reports_pass he hf).trans ?_)
    -- the pass has one failure at most, so the numbers of the others do not matter
    by_cases hmem : id ∈ os.map (·.1)
    · obtain ⟨e, ho⟩ := hf.exists_error hmem
      rw [Flight.misses_of_mem (Flight.nodup_of_isWhole he) ho]
      rfl
    · rw [Flight.misses_of_not_mem hmem]
      rfl
  · rw [hadd, List.flatMap_append, List.filter_append, List.map_append, h.calls,
      List.map_append, List.flatMap_singleton]
    exact congrArg _ (Flight.map_time_calls he hf)

/-- **And so it goes along the stretch.** -/
theorem Runs.strained (ho : u.Orderly) (ht : Tells settings es₀ u.situation)
    (h : Runs .any u es w) (hstrains : ∀ e ∈ es, e.Strains id d) :
    Strained settings id d (u.state.retries.get? id) es w.situation := by
  refine (h.invariant_of_tells (fun _ _ ho => ho) ho ht (I := fun es c =>
    (∀ e ∈ es, e.Strains id d) → Strained settings id d (u.state.retries.get? id) es c)
    (fun _ => ⟨.start, rfl, rfl⟩) ?_).2 hstrains
  intro es c es' c' ht hc hturn hstrains
  have hbefore := hc fun e he => hstrains e (List.mem_append_left _ he)
  cases hturn with
  | land hair hos =>
    refine hbefore.pass ((ht.inAir _ _ hair).isWhole hos)
      (hstrains _ (List.mem_append_right _ List.mem_cons_self)) ?_
    rw [← ht.same]
    rfl
  | resync =>
    exact (hstrains _ (List.mem_append_right _ List.mem_cons_self)).elim
  | _ =>
    rw [List.append_nil]
    exact ⟨hbefore.streak, hbefore.reports, hbefore.calls⟩

/-- A pass in the air calls the provider for an id once at most, and only where the record does
not hold that back. -/
theorem InAir.calls_eq {attempts : List Attempt} (h : InAir settings s f attempts)
    (hsteady : ∀ r, f.checked? id = some r → r.desired = d) :
    f.calls.filter (·.id = id) = [] ∨ ∃ call, f.calls.filter (·.id = id) = [call] ∧
      Due settings.retry d call.time (s.retries.get? id) := by
  obtain ⟨v, startedAt, rfl⟩ := h.setOut
  have hcalls : (Flight.start settings v s startedAt).calls.map (·.id) =
      (Flight.start settings v s startedAt).batch.map (·.id) := Call.map_id_of _ _
  by_cases hmem : id ∈ (Flight.start settings v s startedAt).batch.map (·.id)
  · obtain ⟨r, hr, rfl⟩ := List.mem_map.1 hmem
    obtain ⟨hchecked, hdue⟩ := Flight.mem_batch_iff_due.1 hr
    have hcall : Call.of startedAt r ∈ (Flight.start settings v s startedAt).calls :=
      List.mem_map_of_mem hr
    refine .inr ⟨Call.of startedAt r,
      filter_key_eq_singleton (hcalls ▸ Flight.nodup_batch) hcall, ?_⟩
    rw [← hsteady r hchecked]
    exact hdue
  · exact .inl (filter_key_eq_nil (by rwa [hcalls]))

/-- No call is taken back. -/
theorem Runs.exists_calls {S : Surroundings} (ho : u.Orderly) (h : Runs S u es w) :
    ∃ calls, w.calls = u.calls ++ calls := by
  refine Runs.invariant (I := fun _ c => ∃ calls, c.calls = u.calls ++ calls) ho
    ⟨[], (List.append_nil _).symm⟩ ?_ h
  rintro es c es' c' ⟨calls, hcalls⟩ hturn
  rcases calls_of_turn hturn with hsame | ⟨-, rfl⟩
  · exact ⟨calls, hsame.trans hcalls⟩
  · exact ⟨_, (congrArg (· ++ _) hcalls).trans (List.append_assoc _ _ _)⟩

section Stretch

variable (h₀ : Runs .any (World.new settings view rig monitor) es₀ u) (hidle : u.air = none)
variable (hsteady : ∀ f attempts, w.air = some (f, attempts) →
  ∀ r, f.checked? id = some r → r.desired = d)
include h₀ hidle hsteady

/-- The calls for an id along a stretch: one for each failure, and those of the pass in the air,
which are made where the record does not hold them back. -/
theorem Runs.exists_starts (h : Runs .any u es w) (hstrains : ∀ e ∈ es, e.Strains id d) :
    ∃ calls last, w.calls = u.calls ++ calls ∧
      (calls.filter (·.id = id)).map (·.time) =
        (es.flatMap (Episode.misses id)).map (·.startedAt) ++ last ∧
      last = (w.situation.airCalls.filter (·.id = id)).map (·.time) ∧
      (last = [] ∨ ∃ t, last = [t] ∧ Due settings.retry d t (w.state.retries.get? id)) := by
  have ho : u.Orderly := h₀.orderly (orderly_new _ _ _ _)
  have hrun := Runs.strained ho h₀.tells h hstrains
  refine ⟨_, _, h.calls_eq ho hidle, ?_, rfl, ?_⟩
  · rw [List.filter_append, List.map_append, hrun.calls]
  · cases hair : w.air with
    | none =>
      refine .inl ?_
      rw [Situation.airCalls, show w.situation.air = none from hair]
      rfl
    | some x =>
      obtain ⟨f, attempts⟩ := x
      have hcalls : w.situation.airCalls = f.calls := by
        rw [Situation.airCalls, show w.situation.air = some (f, attempts) from hair]
        rfl
      have hin := (h.tells_append ho h₀.tells).inAir f attempts hair
      rw [hcalls]
      rcases hin.calls_eq (hsteady f attempts hair) with hnone | ⟨call, hone, hdue⟩
      · exact .inl (by rw [hnone]; rfl)
      · exact .inr ⟨call.time, by rw [hone]; rfl, hdue⟩

/-- **Parking ends the calls**: where it has been reported by some moment of a stretch, there is
no call for the id after that. -/
theorem Runs.no_call_of_parked (h₁ : Runs .any u es₁ v) (h₂ : Runs .any v es₂ w)
    (hstrains : ∀ e ∈ es₁ ++ es₂, e.Strains id d) {later : List Call}
    (hlater : w.calls = v.calls ++ later) {e : Event}
    (he : e ∈ Miss.reports settings.retry id (countFor d (u.state.retries.get? id))
      (es₁.flatMap (Episode.misses id))) (hparked : e.reason = "ReconcileParked") :
    later.filter (·.id = id) = [] := by
  have ho : u.Orderly := h₀.orderly (orderly_new _ _ _ _)
  have hbefore := Runs.strained ho h₀.tells h₁ fun e he => hstrains e (List.mem_append_left _ he)
  have hstreak := (Runs.strained ho h₀.tells (h₁.trans h₂) hstrains).streak
  rw [List.flatMap_append] at hstreak
  obtain ⟨hnomore, hnever⟩ := hstreak.ended_of_parked he hparked
  obtain ⟨calls, last, hcalls, htimes, -, hlast⟩ :=
    Runs.exists_starts h₀ hidle hsteady (h₁.trans h₂) hstrains
  have hnone : last = [] := hlast.resolve_right fun ⟨t, _, hdue⟩ => hnever t hdue
  -- so all calls of the stretch were made by then
  have hsame : calls = es₁.flatMap Episode.calls ++ v.situation.airCalls ++ later := by
    rw [hlater, h₁.calls_eq ho hidle, List.append_assoc] at hcalls
    exact (List.append_cancel_left hcalls).symm
  rw [hsame, hnone, List.flatMap_append, hnomore, List.append_nil, List.append_nil,
    List.filter_append, List.filter_append, List.map_append, List.map_append, hbefore.calls,
    List.append_assoc] at htimes
  exact List.map_eq_nil_iff.1 (List.append_eq_nil_iff.1 (List.append_right_eq_self.1 htimes)).2

omit hidle hsteady in
/-- The reports about failures for an id along a stretch. -/
theorem Runs.exists_reports (h : Runs .any u es w) (hstrains : ∀ e ∈ es, e.Strains id d) :
    ∃ events, w.events = u.events ++ events ∧
      (events.map (·.what)).filter (fun e => e.id = id && e.isFailure) =
        Miss.reports settings.retry id (countFor d (u.state.retries.get? id))
          (es.flatMap (Episode.misses id)) := by
  have ho : u.Orderly := h₀.orderly (orderly_new _ _ _ _)
  obtain ⟨events, hevents, hfailures⟩ := h.failures_eq ho h₀.tells
  refine ⟨events, hevents, ?_⟩
  rw [← (Runs.strained ho h₀.tells h hstrains).reports, ← hfailures, List.filter_filter]

/-- **Retries are bounded, and parking is reported once.** Take any run, and from a moment of it
at which no pass is in the air a stretch in which only passes are committed that leave an id
tracked, check nothing under it but one desired value, and have no attempt for it that succeeds.
Then along the stretch the provider is called for the id no more often than the policy allows,
or once; each call of a committed pass has failed, its failure is in the record where there was
none before, and has been reported once, by its number in the row; parking has been reported once
at most; and where it had been by some moment, there is no call after that. -/
theorem bounded_retries (h₁ : Runs .any u es₁ v) (h₂ : Runs .any v es₂ w)
    (hstrains : ∀ e ∈ es₁ ++ es₂, e.Strains id d) :
    let failed := (es₁ ++ es₂).flatMap (Episode.misses id)
    let first := u.state.retries.get? id
    ∃ calls events earlier later, w.calls = u.calls ++ calls ∧ w.events = u.events ++ events ∧
      v.events = u.events ++ earlier ∧ w.calls = v.calls ++ later ∧
      (calls.filter (·.id = id)).length ≤ max 1 settings.retry.maxFailures.toNat ∧
      (calls.filter (·.id = id)).map (·.time) = failed.map (·.startedAt) ++
        (w.situation.airCalls.filter (·.id = id)).map (·.time) ∧
      (first = none → (w.state.retries.failures id).toNat = failed.length) ∧
      (events.map (·.what)).filter (fun e => e.id = id && e.isFailure) =
        Miss.reports settings.retry id (countFor d first) failed ∧
      (events.map (·.what)).countP (fun e => e.id = id && e.reason = "ReconcileParked") ≤ 1 ∧
      ∀ e ∈ earlier, e.what.id = id → e.what.reason = "ReconcileParked" →
        later.filter (·.id = id) = [] := by
  intro failed first
  have ho : u.Orderly := h₀.orderly (orderly_new _ _ _ _)
  have h := h₁.trans h₂
  obtain ⟨calls, last, hcalls, htimes, hair, hlast⟩ :=
    Runs.exists_starts h₀ hidle hsteady h hstrains
  obtain ⟨events, hevents, hreports⟩ := Runs.exists_reports h₀ h hstrains
  obtain ⟨earlier, hearlier, hreported⟩ :=
    Runs.exists_reports h₀ h₁ fun e he => hstrains e (List.mem_append_left _ he)
  obtain ⟨later, hlater⟩ := h₂.exists_calls (h₁.orderly ho)
  have hstreak := (Runs.strained ho h₀.tells h hstrains).streak
  refine ⟨calls, events, earlier, later, hcalls, hevents, hearlier, hlater, ?_, hair ▸ htimes,
    fun hfirst => ?_, hreports, ?_, fun e he hid hparked => ?_⟩
  · have hlength : (calls.filter (·.id = id)).length = failed.length + last.length := by
      have := congrArg List.length htimes
      rwa [List.length_map, List.length_append, List.length_map] at this
    rw [hlength]
    -- one more call is only made while the record counts fewer than are allowed
    rcases hlast with rfl | ⟨t, rfl, hdue⟩
    · exact hstreak.length_le
    · have hlt := hdue.countFor_lt
      have hcount : countFor d (w.state.retries.get? id) = countFor d first + failed.length :=
        hstreak.countFor_eq
      rw [List.length_singleton]
      omega
  · rw [show u.state.retries.get? id = none from hfirst] at hstreak
    exact hstreak.failures_eq
  · rw [Event.countP_parked, hreports]
    exact hstreak.countP_parked_le
  · refine Runs.no_call_of_parked h₀ hidle hsteady h₁ h₂ hstrains hlater (e := e.what) ?_ hparked
    rw [← hreported, List.mem_filter]
    exact ⟨List.mem_map_of_mem he, by simp [hid, Event.isFailure, hparked]⟩

/-- **Each retry waits for the start of the attempt before it**: along such a stretch, the call
after call number `k` of the stretch starts no earlier than that one did, with the delay added
that the policy has for as many failures in a row. -/
theorem retries_spaced (h : Runs .any u es w) (hstrains : ∀ e ∈ es, e.Strains id d) :
    ∃ calls, w.calls = u.calls ++ calls ∧ ∀ k c c',
      (calls.filter (·.id = id))[k]? = some c → (calls.filter (·.id = id))[k + 1]? = some c' →
        c.time + settings.retry.delayAfter
          (.ofNat (countFor d (u.state.retries.get? id) + (k + 1))) ≤ c'.time := by
  obtain ⟨calls, last, hcalls, htimes, -, hlast⟩ :=
    Runs.exists_starts h₀ hidle hsteady h hstrains
  have hrun := Runs.strained (h₀.orderly (orderly_new _ _ _ _)) h₀.tells h hstrains
  refine ⟨calls, hcalls, fun k c c' hc hc' => ?_⟩
  refine hrun.streak.starts_spaced hlast ?_ ?_
  · rw [← htimes, List.getElem?_map, hc, Option.map_some]
  · rw [← htimes, List.getElem?_map, hc', Option.map_some]

end Stretch

/-! ## An attempt that hangs -/

/-- The world of the shop, where the attempts for it hang. -/
def hanging : World :=
  .new Sample.accepted Sample.shopView
    ((Rig.new "us-east-1").setFault Sample.shop (some ⟨.hang, 0, none⟩)) .empty

/-- The same world with a pass in the air, five minutes later. -/
def hung : World :=
  { (hanging.obey (.converge, [.task 0])).getD hanging with now := Span.ofSecs 300 }

/-- Then the attempt meets its deadline. -/
def timedOut : World := (hung.move (.attempt 0 Sample.shop)).getD hung

/-- The pass lands, and the next one sets out, at the same moment. -/
def retrying : World := ((timedOut.move (.task 0)).bind (·.obey (.converge, [.task 0]))).getD timedOut

/-- What the shop asks for. -/
def shopSpec : Option Spec := ((hanging.situation.flight.checked? Sample.shop).map (·.desired)).join

/-- The pass that ends with the timeout. -/
def timeoutPass : Episode :=
  .pass hanging.situation.flight [(Sample.shop, .error (.timeout Sample.shop))] (Span.ofSecs 300)

theorem runs_timedOut : Runs .any hanging [] timedOut := by
  have h₀ : Runs .any hanging [] hanging := .start
  have h₁ := h₀.happen (.order .converge (.head _) rfl (.inr rfl))
  have h₂ := h₁.happen (.move (.task 0) rfl)
  have h₃ := h₂.happen (.tick (show _ ≤ Span.ofSecs 300 from Nat.zero_le _))
  exact h₃.happen (.move (.attempt 0 Sample.shop) rfl)

theorem runs_retrying : Runs .any timedOut [timeoutPass] retrying := by
  have h₀ : Runs .any timedOut [] timedOut := .start
  have h₁ := h₀.happen (.move (.task 0) rfl)
  have h₂ := h₁.happen (.order .converge (.head _) rfl (.inr rfl))
  exact h₂.happen (.move (.task 0) rfl)

/-- The pass strains the shop. -/
theorem strains_timeoutPass : timeoutPass.Strains Sample.shop shopSpec where
  tracked := rfl
  steady r hr := by
    rw [shopSpec, hr]
    rfl
  fails r hr := by
    rw [List.mem_singleton] at hr
    cases hr

/-- And the next one checks it with the same spec. -/
theorem steady_retrying (f : Flight) (attempts : List Attempt)
    (hair : retrying.air = some (f, attempts)) (r : Resource)
    (hr : f.checked? Sample.shop = some r) : r.desired = shopSpec := by
  have hsame : ((retrying.air.bind fun x => x.1.checked? Sample.shop).map (·.desired)).join =
    shopSpec := by decide +kernel
  rw [hair, Option.bind_some, hr] at hsame
  exact hsame

/-- The stretch up to the second call keeps to the bound. -/
theorem bounded_retries_hanging : ∃ calls, retrying.calls = hanging.calls ++ calls ∧
    (calls.filter (·.id = Sample.shop)).length ≤ 10 ∧
    (retrying.state.retries.failures Sample.shop).toNat = 1 := by
  have hstrains : ∀ e ∈ [] ++ [timeoutPass], e.Strains Sample.shop shopSpec := by
    intro e he
    rw [List.mem_singleton.1 he]
    exact strains_timeoutPass
  obtain ⟨calls, -, -, -, hcalls, -, -, -, hbound, -, hcount, -⟩ := bounded_retries .start rfl
    steady_retrying runs_timedOut runs_retrying hstrains
  exact ⟨calls, hcalls, hbound, hcount rfl⟩

/-- The calls of the stretch. -/
theorem calls_retrying : hanging.calls = [] ∧ retrying.calls =
    [⟨0, Sample.shop, false, false⟩, ⟨Span.ofSecs 300, Sample.shop, false, false⟩] :=
  ⟨rfl, by decide +kernel⟩

/-- The second of them waits for the start of the first. -/
theorem retries_spaced_hanging : ∃ c c', retrying.calls = [c, c'] ∧
    c.time + hanging.settings.retry.delayAfter 1 ≤ c'.time := by
  have hstrains : ∀ e ∈ [timeoutPass], e.Strains Sample.shop shopSpec := by
    intro e he
    rw [List.mem_singleton.1 he]
    exact strains_timeoutPass
  obtain ⟨calls, hcalls, hspaced⟩ := retries_spaced .start rfl steady_retrying
    (runs_timedOut.trans runs_retrying) hstrains
  rw [calls_retrying.2] at hcalls
  change _ = calls at hcalls
  subst hcalls
  exact ⟨_, _, calls_retrying.2, hspaced 0 _ _ rfl rfl⟩

/-- **The backoff may have passed when a failure is known.** The first attempt for the shop has
hung for five minutes when its deadline strikes; it fails then, in a way that is to be retried,
and for the first time. The next pass sets out at the same moment, checks the shop with the same
spec, and calls the provider for it, although fifteen seconds are to pass after one failure. -/
theorem retried_at_once :
    (∃ f a a', hung.air = some (f, [a]) ∧ (∀ o, a.progress ≠ .done o) ∧
      hung.move (.attempt 0 Sample.shop) = some timedOut ∧ timedOut.air = some (f, [a']) ∧
      a'.progress = .done (.error (.timeout Sample.shop))) ∧
    (Failure.timeout Sample.shop).isRetriable = true ∧
    hanging.state.retries.get? Sample.shop = none ∧
    timeoutPass.Strains Sample.shop shopSpec ∧
    (∀ f attempts, retrying.air = some (f, attempts) →
      ∀ r, f.checked? Sample.shop = some r → r.desired = shopSpec) ∧
    Runs .any hanging [] timedOut ∧ Runs .any timedOut [timeoutPass] retrying ∧
    retrying.calls = timedOut.calls ++ [⟨Span.ofSecs 300, Sample.shop, false, false⟩] ∧
      ¬ timedOut.now + hanging.settings.retry.delayAfter 1 ≤ Span.ofSecs 300 := by
  refine ⟨⟨_, _, _, rfl, ?_, rfl, rfl, rfl⟩, rfl, rfl, strains_timeoutPass, steady_retrying,
    runs_timedOut, runs_retrying, calls_retrying.2, by decide⟩
  rintro o ⟨⟩

end World

end IngressBalancer
