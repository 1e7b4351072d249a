import IngressBalancer.Health.Monitor
import IngressBalancer.Proofs.Data.Results
import IngressBalancer.Proofs.Data.SortedMap
import Mathlib.Order.Nat
/-!
# A round of probes

The probes of a monitor as they run side by side, on a clock of their own. A
step of a round looks at a probe, which takes its answer or the time-out that is due
(`Probe.look`), or lets time pass: only while nobody has anything to take, and no
further than the next timer. In which order the probes are looked at is left open.

Whatever that order, each step keeps what is known of a round (`Round.Going.step`): a
probe that is done has come to what it comes to by itself (`Probe.outcome`), and was done no
later than its span. So every round ends, exactly when the slowest probe is done, and the
outcomes collected by position are the report of the monitor (`Round.Runs.spec`).
-/

namespace IngressBalancer

namespace Probe

variable {p : Probe} {elapsed : Span} {o : Except (List String) Unit}

/-- What a probe comes to that does not answer in time. -/
def timedOut : Except (List String) Unit := .error ["timed out after 5s"]

/-- What a look at the probe yields, some time after its start: the answer if it is there, or else
the time-out if that is due. -/
def look (p : Probe) (elapsed : Span) : Option (Except (List String) Unit) :=
  if p.delay.any (· ≤ elapsed) then some p.answer
  else if probeLimit ≤ elapsed then some timedOut
  else none

/-- The times after its start at which the probe has itself woken up. -/
def timers (p : Probe) : List Span := p.delay.toList ++ [probeLimit]

/-- What the probe comes to. -/
def outcome (p : Probe) : Except (List String) Unit :=
  if p.isInTime then p.answer else timedOut

/-- What was come to, in words. -/
def words : Except (List String) Unit → String
  | .ok () => "OK"
  | .error chain => ": ".intercalate chain

theorem words_outcome (p : Probe) : words p.outcome = p.result := by
  unfold outcome result
  split
  · cases p.answer <;> rfl
  · rfl

theorem isOk_outcome (p : Probe) : p.outcome.isOk = p.passes := by
  unfold outcome passes
  cases p.isInTime <;> rfl

theorem span_le_probeLimit (p : Probe) : p.span ≤ probeLimit := Nat.min_le_right _ _

/-- The span goes to the first of the timers. -/
theorem le_span_iff : elapsed ≤ p.span ↔ ∀ timer ∈ p.timers, elapsed ≤ timer := by
  unfold span timers
  cases p.delay with
  | none => simp
  | some d =>
    rw [Option.getD_some, Nat.le_min]
    simp

/-- Before the span is over a look yields nothing. -/
theorem look_of_lt (h : elapsed < p.span) : p.look elapsed = none := by
  have hlimit : ¬ probeLimit ≤ elapsed := Nat.not_le.2 (Nat.lt_of_lt_of_le h p.span_le_probeLimit)
  unfold look
  cases hdelay : p.delay with
  | none => simp [hlimit]
  | some d =>
    have hd : ¬ d ≤ elapsed := by
      rw [span, hdelay, Nat.lt_min] at h
      exact Nat.not_le.2 h.1
    simp [hd, hlimit]

/-- When it is over, a look yields what the probe comes to. -/
theorem look_span (p : Probe) : p.look p.span = some p.outcome := by
  unfold look outcome isInTime span
  cases hdelay : p.delay with
  | none => simp
  | some d =>
    by_cases hd : d ≤ probeLimit
    · simp [hd]
    · have hlimit : probeLimit ≤ d := Nat.le_of_not_le hd
      simp [hd, Nat.min_eq_right hlimit]

/-- **A look within the span** yields something just at its end: what the probe comes to. -/
theorem look_eq_some_iff (h : elapsed ≤ p.span) :
    p.look elapsed = some o ↔ elapsed = p.span ∧ o = p.outcome := by
  rcases Nat.eq_or_lt_of_le h with rfl | hlt
  · rw [look_span, Option.some.injEq]
    exact ⟨fun ho => ⟨rfl, ho.symm⟩, fun ho => ho.2.symm⟩
  · rw [look_of_lt hlt]
    exact ⟨nofun, fun ho => absurd ho.1 (Nat.ne_of_lt hlt)⟩

end Probe

/-! ## Spans of monitors -/

namespace Monitor

variable {m : Monitor} {p : Probe} {span : Span}

theorem foldl_max_le_iff {xs : List Nat} {a b : Nat} :
    xs.foldl max a ≤ b ↔ a ≤ b ∧ ∀ x ∈ xs, x ≤ b := by
  induction xs generalizing a with
  | nil => simp
  | cons x xs ih => rw [List.foldl_cons, ih, Nat.max_le, List.forall_mem_cons, and_assoc]

theorem foldl_max_mem (xs : List Nat) (a : Nat) : xs.foldl max a = a ∨ xs.foldl max a ∈ xs := by
  induction xs generalizing a with
  | nil => exact .inl rfl
  | cons x xs ih =>
    rw [List.foldl_cons, List.mem_cons]
    rcases ih (max a x) with h | h
    · rw [h]
      exact (Nat.le_total a x).symm.imp Nat.max_eq_left fun hle => .inl (Nat.max_eq_right hle)
    · exact .inr (.inr h)

theorem span_le_iff : m.span ≤ span ↔ ∀ p ∈ m.probes.values, p.span ≤ span := by
  rw [Monitor.span, foldl_max_le_iff, List.forall_mem_map]
  exact and_iff_right (Nat.zero_le span)

theorem span_le (h : p ∈ m.probes.values) : p.span ≤ m.span := span_le_iff.1 (Nat.le_refl _) p h

/-- No monitor takes longer than a probe may take. -/
theorem span_le_probeLimit (m : Monitor) : m.span ≤ probeLimit :=
  span_le_iff.2 fun p _ => p.span_le_probeLimit

/-- The span of a monitor is that of one of its probes, if it has any. -/
theorem exists_span_eq (h : m.probes.values ≠ []) : ∃ p ∈ m.probes.values, m.span = p.span := by
  obtain ⟨p, hp⟩ := List.exists_mem_of_ne_nil _ h
  rcases foldl_max_mem (m.probes.values.map Probe.span) 0 with hzero | hmem
  · have hle : p.span ≤ 0 := hzero ▸ span_le hp
    exact ⟨p, hp, hzero.trans (Nat.le_zero.1 hle).symm⟩
  · obtain ⟨q, hq, hspan⟩ := List.mem_map.1 hmem
    exact ⟨q, hq, hspan.symm⟩

end Monitor

/-! ## Rounds -/

/-- A probe in a round, and what it has come to by now. -/
structure Lane where
  probe : Probe
  outcome? : Option (Except (List String) Unit)

/-- A round of probes on its clock, in the order of their names. -/
structure Round where
  since : Instant
  now : Instant
  lanes : List Lane

namespace Round

variable {m : Monitor} {now₀ : Instant} {r r' r₀ : Round} {n : Nat}

/-- A round that has just started. -/
def start (m : Monitor) (now : Instant) : Round := ⟨now, now, m.probes.values.map (⟨·, none⟩)⟩

/-- One step: a look that yields something, or time that passes. -/
inductive Step : Round → Round → Prop
  | look {r : Round} {before after : List Lane} {p : Probe} {o : Except (List String) Unit}
    (hlanes : r.lanes = before ++ ⟨p, none⟩ :: after) (h : p.look (r.now - r.since) = some o) :
    Step r { r with lanes := before ++ ⟨p, some o⟩ :: after }
  /-- While somebody waits and no look yields anything, time passes up to the next timer. -/
  | tick {r : Round} {now : Instant} (hlater : r.now < now)
    (hwaits : ∃ lane ∈ r.lanes, lane.outcome? = none)
    (hidle : ∀ lane ∈ r.lanes, lane.outcome? = none → lane.probe.look (r.now - r.since) = none)
    (htimers : ∀ lane ∈ r.lanes, lane.outcome? = none →
      ∀ timer ∈ lane.probe.timers, now ≤ r.since + timer) : Step r { r with now := now }

/-- So many steps. -/
inductive Runs (r₀ : Round) : Nat → Round → Prop
  | start : Runs r₀ 0 r₀
  | next {n : Nat} {r r' : Round} (h : Runs r₀ n r) (hstep : r.Step r') : Runs r₀ (n + 1) r'

/-- What outcomes in the order of their names are reported as, one after the other. -/
def collect (names : List String) (outcomes : List (Except (List String) Unit)) : HealthReport :=
  (names.zip outcomes).foldl
    (fun report e => ⟨report.results.insert e.1 (Probe.words e.2), report.healthy && e.2.isOk⟩)
    ⟨∅, true⟩

/-- The report, once all probes have come to something. -/
def report? (m : Monitor) (r : Round) : Option HealthReport :=
  (r.lanes.mapM Lane.outcome?).map (collect m.probes.keys)

/-- What is known of a round that has started at a moment. -/
structure Going (m : Monitor) (now₀ : Instant) (r : Round) : Prop where
  since : r.since = now₀
  started : now₀ ≤ r.now
  probes : r.lanes.map Lane.probe = m.probes.values
  ended : ∀ lane ∈ r.lanes, ∀ o, lane.outcome? = some o →
    o = lane.probe.outcome ∧ now₀ + lane.probe.span ≤ r.now
  waits : ∀ lane ∈ r.lanes, lane.outcome? = none → r.now ≤ now₀ + lane.probe.span
  inTime : r.now ≤ now₀ + m.span

theorem Going.mem_values (h : r.Going m now₀) {lane : Lane} (hl : lane ∈ r.lanes) :
    lane.probe ∈ m.probes.values := h.probes ▸ List.mem_map_of_mem hl

/-- The time that a lane has waited is within the span of its probe. -/
theorem Going.elapsed_le (h : r.Going m now₀) {lane : Lane} (hl : lane ∈ r.lanes)
    (hwaits : lane.outcome? = none) : r.now - r.since ≤ lane.probe.span :=
  Nat.sub_le_iff_le_add'.2 (h.since ▸ h.waits lane hl hwaits)

theorem going_start (m : Monitor) (now₀ : Instant) : (start m now₀).Going m now₀ where
  since := rfl
  started := Nat.le_refl _
  probes := by rw [start, List.map_map]; exact List.map_id _
  ended lane hl o ho := by
    obtain ⟨p, -, rfl⟩ := List.mem_map.1 hl
    cases ho
  waits _ _ _ := Nat.le_add_right _ _
  inTime := Nat.le_add_right _ _

/-- **Each step keeps what is known.** -/
theorem Going.step (h : r.Going m now₀) (hstep : r.Step r') : r'.Going m now₀ := by
  cases hstep with
  | @look before after p o hlanes hlook =>
    have hp : ⟨p, none⟩ ∈ r.lanes := by
      rw [hlanes]
      exact List.mem_append_right _ List.mem_cons_self
    have hothers : ∀ lane ∈ before ++ ⟨p, some o⟩ :: after,
        lane = ⟨p, some o⟩ ∨ lane ∈ r.lanes := by
      intro lane hl
      rw [hlanes]
      simp only [List.mem_append, List.mem_cons] at hl ⊢
      rcases hl with hl | hl | hl
      · exact .inr (.inl hl)
      · exact .inl hl
      · exact .inr (.inr (.inr hl))
    obtain ⟨helapsed, houtcome⟩ := (Probe.look_eq_some_iff (h.elapsed_le hp rfl)).1 hlook
    have hnow : now₀ + p.span ≤ r.now := by
      rw [← helapsed, h.since]
      exact (Nat.add_sub_cancel' h.started).le
    refine ⟨h.since, h.started, ?_, fun lane hl o' ho' => ?_, fun lane hl hnone => ?_, h.inTime⟩
    · rw [← h.probes, hlanes]
      simp
    · rcases hothers lane hl with rfl | hl
      · cases ho'
        exact ⟨houtcome, hnow⟩
      · exact h.ended lane hl o' ho'
    · rcases hothers lane hl with rfl | hl
      · cases hnone
      · exact h.waits lane hl hnone
  | @tick now hlater hwaits hidle htimers =>
    have hspan : ∀ lane ∈ r.lanes, lane.outcome? = none → now ≤ now₀ + lane.probe.span := by
      intro lane hl hnone
      rw [← Nat.sub_le_iff_le_add', Probe.le_span_iff]
      exact fun timer ht => Nat.sub_le_iff_le_add'.2 (h.since ▸ htimers lane hl hnone timer ht)
    obtain ⟨lane, hl, hnone⟩ := hwaits
    refine ⟨h.since, h.started.trans hlater.le, h.probes, fun lane hl o ho => ?_, hspan, ?_⟩
    · obtain ⟨houtcome, hnow⟩ := h.ended lane hl o ho
      exact ⟨houtcome, hnow.trans hlater.le⟩
    · exact (hspan lane hl hnone).trans
        (Nat.add_le_add_left (Monitor.span_le (h.mem_values hl)) now₀)

theorem Runs.going (h : Runs (Round.start m now₀) n r) : r.Going m now₀ := by
  induction h with
  | start => exact going_start m now₀
  | next _ hstep ih => exact ih.step hstep

/-! ### The end -/

/-- How many steps there can still be: one for each probe that waits and for each moment left. -/
def toGo (m : Monitor) (r : Round) : Nat :=
  r.lanes.countP (·.outcome?.isNone) + (r.since + m.span - r.now)

/-- **Each step leaves fewer.** -/
theorem Going.toGo_lt (h : r.Going m now₀) (hstep : r.Step r') : r'.toGo m < r.toGo m := by
  have hnext := (h.step hstep).inTime
  rw [← h.since] at hnext
  cases hstep with
  | look hlanes =>
    simp only [toGo, hlanes, List.countP_append, List.countP_cons, Option.isNone_none,
      Option.isNone_some, if_true, Bool.false_eq_true, if_false]
    omega
  | tick hlater =>
    exact Nat.add_lt_add_left (Nat.sub_lt_sub_left (hlater.trans_le hnext) hlater) _

/-- **A round has an end**: it takes no more steps than there are probes and moments. -/
theorem Runs.le (h : Runs (Round.start m now₀) n r) : n + r.toGo m ≤ m.probes.size + m.span := by
  induction h with
  | start =>
    have hwaiting : (Round.start m now₀).lanes.countP (·.outcome?.isNone) ≤ m.probes.size := by
      refine List.countP_le_length.trans (Nat.le_of_eq ?_)
      simp [Round.start, SortedMap.values, SortedMap.size]
    have htime : now₀ + m.span - now₀ = m.span := Nat.add_sub_cancel_left ..
    rw [Nat.zero_add, toGo]
    exact Nat.add_le_add hwaiting htime.le
  | next hrun hstep ih =>
    have hlt := hrun.going.toGo_lt hstep
    omega

/-- **While somebody waits**, there is a next step. -/
theorem Going.exists_step (h : r.Going m now₀) {lane : Lane} (hl : lane ∈ r.lanes)
    (hwaits : lane.outcome? = none) : ∃ r', r.Step r' := by
  by_cases hidle : ∀ lane ∈ r.lanes, lane.outcome? = none →
      lane.probe.look (r.now - r.since) = none
  · refine ⟨_, .tick (Nat.lt_succ_self r.now) ⟨lane, hl, hwaits⟩ hidle ?_⟩
    intro lane hl hnone timer htimer
    have hne : r.now - r.since ≠ lane.probe.span := fun heq => by
      have hlook := hidle lane hl hnone
      rw [heq, Probe.look_span] at hlook
      cases hlook
    have hlt := Nat.lt_of_le_of_ne (h.elapsed_le hl hnone) hne
    have hle := Probe.le_span_iff.1 (Nat.le_refl lane.probe.span) timer htimer
    exact ((Nat.sub_lt_iff_lt_add' (h.since ▸ h.started)).1 hlt).trans_le
      (Nat.add_le_add_left hle r.since)
  · simp only [not_forall] at hidle
    obtain ⟨⟨p, outcome?⟩, hl, hnone, hlook⟩ := hidle
    obtain rfl : outcome? = none := hnone
    obtain ⟨o, ho⟩ := Option.ne_none_iff_exists'.1 hlook
    obtain ⟨before, after, hlanes⟩ := List.append_of_mem hl
    exact ⟨_, .look hlanes ho⟩

/-- What is collected one after the other is a map of all words, and whether all is well. -/
theorem collect_zip (es : List (String × Except (List String) Unit)) (report : HealthReport) :
    es.foldl (fun report e =>
        ⟨report.results.insert e.1 (Probe.words e.2), report.healthy && e.2.isOk⟩) report =
      ⟨(es.map fun e => (e.1, Probe.words e.2)).foldl (fun m e => m.insert e.1 e.2) report.results,
        report.healthy && es.all (·.2.isOk)⟩ := by
  induction es generalizing report with
  | nil => simp
  | cons e es ih =>
    rw [List.foldl_cons, ih, List.map_cons, List.foldl_cons, List.all_cons, Bool.and_assoc]

/-- **Outcomes in the order of the names make up the report.** -/
theorem collect_eq (m : Monitor) :
    collect m.probes.keys (m.probes.values.map Probe.outcome) = m.report := by
  have hresults : (m.probes.entries.map fun e => (e.1, Probe.words e.2.outcome)).foldl
      (fun m e => m.insert e.1 e.2) ∅ = m.probes.mapValues Probe.result := by
    simp only [Probe.words_outcome]
    exact (SortedMap.ofList_map Probe.result m.probes.entries).trans
      (by rw [SortedMap.ofList_entries])
  have hpairs : m.probes.keys.zip (m.probes.values.map Probe.outcome) =
      m.probes.entries.map fun e => (e.1, e.2.outcome) := by
    rw [SortedMap.keys, SortedMap.values, List.map_map, List.zip_map']
    rfl
  rw [collect, hpairs, collect_zip, List.map_map, Monitor.report, SortedMap.values, List.all_map,
    List.all_map]
  simp only [Function.comp_def, Probe.isOk_outcome, hresults, Bool.true_and]

/-- What has been come to in all lanes is what each probe comes to. -/
theorem Going.mapM_outcome? (h : r.Going m now₀)
    (hended : ∀ lane ∈ r.lanes, lane.outcome? ≠ none) :
    r.lanes.mapM Lane.outcome? = some (m.probes.values.map Probe.outcome) := by
  have hlanes : ∀ lanes : List Lane,
      (∀ lane ∈ lanes, lane.outcome? = some lane.probe.outcome) →
      lanes.mapM Lane.outcome? = some ((lanes.map Lane.probe).map Probe.outcome) := by
    intro lanes hall
    induction lanes with
    | nil => rfl
    | cons lane lanes ih =>
      rw [List.mapM_cons, hall lane List.mem_cons_self,
        ih fun lane hl => hall lane (List.mem_cons_of_mem _ hl)]
      rfl
  rw [← h.probes]
  refine hlanes r.lanes fun lane hl => ?_
  obtain ⟨o, ho⟩ := Option.ne_none_iff_exists'.1 (hended lane hl)
  rw [ho, (h.ended lane hl o ho).1]

/-- **When nobody waits**, the report of the monitor is there, and its span is over. -/
theorem Going.report?_eq (h : r.Going m now₀) (hended : ∀ lane ∈ r.lanes, lane.outcome? ≠ none) :
    r.report? m = some m.report ∧ r.now = now₀ + m.span := by
  constructor
  · rw [report?, h.mapM_outcome? hended, Option.map_some, collect_eq]
  · refine Nat.le_antisymm h.inTime ?_
    have hspans : m.span ≤ r.now - now₀ := Monitor.span_le_iff.2 fun p hp => by
      obtain ⟨lane, hl, rfl⟩ := List.mem_map.1 (h.probes ▸ hp)
      obtain ⟨o, ho⟩ := Option.ne_none_iff_exists'.1 (hended lane hl)
      exact Nat.le_sub_of_add_le' (h.ended lane hl o ho).2
    exact (Nat.add_le_add_left hspans now₀).trans (Nat.add_sub_cancel' h.started).le

/-- **What comes of a round.** In whatever order the probes are looked at, a round takes no more
steps than there are probes and moments. As long as it has no report it can go on, and no
longer than its span; when it has one, this is that of the monitor, and the span is just over. -/
theorem Runs.spec (h : Runs (Round.start m now₀) n r) :
    n ≤ m.probes.size + m.span ∧ r.now ≤ now₀ + m.span ∧
    ((r.report? m = none ∧ ∃ r', r.Step r') ∨
      r.report? m = some m.report ∧ r.now = now₀ + m.span) := by
  have hgoing := h.going
  refine ⟨(Nat.le_add_right _ _).trans h.le, hgoing.inTime, ?_⟩
  by_cases hended : ∀ lane ∈ r.lanes, lane.outcome? ≠ none
  · exact .inr (hgoing.report?_eq hended)
  · simp only [not_forall, not_not] at hended
    obtain ⟨lane, hl, hwaits⟩ := hended
    refine .inl ⟨?_, hgoing.exists_step hl hwaits⟩
    rw [report?, Option.map_eq_none_iff, Option.eq_none_iff_forall_ne_some]
    intro outcomes houtcomes
    obtain ⟨o, -, ho⟩ := exists_of_forall₂ (Option.forall₂_of_mapM houtcomes) hl
    rw [hwaits] at ho
    cases ho

end Round

end IngressBalancer
