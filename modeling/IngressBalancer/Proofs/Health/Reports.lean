import IngressBalancer.Proofs.Health.Round
/-!
# What a report says

A monitor keeps of every name the probe that was registered last
(`Monitor.get?_probes_ofList`). So its report has the names that were registered, under each
what its own probe comes to (`Monitor.get?_results_iff`), whatever the others do, and all is well
exactly where every probe succeeds within the limit (`Monitor.healthy_iff`).
-/

namespace IngressBalancer

/-- The probe that was registered last under a name. -/
def registered (checks : List (String × Probe)) (name : String) : Option Probe :=
  (SortedMap.valuesUnder name checks).getLast?

namespace Probe

variable {p : Probe} {text : String}

/-- Whether the probe succeeds within the limit. -/
def Succeeds (p : Probe) : Prop := (∃ d, p.delay = some d ∧ d ≤ probeLimit) ∧ p.answer = .ok ()

/-- What is said of a probe: that it succeeded within the limit, the errors with which it failed
within the limit, or that it did not answer by then. -/
inductive Says (p : Probe) : String → Prop
  | ok (h : p.Succeeds) : Says p "OK"
  | failed {d : Span} {chain : List String} (hd : p.delay = some d) (hle : d ≤ probeLimit)
    (h : p.answer = .error chain) : Says p (": ".intercalate chain)
  | late (h : ∀ d, p.delay = some d → probeLimit < d) : Says p "timed out after 5s"

theorem isInTime_iff : p.isInTime = true ↔ ∃ d, p.delay = some d ∧ d ≤ probeLimit := by
  simp [isInTime, Option.any_eq_true]

theorem passes_iff : p.passes = true ↔ p.Succeeds := by
  rw [passes, Bool.and_eq_true, isInTime_iff, Succeeds]
  cases p.answer <;> simp [Except.isOk, Except.toBool]

/-- **What is said of a probe** is its result. -/
theorem says_iff : p.Says text ↔ text = p.result := by
  by_cases htime : p.isInTime = true
  · obtain ⟨d, hd, hle⟩ := isInTime_iff.1 htime
    have hlate : ¬ ∀ d, p.delay = some d → probeLimit < d := fun h =>
      absurd (h d hd) (Nat.not_lt.2 hle)
    rw [result, if_pos htime]
    cases hanswer : p.answer with
    | ok _ =>
      constructor
      · rintro (h | ⟨hd', hle', h⟩ | h)
        · rfl
        · rw [hanswer] at h
          cases h
        · exact absurd h hlate
      · rintro rfl
        exact .ok ⟨⟨d, hd, hle⟩, hanswer⟩
    | error chain =>
      constructor
      · rintro (⟨-, h⟩ | ⟨hd', hle', h⟩ | h)
        · rw [hanswer] at h
          cases h
        · rw [hanswer] at h
          cases h
          rfl
        · exact absurd h hlate
      · rintro rfl
        exact .failed hd hle hanswer
  · have hnone : ∀ d, p.delay = some d → ¬ d ≤ probeLimit := fun d hd hle =>
      htime (isInTime_iff.2 ⟨d, hd, hle⟩)
    rw [result, if_neg htime]
    constructor
    · rintro (⟨⟨d, hd, hle⟩, -⟩ | ⟨hd, hle, -⟩ | -)
      · exact absurd hle (hnone d hd)
      · exact absurd hle (hnone _ hd)
      · rfl
    · rintro rfl
      exact .late fun d hd => Nat.not_le.1 (hnone d hd)

end Probe

namespace Monitor

variable {checks : List (String × Probe)} {name text : String} {p : Probe}

theorem probes_ofList (checks : List (String × Probe)) :
    (ofList checks).probes = SortedMap.ofList checks := by
  have hfold : ∀ m : Monitor, (checks.foldl (fun m c => m.withCheck c.1 c.2) m).probes =
      checks.foldl (fun m c => m.insert c.1 c.2) m.probes := by
    induction checks with
    | nil => exact fun _ => rfl
    | cons c checks ih => exact fun m => ih (m.withCheck c.1 c.2)
  exact hfold empty

/-- **Of the registrations of a name the last one counts.** -/
theorem get?_probes_ofList : (ofList checks).probes.get? name = registered checks name := by
  rw [probes_ofList, SortedMap.get?_ofList, registered]

theorem mem_values_ofList :
    p ∈ (ofList checks).probes.values ↔ ∃ name, registered checks name = some p := by
  simp only [SortedMap.mem_values_iff, get?_probes_ofList]

/-- A name has a probe exactly where it was registered. -/
theorem exists_registered_iff :
    (∃ p, registered checks name = some p) ↔ name ∈ checks.map (·.1) := by
  rw [← SortedMap.valuesUnder_ne_nil_iff, registered, ← Option.ne_none_iff_exists',
    Ne, List.getLast?_eq_none_iff]

theorem span_le_of_registered (h : registered checks name = some p) : p.span ≤ (ofList checks).span :=
  span_le (mem_values_ofList.2 ⟨name, h⟩)

/-- The span of a monitor is that of a registered probe, unless there is none. -/
theorem span_ofList_cases (checks : List (String × Probe)) :
    checks = [] ∧ (ofList checks).span = 0 ∨
      ∃ name p, registered checks name = some p ∧ (ofList checks).span = p.span := by
  by_cases hnil : checks = []
  · subst hnil
    exact .inl ⟨rfl, rfl⟩
  · obtain ⟨c, hc⟩ := List.exists_mem_of_ne_nil _ hnil
    obtain ⟨p, hp⟩ := exists_registered_iff.2 (List.mem_map_of_mem hc)
    obtain ⟨q, hq, hspan⟩ := exists_span_eq (List.ne_nil_of_mem (mem_values_ofList.2 ⟨c.1, hp⟩))
    obtain ⟨name, hname⟩ := mem_values_ofList.1 hq
    exact .inr ⟨name, q, hname, hspan⟩

theorem get?_results : (ofList checks).report.results.get? name =
    (registered checks name).map Probe.result := by
  rw [report, SortedMap.get?_mapValues, get?_probes_ofList]

/-- **The names of the results** are the registered ones. -/
theorem mem_keys_results_iff :
    name ∈ (ofList checks).report.results.keys ↔ name ∈ checks.map (·.1) := by
  rw [← exists_registered_iff, report, SortedMap.keys_mapValues, SortedMap.mem_keys_iff]
  simp only [get?_probes_ofList]

/-- **The result of a name** is what its own probe comes to. -/
theorem get?_results_iff : (ofList checks).report.results.get? name = some text ↔
    ∃ p, registered checks name = some p ∧ p.Says text := by
  simp only [get?_results, Option.map_eq_some_iff, Probe.says_iff, eq_comm]

/-- **All is well** exactly where every probe succeeds within the limit. -/
theorem healthy_iff : (ofList checks).report.healthy = true ↔
    ∀ name p, registered checks name = some p → p.Succeeds := by
  simp only [report, List.all_eq_true, mem_values_ofList, Probe.passes_iff, forall_exists_index]
  exact forall_comm

end Monitor

end IngressBalancer
