import IngressBalancer.Controller.Pass
import IngressBalancer.Proofs.Registry.Contents
/-!
# Counts by namespace

What the counts of a registry say (`get?_namespaceCounts`): each namespace
with resources leads to their number, every other to nothing. Counting the
dropped resources down from the counts of a larger registry gives the counts
of what is left (`namespaceCounts_live`), as long as both registries have
the same ids.
-/

namespace IngressBalancer

namespace Registry

variable {g : Registry} {counts : NamespaceCounts} {nspace ns : String}

/-- How many of some ids lie in a namespace. -/
def countIn (ns : String) (ids : List ResourceId) : Nat := ids.countP (·.nspace = ns)

theorem countIn_cons (id : ResourceId) (ids : List ResourceId) :
    countIn ns (id :: ids) = countIn ns ids + if id.nspace = ns then 1 else 0 := by
  simp [countIn, List.countP_cons]

/-! ## Counting up and down -/

theorem getD_countUp : (countUp counts nspace).getD ns 0 =
    counts.getD ns 0 + if nspace = ns then 1 else 0 := by
  simp only [SortedMap.getD, countUp, SortedMap.get?_insert_eq]
  by_cases h : ns = nspace
  · simp [h]
  · simp [h, Ne.symm h]

theorem getD_countDown : (countDown counts nspace).getD ns 0 =
    counts.getD ns 0 - if nspace = ns then 1 else 0 := by
  simp only [SortedMap.getD, countDown]
  by_cases h : ns = nspace
  · subst h
    cases hc : counts.get? ns <;> simp [hc, SortedMap.get?_insert_self]
  · cases hc : counts.get? nspace <;>
      simp [SortedMap.get?_insert_of_ne h, Ne.symm h]

theorem getD_foldl_countUp (rs : List Resource) (counts : NamespaceCounts) :
    (rs.foldl (fun c r => countUp c r.id.nspace) counts).getD ns 0 =
      counts.getD ns 0 + countIn ns (rs.map (·.id)) := by
  induction rs generalizing counts with
  | nil => rfl
  | cons r rs ih =>
    rw [List.foldl_cons, ih, getD_countUp, List.map_cons, countIn_cons]
    omega

theorem getD_foldl_countDown (rs : List Resource) (counts : NamespaceCounts) :
    (rs.foldl (fun c r => countDown c r.id.nspace) counts).getD ns 0 =
      counts.getD ns 0 - countIn ns (rs.map (·.id)) := by
  induction rs generalizing counts with
  | nil => rfl
  | cons r rs ih =>
    rw [List.foldl_cons, ih, getD_countDown, List.map_cons, countIn_cons]
    omega

/-! ## The counts of a registry -/

/-- No namespace is counted with zero. -/
def Positive (counts : NamespaceCounts) : Prop := ∀ ns n, counts.get? ns = some n → 0 < n

theorem positive_countUp (h : Positive counts) : Positive (countUp counts nspace) := by
  intro ns n hn
  rw [countUp, SortedMap.get?_insert_eq] at hn
  split at hn
  · rw [← Option.some.inj hn]
    exact Nat.succ_pos _
  · exact h ns n hn

theorem positive_foldl_countUp (rs : List Resource) (h : Positive counts) :
    Positive (rs.foldl (fun c r => countUp c r.id.nspace) counts) := by
  induction rs generalizing counts with
  | nil => exact h
  | cons r rs ih => exact ih (positive_countUp h)

theorem positive_namespaceCounts (g : Registry) : Positive g.namespaceCounts :=
  positive_foldl_countUp _ fun _ _ h => by simp at h

theorem getD_namespaceCounts (g : Registry) : g.namespaceCounts.getD ns 0 = countIn ns g.ids := by
  rw [namespaceCounts, getD_foldl_countUp, map_id_toList]
  simp [SortedMap.getD]

/-- Counts without zeros are known by their numbers. -/
theorem get?_eq_of_positive (h : Positive counts) :
    counts.get? ns = if counts.getD ns 0 = 0 then none else some (counts.getD ns 0) := by
  unfold SortedMap.getD
  cases hc : counts.get? ns with
  | none => rfl
  | some n =>
    have := h ns n hc
    rw [if_neg (by simp; omega)]
    rfl

/-- **The counts of a registry**: a namespace leads to the number of its resources, if there
are any. -/
theorem get?_namespaceCounts (g : Registry) : g.namespaceCounts.get? ns =
    if countIn ns g.ids = 0 then none else some (countIn ns g.ids) := by
  rw [get?_eq_of_positive (positive_namespaceCounts g), getD_namespaceCounts]

/-! ## After a purge -/

/-- The ids of a purged registry are the live ones and the dropped ones. -/
theorem countIn_live_add_dropped (g : Registry) :
    countIn ns g.retainLive.live.ids + countIn ns (g.retainLive.dropped.map (·.id)) =
      countIn ns g.ids := by
  rw [← map_id_toList, ← map_id_toList, toList_live, retainLive]
  induction g.toList with
  | nil => rfl
  | cons r rs ih =>
    cases h : r.isLive <;> simp [h, countIn_cons] at ih ⊢ <;> omega

end Registry

namespace Flight

open Registry

/-- Counting down leaves no zeros, since those are filtered out. -/
theorem positive_remainingCounts (working : Registry) (dropped : List Resource) :
    Positive (remainingCounts working dropped) := by
  intro ns n hn
  rw [remainingCounts, SortedMap.get?_filter, Option.filter_eq_some_iff] at hn
  exact of_decide_eq_true hn.2

theorem getD_remainingCounts (working : Registry) (dropped : List Resource) :
    (remainingCounts working dropped).getD ns 0 =
      countIn ns working.ids - countIn ns (dropped.map (·.id)) := by
  rw [← getD_namespaceCounts, ← getD_foldl_countDown]
  unfold remainingCounts SortedMap.getD
  rw [SortedMap.get?_filter]
  generalize (dropped.foldl _ _ : NamespaceCounts).get? ns = o
  cases o with
  | none => rfl
  | some n => cases n <;> simp [Option.filter]

/-- **Counting the dropped resources down gives the counts of the live ones**, where the
registry that was counted up has the ids of the one that is purged. -/
theorem remainingCounts_eq {working g : Registry} (h : working.ids = g.ids) :
    remainingCounts working g.retainLive.dropped = g.retainLive.live.namespaceCounts := by
  refine SortedMap.ext_get? fun ns => ?_
  rw [get?_namespaceCounts, get?_eq_of_positive (positive_remainingCounts _ _),
    getD_remainingCounts, h, ← countIn_live_add_dropped, Nat.add_sub_cancel]

end Flight

end IngressBalancer
