import IngressBalancer.Data.SortedMap
/-!
# Look-ups in sorted maps

The equations of `insert` and `erase` over keys that are equal when they
compare equal, and the keys and values of a map read as look-ups. With
`SortedMap.ext_get?` they are all that is used of a map's list of entries.
-/

namespace IngressBalancer

namespace SortedMap

universe u v w

variable {κ : Type u} {α : Type v} {β : Type w} [Ord κ] [Std.TransOrd κ] [Std.LawfulEqOrd κ]
variable {m : SortedMap κ α} {k k' : κ} {a : α}

/-! ## Insertion and erasure -/

@[simp] theorem get?_insert_self : (m.insert k a).get? k = some a := by
  rw [get?_insert, if_pos Std.ReflCmp.compare_self]

theorem get?_insert_of_ne (h : k' ≠ k) : (m.insert k a).get? k' = m.get? k' := by
  rw [get?_insert, if_neg fun he => h (Std.LawfulEqCmp.eq_of_compare he)]

theorem get?_insert_eq [DecidableEq κ] :
    (m.insert k a).get? k' = if k' = k then some a else m.get? k' := by
  split
  · next h => rw [h, get?_insert_self]
  · next h => exact get?_insert_of_ne h

@[simp] theorem get?_erase_self : (m.erase k).get? k = none := by
  rw [erase, get?_filter]
  cases m.get? k <;> simp

theorem get?_erase_of_ne (h : k' ≠ k) : (m.erase k).get? k' = m.get? k' := by
  have hc : compare k k' ≠ .eq := fun he => h (Std.LawfulEqCmp.eq_of_compare he).symm
  rw [erase, get?_filter]
  cases m.get? k' <;> simp [hc]

theorem get?_erase_eq [DecidableEq κ] :
    (m.erase k).get? k' = if k' = k then none else m.get? k' := by
  split
  · next h => rw [h, get?_erase_self]
  · next h => exact get?_erase_of_ne h

omit [Std.TransOrd κ] [Std.LawfulEqOrd κ] in
@[simp] theorem get?_emptyCollection : (∅ : SortedMap κ α).get? k = none := rfl

/-! ## Keys and values -/

omit [Std.TransOrd κ] [Std.LawfulEqOrd κ] in
theorem contains_eq_isSome : m.contains k = (m.get? k).isSome := rfl

theorem mem_keys_iff : k ∈ m.keys ↔ ∃ a, m.get? k = some a := by
  simp only [keys, List.mem_map, Prod.exists, exists_and_right, exists_eq_right, mem_entries_iff]

theorem mem_values_iff : a ∈ m.values ↔ ∃ k, m.get? k = some a := by
  simp only [values, List.mem_map, Prod.exists, exists_eq_right, mem_entries_iff]

omit [Std.TransOrd κ] [Std.LawfulEqOrd κ] in
/-- Replacing the values leaves the keys. -/
theorem keys_mapValues (f : α → β) : (m.mapValues f).keys = m.keys := by
  simp only [keys, mapValues, List.map_map]
  rfl

omit [Std.TransOrd κ] in
/-- No key stands in a map twice. -/
theorem nodup_keys (m : SortedMap κ α) : m.keys.Nodup := by
  refine m.pairwise_keys.imp fun h he => ?_
  rw [he] at h
  simp at h

/-! ## Many insertions -/

omit [Std.TransOrd κ] [Std.LawfulEqOrd κ] in
/-- A key below all that are there is not there. -/
theorem lookup_eq_none {es : List (κ × α)} (h : ∀ e ∈ es, compare k e.1 = .lt) :
    lookup k es = none := by
  induction es with
  | nil => rfl
  | cons e es ih =>
    have hlt := h e List.mem_cons_self
    rw [lookup, if_neg (by rw [hlt]; exact Ordering.noConfusion)]
    exact ih fun e' he' => h e' (List.mem_cons_of_mem _ he')

/-- What is under a key after one value was put under many. -/
theorem get?_foldl_insert [DecidableEq κ] (ks : List κ) (a : α) (m : SortedMap κ α) :
    (ks.foldl (fun m k => m.insert k a) m).get? k = if k ∈ ks then some a else m.get? k := by
  induction ks generalizing m with
  | nil => rfl
  | cons k' ks ih =>
    rw [List.foldl_cons, ih, get?_insert_eq]
    by_cases hks : k ∈ ks
    · simp [hks]
    · by_cases hk : k = k' <;> simp [hks, hk]

omit [Std.LawfulEqOrd κ] in
/-- **In a union the second map comes first.** -/
theorem get?_union (m n : SortedMap κ α) : (m.union n).get? k = (n.get? k).or (m.get? k) := by
  have hfold : ∀ (es : List (κ × α)) (m : SortedMap κ α),
      (es.Pairwise fun a b => compare a.1 b.1 = .lt) →
      (es.foldl (fun m e => m.insert e.1 e.2) m).get? k = (lookup k es).or (m.get? k) := by
    intro es
    induction es with
    | nil => exact fun _ _ => rfl
    | cons e es ih =>
      intro m hsorted
      rw [List.pairwise_cons] at hsorted
      rw [List.foldl_cons, ih _ hsorted.2, get?_insert, lookup]
      by_cases hk : compare k e.1 = .eq
      · -- the key stands in the list once
        have hlast : lookup k es = none := lookup_eq_none fun e' he' =>
          Std.TransCmp.lt_of_eq_of_lt hk (hsorted.1 e' he')
        rw [if_pos hk, if_pos hk, hlast, Option.none_or, Option.some_or]
      · rw [if_neg hk, if_neg hk]
  exact hfold n.entries m n.sorted

omit [Std.LawfulEqOrd κ] in
/-- The entries of the map of a list are of the list. -/
theorem mem_of_mem_ofList {es : List (κ × α)} {e : κ × α} (h : e ∈ (ofList es).entries) :
    e ∈ es := by
  have hfold : ∀ (es : List (κ × α)) (m : SortedMap κ α),
      e ∈ (es.foldl (fun m e => m.insert e.1 e.2) m).entries → e ∈ m.entries ∨ e ∈ es := by
    intro es
    induction es with
    | nil => exact fun _ h => .inl h
    | cons e' es ih =>
      intro m h
      rcases ih _ h with h | h
      · exact (mem_place h).elim (fun he => .inr (he ▸ List.mem_cons_self)) .inl
      · exact .inr (List.mem_cons_of_mem _ h)
  exact (hfold es empty h).resolve_left List.not_mem_nil

/-- The values that a list puts under a key, in its order. -/
def valuesUnder [DecidableEq κ] (k : κ) (es : List (κ × α)) : List α :=
  es.filterMap fun e => if e.1 = k then some e.2 else none

omit [Ord κ] [Std.TransOrd κ] [Std.LawfulEqOrd κ] in
theorem valuesUnder_cons [DecidableEq κ] (e : κ × α) (es : List (κ × α)) :
    valuesUnder k (e :: es) = if e.1 = k then e.2 :: valuesUnder k es else valuesUnder k es := by
  unfold valuesUnder
  split
  · next h => exact List.filterMap_cons_some (if_pos h)
  · next h => exact List.filterMap_cons_none (if_neg h)

omit [Ord κ] [Std.TransOrd κ] [Std.LawfulEqOrd κ] in
theorem valuesUnder_ne_nil_iff [DecidableEq κ] {es : List (κ × α)} :
    valuesUnder k es ≠ [] ↔ k ∈ es.map (·.1) := by
  simp [valuesUnder]

/-- **Of the entries with one key the last one counts.** -/
theorem get?_ofList [DecidableEq κ] (es : List (κ × α)) :
    (ofList es).get? k = (valuesUnder k es).getLast? := by
  -- what is there before counts only where no entry has the key
  have hfold : ∀ m : SortedMap κ α, (es.foldl (fun m e => m.insert e.1 e.2) m).get? k =
      (valuesUnder k es).getLast?.or (m.get? k) := by
    induction es with
    | nil => exact fun _ => rfl
    | cons e es ih =>
      intro m
      rw [List.foldl_cons, ih, get?_insert_eq]
      by_cases hk : k = e.1
      · rw [if_pos hk, valuesUnder_cons, if_pos hk.symm, List.getLast?_cons]
        cases (valuesUnder k es).getLast? <;> rfl
      · rw [if_neg hk, valuesUnder_cons, if_neg (Ne.symm hk)]
  exact (hfold empty).trans (Option.or_none ..)

/-- A map is the map of its own entries. -/
theorem ofList_entries (m : SortedMap κ α) : ofList m.entries = m :=
  ext_get? fun k => (get?_union empty m).trans (by rw [get?_empty, Option.or_none])

/-- Replacing the values of a list's entries replaces those of its map. -/
theorem ofList_map (f : α → β) (es : List (κ × α)) :
    ofList (es.map fun e => (e.1, f e.2)) = (ofList es).mapValues f := by
  have hfold : ∀ m : SortedMap κ α,
      (es.map fun e => (e.1, f e.2)).foldl (fun m e => m.insert e.1 e.2) (m.mapValues f) =
        (es.foldl (fun m e => m.insert e.1 e.2) m).mapValues f := by
    induction es with
    | nil => exact fun _ => rfl
    | cons e es ih =>
      intro m
      have hinsert : (m.mapValues f).insert e.1 (f e.2) = (m.insert e.1 e.2).mapValues f :=
        ext_get? fun k => by
          simp only [get?_mapValues, get?_insert]
          split <;> rfl
      rw [List.map_cons, List.foldl_cons, List.foldl_cons, hinsert, ih]
  exact hfold empty

/-! ## Sets -/

/-- **Sets with the same members are equal.** -/
theorem ext_contains {s s' : SortedSet κ} (h : ∀ k, s.contains k = true ↔ s'.contains k = true) :
    s = s' := by
  refine ext_get? fun k => ?_
  have hk := Bool.eq_iff_iff.2 (h k)
  rw [contains_eq_isSome, contains_eq_isSome] at hk
  cases hs : s.get? k <;> cases hs' : s'.get? k <;> simp [hs, hs'] at hk ⊢

theorem contains_insert [DecidableEq κ] :
    (m.insert k a).contains k' = true ↔ k' = k ∨ m.contains k' = true := by
  rw [contains_eq_isSome, contains_eq_isSome, get?_insert_eq]
  split
  · next h => simp [h]
  · next h => simp [h]

/-- The set of a list's members has just these. -/
theorem contains_setOf [DecidableEq κ] {ks : List κ} :
    (setOf ks).contains k = true ↔ k ∈ ks := by
  have hfold : ∀ s : SortedSet κ, (ks.foldl (fun m k => m.insert k ()) s).contains k = true ↔
      k ∈ ks ∨ s.contains k = true := by
    induction ks with
    | nil => simp
    | cons k' ks ih =>
      intro s
      rw [List.foldl_cons, ih, contains_insert, List.mem_cons, or_left_comm, or_assoc]
  exact (hfold empty).trans (or_iff_left Bool.false_ne_true)

end SortedMap

end IngressBalancer
