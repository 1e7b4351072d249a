import Mathlib.Data.List.Find
import Mathlib.Data.List.Induction
import Mathlib.Data.List.Nodup
/-!
# Lists with keys

In a list in which no key occurs twice, whatever has a key is found by it, and
alone. A list in which keys do occur twice is cut down to such a one by keeping
the first item with each key (`firstsBy`), in the order in which the keys first
occur (`map_firstsBy`).
-/

universe u v

namespace IngressBalancer

variable {α : Type u} {κ : Type v} [DecidableEq κ] {key : α → κ} {l : List α} {a : α}

/-- What has a key is alone with it, where no key occurs twice. -/
theorem filter_key_eq_singleton (hnd : (l.map key).Nodup) (ha : a ∈ l) :
    l.filter (key · = key a) = [a] := by
  induction l with
  | nil => exact absurd ha List.not_mem_nil
  | cons b l ih =>
    rw [List.map_cons, List.nodup_cons] at hnd
    rcases List.mem_cons.1 ha with rfl | ha
    · have hrest : l.filter (key · = key a) = [] := List.filter_eq_nil_iff.2 fun b hb hkey =>
        hnd.1 (List.mem_map.2 ⟨b, hb, of_decide_eq_true hkey⟩)
      rw [List.filter_cons_of_pos (by simp), hrest]
    · have hne : key b ≠ key a := fun hkey => hnd.1 (hkey ▸ List.mem_map_of_mem ha)
      rw [List.filter_cons_of_neg (by simpa using hne), ih hnd.2 ha]

theorem filter_key_eq_nil {k : κ} (h : k ∉ l.map key) : l.filter (key · = k) = [] :=
  List.filter_eq_nil_iff.2 fun _ ha hkey => h (of_decide_eq_true hkey ▸ List.mem_map_of_mem ha)

/-- And is found by it. -/
theorem find?_key_eq_some (hnd : (l.map key).Nodup) (ha : a ∈ l) :
    l.find? (key · = key a) = some a := by
  rw [← List.head?_filter, filter_key_eq_singleton hnd ha, List.head?_cons]

/-- Nor does the order of the list matter to what has a key. -/
theorem filter_key_eq_of_perm {l' : List α} (h : l.Perm l') (hnd : (l.map key).Nodup) (k : κ) :
    l.filter (key · = k) = l'.filter (key · = k) := by
  have hnd' : (l'.map key).Nodup := (h.map key).nodup_iff.1 hnd
  by_cases hk : k ∈ l.map key
  · obtain ⟨a, ha, rfl⟩ := List.mem_map.1 hk
    rw [filter_key_eq_singleton hnd ha, filter_key_eq_singleton hnd' (h.mem_iff.1 ha)]
  · rw [filter_key_eq_nil hk, filter_key_eq_nil (mt (h.map key).mem_iff.2 hk)]

/-! ## The first with each key -/

/-- The items of a list with no item before them that has the same key. -/
def firstsBy (key : α → κ) : List α → List α
  | [] => []
  | a :: l => a :: (firstsBy key l).filter (key · ≠ key a)

/-- The first items are items of the list. -/
theorem firstsBy_sublist (key : α → κ) (l : List α) : (firstsBy key l).Sublist l := by
  induction l with
  | nil => exact .slnil
  | cons a l ih => exact (List.filter_sublist.trans ih).cons_cons a

/-- **What is found by its key in a list is found among the first items.** -/
theorem find?_firstsBy (key : α → κ) (l : List α) (k : κ) :
    (firstsBy key l).find? (key · = k) = l.find? (key · = k) := by
  induction l with
  | nil => rfl
  | cons a l ih =>
    rw [firstsBy]
    by_cases ha : key a = k
    · rw [List.find?_cons_of_pos (by simpa using ha), List.find?_cons_of_pos (by simpa using ha)]
    · rw [List.find?_cons_of_neg (by simpa using ha), List.find?_cons_of_neg (by simpa using ha),
        List.find?_filter, ← ih]
      exact List.find?_congr fun b _ => by
        simpa using fun (hb : key b = k) hba => ha (hba.symm.trans hb)

/-- What has a key that nothing before it has is among them. -/
theorem mem_firstsBy_of_append {pre post : List α} (h : key a ∉ pre.map key) :
    a ∈ firstsBy key (pre ++ a :: post) := by
  have hpre : pre.find? (key · = key a) = none := List.find?_eq_none.2 fun b hb hkey =>
    h (of_decide_eq_true hkey ▸ List.mem_map_of_mem hb)
  have hfind : (firstsBy key (pre ++ a :: post)).find? (key · = key a) = some a := by
    rw [find?_firstsBy, List.find?_append, hpre, Option.none_or]
    exact List.find?_cons_of_pos (by simp)
  exact List.mem_of_find?_eq_some hfind

/-- No key occurs twice among the first items. -/
theorem nodup_map_firstsBy (key : α → κ) (l : List α) : ((firstsBy key l).map key).Nodup := by
  induction l with
  | nil => exact List.nodup_nil
  | cons a l ih =>
    refine List.nodup_cons.2 ⟨fun hmem => ?_, ih.sublist (List.filter_sublist.map key)⟩
    obtain ⟨b, hb, hkey⟩ := List.mem_map.1 hmem
    exact absurd hkey (of_decide_eq_true (List.mem_filter.1 hb).2)

/-- One more item at the end is kept where its key is new. -/
theorem firstsBy_concat (key : α → κ) (l : List α) (a : α) :
    firstsBy key (l ++ [a]) = firstsBy key l ++ if key a ∈ l.map key then [] else [a] := by
  induction l with
  | nil => rfl
  | cons b l ih =>
    rw [List.cons_append, firstsBy, ih, List.filter_append, firstsBy, List.map_cons,
      List.cons_append]
    by_cases hl : key a ∈ l.map key
    · rw [if_pos hl, if_pos (List.mem_cons_of_mem _ hl), List.filter_nil]
    · by_cases hb : key a = key b <;> simp [hl, hb]

/-- **The keys of the first items are all keys**, each once, in the order in which they come. -/
theorem map_firstsBy (key : α → κ) (l : List α) :
    (firstsBy key l).map key = (l.map key).eraseDups := by
  induction l using List.reverseRecOn with
  | nil => rfl
  | append_singleton l a ih =>
    rw [firstsBy_concat, List.map_append, ih, List.map_append, List.eraseDups_append,
      List.map_singleton, List.removeAll]
    by_cases ha : key a ∈ l.map key
    · rw [if_pos ha, List.filter_cons_of_neg (by simpa using List.mem_map.1 ha), List.filter_nil]
      rfl
    · rw [if_neg ha, List.filter_cons_of_pos (by simpa using mt List.mem_map.2 ha),
        List.filter_nil]
      rfl

end IngressBalancer
