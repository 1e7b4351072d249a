/-!
# Sorted maps

A finite map, kept as the list of its entries in strictly increasing order
of their keys. The order makes the list canonical: two maps that answer
every look-up alike are the same value (`SortedMap.ext_get?`), so equality
of registries, inventories, tag sets and specs is equality of contents.

Each operation has one equation about look-ups (`get?_insert`,
`get?_filter`, `get?_mapValues`), and `mem_entries_iff` reads membership
of an entry as a look-up.
-/

universe u v w

namespace IngressBalancer

/-- A finite map from `κ` to `α` with its entries in increasing key order. -/
structure SortedMap (κ : Type u) (α : Type v) [Ord κ] where
  /-- The entries, least key first. -/
  entries : List (κ × α)
  /-- No two entries share a key, and the keys increase. -/
  sorted : entries.Pairwise fun a b => compare a.1 b.1 = .lt

/-- A finite set, as the keys of a map to nothing. -/
abbrev SortedSet (κ : Type u) [Ord κ] := SortedMap κ Unit

namespace SortedMap

variable {κ : Type u} {α : Type v} {β : Type w} [Ord κ]

theorem ext_entries {m n : SortedMap κ α} (h : m.entries = n.entries) : m = n := by
  cases m; cases n; cases h; rfl

instance [DecidableEq κ] [DecidableEq α] : DecidableEq (SortedMap κ α) := fun m n =>
  decidable_of_iff (m.entries = n.entries) ⟨ext_entries, fun h => h ▸ rfl⟩

instance [Repr κ] [Repr α] : Repr (SortedMap κ α) := ⟨fun m n => reprPrec m.entries n⟩

/-! ## Entries -/

/-- The value of the first entry with key `k`. -/
def lookup (k : κ) : List (κ × α) → Option α
  | [] => none
  | e :: es => if compare k e.1 = .eq then some e.2 else lookup k es

/-- Put `(k, a)` at its place, in the stead of an entry with the same key. -/
def place (k : κ) (a : α) : List (κ × α) → List (κ × α)
  | [] => [(k, a)]
  | e :: es =>
    match compare k e.1 with
    | .lt => (k, a) :: e :: es
    | .eq => (k, a) :: es
    | .gt => e :: place k a es

theorem mem_place {k : κ} {a : α} {e : κ × α} {es : List (κ × α)} (h : e ∈ place k a es) :
    e = (k, a) ∨ e ∈ es := by
  induction es with
  | nil => simpa [place] using h
  | cons x xs ih =>
    unfold place at h
    split at h <;> simp only [List.mem_cons] at h ⊢
    · exact h
    · exact h.imp_right .inr
    · rcases h with h | h
      · exact .inr (.inl h)
      · exact (ih h).imp_right .inr

theorem pairwise_place [Std.TransOrd κ] {k : κ} {a : α} {es : List (κ × α)}
    (h : es.Pairwise fun a b => compare a.1 b.1 = .lt) :
    (place k a es).Pairwise fun a b => compare a.1 b.1 = .lt := by
  induction es with
  | nil => simp [place]
  | cons x xs ih =>
    rw [List.pairwise_cons] at h
    unfold place
    split
    next hlt =>
      refine List.pairwise_cons.2 ⟨fun e he => ?_, List.pairwise_cons.2 h⟩
      rcases List.mem_cons.1 he with rfl | he
      · exact hlt
      · exact Std.TransCmp.lt_trans hlt (h.1 e he)
    next heq =>
      refine List.pairwise_cons.2 ⟨fun e he => ?_, h.2⟩
      exact Std.TransCmp.lt_of_eq_of_lt heq (h.1 e he)
    next hgt =>
      refine List.pairwise_cons.2 ⟨fun e he => ?_, ih h.2⟩
      rcases mem_place he with rfl | he
      · exact Std.OrientedCmp.lt_of_gt hgt
      · exact h.1 e he

/-! ## Operations -/

/-- The map without entries. -/
def empty : SortedMap κ α := ⟨[], .nil⟩

instance : EmptyCollection (SortedMap κ α) := ⟨empty⟩

instance : Inhabited (SortedMap κ α) := ⟨empty⟩

/-- How many entries there are. -/
def size (m : SortedMap κ α) : Nat := m.entries.length

def isEmpty (m : SortedMap κ α) : Bool := m.entries.isEmpty

/-- The keys, in increasing order. -/
def keys (m : SortedMap κ α) : List κ := m.entries.map (·.1)

/-- The values, in the order of their keys. -/
def values (m : SortedMap κ α) : List α := m.entries.map (·.2)

def get? (m : SortedMap κ α) (k : κ) : Option α := lookup k m.entries

def getD (m : SortedMap κ α) (k : κ) (a : α) : α := (m.get? k).getD a

def contains (m : SortedMap κ α) (k : κ) : Bool := (m.get? k).isSome

/-- Add an entry; an entry with the same key is replaced. -/
def insert [Std.TransOrd κ] (m : SortedMap κ α) (k : κ) (a : α) : SortedMap κ α :=
  ⟨place k a m.entries, pairwise_place m.sorted⟩

/-- Keep the entries that satisfy `p`. -/
def filter (p : κ → α → Bool) (m : SortedMap κ α) : SortedMap κ α :=
  ⟨m.entries.filter fun e => p e.1 e.2, m.sorted.filter _⟩

/-- Drop the entry with key `k`. -/
def erase (m : SortedMap κ α) (k : κ) : SortedMap κ α :=
  m.filter fun k' _ => compare k k' != .eq

/-- Replace each value by a function of it. -/
def mapValues (f : α → β) (m : SortedMap κ α) : SortedMap κ β :=
  ⟨m.entries.map fun e => (e.1, f e.2), List.pairwise_map.2 m.sorted⟩

/-- The map that holds the entries of a list; of two with one key, the later stays. -/
def ofList [Std.TransOrd κ] (es : List (κ × α)) : SortedMap κ α :=
  es.foldl (fun m e => m.insert e.1 e.2) empty

/-- All entries of both; where both have a key, the second map's value stays. -/
def union [Std.TransOrd κ] (m n : SortedMap κ α) : SortedMap κ α :=
  n.entries.foldl (fun m e => m.insert e.1 e.2) m

/-- The set of a list's members. -/
def setOf [Std.TransOrd κ] (ks : List κ) : SortedSet κ :=
  ks.foldl (fun m k => m.insert k ()) empty

/-! ## Look-ups -/

variable {m n : SortedMap κ α} {k k' : κ} {a : α}

theorem lookup_place [Std.TransOrd κ] (es : List (κ × α)) :
    lookup k' (place k a es) = if compare k' k = .eq then some a else lookup k' es := by
  induction es with
  | nil => rfl
  | cons e es ih =>
    unfold place
    split
    next => rfl
    next h =>
      have hsame : compare k' k = .eq ↔ compare k' e.1 = .eq :=
        ⟨fun hk => Std.TransCmp.eq_trans hk h, fun hk => Std.TransCmp.eq_trans hk (Std.OrientedCmp.eq_symm h)⟩
      simp only [lookup, hsame]
      split <;> rfl
    next h =>
      simp only [lookup, ih]
      by_cases he : compare k' e.1 = .eq
      · have hne : compare k' k ≠ .eq := by
          intro hk
          have := Std.TransCmp.eq_trans (Std.OrientedCmp.eq_symm hk) he
          rw [h] at this; cases this
        simp [he, hne]
      · simp [he]

@[simp] theorem get?_empty : (empty : SortedMap κ α).get? k = none := rfl

/-- A look-up after an insertion. -/
theorem get?_insert [Std.TransOrd κ] :
    (m.insert k a).get? k' = if compare k' k = .eq then some a else m.get? k' :=
  lookup_place m.entries

theorem lookup_eq_some [Std.TransOrd κ] [Std.LawfulEqOrd κ] {es : List (κ × α)}
    (h : es.Pairwise fun a b => compare a.1 b.1 = .lt) :
    lookup k es = some a ↔ (k, a) ∈ es := by
  induction es with
  | nil => simp [lookup]
  | cons e es ih =>
    rw [List.pairwise_cons] at h
    simp only [lookup, List.mem_cons]
    by_cases he : compare k e.1 = .eq
    · rw [if_pos he]
      have hk : k = e.1 := Std.LawfulEqCmp.eq_of_compare he
      constructor
      · intro hs
        left
        cases hs
        exact Prod.ext hk rfl
      · rintro (rfl | hmem)
        · rfl
        · have := h.1 _ hmem
          simp [← hk] at this
    · rw [if_neg he, ih h.2]
      constructor
      · exact .inr
      · rintro (rfl | hmem)
        · exact absurd Std.ReflCmp.compare_self he
        · exact hmem

/-- **An entry is in the list exactly when its key is looked up to its value.** -/
theorem mem_entries_iff [Std.TransOrd κ] [Std.LawfulEqOrd κ] :
    (k, a) ∈ m.entries ↔ m.get? k = some a :=
  (lookup_eq_some m.sorted).symm

theorem contains_iff [Std.TransOrd κ] [Std.LawfulEqOrd κ] : m.contains k = true ↔ k ∈ m.keys := by
  simp only [contains, Option.isSome_iff_exists, keys, List.mem_map]
  constructor
  · rintro ⟨a, ha⟩
    exact ⟨(k, a), mem_entries_iff.2 ha, rfl⟩
  · rintro ⟨⟨k', a⟩, he, rfl⟩
    exact ⟨a, mem_entries_iff.1 he⟩

theorem get?_filter [Std.TransOrd κ] [Std.LawfulEqOrd κ] {p : κ → α → Bool} :
    (m.filter p).get? k = (m.get? k).filter (p k) := by
  apply Option.ext
  intro a
  rw [← mem_entries_iff]
  simp only [filter, List.mem_filter, Option.filter_eq_some_iff, mem_entries_iff]

theorem get?_mapValues {f : α → β} : (m.mapValues f).get? k = (m.get? k).map f := by
  have h : ∀ es : List (κ × α), lookup k (es.map fun e => (e.1, f e.2)) = (lookup k es).map f := by
    intro es
    induction es with
    | nil => rfl
    | cons e es ih => simp only [List.map_cons, lookup, ih]; split <;> rfl
  exact h m.entries

theorem entries_eq_of_mem_iff [Std.TransOrd κ] {es fs : List (κ × α)}
    (he : es.Pairwise fun a b => compare a.1 b.1 = .lt)
    (hf : fs.Pairwise fun a b => compare a.1 b.1 = .lt) (h : ∀ e, e ∈ es ↔ e ∈ fs) : es = fs := by
  induction es generalizing fs with
  | nil =>
    cases fs with
    | nil => rfl
    | cons f fs => exact absurd ((h f).2 List.mem_cons_self) List.not_mem_nil
  | cons e es ih =>
    cases fs with
    | nil => exact absurd ((h e).1 List.mem_cons_self) List.not_mem_nil
    | cons f fs =>
      rw [List.pairwise_cons] at he hf
      have hirr : ∀ x y : κ × α, compare x.1 y.1 = .lt → x ≠ y := by
        rintro x y hxy rfl
        simp at hxy
      have heq : e = f := by
        rcases List.mem_cons.1 ((h e).1 List.mem_cons_self) with heq | hmem
        · exact heq
        rcases List.mem_cons.1 ((h f).2 List.mem_cons_self) with heq | hmem'
        · exact heq.symm
        · have := Std.TransCmp.lt_trans (hf.1 e hmem) (he.1 f hmem')
          simp at this
      subst heq
      refine congrArg (e :: ·) (ih he.2 hf.2 fun x => ⟨fun hx => ?_, fun hx => ?_⟩)
      · exact (List.mem_cons.1 ((h x).1 (List.mem_cons_of_mem _ hx))).resolve_left
          fun hxe => hirr e x (he.1 x hx) hxe.symm
      · exact (List.mem_cons.1 ((h x).2 (List.mem_cons_of_mem _ hx))).resolve_left
          fun hxe => hirr e x (hf.1 x hx) hxe.symm

/-- **Maps that answer every look-up alike are equal.** -/
theorem ext_get? [Std.TransOrd κ] [Std.LawfulEqOrd κ] (h : ∀ k, m.get? k = n.get? k) : m = n :=
  ext_entries (entries_eq_of_mem_iff m.sorted n.sorted fun ⟨k, a⟩ => by
    rw [mem_entries_iff, mem_entries_iff, h k])

/-- The keys increase strictly. -/
theorem pairwise_keys (m : SortedMap κ α) : m.keys.Pairwise fun a b => compare a b = .lt :=
  List.pairwise_map.2 m.sorted

end SortedMap

end IngressBalancer
