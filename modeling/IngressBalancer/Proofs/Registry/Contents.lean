import IngressBalancer.Proofs.Data.Keys
import IngressBalancer.Proofs.Data.SortedMap
import IngressBalancer.Registry
/-!
# What a registry holds

Each operation of a registry by what it does to look-ups: insertion of one
resource and of many, where the later of two with one id stays
(`get?_insertAll`); the resources to be removed (`mem_removed`); and the
purge of what has no live load balancer (`get?_live`). A registry lists its
resources in strictly increasing order of their ids.
-/

namespace IngressBalancer

namespace Registry

variable {g current : Registry} {r : Resource} {id : ResourceId}

/-- A resource is found under its own id. -/
theorem id_of_get? (h : g.get? id = some r) : r.id = id :=
  g.keyed (id, r) (SortedMap.mem_entries_iff.2 h)

@[simp] theorem get?_emptyCollection : (∅ : Registry).get? id = none := rfl

theorem contains_eq_isSome : g.contains id = (g.get? id).isSome := rfl

theorem mem_toList_iff : r ∈ g.toList ↔ g.get? r.id = some r := by
  constructor
  · intro h
    obtain ⟨id, hid⟩ := SortedMap.mem_values_iff.1 h
    rwa [id_of_get? hid]
  · exact fun h => SortedMap.mem_values_iff.2 ⟨r.id, h⟩

theorem mem_ids_iff : id ∈ g.ids ↔ g.contains id = true := SortedMap.contains_iff.symm

/-- The ids in order are the ids of the resources in order. -/
theorem map_id_toList (g : Registry) : g.toList.map (·.id) = g.ids := by
  simp only [toList, ids, SortedMap.values, SortedMap.keys, List.map_map]
  exact List.map_congr_left fun e he => g.keyed e he

/-- **Registries with the same look-ups are equal.** -/
theorem ext_get? {g g' : Registry} (h : ∀ id, g.get? id = g'.get? id) : g = g' := by
  have hmap : g.map = g'.map := SortedMap.ext_get? h
  cases g
  cases g'
  cases hmap
  rfl

/-- Registries with the same ids list them alike. -/
theorem ids_congr {g g' : Registry} (h : ∀ id, g.contains id = g'.contains id) :
    g.ids = g'.ids := by
  have hmap : g.map.mapValues (fun _ => ()) = g'.map.mapValues fun _ => () := by
    refine SortedMap.ext_get? fun id => ?_
    have hid : (g.map.get? id).isSome = (g'.map.get? id).isSome := h id
    rw [SortedMap.get?_mapValues, SortedMap.get?_mapValues]
    cases hg : g.map.get? id <;> cases hg' : g'.map.get? id <;> simp [hg, hg'] at hid ⊢
  have hkeys := congrArg SortedMap.keys hmap
  rwa [SortedMap.keys_mapValues, SortedMap.keys_mapValues] at hkeys

/-! ## Order -/

/-- The ids of the listed resources increase strictly. -/
theorem pairwise_toList (g : Registry) :
    (g.toList.map (·.id)).Pairwise fun a b => compare a b = .lt := by
  rw [map_id_toList]
  exact g.map.pairwise_keys

theorem nodup_ids (g : Registry) : g.ids.Nodup := g.map.nodup_keys

/-! ## Insertion -/

theorem get?_insert : (g.insert r).get? id = if id = r.id then some r else g.get? id :=
  SortedMap.get?_insert_eq

/-- **After many insertions an id leads to the last resource inserted under it.** -/
theorem get?_insertAll (g : Registry) (rs : List Resource) (id : ResourceId) :
    (g.insertAll rs).get? id = (rs.reverse.find? (·.id = id)).or (g.get? id) := by
  induction rs generalizing g with
  | nil => rfl
  | cons r rs ih =>
    have hstep : g.insertAll (r :: rs) = (g.insert r).insertAll rs := rfl
    rw [hstep, ih, get?_insert, List.reverse_cons, List.find?_append]
    by_cases hr : r.id = id
    · cases hf : rs.reverse.find? (·.id = id) <;> simp [hr]
    · have hr' : id ≠ r.id := fun h => hr h.symm
      cases hf : rs.reverse.find? (·.id = id) <;> simp [hr, hr']

/-- Inserting resources under ids that are there adds no id. -/
theorem ids_insertAll {rs : List Resource} (h : ∀ r ∈ rs, g.contains r.id = true) :
    (g.insertAll rs).ids = g.ids := by
  refine ids_congr fun id => ?_
  rw [contains_eq_isSome, contains_eq_isSome, get?_insertAll]
  cases hf : rs.reverse.find? (·.id = id) with
  | none => rw [Option.none_or]
  | some r =>
    have hid : r.id = id := by simpa using List.find?_some hf
    have hr := h r (List.mem_reverse.1 (List.mem_of_find?_eq_some hf))
    rw [Option.some_or, ← hid, ← contains_eq_isSome, hr]
    rfl

/-- Where no id occurs twice, the place of a resource among many does not matter. -/
theorem find?_reverse_of_nodup {rs : List Resource} (hnd : (rs.map (·.id)).Nodup) (hr : r ∈ rs) :
    rs.reverse.find? (·.id = r.id) = some r := by
  refine find?_key_eq_some ?_ (List.mem_reverse.2 hr)
  rwa [List.map_reverse, List.nodup_reverse]

/-- A registry of resources holds nothing but them. -/
theorem mem_of_get?_ofList {rs : List Resource} (h : (ofList rs).get? id = some r) :
    r ∈ rs ∧ r.id = id := by
  rw [ofList, get?_insertAll, Option.or_eq_some_iff] at h
  rcases h with h | ⟨-, h⟩
  · exact ⟨List.mem_reverse.1 (List.mem_of_find?_eq_some h), by simpa using List.find?_some h⟩
  · cases h

/-- A registry of resources with distinct ids holds just them. -/
theorem get?_ofList_eq_some {rs : List Resource} (hnd : (rs.map (·.id)).Nodup) :
    (ofList rs).get? id = some r ↔ r ∈ rs ∧ r.id = id := by
  refine ⟨mem_of_get?_ofList, ?_⟩
  rintro ⟨hr, rfl⟩
  rw [ofList, get?_insertAll, find?_reverse_of_nodup hnd hr, Option.some_or]

/-! ## Removal -/

theorem mem_removed : r ∈ g.removed current ↔
    ∃ s, g.get? r.id = some s ∧ current.contains r.id = false ∧ r = s.toRemoval := by
  simp only [removed, List.mem_map, List.mem_filter, Bool.not_eq_true']
  constructor
  · rintro ⟨s, ⟨hs, hc⟩, rfl⟩
    exact ⟨s, mem_toList_iff.1 hs, hc, rfl⟩
  · rintro ⟨s, hs, hc, rfl⟩
    exact ⟨s, ⟨mem_toList_iff.2 hs, hc⟩, rfl⟩

/-- The removed ids are ids of the registry, in the same order. -/
theorem map_id_removed (g current : Registry) :
    (g.removed current).map (·.id) = g.ids.filter fun id => !current.contains id := by
  rw [← map_id_toList, List.filter_map, removed, List.map_map]
  rfl

theorem nodup_removed (g current : Registry) : ((g.removed current).map (·.id)).Nodup := by
  rw [map_id_removed]
  exact g.nodup_ids.filter _

/-- **What is there after the missing resources are added**: what was there, and the missing
ones with their specs cleared. -/
theorem get?_insertAll_removed (g current : Registry) (id : ResourceId) :
    (current.insertAll (g.removed current)).get? id =
      (current.get? id).or ((g.get? id).map Resource.toRemoval) := by
  rw [get?_insertAll]
  cases hc : current.get? id with
  | some r =>
    -- what `current` has is not among the removed
    have hnone : (g.removed current).reverse.find? (·.id = id) = none := by
      rw [List.find?_eq_none]
      intro s hs hid
      obtain ⟨-, -, hcs, -⟩ := mem_removed.1 (List.mem_reverse.1 hs)
      rw [of_decide_eq_true hid, contains_eq_isSome, hc] at hcs
      cases hcs
    simp [hnone]
  | none =>
    cases hg : g.get? id with
    | none =>
      have hnone : (g.removed current).reverse.find? (·.id = id) = none := by
        rw [List.find?_eq_none]
        intro s hs hid
        obtain ⟨s', hs', -, -⟩ := mem_removed.1 (List.mem_reverse.1 hs)
        rw [of_decide_eq_true hid, hg] at hs'
        cases hs'
      simp [hnone]
    | some s =>
      have hid : s.id = id := id_of_get? hg
      have hlacks : current.contains s.toRemoval.id = false := by
        rw [contains_eq_isSome, show s.toRemoval.id = id from hid, hc]
        rfl
      have hmem : s.toRemoval ∈ g.removed current := mem_removed.2 ⟨s, hid ▸ hg, hlacks, rfl⟩
      have hfind := find?_reverse_of_nodup (nodup_removed g current) hmem
      rw [show s.toRemoval.id = id from hid] at hfind
      simp [hfind]

/-! ## Purge -/

theorem get?_filter (p : Resource → Bool) : (g.filter p).get? id = (g.get? id).filter p :=
  SortedMap.get?_filter

/-- The purge keeps exactly the live resources. -/
theorem get?_live : g.retainLive.live.get? id = (g.get? id).filter Resource.isLive :=
  get?_filter _

/-- The live resources, in the order of their ids. -/
theorem toList_live (g : Registry) : g.retainLive.live.toList = g.toList.filter Resource.isLive := by
  simp only [retainLive, filter, toList, SortedMap.values, SortedMap.filter, List.filter_map]
  rfl

theorem isLive_of_mem_live (h : r ∈ g.retainLive.live.toList) : r.isLive = true := by
  rw [mem_toList_iff, get?_live, Option.filter_eq_some_iff] at h
  exact h.2

end Registry

end IngressBalancer
