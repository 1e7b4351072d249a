import IngressBalancer.Controller.DesiredSet
import IngressBalancer.Proofs.Registry.Contents
/-!
# What is declared, and what is held

The desired set of a view, id by id. An id is in it exactly when an ingress
declares it (`contains_build`); it is held exactly when the spec of one of
these ingresses cannot be built (`isHeld_build`); and its entry is what the
last of them asks for, on top of the prior handle (`get?_build`). So an entry
that is not held has a spec, built in this pass for an ingress with its id
(`exists_spec_of_not_held`).
-/

namespace IngressBalancer

/-- The ingresses of a view that declare a load balancer. -/
def View.declared (v : View) (settings : Settings) : List Ingress :=
  v.ingresses.filter (·.isDeclared settings.ingressClass)

/-- Whether some ingress of a view declares an id. -/
def View.Declares (v : View) (settings : Settings) (id : ResourceId) : Prop :=
  ∃ i ∈ v.declared settings, i.id = id

/-- The spec of an ingress of a view, or why there is none. -/
def Settings.specOf (settings : Settings) (v : View) (i : Ingress) : Except Failure Spec :=
  Blueprint.desiredSpec (settings.context v) i (Blueprint.targets v.nodes)

/-- The prior entry of an id, or a blank one. -/
def Registry.carried (prior : Registry) (id : ResourceId) : Resource :=
  (prior.get? id).getD (.blank id)

@[simp] theorem Registry.id_carried (prior : Registry) (id : ResourceId) :
    (prior.carried id).id = id := by
  unfold carried
  cases h : prior.get? id with
  | none => rfl
  | some r => exact id_of_get? h

namespace DesiredSet

variable {ctx : Blueprint.Context} {targets : List String} {prior : Registry}
variable {settings : Settings} {v : View} {id : ResourceId} {r : Resource} {i : Ingress}

/-- What an ingress asks for: the prior entry with the new spec, or as it was. -/
def entry (ctx : Blueprint.Context) (targets : List String) (prior : Registry) (i : Ingress) :
    Resource :=
  match Blueprint.desiredSpec ctx i targets with
  | .ok spec => { prior.carried i.id with desired := some spec }
  | .error _ => prior.carried i.id

@[simp] theorem id_entry : (entry ctx targets prior i).id = i.id := by
  unfold entry
  split <;> exact prior.id_carried i.id

@[simp] theorem handle_entry :
    (entry ctx targets prior i).handle = (prior.carried i.id).handle := by
  unfold entry
  split <;> rfl

/-- A declaration puts the entry in, whether it is held or not. -/
theorem resources_declare (d : DesiredSet) :
    (declare ctx targets prior d i).resources =
      d.resources.insert (entry ctx targets prior i) := by
  unfold declare
  split
  · next spec h => simp only [want, entry, h, Registry.carried]
  · next e h => simp only [hold, entry, h, Registry.carried]

/-- A declaration holds its id where the spec cannot be built, and lets no id go. -/
theorem contains_held_declare (d : DesiredSet) :
    (declare ctx targets prior d i).held.contains id = true ↔
      d.held.contains id = true ∨
        i.id = id ∧ ∃ e, Blueprint.desiredSpec ctx i targets = .error e := by
  unfold declare
  split
  · next spec h => simp [want, h]
  · next e h =>
    simp only [hold, SortedMap.contains_eq_isSome, SortedMap.get?_insert_eq, h]
    by_cases hid : id = i.id
    · simp [hid]
    · simp [hid, Ne.symm hid]

/-! ## A list of declarations -/

theorem get?_foldl_declare (is : List Ingress) (d : DesiredSet) :
    (is.foldl (declare ctx targets prior) d).resources.get? id =
      ((is.reverse.find? (·.id = id)).map (entry ctx targets prior)).or
        (d.resources.get? id) := by
  induction is generalizing d with
  | nil => rfl
  | cons i is ih =>
    rw [List.foldl_cons, ih, resources_declare, Registry.get?_insert, id_entry,
      List.reverse_cons, List.find?_append]
    by_cases hi : i.id = id
    · cases hf : is.reverse.find? (·.id = id) <;> simp [hi]
    · have hi' : id ≠ i.id := fun h => hi h.symm
      cases hf : is.reverse.find? (·.id = id) <;> simp [hi, hi']

theorem contains_held_foldl_declare (is : List Ingress) (d : DesiredSet) :
    (is.foldl (declare ctx targets prior) d).held.contains id = true ↔
      d.held.contains id = true ∨
        ∃ i ∈ is, i.id = id ∧ ∃ e, Blueprint.desiredSpec ctx i targets = .error e := by
  induction is generalizing d with
  | nil => simp
  | cons i is ih =>
    rw [List.foldl_cons, ih, contains_held_declare]
    simp only [List.mem_cons, exists_eq_or_imp, or_assoc]

/-! ## The desired set of a view -/

/-- What an ingress of a view asks for. -/
def entryOf (settings : Settings) (v : View) (prior : Registry) (i : Ingress) : Resource :=
  entry (settings.context v) (Blueprint.targets v.nodes) prior i

/-- **The entry of an id is what the last ingress that declares it asks for.** -/
theorem get?_build : (build settings v prior).resources.get? id =
    ((v.declared settings).reverse.find? (·.id = id)).map (entryOf settings v prior) := by
  rw [build, get?_foldl_declare, empty, Registry.get?_emptyCollection, Option.or_none]
  rfl

/-- **The desired set has the declared ids.** -/
theorem contains_build (prior : Registry) :
    (build settings v prior).resources.contains id = true ↔ v.Declares settings id := by
  rw [Registry.contains_eq_isSome, get?_build, Option.isSome_map, List.find?_isSome]
  simp [View.Declares]

/-- **An id is held exactly when an ingress that declares it has no spec.** -/
theorem isHeld_build : (build settings v prior).held.contains id = true ↔
    ∃ i ∈ v.declared settings, i.id = id ∧ ∃ e, settings.specOf v i = .error e := by
  rw [build, contains_held_foldl_declare]
  exact or_iff_right fun h => by simp [empty, SortedMap.contains_eq_isSome] at h

/-- The entry of a declared id comes from an ingress that declares it. -/
theorem exists_of_get?_build (h : (build settings v prior).resources.get? id = some r) :
    ∃ i ∈ v.declared settings, i.id = id ∧ entryOf settings v prior i = r := by
  rw [get?_build, Option.map_eq_some_iff] at h
  obtain ⟨i, hi, rfl⟩ := h
  exact ⟨i, List.mem_reverse.1 (List.mem_of_find?_eq_some hi), by simpa using List.find?_some hi,
    rfl⟩

/-- Entries keep the handle of the prior entry. -/
theorem handle_of_get?_build (h : (build settings v prior).resources.get? id = some r) :
    r.handle = (prior.carried id).handle := by
  obtain ⟨i, -, rfl, rfl⟩ := exists_of_get?_build h
  exact handle_entry

/-- **What is not held has a spec**, built for an ingress that declares it. -/
theorem exists_spec_of_not_held (h : (build settings v prior).resources.get? id = some r)
    (hheld : (build settings v prior).held.contains id = false) :
    ∃ i ∈ v.declared settings, i.id = id ∧ ∃ spec, settings.specOf v i = .ok spec ∧
      r = { prior.carried id with desired := some spec } := by
  obtain ⟨i, hi, rfl, hr⟩ := exists_of_get?_build h
  refine ⟨i, hi, rfl, ?_⟩
  cases hs : settings.specOf v i with
  | error e =>
    rw [isHeld_build.2 ⟨i, hi, rfl, e, hs⟩] at hheld
    cases hheld
  | ok spec =>
    refine ⟨spec, rfl, ?_⟩
    rw [← hr, entryOf, entry, show Blueprint.desiredSpec _ i _ = .ok spec from hs]

/-! ## Problems -/

/-- What is noted about an ingress whose spec cannot be built. -/
def problemOf? (settings : Settings) (v : View) (i : Ingress) : Option (ResourceId × Failure) :=
  match settings.specOf v i with
  | .ok _ => none
  | .error e => some (i.id, e)

/-- **The problems are those of the declaring ingresses, in their order.** -/
theorem problems_build : (build settings v prior).problems =
    (v.declared settings).filterMap (problemOf? settings v) := by
  have hfold : ∀ (is : List Ingress) (d : DesiredSet),
      (is.foldl (declare (settings.context v) (Blueprint.targets v.nodes) prior) d).problems =
        d.problems ++ is.filterMap (problemOf? settings v) := by
    intro is
    induction is with
    | nil => exact fun d => (List.append_nil _).symm
    | cons i is ih =>
      intro d
      rw [List.foldl_cons, ih]
      cases hs : settings.specOf v i with
      | ok spec =>
        have hnone : problemOf? settings v i = none := by rw [problemOf?, hs]
        rw [List.filterMap_cons_none hnone, declare,
          show Blueprint.desiredSpec _ i _ = .ok spec from hs]
        rfl
      | error e =>
        have hsome : problemOf? settings v i = some (i.id, e) := by rw [problemOf?, hs]
        rw [List.filterMap_cons_some hsome, declare,
          show Blueprint.desiredSpec _ i _ = .error e from hs]
        exact List.append_assoc d.problems [(i.id, e)] _
  exact hfold _ empty

/-- No id has two problems where no two declaring ingresses share one. -/
theorem nodup_problems (hnd : ((v.declared settings).map (·.id)).Nodup) :
    ((build settings v prior).problems.map (·.1)).Nodup := by
  rw [problems_build]
  have hsub : ∀ is : List Ingress, ((is.filterMap (problemOf? settings v)).map (·.1)).Sublist
      (is.map (·.id)) := by
    intro is
    induction is with
    | nil => exact .slnil
    | cons i is ih =>
      cases hs : settings.specOf v i with
      | ok spec =>
        have hnone : problemOf? settings v i = none := by rw [problemOf?, hs]
        rw [List.filterMap_cons_none hnone]
        exact ih.cons i.id
      | error e =>
        have hsome : problemOf? settings v i = some (i.id, e) := by rw [problemOf?, hs]
        rw [List.filterMap_cons_some hsome]
        exact ih.cons_cons i.id
  exact hnd.sublist (hsub _)

/-! ## Distinct ids -/

section Distinct

variable (hnd : ((v.declared settings).map (·.id)).Nodup) (hi : i ∈ v.declared settings)
include hnd hi

/-- Where no two declaring ingresses share an id, each is the only one with its id. -/
theorem eq_of_declared {j : Ingress} (hj : j ∈ v.declared settings) (h : j.id = i.id) : j = i :=
  List.inj_on_of_nodup_map hnd hj hi h

/-- And each has the entry that it asks for. -/
theorem get?_build_of_nodup :
    (build settings v prior).resources.get? i.id = some (entryOf settings v prior i) := by
  have hc := (contains_build prior).2 ⟨i, hi, rfl⟩
  obtain ⟨r, hr⟩ := Option.isSome_iff_exists.1 (Registry.contains_eq_isSome.symm.trans hc)
  obtain ⟨j, hj, hid, rfl⟩ := exists_of_get?_build hr
  rw [hr, eq_of_declared hnd hi hj hid]

/-- And is held exactly when it has no spec. -/
theorem isHeld_build_of_nodup : (build settings v prior).held.contains i.id = true ↔
    ∃ e, settings.specOf v i = .error e := by
  rw [isHeld_build]
  constructor
  · rintro ⟨j, hj, hid, e, he⟩
    exact ⟨e, eq_of_declared hnd hi hj hid ▸ he⟩
  · rintro ⟨e, he⟩
    exact ⟨i, hi, rfl, e, he⟩

end Distinct

end DesiredSet

end IngressBalancer
