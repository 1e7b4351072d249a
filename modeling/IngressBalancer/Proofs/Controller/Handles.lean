import IngressBalancer.Proofs.Controller.Landing
import IngressBalancer.Proofs.Provider.Changes
/-!
# Handles through passes and resyncs

What becomes of the handle of an id: the first half of a pass carries it over
whatever the ingresses declare (`handle?_working`); an attempt that succeeds
decides about it, and all else leaves it (`handle?_commit_ok`,
`handle?_commit_error`, `handle?_commit_idle`). A resync finds the handle of
what stands under the name of the id (`handle?_adopt`). Neither brings up an
id out of nowhere (`contains_of_commit`, `get?_adopt_eq_some`).
-/

namespace IngressBalancer

theorem Resource.handle_of_liveHandle? {r : Resource} {h : Handle} (hh : r.liveHandle? = some h) :
    r.handle = some h :=
  (Option.filter_eq_some_iff.1 hh).1

namespace Registry

variable {g : Registry} {id : ResourceId} {r : Resource}

/-- The handle of the live load balancer of an id. -/
def handle? (g : Registry) (id : ResourceId) : Option Handle :=
  (g.get? id).bind Resource.liveHandle?

theorem handle?_of_get? (h : g.get? id = some r) : g.handle? id = r.liveHandle? := by
  rw [handle?, h, Option.bind_some]

/-- An id without a live load balancer has no handle, whether it is dropped or not. -/
theorem bind_filter_isLive (o : Option Resource) :
    (o.filter Resource.isLive).bind Resource.liveHandle? = o.bind Resource.liveHandle? := by
  cases o with
  | none => rfl
  | some r =>
    cases h : r.liveHandle? <;> simp [Option.filter, Resource.isLive, h]

end Registry

namespace Flight

variable {f : Flight} {settings : Settings} {v : View} {state : SyncState} {metrics : Metrics}
variable {os : List Outcome} {now : Instant} {id : ResourceId} {r : Resource} {e : Failure}

/-! ## The first half -/

/-- **The working set carries the handles over.** -/
theorem handle?_working :
    (start settings v state now).working.handle? id = state.registry.handle? id := by
  rw [Registry.handle?, Registry.handle?, get?_working]
  cases hd : (DesiredSet.build settings v state.registry).resources.get? id with
  | some r =>
    have hr : r.liveHandle? = (state.registry.carried id).liveHandle? := by
      rw [Resource.liveHandle?, DesiredSet.handle_of_get?_build hd]
      rfl
    rw [Option.some_or, Option.bind_some, hr, Registry.carried]
    cases state.registry.get? id <;> rfl
  | none =>
    rw [Option.none_or]
    cases state.registry.get? id <;> rfl

/-- What is worked on is declared or tracked. -/
theorem contains_working : (start settings v state now).working.contains id = true ↔
    v.Declares settings id ∨ state.registry.contains id = true := by
  rw [← DesiredSet.contains_build state.registry]
  simp only [Registry.contains_eq_isSome, get?_working, Option.isSome_or, Option.isSome_map,
    Bool.or_eq_true]

/-- The handle of a resource of the batch is the one that is tracked. -/
theorem liveHandle?_of_mem_batch (h : r ∈ (start settings v state now).batch) :
    r.liveHandle? = state.registry.handle? r.id := by
  rw [← handle?_working, Registry.handle?_of_get? (mem_batch_iff.1 h).1]

/-- A resource of the batch asks for what was built for its ingress, or for nothing. -/
theorem asks_of_mem_batch (h : r ∈ (start settings v state now).batch) :
    r.Asks settings.scope := by
  intro spec hspec
  by_cases hdecl : v.Declares settings r.id
  · obtain ⟨i, -, hid, spec', hs, hr⟩ := exists_spec_of_mem_batch h hdecl
    rw [hr] at hspec
    cases hspec
    exact hid ▸ Settings.belongsTo_of_specOf hs
  · rw [(desired_eq_none_iff h).2 hdecl] at hspec
    cases hspec

/-! ## The second half -/

section Outcomes

variable (hk : KeepIds os)
include hk

theorem handle?_commit_ok (hnd : (os.map (·.1)).Nodup) (h : (id, .ok r) ∈ os) :
    (f.commit settings state metrics os now).state.registry.handle? id = r.liveHandle? := by
  rw [Registry.handle?, get?_commit_ok hnd hk h, Registry.bind_filter_isLive, Option.bind_some]

theorem handle?_commit_error (hnd : (os.map (·.1)).Nodup) (h : (id, .error e) ∈ os) :
    (f.commit settings state metrics os now).state.registry.handle? id =
      f.working.handle? id := by
  rw [Registry.handle?, get?_commit_error hnd hk h, Registry.bind_filter_isLive, Registry.handle?]

theorem handle?_commit_idle (h : id ∉ os.map (·.1)) :
    (f.commit settings state metrics os now).state.registry.handle? id =
      f.working.handle? id := by
  rw [Registry.handle?, get?_commit_idle hk h, Registry.bind_filter_isLive, Registry.handle?]

/-- What is committed was worked on. -/
theorem contains_of_commit (hw : ∀ r ∈ f.batch, f.working.contains r.id = true)
    (hc : f.Covers os)
    (h : (f.commit settings state metrics os now).state.registry.contains id = true) :
    f.working.contains id = true := by
  rw [← Registry.mem_ids_iff, ← ids_settled hw hc hk, Registry.mem_ids_iff,
    Registry.contains_eq_isSome]
  rw [registry_commit, Registry.contains_eq_isSome, Registry.get?_live] at h
  obtain ⟨r, hr⟩ := Option.isSome_iff_exists.1 h
  rw [(Option.filter_eq_some_iff.1 hr).1]
  rfl

end Outcomes

end Flight

/-! ## Resyncs -/

namespace Resync

variable {scope : Scope} {region : String} {P : Set ResourceId} {inv : Inventory}
variable {id : ResourceId} {r : Resource}
variable (hs : inv.Sound scope region P) (hinj : P.InjOn scope.nameOf)
include hs hinj

/-- **A resync adopts the load balancer of each id**, and nothing else. -/
theorem get?_adopt_eq_some : (adopt (inv.discover scope)).get? id = some r ↔
    id ∈ P ∧ ∃ lb, inv.standing scope id = some lb ∧ r = ⟨id, none, some lb.handle⟩ := by
  rw [adopt_discover, Registry.get?_ofList_eq_some hs.nodup_discover,
    hs.mem_discover_iff hinj]
  constructor
  · rintro ⟨⟨id', hid', lb, hlb, rfl⟩, rfl⟩
    exact ⟨hid', lb, hlb, rfl⟩
  · rintro ⟨hid, lb, hlb, rfl⟩
    exact ⟨⟨id, hid, lb, hlb, rfl⟩, rfl⟩

theorem handle?_adopt (hid : id ∈ P) :
    (adopt (inv.discover scope)).handle? id = (inv.standing scope id).map (·.handle) := by
  rw [Registry.handle?]
  cases hlb : inv.standing scope id with
  | some lb =>
    rw [(get?_adopt_eq_some hs hinj).2 ⟨hid, lb, hlb, rfl⟩]
    rfl
  | none =>
    cases hr : (adopt (inv.discover scope)).get? id with
    | none => rfl
    | some r =>
      obtain ⟨-, lb, hlb', -⟩ := (get?_adopt_eq_some hs hinj).1 hr
      rw [hlb] at hlb'
      cases hlb'

end Resync

end IngressBalancer
