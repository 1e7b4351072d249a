import IngressBalancer.Proofs.World.Tracking
/-!
# The registry agrees with the provider

Among faithful surroundings in which nobody else meddles with the inventory,
whenever no pass is in the air the registry and a discovery know of the same
ids with the same handles, and of every load balancer there is
(`World.Agrees`). So a resync that succeeds clears the specs and the retry
book, and changes no id and no handle (`agrees_and_resync`).
-/

namespace IngressBalancer

namespace Registry

/-- The registry with all specs cleared. -/
def cleared (g : Registry) : Registry where
  map := g.map.mapValues Resource.toRemoval
  keyed e he := by
    obtain ⟨e', he', rfl⟩ := List.mem_map.1 he
    exact g.keyed e' he'

theorem get?_cleared (g : Registry) (id : ResourceId) :
    g.cleared.get? id = (g.get? id).map Resource.toRemoval :=
  SortedMap.get?_mapValues

/-- Clearing the specs changes no count. -/
theorem namespaceCounts_cleared (g : Registry) :
    g.cleared.namespaceCounts = g.namespaceCounts := by
  have hids : g.cleared.ids = g.ids := SortedMap.keys_mapValues _
  refine SortedMap.ext_get? fun ns => ?_
  rw [get?_namespaceCounts, get?_namespaceCounts, hids]

/-- Nor any handle. -/
theorem handles_cleared (g : Registry) :
    g.cleared.map.mapValues (·.handle) = g.map.mapValues (·.handle) := by
  refine SortedMap.ext_get? fun id => ?_
  rw [SortedMap.get?_mapValues, SortedMap.get?_mapValues, cleared, SortedMap.get?_mapValues,
    Option.map_map]
  rfl

end Registry

namespace World

variable {settings : Settings} {region : String} {P : Set ResourceId} {view : View}
variable {monitor : Monitor} {w : World} {es : List Episode} {c : Situation} {id : ResourceId}
variable {r : Resource} {lb : LoadBalancer}

/-- The registry of a world agrees with what a discovery finds. -/
structure Agrees (w : World) : Prop where
  /-- No id is found twice. -/
  distinct : ((w.rig.inventory.discover w.scope).map (·.id)).Nodup
  /-- The ids that are found have the handles that are found. -/
  handles : w.state.registry.map.mapValues (·.handle) =
    (Registry.ofList (w.rig.inventory.discover w.scope)).map.mapValues (·.handle)
  /-- Every load balancer is that of an id. -/
  complete : ∀ key lb, w.rig.inventory.get? key = some lb → ∃ id r, lb.owner? = some id ∧
    w.state.registry.get? id = some r ∧ r.handle = some lb.handle

/-! ## Between passes -/

section Between

variable (h : Tracks settings region P (.still settings.scope) (.still settings.scope) c)
variable (hair : c.air = none)
include h hair

/-- The handle of an id is that of what stands under its name. -/
theorem Tracks.handle?_eq (hid : id ∈ P) : c.state.registry.handle? id =
    (c.rig.inventory.standing settings.scope id).map (·.handle) := by
  refine Drift.Recalls.eq_of_still (h.grounded id hid ?_)
  rw [Situation.attempts_of_none hair]
  exact List.not_mem_nil

/-- What is tracked stands at the provider, with its handle. -/
theorem Tracks.exists_standing (ht : Tells settings es c) (hr : c.state.registry.get? id = some r) :
    id ∈ P ∧ ∃ lb, c.rig.inventory.standing settings.scope id = some lb ∧
      r.handle = some lb.handle := by
  have hid : id ∈ P := by
    refine h.tracked id ?_
    rw [Registry.contains_eq_isSome, hr]
    rfl
  have hmem : r ∈ c.state.registry.toList := by
    rw [Registry.mem_toList_iff, Registry.id_of_get? hr]
    exact hr
  obtain ⟨handle, hlive⟩ := Option.isSome_iff_exists.1 (ht.committed.sound.live r hmem)
  have heq := h.handle?_eq hair hid
  rw [Registry.handle?_of_get? hr, hlive] at heq
  obtain ⟨lb, hlb, rfl⟩ := Option.map_eq_some_iff.1 heq.symm
  exact ⟨hid, lb, hlb, Resource.handle_of_liveHandle? hlive⟩

/-- What stands at the provider is tracked, with its handle. -/
theorem Tracks.exists_tracked (hid : id ∈ P)
    (hlb : c.rig.inventory.standing settings.scope id = some lb) :
    ∃ r, c.state.registry.get? id = some r ∧ r.handle = some lb.handle := by
  have heq := h.handle?_eq hair hid
  rw [hlb, Option.map_some] at heq
  obtain ⟨r, hr, hlive⟩ := Option.bind_eq_some_iff.1 heq
  exact ⟨r, hr, Resource.handle_of_liveHandle? hlive⟩

/-- **What a resync would adopt is what is tracked, with the specs cleared.** -/
theorem Tracks.adopt_eq (ht : Tells settings es c) (hinj : P.InjOn settings.scope.nameOf) :
    Resync.adopt (c.rig.inventory.discover settings.scope) = c.state.registry.cleared := by
  refine Registry.ext_get? fun id => Option.ext fun r => ?_
  rw [Resync.get?_adopt_eq_some h.serves.sound hinj, Registry.get?_cleared,
    Option.map_eq_some_iff]
  constructor
  · rintro ⟨hid, lb, hlb, rfl⟩
    obtain ⟨s, hs, hhandle⟩ := h.exists_tracked hair hid hlb
    refine ⟨s, hs, ?_⟩
    rw [Resource.toRemoval, Registry.id_of_get? hs, hhandle]
  · rintro ⟨s, hs, rfl⟩
    obtain ⟨hid, lb, hlb, hhandle⟩ := h.exists_standing hair ht hs
    refine ⟨hid, lb, hlb, ?_⟩
    rw [Resource.toRemoval, Registry.id_of_get? hs, hhandle]

end Between

/-- The state after a resync that succeeds. -/
theorem state_resync {t : Task} {discovered : List Resource}
    (hd : w.rig.discover w.scope = .ok discovered) :
    (w.resync t).state = (Resync.run w.state w.metrics discovered w.now 0).state := by
  simp only [resync, hd, state_finish]

/-- **The registry agrees with the provider**, whenever no pass is in the air; and a resync that
succeeds changes no id and no handle: it clears the specs and the retry book, and notes when it
was. This is along runs from an empty controller and an empty provider, with whatever cluster
snapshots and moments, faults that strike before the provider is called, and failing discoveries,
as long as nobody else meddles with the inventory, changes are published at once, and the
ids in play have load balancers with distinct names. -/
theorem agrees_and_resync (hinj : P.InjOn settings.scope.nameOf)
    (hview : ∀ i ∈ view.declared settings, i.id ∈ P)
    (h : Runs (.faithful settings P (.still settings.scope))
      (World.new settings view (Rig.new region) monitor) es w) :
    ((∀ t ∈ w.tasks, t.flying = none) → w.Agrees) ∧
    ∀ t ∈ w.tasks, t.activity = .queued .resync → w.lock.isHeldBy t.number = true →
      ∀ discovered, w.rig.discover w.scope = .ok discovered →
        (w.resync t).state = { w.state with
          registry := w.state.registry.cleared
          retries := ∅
          lastResync := some w.now } := by
  obtain ⟨ht, htracks⟩ := h.tracks hinj hview
  have ho : w.Orderly := h.orderly (orderly_new _ _ _ _)
  have hscope : w.scope = settings.scope := ht.scope_eq
  refine ⟨fun hidle => ?_, fun t hmem hact hheld discovered hd => ?_⟩
  · -- between passes
    have hair : w.situation.air = none := Orderly.air_eq_none hidle
    have hadopt : Resync.adopt (w.rig.inventory.discover w.scope) = w.state.registry.cleared := by
      rw [hscope]
      exact htracks.adopt_eq hair ht hinj
    constructor
    · rw [hscope]
      exact htracks.serves.sound.nodup_discover
    · rw [← Resync.adopt_discover, hadopt, Registry.handles_cleared]
    · intro key lb hlb
      obtain ⟨id, hid, rfl, hstands⟩ := htracks.serves.sound key lb hlb
      obtain ⟨r, hr, hhandle⟩ := htracks.exists_tracked hair hid hlb
      exact ⟨id, r, hstands.spec.owner?_eq, hr, hhandle⟩
  · -- whoever resyncs holds the lock, so that is between passes as well
    have hair : w.situation.air = none :=
      ho.air_eq_none_of_held hmem hheld (by simp [Task.flying, hact])
    have hfound : discovered = w.rig.inventory.discover w.scope :=
      Rig.eq_of_discover htracks.serves.faithful.discovery hd
    have hadopt : Resync.adopt discovered = w.state.registry.cleared := by
      rw [hfound, hscope]
      exact htracks.adopt_eq hair ht hinj
    -- the counts are those of the registry, before and after
    have hcounts : w.state.registry.cleared.namespaceCounts = w.state.namespaceCounts := by
      rw [Registry.namespaceCounts_cleared]
      exact ht.committed.sound.counted.symm
    rw [state_resync hd, Resync.run]
    simp only [hadopt, hcounts]

/-- The world after a pass, with a resync under way. -/
def resyncing : World := openedOnce.ask { openedOnce.operator with yield := none } .resync

/-- After its first pass the world of the shop agrees with its provider, and a resync then clears
the spec of the shop. -/
theorem agrees_and_resync_opening : openedOnce.state.registry.contains Sample.shop = true ∧
    openedOnce.Agrees ∧ (resyncing.resync resyncing.operator).state =
      { resyncing.state with
        registry := resyncing.state.registry.cleared
        retries := ∅
        lastResync := some resyncing.now } := by
  have hinj : ({Sample.shop} : Set ResourceId).InjOn Sample.accepted.scope.nameOf :=
    Set.injOn_singleton _ _
  have hpass : opening.obey Sample.shopPass = some openedOnce := rfl
  obtain ⟨es, h⟩ := Runs.obey (S := .faithful Sample.accepted {Sample.shop} (.still _))
    .start ⟨.head _, rfl, rfl⟩ hpass
  have hresync := Runs.happen h (.order .resync (.head _) rfl (.inr rfl))
  refine ⟨rfl, (agrees_and_resync hinj Sample.id_of_declared h).1 fun t ht => ?_,
    (agrees_and_resync hinj Sample.id_of_declared hresync).2 _ (.head _) rfl rfl _ rfl⟩
  rw [List.mem_singleton.1 ht]
  rfl

end World

end IngressBalancer
