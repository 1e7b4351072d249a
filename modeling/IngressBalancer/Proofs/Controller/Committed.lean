import IngressBalancer.Controller.Resync
import IngressBalancer.Controller.Snapshot
import IngressBalancer.Proofs.Controller.Landing
/-!
# Committed states

A state is committed when whole passes and resyncs lead to it from the
initial one (`Committed`): each pass sets out from the state before it and
brings an outcome for every resource of its batch, and each success keeps
the id of its resource. Of every committed state, the snapshot lists live
resources in strictly increasing order with the counts that belong to them,
and the retry book knows only ids that are tracked or were declared in the
last pass (`Committed.sound`, `SyncState.consistent_snapshot`).
-/

namespace IngressBalancer

/-- A pass or a resync at its commit. -/
inductive Episode
  | pass (flight : Flight) (outcomes : List Flight.Outcome) (endedAt : Instant)
  | resync (discovered : List Resource) (endedAt : Instant)

namespace Episode

/-- The state that an episode commits. -/
def commit (settings : Settings) (s : SyncState) : Episode → SyncState
  | .pass f os endedAt => (f.commit settings s .empty os endedAt).state
  | .resync discovered endedAt => (Resync.run s .empty discovered endedAt 0).state

/-- Whether an episode is a whole one from a state on. -/
def IsWhole (settings : Settings) (s : SyncState) : Episode → Prop
  | .pass f os _ =>
    (∃ v startedAt, f = Flight.start settings v s startedAt) ∧ f.Covers os ∧ Flight.KeepIds os
  | .resync .. => True

/-- The last pass among some episodes. -/
def lastPass? (es : List Episode) : Option Flight :=
  es.foldl (fun last e => match e with
    | .pass f _ _ => some f
    | .resync _ _ => last) none

theorem lastPass?_concat_pass (es : List Episode) (f : Flight) (os : List Flight.Outcome)
    (endedAt : Instant) : lastPass? (es ++ [.pass f os endedAt]) = some f := by
  rw [lastPass?, List.foldl_append]
  rfl

end Episode

/-- The states that whole episodes lead to. -/
inductive Committed (settings : Settings) : List Episode → SyncState → Prop
  | initial : Committed settings [] .initial
  | next {es : List Episode} {s : SyncState} {e : Episode} (h : Committed settings es s)
      (he : e.IsWhole settings s) : Committed settings (es ++ [e]) (e.commit settings s)

/-- What a reader may rely on; `last` is the last pass. -/
structure SyncState.Sound (last : Option Flight) (s : SyncState) : Prop where
  live : ∀ r ∈ s.registry.toList, r.isLive = true
  counted : s.namespaceCounts = s.registry.namespaceCounts
  known : ∀ id record, s.retries.get? id = some record → s.registry.contains id = true ∨
    ∃ f, last = some f ∧ f.desired.resources.contains id = true

/-- What a snapshot shows of a sound state. -/
structure Snapshot.Consistent (n : Snapshot) : Prop where
  /-- The ids increase strictly. -/
  ordered : (n.ingresses.map (·.resource.id)).Pairwise fun a b => compare a b = .lt
  live : ∀ i ∈ n.ingresses, i.resource.isLive = true
  /-- A namespace is counted exactly when it has resources, and then with their number. -/
  counted : ∀ ns, n.namespaces.get? ns =
    let count := n.ingresses.countP (·.resource.id.nspace = ns)
    if count = 0 then none else some count

variable {settings : Settings} {s : SyncState} {es : List Episode} {e : Episode}
variable {last : Option Flight}

/-! ## One episode -/

/-- What a resync adopts was found live. -/
theorem Resync.exists_of_get?_adopt {discovered : List Resource} {id : ResourceId} {r : Resource}
    (h : (adopt discovered).get? id = some r) :
    ∃ r' ∈ discovered, r'.isLive = true ∧ r = r'.toRemoval ∧ r'.id = id := by
  obtain ⟨hmem, hid⟩ := Registry.mem_of_get?_ofList h
  obtain ⟨r', hr', rfl⟩ := List.mem_map.1 hmem
  obtain ⟨hfound, hlive⟩ := List.mem_filter.1 hr'
  exact ⟨r', hfound, hlive, rfl, hid⟩

namespace SyncState

theorem sound_initial : SyncState.initial.Sound none where
  live _ h := absurd h List.not_mem_nil
  counted := rfl
  known _ _ h := by cases h

/-- A whole pass commits a sound state, whatever it set out from. -/
theorem sound_commit_pass {f : Flight} {os : List Flight.Outcome} {endedAt : Instant}
    (he : (Episode.pass f os endedAt).IsWhole settings s) :
    ((Episode.pass f os endedAt).commit settings s).Sound (some f) := by
  obtain ⟨⟨v, startedAt, rfl⟩, hc, hk⟩ := he
  constructor
  · exact fun r hr => Flight.isLive_of_mem_commit hr
  · exact Flight.namespaceCounts_commit (fun r hr => Flight.contains_of_mem_batch hr) hc hk
  · intro id record hid
    rcases Flight.contains_of_retries_commit hid with h | h
    · exact .inr ⟨_, rfl, h⟩
    · exact .inl h

/-- A resync adopts live resources only, counts them anew, and empties the retry book. -/
theorem sound_commit_resync (last : Option Flight) (discovered : List Resource)
    (endedAt : Instant) :
    ((Episode.resync discovered endedAt).commit settings s).Sound last where
  live r hr := by
    obtain ⟨r', -, hlive, rfl, -⟩ := Resync.exists_of_get?_adopt (Registry.mem_toList_iff.1 hr)
    exact hlive
  counted := rfl
  known _ _ h := by cases h

end SyncState

/-! ## All of them -/

/-- **Committed states are sound.** -/
theorem Committed.sound (h : Committed settings es s) : s.Sound (Episode.lastPass? es) := by
  induction h with
  | initial => exact SyncState.sound_initial
  | @next es s e _ he _ =>
    cases e with
    | pass f os endedAt =>
      rw [Episode.lastPass?_concat_pass]
      exact SyncState.sound_commit_pass he
    | resync discovered endedAt => exact SyncState.sound_commit_resync _ discovered endedAt

namespace SyncState

theorem map_resource_snapshot (s : SyncState) :
    s.snapshot.ingresses.map (·.resource) = s.registry.toList := by
  simp only [snapshot, List.map_map]
  exact List.map_id _

/-- **The snapshot of a sound state is consistent.** -/
theorem consistent_snapshot (h : s.Sound last) : s.snapshot.Consistent where
  ordered := by
    have hp := s.registry.pairwise_toList
    rwa [← map_resource_snapshot, List.map_map] at hp
  live i hi := h.live i.resource (by
    rw [← map_resource_snapshot]
    exact List.mem_map_of_mem hi)
  counted ns := by
    have hcount : s.snapshot.ingresses.countP (·.resource.id.nspace = ns) =
        Registry.countIn ns s.registry.ids := by
      rw [← Registry.map_id_toList, ← map_resource_snapshot, List.map_map, Registry.countIn,
        List.countP_map]
      rfl
    rw [hcount, show s.snapshot.namespaces = s.namespaceCounts from rfl, h.counted,
      Registry.get?_namespaceCounts]

end SyncState

end IngressBalancer
