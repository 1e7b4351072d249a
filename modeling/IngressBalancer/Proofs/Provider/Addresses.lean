import IngressBalancer.Proofs.Provider.Changes
/-!
# Handles that point to their own names

A handle may be lost, and what it was taken of may be gone or changed; yet
its address is that of the name of its id (`Handle.PointsTo`). So it leads to
what stands under that name, or nowhere (`Change.lookUp_of_pointsTo`). That is
enough for a change to bring about what its resource asks for
(`Change.becomes_decide`): what asks for a load balancer has one, and what
asks for none is not live. What already has the load balancer that it asks
for rests, and is kept as it is (`Change.plan_of_rests`).
-/

namespace IngressBalancer

/-- Whether a handle has the address of the name of an id. -/
def Handle.PointsTo (scope : Scope) (region : String) (id : ResourceId) (h : Handle) : Prop :=
  h.arn = Provider.arn region (scope.nameOf id)

/-- Whether the live handle of a resource, if it has one, points to its name. -/
def Resource.Points (scope : Scope) (region : String) (r : Resource) : Prop :=
  ∀ h, r.liveHandle? = some h → h.PointsTo scope region r.id

/-- Whether a resource rests where this load balancer stands under its name: it is what the
resource asks for, and the handle is its. -/
def Resource.Rests (r : Resource) (o : Option LoadBalancer) : Prop :=
  ∃ lb, o = some lb ∧ r.desired = some lb.spec ∧ r.handle = some lb.handle

/-- Whether a resource has become another by what it asked for, where this stands under its name
afterwards. -/
structure Resource.Becomes (r r' : Resource) (o : Option LoadBalancer) : Prop where
  id : r'.id = r.id
  desired : r'.desired = r.desired
  /-- What asks for a load balancer has it. -/
  rests : r.desired ≠ none → r'.Rests o
  /-- What asks for none has none. -/
  dead : r.desired = none → r'.isLive = false

variable {scope : Scope} {region : String} {P : Set ResourceId} {inv : Inventory}
variable {r r' : Resource} {o seen : Option LoadBalancer}

namespace Resource

theorem Rests.isLive (h : r.Rests o) : r.isLive = true := by
  obtain ⟨lb, -, -, hh⟩ := h
  rw [Resource.isLive, liveHandle?, hh]
  rfl

/-- What rests stays as it is where it gets what it asks for. -/
theorem Becomes.eq_of_rests (h : r.Becomes r' o) (hr : r.Rests o) : r' = r := by
  obtain ⟨lb, rfl, hd, hh⟩ := hr
  obtain ⟨lb', hlb, -, hh'⟩ := h.rests (by rw [hd]; exact Option.some_ne_none _)
  cases hlb
  obtain ⟨id, desired, handle⟩ := r
  obtain ⟨id', desired', handle'⟩ := r'
  obtain rfl : id' = id := h.id
  obtain rfl : desired' = desired := h.desired
  rw [show handle' = handle from hh'.trans hh.symm]

end Resource

namespace Change

/-- **A handle that points to its name leads to what stands there**, where it is live. -/
theorem lookUp_of_points (hs : inv.Sound scope region P) (hr : r.Points scope region) :
    lookUp inv r = r.liveHandle?.bind fun _ => inv.standing scope r.id := by
  cases hh : r.liveHandle? with
  | none => rw [lookUp, hh, Option.bind_none, Option.bind_none]
  | some h =>
    have harn : h.arn = Provider.arn region (scope.nameOf r.id) := hr h hh
    rw [lookUp, hh, Option.bind_some, Option.bind_some, harn, hs.findByArn_eq]

section Decide

variable (hasks : r.Asks scope) (hseen : ∀ lb, seen = some lb → lb.StandsFor scope region r.id)
include hasks hseen

/-- A change leaves a handle that points to the name, or none that is live. -/
theorem points_of_outcome_decide (ho : (decide region r seen).outcome r = .ok r') :
    r'.Points scope region := by
  intro h hh
  rcases decide_cases hasks hseen with ⟨lb, hc | hc, hlb, -⟩ | ⟨lb, hc, rfl, -⟩ | ⟨lb, hc, -⟩ |
    ⟨hc, -⟩ <;> rw [hc] at ho <;> cases ho
  · cases hh
    exact hlb.arn
  · cases hh
    exact hlb.arn
  · cases hh
    exact (hseen lb rfl).arn
  · cases hh
  · rw [Resource.liveHandle?_markDeleted] at hh
    cases hh

/-- **A change brings about what its resource asks for**, where it was decided on nothing or on
what stands there. -/
theorem becomes_decide (hstill : seen = none ∨ seen = inv.standing scope r.id) :
    ∃ r', (decide region r seen).outcome r = .ok r' ∧
      r.Becomes r' (((decide region r seen).applyTo inv).standing scope r.id) := by
  rcases decide_cases hasks hseen with ⟨lb, hc, hlb, hd⟩ | ⟨lb, hc, rfl, hd⟩ | ⟨lb, hc, -, hd⟩ |
    ⟨hc, -, hd⟩
  · have hput : (decide region r seen).applyTo inv = inv.insert lb.spec.loadBalancerName lb ∧
        (decide region r seen).outcome r = .ok { r with handle := some lb.handle } := by
      rcases hc with hc | hc <;> rw [hc] <;> exact ⟨rfl, rfl⟩
    refine ⟨_, hput.2, rfl, rfl, fun _ => ⟨lb, ?_, hd, rfl⟩, fun hnone => ?_⟩
    · rw [hput.1, Inventory.standing, hlb.spec.name, SortedMap.get?_insert_self]
    · rw [hd] at hnone
      cases hnone
  · rw [hc]
    have hlb : inv.standing scope r.id = some lb := (hstill.resolve_left (Option.some_ne_none lb)).symm
    refine ⟨_, rfl, rfl, rfl, fun _ => ⟨lb, hlb, hd, rfl⟩, fun hnone => ?_⟩
    rw [hd] at hnone
    cases hnone
  · rw [hc]
    exact ⟨_, rfl, rfl, rfl, fun hsome => absurd hd hsome, fun _ => rfl⟩
  · rw [hc]
    refine ⟨_, rfl, rfl, rfl, fun hsome => absurd hd hsome, fun _ => ?_⟩
    rw [Resource.isLive, Resource.liveHandle?_markDeleted]
    rfl

end Decide

/-- **What rests is kept as it is.** -/
theorem decide_of_rests (h : r.Rests o) :
    ∃ lb, decide region r (r.liveHandle?.bind fun _ => o) = .keep lb := by
  obtain ⟨lb, rfl, hd, hh⟩ := h
  have hlive : r.liveHandle? = some lb.handle := by
    rw [Resource.liveHandle?, hh]
    rfl
  exact ⟨lb, by simp only [decide, hd, hlive, Option.bind_some, if_true]⟩

end Change

end IngressBalancer
