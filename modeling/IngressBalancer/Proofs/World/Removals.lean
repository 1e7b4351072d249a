import IngressBalancer.Proofs.World.Turns
/-!
# What is declared is not torn down

Every call of the provider was made by a pass that set out in the course of
the run, and asks for a load balancer to go exactly when no ingress of the
view at that moment declares its id (`removal_iff_undeclared`). A missing
spec can mean both that the load balancer is to go and that the spec is not
known yet, as it is after a resync; calls are only made with the first
meaning.
-/

namespace IngressBalancer

namespace World

variable {S : Surroundings} {w₀ u w w' : World} {es : List Episode}

/-- A pass set out at `u`, on the way from `w₀` to `w`. -/
def SetOut (S : Surroundings) (w₀ u w : World) : Prop :=
  ∃ es u' es', Runs S w₀ es u ∧ u.Happens S [] u' ∧ u'.situation = u.situation.takeOff ∧
    Runs S u' es' w

/-- The way may go on. -/
theorem SetOut.happen {es : List Episode} (h : SetOut S w₀ u w) (hw : w.Happens S es w') :
    SetOut S w₀ u w' := by
  obtain ⟨es₁, u', es₂, hu, hstep, hoff, hrun⟩ := h
  exact ⟨es₁, u', es₂ ++ es, hu, hstep, hoff, .happen hrun hw⟩

/-- Calls are made where a pass sets out, and only there. -/
theorem calls_of_turn {c c' : Situation} (h : c.Turn S es c') :
    c'.calls = c.calls ∨ (es = [] ∧ c' = c.takeOff) := by
  cases h with
  | takeOff h => exact .inr ⟨rfl, rfl⟩
  | _ => exact .inl rfl

/-- Every call of a run was made by a pass that set out on the way, for a resource of its
batch. -/
theorem exists_setOut_of_mem_calls {settings : Settings} {view : View} {rig : Rig}
    {monitor : Monitor} (h : Runs S (World.new settings view rig monitor) es w) {call : Call}
    (hc : call ∈ w.calls) : ∃ u, SetOut S (World.new settings view rig monitor) u w ∧
      ∃ r ∈ u.situation.flight.batch, call = Call.of u.now r := by
  induction h with
  | start => exact absurd hc List.not_mem_nil
  | @happen es es' w w' hrun hw ih =>
    have hturn := (turn_of_happens (hrun.orderly (orderly_new _ _ _ _)) hw).2
    rcases calls_of_turn hturn with hsame | ⟨rfl, hoff⟩
    · have hc' : call ∈ w.calls := by
        rw [show w'.calls = w.calls from hsame] at hc
        exact hc
      obtain ⟨u, hu, hr⟩ := ih hc'
      exact ⟨u, hu.happen hw, hr⟩
    · have hcalls : w'.calls = w.calls ++ w.situation.flight.batch.map (Call.of w.now) :=
        congrArg Situation.calls hoff
      rw [hcalls, List.mem_append, List.mem_map] at hc
      rcases hc with hc | ⟨r, hr, rfl⟩
      · obtain ⟨u, hu, hr⟩ := ih hc
        exact ⟨u, hu.happen hw, hr⟩
      · exact ⟨w, ⟨es, w', [], hrun, hw, hoff, .start⟩, r, hr, rfl⟩

/-- A pass in the air was there before, or has just set out. -/
theorem air_of_turn {c c' : Situation} {f : Flight} {attempts : List Attempt} (h : c.Turn S es c')
    (hair : c'.air = some (f, attempts)) :
    (∃ attempts', c.air = some (f, attempts')) ∨ (es = [] ∧ c' = c.takeOff) := by
  cases h with
  | takeOff => exact .inr ⟨rfl, rfl⟩
  | attempt hbefore =>
    cases hair
    exact .inl ⟨_, hbefore⟩
  | answer hbefore =>
    cases hair
    exact .inl ⟨_, hbefore⟩
  | land => cases hair
  | resync => cases hair
  | _ => exact .inl ⟨attempts, hair⟩

/-- **Every pass in the air set out on the way.** -/
theorem exists_setOut_of_air {settings : Settings} {view : View} {rig : Rig} {monitor : Monitor}
    (h : Runs S (World.new settings view rig monitor) es w) {f : Flight}
    {attempts : List Attempt} (hair : w.situation.air = some (f, attempts)) :
    ∃ u, SetOut S (World.new settings view rig monitor) u w ∧ f = u.situation.flight := by
  induction h generalizing f attempts with
  | start => cases hair
  | @happen es es' w w' hrun hw ih =>
    have hturn := (turn_of_happens (hrun.orderly (orderly_new _ _ _ _)) hw).2
    rcases air_of_turn hturn hair with ⟨attempts', hair'⟩ | ⟨rfl, hoff⟩
    · obtain ⟨u, hu, hf⟩ := ih hair'
      exact ⟨u, hu.happen hw, hf⟩
    · rw [hoff] at hair
      cases hair
      exact ⟨w, ⟨es, w', [], hrun, hw, hoff, .start⟩, rfl⟩

/-- **A load balancer is asked to go exactly when nobody declares it**, whatever surrounds the
world: a call was made by a pass that set out on the way, it carries no spec if and only if no
ingress of the view of that pass declares its id, and none that does lacks a spec. -/
theorem removal_iff_undeclared {settings : Settings} {view : View} {rig : Rig}
    {monitor : Monitor} (h : Runs S (World.new settings view rig monitor) es w) {call : Call}
    (hc : call ∈ w.calls) : ∃ u, SetOut S (World.new settings view rig monitor) u w ∧
      ∃ r ∈ u.situation.flight.batch, call = Call.of u.now r ∧
        (r.desired = none ↔ ¬ u.view.Declares u.settings r.id) ∧
        (call.removal = true ↔ ¬ u.view.Declares u.settings call.id) ∧
        ∀ i ∈ u.view.declared u.settings, i.id = call.id →
          ∃ spec, u.settings.specOf u.view i = .ok spec := by
  obtain ⟨u, hu, r, hr, rfl⟩ := exists_setOut_of_mem_calls h hc
  have hnone := Flight.desired_eq_none_iff hr
  refine ⟨u, hu, r, hr, rfl, hnone, ?_, fun i hi hid => ?_⟩
  · exact Option.isNone_iff_eq_none.trans hnone
  · cases hs : u.settings.specOf u.view i with
    | ok spec => exact ⟨spec, rfl⟩
    | error e =>
      -- an ingress without a spec holds its id, and what is held is not in the batch
      have hfree : (DesiredSet.build u.settings u.view u.state.registry).held.contains r.id =
        false := Flight.not_held_of_mem_batch hr
      have hheld : (DesiredSet.build u.settings u.view u.state.registry).held.contains r.id =
        true := DesiredSet.isHeld_build.2 ⟨i, hi, hid, e, hs⟩
      rw [hheld] at hfree
      cases hfree

/-- A world whose first discovery finds the load balancer of the shop. -/
def adopting : World :=
  .new Sample.accepted Sample.shopView
    { Rig.new "us-east-1" with discovery := some (.ok [Sample.live Sample.shop]) } .empty

/-- The same world after a resync: the entry of the shop has no spec. -/
def adopted : World := (adopting.obey (.resync, [.task 0])).getD adopting

/-- The pass that follows calls the provider with a spec, since its view declares the shop. -/
theorem removal_iff_undeclared_adopting : ∃ es w, Runs .any adopting es w ∧
    (⟨0, Sample.shop, false, true⟩ : Call) ∈ w.calls ∧
      ∃ u, SetOut .any adopting u w ∧ u.view.Declares u.settings Sample.shop := by
  have h₀ : Runs .any adopting [] adopting := .start
  have hresync : adopting.obey (.resync, [.task 0]) = some adopted := rfl
  obtain ⟨es₁, h₁⟩ := h₀.obey ⟨.head _, rfl, rfl⟩ hresync
  obtain ⟨w, hpass, hcalls⟩ : ∃ w, adopted.obey (.converge, [.task 0]) = some w ∧
      w.calls = [⟨0, Sample.shop, false, true⟩] := ⟨_, rfl, rfl⟩
  obtain ⟨es₂, h₂⟩ := h₁.obey ⟨.head _, rfl, rfl⟩ hpass
  have hmem : (⟨0, Sample.shop, false, true⟩ : Call) ∈ w.calls := by
    rw [hcalls]
    exact List.mem_singleton_self _
  obtain ⟨u, hu, -, -, -, -, hiff, -⟩ := removal_iff_undeclared h₂ hmem
  refine ⟨es₂, w, h₂, hmem, u, hu, ?_⟩
  by_contra hno
  cases hiff.2 hno

end World

end IngressBalancer
