import IngressBalancer.Proofs.World.Measures
/-!
# Runs step by step

A run together with each of its steps (`World.Traces`), so that one can say
what was done since one of them. A trace is cut at any step
(`Traces.upTo`). Since a step from which on no pass was committed, there are
as many passes as there were then (`Traces.passes_eq`); and where no resync
was committed either, the state is still the one that the step left
(`Traces.state_eq`).
-/

namespace IngressBalancer

namespace World

variable {S : Surroundings} {w w' w₀ d d' : World} {es : List Episode}
variable {steps before after : List (World × World)}

/-- A run, with each step that is made on the way. -/
inductive Traces (S : Surroundings) (w₀ : World) : List (World × World) → World → Prop
  | start : Traces S w₀ [] w₀
  | happen {steps : List (World × World)} {es : List Episode} {w w' : World}
    (h : Traces S w₀ steps w) (hw : w.Happens S es w') : Traces S w₀ (steps ++ [(w, w')]) w'

/-- Whether no pass is committed in some steps. -/
def CommitNone (steps : List (World × World)) : Prop :=
  ∀ s ∈ steps, s.2.state.passes = s.1.state.passes

/-- Whether a resync is committed. -/
def Resyncs (S : Surroundings) (w w' : World) : Prop :=
  ∃ discovered, w.Happens S [.resync discovered w.now] w'

/-- No pass is taken back. -/
theorem passes_le (ho : w.Orderly) (h : w.Happens S es w') : w.state.passes ≤ w'.state.passes := by
  cases measures_of_happens ho h with
  | rest hstate => exact Nat.le_of_eq (congrArg _ hstate.symm)
  | start f hstate => exact Nat.le_of_eq (congrArg _ hstate.symm)
  | landing f os hstate =>
    rw [hstate]
    exact Nat.le_succ _
  | resync discovered hstate =>
    rw [hstate]
    exact Nat.le_refl _

/-- **What commits neither a pass nor a resync leaves the state as it is.** -/
theorem state_eq_of_happens (ho : w.Orderly) (h : w.Happens S es w')
    (hpasses : w'.state.passes = w.state.passes) (hno : ¬ w.Resyncs S w') : w'.state = w.state := by
  cases measures_of_happens ho h with
  | rest hstate => exact hstate
  | start f hstate => exact hstate
  | landing f os hstate =>
    rw [hstate] at hpasses
    exact absurd hpasses (Nat.succ_ne_self _)
  | resync discovered => exact absurd ⟨discovered, h⟩ hno

namespace Traces

theorem runs (h : Traces S w₀ steps w) : ∃ es, Runs S w₀ es w := by
  induction h with
  | start => exact ⟨[], .start⟩
  | happen _ hw ih =>
    obtain ⟨es, hrun⟩ := ih
    exact ⟨_, hrun.happen hw⟩

/-- The last step of a trace is the one at which it is cut, or comes after that. -/
theorem last_cases {s : World × World} (h : steps ++ [s] = before ++ (d, d') :: after) :
    (after = [] ∧ steps = before ∧ s = (d, d')) ∨
      ∃ later, after = later ++ [s] ∧ steps = before ++ (d, d') :: later := by
  rcases List.eq_nil_or_concat after with rfl | ⟨later, r, rfl⟩
  · obtain ⟨hsteps, hs⟩ := List.append_inj' h rfl
    exact .inl ⟨rfl, hsteps, List.singleton_inj.1 hs⟩
  · rw [List.concat_eq_append, ← List.cons_append, ← List.append_assoc] at h
    obtain ⟨hsteps, hs⟩ := List.append_inj' h rfl
    obtain rfl := List.singleton_inj.1 hs
    exact .inr ⟨later, List.concat_eq_append, hsteps⟩

/-- **A trace leads up to each of its steps.** -/
theorem upTo (h : Traces S w₀ steps w) (hs : steps = before ++ (d, d') :: after) :
    Traces S w₀ before d := by
  induction h generalizing after with
  | start => simp at hs
  | happen htrace hw ih =>
    rcases last_cases hs with ⟨-, rfl, heq⟩ | ⟨later, -, hsteps⟩
    · cases heq
      exact htrace
    · exact ih hsteps

/-- Since a step from which on no pass was committed, there are as many passes. -/
theorem passes_eq (h : Traces S w₀ steps w) (hs : steps = before ++ (d, d') :: after)
    (hnone : CommitNone after) : w.state.passes = d'.state.passes := by
  induction h generalizing after with
  | start => simp at hs
  | happen htrace hw ih =>
    rcases last_cases hs with ⟨-, -, heq⟩ | ⟨later, rfl, hsteps⟩
    · cases heq
      rfl
    · obtain ⟨hlater, hlast⟩ := List.forall_mem_append.1 hnone
      exact (hlast _ List.mem_cons_self).trans (ih hsteps hlater)

/-- **The state stands** since a step from which on neither a pass nor a resync was committed. -/
theorem state_eq (ho : w₀.Orderly) (h : Traces S w₀ steps w)
    (hs : steps = before ++ (d, d') :: after) (hnone : CommitNone after)
    (hno : ∀ s ∈ after, ¬ s.1.Resyncs S s.2) : w.state = d'.state := by
  induction h generalizing after with
  | start => simp at hs
  | happen htrace hw ih =>
    rcases last_cases hs with ⟨-, -, heq⟩ | ⟨later, rfl, hsteps⟩
    · cases heq
      rfl
    · obtain ⟨hlater, hlast⟩ := List.forall_mem_append.1 hnone
      obtain ⟨hlater', hlast'⟩ := List.forall_mem_append.1 hno
      obtain ⟨es, hrun⟩ := htrace.runs
      have hstep := state_eq_of_happens (hrun.orderly ho) hw (hlast _ List.mem_cons_self)
        (hlast' _ List.mem_cons_self)
      exact hstep.trans (ih hsteps hlater hlater')

end Traces

/-! ## Traces of moves -/

/-- The steps of some moves, as far as they are possible. -/
def stepsOf : List Move → World → List (World × World)
  | [], _ => []
  | m :: ms, w =>
    match w.move m with
    | some w' => (w, w') :: stepsOf ms w'
    | none => []

/-- Moves that are possible are steps of a run. -/
theorem Traces.moves {ms : List Move} (h : Traces S w₀ steps w)
    (hm : ms.foldlM move w = some w') : Traces S w₀ (steps ++ stepsOf ms w) w' := by
  induction ms generalizing steps w with
  | nil =>
    cases hm
    rwa [stepsOf, List.append_nil]
  | cons m ms ih =>
    obtain ⟨w₁, hfirst, hrest⟩ := Option.bind_eq_some_iff.1 hm
    have hsteps : stepsOf (m :: ms) w = (w, w₁) :: stepsOf ms w₁ := by
      simp only [stepsOf, hfirst]
    have hnext := ih (h.happen (.move m hfirst)) hrest
    rwa [hsteps, ← List.singleton_append, ← List.append_assoc]

theorem traces_stepsOf {ms : List Move} (hm : ms.foldlM move w₀ = some w) :
    Traces S w₀ (stepsOf ms w₀) w :=
  Traces.moves .start hm

end World

end IngressBalancer
