import IngressBalancer.Proofs.Controller.Records
import Mathlib.Data.List.Perm.Basic
/-!
# The order of a listing

Two views may show the same and list it another way: the ingresses in another
order, and the nodes in another order and as often as they like
(`View.Relists`). Where no two ingresses share an id, a pass sets out alike
from both (`Flight.reorders_start`): all that differs is the order in which
it meets the problems, and that not for one id (`Flight.Reorders`). So it
commits and reports the same (`Flight.Reorders.commit_eq`), and publishes the
same in another order (`Flight.Reorders.problemEvents`).
-/

namespace IngressBalancer

/-- Whether two views show the same, in whatever order it is listed. -/
structure View.Relists (v v' : View) : Prop where
  ingresses : v.ingresses.Perm v'.ingresses
  /-- A node may be listed more than once. -/
  nodes : ∀ n, n ∈ v.nodes ↔ n ∈ v'.nodes
  service? : v'.service? = v.service?
  configMap? : v'.configMap? = v.configMap?

theorem View.Relists.symm {v v' : View} (h : v.Relists v') : v'.Relists v :=
  ⟨h.ingresses.symm, fun n => (h.nodes n).symm, h.service?.symm, h.configMap?.symm⟩

/-! ## Specs -/

namespace Blueprint

variable {ctx : Context} {view : View} {id : ResourceId} {annotations : SortedMap String String}
variable {ns ns' : List Node}

/-- The targets are the instances of the eligible nodes. -/
theorem mem_targets {s : String} :
    s ∈ targets ns ↔ ∃ n ∈ ns, n.isEligible = true ∧ n.instance? = some s := by
  rw [targets, ← SortedMap.contains_iff, SortedMap.contains_setOf, List.mem_filterMap]
  simp only [List.mem_filter, and_assoc]

/-- Since they are in order, which ones they are is all there is to them. -/
theorem targets_ext (h : ∀ s, s ∈ targets ns ↔ s ∈ targets ns') : targets ns = targets ns' :=
  congrArg SortedMap.keys <| SortedMap.ext_contains fun s =>
    SortedMap.contains_iff.trans ((h s).trans SortedMap.contains_iff.symm)

/-- **The targets depend on which nodes there are**, not on how they are listed. -/
theorem targets_congr (h : ∀ n, n ∈ ns ↔ n ∈ ns') : targets ns = targets ns' :=
  targets_ext fun s => by simp only [mem_targets, h]

section Context

variable (h : view.service? = ctx.view.service?)
include h

/-- Of the view of a context, backends are resolved by its services alone. -/
theorem resolve_congr (backend : Backend) (d : Draft) :
    resolve { ctx with view := view } id annotations backend d =
      resolve ctx id annotations backend d := by
  have hask : ∀ service (d : Draft), d.ask view service = d.ask ctx.view service := by
    intro service d
    rw [Draft.ask, Draft.ask, h]
  simp only [resolve, hask]

theorem resolveAll_congr (routes : List Route) (d : Draft) :
    resolveAll { ctx with view := view } id annotations routes d =
      resolveAll ctx id annotations routes d := by
  induction routes generalizing d with
  | nil => rfl
  | cons route rest ih => simp only [resolveAll, resolve_congr h, ih]

theorem desiredSpec_congr (i : Ingress) (targets : List String) :
    desiredSpec { ctx with view := view } i targets = desiredSpec ctx i targets := by
  simp only [desiredSpec, resolveAll_congr h]

end Context

end Blueprint

variable {settings : Settings} {v v' : View} {prior : Registry} {i : Ingress}

namespace View.Relists

variable (h : v.Relists v')
include h

/-- **Specs are built alike from both views.** -/
theorem specOf_eq (settings : Settings) (i : Ingress) :
    settings.specOf v' i = settings.specOf v i := by
  have hcontext : settings.context v' = { settings.context v with view := v' } := by
    unfold Settings.context
    rw [h.configMap?]
  rw [Settings.specOf, Settings.specOf, hcontext, Blueprint.desiredSpec_congr h.service?,
    Blueprint.targets_congr h.nodes]

/-- The same ingresses declare load balancers. -/
theorem declared (settings : Settings) : (v.declared settings).Perm (v'.declared settings) :=
  h.ingresses.filter _

theorem declares_iff {id : ResourceId} : v'.Declares settings id ↔ v.Declares settings id :=
  exists_congr fun _ => and_congr_left fun _ => (h.declared settings).mem_iff.symm

/-- An ingress asks for the same in both views. -/
theorem entryOf_eq (settings : Settings) (prior : Registry) (i : Ingress) :
    DesiredSet.entryOf settings v' prior i = DesiredSet.entryOf settings v prior i := by
  have hspec : Blueprint.desiredSpec (settings.context v') i (Blueprint.targets v'.nodes) =
    Blueprint.desiredSpec (settings.context v) i (Blueprint.targets v.nodes) :=
    h.specOf_eq settings i
  rw [DesiredSet.entryOf, DesiredSet.entryOf, DesiredSet.entry, DesiredSet.entry, hspec]

/-! ## Desired sets -/

/-- The same ids are held. -/
theorem held_eq : (DesiredSet.build settings v' prior).held =
    (DesiredSet.build settings v prior).held := by
  refine SortedMap.ext_contains fun id => ?_
  simp only [DesiredSet.isHeld_build, h.specOf_eq, (h.declared settings).mem_iff]

/-- The same problems are met, in another order. -/
theorem problems : (DesiredSet.build settings v prior).problems.Perm
    (DesiredSet.build settings v' prior).problems := by
  have hsame : DesiredSet.problemOf? settings v' = DesiredSet.problemOf? settings v := by
    funext i
    rw [DesiredSet.problemOf?, DesiredSet.problemOf?, h.specOf_eq]
  rw [DesiredSet.problems_build, DesiredSet.problems_build, hsame]
  exact (h.declared settings).filterMap _

/-- **And the same resources are desired**, where no two ingresses share an id. -/
theorem resources_eq (hnd : ((v.declared settings).map (·.id)).Nodup) :
    (DesiredSet.build settings v' prior).resources =
      (DesiredSet.build settings v prior).resources := by
  have hnd' : ((v'.declared settings).map (·.id)).Nodup :=
    ((h.declared settings).map _).nodup_iff.1 hnd
  refine Registry.ext_get? fun id => ?_
  by_cases hid : v.Declares settings id
  · obtain ⟨i, hi, rfl⟩ := hid
    rw [DesiredSet.get?_build_of_nodup hnd' ((h.declared settings).mem_iff.1 hi),
      DesiredSet.get?_build_of_nodup hnd hi, h.entryOf_eq]
  · have hnone : ∀ {v : View}, ¬ v.Declares settings id →
        (DesiredSet.build settings v prior).resources.get? id = none := fun hno => by
      rwa [← Option.not_isSome_iff_eq_none, ← Registry.contains_eq_isSome,
        DesiredSet.contains_build prior]
    rw [hnone hid, hnone (mt h.declares_iff.1 hid)]

end View.Relists

/-! ## Passes -/

namespace Flight

variable {f f' : Flight} {state : SyncState} {now : Instant}

/-- The outcomes of a pass whose attempts end in what is answered for their resources. -/
def outcomes (f : Flight) (answer : Resource → Except Failure Resource) : List Outcome :=
  f.batch.map fun r => (r.id, answer r)

/-- All that a pass publishes, with what the attempts publish for their resources. -/
def published (f : Flight) (said : Resource → List Event) (c : Commit) : List Event :=
  f.problemEvents ++ f.batch.flatMap said ++ c.events

/-- Whether two passes set out alike but for the order in which they met the problems, and met
those of each id in one order. -/
structure Reorders (f f' : Flight) : Prop where
  eq : f' = { f with desired := { f.desired with problems := f'.desired.problems } }
  perm : f.desired.problems.Perm f'.desired.problems
  each : ∀ id, f.desired.problems.filter (·.1 = id) = f'.desired.problems.filter (·.1 = id)

theorem Reorders.refl (f : Flight) : f.Reorders f := ⟨rfl, .refl _, fun _ => rfl⟩

/-- **From both views a pass sets out alike**, where no two ingresses share an id. -/
theorem reorders_start (h : v.Relists v') (hnd : ((v.declared settings).map (·.id)).Nodup) :
    (start settings v state now).Reorders (start settings v' state now) := by
  refine ⟨?_, h.problems, fun id => filter_key_eq_of_perm h.problems
    (DesiredSet.nodup_problems hnd) id⟩
  have hdesired : DesiredSet.build settings v' state.registry =
      ⟨(DesiredSet.build settings v state.registry).resources,
        (DesiredSet.build settings v state.registry).held,
        (DesiredSet.build settings v' state.registry).problems⟩ := by
    rw [← h.held_eq, ← h.resources_eq hnd]
  unfold start
  rw [hdesired]

namespace Reorders

variable (h : f.Reorders f')
include h

/-- **Then it commits and reports the same.** -/
theorem commit_eq (settings : Settings) (state : SyncState) (metrics : Metrics)
    (os : List Outcome) (endedAt : Instant) :
    f'.commit settings state metrics os endedAt = f.commit settings state metrics os endedAt := by
  rw [h.eq]
  rfl

theorem batch_eq : f'.batch = f.batch := by rw [h.eq]

/-- It publishes the same about what has no spec, and the same about each id in one order. -/
theorem problemEvents : f.problemEvents.Perm f'.problemEvents ∧ ∀ id,
    f.problemEvents.filter (·.id = id) = f'.problemEvents.filter (·.id = id) := by
  refine ⟨h.perm.map _, fun id => ?_⟩
  have hfilter : ∀ f : Flight, f.problemEvents.filter (·.id = id) =
      (f.desired.problems.filter (·.1 = id)).map problemEvent := fun f => List.filter_map
  rw [hfilter, hfilter, h.each]

/-- And counts the same. -/
theorem countStart_eq (m : Metrics) : f'.countStart m = f.countStart m := by
  have hcomm : RightCommutative fun (m : Metrics) (p : ResourceId × Failure) =>
      m.countError p.2.kind := by
    refine ⟨fun m p q => ?_⟩
    have herrors : ((m.countError p.2.kind).countError q.2.kind).errors =
        ((m.countError q.2.kind).countError p.2.kind).errors := by
      refine SortedMap.ext_get? fun kind => ?_
      simp only [Metrics.countError, SortedMap.getD, SortedMap.get?_insert_eq]
      by_cases hp : kind = p.2.kind <;> by_cases hq : kind = q.2.kind
      · simp [← hp, ← hq]
      · simp [← hp, hq]
      · simp [hp, ← hq]
      · simp [hp, hq]
    exact congrArg (fun errors => { m with errors := errors }) herrors
  exact (h.perm.foldl_eq m.countUpdate).symm

/-- **So it publishes the same**, and the same about each id in one order, whatever its attempts
publish. -/
theorem published (said : Resource → List Event) (c : Commit) :
    (f.published said c).Perm (f'.published said c) ∧ ∀ id,
      (f.published said c).filter (·.id = id) = (f'.published said c).filter (·.id = id) := by
  obtain ⟨hperm, heach⟩ := h.problemEvents
  have hsaid : f'.batch.flatMap said = f.batch.flatMap said := by rw [h.batch_eq]
  refine ⟨?_, fun id => ?_⟩
  · unfold Flight.published
    rw [hsaid]
    exact (hperm.append_right _).append_right _
  · simp only [Flight.published, List.filter_append, heach, hsaid]

end Reorders

end Flight

end IngressBalancer
