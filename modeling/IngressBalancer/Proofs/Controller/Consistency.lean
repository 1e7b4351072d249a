import IngressBalancer.Cluster.Objects
import IngressBalancer.Proofs.Controller.Declarations
import IngressBalancer.World.Sample
/-!
# Held or wanted

Each declared id is held, with a problem and its prior entry
(`DesiredSet.Holds`), or wanted, with no problem and a spec that was built for
it (`DesiredSet.Wants`), but never both. There is one way in which it can be
neither: of several ingresses with its id one cannot be built, and the last
one can (`View.Overrules`). Then the id is held while its entry has the new
spec (`DesiredSet.build_consistent`).
-/

namespace IngressBalancer

variable {settings : Settings} {v : View} {prior : Registry} {id : ResourceId} {spec : Spec}
variable {i : Ingress} {e : Failure}

/-- Whether of the ingresses that declare an id one has no spec, while the last one has a spec
that is not the one of the prior entry. -/
structure View.Overrules (v : View) (settings : Settings) (prior : Registry) (id : ResourceId)
    (spec : Spec) : Prop where
  failed : ∃ i ∈ v.declared settings, i.id = id ∧ ∃ e, settings.specOf v i = .error e
  last : ∃ i, (v.declared settings).reverse.find? (·.id = id) = some i ∧
    settings.specOf v i = .ok spec
  changed : (prior.carried id).desired ≠ some spec

namespace DesiredSet

/-- Whether an id is held, with a problem, and has its prior entry or a blank one. -/
structure Holds (d : DesiredSet) (prior : Registry) (id : ResourceId) : Prop where
  held : d.held.contains id = true
  problem : ∃ e, (id, e) ∈ d.problems
  entry : d.resources.get? id = some (prior.carried id)

/-- Whether an id is not held and has no problem, and its entry has the prior handle, and a spec
that was built for an ingress that declares it. -/
structure Wants (d : DesiredSet) (settings : Settings) (v : View) (prior : Registry)
    (id : ResourceId) : Prop where
  free : d.held.contains id = false
  sound : ∀ e, (id, e) ∉ d.problems
  entry : ∃ i ∈ v.declared settings, i.id = id ∧ ∃ spec, settings.specOf v i = .ok spec ∧
    d.resources.get? id = some { prior.carried id with desired := some spec }

/-- **An id has a problem exactly when it is held.** -/
theorem exists_problem_iff :
    (∃ e, (id, e) ∈ (build settings v prior).problems) ↔
      (build settings v prior).held.contains id = true := by
  rw [isHeld_build, problems_build]
  simp only [List.mem_filterMap]
  constructor
  · rintro ⟨e, i, hi, hproblem⟩
    unfold problemOf? at hproblem
    split at hproblem
    · cases hproblem
    · next e hspec =>
      cases hproblem
      exact ⟨i, hi, rfl, e, hspec⟩
  · rintro ⟨i, hi, rfl, e, hspec⟩
    exact ⟨e, i, hi, by rw [problemOf?, hspec]⟩

/-- **The entry of an id is its prior one**, where the last ingress that declares it has no spec. -/
theorem get?_build_of_error
    (hlast : (v.declared settings).reverse.find? (·.id = id) = some i)
    (h : settings.specOf v i = .error e) :
    (build settings v prior).resources.get? id = some (prior.carried id) := by
  have hid : i.id = id := by simpa using List.find?_some hlast
  rw [get?_build, hlast, Option.map_some, entryOf, entry,
    show Blueprint.desiredSpec _ i _ = .error e from h, hid]

/-- And the prior one with the new spec, where it has one. -/
theorem get?_build_of_ok
    (hlast : (v.declared settings).reverse.find? (·.id = id) = some i)
    (h : settings.specOf v i = .ok spec) :
    (build settings v prior).resources.get? id =
      some { prior.carried id with desired := some spec } := by
  have hid : i.id = id := by simpa using List.find?_some hlast
  rw [get?_build, hlast, Option.map_some, entryOf, entry,
    show Blueprint.desiredSpec _ i _ = .ok spec from h, hid]

/-- No id is held and wanted. -/
theorem Holds.not_wants {d : DesiredSet} (h : d.Holds prior id) : ¬ d.Wants settings v prior id :=
  fun hwants => Bool.false_ne_true (hwants.free.symm.trans h.held)

/-- **A declared id is wanted, or held**, or it is held with a spec that it should not have. -/
theorem build_cases (hid : v.Declares settings id) :
    (build settings v prior).Wants settings v prior id ∨
      (build settings v prior).Holds prior id ∨ ∃ spec, v.Overrules settings prior id spec := by
  obtain ⟨i, hlast⟩ : ∃ i, (v.declared settings).reverse.find? (·.id = id) = some i := by
    obtain ⟨i, hi, hid⟩ := hid
    exact Option.isSome_iff_exists.1
      (List.find?_isSome.2 ⟨i, List.mem_reverse.2 hi, by simpa using hid⟩)
  cases hheld : (build settings v prior).held.contains id with
  | false =>
    have hnone : ∀ e, (id, e) ∉ (build settings v prior).problems := fun e he => by
      rw [exists_problem_iff.1 ⟨e, he⟩] at hheld
      cases hheld
    obtain ⟨r, hr⟩ : ∃ r, (build settings v prior).resources.get? id = some r :=
      ⟨_, by rw [get?_build, hlast]; rfl⟩
    obtain ⟨j, hj, hjid, spec, hspec, rfl⟩ := exists_spec_of_not_held hr hheld
    exact .inl ⟨hheld, hnone, j, hj, hjid, spec, hspec, hr⟩
  | true =>
    have hproblem := exists_problem_iff.2 hheld
    cases hspec : settings.specOf v i with
    | error e => exact .inr (.inl ⟨hheld, hproblem, get?_build_of_error hlast hspec⟩)
    | ok spec =>
      -- a spec that the prior entry has already makes no difference
      by_cases hsame : (prior.carried id).desired = some spec
      · refine .inr (.inl ⟨hheld, hproblem, ?_⟩)
        rw [get?_build_of_ok hlast hspec, ← hsame]
      · exact .inr (.inr ⟨spec, isHeld_build.1 hheld, ⟨i, hlast, hspec⟩, hsame⟩)

end DesiredSet

/-! ## What is overruled -/

namespace View.Overrules

variable (h : v.Overrules settings prior id spec)
include h

theorem held : (DesiredSet.build settings v prior).held.contains id = true :=
  DesiredSet.isHeld_build.2 h.failed

/-- What is overruled has the new spec, although it is held. -/
theorem get?_build : (DesiredSet.build settings v prior).resources.get? id =
    some { prior.carried id with desired := some spec } := by
  obtain ⟨i, hlast, hspec⟩ := h.last
  exact DesiredSet.get?_build_of_ok hlast hspec

theorem not_holds : ¬ (DesiredSet.build settings v prior).Holds prior id := fun hholds =>
  h.changed (congrArg Resource.desired (Option.some.inj (hholds.entry.symm.trans h.get?_build)))

theorem not_wants : ¬ (DesiredSet.build settings v prior).Wants settings v prior id := fun hwants =>
  Bool.false_ne_true (hwants.free.symm.trans h.held)

/-- **Only an ingress that shares its id is overruled.** -/
theorem not_nodup : ¬ ((v.declared settings).map (·.id)).Nodup := by
  intro hnd
  obtain ⟨i, hi, hiid, e, he⟩ := h.failed
  obtain ⟨j, hlast, hspec⟩ := h.last
  have hj : j ∈ v.declared settings := List.mem_reverse.1 (List.mem_of_find?_eq_some hlast)
  have hjid : j.id = id := by simpa using List.find?_some hlast
  rw [DesiredSet.eq_of_declared hnd hi hj (hjid.trans hiid.symm), he] at hspec
  cases hspec

end View.Overrules

namespace DesiredSet

/-- **The desired set is consistent with what is held**, but where an ingress is overruled. It has
just the declared ids. Each of them is held, with a problem and its prior entry, or wanted, with
no problem, the prior handle and a spec that was built for it, and not both, exactly where
no ingress without a spec comes before one with a new spec for the same id; and this never
happens where no two ingresses share an id. Where it does, the id is held and has a problem,
but its entry has the new spec. -/
theorem build_consistent (settings : Settings) (v : View) (prior : Registry) :
    (∀ id, (build settings v prior).resources.contains id = true ↔ v.Declares settings id) ∧
    (∀ id, v.Declares settings id →
      (Xor ((build settings v prior).Holds prior id)
          ((build settings v prior).Wants settings v prior id) ↔
        ¬ ∃ spec, v.Overrules settings prior id spec)) ∧
    (((v.declared settings).map (·.id)).Nodup → ∀ id spec,
      ¬ v.Overrules settings prior id spec) ∧
    ∀ id spec, v.Overrules settings prior id spec →
      (build settings v prior).held.contains id = true ∧
      (∃ e, (id, e) ∈ (build settings v prior).problems) ∧
      (build settings v prior).resources.get? id =
        some { prior.carried id with desired := some spec } := by
  refine ⟨fun id => contains_build prior, fun id hid => ⟨?_, ?_⟩,
    fun hnd id spec h => h.not_nodup hnd,
    fun id spec h => ⟨h.held, exists_problem_iff.2 h.held, h.get?_build⟩⟩
  · rintro hone ⟨spec, h⟩
    rcases hone with ⟨hholds, -⟩ | ⟨hwants, -⟩
    · exact h.not_holds hholds
    · exact h.not_wants hwants
  · intro hno
    rcases build_cases hid with hwants | hholds | hoverruled
    · exact .inr ⟨hwants, fun hholds => hholds.not_wants hwants⟩
    · exact .inl ⟨hholds, hholds.not_wants⟩
    · exact absurd hoverruled hno

end DesiredSet

namespace Sample

/-- The shop that is served, and a stall whose service is not there. -/
def unserved : View :=
  ((∅ : Objects).applyAll
    (served "default" "shop" ++ [.ingress (ingress "default" "stall" "stall" 80)])).view

/-- An ingress that is called like the shop, but names no namespace, and leads to a service that is
not there. -/
def unplaced : Ingress :=
  let plain := ingress "default" "shop" "stock" 80
  { plain with metadata := { plain.metadata with nspace := none } }

/-- The shop that is served, and before it the one that names no namespace: the two have one id. -/
def namesakes : View := ((∅ : Objects).applyAll (.ingress unplaced :: served "default" "shop")).view

end Sample

namespace DesiredSet

open Sample

/-- The stall is held and the shop is wanted. -/
theorem build_consistent_unserved :
    ((unserved.declared accepted).map (·.id)).Nodup ∧
    unserved.Declares accepted ⟨"default", "stall"⟩ ∧
    unserved.Declares accepted ⟨"default", "shop"⟩ ∧
    (build accepted unserved ∅).Holds ∅ ⟨"default", "stall"⟩ ∧
    (build accepted unserved ∅).Wants accepted unserved ∅ ⟨"default", "shop"⟩ := by
  have hnd : ((unserved.declared accepted).map (·.id)).Nodup := by decide +kernel
  have hheld : (build accepted unserved ∅).held.contains ⟨"default", "stall"⟩ = true := by
    decide +kernel
  have hfree : (build accepted unserved ∅).held.contains ⟨"default", "shop"⟩ = false := by
    decide +kernel
  obtain ⟨hids, hone, hnever, -⟩ := build_consistent accepted unserved ∅
  have hstall : unserved.Declares accepted ⟨"default", "stall"⟩ := (hids _).1 (by decide +kernel)
  have hshop : unserved.Declares accepted ⟨"default", "shop"⟩ := (hids _).1 (by decide +kernel)
  refine ⟨hnd, hstall, hshop, ?_, ?_⟩
  · rcases (hone _ hstall).2 fun ⟨spec, h⟩ => hnever hnd _ spec h with ⟨h, -⟩ | ⟨h, -⟩
    · exact h
    · exact absurd (h.free.symm.trans hheld) Bool.false_ne_true
  · rcases (hone _ hshop).2 fun ⟨spec, h⟩ => hnever hnd _ spec h with ⟨h, -⟩ | ⟨h, -⟩
    · exact absurd (hfree.symm.trans h.held) Bool.false_ne_true
    · exact h

/-- **Of two shops with one id**, the one that is not served has the id held, and the one that is
gives it a spec all the same. -/
theorem held_with_new_spec :
    let d := build accepted namesakes ∅
    let id : ResourceId := ⟨"default", "shop"⟩
    d.held.contains id = true ∧ d.problems.map (·.1) = [id] ∧
    (d.resources.get? id).map (·.desired.isSome) = some true ∧
    ¬ d.Holds ∅ id ∧ ¬ d.Wants accepted namesakes ∅ id := by
  intro d id
  have hheld : d.held.contains id = true := by decide +kernel
  have hspec : (d.resources.get? id).map (·.desired.isSome) = some true := by decide +kernel
  refine ⟨hheld, by decide +kernel, hspec, fun h => ?_, fun h => ?_⟩
  · rw [h.entry] at hspec
    exact absurd hspec (by decide)
  · exact absurd (h.free.symm.trans hheld) Bool.false_ne_true

end DesiredSet

end IngressBalancer
