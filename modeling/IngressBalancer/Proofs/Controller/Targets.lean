import IngressBalancer.Proofs.Controller.Listing
import IngressBalancer.Proofs.Data.Results
import IngressBalancer.Proofs.Settings.Stems
import IngressBalancer.Proofs.Text.Separators
import IngressBalancer.World.Sample
/-!
# The targets of a cluster

A node offers the instance that its provider id ends in, unless it is of the
control plane or excluded (`Node.Offers`). The targets are the instances that are
offered, in strictly increasing order (`Blueprint.mem_targets_iff`,
`Blueprint.pairwise_targets`). So they depend on what is offered, and on nothing
else about the nodes; and so does every spec (`Blueprint.targets_canonical`).
-/

namespace IngressBalancer

variable {n n' : Node} {ns ns' : List Node} {s : String}

/-! ## Nodes -/

/-- Whether a text spells a word that is written in lower case, each letter in lower or upper
case. -/
def Text.Spells (v word : String) : Prop :=
  List.Forall₂ (fun c w => c = w ∨ c = w.toUpper) v.toList word.toList

namespace Node

/-- A label of a node. -/
def label? (n : Node) (key : String) : Option String := n.metadata.labels.bind (·.get? key)

/-- Whether a node is eligible: it is not of the control plane, and no label excludes it. -/
structure Eligible (n : Node) : Prop where
  master : n.label? "node-role.kubernetes.io/master" = none
  controlPlane : n.label? "node-role.kubernetes.io/control-plane" = none
  included : ∀ v, n.label? "alpha.service-controller.kubernetes.io/exclude-balancer" = some v →
    ¬ Text.Spells v "true"

/-- Whether a node offers an instance as a target: it is eligible, and the instance is what follows
the last slash of its provider id. -/
structure Offers (n : Node) (s : String) : Prop where
  eligible : n.Eligible
  provided : ∃ p, n.providerId = some p ∧ Text.IsLastPiece '/' p.toList s.toList
  nonempty : s ≠ ""

/-- Whether two lists of nodes offer the same instances. -/
def SameOffers (ns ns' : List Node) : Prop :=
  ∀ s, (∃ n ∈ ns, n.Offers s) ↔ ∃ n ∈ ns', n.Offers s

end Node

namespace Text

theorem toNat_toUpper {w : Char} (h : 97 ≤ w.toNat) (h' : w.toNat ≤ 122) :
    w.toUpper.toNat + 32 = w.toNat := by
  have hlower : w.val ≥ 'a'.val ∧ w.val ≤ 'z'.val := ⟨h, h'⟩
  have hsum : w.toUpper.toNat = (w.toNat + 4294967264) % 4294967296 := by
    unfold Char.toUpper
    rw [dif_pos hlower]
    exact UInt32.toNat_add w.val _
  omega

/-- **A letter is another in lower case** where it is this or its upper case. -/
theorem toLower_eq_iff {c w : Char} (h : 97 ≤ w.toNat ∧ w.toNat ≤ 122) :
    c.toLower = w ↔ c = w ∨ c = w.toUpper := by
  have hupper := toNat_toUpper h.1 h.2
  simp only [← Char.toNat_inj]
  by_cases hc : 65 ≤ c.toNat ∧ c.toNat ≤ 90
  · rw [Stem.toNat_toLower hc.1 hc.2]
    omega
  · have hsame : c.toLower = c := dif_neg hc
    rw [hsame]
    omega

theorem map_toLower_eq_iff {cs ws : List Char} (h : ∀ w ∈ ws, 97 ≤ w.toNat ∧ w.toNat ≤ 122) :
    cs.map Char.toLower = ws ↔ List.Forall₂ (fun c w => c = w ∨ c = w.toUpper) cs ws := by
  induction cs generalizing ws with
  | nil => rw [List.map_nil, List.forall₂_nil_left_iff, eq_comm]
  | cons c cs ih =>
    cases ws with
    | nil => simp
    | cons w ws =>
      rw [List.map_cons, List.cons_eq_cons, List.forall₂_cons, ih (List.forall_mem_cons.1 h).2,
        toLower_eq_iff (List.forall_mem_cons.1 h).1]

/-- A text spells a word when it is the word in lower case. -/
theorem spells_true_iff {v : String} :
    Spells v "true" ↔ v.toList.map Char.toLower = ['t', 'r', 'u', 'e'] :=
  (map_toLower_eq_iff (by simp)).symm

end Text

namespace Node

theorem label?_eq (n : Node) (key : String) :
    n.label? key = (n.metadata.labels.getD ∅).get? key := by
  rw [label?]
  cases n.metadata.labels <;> rfl

theorem isEligible_iff : n.isEligible = true ↔ n.Eligible := by
  have hcontains : ∀ key, (!(n.metadata.labels.getD ∅).contains key) = true ↔
      n.label? key = none := by
    intro key
    rw [label?_eq, SortedMap.contains_eq_isSome, Bool.not_eq_true', Option.isSome_eq_false_iff,
      Option.isNone_iff_eq_none]
  rw [isEligible]
  simp only [Bool.and_eq_true, hcontains, ← label?_eq]
  constructor
  · rintro ⟨⟨hmaster, hplane⟩, hlabel⟩
    refine ⟨hmaster, hplane, fun v hv hspells => ?_⟩
    rw [hv] at hlabel
    exact bne_iff_ne.1 hlabel (Text.spells_true_iff.1 hspells)
  · intro h
    refine ⟨⟨h.master, h.controlPlane⟩, ?_⟩
    split
    · rfl
    · next v hv => exact bne_iff_ne.2 (mt Text.spells_true_iff.2 (h.included v hv))

/-- The instance behind a node is what follows the last slash of its provider id. -/
theorem instance?_eq_some_iff : n.instance? = some s ↔
    (∃ p, n.providerId = some p ∧ Text.IsLastPiece '/' p.toList s.toList) ∧ s ≠ "" := by
  have hpiece : ∀ p : String, String.ofList (Text.lastPiece '/' p.toList) = s ↔
      Text.IsLastPiece '/' p.toList s.toList := by
    intro p
    rw [← Text.lastPiece_eq_iff, ← String.toList_inj, String.toList_ofList]
  rw [instance?, Option.filter_eq_some_iff, Option.map_eq_some_iff]
  simp only [hpiece]
  simp

/-- **An eligible node offers the instance behind it**, and no other node offers any. -/
theorem offers_iff : n.Offers s ↔ n.isEligible = true ∧ n.instance? = some s := by
  rw [isEligible_iff, instance?_eq_some_iff]
  exact ⟨fun h => ⟨h.eligible, h.provided, h.nonempty⟩, fun ⟨he, hp, hs⟩ => ⟨he, hp, hs⟩⟩

end Node

namespace Node.SameOffers

/-- Neither the order of the nodes matters nor how often they come. -/
theorem of_mem_iff (h : ∀ n, n ∈ ns ↔ n ∈ ns') : SameOffers ns ns' := fun s => by simp only [h]

/-- Nor does a node that offers nothing. -/
theorem of_replaced {pre post : List Node} (hn : ∀ s, ¬ n.Offers s) (hn' : ∀ s, ¬ n'.Offers s) :
    SameOffers (pre ++ n :: post) (pre ++ n' :: post) := fun s => by
  simp only [List.mem_append, List.mem_cons, or_and_right, exists_or, exists_eq_left,
    hn s, hn' s, false_or]

end Node.SameOffers

namespace Blueprint

/-- **The targets are the instances that are offered.** -/
theorem mem_targets_iff : s ∈ targets ns ↔ ∃ n ∈ ns, n.Offers s := by
  simp only [mem_targets, Node.offers_iff]

/-- **They increase strictly.** -/
theorem pairwise_targets (ns : List Node) : (targets ns).Pairwise (· < ·) :=
  (SortedMap.pairwise_keys _).imp compareOfLessAndEq_eq_lt.1

/-- Nodes that offer the same give the same targets. -/
theorem targets_eq_of_sameOffers (h : Node.SameOffers ns ns') : targets ns' = targets ns :=
  targets_ext fun s => by rw [mem_targets_iff, mem_targets_iff, h s]

variable {settings : Settings} {v : View} {i : Ingress} {spec : Spec}

/-- A spec has the targets that it was built with. -/
theorem targets_of_specOf (h : settings.specOf v i = .ok spec) : spec.targets = targets v.nodes := by
  obtain ⟨given, groups, rules, -, rfl⟩ := exists_settings_of_desiredSpec h
  rfl

/-- **Specs depend on what the nodes offer**, and on nothing else about the nodes. -/
theorem specOf_eq_of_sameOffers (h : Node.SameOffers v.nodes ns') (i : Ingress) :
    settings.specOf { v with nodes := ns' } i = settings.specOf v i := by
  have hservice : View.service? { v with nodes := ns' } = (settings.context v).view.service? := rfl
  rw [Settings.specOf, Settings.specOf, targets_eq_of_sameOffers h]
  exact desiredSpec_congr hservice i (targets v.nodes)

/-- So does the whole desired set. -/
theorem build_eq_of_sameOffers (h : Node.SameOffers v.nodes ns') (prior : Registry) :
    DesiredSet.build settings { v with nodes := ns' } prior = DesiredSet.build settings v prior := by
  have hdeclare : DesiredSet.declare (settings.context { v with nodes := ns' }) (targets ns') prior =
      DesiredSet.declare (settings.context v) (targets v.nodes) prior := by
    funext d i
    have hspec : settings.specOf { v with nodes := ns' } i = settings.specOf v i :=
      specOf_eq_of_sameOffers h i
    rw [Settings.specOf, Settings.specOf] at hspec
    rw [DesiredSet.declare, DesiredSet.declare, hspec]
  rw [DesiredSet.build, DesiredSet.build, hdeclare]

/-- **The targets are canonical.** They increase strictly and are just the instances that nodes
offer; a spec has them as its targets. Where other nodes offer the same, each spec is the same,
and so is the whole desired set. That is so where the same nodes are listed in another order
or another number of times, and where one that offers nothing becomes another that offers
nothing; and a node that is not eligible, or has no provider id, offers nothing. -/
theorem targets_canonical :
    (∀ ns, (targets ns).Pairwise (· < ·)) ∧
    (∀ ns s, s ∈ targets ns ↔ ∃ n ∈ ns, n.Offers s) ∧
    (∀ settings v i spec, Settings.specOf settings v i = .ok spec →
      spec.targets = targets v.nodes) ∧
    (∀ v ns, Node.SameOffers v.nodes ns → targets ns = targets v.nodes ∧ ∀ settings,
      (∀ i, Settings.specOf settings { v with nodes := ns } i = settings.specOf v i) ∧
      ∀ prior, DesiredSet.build settings { v with nodes := ns } prior =
        DesiredSet.build settings v prior) ∧
    (∀ ns ns' : List Node, (∀ n, n ∈ ns ↔ n ∈ ns') → Node.SameOffers ns ns') ∧
    (∀ pre n n' post, (∀ s, ¬ n.Offers s) → (∀ s, ¬ n'.Offers s) →
      Node.SameOffers (pre ++ n :: post) (pre ++ n' :: post)) ∧
    ∀ n : Node, ¬ n.Eligible ∨ n.providerId = none → ∀ s, ¬ n.Offers s := by
  refine ⟨pairwise_targets, fun _ _ => mem_targets_iff, fun _ _ _ _ => targets_of_specOf,
    fun v ns h => ⟨targets_eq_of_sameOffers h, fun settings =>
      ⟨specOf_eq_of_sameOffers h, build_eq_of_sameOffers h⟩⟩,
    fun _ _ => Node.SameOffers.of_mem_iff, fun _ _ _ _ => Node.SameOffers.of_replaced, ?_⟩
  rintro n (hn | hn) s hoffers
  · exact hn hoffers.eligible
  · obtain ⟨p, hp, -⟩ := hoffers.provided
    cases hn.symm.trans hp

end Blueprint

namespace Sample

/-- A node that a label excludes. -/
def excluded (providerId : String) : Node :=
  node "c" providerId
    (SortedMap.insert ∅ "alpha.service-controller.kubernetes.io/exclude-balancer" "TRUE")

/-- Three nodes, the last of them excluded. -/
def threeNodes : List Node :=
  [node "b" "aws:///us-east-1b/i-2" ∅, node "a" "i-1" ∅, excluded "aws:///us-east-1c/i-3"]

/-- The shop, and three nodes. -/
def staffedShop : View :=
  { ((∅ : Objects).applyAll (served "default" "shop")).view with nodes := threeNodes }

end Sample

namespace Blueprint

open Sample in
/-- The shop has the two nodes that are not excluded for its targets. It has the same spec where they
are listed the other way round and twice, and where the excluded one is exchanged. -/
theorem targets_canonical_staffed :
    let i := ingress "default" "shop" "shop" 80
    let relisted := threeNodes.reverse ++ threeNodes
    let exchanged := threeNodes.take 2 ++ [excluded "aws:///us-east-1c/i-4"]
    (∀ n, n ∈ staffedShop.nodes ↔ n ∈ relisted) ∧
    ¬ (excluded "aws:///us-east-1c/i-3").Eligible ∧
    ¬ (excluded "aws:///us-east-1c/i-4").Eligible ∧
    accepted.specOf { staffedShop with nodes := relisted } i = accepted.specOf staffedShop i ∧
    accepted.specOf { staffedShop with nodes := exchanged } i = accepted.specOf staffedShop i ∧
    ∃ spec, accepted.specOf staffedShop i = .ok spec ∧ spec.targets = ["i-1", "i-2"] := by
  intro i relisted exchanged
  have hrelisted : ∀ n, n ∈ staffedShop.nodes ↔ n ∈ relisted := fun n => by
    rw [List.mem_append, List.mem_reverse, or_self]
    rfl
  have hout : ∀ id, ¬ (excluded id).Eligible := fun id h =>
    Bool.false_ne_true (show false = true from Node.isEligible_iff.2 h)
  obtain ⟨-, -, htargets, hsame, hlisting, hreplaced, hnothing⟩ := targets_canonical
  have hexchanged : Node.SameOffers staffedShop.nodes exchanged :=
    hreplaced (threeNodes.take 2) _ _ [] (hnothing _ (.inl (hout _))) (hnothing _ (.inl (hout _)))
  have hsome : (accepted.specOf staffedShop i).toOption.map (·.listeners.length) =
      some 1 := by decide +kernel
  obtain ⟨spec, hspec, -⟩ := Except.exists_of_toOption_map hsome
  exact ⟨hrelisted, hout _, hout _,
    ((hsame staffedShop relisted (hlisting _ _ hrelisted)).2 accepted).1 i,
    ((hsame staffedShop exchanged hexchanged).2 accepted).1 i, spec, hspec,
    (htargets _ _ _ _ hspec).trans (by decide +kernel)⟩

end Blueprint

end IngressBalancer
