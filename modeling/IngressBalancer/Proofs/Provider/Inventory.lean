import IngressBalancer.Controller.Resync
import IngressBalancer.Proofs.Controller.Declarations
import IngressBalancer.Provider.Inventory
import Mathlib.Data.Set.Function
/-!
# Whose load balancers there are

The tags that a spec is built with name its ingress, and a discovery reads
them back (`Spec.BelongsTo`). In an inventory that holds nothing but load
balancers of such specs, each under the name of its ingress and with the
address of that name (`Inventory.Sound`), an address leads to its name
(`findByArn_eq`), and a discovery finds all there is, each load balancer
under the id of its ingress (`mem_discover_iff`).
-/

namespace IngressBalancer

/-- What a resync looks for at the provider. -/
def Settings.scope (settings : Settings) : Scope := ⟨settings.clusterName, settings.stem⟩

/-- The name of the load balancer of an id. -/
def Scope.nameOf (scope : Scope) (id : ResourceId) : String :=
  Blueprint.loadBalancerName scope.stem id

/-- Whether a spec is for the ingress with an id: by its name, and by its tags. -/
structure Spec.BelongsTo (scope : Scope) (id : ResourceId) (spec : Spec) : Prop where
  name : spec.loadBalancerName = scope.nameOf id
  nspaceTag : spec.tags.get? Blueprint.namespaceTag = some id.nspace
  nameTag : spec.tags.get? Blueprint.nameTag = some id.name
  clusterTag : spec.tags.contains (Blueprint.clusterTag scope.clusterName) = true

variable {settings : Settings} {scope : Scope} {region : String} {P : Set ResourceId}
variable {id : ResourceId} {spec : Spec} {lb : LoadBalancer} {inv : Inventory} {key : String}

/-! ## Addresses -/

theorem Provider.length_suffix (name : String) : (suffix name).toList.length = 16 := by
  have h : (suffix name).toList = (Digest.hexDigest name).take 16 := String.toList_ofList
  rw [h, List.length_take, Digest.length_hexDigest]
  rfl

/-- **An address tells the name.** What follows the name in it is always of one length. -/
theorem Provider.arn_injective {n m : String} (h : arn region n = arn region m) : n = m := by
  let front := "arn:aws:elasticloadbalancing:" ++ region ++ ":" ++ account ++ ":loadbalancer/app/"
  have hlist : ∀ name, (arn region name).toList =
      front.toList ++ (name.toList ++ ("/".toList ++ (suffix name).toList)) := by
    intro name
    have harn : arn region name = front ++ name ++ "/" ++ suffix name := rfl
    rw [harn, String.toList_append, String.toList_append, String.toList_append,
      List.append_assoc, List.append_assoc]
  have htail := congrArg String.toList h
  rw [hlist, hlist, List.append_cancel_left_eq] at htail
  have hlen : ("/".toList ++ (suffix n).toList).length =
      ("/".toList ++ (suffix m).toList).length := by
    rw [List.length_append, List.length_append, length_suffix, length_suffix]
  exact String.toList_inj.1 (List.append_inj' htail hlen).1

/-! ## Owners -/

/-- The tag of a cluster is neither tag of an owner; the fifteenth character tells. -/
theorem Blueprint.clusterTag_ne (clusterName : String) :
    clusterTag clusterName ≠ namespaceTag ∧ clusterTag clusterName ≠ nameTag := by
  have hlist : (clusterTag clusterName).toList =
      "kubernetes.io/cluster/".toList ++ clusterName.toList := String.toList_append
  have hchar : ((clusterTag clusterName).toList.drop 14).head? = some 'c' := by
    rw [hlist]
    rfl
  have hspace : (namespaceTag.toList.drop 14).head? = some 'n' := rfl
  have hname : (nameTag.toList.drop 14).head? = some 'i' := rfl
  constructor
  · intro h
    rw [h, hspace] at hchar
    exact absurd hchar (by decide)
  · intro h
    rw [h, hname] at hchar
    exact absurd hchar (by decide)

/-- The tags of a spec name the cluster and the owner, whatever else was asked for. -/
theorem Blueprint.get?_ownedTags (clusterName : String) (id : ResourceId)
    (tags : SortedMap String String) :
    (ownedTags clusterName id tags).get? namespaceTag = some id.nspace ∧
      (ownedTags clusterName id tags).get? nameTag = some id.name ∧
      (ownedTags clusterName id tags).get? (clusterTag clusterName) = some "owned" := by
  have hne : namespaceTag ≠ nameTag := by decide
  obtain ⟨hspace, hname⟩ := clusterTag_ne clusterName
  refine ⟨?_, SortedMap.get?_insert_self, ?_⟩
  · rw [ownedTags, SortedMap.get?_insert_of_ne hne, SortedMap.get?_insert_self]
  · rw [ownedTags, SortedMap.get?_insert_of_ne hname, SortedMap.get?_insert_of_ne hspace,
      SortedMap.get?_insert_self]

/-- **A spec that was built for an ingress belongs to it.** -/
theorem Settings.belongsTo_of_specOf {v : View} {i : Ingress}
    (h : settings.specOf v i = .ok spec) : spec.BelongsTo settings.scope i.id := by
  obtain ⟨given, groups, rules, -, rfl⟩ := Blueprint.exists_settings_of_desiredSpec h
  obtain ⟨hspace, hname, hcluster⟩ := Blueprint.get?_ownedTags settings.clusterName i.id given.tags
  exact ⟨rfl, hspace, hname, Option.isSome_iff_exists.2 ⟨_, hcluster⟩⟩

namespace Spec.BelongsTo

/-- The tags are read back as the owner. -/
theorem owner?_eq (h : lb.spec.BelongsTo scope id) : lb.owner? = some id := by
  simp only [LoadBalancer.owner?, h.nspaceTag, h.nameTag]
  rfl

/-- The load balancer of an ingress is in the scope of the controller. -/
theorem holds (h : lb.spec.BelongsTo scope id) : scope.holds lb = true := by
  rw [Scope.holds, h.name, h.clusterTag, Bool.and_true, List.isPrefixOf_iff_prefix]
  refine ⟨(Digest.hexDigest id.text).take 15, ?_⟩
  rw [Scope.nameOf, Blueprint.loadBalancerName, Blueprint.hashedName, String.toList_ofList,
    List.append_assoc, List.singleton_append]

end Spec.BelongsTo

/-! ## Sound inventories -/

/-- Whether a load balancer is what the name of an id stands for in a region. -/
structure LoadBalancer.StandsFor (scope : Scope) (region : String) (id : ResourceId)
    (lb : LoadBalancer) : Prop where
  arn : lb.arn = Provider.arn region (scope.nameOf id)
  spec : lb.spec.BelongsTo scope id

namespace Inventory

/-- Whether an inventory holds nothing but load balancers of some ids, each under its name. -/
def Sound (scope : Scope) (region : String) (P : Set ResourceId) (inv : Inventory) : Prop :=
  ∀ key lb, inv.get? key = some lb → ∃ id ∈ P, key = scope.nameOf id ∧
    lb.StandsFor scope region id

/-- The load balancer of an id. -/
def standing (inv : Inventory) (scope : Scope) (id : ResourceId) : Option LoadBalancer :=
  inv.get? (scope.nameOf id)

/-- What is discovered is in the scope, under the id that its tags name. -/
theorem mem_discover {r : Resource} : r ∈ inv.discover scope ↔
    ∃ key lb, inv.get? key = some lb ∧ scope.holds lb = true ∧ lb.owner? = some r.id ∧
      r = ⟨r.id, none, some lb.handle⟩ := by
  simp only [discover, List.mem_filterMap, List.mem_filter, Option.map_eq_some_iff]
  constructor
  · rintro ⟨lb, ⟨hmem, hholds⟩, id, hid, rfl⟩
    obtain ⟨key, hlb⟩ := SortedMap.mem_values_iff.1 hmem
    exact ⟨key, lb, hlb, hholds, hid, rfl⟩
  · rintro ⟨key, lb, hlb, hholds, hid, hr⟩
    exact ⟨lb, ⟨SortedMap.mem_values_iff.2 ⟨key, hlb⟩, hholds⟩, r.id, hid, hr.symm⟩

namespace Sound

variable (h : inv.Sound scope region P)
include h

/-- What stands under the name of an id belongs to it, where the names differ. -/
theorem standsFor (hinj : P.InjOn scope.nameOf) (hid : id ∈ P)
    (hlb : inv.standing scope id = some lb) : lb.StandsFor scope region id := by
  obtain ⟨id', hid', hkey, hstands⟩ := h _ _ hlb
  exact hinj hid hid' hkey ▸ hstands

/-- **The address of a name leads to what stands under it.** -/
theorem findByArn_eq (id : ResourceId) :
    inv.findByArn (Provider.arn region (scope.nameOf id)) = inv.standing scope id := by
  have hkey : ∀ key lb, inv.get? key = some lb →
      lb.arn = Provider.arn region (scope.nameOf id) → key = scope.nameOf id := by
    intro key lb hlb harn
    obtain ⟨id', -, rfl, hstands⟩ := h _ _ hlb
    exact Provider.arn_injective (hstands.arn.symm.trans harn)
  rw [findByArn, standing]
  -- the search meets a load balancer exactly where one stands under the name
  cases hfind : inv.values.find? (·.arn = Provider.arn region (scope.nameOf id)) with
  | some lb =>
    obtain ⟨key, hlb⟩ := SortedMap.mem_values_iff.1 (List.mem_of_find?_eq_some hfind)
    have harn : lb.arn = Provider.arn region (scope.nameOf id) := by
      simpa using List.find?_some hfind
    rw [← hkey key lb hlb harn, hlb]
  | none =>
    cases hget : inv.get? (scope.nameOf id) with
    | none => rfl
    | some lb =>
      obtain ⟨id', -, hname, hstands⟩ := h _ _ hget
      rw [List.find?_eq_none] at hfind
      exact absurd (by simp [hstands.arn, hname]) (hfind lb (SortedMap.mem_values_iff.2 ⟨_, hget⟩))

/-! ## Discoveries -/

/-- A discovery finds the load balancers in the order of their names, and passes none over. -/
theorem map_nameOf_discover :
    (inv.discover scope).map (fun r => scope.nameOf r.id) = inv.keys := by
  have hall : ∀ e ∈ inv.entries, ∃ id, e.1 = scope.nameOf id ∧ e.2.spec.BelongsTo scope id := by
    intro e he
    obtain ⟨id, -, hkey, hstands⟩ := h e.1 e.2 (SortedMap.mem_entries_iff.1 he)
    exact ⟨id, hkey, hstands.spec⟩
  rw [discover, SortedMap.values, SortedMap.keys]
  generalize inv.entries = es at hall
  induction es with
  | nil => rfl
  | cons e es ih =>
    obtain ⟨id, hkey, hbelongs⟩ := hall e List.mem_cons_self
    have hrest := ih fun e' he' => hall e' (List.mem_cons_of_mem _ he')
    rw [List.map_cons, List.filter_cons_of_pos hbelongs.holds,
      List.filterMap_cons_some (by rw [hbelongs.owner?_eq]; rfl), List.map_cons, hrest,
      List.map_cons, hkey]

/-- No id is found twice. -/
theorem nodup_discover : ((inv.discover scope).map (·.id)).Nodup := by
  have hkeys := inv.nodup_keys
  rw [← h.map_nameOf_discover] at hkeys
  refine List.Nodup.of_map scope.nameOf ?_
  rwa [List.map_map]

/-- **A discovery finds each load balancer under the id of its ingress.** -/
theorem mem_discover_iff (hinj : P.InjOn scope.nameOf) {r : Resource} :
    r ∈ inv.discover scope ↔ ∃ id ∈ P, ∃ lb, inv.standing scope id = some lb ∧
      r = ⟨id, none, some lb.handle⟩ := by
  rw [mem_discover]
  constructor
  · rintro ⟨key, lb, hget, -, hid, hr⟩
    obtain ⟨owner, howner, rfl, hstands⟩ := h key lb hget
    have heq : owner = r.id := Option.some.inj (hstands.spec.owner?_eq.symm.trans hid)
    exact ⟨r.id, heq ▸ howner, lb, heq ▸ hget, hr⟩
  · rintro ⟨id, hid, lb, hlb, rfl⟩
    have hstands := h.standsFor hinj hid hlb
    exact ⟨_, lb, hlb, hstands.spec.holds, hstands.spec.owner?_eq, rfl⟩

end Sound

end Inventory

/-- What was discovered is live and asks for nothing. -/
theorem Resync.adopt_discover (inv : Inventory) (scope : Scope) :
    adopt (inv.discover scope) = Registry.ofList (inv.discover scope) := by
  have hall : ∀ r ∈ inv.discover scope, r.isLive = true ∧ r.toRemoval = r := by
    intro r hr
    obtain ⟨lb, -, hr⟩ := List.mem_filterMap.1 hr
    obtain ⟨id, -, rfl⟩ := Option.map_eq_some_iff.1 hr
    exact ⟨rfl, rfl⟩
  have hmap : (inv.discover scope).map Resource.toRemoval = inv.discover scope :=
    (List.map_congr_left fun r hr => (hall r hr).2).trans (List.map_id _)
  rw [adopt, List.filter_eq_self.2 fun r hr => (hall r hr).1, hmap]

end IngressBalancer
