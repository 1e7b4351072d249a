import IngressBalancer.Proofs.Blueprint.Names
import IngressBalancer.Proofs.Controller.Committed
import IngressBalancer.Proofs.Controller.Handles
import IngressBalancer.Proofs.Controller.Requests
import IngressBalancer.Proofs.Provider.Names
import IngressBalancer.Proofs.World.Surroundings
/-!
# Clusters side by side

Two controllers of two clusters at one provider. Stems that are derived from
long cluster names may coincide, and then the tags alone tell whose load
balancer it is. A spec has the tag of its own cluster, and that of another
one where the ingress asks for it as a tag of its own
(`Blueprint.contains_ownedTags_iff`). So a discovery for the other cluster
finds the load balancer exactly where the stems coincide and the ingress asks
for that tag; what is not found is neither adopted by a resync nor deleted by
the pass that follows (`discovered_iff_passesFor`).
-/

namespace IngressBalancer

namespace Blueprint

variable {cluster cluster' : String} {id : ResourceId}
variable {tags : SortedMap String String}

/-! ## Tags -/

theorem clusterTag_injective (h : clusterTag cluster = clusterTag cluster') :
    cluster = cluster' := by
  have hlist : ∀ name, (clusterTag name).toList =
      "kubernetes.io/cluster/".toList ++ name.toList := fun name => String.toList_append
  have hsame := congrArg String.toList h
  rw [hlist, hlist] at hsame
  exact String.toList_inj.1 (List.append_cancel_left hsame)

/-- **The tag of another cluster is there exactly where it was asked for.** -/
theorem contains_ownedTags_iff (hne : cluster ≠ cluster') :
    (ownedTags cluster id tags).contains (clusterTag cluster') = true ↔
      tags.contains (clusterTag cluster') = true := by
  obtain ⟨hspace, hname⟩ := clusterTag_ne cluster'
  have hother : clusterTag cluster' ≠ clusterTag cluster := fun h =>
    hne (clusterTag_injective h).symm
  rw [SortedMap.contains_eq_isSome, SortedMap.contains_eq_isSome, ownedTags,
    SortedMap.get?_insert_of_ne hname, SortedMap.get?_insert_of_ne hspace,
    SortedMap.get?_insert_of_ne hother]

end Blueprint

/-- Whether annotations ask for a tag. -/
def Annotations.AskForTag (annotations : SortedMap String String) (tag : String) : Prop :=
  ∃ tags, readOr annotations "tags" standard.tags readTags = .ok tags ∧ tags.contains tag = true

/-- Whether what one controller builds for an ingress passes for a load balancer of another one:
the stems coincide, and the ingress asks for the tag of the other cluster. -/
def Settings.PassesFor (A B : Settings) (i : Ingress) : Prop :=
  B.stem = A.stem ∧ Annotations.AskForTag i.annotations (Blueprint.clusterTag B.clusterName)

/-- Whether a discovery finds a load balancer with an address. -/
def Inventory.Finds (inv : Inventory) (scope : Scope) (arn : String) : Prop :=
  ∃ r ∈ inv.discover scope, ∃ handle, r.handle = some handle ∧ handle.arn = arn

section Discovery

variable {rawA rawB : RawSettings} {A B : Settings} {v : View} {i : Ingress} {spec : Spec}
variable {region : String} {inv : Inventory} {lb : LoadBalancer} {scope : Scope}

/-- A discovery finds a load balancer where the scope holds it and its tags name an ingress. -/
theorem Inventory.finds_iff (hinv : inv.Named region) {key : String}
    (hlb : inv.get? key = some lb) :
    inv.Finds scope lb.arn ↔ scope.holds lb = true ∧ lb.owner?.isSome = true := by
  constructor
  · rintro ⟨r, hr, handle, hhandle, harn⟩
    obtain ⟨key', lb', hlb', hholds, howner, hr'⟩ := mem_discover.1 hr
    rw [hr'] at hhandle
    cases hhandle
    obtain rfl : lb' = lb := hinv.eq_of_arn hlb' hlb harn
    exact ⟨hholds, by rw [howner]; rfl⟩
  · rintro ⟨hholds, howner⟩
    obtain ⟨id, hid⟩ := Option.isSome_iff_exists.1 howner
    exact ⟨⟨id, none, some lb.handle⟩, mem_discover.2 ⟨key, lb, hlb, hholds, hid, rfl⟩,
      lb.handle, rfl, rfl⟩

/-- **The scope of another cluster holds exactly what passes for one of its load balancers.** -/
theorem Scope.holds_iff_passesFor (hA : rawA.check = .ok A) (hB : rawB.check = .ok B)
    (hne : A.clusterName ≠ B.clusterName) (hspec : A.specOf v i = .ok lb.spec) :
    B.scope.holds lb = true ↔ A.PassesFor B i := by
  have hstemA := RawSettings.validate_of_check hA
  have hstemB := RawSettings.validate_of_check hB
  have hname : lb.spec.loadBalancerName = Blueprint.loadBalancerName A.stem i.id :=
    (Settings.belongsTo_of_specOf hspec).name
  obtain ⟨request, hrequest, -, htags⟩ := Settings.exists_request_of_specOf hspec
  have hasked : Annotations.AskForTag i.annotations (Blueprint.clusterTag B.clusterName) ↔
      request.tags.contains (Blueprint.clusterTag B.clusterName) = true := by
    constructor
    · rintro ⟨tags, hread, hcontains⟩
      rw [hrequest.tags] at hread
      cases hread
      exact hcontains
    · exact fun hcontains => ⟨request.tags, hrequest.tags, hcontains⟩
  rw [Settings.scope, Blueprint.holds_hashedName_iff hstemB hstemA hname, htags,
    Settings.PassesFor, hasked, Blueprint.contains_ownedTags_iff hne]

/-- **What is discovered for another cluster.** Take two controllers with accepted settings for two
clusters, and the spec that the one builds for an ingress, whatever its annotations. Where the
provider has a load balancer with this spec, in whatever way it came to that, a discovery for the
other cluster finds it exactly where it passes for one of that: the stems coincide and the ingress
asks for the tag of the other cluster. Where it does not, a resync of the other controller adopts
no handle of it, and no attempt of the pass that follows decides to delete it, for whatever view
and at whatever inventory by then. -/
theorem discovered_iff_passesFor (hA : rawA.check = .ok A) (hB : rawB.check = .ok B)
    (hne : A.clusterName ≠ B.clusterName) (hspec : A.specOf v i = .ok lb.spec)
    (hinv : Provider.Reaches region inv)
    (hlb : inv.get? lb.spec.loadBalancerName = some lb) :
    (inv.Finds B.scope lb.arn ↔ A.PassesFor B i) ∧
    (¬ A.PassesFor B i → ∀ state endedAt,
      let resynced := (Episode.resync (inv.discover B.scope) endedAt).commit B state
      (∀ id handle, resynced.registry.handle? id = some handle → handle.arn ≠ lb.arn) ∧
      ∀ view now, ∀ r ∈ (Flight.start B view resynced now).batch, ∀ inventory lb',
        Change.plan region inventory r = .delete lb' → lb'.arn ≠ lb.arn) := by
  have howner : lb.owner?.isSome = true := by
    rw [(Settings.belongsTo_of_specOf hspec).owner?_eq]
    rfl
  have hfound : inv.Finds B.scope lb.arn ↔ A.PassesFor B i := by
    rw [Inventory.finds_iff hinv.named hlb, Scope.holds_iff_passesFor hA hB hne hspec]
    exact and_iff_left howner
  refine ⟨hfound, ?_⟩
  intro hno state endedAt resynced
  have hadopted : ∀ id handle, resynced.registry.handle? id = some handle →
      handle.arn ≠ lb.arn := by
    intro id handle hhandle harn
    obtain ⟨_, hr, hlive⟩ := Option.bind_eq_some_iff.1 hhandle
    obtain ⟨r, hdiscovered, -, rfl, -⟩ := Resync.exists_of_get?_adopt hr
    exact hno (hfound.1 ⟨r, hdiscovered, handle, Resource.handle_of_liveHandle? hlive, harn⟩)
  refine ⟨hadopted, fun view now r hr inventory lb' hplan harn => ?_⟩
  obtain ⟨handle, hhandle, harn'⟩ := Option.map_eq_some_iff.1 (Inventory.arn_of_plan_delete hplan)
  rw [Flight.liveHandle?_of_mem_batch hr] at hhandle
  exact hadopted r.id handle hhandle (harn'.trans harn)

end Discovery

namespace Sample

/-- What is given for the clusters of one product, one for each part of the world. -/
def production (part : String) : RawSettings :=
  { RawSettings.standard with clusterName := "production-" ++ part }

/-- The settings that these are accepted as; all clusters get one stem. -/
def inProduction (part : String) : Settings :=
  { accepted with clusterName := "production-" ++ part, stem := "production" }

theorem check_production_eu : (production "eu").check = .ok (inProduction "eu") := by
  decide +kernel

theorem check_production_us : (production "us").check = .ok (inProduction "us") := by
  decide +kernel

/-- What the European cluster asks for on behalf of an ingress. -/
def specIn (i : Ingress) : Spec :=
  ((inProduction "eu").specOf shopView i).toOption.getD (specFor i.id "")

/-- A provider that has reconciled this, and nothing else. -/
def providerOf (i : Ingress) : Inventory :=
  (Provider.reconcile "us-east-1" ∅ ⟨i.id, some (specIn i), none⟩).inventory

theorem reaches_providerOf (i : Ingress) : Provider.Reaches "us-east-1" (providerOf i) :=
  .change .empty .empty ⟨i.id, some (specIn i), none⟩

/-- The load balancer in it. -/
def provided (i : Ingress) : LoadBalancer := Provider.provision "us-east-1" (specIn i)

theorem get?_providerOf (i : Ingress) :
    (providerOf i).get? (specIn i).loadBalancerName = some (provided i) :=
  SortedMap.get?_insert_self

/-- The shop, without annotations. -/
def plainShop : Ingress := ingress "default" "shop" "shop" 80

/-- The shop, with the tag of the American cluster among its annotations. -/
def strayShop : Ingress := shopAsking "tags" "kubernetes.io/cluster/production-us=shared"

end Sample

open Sample in
/-- The load balancer of a shop that asks for no tags is left alone by the American cluster, which
has the same stem. -/
theorem discovered_iff_passesFor_untagged :
    (inProduction "us").stem = (inProduction "eu").stem ∧
    (providerOf plainShop).get? (specIn plainShop).loadBalancerName = some (provided plainShop) ∧
    ¬ (providerOf plainShop).Finds (inProduction "us").scope (provided plainShop).arn ∧
    ∀ state endedAt, let resynced :=
        (Episode.resync ((providerOf plainShop).discover (inProduction "us").scope)
          endedAt).commit (inProduction "us") state
      ∀ view now, ∀ r ∈ (Flight.start (inProduction "us") view resynced now).batch,
        ∀ inventory lb', Change.plan "us-east-1" inventory r = .delete lb' →
          lb'.arn ≠ (provided plainShop).arn := by
  have hspec : (inProduction "eu").specOf shopView plainShop = .ok (provided plainShop).spec := rfl
  have huntagged : ¬ (inProduction "eu").PassesFor (inProduction "us") plainShop := by
    rintro ⟨-, tags, hread, hcontains⟩
    cases hread
    cases hcontains
  obtain ⟨hfound, hsafe⟩ := discovered_iff_passesFor check_production_eu check_production_us
    (by decide) hspec (reaches_providerOf plainShop) (get?_providerOf plainShop)
  exact ⟨rfl, get?_providerOf plainShop, fun h => huntagged (hfound.1 h),
    fun state endedAt => (hsafe huntagged state endedAt).2⟩

open Sample in
/-- **A load balancer that passes for one of another cluster.** The European shop asks for the tag
of the American cluster, so a discovery for that cluster finds its load balancer, and after a resync
the next pass there decides to delete it. -/
theorem stray_discovered :
    (production "eu").check = .ok (inProduction "eu") ∧
    (production "us").check = .ok (inProduction "us") ∧
    (inProduction "eu").clusterName ≠ (inProduction "us").clusterName ∧
    (inProduction "eu").specOf shopView strayShop = .ok (specIn strayShop) ∧
    (providerOf strayShop).get? (specIn strayShop).loadBalancerName = some (provided strayShop) ∧
    let discovered := (providerOf strayShop).discover (inProduction "us").scope
    discovered = [⟨shop, none, some (provided strayShop).handle⟩] ∧
    let resynced := (Episode.resync discovered 0).commit (inProduction "us") .initial
    (Flight.start (inProduction "us") .empty resynced 0).batch.map
      (Change.plan "us-east-1" (providerOf strayShop)) = [.delete (provided strayShop)] := by
  refine ⟨check_production_eu, check_production_us, by decide, rfl, get?_providerOf strayShop, ?_⟩
  decide +kernel

end IngressBalancer
