import IngressBalancer.Proofs.Annotations.Settings
import IngressBalancer.Proofs.Blueprint.Links
import IngressBalancer.Proofs.Provider.Inventory
/-!
# Specs that can be provisioned

Whatever the annotations of an ingress and of its services say, a spec that is
built from them can be provisioned (`Spec.Valid`): its listeners have ports and
the certificates they need, its target groups can be checked, and its tags tell
whose it is. What a service says decides about nothing but the protocol and the
checks of its own target groups (`Spec.SameButChecks`). Both are
`desiredSpec_valid`.
-/

namespace IngressBalancer

/-- Whether the spec of an ingress can be provisioned. -/
structure Spec.Valid (clusterName : String) (id : ResourceId) (spec : Spec) : Prop where
  listens : spec.listeners ≠ []
  ports : ∀ l ∈ spec.listeners, 1 ≤ l.port.toNat ∧ l.port.toNat ≤ 65535
  increasing : spec.listeners.Pairwise fun l l' => l.port ≤ l'.port
  https : ∀ l ∈ spec.listeners, l.protocol = .https →
    ∃ certificate, l.certificateArn = some certificate ∧ certificate ≠ ""
  http : ∀ l ∈ spec.listeners, l.protocol = .http → l.certificateArn = none ∧ l.sslPolicy = none
  subnets : ∀ s ∈ spec.subnets, Annotations.IsItem s
  securityGroups : ∀ s ∈ spec.securityGroups, Annotations.IsItem s
  healthCheckPath : ∀ g ∈ spec.targetGroups, Annotations.IsRooted g.healthCheckPath
  healthCheckPort : ∀ g ∈ spec.targetGroups, Annotations.IsCheckPort g.healthCheckPort
  keys : spec.tags.get? "" = none
  clusterTag : spec.tags.get? (Blueprint.clusterTag clusterName) = some "owned"
  namespaceTag : spec.tags.get? Blueprint.namespaceTag = some id.nspace
  nameTag : spec.tags.get? Blueprint.nameTag = some id.name

/-- Whether two target groups are the same but for the protocol and the check of their targets. -/
def TargetGroup.SameButChecks (g g' : TargetGroup) : Prop :=
  g' = { g with
    protocol := g'.protocol
    healthCheckPath := g'.healthCheckPath
    healthCheckPort := g'.healthCheckPort
    successCodes := g'.successCodes }

/-- Whether two specs are the same but for the checks of their target groups. -/
structure Spec.SameButChecks (spec spec' : Spec) : Prop where
  targetGroups : List.Forall₂ TargetGroup.SameButChecks spec.targetGroups spec'.targetGroups
  rest : spec' = { spec with targetGroups := spec'.targetGroups }

/-- Whether two views have the same config maps, and the same services but for what these say about
themselves. -/
structure View.SameButServices (v v' : View) : Prop where
  configMaps : v'.configMap? = v.configMap?
  services : ∀ id, (v'.service? id 0).map (·.spec) = (v.service? id 0).map (·.spec)

namespace Blueprint

variable {settings : Settings} {ctx : Context} {v v' : View} {i : Ingress}
variable {targets : List String} {spec spec' : Spec} {read : Annotations}

/-! ## Listeners -/

@[simp] theorem port_listener (p : Protocol × UInt16) : (listener read p).port = p.2 := by
  unfold listener
  split <;> rfl

@[simp] theorem protocol_listener (p : Protocol × UInt16) : (listener read p).protocol = p.1 := by
  unfold listener
  split <;> simp_all

/-- A listener has the certificate of the settings, where it is for HTTPS. -/
theorem certificateArn_listener {p : Protocol × UInt16} (h : p.1 = .https) :
    (listener read p).certificateArn = read.certificateArn := by
  rw [listener, h]

/-- And nothing of the kind where it is for HTTP. -/
theorem plain_listener {p : Protocol × UInt16} (h : p.1 = .http) :
    (listener read p).certificateArn = none ∧ (listener read p).sslPolicy = none := by
  rw [listener, h]
  exact ⟨rfl, rfl⟩

/-! ## Built specs -/

/-- No tag of an owner lacks a key, where none of those asked for does. -/
theorem get?_empty_ownedTags {tags : SortedMap String String} (h : tags.get? "" = none)
    (clusterName : String) (id : ResourceId) :
    (ownedTags clusterName id tags).get? "" = none := by
  have hcluster : "" ≠ clusterTag clusterName := fun hempty =>
    absurd (String.append_eq_empty_iff.1 hempty.symm).1 (by decide)
  have hspace : "" ≠ namespaceTag := by decide
  have hname : "" ≠ nameTag := by decide
  rw [ownedTags, SortedMap.get?_insert_of_ne hname, SortedMap.get?_insert_of_ne hspace,
    SortedMap.get?_insert_of_ne hcluster, h]

/-- The settings behind a target group are fit for use. -/
theorem Context.Built.exists_sound (h : (settings.context v).Built i targets spec)
    {g : TargetGroup} (hg : g ∈ spec.targetGroups) : ∃ (d : Destination) (read : Annotations),
      read.Sound ∧ g = (settings.context v).group i d read := by
  obtain ⟨d, -, read, hread, hgroup⟩ := exists_of_forall₂_right h.groups hg
  exact ⟨d, read, Annotations.sound_of_eq_ok hread, hgroup⟩

/-- **A built spec can be provisioned.** -/
theorem Context.Built.valid (h : (settings.context v).Built i targets spec) :
    spec.Valid settings.clusterName i.id := by
  obtain ⟨read, hread, hspec⟩ := h.rest
  have hsound := Annotations.sound_of_eq_ok hread
  have hlisteners : spec.listeners = read.listenPorts.map (listener read) := by rw [hspec]
  have htags : spec.tags = ownedTags settings.clusterName i.id read.tags := by
    rw [hspec]
    rfl
  have heach : ∀ l ∈ spec.listeners, ∃ p ∈ read.listenPorts, listener read p = l := by
    rw [hlisteners]
    exact fun l => List.mem_map.1
  obtain ⟨hnspace, hname, hcluster⟩ := get?_ownedTags settings.clusterName i.id read.tags
  exact {
    listens := by
      rw [hlisteners]
      exact mt List.map_eq_nil_iff.1 hsound.listenable.nonempty
    ports := fun l hl => by
      obtain ⟨p, hp, rfl⟩ := heach l hl
      rw [port_listener]
      have hne := hsound.listenable.nonzero p hp
      have hlt := p.2.toNat_lt
      rw [Ne, ← UInt16.toNat_inj] at hne
      exact ⟨Nat.pos_of_ne_zero hne, Nat.le_of_lt_succ hlt⟩
    increasing := by
      rw [hlisteners, List.pairwise_map]
      exact hsound.listenable.increasing.imp fun hle => by rwa [port_listener, port_listener]
    https := fun l hl hprotocol => by
      obtain ⟨p, hp, rfl⟩ := heach l hl
      rw [protocol_listener] at hprotocol
      rw [certificateArn_listener hprotocol]
      exact hsound.certified (List.any_eq_true.2 ⟨p, hp, decide_eq_true hprotocol⟩)
    http := fun l hl hprotocol => by
      obtain ⟨p, hp, rfl⟩ := heach l hl
      rw [protocol_listener] at hprotocol
      exact plain_listener hprotocol
    subnets := by
      rw [hspec]
      exact hsound.subnets
    securityGroups := by
      rw [hspec]
      exact hsound.securityGroups
    healthCheckPath := fun g hg => by
      obtain ⟨d, read, hsound, rfl⟩ := h.exists_sound hg
      exact hsound.healthCheckPath
    healthCheckPort := fun g hg => by
      obtain ⟨d, read, hsound, rfl⟩ := h.exists_sound hg
      exact hsound.healthCheckPort
    keys := htags ▸ get?_empty_ownedTags hsound.tags _ _
    clusterTag := htags ▸ hcluster
    namespaceTag := htags ▸ hnspace
    nameTag := htags ▸ hname }

/-! ## What services say -/

/-- The port that a look-up leads to is decided by the spec of the service alone. -/
theorem nodePort_congr {service : ResourceId} {found found' : Option Service}
    {reference : Option PortReference} (h : found'.map (·.spec) = found.map (·.spec)) :
    nodePort service found' reference = nodePort service found reference := by
  cases found with
  | none => rw [Option.map_eq_none_iff.1 h]
  | some s =>
    obtain ⟨s', rfl, hs⟩ := Option.map_eq_some_iff.1 h
    rw [nodePort, nodePort, hs]

/-- So backends lead to the same ports, whatever services say. -/
theorem destination_congr (h : v.SameButServices v') (backend : Backend) :
    (settings.context v').destination i backend = (settings.context v).destination i backend := by
  rw [Context.destination, Context.destination]
  cases backend.service with
  | none => rfl
  | some reference =>
    have hsame : ((settings.context v').serviceOf? i reference.name).map (·.spec) =
        ((settings.context v).serviceOf? i reference.name).map (·.spec) := h.services _
    dsimp only
    rw [nodePort_congr hsame]

theorem destinations_congr (h : v.SameButServices v') (backends : List Backend) :
    (settings.context v').destinations i backends =
      (settings.context v).destinations i backends :=
  List.filterMap_congr fun backend _ => by rw [destination_congr h]

/-- **What services say about themselves** decides about the checks of their target groups alone. -/
theorem Context.Built.sameButChecks (hbuilt : (settings.context v).Built i targets spec)
    (hbuilt' : (settings.context v').Built i targets spec') (h : v.SameButServices v') :
    spec.SameButChecks spec' := by
  -- both have the target groups of the same destinations, the rules of the same routes, and the
  -- settings of the same annotations
  have hgroups : List.Forall₂ TargetGroup.SameButChecks spec.targetGroups spec'.targetGroups := by
    have hgroups' := hbuilt'.groups
    rw [destinations_congr h] at hgroups'
    refine forall₂_of_common hbuilt.groups hgroups' fun d g g' hg hg' => ?_
    obtain ⟨read, -, rfl⟩ := hg
    obtain ⟨read', -, rfl⟩ := hg'
    rfl
  have hrules : spec.rules = spec'.rules := by
    rw [← List.forall₂_eq_eq_eq]
    refine forall₂_of_common hbuilt.rules hbuilt'.rules fun route rule rule' hr hr' => ?_
    obtain ⟨d, hd, rfl⟩ := hr
    obtain ⟨d', hd', rfl⟩ := hr'
    rw [destination_congr h] at hd'
    cases hd.symm.trans hd'
    rfl
  obtain ⟨read, hread, hspec⟩ := hbuilt.rest
  obtain ⟨read', hread', hspec'⟩ := hbuilt'.rest
  have hsame : (settings.context v').interpret = (settings.context v).interpret := by
    rw [Settings.context, Settings.context, h.configMaps]
  rw [hsame] at hread'
  cases hread.symm.trans hread'
  refine ⟨hgroups, ?_⟩
  rw [hspec', hspec, hrules]
  rfl

/-- **Built specs can be provisioned**, whatever the annotations of the ingress and its services
say; and what the services say decides about nothing but the protocol and the checks of target
groups. -/
theorem desiredSpec_valid (hv : v.Steady)
    (h : desiredSpec (settings.context v) i targets = .ok spec) :
    spec.Valid settings.clusterName i.id ∧
    ∀ v' spec', v'.Steady → v.SameButServices v' →
      desiredSpec (settings.context v') i targets = .ok spec' → spec.SameButChecks spec' :=
  ⟨(built_of_eq_ok hv h).valid, fun _ _ hv' hsame h' =>
    (built_of_eq_ok hv h).sameButChecks (built_of_eq_ok hv' h') hsame⟩

end Blueprint

namespace Sample

/-- Annotations with some settings. -/
def annotated (settings : List (String × String)) : SortedMap String String :=
  SortedMap.ofList (settings.map fun s => (Annotations.key s.1, s.2))

/-- The shop, with what it says about itself. -/
def shopSaying (settings : List (String × String)) : Service :=
  let plain := nodePortService "default" "shop" 80 30080
  { plain with metadata := { plain.metadata with annotations := some (annotated settings) } }

/-- An ingress for the shop that asks for HTTPS, and for a tag of another owner. -/
def listening : Ingress :=
  let plain := ingress "default" "shop" "shop" 80
  { plain with metadata := { plain.metadata with annotations := some (annotated [
      ("listen-ports", "[\x7b\"HTTPS\": 443\x7d]"),
      ("certificate-arn", " arn:aws:acm:us-east-1:1:certificate/1 "),
      ("tags", "kubernetes.io/namespace=other,team=web")]) } }

theorem sameButServices_shopSaying (said said' : List (String × String)) :
    (serving [shopSaying said]).view.SameButServices (serving [shopSaying said']).view where
  configMaps := rfl
  services id := by
    have hget : ∀ said, ((serving [shopSaying said]).view.service? id 0).map (·.spec) =
        if id = ⟨"default", "shop"⟩ then some (shopSaying []).spec else none := by
      intro said
      have hview : (serving [shopSaying said]).view.service? id 0 =
          (SortedMap.insert ∅ ⟨"default", "shop"⟩ (shopSaying said)).get? id := rfl
      rw [hview, SortedMap.get?_insert_eq]
      split <;> rfl
    rw [hget, hget]

end Sample

namespace Blueprint

open Sample in
/-- What the shop says comes into its target group, and nothing else changes. -/
theorem desiredSpec_valid_listening :
    let v := (serving [shopSaying []]).view
    let v' := (serving [shopSaying [("healthcheck-path", "/health")]]).view
    v.Steady ∧ v'.Steady ∧ v.SameButServices v' ∧ ∃ spec spec',
      desiredSpec (accepted.context v) listening [] = .ok spec ∧
      desiredSpec (accepted.context v') listening [] = .ok spec' ∧
      spec.Valid "prod" listening.id ∧ spec.SameButChecks spec' ∧
      spec.listeners.map (·.port) = [443] ∧
      spec'.targetGroups.map (·.healthCheckPath) = ["/health"] := by
  intro v v'
  have hsame : v.SameButServices v' := sameButServices_shopSaying _ _
  have hsome : (desiredSpec (accepted.context v) listening []).toOption.map
      (·.listeners.map (·.port)) = some [443] := by decide +kernel
  have hsome' : (desiredSpec (accepted.context v') listening []).toOption.map
      (·.targetGroups.map (·.healthCheckPath)) = some ["/health"] := by decide +kernel
  obtain ⟨spec, hspec, hports⟩ := Except.exists_of_toOption_map hsome
  obtain ⟨spec', hspec', hpaths⟩ := Except.exists_of_toOption_map hsome'
  obtain ⟨hvalid, hothers⟩ := desiredSpec_valid (steady_serving _) hspec
  exact ⟨steady_serving _, steady_serving _, hsame, spec, spec', hspec, hspec', hvalid,
    hothers v' spec' (steady_serving _) hsame hspec', hports, hpaths⟩

end Blueprint

end IngressBalancer
