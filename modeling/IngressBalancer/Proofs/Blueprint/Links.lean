import IngressBalancer.Controller.DesiredSet
import IngressBalancer.Proofs.Blueprint.Destinations
import IngressBalancer.Proofs.Data.Results
import IngressBalancer.World.Sample
/-!
# The links within a spec

The rules of a spec refer to its target groups by name. In a spec that was
built in a steady view every reference has its target group, and every target
group is referred to; the rules follow the declarations, numbered without a
gap; and rules share a target group where their backends lead to one port of
one service (`Context.Linked`). A build fails with the first fault that there
is, and otherwise yields such a spec (`desiredSpec_links`).
-/

namespace IngressBalancer

/-- What the rules of an ingress say apart from where they lead: the default backend is for every
host and path and has priority zero; the paths come with their hosts and priorities from one. -/
def Ingress.headings (i : Ingress) : List (Nat × Option String × Option String) :=
  (i.defaultBackend?.toList.map fun _ => (0, none, none)) ++
    i.paths.mapIdx fun n p => (n + 1, p.1, p.2.path)

namespace Blueprint

namespace Context

variable (ctx : Context) (i : Ingress)

/-- Whether two backends lead to one port of one service. -/
def SamePort (backend backend' : Backend) : Prop :=
  ∃ d d', ctx.destination i backend = .ok d ∧ ctx.destination i backend' = .ok d' ∧
    d.servicePort = d'.servicePort

/-- Whether the names of target groups tell apart all ports that an ingress leads to. -/
def NamesApart : Prop :=
  ∀ d ∈ ctx.destinations i i.backends, ∀ d' ∈ ctx.destinations i i.backends,
    ctx.groupName i d = ctx.groupName i d' → d.servicePort = d'.servicePort

/-- Whether a rule names the target group of where a backend leads. -/
def Routes (backend : Backend) (rule : Rule) : Prop :=
  ∃ d, ctx.destination i backend = .ok d ∧ rule.targetGroup = ctx.groupName i d

/-- Whether a spec is well linked, as the spec of an ingress. -/
structure Linked (spec : Spec) : Prop where
  nodup : (spec.targetGroups.map (·.name)).Nodup
  named : ∀ rule ∈ spec.rules, ∃ g ∈ spec.targetGroups, g.name = rule.targetGroup
  used : ∀ g ∈ spec.targetGroups, ∃ rule ∈ spec.rules, rule.targetGroup = g.name
  /-- The target groups stand in the order in which the rules first name them. -/
  order : spec.targetGroups.map (·.name) = (spec.rules.map (·.targetGroup)).eraseDups
  headings : spec.rules.map (fun rule => (rule.priority.toNat, rule.host, rule.path)) = i.headings
  /-- Each backend has its rule. -/
  routed : List.Forall₂ (ctx.Routes i) i.backends spec.rules
  shared : ∀ p ∈ i.backends.zip spec.rules, ∀ q ∈ i.backends.zip spec.rules,
    ctx.SamePort i p.1 q.1 → p.2.targetGroup = q.2.targetGroup
  separate : ctx.NamesApart i → ∀ p ∈ i.backends.zip spec.rules, ∀ q ∈ i.backends.zip spec.rules,
    p.2.targetGroup = q.2.targetGroup → ctx.SamePort i p.1 q.1

end Context

variable {ctx : Context} {i : Ingress} {targets : List String} {spec : Spec}
variable {backend backend' : Backend} {rule rule' : Rule}

/-! ## Rules and their target groups -/

/-- Rules name the target groups of where their backends lead, one after the other. -/
theorem map_targetGroup_eq {backends : List Backend} {rules : List Rule}
    (h : List.Forall₂ (ctx.Routes i) backends rules) :
    rules.map (·.targetGroup) = (ctx.destinations i backends).map (ctx.groupName i) := by
  induction h with
  | nil => rfl
  | @cons backend rule _ _ hrule _ ih =>
    obtain ⟨d, hd, hname⟩ := hrule
    rw [List.map_cons, ih, hname, Context.destinations_cons hd, List.map_cons]

/-- Each backend has its rule. -/
theorem Context.Built.routed (h : ctx.Built i targets spec) :
    List.Forall₂ (ctx.Routes i) i.backends spec.rules := by
  rw [← map_backend_routes, List.forall₂_map_left_iff]
  exact h.rules.imp fun route rule ⟨d, hd, hrule⟩ => ⟨d, hd, by rw [hrule]⟩

/-- The names of the target groups are those in the rules, in the order in which these come. -/
theorem Context.Built.order (h : ctx.Built i targets spec) :
    spec.targetGroups.map (·.name) = (spec.rules.map (·.targetGroup)).eraseDups := by
  rw [map_name_eq h.groups, map_firstsBy, map_targetGroup_eq h.routed]

/-- Backends that lead to one port have rules with one target group. -/
theorem Context.Routes.eq_of_samePort (hr : ctx.Routes i backend rule)
    (hr' : ctx.Routes i backend' rule') (h : ctx.SamePort i backend backend') :
    rule.targetGroup = rule'.targetGroup := by
  obtain ⟨d, hd, hname⟩ := hr
  obtain ⟨d', hd', hname'⟩ := hr'
  obtain ⟨_, _, he, he', hsame⟩ := h
  cases hd.symm.trans he
  cases hd'.symm.trans he'
  rw [hname, hname', Context.groupName_congr hsame]

/-- And no others do, where names tell ports apart. -/
theorem Context.Routes.samePort_of_eq (hr : ctx.Routes i backend rule) (hapart : ctx.NamesApart i)
    (hb : backend ∈ i.backends) (hb' : backend' ∈ i.backends) (hr' : ctx.Routes i backend' rule') (h : rule.targetGroup = rule'.targetGroup) :
    ctx.SamePort i backend backend' := by
  obtain ⟨d, hd, hname⟩ := hr
  obtain ⟨d', hd', hname'⟩ := hr'
  exact ⟨d, d', hd, hd', hapart d (Context.mem_destinations hb hd) d'
    (Context.mem_destinations hb' hd') (hname.symm.trans (h.trans hname'))⟩

/-! ## The numbers of the rules -/

/-- The priorities do not wrap around while there are fewer paths than numbers. -/
theorem headings_routes (hlen : i.paths.length < UInt32.size) :
    i.routes.map (fun route => (route.priority.toNat, route.host, route.path)) = i.headings := by
  rw [Ingress.headings, Ingress.routes, Ingress.defaultBackend?]
  rw [Ingress.paths] at hlen ⊢
  cases hspec : i.spec with
  | none => rfl
  | some s =>
    rw [hspec, Option.map_some, Option.getD_some] at hlen
    simp only [Option.map_some, Option.getD_some, Option.bind_some, routes, List.map_append,
      List.map_map]
    congr 1
    -- the default route is as it should be; the paths are compared number by number
    refine List.ext_getElem (by simp) fun n hn _ => ?_
    have hsmall : (UInt32.ofNat (n + 1)).toNat = n + 1 :=
      UInt32.toNat_ofNat_of_lt' (by rw [List.length_map, List.length_mapIdx] at hn; omega)
    simp only [List.getElem_map, List.getElem_mapIdx, hsmall]

theorem Context.Built.headings (h : ctx.Built i targets spec)
    (hlen : i.paths.length < UInt32.size) :
    spec.rules.map (fun rule => (rule.priority.toNat, rule.host, rule.path)) = i.headings := by
  rw [← headings_routes hlen]
  exact (map_eq_of_forall₂ h.rules fun route rule ⟨d, _, hrule⟩ => by rw [hrule]).symm

/-! ## Built specs -/

/-- **A spec that was built in a steady view is well linked.** -/
theorem Context.Built.linked (h : ctx.Built i targets spec) (hlen : i.paths.length < UInt32.size) :
    ctx.Linked i spec where
  nodup := by
    rw [map_name_eq h.groups]
    exact nodup_map_firstsBy _ _
  named rule hrule := by
    have hmem : rule.targetGroup ∈ spec.targetGroups.map (·.name) := by
      rw [h.order, List.mem_eraseDups]
      exact List.mem_map_of_mem hrule
    exact List.mem_map.1 hmem
  used g hg := by
    have hmem : g.name ∈ spec.rules.map (·.targetGroup) := by
      rw [← List.mem_eraseDups, ← h.order]
      exact List.mem_map_of_mem hg
    exact List.mem_map.1 hmem
  order := h.order
  headings := h.headings hlen
  routed := h.routed
  shared p hp q hq := by
    obtain ⟨-, hroutes⟩ := List.forall₂_iff_zip.1 h.routed
    exact (hroutes hp).eq_of_samePort (hroutes hq)
  separate hapart p hp q hq := by
    obtain ⟨-, hroutes⟩ := List.forall₂_iff_zip.1 h.routed
    exact (hroutes hp).samePort_of_eq hapart (List.of_mem_zip hp).1 (List.of_mem_zip hq).1
      (hroutes hq)

/-- **A build in a steady view links well or fails**: what it yields is well linked; it yields
something exactly where nothing about the ingress fails; and else it fails with the first of the
faults. -/
theorem desiredSpec_links (hv : ctx.view.Steady) (hlen : i.paths.length < UInt32.size)
    (targets : List String) :
    (∀ spec, desiredSpec ctx i targets = .ok spec → ctx.Linked i spec) ∧
    ((∃ spec, desiredSpec ctx i targets = .ok spec) ↔ ctx.Passes i) ∧
    ∀ e, desiredSpec ctx i targets = .error e ↔ (ctx.faults i).head? = some e :=
  ⟨fun _ h => (built_of_eq_ok hv h).linked hlen, exists_desiredSpec_iff hv targets,
    desiredSpec_eq_error_iff hv targets⟩

end Blueprint

namespace Sample

/-- A port of a service, by its number. -/
def toPort (service : String) (port : Int32) : Backend := ⟨some ⟨service, some ⟨some port, none⟩⟩⟩

/-- A port of a service, by its name. -/
def toPortNamed (service port : String) : Backend := ⟨some ⟨service, some ⟨none, some port⟩⟩⟩

/-- The ingress of the shop with a default backend and some paths of one host. -/
def branching (defaultBackend : Option Backend) (paths : List (String × Backend)) : Ingress :=
  let plain := ingress "default" "shop" "shop" 80
  { plain with spec := some {
      className := none
      defaultBackend := defaultBackend
      rules := [⟨some "shop.example.com", some (paths.map fun p => ⟨some p.1, p.2⟩)⟩] } }

/-- What specs are built with in the sample cluster, where there are some services. -/
def serving (services : List Service) : Blueprint.Context :=
  accepted.context ((∅ : Objects).applyAll (services.map .service)).view

theorem steady_serving (services : List Service) : (serving services).view.Steady :=
  Objects.steady_view _

end Sample

namespace Blueprint

open Sample in
/-- The default backend and the first path of an ingress lead to one port, which the one names and
the other numbers; so its three rules have two target groups. -/
theorem desiredSpec_links_branching :
    let ctx := serving
      [nodePortService "default" "shop" 80 30080, nodePortService "default" "stock" 8080 30081]
    let i := branching (some (toPortNamed "shop" "http"))
      [("/", toPort "shop" 80), ("/stock", toPort "stock" 8080)]
    ctx.view.Steady ∧ i.paths.length < UInt32.size ∧ ∃ spec, desiredSpec ctx i [] = .ok spec ∧
      ctx.Linked i spec ∧ spec.targetGroups.length = 2 ∧ spec.rules.length = 3 := by
  intro ctx i
  have hv : ctx.view.Steady := steady_serving _
  have hlen : i.paths.length < UInt32.size := by decide
  have hsome : (desiredSpec ctx i []).toOption.map
      (fun spec => (spec.targetGroups.length, spec.rules.length)) = some (2, 3) := by decide +kernel
  obtain ⟨spec, hspec, hcounts⟩ := Except.exists_of_toOption_map hsome
  obtain ⟨hgroups, hrules⟩ := Prod.mk.inj hcounts
  exact ⟨hv, hlen, spec, hspec, (desiredSpec_links hv hlen []).1 spec hspec, hgroups, hrules⟩

end Blueprint

end IngressBalancer
