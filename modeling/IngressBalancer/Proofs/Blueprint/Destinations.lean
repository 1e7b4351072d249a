import IngressBalancer.Blueprint.Build
import IngressBalancer.Proofs.Data.Keys
import IngressBalancer.Proofs.Data.Likes
/-!
# Where the backends of an ingress lead

In a steady view each backend leads to one destination, a port of a service
and the port of the nodes behind it, or to none (`Context.destination`). What
a build makes of the backends is told by their destinations. It comes upon the
faults of the ingress in one order (`Context.faults`) and stops at the first
of them; and the target groups that it has are those of the first destination
with each name (`Context.Drafts`). One backend keeps to this
(`resolve_cases`), and so do all (`resolveAll_cases`); so a build fails with
the first fault or yields a spec that these destinations tell
(`desiredSpec_cases`).
-/

namespace IngressBalancer

/-- A port of a service, and the port of the nodes behind it. -/
structure Destination where
  service : String
  port : Int32
  nodePort : Int32
deriving DecidableEq, Repr

/-- The port of the service alone. -/
def Destination.servicePort (d : Destination) : String × Int32 := (d.service, d.port)

namespace Ingress

/-- The default backend, if there is one. -/
def defaultBackend? (i : Ingress) : Option Backend := i.spec.bind (·.defaultBackend)

/-- The paths with their hosts, in the order of declaration. -/
def paths (i : Ingress) : List (Option String × IngressPath) :=
  (i.spec.map Blueprint.declaredPaths).getD []

/-- All backends: the default one, and then those of the paths. -/
def backends (i : Ingress) : List Backend :=
  i.defaultBackend?.toList ++ i.paths.map (·.2.backend)

/-- The routes, none where there is no spec. -/
def routes (i : Ingress) : List Blueprint.Route := (i.spec.map Blueprint.routes).getD []

end Ingress

namespace Blueprint

namespace Context

variable (ctx : Context) (i : Ingress)

/-- The service that an ingress refers to by a name. -/
def serviceOf? (name : String) : Option Service := ctx.view.service? ⟨i.id.nspace, name⟩ 0

/-- Where a backend leads, or why it leads nowhere. -/
def destination (backend : Backend) : Except LookupFault Destination :=
  match backend.service with
  | none => .error (.noServiceReference i.id)
  | some reference =>
    (nodePort ⟨i.id.nspace, reference.name⟩ (ctx.serviceOf? i reference.name) reference.port).map
      fun found => ⟨reference.name, found.1, found.2⟩

/-- The destinations of those backends that lead somewhere. -/
def destinations (backends : List Backend) : List Destination :=
  backends.filterMap fun backend => (ctx.destination i backend).toOption

/-- The name of the target group of a destination. -/
def groupName (d : Destination) : String := targetGroupName ctx.stem i.id d.service d.port

/-- The settings of the target groups of a service: what the annotations of the ingress give,
overlaid by those of the service. -/
def settingsFor (service : String) : Except Failure Annotations :=
  ctx.interpret i.id
    (i.annotations.union (((ctx.serviceOf? i service).bind (·.metadata.annotations)).getD ∅))

/-- The target group of a destination. -/
def group (d : Destination) (settings : Annotations) : TargetGroup where
  name := ctx.groupName i d
  serviceName := d.service
  servicePort := d.port
  nodePort := d.nodePort
  protocol := settings.backendProtocol
  healthCheckPath := settings.healthCheckPath
  healthCheckPort := settings.healthCheckPort
  successCodes := settings.successCodes

/-- Whether a target group is that of a destination. -/
def IsGroupOf (d : Destination) (g : TargetGroup) : Prop :=
  ∃ settings, ctx.settingsFor i d.service = .ok settings ∧ g = ctx.group i d settings

/-- What fails at a backend that comes after others: it leads nowhere, or leads to a target group
that none of the others leads to, and the annotations for this do not pass. -/
def fault? (before : List Backend) (backend : Backend) : Option Failure :=
  match ctx.destination i backend with
  | .error fault => some (.lookup fault)
  | .ok d =>
    if ctx.groupName i d ∈ (ctx.destinations i before).map (ctx.groupName i) then none
    else
      match ctx.settingsFor i d.service with
      | .error e => some e
      | .ok _ => none

/-- What fails at some backends, in their order, each after those before it. -/
def faultsFrom (before : List Backend) : List Backend → List Failure
  | [] => []
  | backend :: rest =>
    (ctx.fault? i before backend).toList ++ faultsFrom (before ++ [backend]) rest

/-- Whatever fails about an ingress: its own annotations, and after these its backends. -/
def faults : List Failure :=
  (match ctx.interpret i.id i.annotations with
    | .error e => [e]
    | .ok _ => []) ++ ctx.faultsFrom i [] i.backends

/-- Whether a draft has the target groups of some backends. -/
def Drafts (backends : List Backend) (draft : Draft) : Prop :=
  List.Forall₂ (ctx.IsGroupOf i) (firstsBy (ctx.groupName i) (ctx.destinations i backends))
    draft.groups

end Context

variable {ctx : Context} {i : Ingress} {backend : Backend} {before : List Backend}
variable {d d' : Destination} {draft : Draft} {g : TargetGroup}

/-- The name of a target group is that of the port of a service. -/
theorem Context.groupName_congr (h : d.servicePort = d'.servicePort) :
    ctx.groupName i d = ctx.groupName i d' := by
  obtain ⟨hservice, hport⟩ := Prod.mk.inj h
  rw [groupName, groupName, hservice, hport]

theorem Context.IsGroupOf.name_eq (h : ctx.IsGroupOf i d g) : g.name = ctx.groupName i d := by
  obtain ⟨settings, -, rfl⟩ := h
  rfl

theorem Context.mem_destinations {backends : List Backend} (hb : backend ∈ backends)
    (hd : ctx.destination i backend = .ok d) : d ∈ ctx.destinations i backends :=
  List.mem_filterMap.2 ⟨backend, hb, by rw [hd]; rfl⟩

theorem Context.destinations_cons {backends : List Backend}
    (h : ctx.destination i backend = .ok d) :
    ctx.destinations i (backend :: backends) = d :: ctx.destinations i backends :=
  List.filterMap_cons_some (by rw [h]; rfl)

theorem Context.destinations_append (backends backends' : List Backend) :
    ctx.destinations i (backends ++ backends') =
      ctx.destinations i backends ++ ctx.destinations i backends' :=
  List.filterMap_append

theorem Context.destinations_concat (h : ctx.destination i backend = .ok d) :
    ctx.destinations i (before ++ [backend]) = ctx.destinations i before ++ [d] := by
  rw [destinations_append, destinations_cons h]
  rfl

/-- The target groups of some destinations have their names. -/
theorem map_name_eq {ds : List Destination} {gs : List TargetGroup}
    (h : List.Forall₂ (ctx.IsGroupOf i) ds gs) : gs.map (·.name) = ds.map (ctx.groupName i) :=
  (map_eq_of_forall₂ h fun _ _ hg => hg.name_eq.symm).symm

/-- So a draft has a name exactly where a backend leads to it. -/
theorem Context.Drafts.any_iff (h : ctx.Drafts i before draft) (name : String) :
    draft.groups.any (·.name = name) = true ↔
      name ∈ (ctx.destinations i before).map (ctx.groupName i) := by
  rw [← List.mem_eraseDups, ← map_firstsBy, ← map_name_eq h, List.any_eq_true, List.mem_map]
  simp only [decide_eq_true_eq]

/-! ## One backend -/

/-- A look-up that leads to a port has found a service. -/
theorem exists_of_nodePort {service : ResourceId} {found : Option Service}
    {reference : Option PortReference} {p : Int32 × Int32}
    (h : nodePort service found reference = .ok p) : ∃ s, found = some s := by
  cases found with
  | none => cases h
  | some s => exact ⟨s, rfl⟩

/-- Where a backend leads to what the draft has, the draft has all that it needs. -/
theorem Context.Drafts.of_known (h : ctx.Drafts i before draft)
    (hd : ctx.destination i backend = .ok d)
    (hknown : ctx.groupName i d ∈ (ctx.destinations i before).map (ctx.groupName i)) :
    ctx.Drafts i (before ++ [backend]) draft := by
  rw [Drafts, destinations_concat hd, firstsBy_concat, if_pos hknown, List.append_nil]
  exact h

/-- Where it leads to something else, the draft needs one target group more. -/
theorem Context.Drafts.of_new (h : ctx.Drafts i before draft)
    (hd : ctx.destination i backend = .ok d)
    (hnew : ctx.groupName i d ∉ (ctx.destinations i before).map (ctx.groupName i))
    (hg : ctx.IsGroupOf i d g) :
    ctx.Drafts i (before ++ [backend]) { draft with groups := draft.groups ++ [g] } := by
  rw [Drafts, destinations_concat hd, firstsBy_concat, if_neg hnew]
  exact List.rel_append h (.cons hg .nil)

/-- What a backend comes to in a steady view, told by its destination. -/
theorem resolve_of_steady (hv : ctx.view.Steady) (backend : Backend) (draft : Draft) :
    resolve ctx i.id i.annotations backend draft =
      match ctx.destination i backend with
      | .error fault => .error (.lookup fault)
      | .ok d =>
        let service : ResourceId := ⟨i.id.nspace, d.service⟩
        if draft.groups.any (·.name = ctx.groupName i d) then
          .ok (ctx.groupName i d, { draft with asked := service :: draft.asked })
        else
          match ctx.settingsFor i d.service with
          | .error e => .error e
          | .ok settings => .ok (ctx.groupName i d, {
              groups := draft.groups ++ [ctx.group i d settings]
              asked := service :: service :: draft.asked }) := by
  have hask : ∀ service (draft : Draft), draft.ask ctx.view service =
      (ctx.view.service? service 0, { draft with asked := service :: draft.asked }) :=
    fun service draft => by rw [Draft.ask, hv]
  cases hservice : backend.service with
  | none => simp only [resolve, Context.destination, hservice]
  | some reference =>
    cases hport : nodePort ⟨i.id.nspace, reference.name⟩ (ctx.serviceOf? i reference.name)
        reference.port with
    | error fault =>
      simp only [resolve, Context.destination, hservice, hport, hask, Except.map]
      rw [Context.serviceOf?] at hport
      rw [hport]
    | ok found =>
      obtain ⟨s, hs⟩ := exists_of_nodePort hport
      have hsettings : ctx.settingsFor i reference.name =
          ctx.interpret i.id (i.annotations.union (s.metadata.annotations.getD ∅)) := by
        rw [Context.settingsFor, hs]
        rfl
      simp only [resolve, Context.destination, hservice, hport, hask, Except.map, hsettings]
      rw [Context.serviceOf?] at hport hs
      rw [hport, hs]
      rfl

/-- **One backend in a steady view**: it fails a build as it should, or leads to a name, and the
draft has the target group of its destination as well. -/
theorem resolve_cases (hv : ctx.view.Steady) (hdraft : ctx.Drafts i before draft)
    (backend : Backend) :
    (∃ e, resolve ctx i.id i.annotations backend draft = .error e ∧
      ctx.fault? i before backend = some e) ∨
    ∃ d draft', resolve ctx i.id i.annotations backend draft = .ok (ctx.groupName i d, draft') ∧
      ctx.destination i backend = .ok d ∧ ctx.fault? i before backend = none ∧
      ctx.Drafts i (before ++ [backend]) draft' := by
  rw [resolve_of_steady hv, Context.fault?]
  cases hd : ctx.destination i backend with
  | error fault => exact .inl ⟨_, rfl, rfl⟩
  | ok d =>
    dsimp only
    -- the draft has the name where a backend before this one leads to it
    have hany := hdraft.any_iff (ctx.groupName i d)
    by_cases hknown : ctx.groupName i d ∈ (ctx.destinations i before).map (ctx.groupName i)
    · rw [if_pos hknown, if_pos (hany.2 hknown)]
      exact .inr ⟨d, _, rfl, rfl, rfl, hdraft.of_known hd hknown⟩
    · rw [if_neg hknown, if_neg (mt hany.1 hknown)]
      cases hgiven : ctx.settingsFor i d.service with
      | error e => exact .inl ⟨e, rfl, rfl⟩
      | ok settings =>
        exact .inr ⟨d, _, rfl, rfl, rfl, hdraft.of_new hd hknown ⟨settings, hgiven, rfl⟩⟩

/-! ## All backends -/

/-- Whether a rule is what a route comes to: it keeps priority, host and path, and names the target
group that the backend leads to. -/
def Context.IsRuleOf (ctx : Context) (i : Ingress) (route : Route) (rule : Rule) : Prop :=
  ∃ d, ctx.destination i route.backend = .ok d ∧
    rule = ⟨route.priority, route.host, route.path, ctx.groupName i d⟩

/-- **All backends in a steady view**: the first fault fails the build, or every route has its rule,
and the draft the target groups of all. -/
theorem resolveAll_cases (hv : ctx.view.Steady) (routes : List Route)
    (hdraft : ctx.Drafts i before draft) :
    (∃ e, resolveAll ctx i.id i.annotations routes draft = .error e ∧
      (ctx.faultsFrom i before (routes.map (·.backend))).head? = some e) ∨
    ∃ rules draft', resolveAll ctx i.id i.annotations routes draft = .ok (rules, draft') ∧
      ctx.faultsFrom i before (routes.map (·.backend)) = [] ∧
      List.Forall₂ (ctx.IsRuleOf i) routes rules ∧
      ctx.Drafts i (before ++ routes.map (·.backend)) draft' := by
  -- `Drafts` is handed on from one backend to the next
  induction routes generalizing before draft with
  | nil => exact .inr ⟨[], draft, rfl, rfl, .nil, by rwa [List.map_nil, List.append_nil]⟩
  | cons route rest ih =>
    rw [List.map_cons, Context.faultsFrom, resolveAll]
    rcases resolve_cases hv hdraft route.backend with
      ⟨e, hresolve, hfault⟩ | ⟨d, next, hresolve, hd, hfault, hnext⟩ <;> rw [hresolve, hfault]
    · exact .inl ⟨e, rfl, rfl⟩
    · rcases ih hnext with
        ⟨e, hrest, hfirst⟩ | ⟨rules, last, hrest, hnone, hrules, hlast⟩ <;> dsimp only <;> rw [hrest]
      · exact .inl ⟨e, rfl, hfirst⟩
      · rw [List.append_assoc, List.singleton_append] at hlast
        exact .inr ⟨_, last, rfl, hnone, .cons ⟨d, hd, rfl⟩ hrules, hlast⟩

/-- The routes of an ingress lead to its backends. -/
theorem map_backend_routes (i : Ingress) : i.routes.map (·.backend) = i.backends := by
  rw [Ingress.routes, Ingress.backends, Ingress.defaultBackend?, Ingress.paths]
  cases i.spec with
  | none => rfl
  | some spec =>
    simp only [Option.map_some, Option.getD_some, Option.bind_some, routes, List.map_append,
      List.map_map]
    congr 1
    · exact List.map_id _
    · exact List.ext_getElem (by simp) fun n _ _ => by simp

/-- What there is to know about a spec that was built in a steady view: nothing was at fault, rules
and target groups come from the routes and the destinations of their backends, and all else comes
from what the annotations of the ingress give. -/
structure Context.Built (ctx : Context) (i : Ingress) (targets : List String) (spec : Spec) :
    Prop where
  faultless : ctx.faults i = []
  rules : List.Forall₂ (ctx.IsRuleOf i) i.routes spec.rules
  groups : List.Forall₂ (ctx.IsGroupOf i)
    (firstsBy (ctx.groupName i) (ctx.destinations i i.backends)) spec.targetGroups
  rest : ∃ settings, ctx.interpret i.id i.annotations = .ok settings ∧ spec = {
    loadBalancerName := loadBalancerName ctx.stem i.id
    scheme := settings.scheme
    subnets := settings.subnets
    securityGroups := settings.securityGroups
    listeners := settings.listenPorts.map (listener settings)
    targetGroups := spec.targetGroups
    rules := spec.rules
    targets := targets
    webAclId := settings.webAclId
    tags := ownedTags ctx.clusterName i.id settings.tags }

/-- **A build in a steady view** fails with the first fault, or yields a spec that is built as it
should be. -/
theorem desiredSpec_cases (hv : ctx.view.Steady) (i : Ingress) (targets : List String) :
    (∃ e, desiredSpec ctx i targets = .error e ∧ (ctx.faults i).head? = some e) ∨
    ∃ spec, desiredSpec ctx i targets = .ok spec ∧ ctx.Built i targets spec := by
  rw [desiredSpec, Context.faults]
  cases hgiven : ctx.interpret i.id i.annotations with
  | error e => exact .inl ⟨e, rfl, rfl⟩
  | ok settings =>
    dsimp only
    have hstart : ctx.Drafts i [] ⟨[], []⟩ := .nil
    rcases resolveAll_cases hv i.routes hstart with
      ⟨e, hrun, hfirst⟩ | ⟨rules, draft, hrun, hnone, hrules, hdraft⟩ <;>
      rw [Ingress.routes] at hrun <;> rw [hrun]
    · rw [map_backend_routes] at hfirst
      exact .inl ⟨e, rfl, hfirst⟩
    · rw [map_backend_routes] at hnone hdraft
      exact .inr ⟨_, rfl, by rw [Context.faults, hgiven, hnone]; rfl, hrules, hdraft,
        settings, hgiven, rfl⟩

/-- So what was built has no fault, and is built as it should be. -/
theorem built_of_eq_ok (hv : ctx.view.Steady) {targets : List String} {spec : Spec}
    (h : desiredSpec ctx i targets = .ok spec) : ctx.Built i targets spec := by
  rcases desiredSpec_cases hv i targets with ⟨e, herr, -⟩ | ⟨built, hok, hbuilt⟩
  · cases herr.symm.trans h
  · exact Except.ok.inj (hok.symm.trans h) ▸ hbuilt

/-- And a build fails exactly with the first fault. -/
theorem desiredSpec_eq_error_iff (hv : ctx.view.Steady) (targets : List String) (e : Failure) :
    desiredSpec ctx i targets = .error e ↔ (ctx.faults i).head? = some e := by
  rcases desiredSpec_cases hv i targets with ⟨e', herr, hfirst⟩ | ⟨spec, hok, hbuilt⟩
  · rw [herr, hfirst, Except.error.injEq, Option.some_inj]
  · rw [hok, hbuilt.faultless]
    exact ⟨nofun, nofun⟩

/-! ## When a build succeeds -/

/-- Whether nothing about an ingress fails: its own annotations pass, each backend leads somewhere,
and the annotations pass for the first destination with each name. -/
structure Context.Passes (ctx : Context) (i : Ingress) : Prop where
  own : ∃ settings, ctx.interpret i.id i.annotations = .ok settings
  backends : ∀ backend ∈ i.backends, ∃ d, ctx.destination i backend = .ok d
  services : ∀ d ∈ firstsBy (ctx.groupName i) (ctx.destinations i i.backends),
    ∃ settings, ctx.settingsFor i d.service = .ok settings

/-- A fault among those of some backends is that of one of them. -/
theorem Context.exists_of_mem_faultsFrom {backends : List Backend} {e : Failure}
    (h : e ∈ ctx.faultsFrom i before backends) : ∃ pre backend post,
      backends = pre ++ backend :: post ∧ ctx.fault? i (before ++ pre) backend = some e := by
  induction backends generalizing before with
  | nil => cases h
  | cons backend rest ih =>
    rcases List.mem_append.1 h with h | h
    · exact ⟨[], backend, rest, rfl, by rwa [List.append_nil, ← Option.mem_toList]⟩
    · obtain ⟨pre, later, post, rfl, hfault⟩ := ih h
      rw [List.append_assoc, List.singleton_append] at hfault
      exact ⟨backend :: pre, later, post, rfl, hfault⟩

/-- Where nothing fails there are no faults. -/
theorem Context.Passes.faults_eq_nil (h : ctx.Passes i) : ctx.faults i = [] := by
  obtain ⟨settings, hown⟩ := h.own
  rw [faults, hown]
  refine List.eq_nil_iff_forall_not_mem.2 fun e he => ?_
  obtain ⟨pre, backend, post, hsplit, hfault⟩ := exists_of_mem_faultsFrom he
  obtain ⟨d, hd⟩ := h.backends backend (by simp [hsplit])
  rw [List.nil_append, fault?, hd] at hfault
  dsimp only at hfault
  split at hfault
  · cases hfault
  · next hnew =>
    -- only a first destination with its name has its annotations read
    have hfirst : d ∈ firstsBy (ctx.groupName i) (ctx.destinations i i.backends) := by
      rw [hsplit, destinations_append, destinations_cons hd]
      exact mem_firstsBy_of_append hnew
    obtain ⟨settings, hgiven⟩ := h.services d hfirst
    rw [hgiven] at hfault
    cases hfault

/-- Nothing failed about what was built. -/
theorem Context.Built.passes {targets : List String} {spec : Spec}
    (h : ctx.Built i targets spec) : ctx.Passes i where
  own := h.rest.imp fun _ hread => hread.1
  backends backend hb := by
    rw [← map_backend_routes] at hb
    obtain ⟨route, hroute, rfl⟩ := List.mem_map.1 hb
    obtain ⟨rule, -, d, hd, -⟩ := exists_of_forall₂ h.rules hroute
    exact ⟨d, hd⟩
  services d hd := by
    obtain ⟨g, -, settings, hgiven, -⟩ := exists_of_forall₂ h.groups hd
    exact ⟨settings, hgiven⟩

/-- **A build in a steady view succeeds exactly where nothing fails.** -/
theorem exists_desiredSpec_iff (hv : ctx.view.Steady) (targets : List String) :
    (∃ spec, desiredSpec ctx i targets = .ok spec) ↔ ctx.Passes i := by
  refine ⟨fun ⟨spec, h⟩ => (built_of_eq_ok hv h).passes, fun hpasses => ?_⟩
  rcases desiredSpec_cases hv i targets with ⟨e, -, hfirst⟩ | ⟨spec, hok, -⟩
  · rw [hpasses.faults_eq_nil] at hfirst
    cases hfirst
  · exact ⟨spec, hok⟩

end Blueprint

end IngressBalancer
