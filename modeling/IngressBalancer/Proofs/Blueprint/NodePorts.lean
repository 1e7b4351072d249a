import IngressBalancer.Proofs.Blueprint.Links
import Mathlib.Data.List.Find
/-!
# The node ports behind rules

A rule leads to a port of a service, and to a port of the nodes behind it. Two
backends may name one port of a service and mean two node ports, where a
service opens that port twice. Then their rules share the target group of the
first of them, and both lead to its node port (`desiredSpec_nodePorts`); each
rule leads to its own exactly where this does not happen.
-/

namespace IngressBalancer

/-- The target group that a rule refers to. -/
def Spec.groupOf? (spec : Spec) (rule : Rule) : Option TargetGroup :=
  spec.targetGroups.find? (·.name = rule.targetGroup)

/-- Whether the ports of a service that have one number have one node port. -/
def Service.OpensOnce (s : Service) : Prop :=
  ∀ spec, s.spec = some spec → ∀ p ∈ spec.ports, ∀ q ∈ spec.ports,
    p.port = q.port → p.nodePort = q.nodePort

namespace Blueprint

namespace Context

variable (ctx : Context) (i : Ingress)

/-- The first destination of an ingress with the same port of a service. -/
def firstWith? (d : Destination) : Option Destination :=
  (ctx.destinations i i.backends).find? (·.servicePort = d.servicePort)

/-- Whether a rule leads from a backend to the service and port that it names, and to the node port
of the first backend that names them. -/
def LeadsToFirst (spec : Spec) (backend : Backend) (rule : Rule) : Prop :=
  ∃ d first g, ctx.destination i backend = .ok d ∧ ctx.firstWith? i d = some first ∧
    spec.groupOf? rule = some g ∧ g.serviceName = d.service ∧ g.servicePort = d.port ∧
    g.nodePort = first.nodePort

/-- Whether a rule leads from a backend to the service, port and node port that it names. -/
def LeadsRight (spec : Spec) (backend : Backend) (rule : Rule) : Prop :=
  ∃ d g, ctx.destination i backend = .ok d ∧ spec.groupOf? rule = some g ∧
    g.serviceName = d.service ∧ g.servicePort = d.port ∧ g.nodePort = d.nodePort

/-- Whether no two backends name one port and mean two node ports. -/
def PortsAgree : Prop :=
  ∀ d ∈ ctx.destinations i i.backends, ∀ d' ∈ ctx.destinations i i.backends,
    d.servicePort = d'.servicePort → d.nodePort = d'.nodePort

end Context

variable {ctx : Context} {i : Ingress} {targets : List String} {spec : Spec}
variable {backend : Backend} {rule : Rule} {d first : Destination}

/-- The target group of a rule is that of the first destination with its name. -/
theorem Context.Built.groupOf? (h : ctx.Built i targets spec) (rule : Rule) :
    Option.Rel (ctx.IsGroupOf i)
      ((ctx.destinations i i.backends).find? (ctx.groupName i · = rule.targetGroup))
      (spec.groupOf? rule) := by
  rw [← find?_firstsBy]
  exact find?_of_forall₂ h.groups fun d g hg => by rw [hg.name_eq]

/-- Where a backend leads, some backend leads there first. -/
theorem Context.exists_firstWith? (hd : d ∈ ctx.destinations i i.backends) :
    ∃ first, ctx.firstWith? i d = some first :=
  Option.isSome_iff_exists.1 (List.find?_isSome.2 ⟨d, hd, by simp⟩)

theorem Context.firstWith?_eq_some (h : ctx.firstWith? i d = some first) :
    first ∈ ctx.destinations i i.backends ∧ first.servicePort = d.servicePort :=
  ⟨List.mem_of_find?_eq_some h, by simpa using List.find?_some h⟩

/-- Where names tell ports apart, the first destination with a name is the first with a port. -/
theorem Context.NamesApart.find?_eq (hapart : ctx.NamesApart i)
    (hd : d ∈ ctx.destinations i i.backends) :
    (ctx.destinations i i.backends).find? (ctx.groupName i · = ctx.groupName i d) =
      ctx.firstWith? i d :=
  List.find?_congr fun e he => decide_eq_decide.2 ⟨hapart e he d hd, groupName_congr⟩

/-- A rule leads to the first with its port. -/
theorem Context.Built.leadsToFirst (h : ctx.Built i targets spec) (hapart : ctx.NamesApart i)
    (hb : backend ∈ i.backends) (hr : ctx.Routes i backend rule) :
    ctx.LeadsToFirst i spec backend rule := by
  obtain ⟨d, hd, hname⟩ := hr
  have hmem := mem_destinations hb hd
  have hrel := h.groupOf? rule
  -- found by its name, the target group is that of the first with the port
  rw [hname, hapart.find?_eq hmem] at hrel
  obtain ⟨first, hfirst⟩ := exists_firstWith? hmem
  rw [hfirst] at hrel
  generalize hg : spec.groupOf? rule = found at hrel
  cases hrel with
  | some hgroup =>
    obtain ⟨settings, -, rfl⟩ := hgroup
    obtain ⟨hservice, hport⟩ := Prod.mk.inj (firstWith?_eq_some hfirst).2
    exact ⟨d, first, _, hd, hfirst, hg, hservice, hport, rfl⟩

/-- **All rules lead to the first with their ports.** -/
theorem Context.Built.leadToFirst (h : ctx.Built i targets spec) (hapart : ctx.NamesApart i) :
    List.Forall₂ (ctx.LeadsToFirst i spec) i.backends spec.rules := by
  obtain ⟨hlen, hroutes⟩ := List.forall₂_iff_zip.1 h.routed
  exact List.forall₂_iff_zip.2 ⟨hlen, fun hp =>
    h.leadsToFirst hapart (List.of_mem_zip hp).1 (hroutes hp)⟩

/-- All lead to the node ports that their backends mean, where these are those of the first. -/
theorem leadsRight_iff {backends : List Backend} {rules : List Rule}
    (h : List.Forall₂ (ctx.LeadsToFirst i spec) backends rules) :
    List.Forall₂ (ctx.LeadsRight i spec) backends rules ↔
      ∀ d ∈ ctx.destinations i backends, ∀ first, ctx.firstWith? i d = some first →
        first.nodePort = d.nodePort := by
  induction h with
  | nil => exact ⟨fun _ _ hd => absurd hd List.not_mem_nil, fun _ => .nil⟩
  | @cons backend rule _ _ hlead _ ih =>
    obtain ⟨d, first, g, hd, hfirst, hg, hservice, hport, hnode⟩ := hlead
    rw [List.forall₂_cons, ih, Context.destinations_cons hd, List.forall_mem_cons]
    refine and_congr_left' ⟨?_, fun hsame => ?_⟩
    · rintro ⟨_, _, hd', hg', -, -, hright⟩ _ hfirst'
      cases hd.symm.trans hd'
      cases hg.symm.trans hg'
      cases hfirst.symm.trans hfirst'
      exact hnode.symm.trans hright
    · exact ⟨d, g, hd, hg, hservice, hport, hnode.trans (hsame first hfirst)⟩

/-! ## Where all rules lead right -/

/-- The first with each port mean the node ports of all, where no two backends name one port and
mean two. -/
theorem Context.portsAgree_iff : ctx.PortsAgree i ↔
    ∀ d ∈ ctx.destinations i i.backends, ∀ first, ctx.firstWith? i d = some first →
      first.nodePort = d.nodePort := by
  constructor
  · intro hagree d hd first hfirst
    obtain ⟨hmem, hsame⟩ := firstWith?_eq_some hfirst
    exact hagree first hmem d hd hsame
  · intro hfirsts d hd d' hd' hsame
    obtain ⟨first, hfirst⟩ := exists_firstWith? hd
    have hfirst' : ctx.firstWith? i d' = some first := by
      rw [← hfirst, firstWith?, ← hsame, firstWith?]
    exact (hfirsts d hd first hfirst).symm.trans (hfirsts d' hd' first hfirst')

/-- Each destination is that of a backend. -/
theorem Context.exists_of_mem_destinations {backends : List Backend}
    (h : d ∈ ctx.destinations i backends) : ∃ backend ∈ backends, ctx.destination i backend = .ok d := by
  obtain ⟨backend, hb, hd⟩ := List.mem_filterMap.1 h
  cases hdest : ctx.destination i backend with
  | error e => rw [hdest] at hd; cases hd
  | ok e => rw [hdest] at hd; cases hd; exact ⟨backend, hb, hdest⟩

/-- A destination is a port of its service. -/
theorem Context.exists_port (h : ctx.destination i backend = .ok d) :
    ∃ s spec, ctx.serviceOf? i d.service = some s ∧ s.spec = some spec ∧
      ∃ p ∈ spec.ports, p.port = d.port ∧ p.nodePort = some d.nodePort := by
  rw [destination] at h
  split at h
  · cases h
  · next reference _ =>
    cases hport : nodePort ⟨i.id.nspace, reference.name⟩ (ctx.serviceOf? i reference.name)
        reference.port with
    | error fault => rw [hport] at h; cases h
    | ok found =>
      rw [hport] at h
      cases h
      unfold nodePort at hport
      split at hport
      · cases hport
      · next s hs =>
        split at hport
        · cases hport
        · next spec hspec =>
          split at hport
          · split at hport
            · next name port node hfind =>
              cases hport
              exact ⟨s, spec, hs, hspec, _, List.mem_of_find?_eq_some hfind, rfl, rfl⟩
            · cases hport
          · cases hport

/-- Services that open each port once mean one node port by it. -/
theorem Context.portsAgree_of_opensOnce
    (h : ∀ name s, ctx.serviceOf? i name = some s → s.OpensOnce) : ctx.PortsAgree i := by
  intro d hd d' hd' hsame
  obtain ⟨hservice, hport⟩ := Prod.mk.inj hsame
  obtain ⟨_, -, hdest⟩ := exists_of_mem_destinations hd
  obtain ⟨_, -, hdest'⟩ := exists_of_mem_destinations hd'
  obtain ⟨s, spec, hs, hspec, p, hp, hpport, hpnode⟩ := exists_port hdest
  obtain ⟨_, _, hs', hspec', q, hq, hqport, hqnode⟩ := exists_port hdest'
  cases hs.symm.trans (hservice ▸ hs')
  cases hspec.symm.trans hspec'
  have hnode := h _ s hs spec hspec p hp q hq (hpport.trans (hport.trans hqport.symm))
  exact Option.some.inj (hpnode.symm.trans (hnode.trans hqnode))

/-- **The node ports behind rules**: each rule leads from its backend to the service and port that
the backend names, and to the node port of the first backend that names them; so all rules lead to
their own exactly where no two backends name one port and mean two node ports, as they cannot
while services open each port once. -/
theorem desiredSpec_nodePorts (hv : ctx.view.Steady) (hapart : ctx.NamesApart i)
    (h : desiredSpec ctx i targets = .ok spec) :
    List.Forall₂ (ctx.LeadsToFirst i spec) i.backends spec.rules ∧
    (List.Forall₂ (ctx.LeadsRight i spec) i.backends spec.rules ↔ ctx.PortsAgree i) ∧
    ((∀ name s, ctx.serviceOf? i name = some s → s.OpensOnce) → ctx.PortsAgree i) := by
  have hfirst := (built_of_eq_ok hv h).leadToFirst hapart
  exact ⟨hfirst, (leadsRight_iff hfirst).trans Context.portsAgree_iff.symm,
    Context.portsAgree_of_opensOnce⟩

end Blueprint

namespace Sample

/-- The shop, which opens one port twice: under two names, at two node ports. -/
def twofoldShop : Service where
  metadata := .named "default" "shop"
  spec := some ⟨some "NodePort", [⟨some "http", 80, some 30080⟩, ⟨some "quic", 80, some 30081⟩]⟩

/-- An ingress that leads to one port of the shop by two names. -/
def twofold : Ingress :=
  branching none [("/", toPortNamed "shop" "http"), ("/live", toPortNamed "shop" "quic")]

theorem destinations_twofold : (serving [twofoldShop]).destinations twofold twofold.backends =
    [⟨"shop", 80, 30080⟩, ⟨"shop", 80, 30081⟩] := by rfl

theorem namesApart_twofold : (serving [twofoldShop]).NamesApart twofold := by
  rw [Blueprint.Context.NamesApart, destinations_twofold]
  simp [Destination.servicePort]

theorem not_portsAgree_twofold : ¬ (serving [twofoldShop]).PortsAgree twofold := by
  rw [Blueprint.Context.PortsAgree, destinations_twofold]
  decide

/-- The node ports to which the paths of a spec lead. -/
def leadsTo (spec : Spec) : List (Option String × Option Int32) :=
  spec.rules.map fun rule => (rule.path, (spec.groupOf? rule).map (·.nodePort))

theorem exists_spec_twofold :
    ∃ spec, Blueprint.desiredSpec (serving [twofoldShop]) twofold [] = .ok spec ∧
      leadsTo spec = [(some "/", some 30080), (some "/live", some 30080)] :=
  Except.exists_of_toOption_map (by decide +kernel)

end Sample

namespace Blueprint

open Sample

/-- Both rules of such an ingress lead to the node port of the first. -/
theorem desiredSpec_nodePorts_twofold :
    (serving [twofoldShop]).view.Steady ∧ (serving [twofoldShop]).NamesApart twofold ∧
    ∃ spec, desiredSpec (serving [twofoldShop]) twofold [] = .ok spec ∧
      List.Forall₂ ((serving [twofoldShop]).LeadsToFirst twofold spec) twofold.backends
        spec.rules := by
  obtain ⟨spec, hspec, -⟩ := exists_spec_twofold
  exact ⟨steady_serving _, namesApart_twofold, spec, hspec,
    (desiredSpec_nodePorts (steady_serving _) namesApart_twofold hspec).1⟩

/-- **The second name is led astray**: it means the node port 30081, and gets 30080. -/
theorem second_name_led_astray :
    (serving [twofoldShop]).view.Steady ∧ (serving [twofoldShop]).NamesApart twofold ∧
    (serving [twofoldShop]).destination twofold (toPortNamed "shop" "quic") =
      .ok ⟨"shop", 80, 30081⟩ ∧
    ∃ spec, desiredSpec (serving [twofoldShop]) twofold [] = .ok spec ∧
      leadsTo spec = [(some "/", some 30080), (some "/live", some 30080)] ∧
      ¬ List.Forall₂ ((serving [twofoldShop]).LeadsRight twofold spec) twofold.backends
        spec.rules := by
  obtain ⟨spec, hspec, hleads⟩ := exists_spec_twofold
  have hfirst := (built_of_eq_ok (steady_serving _) hspec).leadToFirst namesApart_twofold
  exact ⟨steady_serving _, namesApart_twofold, by rfl, spec, hspec, hleads, fun hright =>
    not_portsAgree_twofold (Context.portsAgree_iff.2 ((leadsRight_iff hfirst).1 hright))⟩

end Blueprint

end IngressBalancer
