import IngressBalancer.Annotations.Interpret
import IngressBalancer.Blueprint.Name
import IngressBalancer.Blueprint.Selection
import IngressBalancer.Cluster.View
/-!
# Building specs

From an ingress to the spec of its load balancer. The ingress is read as a
list of routes, numbered in the order in which they are declared
(`routes`); each route's backend is resolved to a node port and from there
to a target group, which later routes to the same service port share
(`resolveAll`). The first backend that cannot be resolved fails the build.
-/

namespace IngressBalancer

namespace Blueprint

/-- What a spec is built with. -/
structure Context where
  clusterName : String
  stem : String
  view : View
  interpret : Interpreter

/-- A declared route, not yet resolved. -/
structure Route where
  priority : UInt32
  host : Option String
  path : Option String
  backend : Backend
deriving DecidableEq, Repr

/-- The paths of an ingress with their hosts, in the order of declaration. -/
def declaredPaths (spec : IngressSpec) : List (Option String × IngressPath) :=
  spec.rules.flatMap fun rule => (rule.paths.getD []).map fun path => (rule.host, path)

/-- The routes of an ingress: the default backend with priority zero, then every path with
priorities from one. -/
def routes (spec : IngressSpec) : List Route :=
  (spec.defaultBackend.toList.map fun backend => ⟨0, none, none, backend⟩) ++
    (declaredPaths spec).mapIdx fun i p =>
      ⟨UInt32.ofNat (i + 1), p.1, p.2.path, p.2.backend⟩

/-- What is known halfway through a build. -/
structure Draft where
  /-- The target groups so far, in the order of their first use. -/
  groups : List TargetGroup
  /-- The services looked up so far. -/
  asked : List ResourceId

/-- Look a service up once more. -/
def Draft.ask (view : View) (service : ResourceId) (d : Draft) : Option Service × Draft :=
  (view.service? service (d.asked.count service), { d with asked := service :: d.asked })

/-- The port of a service that a reference names, by number first. -/
def ServicePort.answers (reference : Option PortReference) (port : ServicePort) : Bool :=
  match reference.bind (·.number), reference.bind (·.name) with
  | some number, _ => port.port = number
  | none, some name => port.name = some name
  | none, none => false

/-- The port and the node port that a reference to a looked-up service leads to. -/
def nodePort (service : ResourceId) (found : Option Service) (reference : Option PortReference) :
    Except LookupFault (Int32 × Int32) :=
  match found with
  | none => .error (.unknownService service)
  | some s =>
    match s.spec with
    | none => .error (.noServiceSpec service)
    | some spec =>
      if spec.type = some "NodePort" then
        match spec.ports.find? (ServicePort.answers reference) with
        | some ⟨_, port, some nodePort⟩ => .ok (port, nodePort)
        | _ => .error (.unknownPort service)
      else .error (.notNodePort service)

/-- The name of the target group that a backend leads to, which is added to the draft where it
is new. A new group takes its settings from the annotations of the ingress, overlaid by those of
the service, for which the service is looked up a second time. -/
def resolve (ctx : Context) (id : ResourceId) (annotations : SortedMap String String)
    (backend : Backend) (d : Draft) : Except Failure (String × Draft) :=
  match backend.service with
  | none => .error (.lookup (.noServiceReference id))
  | some reference =>
    let service : ResourceId := ⟨id.nspace, reference.name⟩
    let (found, d) := d.ask ctx.view service
    match nodePort service found reference.port with
    | .error fault => .error (.lookup fault)
    | .ok (port, nodePort) =>
      let name := targetGroupName ctx.stem id reference.name port
      if d.groups.any (·.name = name) then .ok (name, d)
      else
        let (found, d) := d.ask ctx.view service
        match found with
        | none => .error (.lookup (.unknownService service))
        | some s =>
          match ctx.interpret id (annotations.union (s.metadata.annotations.getD ∅)) with
          | .error e => .error e
          | .ok settings =>
            let group : TargetGroup := {
              name := name
              serviceName := reference.name
              servicePort := port
              nodePort := nodePort
              protocol := settings.backendProtocol
              healthCheckPath := settings.healthCheckPath
              healthCheckPort := settings.healthCheckPort
              successCodes := settings.successCodes }
            .ok (name, { d with groups := d.groups ++ [group] })

/-- The rules of some routes, one each, and the draft after them. -/
def resolveAll (ctx : Context) (id : ResourceId) (annotations : SortedMap String String) :
    List Route → Draft → Except Failure (List Rule × Draft)
  | [], d => .ok ([], d)
  | route :: rest, d =>
    match resolve ctx id annotations route.backend d with
    | .error e => .error e
    | .ok (name, d) =>
      match resolveAll ctx id annotations rest d with
      | .error e => .error e
      | .ok (rules, d) => .ok (⟨route.priority, route.host, route.path, name⟩ :: rules, d)

/-- A listener; certificate and policy belong to HTTPS alone. -/
def listener (settings : Annotations) (port : Protocol × UInt16) : Listener :=
  match port.1 with
  | .https => ⟨port.2, .https, settings.certificateArn, settings.sslPolicy⟩
  | .http => ⟨port.2, .http, none, none⟩

/-- The tag that marks a load balancer as one of a cluster. -/
def clusterTag (clusterName : String) : String := "kubernetes.io/cluster/" ++ clusterName

/-- The tag that holds the namespace of the owner. -/
def namespaceTag : String := "kubernetes.io/namespace"

/-- The tag that holds the name of the owner. -/
def nameTag : String := "kubernetes.io/ingress-name"

/-- The tags of a load balancer: those asked for, and on top of them cluster and owner. -/
def ownedTags (clusterName : String) (id : ResourceId) (tags : SortedMap String String) :
    SortedMap String String :=
  ((tags.insert (clusterTag clusterName) "owned").insert namespaceTag id.nspace).insert
    nameTag id.name

/-- The spec of the load balancer of an ingress, before the given targets. -/
def desiredSpec (ctx : Context) (ingress : Ingress) (targets : List String) :
    Except Failure Spec :=
  let id := ingress.id
  match ctx.interpret id ingress.annotations with
  | .error e => .error e
  | .ok settings =>
    match resolveAll ctx id ingress.annotations ((ingress.spec.map routes).getD []) ⟨[], []⟩ with
    | .error e => .error e
    | .ok (rules, draft) => .ok {
        loadBalancerName := loadBalancerName ctx.stem id
        scheme := settings.scheme
        subnets := settings.subnets
        securityGroups := settings.securityGroups
        listeners := settings.listenPorts.map (listener settings)
        targetGroups := draft.groups
        rules := rules
        targets := targets
        webAclId := settings.webAclId
        tags := ownedTags ctx.clusterName id settings.tags }

/-- **What a spec was built from**: all but its target groups, its rules and its targets comes from
what the annotations of the ingress give. -/
theorem exists_settings_of_desiredSpec {ctx : Context} {ingress : Ingress} {targets : List String}
    {spec : Spec} (h : desiredSpec ctx ingress targets = .ok spec) : ∃ settings groups rules,
      ctx.interpret ingress.id ingress.annotations = .ok settings ∧ spec = {
        loadBalancerName := loadBalancerName ctx.stem ingress.id
        scheme := settings.scheme
        subnets := settings.subnets
        securityGroups := settings.securityGroups
        listeners := settings.listenPorts.map (listener settings)
        targetGroups := groups
        rules := rules
        targets := targets
        webAclId := settings.webAclId
        tags := ownedTags ctx.clusterName ingress.id settings.tags } := by
  unfold desiredSpec at h
  dsimp only at h
  split at h
  · cases h
  · next settings hgiven =>
    split at h
    · cases h
    · cases h
      exact ⟨settings, _, _, hgiven, rfl⟩

end Blueprint

end IngressBalancer
