import IngressBalancer.CommandLine.Command
import IngressBalancer.Program.About
import IngressBalancer.Program.Log
import IngressBalancer.World.Watching
/-!
# Launching the controller

From the options of a run to a controller at work: the settings are
accepted, the cluster is reached, its first lists are read, the health
checks are registered, and the controller starts up. The program logs how
far it has come; what fails on the way ends it. To be connected takes no
answer from the cluster, the first lists do.
-/

namespace IngressBalancer

namespace Program

/-- How the cluster is found. -/
inductive ClusterAccess
  /-- No usable configuration leads to it. -/
  | unknown (reason : String)
  /-- No connection comes about. -/
  | unreachable
  | holding (objects : List ClusterObject)

/-- What the program finds when it starts. -/
structure Surroundings where
  /-- The cluster to which a configuration file leads, if one is named. -/
  cluster (file : Option String) : ClusterAccess
  /-- Whether the REST server can listen at its address. -/
  canListen : Bool
  /-- Whether the driver goes on before the publisher takes its first step. -/
  driverLeads : Bool
  /-- How the cluster answers when it is asked for its version. -/
  clusterProbe : Probe
  /-- How a further endpoint answers. -/
  endpointProbe (endpoint : HealthEndpoint) : Probe

/-- How far the program came. -/
inductive Stage
  | failed (failure : Failure)
  /-- Waits for the first lists of the cluster. -/
  | waiting
  | atWork (controller : Watching)

/-- How far the program came, and what it logged on its way. -/
structure Launch where
  log : List LogLine
  stage : Stage

/-- The checks of a run: the cluster, and every further endpoint under its name. -/
def monitor (around : Surroundings) (endpoints : List HealthEndpoint) : Monitor :=
  .ofList (("kubernetes", around.clusterProbe) ::
    endpoints.map fun e => (e.name, around.endpointProbe e))

/-- What is logged about accepted settings. -/
def acceptedLine (settings : Settings) : LogLine where
  level := .info
  message := "Controller configuration validated"
  fields := [("cluster", settings.clusterName), ("prefix", settings.stem)]

/-- A controller that has started up, with its driver and its publisher. -/
def startController (settings : Settings) (options : CommandLine.RunOptions)
    (around : Surroundings) (objects : List ClusterObject) : Watching :=
  let cache := Cache.ofList objects
  let world := World.new settings cache.view (.new options.region)
    (monitor around options.endpoints)
  (Watching.start around.driverLeads world.startUp cache).settle

/-- Run the controller until it is at work, with the configuration `file` if one is named. -/
def launch (options : CommandLine.RunOptions) (file : Option String) (around : Surroundings) :
    Launch :=
  let started := LogLine.info ("Starting " ++ banner)
  match options.settings.validate with
  | .error failure => ⟨[started], .failed failure⟩
  | .ok settings =>
    let connected := [started, acceptedLine settings, .info "Connected to Kubernetes cluster"]
    match around.cluster file with
    | .unknown reason => ⟨[started, acceptedLine settings], .failed (.kube reason)⟩
    | .unreachable => ⟨connected, .waiting⟩
    | .holding objects =>
      let busy : List LogLine :=
        if around.canListen then [] else [⟨.error, "REST API server error", []⟩]
      ⟨connected ++ [.info "Resource caches synced"] ++ busy,
        .atWork (startController settings options around objects)⟩

/-- What is logged when the program is told to end. -/
def farewell : LogLine := .info "Shutdown signal received"

end Program

end IngressBalancer
