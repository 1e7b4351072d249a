import IngressBalancer.CommandLine.Help
import IngressBalancer.Program.Launch
import IngressBalancer.Program.LogFilter
import IngressBalancer.Text.Quoted
/-!
# Executing the program

The whole program up to the point where the controller is at work: what it
prints and the code with which it ends. Arguments that make no sense end it
with code 2, a failure with code 1.
-/

namespace IngressBalancer

namespace Program

/-- What a program that has ended leaves behind. -/
structure Ending where
  code : UInt32
  output : String
  errors : String
deriving DecidableEq, Repr

/-- The name of a failure's cause on the error output. -/
def causeName : Failure → String
  | .config _ => "ConfigError"
  | .kube _ => "KubeError"
  | .http _ => "HttpError"
  | .serialization _ => "SerializationError"
  | .lookup _ => "LookupError"
  | .invalid .. => "AnnotationError"
  | .reconcile .. => "ReconcileError"
  | .timeout _ => "ReconcileTimeout"
  | .aborted .. => "TaskAborted"
  | .provider _ => "ProviderError"
  | .io _ => "IoError"

/-- What is shown of a failure behind the name of its cause. -/
def causeText : Failure → String
  | .config fault => Text.quoted fault.message
  | .kube text => text
  | failure => Text.quoted failure.message

/-- The line that a failure leaves on the error output. -/
def failureLine (failure : Failure) : String :=
  "Error: " ++ causeName failure ++ "(" ++ causeText failure ++ ")\n"

/-- How the program ends that was stopped while its arguments were read. -/
def stopped : CommandLine.Stop → Ending
  | .help => ⟨0, CommandLine.help, ""⟩
  | .version => ⟨0, name ++ " " ++ version ++ "\n", ""⟩
  | .fault fault => ⟨2, "", "error: " ++ fault.message ++ "\n"⟩

/-- What becomes of the program. -/
inductive Course
  | ended (ending : Ending) (log : List LogLine)
  /-- The cluster does not answer. To be told to end breaks the program off, without a code. -/
  | waiting (log : List LogLine)
  /-- A controller is at work. To be told to end leaves `closing` in the log. -/
  | running (log closing : List LogLine) (controller : Watching)

/-- The variable of the environment that names the configuration of the cluster. -/
def clusterEnvName : String := "KUBECONFIG"

/-- Run with accepted options. The log is filtered, and what is no part of a filter is said first
on the error output. -/
def run (env : CommandLine.Environment) (options : CommandLine.RunOptions)
    (around : Surroundings) : Course :=
  let (filter, refused) := LogFilter.ofText ((env.get? LogFilter.envName).getD "")
  let launch := launch options (env.get? clusterEnvName) around
  let log := launch.log.filter filter.shows
  match launch.stage with
  | .failed failure =>
    .ended ⟨1, "", String.join (refused.map LogFilter.notice) ++ failureLine failure⟩ log
  | .waiting => .waiting log
  | .atWork controller => .running log ([farewell].filter filter.shows) controller

/-- Execute the program. -/
def execute (env : CommandLine.Environment) (arguments : List String) (around : Surroundings) :
    Course :=
  match CommandLine.Command.read env arguments with
  | .error stop => .ended (stopped stop) []
  | .ok .version => .ended ⟨0, banner ++ "\n", ""⟩ []
  | .ok (.run options) => run env options around

end Program

end IngressBalancer
