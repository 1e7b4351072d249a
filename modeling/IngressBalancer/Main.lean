import IngressBalancer.Program.Execute
/-!
# The command line

Reads arguments and environment, executes the program, and prints what it
leaves behind. No cluster can be reached from here, so that a run ends as
soon as it needs one.
-/

namespace IngressBalancer

namespace Program

/-- Surroundings without a cluster. -/
def noCluster : Surroundings where
  cluster _ := .unknown "no cluster configuration"
  canListen := false
  clusterProbe := ⟨some 0, .error ["no cluster configuration"]⟩
  endpointProbe _ := ⟨some 0, .error ["no network"]⟩
  driverLeads := true

/-- The variables of the environment that matter. -/
def readEnvironment : IO CommandLine.Environment := do
  let names := LogFilter.envName :: clusterEnvName :: CommandLine.runFlags.map (·.envName)
  let given ← names.filterMapM fun name => do
    return (← IO.getEnv name).map fun value => (name, value)
  return .ofList given

/-- The line of a log as text. -/
def LogLine.text (l : LogLine) : String :=
  " ".intercalate ([l.level.word, l.message] ++ l.fields.map fun f => f.1 ++ "=" ++ f.2)

end Program

end IngressBalancer

open IngressBalancer Program in
/-- The program. -/
def main (arguments : List String) : IO UInt32 := do
  match execute (← readEnvironment) arguments noCluster with
  | .ended ending log =>
    for line in log do IO.println line.text
    IO.print ending.output
    IO.eprint ending.errors
    return ending.code
  | .waiting log | .running log .. =>
    for line in log do IO.println line.text
    return 0
