import IngressBalancer.CommandLine.SettingsFlags
import IngressBalancer.CommandLine.SocketAddress
import IngressBalancer.Health.Endpoint
/-!
# Commands

What the program can be told to do: to run the controller, or to say which
version it is. Running takes the flags of the settings and a few of its own.
-/

namespace IngressBalancer

namespace CommandLine

/-- How log lines are written. -/
inductive LogFormat
  | plain
  | json
deriving DecidableEq, Repr

/-- The log format that a word names. -/
def LogFormat.ofWord? (s : String) : Option LogFormat :=
  if s = "plain" then some .plain
  else if s = "json" then some .json
  else none

/-- What the controller is run with. -/
structure RunOptions where
  settings : RawSettings
  /-- Where the REST server listens. -/
  listenAddress : String
  /-- Further endpoints to be checked. -/
  endpoints : List HealthEndpoint
  logFormat : LogFormat
  /-- The region of the provider. -/
  region : String
deriving DecidableEq, Repr

inductive Command
  | run (options : RunOptions)
  | version
deriving DecidableEq, Repr

def listenAddressFlag : Flag where
  name := "listen-addr"
  envName := "LISTEN_ADDR"
  about := "Address the REST API listens on"
  plural := false
  check text := if SocketAddress.isValid text then .ok () else .error (.badValue "listen-addr" text)

def endpointFlag : Flag where
  name := "health-endpoint"
  envName := "HEALTH_ENDPOINTS"
  about := "Extra connectivity checks reported by /status, as NAME=URL"
  plural := true
  check text :=
    match HealthEndpoint.parse text with
    | .ok _ => .ok ()
    | .error raw => .error (.badValue "health-endpoint" raw)

def logFormatFlag : Flag where
  name := "log-format"
  envName := "LOG_FORMAT"
  about := "Log output format"
  plural := false
  check text :=
    if (LogFormat.ofWord? text).isSome then .ok () else .error (.badChoice "log-format" text)

def regionFlag : Flag :=
  textFlag "region" "AWS_REGION" "Region recorded on provisioned load balancers"

/-- All flags with which the controller is run. -/
def runFlags : List Flag :=
  settingsFlags ++ [listenAddressFlag, endpointFlag, logFormatFlag, regionFlag]

/-- The options that were given. -/
def Given.runOptions (given : Given) : RunOptions where
  settings := given.settings
  listenAddress := (given.value? listenAddressFlag).getD "0.0.0.0:8080"
  endpoints := (given.values endpointFlag).filterMap fun text =>
    match HealthEndpoint.parse text with
    | .ok endpoint => some endpoint
    | .error _ => none
  logFormat := ((given.value? logFormatFlag).bind LogFormat.ofWord?).getD .plain
  region := (given.value? regionFlag).getD "us-east-1"

/-- The words that name a command. -/
def commandWords : List String := ["run", "version", "help"]

/-- Whether an argument asks for help, or for the version. -/
def asked? (argument : String) : Option Stop :=
  match argument.toList with
  | '-' :: 'h' :: _ => some .help
  | '-' :: 'V' :: _ => some .version
  | _ =>
    if argument = "--help" then some .help
    else if argument = "--version" then some .version
    else none

/-- The command that the arguments of the program name. -/
def Command.read (env : Environment) : List String → Except Stop Command
  | [] => .error (.fault .noCommand)
  | "run" :: rest => (CommandLine.read runFlags env rest).map fun given => .run given.runOptions
  | "version" :: rest => (CommandLine.read [] env rest).map fun _ => .version
  | ["help"] => .error .help
  | "help" :: topic :: rest =>
    .error (if topic ∈ commandWords ∧ rest.isEmpty then .help else .fault (.unknownCommand topic))
  | argument :: _ =>
    .error ((asked? argument).getD (.fault (
      if argument.startsWith "-" then .unknownArgument argument else .unknownCommand argument)))

end CommandLine

end IngressBalancer
