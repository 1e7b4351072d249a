import IngressBalancer.Data.SortedMap
import IngressBalancer.Text.Fields
/-!
# Flags

Named values that the command line gives, as `--name value` or
`--name=value`, or else the environment. Arguments are read from left to
right; a value that stands on its own is accepted when the next argument has
been looked at, so that an argument nobody knows is reported before a fault
of the value in front of it. What the command line leaves open is then taken
from the environment.
-/

namespace IngressBalancer

namespace CommandLine

/-- What is wrong with the arguments. -/
inductive UsageFault
  | unknownArgument (argument : String)
  | missingValue (flag : String)
  /-- The value of a flag cannot be read. -/
  | badValue (flag value : String)
  /-- The value of a flag is none of those that it may have. -/
  | badChoice (flag value : String)
  | repeatedFlag (flag : String)
  /-- A flag that takes no value has one. -/
  | needlessValue (flag : String)
  | unknownCommand (command : String)
  | noCommand
deriving DecidableEq, Repr

/-- Why reading ends before all arguments are accepted. -/
inductive Stop
  | help
  | version
  | fault (f : UsageFault)
deriving DecidableEq, Repr

/-- A named value. -/
structure Flag where
  name : String
  /-- The variable of the environment that stands in for it. -/
  envName : String
  /-- What the value is for. -/
  about : String
  /-- Whether it may be given repeatedly, and hold several values with commas between them. -/
  plural : Bool
  /-- Accept one value. -/
  check : String → Except UsageFault Unit

/-- The values given, by the names of their flags. -/
abbrev Given := SortedMap String (List String)

/-- Variables of the environment. -/
abbrev Environment := SortedMap String String

namespace Flag

/-- The values that a text holds. -/
def valuesIn (f : Flag) (text : String) : List String :=
  if f.plural then (Text.pieces ',' text.toList).map String.ofList else [text]

/-- Accept the text given for a flag, after others that it was given. -/
def accept (f : Flag) (text : String) (given : Given) : Except Stop Given :=
  let values := f.valuesIn text
  match values.forM f.check with
  | .error fault => .error (.fault fault)
  | .ok () => .ok (given.insert f.name (given.getD f.name [] ++ values))

end Flag

/-- A flag at the end of what was read, with the text that followed it. -/
structure Pending where
  flag : Flag
  text : Option String

/-- Accept the text of a flag from the command line, where only plural flags come again. -/
def acceptOnce (f : Flag) (text : String) (given : Given) : Except Stop Given :=
  if !f.plural && given.contains f.name then .error (.fault (.repeatedFlag f.name))
  else f.accept text given

/-- Accept the pending flag. -/
def settle (pending : Option Pending) (given : Given) : Except Stop Given :=
  match pending with
  | none => .ok given
  | some ⟨f, none⟩ => .error (.fault (.missingValue f.name))
  | some ⟨f, some text⟩ => acceptOnce f text given

/-- Read arguments. -/
def readArguments (flags : List Flag) :
    Given → Option Pending → List String → Except Stop Given
  | given, pending, [] => settle pending given
  | given, pending, argument :: rest =>
    match argument.toList with
    | ['-', '-'] =>
      -- what follows two hyphens is no flag, and nothing else is taken
      match rest with
      | [] => settle pending given
      | next :: _ => .error (.fault (.unknownArgument next))
    | '-' :: '-' :: cs =>
      let (name, text) : String × Option String := match Text.cut? '=' cs with
        | some (name, text) => (String.ofList name, some (String.ofList text))
        | none => (String.ofList cs, none)
      if name = "help" then
        if text.isSome then .error (.fault (.needlessValue name))
        else (settle pending given).bind fun _ => .error .help
      else
        match flags.find? (·.name = name) with
        | none => .error (.fault (.unknownArgument argument))
        | some f =>
          match settle pending given with
          | .error stop => .error stop
          | .ok given =>
            match text with
            | none => readArguments flags given (some ⟨f, none⟩) rest
            | some text =>
              match acceptOnce f text given with
              | .error stop => .error stop
              | .ok given => readArguments flags given none rest
    | '-' :: 'h' :: _ => (settle pending given).bind fun _ => .error .help
    | '-' :: _ :: _ => .error (.fault (.unknownArgument argument))
    | _ =>
      match pending with
      | some ⟨f, none⟩ => readArguments flags given (some ⟨f, some argument⟩) rest
      | _ => .error (.fault (.unknownArgument argument))

/-- Take from the environment what is not given yet. -/
def readEnvironment (env : Environment) : List Flag → Given → Except Stop Given
  | [], given => .ok given
  | f :: rest, given =>
    match (if given.contains f.name then none else env.get? f.envName) with
    | none => readEnvironment env rest given
    | some text => (f.accept text given).bind (readEnvironment env rest)

/-- The values that arguments and environment give. -/
def read (flags : List Flag) (env : Environment) (arguments : List String) : Except Stop Given :=
  (readArguments flags ∅ none arguments).bind (readEnvironment env flags)

/-- The one value of a flag. -/
def Given.value? (given : Given) (f : Flag) : Option String :=
  (SortedMap.get? given f.name).bind List.head?

/-- The values of a plural flag. -/
def Given.values (given : Given) (f : Flag) : List String := SortedMap.getD given f.name []

end CommandLine

end IngressBalancer
