/-!
# The log

The lines that the program logs about its own course.
-/

namespace IngressBalancer

namespace Program

inductive LogLevel
  | info
  | error
deriving DecidableEq, Repr

def LogLevel.word : LogLevel → String
  | .info => "INFO"
  | .error => "ERROR"

/-- A line that the program logs about its own course. -/
structure LogLine where
  level : LogLevel
  message : String
  fields : List (String × String)
deriving DecidableEq, Repr

namespace LogLine

def info (message : String) : LogLine := ⟨.info, message, []⟩

/-- The target under which these lines are logged. -/
def target : String := "alb_cli"

/-- What a line says something about: its message, and its fields. -/
def names (l : LogLine) : List String := "message" :: l.fields.map (·.1)

end LogLine

end Program

end IngressBalancer
