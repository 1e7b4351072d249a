import IngressBalancer.Program.Log
import IngressBalancer.Text.Blank
import IngressBalancer.Text.Digits
import IngressBalancer.Text.Fields
/-!
# Log filters

Which lines of the log are shown. A filter is a list of directives with
commas between them; a directive says how much is shown, and of what: of all
lines, of those under a target, of those with a field. Of the directives that
are about a line the most particular one decides, and of equals the last.
A directive about a span is about none of the program's own lines. Where
nothing is said, lines up to `info` are shown.
-/

namespace IngressBalancer

namespace Program

/-- How much is shown. -/
inductive Verbosity
  | off
  | error
  | warn
  | info
  | debug
  | trace
deriving DecidableEq, Repr

namespace Verbosity

/-- All of them, the least first. -/
def all : List Verbosity := [.off, .error, .warn, .info, .debug, .trace]

def word : Verbosity → String
  | .off => "off"
  | .error => "error"
  | .warn => "warn"
  | .info => "info"
  | .debug => "debug"
  | .trace => "trace"

/-- The verbosity that a text names, by its word in any case or by its number. -/
def ofText? (cs : List Char) : Option Verbosity :=
  match Text.readUpTo (UInt64.size - 1) cs with
  | some n => all[n]?
  | none => all.find? fun v => cs.map Char.toLower = v.word.toList

/-- Whether a line of a level is shown. -/
def shows : Verbosity → LogLevel → Bool
  | .off, _ => false
  | .error, level | .warn, level => level = .error
  | _, _ => true

end Verbosity

/-- One directive of a filter. -/
structure Directive where
  /-- The front of the targets that it is about. -/
  target : Option String
  span : Option String
  /-- A field, with a value behind an equals sign where that matters. -/
  field : Option String
  verbosity : Verbosity
deriving DecidableEq, Repr

namespace Directive

/-- How much the end of a directive says is shown; everything, where it says nothing. -/
def verbosityOf? : List Char → Option Verbosity
  | [] => some .trace
  | cs => Verbosity.ofText? cs

/-- The directive whose target and span have been read. -/
def behindSpan? (target span field : Option String) : List Char → Option Directive
  | [] => some ⟨target, span, field, .trace⟩
  | '=' :: cs => (verbosityOf? cs).map fun v => ⟨target, span, field, v⟩
  | _ => none

/-- The directive whose target has been read, up to the bracket that opens its span. -/
def inSpan? (target : Option String) (cs : List Char) : Option Directive :=
  let name := cs.takeWhile (· ∉ [']', '\x7b'])
  match cs.dropWhile (· ∉ [']', '\x7b']) with
  | [] => none
  | ']' :: rest => behindSpan? target (some (String.ofList name)) none rest
  | _ :: rest =>
    let field := rest.takeWhile (· ≠ '\x7d')
    match rest.dropWhile (· ≠ '\x7d') with
    | '\x7d' :: ']' :: rest =>
      if field.isEmpty then none
      else
        behindSpan? target (if name.isEmpty then none else some (String.ofList name))
          (some (String.ofList field)) rest
    | _ => none

/-- Whether a target may begin with a character. -/
def opensTarget (c : Char) : Bool := c.isAlphanum || c ∈ ['-', ':', '_'] || '\x7f' < c

/-- The directive that a text writes. -/
def parse? (cs : List Char) : Option Directive :=
  let cs := Text.trimChars cs
  let name := cs.takeWhile (· ∉ ['=', '['])
  match cs, cs.dropWhile (· ∉ ['=', '[']) with
  | [], _ => none
  | '[' :: rest, _ => inSpan? none rest
  | c :: _, rest =>
    if !opensTarget c then none
    else
      match rest with
      | [] =>
        match Verbosity.ofText? name with
        | some v => some ⟨none, none, none, v⟩
        | none => some ⟨some (String.ofList name), none, none, .trace⟩
      | '=' :: rest =>
        (verbosityOf? rest).map fun v => ⟨some (String.ofList name), none, none, v⟩
      | _ :: rest => inSpan? (some (String.ofList name)) rest

/-- Whether a directive can be about a line outside of all spans. -/
def isPlain (d : Directive) : Bool := d.span.isNone && d.field.all (!·.contains '=')

/-- Whether a plain directive is about a line. -/
def isAbout (d : Directive) (l : LogLine) : Bool :=
  d.target.all (fun t => t.toList.isPrefixOf LogLine.target.toList) && d.field.all (· ∈ l.names)

/-- How particular a directive is: by its target, then by its field. -/
def weight (d : Directive) : Nat × Nat :=
  (d.target.elim 0 fun t => t.utf8ByteSize + 1, if d.field.isSome then 1 else 0)

/-- Whether `e` decides where both directives are about a line and `e` comes later. -/
def yieldsTo (d e : Directive) : Bool :=
  d.weight.1 < e.weight.1 || d.weight.1 = e.weight.1 &&
    (d.weight.2 < e.weight.2 || d.weight.2 = e.weight.2 && d.field.getD "" ≤ e.field.getD "")

end Directive

/-- The plain directives in force. -/
structure LogFilter where
  directives : List Directive
deriving DecidableEq, Repr

namespace LogFilter

/-- The variable of the environment that holds the filter. -/
def envName : String := "RUST_LOG"

/-- What is in force where nothing is said. -/
def standard : Directive := ⟨none, none, none, .info⟩

/-- The filter that a text writes, and those of its parts that are no directives. -/
def ofText (text : String) : LogFilter × List String :=
  let parts := (Text.pieces ',' text.toList).filter (!·.isEmpty)
  let refused := parts.filter fun part => (Directive.parse? part).isNone
  let directives := match parts.filterMap Directive.parse? with
    | [] => [standard]
    | ds => ds.filter (·.isPlain)
  (⟨directives⟩, refused.map String.ofList)

/-- The directive that decides about a line. -/
def decider? (f : LogFilter) (l : LogLine) : Option Directive :=
  (f.directives.filter (·.isAbout l)).foldl (fun best d =>
    match best with
    | none => some d
    | some b => if b.yieldsTo d then some d else best) none

/-- Whether a line is shown. -/
def shows (f : LogFilter) (l : LogLine) : Bool :=
  (f.decider? l).any (·.verbosity.shows l.level)

/-- What is said about a part that is no directive. -/
def notice (part : String) : String :=
  "ignoring \x60" ++ part ++ "\x60: invalid filter directive\n"

end LogFilter

end Program

end IngressBalancer
