import MarkdownCheck.Report

/-!
# The log of a check

What happens while a document is checked, told event by event: names in the configuration that no
rule has, the size of the job, and the end of each run.
-/

namespace MarkdownCheck

/-- How much an event matters. -/
inductive Level where
  | debug | info | warning
deriving DecidableEq, Repr

def Level.label : Level → String
  | .debug => "DEBUG"
  | .info => "INFO"
  | .warning => "WARNING"

inductive Event where
  /-- The configuration names a rule that there is not. -/
  | unknownRule (name : String)
  /-- The rules are about to run: how many lines, how many rules, and out of how many. -/
  | started (lines enabled given : Nat)
  /-- A rule found so many lines. -/
  | finished (rule : String) (count : Nat)
  | failed (rule : String) (failure : Failure)
deriving DecidableEq, Repr

namespace Event

def level : Event → Level
  | unknownRule _ => .warning
  | started .. => .info
  | finished .. => .debug
  | failed .. => .warning

def message : Event → String
  | unknownRule name => "Ignoring configuration for unknown rule " ++ quoted name
  | started lines enabled given =>
    "Linting " ++ toString lines ++ " lines with " ++ toString enabled ++ " of " ++
      toString given ++ " rules"
  | finished rule count => "   " ++ rule ++ ": " ++ toString count ++ " violation(s)"
  | failed rule failure => "Rule " ++ rule ++ " failed: " ++ failure.inspect

/-- The event that ends a run. -/
def ofRun (r : Run) : Event :=
  match r.outcome with
  | .ok lines => .finished r.rule lines.length
  | .error failure => .failed r.rule failure

end Event

/-- The names in a configuration that no rule has. -/
def Config.unknown (c : Config) (rules : List Rule) : List String :=
  (c.rules.map (·.1)).filter fun name => name ∉ rules.map fun r => upper r.name

/-- The log of checking a document against the enabled rules. -/
def Document.log (d : Document) (c : Config) (rules : List Rule) : List Event :=
  let runs := d.runs c rules
  (c.unknown rules).map .unknownRule ++
    .started d.lines.length runs.length rules.length :: runs.map .ofRun

end MarkdownCheck
