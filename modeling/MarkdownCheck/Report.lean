import MarkdownCheck.Config
import MarkdownCheck.Rule

/-!
# Reports

Checking a document runs every enabled rule by itself: a rule that fails leaves an error and takes
nothing away from the others. A `Report` gathers the lines found, the errors and the names of the
rules that ran, all in the order of the rules.
-/

namespace MarkdownCheck

/-- One run of a rule and what came of it. -/
structure Run where
  rule : String
  outcome : Except Failure (List Int)

/-- A line that breaks a rule. -/
structure Violation where
  rule : String
  line : Int
deriving DecidableEq, Repr

/-- A rule that failed, and the account it gave. -/
structure RuleError where
  rule : String
  message : String
deriving DecidableEq, Repr

/-- Lines by the name of the rule that found them, in the order the names came up. -/
abbrev Groups := List (String × List Int)

/-- Adds a line to the group of its rule, which goes behind all others if it is new. -/
def Groups.add (groups : Groups) (v : Violation) : Groups :=
  match groups with
  | [] => [(v.rule, [v.line])]
  | (name, lines) :: rest =>
    if name = v.rule then (name, lines ++ [v.line]) :: rest else (name, lines) :: Groups.add rest v

/-- What came of checking a document. -/
structure Report where
  violations : List Violation
  errors : List RuleError
  /-- The names of the rules that ran, failed ones included. -/
  evaluated : List String
deriving DecidableEq, Repr

namespace Run

def violations (r : Run) : List Violation :=
  match r.outcome with
  | .ok lines => lines.map fun line => ⟨r.rule, line⟩
  | .error _ => []

def error? (r : Run) : Option RuleError :=
  match r.outcome with
  | .ok _ => none
  | .error failure => some ⟨r.rule, failure.label ++ ": " ++ failure.message⟩

end Run

/-- The enabled rules. -/
def Config.enabled (c : Config) (rules : List Rule) : List Rule :=
  rules.filter fun r => c.isEnabled r.name

/-- Runs each enabled rule on the document. -/
def Document.runs (d : Document) (c : Config) (rules : List Rule) : List Run :=
  (c.enabled rules).map fun r => ⟨r.name, r.evaluate d (c.optionsFor r.name)⟩

namespace Report

def ofRuns (runs : List Run) : Report where
  violations := runs.flatMap Run.violations
  errors := runs.filterMap Run.error?
  evaluated := runs.map (·.rule)

@[simp] theorem ofRuns_nil : ofRuns [] = ⟨[], [], []⟩ := rfl

theorem ofRuns_singleton_ok (rule : String) (lines : List Int) :
    ofRuns [⟨rule, .ok lines⟩] = ⟨lines.map fun line => ⟨rule, line⟩, [], [rule]⟩ := by
  simp [ofRuns, Run.violations, Run.error?]

theorem ofRuns_singleton_error (rule : String) (failure : Failure) :
    ofRuns [⟨rule, .error failure⟩] =
      ⟨[], [⟨rule, failure.label ++ ": " ++ failure.message⟩], [rule]⟩ := by
  simp [ofRuns, Run.violations, Run.error?]

theorem ofRuns_append (a b : List Run) :
    ofRuns (a ++ b) =
      ⟨(ofRuns a).violations ++ (ofRuns b).violations, (ofRuns a).errors ++ (ofRuns b).errors,
        (ofRuns a).evaluated ++ (ofRuns b).evaluated⟩ := by
  simp [ofRuns]

def isClean (r : Report) : Bool := r.violations.isEmpty && r.errors.isEmpty

/-- The names of the rules that ran and never failed, in the order they first ran. -/
def unfailed (r : Report) : List String :=
  (r.evaluated.filter (· ∉ r.errors.map (·.rule))).eraseDups

/-- The lines found by the rules, grouped by name. A rule that never failed has a group even if it
found nothing; other names have one as soon as a line is found under them. -/
def byRule (r : Report) : Groups :=
  r.violations.foldl Groups.add (r.unfailed.map fun name => (name, []))

end Report

/-- Checks a document against the enabled rules. -/
def Document.report (d : Document) (c : Config) (rules : List Rule) : Report :=
  .ofRuns (d.runs c rules)

end MarkdownCheck
