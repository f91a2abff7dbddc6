import MarkdownCheck.Text.UpperCase
import MarkdownCheck.Value.Reading

/-!
# Configuration

A configuration says which rules run and with what settings: a setting for each rule it names, and a
switch for all others. `Config.ofParts` and `Config.ofFlat` read one from raw values or list every
issue they have. Names of rules are kept in upper case.
-/

namespace MarkdownCheck

/-- What a configuration says about a rule: on or off, or on with settings of its own. -/
inductive Setting where
  | switch (on : Bool)
  | options (fields : Fields)

/-- Which rules run, and with what settings. -/
structure Config where
  /-- Whether rules run that are not named. -/
  fallback : Bool
  /-- The settings by name, in the order they were given. -/
  rules : List (String × Setting)

/-! ### Reading -/

/-- Reads what a configuration says about a rule. -/
def Setting.read : Value → Except Problem Setting
  | .object fields => .ok (.options fields)
  | v => v.toBool.map .switch

/-- The raw value of a setting. -/
def Setting.write : Setting → Value
  | switch on => .bool on
  | options fields => .object fields

namespace Config

/-- What a rejection calls a configuration. -/
def title : String := "LintConfig"

/-- The key of the switch for rules that are not named. -/
def fallbackKey : String := "default"

def readFallback : Option Value → Except (List Issue) Bool
  | none => .ok true
  | some v => v.toBool.mapError fun problem => [⟨[fallbackKey], problem⟩]

/-- The issues of a setting that is neither a switch nor an object: one for each of the two. -/
def settingIssues (name : String) (problem : Problem) : List Issue :=
  [⟨["rules", name, "bool"], problem⟩, ⟨["rules", name, "dict[str,any]"], .notObject⟩]

/-- Reads all settings, or collects the issues of all that cannot be read. -/
def readSettings : Fields → Except (List Issue) (List (String × Setting))
  | [] => .ok []
  | (name, v) :: rest =>
    match Setting.read v, readSettings rest with
    | .ok setting, .ok later => .ok ((upper name, setting) :: later)
    | .ok _, .error issues => .error issues
    | .error problem, .ok _ => .error (settingIssues name problem)
    | .error problem, .error issues => .error (settingIssues name problem ++ issues)

/-- The first name that also occurs before, in `seen` or in the list itself. -/
def firstRepeated (seen : List String) : List String → Option String
  | [] => none
  | name :: rest => if name ∈ seen then some name else firstRepeated (name :: seen) rest

theorem firstRepeated_eq_none_iff {seen names : List String} :
    firstRepeated seen names = none ↔ names.Nodup ∧ ∀ name ∈ names, name ∉ seen := by
  induction names generalizing seen with
  | nil => simp [firstRepeated]
  | cons name rest ih =>
    by_cases h : name ∈ seen
    · simp [firstRepeated, h]
    · simp only [firstRepeated, h, if_false, ih, List.nodup_cons, List.mem_cons]
      grind

/-- Reads the settings, whose names have to differ in more than case. -/
def readRules (fields : Fields) : Except (List Issue) (List (String × Setting)) :=
  (readSettings fields).bind fun rules =>
    match firstRepeated [] (rules.map (·.1)) with
    | none => .ok rules
    | some name => .error [⟨["rules"], .repeatedRule name⟩]

/-- Reads a configuration from the switch and the settings. -/
def ofParts (fallback : Option Value) (rules : Fields) : Except Rejection Config :=
  match readFallback fallback, readRules rules with
  | .ok on, .ok settings => .ok ⟨on, settings⟩
  | .ok _, .error issues => .error ⟨title, issues⟩
  | .error issues, .ok _ => .error ⟨title, issues⟩
  | .error issues, .error more => .error ⟨title, issues ++ more⟩

/-- Reads a configuration from a flat layout, in which the switch stands among the settings. -/
def ofFlat (fields : Fields) : Except Rejection Config :=
  ofParts (fields.lookup fallbackKey) (fields.filter (·.1 ≠ fallbackKey))

/-! ### Looking up -/

/-- The setting for a rule, whatever the case of its name. -/
def setting? (c : Config) (name : String) : Option Setting := c.rules.lookup (upper name)

/-- Whether a rule runs. -/
def isEnabled (c : Config) (name : String) : Bool :=
  match c.setting? name with
  | none => c.fallback
  | some (.switch on) => on
  | some (.options _) => true

/-- The settings that a rule runs with. -/
def optionsFor (c : Config) (name : String) : Fields :=
  match c.setting? name with
  | some (.options fields) => fields
  | _ => []

end Config

end MarkdownCheck
