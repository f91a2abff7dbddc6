import MarkdownCheck.Proofs.Isolation
import MarkdownCheck.Proofs.LogMessages
import Mathlib.Algebra.GroupWithZero.Nat

/-!
# The log tells the same story as the report

Each run of a rule leaves one event in the log and one part of the report, and `Document.Ends` says
how the two belong together and what is written: a count with the lines found, or a failure with an
error.  Nothing else goes into the report (`ofRuns_eq_join`).

So the report can be checked against the log (`Report.ToldBy`): the failures it tells of are the
errors, one by one, and blocks of the sizes it counts make up the violations.  This goes run by run,
`toldBy_nil` and `Ends.toldBy_cons`. The main statement is `log_tells_report`.
-/

namespace MarkdownCheck

/-! ## One run -/

/-- How a run of a rule ends: the event in the log and what is written for it, and what the run adds
to the report. -/
inductive Document.Ends (d : Document) (c : Config) (r : Rule) :
    Event → String × String → Report → Prop
  | finished {lines : List Int} (h : r.Answers d (c.optionsFor r.name) lines) :
    d.Ends c r (.finished r.name lines.length)
      ("DEBUG", "   " ++ r.name ++ ": " ++ toString lines.length ++ " violation(s)")
      ⟨lines.map fun line => ⟨r.name, line⟩, [], [r.name]⟩
  | failed {failure : Failure} (h : r.Fails d (c.optionsFor r.name) failure) :
    d.Ends c r (.failed r.name failure)
      ("WARNING", "Rule " ++ r.name ++ " failed: " ++ failure.inspect)
      ⟨[], [⟨r.name, failure.label ++ ": " ++ failure.message⟩], [r.name]⟩

theorem ends_ofRun (d : Document) (c : Config) (r : Rule) :
    let run : Run := ⟨r.name, r.evaluate d (c.optionsFor r.name)⟩
    d.Ends c r (.ofRun run) (Event.ofRun run).record (.ofRuns [run]) := by
  cases hev : r.evaluate d (c.optionsFor r.name) with
  | ok lines =>
    intro run
    rw [Report.ofRuns_singleton_ok, Event.ofRun, Event.record_finished]
    exact .finished (Rule.evaluate_eq_ok_iff.mp hev)
  | error failure =>
    intro run
    rw [Report.ofRuns_singleton_error, Event.ofRun, Event.record_failed]
    exact .failed (Rule.evaluate_eq_error_iff.mp hev)

/-! ## A report in parts -/

namespace Report

/-- Reports put one after the other. -/
def join : List Report → Report
  | [] => ⟨[], [], []⟩
  | part :: rest => part ++ join rest

theorem ofRuns_eq_join (runs : List Run) :
    ofRuns runs = join (runs.map fun run => ofRuns [run]) := by
  induction runs with
  | nil => rfl
  | cons run rest ih =>
    rw [List.map_cons, join, ← ih]
    exact ofRuns_append [run] rest

end Report

/-! ## Events and what they stand for -/

namespace Event

/-- The rule whose run an event ends. -/
def rule? : Event → Option String
  | finished rule _ | failed rule _ => some rule
  | _ => none

/-- The number of lines that a run found, if it came to its end. -/
def count? : Event → Option Nat
  | finished _ count => some count
  | _ => none

/-- An event that tells of the failure behind an error. -/
def Explains (e : Event) (error : RuleError) : Prop :=
  ∃ failure : Failure, e = .failed error.rule failure ∧
    error.message = failure.label ++ ": " ++ failure.message

/-- An event that counts the violations found by one rule. -/
def Counts (e : Event) (block : List Violation) : Prop :=
  ∃ rule, e = .finished rule block.length ∧ ∀ v ∈ block, v.rule = rule

end Event

/-- A report that can be made out from the events that end the runs. -/
structure Report.ToldBy (r : Report) (events : List Event) : Prop where
  names : events.map Event.rule? = r.evaluated.map some
  failures : List.Forall₂ Event.Explains (events.filter (·.level = .warning)) r.errors
  sum_counts : (events.filterMap Event.count?).sum = r.violations.length
  blocks : ∃ blocks, blocks.flatten = r.violations ∧
    List.Forall₂ Event.Counts (events.filter (·.level = .debug)) blocks

theorem toldBy_nil : (⟨[], [], []⟩ : Report).ToldBy [] where
  names := rfl
  failures := .nil
  sum_counts := rfl
  blocks := ⟨[], rfl, .nil⟩

variable {d : Document} {c : Config} {r : Rule}

/-- One more run in front. -/
theorem Document.Ends.toldBy_cons {e : Event} {entry : String × String} {part rest : Report}
    {events : List Event} (h : d.Ends c r e entry part) (hrest : rest.ToldBy events) : (part ++ rest).ToldBy (e :: events) := by
  obtain ⟨hnames, hfailures, hsum, blocks, hflatten, hblocks⟩ := hrest
  cases h with
  | @finished lines _ =>
    -- the lines found come first among the violations, as a block of the size that the event counts
    let block : List Violation := lines.map fun line => ⟨r.name, line⟩
    have hblock : Event.Counts (.finished r.name lines.length) block := by
      refine ⟨r.name, by simp [block], fun v hv => ?_⟩
      obtain ⟨line, -, rfl⟩ := List.mem_map.mp hv
      rfl
    refine ⟨congrArg (some r.name :: ·) hnames, hfailures, ?_, block :: blocks, ?_, ?_⟩
    · show (lines.length :: events.filterMap Event.count?).sum = (block ++ rest.violations).length
      rw [List.sum_cons, hsum, List.length_append, List.length_map]
    · show block ++ blocks.flatten = block ++ rest.violations
      rw [hflatten]
    · exact .cons hblock hblocks
  | @failed failure _ =>
    exact ⟨congrArg (some r.name :: ·) hnames, .cons ⟨failure, rfl, rfl⟩ hfailures, hsum, blocks,
      hflatten, hblocks⟩

/-- A run that fails leaves a warning, and any other run does not. -/
theorem Document.Ends.level_eq {e : Event} {entry : String × String} {part : Report}
    (h : d.Ends c r e entry part) :
    e.level = if part.errors = [] then .debug else .warning := by
  cases h with
  | finished _ => rfl
  | failed _ => rfl

theorem levels_eq {rules : List Rule} {runs : List (Event × Report)}
    (h : List.Forall₂ (fun r run => d.Ends c r run.1 run.1.record run.2) rules runs) :
    runs.map (fun run => run.1.level) =
      runs.map fun run => if run.2.errors = [] then .debug else .warning := by
  induction h with
  | nil => rfl
  | cons hfirst _ ih => rw [List.map_cons, List.map_cons, hfirst.level_eq, ih]

theorem toldBy_join {rules : List Rule} {runs : List (Event × Report)}
    (h : List.Forall₂ (fun r run => d.Ends c r run.1 run.1.record run.2) rules runs) :
    (Report.join (runs.map (·.2))).ToldBy (runs.map (·.1)) := by
  induction h with
  | nil => exact toldBy_nil
  | cons hfirst _ ih => exact hfirst.toldBy_cons ih

/-! ## The whole log -/

/-- Each enabled rule runs once and leaves its event and its part of the report. -/
theorem exists_runs (d : Document) (c : Config) (rules : List Rule) :
    ∃ runs : List (Event × Report),
      List.Forall₂ (fun r run => d.Ends c r run.1 run.1.record run.2) (c.enabled rules) runs ∧
      (d.runs c rules).map Event.ofRun = runs.map (·.1) ∧
      d.report c rules = Report.join (runs.map (·.2)) := by
  refine ⟨(d.runs c rules).map fun run => (.ofRun run, .ofRuns [run]), ?_, ?_, ?_⟩
  · rw [Document.runs, List.map_map, List.forall₂_map_right_iff, List.forall₂_same]
    exact fun r _ => ends_ofRun d c r
  · rw [List.map_map]
    rfl
  · rw [List.map_map]
    exact Report.ofRuns_eq_join _

/-- **The log tells the same story as the report.** It warns of the configured names that no rule has,
then gives the number of lines, of rules that run and of rules given, and then has one event for each
rule that runs, in order and with its name: a count if the rule has an answer, or a warning if it
fails. So the warnings that follow belong to the errors, and the counts cut the violations into the
blocks that the rules found. -/
theorem log_tells_report (d : Document) (c : Config) (rules : List Rule) :
    let unknown := (c.rules.map (·.1)).filter fun name => ∀ r ∈ rules, upper r.name ≠ name
    ∃ runs : List (Event × Report),
      List.Forall₂ (fun r run => d.Ends c r run.1 run.1.record run.2) (c.enabled rules) runs ∧
      d.log c rules = unknown.map Event.unknownRule ++
        Event.started d.lines.length (d.report c rules).evaluated.length rules.length ::
          runs.map (·.1) ∧
      (d.log c rules).map Event.record = unknown.map (fun name =>
          ("WARNING", "Ignoring configuration for unknown rule " ++ quoted name)) ++
        ("INFO", "Linting " ++ toString d.lines.length ++ " lines with " ++
          toString (d.report c rules).evaluated.length ++ " of " ++ toString rules.length ++
          " rules") :: runs.map (fun run => run.1.record) ∧
      (d.log c rules).map Event.level = unknown.map (fun _ => Level.warning) ++
        Level.info :: runs.map (fun run => if run.2.errors = [] then .debug else .warning) ∧
      d.report c rules = Report.join (runs.map (·.2)) ∧
      (d.report c rules).ToldBy (runs.map (·.1)) := by
  intro unknown
  obtain ⟨runs, hends, hevents, hreport⟩ := exists_runs d c rules
  have hlog : d.log c rules = unknown.map Event.unknownRule ++
      Event.started d.lines.length (d.report c rules).evaluated.length rules.length ::
        runs.map (·.1) := by
    have hunknown : c.unknown rules = unknown := by
      refine List.filter_congr fun name _ => ?_
      simp
    have hcount : (d.report c rules).evaluated.length = (d.runs c rules).length :=
      List.length_map _
    rw [Document.log, hunknown, hcount, hevents]
  refine ⟨runs, hends, hlog, ?_, ?_, hreport, ?_⟩
  · rw [hlog, List.map_append, List.map_cons, List.map_map, List.map_map, Event.record_started]
    rfl
  · rw [hlog, List.map_append, List.map_cons, List.map_map, List.map_map, ← levels_eq hends]
    rfl
  · rw [hreport]
    exact toldBy_join hends

end MarkdownCheck
