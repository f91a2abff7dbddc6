import MarkdownCheck.Proofs.Evaluation
import MarkdownCheck.Report

/-!
# Rules do not disturb each other

A report is put together rule by rule. `Contributes` says what one rule adds to it: nothing if it is
disabled, its name and its answer if it has one, its name and one error if it fails.  The main
statement, `report_around_rule`, cuts a list of rules at any place: the report is that of the rules
before, then what the rule there contributes, then that of the rules after.  What a rule found before
it broke off is in none of the three.
-/

namespace MarkdownCheck

instance : Append Report where
  append a b :=
    { violations := a.violations ++ b.violations
      errors := a.errors ++ b.errors
      evaluated := a.evaluated ++ b.evaluated }

/-- What a rule adds to the report on a document. -/
inductive Document.Contributes (d : Document) (c : Config) (r : Rule) : Report → Prop
  | disabled (h : c.isEnabled r.name = false) : d.Contributes c r ⟨[], [], []⟩
  | answered {lines : List Int} (h : c.isEnabled r.name = true)
    (hans : r.Answers d (c.optionsFor r.name) lines) :
    d.Contributes c r ⟨lines.map fun line => ⟨r.name, line⟩, [], [r.name]⟩
  | failed {failure : Failure} (h : c.isEnabled r.name = true)
    (hfail : r.Fails d (c.optionsFor r.name) failure) :
    d.Contributes c r ⟨[], [⟨r.name, failure.label ++ ": " ++ failure.message⟩], [r.name]⟩

variable {d : Document} {c : Config} {r : Rule}

/-! ## One rule -/

theorem report_singleton_of_disabled (h : c.isEnabled r.name = false) :
    d.report c [r] = ⟨[], [], []⟩ := by
  simp [Document.report, Document.runs, Config.enabled, h]

theorem report_singleton_of_ok {lines : List Int} (h : c.isEnabled r.name = true)
    (hok : r.evaluate d (c.optionsFor r.name) = .ok lines) :
    d.report c [r] = ⟨lines.map fun line => ⟨r.name, line⟩, [], [r.name]⟩ := by
  have hruns : d.runs c [r] = [⟨r.name, .ok lines⟩] := by
    simp [Document.runs, Config.enabled, h, hok]
  rw [Document.report, hruns, Report.ofRuns_singleton_ok]

theorem report_singleton_of_error {failure : Failure} (h : c.isEnabled r.name = true)
    (herr : r.evaluate d (c.optionsFor r.name) = .error failure) :
    d.report c [r] = ⟨[], [⟨r.name, failure.label ++ ": " ++ failure.message⟩], [r.name]⟩ := by
  have hruns : d.runs c [r] = [⟨r.name, .error failure⟩] := by
    simp [Document.runs, Config.enabled, h, herr]
  rw [Document.report, hruns, Report.ofRuns_singleton_error]

/-- A rule contributes what the report on it alone holds, and nothing else. -/
theorem contributes_iff {part : Report} : d.Contributes c r part ↔ part = d.report c [r] := by
  constructor
  · rintro (h | ⟨h, hans⟩ | ⟨h, hfail⟩)
    · rw [report_singleton_of_disabled h]
    · rw [report_singleton_of_ok h (Rule.evaluate_eq_ok_iff.mpr hans)]
    · rw [report_singleton_of_error h (Rule.evaluate_eq_error_iff.mpr hfail)]
  · rintro rfl
    cases h : c.isEnabled r.name with
    | false =>
      rw [report_singleton_of_disabled h]
      exact .disabled h
    | true =>
      cases hev : r.evaluate d (c.optionsFor r.name) with
      | ok lines =>
        rw [report_singleton_of_ok h hev]
        exact .answered h (Rule.evaluate_eq_ok_iff.mp hev)
      | error failure =>
        rw [report_singleton_of_error h hev]
        exact .failed h (Rule.evaluate_eq_error_iff.mp hev)

/-! ## A list of rules -/

theorem report_append (d : Document) (c : Config) (before after : List Rule) :
    d.report c (before ++ after) = d.report c before ++ d.report c after := by
  simp only [Document.report, Document.runs, Config.enabled, List.filter_append, List.map_append,
    Report.ofRuns_append]
  rfl

/-- **Isolation of a rule.** Wherever a rule stands among others, the report holds what the rules
before it yield, what the rule contributes, and what the rules after it yield, and a rule contributes
exactly one thing. -/
theorem report_around_rule (d : Document) (c : Config) (before : List Rule) (r : Rule)
    (after : List Rule) :
    ∃ part, (∀ other, d.Contributes c r other ↔ other = part) ∧
      d.report c (before ++ [r] ++ after) = d.report c before ++ part ++ d.report c after := by
  refine ⟨d.report c [r], fun _ => contributes_iff, ?_⟩
  rw [report_append, report_append]

end MarkdownCheck
