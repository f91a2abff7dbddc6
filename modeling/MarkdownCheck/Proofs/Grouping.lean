import MarkdownCheck.Report
import MarkdownCheck.Rule.Table
import Mathlib.Algebra.GroupWithZero.Nat
import Mathlib.Data.List.Basic

/-!
# Grouping by rule loses and duplicates nothing

`Report.byRule` starts with an empty group for each rule that never failed and adds the lines found
one at a time.  The facts about it come from what one step does:

* `names_add`, `names_foldl_add`: a name that is new goes behind the others, so all of them are
  distinct and stand in the order they came up;
* `linesUnder_add`, `linesUnder_foldl_add`: under a name stand the lines found under it, in order.

Rules may share a name, and one of them may fail where another one finds lines. What is special about
a report on a document, as opposed to any report, is that every violation and every error bears the
name of a rule that ran. The main statement is `byRule_wellGrouped`.
-/

namespace MarkdownCheck

/-! ## Lists without repetitions -/

theorem nodup_eraseDups : ∀ names : List String, names.eraseDups.Nodup
  | [] => List.nodup_nil
  | name :: rest => by
    rw [List.eraseDups_cons, List.nodup_cons]
    refine ⟨?_, nodup_eraseDups _⟩
    simp [List.mem_eraseDups]
termination_by names => names.length
decreasing_by exact Nat.lt_succ_of_le (List.length_filter_le _ _)

theorem eraseDups_eq_self {names : List String} (h : names.Nodup) : names.eraseDups = names := by
  induction names with
  | nil => rfl
  | cons name rest ih =>
    obtain ⟨hname, hrest⟩ := List.nodup_cons.mp h
    have hfilter : rest.filter (fun other => !other == name) = rest := by
      refine List.filter_eq_self.mpr fun other hother => ?_
      simp [ne_of_mem_of_not_mem hother hname]
    rw [List.eraseDups_cons, hfilter, ih hrest]

/-- What adds nothing may be left out. -/
theorem flatMap_filter_of_nil {names : List String} {p : String → Bool}
    {f : String → List Violation} (h : ∀ name ∈ names, p name = false → f name = []) :
    (names.filter p).flatMap f = names.flatMap f := by
  induction names with
  | nil => rfl
  | cons name rest ih =>
    have hrest := ih fun other hother => h other (List.mem_cons_of_mem _ hother)
    cases hp : p name with
    | true => rw [List.filter_cons_of_pos hp, List.flatMap_cons, List.flatMap_cons, hrest]
    | false =>
      rw [List.filter_cons_of_neg (by simp [hp]), List.flatMap_cons, hrest,
        h name List.mem_cons_self hp, List.nil_append]

/-- Sorting a list by names that are distinct, and among which are all that occur, only reorders it. -/
theorem flatMap_filter_perm {names : List String} (hnodup : names.Nodup) {vs : List Violation}
    (hvs : ∀ v ∈ vs, v.rule ∈ names) :
    (names.flatMap fun name => vs.filter (·.rule = name)).Perm vs := by
  induction names generalizing vs with
  | nil =>
    have hnil : vs = [] := List.eq_nil_iff_forall_not_mem.mpr fun v hv => by simpa using hvs v hv
    rw [hnil]
    exact .nil
  | cons name rest ih =>
    obtain ⟨hname, hrest⟩ := List.nodup_cons.mp hnodup
    -- the other names only see what is left without this one
    have hothers : ∀ other ∈ rest, vs.filter (·.rule = other) =
        (vs.filter fun v => !decide (v.rule = name)).filter (·.rule = other) := by
      intro other hother
      have hne : other ≠ name := ne_of_mem_of_not_mem hother hname
      rw [List.filter_filter]
      refine List.filter_congr fun v _ => ?_
      by_cases hv : v.rule = other
      · simp [hv, hne]
      · simp [hv]
    have hleft : ∀ v ∈ vs.filter fun v => !decide (v.rule = name), v.rule ∈ rest := by
      intro v hv
      obtain ⟨hmem, hne⟩ := List.mem_filter.mp hv
      exact (List.mem_cons.mp (hvs v hmem)).resolve_left (by simpa using hne)
    rw [List.flatMap_cons, List.flatMap_congr hothers]
    exact ((ih hrest hleft).append_left _).trans (List.filter_append_perm _ vs)

/-! ## Groups -/

namespace Groups

variable (groups : Groups) (v : Violation) (vs : List Violation)

/-- The names there are groups for. -/
def names : List String := groups.map (·.1)

/-- The lines in the group of that name, if there is one. -/
def linesUnder (name : String) : List Int := (groups.lookup name).getD []

/-- The lines of all groups, each with its name again. -/
def flatten : List Violation := groups.flatMap fun p => p.2.map fun line => ⟨p.1, line⟩

theorem names_add :
    (groups.add v).names = if v.rule ∈ groups.names then groups.names
      else groups.names ++ [v.rule] := by
  induction groups with
  | nil => rfl
  | cons p rest ih =>
    obtain ⟨name, lines⟩ := p
    by_cases h : name = v.rule
    · simp [add, names, h]
    · unfold names at ih ⊢
      rw [add, if_neg h, List.map_cons, ih, List.map_cons]
      by_cases hmem : v.rule ∈ rest.map (·.1)
      · simp [hmem]
      · simp [hmem, Ne.symm h]

theorem linesUnder_cons_self (name : String) (lines : List Int) (rest : Groups) :
    linesUnder ((name, lines) :: rest) name = lines := by
  simp [linesUnder]

theorem linesUnder_cons_of_ne {name first : String} (h : name ≠ first) (lines : List Int)
    (rest : Groups) : linesUnder ((first, lines) :: rest) name = rest.linesUnder name := by
  rw [linesUnder, List.lookup_cons, beq_false_of_ne h, linesUnder]

theorem linesUnder_add (name : String) :
    (groups.add v).linesUnder name =
      groups.linesUnder name ++ if v.rule = name then [v.line] else [] := by
  induction groups with
  | nil =>
    by_cases h : v.rule = name
    · rw [add, ← h, linesUnder_cons_self, if_pos rfl]
      rfl
    · rw [add, linesUnder_cons_of_ne (Ne.symm h), if_neg h, List.append_nil]
  | cons p rest ih =>
    obtain ⟨first, lines⟩ := p
    by_cases hfirst : first = v.rule
    · rw [add, if_pos hfirst]
      by_cases hname : name = first
      · rw [hname, linesUnder_cons_self, linesUnder_cons_self, if_pos hfirst.symm]
      · have hne : ¬ v.rule = name := fun heq => hname (heq ▸ hfirst.symm)
        rw [linesUnder_cons_of_ne hname, linesUnder_cons_of_ne hname, if_neg hne, List.append_nil]
    · rw [add, if_neg hfirst]
      by_cases hname : name = first
      · have hne : ¬ v.rule = name := fun heq => hfirst (heq ▸ hname.symm)
        rw [hname, linesUnder_cons_self, linesUnder_cons_self, if_neg (hname ▸ hne),
          List.append_nil]
      · rw [linesUnder_cons_of_ne hname, linesUnder_cons_of_ne hname, ih]

/-- A walk through the violations puts every new name behind those before. -/
theorem names_foldl_add :
    names (vs.foldl add groups) =
      groups.names ++ ((vs.map (·.rule)).filter (· ∉ groups.names)).eraseDups := by
  induction vs generalizing groups with
  | nil => simp
  | cons v rest ih =>
    rw [List.foldl_cons, ih, names_add, List.map_cons]
    by_cases h : v.rule ∈ groups.names
    · rw [if_pos h, List.filter_cons_of_neg (by simp [h])]
    · rw [if_neg h, List.filter_cons_of_pos (by simp [h]), List.eraseDups_cons, List.append_assoc,
        List.singleton_append, List.filter_filter]
      have hfilter : (rest.map (·.rule)).filter (fun name => decide (name ∉ groups.names ++ [v.rule])) =
          (rest.map (·.rule)).filter fun name => !name == v.rule && decide (name ∉ groups.names) := by
        refine List.filter_congr fun name _ => ?_
        by_cases hname : name = v.rule
        · simp [hname]
        · simp [hname]
      rw [hfilter]

/-- A walk through the violations puts every line under its name. -/
theorem linesUnder_foldl_add (name : String) :
    linesUnder (vs.foldl add groups) name =
      groups.linesUnder name ++ (vs.filter (·.rule = name)).map (·.line) := by
  induction vs generalizing groups with
  | nil => simp
  | cons v rest ih =>
    rw [List.foldl_cons, ih, linesUnder_add, List.append_assoc]
    by_cases h : v.rule = name
    · simp [h]
    · simp [h]

variable {groups}

theorem eq_linesUnder_of_mem (hnodup : groups.names.Nodup) {p : String × List Int}
    (hp : p ∈ groups) : p.2 = groups.linesUnder p.1 := by
  induction groups with
  | nil => simp at hp
  | cons q rest ih =>
    obtain ⟨name, lines⟩ := q
    obtain ⟨hname, hrest⟩ := List.nodup_cons.mp hnodup
    rcases List.mem_cons.mp hp with rfl | hp'
    · rw [linesUnder_cons_self]
    · have hmem : p.1 ∈ names rest := List.mem_map_of_mem hp'
      rw [ih hrest hp', linesUnder_cons_of_ne (ne_of_mem_of_not_mem hmem hname)]

theorem linesUnder_map_nil (names : List String) (name : String) :
    linesUnder (names.map fun n => (n, [])) name = [] := by
  induction names with
  | nil => rfl
  | cons first rest ih =>
    rw [List.map_cons]
    by_cases h : name = first
    · rw [h, linesUnder_cons_self]
    · rw [linesUnder_cons_of_ne h, ih]

end Groups

/-! ## Any report -/

namespace Report

variable (r : Report)

theorem names_byRule :
    r.byRule.names =
      r.unfailed ++ ((r.violations.map (·.rule)).filter (· ∉ r.unfailed)).eraseDups := by
  have hstart : Groups.names (r.unfailed.map fun name => (name, [])) = r.unfailed := by
    simp [Groups.names, Function.comp_def]
  rw [byRule, Groups.names_foldl_add, hstart]

theorem nodup_names_byRule : r.byRule.names.Nodup := by
  rw [names_byRule]
  refine List.nodup_append.mpr ⟨nodup_eraseDups _, nodup_eraseDups _, ?_⟩
  rintro name hname _ hother rfl
  rw [List.mem_eraseDups, List.mem_filter] at hother
  simp [hname] at hother

theorem lines_of_mem_byRule {p : String × List Int} (hp : p ∈ r.byRule) :
    p.2 = (r.violations.filter (·.rule = p.1)).map (·.line) := by
  rw [Groups.eq_linesUnder_of_mem r.nodup_names_byRule hp, byRule, Groups.linesUnder_foldl_add,
    Groups.linesUnder_map_nil, List.nil_append]

theorem rule_mem_names_byRule {v : Violation} (hv : v ∈ r.violations) : v.rule ∈ r.byRule.names := by
  rw [names_byRule, List.mem_append, List.mem_eraseDups, List.mem_filter]
  by_cases h : v.rule ∈ r.unfailed
  · exact .inl h
  · exact .inr ⟨List.mem_map_of_mem hv, by simp [h]⟩

/-- The groups hold what was found under their names. -/
theorem flatten_byRule :
    r.byRule.flatten = r.byRule.names.flatMap fun name => r.violations.filter (·.rule = name) := by
  unfold Groups.flatten Groups.names
  rw [List.flatMap_map]
  refine List.flatMap_congr fun p hp => ?_
  rw [r.lines_of_mem_byRule hp, List.map_map]
  refine (List.map_congr_left fun v hv => ?_).trans (List.map_id _)
  have hrule : v.rule = p.1 := by simpa using (List.mem_filter.mp hv).2
  rw [Function.comp_apply, ← hrule]
  rfl

/-- Nothing found is lost by grouping, and nothing is there twice. -/
theorem flatten_byRule_perm : r.byRule.flatten.Perm r.violations := by
  rw [flatten_byRule]
  exact flatMap_filter_perm r.nodup_names_byRule fun v hv => r.rule_mem_names_byRule hv

theorem sum_lengths_byRule : (r.byRule.map fun p => p.2.length).sum = r.violations.length := by
  rw [← r.flatten_byRule_perm.length_eq, Groups.flatten, List.length_flatMap]
  simp

end Report

/-! ## Reports of runs -/

theorem Run.rule_eq_of_mem {run : Run} {v : Violation} (h : v ∈ run.violations) :
    v.rule = run.rule := by
  unfold Run.violations at h
  cases hout : run.outcome with
  | error failure => simp [hout] at h
  | ok lines =>
    simp only [hout, List.mem_map] at h
    obtain ⟨line, -, rfl⟩ := h
    rfl

/-- A run that ends in an error finds nothing. -/
theorem Run.eq_of_error {run : Run} {e : RuleError} (h : run.error? = some e) :
    e.rule = run.rule ∧ run.violations = [] := by
  unfold Run.error? at h
  unfold Run.violations
  cases hout : run.outcome with
  | ok lines => simp [hout] at h
  | error failure =>
    simp only [hout, Option.some.injEq] at h
    subst h
    exact ⟨rfl, rfl⟩

namespace Report

/-- Every violation and every error bears the name of a rule that ran. -/
structure Attributed (r : Report) : Prop where
  violations : ∀ v ∈ r.violations, v.rule ∈ r.evaluated
  errors : ∀ e ∈ r.errors, e.rule ∈ r.evaluated

theorem attributed_ofRuns (runs : List Run) : (ofRuns runs).Attributed where
  violations v hv := by
    obtain ⟨run, hrun, hv⟩ := List.mem_flatMap.mp hv
    rw [Run.rule_eq_of_mem hv]
    exact List.mem_map_of_mem hrun
  errors e he := by
    obtain ⟨run, hrun, he⟩ := List.mem_filterMap.mp he
    rw [(Run.eq_of_error he).1]
    exact List.mem_map_of_mem hrun

theorem mem_unfailed_iff {r : Report} {name : String} :
    name ∈ r.unfailed ↔ name ∈ r.evaluated ∧ name ∉ r.errors.map (·.rule) := by
  simp [unfailed, List.mem_eraseDups]

theorem isClean_iff {r : Report} : r.isClean = true ↔ r.violations = [] ∧ r.errors = [] := by
  simp [isClean]

section Attributed

variable {r : Report} (hr : r.Attributed)
include hr

/-- The names that come after the unfailed ones are shared by a rule that failed and another one
that found lines. -/
theorem Attributed.names_byRule : r.byRule.names =
    r.unfailed ++
      ((r.violations.map (·.rule)).filter (· ∈ r.errors.map (·.rule))).eraseDups := by
  have hfilter : (r.violations.map (·.rule)).filter (· ∉ r.unfailed) =
      (r.violations.map (·.rule)).filter (· ∈ r.errors.map (·.rule)) := by
    refine List.filter_congr fun name hname => ?_
    obtain ⟨v, hv, rfl⟩ := List.mem_map.mp hname
    simp only [mem_unfailed_iff, hr.violations v hv, true_and, not_not]
  rw [Report.names_byRule, hfilter]

theorem Attributed.mem_names_byRule_iff {name : String} :
    name ∈ r.byRule.names ↔ name ∈ r.evaluated ∧
      (name ∉ r.errors.map (·.rule) ∨ name ∈ r.violations.map (·.rule)) := by
  constructor
  · intro h
    rw [Report.names_byRule, List.mem_append, List.mem_eraseDups, List.mem_filter] at h
    rcases h with h | ⟨h, -⟩
    · obtain ⟨hran, hok⟩ := mem_unfailed_iff.mp h
      exact ⟨hran, .inl hok⟩
    · obtain ⟨v, hv, rfl⟩ := List.mem_map.mp h
      exact ⟨hr.violations v hv, .inr h⟩
  · rintro ⟨hran, hok | h⟩
    · rw [Report.names_byRule]
      exact List.mem_append_left _ (mem_unfailed_iff.mpr ⟨hran, hok⟩)
    · obtain ⟨v, hv, rfl⟩ := List.mem_map.mp h
      exact r.rule_mem_names_byRule hv

theorem Attributed.isClean_iff_byRule :
    r.isClean = true ↔
      (∀ name, name ∈ r.byRule.names ↔ name ∈ r.evaluated) ∧ ∀ p ∈ r.byRule, p.2 = [] := by
  rw [isClean_iff]
  constructor
  · rintro ⟨hviolations, herrors⟩
    refine ⟨fun name => ?_, fun p hp => ?_⟩
    · rw [hr.mem_names_byRule_iff, herrors]
      simp
    · rw [r.lines_of_mem_byRule hp, hviolations]
      rfl
  · rintro ⟨hnames, hempty⟩
    have hviolations : r.violations = [] := by
      rw [← List.length_eq_zero_iff, ← r.sum_lengths_byRule, List.sum_eq_zero_iff_forall_eq_nat]
      intro n hn
      obtain ⟨p, hp, rfl⟩ := List.mem_map.mp hn
      rw [hempty p hp, List.length_nil]
    refine ⟨hviolations, List.eq_nil_iff_forall_not_mem.mpr fun e he => ?_⟩
    -- a rule that failed ran, so it has a group, though it found nothing
    have hgroup := (hnames e.rule).mpr (hr.errors e he)
    rw [hr.mem_names_byRule_iff, hviolations] at hgroup
    rcases hgroup.2 with hok | hfound
    · exact hok (List.mem_map_of_mem he)
    · simp at hfound

end Attributed

/-! ### Rules with names of their own -/

section Distinct

variable {runs : List Run} (hnodup : (runs.map (·.rule)).Nodup)
include hnodup

/-- Where no two rules share a name, what is found under it is what the rule found. -/
theorem filter_violations_of_mem {run : Run} (hrun : run ∈ runs) :
    (ofRuns runs).violations.filter (·.rule = run.rule) = run.violations := by
  have hown : run.violations.filter (·.rule = run.rule) = run.violations :=
    List.filter_eq_self.mpr fun v hv => by simpa using Run.rule_eq_of_mem hv
  have hother : ∀ other : Run, other.rule ≠ run.rule →
      other.violations.filter (·.rule = run.rule) = [] := by
    intro other hne
    refine List.filter_eq_nil_iff.mpr fun v hv => ?_
    rw [Run.rule_eq_of_mem hv]
    simpa using hne
  unfold ofRuns
  induction runs with
  | nil => simp at hrun
  | cons first rest ih =>
    obtain ⟨hfirst, hrest⟩ := List.nodup_cons.mp hnodup
    have hne : ∀ other ∈ rest, other.rule ≠ first.rule := by
      intro other hmem heq
      exact hfirst (List.mem_map.mpr ⟨other, hmem, heq⟩)
    rw [List.flatMap_cons, List.filter_append]
    rcases List.mem_cons.mp hrun with rfl | hmem
    · have hnone : (rest.flatMap Run.violations).filter (·.rule = run.rule) = [] := by
        rw [List.filter_flatMap, List.flatMap_eq_nil_iff]
        intro other hmem
        exact hother other (hne other hmem)
      rw [hown, hnone, List.append_nil]
    · rw [hother first (hne run hmem).symm, List.nil_append]
      exact ih hrest hmem

theorem filter_violations_of_failed {name : String}
    (h : name ∈ (ofRuns runs).errors.map (·.rule)) :
    (ofRuns runs).violations.filter (·.rule = name) = [] := by
  obtain ⟨e, he, rfl⟩ := List.mem_map.mp h
  obtain ⟨run, hrun, herror⟩ := List.mem_filterMap.mp he
  obtain ⟨hrule, hnone⟩ := Run.eq_of_error herror
  rw [hrule, filter_violations_of_mem hnodup hrun, hnone]

/-- Where no two rules share a name, those that ran without a failure have the only groups. -/
theorem names_byRule_of_nodup : (ofRuns runs).byRule.names =
    (ofRuns runs).evaluated.filter (· ∉ (ofRuns runs).errors.map (·.rule)) := by
  have hshared : ((ofRuns runs).violations.map (·.rule)).filter
      (· ∈ (ofRuns runs).errors.map (·.rule)) = [] := by
    refine List.filter_eq_nil_iff.mpr fun name hname hfailed => ?_
    obtain ⟨v, hv, rfl⟩ := List.mem_map.mp hname
    have hnone := filter_violations_of_failed hnodup (of_decide_eq_true hfailed)
    exact List.filter_eq_nil_iff.mp hnone v hv (by simp)
  rw [(attributed_ofRuns runs).names_byRule, hshared, List.eraseDups_nil, List.append_nil]
  exact eraseDups_eq_self (hnodup.sublist List.filter_sublist)

theorem flatten_byRule_eq : (ofRuns runs).byRule.flatten = (ofRuns runs).violations := by
  rw [flatten_byRule, names_byRule_of_nodup hnodup, flatMap_filter_of_nil]
  · show (runs.map (·.rule)).flatMap _ = runs.flatMap Run.violations
    rw [List.flatMap_map]
    exact List.flatMap_congr fun run hrun => filter_violations_of_mem hnodup hrun
  · intro name _ hfailed
    exact filter_violations_of_failed hnodup (by simpa using hfailed)

end Distinct

/-! ## Documents -/

/-- The groups of a report hold what it holds, and in its order. -/
structure WellGrouped (r : Report) : Prop where
  nodup : r.byRule.names.Nodup
  mem_names_iff : ∀ name, name ∈ r.byRule.names ↔ name ∈ r.evaluated ∧
    (name ∉ r.errors.map (·.rule) ∨ name ∈ r.violations.map (·.rule))
  lines_eq : ∀ p ∈ r.byRule, p.2 = (r.violations.filter (·.rule = p.1)).map (·.line)
  /-- Names without a failure come first, as they first ran, then the others, as they first
  occur among the violations. -/
  names_eq : r.byRule.names =
    (r.evaluated.filter (· ∉ r.errors.map (·.rule))).eraseDups ++
      ((r.violations.map (·.rule)).filter (· ∈ r.errors.map (·.rule))).eraseDups
  sum_lengths : (r.byRule.map fun p => p.2.length).sum = r.violations.length
  flatten_eq : r.evaluated.Nodup → r.byRule.flatten = r.violations
  isClean_iff : r.isClean = true ↔
    (∀ name, name ∈ r.byRule.names ↔ name ∈ r.evaluated) ∧ ∀ p ∈ r.byRule, p.2 = []

end Report

/-- **Grouping loses and duplicates nothing**, whatever the rules are called and however many of
those that share a name fail. -/
theorem byRule_wellGrouped (d : Document) (c : Config) (rules : List Rule) :
    (d.report c rules).WellGrouped where
  nodup := Report.nodup_names_byRule _
  mem_names_iff _ := (Report.attributed_ofRuns _).mem_names_byRule_iff
  lines_eq _ hp := Report.lines_of_mem_byRule _ hp
  names_eq := (Report.attributed_ofRuns _).names_byRule
  sum_lengths := Report.sum_lengths_byRule _
  flatten_eq hnodup := Report.flatten_byRule_eq hnodup
  isClean_iff := (Report.attributed_ofRuns _).isClean_iff_byRule

/-- A list on no line of the document, so that one rule fails where another one finds a tab. -/
theorem byRule_wellGrouped_one_failing :
    let d : Document :=
      { lines := ["\ta", "b", "\t"].map String.toList
        tokens := [{ kind := .bulletListOpen, line := 7 }] }
    let report := d.report ⟨true, []⟩ [Rule.listStart, Rule.hardTabs]
    report.evaluated.Nodup ∧ report.byRule.flatten = report.violations := by
  intro d report
  have hnodup : report.evaluated.Nodup := by decide
  exact ⟨hnodup, (byRule_wellGrouped d ⟨true, []⟩ _).flatten_eq hnodup⟩

/-- Two rules with one name, one of which failed, and a rule that found nothing. -/
example :
    (⟨[⟨"B", 4⟩, ⟨"A", 3⟩, ⟨"A", 5⟩, ⟨"B", 1⟩], [⟨"B", "TypeError: "⟩], ["B", "A", "C", "B", "B"]⟩ :
      Report).byRule = [("A", [3, 5]), ("C", []), ("B", [4, 1])] := by
  decide

end MarkdownCheck
