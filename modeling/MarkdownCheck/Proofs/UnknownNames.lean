import MarkdownCheck.Proofs.ConfigMeaning
import MarkdownCheck.Proofs.LogMessages
import MarkdownCheck.Rule.Table

/-!
# A configured name is reported or governs a rule

Names are compared in upper case in three places, each by a search of its own: the log reports a
configured name that no rule has, `Rule.find` looks for the first rule of a name, and a rule that
runs looks up its setting.  The three agree on every name in a configuration, in whatever case it was
written: either the name is reported once and no rule is found under it, or it is not reported, a rule
is found, and that rule is treated as was written for the name (`configured_name_reported_or_governs`).
-/

namespace MarkdownCheck

/-! ## Finding a rule -/

namespace Rule

variable {rules : List Rule} {name : String} {r : Rule}

/-- The first of the rules that goes by a name. -/
def IsFirst (rules : List Rule) (name : String) (r : Rule) : Prop :=
  ∃ before after, rules = before ++ r :: after ∧ upper r.name = upper name ∧
    ∀ other ∈ before, upper other.name ≠ upper name

theorem IsFirst.mem (h : IsFirst rules name r) : r ∈ rules := by
  obtain ⟨before, after, rfl, -, -⟩ := h
  exact List.mem_append_right _ List.mem_cons_self

theorem IsFirst.name_eq (h : IsFirst rules name r) : upper r.name = upper name := by
  obtain ⟨_, _, _, hname, _⟩ := h
  exact hname

theorem find_eq_ok_iff : find rules name = .ok r ↔ IsFirst rules name r := by
  have hsearch : rules.find? (fun r => upper r.name = upper name) = some r ↔
      IsFirst rules name r := by
    rw [List.find?_eq_some_iff_append]
    simp only [decide_eq_true_eq, Bool.not_eq_true', decide_eq_false_iff_not]
    constructor
    · rintro ⟨hname, before, after, hrules, hbefore⟩
      exact ⟨before, after, hrules, hname, hbefore⟩
    · rintro ⟨before, after, hrules, hname, hbefore⟩
      exact ⟨hname, before, after, hrules, hbefore⟩
  rw [← hsearch, find]
  cases rules.find? (fun r => upper r.name = upper name) <;> simp

theorem find_eq_error_iff {fault : Fault} :
    find rules name = .error fault ↔
      fault = .unknownRule name ∧ ∀ r ∈ rules, upper r.name ≠ upper name := by
  have hsearch : rules.find? (fun r => upper r.name = upper name) = none ↔
      ∀ r ∈ rules, upper r.name ≠ upper name := by
    simp
  rw [← hsearch, find]
  cases rules.find? (fun r => upper r.name = upper name) <;> simp [eq_comm]

theorem isFirst_upper : IsFirst rules (upper name) r ↔ IsFirst rules name r := by
  rw [IsFirst, upper_upper]
  rfl

theorem isOk_find_eq_false_iff :
    (find rules name).isOk = false ↔ ∀ r ∈ rules, upper r.name ≠ upper name := by
  cases h : find rules name with
  | ok r =>
    have hfirst := find_eq_ok_iff.mp h
    simp only [Except.isOk, Except.toBool, Bool.true_eq_false, false_iff]
    exact fun hnone => hnone r hfirst.mem hfirst.name_eq
  | error fault => simpa [Except.isOk, Except.toBool] using (find_eq_error_iff.mp h).2

end Rule

/-! ## The log -/

theorem unknownName?_ofRun (run : Run) : (Event.ofRun run).unknownName? = none := by
  unfold Event.ofRun
  cases run.outcome <;> rfl

theorem filterMap_unknownName?_log (d : Document) (c : Config) (rules : List Rule) :
    (d.log c rules).filterMap Event.unknownName? = c.unknown rules := by
  have hreported : ((c.unknown rules).map Event.unknownRule).filterMap Event.unknownName? =
      c.unknown rules := by
    rw [List.filterMap_map]
    exact List.filterMap_some
  have hruns : ((d.runs c rules).map Event.ofRun).filterMap Event.unknownName? = [] := by
    refine List.filterMap_eq_nil_iff.mpr fun e he => ?_
    obtain ⟨run, -, rfl⟩ := List.mem_map.mp he
    exact unknownName?_ofRun run
  rw [Document.log, List.filterMap_append, hreported, List.filterMap_cons_none rfl, hruns,
    List.append_nil]

theorem count_unknownRule (events : List Event) (name : String) :
    events.count (.unknownRule name) = (events.filterMap Event.unknownName?).count name := by
  induction events with
  | nil => rfl
  | cons e rest ih =>
    rw [List.count_cons, ih]
    cases e with
    | unknownRule other => simp [Event.unknownName?, List.count_cons]
    | started _ _ _ => simp [List.filterMap_cons, Event.unknownName?]
    | finished _ _ => simp [List.filterMap_cons, Event.unknownName?]
    | failed _ _ => simp [List.filterMap_cons, Event.unknownName?]

/-! ## Names of a configuration -/

namespace Config

variable {c : Config} {fallback : Option Value} {fields : Fields}

/-- The names reported are those under which no rule is found, in the order they were written. -/
theorem ReadFrom.unknown_eq (h : c.ReadFrom fallback fields) (rules : List Rule) :
    c.unknown rules =
      (fields.filter fun field => !(Rule.find rules field.1).isOk).map fun field =>
        upper field.1 := by
  rw [unknown, names_eq_of_forall₂ h.entries, List.filter_map]
  refine congrArg _ (List.filter_congr fun field _ => ?_)
  rw [Bool.eq_iff_iff, Bool.not_eq_true', Rule.isOk_find_eq_false_iff]
  simp

theorem ReadFrom.mem_unknown_iff (h : c.ReadFrom fallback fields) {rules : List Rule}
    {field : String × Value} (hfield : field ∈ fields) :
    upper field.1 ∈ c.unknown rules ↔ ∀ r ∈ rules, upper r.name ≠ upper field.1 := by
  have hname : upper field.1 ∈ c.rules.map (·.1) := by
    rw [names_eq_of_forall₂ h.entries]
    exact List.mem_map.mpr ⟨field, hfield, rfl⟩
  rw [unknown, List.mem_filter]
  simp [hname]

/-- A name is reported at most once. -/
theorem ReadFrom.count_log (h : c.ReadFrom fallback fields) (d : Document) (rules : List Rule)
    {field : String × Value} (hfield : field ∈ fields) :
    (d.log c rules).count (.unknownRule (upper field.1)) =
      if ∀ r ∈ rules, upper r.name ≠ upper field.1 then 1 else 0 := by
  have hnodup : (c.unknown rules).Nodup := h.nodup.sublist List.filter_sublist
  rw [count_unknownRule, filterMap_unknownName?_log, hnodup.count]
  exact if_congr (h.mem_unknown_iff hfield) rfl rfl

theorem ReadFrom.count_log_eq_one_iff (h : c.ReadFrom fallback fields) (d : Document)
    (rules : List Rule) {field : String × Value} (hfield : field ∈ fields) :
    (d.log c rules).count (.unknownRule (upper field.1)) = 1 ↔
      ∀ r ∈ rules, upper r.name ≠ upper field.1 := by
  rw [h.count_log d rules hfield]
  by_cases hnone : ∀ r ∈ rules, upper r.name ≠ upper field.1
  · rw [if_pos hnone]
    exact iff_of_true rfl hnone
  · rw [if_neg hnone]
    exact iff_of_false (by decide) hnone

/-- Under a name that is not unknown, the first rule that has it is treated as was written. -/
theorem ReadFrom.exists_isFirst (h : c.ReadFrom fallback fields) {rules : List Rule}
    {field : String × Value} (hfield : field ∈ fields)
    (hknown : ¬ ∀ r ∈ rules, upper r.name ≠ upper field.1) :
    ∃ r, Rule.IsFirst rules field.1 r ∧ c.Follows r.name field.2 := by
  cases hfind : Rule.find rules field.1 with
  | error fault => exact absurd (Rule.find_eq_error_iff.mp hfind).2 hknown
  | ok r =>
    have hfirst := Rule.find_eq_ok_iff.mp hfind
    exact ⟨r, hfirst, h.follows hfield hfirst.name_eq.symm⟩

end Config

/-- **A configured name is reported or governs a rule**, and never both.  The log warns of the names
that no rule has, in the order they were written and each once in upper case; those are the names
under which no rule is found, in upper case or as they were written.  No other line of the log begins
as these warnings do. Under any other name the first rule that has it is found, and it is treated as
was written for the name. -/
theorem configured_name_reported_or_governs (d : Document) (rules : List Rule) (l : Layout)
    (c : Config) (h : l.read = .ok c) :
    let written := (d.log c rules).map Event.record
    let unfound := (l.settings.filter fun field => !(Rule.find rules field.1).isOk).map
      fun field => upper field.1
    (d.log c rules).filterMap Event.unknownName? = unfound ∧
      written.filter (fun entry =>
          "Ignoring configuration for unknown rule ".toList.isPrefixOf entry.2.toList) =
        unfound.map (fun name =>
          ("WARNING", "Ignoring configuration for unknown rule " ++ quoted name)) ∧
      ∀ field ∈ l.settings,
        let reports := written.count
          ("WARNING", "Ignoring configuration for unknown rule " ++ quoted (upper field.1))
        reports = (d.log c rules).count (.unknownRule (upper field.1)) ∧
        (reports = 1 ↔ Rule.find rules field.1 = .error (.unknownRule field.1)) ∧
        (reports = 1 ↔
          Rule.find rules (upper field.1) = .error (.unknownRule (upper field.1))) ∧
        (reports ≠ 1 → reports = 0 ∧ ∃ r, Rule.IsFirst rules field.1 r ∧
          Rule.find rules field.1 = .ok r ∧ Rule.find rules (upper field.1) = .ok r ∧
          c.Follows r.name field.2) := by
  intro written unfound
  have hfrom := Layout.read_eq_ok_iff.mp h
  have hunknown : (d.log c rules).filterMap Event.unknownName? = unfound := by
    rw [filterMap_unknownName?_log, hfrom.unknown_eq]
  refine ⟨hunknown, ?_, fun field hfield => ?_⟩
  · rw [← hunknown]
    exact Event.filter_record_eq (d.log c rules)
  · intro reports
    have hcount : reports = (d.log c rules).count (.unknownRule (upper field.1)) :=
      Event.count_record_eq (d.log c rules) (upper field.1)
    have hone : reports = 1 ↔ ∀ r ∈ rules, upper r.name ≠ upper field.1 := by
      rw [hcount]
      exact hfrom.count_log_eq_one_iff d rules hfield
    refine ⟨hcount, ?_, ?_, fun hnot => ?_⟩
    · rw [hone, Rule.find_eq_error_iff]
      exact (and_iff_right rfl).symm
    · -- a name in upper case is looked for as itself
      rw [hone, Rule.find_eq_error_iff, upper_upper]
      exact (and_iff_right rfl).symm
    · have hknown := mt hone.mpr hnot
      obtain ⟨r, hfirst, hfollows⟩ := hfrom.exists_isFirst hfield hknown
      have hzero : reports = 0 :=
        hcount.trans ((hfrom.count_log d rules hfield).trans (if_neg hknown))
      exact ⟨hzero, r, hfirst, Rule.find_eq_ok_iff.mpr hfirst,
        Rule.find_eq_ok_iff.mpr (Rule.isFirst_upper.mpr hfirst), hfollows⟩

/-- Names that get longer in upper case, one that two rules share and one that none has. -/
theorem configured_name_reported_or_governs_longer :
    let d : Document := { lines := [[]] }
    let rules : List Rule :=
      [Rule.listStep, { Rule.hardTabs with name := "Stra\u00dfe" },
        { Rule.trailingSpaces with name := "STRASSE" }]
    let l : Layout :=
      .flat [("gro\u00df", .bool true), ("default", .bool false), ("stra\u00dfe", .object [])]
    let c : Config := ⟨false, [("GROSS", .switch true), ("STRASSE", .options [])]⟩
    let written := (d.log c rules).map Event.record
    l.read = .ok c ∧ (d.log c rules).filterMap Event.unknownName? = ["GROSS"] ∧
      written.filter (fun entry =>
          "Ignoring configuration for unknown rule ".toList.isPrefixOf entry.2.toList) =
        [("WARNING", "Ignoring configuration for unknown rule 'GROSS'")] ∧
      Rule.find rules "gro\u00df" = .error (.unknownRule "gro\u00df") ∧
      ∃ r, Rule.IsFirst rules "stra\u00dfe" r ∧ Rule.find rules "STRASSE" = .ok r ∧
        c.Follows r.name (.object []) := by
  intro d rules l c written
  have hread : l.read = .ok c := by rfl
  have hsettings : l.settings = [("gro\u00df", .bool true), ("stra\u00dfe", .object [])] := by rfl
  obtain ⟨hlog, hwarnings, hnames⟩ := configured_name_reported_or_governs d rules l c hread
  obtain ⟨hcount, hunknown, -, -⟩ := hnames ("gro\u00df", .bool true) (by simp [hsettings])
  obtain ⟨hother, -, -, hknown⟩ := hnames ("stra\u00dfe", .object []) (by simp [hsettings])
  refine ⟨hread, hlog, hwarnings, hunknown.mp (hcount.trans (by decide)), ?_⟩
  obtain ⟨-, r, hfirst, -, hfind, hfollows⟩ := hknown (by rw [hother]; decide)
  exact ⟨r, hfirst, hfind, hfollows⟩

end MarkdownCheck
