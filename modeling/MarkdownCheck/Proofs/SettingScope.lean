import MarkdownCheck.Proofs.ConfigReading
import MarkdownCheck.Proofs.Isolation

/-!
# A setting concerns the rules of its name alone

Rules look their settings up by name in upper case, and nothing they do depends on the settings of
other names.  `Report.without` takes a name, in any case of its letters, out of a report.

* `report_without`: what is left is the report on the rules of other names;
* `report_congr`: that is the same for two configurations that agree on those names;
* `report_eq_without`: where a name is switched off, nothing but that is left out.

The three are put together in `setting_concerns_one_name`.
-/

namespace MarkdownCheck

/-! ## Taking a name out of a report -/

/-- Whether a rule goes by another name, whatever the case of the letters. -/
def isOtherName (name other : String) : Bool := upper other ≠ upper name

/-- The report without what it holds under a name. -/
def Report.without (r : Report) (name : String) : Report where
  violations := r.violations.filter fun v => isOtherName name v.rule
  errors := r.errors.filter fun e => isOtherName name e.rule
  evaluated := r.evaluated.filter (isOtherName name)

section Without

variable {d : Document} {c : Config} (name : String)

theorem without_append (a b : Report) : (a ++ b).without name = a.without name ++ b.without name := by
  show Report.mk _ _ _ = Report.mk _ _ _
  rw [Report.mk.injEq]
  exact ⟨List.filter_append _ _, List.filter_append _ _, List.filter_append _ _⟩

/-- All that a rule contributes stands under its name. -/
theorem without_report_singleton (r : Rule) :
    (d.report c [r]).without name =
      if isOtherName name r.name then d.report c [r] else ⟨[], [], []⟩ := by
  cases hon : c.isEnabled r.name with
  | false =>
    rw [report_singleton_of_disabled hon, ite_self]
    rfl
  | true =>
    cases hev : r.evaluate d (c.optionsFor r.name) with
    | ok lines =>
      rw [report_singleton_of_ok hon hev]
      cases h : isOtherName name r.name <;>
        simp [Report.without, List.filter_map, Function.comp_def, h]
    | error failure =>
      rw [report_singleton_of_error hon hev]
      cases h : isOtherName name r.name <;> simp [Report.without, h]

theorem report_without (rules : List Rule) :
    (d.report c rules).without name = d.report c (rules.filter fun r => isOtherName name r.name) := by
  induction rules with
  | nil => rfl
  | cons r rest ih =>
    rw [← List.singleton_append, report_append, without_append, without_report_singleton, ih,
      List.filter_append, report_append]
    cases h : isOtherName name r.name with
    | true => simp [h]
    | false =>
      simp only [h, List.filter_cons, List.filter_nil, Bool.false_eq_true, if_false]
      rfl

end Without

/-! ## Two configurations -/

section TwoConfigs

variable {d : Document} {c other : Config} {name : String}

theorem isEnabled_congr (hfallback : c.fallback = other.fallback)
    (h : c.setting? name = other.setting? name) : c.isEnabled name = other.isEnabled name := by
  rw [Config.isEnabled, Config.isEnabled, h, hfallback]

theorem optionsFor_congr (h : c.setting? name = other.setting? name) :
    c.optionsFor name = other.optionsFor name := by
  rw [Config.optionsFor, Config.optionsFor, h]

theorem setting?_congr_name (c : Config) {name key : String} (h : upper name = upper key) :
    c.setting? name = c.setting? key := by
  rw [Config.setting?, Config.setting?, h]

/-- Configurations that treat every rule alike give the same report. -/
theorem report_congr {rules : List Rule} (hfallback : c.fallback = other.fallback)
    (h : ∀ r ∈ rules, c.setting? r.name = other.setting? r.name) :
    d.report c rules = d.report other rules := by
  have henabled : c.enabled rules = other.enabled rules :=
    List.filter_congr fun r hr => isEnabled_congr hfallback (h r hr)
  have hruns : d.runs c rules = d.runs other rules := by
    unfold Document.runs
    rw [henabled]
    refine List.map_congr_left fun r hr => ?_
    rw [optionsFor_congr (h r (List.mem_of_mem_filter hr))]
  rw [Document.report, Document.report, hruns]

/-- Disabled rules may as well not be there. -/
theorem report_filter_of_disabled {rules : List Rule} {p : Rule → Bool}
    (h : ∀ r ∈ rules, p r = false → c.isEnabled r.name = false) :
    d.report c (rules.filter p) = d.report c rules := by
  have henabled : c.enabled (rules.filter p) = c.enabled rules := by
    unfold Config.enabled
    rw [List.filter_filter]
    refine List.filter_congr fun r hr => ?_
    cases hp : p r with
    | true => rw [Bool.and_true]
    | false => rw [h r hr hp, Bool.false_and]
  rw [Document.report, Document.report, Document.runs, Document.runs, henabled]

variable (hfallback : c.fallback = other.fallback)
  (hagree : ∀ key, upper key ≠ upper name → c.setting? key = other.setting? key)
include hfallback hagree

theorem report_others_eq (rules : List Rule) :
    d.report c (rules.filter fun r => isOtherName name r.name) =
      d.report other (rules.filter fun r => isOtherName name r.name) := by
  refine report_congr hfallback fun r hr => hagree r.name ?_
  simpa [isOtherName] using (List.mem_filter.mp hr).2

theorem report_eq_without (hoff : other.setting? name = some (.switch false)) (rules : List Rule) :
    d.report other rules = (d.report c rules).without name := by
  rw [report_without, report_others_eq hfallback hagree]
  refine (report_filter_of_disabled fun r _ hr => ?_).symm
  have hname : upper r.name = upper name := by simpa [isOtherName] using hr
  rw [Config.isEnabled, setting?_congr_name other hname, hoff]

end TwoConfigs

/-! ## Switching a name off -/

namespace Config

/-- The configuration with a name switched off, whatever it says about that name. -/
def switchOff (c : Config) (name : String) : Config :=
  { c with rules := c.rules.filter (·.1 ≠ upper name) ++ [(upper name, .switch false)] }

theorem lookup_filter_ne_self (rules : List (String × Setting)) (name : String) :
    (rules.filter (·.1 ≠ name)).lookup name = none := by
  refine List.lookup_eq_none_iff.mpr fun entry hentry => ?_
  have hne : entry.1 ≠ name := by simpa using (List.mem_filter.mp hentry).2
  simpa using hne.symm

theorem lookup_filter_ne_of_ne (rules : List (String × Setting)) {name key : String}
    (h : key ≠ name) : (rules.filter (·.1 ≠ name)).lookup key = rules.lookup key := by
  induction rules with
  | nil => rfl
  | cons entry rest ih =>
    obtain ⟨first, setting⟩ := entry
    by_cases hfirst : first = name
    · have hkey : key ≠ first := hfirst ▸ h
      rw [List.filter_cons_of_neg (by simpa using hfirst), ih, List.lookup_cons,
        beq_false_of_ne hkey]
    · rw [List.filter_cons_of_pos (by simpa using hfirst), List.lookup_cons, List.lookup_cons, ih]

variable (c : Config) (name : String)

theorem setting?_switchOff : (c.switchOff name).setting? name = some (.switch false) := by
  rw [setting?, switchOff, List.lookup_append, lookup_filter_ne_self]
  simp

theorem setting?_switchOff_of_ne {key : String} (h : upper key ≠ upper name) :
    (c.switchOff name).setting? key = c.setting? key := by
  rw [setting?, switchOff, List.lookup_append, lookup_filter_ne_of_ne _ h, List.lookup_cons,
    beq_false_of_ne h]
  simp [setting?]

variable {c}

/-- What was read in a configuration is read along with the name switched off. -/
theorem ReadFrom.switchOff {fallback : Option Value} {fields : Fields}
    (h : c.ReadFrom fallback fields) :
    (c.switchOff name).ReadFrom fallback
      (fields.filter (fun field => isOtherName name field.1) ++ [(name, .bool false)]) where
  fallback_eq := h.fallback_eq
  entries := by
    refine List.rel_append (List.rel_filter (fun field entry hread => ?_) h.entries)
      (.cons ⟨rfl, rfl⟩ .nil)
    simp [isOtherName, hread.name_eq]
  nodup := by
    rw [Config.switchOff, List.map_append, List.nodup_append]
    refine ⟨h.nodup.sublist (List.filter_sublist.map _), List.nodup_singleton _, ?_⟩
    intro key hkey off hoff
    obtain ⟨entry, hentry, rfl⟩ := List.mem_map.mp hkey
    obtain rfl : off = upper name := by simpa using hoff
    simpa using (List.mem_filter.mp hentry).2

end Config

/-- **A setting concerns one name.** Configurations that agree on all other names, and on the switch
for those that are not named, give reports that differ under this name only; and what is found under
the others is what their rules find alone.  To switch the name off, be it in the other configuration
or by adding that to what the first one is read from, is to leave out what stands under it. -/
theorem setting_concerns_one_name (d : Document) (rules : List Rule) (name : String)
    (c other : Config) (hfallback : c.fallback = other.fallback)
    (hagree : ∀ key, upper key ≠ upper name → c.setting? key = other.setting? key) :
    (d.report c rules).without name = (d.report other rules).without name ∧
      (d.report c rules).without name =
        d.report c (rules.filter fun r => upper r.name ≠ upper name) ∧
      (other.setting? name = some (.switch false) →
        d.report other rules = (d.report c rules).without name) ∧
      ∀ fallback fields, Config.ofParts fallback fields = .ok c →
        ∃ off, Config.ofParts fallback
            (fields.filter (fun field => upper field.1 ≠ upper name) ++ [(name, .bool false)]) =
              .ok off ∧
          d.report off rules = (d.report c rules).without name := by
  refine ⟨?_, report_without name rules, fun hoff => report_eq_without hfallback hagree hoff rules,
    fun fallback fields hread => ?_⟩
  · rw [report_without, report_without, report_others_eq hfallback hagree]
  · have hfrom := Config.ofParts_eq_ok_iff.mp hread
    refine ⟨c.switchOff name, Config.ofParts_eq_ok_iff.mpr (hfrom.switchOff name), ?_⟩
    have hswitch : c.fallback = (c.switchOff name).fallback := rfl
    have hothers : ∀ key, upper key ≠ upper name →
        c.setting? key = (c.switchOff name).setting? key :=
      fun key h => (c.setting?_switchOff_of_ne name h).symm
    exact report_eq_without hswitch hothers (c.setting?_switchOff name) rules

/-- A setting that is refused, for a rule that another one shares its name with. -/
theorem setting_concerns_one_name_refused :
    let d : Document := { lines := ["a\tb "].map String.toList }
    let rules : List Rule :=
      [Rule.lineLength, Rule.hardTabs, { Rule.trailingSpaces with name := "md013" }]
    let raw : Fields := [("mD013", .object [("line_length", .int 0)])]
    let c : Config := ⟨true, [("MD013", .options [("line_length", .int 0)])]⟩
    let other : Config := ⟨true, [("MD013", .switch false)]⟩
    c.fallback = other.fallback ∧
      (∀ key, upper key ≠ upper "Md013" → c.setting? key = other.setting? key) ∧
      other.setting? "Md013" = some (.switch false) ∧
      Config.ofParts none raw = .ok c ∧
      d.report other rules = (d.report c rules).without "Md013" ∧
      ∃ off, Config.ofParts none
          (raw.filter (fun field => upper field.1 ≠ upper "Md013") ++ [("Md013", .bool false)]) =
            .ok off ∧
        d.report off rules = (d.report c rules).without "Md013" := by
  intro d rules raw c other
  have hname : upper "Md013" = "MD013" := by decide
  have hagree : ∀ key, upper key ≠ upper "Md013" → c.setting? key = other.setting? key := by
    intro key hkey
    rw [hname] at hkey
    simp [Config.setting?, c, other, List.lookup_cons, beq_false_of_ne hkey]
  have hoff : other.setting? "Md013" = some (.switch false) := rfl
  have hread : Config.ofParts none raw = .ok c := rfl
  obtain ⟨-, -, hreport, hadded⟩ :=
    setting_concerns_one_name d rules "Md013" c other rfl hagree
  exact ⟨rfl, hagree, hoff, hread, hreport hoff, hadded none raw hread⟩

end MarkdownCheck
