import MarkdownCheck.Proofs.ConfigMeaning

/-!
# What a configuration is rejected for

A configuration that is not accepted is rejected with all issues it has, and here is which they are
(`Layout.HasIssues`), in this order:

* one of the switch, if it does not convert to one (`Config.FallbackIssues`);
* two of each setting that is neither an object nor converts to a switch (`Config.SettingIssues`);
* one of the first name that is the same in upper case as an earlier one (`Config.FirstRepeated`), but
  only if all settings can be used: names are not compared before.

The readers come to the same list, each to its part of it (`Config.Lists`).  There is always exactly
one such list, and a configuration is accepted just in case it is empty (`rejected_for_exactly`).
-/

namespace MarkdownCheck

theorem Setting.read_eq_error_iff {v : Value} {problem : Problem} :
    Setting.read v = .error problem ↔
      (∀ fields, v ≠ .object fields) ∧ v.toBool = .error problem := by
  constructor
  · intro h
    unfold Setting.read at h
    split at h
    · cases h
    · rename_i hobject
      refine ⟨fun fields => hobject fields, ?_⟩
      cases hbool : v.toBool with
      | ok on => simp [hbool, Except.map] at h
      | error other => simpa [hbool, Except.map] using h
  · rintro ⟨hobject, hbool⟩
    cases v with
    | object fields => exact absurd rfl (hobject fields)
    | _ => simp only [Setting.read, hbool, Except.map]

namespace Config

/-! ## Issues -/

/-- The issues of the switch. Without one there is nothing that could fail to convert. -/
inductive FallbackIssues : Option Value → List Issue → Prop
  | absent : FallbackIssues none []
  | converts {v : Value} {on : Bool} (h : v.toBool = .ok on) : FallbackIssues (some v) []
  | refused {v : Value} {problem : Problem} (h : v.toBool = .error problem) :
    FallbackIssues (some v) [⟨["default"], problem⟩]

/-- The issues of a setting. One that cannot be used is taken for a switch and for an object, and has
an issue as either. -/
inductive SettingIssues : String × Value → List Issue → Prop
  | usable {name : String} {v : Value} {setting : Setting} (h : v.Means setting) :
    SettingIssues (name, v) []
  | refused {name : String} {v : Value} {problem : Problem} (hobject : ∀ fields, v ≠ .object fields)
    (h : v.toBool = .error problem) :
    SettingIssues (name, v)
      [⟨["rules", name, "bool"], problem⟩, ⟨["rules", name, "dict[str,any]"], .notObject⟩]

/-- The first name, in upper case, that is the same as an earlier one. -/
def FirstRepeated (fields : Fields) (name : String) : Prop :=
  ∃ above field below, fields = above ++ field :: below ∧ upper field.1 = name ∧
    (∃ earlier ∈ above, upper earlier.1 = name) ∧ (above.map fun field => upper field.1).Nodup

/-- The issues of the settings. -/
inductive RulesIssues (fields : Fields) : List Issue → Prop
  | unusable {blocks : List (List Issue)} (h : ∃ field ∈ fields, ¬ ∃ setting, field.2.Means setting)
    (hblocks : List.Forall₂ SettingIssues fields blocks) : RulesIssues fields blocks.flatten
  | repeated {name : String} (husable : ∀ field ∈ fields, ∃ setting, field.2.Means setting)
    (h : FirstRepeated fields name) : RulesIssues fields [⟨["rules"], .repeatedRule name⟩]
  | none (husable : ∀ field ∈ fields, ∃ setting, field.2.Means setting)
    (h : (fields.map fun field => upper field.1).Nodup) : RulesIssues fields []

/-! ## What readers list -/

/-- A reader lists these issues: none if it has read something, and otherwise one at least. -/
inductive Lists {α : Type} : Except (List Issue) α → List Issue → Prop
  | ok (a : α) : Lists (.ok a) []
  | error {issues : List Issue} (h : issues ≠ []) : Lists (.error issues) issues

theorem FallbackIssues.lists {fallback : Option Value} {issues : List Issue}
    (h : FallbackIssues fallback issues) : Lists (readFallback fallback) issues := by
  cases h with
  | absent => exact .ok true
  | @converts v on hbool =>
    have hread : readFallback (some v) = .ok on := by
      rw [readFallback, hbool]
      rfl
    exact hread ▸ .ok on
  | @refused v problem hbool =>
    have hread : readFallback (some v) = .error [⟨["default"], problem⟩] := by
      rw [readFallback, hbool]
      rfl
    exact hread ▸ .error (List.cons_ne_nil _ _)

section Settings

variable {name : String} {v : Value} {rest : Fields} {later : List Issue}

theorem lists_readSettings_cons_ok {setting : Setting} (h : Setting.read v = .ok setting)
    (hlater : Lists (readSettings rest) later) :
    Lists (readSettings ((name, v) :: rest)) later := by
  rw [readSettings, h]
  generalize readSettings rest = x at hlater
  cases hlater with
  | ok settings => exact .ok _
  | error hne => exact .error hne

theorem lists_readSettings_cons_error {problem : Problem} (h : Setting.read v = .error problem)
    (hlater : Lists (readSettings rest) later) :
    Lists (readSettings ((name, v) :: rest)) (settingIssues name problem ++ later) := by
  rw [readSettings, h]
  generalize readSettings rest = x at hlater
  cases hlater with
  | ok settings => exact .error (List.cons_ne_nil _ _)
  | error hne => exact .error (List.cons_ne_nil _ _)

/-- The issues of all settings, one setting after the other. -/
theorem lists_readSettings {fields : Fields} {blocks : List (List Issue)}
    (h : List.Forall₂ SettingIssues fields blocks) : Lists (readSettings fields) blocks.flatten := by
  induction h with
  | nil => exact .ok []
  | cons hfirst _ ih =>
    rw [List.flatten_cons]
    cases hfirst with
    | usable hmeans => exact lists_readSettings_cons_ok (Setting.read_eq_ok_iff.mpr hmeans) ih
    | refused hobject hbool =>
      exact lists_readSettings_cons_error (Setting.read_eq_error_iff.mpr ⟨hobject, hbool⟩) ih

end Settings

/-! ## Names that occur again -/

/-- Names that are all new are passed over, and seen from then on. -/
theorem firstRepeated_append {seen above : List String} (hnodup : above.Nodup)
    (hnew : ∀ name ∈ above, name ∉ seen) (rest : List String) :
    firstRepeated seen (above ++ rest) = firstRepeated (above.reverse ++ seen) rest := by
  induction above generalizing seen with
  | nil => rfl
  | cons first above ih =>
    obtain ⟨hfirst, hnodup⟩ := List.nodup_cons.mp hnodup
    have hseen : first ∉ seen := hnew first List.mem_cons_self
    have hnew' : ∀ name ∈ above, name ∉ first :: seen := by
      intro name hname
      have hne : name ≠ first := by
        rintro rfl
        exact hfirst hname
      rw [List.mem_cons, not_or]
      exact ⟨hne, hnew name (List.mem_cons_of_mem _ hname)⟩
    rw [List.cons_append, firstRepeated, if_neg hseen, ih hnodup hnew', List.reverse_cons,
      List.append_assoc, List.singleton_append]

/-- All names in front of the one that is found are new, and it is not. -/
theorem exists_split_of_firstRepeated {seen names : List String} {name : String}
    (h : firstRepeated seen names = some name) :
    ∃ above below, names = above ++ name :: below ∧ (name ∈ above ∨ name ∈ seen) ∧
      above.Nodup ∧ ∀ other ∈ above, other ∉ seen := by
  induction names generalizing seen with
  | nil => cases h
  | cons first rest ih =>
    rw [firstRepeated] at h
    split_ifs at h with hseen
    · obtain rfl := Option.some.inj h
      exact ⟨[], rest, rfl, .inr hseen, List.nodup_nil, by simp⟩
    · obtain ⟨above, below, rfl, hagain, hnodup, hnew⟩ := ih h
      have hfirst : first ∉ above := fun hmem => hnew first hmem List.mem_cons_self
      refine ⟨first :: above, below, rfl, ?_, List.nodup_cons.mpr ⟨hfirst, hnodup⟩, ?_⟩
      · rw [List.mem_cons] at hagain ⊢
        tauto
      · intro other hother
        rcases List.mem_cons.mp hother with rfl | hmem
        · exact hseen
        · exact fun hmemseen => hnew other hmem (List.mem_cons_of_mem _ hmemseen)

theorem firstRepeated_eq_some_iff {fields : Fields} {name : String} :
    firstRepeated [] (fields.map fun field => upper field.1) = some name ↔
      FirstRepeated fields name := by
  constructor
  · intro h
    obtain ⟨above, below, hsplit, hagain, hnodup, -⟩ := exists_split_of_firstRepeated h
    obtain ⟨front, back, rfl, rfl, hback⟩ := List.map_eq_append_iff.mp hsplit
    obtain ⟨field, back, rfl, rfl, rfl⟩ := List.map_eq_cons_iff.mp hback
    refine ⟨front, field, back, rfl, rfl, ?_, hnodup⟩
    simpa using hagain
  · rintro ⟨front, field, back, rfl, rfl, ⟨earlier, hearlier, hname⟩, hnodup⟩
    have hseen : upper field.1 ∈ (front.map fun field => upper field.1).reverse ++ [] := by
      rw [List.append_nil, List.mem_reverse, ← hname]
      exact List.mem_map_of_mem hearlier
    rw [List.map_append, firstRepeated_append hnodup (by simp), List.map_cons, firstRepeated,
      if_pos hseen]

/-! ## The settings together -/

section Rules

variable {fields : Fields}

/-- Where each field has a partner, there is a list of partners. -/
theorem exists_forall₂ {β : Type} {R : String × Value → β → Prop}
    (h : ∀ field ∈ fields, ∃ b, R field b) : ∃ bs, List.Forall₂ R fields bs := by
  induction fields with
  | nil => exact ⟨[], .nil⟩
  | cons field rest ih =>
    obtain ⟨b, hb⟩ := h field List.mem_cons_self
    obtain ⟨bs, hbs⟩ := ih fun other hother => h other (List.mem_cons_of_mem _ hother)
    exact ⟨b :: bs, .cons hb hbs⟩

/-- Settings that can all be used are read, under their names in upper case. -/
theorem exists_readSettings (husable : ∀ field ∈ fields, ∃ setting, field.2.Means setting) :
    ∃ rules, readSettings fields = .ok rules ∧
      rules.map (·.1) = fields.map fun field => upper field.1 := by
  have hreads : ∀ field ∈ fields, ∃ entry, ReadsAs field entry := by
    intro field hfield
    obtain ⟨setting, hmeans⟩ := husable field hfield
    exact ⟨(upper field.1, setting), rfl, Setting.read_eq_ok_iff.mpr hmeans⟩
  obtain ⟨rules, hrules⟩ := exists_forall₂ hreads
  exact ⟨rules, readSettings_eq_ok_iff.mpr hrules, names_eq_of_forall₂ hrules⟩

theorem usable_of_readSettings {rules : List (String × Setting)}
    (h : readSettings fields = .ok rules) :
    ∀ field ∈ fields, ∃ setting, field.2.Means setting := by
  intro field hfield
  obtain ⟨entry, -, hreads⟩ := exists_entry_of_mem (readSettings_eq_ok_iff.mp h) hfield
  exact ⟨entry.2, Setting.read_eq_ok_iff.mp hreads.read_eq⟩

theorem RulesIssues.lists {issues : List Issue} (h : RulesIssues fields issues) :
    Lists (readRules fields) issues := by
  cases h with
  | @unusable blocks hunusable hblocks =>
    have hlists := lists_readSettings hblocks
    obtain ⟨field, hfield, hmeans⟩ := hunusable
    unfold readRules
    generalize blocks.flatten = issues at hlists
    generalize hread : readSettings fields = x at hlists
    cases hlists with
    | ok rules => exact absurd (usable_of_readSettings hread field hfield) hmeans
    | error hne => exact .error hne
  | repeated husable hrepeated =>
    obtain ⟨rules, hread, hnames⟩ := exists_readSettings husable
    have hfirst := firstRepeated_eq_some_iff.mpr hrepeated
    rw [← hnames] at hfirst
    simp only [readRules, hread, Except.bind, hfirst]
    exact .error (List.cons_ne_nil _ _)
  | none husable hnodup =>
    obtain ⟨rules, hread, hnames⟩ := exists_readSettings husable
    rw [← hnames] at hnodup
    have hrules : readRules fields = .ok rules :=
      readRules_eq_ok_iff.mpr ⟨readSettings_eq_ok_iff.mp hread, hnodup⟩
    exact hrules ▸ .ok rules

/-! ## There is always a list -/

theorem exists_fallbackIssues (fallback : Option Value) :
    ∃ issues, FallbackIssues fallback issues := by
  cases fallback with
  | none => exact ⟨_, .absent⟩
  | some v =>
    cases hbool : v.toBool with
    | ok on => exact ⟨_, .converts hbool⟩
    | error problem => exact ⟨_, .refused hbool⟩

theorem exists_settingIssues (field : String × Value) : ∃ block, SettingIssues field block := by
  obtain ⟨name, v⟩ := field
  cases hread : Setting.read v with
  | ok setting => exact ⟨_, .usable (Setting.read_eq_ok_iff.mp hread)⟩
  | error problem =>
    obtain ⟨hobject, hbool⟩ := Setting.read_eq_error_iff.mp hread
    exact ⟨_, .refused hobject hbool⟩

theorem exists_rulesIssues (fields : Fields) : ∃ issues, RulesIssues fields issues := by
  by_cases husable : ∀ field ∈ fields, ∃ setting, field.2.Means setting
  · cases hfirst : firstRepeated [] (fields.map fun field => upper field.1) with
    | none => exact ⟨_, .none husable (firstRepeated_eq_none_iff.mp hfirst).1⟩
    | some name =>
      exact ⟨_, .repeated husable (firstRepeated_eq_some_iff.mp hfirst)⟩
  · obtain ⟨blocks, hblocks⟩ := exists_forall₂ fun field _ => exists_settingIssues field
    have hunusable : ∃ field ∈ fields, ¬ ∃ setting, field.2.Means setting := by
      simpa only [not_forall, exists_prop] using husable
    exact ⟨_, .unusable hunusable hblocks⟩

end Rules

end Config

/-! ## The configuration -/

/-- The issues of a configuration: of the switch first, then of the settings. -/
inductive Layout.HasIssues (l : Layout) : List Issue → Prop
  | of_parts {first rest : List Issue} (hfirst : Config.FallbackIssues l.switch first)
    (hrest : Config.RulesIssues l.settings rest) : HasIssues l (first ++ rest)

namespace Layout

variable {l : Layout} {issues : List Issue}

theorem read_eq_ofParts (l : Layout) : l.read = Config.ofParts l.switch l.settings := by
  cases l with
  | parts fallback fields => rfl
  | flat fields => rfl

/-- A configuration is rejected for the issues it has, and accepted if it has none. -/
theorem HasIssues.read_eq (h : l.HasIssues issues) :
    issues = [] ∧ (∃ c, l.read = .ok c) ∨
      issues ≠ [] ∧ l.read = .error ⟨Config.title, issues⟩ := by
  obtain ⟨hfirst, hrest⟩ := h
  have hfirst := hfirst.lists
  have hrest := hrest.lists
  rw [read_eq_ofParts, Config.ofParts]
  generalize Config.readFallback l.switch = x at hfirst
  generalize Config.readRules l.settings = y at hrest
  cases hfirst with
  | ok on =>
    cases hrest with
    | ok settings => exact .inl ⟨rfl, _, rfl⟩
    | error hne => exact .inr ⟨hne, rfl⟩
  | error hne =>
    cases hrest with
    | ok settings =>
      rw [List.append_nil]
      exact .inr ⟨hne, rfl⟩
    | error _ => exact .inr ⟨by simp [hne], rfl⟩

theorem exists_hasIssues (l : Layout) : ∃ issues, l.HasIssues issues := by
  obtain ⟨first, hfirst⟩ := Config.exists_fallbackIssues l.switch
  obtain ⟨rest, hrest⟩ := Config.exists_rulesIssues l.settings
  exact ⟨first ++ rest, .of_parts hfirst hrest⟩

/-- No two lists are the issues of one configuration, for it cannot be rejected for both. -/
theorem HasIssues.unique {others : List Issue} (h : l.HasIssues issues)
    (hothers : l.HasIssues others) : others = issues := by
  rcases h.read_eq with ⟨rfl, c, hread⟩ | ⟨-, hread⟩
  · rcases hothers.read_eq with ⟨rfl, -⟩ | ⟨-, hread'⟩
    · rfl
    · rw [hread] at hread'
      cases hread'
  · rcases hothers.read_eq with ⟨-, c, hread'⟩ | ⟨-, hread'⟩
    · rw [hread] at hread'
      cases hread'
    · rw [hread] at hread'
      cases hread'
      rfl

end Layout

/-- **What a configuration is rejected for**, in either layout. The issues it has are one list; it is
rejected just in case that is not empty, and then for these issues and no others, in this order. -/
theorem rejected_for_exactly (l : Layout) :
    ∃ issues, l.HasIssues issues ∧ (∀ others, l.HasIssues others → others = issues) ∧
      ((∃ rejection, l.read = .error rejection) ↔ issues ≠ []) ∧
      ∀ rejection, l.read = .error rejection → rejection = ⟨Config.title, issues⟩ := by
  obtain ⟨issues, hissues⟩ := l.exists_hasIssues
  refine ⟨issues, hissues, fun others => hissues.unique, ?_⟩
  rcases hissues.read_eq with ⟨rfl, c, hread⟩ | ⟨hne, hread⟩
  · rw [hread]
    refine ⟨⟨?_, fun h => absurd rfl h⟩, ?_⟩
    · rintro ⟨rejection, h⟩
      cases h
    · intro rejection h
      cases h
  · rw [hread]
    refine ⟨⟨fun _ => hne, fun _ => ⟨_, rfl⟩⟩, ?_⟩
    intro rejection h
    exact (Except.error.inj h).symm

/-- Settings that cannot be used keep names that occur again from being noticed; a switch does not. -/
example :
    (Layout.flat [("md013", .text "maybe"), ("default", .null), ("Md013", .int 2)]).read =
        .error ⟨"LintConfig", [⟨["default"], .notSwitch⟩,
          ⟨["rules", "md013", "bool"], .unclearSwitch⟩, ⟨["rules", "md013", "dict[str,any]"], .notObject⟩,
          ⟨["rules", "Md013", "bool"], .unclearSwitch⟩,
          ⟨["rules", "Md013", "dict[str,any]"], .notObject⟩]⟩ ∧
      (Layout.parts (some .null) [("a", .bool true), ("ß", .text "Y"), ("Ss", .object [])]).read =
        .error ⟨"LintConfig", [⟨["default"], .notSwitch⟩, ⟨["rules"], .repeatedRule "SS"⟩]⟩ :=
  ⟨rfl, rfl⟩

end MarkdownCheck
