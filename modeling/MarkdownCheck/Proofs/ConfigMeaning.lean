import MarkdownCheck.Proofs.ConfigRoundTrip
import MarkdownCheck.Proofs.Switches
import Mathlib.Data.List.Nodup

/-!
# An accepted configuration means what was written

What is written for a rule is an object or converts to a switch (`Value.Means`), and the configuration
keeps it under the name in upper case. So a rule is treated as was written for its name, in any case
of the letters (`Config.Follows`), or else as the switch for all others says.

The main statement, `accepted_iff_asWritten`, puts the two together: a configuration is accepted just
in case it holds what was written and nothing else, and then that is what every look-up finds.  That
a look-up finds the setting and not merely one of several rests on the names being distinct
(`lookup_eq_some_of_mem`).
-/

namespace MarkdownCheck

/-! ## What is written -/

/-- What a raw value says about a rule. An object is kept as it is; any other value is the switch it
converts to. -/
inductive Value.Means : Value → Setting → Prop
  | object (fields : Fields) : Value.Means (.object fields) (.options fields)
  | switch {v : Value} {on : Bool} (h : v.toBool = .ok on) : v.Means (.switch on)

/-- A rule is switched by what stands for a switch. -/
theorem Value.means_switch_iff {v : Value} {on : Bool} : v.Means (.switch on) ↔ v.StandsFor on := by
  rw [← toBool_eq_ok_iff]
  constructor
  · rintro ⟨⟩
    assumption
  · exact .switch

theorem Setting.read_eq_ok_iff {v : Value} {setting : Setting} :
    Setting.read v = .ok setting ↔ v.Means setting := by
  constructor
  · intro h
    unfold Setting.read at h
    split at h
    · obtain rfl := Except.ok.inj h
      exact .object _
    · cases hbool : v.toBool with
      | error problem => simp [hbool, Except.map] at h
      | ok on =>
        simp only [hbool, Except.map, Except.ok.injEq] at h
        subst h
        exact .switch hbool
  · intro h
    cases h with
    | object fields => rfl
    | switch hbool =>
      cases v with
      | object fields => simp [Value.toBool] at hbool
      | _ => simp only [Setting.read, hbool, Except.map]

namespace Layout

/-- The raw value of the switch, if there is one. -/
def switch : Layout → Option Value
  | parts fallback _ => fallback
  | flat fields => fields.lookup Config.fallbackKey

/-- The names and raw settings of the rules. -/
def settings : Layout → Fields
  | parts _ fields => fields
  | flat fields => fields.filter (·.1 ≠ Config.fallbackKey)

theorem read_eq_ok_iff {l : Layout} {c : Config} :
    l.read = .ok c ↔ c.ReadFrom l.switch l.settings := by
  cases l with
  | parts fallback fields => exact Config.ofParts_eq_ok_iff
  | flat fields => exact Config.ofFlat_eq_ok_iff

end Layout

namespace Config

/-! ## Looking up what was written -/

/-- What a configuration does about a rule for which a raw value was written. -/
inductive Follows (c : Config) (name : String) : Value → Prop
  | object {fields : Fields} (hon : c.isEnabled name = true) (hoptions : c.optionsFor name = fields) :
    Follows c name (.object fields)
  | switch {v : Value} {on : Bool} (hbool : v.toBool = .ok on) (hon : c.isEnabled name = on)
    (hoptions : c.optionsFor name = []) : Follows c name v

theorem follows_of_setting? {c : Config} {name : String} {v : Value} {setting : Setting}
    (hmeans : v.Means setting) (h : c.setting? name = some setting) : c.Follows name v := by
  cases hmeans with
  | object fields =>
    refine .object ?_ ?_
    · rw [isEnabled, h]
    · rw [optionsFor, h]
  | switch hbool =>
    refine .switch hbool ?_ ?_
    · rw [isEnabled, h]
    · rw [optionsFor, h]

/-- Under a name that occurs once, a look-up finds the setting that stands there. -/
theorem lookup_eq_some_of_mem {rules : List (String × Setting)} (hnodup : (rules.map (·.1)).Nodup)
    {entry : String × Setting} (h : entry ∈ rules) : rules.lookup entry.1 = some entry.2 := by
  induction rules with
  | nil => simp at h
  | cons first rest ih =>
    obtain ⟨hfirst, hrest⟩ := List.nodup_cons.mp hnodup
    rcases List.mem_cons.mp h with rfl | hmem
    · exact List.lookup_cons_self
    · have hne : entry.1 ≠ first.1 := by
        intro heq
        exact hfirst (List.mem_map.mpr ⟨entry, hmem, heq⟩)
      rw [List.lookup_cons, beq_false_of_ne hne]
      exact ih hrest hmem

section ReadFrom

variable {c : Config} {fallback : Option Value} {fields : Fields}

theorem exists_entry_of_mem {rules : List (String × Setting)}
    (h : List.Forall₂ ReadsAs fields rules) {field : String × Value} (hfield : field ∈ fields) :
    ∃ entry ∈ rules, ReadsAs field entry := by
  induction h with
  | nil => simp at hfield
  | cons hfirst _ ih =>
    rcases List.mem_cons.mp hfield with rfl | hrest
    · exact ⟨_, List.mem_cons_self, hfirst⟩
    · obtain ⟨entry, hentry, hreads⟩ := ih hrest
      exact ⟨entry, List.mem_cons_of_mem _ hentry, hreads⟩

/-- No two names are the same in upper case. -/
theorem ReadFrom.countP_le_one (h : c.ReadFrom fallback fields) (name : String) :
    fields.countP (fun field => upper field.1 = upper name) ≤ 1 := by
  have hnodup := h.nodup
  rw [names_eq_of_forall₂ h.entries] at hnodup
  have hcount := List.nodup_iff_count_le_one.mp hnodup (upper name)
  rw [List.count, List.countP_map] at hcount
  simpa only [Function.comp_def, beq_eq_decide] using hcount

theorem ReadFrom.follows (h : c.ReadFrom fallback fields) {name : String} {field : String × Value}
    (hfield : field ∈ fields) (hname : upper field.1 = upper name) : c.Follows name field.2 := by
  obtain ⟨entry, hentry, hreads⟩ := exists_entry_of_mem h.entries hfield
  refine follows_of_setting? (Setting.read_eq_ok_iff.mp hreads.read_eq) ?_
  -- in upper case, the name asked for is the key of the entry
  rw [setting?, ← hname, ← hreads.name_eq]
  exact lookup_eq_some_of_mem h.nodup hentry

/-- A name that was not written has no setting. -/
theorem ReadFrom.setting?_eq_none (h : c.ReadFrom fallback fields) {name : String}
    (hname : ∀ field ∈ fields, upper field.1 ≠ upper name) : c.setting? name = none := by
  refine List.lookup_eq_none_iff.mpr fun entry hentry => ?_
  obtain ⟨field, hfield, heq⟩ := exists_name_of_forall₂ h.entries hentry
  have hne : entry.1 ≠ upper name := heq ▸ hname field hfield
  simpa using hne.symm

theorem readFallback_eq_ok_iff {on : Bool} :
    readFallback fallback = .ok on ↔ fallback.elim (on = true) (·.toBool = .ok on) := by
  cases fallback with
  | none => simp [readFallback, eq_comm]
  | some v => cases h : v.toBool <;> simp [readFallback, h, Except.mapError]

end ReadFrom

/-! ## All that was written -/

/-- A configuration that holds what was written and nothing else. -/
structure AsWritten (c : Config) (fallback : Option Value) (fields : Fields) : Prop where
  /-- Without a switch, rules that are not named run. -/
  fallback_eq : fallback.elim (c.fallback = true) (·.toBool = .ok c.fallback)
  entries : List.Forall₂
    (fun field entry => entry.1 = upper field.1 ∧ field.2.Means entry.2) fields c.rules
  nodup : (c.rules.map (·.1)).Nodup
  countP_le_one : ∀ name, fields.countP (fun field => upper field.1 = upper name) ≤ 1
  follows : ∀ name, ∀ field ∈ fields, upper field.1 = upper name → c.Follows name field.2
  unnamed : ∀ name, (∀ field ∈ fields, upper field.1 ≠ upper name) →
    c.isEnabled name = c.fallback ∧ c.optionsFor name = []

theorem readsAs_iff {field : String × Value} {entry : String × Setting} :
    ReadsAs field entry ↔ entry.1 = upper field.1 ∧ field.2.Means entry.2 := by
  rw [← Setting.read_eq_ok_iff]
  exact ⟨fun h => ⟨h.name_eq, h.read_eq⟩, fun h => ⟨h.1, h.2⟩⟩

theorem ReadFrom.asWritten {c : Config} {fallback : Option Value} {fields : Fields}
    (h : c.ReadFrom fallback fields) : c.AsWritten fallback fields where
  fallback_eq := readFallback_eq_ok_iff.mp h.fallback_eq
  entries := h.entries.imp fun _ _ => readsAs_iff.mp
  nodup := h.nodup
  countP_le_one := h.countP_le_one
  follows _ _ hfield hname := h.follows hfield hname
  unnamed name hname := by
    have hnone := h.setting?_eq_none hname
    constructor
    · rw [isEnabled, hnone]
    · rw [optionsFor, hnone]

end Config

/-- **An accepted configuration means what was written**, in either layout. There is one setting for
each that was written, in the same order and under its name in upper case, and all rules are treated
accordingly. -/
theorem accepted_iff_asWritten (l : Layout) (c : Config) :
    l.read = .ok c ↔ c.AsWritten l.switch l.settings := by
  rw [Layout.read_eq_ok_iff]
  refine ⟨fun h => h.asWritten, fun h => ⟨?_, ?_, h.nodup⟩⟩
  · exact Config.readFallback_eq_ok_iff.mpr h.fallback_eq
  · exact h.entries.imp fun _ _ => Config.readsAs_iff.mpr

end MarkdownCheck
