import MarkdownCheck.Config
import MarkdownCheck.Proofs.UpperCase
import Mathlib.Data.List.Forall2

/-!
# What a configuration is read from

Reading a configuration is accepting it or listing what is wrong with it.  Here is the first of the
two without the readers: `ReadFrom` says setting by setting what an accepted configuration holds, and
`ofParts_eq_ok_iff` that it is just that which `Config.ofParts` accepts.

Names come out in upper case and distinct (`ReadFrom.normal`). A configuration with such names is
what its own settings are read as (`Normal.readFrom`), and none of them is the key that the flat
layout keeps for the switch (`upper_ne_fallbackKey`).
-/

namespace MarkdownCheck

namespace Config

/-! ## Accepted configurations -/

/-- A setting that can be read stands under its name in upper case. -/
structure ReadsAs (field : String × Value) (entry : String × Setting) : Prop where
  name_eq : entry.1 = upper field.1
  read_eq : Setting.read field.2 = .ok entry.2

/-- What a configuration holds that is read from a switch and from settings. -/
structure ReadFrom (c : Config) (fallback : Option Value) (fields : Fields) : Prop where
  fallback_eq : readFallback fallback = .ok c.fallback
  entries : List.Forall₂ ReadsAs fields c.rules
  nodup : (c.rules.map (·.1)).Nodup

theorem readSettings_eq_ok_iff {fields : Fields} {rules : List (String × Setting)} :
    readSettings fields = .ok rules ↔ List.Forall₂ ReadsAs fields rules := by
  induction fields generalizing rules with
  | nil =>
    rw [List.forall₂_nil_left_iff, readSettings, Except.ok.injEq]
    exact eq_comm
  | cons field rest ih =>
    obtain ⟨name, v⟩ := field
    constructor
    · intro h
      cases hread : Setting.read v with
      | error problem =>
        cases hrest : readSettings rest <;> simp [readSettings, hread, hrest] at h
      | ok setting =>
        cases hrest : readSettings rest with
        | error issues => simp [readSettings, hread, hrest] at h
        | ok later =>
          simp only [readSettings, hread, hrest, Except.ok.injEq] at h
          subst h
          exact .cons ⟨rfl, hread⟩ (ih.mp hrest)
    · intro h
      cases h with
      | cons hfirst hrest =>
        obtain ⟨hname, hread⟩ := hfirst
        simp only [readSettings, hread, ih.mpr hrest, ← hname]

theorem readRules_eq_ok_iff {fields : Fields} {rules : List (String × Setting)} :
    readRules fields = .ok rules ↔
      List.Forall₂ ReadsAs fields rules ∧ (rules.map (·.1)).Nodup := by
  rw [← readSettings_eq_ok_iff]
  unfold readRules
  cases readSettings fields with
  | error issues => simp [Except.bind]
  | ok found =>
    have hrepeated : firstRepeated [] (found.map (·.1)) = none ↔ (found.map (·.1)).Nodup := by
      rw [firstRepeated_eq_none_iff]
      simp
    simp only [Except.bind, Except.ok.injEq]
    cases hfirst : firstRepeated [] (found.map (·.1)) with
    | none =>
      constructor
      · intro h
        obtain rfl := Except.ok.inj h
        exact ⟨rfl, hrepeated.mp hfirst⟩
      · rintro ⟨rfl, -⟩
        rfl
    | some name =>
      constructor
      · intro h
        cases h
      · rintro ⟨rfl, hnodup⟩
        rw [hrepeated.mpr hnodup] at hfirst
        cases hfirst

/-- **Accepted configurations.** The parts make up a configuration just in case it is the one they
say. -/
theorem ofParts_eq_ok_iff {fallback : Option Value} {fields : Fields} {c : Config} :
    ofParts fallback fields = .ok c ↔ c.ReadFrom fallback fields := by
  constructor
  · intro h
    unfold ofParts at h
    cases hswitch : readFallback fallback with
    | error issues => cases hrules : readRules fields <;> simp [hswitch, hrules] at h
    | ok on =>
      cases hrules : readRules fields with
      | error issues => simp [hswitch, hrules] at h
      | ok settings =>
        simp only [hswitch, hrules, Except.ok.injEq] at h
        subst h
        obtain ⟨hentries, hnodup⟩ := readRules_eq_ok_iff.mp hrules
        exact ⟨hswitch, hentries, hnodup⟩
  · rintro ⟨hswitch, hentries, hnodup⟩
    rw [ofParts, hswitch, readRules_eq_ok_iff.mpr ⟨hentries, hnodup⟩]

/-- The flat layout says the same as its parts. -/
theorem ofFlat_eq_ok_iff {fields : Fields} {c : Config} :
    ofFlat fields = .ok c ↔
      c.ReadFrom (fields.lookup fallbackKey) (fields.filter (·.1 ≠ fallbackKey)) :=
  ofParts_eq_ok_iff

/-! ## Names -/

/-- No rule is called as the key of the switch, for that is not in upper case. -/
theorem upper_ne_fallbackKey (name : String) : upper name ≠ fallbackKey := by
  intro h
  have htwice := upper_upper name
  rw [h] at htwice
  exact absurd htwice (by decide)

/-- The names of a configuration are in upper case and distinct. -/
structure Normal (c : Config) : Prop where
  upper_eq : ∀ entry ∈ c.rules, upper entry.1 = entry.1
  nodup : (c.rules.map (·.1)).Nodup

/-- Settings stay in their places, under the names in upper case. -/
theorem names_eq_of_forall₂ {fields : Fields} {rules : List (String × Setting)}
    (h : List.Forall₂ ReadsAs fields rules) :
    rules.map (·.1) = fields.map fun field => upper field.1 := by
  induction h with
  | nil => rfl
  | cons hfirst _ ih => rw [List.map_cons, List.map_cons, hfirst.name_eq, ih]

theorem exists_name_of_forall₂ {fields : Fields} {rules : List (String × Setting)}
    (h : List.Forall₂ ReadsAs fields rules) {entry : String × Setting} (hentry : entry ∈ rules) :
    ∃ field ∈ fields, upper field.1 = entry.1 := by
  have hmem : entry.1 ∈ rules.map (·.1) := List.mem_map_of_mem hentry
  rw [names_eq_of_forall₂ h] at hmem
  exact List.mem_map.mp hmem

theorem ReadFrom.normal {c : Config} {fallback : Option Value} {fields : Fields}
    (h : c.ReadFrom fallback fields) : c.Normal where
  upper_eq entry hentry := by
    obtain ⟨field, -, hname⟩ := exists_name_of_forall₂ h.entries hentry
    rw [← hname, upper_upper]
  nodup := h.nodup

theorem Normal.ne_fallbackKey {c : Config} (h : c.Normal) {entry : String × Setting}
    (hentry : entry ∈ c.rules) : entry.1 ≠ fallbackKey := by
  rw [← h.upper_eq entry hentry]
  exact upper_ne_fallbackKey _

/-! ## Settings written down again -/

/-- The settings of a configuration as raw values. -/
def fields (c : Config) : Fields := c.rules.map fun entry => (entry.1, entry.2.write)

theorem read_write (setting : Setting) : Setting.read setting.write = .ok setting := by
  cases setting with
  | switch on => rfl
  | options fields => rfl

theorem Normal.readFrom {c : Config} (h : c.Normal) :
    c.ReadFrom (some (.bool c.fallback)) c.fields where
  fallback_eq := rfl
  entries := by
    refine List.forall₂_map_left_iff.mpr (List.forall₂_same.mpr fun entry hentry => ?_)
    exact ⟨(h.upper_eq entry hentry).symm, read_write entry.2⟩
  nodup := h.nodup

end Config

end MarkdownCheck
