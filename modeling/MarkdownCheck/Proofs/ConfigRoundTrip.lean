import MarkdownCheck.Proofs.ConfigReading

/-!
# A configuration is read back as it was

A configuration is written down with the switch apart from the settings, or in a flat layout with the
switch among them. Written down either way, an accepted configuration is read as itself; and so is
what it was read from if only the case of names is changed (`accepted_round_trips`).

In the flat layout one key is no name but that of the switch, and only in its own spelling. So a rule
may be called `Default` there, but not `default` (`reserved_key_names_no_rule`): changing the case of
names must not touch that key.
-/

namespace MarkdownCheck

/-- A configuration as it is written down: the switch apart from the settings, or among them. -/
inductive Layout where
  | parts (fallback : Option Value) (fields : Fields)
  | flat (fields : Fields)

/-- The same raw setting for names that are the same in upper case. -/
structure SameSetting (field other : String × Value) : Prop where
  name_eq : upper field.1 = upper other.1
  value_eq : field.2 = other.2

namespace Layout

def read : Layout → Except Rejection Config
  | parts fallback fields => Config.ofParts fallback fields
  | flat fields => Config.ofFlat fields

/-- The same layout up to the case of names. The key of the switch is not one of them. -/
inductive Renamed : Layout → Layout → Prop
  | parts {fallback : Option Value} {fields others : Fields}
    (h : List.Forall₂ SameSetting fields others) : Renamed (parts fallback fields)
      (parts fallback others)
  | flat {fields others : Fields}
    (h : List.Forall₂ (fun field other => SameSetting field other ∧
      (field.1 = Config.fallbackKey ↔ other.1 = Config.fallbackKey)) fields others) :
    Renamed (flat fields) (flat others)

end Layout

namespace Config

variable {c : Config} {fields others : Fields}

theorem forall₂_readsAs_of_sameSetting {rules : List (String × Setting)}
    (h : List.Forall₂ SameSetting fields others) (hread : List.Forall₂ ReadsAs fields rules) :
    List.Forall₂ ReadsAs others rules := by
  induction h generalizing rules with
  | nil => exact hread
  | cons hsame _ ih =>
    cases hread with
    | cons hfirst hrest =>
      refine .cons ⟨?_, ?_⟩ (ih hrest)
      · rw [hfirst.name_eq, hsame.name_eq]
      · rw [← hsame.value_eq]
        exact hfirst.read_eq

/-- Names are read whatever their case. -/
theorem ReadFrom.of_sameSetting {fallback : Option Value} (h : c.ReadFrom fallback fields)
    (hsame : List.Forall₂ SameSetting fields others) : c.ReadFrom fallback others where
  fallback_eq := h.fallback_eq
  entries := forall₂_readsAs_of_sameSetting hsame h.entries
  nodup := h.nodup

/-- If the key of the switch stays where it is, so does the switch. -/
theorem lookup_fallbackKey_eq (h : List.Forall₂ (fun field other => SameSetting field other ∧
      (field.1 = fallbackKey ↔ other.1 = fallbackKey)) fields others) :
    others.lookup fallbackKey = fields.lookup fallbackKey := by
  induction h with
  | nil => rfl
  | @cons field other _ _ hfirst _ ih =>
    obtain ⟨hsame, hkey⟩ := hfirst
    rw [List.lookup_cons, List.lookup_cons, ih, hsame.value_eq]
    by_cases hfield : field.1 = fallbackKey
    · rw [hfield, hkey.mp hfield]
    · have hother : ¬ other.1 = fallbackKey := fun heq => hfield (hkey.mpr heq)
      rw [beq_false_of_ne (Ne.symm hfield), beq_false_of_ne (Ne.symm hother)]

theorem forall₂_filter_fallbackKey (h : List.Forall₂ (fun field other => SameSetting field other ∧
      (field.1 = fallbackKey ↔ other.1 = fallbackKey)) fields others) :
    List.Forall₂ SameSetting (fields.filter (·.1 ≠ fallbackKey))
      (others.filter (·.1 ≠ fallbackKey)) := by
  refine (List.rel_filter (fun field other hfirst => ?_) h).imp fun _ _ hfirst => hfirst.1
  simpa using not_congr hfirst.2

/-- In the flat layout, the settings of a configuration and its switch are kept apart. -/
theorem Normal.ofFlat_eq (h : c.Normal) :
    ofFlat ((fallbackKey, .bool c.fallback) :: c.fields) = .ok c := by
  have hfilter : c.fields.filter (·.1 ≠ fallbackKey) = c.fields := by
    refine List.filter_eq_self.mpr fun field hfield => ?_
    obtain ⟨entry, hentry, rfl⟩ := List.mem_map.mp hfield
    simpa using h.ne_fallbackKey hentry
  rw [ofFlat_eq_ok_iff, List.lookup_cons_self, List.filter_cons_of_neg (by simp), hfilter]
  exact h.readFrom

end Config

namespace Layout

theorem exists_readFrom {l : Layout} {c : Config} (h : l.read = .ok c) :
    ∃ fallback fields, c.ReadFrom fallback fields := by
  cases l with
  | parts fallback fields => exact ⟨_, _, Config.ofParts_eq_ok_iff.mp h⟩
  | flat fields => exact ⟨_, _, Config.ofFlat_eq_ok_iff.mp h⟩

theorem read_of_renamed {l other : Layout} {c : Config} (h : l.read = .ok c)
    (hrenamed : l.Renamed other) : other.read = .ok c := by
  cases hrenamed with
  | parts hsame =>
    exact Config.ofParts_eq_ok_iff.mpr ((Config.ofParts_eq_ok_iff.mp h).of_sameSetting hsame)
  | flat hsame =>
    have hfrom := Config.ofFlat_eq_ok_iff.mp h
    refine Config.ofFlat_eq_ok_iff.mpr ?_
    rw [Config.lookup_fallbackKey_eq hsame]
    exact hfrom.of_sameSetting (Config.forall₂_filter_fallbackKey hsame)

end Layout

/-- **An accepted configuration is read back as it was**, in either layout; no rule is called as the
key of the switch; and the names it was read from may change their case, as long as that key stays
what it is. -/
theorem accepted_round_trips (l : Layout) (c : Config) (h : l.read = .ok c) :
    (Layout.parts (some (.bool c.fallback)) c.fields).read = .ok c ∧
      (Layout.flat ((Config.fallbackKey, .bool c.fallback) :: c.fields)).read = .ok c ∧
      (∀ entry ∈ c.rules, entry.1 ≠ Config.fallbackKey) ∧
      ∀ other, l.Renamed other → other.read = .ok c := by
  obtain ⟨fallback, fields, hfrom⟩ := Layout.exists_readFrom h
  have hnormal := hfrom.normal
  refine ⟨?_, hnormal.ofFlat_eq, fun _ hentry => hnormal.ne_fallbackKey hentry,
    fun _ hrenamed => Layout.read_of_renamed h hrenamed⟩
  exact Config.ofParts_eq_ok_iff.mpr hnormal.readFrom

/-- A rule called almost as the key of the switch, and one that gets longer in upper case. -/
theorem accepted_round_trips_default :
    let step : Value := .object [("indent", .int 3)]
    let l : Layout := .flat [("Default", .bool false), ("default", .text "on"), ("stra\u00dfe", step)]
    let c : Config :=
      ⟨true, [("DEFAULT", .switch false), ("STRASSE", .options [("indent", .int 3)])]⟩
    let other : Layout :=
      .flat [("dEFAULT", .bool false), ("default", .text "on"), ("Strasse", step)]
    l.read = .ok c ∧ l.Renamed other ∧
      (Layout.flat [("default", .bool true), ("DEFAULT", .bool false), ("STRASSE", step)]).read =
        .ok c ∧
      other.read = .ok c := by
  intro step l c other
  have hread : l.read = .ok c := by rfl
  have hrenamed : l.Renamed other := by
    refine .flat (.cons ⟨⟨?_, rfl⟩, ?_⟩ (.cons ⟨⟨rfl, rfl⟩, Iff.rfl⟩
      (.cons ⟨⟨?_, rfl⟩, ?_⟩ .nil)))
    all_goals decide
  obtain ⟨-, hflat, -, hnames⟩ := accepted_round_trips l c hread
  exact ⟨hread, hrenamed, hflat, hnames other hrenamed⟩

/-- Spelled exactly as the key of the switch, a name is no name in the flat layout. -/
theorem reserved_key_names_no_rule :
    upper "default" = upper "Default" ∧
      (Layout.flat [("Default", .bool false)]).read = .ok ⟨true, [("DEFAULT", .switch false)]⟩ ∧
      (Layout.flat [("default", .bool false)]).read = .ok ⟨false, []⟩ ∧
      (⟨true, [("DEFAULT", .switch false)]⟩ : Config) ≠ ⟨false, []⟩ := by
  refine ⟨by decide, rfl, rfl, ?_⟩
  intro h
  exact absurd (congrArg Config.fallback h) (by decide)

end MarkdownCheck
