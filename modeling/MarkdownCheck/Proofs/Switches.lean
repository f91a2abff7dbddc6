import MarkdownCheck.Value.Reading
import Mathlib.Tactic.SplitIfs

/-!
# What stands for a switch

A setting that calls for a switch takes more than truth values.  `Value.StandsFor` lists what else it
takes, and for which position: zero and one as numbers of either kind, and twelve words.  These are
the values that convert (`toBool_eq_ok_iff`).

The others are refused for one of two reasons. A text, or a whole number of moderate size, might have
been meant for a switch (`Value.Suggests`), and anything else cannot be one (`outcome_toBool`).
-/

namespace MarkdownCheck

/-! ## The values -/

/-- The position that a raw value stands for: a truth value, zero or one, or a word for off or on,
whatever the case of its ASCII letters. -/
inductive Value.StandsFor : Value → Bool → Prop
  | bool (on : Bool) : StandsFor (.bool on) on
  | int (on : Bool) : StandsFor (.int (if on then 1 else 0)) on
  | real (on : Bool) : StandsFor (.real (if on then 1 else 0)) on
  | off {s : String} (h : s.toLower ∈ ["0", "off", "f", "false", "n", "no"]) :
    StandsFor (.text s) false
  | on {s : String} (h : s.toLower ∈ ["1", "on", "t", "true", "y", "yes"]) :
    StandsFor (.text s) true

/-- What might have been meant for a switch: any text, and whole numbers of less than 64 bits. -/
inductive Value.Suggests : Value → Prop
  | int {n : Int} (h : -9223372036854775808 ≤ n ∧ n < 9223372036854775808) : Suggests (.int n)
  | real {n : Int} (h : -9223372036854775808 < n ∧ n < 9223372036854775808) : Suggests (.real n)
  | text (s : String) : Suggests (.text s)

/-! ## Words and numbers -/

theorem mem_words_iff {s : String} {words : List String} :
    s.toList.map Char.toLower ∈ words.map String.toList ↔ s.toLower ∈ words := by
  have hlower : s.toList.map Char.toLower = s.toLower.toList := String.toList_map.symm
  rw [hlower, List.mem_map]
  constructor
  · rintro ⟨word, hword, heq⟩
    exact String.toList_inj.mp heq ▸ hword
  · intro h
    exact ⟨_, h, rfl⟩

theorem switchOfWord_eq_some_iff {s : String} {on : Bool} :
    switchOfWord s = some on ↔ Value.StandsFor (.text s) on := by
  have hoff : s.toList.map Char.toLower ∈ offWords ↔
      s.toLower ∈ ["0", "off", "f", "false", "n", "no"] := mem_words_iff
  have hon : s.toList.map Char.toLower ∈ onWords ↔
      s.toLower ∈ ["1", "on", "t", "true", "y", "yes"] := mem_words_iff
  have hapart : ∀ word ∈ ["1", "on", "t", "true", "y", "yes"],
      word ∉ ["0", "off", "f", "false", "n", "no"] := by decide
  simp only [switchOfWord, hoff, hon]
  constructor
  · intro h
    split_ifs at h with h0 h1
    · obtain rfl := Option.some.inj h
      exact .off h0
    · obtain rfl := Option.some.inj h
      exact .on h1
  · rintro (_ | _ | _ | h | h)
    · rw [if_pos h]
    · rw [if_neg (hapart _ h), if_pos h]

theorem switchOfInt_eq_some_iff {n : Int} {on : Bool} :
    switchOfInt n = some on ↔ n = if on then 1 else 0 := by
  unfold switchOfInt
  cases on <;> split_ifs <;> simp_all

theorem wholePart?_eq_some_iff {q : Rat} {n : Int} :
    Value.wholePart? q = some n ↔
      q = n ∧ -9223372036854775808 < n ∧ n < 9223372036854775808 := by
  unfold Value.wholePart?
  constructor
  · intro h
    split_ifs at h with hq
    obtain rfl := Option.some.inj h
    exact ⟨Rat.ext (Rat.num_intCast _).symm hq.1, hq.2⟩
  · rintro ⟨rfl, h⟩
    rw [if_pos ⟨Rat.den_intCast n, h⟩, Rat.num_intCast]

/-! ## Reading -/

namespace Value

variable {v : Value} {on other : Bool}

theorem standsFor_int_iff {n : Int} : StandsFor (.int n) on ↔ switchOfInt n = some on := by
  rw [switchOfInt_eq_some_iff]
  constructor
  · rintro ⟨⟩
    rfl
  · rintro rfl
    exact .int on

theorem standsFor_real_iff {q : Rat} :
    StandsFor (.real q) on ↔ (wholePart? q).bind switchOfInt = some on := by
  simp only [Option.bind_eq_some_iff, wholePart?_eq_some_iff, switchOfInt_eq_some_iff]
  constructor
  · rintro ⟨⟩
    refine ⟨if on then 1 else 0, ⟨?_, ?_⟩, rfl⟩
    · cases on <;> rfl
    · cases on <;> decide
  · rintro ⟨n, ⟨rfl, -⟩, rfl⟩
    have hcast : ((if on then 1 else 0 : Int) : Rat) = if on then 1 else 0 := by cases on <;> rfl
    rw [hcast]
    exact .real on

/-- What comes of reading a switch: its position, or why there is none. -/
inductive SwitchOutcome (v : Value) : Except Problem Bool → Prop
  | converts {on : Bool} (h : v.StandsFor on) : SwitchOutcome v (.ok on)
  | unclear (h : v.Suggests) (hnone : ∀ on, ¬ v.StandsFor on) :
    SwitchOutcome v (.error .unclearSwitch)
  | other (h : ¬ v.Suggests) (hnone : ∀ on, ¬ v.StandsFor on) : SwitchOutcome v (.error .notSwitch)

theorem outcome_toBool (v : Value) : v.SwitchOutcome v.toBool := by
  cases v with
  | bool on => exact .converts (.bool on)
  | int n =>
    cases hswitch : switchOfInt n with
    | some on =>
      simp only [toBool, hswitch]
      exact .converts (standsFor_int_iff.mpr hswitch)
    | none =>
      have hnone : ∀ on, ¬ StandsFor (.int n) on := by simp [standsFor_int_iff, hswitch]
      simp only [toBool, hswitch]
      split_ifs with hfits
      · exact .unclear (.int (fitsWord_iff.mp hfits)) hnone
      · refine .other ?_ hnone
        rintro ⟨h⟩
        exact hfits (fitsWord_iff.mpr h)
  | real q =>
    cases hwhole : wholePart? q with
    | none =>
      have hnone : ∀ on, ¬ StandsFor (.real q) on := by simp [standsFor_real_iff, hwhole]
      simp only [toBool, hwhole]
      refine .other (fun h => ?_) hnone
      cases h with
      | real hsize =>
        rw [wholePart?_eq_some_iff.mpr ⟨rfl, hsize⟩] at hwhole
        cases hwhole
    | some n =>
      obtain ⟨rfl, hsize⟩ := wholePart?_eq_some_iff.mp hwhole
      simp only [toBool, hwhole]
      cases hswitch : switchOfInt n with
      | some on => exact .converts (standsFor_real_iff.mpr (by simp [hwhole, hswitch]))
      | none => exact .unclear (.real hsize) (by simp [standsFor_real_iff, hwhole, hswitch])
  | text s =>
    cases hswitch : switchOfWord s with
    | some on =>
      simp only [toBool, hswitch]
      exact .converts (switchOfWord_eq_some_iff.mp hswitch)
    | none =>
      simp only [toBool, hswitch]
      exact .unclear (.text s) (by simp [← switchOfWord_eq_some_iff, hswitch])
  | null | infinite _ | nan | array _ | object _ =>
    refine .other ?_ fun on => ?_
    · rintro ⟨⟩
    · rintro ⟨⟩

theorem StandsFor.unique (h : v.StandsFor on) (h' : v.StandsFor other) : on = other := by
  cases v with
  | bool b =>
    cases h
    cases h'
    rfl
  | int n =>
    rw [standsFor_int_iff] at h h'
    exact Option.some.inj (h.symm.trans h')
  | real q =>
    rw [standsFor_real_iff] at h h'
    exact Option.some.inj (h.symm.trans h')
  | text s =>
    rw [← switchOfWord_eq_some_iff] at h h'
    exact Option.some.inj (h.symm.trans h')
  | null | infinite _ | nan | array _ | object _ => cases h

/-- **Which values convert to a switch**, and to which position. -/
theorem toBool_eq_ok_iff : v.toBool = .ok on ↔ v.StandsFor on := by
  have houtcome := outcome_toBool v
  constructor
  · intro h
    rw [h] at houtcome
    obtain ⟨hon⟩ := houtcome
    exact hon
  · intro h
    cases hread : v.toBool with
    | ok read =>
      rw [hread] at houtcome
      obtain ⟨hon⟩ := houtcome
      rw [hon.unique h]
    | error problem =>
      rw [hread] at houtcome
      cases houtcome with
      | unclear _ hnone => exact absurd h (hnone on)
      | other _ hnone => exact absurd h (hnone on)

end Value

end MarkdownCheck
