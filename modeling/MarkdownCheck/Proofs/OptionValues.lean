import MarkdownCheck.Proofs.Evaluation
import MarkdownCheck.Proofs.Numerals

/-!
# The values that options resolve to

Options are read from settings of any kind.  What comes of it is described here without the readers:

* `outcome_resolve`: a value in the domain that is declared for the parameter, or a rejection that names
  its key;
* `resolve_congr`: nothing but the setting under that key has a part in it;
* `resolve_settings`: a value in the domain, written as a setting again, is read as itself;
* `toPositive_text_eq_ok_iff`: a text is taken for a number from one upwards just in case it denotes that
  number, by the grammar of `Text.Numeral.Denotes`.

The main statement is `options_resolve`.  The grammar is wider than digits with single underscores between
them, since leading zeros swallow underscores, and there is a limit on the number of digits
(`strict_numerals_differ`).
-/

namespace MarkdownCheck

open Text.Numeral (Denotes LeadingZeros maxLength)

/-! ## Domains -/

/-- Whether a setting as it is written has a value in the domain. -/
def Domain.Holds : Domain → Value → Prop
  | oneOf words, v => ∃ word ∈ words, v = .text word
  | positive, v => ∃ n : Int, 1 ≤ n ∧ v = .int n

namespace Parameter

variable {p : Parameter}

/-- Whether a value, written as a setting, is in the domain of the parameter. -/
def Admits (p : Parameter) (value : p.Carrier) : Prop := p.domain.Holds (p.write value)

theorem mem_names {σ : Type} [Style σ] {policy : StylePolicy σ} (h : policy ∈ StylePolicy.all) :
    policy.name ∈ StylePolicy.names σ :=
  List.mem_map_of_mem h

theorem admits_of_mem_all {σ : Type} [Style σ] {policy : StylePolicy σ} (h : policy ∈ StylePolicy.all) :
    (Domain.oneOf (StylePolicy.names σ)).Holds (.text policy.name) :=
  ⟨policy.name, mem_names h, rfl⟩

theorem admits_of_pos {n : Nat} (h : 1 ≤ n) : Domain.positive.Holds (.int n) :=
  ⟨n, by omega, rfl⟩

/-- Every default is in its domain. -/
theorem admits_fallback (p : Parameter) : p.Admits p.fallback := by
  cases p with
  | headingStyle => exact admits_of_mem_all (σ := HeadingStyle) List.mem_cons_self
  | listStyle => exact admits_of_mem_all (σ := BulletStyle) List.mem_cons_self
  | listIndent => exact admits_of_pos (by decide : 1 ≤ 2)
  | lineLength => exact admits_of_pos (by decide : 1 ≤ 80)

theorem mem_all_of_readPolicy {σ : Type} [Style σ] {v : Value} {policy : StylePolicy σ}
    (h : readPolicy v = .ok policy) : policy ∈ StylePolicy.all := by
  unfold readPolicy at h
  cases v with
  | text s =>
    dsimp only at h
    cases hname : (StylePolicy.ofName? s : Option (StylePolicy σ)) with
    | none =>
      rw [hname] at h
      cases h
    | some named =>
      rw [hname] at h
      obtain rfl := Except.ok.inj h
      exact List.mem_of_find?_eq_some hname
  | _ => cases h

theorem toPositive_eq_ok_iff {v : Value} {n : Nat} :
    v.toPositive = .ok n ↔ 1 ≤ n ∧ v.toInt = .ok (n : Int) := by
  unfold Value.toPositive
  cases v.toInt with
  | error problem => simp [Except.bind]
  | ok k =>
    simp only [Except.bind, Except.ok.injEq]
    split_ifs with hk
    · rw [Except.ok.injEq]
      omega
    · simp only [false_iff]
      omega

theorem admits_of_read {v : Value} {value : p.Carrier} (h : p.read v = .ok value) :
    p.Admits value := by
  cases p with
  | headingStyle => exact admits_of_mem_all (mem_all_of_readPolicy h)
  | listStyle => exact admits_of_mem_all (mem_all_of_readPolicy h)
  | listIndent => exact admits_of_pos (toPositive_eq_ok_iff.mp h).1
  | lineLength => exact admits_of_pos (toPositive_eq_ok_iff.mp h).1

theorem readPolicy_name {σ : Type} [Style σ] {policy : StylePolicy σ}
    (h : StylePolicy.ofName? policy.name = some policy) :
    readPolicy (.text policy.name) = .ok policy := by
  unfold readPolicy
  dsimp only
  rw [h]
  rfl

theorem ofName?_headingStyle (policy : StylePolicy HeadingStyle) :
    StylePolicy.ofName? policy.name = some policy := by
  cases policy with
  | consistent => rfl
  | always style => cases style <;> rfl

theorem ofName?_bulletStyle (policy : StylePolicy BulletStyle) :
    StylePolicy.ofName? policy.name = some policy := by
  cases policy with
  | consistent => rfl
  | always style => cases style <;> rfl

theorem toPositive_int {n : Nat} (h : Domain.positive.Holds (.int n)) :
    (Value.int n).toPositive = .ok n := by
  obtain ⟨k, hk, hn⟩ := h
  obtain rfl : (n : Int) = k := Value.int.inj hn
  exact toPositive_eq_ok_iff.mpr ⟨by omega, rfl⟩

/-- A value in the domain is read back from how it is written. -/
theorem read_write {value : p.Carrier} (h : p.Admits value) : p.read (p.write value) = .ok value := by
  cases p with
  | headingStyle => exact readPolicy_name (ofName?_headingStyle value)
  | listStyle => exact readPolicy_name (ofName?_bulletStyle value)
  | listIndent => exact toPositive_int h
  | lineLength => exact toPositive_int h

end Parameter

/-! ## Options -/

namespace Options

variable {p? : Option Parameter} {fields others : Fields}

/-- Whether the value of the parameter, if there is one, is in its domain. -/
def InDomain : (p? : Option Parameter) → Options p? → Prop
  | none, _ => True
  | some p, value => p.Admits value

/-- What comes of settings: options with a value in the domain, or a rejection for what stands under
the key of the parameter. -/
inductive Outcome (p? : Option Parameter) : Except Rejection (Options p?) → Prop
  | accepted {options : Options p?} (h : InDomain p? options) : Outcome p? (.ok options)
  | refused {p : Parameter} (hp : p ∈ p?) (problem : Problem) :
    Outcome p? (.error ⟨p.title, [⟨[p.key], problem⟩]⟩)

theorem resolve_of_absent {p : Parameter} (h : fields.lookup p.key = none) :
    resolve (some p) fields = .ok p.fallback := by
  simp only [resolve, h]

theorem resolve_of_present {p : Parameter} {v : Value} (h : fields.lookup p.key = some v) :
    resolve (some p) fields =
      (p.read v).mapError fun problem => ⟨p.title, [⟨[p.key], problem⟩]⟩ := by
  simp only [resolve, h]
  rfl

theorem outcome_resolve (p? : Option Parameter) (fields : Fields) :
    Outcome p? (resolve p? fields) := by
  cases p? with
  | none => exact .accepted trivial
  | some p =>
    cases hlookup : fields.lookup p.key with
    | none =>
      have hdomain : InDomain (some p) p.fallback := p.admits_fallback
      rw [resolve_of_absent hlookup]
      exact .accepted hdomain
    | some v =>
      rw [resolve_of_present hlookup]
      cases hread : p.read v with
      | error problem => exact .refused rfl problem
      | ok value =>
        have hdomain : InDomain (some p) value := Parameter.admits_of_read hread
        exact .accepted hdomain

theorem inDomain_of_resolve {options : Options p?} (h : resolve p? fields = .ok options) :
    InDomain p? options := by
  have houtcome := outcome_resolve p? fields
  rw [h] at houtcome
  cases houtcome with
  | accepted hdomain => exact hdomain

/-- Only the setting under the key of the parameter matters. -/
theorem resolve_congr (h : ∀ p ∈ p?, fields.lookup p.key = others.lookup p.key) :
    resolve p? fields = resolve p? others := by
  cases p? with
  | none => rfl
  | some p =>
    have hkey := h p rfl
    cases hlookup : others.lookup p.key with
    | none => rw [resolve_of_absent hlookup, resolve_of_absent (hkey.trans hlookup)]
    | some v => rw [resolve_of_present hlookup, resolve_of_present (hkey.trans hlookup)]

/-- Options in their domain are read back from how they are written. -/
theorem resolve_settings {options : Options p?} (h : InDomain p? options) :
    resolve p? (settings p? options) = .ok options := by
  cases p? with
  | none => rfl
  | some p =>
    have hlookup : (settings (some p) options).lookup p.key = some (p.write options) := by
      simp [settings]
    rw [resolve_of_present hlookup, Parameter.read_write h]
    rfl

end Options

theorem Rule.evaluate_congr_options {r : Rule} {fields others : Fields}
    (h : Options.resolve r.parameter fields = Options.resolve r.parameter others) (d : Document) :
    r.evaluate d fields = r.evaluate d others := by
  unfold evaluate
  rw [h]

/-! ## Numbers written as text -/

theorem toInt_text_eq_ok_iff {s : String} {n : Int} :
    (Value.text s).toInt = .ok n ↔ Text.Numeral.parse s.toList = some n := by
  cases hparse : Text.Numeral.parse s.toList with
  | none => simp [Value.toInt, hparse]
  | some k => simp [Value.toInt, hparse]

theorem toPositive_text_eq_ok_iff {s : String} {n : Nat} :
    (Value.text s).toPositive = .ok n ↔
      1 ≤ n ∧ n < 10 ^ maxLength ∧ Denotes LeadingZeros s.toList n := by
  rw [Parameter.toPositive_eq_ok_iff, toInt_text_eq_ok_iff]
  refine and_congr_right fun hn => ?_
  rw [Text.Numeral.parse_eq_some_iff_of_pos hn]
  exact and_comm

theorem Parameter.exists_read_iff {p : Parameter} (hp : p.domain = .positive) {v : Value} {n : Nat} :
    (∃ value, p.read v = .ok value ∧ p.write value = .int n) ↔ v.toPositive = .ok n := by
  have hnat : (∃ k : Nat, v.toPositive = .ok k ∧ Value.int k = .int n) ↔ v.toPositive = .ok n := by
    constructor
    · rintro ⟨k, h, hk⟩
      obtain rfl : k = n := Int.ofNat_inj.mp (Value.int.inj hk)
      exact h
    · intro h
      exact ⟨n, h, rfl⟩
  cases p with
  | headingStyle => cases hp
  | listStyle => cases hp
  | listIndent => exact hnat
  | lineLength => exact hnat

namespace Options

variable {p? : Option Parameter} {p : Parameter} {fields others : Fields} {s : String}

theorem mapError_eq_ok_iff {ε δ α : Type} {x : Except ε α} {f : ε → δ} {a : α} :
    x.mapError f = .ok a ↔ x = .ok a := by
  cases x with
  | error e => simp [Except.mapError]
  | ok b => simp [Except.mapError]

/-- A text resolves to the number that it denotes, and to nothing else. -/
theorem resolve_text_iff (hp : p ∈ p?) (hpos : p.domain = .positive)
    (htext : fields.lookup p.key = some (.text s)) {n : Nat} :
    (∃ options, resolve p? fields = .ok options ∧ settings p? options = [(p.key, .int n)]) ↔
      1 ≤ n ∧ n < 10 ^ maxLength ∧ Denotes LeadingZeros s.toList n := by
  obtain rfl : p? = some p := hp
  rw [← toPositive_text_eq_ok_iff, ← Parameter.exists_read_iff hpos, resolve_of_present htext]
  refine exists_congr fun value => and_congr mapError_eq_ok_iff ?_
  simp [settings]

theorem exists_settings {options : Options p?} (hp : p ∈ p?) (hpos : p.domain = .positive)
    (h : resolve p? fields = .ok options) : ∃ n : Nat, settings p? options = [(p.key, .int n)] := by
  obtain rfl : p? = some p := hp
  have hdomain : p.domain.Holds (p.write options) := inDomain_of_resolve h
  rw [hpos] at hdomain
  obtain ⟨k, hk, hwrite⟩ := hdomain
  obtain ⟨n, rfl⟩ := Int.eq_ofNat_of_zero_le (by omega : 0 ≤ k)
  refine ⟨n, ?_⟩
  show [(p.key, p.write options)] = _
  rw [hwrite]

/-- Settings with the number itself resolve to the same. -/
theorem resolve_eq_of_settings {options : Options p?} {v : Value} (hp : p ∈ p?)
    (h : resolve p? fields = .ok options) (hsettings : settings p? options = [(p.key, v)])
    (hothers : others.lookup p.key = some v) : resolve p? fields = resolve p? others := by
  rw [h, ← resolve_settings (inDomain_of_resolve h), hsettings]
  refine resolve_congr fun q hq => ?_
  obtain rfl : p = q := Option.mem_unique hp hq
  rw [hothers]
  simp

end Options

/-! ## Rules -/

/-- **The values that options resolve to.** Settings for a rule resolve to a value in the declared domain or
are rejected for what stands under the key; only that setting matters; and resolved options, written as
settings, resolve to themselves.  A text for a number is accepted just in case it denotes one from one
upwards with no more digits than are read.  Then it resolves to that number, and the rule answers as it
does to the number itself. -/
theorem options_resolve (r : Rule) (fields : Fields) :
    Options.Outcome r.parameter (Options.resolve r.parameter fields) ∧
      (∀ others : Fields, (∀ p ∈ r.parameter, fields.lookup p.key = others.lookup p.key) →
        Options.resolve r.parameter fields = Options.resolve r.parameter others) ∧
      (∀ options, Options.resolve r.parameter fields = .ok options →
        Options.resolve r.parameter (Options.settings r.parameter options) = .ok options) ∧
      ∀ p ∈ r.parameter, p.domain = .positive → ∀ s, fields.lookup p.key = some (.text s) →
        ((∃ options, Options.resolve r.parameter fields = .ok options) ↔
          ∃ n : Nat, 1 ≤ n ∧ n < 10 ^ maxLength ∧ Denotes LeadingZeros s.toList n) ∧
        ∀ n : Nat, 1 ≤ n → n < 10 ^ maxLength → Denotes LeadingZeros s.toList n →
          (∃ options, Options.resolve r.parameter fields = .ok options ∧
            Options.settings r.parameter options = [(p.key, .int n)]) ∧
          ∀ others : Fields, others.lookup p.key = some (.int n) →
            ∀ d, r.evaluate d fields = r.evaluate d others := by
  refine ⟨Options.outcome_resolve _ _, fun others h => Options.resolve_congr h,
    fun options h => Options.resolve_settings (Options.inDomain_of_resolve h),
    fun p hp hpos s htext => ⟨⟨?_, ?_⟩, fun n hn hlt hdenotes => ?_⟩⟩
  · rintro ⟨options, h⟩
    obtain ⟨n, hsettings⟩ := Options.exists_settings hp hpos h
    exact ⟨n, (Options.resolve_text_iff hp hpos htext).mp ⟨options, h, hsettings⟩⟩
  · rintro ⟨n, hn⟩
    obtain ⟨options, h, -⟩ := (Options.resolve_text_iff hp hpos htext).mpr hn
    exact ⟨options, h⟩
  · obtain ⟨options, h, hsettings⟩ :=
      (Options.resolve_text_iff hp hpos htext).mpr ⟨hn, hlt, hdenotes⟩
    refine ⟨⟨options, h, hsettings⟩, fun others hothers d => ?_⟩
    exact Rule.evaluate_congr_options (Options.resolve_eq_of_settings hp h hsettings hothers) d

/-- A number behind a zero with two underscores, and a key that only looks like the right one. -/
theorem options_resolve_behind_zero :
    let fields : Fields := [("Indent", .null), ("indent", .text "\u2003+0__5.00\n")]
    let others : Fields := [("indent", .int 5)]
    let d : Document :=
      { lines := ["* a", "    * b", "         * c"].map String.toList
        tokens := [1, 2, 3].map fun line => { kind := .bulletListOpen, line } }
    Parameter.listIndent ∈ Rule.listStep.parameter ∧ Parameter.listIndent.domain = .positive ∧
      (5 < 10 ^ maxLength ∧ Denotes LeadingZeros "\u2003+0__5.00\n".toList 5) ∧
      (∃ options, Options.resolve Rule.listStep.parameter fields = .ok options ∧
        Options.settings Rule.listStep.parameter options = [("indent", .int 5)]) ∧
      Rule.listStep.evaluate d fields = Rule.listStep.evaluate d others ∧
      Rule.listStep.evaluate d others = .ok [2] := by
  intro fields others d
  have hlt : 5 < 10 ^ maxLength := lt_of_lt_of_le (by decide : 5 < 10 ^ 1)
    (Nat.pow_le_pow_right (by decide) (by decide : 1 ≤ maxLength))
  have hdenotes : Denotes LeadingZeros "\u2003+0__5.00\n".toList (5 : Nat) := by
    have hsigned : Text.Numeral.Signed ['+'] (Text.Numeral.denoted ['5']) (5 : Nat) := .plus 5
    have hzeros : LeadingZeros ['0', '_', '_'] := .inr ⟨['_', '_'], rfl, by simp⟩
    show Denotes LeadingZeros
      ("\u2003".toList ++ (['+'] ++ (['0', '_', '_'] ++ (['5'] ++ ".00".toList))) ++ "\n".toList) _
    exact .intro (List.all_eq_true.mp rfl) hsigned hzeros (.last rfl) (.inr ⟨1, rfl⟩)
      (List.all_eq_true.mp rfl)
  obtain ⟨hresolve, hevaluate⟩ := ((options_resolve Rule.listStep fields).2.2.2 .listIndent rfl rfl _ rfl).2
    5 (by decide) hlt hdenotes
  exact ⟨rfl, rfl, ⟨hlt, hdenotes⟩, hresolve, hevaluate others rfl d, rfl⟩

/-! ## Where the grammar is wider, and where there is a limit -/

namespace Text.Numeral

variable {d : Char} {digits : Text}

theorem grouped_of_forall (h : ∀ c ∈ d :: digits, isDigit c = true) :
    Grouped (d :: digits) (d :: digits) := by
  induction digits generalizing d with
  | nil => exact .last (h d List.mem_cons_self)
  | cons e digits ih =>
    obtain ⟨hd, hrest⟩ := List.forall_mem_cons.mp h
    exact .digit hd (ih hrest)

/-- Digits denote their number in either grammar. -/
theorem denotes_digits {front : Text → Prop} (hfront : front [])
    (h : ∀ c ∈ d :: digits, isDigit c = true) :
    Denotes front (d :: digits) (denoted (d :: digits)) := by
  have hparts : Denotes front (d :: digits) (denoted (d :: digits)) =
      Denotes front ([] ++ ([] ++ ([] ++ (d :: digits ++ []))) ++ []) (denoted (d :: digits)) := by
    simp
  rw [hparts]
  exact .intro (by simp) (.none _) hfront (grouped_of_forall h) (.inl rfl) (by simp)

theorem parse_eq_none_of_overlong (hd : isNonzeroDigit d = true)
    (h : ∀ c ∈ d :: digits, isDigit c = true) (hlong : maxLength < (d :: digits).length) :
    parse (d :: digits) = none := by
  have hplain : simplify (d :: digits) = some (d :: digits) :=
    ((simplify_eq_some_iff hd).mpr ⟨[], [], [], d :: digits, [], [], by simp, by simp, .inl rfl,
      .inl rfl, grouped_of_forall h, .inl rfl, by simp⟩).1
  rw [parse, hplain, Option.bind_some, if_neg (Nat.not_le.mpr hlong)]

theorem startsOverlong_digits (hd : isNonzeroDigit d = true)
    (h : ∀ c ∈ d :: digits, isDigit c = true) (hlong : maxLength < (d :: digits).length) :
    startsOverlong (d :: digits) = true := by
  have hminus : d ≠ '-' := isDigit_ne (isDigit_of_isNonzeroDigit hd) rfl
  have hrun : (d :: digits).takeWhile isDigit = d :: digits :=
    List.takeWhile_eq_self_iff.mpr h
  unfold startsOverlong
  split
  · rename_i ds heq
    exact absurd (List.cons.inj heq).1 hminus
  · rw [startsWithMore, hrun]
    simpa [hd] using hlong

end Text.Numeral

/-- A text of digits, the first of them not zero, is too large if it has too many. -/
theorem toPositive_text_of_overlong {s : String} {d : Char} {digits : Text}
    (hs : s.toList = d :: digits) (hd : Text.Numeral.isNonzeroDigit d = true)
    (h : ∀ c ∈ d :: digits, Text.Numeral.isDigit c = true) (hlong : maxLength < (d :: digits).length) :
    (Value.text s).toPositive = .error .tooLarge := by
  have hint : (Value.text s).toInt = .error .tooLarge := by
    simp only [Value.toInt, hs, Text.Numeral.parse_eq_none_of_overlong hd h hlong,
      Text.Numeral.startsOverlong_digits hd h hlong, if_true]
  rw [Value.toPositive, hint]
  rfl

/-- Two underscores in a row do not stand between digits only. -/
theorem not_denotes_two_underscores (n : Int) : ¬ Denotes (· = []) ['0', '_', '_', '5'] n := by
  intro h
  generalize ht : ['0', '_', '_', '5'] = t at h
  have hwhite : ∀ c ∈ t, isWhiteSpace c = false ∧ c ≠ '+' ∧ c ≠ '-' ∧ c ≠ '.' := by
    rw [← ht]
    simp only [List.forall_mem_cons, List.not_mem_nil, false_implies, implies_true]
    decide
  cases h with
  | @intro left sign zeros grouped digits fraction right _ hleft hsign hzeros hgrouped hfraction hright =>
    subst hzeros
    simp only [List.forall_mem_append] at hwhite
    obtain ⟨⟨hwleft, hwsign, -, -, hwfraction⟩, hwright⟩ := hwhite
    have hnil : ∀ part : Text, (∀ c ∈ part, isWhiteSpace c = true) →
        (∀ c ∈ part, isWhiteSpace c = false ∧ c ≠ '+' ∧ c ≠ '-' ∧ c ≠ '.') → part = [] := by
      intro part hwhite hplain
      refine List.eq_nil_iff_forall_not_mem.mpr fun c hc => ?_
      exact Bool.false_ne_true ((hplain c hc).1.symm.trans (hwhite c hc))
    obtain rfl := hnil left hleft hwleft
    obtain rfl := hnil right hright hwright
    have hsign : sign = [] := by
      cases hsign with
      | none => rfl
      | plus => simp at hwsign
      | minus => simp at hwsign
    have hfraction : fraction = [] := by
      rcases hfraction with rfl | ⟨k, rfl⟩
      · rfl
      · simp at hwfraction
    subst hsign hfraction
    -- grouped digits go on with a digit behind an underscore
    simp only [List.nil_append, List.append_nil] at ht
    subst ht
    cases hgrouped with
    | digit _ h => cases h with
      | digit hd _ => cases hd
      | underscore hd _ => cases hd
    | underscore _ h => cases h with
      | digit hd _ => cases hd

/-- Two underscores behind a zero are read, though they do not stand between digits, and digits alone are
refused when there are too many. -/
theorem strict_numerals_differ :
    let nines : String := String.ofList (List.replicate 4301 '9')
    Options.resolve Rule.listStep.parameter [("indent", .text "0__5")] = .ok (5 : Nat) ∧
      (¬ ∃ n, Denotes (· = []) "0__5".toList n) ∧
      (∃ n : Nat, 1 ≤ n ∧ Denotes (· = []) nines.toList n) ∧
      Options.resolve Rule.listStep.parameter [("indent", .text nines)] =
        .error ⟨"ListIndentOptions", [⟨["indent"], .tooLarge⟩]⟩ := by
  intro nines
  have hnines : nines.toList = '9' :: List.replicate 4300 '9' := String.toList_ofList
  have hdigits : ∀ c ∈ '9' :: List.replicate 4300 '9', Text.Numeral.isDigit c = true := by
    refine List.forall_mem_cons.mpr ⟨rfl, fun c hc => ?_⟩
    rw [List.eq_of_mem_replicate hc]
    rfl
  have hlong : maxLength < ('9' :: List.replicate 4300 '9').length := by
    rw [List.length_cons, List.length_replicate]
    exact Nat.lt_succ_self 4300
  have hpos : 1 ≤ Text.Numeral.denoted ('9' :: List.replicate 4300 '9') :=
    (Nat.one_le_pow _ _ (by decide)).trans (Text.Numeral.le_denoted rfl)
  have hread : Parameter.listIndent.read (.text nines) = .error .tooLarge :=
    toPositive_text_of_overlong hnines rfl hdigits hlong
  refine ⟨rfl, fun ⟨n, h⟩ => not_denotes_two_underscores n h, ⟨_, hpos, ?_⟩, ?_⟩
  · rw [hnines]
    exact Text.Numeral.denotes_digits rfl hdigits
  · show Options.resolve (some .listIndent) _ = _
    rw [Options.resolve_of_present rfl, hread]
    rfl

end MarkdownCheck
