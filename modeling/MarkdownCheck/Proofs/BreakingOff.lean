import MarkdownCheck.Proofs.Evaluation
import MarkdownCheck.Proofs.ListWalk
import MarkdownCheck.Proofs.TokenLines
import MarkdownCheck.Report
import Mathlib.Algebra.Group.Nat.Defs

/-!
# When a rule breaks off

Tokens promise nothing, so a check may ask for a line that does not exist or compare with a level
that is missing.  `FaultsIff x kind cond` says that `x` is a fault of class `kind` under the
condition `cond` and a result otherwise.  It is put together along the way a check is: what comes
after another step (`FaultsIff.bind`), a series of readings (`FaultsIff.mapM`), a single one
(`lineOf_faultsIff`).

The main statement, `rules_break_off_exactly`, goes through all rules: seven of them break off, each
under a condition on the tokens or the options, and the others never do.  Where none of the
conditions is met a report has no errors.
-/

namespace MarkdownCheck

/-! ## Faults under a condition -/

/-- A fault of class `kind` if the condition holds, and a result if it does not. -/
structure FaultsIff {α : Type} (x : Except Fault α) (kind : FaultKind) (cond : Prop) : Prop where
  fault : cond → ∃ fault, x = .error fault ∧ fault.kind = kind
  result : ¬ cond → ∃ a, x = .ok a

namespace FaultsIff

variable {α β : Type} {x : Except Fault α} {kind : FaultKind} {c c' : Prop}

theorem of_iff (h : FaultsIff x kind c) (hc : c ↔ c') : FaultsIff x kind c' :=
  propext hc ▸ h

theorem ok (a : α) (kind : FaultKind) : FaultsIff (.ok a) kind False where
  fault h := h.elim
  result _ := ⟨a, rfl⟩

theorem map (h : FaultsIff x kind c) (g : α → β) : FaultsIff (x.map g) kind c where
  fault hc := by
    obtain ⟨fault, rfl, hkind⟩ := h.fault hc
    exact ⟨fault, rfl, hkind⟩
  result hc := by
    obtain ⟨a, rfl⟩ := h.result hc
    exact ⟨g a, rfl⟩

theorem bind {f : α → Except Fault β} (hx : FaultsIff x kind c)
    (hf : ∀ a, FaultsIff (f a) kind c') : FaultsIff (x >>= f) kind (c ∨ c') := by
  by_cases hc : c
  · obtain ⟨fault, rfl, hkind⟩ := hx.fault hc
    exact ⟨fun _ => ⟨fault, rfl, hkind⟩, fun hn => absurd (.inl hc) hn⟩
  · obtain ⟨a, rfl⟩ := hx.result hc
    exact (hf a).of_iff (or_iff_right hc).symm

/-- A series of readings breaks off just in case one of them does. -/
theorem mapM {f : β → Except Fault α} {cond : β → Prop} (bs : List β)
    (h : ∀ b ∈ bs, FaultsIff (f b) kind (cond b)) :
    FaultsIff (bs.mapM f) kind (∃ b ∈ bs, cond b) := by
  induction bs with
  | nil =>
    rw [List.mapM_nil]
    exact (ok [] kind).of_iff (by simp)
  | cons b bs ih =>
    rw [List.mapM_cons]
    have hrest := ih fun b' hb' => h b' (List.mem_cons_of_mem _ hb')
    have htail := fun a => hrest.bind fun as => ok (a :: as) kind
    refine ((h b List.mem_cons_self).bind htail).of_iff ?_
    rw [or_false, List.exists_mem_cons_iff]

end FaultsIff

/-! ## Single steps -/

section Steps

variable {d : Document} {t : Token}

theorem lineOf_faultsIff (d : Document) (t : Token) :
    FaultsIff (d.lineOf t) .index (¬ d.Readable t) := by
  cases h : d.lineOf t with
  | ok line =>
    have hread : d.Readable t := Document.exists_lineOf_iff.mp ⟨line, h⟩
    exact (FaultsIff.ok line .index).of_iff (by simpa using hread)
  | error fault =>
    refine ⟨fun _ => ⟨fault, rfl, Document.kind_of_lineOf_eq_error h⟩, fun hread => ?_⟩
    obtain ⟨line, hline⟩ := Document.exists_lineOf_iff.mpr (not_not.mp hread)
    rw [h] at hline
    cases hline

theorem withIndent_faultsIff (d : Document) (ts : List Token) :
    FaultsIff (d.withIndent ts) .index (∃ t ∈ ts, ¬ d.Readable t) :=
  FaultsIff.mapM ts fun t _ => ((lineOf_faultsIff d t).map Text.indent).map _

/-- Only a heading on a single line is looked up. -/
theorem headingStyle_faultsIff (d : Document) (t : Token) :
    FaultsIff (d.headingStyle t) .index (t.span.2 - t.span.1 = 1 ∧ ¬ d.Readable t) := by
  unfold Document.headingStyle
  split_ifs with hspan
  · exact ((lineOf_faultsIff d t).map _).of_iff (by simp [hspan])
  · exact (FaultsIff.ok _ _).of_iff (by simp [hspan])

/-- Whether a level other than zero is followed by none. -/
def LosesLevel (previous level : Option Int) : Prop :=
  (∃ p, previous = some p ∧ p ≠ 0) ∧ level = none

theorem skipsLevel_faultsIff (previous level : Option Int) :
    FaultsIff (Document.skipsLevel previous level) .type (LosesLevel previous level) := by
  unfold LosesLevel
  cases previous with
  | none => exact (FaultsIff.ok _ _).of_iff (by simp)
  | some p =>
    cases level with
    | some l => exact (FaultsIff.ok _ _).of_iff (by simp)
    | none =>
      by_cases hp : p = 0
      · refine ⟨by simp [hp], fun _ => ⟨false, ?_⟩⟩
        rw [Document.skipsLevel, if_pos hp]
      · refine ⟨fun _ => ⟨.missingHeadingLevel, ?_, rfl⟩, by simp [hp]⟩
        rw [Document.skipsLevel, if_neg hp]

/-- Two headings next to each other of which only the first has a level to compare with. -/
theorem jumpsFrom_faultsIff (previous : Option Int) (headings : List Token) :
    FaultsIff (Document.jumpsFrom previous headings) .type
      ((∃ t ∈ headings.head?, LosesLevel previous t.headingLevel) ∨
        ∃ t u, [t, u] <:+: headings ∧ LosesLevel t.headingLevel u.headingLevel) := by
  induction headings generalizing previous with
  | nil => exact (FaultsIff.ok _ _).of_iff (by simp)
  | cons t rest ih =>
    rw [Document.jumpsFrom]
    have htail : ∀ skips : Bool, FaultsIff
        (Document.jumpsFrom t.headingLevel rest >>= fun later =>
          pure (if skips then t.line :: later else later)) .type _ :=
      fun skips => (ih t.headingLevel).bind fun later => FaultsIff.ok _ _
    refine ((skipsLevel_faultsIff previous t.headingLevel).bind htail).of_iff ?_
    have hpairs : (∃ a b, [a, b] <:+: t :: rest ∧ LosesLevel a.headingLevel b.headingLevel) ↔
        (∃ u ∈ rest.head?, LosesLevel t.headingLevel u.headingLevel) ∨
          ∃ a b, [a, b] <:+: rest ∧ LosesLevel a.headingLevel b.headingLevel := by
      cases rest with
      | nil => simp [List.infix_cons_iff]
      | cons u rest => simp [List.infix_cons_iff, or_and_right, exists_or]
    rw [hpairs, or_false]
    simp

end Steps

/-! ## Rules -/

/-- Whenever the options are accepted, the rule breaks off if the condition holds of them, with a
fault of the class that `kind` gives for them, and has an answer if it does not. -/
structure Rule.BreaksOffIff (r : Rule) (d : Document) (kind : Options r.parameter → FaultKind)
    (cond : Options r.parameter → Prop) : Prop where
  breaks : ∀ fields options, Options.resolve r.parameter fields = .ok options → cond options →
    ∃ fault, r.evaluate d fields = .error (.broken fault) ∧ fault.kind = kind options
  answers : ∀ fields options, Options.resolve r.parameter fields = .ok options → ¬ cond options →
    ∃ lines, r.evaluate d fields = .ok lines

theorem Rule.breaksOffIff_of_check {r : Rule} {d : Document}
    {kind : Options r.parameter → FaultKind} {cond : Options r.parameter → Prop}
    {check : Options r.parameter → Except Fault (List Int)}
    (hcheck : ∀ options, r.check d options = .ofExcept (check options))
    (h : ∀ options, FaultsIff (check options) (kind options) (cond options)) :
    r.BreaksOffIff d kind cond where
  breaks fields options hres hcond := by
    obtain ⟨fault, hfault, hkind⟩ := (h options).fault hcond
    refine ⟨fault, ?_, hkind⟩
    rw [evaluate_ofExcept hres (hcheck options), hfault]
    rfl
  answers fields options hres hcond := by
    obtain ⟨lines, hlines⟩ := (h options).result hcond
    refine ⟨ascending lines, ?_⟩
    rw [evaluate_ofExcept hres (hcheck options), hlines]
    rfl

theorem errors_eq_nil_iff {d : Document} {c : Config} {rules : List Rule} :
    (d.report c rules).errors = [] ↔ ∀ r ∈ rules, c.isEnabled r.name = true →
      ∃ lines, r.evaluate d (c.optionsFor r.name) = .ok lines := by
  have hrun : ∀ run : Run, run.error? = none ↔ ∃ lines, run.outcome = .ok lines := by
    rintro ⟨rule, outcome⟩
    cases outcome <;> simp [Run.error?]
  simp only [Document.report, Document.runs, Config.enabled, Report.ofRuns,
    List.filterMap_eq_nil_iff, List.forall_mem_map, List.mem_filter, hrun, and_imp]

/-! ## Checks -/

/-- Whether the line of some token of that kind does not exist. -/
def Document.Misses (d : Document) (k : Kind) : Prop := ∃ t ∈ d.tokens, t.kind = k ∧ ¬ d.Readable t

/-- Whether a heading with a level other than zero is directly followed by one without any. -/
def Document.MissesLevel (d : Document) : Prop :=
  ∃ t u, [t, u] <:+: d.headings ∧ LosesLevel t.headingLevel u.headingLevel

section Checks

variable (d : Document)

theorem exists_select_iff (k : Kind) (p : Token → Prop) :
    (∃ t ∈ d.select [k], p t) ↔ ∃ t ∈ d.tokens, t.kind = k ∧ p t := by
  simp only [Document.mem_select_singleton_iff, and_assoc]

theorem headingJumps_faultsIff : FaultsIff d.headingJumps .type d.MissesLevel :=
  (jumpsFrom_faultsIff none d.headings).of_iff (by simp [LosesLevel, Document.MissesLevel])

theorem otherHeadingStyles_faultsIff (policy : StylePolicy HeadingStyle) :
    FaultsIff (d.otherHeadingStyles policy) .index
      (∃ t ∈ d.tokens, t.kind = .headingOpen ∧ t.span.2 - t.span.1 = 1 ∧ ¬ d.Readable t) := by
  rw [Document.otherHeadingStyles_eq]
  have hread := FaultsIff.mapM d.headings fun t _ => (headingStyle_faultsIff d t).map
    fun style => (t.line, some style)
  exact (hread.map _).of_iff (exists_select_iff d _ _)

theorem otherBulletStyles_faultsIff (policy : StylePolicy BulletStyle) :
    FaultsIff (d.otherBulletStyles policy) .index (d.Misses .listItemOpen) := by
  rw [Document.otherBulletStyles_eq]
  have hread := FaultsIff.mapM d.listItems fun t _ => (lineOf_faultsIff d t).map
    fun line => (t.line, Document.bulletOf line)
  exact (hread.map _).of_iff (exists_select_iff d _ _)

theorem unevenItems_faultsIff : FaultsIff d.unevenItems .index (d.Misses .listItemOpen) :=
  ((withIndent_faultsIff d d.listItems).map _).of_iff (exists_select_iff d _ _)

theorem indentedLists_faultsIff :
    FaultsIff d.indentedLists .index
      (∃ before t after, d.tokens = before ++ t :: after ∧ t.kind = .bulletListOpen ∧
        before.countP (·.kind = .bulletListOpen) = before.countP (·.kind = .bulletListClose) ∧
        ¬ d.Readable t) := by
  refine ((withIndent_faultsIff d d.outermostLists).map _).of_iff ?_
  simp only [Document.mem_outermostLists_iff]
  constructor
  · rintro ⟨t, ⟨before, after, htokens, hkind, hcount⟩, hread⟩
    exact ⟨before, t, after, htokens, hkind, hcount, hread⟩
  · rintro ⟨before, t, after, htokens, hkind, hcount, hread⟩
    exact ⟨t, ⟨before, after, htokens, hkind, hcount⟩, hread⟩

theorem wrongSteps_faultsIff (step : Nat) :
    FaultsIff (d.wrongSteps step) .index (d.Misses .bulletListOpen) :=
  ((withIndent_faultsIff d d.bulletLists).map _).of_iff (exists_select_iff d _ _)

/-- A limit out of reach is a fault of one class as long as it can be written out, and of another
from there on. -/
theorem longLines_faultsIff (limit : Nat) :
    FaultsIff (d.longLines limit) (if limit < 10 ^ 4300 then .overflow else .value)
      (Document.limitBound ≤ limit) := by
  have hbound : Document.unwritableBound = 10 ^ 4300 := by
    unfold Document.unwritableBound
    generalize 4300 = digits
    exact Nat.pow_eq
  unfold Document.longLines
  rw [hbound]
  by_cases hlimit : limit < Document.limitBound
  · rw [if_pos hlimit]
    exact (FaultsIff.ok _ _).of_iff (by simpa using hlimit)
  · rw [if_neg hlimit]
    refine ⟨fun _ => ?_, fun h => absurd (not_le.mp h) hlimit⟩
    split_ifs
    · exact ⟨.limitTooLarge, rfl, rfl⟩
    · exact ⟨.limitUnwritable, rfl, rfl⟩

end Checks

/-! ## All rules -/

/-- Which rules break off on a document, under which conditions and with which class of fault. -/
structure Document.BreakingRules (d : Document) : Prop where
  headingIncrement : Rule.headingIncrement.BreaksOffIff d (fun _ => ⟨"TypeError"⟩) fun _ =>
    d.MissesLevel
  headingStyle : Rule.headingStyle.BreaksOffIff d (fun _ => ⟨"IndexError"⟩) fun _ =>
    ∃ t ∈ d.tokens, t.kind = .headingOpen ∧ t.span.2 - t.span.1 = 1 ∧ ¬ d.Readable t
  listStyle : Rule.listStyle.BreaksOffIff d (fun _ => ⟨"IndexError"⟩) fun _ => d.Misses .listItemOpen
  listIndent : Rule.listIndent.BreaksOffIff d (fun _ => ⟨"IndexError"⟩) fun _ => d.Misses .listItemOpen
  listStart : Rule.listStart.BreaksOffIff d (fun _ => ⟨"IndexError"⟩) fun _ =>
    ∃ before t after, d.tokens = before ++ t :: after ∧ t.kind = .bulletListOpen ∧
      before.countP (·.kind = .bulletListOpen) = before.countP (·.kind = .bulletListClose) ∧
      ¬ d.Readable t
  listStep : Rule.listStep.BreaksOffIff d (fun _ => ⟨"IndexError"⟩) fun _ => d.Misses .bulletListOpen
  /-- The class tells whether the limit could still be written out. -/
  lineLength : Rule.lineLength.BreaksOffIff d
    (fun (limit : Nat) => if limit < 10 ^ 4300 then ⟨"OverflowError"⟩ else ⟨"ValueError"⟩)
    fun (limit : Nat) => 4294967295 ≤ limit
  others : ∀ r ∈ [Rule.firstHeading, Rule.trailingSpaces, Rule.hardTabs, Rule.reversedLinks,
      Rule.multipleBlanks, Rule.quoteBlanks, Rule.fenceSurround, Rule.listSurround],
    ∀ fields, ∃ lines, r.evaluate d fields = .ok lines

/-- The settings of all rules that run are accepted, and the line length is in reach. -/
structure Config.Usable (c : Config) : Prop where
  accepted : ∀ r ∈ Rule.table, c.isEnabled r.name = true →
    ∃ options, Options.resolve r.parameter (c.optionsFor r.name) = .ok options
  inReach : c.isEnabled Rule.lineLength.name = true → ∀ limit : Nat,
    Options.resolve Rule.lineLength.parameter (c.optionsFor Rule.lineLength.name) = .ok limit →
      limit < 4294967295

theorem breakingRules (d : Document) : d.BreakingRules where
  headingIncrement := Rule.breaksOffIff_of_check (fun _ => rfl) fun _ => headingJumps_faultsIff d
  headingStyle := Rule.breaksOffIff_of_check (fun _ => rfl) (otherHeadingStyles_faultsIff d)
  listStyle := Rule.breaksOffIff_of_check (fun _ => rfl) (otherBulletStyles_faultsIff d)
  listIndent := Rule.breaksOffIff_of_check (fun _ => rfl) fun _ => unevenItems_faultsIff d
  listStart := Rule.breaksOffIff_of_check (fun _ => rfl) fun _ => indentedLists_faultsIff d
  listStep := Rule.breaksOffIff_of_check (fun _ => rfl) (wrongSteps_faultsIff d)
  lineLength := Rule.breaksOffIff_of_check (fun _ => rfl) (longLines_faultsIff d)
  others r hr fields := by
    simp only [List.mem_cons, List.not_mem_nil, or_false] at hr
    rcases hr with rfl | rfl | rfl | rfl | rfl | rfl | rfl | rfl <;>
      exact ⟨_, Rule.evaluate_always _ _ _⟩

theorem Document.BreakingRules.errors_eq_nil {d : Document} (h : d.BreakingRules) {c : Config}
    (hc : c.Usable) (hlevel : ¬ d.MissesLevel)
    (hread : ∀ t ∈ d.tokens, t.kind ∈ [.headingOpen, .listItemOpen, .bulletListOpen] →
      d.Readable t) :
    (d.report c Rule.table).errors = [] := by
  have hitem : ¬ d.Misses .listItemOpen := fun ⟨t, ht, hk, hn⟩ => hn (hread t ht (by simp [hk]))
  have hlist : ¬ d.Misses .bulletListOpen := fun ⟨t, ht, hk, hn⟩ => hn (hread t ht (by simp [hk]))
  have hheading : ¬ ∃ t ∈ d.tokens, t.kind = .headingOpen ∧ t.span.2 - t.span.1 = 1 ∧
      ¬ d.Readable t := fun ⟨t, ht, hk, _, hn⟩ => hn (hread t ht (by simp [hk]))
  have houtermost : ¬ ∃ before t after, d.tokens = before ++ t :: after ∧
      t.kind = .bulletListOpen ∧
      before.countP (·.kind = .bulletListOpen) = before.countP (·.kind = .bulletListClose) ∧
      ¬ d.Readable t :=
    fun ⟨_, t, _, htokens, hk, _, hn⟩ => hn (hread t (by simp [htokens]) (by simp [hk]))
  rw [errors_eq_nil_iff]
  intro r hr hrun
  obtain ⟨options, hres⟩ := hc.accepted r hr hrun
  simp only [Rule.table, List.mem_cons, List.not_mem_nil, or_false] at hr
  rcases hr with rfl | rfl | rfl | rfl | rfl | rfl | rfl | rfl | rfl | rfl | rfl | rfl | rfl |
    rfl | rfl
  · exact h.headingIncrement.answers _ _ hres hlevel
  · exact h.others _ (by simp) _
  · exact h.headingStyle.answers _ _ hres hheading
  · exact h.listStyle.answers _ _ hres hitem
  · exact h.listIndent.answers _ _ hres hitem
  · exact h.listStart.answers _ _ hres houtermost
  · exact h.listStep.answers _ _ hres hlist
  · exact h.others _ (by simp) _
  · exact h.others _ (by simp) _
  · exact h.others _ (by simp) _
  · exact h.others _ (by simp) _
  · exact h.lineLength.answers _ _ hres (Nat.not_le.mpr (hc.inReach hrun _ hres))
  · exact h.others _ (by simp) _
  · exact h.others _ (by simp) _
  · exact h.others _ (by simp) _

/-- **When rules break off.** Each rule breaks off under a condition of its own, with a fault of its
own class, or not at all; where none of the conditions is met a report has no errors. -/
theorem rules_break_off_exactly (d : Document) :
    d.BreakingRules ∧ ∀ c : Config, c.Usable → ¬ d.MissesLevel →
      (∀ t ∈ d.tokens, t.kind ∈ [.headingOpen, .listItemOpen, .bulletListOpen] → d.Readable t) →
        (d.report c Rule.table).errors = [] :=
  ⟨breakingRules d, fun _ hc hlevel hread => (breakingRules d).errors_eq_nil hc hlevel hread⟩

/-- Lines counted from the end of the document, a heading without a level and default settings. -/
theorem rules_break_off_exactly_backwards :
    let d : Document :=
      { lines := ["# a", "- b"].map String.toList
        tokens := [{ kind := .headingOpen, line := -1 },
          { kind := .headingOpen, line := 1, headingLevel := some 1 },
          { kind := .bulletListOpen, line := 0 }, { kind := .listItemOpen, line := 2 }] }
    let c : Config := { fallback := true, rules := [] }
    c.Usable ∧ ¬ d.MissesLevel ∧
      (∀ t ∈ d.tokens, t.kind ∈ [.headingOpen, .listItemOpen, .bulletListOpen] → d.Readable t) ∧
      d.BreakingRules ∧ (d.report c Rule.table).errors = [] := by
  intro d c
  have hc : c.Usable := by
    refine ⟨fun r _ _ => ?_, fun _ limit hlimit => ?_⟩
    · cases hp : r.parameter with
      | none => exact ⟨(), rfl⟩
      | some p => exact ⟨p.fallback, rfl⟩
    · obtain rfl : 80 = limit := Except.ok.inj hlimit
      decide
  have hlevel : ¬ d.MissesLevel := by
    simp [Document.MissesLevel, Document.headings, Document.select, d, List.infix_cons_iff,
      LosesLevel]
  have hread : ∀ t ∈ d.tokens, t.kind ∈ [.headingOpen, .listItemOpen, .bulletListOpen] →
      d.Readable t := by
    simp [d, Document.Readable]
  obtain ⟨hrules, herrors⟩ := rules_break_off_exactly d
  exact ⟨hc, hlevel, hread, hrules, herrors c hc hlevel hread⟩

/-- A limit of more than 4300 digits is no overflow, on a document without lines as on any other. -/
theorem unwritable_limit_is_no_overflow :
    let d : Document := { lines := [] }
    let limit : Nat := 10 ^ 4300
    let fields : Fields := [("line_length", .int limit)]
    Options.resolve Rule.lineLength.parameter fields = .ok limit ∧ 4294967295 ≤ limit ∧
      (∃ fault, Rule.lineLength.evaluate d fields = .error (.broken fault) ∧
        fault.kind.label = "ValueError") ∧
      ¬ ∃ fault, Rule.lineLength.evaluate d fields = .error (.broken fault) ∧
        fault.kind.label = "OverflowError" := by
  intro d limit fields
  -- for any number of digits, so that the power is not computed
  have hpow : ∀ digits, 10 ≤ digits → 4294967295 ≤ 10 ^ digits := fun digits hdigits =>
    calc 4294967295 ≤ 10 ^ 10 := by decide
      _ ≤ 10 ^ digits := Nat.pow_le_pow_right (by decide) hdigits
  have hreach : 4294967295 ≤ limit := hpow 4300 (by decide)
  have hres : Options.resolve Rule.lineLength.parameter fields = .ok limit :=
    Rule.resolve_lineLength (Nat.le_trans (by decide) hreach)
  obtain ⟨fault, hfault, hkind⟩ := (breakingRules d).lineLength.breaks fields limit hres hreach
  have hlabel : fault.kind.label = "ValueError" := by rw [hkind, if_neg (Nat.lt_irrefl _)]
  refine ⟨hres, hreach, ⟨fault, hfault, hlabel⟩, ?_⟩
  rintro ⟨other, hother, hoverflow⟩
  obtain rfl : fault = other := by
    rw [hfault] at hother
    cases hother
    rfl
  rw [hlabel] at hoverflow
  exact absurd hoverflow (by decide)

end MarkdownCheck
