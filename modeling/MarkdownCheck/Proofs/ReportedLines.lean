import MarkdownCheck.Proofs.Evaluation
import MarkdownCheck.Proofs.RepeatedBlanks
import MarkdownCheck.Proofs.Seam
import MarkdownCheck.Proofs.TokenLines
import MarkdownCheck.Proofs.TokenScope
import MarkdownCheck.Report

/-!
# Reported lines exist

Where does a number come from that a rule reports?

* The rules that go by the lines report places of the document, however they count them
  (`Document.HasLine`).
* The rules that go by tokens report the lines of such tokens, in reading order: what they report is
  a `List.Sublist` of the lines of the tokens that they select.  Nothing promises that such a line
  exists, so neither do these rules.
* The rule about quotes reports the line before that of a token.

So whoever puts every token on a line of the document, and no second quote on the first line, is told
about lines of the document only (`reported_lines_exist`).
-/

namespace MarkdownCheck

/-- Whether the document has a line with that number. -/
def Document.HasLine (d : Document) (k : Int) : Prop := 1 ≤ k ∧ k ≤ d.lines.length

/-- Whether the rule reports the line with that number. -/
def Rule.Reports (r : Rule) (d : Document) (fields : Fields) (k : Int) : Prop :=
  ∃ lines, r.evaluate d fields = .ok lines ∧ k ∈ lines

/-! ## Lines of tokens -/

namespace Document

variable {d : Document} {lines : List Int}

theorem jumpsFrom_sublist {previous : Option Int} {ts : List Token}
    (h : jumpsFrom previous ts = .ok lines) : lines.Sublist (ts.map Token.line) := by
  induction ts generalizing previous lines with
  | nil =>
    obtain rfl : [] = lines := Except.ok.inj h
    exact List.Sublist.refl _
  | cons t rest ih =>
    rw [jumpsFrom] at h
    cases hskips : skipsLevel previous t.headingLevel with
    | error fault =>
      rw [hskips] at h
      cases h
    | ok skips =>
      cases hlater : jumpsFrom t.headingLevel rest with
      | error fault =>
        rw [hskips, hlater] at h
        cases h
      | ok later =>
        rw [hskips, hlater] at h
        obtain rfl : (if skips then t.line :: later else later) = lines := Except.ok.inj h
        cases skips with
        | true => exact (ih hlater).cons_cons t.line
        | false => exact (ih hlater).cons t.line

theorem lowFirstHeading_sublist (d : Document) :
    d.lowFirstHeading.Sublist (d.headings.map Token.line) := by
  unfold lowFirstHeading
  cases d.headings with
  | nil => exact List.Sublist.refl _
  | cons t rest => by_cases ht : t.headingLevel = some 1 <;> simp [ht]

theorem offenders_sublist {σ : Type} [DecidableEq σ] (policy : StylePolicy σ)
    (found : List (Int × Option σ)) :
    (policy.offenders found).Sublist (found.map (·.1)) :=
  List.filter_sublist.map _

theorem otherHeadingStyles_sublist {policy : StylePolicy HeadingStyle}
    (h : d.otherHeadingStyles policy = .ok lines) : lines.Sublist (d.headings.map Token.line) := by
  rw [otherHeadingStyles_eq, map_eq_ok_iff] at h
  obtain ⟨found, hfound, rfl⟩ := h
  rw [← map_fst_of_mapM hfound]
  exact offenders_sublist policy found

theorem otherBulletStyles_sublist {policy : StylePolicy BulletStyle}
    (h : d.otherBulletStyles policy = .ok lines) : lines.Sublist (d.listItems.map Token.line) := by
  rw [otherBulletStyles_eq, map_eq_ok_iff] at h
  obtain ⟨found, hfound, rfl⟩ := h
  rw [← map_fst_of_mapM hfound]
  exact offenders_sublist policy found

theorem wrongStepsFrom_sublist (step previous : Nat) (found : List (Token × Nat)) :
    (wrongStepsFrom step previous found).Sublist (found.map (·.1.line)) := by
  induction found generalizing previous with
  | nil => exact List.Sublist.refl _
  | cons p rest ih =>
    obtain ⟨t, indent⟩ := p
    simp only [wrongStepsFrom, List.map_cons]
    split
    · exact (ih indent).cons_cons t.line
    · exact (ih indent).cons t.line

/-- What is decided by the indentations of tokens is told of these tokens. -/
theorem sublist_of_withIndent {ts : List Token} {decide : List (Token × Nat) → List Int}
    (hdecide : ∀ found, (decide found).Sublist (found.map (·.1.line)))
    (h : (d.withIndent ts).map decide = .ok lines) : lines.Sublist (ts.map Token.line) := by
  obtain ⟨found, hfound, rfl⟩ := map_eq_ok_iff.mp h
  have hts : found.map (·.1) = ts.map fun t => t := map_fst_of_mapM hfound
  have hlines : found.map (·.1.line) = ts.map Token.line := by
    rw [← List.map_id' ts, ← hts, List.map_map]
    rfl
  rw [← hlines]
  exact hdecide found

theorem unevenItems_sublist (h : d.unevenItems = .ok lines) :
    lines.Sublist (d.listItems.map Token.line) := by
  refine sublist_of_withIndent (fun found => ?_) h
  rw [unevenFrom_eq_filter]
  exact List.filter_sublist.map _

theorem indentedLists_sublist (h : d.indentedLists = .ok lines) :
    lines.Sublist (d.outermostLists.map Token.line) :=
  sublist_of_withIndent (fun _ => List.filter_sublist.map _) h

theorem wrongSteps_sublist {step : Nat} (h : d.wrongSteps step = .ok lines) :
    lines.Sublist (d.bulletLists.map Token.line) :=
  sublist_of_withIndent (wrongStepsFrom_sublist step 0) h

theorem reversedLinks_sublist (d : Document) :
    d.reversedLinks.Sublist ((d.select [.inline]).map Token.line) :=
  List.filter_sublist.map _

/-! ## Tokens of one kind -/

theorem exists_token_of_sublist {kind : Kind}
    (h : lines.Sublist ((d.select [kind]).map Token.line)) {k : Int} (hk : k ∈ lines) :
    ∃ t ∈ d.tokens, t.kind = kind ∧ k = t.line := by
  obtain ⟨t, ht, rfl⟩ := List.mem_map.mp (h.subset hk)
  obtain ⟨hmem, hkind⟩ := mem_select_singleton_iff.mp ht
  exact ⟨t, hmem, hkind, rfl⟩

theorem exists_token_of_indentedLists (h : d.indentedLists = .ok lines) {k : Int}
    (hk : k ∈ lines) : ∃ t ∈ d.tokens, t.kind = .bulletListOpen ∧ k = t.line := by
  obtain ⟨t, ht, rfl⟩ := List.mem_map.mp ((indentedLists_sublist h).subset hk)
  obtain ⟨before, after, htokens, hkind, -⟩ := mem_outermostLists_iff.mp ht
  exact ⟨t, by simp [htokens], hkind, rfl⟩

end Document

/-! ## Rules -/

namespace Rule

/-- The rules that report places of the document. -/
def ofLines : List Rule :=
  [trailingSpaces, hardTabs, multipleBlanks, lineLength, fenceSurround, listSurround]

/-- The rules that report lines of tokens, each with the kind of these. -/
def ofTokens : List (Rule × Kind) :=
  [(headingIncrement, .headingOpen), (firstHeading, .headingOpen), (headingStyle, .headingOpen),
   (listStyle, .listItemOpen), (listIndent, .listItemOpen), (listStart, .bulletListOpen),
   (listStep, .bulletListOpen), (reversedLinks, .inline)]

variable {r : Rule} {d : Document} {fields : Fields} {k : Int}

/-- What holds of all lines that a check finds holds of those that its rule reports. -/
theorem Reports.of_check {P : Int → Prop} (h : r.Reports d fields k)
    (hcheck : ∀ options, ∀ j ∈ (r.check d options).lines, P j) : P k := by
  obtain ⟨lines, heval, hk⟩ := h
  obtain ⟨-, options, -, -, hmem⟩ := evaluate_eq_ok_iff.mp heval
  exact hcheck options k ((hmem k).mp hk)

theorem mem_ofExcept_iff {x : Except Fault (List Int)} :
    k ∈ (Findings.ofExcept x).lines ↔ ∃ lines, x = .ok lines ∧ k ∈ lines := by
  cases x with
  | error fault => simp [Findings.ofExcept]
  | ok lines => simp [Findings.ofExcept]

theorem hasLine_of_mem_ofLines (hr : r ∈ ofLines) (options : Options r.parameter)
    (hk : k ∈ (r.check d options).lines) : d.HasLine k := by
  simp only [ofLines, List.mem_cons, List.not_mem_nil, or_false] at hr
  rcases hr with rfl | rfl | rfl | rfl | rfl | rfl
  · exact Document.linesWhere_bounds (p := Text.endsBlank) hk
  · exact Document.linesWhere_bounds (p := fun line => '\t' ∈ line) hk
  · exact Document.repeatedBlanks_bounds hk
  · obtain ⟨lines, hlines, hk⟩ := mem_ofExcept_iff.mp hk
    unfold Document.longLines at hlines
    split at hlines
    · obtain rfl := Except.ok.inj hlines
      exact Document.linesWhere_bounds hk
    · split at hlines <;> cases hlines
  · exact crowdedFences_readsSeams.bounds hk
  · exact crowdedLists_readsSeams.bounds hk

theorem exists_token_of_mem_ofTokens {kind : Kind} (hr : (r, kind) ∈ ofTokens)
    (options : Options r.parameter) (hk : k ∈ (r.check d options).lines) :
    ∃ t ∈ d.tokens, t.kind = kind ∧ k = t.line := by
  simp only [ofTokens, List.mem_cons, List.not_mem_nil, or_false, Prod.mk.injEq] at hr
  rcases hr with ⟨rfl, rfl⟩ | ⟨rfl, rfl⟩ | ⟨rfl, rfl⟩ | ⟨rfl, rfl⟩ | ⟨rfl, rfl⟩ | ⟨rfl, rfl⟩ |
    ⟨rfl, rfl⟩ | ⟨rfl, rfl⟩
  · obtain ⟨lines, hlines, hk⟩ := mem_ofExcept_iff.mp hk
    exact Document.exists_token_of_sublist (Document.jumpsFrom_sublist hlines) hk
  · exact Document.exists_token_of_sublist d.lowFirstHeading_sublist hk
  · obtain ⟨lines, hlines, hk⟩ := mem_ofExcept_iff.mp hk
    exact Document.exists_token_of_sublist (Document.otherHeadingStyles_sublist hlines) hk
  · obtain ⟨lines, hlines, hk⟩ := mem_ofExcept_iff.mp hk
    exact Document.exists_token_of_sublist (Document.otherBulletStyles_sublist hlines) hk
  · obtain ⟨lines, hlines, hk⟩ := mem_ofExcept_iff.mp hk
    exact Document.exists_token_of_sublist (Document.unevenItems_sublist hlines) hk
  · obtain ⟨lines, hlines, hk⟩ := mem_ofExcept_iff.mp hk
    exact Document.exists_token_of_indentedLists hlines hk
  · obtain ⟨lines, hlines, hk⟩ := mem_ofExcept_iff.mp hk
    exact Document.exists_token_of_sublist (Document.wrongSteps_sublist hlines) hk
  · exact Document.exists_token_of_sublist d.reversedLinks_sublist hk

end Rule

/-- Where the lines come from that the rules report. -/
structure Document.Origins (d : Document) (fields : Fields) : Prop where
  ofLines : ∀ r ∈ Rule.ofLines, ∀ k, r.Reports d fields k → d.HasLine k
  ofTokens : ∀ p ∈ Rule.ofTokens, ∀ k, p.1.Reports d fields k →
    ∃ t ∈ d.tokens, t.kind = p.2 ∧ k = t.line
  quoteBlanks : ∀ k, Rule.quoteBlanks.Reports d fields k →
    ∃ t u, [t, u] <:+: d.tokens ∧ t.kind = .blockquoteClose ∧ u.kind = .blockquoteOpen ∧
      k = u.line - 1

theorem Document.origins (d : Document) (fields : Fields) : d.Origins fields where
  ofLines _ hr _ h := h.of_check fun options _ hk => Rule.hasLine_of_mem_ofLines hr options hk
  ofTokens _ hp _ h := h.of_check fun options _ hk =>
    Rule.exists_token_of_mem_ofTokens hp options hk
  quoteBlanks _ h := h.of_check fun _ _ hk => Document.mem_quoteSplits_iff.mp hk

/-! ## Reports -/

theorem mem_violations_iff {d : Document} {c : Config} {rules : List Rule} {v : Violation} :
    v ∈ (d.report c rules).violations ↔ ∃ r ∈ rules, c.isEnabled r.name = true ∧
      v.rule = r.name ∧ r.Reports d (c.optionsFor r.name) v.line := by
  have hrun : ∀ run : Run, v ∈ run.violations ↔
      v.rule = run.rule ∧ ∃ lines, run.outcome = .ok lines ∧ v.line ∈ lines := by
    rintro ⟨rule, outcome⟩
    obtain ⟨name, line⟩ := v
    cases outcome with
    | error failure => simp [Run.violations]
    | ok lines => simp [Run.violations, and_comm, eq_comm]
  simp only [Document.report, Document.runs, Config.enabled, Report.ofRuns, List.mem_flatMap, hrun,
    Rule.Reports]
  simp [and_assoc]

/-- The rules on offer report places, lines of tokens, or the lines before quotes. -/
theorem table_subset :
    Rule.table ⊆ Rule.ofLines ++ Rule.ofTokens.map (·.1) ++ [Rule.quoteBlanks] := by
  simp only [Rule.table, Rule.ofLines, Rule.ofTokens, List.cons_subset, List.nil_subset,
    List.map_cons, List.map_nil, List.cons_append, List.nil_append, List.mem_cons, true_or, or_true,
    and_true]

/-- Where tokens stand on lines of the document, and a quote after another one not on the first,
only lines of the document are reported. -/
theorem Document.Origins.hasLine {d : Document} {fields : Fields} (h : d.Origins fields)
    (htokens : ∀ t ∈ d.tokens, d.HasLine t.line)
    (hquotes : ∀ t u, [t, u] <:+: d.tokens → t.kind = .blockquoteClose →
      u.kind = .blockquoteOpen → u.line ≠ 1)
    {r : Rule} (hr : r ∈ Rule.table) {k : Int} (hk : r.Reports d fields k) : d.HasLine k := by
  have hcases := table_subset hr
  simp only [List.mem_append, List.mem_map, List.mem_singleton] at hcases
  rcases hcases with (hlines | ⟨p, hp, rfl⟩) | rfl
  · exact h.ofLines r hlines k hk
  · obtain ⟨t, ht, -, rfl⟩ := h.ofTokens p hp k hk
    exact htokens t ht
  · obtain ⟨t, u, hpair, hclose, hopen, rfl⟩ := h.quoteBlanks k hk
    obtain ⟨hfirst, hlast⟩ := htokens u (hpair.subset (by simp))
    have hne := hquotes t u hpair hclose hopen
    exact ⟨by omega, by omega⟩

/-- **Reported lines exist.** The rules that go by the lines report lines of the document whatever its
tokens, and each of the others reports lines of tokens it is about or, for quotes, the line before.
So no violation lies outside of a document whose tokens do not, as long as no quote opens on the
first line right after another one is closed. -/
theorem reported_lines_exist (d : Document) :
    (∀ fields, d.Origins fields) ∧
      ((∀ t ∈ d.tokens, d.HasLine t.line) →
        (∀ t u, [t, u] <:+: d.tokens → t.kind = .blockquoteClose → u.kind = .blockquoteOpen →
          u.line ≠ 1) →
        ∀ (c : Config), ∀ v ∈ (d.report c Rule.table).violations, d.HasLine v.line) := by
  refine ⟨d.origins, fun htokens hquotes c v hv => ?_⟩
  obtain ⟨r, hr, -, -, hk⟩ := mem_violations_iff.mp hv
  exact (d.origins _).hasLine htokens hquotes hr hk

/-- A quote after another one and a heading two levels down, on all rules with default settings. -/
theorem reported_lines_exist_two_quotes :
    let d : Document :=
      { lines := ["# a", "> b", "", "> c", "### d \t"].map String.toList
        tokens := [{ kind := .headingOpen, line := 1, headingLevel := some 1 },
          { kind := .blockquoteOpen, line := 2 }, { kind := .blockquoteClose, line := 2 },
          { kind := .blockquoteOpen, line := 4 }, { kind := .blockquoteClose, line := 4 },
          { kind := .headingOpen, line := 5, headingLevel := some 3 }] }
    let c : Config := { fallback := true, rules := [] }
    (∀ t ∈ d.tokens, d.HasLine t.line) ∧
      (∀ t u, [t, u] <:+: d.tokens → t.kind = .blockquoteClose → u.kind = .blockquoteOpen →
        u.line ≠ 1) ∧
      (d.report c Rule.table).violations =
        [⟨"MD001", 5⟩, ⟨"MD009", 5⟩, ⟨"MD010", 5⟩, ⟨"MD028", 3⟩] ∧
      ∀ v ∈ (d.report c Rule.table).violations, d.HasLine v.line := by
  intro d c
  have htokens : ∀ t ∈ d.tokens, d.HasLine t.line := by simp [d, Document.HasLine]
  have hquotes : ∀ t u, [t, u] <:+: d.tokens → t.kind = .blockquoteClose →
      u.kind = .blockquoteOpen → u.line ≠ 1 := by
    simp [d, List.infix_cons_iff, or_imp, forall_and]
  exact ⟨htokens, hquotes, rfl, (reported_lines_exist d).2 htokens hquotes c⟩

end MarkdownCheck
