import MarkdownCheck.Proofs.Evaluation
import MarkdownCheck.Proofs.ListWalk

/-!
# Every rule reads tokens of its own kinds

A parser is free to put tokens of any kind between those that a rule is about.  `Document.only kinds`
is the document without the tokens of other kinds, and a check that selects its tokens by kind cannot
tell the two apart (`select_only`).  Two checks walk through the whole stream with some memory:

* which lists are outermost hangs on how many are opened and closed, so other tokens do not count
  (`outermostFrom_filter`);
* a quote splits where its opening comes right after the closing of another, and what comes right
  after in the stream still does so when tokens between other pairs are gone (`mem_quoteSplits_iff`).
  The converse fails: with the tokens between two quotes gone, they may become neighbours.

`evaluate_eq_of_own_tokens` says so for all rules: fourteen of them answer alike, or break off with
the same fault, and the fifteenth reports no more than it does on the quotes alone.
-/

namespace MarkdownCheck

namespace Document

/-- The document with the tokens of the given kinds and no others. -/
def only (d : Document) (kinds : List Kind) : Document := { d with tokens := d.select kinds }

theorem select_only (d : Document) (kinds : List Kind) :
    (d.only kinds).select kinds = d.select kinds := by
  simp [only, select, List.filter_filter]

/-! ## Checks of selected tokens -/

theorem headingJumps_only (d : Document) :
    (d.only [.headingOpen]).headingJumps = d.headingJumps := by
  unfold headingJumps headings
  rw [select_only]

theorem lowFirstHeading_only (d : Document) :
    (d.only [.headingOpen]).lowFirstHeading = d.lowFirstHeading := by
  unfold lowFirstHeading headings
  rw [select_only]

/-- How a heading is written is read off its own line. -/
theorem headingStyle_only (d : Document) (kinds : List Kind) :
    (d.only kinds).headingStyle = d.headingStyle := rfl

theorem otherHeadingStyles_only (d : Document) (policy : StylePolicy HeadingStyle) :
    (d.only [.headingOpen]).otherHeadingStyles policy = d.otherHeadingStyles policy := by
  unfold otherHeadingStyles headings
  rw [select_only, headingStyle_only]

theorem lineOf_only (d : Document) (kinds : List Kind) : (d.only kinds).lineOf = d.lineOf := rfl

theorem withIndent_only (d : Document) (kinds : List Kind) :
    (d.only kinds).withIndent = d.withIndent := rfl

theorem otherBulletStyles_only (d : Document) (policy : StylePolicy BulletStyle) :
    (d.only [.listItemOpen]).otherBulletStyles policy = d.otherBulletStyles policy := by
  unfold otherBulletStyles listItems
  rw [select_only, lineOf_only]

theorem unevenItems_only (d : Document) :
    (d.only [.listItemOpen]).unevenItems = d.unevenItems := by
  unfold unevenItems listItems
  rw [select_only, withIndent_only]

theorem wrongSteps_only (d : Document) (step : Nat) :
    (d.only [.bulletListOpen]).wrongSteps step = d.wrongSteps step := by
  unfold wrongSteps bulletLists
  rw [select_only, withIndent_only]

theorem reversedLinks_only (d : Document) :
    (d.only [.inline]).reversedLinks = d.reversedLinks := by
  unfold reversedLinks
  rw [select_only]

theorem inCode_only (d : Document) : (d.only [.codeBlock, .fence]).inCode = d.inCode := by
  funext i
  unfold inCode
  rw [select_only]

theorem repeatedBlanks_only (d : Document) :
    (d.only [.codeBlock, .fence]).repeatedBlanks = d.repeatedBlanks := by
  unfold repeatedBlanks
  rw [inCode_only]
  rfl

/-! ## Walks through all tokens -/

theorem indentedLists_only (d : Document) :
    (d.only [.bulletListOpen, .bulletListClose]).indentedLists = d.indentedLists := by
  have houtermost : (d.only [.bulletListOpen, .bulletListClose]).outermostLists =
      d.outermostLists := outermostFrom_filter (by simp) (by simp) 0 d.tokens
  unfold indentedLists
  rw [houtermost, withIndent_only]

theorem quoteSplits_cons_cons (t u : Token) (rest : List Token) :
    quoteSplits (t :: u :: rest) =
      (if t.kind = .blockquoteClose ∧ u.kind = .blockquoteOpen then [u.line - 1] else []) ++
        quoteSplits (u :: rest) := by
  rw [quoteSplits]
  split <;> rfl

/-- A line is reported for a quote just in case that opens right after another one is closed. -/
theorem mem_quoteSplits_iff {ts : List Token} {k : Int} :
    k ∈ quoteSplits ts ↔ ∃ t u, [t, u] <:+: ts ∧ t.kind = .blockquoteClose ∧
      u.kind = .blockquoteOpen ∧ k = u.line - 1 := by
  induction ts with
  | nil => simp [quoteSplits]
  | cons t rest ih =>
    cases rest with
    | nil => simp [quoteSplits, List.infix_cons_iff]
    | cons u rest =>
      rw [quoteSplits_cons_cons, List.mem_append, ih]
      constructor
      · rintro (h | ⟨t', u', hpair, hclose, hopen, rfl⟩)
        · split at h
          · rename_i hkinds
            have hk : k = u.line - 1 := by simpa using h
            exact ⟨t, u, List.infix_append [] [t, u] rest, hkinds.1, hkinds.2, hk⟩
          · simp at h
        · exact ⟨t', u', hpair.trans (List.suffix_cons t _).isInfix, hclose, hopen, rfl⟩
      · rintro ⟨t', u', hpair, hclose, hopen, rfl⟩
        rcases List.infix_cons_iff.mp hpair with hfront | hpair
        · obtain ⟨rfl, rfl⟩ : t' = t ∧ u' = u := by simpa using hfront
          exact .inl (by rw [if_pos ⟨hclose, hopen⟩]; exact List.mem_singleton_self _)
        · exact .inr ⟨t', u', hpair, hclose, hopen, rfl⟩

/-- Neighbours that are kept stay neighbours. -/
theorem quoteSplits_subset_filter {p : Token → Bool} (ts : List Token)
    (hp : ∀ t, t.kind = .blockquoteClose ∨ t.kind = .blockquoteOpen → p t = true) :
    quoteSplits ts ⊆ quoteSplits (ts.filter p) := by
  intro k hk
  obtain ⟨t, u, hpair, hclose, hopen, rfl⟩ := mem_quoteSplits_iff.mp hk
  have hkept : [t, u].filter p = [t, u] := by
    simp [hp t (.inl hclose), hp u (.inr hopen)]
  exact mem_quoteSplits_iff.mpr ⟨t, u, hkept ▸ hpair.filter p, hclose, hopen, rfl⟩

end Document

/-! ## Rules -/

namespace Rule

/-- Fourteen rules with the kinds of the tokens they are about. Those that go by the lines alone are
about none. -/
def subjects : List (Rule × List Kind) :=
  [(headingIncrement, [.headingOpen]), (firstHeading, [.headingOpen]),
   (headingStyle, [.headingOpen]), (listStyle, [.listItemOpen]), (listIndent, [.listItemOpen]),
   (listStart, [.bulletListOpen, .bulletListClose]), (listStep, [.bulletListOpen]),
   (reversedLinks, [.inline]), (multipleBlanks, [.codeBlock, .fence]), (trailingSpaces, []),
   (hardTabs, []), (lineLength, []), (fenceSurround, []), (listSurround, [])]

/-- A rule answers as if there were no tokens but those it is about. -/
theorem evaluate_only {r : Rule} {kinds : List Kind} (h : (r, kinds) ∈ subjects) (d : Document)
    (fields : Fields) : r.evaluate (d.only kinds) fields = r.evaluate d fields := by
  refine evaluate_congr fields ?_
  simp only [subjects, List.mem_cons, List.not_mem_nil, or_false, Prod.mk.injEq] at h
  rcases h with ⟨rfl, rfl⟩ | ⟨rfl, rfl⟩ | ⟨rfl, rfl⟩ | ⟨rfl, rfl⟩ | ⟨rfl, rfl⟩ | ⟨rfl, rfl⟩ |
    ⟨rfl, rfl⟩ | ⟨rfl, rfl⟩ | ⟨rfl, rfl⟩ | ⟨rfl, rfl⟩ | ⟨rfl, rfl⟩ | ⟨rfl, rfl⟩ | ⟨rfl, rfl⟩ |
    ⟨rfl, rfl⟩
  · exact fun _ => congrArg Findings.ofExcept d.headingJumps_only
  · exact fun _ => congrArg (Findings.mk · none) d.lowFirstHeading_only
  · exact fun policy => congrArg Findings.ofExcept (d.otherHeadingStyles_only policy)
  · exact fun policy => congrArg Findings.ofExcept (d.otherBulletStyles_only policy)
  · exact fun _ => congrArg Findings.ofExcept d.unevenItems_only
  · exact fun _ => congrArg Findings.ofExcept d.indentedLists_only
  · exact fun step => congrArg Findings.ofExcept (d.wrongSteps_only step)
  · exact fun _ => congrArg (Findings.mk · none) d.reversedLinks_only
  · exact fun _ => congrArg (Findings.mk · none) d.repeatedBlanks_only
  · exact fun _ => rfl
  · exact fun _ => rfl
  · exact fun _ => rfl
  · exact fun _ => rfl
  · exact fun _ => rfl

end Rule

/-- **Rules read tokens of their own kinds.** Two documents with the same lines, and the same tokens
of the kinds a rule is about, get the same answer from it or break it off with the same fault.  What
the rule about quotes reports it reports on the quotes alone, too. -/
theorem evaluate_eq_of_own_tokens :
    (∀ p ∈ Rule.subjects, ∀ d e : Document, d.lines = e.lines →
      d.tokens.filter (·.kind ∈ p.2) = e.tokens.filter (·.kind ∈ p.2) →
        ∀ fields, p.1.evaluate d fields = p.1.evaluate e fields) ∧
    ∀ (d : Document) (fields : Fields), ∃ some all,
      Rule.quoteBlanks.evaluate d fields = .ok some ∧
      Rule.quoteBlanks.evaluate
        ⟨d.lines, d.tokens.filter (·.kind ∈ [.blockquoteOpen, .blockquoteClose])⟩ fields = .ok all ∧
      some ⊆ all := by
  refine ⟨fun p hp d e hlines htokens fields => ?_, fun d fields => ?_⟩
  · have honly : d.only p.2 = e.only p.2 := by
      unfold Document.only Document.select
      rw [hlines, htokens]
    rw [← Rule.evaluate_only hp d, honly, Rule.evaluate_only hp e]
  · refine ⟨_, _, Rule.evaluate_always _ _ _, Rule.evaluate_always _ _ _, fun k hk => ?_⟩
    rw [mem_ascending] at hk ⊢
    refine Document.quoteSplits_subset_filter d.tokens (fun t ht => ?_) hk
    rcases ht with ht | ht <;> simp [ht]

/-- Tokens of unknown kinds and far from the lines in between, and a list that has no line. -/
theorem evaluate_eq_of_own_tokens_between :
    let first : Token := { kind := .bulletListOpen, line := 1 }
    let close : Token := { kind := .bulletListClose, line := -3 }
    let second : Token := { kind := .bulletListOpen, line := 7 }
    let d : Document :=
      { lines := ["  - a", "b"].map String.toList
        tokens := [first, { kind := .paragraphOpen, line := 0 }, close,
          { kind := .other "html_block", line := 99 }, second] }
    let e : Document :=
      { lines := d.lines
        tokens := [{ kind := .listItemOpen, line := -40 }, first, close, second,
          { kind := .orderedListClose, line := 2 }] }
    let kinds : List Kind := [.bulletListOpen, .bulletListClose]
    (Rule.listStart, kinds) ∈ Rule.subjects ∧
      d.tokens.filter (·.kind ∈ kinds) = e.tokens.filter (·.kind ∈ kinds) ∧
      Rule.listStart.evaluate d [] = Rule.listStart.evaluate e [] ∧
      Rule.listStart.evaluate e [] = .error (.broken .lineOutOfRange) := by
  intro first close second d e kinds
  have hr : (Rule.listStart, kinds) ∈ Rule.subjects := by simp [Rule.subjects, kinds]
  have htokens : d.tokens.filter (·.kind ∈ kinds) = e.tokens.filter (·.kind ∈ kinds) := rfl
  exact ⟨hr, htokens, evaluate_eq_of_own_tokens.1 _ hr d e rfl htokens [], rfl⟩

end MarkdownCheck
