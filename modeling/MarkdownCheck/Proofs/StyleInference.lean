import MarkdownCheck.Proofs.OptionValues
import MarkdownCheck.Proofs.TokenLines
import MarkdownCheck.Proofs.Trimming

/-!
# Inferred styles and styles that are asked for

Two rules hold tokens of one kind against a style: headings, and the bullets of list items.  How a
heading is written and which bullet an item has is said here by the span and the line of the token
(`Document.WrittenIn`, `Document.MarkedBy`), and a token has no more than one style.

Both rules find the style of each token first and compare afterwards, so what they report is said once for
the two of them, as `Rule.InfersStyle`: with a style that is asked for, the tokens of another one; with
the style left to the document, what is reported when the style of the first token is asked for.  If the
first token has none, no style agrees with it, and every token that has one is reported.

`styles_inferred` is the main statement.  A heading always has a style, so headings agree with each other
just in case they agree with some style.
-/

namespace MarkdownCheck

/-! ## The style of a token -/

/-- Whether a line ends in a number sign, blanks behind it apart. -/
def Text.EndsInSign (line : Text) : Prop :=
  ∃ front blanks, line = front ++ '#' :: blanks ∧ ∀ c ∈ blanks, isBlank c = true

/-- The character that an item begins with. -/
def BulletStyle.mark : BulletStyle → Char
  | asterisk => '*'
  | dash => '-'
  | plus => '+'

namespace Document

/-- How a heading is written: with marks below unless its span is a single line, and then with number
signs on both sides or in front only. -/
inductive WrittenIn (d : Document) (t : Token) : HeadingStyle → Prop
  | setext (hspan : t.span.2 - t.span.1 ≠ 1) : d.WrittenIn t .setext
  | atxClosed {line : Text} (hspan : t.span.2 - t.span.1 = 1) (hline : d.lineOf t = .ok line)
    (hend : line.EndsInSign) : d.WrittenIn t .atxClosed
  | atx {line : Text} (hspan : t.span.2 - t.span.1 = 1) (hline : d.lineOf t = .ok line)
    (hend : ¬ line.EndsInSign) : d.WrittenIn t .atx

/-- Which bullet an item has: the first character of its line that is not blank. -/
def MarkedBy (d : Document) (t : Token) (style : BulletStyle) : Prop :=
  ∃ blanks rest, d.lineOf t = .ok (blanks ++ style.mark :: rest) ∧ ∀ c ∈ blanks, isBlank c = true

end Document

namespace Text

variable {line : Text}

theorem isClosed_iff : Document.isClosed line = true ↔ line.EndsInSign := by
  rw [Document.isClosed, decide_eq_true_eq]
  constructor
  · intro h
    obtain ⟨blanks, hline, hblanks⟩ := exists_dropRightWhile_append isBlank line
    obtain ⟨front, hfront⟩ := List.getLast?_eq_some_iff.mp h
    refine ⟨front, blanks, ?_, hblanks⟩
    rw [← trimRight, hfront, List.append_assoc] at hline
    exact hline
  · rintro ⟨front, blanks, rfl, hblanks⟩
    have htrim : trimRight (front ++ '#' :: blanks) = front ++ ['#'] :=
      dropRightWhile_append_of_neg rfl hblanks
    rw [htrim, List.getLast?_concat]

theorem ofChar?_eq_some_iff {c : Char} {style : BulletStyle} :
    BulletStyle.ofChar? c = some style ↔ c = style.mark := by
  constructor
  · intro h
    unfold BulletStyle.ofChar? at h
    split at h <;> cases h <;> rfl
  · rintro rfl
    cases style <;> rfl

theorem isBlank_mark (style : BulletStyle) : isBlank style.mark = false := by
  cases style <;> rfl

theorem bulletOf_eq_some_iff {style : BulletStyle} :
    Document.bulletOf line = some style ↔
      ∃ blanks rest, line = blanks ++ style.mark :: rest ∧ ∀ c ∈ blanks, isBlank c = true := by
  rw [Document.bulletOf, Option.bind_eq_some_iff]
  constructor
  · rintro ⟨c, hhead, hc⟩
    obtain rfl := ofChar?_eq_some_iff.mp hc
    obtain ⟨rest, hrest⟩ := List.head?_eq_some_iff.mp hhead
    refine ⟨line.takeWhile isBlank, rest, ?_, fun c hc => List.mem_takeWhile_imp hc⟩
    rw [← hrest, trimLeft, List.takeWhile_append_dropWhile]
  · rintro ⟨blanks, rest, rfl, hblanks⟩
    refine ⟨style.mark, ?_, ofChar?_eq_some_iff.mpr rfl⟩
    rw [trimLeft, List.dropWhile_append_of_pos hblanks,
      List.dropWhile_cons_of_neg (by simp [isBlank_mark]), List.head?_cons]

end Text

namespace Document

variable {d : Document} {t : Token}

theorem writtenIn_iff {style : HeadingStyle} :
    d.WrittenIn t style ↔ d.headingStyle t = .ok style := by
  unfold headingStyle
  split_ifs with hspan
  · rw [map_eq_ok_iff]
    constructor
    · intro h
      cases h with
      | setext hne => exact absurd hspan hne
      | @atxClosed line _ hline hend =>
        exact ⟨line, hline, if_pos (Text.isClosed_iff.mpr hend)⟩
      | @atx line _ hline hend =>
        exact ⟨line, hline, if_neg fun h => hend (Text.isClosed_iff.mp h)⟩
    · rintro ⟨line, hline, hstyle⟩
      split_ifs at hstyle with hclosed
      · subst hstyle
        exact .atxClosed hspan hline (Text.isClosed_iff.mp hclosed)
      · subst hstyle
        exact .atx hspan hline fun hend => hclosed (Text.isClosed_iff.mpr hend)
  · rw [Except.ok.injEq]
    constructor
    · intro h
      cases h with
      | setext => rfl
      | atxClosed h => exact absurd h hspan
      | atx h => exact absurd h hspan
    · rintro rfl
      exact .setext hspan

theorem markedBy_iff {style : BulletStyle} :
    d.MarkedBy t style ↔ (d.lineOf t).map bulletOf = .ok (some style) := by
  rw [map_eq_ok_iff, MarkedBy]
  simp only [Text.bulletOf_eq_some_iff]
  constructor
  · rintro ⟨blanks, rest, hline, hblanks⟩
    exact ⟨_, hline, blanks, rest, rfl, hblanks⟩
  · rintro ⟨line, hline, blanks, rest, rfl, hblanks⟩
    exact ⟨blanks, rest, hline, hblanks⟩

end Document

/-! ## What is reported -/

namespace Rule

/-- Options that a rule can be given, and its answer wherever settings resolve to them. -/
structure AnswersUnder (r : Rule) (d : Document) (options : Options r.parameter)
    (reported : List Int) : Prop where
  possible : ∃ fields, Options.resolve r.parameter fields = .ok options
  answers : ∀ fields, Options.resolve r.parameter fields = .ok options →
    r.evaluate d fields = .ok reported
  sorted : reported.Pairwise (· < ·)

/-- What a rule reports that holds the tokens of one kind against a style.  `written` tells the style of a
token, if it has one, and `options` gives the rule its policy. -/
structure InfersStyle {σ : Type} (r : Rule) (d : Document)
    (options : StylePolicy σ → Options r.parameter) (kind : Kind) (written : Token → σ → Prop) :
    Prop where
  unique : ∀ t found other, written t found → written t other → found = other
  asked : ∀ style, ∃ reported, r.AnswersUnder d (options (.always style)) reported ∧
    ∀ k, k ∈ reported ↔
      ∃ t ∈ d.tokens, t.kind = kind ∧ t.line = k ∧ ∃ found, written t found ∧ found ≠ style
  absent : d.tokens.find? (·.kind = kind) = none → r.AnswersUnder d (options .consistent) []
  inferred : ∀ first style, d.tokens.find? (·.kind = kind) = some first → written first style →
    ∃ reported, r.AnswersUnder d (options (.always style)) reported ∧
      r.AnswersUnder d (options .consistent) reported
  unmarked : ∀ first, d.tokens.find? (·.kind = kind) = some first →
    (∀ style, ¬ written first style) →
    ∃ reported, r.AnswersUnder d (options .consistent) reported ∧
      ∀ k, k ∈ reported ↔
        ∃ t ∈ d.tokens, t.kind = kind ∧ t.line = k ∧ ∃ found, written t found

variable {r : Rule} {d : Document}

theorem answersUnder_of_check {options : Options r.parameter} {lines : List Int}
    (hdomain : Options.InDomain r.parameter options)
    (hcheck : r.check d options = .ofExcept (.ok lines)) :
    r.AnswersUnder d options (ascending lines) where
  possible := ⟨_, Options.resolve_settings hdomain⟩
  answers _ hres := evaluate_ofExcept hres hcheck
  sorted := pairwise_ascending lines

/-- Under the same options there is one answer. -/
theorem AnswersUnder.unique {options : Options r.parameter} {reported others : List Int}
    (h : r.AnswersUnder d options reported) (h' : r.AnswersUnder d options others) :
    reported = others := by
  obtain ⟨fields, hres⟩ := h.possible
  have hboth := h.answers fields hres
  rw [h'.answers fields hres] at hboth
  exact (Except.ok.inj hboth).symm

end Rule

/-! ## Styles that were read -/

section Styled

variable {σ : Type} {d : Document} {kind : Kind} {styleOf : Token → Option σ}

/-- The lines of the tokens of a kind, each with the style that was read there. -/
def Document.styled (d : Document) (kind : Kind) (styleOf : Token → Option σ) :
    List (Int × Option σ) :=
  (d.select [kind]).map fun t => (t.line, styleOf t)

theorem map_snd_styled : (d.styled kind styleOf).map (·.2) = (d.select [kind]).map styleOf := by
  rw [Document.styled, List.map_map]
  rfl

theorem Document.mem_of_find? {first : Token} (h : d.tokens.find? (·.kind = kind) = some first) :
    first ∈ d.tokens ∧ first.kind = kind :=
  ⟨List.mem_of_find?_eq_some h, by simpa using List.find?_some h⟩

/-- Left to the document, the style of the first token is asked for. -/
theorem required_consistent :
    StylePolicy.consistent.required ((d.select [kind]).map styleOf) =
      (d.tokens.find? (·.kind = kind)).bind styleOf := by
  have hfirst : (d.select [kind]).head? = d.tokens.find? (·.kind = kind) := by
    rw [Document.select, List.head?_filter]
    simp only [List.mem_singleton]
  rw [← hfirst]
  cases d.select [kind] with
  | nil => rfl
  | cons t rest => rfl

variable [DecidableEq σ] {policy other : StylePolicy σ}

/-- Found are the lines of the tokens with a style other than the one that is asked for. -/
theorem mem_offenders_iff {k : Int} :
    k ∈ policy.offenders (d.styled kind styleOf) ↔
      ∃ t ∈ d.tokens, t.kind = kind ∧ t.line = k ∧ ∃ found, styleOf t = some found ∧
        some found ≠ policy.required ((d.select [kind]).map styleOf) := by
  unfold StylePolicy.offenders
  rw [map_snd_styled]
  simp only [Document.styled, List.filter_map, List.map_map, List.mem_map, List.mem_filter,
    Document.mem_select_singleton_iff, and_assoc]
  refine exists_congr fun t => and_congr_right fun _ => and_congr_right fun _ => ?_
  cases hstyle : styleOf t with
  | none => simp [hstyle]
  | some found => simp [hstyle, and_comm]

theorem offenders_congr
    (h : policy.required ((d.select [kind]).map styleOf) =
      other.required ((d.select [kind]).map styleOf)) :
    policy.offenders (d.styled kind styleOf) = other.offenders (d.styled kind styleOf) := by
  unfold StylePolicy.offenders
  simp only [map_snd_styled, h]

end Styled

namespace Rule

variable {r : Rule} {d : Document} {σ : Type} [DecidableEq σ]
  {options : StylePolicy σ → Options r.parameter} {kind : Kind} {written : Token → σ → Prop}

/-- Where each token of the kind has its style read, if any, the rule has an answer. -/
theorem exists_styleOf {read : Token → Except Fault (Option σ)}
    (hdomain : ∀ policy, Options.InDomain r.parameter (options policy))
    (hcheck : ∀ policy, r.check d (options policy) =
      .ofExcept (((d.select [kind]).mapM fun t => (read t).map fun style => (t.line, style)).map
        policy.offenders))
    (hwritten : ∀ t style, written t style ↔ read t = .ok (some style))
    (hread : ∀ t ∈ d.tokens, t.kind = kind → ∃ style, read t = .ok style) :
    ∃ styleOf : Token → Option σ,
      (∀ t ∈ d.tokens, t.kind = kind → ∀ style, written t style ↔ styleOf t = some style) ∧
      ∀ policy : StylePolicy σ, r.AnswersUnder d (options policy)
        (ascending (policy.offenders (d.styled kind styleOf))) := by
  choose! styleOf hstyleOf using hread
  refine ⟨styleOf, fun t ht hkind style => ?_, fun policy => ?_⟩
  · rw [hwritten, hstyleOf t ht hkind, Except.ok.injEq]
  · have hreadings : ((d.select [kind]).mapM fun t => (read t).map fun style => (t.line, style)) =
        .ok (d.styled kind styleOf) := by
      refine mapM_eq_ok fun t ht => ?_
      obtain ⟨htoken, hkind⟩ := Document.mem_select_singleton_iff.mp ht
      rw [hstyleOf t htoken hkind]
      rfl
    refine answersUnder_of_check (hdomain policy) ?_
    rw [hcheck, hreadings]
    rfl

theorem infersStyle_of_styleOf {styleOf : Token → Option σ}
    (hunique : ∀ t found other, written t found → written t other → found = other)
    (hstyle : ∀ t ∈ d.tokens, t.kind = kind → ∀ style, written t style ↔ styleOf t = some style)
    (hanswers : ∀ policy : StylePolicy σ, r.AnswersUnder d (options policy)
      (ascending (policy.offenders (d.styled kind styleOf)))) :
    r.InfersStyle d options kind written := by
  have hmem : ∀ (policy : StylePolicy σ) (k : Int),
      k ∈ ascending (policy.offenders (d.styled kind styleOf)) ↔
        ∃ t ∈ d.tokens, t.kind = kind ∧ t.line = k ∧ ∃ found, written t found ∧
          some found ≠ policy.required ((d.select [kind]).map styleOf) := by
    intro policy k
    rw [mem_ascending, mem_offenders_iff]
    refine exists_congr fun t => and_congr_right fun ht => and_congr_right fun hkind => ?_
    simp only [hstyle t ht hkind]
  have hfirst : ∀ first, d.tokens.find? (·.kind = kind) = some first →
      (∀ style, written first style ↔ styleOf first = some style) ∧
        StylePolicy.consistent.required ((d.select [kind]).map styleOf) = styleOf first := by
    intro first hfind
    obtain ⟨hmem, hkind⟩ := Document.mem_of_find? hfind
    refine ⟨hstyle first hmem hkind, ?_⟩
    rw [required_consistent, hfind, Option.bind_some]
  constructor
  case unique => exact hunique
  case asked =>
    intro style
    refine ⟨_, hanswers _, fun k => ?_⟩
    rw [hmem]
    simp only [StylePolicy.required, ne_eq, Option.some.injEq]
  case absent =>
    intro hnone
    have hempty : ascending (StylePolicy.consistent.offenders (d.styled kind styleOf)) = [] := by
      rw [List.eq_nil_iff_forall_not_mem]
      intro k hk
      obtain ⟨t, ht, hkind, -⟩ := (hmem _ k).mp hk
      have := List.find?_eq_none.mp hnone t ht
      simp [hkind] at this
    rw [← hempty]
    exact hanswers _
  case inferred =>
    intro first style hfind hw
    obtain ⟨hiff, hrequired⟩ := hfirst first hfind
    rw [(hiff style).mp hw] at hrequired
    refine ⟨_, hanswers _, ?_⟩
    rw [← offenders_congr hrequired]
    exact hanswers _
  case unmarked =>
    intro first hfind hw
    obtain ⟨hiff, hrequired⟩ := hfirst first hfind
    have hnone : styleOf first = none := by
      rw [Option.eq_none_iff_forall_ne_some]
      intro style hsome
      exact hw style ((hiff style).mpr hsome)
    refine ⟨_, hanswers _, fun k => ?_⟩
    rw [hmem, hrequired, hnone]
    simp

/-- A rule that reads a style, or none, from each token of a kind and then compares. -/
theorem infersStyle_of_check {read : Token → Except Fault (Option σ)}
    (hdomain : ∀ policy, Options.InDomain r.parameter (options policy))
    (hcheck : ∀ policy, r.check d (options policy) =
      .ofExcept (((d.select [kind]).mapM fun t => (read t).map fun style => (t.line, style)).map
        policy.offenders))
    (hwritten : ∀ t style, written t style ↔ read t = .ok (some style))
    (hread : ∀ t ∈ d.tokens, t.kind = kind → ∃ style, read t = .ok style) :
    r.InfersStyle d options kind written := by
  obtain ⟨styleOf, hstyle, hanswers⟩ := exists_styleOf hdomain hcheck hwritten hread
  refine infersStyle_of_styleOf (fun t found other hfound hother => ?_) hstyle hanswers
  have hread := (hwritten t found).mp hfound
  rw [(hwritten t other).mp hother] at hread
  exact (Option.some.inj (Except.ok.inj hread)).symm

/-- If all tokens of the kind have styles, they agree with each other just in case they agree with
some style. -/
theorem InfersStyle.consistent_nil_iff [Nonempty σ] (h : r.InfersStyle d options kind written)
    (hwritten : ∀ t ∈ d.tokens, t.kind = kind → ∃ style, written t style) :
    r.AnswersUnder d (options .consistent) [] ↔
      ∃ style, r.AnswersUnder d (options (.always style)) [] := by
  cases hfind : d.tokens.find? (·.kind = kind) with
  | none =>
    have hnone : ∀ t ∈ d.tokens, t.kind ≠ kind := by simpa using hfind
    obtain ⟨style⟩ : Nonempty σ := inferInstance
    obtain ⟨reported, hasked, hmem⟩ := h.asked style
    have hnil : reported = [] := by
      rw [List.eq_nil_iff_forall_not_mem]
      intro k hk
      obtain ⟨t, ht, hkind, -⟩ := (hmem k).mp hk
      exact hnone t ht hkind
    exact iff_of_true (h.absent hfind) ⟨style, hnil ▸ hasked⟩
  | some first =>
    obtain ⟨hfirst, hkind⟩ := Document.mem_of_find? hfind
    obtain ⟨style, hstyle⟩ := hwritten first hfirst hkind
    obtain ⟨reported, hasked, hconsistent⟩ := h.inferred first style hfind hstyle
    constructor
    · intro hnil
      rw [hconsistent.unique hnil] at hasked
      exact ⟨style, hasked⟩
    · rintro ⟨other, hnil⟩
      -- the first token is not reported, so the other style is its own
      obtain ⟨found, hother, hmem⟩ := h.asked other
      rw [hother.unique hnil] at hmem
      have hsame : style = other := by
        by_contra hne
        have := (hmem first.line).mpr ⟨first, hfirst, hkind, rfl, style, hstyle, hne⟩
        exact List.not_mem_nil this
      rw [← hsame] at hnil
      rw [← hasked.unique hnil]
      exact hconsistent

end Rule

/-! ## Headings and bullets -/

theorem map_map_beside {ε α σ : Type} (x : Except ε α) (style : α → σ) (line : Int) :
    (x.map style).map (fun s => (line, s)) = x.map fun a => (line, style a) := by
  cases x with
  | error e => rfl
  | ok a => rfl

namespace Document

variable (d : Document)

theorem exists_headingStyle {t : Token} (h : t.span.2 - t.span.1 = 1 → d.Readable t) :
    ∃ style, d.headingStyle t = .ok style := by
  unfold headingStyle
  split_ifs with hspan
  · obtain ⟨line, hline⟩ := exists_lineOf_iff.mpr (h hspan)
    exact ⟨_, map_eq_ok_iff.mpr ⟨line, hline, rfl⟩⟩
  · exact ⟨.setext, rfl⟩

theorem infersStyle_headingStyle
    (h : ∀ t ∈ d.tokens, t.kind = .headingOpen → t.span.2 - t.span.1 = 1 → d.Readable t) :
    Rule.headingStyle.InfersStyle d id .headingOpen d.WrittenIn := by
  have hdomain : ∀ policy : StylePolicy HeadingStyle,
      Options.InDomain Rule.headingStyle.parameter policy := fun policy =>
    Parameter.admits_of_mem_all (List.mem_of_find?_eq_some (Parameter.ofName?_headingStyle policy))
  have hcheck : ∀ policy : StylePolicy HeadingStyle, Rule.headingStyle.check d policy =
      .ofExcept (((d.select [.headingOpen]).mapM fun t =>
        ((d.headingStyle t).map some).map fun style => (t.line, style)).map policy.offenders) := by
    intro policy
    show Findings.ofExcept (d.otherHeadingStyles policy) = _
    rw [otherHeadingStyles_eq]
    simp only [map_map_beside]
    rfl
  have hwritten : ∀ t style,
      d.WrittenIn t style ↔ (d.headingStyle t).map some = .ok (some style) := fun t style => by
    rw [writtenIn_iff, map_eq_ok_iff]
    simp
  refine Rule.infersStyle_of_check hdomain hcheck hwritten fun t ht hkind => ?_
  obtain ⟨style, hstyle⟩ := d.exists_headingStyle (h t ht hkind)
  exact ⟨some style, map_eq_ok_iff.mpr ⟨style, hstyle, rfl⟩⟩

theorem infersStyle_listStyle (h : ∀ t ∈ d.tokens, t.kind = .listItemOpen → d.Readable t) :
    Rule.listStyle.InfersStyle d id .listItemOpen d.MarkedBy := by
  have hdomain : ∀ policy : StylePolicy BulletStyle,
      Options.InDomain Rule.listStyle.parameter policy := fun policy =>
    Parameter.admits_of_mem_all (List.mem_of_find?_eq_some (Parameter.ofName?_bulletStyle policy))
  have hcheck : ∀ policy : StylePolicy BulletStyle, Rule.listStyle.check d policy =
      .ofExcept (((d.select [.listItemOpen]).mapM fun t =>
        ((d.lineOf t).map bulletOf).map fun style => (t.line, style)).map policy.offenders) := by
    intro policy
    show Findings.ofExcept (d.otherBulletStyles policy) = _
    rw [otherBulletStyles_eq]
    simp only [map_map_beside]
    rfl
  refine Rule.infersStyle_of_check hdomain hcheck (fun t style => markedBy_iff) fun t ht hkind => ?_
  obtain ⟨line, hline⟩ := exists_lineOf_iff.mpr (h t ht hkind)
  exact ⟨bulletOf line, map_eq_ok_iff.mpr ⟨line, hline, rfl⟩⟩

end Document

/-- **Inferred and requested styles.** Where all lines that are looked up exist, the rules about headings
and bullets report what their styles say, and a style that is left to the document is that of the first
token.  Headings are in agreement just in case some style can be asked for without a report. -/
theorem styles_inferred (d : Document) :
    ((∀ t ∈ d.tokens, t.kind = .headingOpen → t.span.2 - t.span.1 = 1 → d.Readable t) →
      (∀ t ∈ d.tokens, t.kind = .headingOpen → ∃ style, d.WrittenIn t style) ∧
      Rule.headingStyle.InfersStyle d id .headingOpen d.WrittenIn ∧
      (Rule.headingStyle.AnswersUnder d StylePolicy.consistent [] ↔
        ∃ style, Rule.headingStyle.AnswersUnder d (StylePolicy.always style) [])) ∧
    ((∀ t ∈ d.tokens, t.kind = .listItemOpen → d.Readable t) →
      Rule.listStyle.InfersStyle d id .listItemOpen d.MarkedBy) := by
  refine ⟨fun h => ?_, d.infersStyle_listStyle⟩
  have hwritten : ∀ t ∈ d.tokens, t.kind = .headingOpen → ∃ style, d.WrittenIn t style := by
    intro t ht hkind
    obtain ⟨style, hstyle⟩ := d.exists_headingStyle (h t ht hkind)
    exact ⟨style, Document.writtenIn_iff.mpr hstyle⟩
  have hinfers := d.infersStyle_headingStyle h
  have : Nonempty HeadingStyle := ⟨.atx⟩
  exact ⟨hwritten, hinfers, hinfers.consistent_nil_iff hwritten⟩

/-- Headings of all three styles, the first with blanks behind its marks, and a first item without a
bullet. -/
theorem styles_inferred_mixed :
    let d : Document :=
      { lines := ["# a # \t", "## b", "c", "=", "1. x", "  - y", "* z", "* z"].map String.toList
        tokens := [{ kind := .headingOpen, line := 1, range := some (0, 1) },
          { kind := .headingOpen, line := 2, range := some (1, 2) },
          { kind := .headingOpen, line := 3, range := some (2, 4) },
          { kind := .listItemOpen, line := 5 }, { kind := .listItemOpen, line := 6 },
          { kind := .listItemOpen, line := 7 }, { kind := .listItemOpen, line := 8 }] }
    (∀ t ∈ d.tokens, t.kind = .headingOpen → t.span.2 - t.span.1 = 1 → d.Readable t) ∧
      (∀ t ∈ d.tokens, t.kind = .listItemOpen → d.Readable t) ∧
      Rule.headingStyle.InfersStyle d id .headingOpen d.WrittenIn ∧
      Rule.listStyle.InfersStyle d id .listItemOpen d.MarkedBy ∧
      Rule.headingStyle.evaluate d [] = .ok [2, 3] ∧
      Rule.headingStyle.evaluate d [("style", .text "atx")] = .ok [1, 3] ∧
      Rule.listStyle.evaluate d [] = .ok [6, 7, 8] ∧
      Rule.listStyle.evaluate d [("style", .text "asterisk")] = .ok [6] := by
  intro d
  have hheadings : ∀ t ∈ d.tokens, t.kind = .headingOpen → t.span.2 - t.span.1 = 1 →
      d.Readable t := by
    simp [d, Document.Readable]
  have hitems : ∀ t ∈ d.tokens, t.kind = .listItemOpen → d.Readable t := by
    simp [d, Document.Readable]
  obtain ⟨hheading, hlist⟩ := styles_inferred d
  exact ⟨hheadings, hitems, (hheading hheadings).2.1, hlist hitems, rfl, rfl, rfl, rfl⟩

end MarkdownCheck
