import MarkdownCheck.Document
import Mathlib.Data.List.Chain

/-!
# Splitting a text into lines and joining lines to a text

A text is written line by line, each line but the last with a line end of one of three kinds
(`Text.joined`).  Splitting finds these lines again whatever the mixture of kinds, as long as no two
line ends read as one (`lines_joined`): that is a carriage return before a line feed, with nothing in
the line between the two.

Every text splits into lines without line ends in them, and joining those by line feeds gives the
text with each of its line ends made a line feed (`intercalate_lines`).
-/

namespace MarkdownCheck

/-- The ways to end a line. -/
inductive LineEnd where
  | crlf | cr | lf
deriving DecidableEq, Repr

def LineEnd.text : LineEnd → Text
  | crlf => ['\r', '\n']
  | cr => ['\r']
  | lf => ['\n']

/-- Whether two lines that follow each other have ends that do not read as one. -/
def LineEnd.Apart (first second : Text × LineEnd) : Prop := first.2 = cr → second ≠ ([], lf)

instance : DecidableRel LineEnd.Apart := fun first second =>
  inferInstanceAs (Decidable (first.2 = .cr → second ≠ ([], .lf)))

namespace Text

/-- Whether a text holds no line end. -/
def IsLine (t : Text) : Prop := '\r' ∉ t ∧ '\n' ∉ t

instance : DecidablePred IsLine := fun t => inferInstanceAs (Decidable ('\r' ∉ t ∧ '\n' ∉ t))

/-- Lines with their ends, and a last line without one. -/
def joined : List (Text × LineEnd) → Text → Text
  | [], last => last
  | (line, e) :: rest, last => line ++ e.text ++ joined rest last

/-- The text with a line feed for each carriage return and line feed together. -/
def mergeLineEnds : Text → Text
  | [] => []
  | '\r' :: '\n' :: rest => '\n' :: mergeLineEnds rest
  | c :: rest => c :: mergeLineEnds rest

/-- The text with a line feed for each line end. -/
def withLineFeeds (t : Text) : Text := t.mergeLineEnds.map fun c => if c = '\r' then '\n' else c

/-! ## Joined lines -/

theorem isLine_cons_iff {c : Char} {t : Text} :
    IsLine (c :: t) ↔ ¬ (c = '\r' ∨ c = '\n') ∧ t.IsLine := by
  simp only [IsLine, List.mem_cons, not_or, eq_comm]
  tauto

theorem lines_cons {c : Char} (h : ¬ (c = '\r' ∨ c = '\n')) (t : Text) :
    lines (c :: t) = (lines t).modifyHead (c :: ·) := by
  rw [lines]
  · exact if_neg h
  · rintro rest rfl
    simp at h

/-- A text without line ends goes in front of the first line. -/
theorem lines_append_of_isLine {line : Text} (h : line.IsLine) (rest : Text) :
    lines (line ++ rest) = (lines rest).modifyHead (line ++ ·) := by
  induction line with
  | nil =>
    rw [List.nil_append]
    cases lines rest <;> rfl
  | cons c line ih =>
    obtain ⟨hc, hline⟩ := isLine_cons_iff.mp h
    rw [List.cons_append, lines_cons hc, ih hline, List.modifyHead_modifyHead]
    rfl

theorem lines_of_isLine {t : Text} (h : t.IsLine) : t.lines = [t] := by
  have hlines := lines_append_of_isLine h []
  rw [List.append_nil] at hlines
  simpa [lines] using hlines

/-- A line end ends a line, unless it is a carriage return that a line feed follows. -/
theorem lines_end_append {e : LineEnd} {rest : Text} (h : e = .cr → rest.head? ≠ some '\n') :
    lines (e.text ++ rest) = [] :: lines rest := by
  cases e with
  | crlf => simp [LineEnd.text, lines]
  | lf => simp [LineEnd.text, lines]
  | cr =>
    cases rest with
    | nil => simp [LineEnd.text, lines]
    | cons c rest =>
      have hc : c ≠ '\n' := fun heq => h rfl (heq ▸ rfl)
      simp [LineEnd.text, lines, hc]

/-- A joined text begins with a line feed only if its first line is empty and ends in one. -/
theorem head?_joined_ne {ended : List (Text × LineEnd)} {last : Text}
    (hended : ∀ p ∈ ended, p.1.IsLine) (hlast : last.IsLine) (h : ended.head? ≠ some ([], .lf)) :
    (joined ended last).head? ≠ some '\n' := by
  cases ended with
  | nil => exact fun heq => hlast.2 (List.mem_of_head? heq)
  | cons p rest =>
    obtain ⟨line, e⟩ := p
    cases line with
    | nil =>
      cases e with
      | lf => simp at h
      | cr => simp [joined, LineEnd.text]
      | crlf => simp [joined, LineEnd.text]
    | cons c line =>
      have hc := (isLine_cons_iff.mp (hended _ List.mem_cons_self)).1
      exact fun heq => hc (.inr (Option.some.inj heq))

/-- **Splitting undoes joining.** -/
theorem lines_joined {ended : List (Text × LineEnd)} {last : Text}
    (hended : ∀ p ∈ ended, p.1.IsLine) (hlast : last.IsLine)
    (hapart : ended.IsChain LineEnd.Apart) :
    (joined ended last).lines = ended.map (·.1) ++ [last] := by
  induction ended with
  | nil => exact lines_of_isLine hlast
  | cons p rest ih =>
    obtain ⟨line, e⟩ := p
    have hrest : ∀ q ∈ rest, q.1.IsLine := fun q hq => hended q (List.mem_cons_of_mem _ hq)
    -- a line feed after a carriage return would be the end of an empty line
    have hend : e = .cr → (joined rest last).head? ≠ some '\n' := by
      intro he
      refine head?_joined_ne hrest hlast fun hhead => ?_
      obtain ⟨others, rfl⟩ := List.head?_eq_some_iff.mp hhead
      exact (List.isChain_cons_cons.mp hapart).1 he rfl
    rw [joined, List.append_assoc, lines_append_of_isLine (hended _ List.mem_cons_self),
      lines_end_append hend, ih hrest hapart.tail]
    simp

/-- Two line ends that read as one take the empty line between them along. -/
example : (joined [(['a'], .cr), ([], .lf)] ['b']).lines = [['a'], ['b']] := by decide

/-! ## Any text -/

/-- No line has a line end in it. -/
theorem isLine_of_mem_lines {line t : Text} (h : line ∈ t.lines) : line.IsLine := by
  have hnil : IsLine [] := by simp [IsLine]
  fun_induction lines t generalizing line with
  | case1 => rwa [List.mem_singleton.mp h]
  | case2 rest ih =>
    rcases List.mem_cons.mp h with rfl | h
    · exact hnil
    · exact ih h
  | case3 c rest _ _ ih =>
    rcases List.mem_cons.mp h with rfl | h
    · exact hnil
    · exact ih h
  | case4 c rest _ hc ih =>
    -- the character joins the first line and leaves the others as they are
    obtain ⟨first, others, hlines⟩ := List.exists_cons_of_ne_nil (lines_ne_nil rest)
    rw [hlines] at h ih
    rcases List.mem_cons.mp h with rfl | h
    · exact isLine_cons_iff.mpr ⟨hc, ih List.mem_cons_self⟩
    · exact ih (List.mem_cons_of_mem _ h)

theorem intercalate_nil_cons (sep : Text) {ls : List Text} (h : ls ≠ []) :
    sep.intercalate ([] :: ls) = sep ++ sep.intercalate ls := by
  rw [List.intercalate_cons_of_ne_nil h, List.nil_append]

theorem intercalate_modifyHead_cons (sep : Text) (c : Char) {ls : List Text} (h : ls ≠ []) :
    sep.intercalate (ls.modifyHead (c :: ·)) = c :: sep.intercalate ls := by
  obtain ⟨first, others, rfl⟩ := List.exists_cons_of_ne_nil h
  cases others with
  | nil => simp
  | cons second others => simp [List.intercalate_cons_cons]

/-- **Joining the lines by line feeds** replaces each line end by a line feed. -/
theorem intercalate_lines (t : Text) : List.intercalate ['\n'] t.lines = t.withLineFeeds := by
  unfold withLineFeeds
  fun_induction lines t with
  | case1 => rfl
  | case2 rest ih =>
    rw [intercalate_nil_cons _ (lines_ne_nil rest), ih]
    rfl
  | case3 c rest hcrlf hc ih =>
    rw [intercalate_nil_cons _ (lines_ne_nil rest), ih, mergeLineEnds]
    · rcases hc with rfl | rfl <;> rfl
    · exact hcrlf
  | case4 c rest hcrlf hc ih =>
    rw [intercalate_modifyHead_cons _ _ (lines_ne_nil rest), ih, mergeLineEnds]
    · simp [not_or.mp hc]
    · exact hcrlf

end Text

/-! ## Documents -/

/-- **Splitting a text undoes joining its lines**, for every mixture of line ends no two of which read
as one. Whatever the text, it has a line, no line has a line end in it, and joined by line feeds the
lines give the text with each line end replaced by a line feed. -/
theorem split_undoes_join (tokens : List Token) :
    (∀ (ended : List (Text × LineEnd)) (last : Text), (∀ p ∈ ended, p.1.IsLine) → last.IsLine →
      ended.IsChain LineEnd.Apart →
      (Document.ofText (Text.joined ended last) tokens).lines = ended.map (·.1) ++ [last]) ∧
    ∀ text : Text,
      (∀ line ∈ (Document.ofText text tokens).lines, line.IsLine) ∧
      (Document.ofText text tokens).lines ≠ [] ∧
      List.intercalate ['\n'] (Document.ofText text tokens).lines = text.withLineFeeds := by
  refine ⟨fun _ _ hended hlast hapart => Text.lines_joined hended hlast hapart, fun text => ?_⟩
  exact ⟨fun _ => Text.isLine_of_mem_lines, Text.lines_ne_nil text, Text.intercalate_lines text⟩

/-- Empty lines under line ends of every kind, and characters that end a line elsewhere. -/
theorem split_undoes_join_mixed :
    let ended : List (Text × LineEnd) :=
      [(['a', '\x0c'], .cr), ([], .crlf), ([], .lf), ([], .cr), (['\u2028'], .cr), ([], .cr)]
    let last : Text := ['\u0085']
    (∀ p ∈ ended, p.1.IsLine) ∧ last.IsLine ∧ ended.IsChain LineEnd.Apart ∧
      (Document.ofText "a\x0c\r\r\n\n\r\u2028\r\r\u0085".toList []).lines =
        [['a', '\x0c'], [], [], [], ['\u2028'], [], ['\u0085']] := by
  intro ended last
  have hended : ∀ p ∈ ended, p.1.IsLine := by decide
  have hlast : last.IsLine := by decide
  have hapart : ended.IsChain LineEnd.Apart := by decide
  exact ⟨hended, hlast, hapart, (split_undoes_join []).1 ended last hended hlast hapart⟩

end MarkdownCheck
