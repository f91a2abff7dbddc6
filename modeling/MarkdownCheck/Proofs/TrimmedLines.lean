import MarkdownCheck.Proofs.Evaluation
import MarkdownCheck.Proofs.ListWalk
import MarkdownCheck.Proofs.Seam
import MarkdownCheck.Proofs.TokenLines
import MarkdownCheck.Proofs.Trimming

/-!
# Blanks at the end of a line may go

`Document.trimmed` has no blanks at the end of any line.  Most checks cannot tell it from the
document it comes from, since they trim a line themselves, look at its first character or do not
read lines at all.  What a check asks of a line is thus compared before and after trimming:

* `trimRight_induction`: a line comes from the trimmed one by putting blanks at its end, one by one;
* `apply_trimRight`: what does not see one blank at the end does not see trimming;
* `indent_trimRight`: the indentation changes only where a line holds nothing but blanks.

The main statement, `trimming_is_safe`, goes through all rules: no trailing blanks are left, tabs
and long lines can only become fewer, and the other rules answer as before.
-/

namespace MarkdownCheck

/-! ## Trimming a line -/

namespace Text

theorem trimRight_concat_of_blank {t : Text} {c : Char} (hc : isBlank c = true) :
    trimRight (t ++ [c]) = trimRight t := by
  rw [trimRight, dropRightWhile_eq_rdropWhile, List.rdropWhile_concat_pos _ _ _ hc]
  rfl

theorem trimRight_concat_of_not_blank {t : Text} {c : Char} (hc : isBlank c = false) :
    trimRight (t ++ [c]) = t ++ [c] := by
  rw [trimRight, dropRightWhile_eq_rdropWhile, List.rdropWhile_concat_neg _ _ _ (by simp [hc])]

/-- What holds of a trimmed text, and still holds when a blank is put at its end, holds of the
text. -/
theorem trimRight_induction {motive : Text → Prop} (t : Text) (trimmed : motive t.trimRight)
    (concat : ∀ s c, isBlank c = true → motive s → motive (s ++ [c])) : motive t := by
  induction t using List.reverseRecOn with
  | nil => exact trimmed
  | append_singleton s c ih =>
    cases hc : isBlank c with
    | true =>
      rw [trimRight_concat_of_blank hc] at trimmed
      exact concat s c hc (ih trimmed)
    | false =>
      rw [trimRight_concat_of_not_blank hc] at trimmed
      exact trimmed

/-- What does not see a blank at the end of a text does not see trimming either. -/
theorem apply_trimRight {α : Type} {f : Text → α}
    (hf : ∀ s c, isBlank c = true → f (s ++ [c]) = f s) (t : Text) : f t.trimRight = f t := by
  refine trimRight_induction (motive := fun s => f t.trimRight = f s) t rfl fun s c hc h => ?_
  rw [hf s c hc, h]

/-- What is not lost when a blank is put at the end of a text is not lost by undoing trimming. -/
theorem of_trimRight {p : Text → Bool}
    (hp : ∀ s c, isBlank c = true → p s = true → p (s ++ [c]) = true) {t : Text}
    (h : p t.trimRight = true) : p t = true :=
  trimRight_induction (motive := fun s => p s = true) t h hp

theorem endsBlank_trimRight (t : Text) : t.trimRight.endsBlank = false := by
  induction t using List.reverseRecOn with
  | nil => rfl
  | append_singleton s c ih =>
    cases hc : isBlank c with
    | true => rw [trimRight_concat_of_blank hc, ih]
    | false =>
      rw [trimRight_concat_of_not_blank hc]
      simp [endsBlank, hc]

@[simp] theorem trimRight_trimRight (t : Text) : t.trimRight.trimRight = t.trimRight :=
  apply_trimRight (fun _ _ => trimRight_concat_of_blank) t

theorem trimLeft_concat_of_blank {t : Text} {c : Char} (hc : isBlank c = true) :
    trimLeft (t ++ [c]) = if (trimLeft t).isEmpty then [] else trimLeft t ++ [c] := by
  rw [trimLeft, trimLeft, List.dropWhile_append, List.dropWhile_cons_of_pos hc, List.dropWhile_nil]

@[simp] theorem trim_trimRight (t : Text) : t.trimRight.trim = t.trim := by
  refine apply_trimRight (fun s c hc => ?_) t
  rw [trim, trimLeft_concat_of_blank hc]
  split_ifs with hs
  · rw [trim, List.isEmpty_iff.mp hs]
  · rw [trimRight_concat_of_blank hc, trim]

@[simp] theorem allBlank_trimRight (t : Text) : t.trimRight.allBlank = t.allBlank :=
  apply_trimRight (fun s c hc => by simp [allBlank, hc]) t

@[simp] theorem isFence_trimRight (t : Text) : t.trimRight.isFence = t.isFence := by
  rw [isFence, isFence, trim_trimRight]

@[simp] theorem isMarker_trimRight (t : Text) : t.trimRight.isMarker = t.isMarker := by
  rw [isMarker, isMarker, trim_trimRight]

/-- A line of blanks says nothing at its beginning, and neither does an empty one. -/
@[simp] theorem isOpen_trimRight (t : Text) : t.trimRight.isOpen = t.isOpen := by
  refine apply_trimRight (fun s c hc => ?_) t
  cases s with
  | nil => simp [isOpen, startsBlank, hc]
  | cons first s => simp [isOpen, startsBlank]

theorem isClosed_trimRight (t : Text) : Document.isClosed t.trimRight = Document.isClosed t := by
  rw [Document.isClosed, Document.isClosed, trimRight_trimRight]

theorem bulletOf_trimRight (t : Text) : Document.bulletOf t.trimRight = Document.bulletOf t := by
  refine apply_trimRight (fun s c hc => ?_) t
  unfold Document.bulletOf
  rw [trimLeft_concat_of_blank hc]
  cases hs : s.trimLeft with
  | nil => rfl
  | cons first rest => simp

theorem indent_concat {t : Text} (c : Char) (h : t.allBlank = false) :
    indent (t ++ [c]) = indent t := by
  induction t with
  | nil => simp [allBlank] at h
  | cons first t ih =>
    cases hfirst : isBlank first with
    | true =>
      have ht : allBlank t = false := by simpa [allBlank, hfirst] using h
      have ih := ih ht
      unfold indent at ih ⊢
      rw [List.cons_append, List.takeWhile_cons_of_pos hfirst, List.takeWhile_cons_of_pos hfirst,
        List.length_cons, List.length_cons, ih]
    | false => simp [indent, hfirst]

/-- Trimming leaves the indentation alone, but for a line of blanks. -/
theorem indent_trimRight {t : Text} (h : t.allBlank = true → t = []) :
    t.trimRight.indent = t.indent := by
  cases hblank : t.allBlank with
  | true =>
    rw [h hblank]
    rfl
  | false =>
    refine trimRight_induction
      (motive := fun s => s.allBlank = false → t.trimRight.indent = s.indent) t
      (fun _ => rfl) (fun s c hc ih hs => ?_) hblank
    have hs : s.allBlank = false := by simpa [allBlank, hc] using hs
    rw [ih hs, indent_concat c hs]

theorem breaksBeyond_concat {limit : Nat} {t : Text} {c : Char}
    (h : breaksBeyond limit t = true) : breaksBeyond limit (t ++ [c]) = true := by
  induction t generalizing limit with
  | nil => simp [breaksBeyond] at h
  | cons first rest ih =>
    cases limit with
    | zero =>
      simp only [breaksBeyond, Bool.or_eq_true, Bool.and_eq_true, List.cons_append] at h ⊢
      exact h.imp_right (And.imp_right ih)
    | succ limit =>
      simp only [breaksBeyond, Bool.and_eq_true, List.cons_append] at h ⊢
      exact h.imp_right ih

end Text

/-! ## Trimming a document -/

theorem getElem?_map_trimRight_iff {lines : List Text} {i : Nat} {line : Text} :
    (lines.map Text.trimRight)[i]? = some line ↔
      ∃ whole, lines[i]? = some whole ∧ whole.trimRight = line := by
  rw [List.getElem?_map, Option.map_eq_some_iff]

namespace Document

variable {d : Document}

/-- The document without blanks at the end of its lines. -/
def trimmed (d : Document) : Document := { d with lines := d.lines.map Text.trimRight }

/-- Whether the indentation of every list and every list item stays when its line is trimmed: none
of them starts on a line of blanks that is not empty. -/
def KeepsIndents (d : Document) : Prop :=
  ∀ t ∈ d.tokens, t.kind = .listItemOpen ∨ t.kind = .bulletListOpen →
    ∀ line, d.lineOf t = .ok line → line.allBlank = true → line = []

theorem lineOf_trimmed (d : Document) (t : Token) :
    d.trimmed.lineOf t = (d.lineOf t).map Text.trimRight := by
  unfold lineOf line trimmed
  rw [List.length_map]
  cases position? d.lines.length t.line with
  | none => rfl
  | some i =>
    rw [Option.bind_some, Option.bind_some, List.getElem?_map]
    cases d.lines[i]? with
    | none => rfl
    | some line => rfl

theorem headingStyle_trimmed (d : Document) (t : Token) :
    d.trimmed.headingStyle t = d.headingStyle t := by
  unfold headingStyle
  rw [lineOf_trimmed]
  cases d.lineOf t with
  | error fault => rfl
  | ok line => simp only [Except.map, Text.isClosed_trimRight]

theorem otherHeadingStyles_trimmed (d : Document) (policy : StylePolicy HeadingStyle) :
    d.trimmed.otherHeadingStyles policy = d.otherHeadingStyles policy := by
  rw [otherHeadingStyles_eq, otherHeadingStyles_eq]
  refine congrArg (Except.map _) (mapM_congr fun t _ => ?_)
  rw [headingStyle_trimmed]

theorem otherBulletStyles_trimmed (d : Document) (policy : StylePolicy BulletStyle) :
    d.trimmed.otherBulletStyles policy = d.otherBulletStyles policy := by
  rw [otherBulletStyles_eq, otherBulletStyles_eq]
  refine congrArg (Except.map _) (mapM_congr fun t _ => ?_)
  rw [lineOf_trimmed]
  cases d.lineOf t with
  | error fault => rfl
  | ok line => simp only [Except.map, Text.bulletOf_trimRight]

theorem indentOf_trimmed {t : Token}
    (h : ∀ line, d.lineOf t = .ok line → line.allBlank = true → line = []) :
    d.trimmed.indentOf t = d.indentOf t := by
  unfold indentOf
  rw [lineOf_trimmed]
  cases hline : d.lineOf t with
  | error fault => rfl
  | ok line => simp only [Except.map, Text.indent_trimRight (h line hline)]

theorem withIndent_trimmed (h : d.KeepsIndents) {ts : List Token}
    (hts : ∀ t ∈ ts, t ∈ d.tokens ∧ (t.kind = .listItemOpen ∨ t.kind = .bulletListOpen)) :
    d.trimmed.withIndent ts = d.withIndent ts := by
  refine mapM_congr fun t ht => ?_
  rw [indentOf_trimmed (h t (hts t ht).1 (hts t ht).2)]

theorem unevenItems_trimmed (h : d.KeepsIndents) : d.trimmed.unevenItems = d.unevenItems := by
  refine congrArg (Except.map _) (withIndent_trimmed h fun t ht => ?_)
  exact (mem_select_singleton_iff.mp ht).imp_right .inl

theorem indentedLists_trimmed (h : d.KeepsIndents) :
    d.trimmed.indentedLists = d.indentedLists := by
  refine congrArg (Except.map _) (withIndent_trimmed h fun t ht => ?_)
  obtain ⟨before, after, htokens, hkind, -⟩ := (mem_outermostLists_iff (d := d)).mp ht
  exact ⟨by simp [htokens], .inr hkind⟩

theorem wrongSteps_trimmed (h : d.KeepsIndents) (step : Nat) :
    d.trimmed.wrongSteps step = d.wrongSteps step := by
  refine congrArg (Except.map _) (withIndent_trimmed h fun t ht => ?_)
  exact (mem_select_singleton_iff.mp ht).imp_right .inr

/-! ### Lines -/

theorem linesWhere_trimmed_subset {p : Text → Bool}
    (hp : ∀ s c, isBlank c = true → p s = true → p (s ++ [c]) = true) :
    d.trimmed.linesWhere p ⊆ d.linesWhere p := by
  intro n hn
  obtain ⟨i, line, hline, hpline, rfl⟩ := mem_linesWhere.mp hn
  obtain ⟨whole, hwhole, rfl⟩ := getElem?_map_trimRight_iff.mp hline
  exact mem_linesWhere.mpr ⟨i, whole, hwhole, Text.of_trimRight hp hpline, rfl⟩

theorem trailingBlanks_trimmed (d : Document) : d.trimmed.trailingBlanks = [] := by
  rw [List.eq_nil_iff_forall_not_mem]
  intro n hn
  obtain ⟨i, line, hline, hends, -⟩ := mem_linesWhere.mp hn
  obtain ⟨whole, -, rfl⟩ := getElem?_map_trimRight_iff.mp hline
  rw [Text.endsBlank_trimRight] at hends
  exact Bool.false_ne_true hends

theorem repeatedBlanksFrom_trimmed (skip : Nat → Bool) (i : Nat) (afterBlank : Bool)
    (lines : List Text) :
    repeatedBlanksFrom skip i afterBlank (lines.map Text.trimRight) =
      repeatedBlanksFrom skip i afterBlank lines := by
  induction lines generalizing i afterBlank with
  | nil => rfl
  | cons line rest ih => simp only [List.map_cons, repeatedBlanksFrom, Text.allBlank_trimRight, ih]

end Document

/-! ### Seams -/

theorem codeAt_trimmed (lines : List Text) (i : Nat) :
    codeAt (lines.map Text.trimRight) i = codeAt lines i := by
  unfold codeAt leavesCodeOpen
  rw [← List.map_take, List.countP_map]
  simp [Function.comp_def]

theorem seam_trimmed_iff {lines : List Text} {j : Nat} {a b : Text} :
    Seam (lines.map Text.trimRight) j a b ↔
      ∃ a' b', Seam lines j a' b' ∧ a'.trimRight = a ∧ b'.trimRight = b := by
  constructor
  · rintro ⟨hupper, hlower, hout⟩
    obtain ⟨a', ha', rfl⟩ := getElem?_map_trimRight_iff.mp hupper
    obtain ⟨b', hb', rfl⟩ := getElem?_map_trimRight_iff.mp hlower
    have hout' : codeAt lines (j + 1) = false := (codeAt_trimmed lines (j + 1)).symm.trans hout
    exact ⟨a', b', ⟨ha', hb', hout'⟩, rfl, rfl⟩
  · rintro ⟨a', b', ⟨hupper, hlower, hout⟩, rfl, rfl⟩
    have hupper' := getElem?_map_trimRight_iff.mpr ⟨a', hupper, rfl⟩
    have hlower' := getElem?_map_trimRight_iff.mpr ⟨b', hlower, rfl⟩
    exact ⟨hupper', hlower', (codeAt_trimmed lines (j + 1)).trans hout⟩

/-- A check that reads seams does not see trimming if what it asks of a line does not. -/
theorem ReadsSeams.check_trimmed {check : Document → List Int} {blame : Text → Text → Side → Prop}
    (hr : ReadsSeams check blame)
    (hblame : ∀ a b side, blame a.trimRight b.trimRight side ↔ blame a b side) (d : Document) :
    ascending (check d.trimmed) = ascending (check d) := by
  refine ascending_congr fun k => ?_
  rw [hr.mem_iff, hr.mem_iff]
  constructor
  · rintro ⟨j, _, _, side, hs, hb, hk⟩
    obtain ⟨a, b, hseam, rfl, rfl⟩ := seam_trimmed_iff.mp hs
    exact ⟨j, a, b, side, hseam, (hblame a b side).mp hb, hk⟩
  · rintro ⟨j, a, b, side, hs, hb, hk⟩
    exact ⟨j, _, _, side, seam_trimmed_iff.mpr ⟨a, b, hs, rfl, rfl⟩, (hblame a b side).mpr hb, hk⟩

theorem fenceBlame_trimRight (a b : Text) (side : Side) :
    FenceBlame a.trimRight b.trimRight side ↔ FenceBlame a b side := by
  cases side <;> simp [FenceBlame]

theorem listBlame_trimRight (a b : Text) (side : Side) :
    ListBlame a.trimRight b.trimRight side ↔ ListBlame a b side := by
  cases side <;> simp [ListBlame]

/-! ## Rules -/

/-- Whether a rule, on the trimmed document, reports none but lines that it reports anyway. -/
def Rule.ReportsFewer (r : Rule) (d : Document) (fields : Fields) : Prop :=
  ∃ new old, r.evaluate d.trimmed fields = .ok new ∧ r.evaluate d fields = .ok old ∧ new ⊆ old

/-- What becomes of the answers of all rules when the lines of a document are trimmed. -/
structure Document.SafelyTrimmed (d : Document) (fields : Fields) : Prop where
  trailingSpaces : Rule.trailingSpaces.evaluate d.trimmed fields = .ok []
  hardTabs : Rule.hardTabs.ReportsFewer d fields
  lineLength : ∀ limit : Nat,
    Options.resolve Rule.lineLength.parameter fields = .ok limit → limit < 4294967295 →
      Rule.lineLength.ReportsFewer d fields
  same : ∀ r ∈ [Rule.headingIncrement, Rule.firstHeading, Rule.headingStyle, Rule.listStyle,
      Rule.reversedLinks, Rule.multipleBlanks, Rule.quoteBlanks, Rule.fenceSurround,
      Rule.listSurround],
    r.evaluate d.trimmed fields = r.evaluate d fields
  sameIndents : d.KeepsIndents → ∀ r ∈ [Rule.listIndent, Rule.listStart, Rule.listStep],
    r.evaluate d.trimmed fields = r.evaluate d fields

theorem Rule.reportsFewer_of_lines {r : Rule} {d : Document} {fields : Fields} {p : Text → Bool}
    (hp : ∀ s c, isBlank c = true → p s = true → p (s ++ [c]) = true)
    (h : ∀ e : Document, r.evaluate e fields = .ok (ascending (e.linesWhere p))) :
    r.ReportsFewer d fields := by
  refine ⟨_, _, h d.trimmed, h d, fun k hk => ?_⟩
  rw [mem_ascending] at hk ⊢
  exact Document.linesWhere_trimmed_subset hp hk

/-- **Trimming is safe.** Of a document whose lines lose the blanks at their ends nothing is
reported for trailing blanks, and for tabs and long lines nothing new.  Apart from the rules that
compare indentations, all others answer as before, and so do these where no list starts on a line of
blanks. -/
theorem trimming_is_safe (d : Document) (fields : Fields) : d.SafelyTrimmed fields where
  trailingSpaces := by
    refine (Rule.evaluate_always_eq_nil_iff _ _ Document.trailingBlanks).mpr ?_
    exact Document.trailingBlanks_trimmed d
  hardTabs := by
    refine Rule.reportsFewer_of_lines (p := fun line => '\t' ∈ line) (fun s c _ h => ?_)
      fun e => Rule.evaluate_always _ _ _
    simp only [decide_eq_true_eq] at h ⊢
    exact List.mem_append_left _ h
  lineLength limit hres hlimit := by
    refine Rule.reportsFewer_of_lines (p := Text.breaksBeyond limit)
      (fun s c _ => Text.breaksBeyond_concat) fun e => ?_
    have hlines : e.longLines limit = .ok (e.linesWhere (Text.breaksBeyond limit)) :=
      if_pos hlimit
    rw [Rule.evaluate_ofExcept (x := e.longLines limit) hres rfl, hlines]
    rfl
  same r hr := by
    simp only [List.mem_cons, List.not_mem_nil, or_false] at hr
    rcases hr with rfl | rfl | rfl | rfl | rfl | rfl | rfl | rfl | rfl
    · rfl
    · rfl
    · exact Rule.evaluate_congr _ fun policy =>
        congrArg Findings.ofExcept (Document.otherHeadingStyles_trimmed d policy)
    · exact Rule.evaluate_congr _ fun policy =>
        congrArg Findings.ofExcept (Document.otherBulletStyles_trimmed d policy)
    · rfl
    · exact congrArg (fun lines => Except.ok (ascending lines))
        (Document.repeatedBlanksFrom_trimmed d.inCode 0 false d.lines)
    · rfl
    · exact congrArg Except.ok (crowdedFences_readsSeams.check_trimmed fenceBlame_trimRight d)
    · exact congrArg Except.ok (crowdedLists_readsSeams.check_trimmed listBlame_trimRight d)
  sameIndents hkeeps r hr := by
    simp only [List.mem_cons, List.not_mem_nil, or_false] at hr
    rcases hr with rfl | rfl | rfl
    · exact Rule.evaluate_congr _ fun _ =>
        congrArg Findings.ofExcept (Document.unevenItems_trimmed hkeeps)
    · exact Rule.evaluate_congr _ fun _ =>
        congrArg Findings.ofExcept (Document.indentedLists_trimmed hkeeps)
    · exact Rule.evaluate_congr _ fun step =>
        congrArg Findings.ofExcept (Document.wrongSteps_trimmed hkeeps step)

/-- A closed heading, an empty item and a line of blanks that no list starts on. -/
theorem trimming_is_safe_empty_item :
    let d : Document :=
      { lines := ["# a # \t", "-  ", "  - b\tc ", " \t"].map String.toList
        tokens := [{ kind := .headingOpen, line := 1 }, { kind := .bulletListOpen, line := 2 },
          { kind := .listItemOpen, line := 2 }, { kind := .listItemOpen, line := -1 },
          { kind := .paragraphOpen, line := 4 }] }
    let fields : Fields := [("line_length", .int 3)]
    Options.resolve Rule.lineLength.parameter fields = .ok (3 : Nat) ∧ d.KeepsIndents ∧
      Rule.lineLength.ReportsFewer d fields ∧
      Rule.listIndent.evaluate d.trimmed fields = Rule.listIndent.evaluate d fields := by
  intro d fields
  have hkeeps : d.KeepsIndents := by
    intro t ht hkind line hline hblank
    simp only [d, List.mem_cons, List.not_mem_nil, or_false] at ht
    rcases ht with rfl | rfl | rfl | rfl | rfl
    · simp at hkind
    · obtain rfl := Except.ok.inj hline
      exact absurd hblank (by decide)
    · obtain rfl := Except.ok.inj hline
      exact absurd hblank (by decide)
    · obtain rfl := Except.ok.inj hline
      exact absurd hblank (by decide)
    · simp at hkind
  have h := trimming_is_safe d fields
  exact ⟨rfl, hkeeps, h.lineLength 3 rfl (by decide), h.sameIndents hkeeps _ (by simp)⟩

end MarkdownCheck
