import MarkdownCheck.Proofs.EmptyLineBetween
import Mathlib.Data.List.Destutter

/-!
# Runs of blank lines

A blank line is reported if the line above it is blank as well and no code covers it.  So of a run of
blank lines outside of code all but the first one are (`filter_repeatedBlanks_of_run`).

Deleting the reported lines (`Lines.without`) takes away blank lines only.  In a document without code
it is a destuttering (`without_repeatedBlanks_eq_destutter`): of lines that follow each other, no two
that are both blank are left, and so nothing to report.
-/

namespace MarkdownCheck

namespace Lines

variable {lines : List Text} {i : Nat}

/-- A line stands at place `i` that holds blanks only. -/
def Blank (lines : List Text) (i : Nat) : Prop :=
  ∃ line, lines[i]? = some line ∧ ∀ c ∈ line, isBlank c = true

theorem blank_iff : Blank lines i ↔ ∃ line, lines[i]? = some line ∧ line.allBlank = true := by
  unfold Blank
  simp only [Text.allBlank_iff]

/-- The lines at `length` places, from `first` on, are blank, and the lines next to them are not. -/
structure BlankRun (lines : List Text) (first length : Nat) : Prop where
  pos : 0 < length
  blank : ∀ i, first ≤ i → i < first + length → Blank lines i
  above : ∀ i, i + 1 = first → ¬ Blank lines i
  below : ¬ Blank lines (first + length)

/-- The lines but for those whose numbers are given. The first line has number `n`. -/
def withoutFrom (n : Nat) (numbers : List Int) : List Text → List Text
  | [] => []
  | line :: rest =>
    let later := withoutFrom (n + 1) numbers rest
    if (n : Int) ∈ numbers then later else line :: later

/-- The lines but for those whose numbers are given. -/
def without (lines : List Text) (numbers : List Int) : List Text := withoutFrom 1 numbers lines

/-- Numbers in front of the first line do not matter. -/
theorem withoutFrom_congr {n : Nat} {numbers others : List Int}
    (h : ∀ k : Int, n ≤ k → (k ∈ numbers ↔ k ∈ others)) (lines : List Text) :
    withoutFrom n numbers lines = withoutFrom n others lines := by
  induction lines generalizing n with
  | nil => rfl
  | cons line rest ih =>
    have hlater := ih (n := n + 1) fun k hk => h k (by omega)
    simp only [withoutFrom, hlater, h n le_rfl]

/-- A line stays that comes before all numbers. -/
theorem withoutFrom_cons_of_lt {n : Nat} {numbers : List Int} (h : ∀ k ∈ numbers, (n : Int) < k)
    (line : Text) (rest : List Text) :
    withoutFrom n numbers (line :: rest) = line :: withoutFrom (n + 1) numbers rest := by
  have hn : (n : Int) ∉ numbers := fun hmem => lt_irrefl _ (h n hmem)
  rw [withoutFrom, if_neg hn]

theorem withoutFrom_cons_self {n : Nat} {k : Int} (hk : k = n) (numbers : List Int) (line : Text)
    (rest : List Text) :
    withoutFrom n (k :: numbers) (line :: rest) = withoutFrom (n + 1) numbers rest := by
  have hlater : withoutFrom (n + 1) (k :: numbers) rest = withoutFrom (n + 1) numbers rest := by
    refine withoutFrom_congr (fun m hm => ?_) rest
    rw [List.mem_cons]
    exact or_iff_right (by omega)
  rw [withoutFrom, hlater, hk]
  exact if_pos List.mem_cons_self

/-- Where only blank lines are deleted, all others stay, and in the same order. -/
theorem filter_withoutFrom {n : Nat} {numbers : List Int} {lines : List Text}
    (h : ∀ i line, lines[i]? = some line → ((n + i : Nat) : Int) ∈ numbers → line.allBlank = true) :
    (withoutFrom n numbers lines).filter (!·.allBlank) = lines.filter (!·.allBlank) := by
  induction lines generalizing n with
  | nil => rfl
  | cons line rest ih =>
    have hlater := ih (n := n + 1) fun i other hother hmem => by
      refine h (i + 1) other hother ?_
      rw [Nat.add_comm i, ← Nat.add_assoc]
      exact hmem
    by_cases hn : (n : Int) ∈ numbers
    · have hblank : line.allBlank = true := h 0 line rfl hn
      rw [withoutFrom, if_pos hn, hlater, List.filter_cons_of_neg (by simp [hblank])]
    · rw [withoutFrom, if_neg hn]
      simp only [List.filter_cons, hlater]

end Lines

open Lines

namespace Document

variable {d : Document} {i : Nat}

/-! ## Reported lines -/

/-- A token for code covers place `i`. -/
def Covered (d : Document) (i : Nat) : Prop :=
  ∃ t ∈ d.tokens, (t.kind = .codeBlock ∨ t.kind = .fence) ∧ t.span.1 ≤ i ∧ (i : Int) < t.span.2

theorem inCode_iff_covered : d.inCode i = true ↔ d.Covered i := by
  unfold inCode select Covered
  simp only [List.any_eq_true, List.mem_filter, List.mem_cons, List.not_mem_nil, or_false,
    Bool.and_eq_true, decide_eq_true_eq, and_assoc]

theorem mem_repeatedBlanks_iff_blank {k : Int} :
    k ∈ d.repeatedBlanks ↔ ∃ i : Nat, k = i + 1 ∧ 1 ≤ i ∧ Blank d.lines (i - 1) ∧ Blank d.lines i ∧
      ¬ d.Covered i := by
  rw [mem_repeatedBlanks_iff]
  simp only [blank_iff, ← inCode_iff_covered, Bool.not_eq_true]
  constructor
  · rintro ⟨j, a, b, ha, hb, hablank, hbblank, hcode, rfl⟩
    exact ⟨j + 1, by push_cast; omega, by omega, ⟨a, ha, hablank⟩, ⟨b, hb, hbblank⟩, hcode⟩
  · rintro ⟨i, rfl, hi, ⟨a, ha, hablank⟩, ⟨b, hb, hbblank⟩, hcode⟩
    obtain ⟨j, rfl⟩ := Nat.exists_eq_add_of_le' hi
    exact ⟨j, a, b, ha, hb, hablank, hbblank, hcode, by push_cast; omega⟩

/-! ## Runs -/

/-- In a run outside of code every line is reported but the first one. -/
theorem mem_repeatedBlanks_iff_of_run {first length : Nat} (hrun : BlankRun d.lines first length)
    (hcode : ∀ i, first ≤ i → i < first + length → ¬ d.Covered i) {k : Int}
    (hfirst : (first : Int) < k) (hlast : k ≤ first + length) :
    k ∈ d.repeatedBlanks ↔ (first : Int) + 2 ≤ k := by
  rw [mem_repeatedBlanks_iff_blank]
  constructor
  · rintro ⟨i, rfl, hi, habove, -, -⟩
    by_contra hlow
    -- the line above the first one of the run would be blank
    exact hrun.above (i - 1) (by omega) habove
  · intro hk
    obtain ⟨i, hi⟩ := Int.eq_ofNat_of_zero_le (show 0 ≤ k - 1 by omega)
    obtain rfl : k = i + 1 := by omega
    refine ⟨i, rfl, by omega, ?_, ?_, ?_⟩
    · exact hrun.blank (i - 1) (by omega) (by omega)
    · exact hrun.blank i (by omega) (by omega)
    · exact hcode i (by omega) (by omega)

/-- **Runs of blank lines.** Of the lines of a run outside of code, all but the first are reported. -/
theorem filter_repeatedBlanks_of_run {first length : Nat} (hrun : BlankRun d.lines first length)
    (hcode : ∀ i, first ≤ i → i < first + length → ¬ d.Covered i) :
    (ascending d.repeatedBlanks).filter (fun k => (first : Int) < k ∧ k ≤ first + length) =
      (List.range (length - 1)).map fun m : Nat => (first : Int) + 2 + m := by
  have hpos := hrun.pos
  have hleft := (pairwise_ascending d.repeatedBlanks).filter
    fun k : Int => decide (first < k ∧ k ≤ first + length)
  have hright : ((List.range (length - 1)).map fun m : Nat => (first : Int) + 2 + m).Pairwise
      (· < ·) := by
    refine List.pairwise_map.mpr (List.pairwise_lt_range.imp ?_)
    intro a b hab
    omega
  refine hleft.eq_of_mem_iff hright fun k => ?_
  rw [List.mem_filter, mem_ascending, decide_eq_true_eq, List.mem_map]
  constructor
  · rintro ⟨hmem, hfirst, hlast⟩
    have hk := (mem_repeatedBlanks_iff_of_run hrun hcode hfirst hlast).mp hmem
    exact ⟨(k - first - 2).toNat, List.mem_range.mpr (by omega), by omega⟩
  · rintro ⟨m, hm, rfl⟩
    have hm := List.mem_range.mp hm
    have hfirst : (first : Int) < first + 2 + m := by omega
    have hlast : (first : Int) + 2 + m ≤ first + length := by omega
    exact ⟨(mem_repeatedBlanks_iff_of_run hrun hcode hfirst hlast).mpr (by omega), hfirst, hlast⟩

/-! ## Deleting what is reported -/

/-- Only blank lines are deleted. -/
theorem filter_without_repeatedBlanks (d : Document) :
    (without d.lines (ascending d.repeatedBlanks)).filter (!·.allBlank) =
      d.lines.filter (!·.allBlank) := by
  refine filter_withoutFrom fun i line hline hmem => ?_
  obtain ⟨j, hj, -, -, hblank, -⟩ := mem_repeatedBlanks_iff_blank.mp (mem_ascending.mp hmem)
  obtain rfl : i = j := by omega
  obtain ⟨other, hother, hblank⟩ := blank_iff.mp hblank
  obtain rfl : line = other := Option.some.inj (hline.symm.trans hother)
  exact hblank

/-- Two lines are not both blank. -/
def NotBothBlank (a b : Text) : Prop := ¬ (a.allBlank = true ∧ b.allBlank = true)

instance : DecidableRel NotBothBlank := fun a b =>
  inferInstanceAs (Decidable (¬ (a.allBlank = true ∧ b.allBlank = true)))

section Walk

variable {skip : Nat → Bool} {n : Nat} {previous line : Text} {rest : List Text}

theorem lt_of_mem_repeatedBlanksFrom {k : Int}
    (h : k ∈ repeatedBlanksFrom skip n previous.allBlank rest) : (n : Int) < k := by
  obtain ⟨i, -, -, -, -, -, -, -, rfl⟩ := mem_repeatedBlanksFrom_iff.mp h
  omega

/-- Past a blank line under another one, the walk goes on as if from that other one. -/
theorem repeatedBlanksFrom_cons_of_blank (hskip : skip n = false)
    (hprevious : previous.allBlank = true) (hline : line.allBlank = true) :
    repeatedBlanksFrom skip n previous.allBlank (line :: rest) =
      ((n : Int) + 1) :: repeatedBlanksFrom skip (n + 1) previous.allBlank rest := by
  simp [repeatedBlanksFrom, hprevious, hline, hskip]

theorem repeatedBlanksFrom_cons_of_notBothBlank (h : NotBothBlank previous line) :
    repeatedBlanksFrom skip n previous.allBlank (line :: rest) =
      repeatedBlanksFrom skip (n + 1) line.allBlank rest := by
  rw [repeatedBlanksFrom]
  refine if_neg ?_
  intro hreported
  simp only [Bool.and_eq_true] at hreported
  exact h ⟨hreported.1.2, hreported.1.1⟩

end Walk

/-- Where nothing is skipped, the walk after a `previous` line reports what destuttering drops. -/
theorem cons_withoutFrom_eq_destutter {skip : Nat → Bool} (hskip : ∀ i, skip i = false) (n : Nat)
    (previous : Text) (lines : List Text) :
    previous ::
        withoutFrom (n + 1) (repeatedBlanksFrom skip n previous.allBlank lines) lines =
      lines.destutter' NotBothBlank previous := by
  induction lines generalizing n previous with
  | nil => rfl
  | cons line rest ih =>
    by_cases h : NotBothBlank previous line
    · have hlater : ∀ k ∈ repeatedBlanksFrom skip (n + 1) line.allBlank rest,
          ((n + 1 : Nat) : Int) < k := fun k => lt_of_mem_repeatedBlanksFrom
      rw [List.destutter'_cons_pos _ h, ← ih, repeatedBlanksFrom_cons_of_notBothBlank h,
        withoutFrom_cons_of_lt hlater]
    · obtain ⟨hprevious, hline⟩ : previous.allBlank = true ∧ line.allBlank = true := not_not.mp h
      rw [List.destutter'_cons_neg _ h, ← ih,
        repeatedBlanksFrom_cons_of_blank (hskip n) hprevious hline,
        withoutFrom_cons_self (Int.natCast_succ n).symm]

/-- Without code, what is left are the lines destuttered. -/
theorem without_repeatedBlanks_eq_destutter (hcode : d.HasNoCode) :
    without d.lines (ascending d.repeatedBlanks) = d.lines.destutter NotBothBlank := by
  have hmem : ∀ k : Int, ((1 : Nat) : Int) ≤ k →
      (k ∈ ascending d.repeatedBlanks ↔ k ∈ d.repeatedBlanks) := fun k _ => mem_ascending
  rw [without, withoutFrom_congr hmem, repeatedBlanks]
  cases hlines : d.lines with
  | nil => rfl
  | cons line rest =>
    -- the walk begins as if after a line that is not blank
    have hfront : NotBothBlank ['-'] line := fun h => absurd h.1 (by decide)
    have hstep : repeatedBlanksFrom d.inCode 0 false (line :: rest) =
        repeatedBlanksFrom d.inCode 1 line.allBlank rest :=
      repeatedBlanksFrom_cons_of_notBothBlank hfront
    have hlater : ∀ k ∈ repeatedBlanksFrom d.inCode 1 line.allBlank rest, ((1 : Nat) : Int) < k :=
      fun k => lt_of_mem_repeatedBlanksFrom
    rw [List.destutter_cons', ← cons_withoutFrom_eq_destutter hcode.inCode 1, hstep,
      withoutFrom_cons_of_lt hlater]

/-- Nothing is reported where no two lines that follow each other are both blank. -/
theorem repeatedBlanks_eq_nil_of_isChain (h : d.lines.IsChain NotBothBlank) :
    d.repeatedBlanks = [] := by
  rw [List.eq_nil_iff_forall_not_mem]
  intro k hk
  obtain ⟨j, a, b, ha, hb, hablank, hbblank, -, -⟩ := mem_repeatedBlanks_iff.mp hk
  obtain ⟨hj, hlower⟩ := List.getElem?_eq_some_iff.mp hb
  obtain ⟨_, hupper⟩ := List.getElem?_eq_some_iff.mp ha
  refine List.isChain_iff_getElem.mp h j hj ⟨?_, ?_⟩
  · rw [hupper]
    exact hablank
  · rw [hlower]
    exact hbblank

end Document

/-! ## The rule -/

/-- **Runs of blank lines.** The rule about repeated blank lines always answers, with exactly the blank
lines right below another one that no code covers: of a run outside of code, with all lines but the
first.  Deleting what it reports leaves all lines that are not blank, and in a document without code
nothing to report. -/
theorem repeated_blanks_reported (d : Document) (fields : Fields) :
    ∃ reported, Rule.multipleBlanks.evaluate d fields = .ok reported ∧
      reported.Pairwise (· < ·) ∧
      (∀ k, k ∈ reported ↔ ∃ i : Nat, k = i + 1 ∧ 1 ≤ i ∧ Blank d.lines (i - 1) ∧ Blank d.lines i ∧
        ∀ t ∈ d.tokens, t.kind = .codeBlock ∨ t.kind = .fence →
          ¬ (t.span.1 ≤ i ∧ (i : Int) < t.span.2)) ∧
      (∀ first length : Nat, BlankRun d.lines first length →
        (∀ i, first ≤ i → i < first + length → ¬ d.Covered i) →
        reported.filter (fun k => (first : Int) < k ∧ k ≤ first + length) =
          (List.range (length - 1)).map fun m : Nat => (first : Int) + 2 + m) ∧
      (without d.lines reported).filter (!·.allBlank) = d.lines.filter (!·.allBlank) ∧
      (d.HasNoCode → ∀ e : Document, e.lines = without d.lines reported →
        Rule.multipleBlanks.evaluate e fields = .ok []) := by
  refine ⟨_, Rule.evaluate_always _ _ _, pairwise_ascending _, fun k => ?_, ?_, ?_, ?_⟩
  · rw [mem_ascending, Document.mem_repeatedBlanks_iff_blank]
    simp only [Document.Covered, not_exists, not_and]
  · intro first length hrun hcode
    exact Document.filter_repeatedBlanks_of_run hrun hcode
  · exact d.filter_without_repeatedBlanks
  · intro hcode e he
    rw [Document.without_repeatedBlanks_eq_destutter hcode] at he
    refine (Rule.evaluate_always_eq_nil_iff _ _ _).mpr ?_
    refine Document.repeatedBlanks_eq_nil_of_isChain ?_
    rw [he]
    exact List.isChain_destutter _ d.lines

/-- A run in code that goes on below it, a run outside, and the same lines without the code. -/
theorem repeated_blanks_reported_below_code :
    let d : Document :=
      { lines := ["a", "", " ", "\t", "b", "", "", "", "c"].map String.toList
        tokens := [{ kind := .fence, line := 2, range := some (1, 3) }] }
    let plain : Document := { lines := d.lines }
    let left : Document := { lines := ["a", "", "b", "", "c"].map String.toList }
    BlankRun d.lines 5 3 ∧ (∀ i, 5 ≤ i → i < 5 + 3 → ¬ d.Covered i) ∧ plain.HasNoCode ∧
      Rule.multipleBlanks.evaluate d [] = .ok [4, 7, 8] ∧
      ([4, 7, 8] : List Int).filter (fun k => 5 < k ∧ k ≤ 8) = [7, 8] ∧
      left.lines = without plain.lines [3, 4, 7, 8] ∧
      Rule.multipleBlanks.evaluate left [] = .ok [] := by
  intro d plain left
  have hrun : BlankRun d.lines 5 3 := by
    refine ⟨by decide, fun i hfirst hlast => ?_, fun i hi => ?_, ?_⟩
    · obtain rfl | rfl | rfl : i = 5 ∨ i = 6 ∨ i = 7 := by omega
      all_goals exact blank_iff.mpr ⟨_, rfl, rfl⟩
    · obtain rfl : i = 4 := by omega
      simp [blank_iff, d, Text.allBlank, isBlank, blankRanges, CodeRanges.covers]
    · simp [blank_iff, d, Text.allBlank, isBlank, blankRanges, CodeRanges.covers]
  have hcode : ∀ i, 5 ≤ i → i < 5 + 3 → ¬ d.Covered i := by
    rintro i hfirst - ⟨t, ht, -, -, hend⟩
    obtain rfl := List.mem_singleton.mp ht
    have hend : (i : Int) < 3 := hend
    omega
  have hplain : plain.HasNoCode := by simp [Document.HasNoCode, plain]
  have hanswer : Rule.multipleBlanks.evaluate d [] = .ok [4, 7, 8] := by rfl
  have hall : Rule.multipleBlanks.evaluate plain [] = .ok [3, 4, 7, 8] := by rfl
  have hleft : left.lines = without plain.lines [3, 4, 7, 8] := by rfl
  obtain ⟨reported, hreported, -, -, hruns, -⟩ := repeated_blanks_reported d []
  obtain rfl : reported = [4, 7, 8] := Except.ok.inj (hreported.symm.trans hanswer)
  obtain ⟨found, hfound, -, -, -, -, hmended⟩ := repeated_blanks_reported plain []
  obtain rfl : found = [3, 4, 7, 8] := Except.ok.inj (hfound.symm.trans hall)
  exact ⟨hrun, hcode, hplain, hanswer, hruns 5 3 hrun hcode, hleft, hmended hplain left hleft⟩

end MarkdownCheck
