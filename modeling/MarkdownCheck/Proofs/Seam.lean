import MarkdownCheck.Check.ListBlock
import Mathlib.Data.List.Induction

/-!
# Seams: where two lines meet outside of code

Both checks of blank lines around a block walk through the lines and remember what came before, each
in its own way. Here the two walks get one description, without any memory:

* `codeAt lines i`: place `i` lies in code, that is, an odd number of fences come before it;
* `Seam lines j a b`: lines `a` and `b` stand at places `j` and `j + 1`, the second of them outside
  of code;
* `mem_crowdedFences_iff`, `mem_crowdedLists_iff`: a line is reported just in case it is on the wrong
  side of a seam, where `FenceBlame` and `ListBlame` say which side that is.

What is reported thus hangs on pairs of neighbours alone, and on no line inside of code.
-/

namespace MarkdownCheck

/-! ## Code by counting fences -/

/-- Whether these lines leave a block of code open. -/
def leavesCodeOpen (before : List Text) : Bool := before.countP Text.isFence % 2 = 1

/-- Whether the place `i` lies in code, or holds the fence that closes it. -/
def codeAt (lines : List Text) (i : Nat) : Bool := leavesCodeOpen (lines.take i)

theorem leavesCodeOpen_append (a b : List Text) :
    leavesCodeOpen (a ++ b) = (leavesCodeOpen a ^^ leavesCodeOpen b) := by
  unfold leavesCodeOpen
  rw [List.countP_append]
  by_cases ha : a.countP Text.isFence % 2 = 1 <;> by_cases hb : b.countP Text.isFence % 2 = 1 <;>
    simp [ha, hb] <;> omega

theorem leavesCodeOpen_singleton (line : Text) : leavesCodeOpen [line] = line.isFence := by
  cases h : line.isFence <;> simp [leavesCodeOpen, h]

@[simp] theorem codeAt_zero (lines : List Text) : codeAt lines 0 = false := rfl

theorem codeAt_succ {lines : List Text} {i : Nat} {line : Text} (h : lines[i]? = some line) :
    codeAt lines (i + 1) = (codeAt lines i ^^ line.isFence) := by
  unfold codeAt
  rw [List.take_add_one, h, Option.toList_some, leavesCodeOpen_append, leavesCodeOpen_singleton]

theorem codeAt_succ_of_none {lines : List Text} {i : Nat} (h : lines[i]? = none) :
    codeAt lines (i + 1) = codeAt lines i := by
  unfold codeAt
  rw [List.take_add_one, h, Option.toList_none, List.append_nil]

theorem codeAt_cons_succ (line : Text) (rest : List Text) (i : Nat) :
    codeAt (line :: rest) (i + 1) = (line.isFence ^^ codeAt rest i) := by
  unfold codeAt
  rw [List.take_succ_cons, ← List.singleton_append, leavesCodeOpen_append,
    leavesCodeOpen_singleton]

/-! ## Lines and blanks -/

@[simp] theorem isFence_nil : Text.isFence [] = false := by decide

theorem ne_nil_of_isFence {line : Text} (h : line.isFence = true) : line ≠ [] := by
  rintro rfl
  simp at h

theorem ne_nil_of_isMarker {line : Text} (h : line.isMarker = true) : line ≠ [] := by
  rintro rfl
  exact absurd h (by decide)

theorem ne_nil_of_isOpen {line : Text} (h : line.isOpen = true) : line ≠ [] := by
  rintro rfl
  exact absurd h (by decide)

theorem ne_nil_of_not_allBlank {line : Text} (h : line.allBlank = false) : line ≠ [] := by
  rintro rfl
  exact absurd h (by decide)

/-- A line that belongs to a list is no fence: the two begin with different characters. -/
theorem isFence_of_isMarker {line : Text} (h : line.isMarker = true) : line.isFence = false := by
  unfold Text.isMarker at h
  unfold Text.isFence
  cases ht : line.trim with
  | nil => simp [ht, Text.startsMarker] at h
  | cons c rest =>
    rw [ht] at h
    have hmark : ¬ (c = '\x60' ∨ c = '~') := by
      rintro (rfl | rfl)
      · simp [Text.startsMarker, show isDecimalDigit '\x60' = false by decide] at h
      · simp [Text.startsMarker, show isDecimalDigit '~' = false by decide] at h
    rw [not_or] at hmark
    simp [fenceMarks, List.replicate, List.isPrefixOf, Ne.symm hmark.1, Ne.symm hmark.2]

/-! ## The walk over the fences -/

theorem mem_crowdedFencesFrom_cons {n k : Int} {inCode crowded : Bool} {line : Text}
    {rest : List Text} :
    k ∈ Document.crowdedFencesFrom n inCode crowded (line :: rest) ↔
      (line.isFence = true ∧ (if inCode then rest[0]?.any (!·.allBlank) else crowded) = true ∧
          k = n) ∨
        k ∈ Document.crowdedFencesFrom (n + 1) (inCode ^^ line.isFence) (!line.allBlank) rest := by
  rw [← List.head?_eq_getElem?]
  cases hf : line.isFence with
  | false => simp [Document.crowdedFencesFrom, hf]
  | true =>
    simp only [Document.crowdedFencesFrom, hf, if_true, Bool.xor_true, true_and]
    by_cases hbad : (if inCode = true then rest.head?.any (!·.allBlank) else crowded) = true
    · rw [if_pos hbad, List.mem_cons]
      simp [hbad]
    · rw [if_neg hbad]
      simp [hbad]

/-- A fence is reported just in case its outer neighbour is not blank. The `previous` line is the one
before the walk begins. -/
theorem mem_crowdedFencesFrom_iff {lines : List Text} {n k : Int} (inCode : Bool)
    (previous : Text) :
    k ∈ Document.crowdedFencesFrom n inCode (!previous.allBlank) lines ↔
      ∃ (i : Nat) (line : Text), lines[i]? = some line ∧ line.isFence = true ∧
        (if inCode ^^ codeAt lines i then lines[i + 1]? else (previous :: lines)[i]?).any
          (!·.allBlank) = true ∧ k = n + i := by
  induction lines generalizing n inCode previous with
  | nil => simp [Document.crowdedFencesFrom]
  | cons line rest ih =>
    rw [mem_crowdedFencesFrom_cons, ih]
    constructor
    · rintro (⟨hf, hbad, rfl⟩ | ⟨i, line', hline, hf, hbad, rfl⟩)
      · refine ⟨0, line, rfl, hf, ?_, by simp⟩
        cases inCode with
        | false => simpa using hbad
        | true => exact hbad
      · refine ⟨i + 1, line', hline, hf, ?_, by push_cast; omega⟩
        rw [codeAt_cons_succ, ← Bool.xor_assoc]
        exact hbad
    · rintro ⟨i, line', hline, hf, hbad, rfl⟩
      cases i with
      | zero =>
        obtain rfl : line = line' := by simpa using hline
        refine .inl ⟨hf, ?_, by simp⟩
        cases inCode with
        | false => simpa using hbad
        | true => exact hbad
      | succ i =>
        refine .inr ⟨i, line', hline, hf, ?_, by push_cast; omega⟩
        rw [codeAt_cons_succ, ← Bool.xor_assoc] at hbad
        exact hbad

/-! ## The walk over the lists -/

namespace ListScan

/-- What the walk remembers after these lines. -/
def after (lines : List Text) : ListScan := lines.foldl next {}

@[simp] theorem after_nil : after [] = {} := rfl

theorem after_concat (lines : List Text) (line : Text) :
    after (lines ++ [line]) = (after lines).next line := by
  simp [after, List.foldl_append]

theorem after_inCode (lines : List Text) : (after lines).inCode = leavesCodeOpen lines := by
  induction lines using List.reverseRecOn with
  | nil => rfl
  | append_singleton lines line ih =>
    rw [after_concat, leavesCodeOpen_append, leavesCodeOpen_singleton, ← ih]
    cases h : line.isFence <;> simp [next, h]

/-- Inside of code there is no list. -/
theorem after_inList_of_inCode {lines : List Text} (h : (after lines).inCode = true) :
    (after lines).inList = false := by
  induction lines using List.reverseRecOn with
  | nil => rfl
  | append_singleton lines line ih =>
    rw [after_concat] at h ⊢
    cases hf : line.isFence with
    | true => simp [next, hf]
    | false =>
      have hcode : (after lines).inCode = true := by simpa [next, hf] using h
      simp [next, hcode, ih hcode]

/-- A list is open after a line just in case that is a marker outside of code. -/
theorem after_concat_inList (lines : List Text) (line : Text) :
    (after (lines ++ [line])).inList = (!leavesCodeOpen lines && line.isMarker) := by
  rw [after_concat, ← after_inCode]
  cases hcode : (after lines).inCode with
  | true => simp [next, hcode, after_inList_of_inCode hcode]
  | false =>
    cases hm : line.isMarker with
    | true => simp [next, hcode, hm, isFence_of_isMarker hm]
    | false => simp [next, hcode, hm]

theorem mem_touching_iff {s : ListScan} {n k : Int} {line : Text} :
    k ∈ s.touching n line ↔ s.inCode = false ∧
      (line.isMarker = true ∧ s.inList = false ∧ s.previous.isOpen = true ∧ k = n ∨
        line.isMarker = false ∧ s.inList = true ∧ line.isOpen = true ∧ k = n - 1) := by
  unfold touching
  cases s.inCode <;> cases line.isMarker <;> cases s.inList <;> simp

theorem mem_crowded_iff {s : ListScan} {n k : Int} {lines : List Text} :
    k ∈ s.crowded n lines ↔
      ∃ (i : Nat) (line : Text), lines[i]? = some line ∧
        k ∈ ((lines.take i).foldl next s).touching (n + i) line := by
  induction lines generalizing s n with
  | nil => simp [crowded]
  | cons line rest ih =>
    rw [crowded, List.mem_append, ih]
    constructor
    · rintro (h | ⟨i, line', hline, h⟩)
      · exact ⟨0, line, rfl, by simpa using h⟩
      · refine ⟨i + 1, line', hline, ?_⟩
        rw [List.take_succ_cons, List.foldl_cons, Int.natCast_add, Int.add_comm i, ← Int.add_assoc]
        exact h
    · rintro ⟨i, line', hline, h⟩
      cases i with
      | zero =>
        obtain rfl : line = line' := by simpa using hline
        exact .inl (by simpa using h)
      | succ i =>
        rw [List.take_succ_cons, List.foldl_cons, Int.natCast_add, Int.add_comm i,
          ← Int.add_assoc] at h
        exact .inr ⟨i, line', hline, h⟩

theorem after_take_succ {lines : List Text} {j : Nat} {prev : Text} (h : lines[j]? = some prev) :
    (after (lines.take (j + 1))).inCode = codeAt lines (j + 1) ∧
      (after (lines.take (j + 1))).inList = (!codeAt lines j && prev.isMarker) ∧
      (after (lines.take (j + 1))).previous = prev := by
  refine ⟨after_inCode _, ?_, ?_⟩
  · rw [List.take_add_one, h]
    exact after_concat_inList _ _
  · rw [List.take_add_one, h]
    simp [after_concat, next]

end ListScan

/-! ## Seams -/

/-- Two lines that meet, the second of them outside of code. -/
structure Seam (lines : List Text) (j : Nat) (a b : Text) : Prop where
  upper : lines[j]? = some a
  lower : lines[j + 1]? = some b
  outside : codeAt lines (j + 1) = false

inductive Side where
  | upper | lower
deriving DecidableEq, Repr

/-- How far below place `j` the line on that side of the seam stands. -/
def Side.offset : Side → Nat
  | upper => 0
  | lower => 1

/-- Whether a fence is on that side of a seam and a line that is not blank on the other. -/
def FenceBlame (a b : Text) : Side → Prop
  | .upper => a.isFence = true ∧ b.allBlank = false
  | .lower => b.isFence = true ∧ a.allBlank = false

/-- Whether a list is on that side of a seam and an open line that is no part of it on the other. -/
def ListBlame (a b : Text) : Side → Prop
  | .upper => a.isMarker = true ∧ b.isMarker = false ∧ b.isOpen = true
  | .lower => b.isMarker = true ∧ a.isMarker = false ∧ a.isOpen = true

/-- The upper line of a seam is in code just in case it closes that code. -/
theorem Seam.codeAt_eq {lines : List Text} {j : Nat} {a b : Text} (h : Seam lines j a b) :
    codeAt lines j = a.isFence := by
  have hout := h.outside
  rw [codeAt_succ h.upper] at hout
  simpa using hout

/-- **Fences by seams.** A fence is reported just in case a seam puts the blame on it. -/
theorem mem_crowdedFences_iff {d : Document} {k : Int} :
    k ∈ d.crowdedFences ↔ ∃ j a b side, Seam d.lines j a b ∧ FenceBlame a b side ∧
      k = j + side.offset + 1 := by
  refine Iff.trans (mem_crowdedFencesFrom_iff false []) ?_
  simp only [Bool.false_xor, Option.any_eq_true, Bool.not_eq_true']
  refine ⟨?_, ?_⟩
  · rintro ⟨i, line, hline, hf, ⟨other, hother, hblank⟩, rfl⟩
    cases hc : codeAt d.lines i with
    | true =>
      -- a closing fence looks at the line below it
      rw [hc, if_pos rfl] at hother
      refine ⟨i, line, other, .upper, ⟨hline, hother, ?_⟩, ⟨hf, hblank⟩, ?_⟩
      · rw [codeAt_succ hline, hc, hf]
        rfl
      · simp only [Side.offset]
        omega
    | false =>
      -- an opening one looks at the line above it
      rw [hc, if_neg Bool.false_ne_true] at hother
      cases i with
      | zero =>
        obtain rfl : [] = other := by simpa using hother
        simp [Text.allBlank] at hblank
      | succ j =>
        refine ⟨j, other, line, .lower, ⟨hother, hline, hc⟩, ⟨hf, hblank⟩, ?_⟩
        simp only [Side.offset]
        omega
  · rintro ⟨j, a, b, side, hs, hblame, rfl⟩
    cases side with
    | upper =>
      obtain ⟨hf, hblank⟩ := hblame
      refine ⟨j, a, hs.upper, hf, ⟨b, ?_, hblank⟩, by simp only [Side.offset]; omega⟩
      rw [hs.codeAt_eq, if_pos hf]
      exact hs.lower
    | lower =>
      obtain ⟨hf, hblank⟩ := hblame
      refine ⟨j + 1, b, hs.lower, hf, ⟨a, ?_, hblank⟩, by simp only [Side.offset]; omega⟩
      rw [hs.outside, if_neg Bool.false_ne_true]
      exact hs.upper

/-- At a seam, what the walk remembers of a list is whether the upper line is a marker. -/
theorem Seam.mem_touching_iff {lines : List Text} {j : Nat} {a b : Text} (h : Seam lines j a b)
    {n k : Int} :
    k ∈ (ListScan.after (lines.take (j + 1))).touching n b ↔
      b.isMarker = true ∧ a.isMarker = false ∧ a.isOpen = true ∧ k = n ∨
        b.isMarker = false ∧ a.isMarker = true ∧ b.isOpen = true ∧ k = n - 1 := by
  obtain ⟨hcode, hlist, hprevious⟩ := ListScan.after_take_succ h.upper
  have hmarker : (!a.isFence && a.isMarker) = a.isMarker := by
    cases hm : a.isMarker with
    | false => simp
    | true => simp [isFence_of_isMarker hm]
  rw [ListScan.mem_touching_iff, hcode, hlist, hprevious, h.codeAt_eq, hmarker]
  exact and_iff_right h.outside

/-- **Lists by seams.** A line of a list is reported just in case a seam puts the blame on it. -/
theorem mem_crowdedLists_iff {d : Document} {k : Int} :
    k ∈ d.crowdedLists ↔ ∃ j a b side, Seam d.lines j a b ∧ ListBlame a b side ∧
      k = j + side.offset + 1 := by
  rw [Document.crowdedLists, ListScan.mem_crowded_iff]
  refine ⟨?_, ?_⟩
  · rintro ⟨i, line, hline, htouch⟩
    rw [← ListScan.after] at htouch
    cases i with
    | zero => simp [ListScan.mem_touching_iff, Text.isOpen] at htouch
    | succ j =>
      have hj : j < d.lines.length := by
        have := (List.getElem?_eq_some_iff.mp hline).1
        omega
      obtain ⟨hcode, -, -⟩ := ListScan.after_take_succ (List.getElem?_eq_getElem hj)
      have hout := (ListScan.mem_touching_iff.mp htouch).1
      have hs : Seam d.lines j d.lines[j] line :=
        ⟨List.getElem?_eq_getElem hj, hline, hcode.symm.trans hout⟩
      rcases hs.mem_touching_iff.mp htouch with ⟨hm, hm', hopen, rfl⟩ | ⟨hm, hm', hopen, rfl⟩
      · exact ⟨j, _, line, .lower, hs, ⟨hm, hm', hopen⟩, by simp only [Side.offset]; omega⟩
      · exact ⟨j, _, line, .upper, hs, ⟨hm', hm, hopen⟩, by simp only [Side.offset]; omega⟩
  · rintro ⟨j, a, b, side, hs, hblame, rfl⟩
    refine ⟨j + 1, b, hs.lower, hs.mem_touching_iff.mpr ?_⟩
    cases side with
    | upper =>
      obtain ⟨hm, hm', hopen⟩ := hblame
      exact .inr ⟨hm', hm, hopen, by simp only [Side.offset]; omega⟩
    | lower =>
      obtain ⟨hm, hm', hopen⟩ := hblame
      exact .inl ⟨hm, hm', hopen, by simp only [Side.offset]; omega⟩

/-! ## Checks that read seams -/

/-- A check that reports the sides of seams that `blame` picks, none of them at an empty line. -/
structure ReadsSeams (check : Document → List Int) (blame : Text → Text → Side → Prop) : Prop where
  mem_iff : ∀ {d : Document} {k : Int}, k ∈ check d ↔ ∃ j a b side, Seam d.lines j a b ∧
    blame a b side ∧ k = j + side.offset + 1
  ne_nil : ∀ {a b : Text} {side : Side}, blame a b side → a ≠ [] ∧ b ≠ []

theorem ReadsSeams.bounds {check : Document → List Int} {blame : Text → Text → Side → Prop}
    (hr : ReadsSeams check blame) {d : Document} {k : Int} (h : k ∈ check d) :
    1 ≤ k ∧ k ≤ d.lines.length := by
  obtain ⟨j, a, b, side, hs, -, rfl⟩ := hr.mem_iff.mp h
  have hj : j + 1 < d.lines.length := (List.getElem?_eq_some_iff.mp hs.lower).1
  cases side <;> simp only [Side.offset] <;> omega

theorem crowdedFences_readsSeams : ReadsSeams Document.crowdedFences FenceBlame where
  mem_iff := mem_crowdedFences_iff
  ne_nil {a b side} h := by
    cases side with
    | upper => exact ⟨ne_nil_of_isFence h.1, ne_nil_of_not_allBlank h.2⟩
    | lower => exact ⟨ne_nil_of_not_allBlank h.2, ne_nil_of_isFence h.1⟩

theorem crowdedLists_readsSeams : ReadsSeams Document.crowdedLists ListBlame where
  mem_iff := mem_crowdedLists_iff
  ne_nil {a b side} h := by
    cases side with
    | upper => exact ⟨ne_nil_of_isMarker h.1, ne_nil_of_isOpen h.2.2⟩
    | lower => exact ⟨ne_nil_of_isOpen h.2.2, ne_nil_of_isMarker h.1⟩

end MarkdownCheck
