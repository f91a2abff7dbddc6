import MarkdownCheck.Proofs.Evaluation
import MarkdownCheck.Proofs.Seam
import Mathlib.Order.Monotone.Basic

/-!
# Empty lines mend and never harm

The checks of blank lines around fences and around lists ask for blank lines, so putting some in can
only help.  `spaced gap lines` has `gap i` empty lines in front of the line at place `i`, which moves
that line to place `placed gap i`.

* `Seam.of_spaced`: a seam between two lines that are not empty was there before, and nothing was put
  into it. Code lies where it did (`codeAt_spaced`), as no empty line is a fence.
* `insertIdx_eq_spaced`, `surround_eq_spaced`: one empty line put in anywhere, and empty lines on
  either side of some lines, are both of this form.
* `blank_lines_mend`: the former makes no line reported that was not reported before, and the latter,
  done to the reported lines, leaves nothing to report.
-/

namespace MarkdownCheck

/-! ## Putting in empty lines -/

/-- The lines with `gap i` empty ones in front of place `i`, the end included. -/
def spaced (gap : Nat → Nat) : List Text → List Text
  | [] => List.replicate (gap 0) []
  | line :: rest => List.replicate (gap 0) [] ++ line :: spaced (fun i => gap (i + 1)) rest

/-- Where the line at place `i` goes. -/
def placed (gap : Nat → Nat) : Nat → Nat
  | 0 => gap 0
  | i + 1 => placed gap i + 1 + gap (i + 1)

/-- The lines with an empty one before and after each of those whose numbers are `marked`. -/
def surround (marked : List Int) (lines : List Text) : List Text :=
  (lines.zipIdx 1).flatMap fun p => if (p.2 : Int) ∈ marked then [[], p.1, []] else [p.1]

section Spaced

variable (gap : Nat → Nat)

theorem placed_succ (i : Nat) : placed gap (i + 1) = placed gap i + 1 + gap (i + 1) := rfl

theorem placed_succ_left (i : Nat) :
    placed gap (i + 1) = gap 0 + 1 + placed (fun j => gap (j + 1)) i := by
  induction i with
  | zero => rfl
  | succ i ih =>
    rw [placed_succ, ih, placed_succ]
    omega

theorem strictMono_placed : StrictMono (placed gap) :=
  strictMono_nat_of_lt_succ fun i => by
    rw [placed_succ]
    omega

theorem getElem?_spaced (lines : List Text) (i : Nat) :
    (spaced gap lines)[placed gap i]? = lines[i]? := by
  induction lines generalizing gap i with
  | nil =>
    have hi : gap 0 ≤ placed gap i := (strictMono_placed gap).monotone (Nat.zero_le i)
    rw [spaced, List.getElem?_eq_none (by simpa using hi), List.getElem?_nil]
  | cons line rest ih =>
    cases i with
    | zero => simp [spaced, placed]
    | succ i =>
      have hsub : gap 0 + 1 + placed (fun j => gap (j + 1)) i - gap 0 =
          placed (fun j => gap (j + 1)) i + 1 := by omega
      rw [spaced, placed_succ_left, List.getElem?_append_right (by rw [List.length_replicate]; omega),
        List.length_replicate, hsub, List.getElem?_cons_succ, List.getElem?_cons_succ, ih]

theorem codeAt_replicate_append (n : Nat) (lines : List Text) (i : Nat) :
    codeAt (List.replicate n [] ++ lines) (n + i) = codeAt lines i := by
  have hlen : n + i = (List.replicate n ([] : Text)).length + i := by simp
  have hblank : leavesCodeOpen (List.replicate n []) = false := by
    simp [leavesCodeOpen, List.countP_replicate]
  unfold codeAt
  rw [hlen, List.take_length_add_append, leavesCodeOpen_append, hblank, Bool.false_xor]

/-- Empty lines leave code where it was. -/
theorem codeAt_spaced (lines : List Text) (i : Nat) :
    codeAt (spaced gap lines) (placed gap i) = codeAt lines i := by
  induction lines generalizing gap i with
  | nil =>
    have hi : gap 0 ≤ placed gap i := (strictMono_placed gap).monotone (Nat.zero_le i)
    obtain ⟨j, hj⟩ := Nat.exists_eq_add_of_le hi
    rw [spaced, hj, ← List.append_nil (List.replicate _ _), codeAt_replicate_append]
    simp [codeAt]
  | cons line rest ih =>
    cases i with
    | zero => exact codeAt_replicate_append (gap 0) _ 0
    | succ i =>
      rw [spaced, placed_succ_left, Nat.add_assoc, codeAt_replicate_append, Nat.add_comm 1,
        codeAt_cons_succ, codeAt_cons_succ, ih]

/-- A line that is not empty has not been put in. -/
theorem exists_placed {lines : List Text} {m : Nat} {line : Text}
    (h : (spaced gap lines)[m]? = some line) (hne : line ≠ []) : ∃ i, m = placed gap i := by
  induction lines generalizing gap m with
  | nil => exact absurd (List.eq_of_mem_replicate (List.mem_of_getElem? h)) hne
  | cons first rest ih =>
    rw [spaced] at h
    rcases Nat.lt_trichotomy m (gap 0) with hlt | rfl | hgt
    · rw [List.getElem?_append_left (by simpa using hlt)] at h
      exact absurd (List.eq_of_mem_replicate (List.mem_of_getElem? h)) hne
    · exact ⟨0, rfl⟩
    · obtain ⟨j, rfl⟩ := Nat.exists_eq_add_of_lt hgt
      rw [List.getElem?_append_right (by rw [List.length_replicate]; omega), List.length_replicate,
        show gap 0 + j + 1 - gap 0 = j + 1 by omega, List.getElem?_cons_succ] at h
      obtain ⟨i, hi⟩ := ih _ h
      exact ⟨i + 1, by rw [placed_succ_left, hi]; omega⟩

end Spaced

/-! ## Seams after putting in empty lines -/

/-- A seam between lines that are not empty was a seam before, with nothing put into it. -/
theorem Seam.of_spaced {gap : Nat → Nat} {lines : List Text} {m : Nat} {a b : Text}
    (h : Seam (spaced gap lines) m a b) (ha : a ≠ []) (hb : b ≠ []) :
    ∃ j, m = placed gap j ∧ gap (j + 1) = 0 ∧ Seam lines j a b := by
  obtain ⟨j, rfl⟩ := exists_placed gap h.upper ha
  obtain ⟨j', hj'⟩ := exists_placed gap h.lower hb
  -- nothing lies between the two lines, so the second one comes right after the first
  have hlt : j < j' := (strictMono_placed gap).lt_iff_lt.mp (by omega)
  have hle : placed gap (j + 1) ≤ placed gap j' := (strictMono_placed gap).monotone hlt
  rw [placed_succ] at hle
  have hgap : gap (j + 1) = 0 := by omega
  have hnext : placed gap j + 1 = placed gap (j + 1) := by rw [placed_succ, hgap]
  refine ⟨j, rfl, hgap, ?_, ?_, ?_⟩
  · rw [← getElem?_spaced gap]
    exact h.upper
  · rw [← getElem?_spaced gap, ← hnext]
    exact h.lower
  · rw [← codeAt_spaced gap, ← hnext]
    exact h.outside

/-- A line that is reported after putting in empty lines was reported before, and nothing was put in
where it meets the other line. -/
theorem ReadsSeams.of_spaced {check : Document → List Int}
    {blame : Text → Text → Side → Prop} (hr : ReadsSeams check blame) {d e : Document}
    {gap : Nat → Nat} (he : e.lines = spaced gap d.lines) {k : Int} (hk : k ∈ check e) :
    ∃ (j : Nat) (side : Side), j + 1 < d.lines.length ∧ gap (j + 1) = 0 ∧
      ((j + side.offset : Nat) : Int) + 1 ∈ check d ∧
      k = (placed gap (j + side.offset) : Nat) + 1 := by
  obtain ⟨m, a, b, side, hs, hblame, rfl⟩ := hr.mem_iff.mp hk
  rw [he] at hs
  obtain ⟨ha, hb⟩ := hr.ne_nil hblame
  obtain ⟨j, rfl, hgap, hs⟩ := hs.of_spaced ha hb
  refine ⟨j, side, (List.getElem?_eq_some_iff.mp hs.lower).1, hgap, ?_, ?_⟩
  · exact hr.mem_iff.mpr ⟨j, a, b, side, hs, hblame, by push_cast; rfl⟩
  · cases side with
    | upper => simp [Side.offset]
    | lower => simp [Side.offset, placed_succ, hgap]

/-! ## One empty line -/

theorem spaced_zero (lines : List Text) : spaced (fun _ => 0) lines = lines := by
  induction lines with
  | nil => rfl
  | cons line rest ih => simp [spaced, ih]

theorem insertIdx_eq_spaced (p : Nat) (lines : List Text) :
    lines.insertIdx p [] = spaced (fun i => if i = p then 1 else 0) lines := by
  induction lines generalizing p with
  | nil => cases p <;> simp [spaced]
  | cons line rest ih =>
    cases p with
    | zero => simp [spaced, spaced_zero]
    | succ p => simp [spaced, ih]

theorem placed_single (p i : Nat) :
    placed (fun j => if j = p then 1 else 0) i = if i < p then i else i + 1 := by
  induction i with
  | zero => cases p <;> simp [placed]
  | succ i ih =>
    rw [placed_succ, ih]
    split_ifs <;> omega

/-! ## Empty lines on either side -/

/-- The gap `n` in front of the first line, then the others. -/
def consGap (n : Nat) (gap : Nat → Nat) : Nat → Nat
  | 0 => n
  | i + 1 => gap i

theorem spaced_consGap (n : Nat) (gap : Nat → Nat) (line : Text) (rest : List Text) :
    spaced (consGap n gap) (line :: rest) = List.replicate n [] ++ line :: spaced gap rest := rfl

theorem spaced_update_zero (gap : Nat → Nat) (lines : List Text) :
    spaced (Function.update gap 0 (gap 0 + 1)) lines = [] :: spaced gap lines := by
  cases lines with
  | nil => simp [spaced, List.replicate_succ]
  | cons line rest => simp [spaced, List.replicate_succ]

/-- The surrounded lines have something put in before and after each marked one. -/
theorem surround_eq_spaced (marked : List Int) (lines : List Text) (n : Nat) :
    ∃ gap, (lines.zipIdx n).flatMap (fun p =>
        if (p.2 : Int) ∈ marked then [[], p.1, []] else [p.1]) = spaced gap lines ∧
      ∀ i < lines.length, ((n + i : Nat) : Int) ∈ marked → gap i ≠ 0 ∧ gap (i + 1) ≠ 0 := by
  induction lines generalizing n with
  | nil => exact ⟨fun _ => 0, rfl, by simp⟩
  | cons line rest ih =>
    obtain ⟨gap, hgap, hmarked⟩ := ih (n + 1)
    rw [List.zipIdx_cons, List.flatMap_cons, hgap]
    by_cases hn : (n : Int) ∈ marked
    · refine ⟨consGap 1 (Function.update gap 0 (gap 0 + 1)), ?_, fun i hi hm => ?_⟩
      · rw [spaced_consGap, spaced_update_zero, if_pos hn]
        rfl
      · cases i with
        | zero => simp [consGap]
        | succ i =>
          obtain ⟨h1, h2⟩ := hmarked i (by simpa using hi) (by rwa [Nat.add_right_comm])
          cases i with
          | zero => simpa [consGap] using h2
          | succ i => exact ⟨h1, h2⟩
    · refine ⟨consGap 0 gap, ?_, fun i hi hm => ?_⟩
      · rw [spaced_consGap, if_neg hn]
        rfl
      · cases i with
        | zero => exact absurd hm hn
        | succ i => exact hmarked i (by simpa using hi) (by rwa [Nat.add_right_comm])

/-! ## Mending -/

section Mending

variable {check : Document → List Int} {blame : Text → Text → Side → Prop}
  (hr : ReadsSeams check blame) {d e : Document}
include hr

theorem ReadsSeams.of_insertIdx {p : Nat} (he : e.lines = d.lines.insertIdx p []) {k : Int}
    (hk : k ∈ check e) : ∃ j ∈ check d, k = if j ≤ p then j else j + 1 := by
  rw [insertIdx_eq_spaced] at he
  obtain ⟨j, side, -, -, hj, rfl⟩ := hr.of_spaced he hk
  refine ⟨_, hj, ?_⟩
  rw [placed_single]
  split_ifs <;> omega

theorem ReadsSeams.surround_eq_nil {marked : List Int} (hm : ∀ k, k ∈ marked ↔ k ∈ check d)
    (he : e.lines = surround marked d.lines) : check e = [] := by
  obtain ⟨gap, hgap, hmarked⟩ := surround_eq_spaced marked d.lines 1
  rw [List.eq_nil_iff_forall_not_mem]
  intro k hk
  obtain ⟨j, side, hlt, hzero, hj, -⟩ := hr.of_spaced (he.trans hgap) hk
  rw [← hm, Int.add_comm] at hj
  cases side with
  | upper => exact (hmarked j (by omega) (by simpa [Side.offset] using hj)).2 hzero
  | lower => exact (hmarked (j + 1) hlt (by simpa [Side.offset] using hj)).1 hzero

end Mending

/-- What empty lines do to the answers of a rule: one of them put in anywhere makes no line reported
that was not reported before, counted anew after it, and some on either side of every reported line
leave nothing to report. -/
structure Rule.MendedByBlankLines (r : Rule) (d : Document) (tokens : List Token)
    (fields : Fields) (old : List Int) : Prop where
  evaluate_eq : r.evaluate d fields = .ok old
  harmless : ∀ p : Nat, ∃ new, r.evaluate ⟨d.lines.insertIdx p [], tokens⟩ fields = .ok new ∧
    ∀ k ∈ new, ∃ j ∈ old, k = if j ≤ p then j else j + 1
  mended : r.evaluate ⟨surround old d.lines, tokens⟩ fields = .ok []

theorem ReadsSeams.mendedByBlankLines {check : Document → List Int}
    {blame : Text → Text → Side → Prop} (hr : ReadsSeams check blame)
    (name description : String) (d : Document) (tokens : List Token) (fields : Fields) :
    Rule.MendedByBlankLines { name, description, check := Rule.always check } d tokens fields
      (ascending (check d)) where
  evaluate_eq := Rule.evaluate_always _ _ _
  harmless p := by
    refine ⟨_, Rule.evaluate_always _ _ _, fun k hk => ?_⟩
    obtain ⟨j, hj, rfl⟩ := hr.of_insertIdx (d := d) rfl (mem_ascending.mp hk)
    exact ⟨j, mem_ascending.mpr hj, rfl⟩
  mended := by
    rw [Rule.evaluate_always, hr.surround_eq_nil (d := d) (fun _ => mem_ascending) rfl]
    rfl

/-- **Empty lines mend and never harm**, be it the lines around fences or those around lists. -/
theorem blank_lines_mend (d : Document) (tokens : List Token) (fields : Fields) :
    (∃ old, Rule.fenceSurround.MendedByBlankLines d tokens fields old) ∧
      ∃ old, Rule.listSurround.MendedByBlankLines d tokens fields old :=
  ⟨⟨_, crowdedFences_readsSeams.mendedByBlankLines _ _ d tokens fields⟩,
    ⟨_, crowdedLists_readsSeams.mendedByBlankLines _ _ d tokens fields⟩⟩

end MarkdownCheck
