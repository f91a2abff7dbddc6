import MarkdownCheck.Check.Blank

/-!
# Repeated blank lines by neighbours

The walk over the lines remembers whether the last one was blank. Without the walk: a line is
reported just in case it and the one above it are blank and it stands in no code
(`mem_repeatedBlanks_iff`).
-/

namespace MarkdownCheck.Document

theorem mem_repeatedBlanksFrom_cons {skip : Nat → Bool} {i : Nat} {afterBlank : Bool} {line : Text}
    {rest : List Text} {k : Int} :
    k ∈ repeatedBlanksFrom skip i afterBlank (line :: rest) ↔
      (line.allBlank = true ∧ afterBlank = true ∧ skip i = false ∧ k = i + 1) ∨
        k ∈ repeatedBlanksFrom skip (i + 1) line.allBlank rest := by
  simp only [repeatedBlanksFrom]
  by_cases h : (line.allBlank && afterBlank && !skip i) = true
  · rw [if_pos h, List.mem_cons]
    simp only [Bool.and_eq_true, Bool.not_eq_true'] at h
    simp [h]
  · rw [if_neg h]
    simp only [Bool.and_eq_true, Bool.not_eq_true'] at h
    constructor
    · exact .inr
    · rintro (⟨hline, hafter, hskip, -⟩ | hk)
      · exact absurd ⟨⟨hline, hafter⟩, hskip⟩ h
      · exact hk

/-- The `previous` line is the one before the walk begins. -/
theorem mem_repeatedBlanksFrom_iff {skip : Nat → Bool} {lines : List Text} {n : Nat}
    {previous : Text} {k : Int} :
    k ∈ repeatedBlanksFrom skip n previous.allBlank lines ↔
      ∃ (i : Nat) (a b : Text), (previous :: lines)[i]? = some a ∧ lines[i]? = some b ∧
        a.allBlank = true ∧ b.allBlank = true ∧ skip (n + i) = false ∧ k = n + i + 1 := by
  induction lines generalizing n previous with
  | nil => simp [repeatedBlanksFrom]
  | cons line rest ih =>
    rw [mem_repeatedBlanksFrom_cons, ih]
    constructor
    · rintro (⟨hline, hprev, hskip, rfl⟩ | ⟨i, a, b, ha, hb, hablank, hbblank, hskip, rfl⟩)
      · exact ⟨0, previous, line, rfl, rfl, hprev, hline, hskip, by simp⟩
      · refine ⟨i + 1, a, b, ha, hb, hablank, hbblank, ?_, by push_cast; omega⟩
        rw [Nat.add_comm i, ← Nat.add_assoc]
        exact hskip
    · rintro ⟨i, a, b, ha, hb, hablank, hbblank, hskip, rfl⟩
      cases i with
      | zero =>
        obtain rfl : previous = a := by simpa using ha
        obtain rfl : line = b := by simpa using hb
        exact .inl ⟨hbblank, hablank, hskip, by simp⟩
      | succ i =>
        refine .inr ⟨i, a, b, ha, hb, hablank, hbblank, ?_, by push_cast; omega⟩
        rw [Nat.add_comm i, ← Nat.add_assoc] at hskip
        exact hskip

/-- **Blank lines by neighbours.** A line is reported just in case it is blank, so is the one above
it, and no code covers it. -/
theorem mem_repeatedBlanks_iff {d : Document} {k : Int} :
    k ∈ d.repeatedBlanks ↔ ∃ (j : Nat) (a b : Text), d.lines[j]? = some a ∧
      d.lines[j + 1]? = some b ∧ a.allBlank = true ∧ b.allBlank = true ∧
      d.inCode (j + 1) = false ∧ k = j + 2 := by
  -- the walk begins as if after a line that is not blank
  have hfront : Text.allBlank ['-'] = false := by decide
  rw [repeatedBlanks, ← hfront, mem_repeatedBlanksFrom_iff]
  constructor
  · rintro ⟨i, a, b, ha, hb, hablank, hbblank, hskip, rfl⟩
    cases i with
    | zero =>
      obtain rfl : ['-'] = a := by simpa using ha
      simp [hfront] at hablank
    | succ j =>
      rw [Nat.zero_add] at hskip
      exact ⟨j, a, b, ha, hb, hablank, hbblank, hskip, by push_cast; omega⟩
  · rintro ⟨j, a, b, ha, hb, hablank, hbblank, hskip, rfl⟩
    refine ⟨j + 1, a, b, ha, hb, hablank, hbblank, ?_, by push_cast; omega⟩
    rw [Nat.zero_add]
    exact hskip

theorem repeatedBlanks_bounds {d : Document} {k : Int} (h : k ∈ d.repeatedBlanks) :
    1 ≤ k ∧ k ≤ d.lines.length := by
  obtain ⟨j, a, b, -, hb, -, -, -, rfl⟩ := mem_repeatedBlanks_iff.mp h
  have hj : j + 1 < d.lines.length := (List.getElem?_eq_some_iff.mp hb).1
  omega

end MarkdownCheck.Document
