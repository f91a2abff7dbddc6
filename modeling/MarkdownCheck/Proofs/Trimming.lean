import MarkdownCheck.Text.Basic
import Mathlib.Data.List.DropRight
import Mathlib.Data.List.TakeWhile

/-!
# Trimming a text

Text is trimmed at its end as a list is (`dropRightWhile_eq_rdropWhile`).  What stands before and
behind a trimmed text is blank, and where it is cut is the last character that is not:

* `exists_dropRightWhile_append` and `dropRightWhile_append_of_neg`: one end, by what is dropped there;
* `exists_trimmed` and `trimmed_eq`: both ends;
* `trim_eq_nil_iff`: nothing is left of blanks only.
-/

namespace MarkdownCheck.Text

theorem dropRightWhile_eq_rdropWhile (p : Char → Bool) (t : Text) :
    dropRightWhile p t = List.rdropWhile p t :=
  rfl

/-- What is dropped at the end satisfies `p`. -/
theorem exists_dropRightWhile_append (p : Char → Bool) (t : Text) :
    ∃ right, t = dropRightWhile p t ++ right ∧ ∀ c ∈ right, p c = true :=
  ⟨t.rtakeWhile p, List.rdropWhile_append_rtakeWhile.symm, fun _ => List.mem_rtakeWhile_imp⟩

/-- Nothing is dropped from the last character on that does not satisfy `p`. -/
theorem dropRightWhile_append_of_neg {p : Char → Bool} {front right : Text} {c : Char}
    (hc : p c = false) (hright : ∀ b ∈ right, p b = true) :
    dropRightWhile p (front ++ c :: right) = front ++ [c] := by
  have hstop : (c :: front.reverse).dropWhile p = c :: front.reverse :=
    List.dropWhile_cons_of_neg (by simp [hc])
  rw [dropRightWhile, List.reverse_append, List.reverse_cons, List.append_assoc,
    List.dropWhile_append_of_pos (by simpa using hright), List.singleton_append, hstop,
    List.reverse_cons, List.reverse_reverse]

/-- What stands between characters that are trimmed is what is left. -/
theorem trimmed_eq {p : Char → Bool} {left core right : Text} (hleft : ∀ c ∈ left, p c = true)
    (hcore : ∀ c ∈ core, p c = false) (hne : core ≠ []) (hright : ∀ c ∈ right, p c = true) :
    dropRightWhile p ((left ++ core ++ right).dropWhile p) = core := by
  have hfront : (core ++ right).dropWhile p = core ++ right := by
    obtain ⟨c, rest, rfl⟩ := List.exists_cons_of_ne_nil hne
    exact List.dropWhile_cons_of_neg (by simp [hcore c])
  rw [List.append_assoc, List.dropWhile_append_of_pos hleft, hfront]
  obtain ⟨front, c, rfl⟩ : ∃ front c, core = front ++ [c] :=
    ⟨_, _, (List.dropLast_append_getLast hne).symm⟩
  rw [List.append_assoc, List.singleton_append]
  exact dropRightWhile_append_of_neg (hcore c (by simp)) hright

theorem exists_trimmed (p : Char → Bool) (t : Text) :
    ∃ left right, t = left ++ dropRightWhile p (t.dropWhile p) ++ right ∧
      (∀ c ∈ left, p c = true) ∧ ∀ c ∈ right, p c = true := by
  obtain ⟨right, hdrop, hright⟩ := exists_dropRightWhile_append p (t.dropWhile p)
  refine ⟨t.takeWhile p, right, ?_, fun c hc => List.mem_takeWhile_imp hc, hright⟩
  rw [List.append_assoc, ← hdrop, List.takeWhile_append_dropWhile]

/-- Nothing is left of a text just in case it holds blanks only. -/
theorem trim_eq_nil_iff {t : Text} : t.trim = [] ↔ t.allBlank = true := by
  rw [trim, trimRight, dropRightWhile_eq_rdropWhile, List.rdropWhile_eq_nil_iff, allBlank_iff]
  constructor
  · intro h c hc
    have hparts : t.takeWhile isBlank ++ t.dropWhile isBlank = t := List.takeWhile_append_dropWhile
    rw [← hparts, List.mem_append] at hc
    rcases hc with hc | hc
    · exact List.mem_takeWhile_imp hc
    · exact h c hc
  · intro h c hc
    exact h c ((List.dropWhile_sublist _).subset hc)

end MarkdownCheck.Text
