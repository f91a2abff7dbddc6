import MarkdownCheck.Proofs.Evaluation
import Mathlib.Data.List.TakeWhile

/-!
# Reversed links by how they are written

A reversed link is a text in parentheses and right after it a target in brackets.  Neither of the two
parts is empty, and neither holds the character that closes it; anything else may stand in them, other
brackets and line ends included.

The scan tries every place of a text and looks for the end of a part by passing over all characters
but the closing one.  As a part cannot hold that character there is one place only where it may end
(`after?_eq_some_iff`), so nothing is missed by not trying another: a text is found to have a reversed
link just in case it is written with one (`hasReversedLink_iff`).
-/

namespace MarkdownCheck

namespace Text

variable {t : Text}

/-- A part that is passed over ends where its closing character first occurs. -/
theorem exists_part_of_dropWhile {close c : Char} {tail : Text}
    (hdrop : t.dropWhile (· ≠ close) = c :: tail) (hhead : t.head? ≠ some close) :
    ∃ part, part ≠ [] ∧ close ∉ part ∧ t = part ++ close :: tail := by
  have hc : c = close := by
    have hstop := List.head?_dropWhile_not (· ≠ close) t
    rw [hdrop] at hstop
    simpa using hstop
  subst hc
  have hsplit : t.takeWhile (· ≠ c) ++ c :: tail = t := by
    rw [← hdrop, List.takeWhile_append_dropWhile]
  refine ⟨t.takeWhile (· ≠ c), ?_, ?_, hsplit.symm⟩
  · intro hnil
    rw [hnil, List.nil_append] at hsplit
    exact hhead (by rw [← hsplit, List.head?_cons])
  · intro hmem
    have hpassed := List.mem_takeWhile_imp hmem
    simp at hpassed

theorem dropWhile_part {close : Char} {part rest : Text} (hclose : close ∉ part) :
    (part ++ close :: rest).dropWhile (· ≠ close) = close :: rest := by
  have hpassed : ∀ c ∈ part, decide (c ≠ close) = true := by
    intro c hc
    have hne : c ≠ close := by
      rintro rfl
      exact hclose hc
    exact decide_eq_true hne
  rw [List.dropWhile_append_of_pos hpassed, List.dropWhile_cons_of_neg (by simp)]

/-- What is left after a part is what follows the only character that can close it. -/
theorem after?_eq_some_iff {close : Char} {rest : Text} :
    after? close t = some rest ↔
      ∃ part, part ≠ [] ∧ close ∉ part ∧ t = part ++ close :: rest := by
  constructor
  · intro h
    unfold after? at h
    cases hdrop : t.dropWhile (· ≠ close) with
    | nil =>
      rw [hdrop] at h
      cases h
    | cons c tail =>
      rw [hdrop] at h
      dsimp only at h
      split_ifs at h with hhead
      obtain rfl := Option.some.inj h
      exact exists_part_of_dropWhile hdrop hhead
  · rintro ⟨part, hne, hclose, rfl⟩
    obtain ⟨first, part, rfl⟩ := List.exists_cons_of_ne_nil hne
    have hhead : ¬ (first :: part ++ close :: rest).head? = some close := by
      intro heq
      exact hclose (Option.some.inj heq ▸ List.mem_cons_self)
    unfold after?
    rw [dropWhile_part hclose]
    exact if_neg hhead

/-- Where a reversed link begins, both of its parts are there. -/
theorem startsReversedLink_iff :
    t.startsReversedLink = true ↔ ∃ x y v : Text, x ≠ [] ∧ ')' ∉ x ∧ y ≠ [] ∧ ']' ∉ y ∧
      t = '(' :: (x ++ ')' :: '[' :: (y ++ ']' :: v)) := by
  constructor
  · intro h
    unfold startsReversedLink at h
    split at h
    · rename_i s
      split at h
      · rename_i target htext
        obtain ⟨v, htarget⟩ := Option.isSome_iff_exists.mp h
        obtain ⟨x, hx, hxclose, rfl⟩ := after?_eq_some_iff.mp htext
        obtain ⟨y, hy, hyclose, rfl⟩ := after?_eq_some_iff.mp htarget
        exact ⟨x, y, v, hx, hxclose, hy, hyclose, rfl⟩
      · cases h
    · cases h
  · rintro ⟨x, y, v, hx, hxclose, hy, hyclose, rfl⟩
    have htext : after? ')' (x ++ ')' :: '[' :: (y ++ ']' :: v)) = some ('[' :: (y ++ ']' :: v)) :=
      after?_eq_some_iff.mpr ⟨x, hx, hxclose, rfl⟩
    have htarget : after? ']' (y ++ ']' :: v) = some v :=
      after?_eq_some_iff.mpr ⟨y, hy, hyclose, rfl⟩
    simp only [startsReversedLink, htext, htarget, Option.isSome_some]

/-- The scan tries every place where a text can be cut in two. -/
theorem hasReversedLink_iff_startsReversedLink :
    t.hasReversedLink = true ↔ ∃ u s : Text, t = u ++ s ∧ s.startsReversedLink = true := by
  induction t with
  | nil =>
    constructor
    · intro h
      cases h
    · rintro ⟨u, s, hsplit, hs⟩
      obtain ⟨-, rfl⟩ := List.append_eq_nil_iff.mp hsplit.symm
      cases hs
  | cons c rest ih =>
    rw [hasReversedLink, Bool.or_eq_true, ih]
    constructor
    · rintro (h | ⟨u, s, rfl, hs⟩)
      · exact ⟨[], c :: rest, rfl, h⟩
      · exact ⟨c :: u, s, rfl, hs⟩
    · rintro ⟨u, s, hsplit, hs⟩
      cases u with
      | nil =>
        left
        rw [hsplit]
        exact hs
      | cons a u =>
        obtain ⟨rfl, rfl⟩ := List.cons.inj hsplit
        exact .inr ⟨u, s, rfl, hs⟩

/-- **The language of the scan.** A text has a reversed link just in case one is written in it. -/
theorem hasReversedLink_iff :
    t.hasReversedLink = true ↔ ∃ u x y v : Text, x ≠ [] ∧ ')' ∉ x ∧ y ≠ [] ∧ ']' ∉ y ∧
      t = u ++ "(".toList ++ x ++ ")[".toList ++ y ++ "]".toList ++ v := by
  rw [hasReversedLink_iff_startsReversedLink]
  constructor
  · rintro ⟨u, s, rfl, hs⟩
    obtain ⟨x, y, v, hx, hxclose, hy, hyclose, rfl⟩ := startsReversedLink_iff.mp hs
    exact ⟨u, x, y, v, hx, hxclose, hy, hyclose, by simp⟩
  · rintro ⟨u, x, y, v, hx, hxclose, hy, hyclose, rfl⟩
    refine ⟨u, '(' :: (x ++ ')' :: '[' :: (y ++ ']' :: v)), by simp, ?_⟩
    exact startsReversedLink_iff.mpr ⟨x, y, v, hx, hxclose, hy, hyclose, rfl⟩

/-- A failed attempt may overlap the link that is found, and a part may hold the other brackets. -/
example : hasReversedLink "((a)[]](b[)[(\n)] ".toList = true ∧
    hasReversedLink "()[a](b)[](c) [d](e)[f".toList = false := by
  decide

end Text

/-! ## The rule -/

theorem Document.mem_reversedLinks_iff {d : Document} {k : Int} :
    k ∈ d.reversedLinks ↔ ∃ t ∈ d.tokens, t.kind = .inline ∧ t.line = k ∧
      ∃ child ∈ t.children, child.kind = .text ∧ child.content.hasReversedLink = true := by
  unfold reversedLinks select
  simp only [List.mem_map, List.mem_filter, List.any_eq_true, List.mem_singleton, Bool.and_eq_true,
    decide_eq_true_eq]
  constructor
  · rintro ⟨t, ⟨⟨ht, hkind⟩, hlink⟩, hline⟩
    exact ⟨t, ht, hkind, hline, hlink⟩
  · rintro ⟨t, ht, hkind, hline, hlink⟩
    exact ⟨t, ⟨⟨ht, hkind⟩, hlink⟩, hline⟩

/-- **Reversed links by how they are written.** The rule about links always answers, with exactly the
lines of the inline tokens that have a text among their children, not further down, in which a link is
written with its parts swapped. -/
theorem reversed_links_reported (d : Document) (fields : Fields) :
    ∃ reported, Rule.reversedLinks.evaluate d fields = .ok reported ∧
      reported.Pairwise (· < ·) ∧
      ∀ k, k ∈ reported ↔ ∃ t ∈ d.tokens, t.kind = .inline ∧ t.line = k ∧
        ∃ child ∈ t.children, child.kind = .text ∧
          ∃ u x y v : Text, x ≠ [] ∧ ')' ∉ x ∧ y ≠ [] ∧ ']' ∉ y ∧
            child.content = u ++ "(".toList ++ x ++ ")[".toList ++ y ++ "]".toList ++ v := by
  refine ⟨_, Rule.evaluate_always _ _ _, pairwise_ascending _, fun k => ?_⟩
  rw [mem_ascending, Document.mem_reversedLinks_iff]
  simp only [Text.hasReversedLink_iff]

end MarkdownCheck
