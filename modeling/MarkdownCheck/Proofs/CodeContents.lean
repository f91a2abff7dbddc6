import MarkdownCheck.Proofs.Evaluation
import MarkdownCheck.Proofs.Seam

/-!
# What stands in code does not matter

The checks of blank lines around fences and around lists are blind to the inside of code. Two
documents may differ in every line of a block of code, closed or not, as long as no fence is among
the lines that differ (`SameOutsideCode`): both checks report the same lines on both
(`code_contents_hidden`).

Such documents have fences at the same places, so the same places lie in code (`codeAt_eq`). Then
they have the same seams (`seam_iff`): the lower line of a seam is outside of code, and so is the
upper one unless it is a fence.
-/

namespace MarkdownCheck

/-- Lines that differ in code only, and not at a fence. -/
structure SameOutsideCode (lines others : List Text) : Prop where
  length_eq : lines.length = others.length
  differ : ∀ (i : Nat) (a b : Text), lines[i]? = some a → others[i]? = some b → a ≠ b →
    codeAt lines i = true ∧ a.isFence = false ∧ b.isFence = false

namespace SameOutsideCode

variable {lines others : List Text}

theorem exists_line (h : SameOutsideCode lines others) {i : Nat} {a : Text}
    (ha : lines[i]? = some a) : ∃ b, others[i]? = some b := by
  have hi : i < others.length := h.length_eq ▸ (List.getElem?_eq_some_iff.mp ha).1
  exact ⟨_, List.getElem?_eq_getElem hi⟩

/-- It is enough to look at the places that exist. -/
theorem iff_forall_lt : SameOutsideCode lines others ↔
    lines.length = others.length ∧ ∀ i < lines.length, lines[i]? = others[i]? ∨
      codeAt lines i = true ∧ lines[i]?.any Text.isFence = false ∧
        others[i]?.any Text.isFence = false := by
  constructor
  · intro h
    refine ⟨h.length_eq, fun i hi => ?_⟩
    have ha := List.getElem?_eq_getElem hi
    obtain ⟨b, hb⟩ := h.exists_line ha
    by_cases hab : lines[i] = b
    · exact .inl (by rw [ha, hb, hab])
    · rw [ha, hb]
      exact .inr (h.differ i _ _ ha hb hab)
  · rintro ⟨hlen, h⟩
    refine ⟨hlen, fun i a b ha hb hab => ?_⟩
    have := h i (List.getElem?_eq_some_iff.mp ha).1
    rw [ha, hb] at this
    simpa [hab] using this

instance : Decidable (SameOutsideCode lines others) := decidable_of_iff _ iff_forall_lt.symm

theorem isFence_eq (h : SameOutsideCode lines others) {i : Nat} {a b : Text}
    (ha : lines[i]? = some a) (hb : others[i]? = some b) : a.isFence = b.isFence := by
  by_cases hab : a = b
  · rw [hab]
  · obtain ⟨-, hfa, hfb⟩ := h.differ i a b ha hb hab
    rw [hfa, hfb]

theorem codeAt_eq (h : SameOutsideCode lines others) (i : Nat) :
    codeAt lines i = codeAt others i := by
  induction i with
  | zero => rfl
  | succ i ih =>
    cases ha : lines[i]? with
    | some a =>
      obtain ⟨b, hb⟩ := h.exists_line ha
      rw [codeAt_succ ha, codeAt_succ hb, ih, h.isFence_eq ha hb]
    | none =>
      have hb : others[i]? = none := by
        rw [List.getElem?_eq_none_iff] at ha ⊢
        exact h.length_eq ▸ ha
      rw [codeAt_succ_of_none ha, codeAt_succ_of_none hb, ih]

theorem symm (h : SameOutsideCode lines others) : SameOutsideCode others lines where
  length_eq := h.length_eq.symm
  differ i b a hb ha hba := by
    obtain ⟨hcode, hfa, hfb⟩ := h.differ i a b ha hb (Ne.symm hba)
    exact ⟨h.codeAt_eq i ▸ hcode, hfb, hfa⟩

/-- A line whose successor is outside of code is the same in both, fence or not. -/
theorem eq_of_outside (h : SameOutsideCode lines others) {i : Nat} {a : Text}
    (ha : lines[i]? = some a) (hout : codeAt lines i = false ∨ codeAt lines (i + 1) = false) :
    others[i]? = some a := by
  obtain ⟨b, hb⟩ := h.exists_line ha
  by_cases hab : a = b
  · rw [hb, hab]
  · obtain ⟨hcode, hfa, -⟩ := h.differ i a b ha hb hab
    rw [codeAt_succ ha, hcode, hfa] at hout
    simp at hout

theorem seam (h : SameOutsideCode lines others) {j : Nat} {a b : Text} (hs : Seam lines j a b) :
    Seam others j a b where
  upper := h.eq_of_outside hs.upper (.inr hs.outside)
  lower := h.eq_of_outside hs.lower (.inl hs.outside)
  outside := (h.codeAt_eq (j + 1)).symm.trans hs.outside

theorem seam_iff (h : SameOutsideCode lines others) {j : Nat} {a b : Text} :
    Seam lines j a b ↔ Seam others j a b :=
  ⟨h.seam, h.symm.seam⟩

end SameOutsideCode

theorem ReadsSeams.congr {check : Document → List Int} {blame : Text → Text → Side → Prop}
    (hr : ReadsSeams check blame) {d e : Document} (h : SameOutsideCode d.lines e.lines) :
    ascending (check d) = ascending (check e) := by
  refine ascending_congr fun k => ?_
  simp only [hr.mem_iff, h.seam_iff]

/-- **Code is hidden.** Documents that differ in code only, and not at a fence, get the same answer
from the rule about fences and the same answer from the rule about lists. -/
theorem code_contents_hidden (d e : Document) (fields : Fields)
    (h : SameOutsideCode d.lines e.lines) :
    (∃ lines, Rule.fenceSurround.evaluate d fields = .ok lines ∧
        Rule.fenceSurround.evaluate e fields = .ok lines) ∧
      ∃ lines, Rule.listSurround.evaluate d fields = .ok lines ∧
        Rule.listSurround.evaluate e fields = .ok lines := by
  refine ⟨⟨_, Rule.evaluate_always _ _ _, ?_⟩, ⟨_, Rule.evaluate_always _ _ _, ?_⟩⟩
  · rw [crowdedFences_readsSeams.congr h]
    exact Rule.evaluate_always _ _ _
  · rw [crowdedLists_readsSeams.congr h]
    exact Rule.evaluate_always _ _ _

/-- A block in the middle and one that is never closed, with a list in each of one version. -/
theorem code_contents_hidden_unclosed :
    let d : Document :=
      { lines := ["a", "- b", "```", "* x", "```", "c", "~~~", "y"].map String.toList }
    let e : Document :=
      { lines := ["a", "- b", "```", "", "```", "c", "~~~", "* z"].map String.toList }
    SameOutsideCode d.lines e.lines ∧
      (∃ lines, Rule.fenceSurround.evaluate d [] = .ok lines ∧
          Rule.fenceSurround.evaluate e [] = .ok lines) ∧
        ∃ lines, Rule.listSurround.evaluate d [] = .ok lines ∧
          Rule.listSurround.evaluate e [] = .ok lines := by
  intro d e
  have h : SameOutsideCode d.lines e.lines := by decide
  exact ⟨h, code_contents_hidden d e [] h⟩

end MarkdownCheck
