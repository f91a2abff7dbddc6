import MarkdownCheck.Text.UpperCase
import Mathlib.Data.List.Basic

/-!
# Upper case is reached in one step

No character that upper-casing yields has an upper case of its own, so doing it twice is doing it
once (`upper_upper`).  This is a fact about the tables: the code points they lead to are none of
those they lead from (`yieldedCodes_disjoint`). There are about 1500 of either kind, so the two sets
are compared as bits of two numbers and not pair by pair.
-/

namespace MarkdownCheck

/-! ## Code points -/

/-- The code points of a run. -/
def CaseRun.codes (r : CaseRun) : List Nat :=
  (List.range ((r.last - r.first) / r.step + 1)).map fun k => r.first + r.step * k

/-- The code points that upper-casing changes. -/
def changedCodes : List Nat := upperRuns.flatMap CaseRun.codes ++ upperExpansions.map (·.1)

/-- The code points that it puts in their place. -/
def yieldedCodes : List Nat :=
  upperRuns.flatMap (fun r => r.codes.map fun n : Nat => (n + r.shift).toNat) ++
    upperExpansions.flatMap (·.2)

theorem CaseRun.mem_codes {r : CaseRun} {n : Nat} (h : r.covers n = true) : n ∈ r.codes := by
  simp only [CaseRun.covers, Bool.and_eq_true, decide_eq_true_eq, beq_iff_eq] at h
  obtain ⟨⟨hfirst, hlast⟩, hstep⟩ := h
  have hdiv : r.step * ((n - r.first) / r.step) = n - r.first := by
    have := Nat.div_add_mod (n - r.first) r.step
    omega
  refine List.mem_map.mpr ⟨(n - r.first) / r.step, ?_, by omega⟩
  rw [List.mem_range, Nat.lt_succ_iff]
  exact Nat.div_le_div_right (by omega)

/-- Code points as the bits of one number. -/
def codeBits : List Nat → Nat
  | [] => 0
  | n :: rest => 1 <<< n ||| codeBits rest

theorem testBit_codeBits {codes : List Nat} {n : Nat} (h : n ∈ codes) :
    (codeBits codes).testBit n = true := by
  induction codes with
  | nil => simp at h
  | cons m rest ih =>
    rw [codeBits, Nat.testBit_or, Bool.or_eq_true]
    rcases List.mem_cons.mp h with rfl | h
    · exact .inl (by simp)
    · exact .inr (ih h)

theorem codeBits_land_eq_zero : codeBits yieldedCodes &&& codeBits changedCodes = 0 := by
  decide +kernel

theorem yieldedCodes_toNat_ofNat :
    yieldedCodes.all (fun n => decide ((Char.ofNat n).toNat = n)) = true := by
  decide +kernel

/-- What upper-casing yields it does not change. -/
theorem yieldedCodes_disjoint {n : Nat} (h : n ∈ yieldedCodes) : n ∉ changedCodes := by
  intro hchanged
  have hbit := congrArg (fun bits => bits.testBit n) codeBits_land_eq_zero
  simp [testBit_codeBits h, testBit_codeBits hchanged] at hbit

/-! ## Characters -/

theorem toNat_ofNat_of_mem_yieldedCodes {n : Nat} (h : n ∈ yieldedCodes) :
    (Char.ofNat n).toNat = n := by
  simpa using List.all_eq_true.mp yieldedCodes_toNat_ofNat n h

theorem upperExpansions_lookup_eq_none {n : Nat} (h : n ∉ changedCodes) :
    upperExpansions.lookup n = none := by
  refine List.lookup_eq_none_iff.mpr fun e he => ?_
  have hne : n ≠ e.1 := by
    rintro rfl
    exact h (List.mem_append_right _ (List.mem_map_of_mem he))
  simpa using hne

theorem upperRuns_find?_eq_none {n : Nat} (h : n ∉ changedCodes) :
    upperRuns.find? (·.covers n) = none := by
  refine List.find?_eq_none.mpr fun r hr hcovers => h (List.mem_append_left _ ?_)
  exact List.mem_flatMap.mpr ⟨r, hr, CaseRun.mem_codes hcovers⟩

theorem upperChar_eq_self {c : Char} (h : c.toNat ∉ changedCodes) : upperChar c = [c] := by
  rw [upperChar, upperExpansions_lookup_eq_none h, upperRuns_find?_eq_none h]

theorem mem_yieldedCodes_of_lookup {n : Nat} {codes : List Nat}
    (h : upperExpansions.lookup n = some codes) : ∀ m ∈ codes, m ∈ yieldedCodes := by
  intro m hm
  obtain ⟨before, after, htable, -⟩ := List.lookup_eq_some_iff.mp h
  have hmem : (n, codes) ∈ upperExpansions := by simp [htable]
  exact List.mem_append_right _ (List.mem_flatMap.mpr ⟨_, hmem, hm⟩)

theorem mem_yieldedCodes_of_find? {n : Nat} {r : CaseRun}
    (h : upperRuns.find? (·.covers n) = some r) : (n + r.shift).toNat ∈ yieldedCodes := by
  have hcovers : r.covers n = true := by simpa using List.find?_some h
  refine List.mem_append_left _ (List.mem_flatMap.mpr ⟨r, List.mem_of_find?_eq_some h, ?_⟩)
  exact List.mem_map.mpr ⟨n, CaseRun.mem_codes hcovers, rfl⟩

/-- A character of the upper case is its own upper case. -/
theorem upperChar_of_mem_upperChar {c u : Char} (h : u ∈ upperChar c) : upperChar u = [u] := by
  unfold upperChar at h
  cases hlookup : upperExpansions.lookup c.toNat with
  | some codes =>
    simp only [hlookup, List.mem_map] at h
    obtain ⟨n, hn, rfl⟩ := h
    have hyielded := mem_yieldedCodes_of_lookup hlookup n hn
    apply upperChar_eq_self
    rw [toNat_ofNat_of_mem_yieldedCodes hyielded]
    exact yieldedCodes_disjoint hyielded
  | none =>
    cases hfind : upperRuns.find? (·.covers c.toNat) with
    | some r =>
      simp only [hlookup, hfind, List.mem_singleton] at h
      have hyielded := mem_yieldedCodes_of_find? hfind
      apply upperChar_eq_self
      rw [h, toNat_ofNat_of_mem_yieldedCodes hyielded]
      exact yieldedCodes_disjoint hyielded
    | none =>
      simp only [hlookup, hfind, List.mem_singleton] at h
      rw [h, upperChar, hlookup, hfind]

theorem flatMap_upperChar_upperChar (c : Char) :
    (upperChar c).flatMap upperChar = upperChar c := by
  calc (upperChar c).flatMap upperChar
      = (upperChar c).flatMap fun u => [u] :=
        List.flatMap_congr fun _ hu => upperChar_of_mem_upperChar hu
    _ = upperChar c := List.flatMap_singleton' _

/-- **Upper-casing twice is upper-casing once.** -/
theorem upper_upper (s : String) : upper (upper s) = upper s := by
  unfold upper
  rw [String.toList_ofList, List.flatMap_assoc]
  simp only [flatMap_upperChar_upperChar]

end MarkdownCheck
