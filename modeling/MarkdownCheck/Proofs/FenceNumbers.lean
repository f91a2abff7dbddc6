import MarkdownCheck.Proofs.Evaluation
import MarkdownCheck.Proofs.LineShapes
import MarkdownCheck.Proofs.Trimming

/-!
# Fences by number

The fences of a document open and close code by turns: numbered in order from one, the odd ones open
it and the even ones close it.  An odd fence is reported if the line above it exists and is not blank,
an even one if the line below it does (`mem_crowdedFences_iff_number`).

The check can be carried out on a `page` as well: the lines trimmed, with an empty one put at either
end, so that line `n` stands at entry `n`.  `fencesOnPage` looks up the neighbour of every fence there
and comes to nothing if an entry is asked for that the page does not have.  It never does, and finds
what the check finds (`fencesOnPage_page`): no fence stands at either end of a page.
-/

namespace MarkdownCheck

/-! ## Numbers of fences -/

namespace Lines

/-- How many fences there are up to place `i`. Of a fence at place `i` this is the number. -/
def fencesUpTo (lines : List Text) (i : Nat) : Nat := fencesBefore lines (i + 1)

variable {lines : List Text} {i : Nat}

theorem even_fencesUpTo_iff (h : Fence lines i) :
    Even (fencesUpTo lines i) ↔ codeAt lines i = true := by
  rw [fencesUpTo, fencesBefore_succ h, ← odd_fencesBefore_iff, Nat.even_add_one,
    Nat.not_even_iff_odd]

theorem odd_fencesUpTo_iff (h : Fence lines i) :
    Odd (fencesUpTo lines i) ↔ codeAt lines i = false := by
  rw [← Nat.not_even_iff_odd, even_fencesUpTo_iff h, Bool.not_eq_true]

theorem any_not_allBlank_iff : lines[i]?.any (!·.allBlank) = true ↔ Filled lines i := by
  simp [filled_iff, Option.any_eq_true]

/-- The line above, where an empty one stands above all lines. -/
theorem any_above_iff :
    ([] :: lines)[i]?.any (!Text.allBlank ·) = true ↔ 0 < i ∧ Filled lines (i - 1) := by
  cases i with
  | zero => simp [Text.allBlank]
  | succ j => simp [any_not_allBlank_iff]

/-- The neighbour that the walk looks at hangs on the number of the fence. -/
theorem any_neighbour_iff (h : Fence lines i) :
    (if codeAt lines i then lines[i + 1]? else ([] :: lines)[i]?).any (!Text.allBlank ·) = true ↔
      Odd (fencesUpTo lines i) ∧ 0 < i ∧ Filled lines (i - 1) ∨
        Even (fencesUpTo lines i) ∧ Filled lines (i + 1) := by
  rw [odd_fencesUpTo_iff h, even_fencesUpTo_iff h]
  cases codeAt lines i with
  | true => simp [any_not_allBlank_iff]
  | false => simp [any_above_iff]

end Lines

open Lines

/-- **Fences by number.** Reported are the odd fences right below a line that is not blank, and the
even ones right above such a line. -/
theorem mem_crowdedFences_iff_number {d : Document} {k : Int} :
    k ∈ d.crowdedFences ↔ ∃ i : Nat, Fence d.lines i ∧ k = i + 1 ∧
      (Odd (fencesUpTo d.lines i) ∧ 0 < i ∧ Filled d.lines (i - 1) ∨
        Even (fencesUpTo d.lines i) ∧ Filled d.lines (i + 1)) := by
  refine Iff.trans (mem_crowdedFencesFrom_iff false []) ?_
  simp only [Bool.false_xor]
  constructor
  · rintro ⟨i, line, hline, hf, hbad, rfl⟩
    have hfence : Fence d.lines i := fence_iff.mpr ⟨line, hline, hf⟩
    exact ⟨i, hfence, Int.add_comm 1 i, (any_neighbour_iff hfence).mp hbad⟩
  · rintro ⟨i, hfence, rfl, hbad⟩
    obtain ⟨line, hline, hf⟩ := fence_iff.mp hfence
    exact ⟨i, line, hline, hf, (any_neighbour_iff hfence).mpr hbad, Int.add_comm i 1⟩

/-! ## The page -/

namespace Lines

/-- The lines trimmed, with an empty one before and after them. -/
def page (lines : List Text) : List Text := [] :: (lines.map Text.trim ++ [[]])

/-- The entry with number `k`, counted from zero. There are none before the first and after the
last. -/
def entryAt (entries : List Text) (k : Int) : Option Text :=
  if 0 ≤ k then entries[k.toNat]? else none

/-- The fences among some entries, the first of which has number `n`, that are next to an entry which
is not empty: the one before a fence that opens code, and the one after a fence that closes it. Comes
to nothing where such an entry is missing. -/
def fencesOnPage (entries : List Text) (n : Nat) (inCode : Bool) :
    List Text → Option (List Int)
  | [] => some []
  | line :: rest =>
    if line.StartsFence then do
      let neighbour ← entryAt entries (if inCode then n + 1 else n - 1)
      let later ← fencesOnPage entries (n + 1) (!inCode) rest
      return if neighbour.isEmpty then later else (n : Int) :: later
    else fencesOnPage entries (n + 1) inCode rest

end Lines

theorem entryAt_append (above : List Text) (line : Text) (rest : List Text) :
    entryAt (above ++ line :: rest) above.length = some line := by
  simp [entryAt]

theorem isEmpty_trim (line : Text) : line.trim.isEmpty = line.allBlank := by
  rw [Bool.eq_iff_iff, List.isEmpty_iff, Text.trim_eq_nil_iff]

section Walk

variable {entries : List Text} {n : Nat} {inCode : Bool} {line : Text} {rest : List Text}

theorem fencesOnPage_cons_other (h : ¬ line.StartsFence) :
    fencesOnPage entries n inCode (line :: rest) = fencesOnPage entries (n + 1) inCode rest :=
  if_neg h

theorem fencesOnPage_cons_fence {neighbour : Text} {later : List Int} (h : line.StartsFence)
    (hneighbour : entryAt entries (if inCode then n + 1 else n - 1) = some neighbour)
    (hlater : fencesOnPage entries (n + 1) (!inCode) rest = some later) :
    fencesOnPage entries n inCode (line :: rest) =
      some (if neighbour.isEmpty then later else (n : Int) :: later) := by
  simp [fencesOnPage, h, hneighbour, hlater]

end Walk

/-- Every line has neighbours on the page, above and below, and they are empty where it has none in
the document or those are blank. -/
theorem exists_neighbour (above : List Text) (previous line : Text) (rest : List Text)
    (inCode : Bool) :
    ∃ neighbour, entryAt (above ++ previous.trim :: line.trim :: (rest.map Text.trim ++ [[]]))
        (if inCode then (above.length + 1 : Nat) + 1 else (above.length + 1 : Nat) - 1) =
          some neighbour ∧
      neighbour.isEmpty = !(if inCode then rest.head?.any (!·.allBlank) else !previous.allBlank) := by
  cases inCode with
  | false =>
    refine ⟨previous.trim, ?_, by simp [isEmpty_trim]⟩
    have hplace : ((above.length + 1 : Nat) : Int) - 1 = above.length := by omega
    rw [if_neg Bool.false_ne_true, hplace, entryAt_append]
  | true =>
    have hsplit : ∀ next tail, rest.map Text.trim ++ [[]] = next :: tail →
        entryAt (above ++ previous.trim :: line.trim :: (rest.map Text.trim ++ [[]]))
          ((above.length + 1 : Nat) + 1) = some next := by
      intro next tail htail
      have hplace : ((above.length + 1 : Nat) : Int) + 1 =
          (above ++ [previous.trim] ++ [line.trim]).length := by
        rw [List.length_append, List.length_append]
        rfl
      rw [htail, hplace, List.append_cons, List.append_cons, entryAt_append]
    cases rest with
    | nil => exact ⟨[], hsplit [] [] rfl, rfl⟩
    | cons next rest => exact ⟨next.trim, hsplit next.trim _ rfl, by simp [isEmpty_trim]⟩

/-- The walk through the rest of a page, after the entry for the `previous` line, finds what the check
finds in the rest of the lines. -/
theorem fencesOnPage_eq {entries above : List Text} {previous : Text} {lines : List Text}
    (h : entries = above ++ previous.trim :: (lines.map Text.trim ++ [[]])) (inCode : Bool) :
    fencesOnPage entries (above.length + 1) inCode (lines.map Text.trim ++ [[]]) =
      some (Document.crowdedFencesFrom (above.length + 1) inCode (!previous.allBlank) lines) := by
  induction lines generalizing above previous inCode with
  | nil => simp [fencesOnPage, Document.crowdedFencesFrom]
  | cons line rest ih =>
    have hsplit : entries =
        (above ++ [previous.trim]) ++ line.trim :: (rest.map Text.trim ++ [[]]) := by
      rw [h, List.append_assoc]
      rfl
    have hrest := fun inCode => ih hsplit inCode
    rw [List.length_append, List.length_singleton] at hrest
    push_cast at hrest
    rw [List.map_cons, List.cons_append, Document.crowdedFencesFrom]
    cases hf : line.isFence with
    | false =>
      have hother : ¬ line.trim.StartsFence := by
        rw [← Text.isFence_iff, hf]
        exact Bool.false_ne_true
      rw [fencesOnPage_cons_other hother, hrest, if_neg Bool.false_ne_true]
    | true =>
      obtain ⟨neighbour, hneighbour, hempty⟩ := exists_neighbour above previous line rest inCode
      rw [← List.cons_append, ← List.map_cons, ← h] at hneighbour
      rw [fencesOnPage_cons_fence (Text.isFence_iff.mp hf) hneighbour (hrest _), hempty, if_pos rfl]
      cases (if inCode then rest.head?.any (!·.allBlank) else !previous.allBlank) with
      | false => simp
      | true => simp

/-- **The page.** Every entry that is looked up exists, and what is found is what the check finds. -/
theorem fencesOnPage_page (d : Document) :
    fencesOnPage (page d.lines) 0 false (page d.lines) = some d.crowdedFences := by
  have hpage : page d.lines = [] ++ Text.trim [] :: (d.lines.map Text.trim ++ [[]]) := rfl
  have hwalk := fencesOnPage_eq hpage false
  conv_lhs => rw [page, fencesOnPage_cons_other Text.not_startsFence_nil]
  exact hwalk

/-! ## The rule -/

/-- **Fences by number.** The rule about fences always answers, with exactly the odd fences right below
a line that is not blank and the even ones right above such a line.  Looking neighbours up on a page
never asks for an entry that is not there, and neither end of the page is reported. -/
theorem fences_reported_by_number (d : Document) (fields : Fields) :
    fencesOnPage (page d.lines) 0 false (page d.lines) = some d.crowdedFences ∧
      ∃ reported, Rule.fenceSurround.evaluate d fields = .ok reported ∧
        reported.Pairwise (· < ·) ∧
        (∀ k, k ∈ reported ↔ k ∈ d.crowdedFences) ∧
        (∀ k ∈ reported, 1 ≤ k ∧ k ≤ d.lines.length) ∧
        ∀ k, k ∈ reported ↔ ∃ i : Nat, Fence d.lines i ∧ k = i + 1 ∧
          (Odd (fencesUpTo d.lines i) ∧ 0 < i ∧ Filled d.lines (i - 1) ∨
            Even (fencesUpTo d.lines i) ∧ Filled d.lines (i + 1)) := by
  refine ⟨fencesOnPage_page d, _, Rule.evaluate_always _ _ _, pairwise_ascending _,
    fun k => mem_ascending, fun k hk => ?_, fun k => ?_⟩
  · exact crowdedFences_readsSeams.bounds (mem_ascending.mp hk)
  · rw [mem_ascending, mem_crowdedFences_iff_number]

/-- A block closed by the other mark, a blank line below it, and a block that stays open. -/
example :
    Document.crowdedFences
      { lines := ["a", "```", "x", "~~~", " ", "b", "  ```", "y"].map String.toList } = [2, 7] := by
  decide

end MarkdownCheck
