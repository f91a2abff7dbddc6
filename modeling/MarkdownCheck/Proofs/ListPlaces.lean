import MarkdownCheck.Proofs.Evaluation
import MarkdownCheck.Proofs.LineShapes

/-!
# Lists by place

The walk over the lines remembers whether it is in code, whether it is in a list, and the last line.
What it remembers when it comes to place `i` is a matter of the lines before that place
(`ListScan.after_take`): it is in code if an odd number of fences come before, and in a list if the
line right before is an item outside of code.  An item is no fence, so the two exclude each other.

With that the lines reported are two sets of places (`mem_crowdedLists_iff_place`): items where a list
begins right below an open line, and items where a list ends right above one.
-/

namespace MarkdownCheck

namespace Lines

/-- Place `i` lies in code, or holds the fence that closes it. -/
def InCode (lines : List Text) (i : Nat) : Prop := Odd (fencesBefore lines i)

/-- A list is open before place `i`: the line above is an item, and not in code. -/
def InList (lines : List Text) (i : Nat) : Prop :=
  0 < i ∧ Item lines (i - 1) ∧ ¬ InCode lines (i - 1)

variable {lines : List Text} {i : Nat}

theorem inCode_iff_codeAt : InCode lines i ↔ codeAt lines i = true := odd_fencesBefore_iff

theorem inList_succ_iff {line : Text} (h : lines[i]? = some line) :
    InList lines (i + 1) ↔ codeAt lines i = false ∧ line.isMarker = true := by
  simp [InList, item_iff, inCode_iff_codeAt, h, and_comm]

end Lines

/-! ## What the walk remembers -/

namespace ListScan

open Lines

/-- What the walk remembers is what the lines before place `i` say. -/
structure Describes (s : ListScan) (lines : List Text) (i : Nat) : Prop where
  inCode_iff : s.inCode = true ↔ InCode lines i
  inList_iff : s.inList = true ↔ InList lines i
  /-- Code and list exclude each other. -/
  exclusive : ¬ (s.inCode = true ∧ s.inList = true)

theorem exclusive_after (lines : List Text) :
    ¬ ((after lines).inCode = true ∧ (after lines).inList = true) := by
  rintro ⟨hcode, hlist⟩
  rw [after_inList_of_inCode hcode] at hlist
  cases hlist

theorem after_take {lines : List Text} {i : Nat} (hi : i ≤ lines.length) :
    (after (lines.take i)).Describes lines i where
  inCode_iff := by
    rw [after_inCode, inCode_iff_codeAt]
    rfl
  inList_iff := by
    cases i with
    | zero => simp [InList]
    | succ j =>
      have hj : lines[j]? = some lines[j] := List.getElem?_eq_getElem hi
      rw [(after_take_succ hj).2.1, inList_succ_iff hj]
      simp
  exclusive := exclusive_after _

/-- Where the walk comes to a place, it remembers the line above, if there is one. -/
theorem previous_isOpen_iff {lines : List Text} {i : Nat} (hi : i ≤ lines.length) :
    (after (lines.take i)).previous.isOpen = true ↔ 0 < i ∧ Open lines (i - 1) := by
  cases i with
  | zero => simp [Text.isOpen]
  | succ j =>
    have hj : lines[j]? = some lines[j] := List.getElem?_eq_getElem hi
    rw [(after_take_succ hj).2.2, open_iff]
    simp [hj]

/-- What the walk finds at a place, by the lines before that place. -/
theorem mem_touching_place_iff {lines : List Text} {i : Nat} {line : Text} {k : Int}
    (hline : lines[i]? = some line) :
    k ∈ (after (lines.take i)).touching (1 + i) line ↔
      ¬ InCode lines i ∧
        (Item lines i ∧ ¬ InList lines i ∧ 0 < i ∧ Open lines (i - 1) ∧ k = i + 1 ∨
          ¬ Item lines i ∧ InList lines i ∧ Open lines i ∧ k = i) := by
  have hi : i ≤ lines.length := (List.getElem?_eq_some_iff.mp hline).1.le
  have hwalk := after_take hi
  have hitem : Item lines i ↔ line.isMarker = true := by simp [item_iff, hline]
  have hopen : Open lines i ↔ line.isOpen = true := by simp [open_iff, hline]
  have habove : 0 < i ∧ Open lines (i - 1) ∧ k = i + 1 ↔
      (after (lines.take i)).previous.isOpen = true ∧ k = i + 1 := by
    rw [previous_isOpen_iff hi, and_assoc]
  rw [mem_touching_iff, habove, ← hwalk.inCode_iff, ← hwalk.inList_iff, hitem, hopen,
    Int.add_comm 1, Int.add_sub_cancel]
  simp

/-- The walk over some lines goes on from where it came to. -/
theorem crowded_append (s : ListScan) (n : Int) (before rest : List Text) :
    s.crowded n (before ++ rest) =
      s.crowded n before ++ (before.foldl next s).crowded (n + before.length) rest := by
  induction before generalizing s n with
  | nil => simp [crowded]
  | cons line before ih =>
    rw [List.cons_append, crowded, crowded, ih, List.append_assoc, List.foldl_cons,
      List.length_cons]
    push_cast
    rw [Int.add_assoc, Int.add_comm 1]

end ListScan

/-! ## Reported places -/

section Reported

open Lines

/-- **Lists by place.** Reported are the items where a list begins right below an open line, and the
lines right above an open one where a list has ended. -/
theorem mem_crowdedLists_iff_place {d : Document} {k : Int} :
    k ∈ d.crowdedLists ↔
      (∃ i : Nat, ¬ InCode d.lines i ∧ Item d.lines i ∧ ¬ InList d.lines i ∧ 0 < i ∧
        Open d.lines (i - 1) ∧ k = i + 1) ∨
      ∃ i : Nat, ¬ InCode d.lines i ∧ ¬ Item d.lines i ∧ InList d.lines i ∧ Open d.lines i ∧
        k = i := by
  rw [Document.crowdedLists, ListScan.mem_crowded_iff]
  constructor
  · rintro ⟨i, line, hline, h⟩
    obtain ⟨hcode, hbegins | hends⟩ := (ListScan.mem_touching_place_iff hline).mp h
    · exact .inl ⟨i, hcode, hbegins⟩
    · exact .inr ⟨i, hcode, hends⟩
  · rintro (⟨i, hcode, hbegins⟩ | ⟨i, hcode, hends⟩)
    · obtain ⟨line, hline⟩ := hbegins.1.exists_line
      exact ⟨i, line, hline, (ListScan.mem_touching_place_iff hline).mpr ⟨hcode, .inl hbegins⟩⟩
    · obtain ⟨line, hline⟩ := hends.2.2.1.exists_line
      exact ⟨i, line, hline, (ListScan.mem_touching_place_iff hline).mpr ⟨hcode, .inr hends⟩⟩

/-- **Lists by place.** The rule about lists always answers, and with exactly two sets of lines: items
where a list begins right below an open line, and items where a list ends right above one.  The walk
remembers, wherever it comes to, what the lines before say of code and lists, and is never in both. -/
theorem lists_reported_by_place (d : Document) (fields : Fields) :
    (∃ reported, Rule.listSurround.evaluate d fields = .ok reported ∧
      reported.Pairwise (· < ·) ∧
      ∀ k : Int, k ∈ reported ↔
        (∃ i : Nat, ¬ InCode d.lines i ∧ Item d.lines i ∧ ¬ InList d.lines i ∧ 0 < i ∧
          Open d.lines (i - 1) ∧ k = i + 1) ∨
        ∃ i : Nat, ¬ InCode d.lines i ∧ ¬ Item d.lines i ∧ InList d.lines i ∧ Open d.lines i ∧
          k = i) ∧
    ∀ before rest, d.lines = before ++ rest →
      d.crowdedLists = ListScan.crowded {} 1 before ++
          (ListScan.after before).crowded (1 + before.length) rest ∧
        (ListScan.after before).Describes d.lines before.length := by
  refine ⟨⟨_, Rule.evaluate_always _ _ _, pairwise_ascending _, fun k => ?_⟩,
    fun before rest hlines => ⟨?_, ?_⟩⟩
  · rw [mem_ascending, mem_crowdedLists_iff_place]
  · rw [Document.crowdedLists, hlines, ListScan.crowded_append, ListScan.after]
  · have hle : before.length ≤ d.lines.length := by simp [hlines]
    have hwalk := ListScan.after_take hle
    rw [hlines, List.take_left] at hwalk
    rw [hlines]
    exact hwalk

/-- A list right after text and right before a block of code, an item in there, and a list after it. -/
theorem lists_reported_by_place_around_code :
    let before : List Text := ["a", "* b", "```"].map String.toList
    let rest : List Text := ["- c", "```", "1. d", "e"].map String.toList
    let d : Document := { lines := before ++ rest }
    Rule.listSurround.evaluate d [] = .ok [2, 6] ∧
      d.crowdedLists = ListScan.crowded {} 1 before ++ (ListScan.after before).crowded 4 rest ∧
      (ListScan.after before).inCode = true ∧ (ListScan.after before).Describes d.lines 3 := by
  intro before rest d
  have h := (lists_reported_by_place d []).2 before rest rfl
  exact ⟨by decide, h.1, by decide, h.2⟩

end Reported

end MarkdownCheck
