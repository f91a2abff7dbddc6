import Mathlib.Algebra.Ring.Parity
import Mathlib.Data.List.TakeWhile
import MarkdownCheck.Proofs.Seam

/-!
# What a line is made of

The checks of blank lines around blocks scan a line for what it begins with.  Here is what they scan
for, said by how the line is put together:

* `Text.StartsFence`: three grave accents or three tildes, and anything after them;
* `Text.StartsItem`: a mark, a blank, and anything after them, where a mark is a bullet or some digits
  and a point (`Text.ItemMark`);
* a line that is open has a first character, and that is no blank.

`Lines` says the same of places in a list of lines, counted from zero.  A place beyond the end has no
line, so nothing of the kind holds of it.
-/

namespace MarkdownCheck

namespace Text

/-! ## Fences -/

/-- Whether a text starts with a mark of fences. -/
def StartsFence (t : Text) : Prop := ∃ rest, t = "```".toList ++ rest ∨ t = "~~~".toList ++ rest

theorem any_isPrefixOf_fenceMarks_iff {t : Text} :
    fenceMarks.any (·.isPrefixOf t) = true ↔ t.StartsFence := by
  have hmarks : fenceMarks = ["```".toList, "~~~".toList] := rfl
  simp only [hmarks, List.any_cons, List.any_nil, Bool.or_false, Bool.or_eq_true,
    List.isPrefixOf_iff_prefix, StartsFence, exists_or]
  exact or_congr (exists_congr fun _ => eq_comm) (exists_congr fun _ => eq_comm)

instance (t : Text) : Decidable t.StartsFence :=
  decidable_of_iff _ any_isPrefixOf_fenceMarks_iff

theorem isFence_iff {line : Text} : line.isFence = true ↔ line.trim.StartsFence :=
  any_isPrefixOf_fenceMarks_iff

@[simp] theorem not_startsFence_nil : ¬ StartsFence [] := by decide

/-! ## Items -/

/-- What a list item may be marked with: a bullet, or some digits and a point. -/
inductive ItemMark : Text → Prop
  | bullet {c : Char} (h : c ∈ ['*', '+', '-']) : ItemMark [c]
  | number {digits : Text} (hne : digits ≠ []) (h : ∀ c ∈ digits, isDecimalDigit c = true) :
    ItemMark (digits ++ ['.'])

/-- Whether a text starts with the mark of an item and a blank. -/
def StartsItem (t : Text) : Prop :=
  ∃ mark c rest, ItemMark mark ∧ isBlank c = true ∧ t = mark ++ c :: rest

theorem startsBlank_iff {t : Text} :
    t.startsBlank = true ↔ ∃ c rest, isBlank c = true ∧ t = c :: rest := by
  cases t with
  | nil => simp [startsBlank]
  | cons c rest => simp [startsBlank, and_comm]

theorem startsMarker_bullet {c : Char} (h : c ∈ ['*', '+', '-']) (rest : Text) :
    startsMarker (c :: rest) = startsBlank rest :=
  if_pos h

/-- The digits of a number end at its point. -/
theorem startsMarker_digits {digits : Text} (hne : digits ≠ [])
    (h : ∀ c ∈ digits, isDecimalDigit c = true) (rest : Text) :
    startsMarker (digits ++ '.' :: rest) = startsBlank rest := by
  obtain ⟨first, digits, rfl⟩ := List.exists_cons_of_ne_nil hne
  have hfirst : isDecimalDigit first = true := h first List.mem_cons_self
  have hbullet : first ∉ ['*', '+', '-'] := by
    intro hmem
    simp only [List.mem_cons, List.not_mem_nil, or_false] at hmem
    rcases hmem with rfl | rfl | rfl <;> exact absurd hfirst (by decide)
  have hpoint : ¬ isDecimalDigit '.' = true := by decide
  have htail : (digits ++ '.' :: rest).dropWhile isDecimalDigit = '.' :: rest := by
    rw [List.dropWhile_append_of_pos fun c hc => h c (List.mem_cons_of_mem _ hc),
      List.dropWhile_cons_of_neg hpoint]
  simp only [List.cons_append, startsMarker, if_neg hbullet, if_pos hfirst, htail]

theorem startsMarker_of_startsItem {t : Text} (h : t.StartsItem) : t.startsMarker = true := by
  obtain ⟨mark, c, rest, hmark, hc, rfl⟩ := h
  have hblank : startsBlank (c :: rest) = true := startsBlank_iff.mpr ⟨c, rest, hc, rfl⟩
  cases hmark with
  | bullet h =>
    rw [List.singleton_append, startsMarker_bullet h]
    exact hblank
  | number hne h =>
    rw [List.append_assoc, List.singleton_append, startsMarker_digits hne h]
    exact hblank

theorem startsItem_of_startsMarker {t : Text} (h : t.startsMarker = true) : t.StartsItem := by
  cases t with
  | nil => cases h
  | cons first rest =>
    rw [startsMarker] at h
    split_ifs at h with hbullet hdigit
    · obtain ⟨c, rest, hc, rfl⟩ := startsBlank_iff.mp h
      exact ⟨[first], c, rest, .bullet hbullet, hc, rfl⟩
    · -- the number is all digits there are, then the point
      split at h
      · rename_i s hs
        obtain ⟨c, s, hc, rfl⟩ := startsBlank_iff.mp h
        have hdigits : ∀ d ∈ first :: rest.takeWhile isDecimalDigit, isDecimalDigit d = true := by
          intro d hd
          rcases List.mem_cons.mp hd with rfl | hd
          · exact hdigit
          · exact List.mem_takeWhile_imp hd
        refine ⟨_, c, s, .number (List.cons_ne_nil _ _) hdigits, hc, ?_⟩
        rw [List.append_assoc, List.singleton_append, List.cons_append, ← hs,
          List.takeWhile_append_dropWhile]
      · cases h

theorem isMarker_iff {line : Text} : line.isMarker = true ↔ line.trim.StartsItem :=
  ⟨startsItem_of_startsMarker, startsMarker_of_startsItem⟩

theorem isOpen_iff {line : Text} :
    line.isOpen = true ↔ ∃ c rest, isBlank c = false ∧ line = c :: rest := by
  cases line with
  | nil => simp [isOpen]
  | cons c rest => simp [isOpen, startsBlank]

end Text

/-! ## Places -/

namespace Lines

variable (lines : List Text) (i : Nat)

/-- A fence stands at place `i`. -/
def Fence : Prop := ∃ line, lines[i]? = some line ∧ line.trim.StartsFence

/-- An item of a list stands at place `i`. -/
def Item : Prop := ∃ line, lines[i]? = some line ∧ line.trim.StartsItem

/-- A line stands at place `i` that has something to say at its very beginning. -/
def Open : Prop := ∃ c rest, lines[i]? = some (c :: rest) ∧ isBlank c = false

/-- A line stands at place `i` that does not hold blanks only. -/
def Filled : Prop := ∃ line, lines[i]? = some line ∧ ∃ c ∈ line, isBlank c = false

/-- How many fences stand before place `i`. -/
def fencesBefore : Nat := (lines.take i).countP fun line => line.trim.StartsFence

variable {lines i}

theorem fence_iff : Fence lines i ↔ ∃ line, lines[i]? = some line ∧ line.isFence = true :=
  exists_congr fun _ => and_congr_right fun _ => Text.isFence_iff.symm

theorem item_iff : Item lines i ↔ ∃ line, lines[i]? = some line ∧ line.isMarker = true :=
  exists_congr fun _ => and_congr_right fun _ => Text.isMarker_iff.symm

theorem open_iff : Open lines i ↔ ∃ line, lines[i]? = some line ∧ line.isOpen = true := by
  simp only [Text.isOpen_iff]
  constructor
  · rintro ⟨c, rest, hline, hc⟩
    exact ⟨_, hline, c, rest, hc, rfl⟩
  · rintro ⟨_, hline, c, rest, hc, rfl⟩
    exact ⟨c, rest, hline, hc⟩

theorem Item.exists_line (h : Item lines i) : ∃ line, lines[i]? = some line :=
  h.imp fun _ => And.left

theorem Open.exists_line (h : Open lines i) : ∃ line, lines[i]? = some line := by
  obtain ⟨c, rest, hline, -⟩ := h
  exact ⟨_, hline⟩

theorem filled_iff : Filled lines i ↔ ∃ line, lines[i]? = some line ∧ line.allBlank = false := by
  simp [Filled, Text.allBlank]

/-- Code is where the number of fences before is odd. -/
theorem odd_fencesBefore_iff : Odd (fencesBefore lines i) ↔ codeAt lines i = true := by
  have hcount : fencesBefore lines i = (lines.take i).countP Text.isFence :=
    List.countP_congr fun line _ => by rw [decide_eq_true_iff, Text.isFence_iff]
  rw [hcount, codeAt, leavesCodeOpen, decide_eq_true_iff, Nat.odd_iff]

theorem fencesBefore_succ (h : Fence lines i) :
    fencesBefore lines (i + 1) = fencesBefore lines i + 1 := by
  obtain ⟨line, hline, hfence⟩ := h
  unfold fencesBefore
  rw [List.take_add_one, hline, Option.toList_some, List.countP_append, List.countP_singleton,
    if_pos (decide_eq_true hfence)]

end Lines

end MarkdownCheck
