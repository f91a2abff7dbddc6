import MarkdownCheck.Proofs.Evaluation
import MarkdownCheck.Proofs.ListWalk
import MarkdownCheck.Proofs.TokenLines
import Mathlib.Data.List.TakeWhile

/-!
# One indentation for each level

The walk over the items of lists knows how far the first item of each level that it has met is indented
(`Document.firstIndent`).  Here the levels are taken one by one instead: `Document.itemsAt` are the items
of a level in their order, and an item is `Document.Uneven` if it is not indented like the first of them.

So the order in which items of different levels follow each other does not matter, and nothing is reported
just in case indentation is a function of the level (`level_indents_reported`).
-/

namespace MarkdownCheck

/-- An indentation is the length of the blanks in front. -/
theorem Text.indent_eq_iff {line : Text} {n : Nat} :
    line.indent = n ↔ ∃ blanks rest, line = blanks ++ rest ∧ (∀ c ∈ blanks, isBlank c = true) ∧
      (∀ c ∈ rest.head?, isBlank c = false) ∧ blanks.length = n := by
  constructor
  · intro h
    refine ⟨line.takeWhile isBlank, line.dropWhile isBlank, ?_, fun c hc => ?_, fun c hc => ?_, h⟩
    · exact (List.takeWhile_append_dropWhile).symm
    · exact List.mem_takeWhile_imp hc
    · have hstop := List.head?_dropWhile_not isBlank line
      rw [Option.mem_def.mp hc] at hstop
      simpa using hstop
  · rintro ⟨blanks, rest, rfl, hblanks, hrest, rfl⟩
    have hstop : rest.takeWhile isBlank = [] := by
      cases rest with
      | nil => rfl
      | cons c rest => exact List.takeWhile_cons_of_neg (by simp [hrest c rfl])
    rw [indent, List.takeWhile_append_of_pos hblanks, hstop, List.append_nil]

namespace Document

/-- How far the line of a token is indented: so many blanks, and then none. -/
def Indented (d : Document) (t : Token) (n : Nat) : Prop :=
  ∃ blanks rest, d.lineOf t = .ok (blanks ++ rest) ∧ (∀ c ∈ blanks, isBlank c = true) ∧
    (∀ c ∈ rest.head?, isBlank c = false) ∧ blanks.length = n

/-- The items of a level, in order. -/
def itemsAt (d : Document) (level : Int) : List Token := d.listItems.filter (·.level = level)

/-- An item that is not indented like the first of its level. -/
def Uneven (d : Document) (t : Token) : Prop :=
  ∃ first n m, (d.itemsAt t.level).head? = some first ∧ d.Indented t n ∧ d.Indented first m ∧ n ≠ m

variable {d : Document} {t : Token}

theorem indented_iff {n : Nat} : d.Indented t n ↔ d.indentOf t = .ok n := by
  rw [indentOf, map_eq_ok_iff]
  simp only [Text.indent_eq_iff]
  constructor
  · rintro ⟨blanks, rest, hline, hblanks⟩
    exact ⟨_, hline, blanks, rest, rfl, hblanks⟩
  · rintro ⟨line, hline, blanks, rest, rfl, hblanks⟩
    exact ⟨blanks, rest, hline, hblanks⟩

/-- The line of a token is indented in one way. -/
theorem Indented.unique {n m : Nat} (h : d.Indented t n) (h' : d.Indented t m) : n = m := by
  rw [indented_iff] at h h'
  exact Except.ok.inj (h.symm.trans h')

theorem mem_itemsAt_iff {level : Int} : t ∈ d.itemsAt level ↔ t ∈ d.listItems ∧ t.level = level := by
  simp [itemsAt]

theorem head?_itemsAt (level : Int) :
    (d.itemsAt level).head? = d.listItems.find? (·.level = level) := List.head?_filter

theorem exists_head_itemsAt (ht : t ∈ d.listItems) :
    ∃ first ∈ d.listItems, (d.itemsAt t.level).head? = some first := by
  cases hhead : (d.itemsAt t.level).head? with
  | none =>
    have hself := mem_itemsAt_iff.mpr ⟨ht, rfl⟩
    rw [List.head?_eq_none_iff.mp hhead] at hself
    exact absurd hself List.not_mem_nil
  | some first => exact ⟨first, (mem_itemsAt_iff.mp (List.mem_of_head? hhead)).1, rfl⟩

/-! ## The check -/

section Check

variable {indent : Token → Nat}

theorem exists_indent (h : ∀ t ∈ d.listItems, d.Readable t) :
    ∃ indent : Token → Nat, ∀ t ∈ d.listItems, d.Indented t (indent t) := by
  have hitem : ∀ t ∈ d.listItems, ∃ n, d.Indented t n := by
    intro t ht
    obtain ⟨line, hline⟩ := exists_lineOf_iff.mpr (h t ht)
    exact ⟨line.indent, indented_iff.mpr (map_eq_ok_iff.mpr ⟨line, hline, rfl⟩)⟩
  choose! indent hindent using hitem
  exact ⟨indent, hindent⟩

theorem uneven_iff (h : ∀ t ∈ d.listItems, d.Indented t (indent t)) (ht : t ∈ d.listItems) :
    d.Uneven t ↔ (d.itemsAt t.level).head?.map indent ≠ some (indent t) := by
  obtain ⟨first, hmem, hfirst⟩ := exists_head_itemsAt ht
  rw [hfirst, Option.map_some, Ne, Option.some.injEq]
  constructor
  · rintro ⟨other, n, m, hother, hn, hm, hne⟩ heq
    obtain rfl : first = other := Option.some.inj (hfirst.symm.trans hother)
    apply hne
    rw [hn.unique (h t ht), hm.unique (h first hmem), heq]
  · intro hne
    exact ⟨first, indent t, indent first, hfirst, h t ht, h first hmem, Ne.symm hne⟩

/-- The walk goes by the first item of each level. -/
theorem firstIndent_nil (level : Int) :
    firstIndent [] (d.listItems.map fun t => (t, indent t)) level =
      (d.itemsAt level).head?.map indent := by
  rw [firstIndent, List.lookup_nil, Option.none_or, List.find?_map, Option.map_map, head?_itemsAt]
  rfl

theorem unevenItems_eq (h : ∀ t ∈ d.listItems, d.Indented t (indent t)) :
    d.unevenItems = .ok
      ((d.listItems.filter fun t => (d.itemsAt t.level).head?.map indent ≠ some (indent t)).map
        (·.line)) := by
  have hread : d.withIndent d.listItems = .ok (d.listItems.map fun t => (t, indent t)) := by
    refine mapM_eq_ok fun t ht => ?_
    rw [indented_iff.mp (h t ht)]
    rfl
  rw [unevenItems, hread]
  show Except.ok (unevenFrom [] _) = _
  rw [unevenFrom_eq_filter, List.filter_map, List.map_map]
  simp only [Function.comp_def, firstIndent_nil]

/-- Where all items can be read, the check finds the uneven ones. -/
theorem exists_unevenItems (h : ∀ t ∈ d.listItems, d.Readable t) :
    ∃ lines, d.unevenItems = .ok lines ∧
      ∀ k, k ∈ lines ↔ ∃ t ∈ d.listItems, t.line = k ∧ d.Uneven t := by
  obtain ⟨indent, hindent⟩ := exists_indent h
  refine ⟨_, unevenItems_eq hindent, fun k => ?_⟩
  simp only [List.mem_map, List.mem_filter, decide_eq_true_eq]
  constructor
  · rintro ⟨t, ⟨ht, hne⟩, hline⟩
    exact ⟨t, ht, hline, (uneven_iff hindent ht).mpr hne⟩
  · rintro ⟨t, ht, hline, huneven⟩
    exact ⟨t, ⟨ht, (uneven_iff hindent ht).mp huneven⟩, hline⟩

theorem evaluate_listIndent_iff (h : ∀ t ∈ d.listItems, d.Readable t) {fields : Fields}
    {reported : List Int} :
    Rule.listIndent.evaluate d fields = .ok reported ↔
      reported.Pairwise (· < ·) ∧
        ∀ k, k ∈ reported ↔ ∃ t ∈ d.listItems, t.line = k ∧ d.Uneven t := by
  obtain ⟨lines, hlines, hmem⟩ := exists_unevenItems h
  rw [Rule.listIndent, Rule.evaluate_fallible_eq_ok_iff, hlines]
  simp [hmem]

end Check

/-! ## Levels -/

/-- No item is uneven just in case the indentation of an item is a function of its level. -/
theorem forall_not_uneven_iff (h : ∀ t ∈ d.listItems, d.Readable t) :
    (∀ t ∈ d.listItems, ¬ d.Uneven t) ↔
      ∃ indent : Int → Nat, ∀ t ∈ d.listItems, d.Indented t (indent t.level) := by
  obtain ⟨indent, hindent⟩ := exists_indent h
  constructor
  · intro heven
    refine ⟨fun level => ((d.itemsAt level).head?.map indent).getD 0, fun t ht => ?_⟩
    have hsame : (d.itemsAt t.level).head?.map indent = some (indent t) := by
      by_contra hne
      exact heven t ht ((uneven_iff hindent ht).mpr hne)
    simp only [hsame, Option.getD_some]
    exact hindent t ht
  · rintro ⟨indentAt, hlevel⟩ t ht ⟨first, n, m, hfirst, hn, hm, hne⟩
    obtain ⟨hmem, hsame⟩ := mem_itemsAt_iff.mp (List.mem_of_head? hfirst)
    apply hne
    rw [hn.unique (hlevel t ht), hm.unique (hlevel first hmem), hsame]

/-- Lines in common, and the same items on each level in the same order. -/
structure SameLevels (d e : Document) : Prop where
  lines : d.lines = e.lines
  items : ∀ level, d.itemsAt level = e.itemsAt level

namespace SameLevels

variable {e : Document} (h : d.SameLevels e)

include h

theorem mem_listItems_iff : t ∈ d.listItems ↔ t ∈ e.listItems := by
  have hlevel : t ∈ d.itemsAt t.level ↔ t ∈ e.itemsAt t.level := by rw [h.items]
  simpa only [mem_itemsAt_iff, and_true] using hlevel

theorem readable_iff : d.Readable t ↔ e.Readable t := by
  unfold Readable
  rw [h.lines]

theorem indented_iff {n : Nat} : d.Indented t n ↔ e.Indented t n := by
  unfold Indented
  simp only [lineOf, line, h.lines]

theorem uneven_iff : d.Uneven t ↔ e.Uneven t := by
  simp only [Uneven, h.items, h.indented_iff]

end SameLevels

end Document

/-- **One indentation for each level.** Where all items can be read, those are reported that are not
indented like the first item of their level.  So nothing is reported just in case indentation is a function
of the level, and any other order of the tokens that leaves the items of each level in theirs gives the same
answer. -/
theorem level_indents_reported (d : Document) (hread : ∀ t ∈ d.listItems, d.Readable t)
    (fields : Fields) :
    ∃ reported, Rule.listIndent.evaluate d fields = .ok reported ∧
      reported.Pairwise (· < ·) ∧
      (∀ k, k ∈ reported ↔ ∃ t ∈ d.listItems, t.line = k ∧ d.Uneven t) ∧
      (reported = [] ↔
        ∃ indent : Int → Nat, ∀ t ∈ d.listItems, d.Indented t (indent t.level)) ∧
      ∀ e : Document, d.SameLevels e → ∀ others, Rule.listIndent.evaluate e others = .ok reported := by
  obtain ⟨lines, hlines, hmem⟩ := Document.exists_unevenItems hread
  have hreported : ∀ k, k ∈ ascending lines ↔ ∃ t ∈ d.listItems, t.line = k ∧ d.Uneven t := by
    intro k
    rw [mem_ascending, hmem]
  have hsorted := pairwise_ascending lines
  refine ⟨ascending lines, (Document.evaluate_listIndent_iff hread).mpr ⟨hsorted, hreported⟩,
    hsorted, hreported, ?_, fun e h others => ?_⟩
  · rw [← Document.forall_not_uneven_iff hread, List.eq_nil_iff_forall_not_mem]
    constructor
    · intro hnone t ht huneven
      exact hnone t.line ((hreported t.line).mpr ⟨t, ht, rfl, huneven⟩)
    · intro heven k hk
      obtain ⟨t, ht, -, huneven⟩ := (hreported k).mp hk
      exact heven t ht huneven
  · have hread' : ∀ t ∈ e.listItems, e.Readable t := fun t ht =>
      h.readable_iff.mp (hread t (h.mem_listItems_iff.mpr ht))
    refine (Document.evaluate_listIndent_iff hread').mpr ⟨hsorted, fun k => ?_⟩
    rw [hreported]
    simp only [h.mem_listItems_iff, h.uneven_iff]

/-- Items of two levels that come back to each other, also with the deeper ones first. -/
theorem level_indents_reported_reordered :
    let items := fun level lines => (lines : List Int).map fun line =>
      ({ kind := .listItemOpen, line, level } : Token)
    let lines := ["* a", "   * b", " * c", "   * d", "\t* e"].map String.toList
    let d : Document := { lines, tokens := items 1 [1] ++ items 3 [2] ++ items 1 [3] ++ items 3 [4, 0] }
    let e : Document := { lines, tokens := items 3 [2, 4] ++ items 1 [1, 3] ++ items 3 [0] }
    (∀ t ∈ d.listItems, d.Readable t) ∧ d.SameLevels e ∧
      Rule.listIndent.evaluate d [] = .ok [0, 3] ∧
      Rule.listIndent.evaluate e [] = .ok [0, 3] := by
  intro items lines d e
  have hread : ∀ t ∈ d.listItems, d.Readable t := by decide
  have hsame : d.SameLevels e := by
    refine ⟨rfl, fun level => ?_⟩
    by_cases h1 : 1 = level
    · subst h1
      rfl
    · by_cases h3 : 3 = level
      · subst h3
        rfl
      · simp [Document.itemsAt, Document.listItems, Document.select, d, e, items, h1, h3]
  have hevaluate : Rule.listIndent.evaluate d [] = .ok [0, 3] := rfl
  obtain ⟨reported, hd, -, -, -, hreordered⟩ := level_indents_reported d hread []
  obtain rfl : reported = [0, 3] := Except.ok.inj (hd.symm.trans hevaluate)
  exact ⟨hread, hsame, hevaluate, hreordered e hsame []⟩

end MarkdownCheck
