import MarkdownCheck.Check.Bullet
import Mathlib.Data.List.Basic
import Mathlib.Tactic.SplitIfs

/-!
# What the walks over list tokens find

The checks of indentation walk over the tokens of lists with some memory: how many lists are open,
which levels were met and how far their first items were indented.  Here is what they find without
that memory:

* `mem_outermostFrom_iff`: a list is taken for an outermost one just in case as many lists are
  opened as are closed before it, so no other tokens matter (`outermostFrom_filter`);
* `unevenFrom_eq_filter`: an item is uneven just in case it is not indented like the first item of
  its level.
-/

namespace MarkdownCheck.Document

/-! ## Outermost lists -/

/-- How many more lists are opened than closed. -/
def nesting (ts : List Token) : Int :=
  (ts.countP (·.kind = .bulletListOpen) : Int) - ts.countP (·.kind = .bulletListClose)

@[simp] theorem nesting_nil : nesting [] = 0 := rfl

theorem nesting_append (before after : List Token) :
    nesting (before ++ after) = nesting before + nesting after := by
  simp only [nesting, List.countP_append]
  push_cast
  omega

theorem nesting_cons (t : Token) (rest : List Token) :
    nesting (t :: rest) = nesting [t] + nesting rest :=
  nesting_append [t] rest

theorem nesting_eq_zero_iff {ts : List Token} :
    nesting ts = 0 ↔
      ts.countP (·.kind = .bulletListOpen) = ts.countP (·.kind = .bulletListClose) := by
  unfold nesting
  omega

theorem outermostFrom_cons (depth : Int) (t : Token) (rest : List Token) :
    outermostFrom depth (t :: rest) =
      (if t.kind = .bulletListOpen ∧ depth = 0 then [t] else []) ++
        outermostFrom (depth + nesting [t]) rest := by
  rw [outermostFrom]
  by_cases hopen : t.kind = .bulletListOpen
  · by_cases hdepth : depth = 0 <;> simp [nesting, hopen, hdepth]
  · by_cases hclose : t.kind = .bulletListClose <;>
      simp [nesting, hopen, hclose, Int.sub_eq_add_neg]

theorem outermostFrom_cons_open {t : Token} {depth : Int} (h : t.kind = .bulletListOpen)
    (rest : List Token) :
    outermostFrom depth (t :: rest) =
      (if depth = 0 then [t] else []) ++ outermostFrom (depth + 1) rest := by
  by_cases hdepth : depth = 0 <;> simp [outermostFrom, h, hdepth]

theorem outermostFrom_cons_close {t : Token} {depth : Int} (h : t.kind = .bulletListClose)
    (rest : List Token) :
    outermostFrom depth (t :: rest) = outermostFrom (depth - 1) rest := by
  simp [outermostFrom, h]

theorem outermostFrom_cons_other {t : Token} {depth : Int}
    (h : t.kind ∉ [Kind.bulletListOpen, .bulletListClose]) (rest : List Token) :
    outermostFrom depth (t :: rest) = outermostFrom depth rest := by
  simp only [List.mem_cons, List.not_mem_nil, or_false, not_or] at h
  simp [outermostFrom, h.1, h.2]

/-- Only the opening and closing of lists matters for which are outermost. -/
theorem outermostFrom_filter {kinds : List Kind} (hopen : Kind.bulletListOpen ∈ kinds)
    (hclose : Kind.bulletListClose ∈ kinds) (depth : Int) (ts : List Token) :
    outermostFrom depth (ts.filter (·.kind ∈ kinds)) = outermostFrom depth ts := by
  induction ts generalizing depth with
  | nil => rfl
  | cons t rest ih =>
    by_cases ht : t.kind ∈ kinds
    · rw [List.filter_cons_of_pos (by simpa using ht), outermostFrom_cons,
        outermostFrom_cons, ih]
    · have hother : t.kind ∉ [Kind.bulletListOpen, .bulletListClose] := by
        rw [List.mem_pair]
        rintro (h | h)
        · exact ht (h ▸ hopen)
        · exact ht (h ▸ hclose)
      rw [List.filter_cons_of_neg (by simpa using ht), outermostFrom_cons_other hother, ih]

/-- Outermost lists are those before which as many lists are opened as are closed. -/
theorem mem_outermostFrom_iff {depth : Int} {ts : List Token} {t : Token} :
    t ∈ outermostFrom depth ts ↔
      ∃ before after, ts = before ++ t :: after ∧ t.kind = .bulletListOpen ∧
        depth + nesting before = 0 := by
  induction ts generalizing depth with
  | nil => simp [outermostFrom]
  | cons u rest ih =>
    rw [outermostFrom_cons, List.mem_append, ih]
    constructor
    · rintro (h | ⟨before, after, rfl, ht, hdepth⟩)
      · split_ifs at h with hu
        · obtain rfl : t = u := by simpa using h
          exact ⟨[], rest, rfl, hu.1, by simpa using hu.2⟩
        · simp at h
      · refine ⟨u :: before, after, rfl, ht, ?_⟩
        rw [nesting_cons]
        omega
    · rintro ⟨before, after, hsplit, ht, hdepth⟩
      cases before with
      | nil =>
        obtain ⟨rfl, rfl⟩ : u = t ∧ rest = after := by simpa using hsplit
        refine .inl ?_
        rw [if_pos ⟨ht, by simpa using hdepth⟩]
        exact List.mem_singleton_self u
      | cons first before =>
        obtain ⟨rfl, rfl⟩ : u = first ∧ rest = before ++ t :: after := by simpa using hsplit
        rw [nesting_cons] at hdepth
        exact .inr ⟨before, after, rfl, ht, by omega⟩

theorem mem_outermostLists_iff {d : Document} {t : Token} :
    t ∈ d.outermostLists ↔
      ∃ before after, d.tokens = before ++ t :: after ∧ t.kind = .bulletListOpen ∧
        before.countP (·.kind = .bulletListOpen) = before.countP (·.kind = .bulletListClose) := by
  refine mem_outermostFrom_iff.trans ?_
  simp only [Int.zero_add, nesting_eq_zero_iff]

/-! ## Uneven items -/

/-- The indentation to go by at a level: the one known, or that of the first item of the level. -/
def firstIndent (known : List (Int × Nat)) (items : List (Token × Nat)) (level : Int) :
    Option Nat :=
  (known.lookup level).or ((items.find? (·.1.level = level)).map (·.2))

theorem unevenFrom_eq_filter (known : List (Int × Nat)) (items : List (Token × Nat)) :
    unevenFrom known items =
      (items.filter fun p => firstIndent known items p.1.level ≠ some p.2).map (·.1.line) := by
  induction items generalizing known with
  | nil => rfl
  | cons p rest ih =>
    obtain ⟨t, indent⟩ := p
    rw [unevenFrom]
    cases hknown : known.lookup t.level with
    | none =>
      -- the item becomes the one to go by at its level
      have hsame : ∀ level, firstIndent known ((t, indent) :: rest) level =
          firstIndent ((t.level, indent) :: known) rest level := by
        intro level
        unfold firstIndent
        by_cases hl : t.level = level
        · subst hl
          simp [hknown]
        · have hl' : (level == t.level) = false := by simpa using Ne.symm hl
          simp [List.lookup_cons, hl, hl']
      have hself : firstIndent ((t.level, indent) :: known) rest t.level = some indent := by
        simp [firstIndent]
      simp only [ih, hsame]
      rw [List.filter_cons_of_neg (by simp [hself])]
    | some first =>
      have hsame : ∀ level, firstIndent known ((t, indent) :: rest) level =
          firstIndent known rest level := by
        intro level
        unfold firstIndent
        by_cases hl : t.level = level
        · subst hl
          simp [hknown]
        · simp [hl]
      have hself : firstIndent known rest t.level = some first := by simp [firstIndent, hknown]
      simp only [ih, hsame]
      by_cases heq : indent = first
      · rw [if_pos heq, List.filter_cons_of_neg (by simp [hself, heq])]
      · rw [if_neg heq, List.filter_cons_of_pos (by simpa [hself] using Ne.symm heq), List.map_cons]

/-- No item is uneven just in case all items of one level are indented alike. -/
theorem unevenFrom_nil_eq_nil_iff {items : List (Token × Nat)} :
    unevenFrom [] items = [] ↔
      ∀ p ∈ items, ∀ q ∈ items, p.1.level = q.1.level → p.2 = q.2 := by
  have hfirst : ∀ level, firstIndent [] items level =
      (items.find? (·.1.level = level)).map (·.2) := fun level => by simp [firstIndent]
  rw [unevenFrom_eq_filter, List.map_eq_nil_iff, List.filter_eq_nil_iff]
  simp only [hfirst, ne_eq, decide_not, Bool.not_eq_true', Bool.not_eq_false, decide_eq_true_eq]
  constructor
  · intro h p hp q hq hlevel
    have hq' := h q hq
    rw [← hlevel, h p hp] at hq'
    exact Option.some_inj.mp hq'
  · intro h p hp
    cases hfind : items.find? (·.1.level = p.1.level) with
    | none =>
      have := List.find?_eq_none.mp hfind p hp
      simp at this
    | some q =>
      have hq := List.mem_of_find?_eq_some hfind
      have hlevel : q.1.level = p.1.level := by simpa using List.find?_some hfind
      rw [Option.map_some, h q hq p hp hlevel]

end MarkdownCheck.Document
