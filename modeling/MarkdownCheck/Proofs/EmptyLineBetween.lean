import MarkdownCheck.Proofs.Evaluation
import MarkdownCheck.Proofs.RepeatedBlanks
import MarkdownCheck.Proofs.Seam
import Mathlib.Algebra.Group.Nat.Even

/-!
# An empty line outside of code parts a document in two

Where an empty line follows lines that leave no block of code open, a rule that reads the lines
alone starts afresh. Its answer on the whole is its answer on the lines above, then its answer on
the lines below, counted on from there (`parted_by_empty_line`).

* Nothing but single lines matters to the rules about blanks at the end, tabs and length.
* The rules about fences and about lists read seams, and no seam has an empty line on a side where
  it counts (`seam_parted_iff`).
* The rule about repeated blank lines reads neighbours, and the empty line is a blank one itself. So
  neither of the pieces may have a blank line next to it.
-/

namespace MarkdownCheck

/-! ## Lines in two pieces -/

section Parted

variable {above below : List Text}

theorem getElem?_parted_above {i : Nat} (h : i < above.length) :
    (above ++ [] :: below)[i]? = above[i]? :=
  List.getElem?_append_left h

theorem getElem?_parted_between : (above ++ [] :: below)[above.length]? = some [] := by
  simp

theorem getElem?_parted_below (i : Nat) :
    (above ++ [] :: below)[above.length + 1 + i]? = below[i]? := by
  rw [List.getElem?_append_right (by omega), show above.length + 1 + i - above.length = i + 1 by omega,
    List.getElem?_cons_succ]

/-- A line of the whole stands above, is the empty one, or stands below. -/
theorem getElem?_parted_cases {i : Nat} {line : Text}
    (h : (above ++ [] :: below)[i]? = some line) :
    above[i]? = some line ∨ i = above.length ∧ line = [] ∨
      ∃ j, i = above.length + 1 + j ∧ below[j]? = some line := by
  rcases Nat.lt_trichotomy i above.length with hlt | rfl | hgt
  · rw [getElem?_parted_above hlt] at h
    exact .inl h
  · rw [getElem?_parted_between, Option.some.injEq] at h
    exact .inr (.inl ⟨rfl, h.symm⟩)
  · obtain ⟨j, rfl⟩ := Nat.exists_eq_add_of_le (show above.length + 1 ≤ i from hgt)
    rw [getElem?_parted_below] at h
    exact .inr (.inr ⟨j, rfl, h⟩)

theorem codeAt_parted_above {i : Nat} (h : i ≤ above.length) :
    codeAt (above ++ [] :: below) i = codeAt above i := by
  unfold codeAt
  rw [List.take_append_of_le_length h]

/-- Above the empty line no block of code is left open, so none is below it at the start. -/
theorem codeAt_parted_below (hclosed : leavesCodeOpen above = false) (i : Nat) :
    codeAt (above ++ [] :: below) (above.length + 1 + i) = codeAt below i := by
  have htake : (above ++ [] :: below).take (above.length + 1 + i) = above ++ [] :: below.take i := by
    rw [Nat.add_assoc, List.take_length_add_append, Nat.add_comm 1, List.take_succ_cons]
  unfold codeAt
  rw [htake, leavesCodeOpen_append, hclosed, ← List.singleton_append, leavesCodeOpen_append,
    leavesCodeOpen_singleton, isFence_nil, Bool.false_xor, Bool.false_xor]

/-- Lines that are not empty meet in one of the pieces, if they meet in the whole. -/
theorem seam_parted_iff (hclosed : leavesCodeOpen above = false) {j : Nat} {a b : Text}
    (ha : a ≠ []) (hb : b ≠ []) :
    Seam (above ++ [] :: below) j a b ↔
      Seam above j a b ∨ ∃ i, j = above.length + 1 + i ∧ Seam below i a b := by
  constructor
  · rintro ⟨hupper, hlower, hout⟩
    rcases getElem?_parted_cases hupper with hupper' | ⟨-, rfl⟩ | ⟨i, rfl, hupper'⟩
    · rcases getElem?_parted_cases hlower with hlower' | ⟨-, rfl⟩ | ⟨i, hi, -⟩
      · have hj : j + 1 ≤ above.length := (List.getElem?_eq_some_iff.mp hlower').1.le
        rw [codeAt_parted_above hj] at hout
        exact .inl ⟨hupper', hlower', hout⟩
      · exact absurd rfl hb
      · have hj : j < above.length := (List.getElem?_eq_some_iff.mp hupper').1
        omega
    · exact absurd rfl ha
    · rw [Nat.add_assoc, getElem?_parted_below] at hlower
      rw [Nat.add_assoc, codeAt_parted_below hclosed] at hout
      exact .inr ⟨i, rfl, hupper', hlower, hout⟩
  · rintro (⟨hupper, hlower, hout⟩ | ⟨i, rfl, hupper, hlower, hout⟩)
    · have hj : j + 1 < above.length := (List.getElem?_eq_some_iff.mp hlower).1
      refine ⟨?_, ?_, ?_⟩
      · rw [getElem?_parted_above (by omega)]
        exact hupper
      · rw [getElem?_parted_above hj]
        exact hlower
      · rw [codeAt_parted_above hj.le]
        exact hout
    · refine ⟨?_, ?_, ?_⟩
      · rw [getElem?_parted_below]
        exact hupper
      · rw [Nat.add_assoc, getElem?_parted_below]
        exact hlower
      · rw [Nat.add_assoc, codeAt_parted_below hclosed]
        exact hout

end Parted

/-! ## Checks -/

/-- What a check reports on the whole is what it reports on the two pieces, with the lines of the
second one counted on. -/
structure ReportsInParts (check : Document → List Int) (whole above below : Document) : Prop where
  mem_iff : ∀ k, k ∈ check whole ↔
    k ∈ check above ∨ ∃ j ∈ check below, k = j + (above.lines.length + 1)
  /-- No line outside of a piece is reported. -/
  bounds : ∀ {d : Document} {k : Int}, k ∈ check d → 1 ≤ k ∧ k ≤ d.lines.length

section Checks

variable {whole above below : Document} (hwhole : whole.lines = above.lines ++ [] :: below.lines)
include hwhole

theorem linesWhere_reportsInParts {p : Text → Bool} (hp : p [] = false) :
    ReportsInParts (·.linesWhere p) whole above below where
  mem_iff k := by
    simp only [Document.mem_linesWhere, hwhole]
    constructor
    · rintro ⟨i, line, hline, hpline, rfl⟩
      rcases getElem?_parted_cases hline with hline' | ⟨-, rfl⟩ | ⟨j, rfl, hline'⟩
      · exact .inl ⟨i, line, hline', hpline, rfl⟩
      · exact absurd hpline (by simp [hp])
      · exact .inr ⟨_, ⟨j, line, hline', hpline, rfl⟩, by push_cast; omega⟩
    · rintro (⟨i, line, hline, hpline, rfl⟩ | ⟨_, ⟨i, line, hline, hpline, rfl⟩, rfl⟩)
      · have hi : i < above.lines.length := (List.getElem?_eq_some_iff.mp hline).1
        refine ⟨i, line, ?_, hpline, rfl⟩
        rw [getElem?_parted_above hi]
        exact hline
      · refine ⟨above.lines.length + 1 + i, line, ?_, hpline, by push_cast; omega⟩
        rw [getElem?_parted_below]
        exact hline
  bounds := Document.linesWhere_bounds

theorem ReadsSeams.reportsInParts {check : Document → List Int}
    {blame : Text → Text → Side → Prop} (hr : ReadsSeams check blame)
    (hclosed : leavesCodeOpen above.lines = false) : ReportsInParts check whole above below where
  mem_iff k := by
    simp only [hr.mem_iff, hwhole]
    constructor
    · rintro ⟨j, a, b, side, hs, hblame, rfl⟩
      obtain ⟨ha, hb⟩ := hr.ne_nil hblame
      rcases (seam_parted_iff hclosed ha hb).mp hs with hs' | ⟨i, rfl, hs'⟩
      · exact .inl ⟨j, a, b, side, hs', hblame, rfl⟩
      · exact .inr ⟨_, ⟨i, a, b, side, hs', hblame, rfl⟩, by push_cast; omega⟩
    · rintro (⟨j, a, b, side, hs, hblame, rfl⟩ | ⟨_, ⟨i, a, b, side, hs, hblame, rfl⟩, rfl⟩)
      · obtain ⟨ha, hb⟩ := hr.ne_nil hblame
        exact ⟨j, a, b, side, (seam_parted_iff hclosed ha hb).mpr (.inl hs), hblame, rfl⟩
      · obtain ⟨ha, hb⟩ := hr.ne_nil hblame
        exact ⟨_, a, b, side, (seam_parted_iff hclosed ha hb).mpr (.inr ⟨i, rfl, hs⟩), hblame,
          by push_cast; omega⟩
  bounds := hr.bounds

/-- Two blank lines that meet do so in one of the pieces, unless one of them is the empty line. -/
theorem repeatedBlanks_reportsInParts (hcode : ∀ d ∈ [whole, above, below], ∀ i, d.inCode i = false)
    (hlast : ∀ line ∈ above.lines.getLast?, Text.allBlank line = false)
    (hfirst : ∀ line ∈ below.lines.head?, Text.allBlank line = false) :
    ReportsInParts Document.repeatedBlanks whole above below where
  mem_iff k := by
    have hwholeCode := hcode whole (by simp)
    have haboveCode := hcode above (by simp)
    have hbelowCode := hcode below (by simp)
    simp only [Document.mem_repeatedBlanks_iff, hwhole, hwholeCode, haboveCode, hbelowCode, true_and]
    constructor
    · rintro ⟨j, a, b, ha, hb, hablank, hbblank, rfl⟩
      rcases getElem?_parted_cases ha with ha' | ⟨rfl, -⟩ | ⟨i, rfl, ha'⟩
      · rcases getElem?_parted_cases hb with hb' | ⟨hj, -⟩ | ⟨i, hi, -⟩
        · exact .inl ⟨j, a, b, ha', hb', hablank, hbblank, rfl⟩
        · -- the empty line comes right after the last one above
          have hmem : a ∈ above.lines.getLast? := by
            rw [List.getLast?_eq_getElem?, ← hj, Nat.add_sub_cancel]
            exact ha'
          exact absurd hablank (by simp [hlast a hmem])
        · have hj : j < above.lines.length := (List.getElem?_eq_some_iff.mp ha').1
          omega
      · -- the empty line comes right before the first one below
        have hmem : b ∈ below.lines.head? := by
          rw [List.head?_eq_getElem?]
          exact (getElem?_parted_below 0).symm.trans hb
        exact absurd hbblank (by simp [hfirst b hmem])
      · rw [Nat.add_assoc, getElem?_parted_below] at hb
        exact .inr ⟨_, ⟨i, a, b, ha', hb, hablank, hbblank, rfl⟩, by push_cast; omega⟩
    · rintro (⟨j, a, b, ha, hb, hablank, hbblank, rfl⟩ |
        ⟨_, ⟨i, a, b, ha, hb, hablank, hbblank, rfl⟩, rfl⟩)
      · have hj : j + 1 < above.lines.length := (List.getElem?_eq_some_iff.mp hb).1
        refine ⟨j, a, b, ?_, ?_, hablank, hbblank, rfl⟩
        · rw [getElem?_parted_above (by omega)]
          exact ha
        · rw [getElem?_parted_above hj]
          exact hb
      · refine ⟨above.lines.length + 1 + i, a, b, ?_, ?_, hablank, hbblank, by push_cast; omega⟩
        · rw [getElem?_parted_below]
          exact ha
        · rw [Nat.add_assoc, getElem?_parted_below]
          exact hb
  bounds := Document.repeatedBlanks_bounds

end Checks

/-! ## Rules -/

/-- Reports in parts are in order if those on the pieces are. -/
theorem ReportsInParts.ascending_eq {check : Document → List Int} {whole above below : Document}
    (h : ReportsInParts check whole above below) :
    ascending (check whole) =
      ascending (check above) ++
        (ascending (check below)).map (· + ((above.lines.length : Int) + 1)) := by
  refine ascending_eq_iff.mpr ⟨?_, fun k => ?_⟩
  · refine List.pairwise_append.mpr ⟨pairwise_ascending _, ?_, fun k hk m hm => ?_⟩
    · exact List.pairwise_map.mpr ((pairwise_ascending _).imp fun hlt => by omega)
    · obtain ⟨j, hj, rfl⟩ := List.mem_map.mp hm
      have hk' := (h.bounds (mem_ascending.mp hk)).2
      have hj' := (h.bounds (mem_ascending.mp hj)).1
      omega
  · simp only [List.mem_append, List.mem_map, mem_ascending, h.mem_iff, eq_comm]

/-- The answer of a rule on the whole is its answer on the lines above, then its answer on the lines
below, counted on from the empty line. -/
def Rule.AnswersInParts (r : Rule) (whole above below : Document) (fields : Fields) : Prop :=
  ∃ first second, r.evaluate above fields = .ok first ∧ r.evaluate below fields = .ok second ∧
    r.evaluate whole fields = .ok (first ++ second.map (· + ((above.lines.length : Int) + 1)))

theorem ReportsInParts.answersInParts {check : Document → List Int}
    {whole above below : Document} (h : ReportsInParts check whole above below) {r : Rule}
    {fields : Fields} (hr : ∀ d, r.evaluate d fields = .ok (ascending (check d))) :
    r.AnswersInParts whole above below fields := by
  refine ⟨_, _, hr above, hr below, ?_⟩
  rw [hr, h.ascending_eq]

/-- No token of the document stands for code. -/
def Document.HasNoCode (d : Document) : Prop :=
  ∀ t ∈ d.tokens, t.kind ≠ .codeBlock ∧ t.kind ≠ .fence

theorem Document.HasNoCode.inCode {d : Document} (h : d.HasNoCode) (i : Nat) :
    d.inCode i = false := by
  have hnone : d.select [.codeBlock, .fence] = [] := by
    refine List.filter_eq_nil_iff.mpr fun t ht => ?_
    simp [h t ht]
  rw [Document.inCode, hnone, List.any_nil]

/-- What the rules that read the lines alone answer where an empty line stands between two pieces
of a document. -/
structure Document.PartedIn (whole above below : Document) (fields : Fields) : Prop where
  singleLines : ∀ r ∈ [Rule.trailingSpaces, Rule.hardTabs], r.AnswersInParts whole above below fields
  lineLength : ∀ limit : Nat,
    Options.resolve Rule.lineLength.parameter fields = .ok limit → limit < 4294967295 →
      Rule.lineLength.AnswersInParts whole above below fields
  blocks : Even (above.lines.countP Text.isFence) →
    ∀ r ∈ [Rule.fenceSurround, Rule.listSurround], r.AnswersInParts whole above below fields
  multipleBlanks : (∀ d ∈ [whole, above, below], d.HasNoCode) →
    (∀ line ∈ above.lines.getLast?, Text.allBlank line = false) →
      (∀ line ∈ below.lines.head?, Text.allBlank line = false) →
        Rule.multipleBlanks.AnswersInParts whole above below fields

/-- **An empty line parts a document.** The rules that read the lines alone answer the two pieces
apart; around fences and lists, if the empty line is outside of code, and about repeated blank
lines, if no blank line is next to it. -/
theorem parted_by_empty_line (whole above below : Document) (fields : Fields)
    (hwhole : whole.lines = above.lines ++ [[]] ++ below.lines) :
    whole.PartedIn above below fields := by
  rw [List.append_assoc, List.singleton_append] at hwhole
  refine ⟨fun r hr => ?_, fun limit hres hlimit => ?_, fun heven r hr => ?_,
    fun hcode hlast hfirst => ?_⟩
  · simp only [List.mem_cons, List.not_mem_nil, or_false] at hr
    rcases hr with rfl | rfl
    · exact (linesWhere_reportsInParts hwhole rfl).answersInParts fun d =>
        Rule.evaluate_always _ _ Document.trailingBlanks
    · exact (linesWhere_reportsInParts hwhole rfl).answersInParts fun d =>
        Rule.evaluate_always _ _ Document.hardTabs
  · have hempty : Text.breaksBeyond limit [] = false := rfl
    exact (linesWhere_reportsInParts hwhole hempty).answersInParts fun d =>
      Rule.evaluate_lineLength hres hlimit
  · have hclosed : leavesCodeOpen above.lines = false := by
      simp [leavesCodeOpen, Nat.even_iff.mp heven]
    simp only [List.mem_cons, List.not_mem_nil, or_false] at hr
    rcases hr with rfl | rfl
    · exact (crowdedFences_readsSeams.reportsInParts hwhole hclosed).answersInParts fun d =>
        Rule.evaluate_always _ _ _
    · exact (crowdedLists_readsSeams.reportsInParts hwhole hclosed).answersInParts fun d =>
        Rule.evaluate_always _ _ _
  · have hnone := fun d hd => (hcode d hd).inCode
    exact (repeatedBlanks_reportsInParts hwhole hnone hlast hfirst).answersInParts fun d =>
      Rule.evaluate_always _ _ _

/-- A block and a list that touch in the upper piece, and a block that stays open in the lower one. -/
theorem parted_by_empty_line_after_list :
    let above : Document :=
      { lines := ["", "```", "* x", "~~~", "- item \t"].map String.toList
        tokens := [{ kind := .listItemOpen, line := 5 }] }
    let below : Document := { lines := ["b long", "", " ", "~~~"].map String.toList }
    let whole : Document :=
      { lines := above.lines ++ [[]] ++ below.lines, tokens := above.tokens }
    let fields : Fields := [("line_length", .int 3)]
    Options.resolve Rule.lineLength.parameter fields = .ok (3 : Nat) ∧
      Even (above.lines.countP Text.isFence) ∧
      (∀ d ∈ [whole, above, below], d.HasNoCode) ∧
      (∀ line ∈ above.lines.getLast?, Text.allBlank line = false) ∧
      (∀ line ∈ below.lines.head?, Text.allBlank line = false) ∧
      Rule.lineLength.AnswersInParts whole above below fields ∧
      Rule.fenceSurround.AnswersInParts whole above below fields ∧
      Rule.multipleBlanks.AnswersInParts whole above below fields := by
  intro above below whole fields
  have heven : Even (above.lines.countP Text.isFence) := by decide
  have hcode : ∀ d ∈ [whole, above, below], d.HasNoCode := by
    simp [Document.HasNoCode, whole, above, below]
  have hlast : ∀ line ∈ above.lines.getLast?, Text.allBlank line = false := by decide
  have hfirst : ∀ line ∈ below.lines.head?, Text.allBlank line = false := by decide
  have h := parted_by_empty_line whole above below fields rfl
  exact ⟨rfl, heven, hcode, hlast, hfirst, h.lineLength 3 rfl (by decide),
    h.blocks heven _ (by simp), h.multipleBlanks hcode hlast hfirst⟩

end MarkdownCheck
