import MarkdownCheck.Proofs.BreakingOff

/-!
# Outermost lists

The walk over the tokens counts how many lists are open.  In a stream whose lists are opened and closed in
pairs (`ProperlyNested`) the count is zero just where no list is around (`ProperlyNested.not_enclosed_iff`):
a list around a place is one that is opened before it and closed behind it with a properly nested stream in
between (`Enclosed`).  In any stream, the count comes back to what it was behind the inside of a list, so
nothing that is nested in there has a part in which lists are outermost (`outermostFrom_list`).

What is reported depends on which lists are checked (`Document.ReportsLists`), and `outermost_lists_reported`
says which ones these are.
-/

namespace MarkdownCheck

/-! ## Nested streams -/

/-- Streams of tokens in which lists are opened and closed in pairs. -/
inductive ProperlyNested : List Token → Prop
  | nil : ProperlyNested []
  | other {t : Token} {rest : List Token} (ht : t.kind ∉ [Kind.bulletListOpen, .bulletListClose])
    (hrest : ProperlyNested rest) : ProperlyNested (t :: rest)
  | list {opening closing : Token} {inside rest : List Token}
    (hopening : opening.kind = .bulletListOpen) (hclosing : closing.kind = .bulletListClose)
    (hinside : ProperlyNested inside) (hrest : ProperlyNested rest) :
    ProperlyNested (opening :: (inside ++ closing :: rest))

/-- Whether a list is around the place between two parts of a stream: it is opened in the first and
closed in the second, and what lies in between, with `t` at the place, is properly nested. -/
def Enclosed (before : List Token) (t : Token) (after : List Token) : Prop :=
  ∃ front opening left right closing back, before = front ++ opening :: left ∧
    after = right ++ closing :: back ∧ opening.kind = .bulletListOpen ∧
    closing.kind = .bulletListClose ∧ ProperlyNested (left ++ t :: right)

namespace Document

theorem nesting_open {t : Token} (h : t.kind = .bulletListOpen) (rest : List Token) :
    nesting (t :: rest) = nesting rest + 1 := by
  simp [nesting, h]
  omega

theorem nesting_close {t : Token} (h : t.kind = .bulletListClose) (rest : List Token) :
    nesting (t :: rest) = nesting rest - 1 := by
  simp [nesting, h]
  omega

theorem nesting_other {t : Token} (h : t.kind ∉ [Kind.bulletListOpen, .bulletListClose])
    (rest : List Token) : nesting (t :: rest) = nesting rest := by
  simp only [List.mem_pair, not_or] at h
  simp [nesting, h.1, h.2]

end Document

open Document

/-- Where a stream that begins with a list can be split: at its start, in the list, or behind it. -/
theorem split_cases {opening closing : Token} {inside rest before after : List Token}
    (h : opening :: (inside ++ closing :: rest) = before ++ after) :
    before = [] ∨
      (∃ left right, before = opening :: left ∧ inside = left ++ right ∧
        after = right ++ closing :: rest) ∨
      ∃ left, before = opening :: (inside ++ closing :: left) ∧ rest = left ++ after := by
  cases before with
  | nil => exact .inl rfl
  | cons u before =>
    obtain ⟨rfl, hsplit⟩ := List.cons.inj h
    rcases List.append_eq_append_iff.mp hsplit with ⟨middle, rfl, hmiddle⟩ | ⟨middle, rfl, hafter⟩
    · cases middle with
      | nil => exact .inr (.inl ⟨inside, [], by simp, by simp, hmiddle.symm⟩)
      | cons c middle =>
        obtain ⟨rfl, hrest⟩ := List.cons.inj hmiddle
        exact .inr (.inr ⟨middle, rfl, hrest⟩)
    · exact .inr (.inl ⟨before, middle, rfl, rfl, hafter⟩)

namespace ProperlyNested

variable {ts before after : List Token} {t : Token}

/-- As many lists are opened as are closed. -/
theorem nesting_eq_zero (h : ProperlyNested ts) : nesting ts = 0 := by
  induction h with
  | nil => rfl
  | other ht _ ih => rw [nesting_other ht, ih]
  | list hopening hclosing _ _ hinside hrest =>
    rw [nesting_open hopening, nesting_append, nesting_close hclosing, hinside, hrest]
    rfl

/-- Nowhere are more lists closed than opened. -/
theorem nesting_nonneg (h : ProperlyNested ts) (hts : ts = before ++ after) : 0 ≤ nesting before := by
  induction h generalizing before after with
  | nil =>
    obtain ⟨rfl, -⟩ := List.append_eq_nil_iff.mp hts.symm
    exact le_rfl
  | other ht _ ih =>
    cases before with
    | nil => exact le_rfl
    | cons u before =>
      obtain ⟨rfl, hrest⟩ := List.cons.inj hts
      rw [nesting_other ht]
      exact ih hrest
  | list hopening hclosing hnested _ hinside hrest =>
    rcases split_cases hts with rfl | ⟨left, right, rfl, hleft, -⟩ | ⟨left, rfl, hleft⟩
    · exact le_rfl
    · have := hinside hleft
      rw [nesting_open hopening]
      omega
    · have := hrest hleft
      rw [nesting_open hopening, nesting_append, hnested.nesting_eq_zero, nesting_close hclosing]
      omega

/-- At a place where lists are open, one of them is around it. -/
theorem enclosed_of_nesting_ne_zero (h : ProperlyNested ts) (hts : ts = before ++ t :: after)
    (ht : t.kind ≠ .bulletListClose) (hne : nesting before ≠ 0) : Enclosed before t after := by
  induction h generalizing before after with
  | nil => simp at hts
  | @other u rest hu _ ih =>
    cases before with
    | nil => exact absurd rfl hne
    | cons v before =>
      obtain ⟨rfl, hrest⟩ := List.cons.inj hts
      rw [nesting_other hu] at hne
      obtain ⟨front, opening, left, right, closing, back, rfl, hafter⟩ := ih hrest hne
      exact ⟨u :: front, opening, left, right, closing, back, rfl, hafter⟩
  | @list o c inside rest ho hc hnested _ _ ih =>
    rcases split_cases hts with rfl | ⟨left, right, rfl, hleft, hright⟩ | ⟨left, rfl, hleft⟩
    · exact absurd rfl hne
    · -- the place is in the list itself
      cases right with
      | nil =>
        obtain ⟨rfl, -⟩ := List.cons.inj hright
        exact absurd hc ht
      | cons u right =>
        obtain ⟨rfl, hafter⟩ := List.cons.inj hright
        exact ⟨[], o, left, right, c, rest, rfl, hafter, ho, hc, hleft ▸ hnested⟩
    · rw [nesting_open ho, nesting_append, hnested.nesting_eq_zero, nesting_close hc] at hne
      obtain ⟨front, opening, left', right, closing, back, rfl, hafter⟩ := ih hleft (by omega)
      refine ⟨o :: (inside ++ c :: front), opening, left', right, closing, back, ?_, hafter⟩
      simp

/-- Whether as many lists are opened as are closed before a place tells whether none is around it. -/
theorem not_enclosed_iff (h : ProperlyNested (before ++ t :: after)) (ht : t.kind ≠ .bulletListClose) :
    ¬ Enclosed before t after ↔ nesting before = 0 := by
  constructor
  · intro hfree
    by_contra hne
    exact hfree (h.enclosed_of_nesting_ne_zero rfl ht hne)
  · rintro hzero ⟨front, opening, left, right, closing, back, rfl, rfl, hopening, -, hinside⟩
    have hfront : 0 ≤ nesting front := h.nesting_nonneg (List.append_assoc _ _ _)
    have hleft : 0 ≤ nesting left := hinside.nesting_nonneg rfl
    rw [nesting_append, nesting_open hopening] at hzero
    omega

end ProperlyNested

/-! ## The walk -/

namespace Document

variable {depth : Int} {ts inside : List Token} {opening closing : Token}

theorem outermostFrom_append (depth : Int) (before after : List Token) :
    outermostFrom depth (before ++ after) =
      outermostFrom depth before ++ outermostFrom (depth + nesting before) after := by
  induction before generalizing depth with
  | nil => simp [outermostFrom]
  | cons t rest ih =>
    rw [List.cons_append, outermostFrom_cons, outermostFrom_cons, ih, List.append_assoc,
      Int.add_assoc, ← nesting_cons]

/-- Nothing is outermost where a list is open. -/
theorem outermostFrom_eq_nil (h : ProperlyNested ts) (hdepth : 0 < depth) :
    outermostFrom depth ts = [] := by
  rw [List.eq_nil_iff_forall_not_mem]
  intro t ht
  obtain ⟨before, after, hts, -, hzero⟩ := mem_outermostFrom_iff.mp ht
  have := h.nesting_nonneg hts
  omega

/-- The walk over an outermost list takes the list and comes out as it went in, whatever is nested in
there. -/
theorem outermostFrom_list (hopening : opening.kind = .bulletListOpen)
    (hclosing : closing.kind = .bulletListClose) (hinside : ProperlyNested inside)
    (after : List Token) :
    outermostFrom 0 (opening :: (inside ++ closing :: after)) =
      opening :: outermostFrom 0 after := by
  rw [outermostFrom_cons_open hopening, if_pos rfl, outermostFrom_append,
    hinside.nesting_eq_zero, outermostFrom_eq_nil hinside (by decide),
    outermostFrom_cons_close hclosing]
  rfl

/-! ## What is reported -/

/-- The line of a token begins with a blank. -/
def BeginsBlank (d : Document) (t : Token) : Prop :=
  ∃ c rest, d.lineOf t = .ok (c :: rest) ∧ isBlank c = true

/-- The rule about outermost lists has an answer just in case the lists that are checked can be read, and
then it reports the lines of those that begin with a blank. -/
def ReportsLists (d : Document) (checked : Token → Prop) : Prop :=
  ∀ fields reported, Rule.listStart.evaluate d fields = .ok reported ↔
    (∀ t, checked t → d.Readable t) ∧ reported.Pairwise (· < ·) ∧
      ∀ k, k ∈ reported ↔ ∃ t, checked t ∧ t.line = k ∧ d.BeginsBlank t

/-- A list that opens where as many lists were opened as closed. -/
def OnGround (d : Document) (t : Token) : Prop :=
  ∃ before after, d.tokens = before ++ t :: after ∧ t.kind = .bulletListOpen ∧
    before.countP (·.kind = .bulletListOpen) = before.countP (·.kind = .bulletListClose)

/-- A list that opens where no other one is around. -/
def Free (d : Document) (t : Token) : Prop :=
  ∃ before after, d.tokens = before ++ t :: after ∧ t.kind = .bulletListOpen ∧
    ¬ Enclosed before t after

/-- Documents that differ in the inside of one list on ground, where both are properly nested. -/
inductive Refilled : Document → Document → Prop
  | intro {lines : List Text} {before inside inside' after : List Token} {opening closing : Token}
    (hopening : opening.kind = .bulletListOpen) (hclosing : closing.kind = .bulletListClose)
    (hground :
      before.countP (·.kind = .bulletListOpen) = before.countP (·.kind = .bulletListClose))
    (hinside : ProperlyNested inside) (hinside' : ProperlyNested inside') :
    Refilled ⟨lines, before ++ opening :: (inside ++ closing :: after)⟩
      ⟨lines, before ++ opening :: (inside' ++ closing :: after)⟩

variable {d e : Document} {t : Token}

theorem beginsBlank_iff {line : Text} (h : d.lineOf t = .ok line) :
    d.BeginsBlank t ↔ line.indent ≠ 0 := by
  rw [BeginsBlank, h, Ne, Text.indent_eq_zero_iff]
  cases line with
  | nil => simp [Text.startsBlank]
  | cons c rest => simp [Text.startsBlank]

/-- Where the outermost lists can be read, the check finds those whose lines begin with a blank. -/
theorem exists_indentedLists (h : ∀ t ∈ d.outermostLists, d.Readable t) :
    ∃ lines, d.indentedLists = .ok lines ∧
      ∀ k, k ∈ lines ↔ ∃ t ∈ d.outermostLists, t.line = k ∧ d.BeginsBlank t := by
  have hline : ∀ t ∈ d.outermostLists, ∃ line, d.lineOf t = .ok line := fun t ht =>
    exists_lineOf_iff.mpr (h t ht)
  choose! line hline using hline
  have hread : d.withIndent d.outermostLists =
      .ok (d.outermostLists.map fun t => (t, (line t).indent)) := by
    refine mapM_eq_ok fun t ht => ?_
    rw [indentOf, hline t ht]
    rfl
  refine ⟨_, by rw [indentedLists, hread]; rfl, fun k => ?_⟩
  simp only [List.filter_map, List.map_map, List.mem_map, List.mem_filter]
  refine exists_congr fun t => ?_
  rw [and_assoc]
  refine and_congr_right fun ht => ?_
  rw [beginsBlank_iff (hline t ht), and_comm]
  simp

theorem readable_of_indentedLists {lines : List Int} (h : d.indentedLists = .ok lines) :
    ∀ t ∈ d.outermostLists, d.Readable t := by
  intro t ht
  by_contra hread
  have hfaults : FaultsIff d.indentedLists .index (∃ t ∈ d.outermostLists, ¬ d.Readable t) :=
    (withIndent_faultsIff d d.outermostLists).map _
  obtain ⟨fault, hfault, -⟩ := hfaults.fault ⟨t, ht, hread⟩
  rw [h] at hfault
  cases hfault

theorem reportsLists_outermostLists (d : Document) : d.ReportsLists (· ∈ d.outermostLists) := by
  intro fields reported
  rw [Rule.listStart, Rule.evaluate_fallible_eq_ok_iff]
  constructor
  · rintro ⟨lines, hlines, hsorted, hmem⟩
    have hread := readable_of_indentedLists hlines
    obtain ⟨found, hfound, hlists⟩ := exists_indentedLists hread
    obtain rfl : lines = found := Except.ok.inj (hlines.symm.trans hfound)
    exact ⟨hread, hsorted, fun k => (hmem k).trans (hlists k)⟩
  · rintro ⟨hread, hsorted, hmem⟩
    obtain ⟨lines, hlines, hlists⟩ := exists_indentedLists hread
    exact ⟨lines, hlines, hsorted, fun k => (hmem k).trans (hlists k).symm⟩

theorem ReportsLists.of_iff {checked others : Token → Prop} (h : d.ReportsLists checked)
    (hiff : ∀ t, others t ↔ checked t) : d.ReportsLists others := by
  have hsame : others = checked := funext fun t => propext (hiff t)
  exact hsame ▸ h

/-- In a properly nested stream the free lists are those on ground. -/
theorem free_iff_onGround (h : ProperlyNested d.tokens) : d.Free t ↔ d.OnGround t := by
  refine exists_congr fun before => exists_congr fun after => and_congr_right fun htokens =>
    and_congr_right fun hopen => ?_
  rw [htokens] at h
  rw [h.not_enclosed_iff (by simp [hopen]), nesting_eq_zero_iff]

/-- Nothing but the lines and the outermost lists matters. -/
theorem evaluate_listStart_congr (hlines : e.lines = d.lines)
    (hlists : e.outermostLists = d.outermostLists) (fields others : Fields) :
    Rule.listStart.evaluate e others = Rule.listStart.evaluate d fields := by
  have hcheck : e.indentedLists = d.indentedLists := by
    unfold indentedLists withIndent indentOf lineOf line
    rw [hlines, hlists]
  rw [Rule.listStart, Rule.evaluate_fallible, Rule.evaluate_fallible, hcheck]

/-- The inside of one of the outermost lists does not matter for which ones these are. -/
theorem Refilled.outermostLists_eq (h : d.Refilled e) : e.outermostLists = d.outermostLists := by
  obtain ⟨hopening, hclosing, hground, hinside, hinside'⟩ := h
  unfold outermostLists
  rw [outermostFrom_append, outermostFrom_append, nesting_eq_zero_iff.mpr hground, Int.add_zero,
    outermostFrom_list hopening hclosing hinside, outermostFrom_list hopening hclosing hinside']

theorem Refilled.lines_eq (h : d.Refilled e) : e.lines = d.lines := by
  cases h with
  | intro => rfl

end Document

/-- **Outermost lists.** Checked are the lists that open where as many lists were opened as closed; in a
properly nested stream these are the lists with no other list around.  In any stream, the inside of such a
list may be replaced by another properly nested one: the same lists are checked then, with the same
outcome. -/
theorem outermost_lists_reported (d : Document) :
    d.ReportsLists d.OnGround ∧
      (ProperlyNested d.tokens → d.ReportsLists d.Free) ∧
      ∀ e, d.Refilled e → e.outermostLists = d.outermostLists ∧
        ∀ fields others, Rule.listStart.evaluate e others = Rule.listStart.evaluate d fields := by
  have hground : d.ReportsLists d.OnGround :=
    d.reportsLists_outermostLists.of_iff fun t => Document.mem_outermostLists_iff.symm
  refine ⟨hground, fun hnested => ?_, fun e h => ⟨h.outermostLists_eq, fun fields others => ?_⟩⟩
  · exact hground.of_iff fun t => Document.free_iff_onGround hnested
  · exact Document.evaluate_listStart_congr h.lines_eq h.outermostLists_eq fields others

/-- A list with two lists inside and one behind, and the same with an ordered list inside instead. -/
theorem outermost_lists_reported_refilled :
    let opening := fun line => ({ kind := .bulletListOpen, line } : Token)
    let closing : Token := { kind := .bulletListClose, line := 1 }
    let item := fun line => ({ kind := .listItemOpen, line } : Token)
    let ordered : Token := { kind := .orderedListOpen, line := 3 }
    let lines := ["  * a", "    * b", "   1. c", "\t* d", "* e", " * f"].map String.toList
    let inside := [item 1, opening 2, item 2, closing, opening 4, item 4, closing]
    let inside' := [item 1, ordered, item 3]
    let after := [opening 5, closing, opening 6, item 6, closing]
    let d : Document := { lines, tokens := opening 1 :: (inside ++ closing :: after) }
    let e : Document := { lines, tokens := opening 1 :: (inside' ++ closing :: after) }
    ProperlyNested d.tokens ∧ d.Refilled e ∧ d.ReportsLists d.Free ∧
      Rule.listStart.evaluate d [] = .ok [1, 6] ∧ Rule.listStart.evaluate e [] = .ok [1, 6] := by
  intro opening closing item ordered lines inside inside' after d e
  have hlist : ∀ line inside rest, ProperlyNested inside → ProperlyNested rest →
      ProperlyNested (opening line :: (inside ++ closing :: rest)) := fun _ _ _ =>
    .list rfl rfl
  have hitem : ∀ line, ProperlyNested [item line] := fun line => .other (by simp [item]) .nil
  have hinside : ProperlyNested inside :=
    .other (by simp [item]) (hlist 2 [item 2] _ (hitem 2) (hlist 4 [item 4] [] (hitem 4) .nil))
  have hinside' : ProperlyNested inside' := .other (by simp [item]) (.other (by simp [ordered]) (hitem 3))
  have hafter : ProperlyNested after := hlist 5 [] _ .nil (hlist 6 [item 6] [] (hitem 6) .nil)
  have hnested : ProperlyNested d.tokens := hlist 1 inside after hinside hafter
  have hrefilled : d.Refilled e := by
    show Document.Refilled ⟨lines, [] ++ opening 1 :: (inside ++ closing :: after)⟩
      ⟨lines, [] ++ opening 1 :: (inside' ++ closing :: after)⟩
    exact .intro rfl rfl rfl hinside hinside'
  obtain ⟨-, hfree, heq⟩ := outermost_lists_reported d
  have hevaluate : Rule.listStart.evaluate d [] = .ok [1, 6] := rfl
  exact ⟨hnested, hrefilled, hfree hnested, hevaluate, ((heq e hrefilled).2 [] []).trans hevaluate⟩

end MarkdownCheck
