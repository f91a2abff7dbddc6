import MarkdownCheck.Proofs.Evaluation
import MarkdownCheck.Proofs.ListWalk
import MarkdownCheck.Proofs.TokenLines

/-!
# Nested lists, indented step by step

A `Forest` of bulleted lists is written as a flat stream of tokens. A document holds it
`IndentedBy` a step where each list and each item is indented by that many blanks for every list
around it.

What the walks of the checks see is read off the tree: the lists and the items with their depths
(`filter_tokens_lists`, `filter_tokens_items`), the outer lists (`outermostFrom_tokens`), and where
the depth grows from one list to the next.  The invariant of that last walk is that it enters the
lists at a depth with at most one step to go down; `wrongStepsFrom_lists` says where it leaves them.

The main statement is `indented_lists_report`: a document that is indented this way is reported for
nothing, but that items of one level may be uneven if the parser gives that level to items of
different depths, and another step is found wrong at the first list nested in each list.
-/

namespace MarkdownCheck

/-! ## Forests -/

/-- A token of a given kind. -/
abbrev TokenOf (k : Kind) : Type := { t : Token // t.kind = k }

mutual

/-- Bulleted lists that follow one another, each with its items. -/
inductive Forest where
  | none
  | list (opening : TokenOf .bulletListOpen) (items : Items)
    (closing : TokenOf .bulletListClose) (later : Forest)

/-- Items that follow one another, each with the lists nested in it. -/
inductive Items where
  | none
  | item (opening : TokenOf .listItemOpen) (nested : Forest)
    (closing : TokenOf .listItemClose) (later : Items)

end

mutual

/-- The tokens of lists, in reading order. -/
def Forest.tokens : Forest → List Token
  | .none => []
  | .list opening items closing later =>
    opening.1 :: (items.tokens ++ closing.1 :: later.tokens)

/-- The tokens of items, in reading order. -/
def Items.tokens : Items → List Token
  | .none => []
  | .item opening nested closing later =>
    opening.1 :: (nested.tokens ++ closing.1 :: later.tokens)

end

mutual

/-- All lists with their depths, where the outer ones are at depth `e`. -/
def Forest.lists (e : Nat) : Forest → List (Token × Nat)
  | .none => []
  | .list opening items _ later => (opening.1, e) :: (items.lists (e + 1) ++ later.lists e)

/-- All lists nested in items, the outer ones at depth `e`. -/
def Items.lists (e : Nat) : Items → List (Token × Nat)
  | .none => []
  | .item _ nested _ later => nested.lists e ++ later.lists e

end

mutual

/-- All items of lists with the depths of their lists, where the outer lists are at depth `e`. -/
def Forest.items (e : Nat) : Forest → List (Token × Nat)
  | .none => []
  | .list _ items _ later => items.items e ++ later.items e

/-- Items of a list at depth `e`, and those of the lists nested in them. -/
def Items.items (e : Nat) : Items → List (Token × Nat)
  | .none => []
  | .item opening nested _ later => (opening.1, e) :: (nested.items (e + 1) ++ later.items e)

end

/-- The outer lists. -/
def Forest.outer : Forest → List Token
  | .none => []
  | .list opening _ _ later => opening.1 :: later.outer

/-- The first list of all that are nested in the items. -/
def Items.firstList? : Items → Option Token
  | .none => Option.none
  | .item _ nested _ later => nested.outer.head?.or later.firstList?

mutual

/-- The lists that are the first ones nested in the list around them. -/
def Forest.firstNested : Forest → List Token
  | .none => []
  | .list _ items _ later => items.firstList?.toList ++ items.firstNested ++ later.firstNested

/-- The lists in the items that are the first ones nested in the list around them, where that list
is also in the items. -/
def Items.firstNested : Items → List Token
  | .none => []
  | .item _ nested _ later => nested.firstNested ++ later.firstNested

end

/-- The kinds of tokens that a forest is made of. -/
def forestKinds : List Kind := [.bulletListOpen, .listItemOpen, .listItemClose, .bulletListClose]

namespace Document

/-- Whether a token starts on a line of so many blanks and a bullet after them. -/
def BeginsAt (d : Document) (t : Token) (indent : Nat) (bullet : Char) : Prop :=
  ∃ blanks rest, d.lineOf t = .ok (blanks ++ bullet :: rest) ∧ blanks.length = indent ∧
    ∀ c ∈ blanks, isBlank c = true

theorem beginsAt_iff {d : Document} {t : Token} {indent : Nat} {bullet : Char} {text : Text}
    (htext : d.lineOf t = .ok text) :
    d.BeginsAt t indent bullet ↔
      text[indent]? = some bullet ∧ Text.allBlank (text.take indent) = true := by
  unfold BeginsAt
  simp only [htext, Except.ok.injEq, Text.allBlank_iff]
  constructor
  · rintro ⟨blanks, rest, rfl, rfl, hblanks⟩
    have hbullet : (blanks ++ bullet :: rest)[blanks.length]? = some bullet := by simp
    exact ⟨hbullet, by simpa using hblanks⟩
  · rintro ⟨hbullet, hblanks⟩
    obtain ⟨hlt, rfl⟩ := List.getElem?_eq_some_iff.mp hbullet
    refine ⟨text.take indent, text.drop (indent + 1), ?_, ?_, hblanks⟩
    · rw [← List.drop_eq_getElem_cons hlt, List.take_append_drop]
    · exact List.length_take_of_le (Nat.le_of_lt hlt)

instance (d : Document) (t : Token) (indent : Nat) (bullet : Char) :
    Decidable (d.BeginsAt t indent bullet) :=
  match htext : d.lineOf t with
  | .ok _ => decidable_of_iff _ (beginsAt_iff htext).symm
  | .error _ => isFalse fun ⟨_, _, h, _⟩ => by
    rw [htext] at h
    cases h

/-- Whether the tokens of lists make up the forest, with every list and every item indented by
`step` blanks for each list around it, and the level of an item is a function of its depth. -/
structure IndentedBy (d : Document) (forest : Forest) (step : Nat) (bullet : Char)
    (level : Nat → Int) : Prop where
  tokens_eq : d.select forestKinds = forest.tokens
  step_pos : 1 ≤ step
  bullet_mem : bullet ∈ ['*', '-', '+']
  beginsAt : ∀ p ∈ forest.lists 0 ++ forest.items 0, d.BeginsAt p.1 (step * p.2) bullet
  level_eq : ∀ p ∈ forest.items 0, p.1.level = level p.2

end Document

/-! ## What the walks see -/

theorem Forest.firstNested_of_outer_eq_nil : ∀ {f : Forest}, f.outer = [] → f.firstNested = []
  | .none, _ => rfl
  | .list opening _ _ later, h => absurd h (List.cons_ne_nil opening.1 later.outer)

mutual

theorem Forest.filter_tokens_lists : ∀ (f : Forest) (e : Nat),
    f.tokens.filter (·.kind ∈ [Kind.bulletListOpen]) = (f.lists e).map (·.1)
  | .none, _ => rfl
  | .list opening items closing later, e => by
    rw [Forest.tokens, Forest.lists, List.filter_cons_of_pos (by simp [opening.2]),
      List.filter_append, List.filter_cons_of_neg (by simp [closing.2]),
      items.filter_tokens_lists (e + 1), later.filter_tokens_lists e, List.map_cons,
      List.map_append]

theorem Items.filter_tokens_lists : ∀ (is : Items) (e : Nat),
    is.tokens.filter (·.kind ∈ [Kind.bulletListOpen]) = (is.lists e).map (·.1)
  | .none, _ => rfl
  | .item opening nested closing later, e => by
    rw [Items.tokens, Items.lists, List.filter_cons_of_neg (by simp [opening.2]),
      List.filter_append, List.filter_cons_of_neg (by simp [closing.2]),
      nested.filter_tokens_lists e, later.filter_tokens_lists e, List.map_append]

end

mutual

theorem Forest.filter_tokens_items : ∀ (f : Forest) (e : Nat),
    f.tokens.filter (·.kind ∈ [Kind.listItemOpen]) = (f.items e).map (·.1)
  | .none, _ => rfl
  | .list opening items closing later, e => by
    rw [Forest.tokens, Forest.items, List.filter_cons_of_neg (by simp [opening.2]),
      List.filter_append, List.filter_cons_of_neg (by simp [closing.2]),
      items.filter_tokens_items e, later.filter_tokens_items e, List.map_append]

theorem Items.filter_tokens_items : ∀ (is : Items) (e : Nat),
    is.tokens.filter (·.kind ∈ [Kind.listItemOpen]) = (is.items e).map (·.1)
  | .none, _ => rfl
  | .item opening nested closing later, e => by
    rw [Items.tokens, Items.items, List.filter_cons_of_pos (by simp [opening.2]),
      List.filter_append, List.filter_cons_of_neg (by simp [closing.2]),
      nested.filter_tokens_items (e + 1), later.filter_tokens_items e, List.map_cons,
      List.map_append]

end

theorem Forest.mem_lists_of_mem_outer : ∀ {f : Forest} {t : Token} (e : Nat), t ∈ f.outer →
    (t, e) ∈ f.lists e
  | .list opening items _ later, t, e, h => by
    rw [Forest.lists]
    rcases List.mem_cons.mp h with rfl | h
    · exact List.mem_cons_self
    · exact List.mem_cons_of_mem _ (List.mem_append_right _ (mem_lists_of_mem_outer e h))

mutual

/-- A forest leaves the number of open lists as it was, and its outer lists are outermost just in
case none is open before. -/
theorem Forest.outermostFrom_tokens : ∀ (f : Forest) {depth : Int} (rest : List Token), 0 ≤ depth →
    Document.outermostFrom depth (f.tokens ++ rest) =
      (if depth = 0 then f.outer else []) ++ Document.outermostFrom depth rest
  | .none, depth, rest, _ => by simp [Forest.tokens, Forest.outer]
  | .list opening items closing later, depth, rest, h => by
    rw [Forest.tokens, List.cons_append, Document.outermostFrom_cons_open opening.2,
      List.append_assoc, items.outermostFrom_tokens _ (by omega), List.cons_append,
      Document.outermostFrom_cons_close closing.2, Int.add_sub_cancel,
      later.outermostFrom_tokens rest h, Forest.outer]
    by_cases hdepth : depth = 0 <;> simp [hdepth]

theorem Items.outermostFrom_tokens : ∀ (is : Items) {depth : Int} (rest : List Token), 1 ≤ depth →
    Document.outermostFrom depth (is.tokens ++ rest) = Document.outermostFrom depth rest
  | .none, _, _, _ => rfl
  | .item opening nested closing later, depth, rest, h => by
    rw [Items.tokens, List.cons_append, Document.outermostFrom_cons_other (by simp [opening.2]),
      List.append_assoc, nested.outermostFrom_tokens _ (by omega), if_neg (by omega),
      List.nil_append, List.cons_append, Document.outermostFrom_cons_other (by simp [closing.2]),
      later.outermostFrom_tokens rest h]

end

/-! ## Where the depth grows -/

/-- The lines to blame on a step that is asked for where lists are indented by another one. -/
def blamedLines (step asked : Nat) (ts : List Token) : List Int :=
  if asked = step then [] else ts.map (·.line)

theorem blamedLines_append (step asked : Nat) (ts us : List Token) :
    blamedLines step asked (ts ++ us) = blamedLines step asked ts ++ blamedLines step asked us := by
  unfold blamedLines
  split_ifs <;> simp

/-- A list with the indentation that belongs to its depth. -/
def indentedBy (step : Nat) (p : Token × Nat) : Token × Nat := (p.1, step * p.2)

/-- One list at most one step deeper than the one before is blamed if it is deeper at all. -/
theorem wrongStepsFrom_cons {step asked : Nat} (hstep : 1 ≤ step) {p e : Nat} (h : e ≤ p + 1)
    (t : Token) (rest : List (Token × Nat)) :
    Document.wrongStepsFrom asked (step * p) (indentedBy step (t, e) :: rest) =
      blamedLines step asked (if p < e then [t] else []) ++
        Document.wrongStepsFrom asked (step * e) rest := by
  rw [indentedBy, Document.wrongStepsFrom]
  by_cases hlt : p < e
  · obtain rfl : e = p + 1 := by omega
    have hdiff : step * (p + 1) - step * p = step := by
      rw [Nat.mul_succ]
      omega
    have hgrows : step * p < step * (p + 1) := by
      rw [Nat.mul_succ]
      omega
    by_cases hasked : asked = step
    · simp [blamedLines, hdiff, hasked]
    · simp [blamedLines, hdiff, hgrows, hasked, Ne.symm hasked]
  · have hle : ¬ step * p < step * e := Nat.not_lt.mpr (Nat.mul_le_mul_left step (by omega))
    simp [blamedLines, hle, hlt]

mutual

/-- From a list at depth `p` on, lists at depth `e` are left at a depth `q` that is no smaller than
`e`, or at `p` if there are none of them. -/
theorem Forest.wrongStepsFrom_lists {step : Nat} (hstep : 1 ≤ step) (asked : Nat) :
    ∀ (f : Forest) {p e : Nat}, e ≤ p + 1 →
    ∃ q, (f.outer = [] ∧ q = p ∨ f.outer ≠ [] ∧ e ≤ q) ∧ ∀ rest,
      Document.wrongStepsFrom asked (step * p) ((f.lists e).map (indentedBy step) ++ rest) =
        blamedLines step asked ((if p < e then f.outer.head?.toList else []) ++ f.firstNested) ++
          Document.wrongStepsFrom asked (step * q) rest
  | .none, p, e, h => by
    refine ⟨p, .inl ⟨rfl, rfl⟩, fun rest => ?_⟩
    simp [Forest.lists, Forest.outer, Forest.firstNested, blamedLines]
  | .list opening items closing later, p, e, h => by
    obtain ⟨q, hq, hitems⟩ :=
      items.wrongStepsFrom_lists hstep asked (p := e) (e := e + 1) (Nat.le_refl _)
    have heq : e ≤ q := by omega
    obtain ⟨r, hr, hlater⟩ := later.wrongStepsFrom_lists hstep asked (p := q) (e := e) (by omega)
    refine ⟨r, .inr ⟨by simp [Forest.outer], by omega⟩, fun rest => ?_⟩
    -- the first list in the items is one step deeper than this one, and what follows is not deeper
    have hdeeper : e < e + 1 := Nat.lt_succ_self e
    have hback : ¬ q < e := Nat.not_lt.mpr heq
    rw [Forest.lists, List.map_cons, List.cons_append, wrongStepsFrom_cons hstep h, List.map_append,
      List.append_assoc, hitems, hlater, if_pos hdeeper, if_neg hback]
    simp only [Forest.outer, Forest.firstNested, List.head?_cons, Option.toList_some,
      blamedLines_append, List.append_assoc, List.nil_append]

theorem Items.wrongStepsFrom_lists {step : Nat} (hstep : 1 ≤ step) (asked : Nat) :
    ∀ (is : Items) {p e : Nat}, e ≤ p + 1 →
    ∃ q, (is.firstList? = Option.none ∧ q = p ∨ is.firstList? ≠ Option.none ∧ e ≤ q) ∧ ∀ rest,
      Document.wrongStepsFrom asked (step * p) ((is.lists e).map (indentedBy step) ++ rest) =
        blamedLines step asked ((if p < e then is.firstList?.toList else []) ++ is.firstNested) ++
          Document.wrongStepsFrom asked (step * q) rest
  | .none, p, e, h => by
    refine ⟨p, .inl ⟨rfl, rfl⟩, fun rest => ?_⟩
    simp [Items.lists, Items.firstList?, Items.firstNested, blamedLines]
  | .item opening nested closing later, p, e, h => by
    obtain ⟨q, hq, hnested⟩ := nested.wrongStepsFrom_lists hstep asked h
    obtain ⟨r, hr, hlater⟩ := later.wrongStepsFrom_lists hstep asked (p := q) (e := e) (by omega)
    refine ⟨r, ?_, fun rest => ?_⟩
    · rw [Items.firstList?]
      rcases hq with ⟨hnil, rfl⟩ | ⟨hne, hle⟩
      · rw [hnil, List.head?_nil, Option.none_or]
        exact hr
      · obtain ⟨t, outer, houter⟩ := List.exists_cons_of_ne_nil hne
        rw [houter, List.head?_cons, Option.some_or]
        exact .inr ⟨Option.some_ne_none t, by omega⟩
    · rw [Items.lists, List.map_append, List.append_assoc, hnested, hlater, Items.firstList?,
        Items.firstNested]
      simp only [blamedLines_append, List.append_assoc]
      rcases hq with ⟨hnil, rfl⟩ | ⟨hne, hle⟩
      · -- nothing is nested in this item, so a later one may hold the first list
        rw [hnil, Forest.firstNested_of_outer_eq_nil hnil, List.head?_nil, Option.none_or]
        simp [blamedLines]
      · obtain ⟨t, outer, houter⟩ := List.exists_cons_of_ne_nil hne
        rw [houter, List.head?_cons, Option.some_or, if_neg (Nat.not_lt.mpr hle)]
        simp [blamedLines]

end

/-! ## Documents -/

theorem isBlank_of_mem_bullets {c : Char} (h : c ∈ ['*', '-', '+']) : isBlank c = false := by
  simp only [List.mem_cons, List.not_mem_nil, or_false] at h
  rcases h with rfl | rfl | rfl
  · rfl
  · rfl
  · rfl

/-- Nothing differs from the first occurrence where all are alike. -/
theorem offenders_consistent_eq_nil {σ : Type} [DecidableEq σ] {found : List (Int × Option σ)}
    (style : Option σ) (h : ∀ p ∈ found, p.2 = style) :
    StylePolicy.consistent.offenders found = [] := by
  cases found with
  | nil => rfl
  | cons q found =>
    have hrequired : StylePolicy.consistent.required ((q :: found).map (·.2)) = style :=
      h q List.mem_cons_self
    unfold StylePolicy.offenders
    rw [List.map_eq_nil_iff, List.filter_eq_nil_iff]
    intro p hp
    simp only [hrequired, h p hp]
    simp

namespace Document

variable {d : Document} {t : Token} {indent : Nat} {bullet : Char}

theorem BeginsAt.indentOf (h : d.BeginsAt t indent bullet) (hbullet : isBlank bullet = false) :
    d.indentOf t = .ok indent := by
  obtain ⟨blanks, rest, hline, rfl, hblanks⟩ := h
  unfold Document.indentOf
  rw [hline]
  refine congrArg Except.ok ?_
  rw [Text.indent, List.takeWhile_append_of_pos hblanks,
    List.takeWhile_cons_of_neg (by simp [hbullet]), List.append_nil]

theorem BeginsAt.exists_line (h : d.BeginsAt t indent bullet) (hbullet : isBlank bullet = false) :
    ∃ line, d.lineOf t = .ok line ∧ bulletOf line = BulletStyle.ofChar? bullet := by
  obtain ⟨blanks, rest, hline, -, hblanks⟩ := h
  refine ⟨_, hline, ?_⟩
  rw [bulletOf, Text.trimLeft, List.dropWhile_append_of_pos hblanks,
    List.dropWhile_cons_of_neg (by simp [hbullet])]
  rfl

theorem filter_select {kinds : List Kind} {k : Kind} (hk : k ∈ kinds) :
    (d.select kinds).filter (·.kind ∈ [k]) = d.select [k] := by
  unfold select
  rw [List.filter_filter]
  refine List.filter_congr fun t _ => ?_
  by_cases ht : t.kind = k <;> simp [ht, hk]

namespace IndentedBy

variable {forest : Forest} {step : Nat} {level : Nat → Int}
  (h : d.IndentedBy forest step bullet level)
include h

theorem bulletLists_eq : d.bulletLists = (forest.lists 0).map (·.1) := by
  rw [← forest.filter_tokens_lists, ← h.tokens_eq, filter_select (by simp [forestKinds])]
  rfl

theorem listItems_eq : d.listItems = (forest.items 0).map (·.1) := by
  rw [← forest.filter_tokens_items, ← h.tokens_eq, filter_select (by simp [forestKinds])]
  rfl

theorem outermostLists_eq : d.outermostLists = forest.outer := by
  have hselect : d.outermostLists = outermostFrom 0 (d.select forestKinds) :=
    (outermostFrom_filter (by simp [forestKinds]) (by simp [forestKinds]) 0 d.tokens).symm
  rw [hselect, h.tokens_eq, ← List.append_nil forest.tokens,
    forest.outermostFrom_tokens [] (Int.le_refl 0), if_pos rfl, outermostFrom, List.append_nil]

theorem indentOf_eq {p : Token × Nat} (hp : p ∈ forest.lists 0 ++ forest.items 0) :
    d.indentOf p.1 = .ok (step * p.2) :=
  (h.beginsAt p hp).indentOf (isBlank_of_mem_bullets h.bullet_mem)

theorem withIndent_eq {ps : List (Token × Nat)}
    (hps : ∀ p ∈ ps, p ∈ forest.lists 0 ++ forest.items 0) :
    d.withIndent (ps.map (·.1)) = .ok (ps.map (indentedBy step)) := by
  unfold withIndent
  rw [List.mapM_map]
  refine mapM_eq_ok fun p hp => ?_
  rw [Function.comp_apply, h.indentOf_eq (hps p hp)]
  rfl

/-! ### What the checks report -/

theorem otherBulletStyles_eq_nil : d.otherBulletStyles .consistent = .ok [] := by
  have hread : (forest.items 0).mapM
      ((fun t => (d.lineOf t).map fun line => (t.line, bulletOf line)) ∘ (·.1)) =
        .ok ((forest.items 0).map fun p => (p.1.line, BulletStyle.ofChar? bullet)) := by
    refine mapM_eq_ok fun p hp => ?_
    obtain ⟨line, hline, hbullet⟩ := (h.beginsAt p (List.mem_append_right _ hp)).exists_line
      (isBlank_of_mem_bullets h.bullet_mem)
    rw [Function.comp_apply, hline, ← hbullet]
    rfl
  rw [otherBulletStyles_eq, h.listItems_eq, List.mapM_map, hread]
  refine congrArg Except.ok (offenders_consistent_eq_nil (BulletStyle.ofChar? bullet) ?_)
  rw [List.forall_mem_map]
  exact fun _ _ => rfl

theorem unevenItems_eq_nil_iff :
    d.unevenItems = .ok [] ↔
      ∀ p ∈ forest.items 0, ∀ q ∈ forest.items 0, level p.2 = level q.2 → p.2 = q.2 := by
  have hindent : ∀ m n, step * m = step * n ↔ m = n := fun m n =>
    Nat.mul_right_inj (Nat.pos_iff_ne_zero.mp h.step_pos)
  have hread : d.withIndent d.listItems = .ok ((forest.items 0).map (indentedBy step)) := by
    rw [h.listItems_eq]
    exact h.withIndent_eq fun p hp => List.mem_append_right _ hp
  unfold unevenItems
  rw [hread, Except.map, Except.ok.injEq, unevenFrom_nil_eq_nil_iff]
  simp only [List.forall_mem_map, indentedBy, hindent]
  refine forall₂_congr fun p hp => forall₂_congr fun q hq => ?_
  rw [h.level_eq p hp, h.level_eq q hq]

theorem indentedLists_eq_nil : d.indentedLists = .ok [] := by
  have houter : forest.outer = (forest.outer.map fun t => (t, 0)).map (·.1) := by
    rw [List.map_map]
    exact (List.map_id _).symm
  unfold indentedLists
  rw [h.outermostLists_eq, houter, h.withIndent_eq]
  · refine congrArg Except.ok ?_
    simp [indentedBy]
  · intro p hp
    obtain ⟨t, ht, rfl⟩ := List.mem_map.mp hp
    exact List.mem_append_left _ (Forest.mem_lists_of_mem_outer 0 ht)

theorem wrongSteps_eq (asked : Nat) :
    d.wrongSteps asked = .ok (blamedLines step asked forest.firstNested) := by
  have hread : d.withIndent d.bulletLists = .ok ((forest.lists 0).map (indentedBy step)) := by
    rw [h.bulletLists_eq]
    exact h.withIndent_eq fun p hp => List.mem_append_left _ hp
  have hwalk : wrongStepsFrom asked 0 ((forest.lists 0).map (indentedBy step)) =
      blamedLines step asked forest.firstNested := by
    obtain ⟨q, -, hend⟩ := forest.wrongStepsFrom_lists h.step_pos asked (Nat.zero_le (0 + 1))
    have hend := hend []
    -- the first of the outer lists stands where the walk begins, so it is not blamed
    rw [Nat.mul_zero, List.append_nil, if_neg (Nat.lt_irrefl 0), List.nil_append, wrongStepsFrom,
      List.append_nil] at hend
    exact hend
  unfold wrongSteps
  rw [hread]
  exact congrArg Except.ok hwalk

end IndentedBy

/-- What the rules about lists report on a document whose lists are indented step by step. -/
structure IndentedListReports (d : Document) (forest : Forest) (step : Nat) (level : Nat → Int) :
    Prop where
  listStyle : ∀ fields, Options.resolve Rule.listStyle.parameter fields = .ok .consistent →
    Rule.listStyle.evaluate d fields = .ok []
  listIndent : ∀ fields, Rule.listIndent.evaluate d fields = .ok [] ↔
    ∀ p ∈ forest.items 0, ∀ q ∈ forest.items 0, level p.2 = level q.2 → p.2 = q.2
  listStart : ∀ fields, Rule.listStart.evaluate d fields = .ok []
  sameStep : ∀ fields, Options.resolve Rule.listStep.parameter fields = .ok step →
    Rule.listStep.evaluate d fields = .ok []
  otherStep : ∀ fields (asked : Nat),
    Options.resolve Rule.listStep.parameter fields = .ok asked → asked ≠ step →
      ∃ lines, Rule.listStep.evaluate d fields = .ok lines ∧
        ∀ k, k ∈ lines ↔ ∃ t ∈ forest.firstNested, t.line = k

end Document

/-- **Nested lists, indented step by step.** With one bullet throughout, no bullet and no step is
wrong, no outermost list is indented, and no item is uneven unless items of different depths share a
level.  Any other step is wrong at the first list nested in each list and nowhere else. -/
theorem indented_lists_report {d : Document} {forest : Forest} {step : Nat} {bullet : Char}
    {level : Nat → Int} (h : d.IndentedBy forest step bullet level) :
    d.IndentedListReports forest step level where
  listStyle fields hres := by
    rw [Rule.evaluate_ofExcept (x := d.otherBulletStyles .consistent) hres rfl,
      h.otherBulletStyles_eq_nil]
    rfl
  listIndent fields :=
    (Rule.evaluate_fallible_eq_nil_iff _ _ Document.unevenItems).trans h.unevenItems_eq_nil_iff
  listStart fields :=
    (Rule.evaluate_fallible_eq_nil_iff _ _ Document.indentedLists).mpr h.indentedLists_eq_nil
  sameStep fields hres := by
    rw [Rule.evaluate_ofExcept (x := d.wrongSteps step) hres rfl, h.wrongSteps_eq, blamedLines,
      if_pos rfl]
    rfl
  otherStep fields asked hres hne := by
    refine ⟨ascending (forest.firstNested.map (·.line)), ?_, fun k => ?_⟩
    · rw [Rule.evaluate_ofExcept (x := d.wrongSteps asked) hres rfl, h.wrongSteps_eq, blamedLines,
        if_neg hne]
      rfl
    · rw [mem_ascending, List.mem_map]

/-- Two lists nested in one, each with another in it: the second of the two is not to blame. -/
theorem indented_lists_report_second_nested :
    let opening (line : Int) : TokenOf .bulletListOpen := ⟨{ kind := .bulletListOpen, line }, rfl⟩
    let closing (line : Int) : TokenOf .bulletListClose := ⟨{ kind := .bulletListClose, line }, rfl⟩
    let item (line level : Int) (nested : Forest) (later : Items) : Items :=
      .item ⟨{ kind := .listItemOpen, line, level }, rfl⟩ nested
        ⟨{ kind := .listItemClose, line }, rfl⟩ later
    let pair (line : Int) : Forest :=
      .list (opening line) (item line 3 (.list (opening (line + 1)) (item (line + 1) 5 .none .none)
        (closing (line + 1)) .none) .none) (closing line) .none
    let forest : Forest :=
      .list (opening 1) (item 1 1 (pair 2) (item 4 1 (pair 5) .none)) (closing 1) .none
    let level (depth : Nat) : Int := 2 * depth + 1
    let d : Document :=
      { lines := ["- a", "  - b", "    - c", "- d", "  -", "\t\t  - f"].map String.toList
        tokens := { kind := .paragraphOpen, line := 1 } :: forest.tokens }
    d.IndentedBy forest 2 '-' level ∧ d.IndentedListReports forest 2 level := by
  intro opening closing item pair forest level d
  have h : d.IndentedBy forest 2 '-' level := by
    refine ⟨rfl, by decide, by decide, by decide, by decide⟩
  exact ⟨h, indented_lists_report h⟩

/-- Items of different depths that share a level are uneven. -/
theorem nested_items_of_one_level_uneven :
    let inner : Forest :=
      .list ⟨{ kind := .bulletListOpen, line := 2 }, rfl⟩
        (.item ⟨{ kind := .listItemOpen, line := 2 }, rfl⟩ .none
          ⟨{ kind := .listItemClose, line := 2 }, rfl⟩ .none)
        ⟨{ kind := .bulletListClose, line := 2 }, rfl⟩ .none
    let forest : Forest :=
      .list ⟨{ kind := .bulletListOpen, line := 1 }, rfl⟩
        (.item ⟨{ kind := .listItemOpen, line := 1 }, rfl⟩ inner
          ⟨{ kind := .listItemClose, line := 1 }, rfl⟩ .none)
        ⟨{ kind := .bulletListClose, line := 1 }, rfl⟩ .none
    let d : Document := { lines := ["- a", "  - b"].map String.toList, tokens := forest.tokens }
    d.IndentedBy forest 2 '-' (fun _ => 0) ∧ Rule.listIndent.evaluate d [] = .ok [2] := by
  intro inner forest d
  exact ⟨⟨rfl, by decide, by decide, by decide, by decide⟩, rfl⟩

end MarkdownCheck
