import MarkdownCheck.Proofs.Evaluation

/-!
# Headings that form an outline

A heading of level `l > 1` has a parent if some heading before it is exactly one level up and no
heading between the two is further up (`HasParent`); a document where every such heading has one is
an outline (`Document.IsOutline`).  Whether it is one takes a look at all headings before each.  The
two checks of heading levels only look at the first heading and at pairs of neighbours, and yet they
find nothing just in case the document is an outline (`no_reports_iff_isOutline`).

The invariant of the walk is `Tracks before previous`: after the tokens `before`, the levels that
have a parent there are those up to one below the `previous` one.
-/

namespace MarkdownCheck

/-- Whether a heading of level `l` after the tokens `before` has a parent among them. -/
def HasParent (before : List Token) (l : Int) : Prop :=
  ∃ earlier p between, before = earlier ++ p :: between ∧ p.kind = .headingOpen ∧
    p.headingLevel = some (l - 1) ∧
    ∀ t ∈ between, t.kind = .headingOpen → ∀ m, t.headingLevel = some m → l - 1 ≤ m

/-- Every heading below the top level has a parent. -/
def Document.IsOutline (d : Document) : Prop :=
  ∀ before t after l, d.tokens = before ++ t :: after → t.kind = .headingOpen →
    t.headingLevel = some l → 1 < l → HasParent before l

/-! ## Parents, token by token -/

theorem not_hasParent_nil (l : Int) : ¬ HasParent [] l := by
  rintro ⟨earlier, p, between, h, -⟩
  simp at h

/-- The last token is the parent, or the parent comes before it and it is not further up. -/
theorem hasParent_concat {before : List Token} {t : Token} {l : Int} :
    HasParent (before ++ [t]) l ↔
      t.kind = .headingOpen ∧ t.headingLevel = some (l - 1) ∨
        HasParent before l ∧
          (t.kind = .headingOpen → ∀ m, t.headingLevel = some m → l - 1 ≤ m) := by
  constructor
  · rintro ⟨earlier, p, between, h, hp, hl, hbetween⟩
    rcases List.eq_nil_or_concat between with rfl | ⟨between, u, rfl⟩
    · obtain ⟨-, rfl⟩ : before = earlier ∧ t = p := by simpa using List.append_inj' h rfl
      exact .inl ⟨hp, hl⟩
    · have h' : before ++ [t] = (earlier ++ p :: between) ++ [u] := by simpa using h
      obtain ⟨hbefore, rfl⟩ : before = earlier ++ p :: between ∧ t = u := by
        simpa using List.append_inj' h' rfl
      refine .inr ⟨⟨earlier, p, between, hbefore, hp, hl, fun x hx => ?_⟩, ?_⟩
      · exact hbetween x (by simp [hx])
      · exact hbetween t (by simp)
  · rintro (⟨hkind, hl⟩ | ⟨⟨earlier, p, between, rfl, hp, hl, hbetween⟩, ht⟩)
    · exact ⟨before, t, [], rfl, hkind, hl, by simp⟩
    · refine ⟨earlier, p, between ++ [t], by simp, hp, hl, fun x hx => ?_⟩
      rcases List.mem_append.mp hx with hx | hx
      · exact hbetween x hx
      · obtain rfl : x = t := by simpa using hx
        exact ht

/-! ## What the walk remembers -/

/-- The levels with a parent among the tokens `before` are those up to one below `previous`. -/
def Tracks (before : List Token) (previous : Option Int) : Prop :=
  ∀ l, 1 < l → (HasParent before l ↔ ∃ p, previous = some p ∧ l ≤ p + 1)

theorem tracks_nil : Tracks [] none := by
  intro l _
  simp [not_hasParent_nil]

theorem Tracks.concat_other {before : List Token} {previous : Option Int} {t : Token}
    (h : Tracks before previous) (ht : t.kind ≠ .headingOpen) : Tracks (before ++ [t]) previous := by
  intro l hl
  rw [hasParent_concat, ← h l hl]
  simp [ht]

/-- A heading that has a parent, or needs none, becomes the one to compare with. -/
theorem Tracks.concat_heading {before : List Token} {previous : Option Int} {t : Token} {a : Int}
    (h : Tracks before previous) (ht : t.kind = .headingOpen) (ha : t.headingLevel = some a)
    (hparent : 1 < a → HasParent before a) : Tracks (before ++ [t]) (some a) := by
  intro l hl
  rw [hasParent_concat, ha]
  simp only [ht, true_and, forall_const, Option.some.injEq, forall_eq', exists_eq_left']
  constructor
  · rintro (rfl | ⟨-, hle⟩) <;> omega
  · intro hle
    by_cases heq : a = l - 1
    · exact .inl heq
    · -- the parent of level `l` is found where that of the deeper level `a` is
      obtain ⟨p, hp, hap⟩ := (h a (by omega)).mp (hparent (by omega))
      exact .inr ⟨(h l hl).mpr ⟨p, hp, by omega⟩, by omega⟩

/-! ## The two checks -/

theorem jumpsFrom_cons_eq_nil_iff {previous : Option Int} {t : Token} {rest : List Token} :
    Document.jumpsFrom previous (t :: rest) = .ok [] ↔
      Document.skipsLevel previous t.headingLevel = .ok false ∧
        Document.jumpsFrom t.headingLevel rest = .ok [] := by
  rw [Document.jumpsFrom]
  cases hskip : Document.skipsLevel previous t.headingLevel with
  | error fault => simp [bind, Except.bind]
  | ok skips =>
    cases hlater : Document.jumpsFrom t.headingLevel rest with
    | error fault => simp [bind, Except.bind]
    | ok later => cases skips <;> simp [bind, Except.bind, pure, Except.pure]

theorem lowFirstHeading_eq_nil_iff {d : Document} :
    d.lowFirstHeading = [] ↔ ∀ t ∈ d.headings.head?, t.headingLevel = some 1 := by
  unfold Document.lowFirstHeading
  cases d.headings with
  | nil => simp
  | cons t rest => simp

/-- Nothing to report from here on: no level is skipped, and if no heading comes before, the first one
is of level one. -/
def Silent (previous : Option Int) (headings : List Token) : Prop :=
  Document.jumpsFrom previous headings = .ok [] ∧
    (previous = none → ∀ t ∈ headings.head?, t.headingLevel = some 1)

/-- A heading is passed in silence just in case it is at most one level below the one before. -/
theorem silent_cons_iff {previous : Option Int} {t : Token} {rest : List Token} {a : Int}
    (hprevious : ∀ p, previous = some p → 1 ≤ p) (ha : t.headingLevel = some a) (ha1 : 1 ≤ a) :
    Silent previous (t :: rest) ↔
      (1 < a → ∃ p, previous = some p ∧ a ≤ p + 1) ∧ Silent (some a) rest := by
  unfold Silent
  rw [jumpsFrom_cons_eq_nil_iff, ha]
  cases previous with
  | none =>
    have hnone : (1 < a → ∃ p : Int, none = some p ∧ a ≤ p + 1) ↔ a = 1 := by
      refine ⟨fun h => ?_, fun h hlt => by omega⟩
      by_contra hne
      obtain ⟨p, hp, -⟩ := h (by omega)
      simp at hp
    rw [hnone]
    simp [Document.skipsLevel, ha, and_comm]
  | some p =>
    have hp := hprevious p rfl
    have hsome : (1 < a → ∃ q, some p = some q ∧ a ≤ q + 1) ↔ a ≤ p + 1 := by
      simp only [Option.some.injEq, exists_eq_left']
      omega
    have hp0 : p ≠ 0 := by omega
    rw [hsome]
    simp [Document.skipsLevel, hp0]

theorem silent_nil (previous : Option Int) : Silent previous [] := by
  refine ⟨?_, by simp⟩
  rw [Document.jumpsFrom]

/-! ## The walk -/

/-- Every heading among the tokens `rest` that is below the top level has a parent, there or among
the tokens `before`. -/
def Parented (before rest : List Token) : Prop :=
  ∀ passed t after l, rest = passed ++ t :: after → t.kind = .headingOpen →
    t.headingLevel = some l → 1 < l → HasParent (before ++ passed) l

theorem parented_nil (before : List Token) : Parented before [] := by
  intro passed t after l h
  simp at h

theorem parented_cons {before rest : List Token} {t : Token} :
    Parented before (t :: rest) ↔
      (t.kind = .headingOpen → ∀ l, t.headingLevel = some l → 1 < l → HasParent before l) ∧
        Parented (before ++ [t]) rest := by
  constructor
  · intro h
    refine ⟨fun hkind l hl hlt => ?_, fun passed u after l hrest hkind hl hlt => ?_⟩
    · simpa using h [] t rest l rfl hkind hl hlt
    · simpa using h (t :: passed) u after l (by rw [hrest]; rfl) hkind hl hlt
  · rintro ⟨hhead, htail⟩ passed u after l hrest hkind hl hlt
    cases passed with
    | nil =>
      obtain ⟨rfl, -⟩ : t = u ∧ rest = after := by simpa using hrest
      simpa using hhead hkind l hl hlt
    | cons first passed =>
      obtain ⟨rfl, hrest'⟩ : t = first ∧ rest = passed ++ u :: after := by simpa using hrest
      simpa using htail passed u after l hrest' hkind hl hlt

/-- From any point of the walk on, nothing is reported just in case all headings have parents. -/
theorem silent_iff_parented {before rest : List Token} {previous : Option Int}
    (htracks : Tracks before previous) (hprevious : ∀ p, previous = some p → 1 ≤ p)
    (hlevels : ∀ t ∈ rest, t.kind = .headingOpen → ∃ l, t.headingLevel = some l ∧ 1 ≤ l) :
    Silent previous (rest.filter fun t => t.kind ∈ [Kind.headingOpen]) ↔ Parented before rest := by
  induction rest generalizing before previous with
  | nil => exact ⟨fun _ => parented_nil before, fun _ => silent_nil previous⟩
  | cons t rest ih =>
    have hrest : ∀ u ∈ rest, u.kind = .headingOpen → ∃ l, u.headingLevel = some l ∧ 1 ≤ l :=
      fun u hu => hlevels u (List.mem_cons_of_mem _ hu)
    rw [parented_cons]
    by_cases hkind : t.kind = .headingOpen
    · obtain ⟨a, ha, ha1⟩ := hlevels t List.mem_cons_self hkind
      rw [List.filter_cons_of_pos (by simp [hkind]), silent_cons_iff hprevious ha ha1]
      have hparent : (t.kind = .headingOpen → ∀ l, t.headingLevel = some l → 1 < l →
          HasParent before l) ↔ (1 < a → ∃ p, previous = some p ∧ a ≤ p + 1) := by
        simp only [hkind, ha, forall_const, Option.some.injEq, forall_eq']
        exact forall_congr' (htracks a)
      rw [hparent]
      -- past this heading the invariant holds for its level, as it has a parent or needs none
      refine and_congr_right fun hstep => ?_
      refine ih (htracks.concat_heading hkind ha fun hlt => ?_) (fun p hp => ?_) hrest
      · exact (htracks a hlt).mpr (hstep hlt)
      · obtain rfl : a = p := by simpa using hp
        exact ha1
    · rw [List.filter_cons_of_neg (by simpa using hkind),
        ih (htracks.concat_other hkind) hprevious hrest]
      simp [hkind]

/-- **The outline of a document.** Where all headings have a level from one on, neither a skipped
level nor a low first heading is reported just in case every heading below the top level has a
parent. -/
theorem no_reports_iff_isOutline (d : Document) (fields fields' : Fields)
    (hlevels : ∀ t ∈ d.tokens, t.kind = .headingOpen → ∃ l, t.headingLevel = some l ∧ 1 ≤ l) :
    Rule.headingIncrement.evaluate d fields = .ok [] ∧
        Rule.firstHeading.evaluate d fields' = .ok [] ↔ d.IsOutline := by
  have hsilent : Silent none d.headings ↔
      Rule.headingIncrement.evaluate d fields = .ok [] ∧
        Rule.firstHeading.evaluate d fields' = .ok [] := by
    refine and_congr (Rule.evaluate_fallible_eq_nil_iff _ _ Document.headingJumps).symm ?_
    refine (imp_iff_right rfl).trans ?_
    rw [← lowFirstHeading_eq_nil_iff]
    exact (Rule.evaluate_always_eq_nil_iff _ _ Document.lowFirstHeading).symm
  rw [← hsilent]
  exact silent_iff_parented tracks_nil (by simp) hlevels

/-- An outline that goes down step by step and comes up freely, with other tokens in between. -/
theorem no_reports_iff_isOutline_free_drops :
    let heading (line l : Int) : Token :=
      { kind := .headingOpen, line := line, headingLevel := some l }
    let text : Token := { kind := .inline, line := 2 }
    let d : Document :=
      { lines := [], tokens := [text, heading 3 1, heading 4 2, text, heading 5 3, heading 6 3, text,
          heading 7 1, heading 8 2] }
    (∀ t ∈ d.tokens, t.kind = .headingOpen → ∃ l, t.headingLevel = some l ∧ 1 ≤ l) ∧
      (Rule.headingIncrement.evaluate d [] = .ok [] ∧ Rule.firstHeading.evaluate d [] = .ok [] ↔
        d.IsOutline) := by
  intro heading text d
  have h : ∀ t ∈ d.tokens, t.kind = .headingOpen → ∃ l, t.headingLevel = some l ∧ 1 ≤ l := by
    simp [d, heading, text]
  exact ⟨h, no_reports_iff_isOutline d [] [] h⟩

end MarkdownCheck
