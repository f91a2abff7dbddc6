import MarkdownCheck.Check.Bullet
import MarkdownCheck.Check.Heading
import Mathlib.Data.List.Basic
import Mathlib.Tactic.SplitIfs

/-!
# Lines read through tokens

Five checks look up the lines that certain tokens start on, one after the other, and decide by what
they found there:

* `exists_lineOf_iff`: a token has a line just in case it is `Readable`, and what comes of any other
  token is a fault of the one class `index` (`kind_of_lineOf_eq_error`);
* `otherHeadingStyles_eq`, `otherBulletStyles_eq`: the checks of styles are, as those of indentation
  are by definition, a series of readings and then a function of what was read.

A series of readings is a `List.mapM`; `mapM_congr`, `mapM_eq_ok` and `map_mapM` say what becomes
of it when the single readings are changed.
-/

namespace MarkdownCheck

/-! ## Series of readings -/

section Series

variable {ε α β : Type} {f g : α → Except ε β} {as : List α}

theorem mapM_congr (h : ∀ a ∈ as, f a = g a) : as.mapM f = as.mapM g := by
  induction as with
  | nil => rw [List.mapM_nil, List.mapM_nil]
  | cons a as ih =>
    rw [List.mapM_cons, List.mapM_cons, h a List.mem_cons_self,
      ih fun b hb => h b (List.mem_cons_of_mem _ hb)]

theorem mapM_eq_ok {value : α → β} (h : ∀ a ∈ as, f a = .ok (value a)) :
    as.mapM f = .ok (as.map value) :=
  (mapM_congr h).trans List.mapM_pure

theorem map_mapM {γ : Type} (f : α → Except ε β) (value : β → γ) (as : List α) :
    (as.mapM f).map (List.map value) = as.mapM fun a => (f a).map value := by
  induction as with
  | nil => rfl
  | cons a as ih =>
    rw [List.mapM_cons, List.mapM_cons, ← ih]
    cases f a with
    | error e => rfl
    | ok b =>
      cases as.mapM f with
      | error e => rfl
      | ok bs => rfl

theorem map_eq_ok_iff {γ : Type} {x : Except ε α} {value : α → γ} {c : γ} :
    x.map value = .ok c ↔ ∃ a, x = .ok a ∧ value a = c := by
  cases x with
  | error e => simp [Except.map]
  | ok a => simp [Except.map]

/-- What is put beside each reading comes out in order. -/
theorem map_fst_of_mapM {γ δ : Type} {beside : α → γ} {value : β → δ} {found : List (γ × δ)}
    (h : (as.mapM fun a => (f a).map fun b => (beside a, value b)) = .ok found) :
    found.map (·.1) = as.map beside := by
  induction as generalizing found with
  | nil =>
    obtain rfl : [] = found := Except.ok.inj h
    rfl
  | cons a as ih =>
    rw [List.mapM_cons] at h
    cases ha : f a with
    | error e =>
      rw [ha] at h
      cases h
    | ok b =>
      cases has : as.mapM fun a => (f a).map fun b => (beside a, value b) with
      | error e =>
        rw [ha, has] at h
        cases h
      | ok rest =>
        rw [ha, has] at h
        obtain rfl : (beside a, value b) :: rest = found := Except.ok.inj h
        rw [List.map_cons, List.map_cons, ih has]

theorem bind_pure_eq_map {γ : Type} (x : Except ε α) (value : α → γ) :
    (x >>= fun a => pure (value a)) = x.map value := by
  cases x with
  | error e => rfl
  | ok a => rfl

end Series

namespace Document

variable {d : Document} {t : Token}

/-! ## Selected tokens -/

theorem mem_select_singleton_iff {k : Kind} : t ∈ d.select [k] ↔ t ∈ d.tokens ∧ t.kind = k := by
  simp [select]

theorem mem_positions_iff {kinds : List Kind} {i : Nat} :
    i ∈ d.positions kinds ↔ ∃ t, d.tokens[i]? = some t ∧ t.kind ∈ kinds := by
  simp [positions, List.mem_zipIdx_iff_getElem?]

/-- The tokens selected are those at the places listed, in order. -/
theorem filterMap_positions (d : Document) (kinds : List Kind) :
    (d.positions kinds).filterMap (d.tokens[·]?) = d.select kinds := by
  have hplace : ∀ p ∈ d.tokens.zipIdx.filter fun p => p.1.kind ∈ kinds,
      d.tokens[p.2]? = some p.1 :=
    fun p hp => List.mem_zipIdx_iff_getElem?.mp (List.mem_filter.mp hp).1
  calc (d.positions kinds).filterMap (d.tokens[·]?)
      = (d.tokens.zipIdx.filter fun p => p.1.kind ∈ kinds).filterMap fun p => d.tokens[p.2]? := by
        rw [positions, List.filterMap_map]
        rfl
    _ = (d.tokens.zipIdx.filter fun p => p.1.kind ∈ kinds).map (·.1) := by
        rw [List.filterMap_congr hplace]
        exact congrFun List.filterMap_eq_map _
    _ = (d.tokens.zipIdx.map (·.1)).filter fun t => t.kind ∈ kinds := by
        rw [List.filter_map]
        rfl
    _ = d.select kinds := by rw [List.zipIdx_map_fst, select]

/-! ## Readable tokens -/

/-- Whether the line of a token exists, counted from either end of the document. -/
def Readable (d : Document) (t : Token) : Prop :=
  -(d.lines.length : Int) ≤ t.line - 1 ∧ t.line - 1 ≤ (d.lines.length : Int) - 1

instance : Decidable (d.Readable t) := inferInstanceAs (Decidable (_ ∧ _))

theorem position?_lt {n i : Nat} {k : Int} (h : position? n k = some i) : i < n := by
  unfold position? at h
  split_ifs at h with hfront hback
  · obtain rfl : (k - 1).toNat = i := by simpa using h
    omega
  · obtain rfl : (k - 1 + n).toNat = i := by simpa using h
    omega

theorem position?_eq_none_iff {n : Nat} {k : Int} :
    position? n k = none ↔ ¬ (-(n : Int) ≤ k - 1 ∧ k - 1 ≤ (n : Int) - 1) := by
  unfold position?
  split_ifs with hfront hback
  · simp only [false_iff, not_not]
    omega
  · simp only [false_iff, not_not]
    omega
  · simp only [true_iff]
    omega

/-- Looking up a line is a fault of class `index` or succeeds, and the place decides which. -/
theorem line_cases (d : Document) (k : Int) :
    (∃ i line, position? d.lines.length k = some i ∧ d.lines[i]? = some line ∧
        d.line k = .ok line) ∨
      position? d.lines.length k = none ∧
        ∃ fault, d.line k = .error fault ∧ fault.kind = .index := by
  unfold line
  cases hpos : position? d.lines.length k with
  | none =>
    refine .inr ⟨rfl, _, rfl, ?_⟩
    split_ifs
    · rfl
    · rfl
  | some i =>
    have hline := List.getElem?_eq_getElem (position?_lt hpos)
    refine .inl ⟨i, _, rfl, hline, ?_⟩
    rw [Option.bind_some, hline]

theorem exists_lineOf_iff : (∃ line, d.lineOf t = .ok line) ↔ d.Readable t := by
  unfold lineOf Readable
  rcases line_cases d t.line with ⟨i, line, hpos, -, hline⟩ | ⟨hpos, fault, hline, -⟩
  · have hsome : position? d.lines.length t.line ≠ none := by
      rw [hpos]
      exact Option.some_ne_none i
    rw [Ne, position?_eq_none_iff, not_not] at hsome
    exact iff_of_true ⟨line, hline⟩ hsome
  · refine iff_of_false ?_ (position?_eq_none_iff.mp hpos)
    rintro ⟨line, h⟩
    rw [hline] at h
    cases h

theorem kind_of_lineOf_eq_error {fault : Fault} (h : d.lineOf t = .error fault) :
    fault.kind = .index := by
  unfold lineOf at h
  rcases line_cases d t.line with ⟨i, line, -, -, hline⟩ | ⟨-, fault', hline, hkind⟩
  · rw [hline] at h
    cases h
  · rw [hline] at h
    cases h
    exact hkind

/-! ## Checks as readings -/

theorem otherHeadingStyles_eq (d : Document) (policy : StylePolicy HeadingStyle) :
    d.otherHeadingStyles policy =
      (d.headings.mapM fun t => (d.headingStyle t).map fun style => (t.line, some style)).map
        policy.offenders :=
  bind_pure_eq_map _ _

theorem otherBulletStyles_eq (d : Document) (policy : StylePolicy BulletStyle) :
    d.otherBulletStyles policy =
      (d.listItems.mapM fun t => (d.lineOf t).map fun line => (t.line, bulletOf line)).map
        policy.offenders :=
  bind_pure_eq_map _ _

end Document

end MarkdownCheck
