import MarkdownCheck.Proofs.Evaluation
import MarkdownCheck.Proofs.ListWalk
import MarkdownCheck.Proofs.TokenLines

/-!
# An empty line in front moves every report down

`Document.lowered` has one more line, an empty one in front, and every token stands one line further
down.  A check that counts its lines from one, looks up the right line for a token and begins as if
a blank line came before the document reports the same lines, each one further down.

The walks are compared step by step: one that starts at the next number, on tokens that are lowered,
finds what it found before, lowered (`crowdedFencesFrom_succ`, `outermostFrom_lowered` and so on). A
look-up that fails may fail with another fault of the same class, so what is read through tokens is
compared up to that (`SameKind`).

The main statement, `evaluate_lowered`, holds of all rules.  The one about repeated blank lines
would take the new line for the first of two if the document begins with a blank line.
-/

namespace MarkdownCheck

/-! ## One line further down -/

mutual

/-- The token one line further down, with all that is in it. -/
def Token.lowered : Token → Token
  | ⟨kind, line, range, level, headingLevel, children, content⟩ =>
    ⟨kind, line + 1, range.map fun p => (p.1 + 1, p.2 + 1), level, headingLevel,
      loweredAll children, content⟩

/-- The tokens one line further down. -/
def loweredAll : List Token → List Token
  | [] => []
  | t :: rest => t.lowered :: loweredAll rest

end

theorem loweredAll_eq_map : ∀ ts : List Token, loweredAll ts = ts.map Token.lowered
  | [] => rfl
  | t :: rest => by rw [loweredAll, loweredAll_eq_map rest, List.map_cons]

namespace Token

variable (t : Token)

@[simp] theorem lowered_kind : t.lowered.kind = t.kind := by
  cases t
  rfl

@[simp] theorem lowered_line : t.lowered.line = t.line + 1 := by
  cases t
  rfl

@[simp] theorem lowered_level : t.lowered.level = t.level := by
  cases t
  rfl

@[simp] theorem lowered_headingLevel : t.lowered.headingLevel = t.headingLevel := by
  cases t
  rfl

@[simp] theorem lowered_content : t.lowered.content = t.content := by
  cases t
  rfl

@[simp] theorem lowered_children : t.lowered.children = t.children.map Token.lowered := by
  cases t
  exact loweredAll_eq_map _

@[simp] theorem lowered_span : t.lowered.span = (t.span.1 + 1, t.span.2 + 1) := by
  cases t with
  | mk kind line range level headingLevel children content =>
    cases range with
    | none => simp [lowered, span]
    | some p => simp [lowered, span]

end Token

namespace Document

variable {d : Document}

/-- The document with an empty line in front. -/
def lowered (d : Document) : Document where
  lines := [] :: d.lines
  tokens := d.tokens.map Token.lowered

theorem select_lowered (d : Document) (kinds : List Kind) :
    d.lowered.select kinds = (d.select kinds).map Token.lowered := by
  simp [select, lowered, List.filter_map, Function.comp_def]

/-! ## Readings -/

theorem position?_succ {n : Nat} {k : Int} (hk : 1 ≤ k) :
    position? (n + 1) (k + 1) = (position? n k).map (· + 1) := by
  unfold position?
  by_cases hn : k ≤ n
  · rw [if_pos (by omega), if_pos (by omega), Option.map_some]
    exact congrArg some (by omega)
  · rw [if_neg (by omega), if_neg (by omega), if_neg (by omega), if_neg (by omega), Option.map_none]

end Document

/-- The same result, or faults of the same class. -/
inductive SameKind {α : Type} : Except Fault α → Except Fault α → Prop
  | result (a : α) : SameKind (.ok a) (.ok a)
  | fault {f g : Fault} (h : f.kind = g.kind) : SameKind (.error f) (.error g)

namespace SameKind

variable {α β : Type} {x y : Except Fault α}

theorem refl (x : Except Fault α) : SameKind x x := by
  cases x with
  | error f => exact .fault rfl
  | ok a => exact .result a

theorem of_eq (h : x = y) : SameKind x y := h ▸ refl x

theorem map (h : SameKind x y) (g : α → β) : SameKind (x.map g) (y.map g) := by
  cases h with
  | result a => exact .result (g a)
  | fault h => exact .fault h

theorem bind {f g : α → Except Fault β} (h : SameKind x y) (hfg : ∀ a, SameKind (f a) (g a)) :
    SameKind (x >>= f) (y >>= g) := by
  cases h with
  | result a => exact hfg a
  | fault h => exact .fault h

theorem mapM {f g : β → Except Fault α} {bs : List β} (h : ∀ b ∈ bs, SameKind (f b) (g b)) :
    SameKind (bs.mapM f) (bs.mapM g) := by
  induction bs with
  | nil => exact refl _
  | cons b bs ih =>
    rw [List.mapM_cons, List.mapM_cons]
    have hrest := ih fun b' hb' => h b' (List.mem_cons_of_mem _ hb')
    exact (h b List.mem_cons_self).bind fun a => hrest.bind fun as => refl _

end SameKind

namespace Document

variable {d : Document} {t : Token}

theorem lineOf_lowered (ht : 1 ≤ t.line) : SameKind (d.lowered.lineOf t.lowered) (d.lineOf t) := by
  unfold lineOf line
  rw [Token.lowered_line, lowered, List.length_cons, position?_succ ht]
  cases hpos : position? d.lines.length t.line with
  | none =>
    refine .fault ?_
    split_ifs <;> rfl
  | some i =>
    rw [Option.map_some, Option.bind_some, Option.bind_some, List.getElem?_cons_succ,
      List.getElem?_eq_getElem (position?_lt hpos)]
    exact .result _

theorem headingStyle_lowered (ht : 1 ≤ t.line) :
    SameKind (d.lowered.headingStyle t.lowered) (d.headingStyle t) := by
  have hspan : t.span.2 + 1 - (t.span.1 + 1) = t.span.2 - t.span.1 := by omega
  unfold headingStyle
  rw [Token.lowered_span, hspan]
  split_ifs
  · exact (lineOf_lowered ht).map _
  · exact .refl _

/-- A series of readings through lowered tokens. -/
theorem mapM_lowered {β γ : Type} {f : Token → Except Fault β} {f' : Token → Except Fault γ}
    {g : β → γ} {ts : List Token} (hf : ∀ t ∈ ts, SameKind (f' t.lowered) ((f t).map g)) :
    SameKind ((ts.map Token.lowered).mapM f') ((ts.mapM f).map (List.map g)) := by
  rw [List.mapM_map, map_mapM]
  exact SameKind.mapM hf

/-- What is read is kept along with what is lowered. -/
theorem map_pair {α β γ δ : Type} (x : Except Fault α) (f : β → γ) (b : β) (g : α → δ) :
    (x.map fun a => (b, g a)).map (Prod.map f id) = x.map fun a => (f b, g a) := by
  cases x with
  | error fault => rfl
  | ok a => rfl

theorem withIndent_lowered {ts : List Token} (hts : ∀ t ∈ ts, 1 ≤ t.line) :
    SameKind (d.lowered.withIndent (ts.map Token.lowered))
      ((d.withIndent ts).map (List.map (Prod.map Token.lowered id))) := by
  refine mapM_lowered fun t ht => ?_
  rw [map_pair]
  exact ((lineOf_lowered (hts t ht)).map Text.indent).map _

/-- What is decided from readings is lowered if it is from lowered readings. -/
theorem decide_lowered {β γ : Type} {x : Except Fault (List β)} {x' : Except Fault (List γ)}
    {g : β → γ} {report : List β → List Int} {report' : List γ → List Int}
    (h : SameKind x' (x.map (List.map g)))
    (hreport : ∀ found, report' (found.map g) = (report found).map (· + 1)) :
    SameKind (x'.map report') ((x.map report).map (List.map (· + 1))) := by
  have hmap : (x.map report).map (List.map (· + 1)) = (x.map (List.map g)).map report' := by
    cases x with
    | error fault => rfl
    | ok found => exact congrArg Except.ok (hreport found).symm
  rw [hmap]
  exact h.map report'

/-! ## Headings -/

theorem jumpsFrom_lowered (previous : Option Int) (ts : List Token) :
    jumpsFrom previous (ts.map Token.lowered) =
      (jumpsFrom previous ts).map (List.map (· + 1)) := by
  induction ts generalizing previous with
  | nil => rfl
  | cons t rest ih =>
    rw [List.map_cons, jumpsFrom, jumpsFrom, Token.lowered_headingLevel, Token.lowered_line, ih]
    cases skipsLevel previous t.headingLevel with
    | error fault => rfl
    | ok skips =>
      cases jumpsFrom t.headingLevel rest with
      | error fault => rfl
      | ok later => cases skips <;> rfl

theorem headingJumps_lowered (d : Document) :
    d.lowered.headingJumps = d.headingJumps.map (List.map (· + 1)) := by
  unfold headingJumps headings
  rw [select_lowered, jumpsFrom_lowered]

theorem lowFirstHeading_lowered (d : Document) :
    d.lowered.lowFirstHeading = d.lowFirstHeading.map (· + 1) := by
  unfold lowFirstHeading headings
  rw [select_lowered, ← List.map_take, List.filterMap_map, List.map_filterMap]
  refine congrArg (List.filterMap · _) (funext fun t => ?_)
  by_cases ht : t.headingLevel = some 1 <;> simp [ht]

theorem offenders_lowered {σ : Type} [DecidableEq σ] (policy : StylePolicy σ)
    (found : List (Int × Option σ)) :
    policy.offenders (found.map (Prod.map (· + 1) id)) = (policy.offenders found).map (· + 1) := by
  simp [StylePolicy.offenders, List.filter_map, Function.comp_def]

theorem otherHeadingStyles_lowered (hd : ∀ t ∈ d.tokens, 1 ≤ t.line)
    (policy : StylePolicy HeadingStyle) :
    SameKind (d.lowered.otherHeadingStyles policy)
      ((d.otherHeadingStyles policy).map (List.map (· + 1))) := by
  rw [otherHeadingStyles_eq, otherHeadingStyles_eq]
  refine decide_lowered (g := Prod.map (· + 1) id) ?_ (offenders_lowered policy)
  unfold headings
  rw [select_lowered]
  refine mapM_lowered fun t ht => ?_
  rw [map_pair, Token.lowered_line]
  exact (headingStyle_lowered (hd t (mem_select_singleton_iff.mp ht).1)).map _

/-! ## Lists -/

theorem otherBulletStyles_lowered (hd : ∀ t ∈ d.tokens, 1 ≤ t.line)
    (policy : StylePolicy BulletStyle) :
    SameKind (d.lowered.otherBulletStyles policy)
      ((d.otherBulletStyles policy).map (List.map (· + 1))) := by
  rw [otherBulletStyles_eq, otherBulletStyles_eq]
  refine decide_lowered (g := Prod.map (· + 1) id) ?_ (offenders_lowered policy)
  unfold listItems
  rw [select_lowered]
  refine mapM_lowered fun t ht => ?_
  rw [map_pair, Token.lowered_line]
  exact (lineOf_lowered (hd t (mem_select_singleton_iff.mp ht).1)).map _

theorem unevenFrom_lowered (known : List (Int × Nat)) (items : List (Token × Nat)) :
    unevenFrom known (items.map (Prod.map Token.lowered id)) =
      (unevenFrom known items).map (· + 1) := by
  induction items generalizing known with
  | nil => rfl
  | cons p rest ih =>
    obtain ⟨t, indent⟩ := p
    simp only [List.map_cons, Prod.map_apply, id, unevenFrom, Token.lowered_level,
      Token.lowered_line]
    cases known.lookup t.level with
    | none => exact ih _
    | some first =>
      by_cases heq : indent = first
      · simp only [heq, if_true]
        exact ih _
      · simp only [heq, if_false, List.map_cons, ih]

theorem unevenItems_lowered (hd : ∀ t ∈ d.tokens, 1 ≤ t.line) :
    SameKind d.lowered.unevenItems (d.unevenItems.map (List.map (· + 1))) := by
  refine decide_lowered ?_ (unevenFrom_lowered [])
  unfold listItems
  rw [select_lowered]
  exact withIndent_lowered fun t ht => hd t (mem_select_singleton_iff.mp ht).1

theorem outermostFrom_lowered (depth : Int) (ts : List Token) :
    outermostFrom depth (ts.map Token.lowered) =
      (outermostFrom depth ts).map Token.lowered := by
  induction ts generalizing depth with
  | nil => rfl
  | cons t rest ih =>
    simp only [List.map_cons, outermostFrom, Token.lowered_kind, ih]
    split_ifs <;> rfl

theorem indentedLists_lowered (hd : ∀ t ∈ d.tokens, 1 ≤ t.line) :
    SameKind d.lowered.indentedLists (d.indentedLists.map (List.map (· + 1))) := by
  refine decide_lowered (g := Prod.map Token.lowered id) ?_ fun found => ?_
  · unfold outermostLists
    rw [show d.lowered.tokens = d.tokens.map Token.lowered from rfl, outermostFrom_lowered]
    refine withIndent_lowered fun t ht => ?_
    obtain ⟨before, after, htokens, -⟩ := (mem_outermostLists_iff (d := d)).mp ht
    exact hd t (by simp [htokens])
  · simp [List.filter_map, Function.comp_def]

theorem wrongStepsFrom_lowered (step previous : Nat) (lists : List (Token × Nat)) :
    wrongStepsFrom step previous (lists.map (Prod.map Token.lowered id)) =
      (wrongStepsFrom step previous lists).map (· + 1) := by
  induction lists generalizing previous with
  | nil => rfl
  | cons p rest ih =>
    obtain ⟨t, indent⟩ := p
    simp only [List.map_cons, Prod.map_apply, id, wrongStepsFrom, Token.lowered_line, ih]
    split_ifs <;> rfl

theorem wrongSteps_lowered (hd : ∀ t ∈ d.tokens, 1 ≤ t.line) (step : Nat) :
    SameKind (d.lowered.wrongSteps step) ((d.wrongSteps step).map (List.map (· + 1))) := by
  refine decide_lowered ?_ (wrongStepsFrom_lowered step 0)
  unfold bulletLists
  rw [select_lowered]
  exact withIndent_lowered fun t ht => hd t (mem_select_singleton_iff.mp ht).1

/-! ## Links and quotes -/

theorem reversedLinks_lowered (d : Document) :
    d.lowered.reversedLinks = d.reversedLinks.map (· + 1) := by
  unfold reversedLinks
  rw [select_lowered]
  simp [List.filter_map, Function.comp_def]

theorem quoteSplits_lowered (ts : List Token) :
    quoteSplits (ts.map Token.lowered) = (quoteSplits ts).map (· + 1) := by
  induction ts with
  | nil => rfl
  | cons t rest ih =>
    cases rest with
    | nil => rfl
    | cons u rest =>
      rw [List.map_cons] at ih
      simp only [List.map_cons, quoteSplits, Token.lowered_kind, Token.lowered_line, ih]
      split_ifs
      · rw [List.map_cons]
        exact congrArg (· :: _) (by omega)
      · rfl

/-! ## Lines -/

theorem linesWhere_lowered (d : Document) {p : Text → Bool} (hp : p [] = false) :
    d.lowered.linesWhere p = (d.linesWhere p).map (· + 1) := by
  unfold linesWhere lowered
  rw [List.zipIdx_cons, List.filter_cons_of_neg (by simp [hp]), List.zipIdx_succ]
  simp [List.filter_map, Function.comp_def]

theorem longLines_lowered (d : Document) (limit : Nat) :
    d.lowered.longLines limit = (d.longLines limit).map (List.map (· + 1)) := by
  unfold longLines
  split_ifs
  · exact congrArg Except.ok (linesWhere_lowered d rfl)
  · rfl
  · rfl

/-! ### Blank lines -/

theorem inCode_lowered (d : Document) (i : Nat) : d.lowered.inCode (i + 1) = d.inCode i := by
  unfold inCode
  rw [select_lowered, List.any_map]
  refine congrArg (List.any _) (funext fun t => ?_)
  simp

theorem repeatedBlanksFrom_succ {skip skip' : Nat → Bool} (hskip : ∀ i, skip' (i + 1) = skip i)
    (i : Nat) (afterBlank : Bool) (lines : List Text) :
    repeatedBlanksFrom skip' (i + 1) afterBlank lines =
      (repeatedBlanksFrom skip i afterBlank lines).map (· + 1) := by
  induction lines generalizing i afterBlank with
  | nil => rfl
  | cons line rest ih =>
    simp only [repeatedBlanksFrom, hskip, ih]
    split_ifs
    · rw [List.map_cons]
      push_cast
      rfl
    · rfl

/-- A line that is not blank is not reported, whatever comes before it. -/
theorem repeatedBlanksFrom_afterBlank {skip : Nat → Bool} {lines : List Text}
    (h : ∀ line ∈ lines.head?, Text.allBlank line = false) (i : Nat) (afterBlank : Bool) :
    repeatedBlanksFrom skip i afterBlank lines = repeatedBlanksFrom skip i false lines := by
  cases lines with
  | nil => rfl
  | cons line rest =>
    have hline : Text.allBlank line = false := h line rfl
    simp [repeatedBlanksFrom, hline]

theorem repeatedBlanks_lowered (h : ∀ line ∈ d.lines.head?, Text.allBlank line = false) :
    d.lowered.repeatedBlanks = d.repeatedBlanks.map (· + 1) := by
  have hfront : d.lowered.repeatedBlanks =
      repeatedBlanksFrom d.lowered.inCode (0 + 1) true d.lines := by
    simp [repeatedBlanks, lowered, repeatedBlanksFrom, Text.allBlank]
  rw [hfront, repeatedBlanksFrom_succ (inCode_lowered d), repeatedBlanksFrom_afterBlank h]
  rfl

/-! ### Fences and lists -/

theorem crowdedFencesFrom_succ (n : Int) (inCode crowded : Bool) (lines : List Text) :
    crowdedFencesFrom (n + 1) inCode crowded lines =
      (crowdedFencesFrom n inCode crowded lines).map (· + 1) := by
  induction lines generalizing n inCode crowded with
  | nil => rfl
  | cons line rest ih =>
    simp only [crowdedFencesFrom, ih]
    split_ifs <;> rfl

theorem crowdedFences_lowered (d : Document) :
    d.lowered.crowdedFences = d.crowdedFences.map (· + 1) :=
  crowdedFencesFrom_succ 1 false false d.lines

end Document

namespace ListScan

theorem touching_succ (s : ListScan) (n : Int) (line : Text) :
    s.touching (n + 1) line = (s.touching n line).map (· + 1) := by
  unfold touching
  split_ifs
  · rfl
  · rfl
  · rfl
  · exact congrArg (fun k => [k]) (show n + 1 - 1 = n - 1 + 1 by omega)
  · rfl

theorem crowded_succ (s : ListScan) (n : Int) (lines : List Text) :
    s.crowded (n + 1) lines = (s.crowded n lines).map (· + 1) := by
  induction lines generalizing s n with
  | nil => rfl
  | cons line rest ih => rw [crowded, crowded, touching_succ, ih, List.map_append]

end ListScan

theorem Document.crowdedLists_lowered (d : Document) :
    d.lowered.crowdedLists = d.crowdedLists.map (· + 1) :=
  ListScan.crowded_succ {} 1 d.lines

/-! ## Rules -/

theorem ascending_map_succ (lines : List Int) :
    ascending (lines.map (· + 1)) = (ascending lines).map (· + 1) := by
  refine ascending_eq_iff.mpr ⟨?_, fun k => ?_⟩
  · exact List.pairwise_map.mpr ((pairwise_ascending lines).imp fun h => by omega)
  · simp only [List.mem_map, mem_ascending]

/-- The answer of a rule on the lowered document is its answer lowered, and its failure one of the
same class. -/
def Rule.MovesDown (r : Rule) (d : Document) (fields : Fields) : Prop :=
  (∃ lines, r.evaluate d fields = .ok lines ∧
      r.evaluate d.lowered fields = .ok (lines.map (· + 1))) ∨
    ∃ failure failure', r.evaluate d fields = .error failure ∧
      r.evaluate d.lowered fields = .error failure' ∧ failure'.label = failure.label

theorem Rule.movesDown_always {name description : String} {check : Document → List Int}
    {d : Document} {fields : Fields} (h : check d.lowered = (check d).map (· + 1)) :
    Rule.MovesDown { name, description, check := always check } d fields := by
  refine .inl ⟨_, evaluate_always _ _ _, ?_⟩
  rw [evaluate_always, h, ascending_map_succ]

theorem Rule.movesDown_ofExcept {r : Rule} {d : Document} {fields : Fields}
    {check check' : Options r.parameter → Except Fault (List Int)}
    (hcheck : ∀ options, r.check d options = .ofExcept (check options))
    (hcheck' : ∀ options, r.check d.lowered options = .ofExcept (check' options))
    (h : ∀ options, SameKind (check' options) ((check options).map (List.map (· + 1)))) :
    r.MovesDown d fields := by
  cases hres : Options.resolve r.parameter fields with
  | error rejection =>
    exact .inr ⟨_, _, evaluate_eq_error_iff.mpr (.refused hres),
      evaluate_eq_error_iff.mpr (.refused hres), rfl⟩
  | ok options =>
    have hsame := h options
    unfold MovesDown
    rw [evaluate_ofExcept hres (hcheck options), evaluate_ofExcept hres (hcheck' options)]
    cases hx : check options with
    | ok lines =>
      rw [hx] at hsame
      generalize check' options = x' at hsame
      cases hsame with
      | result _ =>
        exact .inl ⟨_, rfl, congrArg Except.ok (ascending_map_succ lines)⟩
    | error fault =>
      rw [hx] at hsame
      generalize check' options = x' at hsame
      cases hsame with
      | fault hkind => exact .inr ⟨_, _, rfl, rfl, congrArg FaultKind.label hkind⟩

/-- **An empty line in front.** Where all tokens stand on lines counted from one, every rule answers
the document with an empty line in front as it answers the document itself, one line further down,
or fails on both in the same way.  For repeated blank lines the document may not begin with one. -/
theorem evaluate_lowered (d : Document) (hd : ∀ t ∈ d.tokens, 1 ≤ t.line) (r : Rule)
    (hr : r ∈ Rule.table)
    (hblank : r = Rule.multipleBlanks → ∀ line ∈ d.lines.head?, Text.allBlank line = false)
    (fields : Fields) :
    r.MovesDown d fields := by
  simp only [Rule.table, List.mem_cons, List.not_mem_nil, or_false] at hr
  rcases hr with rfl | rfl | rfl | rfl | rfl | rfl | rfl | rfl | rfl | rfl | rfl | rfl | rfl |
    rfl | rfl
  · exact Rule.movesDown_ofExcept (fun _ => rfl) (fun _ => rfl)
      fun _ => .of_eq d.headingJumps_lowered
  · exact Rule.movesDown_always d.lowFirstHeading_lowered
  · exact Rule.movesDown_ofExcept (fun _ => rfl) (fun _ => rfl)
      (Document.otherHeadingStyles_lowered hd)
  · exact Rule.movesDown_ofExcept (fun _ => rfl) (fun _ => rfl)
      (Document.otherBulletStyles_lowered hd)
  · exact Rule.movesDown_ofExcept (fun _ => rfl) (fun _ => rfl)
      fun _ => Document.unevenItems_lowered hd
  · exact Rule.movesDown_ofExcept (fun _ => rfl) (fun _ => rfl)
      fun _ => Document.indentedLists_lowered hd
  · exact Rule.movesDown_ofExcept (fun _ => rfl) (fun _ => rfl) (Document.wrongSteps_lowered hd)
  · exact Rule.movesDown_always (d.linesWhere_lowered rfl)
  · exact Rule.movesDown_always (d.linesWhere_lowered rfl)
  · exact Rule.movesDown_always d.reversedLinks_lowered
  · exact Rule.movesDown_always (Document.repeatedBlanks_lowered (hblank rfl))
  · exact Rule.movesDown_ofExcept (fun _ => rfl) (fun _ => rfl)
      fun limit => .of_eq (d.longLines_lowered limit)
  · exact Rule.movesDown_always (Document.quoteSplits_lowered d.tokens)
  · exact Rule.movesDown_always d.crowdedFences_lowered
  · exact Rule.movesDown_always d.crowdedLists_lowered

/-- Blank lines inside and outside of code, one of them the last line. -/
theorem evaluate_lowered_code_span :
    let d : Document :=
      { lines := ["a", "", " ", "    b", "", "", "c", "", ""].map String.toList
        tokens := [{ kind := .codeBlock, line := 4, range := some (3, 6) }] }
    (∀ t ∈ d.tokens, 1 ≤ t.line) ∧ Rule.multipleBlanks ∈ Rule.table ∧
      (∀ line ∈ d.lines.head?, Text.allBlank line = false) ∧
      Rule.multipleBlanks.MovesDown d [] := by
  intro d
  have hd : ∀ t ∈ d.tokens, 1 ≤ t.line := by simp [d]
  have hr : Rule.multipleBlanks ∈ Rule.table := by simp [Rule.table]
  have hblank : ∀ line ∈ d.lines.head?, Text.allBlank line = false := by decide
  exact ⟨hd, hr, hblank, evaluate_lowered d hd Rule.multipleBlanks hr (fun _ => hblank) []⟩

end MarkdownCheck
