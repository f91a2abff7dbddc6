import Mathlib.Data.List.Sort
import MarkdownCheck.Rule.Table

/-!
# Evaluating a rule

What `Rule.evaluate` answers, said in terms of the options and of the findings of the check:

* `evaluate_eq_ok_iff`: an answer is the ascending list of what the check found, and there is one
  just in case the options are accepted and the check comes to its end;
* `evaluate_eq_error_iff`: otherwise there is a failure, for one of the two reasons in `Fails`.

An ascending list is known by its members (`ascending_eq_iff`), so two checks that find the same
lines in whatever order give the same answer.
-/

namespace MarkdownCheck

/-! ## Ascending lists -/

/-- The ascending list is the only strictly increasing one with the same members. -/
theorem ascending_eq_iff {lines sorted : List Int} :
    ascending lines = sorted ↔
      sorted.Pairwise (· < ·) ∧ ∀ k, k ∈ sorted ↔ k ∈ lines := by
  constructor
  · rintro rfl
    exact ⟨pairwise_ascending lines, fun _ => mem_ascending⟩
  · rintro ⟨hsorted, hmem⟩
    refine (pairwise_ascending lines).eq_of_mem_iff hsorted fun k => ?_
    rw [mem_ascending, hmem]

theorem ascending_congr {a b : List Int} (h : ∀ k, k ∈ a ↔ k ∈ b) : ascending a = ascending b := by
  rw [ascending_eq_iff]
  exact ⟨pairwise_ascending b, fun k => mem_ascending.trans (h k).symm⟩

theorem ascending_eq_nil_iff {lines : List Int} : ascending lines = [] ↔ lines = [] := by
  rw [ascending_eq_iff, List.eq_nil_iff_forall_not_mem]
  simp

namespace Rule

variable {r : Rule} {d : Document} {fields : Fields}

/-! ## Answers and failures -/

/-- Why a rule has no answer: its options are refused, or its check breaks off, whatever it found
before that. -/
inductive Fails (r : Rule) (d : Document) (fields : Fields) : Failure → Prop
  | refused {rejection : Rejection} (h : Options.resolve r.parameter fields = .error rejection) :
    Fails r d fields (.rejected rejection)
  | broken {options : Options r.parameter} {fault : Fault}
    (h : Options.resolve r.parameter fields = .ok options)
    (hfault : (r.check d options).fault = some fault) : Fails r d fields (.broken fault)

/-- What a rule answers: the lines its check found, ascending and each once. -/
structure Answers (r : Rule) (d : Document) (fields : Fields) (lines : List Int) : Prop where
  sorted : lines.Pairwise (· < ·)
  found : ∃ options, Options.resolve r.parameter fields = .ok options ∧
    (r.check d options).fault = none ∧ ∀ k, k ∈ lines ↔ k ∈ (r.check d options).lines

theorem evaluate_eq_ok_iff {lines : List Int} :
    r.evaluate d fields = .ok lines ↔ r.Answers d fields lines := by
  unfold evaluate
  constructor
  · intro h
    cases hres : Options.resolve r.parameter fields with
    | error rejection => simp [hres] at h
    | ok options =>
      cases hfault : (r.check d options).fault with
      | some fault => simp [hres, hfault] at h
      | none =>
        simp only [hres, hfault, Except.ok.injEq] at h
        obtain ⟨hsorted, hmem⟩ := ascending_eq_iff.mp h
        exact ⟨hsorted, options, hres, hfault, hmem⟩
  · rintro ⟨hsorted, options, hres, hfault, hmem⟩
    simp only [hres, hfault, ascending_eq_iff.mpr ⟨hsorted, hmem⟩]

theorem evaluate_eq_error_iff {failure : Failure} :
    r.evaluate d fields = .error failure ↔ r.Fails d fields failure := by
  unfold evaluate
  constructor
  · intro h
    cases hres : Options.resolve r.parameter fields with
    | error rejection =>
      simp only [hres, Except.error.injEq] at h
      exact h ▸ .refused hres
    | ok options =>
      cases hfault : (r.check d options).fault with
      | some fault =>
        simp only [hres, hfault, Except.error.injEq] at h
        exact h ▸ .broken hres hfault
      | none => simp [hres, hfault] at h
  · rintro (h | ⟨h, hfault⟩)
    · simp only [h]
    · simp only [h, hfault]

/-- Documents that the check cannot tell apart get the same answer or fail in the same way. -/
theorem evaluate_congr {e : Document} (fields : Fields)
    (h : ∀ options, r.check d options = r.check e options) :
    r.evaluate d fields = r.evaluate e fields := by
  unfold evaluate
  simp only [h]

/-! ## Rules with a result or a fault -/

theorem evaluate_ofExcept {options : Options r.parameter} {x : Except Fault (List Int)}
    (hres : Options.resolve r.parameter fields = .ok options)
    (hcheck : r.check d options = .ofExcept x) :
    r.evaluate d fields = (x.map ascending).mapError .broken := by
  unfold evaluate
  simp only [hres, hcheck]
  cases x with
  | error fault => rfl
  | ok lines => rfl

/-! ## Rules without options -/

theorem evaluate_always (name description : String) (check : Document → List Int) :
    evaluate { name, description, check := always check } d fields = .ok (ascending (check d)) :=
  rfl

theorem evaluate_always_eq_nil_iff (name description : String) (check : Document → List Int) :
    evaluate { name, description, check := always check } d fields = .ok [] ↔ check d = [] := by
  rw [evaluate_always, Except.ok.injEq, ascending_eq_nil_iff]

theorem evaluate_fallible (name description : String)
    (check : Document → Except Fault (List Int)) :
    evaluate { name, description, check := fallible check } d fields =
      ((check d).map ascending).mapError .broken :=
  evaluate_ofExcept rfl rfl

theorem evaluate_fallible_eq_ok_iff {reported : List Int} (name description : String)
    (check : Document → Except Fault (List Int)) :
    evaluate { name, description, check := fallible check } d fields = .ok reported ↔
      ∃ lines, check d = .ok lines ∧ reported.Pairwise (· < ·) ∧ ∀ k, k ∈ reported ↔ k ∈ lines := by
  rw [evaluate_fallible]
  cases check d with
  | error fault => simp [Except.map, Except.mapError]
  | ok lines => simp [Except.map, Except.mapError, ascending_eq_iff]

theorem evaluate_fallible_eq_nil_iff (name description : String)
    (check : Document → Except Fault (List Int)) :
    evaluate { name, description, check := fallible check } d fields = .ok [] ↔
      check d = .ok [] := by
  rw [evaluate_fallible]
  cases check d with
  | error fault => simp [Except.map, Except.mapError]
  | ok lines => simp [Except.map, Except.mapError, ascending_eq_nil_iff]

/-! ## The rule about length -/

/-- Every limit from one upwards can be asked for. -/
theorem resolve_lineLength {limit : Nat} (hpos : 1 ≤ limit) :
    Options.resolve lineLength.parameter [("line_length", .int limit)] = .ok limit := by
  have hone : (1 : Int) ≤ limit := by omega
  have hread : (Value.int limit).toPositive = .ok limit := by
    simp [Value.toPositive, Value.toInt, Except.bind, hone]
  show (Value.toPositive (.int limit)).mapError _ = .ok limit
  rw [hread]
  rfl

/-- A limit within reach is looked for on every line. -/
theorem evaluate_lineLength {limit : Nat}
    (hres : Options.resolve lineLength.parameter fields = .ok limit)
    (hlimit : limit < Document.limitBound) :
    lineLength.evaluate d fields = .ok (ascending (d.linesWhere (Text.breaksBeyond limit))) := by
  have hlines : d.longLines limit = .ok (d.linesWhere (Text.breaksBeyond limit)) := if_pos hlimit
  rw [evaluate_ofExcept (x := d.longLines limit) hres rfl, hlines]
  rfl

end Rule

end MarkdownCheck
