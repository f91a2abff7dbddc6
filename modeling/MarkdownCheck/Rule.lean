import MarkdownCheck.Document
import MarkdownCheck.Options

/-!
# Rules

A rule is a named check with options of its own. Evaluating it on a document first reads the options
and then runs the check; the answer is the lines it found, in ascending order and each once. A rule
whose options are refused, or whose check breaks off, has no answer but a `Failure`.
-/

namespace MarkdownCheck

/-! ### Lines in order -/

/-- Adds a number to an ascending list, unless it is in there already. -/
def insertLine (n : Int) : List Int → List Int
  | [] => [n]
  | m :: rest =>
    if n < m then n :: m :: rest else if n = m then m :: rest else m :: insertLine n rest

/-- The numbers in ascending order, each once. -/
def ascending (lines : List Int) : List Int := lines.foldr insertLine []

theorem mem_insertLine {n k : Int} {lines : List Int} :
    k ∈ insertLine n lines ↔ k = n ∨ k ∈ lines := by
  induction lines with
  | nil => simp [insertLine]
  | cons m rest ih =>
    simp only [insertLine]
    split
    · simp
    · split
      · simp_all
      · simp only [List.mem_cons, ih]
        grind

theorem pairwise_insertLine {n : Int} {lines : List Int} (h : lines.Pairwise (· < ·)) :
    (insertLine n lines).Pairwise (· < ·) := by
  induction lines with
  | nil => simp [insertLine]
  | cons m rest ih =>
    obtain ⟨hm, hr⟩ := List.pairwise_cons.1 h
    simp only [insertLine]
    split
    · rename_i hlt
      refine List.pairwise_cons.2 ⟨fun k hk => ?_, h⟩
      rcases List.mem_cons.1 hk with rfl | hk
      · exact hlt
      · exact Int.lt_trans hlt (hm k hk)
    · split
      · exact h
      · refine List.pairwise_cons.2 ⟨fun k hk => ?_, ih hr⟩
        rcases mem_insertLine.1 hk with rfl | hk
        · omega
        · exact hm k hk

theorem mem_ascending {k : Int} {lines : List Int} : k ∈ ascending lines ↔ k ∈ lines := by
  induction lines with
  | nil => simp [ascending]
  | cons n rest ih =>
    rw [ascending, List.foldr_cons, mem_insertLine, ← ascending, ih, List.mem_cons]

theorem pairwise_ascending (lines : List Int) : (ascending lines).Pairwise (· < ·) := by
  induction lines with
  | nil => exact List.Pairwise.nil
  | cons n rest ih => exact pairwise_insertLine ih

/-! ### Outcomes -/

/-- What a check reports: the lines it found, and the fault it broke off with, if it did. -/
structure Findings where
  lines : List Int
  fault : Option Fault := none

/-- The findings of a check that has lines or a fault. -/
def Findings.ofExcept : Except Fault (List Int) → Findings
  | .ok lines => ⟨lines, none⟩
  | .error fault => ⟨[], some fault⟩

/-- Why a rule has no answer. -/
inductive Failure where
  | rejected (rejection : Rejection)
  | broken (fault : Fault)
deriving DecidableEq, Repr

namespace Failure

/-- The class of the failure. -/
def label : Failure → String
  | rejected _ => "ValidationError"
  | broken fault => fault.kind.label

def message : Failure → String
  | rejected rejection => rejection.message
  | broken fault => fault.message

/-- The failure as the log shows it. -/
def inspect : Failure → String
  | rejected rejection => rejection.message
  | broken fault => fault.inspect

end Failure

/-! ### Rules -/

/-- A check with a name. Its options are those of its parameter. -/
structure Rule where
  name : String
  description : String
  parameter : Option Parameter := none
  check : Document → Options parameter → Findings

namespace Rule

/-- The answer of a rule on a document under raw settings. A fault outweighs all lines found before
it. -/
def evaluate (r : Rule) (d : Document) (fields : Fields) : Except Failure (List Int) :=
  match Options.resolve r.parameter fields with
  | .error rejection => .error (.rejected rejection)
  | .ok options =>
    let findings := r.check d options
    match findings.fault with
    | some fault => .error (.broken fault)
    | none => .ok (ascending findings.lines)

end Rule

end MarkdownCheck
