import MarkdownCheck.Fault
import MarkdownCheck.Text.Lines
import MarkdownCheck.Token
import MarkdownCheck.Word

/-!
# Documents

A document is its lines together with its tokens. Checks read it in two ways: by going through the
lines, and by looking up the line that a token starts on (`Document.lineOf`).
-/

namespace MarkdownCheck

/-- A parsed document. Nothing ties the tokens to the lines. -/
structure Document where
  lines : List Text
  tokens : List Token := []

namespace Document

/-- The document with this text. -/
def ofText (text : Text) (tokens : List Token) : Document := ⟨text.lines, tokens⟩

/-- The place of line `k` among `n` lines. Lines count from one; zero is the last line, and negative
numbers go on backwards from there. -/
def position? (n : Nat) (k : Int) : Option Nat :=
  if 1 ≤ k ∧ k ≤ n then some (k - 1).toNat
  else if k ≤ 0 ∧ 0 < k + n then some (k - 1 + n).toNat
  else none

/-- The line with number `k`. -/
def line (d : Document) (k : Int) : Except Fault Text :=
  match (position? d.lines.length k).bind (d.lines[·]?) with
  | some t => .ok t
  | none => .error (if fitsWord (k - 1) then .lineOutOfRange else .lineNumberTooLarge)

/-- The line that a token starts on. -/
def lineOf (d : Document) (t : Token) : Except Fault Text := d.line t.line

/-- The indentation of the line that a token starts on. -/
def indentOf (d : Document) (t : Token) : Except Fault Nat := (d.lineOf t).map Text.indent

/-- The tokens of the given kinds, in order. -/
def select (d : Document) (kinds : List Kind) : List Token :=
  d.tokens.filter fun t => t.kind ∈ kinds

/-- The places of the tokens of the given kinds, counted from zero. -/
def positions (d : Document) (kinds : List Kind) : List Nat :=
  (d.tokens.zipIdx.filter fun p => p.1.kind ∈ kinds).map (·.2)

/-- The numbers of the lines that satisfy `p`. -/
def linesWhere (d : Document) (p : Text → Bool) : List Int :=
  ((d.lines.zipIdx 1).filter fun q => p q.1).map fun q => (q.2 : Int)

theorem mem_linesWhere {d : Document} {p : Text → Bool} {n : Int} :
    n ∈ d.linesWhere p ↔
      ∃ (i : Nat) (line : Text), d.lines[i]? = some line ∧ p line = true ∧ n = i + 1 := by
  simp only [linesWhere, List.mem_map, List.mem_filter, Prod.exists,
    List.mk_mem_zipIdx_iff_le_and_getElem?_sub]
  constructor
  · rintro ⟨line, i, ⟨⟨hi, hl⟩, hp⟩, rfl⟩
    exact ⟨i - 1, line, hl, hp, by omega⟩
  · rintro ⟨i, line, hl, hp, rfl⟩
    exact ⟨line, i + 1, ⟨⟨by omega, by simpa using hl⟩, hp⟩, by omega⟩

theorem linesWhere_bounds {d : Document} {p : Text → Bool} {n : Int} (h : n ∈ d.linesWhere p) :
    1 ≤ n ∧ n ≤ d.lines.length := by
  obtain ⟨i, line, hline, -, rfl⟩ := mem_linesWhere.mp h
  have hi : i < d.lines.length := (List.getElem?_eq_some_iff.mp hline).1
  omega

end Document

end MarkdownCheck
