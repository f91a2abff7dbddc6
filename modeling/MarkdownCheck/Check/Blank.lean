import MarkdownCheck.Document

/-!
# Superfluous blank lines

Blank lines that follow another one outside of code (`repeatedBlanks`), and blank lines that split a
block quote in two (`splitQuotes`).
-/

namespace MarkdownCheck.Document

/-- Whether the line at place `i`, counted from zero, lies in code. -/
def inCode (d : Document) (i : Nat) : Bool :=
  (d.select [.codeBlock, .fence]).any fun t => t.span.1 ≤ i && i < t.span.2

/-- The numbers of the blank lines after another blank one, unless `skip` holds of their place. The
lines start at place `i`, and `afterBlank` says whether a blank line precedes them. -/
def repeatedBlanksFrom (skip : Nat → Bool) (i : Nat) (afterBlank : Bool) : List Text → List Int
  | [] => []
  | line :: rest =>
    let later := repeatedBlanksFrom skip (i + 1) line.allBlank rest
    if line.allBlank && afterBlank && !skip i then ((i : Int) + 1) :: later else later

/-- The numbers of the blank lines that follow another one outside of code. -/
def repeatedBlanks (d : Document) : List Int := repeatedBlanksFrom d.inCode 0 false d.lines

/-- The line before each token that opens a block quote right after another one is closed. -/
def quoteSplits : List Token → List Int
  | t :: u :: rest =>
    let later := quoteSplits (u :: rest)
    if t.kind = .blockquoteClose ∧ u.kind = .blockquoteOpen then (u.line - 1) :: later else later
  | _ => []

/-- The line before each block quote that opens right after another one is closed. -/
def splitQuotes (d : Document) : List Int := quoteSplits d.tokens

end MarkdownCheck.Document
