import MarkdownCheck.Document
import MarkdownCheck.Style

/-!
# Headings

Three checks over the headings of a document in reading order: levels that go down more than one
step at a time (`headingJumps`), a first heading below the top level (`lowFirstHeading`), headings
written in another style than required (`otherHeadingStyles`).
-/

namespace MarkdownCheck.Document

/-- The headings of a document. -/
def headings (d : Document) : List Token := d.select [.headingOpen]

/-! ### Levels -/

/-- Whether a heading comes more than one level below the one before it. Level zero and no level
are no heading to compare with. -/
def skipsLevel (previous level : Option Int) : Except Fault Bool :=
  match previous, level with
  | none, _ => .ok false
  | some p, none => if p = 0 then .ok false else .error .missingHeadingLevel
  | some p, some l => .ok (p ≠ 0 && p + 1 < l)

/-- The lines of the headings that skip a level, when `previous` is the level to start from. -/
def jumpsFrom (previous : Option Int) : List Token → Except Fault (List Int)
  | [] => .ok []
  | t :: rest => do
    let skips ← skipsLevel previous t.headingLevel
    let later ← jumpsFrom t.headingLevel rest
    return if skips then t.line :: later else later

/-- The lines of the headings that come more than one level below the one before them. -/
def headingJumps (d : Document) : Except Fault (List Int) := jumpsFrom none d.headings

/-- The line of the first heading, unless that is of level one. -/
def lowFirstHeading (d : Document) : List Int :=
  (d.headings.take 1).filterMap fun t => if t.headingLevel = some 1 then none else some t.line

/-! ### Styles -/

/-- Whether a heading line also ends in a number sign. -/
def isClosed (line : Text) : Bool := line.trimRight.getLast? = some '#'

/-- How a heading is written. One that spans a single line starts with number signs, any other has
its marks on a line below; only the former is looked up. -/
def headingStyle (d : Document) (t : Token) : Except Fault HeadingStyle :=
  if t.span.2 - t.span.1 = 1 then
    (d.lineOf t).map fun line => if isClosed line then .atxClosed else .atx
  else .ok .setext

/-- The lines of the headings of another style than required. -/
def otherHeadingStyles (d : Document) (policy : StylePolicy HeadingStyle) :
    Except Fault (List Int) := do
  let found ← d.headings.mapM fun t => (d.headingStyle t).map fun style => (t.line, some style)
  return policy.offenders found

end MarkdownCheck.Document
