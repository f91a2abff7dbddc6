import MarkdownCheck.Document
import MarkdownCheck.Style

/-!
# Lists as the parser sees them

Checks of bullets and indentation, for the lines that list tokens start on: bullets of another style
(`otherBulletStyles`), items of one level indented differently (`unevenItems`), outermost lists
that are indented at all (`indentedLists`), and nested lists indented by a wrong step
(`wrongSteps`).
-/

namespace MarkdownCheck.Document

/-- The items of the lists of a document. -/
def listItems (d : Document) : List Token := d.select [.listItemOpen]

/-- The bulleted lists of a document. -/
def bulletLists (d : Document) : List Token := d.select [.bulletListOpen]

/-- Tokens with the indentation of their lines. -/
def withIndent (d : Document) (ts : List Token) : Except Fault (List (Token × Nat)) :=
  ts.mapM fun t => (d.indentOf t).map fun indent => (t, indent)

/-! ### Bullets -/

/-- The style of the bullet that a line begins with. -/
def bulletOf (line : Text) : Option BulletStyle := line.trimLeft.head?.bind BulletStyle.ofChar?

/-- The lines of the items whose bullet is of another style than required. -/
def otherBulletStyles (d : Document) (policy : StylePolicy BulletStyle) :
    Except Fault (List Int) := do
  let found ← d.listItems.mapM fun t => (d.lineOf t).map fun line => (t.line, bulletOf line)
  return policy.offenders found

/-! ### Indentation -/

/-- The lines of the items not indented like the first item of their level. `known` holds the
indentation of the levels met before. -/
def unevenFrom (known : List (Int × Nat)) : List (Token × Nat) → List Int
  | [] => []
  | (t, indent) :: rest =>
    match known.lookup t.level with
    | none => unevenFrom ((t.level, indent) :: known) rest
    | some first =>
      if indent = first then unevenFrom known rest else t.line :: unevenFrom known rest

/-- The lines of the items not indented like the first item of their level. -/
def unevenItems (d : Document) : Except Fault (List Int) :=
  (d.withIndent d.listItems).map (unevenFrom [])

/-- The bulleted lists that open inside no other one. `depth` counts the lists open so far; a
closing without an opening makes it negative. -/
def outermostFrom (depth : Int) : List Token → List Token
  | [] => []
  | t :: rest =>
    if t.kind = .bulletListOpen then
      let later := outermostFrom (depth + 1) rest
      if depth = 0 then t :: later else later
    else if t.kind = .bulletListClose then outermostFrom (depth - 1) rest
    else outermostFrom depth rest

/-- The bulleted lists that open inside no other one. -/
def outermostLists (d : Document) : List Token := outermostFrom 0 d.tokens

/-- The lines of the outermost bulleted lists that are indented. -/
def indentedLists (d : Document) : Except Fault (List Int) :=
  (d.withIndent d.outermostLists).map fun found => (found.filter (·.2 ≠ 0)).map (·.1.line)

/-- The lines of the lists indented further than the one before, yet not by `step`. -/
def wrongStepsFrom (step previous : Nat) : List (Token × Nat) → List Int
  | [] => []
  | (t, indent) :: rest =>
    let later := wrongStepsFrom step indent rest
    if previous < indent ∧ indent - previous ≠ step then t.line :: later else later

/-- The lines of the bulleted lists indented further than the one before, yet not by `step`. -/
def wrongSteps (d : Document) (step : Nat) : Except Fault (List Int) :=
  (d.withIndent d.bulletLists).map (wrongStepsFrom step 0)

end MarkdownCheck.Document
