import MarkdownCheck.Check.Blank
import MarkdownCheck.Check.Bullet
import MarkdownCheck.Check.Heading
import MarkdownCheck.Check.Line
import MarkdownCheck.Check.Link
import MarkdownCheck.Check.ListBlock
import MarkdownCheck.Rule
import MarkdownCheck.Text.UpperCase

/-!
# The table of rules

The fifteen rules on offer, and looking up a rule by its name whatever the case of its letters.
-/

namespace MarkdownCheck

namespace Rule

/-- A check that always comes to an end. -/
def always (check : Document → List Int) : Document → Options none → Findings :=
  fun d _ => ⟨check d, none⟩

/-- A check that may break off. -/
def fallible (check : Document → Except Fault (List Int)) : Document → Options none → Findings :=
  fun d _ => .ofExcept (check d)

def headingIncrement : Rule where
  name := "MD001"
  description := "Header levels should only increment by one level at a time"
  check := fallible Document.headingJumps

def firstHeading : Rule where
  name := "MD002"
  description := "First header should be a h1 header"
  check := always Document.lowFirstHeading

def headingStyle : Rule where
  name := "MD003"
  description := "Header style"
  parameter := some .headingStyle
  check := fun d (policy : StylePolicy HeadingStyle) => .ofExcept (d.otherHeadingStyles policy)

def listStyle : Rule where
  name := "MD004"
  description := "Unordered list style"
  parameter := some .listStyle
  check := fun d (policy : StylePolicy BulletStyle) => .ofExcept (d.otherBulletStyles policy)

def listIndent : Rule where
  name := "MD005"
  description := "Inconsistent indentation for list items at the same level"
  check := fallible Document.unevenItems

def listStart : Rule where
  name := "MD006"
  description := "Consider starting bulleted lists at the beginning of the line"
  check := fallible Document.indentedLists

def listStep : Rule where
  name := "MD007"
  description := "Unordered list indentation"
  parameter := some .listIndent
  check := fun d (step : Nat) => .ofExcept (d.wrongSteps step)

def trailingSpaces : Rule where
  name := "MD009"
  description := "Trailing spaces"
  check := always Document.trailingBlanks

def hardTabs : Rule where
  name := "MD010"
  description := "Hard tabs"
  check := always Document.hardTabs

def reversedLinks : Rule where
  name := "MD011"
  description := "Reversed link syntax"
  check := always Document.reversedLinks

def multipleBlanks : Rule where
  name := "MD012"
  description := "Multiple consecutive blank lines"
  check := always Document.repeatedBlanks

def lineLength : Rule where
  name := "MD013"
  description := "Line length"
  parameter := some .lineLength
  check := fun d (limit : Nat) => .ofExcept (d.longLines limit)

def quoteBlanks : Rule where
  name := "MD028"
  description := "Blank line inside blockquote"
  check := always Document.splitQuotes

def fenceSurround : Rule where
  name := "MD031"
  description := "Fenced code blocks should be surrounded by blank lines"
  check := always Document.crowdedFences

def listSurround : Rule where
  name := "MD032"
  description := "Lists should be surrounded by blank lines"
  check := always Document.crowdedLists

/-- All rules on offer, in the order they run. -/
def table : List Rule :=
  [headingIncrement, firstHeading, headingStyle, listStyle, listIndent, listStart, listStep,
   trailingSpaces, hardTabs, reversedLinks, multipleBlanks, lineLength, quoteBlanks, fenceSurround,
   listSurround]

/-- The first of the rules that has the name, whatever the case of the letters. -/
def find (rules : List Rule) (name : String) : Except Fault Rule :=
  match rules.find? fun r => upper r.name = upper name with
  | some r => .ok r
  | none => .error (.unknownRule name)

end Rule

end MarkdownCheck
