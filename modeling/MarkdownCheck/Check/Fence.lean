import MarkdownCheck.Document

/-!
# Fences

A fence is a line that opens or closes a block of code. Which of the two it does depends on how many
come before it and on nothing else. The check asks for a blank line before an opening fence and
after a closing one; the ends of the document serve as well.
-/

namespace MarkdownCheck

/-- What a fence begins with. -/
def fenceMarks : List Text := [List.replicate 3 '\x60', List.replicate 3 '~']

/-- Whether a line is a fence. -/
def Text.isFence (line : Text) : Bool := fenceMarks.any (·.isPrefixOf line.trim)

namespace Document

/-- The numbers of the fences without a blank line on their outer side, in lines that start at
number `n`. `inCode` says whether a block of code is open before them, and `crowded` whether a line
that is not blank precedes them. -/
def crowdedFencesFrom (n : Int) (inCode crowded : Bool) : List Text → List Int
  | [] => []
  | line :: rest =>
    let crowds := !line.allBlank
    if line.isFence then
      let bad := if inCode then rest.head?.any (!·.allBlank) else crowded
      let later := crowdedFencesFrom (n + 1) (!inCode) crowds rest
      if bad then n :: later else later
    else crowdedFencesFrom (n + 1) inCode crowds rest

/-- The numbers of the fences without a blank line on their outer side. -/
def crowdedFences (d : Document) : List Int := crowdedFencesFrom 1 false false d.lines

end Document

end MarkdownCheck
