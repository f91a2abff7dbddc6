import MarkdownCheck.Check.Fence
import MarkdownCheck.Text.DecimalDigit

/-!
# Lists as the lines show them

Where a list begins and ends is read off the lines alone: a run of lines that begin with a marker,
outside of code. The check asks for a blank line on either side of such a run; an indented line
passes for one.
-/

namespace MarkdownCheck

namespace Text

/-- Whether a text begins with a bullet or a number with a point, and a blank after it. -/
def startsMarker : Text → Bool
  | [] => false
  | c :: rest =>
    if c ∈ ['*', '+', '-'] then startsBlank rest
    else if isDecimalDigit c then
      match rest.dropWhile isDecimalDigit with
      | '.' :: s => startsBlank s
      | _ => false
    else false

/-- Whether a line belongs to a list. -/
def isMarker (line : Text) : Bool := line.trim.startsMarker

/-- Whether a line has something to say at its very beginning. -/
def isOpen (line : Text) : Bool := !line.isEmpty && !line.startsBlank

end Text

/-- What a walk through the lines remembers of those before. -/
structure ListScan where
  inCode : Bool := false
  inList : Bool := false
  previous : Text := []
deriving DecidableEq, Repr

namespace ListScan

/-- Goes past a line. A fence ends any list, and code keeps lists from beginning. -/
def next (s : ListScan) (line : Text) : ListScan where
  inCode := if line.isFence then !s.inCode else s.inCode
  inList := !line.isFence && if s.inCode then s.inList else line.isMarker
  previous := line

/-- The number of the line where a list touches another line, if that shows at line `n`: the line
itself where a list begins, the one before it where a list has ended. -/
def touching (s : ListScan) (n : Int) (line : Text) : List Int :=
  if s.inCode then []
  else if line.isMarker then if !s.inList && s.previous.isOpen then [n] else []
  else if s.inList && line.isOpen then [n - 1] else []

/-- The numbers of the lines where a list touches another line, in lines that start at number `n`. -/
def crowded (s : ListScan) (n : Int) : List Text → List Int
  | [] => []
  | line :: rest => s.touching n line ++ (s.next line).crowded (n + 1) rest

end ListScan

/-- The numbers of the lines where a list touches another line. -/
def Document.crowdedLists (d : Document) : List Int := ListScan.crowded {} 1 d.lines

end MarkdownCheck
