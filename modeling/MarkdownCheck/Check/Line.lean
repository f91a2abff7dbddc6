import MarkdownCheck.Document

/-!
# Single lines

Checks that look at one line at a time: a blank at the end, a tab anywhere, and a place to break
the line beyond the permitted length.
-/

namespace MarkdownCheck

/-- Whether a text could be broken beyond its first `limit` characters: a blank stands there, with
no line feed before it. -/
def Text.breaksBeyond (limit : Nat) : Text → Bool
  | [] => false
  | c :: rest =>
    match limit with
    | 0 => isBlank c || (c ≠ '\n' && breaksBeyond 0 rest)
    | limit + 1 => c ≠ '\n' && breaksBeyond limit rest

namespace Document

/-- The numbers of the lines that end in a blank. -/
def trailingBlanks (d : Document) : List Int := d.linesWhere Text.endsBlank

/-- The numbers of the lines with a tab. -/
def hardTabs (d : Document) : List Int := d.linesWhere fun line => '\t' ∈ line

/-- The first limit on the length of lines that is out of reach. -/
def limitBound : Nat := 4294967295

/-- The first limit with more than 4300 digits, which are too many to be written out. -/
def unwritableBound : Nat := Nat.pow 10 4300

/-- The numbers of the lines that could be broken beyond their first `limit` characters. A long
line without a blank there passes. -/
def longLines (d : Document) (limit : Nat) : Except Fault (List Int) :=
  if limit < limitBound then .ok (d.linesWhere (Text.breaksBeyond limit))
  else if limit < unwritableBound then .error .limitTooLarge
  else .error .limitUnwritable

end Document

end MarkdownCheck
