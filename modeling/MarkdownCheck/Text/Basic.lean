import MarkdownCheck.Text.CodeRange

/-!
# Text and its blank characters

`Text` is what a line of a document or the content of a token holds. What every check asks of it is
where its blank characters are: trimming, indentation, blank ends.
-/

namespace MarkdownCheck

/-- A piece of document text: its characters in order. -/
abbrev Text := List Char

/-- The 25 characters of the Unicode property White_Space. -/
def whiteSpaceRanges : CodeRanges :=
  [(0x09, 0x0D), (0x20, 0x20), (0x85, 0x85), (0xA0, 0xA0), (0x1680, 0x1680), (0x2000, 0x200A),
   (0x2028, 0x2029), (0x202F, 0x202F), (0x205F, 0x205F), (0x3000, 0x3000)]

/-- The blank characters: White_Space and the four information separators U+001C to U+001F. -/
def blankRanges : CodeRanges :=
  [(0x09, 0x0D), (0x1C, 0x20), (0x85, 0x85), (0xA0, 0xA0), (0x1680, 0x1680), (0x2000, 0x200A),
   (0x2028, 0x2029), (0x202F, 0x202F), (0x205F, 0x205F), (0x3000, 0x3000)]

/-- White space in the narrow sense, as it may surround a numeral. -/
def isWhiteSpace (c : Char) : Bool := whiteSpaceRanges.covers c

/-- White space as the checks of a document see it. -/
def isBlank (c : Char) : Bool := blankRanges.covers c

namespace Text

/-- The text without the characters at its end that satisfy `p`. -/
def dropRightWhile (p : Char → Bool) (t : Text) : Text := (t.reverse.dropWhile p).reverse

/-- The text without leading blanks. -/
def trimLeft (t : Text) : Text := t.dropWhile isBlank

/-- The text without trailing blanks. -/
def trimRight (t : Text) : Text := t.dropRightWhile isBlank

/-- The text without blanks at either end. -/
def trim (t : Text) : Text := t.trimLeft.trimRight

/-- The number of leading blanks. -/
def indent (t : Text) : Nat := (t.takeWhile isBlank).length

/-- Whether the text holds blanks only. -/
def allBlank (t : Text) : Bool := t.all isBlank

/-- Whether the text begins with a blank. -/
def startsBlank (t : Text) : Bool := t.head?.any isBlank

/-- Whether the text ends in a blank. -/
def endsBlank (t : Text) : Bool := t.getLast?.any isBlank

/-! ### Blanks -/

theorem allBlank_iff {t : Text} : t.allBlank = true ↔ ∀ c ∈ t, isBlank c = true := by
  simp [allBlank]

theorem indent_eq_zero_iff {t : Text} : t.indent = 0 ↔ t.startsBlank = false := by
  cases t with
  | nil => simp [indent, startsBlank]
  | cons c t => by_cases h : isBlank c <;> simp [indent, startsBlank, h]

end Text

end MarkdownCheck
