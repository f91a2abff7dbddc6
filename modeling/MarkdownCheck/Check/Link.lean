import MarkdownCheck.Document

/-!
# Reversed links

A link is written with its text in brackets and its target in parentheses after it. The check finds
texts where the two are swapped.
-/

namespace MarkdownCheck

namespace Text

/-- The rest of a text after something that ends in `close` and has no other `close` in it, if that
is there and not empty. -/
def after? (close : Char) (t : Text) : Option Text :=
  match t.dropWhile (· ≠ close) with
  | [] => none
  | _ :: rest => if t.head? = some close then none else some rest

/-- Whether a text begins with a link whose two parts are swapped. -/
def startsReversedLink : Text → Bool
  | '(' :: t =>
    match after? ')' t with
    | some ('[' :: s) => (after? ']' s).isSome
    | _ => false
  | _ => false

/-- Whether a link with swapped parts stands anywhere in a text. -/
def hasReversedLink : Text → Bool
  | [] => false
  | c :: rest => startsReversedLink (c :: rest) || hasReversedLink rest

end Text

namespace Document

/-- The lines of the inline tokens with a reversed link in one of their texts. -/
def reversedLinks (d : Document) : List Int :=
  ((d.select [.inline]).filter fun t =>
    t.children.any fun child => child.kind = .text && child.content.hasReversedLink).map (·.line)

end Document

end MarkdownCheck
