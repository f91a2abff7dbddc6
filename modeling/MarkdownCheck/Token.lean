import MarkdownCheck.Text.Basic

/-!
# Tokens

What a Markdown parser says about a document: a flat stream of tokens in reading order, each with
its kind, the line it starts on and the lines it spans. Nothing is promised about them: lines may
lie outside the document, spans may be inverted, openings need not be closed.
-/

namespace MarkdownCheck

/-- What a token stands for. Other kinds than those listed keep the name the parser gave them. -/
inductive Kind where
  | headingOpen | headingClose
  | bulletListOpen | bulletListClose
  | orderedListOpen | orderedListClose
  | listItemOpen | listItemClose
  | blockquoteOpen | blockquoteClose
  | paragraphOpen | paragraphClose
  | inline | text | codeBlock | fence
  | other (name : String)
deriving DecidableEq, Repr

namespace Kind

def name : Kind → String
  | headingOpen => "heading_open"
  | headingClose => "heading_close"
  | bulletListOpen => "bullet_list_open"
  | bulletListClose => "bullet_list_close"
  | orderedListOpen => "ordered_list_open"
  | orderedListClose => "ordered_list_close"
  | listItemOpen => "list_item_open"
  | listItemClose => "list_item_close"
  | blockquoteOpen => "blockquote_open"
  | blockquoteClose => "blockquote_close"
  | paragraphOpen => "paragraph_open"
  | paragraphClose => "paragraph_close"
  | inline => "inline"
  | text => "text"
  | codeBlock => "code_block"
  | fence => "fence"
  | other name => name

/-- The kinds that have a meaning here. -/
def known : List Kind :=
  [headingOpen, headingClose, bulletListOpen, bulletListClose, orderedListOpen, orderedListClose,
   listItemOpen, listItemClose, blockquoteOpen, blockquoteClose, paragraphOpen, paragraphClose,
   inline, text, codeBlock, fence]

/-- The kind of that name. -/
def ofName (name : String) : Kind := (known.find? (·.name = name)).getD (other name)

theorem name_ofName (s : String) : (ofName s).name = s := by
  rw [ofName]
  cases h : known.find? (·.name = s) with
  | none => rfl
  | some k => simpa using List.find?_some h

theorem ofName_name {k : Kind} (h : k ∈ known) : ofName k.name = k := by
  revert k
  decide

end Kind

/-- A node of the parsed document. -/
structure Token where
  kind : Kind
  /-- The line it starts on, counted from one. -/
  line : Int
  /-- The lines it covers, counted from zero, from the first up to but not including the second. -/
  range : Option (Int × Int) := none
  /-- How deep it is nested. -/
  level : Int := 0
  headingLevel : Option Int := none
  children : List Token := []
  content : Text := []

/-- The lines a token covers: the one it starts on unless it says otherwise. -/
def Token.span (t : Token) : Int × Int := t.range.getD (t.line - 1, t.line)

end MarkdownCheck
