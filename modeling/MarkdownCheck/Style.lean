/-!
# Styles

Markdown offers several ways to write a heading or a bulleted list. A `StylePolicy` asks for one of
them, or for whichever the document uses first.
-/

namespace MarkdownCheck

/-- How a heading is written: number signs in front, on both sides, or a line of marks below. -/
inductive HeadingStyle where
  | atx | atxClosed | setext
deriving DecidableEq, Repr

/-- The character that marks an item of a bulleted list. -/
inductive BulletStyle where
  | asterisk | dash | plus
deriving DecidableEq, Repr

/-- Styles have names and can be listed. -/
class Style (σ : Type) where
  all : List σ
  name : σ → String

instance : Style HeadingStyle where
  all := [.atx, .atxClosed, .setext]
  name
    | .atx => "atx"
    | .atxClosed => "atx_closed"
    | .setext => "setext"

instance : Style BulletStyle where
  all := [.asterisk, .dash, .plus]
  name
    | .asterisk => "asterisk"
    | .dash => "dash"
    | .plus => "plus"

/-- The style of a bullet character. -/
def BulletStyle.ofChar? : Char → Option BulletStyle
  | '*' => some .asterisk
  | '-' => some .dash
  | '+' => some .plus
  | _ => none

/-- Which style to ask for: that of the first occurrence, or always the same. -/
inductive StylePolicy (σ : Type) where
  | consistent
  | always (style : σ)
deriving DecidableEq, Repr

namespace StylePolicy

variable {σ : Type}

def name [Style σ] : StylePolicy σ → String
  | consistent => "consistent"
  | always style => Style.name style

/-- The policies there are. -/
def all [Style σ] : List (StylePolicy σ) := consistent :: Style.all.map always

/-- The names of the policies about a kind of style. -/
def names (σ : Type) [Style σ] : List String := (all : List (StylePolicy σ)).map name

/-- The policy of that name. -/
def ofName? [Style σ] (s : String) : Option (StylePolicy σ) := all.find? (·.name = s)

theorem name_of_ofName? [Style σ] {s : String} {policy : StylePolicy σ}
    (h : ofName? s = some policy) : policy.name = s := by
  simpa using List.find?_some h

/-- The style that a policy asks for where `styles` occur, in this order. An occurrence may have no
style of its own; if that is the first one, nothing is asked for by name. -/
def required (policy : StylePolicy σ) (styles : List (Option σ)) : Option σ :=
  match policy with
  | always style => some style
  | consistent => styles.head?.join

/-- The lines whose style is another than the required one. Lines without a style pass. -/
def offenders [DecidableEq σ] (policy : StylePolicy σ) (found : List (Int × Option σ)) : List Int :=
  let style := policy.required (found.map (·.2))
  (found.filter fun p => p.2.isSome && p.2 ≠ style).map (·.1)

end StylePolicy

end MarkdownCheck
