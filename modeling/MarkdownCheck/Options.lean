import MarkdownCheck.Style
import MarkdownCheck.Value.Reading

/-!
# Options of a rule

A rule has one parameter or none. `Options.resolve` reads its value from raw settings, in which other
keys do not matter and a missing one means the default; `Options.settings` writes it as settings
again.
-/

namespace MarkdownCheck

/-- The parameters that rules have. -/
inductive Parameter where
  | headingStyle | listStyle | listIndent | lineLength
deriving DecidableEq, Repr

/-- The values that a setting may have. -/
inductive Domain where
  | oneOf (words : List String)
  | positive
deriving DecidableEq, Repr

namespace Parameter

/-- The type of the values, once read. -/
def Carrier : Parameter → Type
  | headingStyle => StylePolicy HeadingStyle
  | listStyle => StylePolicy BulletStyle
  | listIndent | lineLength => Nat

/-- The key of the setting. -/
def key : Parameter → String
  | headingStyle | listStyle => "style"
  | listIndent => "indent"
  | lineLength => "line_length"

/-- What a rejection calls settings with this parameter. -/
def title : Parameter → String
  | headingStyle => "HeadingStyleOptions"
  | listStyle => "ListStyleOptions"
  | listIndent => "ListIndentOptions"
  | lineLength => "LineLengthOptions"

def description : Parameter → String
  | headingStyle => "Required heading style, or 'consistent' to follow the first heading"
  | listStyle => "Required bullet marker, or 'consistent' to follow the first list item"
  | listIndent => "Spaces a nested bullet list is indented by"
  | lineLength => "Maximum line length before a break is expected"

def domain : Parameter → Domain
  | headingStyle => .oneOf (StylePolicy.names HeadingStyle)
  | listStyle => .oneOf (StylePolicy.names BulletStyle)
  | listIndent | lineLength => .positive

/-- The value where nothing is set. -/
def fallback : (p : Parameter) → p.Carrier
  | headingStyle => StylePolicy.consistent
  | listStyle => StylePolicy.consistent
  | listIndent => (2 : Nat)
  | lineLength => (80 : Nat)

/-- Reads the name of a policy, which has to be text and to match exactly. -/
def readPolicy {σ : Type} [Style σ] (v : Value) : Except Problem (StylePolicy σ) :=
  let named := match v with
    | .text s => StylePolicy.ofName? s
    | _ => none
  named.elim (.error (.notAccepted (StylePolicy.names σ))) .ok

/-- Reads a raw setting. -/
def read : (p : Parameter) → Value → Except Problem p.Carrier
  | headingStyle, v => (readPolicy v : Except Problem (StylePolicy HeadingStyle))
  | listStyle, v => (readPolicy v : Except Problem (StylePolicy BulletStyle))
  | listIndent, v | lineLength, v => v.toPositive

/-- Writes a value as a raw setting. -/
def write : (p : Parameter) → p.Carrier → Value
  | headingStyle, (policy : StylePolicy HeadingStyle) => .text policy.name
  | listStyle, (policy : StylePolicy BulletStyle) => .text policy.name
  | listIndent, (n : Nat) | lineLength, (n : Nat) => .int n

end Parameter

/-- The options of a rule: the value of its parameter, if it has one. -/
def Options : Option Parameter → Type
  | none => Unit
  | some p => p.Carrier

namespace Options

/-- Reads the options from raw settings. -/
def resolve : (p? : Option Parameter) → Fields → Except Rejection (Options p?)
  | none, _ => .ok ()
  | some p, fields =>
    match fields.lookup p.key with
    | none => .ok p.fallback
    | some v => (p.read v).mapError fun problem => ⟨p.title, [⟨[p.key], problem⟩]⟩

/-- Writes options as raw settings. -/
def settings : (p? : Option Parameter) → Options p? → Fields
  | none, _ => []
  | some p, (value : p.Carrier) => [(p.key, p.write value)]

end Options

end MarkdownCheck
