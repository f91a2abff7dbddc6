import MarkdownCheck.Text.Quoted

/-!
# Faults

A check may break off instead of finishing. A `Fault` says why; its `kind`, its `argument` and the
two texts `message` and `inspect` are what a report shows of it.
-/

namespace MarkdownCheck

/-- A class of faults, by the name a report gives to it. -/
structure FaultKind where
  label : String
deriving DecidableEq, Repr

namespace FaultKind

def index : FaultKind := ⟨"IndexError"⟩

def key : FaultKind := ⟨"KeyError"⟩

def overflow : FaultKind := ⟨"OverflowError"⟩

def runtime : FaultKind := ⟨"RuntimeError"⟩

def type : FaultKind := ⟨"TypeError"⟩

def value : FaultKind := ⟨"ValueError"⟩

end FaultKind

/-- Why a check broke off, or a look-up failed. -/
inductive Fault where
  /-- A token stands on a line that the document does not have. -/
  | lineOutOfRange
  /-- The same, with a line number of more than 64 bits. -/
  | lineNumberTooLarge
  /-- A heading without a level follows a heading with one. -/
  | missingHeadingLevel
  /-- The line length to look for is out of reach. -/
  | limitTooLarge
  /-- It has too many digits to be written out at all. -/
  | limitUnwritable
  /-- No rule has the name. -/
  | unknownRule (name : String)
  /-- A check breaks off on its own account, with an argument or without. -/
  | raised (kind : FaultKind) (argument : Option String)
deriving DecidableEq, Repr

namespace Fault

def kind : Fault → FaultKind
  | lineOutOfRange | lineNumberTooLarge => .index
  | missingHeadingLevel => .type
  | limitTooLarge => .overflow
  | limitUnwritable => .value
  | unknownRule _ => .key
  | raised kind _ => kind

/-- What the fault says, if it says anything. -/
def argument : Fault → Option String
  | lineOutOfRange => some "tuple index out of range"
  | lineNumberTooLarge => some "cannot fit 'int' into an index-sized integer"
  | missingHeadingLevel => some "'>' not supported between instances of 'NoneType' and 'int'"
  | limitTooLarge => some "the repetition number is too large"
  | limitUnwritable =>
    some ("Exceeds the limit (4300 digits) for integer string conversion; " ++
      "use sys.set_int_max_str_digits() to increase the limit")
  | unknownRule name => some ("Unknown rule " ++ quoted name)
  | raised _ argument => argument

/-- The text of the fault alone: its argument, which a failed look-up shows quoted. -/
def message (f : Fault) : String :=
  match f.argument with
  | none => ""
  | some argument => if f.kind = .key then quoted argument else argument

/-- The fault with its class, the argument quoted between parentheses. -/
def inspect (f : Fault) : String :=
  f.kind.label ++ "(" ++ (f.argument.map quoted).getD "" ++ ")"

end Fault

end MarkdownCheck
