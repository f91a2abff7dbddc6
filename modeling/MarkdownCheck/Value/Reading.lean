import MarkdownCheck.Issue
import MarkdownCheck.Text.Numeral
import MarkdownCheck.Value
import MarkdownCheck.Word

/-!
# Reading raw values

A setting that calls for a whole number or for a switch also takes other values that leave no doubt
about what they mean. `Value.toInt` and `Value.toBool` say which, and what is wrong with the others.
-/

namespace MarkdownCheck

/-- Words that switch off. -/
def offWords : List Text :=
  ["0", "off", "f", "false", "n", "no"].map String.toList

/-- Words that switch on. -/
def onWords : List Text :=
  ["1", "on", "t", "true", "y", "yes"].map String.toList

/-- The switch position that a word stands for, whatever the case of its ASCII letters. -/
def switchOfWord (s : String) : Option Bool :=
  let word := s.toList.map Char.toLower
  if word ∈ offWords then some false else if word ∈ onWords then some true else none

/-- The switch position that a number stands for. -/
def switchOfInt (n : Int) : Option Bool :=
  if n = 0 then some false else if n = 1 then some true else none

namespace Value

/-- The whole number that a real is, if it is one of moderate size. -/
def wholePart? (q : Rat) : Option Int :=
  if q.den = 1 ∧ -wordBound < q.num ∧ q.num < wordBound then some q.num else none

/-- A whole number. Its size is limited if it is given as a real or as text; where a text goes beyond
the limit at once, that is what is wrong with it. -/
def toInt : Value → Except Problem Int
  | int n => .ok n
  | bool b => .ok (if b then 1 else 0)
  | real q =>
    match wholePart? q with
    | some n => .ok n
    | none => .error (if q.den = 1 then .tooLarge else .fractional)
  | text s =>
    match Text.Numeral.parse s.toList with
    | some n => .ok n
    | none => .error (if Text.Numeral.startsOverlong s.toList then .tooLarge else .notNumeral)
  | infinite _ | nan => .error .notFinite
  | null | array _ | object _ => .error .notInteger

/-- A whole number from one upwards. -/
def toPositive (v : Value) : Except Problem Nat :=
  v.toInt.bind fun n => if 1 ≤ n then .ok n.toNat else .error .belowOne

/-- A switch: a truth value, zero or one, or a word for on or off. -/
def toBool : Value → Except Problem Bool
  | bool b => .ok b
  | int n =>
    match switchOfInt n with
    | some b => .ok b
    | none => .error (if fitsWord n then .unclearSwitch else .notSwitch)
  | real q =>
    match wholePart? q with
    | some n => (switchOfInt n).elim (.error .unclearSwitch) .ok
    | none => .error .notSwitch
  | text s => (switchOfWord s).elim (.error .unclearSwitch) .ok
  | infinite _ | nan | null | array _ | object _ => .error .notSwitch

end Value

end MarkdownCheck
