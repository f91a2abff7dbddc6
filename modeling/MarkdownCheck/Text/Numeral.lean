import MarkdownCheck.Text.Basic

/-!
# Numerals

A whole number written out. White space around it, a plus sign, leading zeros, single underscores
between digits and a zero fraction do not count; what remains has to be the plain form of a number:
a minus sign or none, and digits of which the first is zero only if it is the only one. A plain form
of more than `maxLength` characters is not read.
-/

namespace MarkdownCheck

namespace Text.Numeral

/-- The most characters that the plain form of a number may have, its sign included. -/
def maxLength : Nat := 4300

def isDigit (c : Char) : Bool := '0' ≤ c && c ≤ '9'

def isNonzeroDigit (c : Char) : Bool := '1' ≤ c && c ≤ '9'

/-! ### Plain forms -/

/-- The value of digits, read from the left. -/
def digitsValue (ds : Text) : Nat := ds.foldl (fun n d => 10 * n + (d.toNat - '0'.toNat)) 0

/-- Reads digits of which the first is zero only if it is the only one. -/
def plainNat : Text → Option Nat
  | [] => none
  | d :: ds =>
    if isNonzeroDigit d && ds.all isDigit || d = '0' && ds.isEmpty then some (digitsValue (d :: ds))
    else none

/-- Reads the plain form of a number. -/
def plainInt : Text → Option Int
  | '-' :: ds => (plainNat ds).map fun n => -(n : Int)
  | ds => (plainNat ds).map fun n => (n : Int)

/-! ### What does not count -/

/-- Drops zeros and underscores that follow a zero. One character stays if nothing comes after them,
or a point. Otherwise a digit has to follow, or a minus sign: that too may stand after zeros. -/
def dropZeros (last : Char) : Text → Option Text
  | [] => some [last]
  | c :: rest =>
    if c = '0' ∨ c = '_' then dropZeros c rest
    else if c = '.' then some (last :: c :: rest)
    else if c = '-' ∨ isNonzeroDigit c then some (c :: rest)
    else none

/-- Drops leading zeros from a text that begins with a digit. -/
def dropLeadingZeros : Text → Option Text
  | [] => none
  | c :: rest =>
    if c = '0' then dropZeros c rest else if isNonzeroDigit c then some (c :: rest) else none

/-- Drops a point that only zeros follow, one at least. -/
def dropZeroFraction (t : Text) : Text :=
  match t.dropWhile (· ≠ '.') with
  | _ :: z :: zeros => if (z :: zeros).all (· = '0') then t.takeWhile (· ≠ '.') else t
  | _ => t

/-- Drops underscores, which may stand neither at an end nor next to each other. `afterUnderscore`
says whether one comes right before, as it does at the beginning for this purpose. -/
def dropUnderscores (afterUnderscore : Bool) : Text → Option Text
  | [] => if afterUnderscore then none else some []
  | c :: rest =>
    if c = '_' then if afterUnderscore then none else dropUnderscores true rest
    else (dropUnderscores false rest).map (c :: ·)

/-! ### Reading -/

/-- The sign in front of a text, as far as it counts, and the rest. -/
def splitSign : Text → Text × Text
  | '-' :: rest => (['-'], rest)
  | '+' :: rest => ([], rest)
  | t => ([], t)

/-- The plain form of the number that a text denotes, if it denotes one. -/
def simplify (t : Text) : Option Text :=
  let (sign, body) := splitSign (dropRightWhile isWhiteSpace (t.dropWhile isWhiteSpace))
  (dropLeadingZeros body).bind fun s =>
    (dropUnderscores true (dropZeroFraction s)).map fun digits => sign ++ digits

/-- The number that a text denotes. -/
def parse (t : Text) : Option Int :=
  (simplify t).bind fun s => if s.length ≤ maxLength then plainInt s else none

/-- Whether a text begins with more than `limit` digits, the first of them not zero. -/
def startsWithMore (limit : Nat) (t : Text) : Bool :=
  t.head?.any isNonzeroDigit && limit < (t.takeWhile isDigit).length

/-- Whether a text begins with the plain form of a number that is too long to be read. -/
def startsOverlong : Text → Bool
  | '-' :: ds => startsWithMore (maxLength - 1) ds
  | ds => startsWithMore maxLength ds

end Text.Numeral

end MarkdownCheck
