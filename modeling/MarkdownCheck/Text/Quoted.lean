import MarkdownCheck.Text.Basic
import MarkdownCheck.Text.Printable

/-!
# Quoted text

A name inside a message stands between quotes, and what could end the quotation or spoil the line
is escaped. `encode` writes the quoted form: printable characters only. `decode` reads one back.
-/

namespace MarkdownCheck

namespace Text.Quoted

def singleQuote : Char := '\x27'

def doubleQuote : Char := '\x22'

/-- The quotes to use: double ones for a text with a single quote and no double one. -/
def quoteFor (t : Text) : Char :=
  if singleQuote ∈ t ∧ doubleQuote ∉ t then doubleQuote else singleQuote

/-- The last `width` hexadecimal digits of `n`. -/
def hexDigits : (width n : Nat) → Text
  | 0, _ => []
  | width + 1, n => hexDigits width (n / 16) ++ [Nat.digitChar (n % 16)]

/-- The value of a hexadecimal digit, letters in lower case. -/
def hexValue (c : Char) : Option Nat :=
  if '0' ≤ c ∧ c ≤ '9' then some (c.toNat - '0'.toNat)
  else if 'a' ≤ c ∧ c ≤ 'f' then some (c.toNat - 'a'.toNat + 10)
  else none

/-- One character between quotes: backslash and quote after a backslash, three line characters by
letter, anything else that does not print by the digits of its code point. -/
def encodeChar (quote c : Char) : Text :=
  if c = '\\' ∨ c = quote then ['\\', c]
  else if c = '\n' then ['\\', 'n']
  else if c = '\r' then ['\\', 'r']
  else if c = '\t' then ['\\', 't']
  else if isPrintable c then [c]
  else if c.toNat < 0x100 then '\\' :: 'x' :: hexDigits 2 c.toNat
  else if c.toNat < 0x10000 then '\\' :: 'u' :: hexDigits 4 c.toNat
  else '\\' :: 'U' :: hexDigits 8 c.toNat

/-- The quoted form of a text. -/
def encode (t : Text) : Text :=
  let quote := quoteFor t
  quote :: t.flatMap (encodeChar quote) ++ [quote]

/-- Where a reader of a quoted form stands. -/
inductive Reading where
  /-- Between two characters. -/
  | plain
  /-- After a backslash. -/
  | escape
  /-- Inside the digits of a code point: how many are left and what those read amount to. -/
  | digits (left value : Nat)
deriving DecidableEq, Repr

/-- Reads up to the closing quote, which must be the last character. -/
def decodeBody (quote : Char) : Reading → Text → Option Text
  | _, [] => none
  | .plain, c :: rest =>
    if c = quote then if rest.isEmpty then some [] else none
    else if c = '\\' then decodeBody quote .escape rest
    else (decodeBody quote .plain rest).map (c :: ·)
  | .escape, c :: rest =>
    if c = 'n' then (decodeBody quote .plain rest).map ('\n' :: ·)
    else if c = 'r' then (decodeBody quote .plain rest).map ('\r' :: ·)
    else if c = 't' then (decodeBody quote .plain rest).map ('\t' :: ·)
    else if c = 'x' then decodeBody quote (.digits 2 0) rest
    else if c = 'u' then decodeBody quote (.digits 4 0) rest
    else if c = 'U' then decodeBody quote (.digits 8 0) rest
    else (decodeBody quote .plain rest).map (c :: ·)
  | .digits left value, c :: rest =>
    match hexValue c with
    | none => none
    | some d =>
      if left ≤ 1 then (decodeBody quote .plain rest).map (Char.ofNat (16 * value + d) :: ·)
      else decodeBody quote (.digits (left - 1) (16 * value + d)) rest

/-- The text that a quoted form stands for. -/
def decode : Text → Option Text
  | [] => none
  | quote :: rest =>
    if quote = singleQuote ∨ quote = doubleQuote then decodeBody quote .plain rest else none

end Text.Quoted

/-- A name as messages quote it. -/
def quoted (s : String) : String := String.ofList (Text.Quoted.encode s.toList)

end MarkdownCheck
