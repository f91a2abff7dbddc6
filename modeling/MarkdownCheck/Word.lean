/-!
# Word size

Line numbers and settings may be whole numbers of any size, but only those that fit in a signed
machine word can be looked up, or be mistaken for a switch.
-/

namespace MarkdownCheck

/-- Two to the power of 63, the first number that does not fit. -/
def wordBound : Int := 9223372036854775808

/-- Whether a number fits in 64 bits, sign included. -/
def fitsWord (n : Int) : Bool := -wordBound ≤ n && n < wordBound

theorem fitsWord_iff {n : Int} : fitsWord n = true ↔ -wordBound ≤ n ∧ n < wordBound := by
  simp [fitsWord]

end MarkdownCheck
