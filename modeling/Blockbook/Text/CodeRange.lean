import Blockbook.Text.Basic

/-!
# Ranges of code points

A character class of the Unicode standard is a list of ranges. The ranges of one list increase, so
that a look-up stops at the first range that starts above the character.
-/

namespace Blockbook

/-- A list of inclusive ranges of code points, in increasing order. -/
abbrev CodeRanges := List (Nat × Nat)

/-- Whether a code point lies in one of the ranges. -/
def CodeRanges.contains : CodeRanges → Nat → Bool
  | [], _ => false
  | (first, last) :: ranges, n =>
    if n < first then false else n ≤ last || CodeRanges.contains ranges n

end Blockbook
