import Blockbook.Decimal.Shortest
import Blockbook.Json.Basic

/-!
# Numbers in JSON text

Integers that fit into 64 bits stay integers, every other number is a double. A double is read from
its first digits, as many as fit into 64 bits, scaled by one power of ten, and it is written with
the fewest digits that read back.
-/

namespace Blockbook.Json

/-- A number as it is written: sign, digits before the point, digits after it if there is one, and
the exponent with its sign if there is one. -/
structure Numeral where
  negative : Bool
  whole : Text
  fraction : Option Text
  exponent : Option (Bool × Text)
deriving DecidableEq, Repr

/-- The integers below this fit into a word of 64 bits. -/
def wordBound : Nat := Nat.pow 2 64

def isDigit (c : Char) : Bool := '0' ≤ c && c ≤ '9'

def digitValue (c : Char) : Nat := c.toNat - '0'.toNat

namespace Numeral

/-- The value of a sequence of digits. -/
def natValue (digits : Text) : Nat := digits.foldl (fun n c => 10 * n + digitValue c) 0

/-- Takes digits into a significand as long as it fits into 64 bits; what does not fit is left. -/
def absorb (significand : Nat) : Text → Nat × Text
  | [] => (significand, [])
  | c :: cs =>
    let next := 10 * significand + digitValue c
    if next < wordBound then absorb next cs else (significand, c :: cs)

/-- Divides by a power of ten, in steps that fit into a double. -/
def scaleDown (f : Float) (n : Nat) : Float :=
  if n ≤ 308 then f / Float.ofScientific 1 false n
  else if f == 0 then f
  else scaleDown (f / Float.ofScientific 1 false 308) (n - 308)
termination_by n
decreasing_by omega

/-- The double `significand * 10 ^ exponent`; there is none beyond the greatest one. -/
def scale? (significand : Nat) (exponent : Int) : Option Float :=
  let f := significand.toUInt64.toFloat
  if exponent < 0 then some (scaleDown f exponent.natAbs)
  else if exponent ≤ 308 then
    let g := f * Float.ofScientific 1 false exponent.natAbs
    if g.isInf then none else some g
  else if f == 0 then some f
  else none

/-- The exponents that are counted; a greater one is beyond every double. -/
def exponentLimit : Nat := Nat.pow 2 31 - 1

/-- The size of a number that is not an integer of 64 bits. -/
def magnitude? (n : Numeral) : Option Float :=
  let (whole, dropped) := absorb 0 n.whole
  let fraction := n.fraction.getD []
  let (significand, left) := absorb whole fraction
  let start : Int := dropped.length - (fraction.length - left.length : Nat)
  match n.exponent with
  | none => scale? significand start
  | some (negative, digits) =>
    let e := natValue digits
    if exponentLimit < e then
      if significand ≠ 0 && !negative then none else some 0
    else
      let least : Int := -(exponentLimit + 1)
      let total : Int := if negative then start - e else start + e
      scale? significand (max least (min exponentLimit total))

/-- The double of a numeral. -/
def double? (n : Numeral) : Option Number :=
  n.magnitude?.map fun f => .double (if n.negative then -f else f).toBits

/-- The value of a numeral; there is none if it is beyond the greatest double. -/
def value? (n : Numeral) : Option Number :=
  if n.fraction.isSome || n.exponent.isSome then n.double?
  else
    let k := natValue n.whole
    if n.negative then
      if 0 < k && k ≤ wordBound / 2 then some (.int (-(k : Int))) else n.double?
    else if k < wordBound then some (.int k) else n.double?

end Numeral

/-- A double taken apart: its sign, its significand and exponent, and whether the gap below it is
half the gap above. -/
structure Double where
  negative : Bool
  significand : Nat
  exponent : Int
  narrow : Bool

/-- The parts of a finite double. -/
def Double.ofBits (bits : UInt64) : Double :=
  let n := bits.toNat
  let unit := Nat.pow 2 52
  let fraction := n % unit
  let biased : Nat := n / unit % 2048
  { negative := wordBound / 2 ≤ n
    significand := if biased = 0 then fraction else fraction + unit
    exponent := if biased = 0 then -1074 else (biased : Int) - 1075
    narrow := fraction = 0 && 1 < biased }

/-- How numbers that are not integers are written. -/
structure NumberFormat where
  /-- The least exponent that is written without one. -/
  leastPlain : Int
  /-- The greatest exponent that is written without one. -/
  greatestPlain : Int

/-- Numbers are written without an exponent from a hundred-thousandth up to sixteen digits before
the point. -/
def numberFormat : NumberFormat := ⟨-5, 15⟩

/-- The decimal `digits * 10 ^ exponent` as text. A number without an exponent always has a
fraction, and an exponent always has a sign. -/
def NumberFormat.write (format : NumberFormat) (d : Decimal) : Text :=
  let digits := Text.ofNat d.digits
  let top : Int := d.exponent + (digits.length - 1 : Nat)
  if format.leastPlain ≤ top ∧ top ≤ format.greatestPlain then
    if top < 0 then "0." ++ List.replicate (top.natAbs - 1) '0' ++ digits
    else
      let point := top.natAbs + 1
      if point < digits.length then digits.take point ++ ['.'] ++ digits.drop point
      else digits ++ List.replicate (point - digits.length) '0' ++ ".0"
  else
    let mantissa : Text := match digits with
      | [] => []
      | [c] => [c]
      | c :: cs => c :: '.' :: cs
    let sign : Text := if top < 0 then "e-" else "e+"
    mantissa ++ sign ++ Text.ofNat top.natAbs

/-- A number as text. -/
def Number.write : Number → Text
  | .int n => Text.ofInt n
  | .double bits =>
    let d := Double.ofBits bits
    let sign : Text := if d.negative then "-" else ""
    if d.significand = 0 then sign ++ "0.0"
    else
      sign ++ numberFormat.write (Decimal.shortest d.significand d.exponent d.narrow)

/-- Whether a number is zero, of either sign. -/
def Number.isZero : Number → Bool
  | .int n => n = 0
  | .double bits => (Double.ofBits bits).significand = 0

end Blockbook.Json
