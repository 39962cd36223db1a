import Blockbook.Decimal.Shortest
import Mathlib.Tactic.Ring

/-!
# Shortest decimals are found

The walk down the powers of ten ends before its bound: at a power smaller than the gap between two
binary numbers, the next multiple above the value lies in the interval. Zero never lies in it, so
the decimal of a binary number that is not zero has a digit that is not zero.
-/

namespace Blockbook.Decimal

namespace Interval

/-- Zero does not read back as a binary number that is not zero. -/
theorem holds_zero {m : Nat} (hm : 0 < m) (q : Int) (narrow : Bool) (k : Int) :
    (of m q narrow).holds 0 k = false := by
  have hnum : 0 < (of m q narrow).low.num := by
    refine Nat.mul_pos ?_ (Nat.pow_pos (by decide))
    split <;> omega
  have hlow : (of m q narrow).low.compareWith 0 k = .gt := by
    rw [Ratio.compareWith, Nat.compare_eq_gt, Nat.zero_mul, Nat.zero_mul]
    exact Nat.mul_pos hnum (Nat.pow_pos (by decide))
  have hhigh : (of m q narrow).high.compareWith 0 k = .gt := by
    rw [Ratio.compareWith, Nat.compare_eq_gt, Nat.zero_mul, Nat.zero_mul]
    exact Nat.mul_pos (Nat.mul_pos (by omega) (Nat.pow_pos (by decide))) (Nat.pow_pos (by decide))
  rw [holds, hlow, hhigh]

/-- Where the unit is smaller than the gap above the value, the next multiple of the unit above the
value lies in the interval. -/
theorem holds_succ_floorAt (m : Nat) {q k : Int} (narrow : Bool) (hk : k ≤ 0)
    (hgap : Nat.pow 2 (-(q - 2)).toNat < Nat.pow 10 (-k).toNat) :
    (of m q narrow).holds ((of m q narrow).value.floorAt k + 1) k = true := by
  have hunit : Nat.pow 10 k.toNat = 1 := by rw [Int.toNat_of_nonpos hk]
  simp only [holds, Ratio.compareWith, Ratio.floorAt, of, Ratio.scale2, hunit]
  have hp : 0 < Nat.pow 2 (q - 2).toNat := Nat.pow_pos (by decide)
  have hd : 0 < Nat.pow 2 (-(q - 2)).toNat := Nat.pow_pos (by decide)
  -- From here on only the order of the powers matters.
  generalize Nat.pow 2 (q - 2).toNat = p at hp ⊢
  generalize Nat.pow 2 (-(q - 2)).toNat = d at hd hgap ⊢
  generalize Nat.pow 10 (-k).toNat = t at hgap ⊢
  rw [Nat.one_mul]
  have hbelow := Nat.div_mul_le_self (4 * m * p * t) d
  have habove := Nat.lt_div_mul_add (a := 4 * m * p * t) hd
  generalize 4 * m * p * t / d = n at hbelow habove ⊢
  have hlow : compare ((if narrow then 4 * m - 1 else 4 * m - 2) * p * t) ((n + 1) * 1 * d) =
      .lt := by
    rw [Nat.compare_eq_lt, Nat.mul_one, Nat.add_mul, Nat.one_mul]
    refine Nat.lt_of_le_of_lt (Nat.mul_le_mul_right t (Nat.mul_le_mul_right p ?_)) habove
    split <;> omega
  have hhigh : compare ((4 * m + 2) * p * t) ((n + 1) * 1 * d) = .gt := by
    have hstep : t ≤ p * t := Nat.le_mul_of_pos_left t hp
    rw [Nat.compare_eq_gt]
    calc (n + 1) * 1 * d = n * d + d := by ring
      _ < 4 * m * p * t + 2 * (p * t) := by omega
      _ = (4 * m + 2) * p * t := by ring
  rw [hlow, hhigh]

theorem nearest?_pos {i : Interval} (h : ∀ k, i.holds 0 k = false) {k : Int} {n : Nat}
    (hn : i.nearest? k = some n) : 0 < n := by
  rw [nearest?] at hn
  have hbelow : i.holds (i.value.floorAt k) k = true → 0 < i.value.floorAt k := by
    intro hold
    refine Nat.pos_of_ne_zero fun hzero => ?_
    rw [hzero, h] at hold
    exact Bool.noConfusion hold
  grind

/-- A search that ends where there is a multiple does not end with zero. -/
theorem search_pos {i : Interval} (h : ∀ k, i.holds 0 k = false) {fuel : Nat} (hfuel : 0 < fuel)
    {k : Int} (hend : i.nearest? (k + 1 - fuel) ≠ none) : 0 < (i.search k fuel).digits := by
  induction fuel generalizing k with
  | zero => exact absurd hfuel (Nat.lt_irrefl 0)
  | succ fuel ih =>
    rw [search]
    split
    · next n hn => exact nearest?_pos h hn
    · next hn =>
      have hstep : k + 1 - ((fuel + 1 : Nat) : Int) = k - 1 + 1 - fuel := by omega
      rw [hstep] at hend
      refine ih (Nat.pos_of_ne_zero ?_) hend
      rintro rfl
      exact hend (by simpa using hn)

end Interval

/-- The decimal of a double that is not zero is not zero. -/
theorem shortest_digits_pos {m : Nat} (hm : 0 < m) {q : Int} (hq : -1074 ≤ q) (narrow : Bool) :
    0 < (shortest m q narrow).digits := by
  have hgap : ∀ e : Nat, 390 ≤ e → Nat.pow 2 (-(q - 2)).toNat < Nat.pow 10 e := by
    intro e he
    calc 2 ^ (-(q - 2)).toNat ≤ 2 ^ (3 * e) := Nat.pow_le_pow_right (by decide) (by omega)
      _ = 8 ^ e := by rw [Nat.pow_mul]
      _ < 10 ^ e := Nat.pow_lt_pow_left (by decide) (by omega)
  have hend : ∀ k : Int, k = -390 → (Interval.of m q narrow).nearest? k ≠ none := by
    intro k hk
    rw [Interval.nearest?, Interval.holds_succ_floorAt m narrow (by omega) (hgap _ (by omega))]
    grind
  unfold shortest
  exact Interval.search_pos (Interval.holds_zero hm q narrow) (by decide) (hend _ (by decide))

end Blockbook.Decimal
