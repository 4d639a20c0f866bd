import DeviceLink.Number.Rounding
import Mathlib.Algebra.Group.Nat.Defs
/-!
# Numbers — rounding keeps the order

A larger numerator does not have a smaller rounded quotient, and a bound that is
a whole number of units holds of the quotient as it does of the numerator. So
holding whole numbers in double precision keeps their order too
(`toDouble_mono`), although the step between two that are held grows with them:
no number is rounded past the power of two where the step changes.
-/

namespace DeviceLink

namespace Number

variable {m n den q : Nat}

/-! ## Quotients -/

theorem roundDiv_cases (num den : Nat) :
    roundDiv num den = num / den ∨ roundDiv num den = num / den + 1 := by
  unfold roundDiv
  dsimp only
  repeat' split
  all_goals simp

/-- Between two whole quotients the remainder decides, and it keeps the order. -/
theorem roundDiv_le_of_div_eq (h : m ≤ n) (hdiv : m / den = n / den) :
    roundDiv m den ≤ roundDiv n den := by
  have hmod : m % den ≤ n % den := by
    have hm := Nat.div_add_mod m den
    have hn := Nat.div_add_mod n den
    rw [hdiv] at hm
    omega
  unfold roundDiv
  dsimp only
  rw [hdiv]
  generalize m % den = a at hmod
  generalize n % den = b at hmod
  generalize n / den = c
  repeat' split
  all_goals omega

/-- **Rounded quotients keep the order** of what is divided. -/
theorem roundDiv_mono (h : m ≤ n) : roundDiv m den ≤ roundDiv n den := by
  rcases Nat.lt_or_eq_of_le (Nat.div_le_div_right (c := den) h) with hlt | heq
  · have hm := roundDiv_cases m den
    have hn := roundDiv_cases n den
    omega
  · exact roundDiv_le_of_div_eq h heq

theorem roundDiv_le (hden : 0 < den) (h : n ≤ q * den) : roundDiv n den ≤ q := by
  rw [← roundDiv_mul q den hden]
  exact roundDiv_mono h

theorem le_roundDiv (hden : 0 < den) (h : q * den ≤ n) : q ≤ roundDiv n den := by
  rw [← roundDiv_mul q den hden]
  exact roundDiv_mono h

/-! ## Double precision -/

/-- How many binary digits of a number are not kept. -/
def excess (n : Nat) : Nat := n.log2 + 1 - precision

theorem toDouble_eq (n : Nat) : toDouble n = roundDiv n (2 ^ excess n) * 2 ^ excess n := by
  rw [toDouble, Nat.shiftLeft_eq, Nat.one_shiftLeft]
  rfl

theorem excess_mono (h : m ≤ n) : excess m ≤ excess n := by
  have hlog : m.log2 ≤ n.log2 := by
    by_cases hm : m = 0
    · subst hm
      exact Nat.zero_le _
    · have hn : n ≠ 0 := by omega
      exact (Nat.le_log2 hn).2 (Nat.le_trans (Nat.log2_self_le hm) h)
  unfold excess
  omega

/-- A number has no more than 53 digits of its step. -/
theorem lt_steps (n : Nat) : n < 2 ^ precision * 2 ^ excess n := by
  rw [← Nat.pow_add]
  refine Nat.lt_of_lt_of_le Nat.lt_log2_self (Nat.pow_le_pow_right (by decide) ?_)
  unfold excess
  omega

/-- And where digits are left out, no fewer. -/
theorem steps_le (h : excess n ≠ 0) : 2 ^ (precision - 1) * 2 ^ excess n ≤ n := by
  have hn : n ≠ 0 := by
    rintro rfl
    exact h rfl
  rw [← Nat.pow_add]
  refine Nat.le_trans (Nat.pow_le_pow_right (by decide) ?_) (Nat.log2_self_le hn)
  unfold excess precision at *
  omega

/-- **Numbers that are held keep their order.** -/
theorem toDouble_mono (h : m ≤ n) : toDouble m ≤ toDouble n := by
  rw [toDouble_eq, toDouble_eq]
  rcases Nat.lt_or_eq_of_le (excess_mono h) with hlt | heq
  · -- A power of two lies between them, and neither is rounded past it.
    have hpos : ∀ k, 0 < 2 ^ k := fun k => Nat.pow_pos (by decide)
    have hexcess : excess n ≠ 0 := by omega
    calc roundDiv m (2 ^ excess m) * 2 ^ excess m
        ≤ 2 ^ precision * 2 ^ excess m :=
          Nat.mul_le_mul_right _ (roundDiv_le (hpos _) (Nat.le_of_lt (lt_steps m)))
      _ = 2 ^ (precision + excess m) := (Nat.pow_add ..).symm
      _ ≤ 2 ^ (precision - 1 + excess n) := by
          refine Nat.pow_le_pow_right (by decide) ?_
          unfold precision
          omega
      _ = 2 ^ (precision - 1) * 2 ^ excess n := Nat.pow_add ..
      _ ≤ roundDiv n (2 ^ excess n) * 2 ^ excess n :=
          Nat.mul_le_mul_right _ (le_roundDiv (hpos _) (steps_le hexcess))
  · rw [heq]
    exact Nat.mul_le_mul_right _ (roundDiv_mono h)

/-- What is held as a small number is that number. -/
theorem eq_of_toDouble_lt (h : toDouble n < 2 ^ precision) : toDouble n = n := by
  have hlimit : toDouble (2 ^ precision) = 2 ^ precision := by decide
  refine toDouble_of_lt ?_
  rw [Nat.one_shiftLeft]
  rcases Nat.lt_or_ge n (2 ^ precision) with hlt | hge
  · exact hlt
  · have hle := toDouble_mono hge
    omega

end Number

end DeviceLink
