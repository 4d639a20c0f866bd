/-!
# Numbers — rounding to nearest

A quotient rounded to the nearest whole number, a half going to the even
neighbour, and a whole number rounded to the 53 significant binary digits a
double-precision number keeps.
-/

namespace DeviceLink

namespace Number

/-- `num / den` to the nearest whole number, a half to the even neighbour. -/
def roundDiv (num den : Nat) : Nat :=
  let q := num / den
  let twice := 2 * (num % den)
  if twice < den then q
  else if den < twice then q + 1
  else if q % 2 = 0 then q else q + 1

/-- **Within half a unit**: the rounded quotient is off by at most a half. -/
theorem roundDiv_near (num den : Nat) (h : 0 < den) :
    2 * (roundDiv num den * den) ≤ 2 * num + den ∧
      2 * num ≤ 2 * (roundDiv num den * den) + den := by
  have hdiv := Nat.div_add_mod num den
  have hlt := Nat.mod_lt num h
  have hcomm : num / den * den = den * (num / den) := Nat.mul_comm _ _
  have hsucc : (num / den + 1) * den = den * (num / den) + den := by
    rw [Nat.add_mul, hcomm, Nat.one_mul]
  unfold roundDiv
  simp only
  split
  · rw [hcomm]; omega
  · split
    · rw [hsucc]; omega
    · split
      · rw [hcomm]; omega
      · rw [hsucc]; omega

/-- An exact quotient is not rounded. -/
theorem roundDiv_mul (q den : Nat) (h : 0 < den) : roundDiv (q * den) den = q := by
  simp [roundDiv, Nat.mul_div_cancel _ h, h]

/-- The significant binary digits a double-precision number keeps. -/
def precision : Nat := 53

/-- A whole number as a double-precision number holds it: the nearest one with
at most `precision` significant binary digits, a half to the even one. -/
def toDouble (n : Nat) : Nat :=
  let excess := n.log2 + 1 - precision
  roundDiv n (1 <<< excess) <<< excess

/-- Whole numbers of at most 53 binary digits are held exactly. -/
theorem toDouble_of_lt {n : Nat} (h : n < 1 <<< precision) : toDouble n = n := by
  have hexp : n.log2 + 1 - precision = 0 := by
    by_cases hn : n = 0
    · subst hn; decide
    · have := (Nat.log2_lt hn).2 (Nat.one_shiftLeft precision ▸ h)
      omega
  unfold toDouble
  simp only [hexp, Nat.shiftLeft_zero]
  have := roundDiv_mul n 1 Nat.one_pos
  simpa using this

end Number

end DeviceLink
