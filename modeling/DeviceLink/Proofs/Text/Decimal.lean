import DeviceLink.Text.Blank
import DeviceLink.Text.Numeral
/-!
# Text — decimal numerals as they are written

The digits a number is written in, as a reader meets them: digits only, with no
blank among them and no needless zero before them, and of the number's value.
What is read as a number is any run of digits, after a plus sign or none
(`unsigned?_eq_some_iff`). An integer is written with a minus sign where it is
negative, and read back where a word of the reader's width holds it
(`signed_toString`).
-/

namespace DeviceLink

namespace Text

theorem toList_toString_nat (n : Nat) : (toString n).toList = Nat.toDigits 10 n := by
  rw [Nat.toString_eq_repr, Nat.toList_repr]

theorem isDigit_of_mem_toDigits {n : Nat} {c : Char} (h : c ∈ Nat.toDigits 10 n) :
    c.isDigit = true :=
  Nat.isDigit_of_mem_toDigits (by decide) (by decide) h

/-- A positive number is written without a leading zero. -/
theorem toDigits_ne_zero_cons {n : Nat} (h : 0 < n) (t : List Char) :
    Nat.toDigits 10 n ≠ '0' :: t := by
  induction n using Nat.strongRecOn generalizing t with
  | ind n ih =>
    by_cases hn : n < 10
    · rw [Nat.toDigits_of_lt_base hn]
      intro heq
      have hzero := (List.cons.inj heq).1
      rw [Nat.digitChar_eq_zero] at hzero
      omega
    · rw [Nat.toDigits_of_base_le (by decide) (by omega)]
      have hdiv := ih (n / 10) (by omega) (by omega)
      cases hl : Nat.toDigits 10 (n / 10) with
      | nil => exact absurd hl Nat.toDigits_ne_nil
      | cons d l =>
        intro heq
        have hd : d = '0' := (List.cons.inj heq).1
        rw [hl, hd] at hdiv
        exact hdiv l rfl

theorem digitsValue_toDigits (n : Nat) : digitsValue (Nat.toDigits 10 n) = n :=
  Nat.ofDigitChars_ten_toDigits

theorem digits?_toDigits (n : Nat) : digits? (Nat.toDigits 10 n) = some n := by
  have hall : (Nat.toDigits 10 n).all Char.isDigit = true :=
    List.all_eq_true.2 fun c => isDigit_of_mem_toDigits
  simp [digits?, Nat.toDigits_ne_nil, hall, digitsValue_toDigits]

/-- A number is read back from its digits. -/
theorem unsigned?_toDigits (n : Nat) : unsigned? (Nat.toDigits 10 n) = some n := by
  have hsign : ∀ r, Nat.toDigits 10 n ≠ '+' :: r := fun r heq =>
    nomatch (isDigit_of_mem_toDigits (n := n) (by rw [heq]; exact List.mem_cons_self) :
      Char.isDigit '+' = true)
  rw [unsigned?.eq_def]
  split
  · next heq => exact absurd heq (hsign _)
  · exact digits?_toDigits n

theorem isBlank_of_isDigit {c : Char} (h : c.isDigit = true) : isBlank c = false := by
  have hrange : 48 ≤ c.toNat ∧ c.toNat ≤ 57 := by
    simpa [Char.isDigit, UInt32.le_iff_toNat_le] using h
  simp only [isBlank, blankRanges, List.any_cons, List.any_nil, Bool.or_false, Bool.or_eq_false_iff,
    Bool.and_eq_false_iff, decide_eq_false_iff_not]
  omega

/-- A text without blanks is its own trimming. -/
theorem trim_of_forall {cs : List Char} (h : ∀ c ∈ cs, isBlank c = false) : trim cs = cs := by
  have hfirst : ∀ c ∈ cs.head?, isBlank c = false := fun c hc => h c (List.mem_of_mem_head? hc)
  have hlast : ∀ c ∈ cs.reverse.head?, isBlank c = false := fun c hc =>
    h c (List.mem_reverse.1 (List.mem_of_mem_head? hc))
  exact trim_eq_self hfirst hlast

/-! ## Numerals, whatever their form -/

theorem digits?_eq_some_iff {cs : List Char} {n : Nat} :
    digits? cs = some n ↔
      cs ≠ [] ∧ (∀ c ∈ cs, c.isDigit = true) ∧ Nat.ofDigitChars 10 cs 0 = n := by
  have hvalue : digitsValue cs = Nat.ofDigitChars 10 cs 0 := rfl
  simp only [digits?, hvalue, List.all_eq_true]
  constructor
  · intro h
    split at h
    · next hcs => exact ⟨hcs.1, hcs.2, Option.some.inj h⟩
    · cases h
  · rintro ⟨hne, hall, rfl⟩
    rw [if_pos ⟨hne, hall⟩]

/-- **What is read as a number**: a run of digits, with a plus sign before it or
none. -/
theorem unsigned?_eq_some_iff {cs : List Char} {n : Nat} :
    unsigned? cs = some n ↔ ∃ sign digits, cs = sign ++ digits ∧ (sign = [] ∨ sign = ['+']) ∧
      digits ≠ [] ∧ (∀ c ∈ digits, c.isDigit = true) ∧ Nat.ofDigitChars 10 digits 0 = n := by
  constructor
  · intro h
    rw [unsigned?.eq_def] at h
    split at h
    · next digits => exact ⟨['+'], digits, rfl, .inr rfl, digits?_eq_some_iff.1 h⟩
    · exact ⟨[], cs, rfl, .inl rfl, digits?_eq_some_iff.1 h⟩
  · rintro ⟨sign, digits, rfl, rfl | rfl, hdigits⟩
    · -- Digits alone are not mistaken for a sign and digits.
      have hsign : ∀ r, digits ≠ '+' :: r := by
        rintro r rfl
        have hplus : Char.isDigit '+' = true := hdigits.2.1 _ List.mem_cons_self
        cases hplus
      rw [List.nil_append, unsigned?.eq_def]
      split
      · next r => exact absurd rfl (hsign r)
      · exact digits?_eq_some_iff.2 hdigits
    · exact digits?_eq_some_iff.2 hdigits

/-! ## Integers -/

/-- The characters of a written integer. -/
theorem toList_toString (n : Int) :
    (toString n).toList =
      if 0 ≤ n then Nat.toDigits 10 n.toNat else '-' :: Nat.toDigits 10 (-n).toNat := by
  rw [Int.toString_eq_repr, Int.repr_eq_if]
  split <;> simp

/-- Digits after a number make it no smaller. -/
theorem le_foldl_digits (cs : List Char) (n : Nat) :
    n ≤ cs.foldl (fun n c => 10 * n + digitValue c) n := by
  induction cs generalizing n with
  | nil => exact Nat.le_refl n
  | cons c cs ih =>
      have hnext := ih (10 * n + digitValue c)
      rw [List.foldl_cons]
      omega

/-- A run of digits is read to its end where its value fits. -/
theorem accumulate_digits {limit acc : Nat} (overflow : NumeralError) {cs : List Char}
    (hdigits : ∀ c ∈ cs, c.isDigit = true)
    (hle : cs.foldl (fun n c => 10 * n + digitValue c) acc ≤ limit) :
    accumulate limit overflow acc cs =
      .ok (cs.foldl (fun n c => 10 * n + digitValue c) acc) := by
  induction cs generalizing acc with
  | nil => rfl
  | cons c cs ih =>
      rw [List.forall_mem_cons] at hdigits
      have hfits : ¬ limit < 10 * acc + digitValue c :=
        Nat.not_lt_of_le (Nat.le_trans (le_foldl_digits cs _) hle)
      rw [accumulate, hdigits.1, if_neg (by decide), if_neg hfits, ih hdigits.2 hle,
        List.foldl_cons]

theorem accumulate_toDigits {limit n : Nat} (overflow : NumeralError) (h : n ≤ limit) :
    accumulate limit overflow 0 (Nat.toDigits 10 n) = .ok n := by
  have hvalue : (Nat.toDigits 10 n).foldl (fun n c => 10 * n + digitValue c) 0 = n :=
    digitsValue_toDigits n
  rw [accumulate_digits overflow (fun c => isDigit_of_mem_toDigits) (by rw [hvalue]; exact h),
    hvalue]

theorem signed_toDigits {bits n : Nat} (h : n ≤ 1 <<< (bits - 1) - 1) :
    signed bits (Nat.toDigits 10 n) = .ok (n : Int) := by
  have hfirst : ∀ c l, Nat.toDigits 10 n = c :: l → c.isDigit = true := fun c l heq =>
    isDigit_of_mem_toDigits (by rw [heq]; exact List.mem_cons_self)
  rw [signed.eq_def]
  split
  · next heq => exact absurd heq Nat.toDigits_ne_nil
  · next heq => exact absurd (hfirst _ _ heq) (by decide)
  · next heq => exact absurd (hfirst _ _ heq) (by decide)
  · next heq => exact absurd (hfirst _ _ heq) (by decide)
  · next heq => exact absurd (hfirst _ _ heq) (by decide)
  · rw [accumulate_toDigits _ h]
    rfl

theorem signed_negative {bits n : Nat} (h : n ≤ 1 <<< (bits - 1)) :
    signed bits ('-' :: Nat.toDigits 10 n) = .ok (-(n : Int)) := by
  obtain ⟨c, l, heq⟩ := List.exists_cons_of_ne_nil (Nat.toDigits_ne_nil (b := 10) (n := n))
  have hread : signed bits ('-' :: c :: l) =
      (accumulate (1 <<< (bits - 1)) .tooSmall 0 (c :: l)).map fun n => -(n : Int) := rfl
  rw [heq, hread, ← heq, accumulate_toDigits _ h]
  rfl

/-- **An integer is read back** from its digits, where it has a word to fit in. -/
theorem signed_toString {bits : Nat} {n : Int} (hlo : -(1 <<< (bits - 1) : Nat) ≤ n)
    (hhi : n < (1 <<< (bits - 1) : Nat)) : signed bits (toString n).toList = .ok n := by
  rw [toList_toString]
  split
  · rw [signed_toDigits (by omega)]
    congr 1
    omega
  · rw [signed_negative (by omega)]
    congr 1
    omega

end Text

end DeviceLink
