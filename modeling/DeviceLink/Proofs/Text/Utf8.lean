import DeviceLink.Text.Utf8
/-!
# Text — bytes and back

A text is read back from its bytes (`decode?_encode`). A character is written
as one to four bytes by its number, and the reader tells how many belong
together from the first ones; so a character is read back whatever follows it.
-/

namespace DeviceLink

namespace Utf8

/-- The bits of a byte after the first of a character. -/
theorem low_tail (k : Nat) : low (UInt8.ofNat (0x80 + k % 64)) = k % 64 := by
  simp [low]
  omega

/-! The four steps of the reader, where bytes belong together. Each of them takes one of the
branches, so the reader is unfolded as it is and not by an equation with all of them. -/

theorem decode?_one {a : UInt8} (h : a < 0x80) (r : List UInt8) :
    decode? (a :: r) = (decode? r).map (one a :: ·) := by
  delta decode?
  exact if_pos h

theorem decode?_two {a b : UInt8} (h : ¬ a < 0x80) (hs : (startsTwo a && isTail b) = true)
    (r : List UInt8) : decode? (a :: b :: r) = (decode? r).map (two a b :: ·) := by
  delta decode?
  exact (if_neg h).trans (if_pos hs)

theorem decode?_three {a b c : UInt8} (h : ¬ a < 0x80) (h₂ : ¬ (startsTwo a && isTail b) = true)
    (hs : (startsThree a b && isTail c) = true) (r : List UInt8) :
    decode? (a :: b :: c :: r) = (decode? r).map (three a b c :: ·) := by
  delta decode?
  exact (if_neg h).trans ((if_neg h₂).trans (if_pos hs))

theorem decode?_four {a b c d : UInt8} (h : ¬ a < 0x80) (h₂ : ¬ (startsTwo a && isTail b) = true)
    (h₃ : ¬ (startsThree a b && isTail c) = true)
    (hs : (startsFour a b && isTail c && isTail d) = true) (r : List UInt8) :
    decode? (a :: b :: c :: d :: r) = (decode? r).map (four a b c d :: ·) := by
  delta decode?
  exact (if_neg h).trans ((if_neg h₂).trans ((if_neg h₃).trans (if_pos hs)))

/-- **A character is read back** from its bytes, whatever follows them. -/
theorem decode?_encodeChar (c : Char) (r : List UInt8) :
    decode? (encodeChar c ++ r) = (decode? r).map (c :: ·) := by
  have hvalid : c.toNat < 0xd800 ∨ (0xdfff < c.toNat ∧ c.toNat < 0x110000) := c.valid
  have hc : Char.ofNat c.toNat = c := Char.ofNat_toNat c
  generalize hn : c.toNat = n at hvalid hc
  simp only [encodeChar, hn]
  by_cases h₁ : n < 0x80
  · have hone : one (UInt8.ofNat n) = c := by
      rw [← hc, one, UInt8.toNat_ofNat']
      congr 1
      omega
    rw [if_pos h₁, List.singleton_append, decode?_one, hone]
    simp [UInt8.lt_iff_toNat_lt]
    omega
  by_cases h₂ : n < 0x800
  · have htwo : two (UInt8.ofNat (0xc0 + n / 64)) (UInt8.ofNat (0x80 + n % 64)) = c := by
      rw [← hc, two, low_tail n, UInt8.toNat_ofNat']
      congr 1
      omega
    rw [if_neg h₁, if_pos h₂, List.cons_append, List.singleton_append, decode?_two, htwo]
    · simp [UInt8.lt_iff_toNat_lt]
      omega
    · simp [startsTwo, UInt8.le_iff_toNat_le, isTail]
      omega
  by_cases h₃ : n < 0x10000
  · have hthree : three (UInt8.ofNat (0xe0 + n / 4096)) (UInt8.ofNat (0x80 + n / 64 % 64))
        (UInt8.ofNat (0x80 + n % 64)) = c := by
      rw [← hc, three, low_tail n, low_tail (n / 64), UInt8.toNat_ofNat']
      congr 1
      omega
    rw [if_neg h₁, if_neg h₂, if_pos h₃, List.cons_append, List.cons_append,
      List.singleton_append, decode?_three, hthree]
    · simp [UInt8.lt_iff_toNat_lt]
      omega
    · simp [startsTwo, UInt8.le_iff_toNat_le]
      omega
    · simp [startsThree, UInt8.le_iff_toNat_le, isTail, ← UInt8.toNat_inj]
      omega
  · have hfour : four (UInt8.ofNat (0xf0 + n / 262144)) (UInt8.ofNat (0x80 + n / 4096 % 64))
        (UInt8.ofNat (0x80 + n / 64 % 64)) (UInt8.ofNat (0x80 + n % 64)) = c := by
      rw [← hc, four, low_tail n, low_tail (n / 64), low_tail (n / 4096),
        UInt8.toNat_ofNat']
      congr 1
      omega
    rw [if_neg h₁, if_neg h₂, if_neg h₃, List.cons_append, List.cons_append, List.cons_append,
      List.singleton_append, decode?_four, hfour]
    · simp [UInt8.lt_iff_toNat_lt]
      omega
    · simp [startsTwo, UInt8.le_iff_toNat_le]
      omega
    · simp [startsThree, UInt8.le_iff_toNat_le, isTail, ← UInt8.toNat_inj]
      omega
    · simp [startsFour, UInt8.le_iff_toNat_le, isTail, ← UInt8.toNat_inj]
      omega

/-- **A text is read back from its bytes.** -/
theorem decode?_encode (cs : List Char) : decode? (encode cs) = some cs := by
  induction cs with
  | nil => rfl
  | cons c cs ih =>
      rw [encode, List.flatMap_cons, decode?_encodeChar]
      rw [show cs.flatMap encodeChar = encode cs from rfl, ih]
      rfl

end Utf8

end DeviceLink
