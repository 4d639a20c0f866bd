import DeviceLink.Text.Utf8
/-!
# Text — what replacing leaves alone

Bytes that are no text are replaced character by character, and an ASCII
character is never among those. Decoded characters stand in line over the bytes
they were read from (`Over`): an ASCII character over its own byte, every other
one over a run of bytes beyond ASCII. So a text in ASCII stands among the
characters exactly where its bytes stand in a row (`infix_decodeLossy`).
-/

namespace DeviceLink

namespace Utf8

/-- **Bytes and the characters over them.** -/
inductive Over : List UInt8 → List Char → Prop
  | nil : Over [] []
  /-- An ASCII character over its byte. -/
  | ascii {a : UInt8} {bs : List UInt8} {cs : List Char} (ha : a < 0x80) (rest : Over bs cs) :
      Over (a :: bs) (one a :: cs)
  /-- Another character, over bytes of which none is in ASCII. -/
  | beyond {run bs : List UInt8} {c : Char} {cs : List Char} (hne : run ≠ [])
      (hrun : ∀ b ∈ run, 0x80 ≤ b) (hc : 0x80 ≤ c.toNat) (rest : Over bs cs) :
      Over (run ++ bs) (c :: cs)

/-! ## Bytes that begin a character -/

theorem beyond_of_not_lt {a : UInt8} (h : ¬ a < 0x80) : 0x80 ≤ a := UInt8.not_lt.1 h

theorem isTail_beyond {b : UInt8} (h : isTail b = true) : 0x80 ≤ b := by
  rw [isTail, Bool.and_eq_true, decide_eq_true_iff, decide_eq_true_iff] at h
  exact h.1

theorem startsThree_beyond {a b : UInt8} (h : startsThree a b = true) : 0x80 ≤ b := by
  simp only [startsThree, isTail, Bool.or_eq_true, Bool.and_eq_true, decide_eq_true_iff,
    UInt8.le_iff_toNat_le] at h ⊢
  simp at h ⊢
  omega

theorem startsFour_beyond {a b : UInt8} (h : startsFour a b = true) : 0x80 ≤ b := by
  simp only [startsFour, isTail, Bool.or_eq_true, Bool.and_eq_true, decide_eq_true_iff,
    UInt8.le_iff_toNat_le] at h ⊢
  simp at h ⊢
  omega

/-! ## Characters of several bytes -/

theorem toNat_ofNat {n : Nat} (h : n.isValidChar) : (Char.ofNat n).toNat = n := by
  rw [Char.ofNat, dif_pos h]
  rfl

theorem replacement_beyond : 0x80 ≤ replacement.toNat := by decide

theorem two_beyond {a b : UInt8} (h : startsTwo a = true) : 0x80 ≤ (two a b).toNat := by
  simp only [startsTwo, Bool.and_eq_true, decide_eq_true_iff, UInt8.le_iff_toNat_le] at h
  simp at h
  rw [two, toNat_ofNat]
  · omega
  · left
    rw [low]
    omega

theorem three_beyond {a b c : UInt8} (h : startsThree a b = true) :
    0x80 ≤ (three a b c).toNat := by
  simp only [startsThree, isTail, Bool.or_eq_true, Bool.and_eq_true, decide_eq_true_iff,
    UInt8.le_iff_toNat_le, beq_iff_eq, ← UInt8.toNat_inj] at h
  simp at h
  rw [three, low, low, toNat_ofNat]
  · omega
  · -- The numbers set apart for surrogates are left out by the second byte.
    simp only [Nat.isValidChar]
    omega

theorem four_beyond {a b c d : UInt8} (h : startsFour a b = true) :
    0x80 ≤ (four a b c d).toNat := by
  simp only [startsFour, isTail, Bool.or_eq_true, Bool.and_eq_true, decide_eq_true_iff,
    UInt8.le_iff_toNat_le, beq_iff_eq, ← UInt8.toNat_inj] at h
  simp at h
  rw [four, low, low, low, toNat_ofNat]
  · omega
  · simp only [Nat.isValidChar]
    omega

/-! ## Decoding -/

theorem Over.one_byte {a : UInt8} {bs : List UInt8} {c : Char} {cs : List Char} (ha : 0x80 ≤ a)
    (hc : 0x80 ≤ c.toNat) (h : Over bs cs) : Over (a :: bs) (c :: cs) :=
  .beyond (List.cons_ne_nil a []) (List.forall_mem_singleton.2 ha) hc h

theorem Over.two_bytes {a b : UInt8} {bs : List UInt8} {c : Char} {cs : List Char}
    (ha : 0x80 ≤ a) (hb : 0x80 ≤ b) (hc : 0x80 ≤ c.toNat) (h : Over bs cs) :
    Over (a :: b :: bs) (c :: cs) :=
  .beyond (List.cons_ne_nil a [b]) (by simp [ha, hb]) hc h

theorem Over.three_bytes {a b c : UInt8} {bs : List UInt8} {x : Char} {cs : List Char}
    (ha : 0x80 ≤ a) (hb : 0x80 ≤ b) (hc : 0x80 ≤ c) (hx : 0x80 ≤ x.toNat) (h : Over bs cs) :
    Over (a :: b :: c :: bs) (x :: cs) :=
  .beyond (List.cons_ne_nil a [b, c]) (by simp [ha, hb, hc]) hx h

/-- **What is decoded stands over its bytes.** -/
theorem over_decodeLossy (bs : List UInt8) : Over bs (decodeLossy bs) := by
  fun_induction decodeLossy bs with
  | case1 => exact .nil
  | case2 a r ha ih => exact .ascii ha ih
  | case3 a ha => exact .one_byte (beyond_of_not_lt ha) replacement_beyond .nil
  | case4 a ha b r hab ih =>
    rw [Bool.and_eq_true] at hab
    exact .two_bytes (beyond_of_not_lt ha) (isTail_beyond hab.2) (two_beyond hab.1) ih
  -- A run that breaks off has one character over all of it.
  | case5 a ha b _ hab =>
    exact .two_bytes (beyond_of_not_lt ha) (startsThree_beyond hab) replacement_beyond .nil
  | case6 a ha b _ hab c r hc ih =>
    exact .three_bytes (beyond_of_not_lt ha) (startsThree_beyond hab) (isTail_beyond hc)
      (three_beyond hab) ih
  | case7 a ha b _ hab c r _ ih =>
    exact .two_bytes (beyond_of_not_lt ha) (startsThree_beyond hab) replacement_beyond ih
  | case8 a ha b _ _ hab =>
    exact .two_bytes (beyond_of_not_lt ha) (startsFour_beyond hab) replacement_beyond .nil
  | case9 a ha b _ _ hab c hc =>
    exact .three_bytes (beyond_of_not_lt ha) (startsFour_beyond hab) (isTail_beyond hc)
      replacement_beyond .nil
  | case10 a ha b _ _ hab c hc d r hd ih =>
    refine .beyond (List.cons_ne_nil a [b, c, d]) ?_ (four_beyond hab) ih
    simp [beyond_of_not_lt ha, startsFour_beyond hab, isTail_beyond hc, isTail_beyond hd]
  | case11 a ha b _ _ hab c hc d r _ ih =>
    exact .three_bytes (beyond_of_not_lt ha) (startsFour_beyond hab) (isTail_beyond hc)
      replacement_beyond ih
  | case12 a ha b _ _ hab c r _ ih =>
    exact .two_bytes (beyond_of_not_lt ha) (startsFour_beyond hab) replacement_beyond ih
  | case13 a ha b r _ _ _ ih => exact .one_byte (beyond_of_not_lt ha) replacement_beyond ih

/-! ## Texts in ASCII -/

/-- The bytes of a text in ASCII. -/
theorem encode_ascii {cs : List Char} (h : ∀ c ∈ cs, c.toNat < 0x80) :
    encode cs = cs.map fun c => UInt8.ofNat c.toNat := by
  induction cs with
  | nil => rfl
  | cons c cs ih =>
      have hc := h c List.mem_cons_self
      rw [encode, List.flatMap_cons, ← encode, ih fun d hd => h d (List.mem_cons_of_mem c hd),
        encodeChar]
      simp only [hc, if_true]
      rfl

theorem ofNat_eq_iff {a : UInt8} {c : Char} (ha : a < 0x80) (hc : c.toNat < 0x80) :
    UInt8.ofNat c.toNat = a ↔ c = one a := by
  have ha' : a.toNat < 0x80 := UInt8.lt_iff_toNat_lt.1 ha
  constructor
  · rintro rfl
    rw [one, UInt8.toNat_ofNat', Nat.mod_eq_of_lt (by omega), Char.ofNat_toNat]
  · rintro rfl
    rw [one, toNat_ofNat (.inl (by omega)), UInt8.ofNat_toNat]

variable {bs : List UInt8} {cs part : List Char}

/-- **A text in ASCII starts the characters** where its bytes start the bytes. -/
theorem Over.prefix_iff (h : Over bs cs) (hpart : ∀ c ∈ part, c.toNat < 0x80) :
    encode part <+: bs ↔ part <+: cs := by
  rw [encode_ascii hpart]
  induction h generalizing part with
  | nil => simp
  | @ascii a bs cs ha _ ih =>
    rcases part with _ | ⟨c, part⟩
    · simp
    · rw [List.forall_mem_cons] at hpart
      rw [List.map_cons, List.cons_prefix_cons, List.cons_prefix_cons, ofNat_eq_iff ha hpart.1,
        ih hpart.2]
  | @beyond run bs c' cs hne hrun hc _ _ =>
    rcases part with _ | ⟨c, part⟩
    · simp
    · rw [List.forall_mem_cons] at hpart
      obtain ⟨b, run, rfl⟩ := List.exists_cons_of_ne_nil hne
      have hb : 0x80 ≤ b.toNat := UInt8.le_iff_toNat_le.1 (hrun b List.mem_cons_self)
      have hbyte : UInt8.ofNat c.toNat ≠ b := by
        rintro rfl
        rw [UInt8.toNat_ofNat'] at hb
        omega
      have hchar : c ≠ c' := by
        rintro rfl
        omega
      simp [hbyte, hchar]

/-- Nothing in ASCII starts among bytes beyond it. -/
theorem infix_append_beyond {c : Char} {run : List UInt8}
    (hpart : ∀ d ∈ c :: part, d.toNat < 0x80) (hrun : ∀ b ∈ run, 0x80 ≤ b) :
    encode (c :: part) <:+: run ++ bs ↔ encode (c :: part) <:+: bs := by
  rw [encode_ascii hpart]
  rw [List.forall_mem_cons] at hpart
  induction run with
  | nil => rfl
  | cons b run ih =>
      rw [List.forall_mem_cons] at hrun
      have hb : 0x80 ≤ b.toNat := UInt8.le_iff_toNat_le.1 hrun.1
      have hne : UInt8.ofNat c.toNat ≠ b := by
        rintro rfl
        rw [UInt8.toNat_ofNat'] at hb
        omega
      rw [List.cons_append, List.infix_cons_iff, ih hrun.2, List.map_cons, List.cons_prefix_cons]
      simp [hne]

/-- **A text in ASCII stands among the characters** where its bytes stand in a
row. -/
theorem Over.infix_iff (h : Over bs cs) (hpart : ∀ c ∈ part, c.toNat < 0x80) :
    encode part <:+: bs ↔ part <:+: cs := by
  rcases part with _ | ⟨c, part⟩
  · simp [encode]
  induction h with
  | nil => simp [encode_ascii hpart]
  | @ascii a bs cs ha rest ih =>
    rw [List.infix_cons_iff, List.infix_cons_iff, ih, (Over.ascii ha rest).prefix_iff hpart]
  | @beyond run bs c' cs hne hrun hc _ ih =>
    rw [infix_append_beyond hpart hrun, ih, List.infix_cons_iff]
    have hchar : c ≠ c' := by
      rintro rfl
      exact Nat.not_lt_of_le hc (hpart c List.mem_cons_self)
    simp [hchar]

/-- **Replacing neither makes nor hides a text in ASCII.** -/
theorem infix_decodeLossy (bs : List UInt8) (hpart : ∀ c ∈ part, c.toNat < 0x80) :
    part <:+: decodeLossy bs ↔ encode part <:+: bs :=
  ((over_decodeLossy bs).infix_iff hpart).symm

end Utf8

end DeviceLink
