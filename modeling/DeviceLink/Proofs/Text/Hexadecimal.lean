import DeviceLink.Text.Hexadecimal
/-!
# Text — hexadecimal numerals as they are written

The digits a number is written in, as a reader meets them: of the number's
value, and no more of them than a number of its size needs.
-/

namespace DeviceLink

namespace Text

/-- A digit with a property that every digit has. -/
theorem hexDigit_of_all {p : Char → Bool}
    (h : ((List.range 16).all fun d => p (hexDigit d)) = true) {d : Nat} (hd : d < 16) :
    p (hexDigit d) = true :=
  List.all_eq_true.1 h d (List.mem_range.2 hd)

/-- So it is with each digit of a number. -/
theorem hexDigits_of_all {p : Char → Bool}
    (h : ((List.range 16).all fun d => p (hexDigit d)) = true) {n : Nat} {c : Char}
    (hc : c ∈ hexDigits n) : p c = true := by
  induction n using hexDigits.induct with
  | case1 n hn =>
      rw [hexDigits, if_pos hn, List.mem_singleton] at hc
      rw [hc]
      exact hexDigit_of_all h hn
  | case2 n hn ih =>
      rw [hexDigits, if_neg hn, List.mem_append, List.mem_singleton] at hc
      rcases hc with hc | rfl
      · exact ih hc
      · exact hexDigit_of_all h (Nat.mod_lt n (by decide))

/-- And with each decimal one. -/
theorem isDigit_of_all {p : Char → Bool}
    (h : ((List.range 16).all fun d => p (hexDigit d)) = true) {c : Char}
    (hc : c.isDigit = true) : p c = true := by
  have hrange : 48 ≤ c.toNat ∧ c.toNat ≤ 57 := by
    simpa [Char.isDigit, UInt32.le_iff_toNat_le] using hc
  have hdigit : hexDigit (c.toNat - 48) = c := by
    have hlt : c.toNat - 48 < 10 := by omega
    rw [hexDigit, if_pos hlt, Nat.add_sub_cancel' hrange.1, Char.ofNat_toNat]
  rw [← hdigit]
  exact hexDigit_of_all h (by omega)

theorem hexDigits_ne_nil (n : Nat) : hexDigits n ≠ [] := by
  rw [hexDigits]
  split
  · exact List.cons_ne_nil _ _
  · exact List.append_ne_nil_of_right_ne_nil _ (List.cons_ne_nil _ _)

/-- A digit more for sixteen times the size. -/
theorem length_hexDigits_le {k n : Nat} (h : (hexDigits (n / 16)).length ≤ k) :
    (hexDigits n).length ≤ k + 1 := by
  rw [hexDigits]
  split
  · rw [List.length_singleton]
    omega
  · rw [List.length_append, List.length_singleton]
    omega

theorem length_hexDigits_word {n : Nat} (h : n < 65536) : (hexDigits n).length ≤ 4 := by
  have hlast : n / 16 / 16 / 16 < 16 := by omega
  have hone : (hexDigits (n / 16 / 16 / 16)).length ≤ 1 := by
    rw [hexDigits, if_pos hlast]
    exact Nat.le_refl 1
  exact length_hexDigits_le (length_hexDigits_le (length_hexDigits_le hone))

theorem foldlM_hexDigits (n : Nat) :
    (hexDigits n).foldlM (fun n d => (hexValue? d).map (16 * n + ·)) 0 = some n := by
  induction n using hexDigits.induct with
  | case1 n hn =>
      rw [hexDigits, if_pos hn]
      simp [hexValue?_hexDigit hn]
  | case2 n hn ih =>
      have hdigit : n % 16 < 16 := Nat.mod_lt n (by decide)
      rw [hexDigits, if_neg hn, List.foldlM_append, ih]
      simp [hexValue?_hexDigit hdigit, Nat.div_add_mod]

/-- **A number is read back** from its digits. -/
theorem hexNumber?_hexDigits (n : Nat) : hexNumber? (hexDigits n) = some n := by
  have hsome : (hexDigits n).isEmpty = false := by
    rw [List.isEmpty_eq_false_iff]
    exact hexDigits_ne_nil n
  rw [hexNumber?, hsome, if_neg Bool.false_ne_true, foldlM_hexDigits]

end Text

end DeviceLink
