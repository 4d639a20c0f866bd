import DeviceLink.Proofs.Text.Hexadecimal
import DeviceLink.Url.Percent
/-!
# URLs — what is left after escaping

A text with a set's characters escaped is made of the others and of the few
characters an escape is made of (`mem_encode`). None of the sets has those few,
so escaping again changes nothing (`encode_encode`).
-/

namespace DeviceLink

namespace Percent

variable {escaped : Char → Bool} {cs : List Char}

/-- What an escape is made of. -/
def escapeChars : List Char := "%0123456789ABCDEF".toList

theorem toUpper_hexDigit_mem {d : Nat} (h : d < 16) :
    (Text.hexDigit d).toUpper ∈ escapeChars := by
  have hall : ((List.range 16).all fun d =>
      escapeChars.contains (Text.hexDigit d).toUpper) = true := by decide
  have hd := List.all_eq_true.1 hall d (List.mem_range.2 h)
  exact List.contains_iff_mem.1 hd

theorem mem_escapeByte {b : UInt8} {c : Char} (h : c ∈ escapeByte b) : c ∈ escapeChars := by
  have hb : b.toNat < 256 := b.toNat_lt
  simp only [escapeByte, List.mem_cons, List.not_mem_nil, or_false] at h
  rcases h with rfl | rfl | rfl
  · exact List.mem_cons_self
  · exact toUpper_hexDigit_mem (by omega)
  · exact toUpper_hexDigit_mem (by omega)

/-- **What is left after escaping.** -/
theorem mem_encode {c : Char} (h : c ∈ encode escaped cs) :
    c ∈ cs ∧ escaped c = false ∨ c ∈ escapeChars := by
  obtain ⟨d, hd, hc⟩ := List.mem_flatMap.1 h
  split at hc
  · obtain ⟨b, -, hb⟩ := List.mem_flatMap.1 hc
    exact .inr (mem_escapeByte hb)
  · next hfree =>
    rw [List.mem_singleton] at hc
    subst hc
    exact .inl ⟨hd, Bool.eq_false_iff.2 hfree⟩

/-- Neither the characters left alone nor those of escapes have the property. -/
theorem encode_free {p : Char → Bool} (hchars : (escapeChars.all fun c => !p c) = true)
    (h : ∀ c ∈ cs, escaped c = false → p c = false) {c : Char} (hc : c ∈ encode escaped cs) :
    p c = false := by
  rcases mem_encode hc with ⟨hmem, hfree⟩ | hmem
  · exact h c hmem hfree
  · simpa using List.all_eq_true.1 hchars c hmem

/-- Nothing is left that is escaped. -/
theorem escaped_encode (hchars : (escapeChars.all fun c => !escaped c) = true) {c : Char}
    (hc : c ∈ encode escaped cs) : escaped c = false :=
  encode_free hchars (fun _ _ hfree => hfree) hc

/-- **Escaping again** changes nothing. -/
theorem encode_encode (hchars : (escapeChars.all fun c => !escaped c) = true) (cs : List Char) :
    encode escaped (encode escaped cs) = encode escaped cs :=
  encode_eq_self fun _ hc => escaped_encode hchars hc

theorem encode_append (cs ds : List Char) :
    encode escaped (cs ++ ds) = encode escaped cs ++ encode escaped ds :=
  List.flatMap_append

theorem encodeChar_ne_nil (c : Char) : Utf8.encodeChar c ≠ [] := by
  simp only [Utf8.encodeChar]
  repeat' split
  all_goals exact List.cons_ne_nil _ _

/-- A text is not escaped away. -/
theorem encode_ne_nil (h : cs ≠ []) : encode escaped cs ≠ [] := by
  obtain ⟨c, r, rfl⟩ := List.exists_cons_of_ne_nil h
  obtain ⟨b, bs, hbytes⟩ := List.exists_cons_of_ne_nil (encodeChar_ne_nil c)
  rw [encode, List.flatMap_cons, hbytes]
  split <;> exact List.cons_ne_nil _ _

/-- A text without escapes stands for its own bytes. -/
theorem decode_eq_encode (h : '%' ∉ cs) : decode cs = Utf8.encode cs := by
  induction cs with
  | nil => rfl
  | cons c cs ih =>
      rw [List.mem_cons, not_or] at h
      rw [decode.eq_def]
      split
      · next heq =>
        injection heq with hc _
        exact absurd hc.symm h.1
      · next heq =>
        injection heq with hc hr
        rw [← hc, ← hr, ih h.2]
        rfl
      · next heq => exact absurd heq (List.cons_ne_nil _ _)

end Percent

end DeviceLink
