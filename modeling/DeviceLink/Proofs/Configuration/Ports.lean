import DeviceLink.Port
import DeviceLink.Proofs.Text.Decimal
/-!
# Configurations — ranges of ports are read back

A range is written as one port or as two around a colon, and either text is
read back as the range (`PortRange.parse_render`).
-/

namespace DeviceLink

namespace PortRange

open Text

theorem toList_toString (p : Port) : (toString p).toList = Nat.toDigits 10 p.toNat := by
  rw [show toString p = p.toNat.repr from rfl, Nat.toList_repr]

/-- A port is read back from its digits. -/
theorem port?_toDigits (p : Port) : port? (Nat.toDigits 10 p.toNat) = some p := by
  have htrim : Text.trim (Nat.toDigits 10 p.toNat) = Nat.toDigits 10 p.toNat :=
    trim_of_forall fun c hc => isBlank_of_isDigit (isDigit_of_mem_toDigits hc)
  have hlt : p.toNat < UInt16.size := p.toNat_lt
  simp only [port?, htrim, unsigned?_toDigits, if_pos hlt, UInt16.ofNat_toNat]

theorem ne_colon {cs : List Char} (h : ':' ∉ cs) : ∀ c ∈ cs, decide (c ≠ ':') = true :=
  fun _ hc => decide_eq_true fun heq => h (heq ▸ hc)

theorem cut_of_not_mem {cs : List Char} (h : ':' ∉ cs) : cut cs = (cs, none) := by
  have hdrop : (cs ++ []).dropWhile (· ≠ ':') = [] :=
    List.dropWhile_append_of_pos (ne_colon h)
  rw [List.append_nil] at hdrop
  simp only [cut, hdrop]

theorem cut_append {cs : List Char} (h : ':' ∉ cs) (r : List Char) :
    cut (cs ++ ':' :: r) = (cs, some r) := by
  have hc := ne_colon h
  have hdrop : (cs ++ ':' :: r).dropWhile (· ≠ ':') = ':' :: r := by
    rw [List.dropWhile_append_of_pos hc, List.dropWhile_cons_of_neg (by simp)]
  have htake : (cs ++ ':' :: r).takeWhile (· ≠ ':') = cs := by
    rw [List.takeWhile_append_of_pos hc, List.takeWhile_cons_of_neg (by simp), List.append_nil]
  simp only [cut, hdrop, htake]

theorem colon_not_mem_toDigits (n : Nat) : ':' ∉ Nat.toDigits 10 n := fun h =>
  nomatch (isDigit_of_mem_toDigits h : Char.isDigit ':' = true)

/-- **A range of ports is read back** as it is written. -/
theorem parse_render (r : PortRange) : parse r.render = .ok r := by
  obtain ⟨first, last, hle⟩ := r
  by_cases hsame : first = last
  · subst hsame
    have hrender : (render ⟨first, first, hle⟩).toList = Nat.toDigits 10 first.toNat := by
      rw [render, if_pos (isSingle_iff.2 rfl), toList_toString]
    simp only [parse, hrender, cut_of_not_mem (colon_not_mem_toDigits _), port?_toDigits]
    rfl
  · have hrender : (render ⟨first, last, hle⟩).toList =
        Nat.toDigits 10 first.toNat ++ ':' :: Nat.toDigits 10 last.toNat := by
      rw [render, if_neg fun h => hsame (isSingle_iff.1 h)]
      simp only [← toList_toString, String.toList_append, List.append_assoc]
      rfl
    simp only [parse, hrender, cut_append (colon_not_mem_toDigits _), port?_toDigits, between,
      dif_pos hle]

end PortRange

end DeviceLink
