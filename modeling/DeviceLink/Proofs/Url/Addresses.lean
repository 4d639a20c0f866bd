import DeviceLink.Proofs.Text.Decimal
import DeviceLink.Proofs.Text.Hexadecimal
import DeviceLink.Proofs.Url.Pieces
import DeviceLink.Url.Address
/-!
# URLs — numeric addresses are read back

An address is written in one of the many forms it is read from. Of version four
that is four decimal numbers without leading zeros, so none of them is taken as
octal (`Ipv4.parse?_render`). Of version six it is words in hexadecimal with the
longest run of zeros left out, which the reader fills in again from how many
words there are besides (`Ipv6.parse?_render`).
-/

namespace DeviceLink

open Text

namespace Ipv4

/-- The four bytes of an address. -/
def bytes (a : UInt32) : List Nat := [3, 2, 1, 0].map fun k => a.toNat >>> (8 * k) % 256

theorem render_eq (a : UInt32) :
    render a = ['.'].intercalate ((bytes a).map (Nat.toDigits 10)) := by
  simp only [render, toList_toString_nat, bytes, List.map_cons, List.map_nil]

/-! ## Decimal parts -/

theorem hexValue?_digit {c : Char} (h : c.isDigit = true) : hexValue? c = some (digitValue c) := by
  have hrange : '0' ≤ c ∧ c ≤ '9' := by
    rw [Char.le_def, Char.le_def]
    simpa [Char.isDigit] using h
  rw [hexValue?, if_pos hrange]
  rfl

theorem inBase?_digits {cs : List Char} (h : ∀ c ∈ cs, c.isDigit = true) :
    inBase? 10 cs = some (digitsValue cs) := by
  have key : ∀ (cs : List Char) (n : Nat), (∀ c ∈ cs, c.isDigit = true) →
      (cs.foldlM (fun n c => do
        let d ← hexValue? c
        if d < 10 then some (10 * n + d) else none) n : Option Nat) =
      some (cs.foldl (fun n c => 10 * n + digitValue c) n) := by
    intro cs
    induction cs with
    | nil => exact fun _ _ => rfl
    | cons c cs ih =>
        intro n h
        rw [List.forall_mem_cons] at h
        have hlt : digitValue c < 10 := by
          have hrange : 48 ≤ c.toNat ∧ c.toNat ≤ 57 := by
            simpa [Char.isDigit, UInt32.le_iff_toNat_le] using h.1
          have hzero : '0'.toNat = 48 := rfl
          rw [digitValue, hzero]
          omega
        rw [List.foldlM_cons, hexValue?_digit h.1, List.foldl_cons, ← ih _ h.2]
        simp [hlt]
  exact key cs 0 h

/-- A part in decimal is no octal one. -/
theorem part?_toDigits (n : Nat) : part? (Nat.toDigits 10 n) = some n := by
  rcases Nat.eq_zero_or_pos n with rfl | hpos
  · rfl
  · have hzero := toDigits_ne_zero_cons hpos
    rw [part?.eq_def]
    split
    · next heq => exact absurd heq Nat.toDigits_ne_nil
    · next heq => exact absurd heq (hzero _)
    · next heq => exact absurd heq (hzero _)
    · next heq => exact absurd heq (hzero _)
    · next heq => exact absurd heq (hzero _)
    · rw [inBase?_digits fun c => isDigit_of_mem_toDigits, digitsValue_toDigits]

/-! ## Names that are addresses -/

theorem labels_render (a : UInt32) :
    Domain.labels (render a) = (bytes a).map (Nat.toDigits 10) := by
  rw [render_eq]
  refine Domain.labels_intercalate (List.cons_ne_nil _ _) fun part hpart hdot => ?_
  obtain ⟨n, -, rfl⟩ := List.mem_map.1 hpart
  exact absurd (isDigit_of_mem_toDigits hdot) (by decide)

theorem parts_render (a : UInt32) : parts (render a) = (bytes a).map (Nat.toDigits 10) := by
  rw [parts, labels_render]
  simp only [bytes, List.map_cons, List.map_nil, List.reverse_cons, List.reverse_nil,
    List.nil_append, List.cons_append]
  split
  · next heq =>
    injection heq with hlast _
    exact absurd hlast Nat.toDigits_ne_nil
  · rfl

theorem endsInNumber_render (a : UInt32) : endsInNumber (render a) = true := by
  have hlast : (parts (render a)).getLast? =
      some (Nat.toDigits 10 (a.toNat >>> (8 * 0) % 256)) := by
    rw [parts_render]
    rfl
  rw [endsInNumber, hlast]
  dsimp only
  rw [part?_toDigits, Option.isSome_some, Bool.or_true]

/-- Four bytes make the word they are taken from. -/
theorem ofValues?_bytes (a : UInt32) : ofValues? (bytes a) = some a := by
  have ha : a.toNat < 4294967296 := a.toNat_lt
  obtain ⟨b₃, b₂, b₁, b₀, hbytes, hlt, hword⟩ : ∃ b₃ b₂ b₁ b₀, bytes a = [b₃, b₂, b₁, b₀] ∧
      (b₃ < 256 ∧ b₂ < 256 ∧ b₁ < 256 ∧ b₀ < 256) ∧
      256 * (256 * (256 * b₃ + b₂) + b₁) + b₀ = a.toNat := by
    refine ⟨_, _, _, _, rfl, ?_, ?_⟩
    all_goals
      simp only [Nat.shiftRight_eq_div_pow]
      omega
  have hread : ofValues? [b₃, b₂, b₁, b₀] =
      if 3 < 3 || [b₁, b₂, b₃].any (255 < ·) || 256 ≤ b₀ then none
      else some (UInt32.ofNat ((256 * (256 * (256 * 0 + b₃) + b₂) + b₁) <<< 8 + b₀)) := rfl
  have hfits : (decide (3 < 3) || [b₁, b₂, b₃].any (255 < ·) || decide (256 ≤ b₀)) = false := by
    simp
    omega
  rw [hbytes, hread, hfits, if_neg Bool.false_ne_true, Nat.shiftLeft_eq]
  congr 1
  apply UInt32.toNat_inj.1
  rw [UInt32.toNat_ofNat']
  omega

/-- **An address of version four** is read back. -/
theorem parse?_render (a : UInt32) : parse? (render a) = some a := by
  have hparts : ((bytes a).map (Nat.toDigits 10)).mapM part? = some (bytes a) := by
    simp only [bytes, List.map_cons, List.map_nil, List.mapM_cons, List.mapM_nil, part?_toDigits]
    rfl
  rw [parse?, parts_render, hparts, Option.bind_some, ofValues?_bytes]

end Ipv4

namespace Ipv6

/-! ## Words -/

theorem word?_hexDigits (w : UInt16) : word? (hexDigits w.toNat) = some w := by
  have hlength : (hexDigits w.toNat).length ≤ 4 := length_hexDigits_word w.toNat_lt
  rw [word?, if_pos hlength, hexNumber?_hexDigits, Option.map_some, UInt16.ofNat_toNat]

/-- No punctuation stands in a word. -/
theorem not_mem_hexDigits {n : Nat} {x : Char}
    (h : ((List.range 16).all fun d => hexDigit d != x) = true) : x ∉ hexDigits n := by
  intro hmem
  have hne := hexDigits_of_all (p := (· != x)) h hmem
  simp at hne

theorem words?_map {ws : List UInt16} (h : ws ≠ []) :
    words? (ws.map fun w => hexDigits w.toNat) = some ws := by
  induction ws with
  | nil => exact absurd rfl h
  | cons w ws ih =>
      rcases ws with _ | ⟨v, ws⟩
      · have hdot : (hexDigits w.toNat).contains '.' = false := by
          simpa using not_mem_hexDigits (n := w.toNat) (x := '.') (by decide)
        rw [List.map_singleton, words?, hdot, if_neg Bool.false_ne_true, word?_hexDigits]
        rfl
      · have hrest := ih (List.cons_ne_nil v ws)
        rw [List.map_cons] at hrest
        rw [List.map_cons, List.map_cons, words?, word?_hexDigits, hrest]
        · rfl
        · exact List.cons_ne_nil _ _

theorem renderWords_ne_nil {ws : List UInt16} (h : ws ≠ []) : renderWords ws ≠ [] := by
  obtain ⟨w, ws, rfl⟩ := List.exists_cons_of_ne_nil h
  have hw := hexDigits_ne_nil w.toNat
  rcases ws with _ | ⟨v, ws⟩
  · simpa [renderWords] using hw
  · simp [renderWords, List.intercalate_cons_cons, hw]

/-- A written address is made of digits and colons. -/
theorem renderWords_of_all {p : Char → Bool} (hcolon : p ':' = true)
    (h : ((List.range 16).all fun d => p (hexDigit d)) = true) {ws : List UInt16} {c : Char}
    (hc : c ∈ renderWords ws) : p c = true := by
  by_cases hne : c = ':'
  · rw [hne, hcolon]
  · obtain ⟨part, hpart, hmem⟩ := (mem_intercalate hne _).1 hc
    obtain ⟨w, -, rfl⟩ := List.mem_map.1 hpart
    exact hexDigits_of_all h hmem

theorem render_of_all {p : Char → Bool} (hcolon : p ':' = true)
    (h : ((List.range 16).all fun d => p (hexDigit d)) = true) {ws : List UInt16} {c : Char}
    (hc : c ∈ render ws) : p c = true := by
  rw [render] at hc
  dsimp only at hc
  split at hc
  · exact renderWords_of_all hcolon h hc
  · rw [List.mem_append, List.mem_append] at hc
    rcases hc with (hc | hc) | hc
    · exact renderWords_of_all hcolon h hc
    · simp only [List.mem_cons, List.not_mem_nil, or_false, or_self] at hc
      rw [hc, hcolon]
    · exact renderWords_of_all hcolon h hc

/-- Words between colons are read back. -/
theorem group?_renderWords (ws : List UInt16) : group? (renderWords ws) = some ws := by
  by_cases hnil : ws = []
  · rw [hnil]
    rfl
  · have hsome : (renderWords ws).isEmpty = false := by
      rw [List.isEmpty_eq_false_iff]
      exact renderWords_ne_nil hnil
    have hsplit : Domain.splitOn (· == ':') (renderWords ws) =
        ws.map fun w => hexDigits w.toNat := by
      refine Domain.splitOn_intercalate rfl (by simpa using hnil) fun part hpart c hc => ?_
      obtain ⟨w, -, rfl⟩ := List.mem_map.1 hpart
      rw [beq_eq_false_iff_ne]
      rintro rfl
      exact not_mem_hexDigits (by decide) hc
    rw [group?, hsome, if_neg Bool.false_ne_true, hsplit, words?_map hnil]

/-! ## The gap -/

theorem atGap_gap (r : List Char) : atGap (':' :: ':' :: r) = some ([], r) := rfl

/-- What does not start with a gap is passed over. -/
theorem atGap_cons {c : Char} {r : List Char} (h : ∀ s, c = ':' → r ≠ ':' :: s) :
    atGap (c :: r) = (atGap r).map fun x => (c :: x.1, x.2) := by
  rw [atGap]
  exact h

theorem atGap_append {t : List Char} (h : ':' ∉ t) (r : List Char) :
    atGap (t ++ r) = (atGap r).map fun x => (t ++ x.1, x.2) := by
  induction t with
  | nil => simp
  | cons c t ih =>
      rw [List.mem_cons, not_or] at h
      have hstep : atGap (c :: (t ++ r)) = (atGap (t ++ r)).map fun x => (c :: x.1, x.2) :=
        atGap_cons fun _ hc => absurd hc.symm h.1
      rw [List.cons_append, hstep, ih h.2, Option.map_map]
      rfl

theorem atGap_colon {c : Char} (h : c ≠ ':') (r : List Char) :
    atGap (':' :: c :: r) = (atGap (c :: r)).map fun x => (':' :: x.1, x.2) :=
  atGap_cons fun _ _ heq => h (List.cons.inj heq).1

/-- There is no gap among words. -/
theorem atGap_renderWords (ws : List UInt16) (r : List Char) :
    atGap (renderWords ws ++ r) = (atGap r).map fun x => (renderWords ws ++ x.1, x.2) := by
  have hcolon : ∀ w : UInt16, ':' ∉ hexDigits w.toNat := fun _ => not_mem_hexDigits (by decide)
  induction ws with
  | nil => simp [renderWords]
  | cons w ws ih =>
      rcases ws with _ | ⟨v, ws⟩
      · simpa [renderWords] using atGap_append (hcolon w) r
      · have hjoin : renderWords (w :: v :: ws) =
            hexDigits w.toNat ++ ':' :: renderWords (v :: ws) := by
          simp [renderWords, List.intercalate_cons_cons]
        obtain ⟨c, t, hrest⟩ :=
          List.exists_cons_of_ne_nil (renderWords_ne_nil (List.cons_ne_nil v ws))
        have hc : c ≠ ':' := by
          rintro rfl
          obtain ⟨d, t', hdigits⟩ := List.exists_cons_of_ne_nil (hexDigits_ne_nil v.toNat)
          have hhead : (renderWords (v :: ws)).head? = some d := by
            rcases ws with _ | ⟨u, ws⟩ <;>
              simp [renderWords, List.intercalate_cons_cons, hdigits]
          rw [hrest, List.head?_cons] at hhead
          injection hhead with hd
          exact hcolon v (by rw [hdigits, hd]; exact List.mem_cons_self)
        rw [hjoin, List.append_assoc, atGap_append (hcolon w), List.cons_append, hrest,
          List.cons_append, atGap_colon hc, ← List.cons_append, ← hrest, ih]
        simp only [Option.map_map]
        congr 1
        funext x
        simp

/-- The longest run is of zeros. -/
theorem longestRun_zeros (ws : List UInt16) :
    (ws.drop (longestRun ws).1).take (longestRun ws).2 = List.replicate (longestRun ws).2 0 := by
  induction ws with
  | nil => rfl
  | cons w ws ih =>
      rw [longestRun]
      dsimp only
      split
      · rw [List.drop_zero, zeros, List.eq_replicate_iff]
        have htake := List.takeWhile_prefix (l := w :: ws) (· == (0 : UInt16))
        rw [← List.prefix_iff_eq_take.1 htake]
        refine ⟨rfl, fun v hv => ?_⟩
        simpa using List.all_eq_true.1 (List.all_takeWhile (p := (· == (0 : UInt16)))) v hv
      · rw [List.drop_succ_cons, ih]

/-- What is around a gap is filled in between with zeros. -/
theorem parse?_gap {cs before after : List Char} (h : atGap cs = some (before, after)) :
    parse? cs =
      if before.contains '.' then none
      else (group? before).bind fun head => (group? after).bind fun tail =>
        if head.length + tail.length ≤ 7 then
          some (head ++ List.replicate (8 - (head.length + tail.length)) 0 ++ tail)
        else none := by
  rw [parse?, h]
  dsimp only
  split <;> rfl

/-- **An address of version six** is read back. -/
theorem parse?_render {ws : List UInt16} (h : ws.length = 8) : parse? (render ws) = some ws := by
  have hzeros := longestRun_zeros ws
  rw [render]
  rcases hrun : longestRun ws with ⟨start, length⟩
  rw [hrun] at hzeros
  dsimp only at hzeros ⊢
  by_cases hshort : length < 2
  · have hgap : atGap (renderWords ws) = none := by
      have hwords := atGap_renderWords ws []
      rwa [List.append_nil] at hwords
    rw [if_pos hshort, parse?, hgap]
    simp [group?_renderWords, h]
  · have hlength := congrArg List.length hzeros
    rw [List.length_take, List.length_drop, List.length_replicate] at hlength
    have hgap : atGap (renderWords (ws.take start) ++ [':', ':'] ++
        renderWords (ws.drop (start + length))) =
        some (renderWords (ws.take start), renderWords (ws.drop (start + length))) := by
      rw [List.append_assoc, atGap_renderWords, List.cons_append, List.singleton_append,
        atGap_gap, Option.map_some, List.append_nil]
    have hdot : (renderWords (ws.take start)).contains '.' = false := by
      rw [Bool.eq_false_iff, ne_eq, List.contains_iff_mem]
      intro hmem
      have hne := renderWords_of_all (p := (· != '.')) rfl (by decide) hmem
      simp at hne
    have hfill : ws.take start ++ List.replicate length 0 ++ ws.drop (start + length) = ws := by
      rw [← hzeros, List.append_assoc, ← List.drop_drop, List.take_append_drop,
        List.take_append_drop]
    have hcount : 8 - ((ws.take start).length + (ws.drop (start + length)).length) = length := by
      rw [List.length_take, List.length_drop]
      omega
    have hfew : (ws.take start).length + (ws.drop (start + length)).length ≤ 7 := by
      rw [List.length_take, List.length_drop]
      omega
    rw [if_neg hshort, parse?_gap hgap, hdot, if_neg Bool.false_ne_true, group?_renderWords,
      group?_renderWords, Option.bind_some, Option.bind_some, if_pos hfew, hcount, hfill]

/-- An address has eight words. -/
theorem length_of_parse? {cs : List Char} {ws : List UInt16} (h : parse? cs = some ws) :
    ws.length = 8 := by
  rcases hgap : atGap cs with _ | ⟨before, after⟩
  · have hnone : (group? cs).filter (·.length == 8) = some ws := by
      rw [← h, parse?, hgap]
    simpa using (Option.filter_eq_some_iff.1 hnone).2
  · rw [parse?_gap hgap] at h
    split at h
    · exact absurd h.symm (Option.some_ne_none ws)
    · obtain ⟨head, -, h⟩ := Option.bind_eq_some_iff.1 h
      obtain ⟨tail, -, h⟩ := Option.bind_eq_some_iff.1 h
      split at h
      · injection h with h
        rw [← h, List.length_append, List.length_append, List.length_replicate]
        omega
      · exact absurd h.symm (Option.some_ne_none ws)

end Ipv6

end DeviceLink
