import DeviceLink.Toml.Printer
import DeviceLink.Toml.Text
/-!
# TOML — escapes are read back

What the printer puts between double quotes, the reader takes as the text it
was made of: on one line (`basic?_escaped`) and over several
(`basicLines?_escaped`). A control character goes through an escape of one
letter or of its number. Over several lines up to two quotes in a row stand for
themselves, so that a text may end in quotes right before the three that close
it; the reader keeps those apart by what follows all of them.
-/

namespace DeviceLink

namespace Toml

theorem isComment_of_not_isControl {c : Char} (h : isControl c = false) (hn : c ≠ '\n') :
    isComment c = true := by
  have hchar : ∀ d : Char, c = d ↔ c.toNat = d.toNat := fun d => Char.toNat_inj.symm
  have htab : '\t'.toNat = 9 := rfl
  have hline : '\n'.toNat = 10 := rfl
  simp only [ne_eq, hchar, hline] at hn
  simp only [isControl, isComment, Bool.or_eq_false_iff, Bool.and_eq_false_iff,
    bne_eq_false_iff_eq, decide_eq_false_iff_not, beq_eq_false_iff_ne, ne_eq, Bool.or_eq_true,
    Bool.and_eq_true, decide_eq_true_eq, beq_iff_eq, hchar, htab, hline] at h ⊢
  omega

/-! ## Characters, one at a time -/

/-- The letter of an escape does not end a line. -/
theorem endsLine_of_escape? {c x : Char} (h : escape? x = some c) (r : List Char) :
    endsLine (x :: r) = false := by
  unfold escape? at h
  split at h <;> first | rfl | cases h

/-- Characters between double quotes that stand for one: that one itself, or an
escape of a letter or of a number. -/
inductive Spells : List Char → Char → Prop
  | itself {c : Char} (h : isBasic c = true) : Spells [c] c
  | letter {c x : Char} (h : escape? x = some c) : Spells ['\\', x] c
  | number {c a b d e : Char} (h : hexChar? [a, b, d, e] = some c) :
      Spells ['\\', 'u', a, b, d, e] c

/-- **One character is read** on one line, however it is spelled. -/
theorem basic?_spelled {s : List Char} {c : Char} (h : Spells s c) (r : List Char) :
    basic? (s ++ r) = push c (basic? r) := by
  cases h with
  | itself h =>
      have h₁ : c ≠ '"' := by rintro rfl; cases h
      have h₂ : c ≠ '\\' := by rintro rfl; cases h
      rw [List.singleton_append, basic?.eq_def]
      split <;> simp_all
  | @letter _ x h =>
      have hu : x ≠ 'u' := by rintro rfl; cases h
      have hU : x ≠ 'U' := by rintro rfl; cases h
      rw [List.cons_append, List.singleton_append, basic?.eq_def]
      split <;> simp_all
      next hne heq => exact absurd heq.2.symm (hne _ _ heq.1.symm)
  | @number _ a b d e h =>
      calc basic? ('\\' :: 'u' :: a :: b :: d :: e :: r)
          = (hexChar? [a, b, d, e] >>= fun c => push c (basic? r)) := rfl
        _ = push c (basic? r) := by rw [h]; rfl

/-- **One character is read** over several lines, spelled as it is on one. -/
theorem basicLines?_spelled {s : List Char} {c : Char} (h : Spells s c) (r : List Char) :
    basicLines? false (s ++ r) = push c (basicLines? false r) := by
  cases h with
  | itself h =>
      have h₁ : c ≠ '"' := by rintro rfl; cases h
      have h₂ : c ≠ '\\' := by rintro rfl; cases h
      have h₃ : c ≠ '\n' := by rintro rfl; cases h
      have h₄ : c ≠ '\r' := by rintro rfl; cases h
      rw [List.singleton_append, basicLines?.eq_def]
      split <;> simp_all
  | @letter _ x h =>
      have hu : x ≠ 'u' := by rintro rfl; cases h
      have hU : x ≠ 'U' := by rintro rfl; cases h
      have hends := endsLine_of_escape? h r
      rw [List.cons_append, List.singleton_append, basicLines?.eq_def]
      split <;> simp_all
      next hne heq => exact absurd heq.2.symm (hne _ _ heq.1.symm)
  | @number _ a b d e h =>
      calc basicLines? false ('\\' :: 'u' :: a :: b :: d :: e :: r)
          = (hexChar? [a, b, d, e] >>= fun c => push c (basicLines? false r)) := rfl
        _ = push c (basicLines? false r) := by rw [h]; rfl

/-- A quote stands for itself where no two others follow. -/
theorem basicLines?_quote {r : List Char} (h : ∀ s, r ≠ '"' :: '"' :: s) :
    basicLines? false ('"' :: r) = push '"' (basicLines? false r) := by
  rw [basicLines?.eq_def]
  split <;> simp_all
  next heq => simp [← heq.1, ← heq.2]

theorem basicLines?_newline (r : List Char) :
    basicLines? false ('\n' :: r) = push '\n' (basicLines? false r) := rfl

/-! ## Escapes -/

theorem hexValue?_upperHex {d : Nat} (h : d < 16) : Text.hexValue? (upperHex d) = some d := by
  have hall : ∀ e ∈ List.range 16, Text.hexValue? (upperHex e) = some e := by decide
  exact hall d (List.mem_range.2 h)

/-- A character below 256 is read back from its number in two digits. -/
theorem hexChar?_upperHex {c : Char} (h : c.toNat < 256) :
    hexChar? ['0', '0', upperHex (c.toNat / 16 % 16), upperHex (c.toNat % 16)] = some c := by
  have hn : (['0', '0', upperHex (c.toNat / 16 % 16), upperHex (c.toNat % 16)].foldlM
      (fun n d => (Text.hexValue? d).map (16 * n + ·)) 0 : Option Nat) = some c.toNat := by
    simp only [List.foldlM_cons, List.foldlM_nil,
      hexValue?_upperHex (Nat.mod_lt _ (by decide : 16 > 0)),
      show Text.hexValue? '0' = some 0 from rfl, Option.map_some, Option.bind_eq_bind,
      Option.bind_some]
    congr 1
    omega
  simp only [hexChar?, hn, Option.bind_eq_bind, Option.bind_some]
  have hv : c.toNat.isValidChar := c.valid
  rw [dif_pos hv]
  congr 1
  apply Char.ext
  have hlt : c.toNat < UInt32.size := c.val.toNat_lt
  exact UInt32.toNat_inj.1 (UInt32.toNat_ofNat_of_lt' hlt)

theorem toNat_lt_of_isEscaped {lines : Bool} {c : Char} (h : isEscaped lines c = true) :
    c.toNat < 256 := by
  simp only [isEscaped, isControl, Bool.or_eq_true, Bool.and_eq_true, beq_iff_eq,
    decide_eq_true_eq] at h
  rcases h with ((rfl | rfl) | (⟨⟨h, -⟩, -⟩ | h)) | ⟨rfl, -⟩
  · decide
  · decide
  · omega
  · omega
  · decide

/-- **An escape stands for its character**, by a letter or by its number. -/
theorem escapeChar_spells {lines : Bool} {c : Char} (h : c = '"' ∨ isEscaped lines c = true) :
    Spells (escapeChar c) c := by
  unfold escapeChar
  split
  · next hc => exact .letter (by rw [hc]; rfl)
  split
  · next hc => exact .letter (by rw [hc]; rfl)
  split
  · next hc => exact .letter (by rw [hc]; rfl)
  split
  · next hc => exact .letter (by rw [hc]; rfl)
  split
  · next hc => exact .letter (by rw [hc]; rfl)
  split
  · next hc => exact .letter (by rw [hc]; rfl)
  · next hq =>
    split
    · next hc => exact .letter (by rw [hc]; rfl)
    · exact .number (hexChar?_upperHex (toNat_lt_of_isEscaped (h.resolve_left hq)))

/-- What is neither a quote nor escaped stands for itself. -/
theorem isBasic_of_not_isEscaped {lines : Bool} {c : Char} (hq : c ≠ '"')
    (h : isEscaped lines c = false) (hn : c ≠ '\n') : isBasic c = true := by
  simp only [isEscaped, Bool.or_eq_false_iff, beq_eq_false_iff_ne, ne_eq] at h
  obtain ⟨⟨⟨-, hslash⟩, hcontrol⟩, -⟩ := h
  simp [isBasic, isComment_of_not_isControl hcontrol hn, hq, hslash]

/-! ## Texts on one line -/

/-- A text on one line is read back between its quotes. -/
theorem basic?_escaped (rest : List Char) (run : Nat) (cs : List Char) :
    basic? (escaped false run cs ++ '"' :: rest) = some (cs, rest) := by
  induction cs generalizing run with
  | nil => rfl
  | cons c cs ih =>
      rw [escaped]
      simp only [Bool.false_and, Bool.false_eq_true, if_false]
      by_cases hq : c = '"'
      · have hquote : c = '"' ∨ isEscaped false c = true := .inl hq
        rw [if_pos hq, List.append_assoc, basic?_spelled (escapeChar_spells hquote), ih]
        rfl
      · rw [if_neg hq]
        by_cases he : isEscaped false c = true
        · rw [if_pos he, List.append_assoc, basic?_spelled (escapeChar_spells (.inr he)), ih]
          rfl
        · have hplain : isBasic c = true := by
            rw [Bool.not_eq_true] at he
            refine isBasic_of_not_isEscaped hq he ?_
            rintro rfl
            cases he
          rw [if_neg he, List.cons_append, ← List.singleton_append,
            basic?_spelled (.itself hplain), ih]
          rfl

/-! ## Texts over several lines -/

/-- What follows a text does not go on with its quote. -/
def Ends (quote : Char) (rest : List Char) : Prop := rest.head? ≠ some quote

theorem closing_of_ends {q : Char} {rest : List Char} (h : Ends q rest) :
    closing q rest = ([], rest) := by
  rcases rest with _ | ⟨a, _ | ⟨b, rest⟩⟩
  · rfl
  · have ha : a ≠ q := fun ha => h (by rw [ha]; rfl)
    simp [closing, ha]
  · have ha : a ≠ q := fun ha => h (by rw [ha]; rfl)
    simp [closing, ha]

theorem closing_one {q : Char} {rest : List Char} (h : Ends q rest) :
    closing q (q :: rest) = ([q], rest) := by
  rcases rest with _ | ⟨a, rest⟩
  · simp [closing]
  · have ha : a ≠ q := fun ha => h (by rw [ha]; rfl)
    simp [closing, ha]

theorem closing_two (q : Char) (rest : List Char) :
    closing q (q :: q :: rest) = ([q, q], rest) := by
  simp [closing]

/-- Three quotes close a text, and those that follow them may belong to it. -/
theorem basicLines?_close (r : List Char) :
    basicLines? false ('"' :: '"' :: '"' :: r) = some (closing '"' r) := rfl

theorem escapeChar_head (c : Char) : ∃ s, escapeChar c = '\\' :: s := by
  unfold escapeChar
  repeat' split
  all_goals exact ⟨_, rfl⟩

/-- Characters written with escapes begin with a backslash or with one that stands for
itself. -/
theorem escaped_head {lines : Bool} {run : Nat} {c : Char} (cs : List Char)
    (hq : (lines && run < 2) = false ∨ c ≠ '"') :
    (∃ s, escaped lines run (c :: cs) = '\\' :: s) ∨
      (c ≠ '"' ∧ isEscaped lines c = false ∧ ∃ s, escaped lines run (c :: cs) = c :: s) := by
  obtain ⟨s, hs⟩ := escapeChar_head c
  rw [escaped]
  by_cases hc : c = '"'
  · have hplain : ¬ (lines && run < 2) = true := by
      rw [hq.resolve_right (absurd hc)]
      exact Bool.false_ne_true
    rw [if_pos hc, if_neg hplain, hs]
    exact .inl ⟨_, rfl⟩
  · rw [if_neg hc]
    by_cases he : isEscaped lines c = true
    · rw [if_pos he, hs]
      exact .inl ⟨_, rfl⟩
    · rw [if_neg he]
      exact .inr ⟨hc, by simpa using he, _, rfl⟩

theorem escaped_ne_quote {lines : Bool} {run : Nat} {c : Char} (cs r s : List Char)
    (hq : (lines && run < 2) = false ∨ c ≠ '"') :
    escaped lines run (c :: cs) ++ r ≠ '"' :: s := by
  obtain ⟨t, ht⟩ | ⟨hc, -, t, ht⟩ := escaped_head cs hq
  · rw [ht]
    rintro ⟨⟩
  · rw [ht]
    rintro ⟨⟩
    exact hc rfl

/-- After a quote that stands for itself, no more than one other such quote follows, unless
the text ends there. -/
theorem escaped_ne_quotes {run : Nat} {cs : List Char} (hrun : 1 ≤ run) (hne : cs ≠ [])
    (hq : cs = ['"'] → 2 ≤ run) (r s : List Char) :
    escaped true run cs ++ r ≠ '"' :: '"' :: s := by
  obtain ⟨c, cs, rfl⟩ := List.exists_cons_of_ne_nil hne
  by_cases hc : c = '"'
  · subst hc
    by_cases h₁ : run < 2
    · obtain ⟨b, cs, rfl⟩ : ∃ b t, cs = b :: t := by
        refine List.exists_cons_of_ne_nil fun h => ?_
        have := hq (by rw [h])
        omega
      simp only [escaped, if_true, Bool.true_and, decide_eq_true h₁, List.cons_append, ne_eq,
        List.cons.injEq, true_and]
      exact escaped_ne_quote _ _ _ (.inl (by simp; omega))
    · exact escaped_ne_quote _ _ _ (.inl (by simpa using h₁))
  · exact escaped_ne_quote _ _ _ (.inr hc)

/-- A text over several lines is read back between its quotes, however many of its own stand
at its end. -/
theorem basicLines?_escaped {rest : List Char} (hrest : Ends '"' rest) (run : Nat)
    (cs : List Char) :
    basicLines? false (escaped true run cs ++ '"' :: '"' :: '"' :: rest) = some (cs, rest) := by
  induction cs generalizing run with
  | nil =>
      rw [escaped, List.nil_append, basicLines?_close, closing_of_ends hrest]
  | cons c cs ih =>
      rw [escaped]
      by_cases hq : c = '"'
      · subst hq
        by_cases hrun : run < 2
        · simp only [if_true, Bool.true_and, decide_eq_true hrun]
          -- quotes at the end of the text are read together with the three that close it
          by_cases hnil : cs = []
          · simp [hnil, escaped, basicLines?_close, closing_one hrest]
          by_cases hlast : cs = ['"'] ∧ run + 1 < 2
          · simp [hlast.1, escaped, basicLines?_close, closing_two, hlast.2]
          rw [List.cons_append, basicLines?_quote, ih]
          · rfl
          · exact escaped_ne_quotes (by omega) hnil
              (fun h => Nat.le_of_not_lt fun hlt => hlast ⟨h, hlt⟩) _
        · simp only [if_true, Bool.true_and, decide_eq_false hrun, Bool.false_eq_true, if_false]
          have hquote : '"' = '"' ∨ isEscaped true '"' = true := .inl rfl
          rw [List.append_assoc, basicLines?_spelled (escapeChar_spells hquote), ih]
          rfl
      · rw [if_neg hq]
        by_cases he : isEscaped true c = true
        · rw [if_pos he, List.append_assoc, basicLines?_spelled (escapeChar_spells (.inr he)), ih]
          rfl
        · rw [if_neg he, List.cons_append]
          by_cases hn : c = '\n'
          · rw [hn, basicLines?_newline, ih]
            rfl
          · have hplain : isBasic c = true :=
              isBasic_of_not_isEscaped hq (by simpa using he) hn
            rw [← List.singleton_append, basicLines?_spelled (.itself hplain), ih]
            rfl

end Toml

end DeviceLink
