import DeviceLink.Proofs.Toml.Escapes
/-!
# TOML — texts are read back

Every text is read back from its written form, whichever of the four it takes
(`text?_writeText`). Between single quotes nothing is escaped, so a text is put
there only if it is free of what cannot stand for itself; over several lines
that is a run of three quotes, which would close it.
-/

namespace DeviceLink

namespace Toml

/-! ## Texts between single quotes -/

theorem isLiteral_of_not_isControl {c : Char} (hq : c ≠ '\'') (h : isControl c = false)
    (hn : c ≠ '\n') : isLiteral c = true := by
  simp [isLiteral, isComment_of_not_isControl h hn, hq]

theorem literal?_plain {c : Char} (h : isLiteral c = true) (r : List Char) :
    literal? (c :: r) = push c (literal? r) := by
  have h₁ : c ≠ '\'' := by rintro rfl; cases h
  rw [literal?.eq_def]
  split <;> simp_all

/-- A text on one line is read back as it stands. -/
theorem literal?_append {cs : List Char} (h : ∀ c ∈ cs, isLiteral c = true)
    (rest : List Char) : literal? (cs ++ '\'' :: rest) = some (cs, rest) := by
  induction cs with
  | nil => rfl
  | cons c cs ih =>
      rw [List.cons_append, literal?_plain (h c List.mem_cons_self),
        ih fun d hd => h d (List.mem_cons_of_mem c hd)]
      rfl

theorem literalLines?_quote {r : List Char} (h : ∀ s, r ≠ '\'' :: '\'' :: s) :
    literalLines? ('\'' :: r) = push '\'' (literalLines? r) := by
  rw [literalLines?.eq_def]
  split <;> simp_all
  next heq => simp [← heq.1, ← heq.2]

theorem literalLines?_plain {c : Char} (h : isLiteral c = true) (r : List Char) :
    literalLines? (c :: r) = push c (literalLines? r) := by
  have h₁ : c ≠ '\'' := by rintro rfl; cases h
  have h₂ : c ≠ '\n' := by rintro rfl; cases h
  have h₃ : c ≠ '\r' := by rintro rfl; cases h
  rw [literalLines?.eq_def]
  split <;> simp_all

theorem literalLines?_newline (r : List Char) :
    literalLines? ('\n' :: r) = push '\n' (literalLines? r) := rfl

theorem literalLines?_close (r : List Char) :
    literalLines? ('\'' :: '\'' :: '\'' :: r) = some (closing '\'' r) := rfl

/-! ## Runs of quotes -/

/-- Counting one character more: the longest run so far and the run that goes on. -/
def runStep (q : Char) (seen : Nat × Nat) (c : Char) : Nat × Nat :=
  if c == q then (max seen.1 (seen.2 + 1), seen.2 + 1) else (seen.1, 0)

theorem runStep_mono {q : Char} {a b : Nat × Nat} (h₁ : a.1 ≤ b.1) (h₂ : a.2 ≤ b.2) (c : Char) :
    (runStep q a c).1 ≤ (runStep q b c).1 ∧ (runStep q a c).2 ≤ (runStep q b c).2 := by
  unfold runStep
  split
  · constructor <;> dsimp only <;> omega
  · exact ⟨h₁, Nat.le_refl 0⟩

theorem foldl_runStep_mono (q : Char) (cs : List Char) : ∀ {a b : Nat × Nat},
    a.1 ≤ b.1 → a.2 ≤ b.2 → (cs.foldl (runStep q) a).1 ≤ (cs.foldl (runStep q) b).1 := by
  induction cs with
  | nil => exact fun h _ => h
  | cons c cs ih =>
      intro a b h₁ h₂
      obtain ⟨hbest, hhere⟩ := runStep_mono h₁ h₂ c
      exact ih hbest hhere

theorem le_foldl_runStep (q : Char) (cs : List Char) : ∀ a : Nat × Nat,
    a.1 ≤ (cs.foldl (runStep q) a).1 := by
  induction cs with
  | nil => exact fun a => Nat.le_refl _
  | cons c cs ih =>
      intro a
      refine Nat.le_trans ?_ (ih (runStep q a c))
      unfold runStep
      split
      · exact Nat.le_max_left _ _
      · exact Nat.le_refl _

theorem longestRun_tail (q c : Char) (cs : List Char) :
    longestRun q cs ≤ longestRun q (c :: cs) :=
  foldl_runStep_mono q cs (Nat.zero_le _) (Nat.zero_le _)

theorem longestRun_three (q : Char) (cs : List Char) : 3 ≤ longestRun q (q :: q :: q :: cs) := by
  have hthree : longestRun q (q :: q :: q :: cs) = (cs.foldl (runStep q) (3, 3)).1 := by
    change (cs.foldl (runStep q) (runStep q (runStep q (runStep q (0, 0) q) q) q)).1 = _
    simp [runStep]
  rw [hthree]
  exact le_foldl_runStep q cs (3, 3)

/-- After a quote of a text with no three in a row, no more than one other follows, unless
the text ends there. -/
theorem ne_quotes_of_longestRun {cs : List Char} (hne : cs ≠ []) (hq : cs ≠ ['\''])
    (hrun : longestRun '\'' ('\'' :: cs) ≤ 2) (r s : List Char) :
    cs ++ r ≠ '\'' :: '\'' :: s := by
  match cs with
  | [a] =>
    rintro ⟨⟩
    exact hq rfl
  | a :: b :: cs =>
    rintro ⟨⟩
    exact absurd (longestRun_three '\'' cs) (by omega)

/-- A text over several lines is read back as it stands, unless three quotes in a row are
in it. -/
theorem literalLines?_append {rest : List Char} (hrest : Ends '\'' rest) {cs : List Char}
    (hc : ∀ c ∈ cs, isControl c = false) (hrun : longestRun '\'' cs ≤ 2) :
    literalLines? (cs ++ '\'' :: '\'' :: '\'' :: rest) = some (cs, rest) := by
  induction cs with
  | nil => rw [List.nil_append, literalLines?_close, closing_of_ends hrest]
  | cons c cs ih =>
      have ih := ih (fun d hd => hc d (List.mem_cons_of_mem c hd))
        (Nat.le_trans (longestRun_tail _ c cs) hrun)
      by_cases hq : c = '\''
      · subst hq
        by_cases hnil : cs = []
        · simp [hnil, literalLines?_close, closing_one hrest]
        by_cases hlast : cs = ['\'']
        · simp [hlast, literalLines?_close, closing_two]
        rw [List.cons_append, literalLines?_quote, ih]
        · rfl
        · exact ne_quotes_of_longestRun hnil hlast hrun _
      · by_cases hn : c = '\n'
        · rw [hn, List.cons_append, literalLines?_newline, ih]
          rfl
        · rw [List.cons_append, literalLines?_plain, ih]
          · rfl
          · exact isLiteral_of_not_isControl hq (hc c List.mem_cons_self) hn

/-! ## Texts in any form -/

theorem text?_basic {r : List Char} (h : ∀ s, r ≠ '"' :: '"' :: s) :
    text? ('"' :: r) = basic? r := by
  rw [text?.eq_def]
  split <;> simp_all

theorem text?_literal {r : List Char} (h : ∀ s, r ≠ '\'' :: '\'' :: s) :
    text? ('\'' :: r) = literal? r := by
  rw [text?.eq_def]
  split <;> simp_all

theorem skipNewline_newline (r : List Char) : skipNewline ('\n' :: r) = r := rfl

theorem skipNewline_eq {c : Char} (hn : c ≠ '\n') (hr : c ≠ '\r') (r : List Char) :
    skipNewline (c :: r) = c :: r := by
  unfold skipNewline newline?
  split <;> simp_all

/-- The line end that is put right after the quotes is not part of the text. -/
theorem skipNewline_opening {cs body : List Char} (h : '\n' ∉ cs → skipNewline body = body) :
    skipNewline ((if cs.contains '\n' then ['\n'] else []) ++ body) = body := by
  by_cases hn : '\n' ∈ cs
  · simp [hn, skipNewline_newline]
  · simp [hn, h hn]

theorem skipNewline_escaped (cs r : List Char) (h : '\n' ∉ cs) :
    skipNewline (escaped true 0 cs ++ '"' :: r) = escaped true 0 cs ++ '"' :: r := by
  cases cs with
  | nil => exact skipNewline_eq (by decide) (by decide) _
  | cons c cs =>
    by_cases hq : c = '"'
    · rw [hq, escaped]
      exact skipNewline_eq (by decide) (by decide) _
    · have hhead : (∃ s, escaped true 0 (c :: cs) = '\\' :: s) ∨ _ := escaped_head cs (.inr hq)
      obtain ⟨s, hs⟩ | ⟨-, he, s, hs⟩ := hhead
      · rw [hs]
        exact skipNewline_eq (by decide) (by decide) _
      · rw [hs]
        refine skipNewline_eq ?_ ?_ _
        · rintro rfl
          exact h List.mem_cons_self
        · rintro rfl
          cases he

theorem skipNewline_literal (cs r : List Char) (hc : ∀ c ∈ cs, isControl c = false)
    (h : '\n' ∉ cs) : skipNewline (cs ++ '\'' :: r) = cs ++ '\'' :: r := by
  cases cs with
  | nil => exact skipNewline_eq (by decide) (by decide) _
  | cons c cs =>
    refine skipNewline_eq ?_ ?_ _
    · rintro rfl
      exact h List.mem_cons_self
    · rintro rfl
      cases hc _ List.mem_cons_self

/-- A text is put between single quotes only if it can stand there as it is. -/
theorem TextForm.of_eq_literal {cs : List Char} (h : TextForm.of cs = .literal) :
    cs ≠ [] ∧ ∀ c ∈ cs, isLiteral c = true := by
  unfold TextForm.of at h
  simp only at h
  split at h
  · cases h
  next hbasic =>
    split at h
    · next hl =>
      simp only [Bool.and_eq_true, Bool.not_eq_true', List.any_eq_false,
        List.contains_eq_mem, decide_eq_false_iff_not] at hl
      obtain ⟨⟨hc, hq⟩, hn⟩ := hl
      refine ⟨?_, fun c hm => isLiteral_of_not_isControl ?_ (by simpa using hc c hm) ?_⟩
      · rintro rfl
        exact hbasic rfl
      · rintro rfl
        exact hq hm
      · rintro rfl
        exact hn hm
    · split at h
      · cases h
      · split at h
        · cases h
        · split at h <;> cases h

theorem TextForm.of_eq_literalLines {cs : List Char} (h : TextForm.of cs = .literalLines) :
    (∀ c ∈ cs, isControl c = false) ∧ longestRun '\'' cs ≤ 2 := by
  unfold TextForm.of at h
  simp only at h
  split at h
  · cases h
  split at h
  · cases h
  split at h
  · cases h
  split at h
  · next hl =>
    simpa using hl
  · split at h <;> cases h

/-- **A text is read back from its written form**, whichever it takes. -/
theorem text?_writeText (cs : List Char) {rest : List Char} (hq : Ends '"' rest)
    (hs : Ends '\'' rest) : text? (writeText cs ++ rest) = some (cs, rest) := by
  unfold writeText
  cases hform : TextForm.of cs with
  | basic =>
    simp only [List.cons_append, List.append_assoc, List.nil_append]
    rw [text?_basic, basic?_escaped]
    intro s
    cases cs with
    | nil =>
      rintro ⟨⟩
      exact hq rfl
    | cons c cs => exact escaped_ne_quote _ _ _ (.inl rfl)
  | literal =>
    obtain ⟨hne, hl⟩ := TextForm.of_eq_literal hform
    simp only [List.cons_append, List.append_assoc, List.nil_append]
    rw [text?_literal, literal?_append hl]
    intro s
    obtain ⟨c, cs, rfl⟩ := List.exists_cons_of_ne_nil hne
    intro heq
    have hc : c = '\'' := (List.cons.inj heq).1
    have := hl c List.mem_cons_self
    rw [hc] at this
    cases this
  | basicLines =>
    simp only [List.cons_append, List.append_assoc, List.nil_append]
    rw [text?, skipNewline_opening (skipNewline_escaped cs _), basicLines?_escaped hq]
  | literalLines =>
    obtain ⟨hc, hrun⟩ := TextForm.of_eq_literalLines hform
    simp only [List.cons_append, List.append_assoc, List.nil_append]
    rw [text?, skipNewline_opening (skipNewline_literal cs _ hc), literalLines?_append hs hc hrun]

end Toml

end DeviceLink
