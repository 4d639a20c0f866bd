import DeviceLink.Url.Domain
/-!
# URLs — pieces between separators

A text is cut at every separator. The pieces have none of them, hold everything
else, and are found again when they are put together with one separator between
each and the next (`splitOn_intercalate`).
-/

namespace DeviceLink

namespace Text

/-- What stands in joined texts, besides what they are joined by. -/
theorem mem_intercalate {x c : Char} (hc : c ≠ x) (parts : List (List Char)) :
    c ∈ [x].intercalate parts ↔ ∃ part ∈ parts, c ∈ part := by
  induction parts with
  | nil => simp
  | cons part parts ih =>
      rcases parts with _ | ⟨next, parts⟩
      · simp
      · rw [List.intercalate_cons_cons, List.mem_append, List.mem_append, List.mem_singleton, ih]
        simp [hc]

end Text

namespace Domain

variable {sep : Char → Bool} {x : Char} {cs : List Char} {parts : List (List Char)}

/-- Cutting is the library's. -/
theorem splitOn_eq (cs : List Char) : splitOn sep cs = cs.splitOnP sep := by
  induction cs with
  | nil => simp [splitOn]
  | cons c cs ih =>
      obtain ⟨part, parts, heq⟩ := List.exists_cons_of_ne_nil (List.splitOnP_ne_nil sep cs)
      rw [splitOn, ih, heq, List.splitOnP_cons_eq_if_modifyHead, heq]
      rfl

theorem splitOn_ne_nil (cs : List Char) : splitOn sep cs ≠ [] := by
  rw [splitOn_eq]
  exact List.splitOnP_ne_nil sep cs

theorem splitOn_cons (c : Char) (cs : List Char) :
    splitOn sep (c :: cs) =
      if sep c then [] :: splitOn sep cs else (splitOn sep cs).modifyHead (c :: ·) := by
  simp only [splitOn_eq, List.splitOnP_cons_eq_if_modifyHead]

/-- A text without separators is one piece. -/
theorem splitOn_eq_singleton (h : ∀ c ∈ cs, sep c = false) : splitOn sep cs = [cs] := by
  rw [splitOn_eq, List.splitOnP_eq_singleton h]

theorem splitOn_append_cons (hx : sep x = true) (cs ds : List Char) :
    splitOn sep (cs ++ x :: ds) = splitOn sep cs ++ splitOn sep ds := by
  simp only [splitOn_eq, List.splitOnP_append_cons cs ds hx]

/-- **Pieces that are put together** are found again. -/
theorem splitOn_intercalate (hx : sep x = true) (hne : parts ≠ [])
    (h : ∀ part ∈ parts, ∀ c ∈ part, sep c = false) :
    splitOn sep ([x].intercalate parts) = parts := by
  induction parts with
  | nil => exact absurd rfl hne
  | cons part parts ih =>
      rw [List.forall_mem_cons] at h
      rcases parts with _ | ⟨next, parts⟩
      · rw [List.intercalate_singleton, splitOn_eq_singleton h.1]
      · rw [List.intercalate_cons_cons, List.append_assoc, List.singleton_append,
          splitOn_append_cons hx, splitOn_eq_singleton h.1, ih (List.cons_ne_nil _ _) h.2,
          List.singleton_append]

/-- And a text is put together from its pieces. -/
theorem intercalate_splitOn (x : Char) (cs : List Char) :
    [x].intercalate (splitOn (· == x) cs) = cs := by
  rw [splitOn_eq, ← List.splitOn_eq_splitOnP, List.intercalate_splitOn]

theorem splitOn_congr {sep' : Char → Bool} (h : ∀ c ∈ cs, sep c = sep' c) :
    splitOn sep cs = splitOn sep' cs := by
  induction cs with
  | nil => rfl
  | cons c cs ih =>
      rw [List.forall_mem_cons] at h
      rw [splitOn_cons, splitOn_cons, h.1, ih h.2]

/-- What stands in a piece stands in the text, and is no separator. -/
theorem mem_of_mem_splitOn {c : Char} {part : List Char} (hpart : part ∈ splitOn sep cs)
    (hc : c ∈ part) : c ∈ cs ∧ sep c = false := by
  induction cs generalizing part with
  | nil =>
      rw [splitOn, List.mem_singleton] at hpart
      rw [hpart] at hc
      exact absurd hc List.not_mem_nil
  | cons d cs ih =>
      have hne : splitOn sep cs ≠ [] := splitOn_ne_nil cs
      obtain ⟨first, rest, heq⟩ := List.exists_cons_of_ne_nil hne
      rw [splitOn_cons] at hpart
      rw [heq] at hpart ih
      by_cases hd : sep d = true
      · rw [if_pos hd] at hpart
        rcases List.mem_cons.1 hpart with rfl | hpart
        · exact absurd hc List.not_mem_nil
        · obtain ⟨hmem, hsep⟩ := ih hpart hc
          exact ⟨List.mem_cons_of_mem d hmem, hsep⟩
      · rw [if_neg hd, List.modifyHead_cons] at hpart
        rcases List.mem_cons.1 hpart with rfl | hpart
        · rcases List.mem_cons.1 hc with rfl | hc
          · exact ⟨List.mem_cons_self, Bool.eq_false_iff.2 hd⟩
          · obtain ⟨hmem, hsep⟩ := ih List.mem_cons_self hc
            exact ⟨List.mem_cons_of_mem d hmem, hsep⟩
        · obtain ⟨hmem, hsep⟩ := ih (List.mem_cons_of_mem _ hpart) hc
          exact ⟨List.mem_cons_of_mem d hmem, hsep⟩

/-! ## Labels -/

theorem intercalate_labels (cs : List Char) : ['.'].intercalate (labels cs) = cs :=
  intercalate_splitOn '.' cs

theorem labels_intercalate (hne : parts ≠ []) (h : ∀ part ∈ parts, '.' ∉ part) :
    labels (['.'].intercalate parts) = parts := by
  refine splitOn_intercalate (beq_self_eq_true '.') hne fun part hpart c hc => ?_
  rw [beq_eq_false_iff_ne]
  rintro rfl
  exact h part hpart hc

end Domain

end DeviceLink
