/-!
# Text — reading up to where a run stops

A run of characters with a property ends before the first one without it. What
is read of it there, and what is left, do not depend on what comes after.
-/

namespace DeviceLink

namespace Text

variable {α : Type} {p : α → Bool} {x : α}

theorem takeWhile_stop (hx : p x = false) (l r : List α) :
    (l ++ x :: r).takeWhile p = l.takeWhile p := by
  induction l with
  | nil => simp [hx]
  | cons y l ih => simp only [List.cons_append, List.takeWhile_cons, ih]

theorem dropWhile_stop (hx : p x = false) (l r : List α) :
    (l ++ x :: r).dropWhile p = l.dropWhile p ++ x :: r := by
  induction l with
  | nil => simp [hx]
  | cons y l ih =>
      simp only [List.cons_append, List.dropWhile_cons, ih]
      split <;> simp

/-! A run is read to its end. -/

/-- A run without an element is one of others. -/
theorem ne_of_not_mem [DecidableEq α] {l : List α} (h : x ∉ l) : ∀ y ∈ l, decide (y ≠ x) = true :=
  fun _ hy => decide_eq_true fun heq => h (heq ▸ hy)

/-- What follows a run is told of its first element, if it has one. -/
theorem forall_head?_cons {P : α → Prop} (hx : P x) (r : List α) : ∀ y ∈ (x :: r).head?, P y := by
  intro y hy
  injection hy with hy
  rwa [← hy]

theorem takeWhile_run {l r : List α} (hl : ∀ y ∈ l, p y = true) (hr : ∀ y ∈ r.head?, p y = false) :
    (l ++ r).takeWhile p = l := by
  rw [List.takeWhile_append_of_pos hl]
  rcases r with _ | ⟨y, r⟩
  · simp
  · simp [hr y rfl]

theorem dropWhile_run {l r : List α} (hl : ∀ y ∈ l, p y = true) (hr : ∀ y ∈ r.head?, p y = false) :
    (l ++ r).dropWhile p = r := by
  rw [List.dropWhile_append_of_pos hl]
  rcases r with _ | ⟨y, r⟩
  · rfl
  · simp [hr y rfl]

end Text

end DeviceLink
