import DeviceLink.Proofs.Number.Rounding
import DeviceLink.Proofs.Text.Decimal
import DeviceLink.Proofs.Text.Stops
import DeviceLink.Text.ByteSize
import Mathlib.Algebra.Order.Field.Rat
import Mathlib.Tactic.FieldSimp
import Mathlib.Tactic.Linarith
import Mathlib.Tactic.NormNum
import Mathlib.Tactic.Ring
/-!
# Text — byte counts are shown in order and accurately

The text of a byte count is a decimal and a unit, and is read back as their product
(`Quantity.read?`). What it says keeps the order of the counts, also where the unit
changes: below a unit no more than 1024.0 of the smaller one is shown, and from there
on no less than 1.0 of it. It is off by a twentieth of the unit at most, and exact in
bytes (`shown_accurately`).
-/

namespace DeviceLink

namespace Text

/-- The value of a decimal, with a point or without. -/
def decimal? (cs : List Char) : Option ℚ :=
  match cs.dropWhile (· ≠ '.') with
  | [] => (digits? cs).map fun n => (n : ℚ)
  | _ :: places => do
    return (← digits? (cs.takeWhile (· ≠ '.'))) + (← digits? places) / 10 ^ places.length

theorem point_not_mem_toDigits (n : Nat) : '.' ∉ Nat.toDigits 10 n := fun h =>
  nomatch (isDigit_of_mem_toDigits h : Char.isDigit '.' = true)

theorem space_not_mem_toDigits (n : Nat) : ' ' ∉ Nat.toDigits 10 n := fun h =>
  nomatch (isDigit_of_mem_toDigits h : Char.isDigit ' ' = true)

/-- Digits are a decimal. -/
theorem decimal?_toDigits (n : Nat) : decimal? (Nat.toDigits 10 n) = some (n : ℚ) := by
  have hdrop : (Nat.toDigits 10 n ++ []).dropWhile (· ≠ '.') = [] :=
    List.dropWhile_append_of_pos (ne_of_not_mem (point_not_mem_toDigits n))
  rw [List.append_nil] at hdrop
  rw [decimal?, hdrop, digits?_toDigits]
  rfl

/-- So are digits with one more behind a point. -/
theorem decimal?_tenths (n : Nat) :
    decimal? (Nat.toDigits 10 (n / 10) ++ '.' :: Nat.toDigits 10 (n % 10)) =
      some ((n : ℚ) / 10) := by
  have hwhole := ne_of_not_mem (point_not_mem_toDigits (n / 10))
  have hpoint : ∀ d ∈ ('.' :: Nat.toDigits 10 (n % 10)).head?, decide (d ≠ '.') = false :=
    forall_head?_cons (P := fun d => decide (d ≠ '.') = false) (by decide) _
  have hone : (Nat.toDigits 10 (n % 10)).length = 1 := by
    rw [Nat.toDigits_of_lt_base (Nat.mod_lt n (by decide))]
    rfl
  have hvalue : (n : ℚ) = 10 * (n / 10 : ℕ) + (n % 10 : ℕ) := by
    exact_mod_cast (Nat.div_add_mod n 10).symm
  rw [decimal?, dropWhile_run hwhole hpoint]
  simp only [takeWhile_run hwhole hpoint, digits?_toDigits, hone]
  change some _ = some _
  rw [hvalue]
  congr 1
  ring

end Text

namespace ByteSize

open Number Text

/-! ## Reading back -/

/-- Every unit. -/
def Scale.all : List Scale := [.bytes, .kibi, .mebi, .gibi]

/-- The unit that is written so. -/
def Scale.ofSymbol? (symbol : String) : Option Scale := all.find? (·.symbol == symbol)

/-- What a text says of a number of bytes. -/
structure Quantity where
  decimal : ℚ
  scale : Scale

namespace Quantity

/-- The number of bytes. -/
def bytes (q : Quantity) : ℚ := q.decimal * q.scale.size

/-- Read a decimal and a unit, with a space between them. -/
def read? (text : String) : Option Quantity := do
  let cs := text.toList
  return {
    decimal := ← decimal? (cs.takeWhile (· ≠ ' '))
    scale := ← Scale.ofSymbol? (String.ofList ((cs.dropWhile (· ≠ ' ')).drop 1)) }

theorem read?_of_toList {text : String} {number : List Char} {scale : Scale} {x : ℚ}
    (htext : text.toList = number ++ ' ' :: scale.symbol.toList) (hspace : ' ' ∉ number)
    (hnumber : decimal? number = some x) : read? text = some ⟨x, scale⟩ := by
  have hstop : ∀ d ∈ (' ' :: scale.symbol.toList).head?, decide (d ≠ ' ') = false :=
    forall_head?_cons (P := fun d => decide (d ≠ ' ') = false) (by decide) _
  have hsymbol : Scale.ofSymbol? scale.symbol = some scale := by cases scale <;> decide
  rw [read?, htext, takeWhile_run (ne_of_not_mem hspace) hstop,
    dropWhile_run (ne_of_not_mem hspace) hstop, hnumber, List.drop_one, List.tail_cons,
    String.ofList_toList, hsymbol]
  rfl

/-- What is shown of a count that is held exactly. -/
def ofHeld (held : Nat) : Quantity := ⟨tenths held (scaleOf held) / 10, scaleOf held⟩

end Quantity

theorem tenths_bytes (count : Nat) : tenths count .bytes = 10 * count := by
  have h := roundDiv_mul (10 * count) 1 (by decide)
  rwa [Nat.mul_one] at h

theorem lt_of_scaleOf_bytes {count : Nat} (h : scaleOf count = .bytes) : count < 1024 := by
  unfold scaleOf at h
  split at h
  · assumption
  · split at h
    · cases h
    · split at h <;> cases h

theorem size_pos (scale : Scale) : 0 < scale.size := by cases scale <;> decide

/-- A count of bytes is held exactly. -/
theorem toDouble_of_scaleOf_bytes {count : Nat} (h : scaleOf (toDouble count) = .bytes) :
    toDouble count = count :=
  eq_of_toDouble_lt (Nat.lt_trans (lt_of_scaleOf_bytes h) (by decide))

theorem render_of_bytes {count : Nat} (h : scaleOf (toDouble count) = .bytes) :
    (render count).toList = Nat.toDigits 10 count ++ ' ' :: Scale.bytes.symbol.toList := by
  unfold render
  simp only [h, String.toList_append, toList_toString_nat, List.append_assoc]
  rfl

theorem render_of_ne_bytes {count : Nat} {scale : Scale} (h : scaleOf (toDouble count) = scale)
    (hscale : scale ≠ .bytes) :
    (render count).toList =
      (Nat.toDigits 10 (tenths (toDouble count) scale / 10) ++
        '.' :: Nat.toDigits 10 (tenths (toDouble count) scale % 10)) ++
          ' ' :: scale.symbol.toList := by
  unfold render
  cases scale with
  | bytes => exact absurd rfl hscale
  | kibi | mebi | gibi =>
    simp only [h, String.toList_append, toList_toString_nat, List.append_assoc]
    rfl

/-- **The text of a count is read back** as what it shows of the count that is held. -/
theorem read?_render (count : Nat) :
    Quantity.read? (render count) = some (.ofHeld (toDouble count)) := by
  by_cases hscale : scaleOf (toDouble count) = .bytes
  · rw [Quantity.read?_of_toList (render_of_bytes hscale) (space_not_mem_toDigits count)
      (decimal?_toDigits count), Quantity.ofHeld, hscale, tenths_bytes,
      toDouble_of_scaleOf_bytes hscale]
    simp
  · have hspace : ∀ n, ' ' ∉ Nat.toDigits 10 (n / 10) ++ '.' :: Nat.toDigits 10 (n % 10) := by
      simp [space_not_mem_toDigits]
    rw [Quantity.read?_of_toList (render_of_ne_bytes rfl hscale) (hspace _) (decimal?_tenths _),
      Quantity.ofHeld]

/-! ## Bounds -/

/-- Below 1024 of a unit, unless it is the largest, and not below one of it. -/
theorem scaleOf_bounds (count : Nat) :
    (scaleOf count ≠ .bytes → (scaleOf count).size ≤ count) ∧
      (scaleOf count ≠ .gibi → count < 1024 * (scaleOf count).size) := by
  grind [scaleOf, Scale.size]

theorem tenths_le {count k : Nat} {scale : Scale} (h : count ≤ k * scale.size) :
    tenths count scale ≤ 10 * k := by
  refine roundDiv_le (size_pos scale) ?_
  rw [Nat.mul_assoc]
  exact Nat.mul_le_mul_left 10 h

theorem le_tenths {count k : Nat} {scale : Scale} (h : k * scale.size ≤ count) :
    10 * k ≤ tenths count scale := by
  refine le_roundDiv (size_pos scale) ?_
  rw [Nat.mul_assoc]
  exact Nat.mul_le_mul_left 10 h

/-- A larger count is shown in the same unit, or in one that is 1024 times larger at least. -/
theorem scaleOf_mono {count count' : Nat} (h : count ≤ count') :
    scaleOf count' = scaleOf count ∨
      scaleOf count ≠ .gibi ∧ scaleOf count' ≠ .bytes ∧
        1024 * (scaleOf count).size ≤ (scaleOf count').size := by
  grind [scaleOf, Scale.size]

/-- **What is shown keeps the order**, in tenths of a byte. -/
theorem shown_mono {count count' : Nat} (h : count ≤ count') :
    tenths count (scaleOf count) * (scaleOf count).size ≤
      tenths count' (scaleOf count') * (scaleOf count').size := by
  rcases scaleOf_mono h with hsame | ⟨hgibi, hbytes, hsizes⟩
  · rw [hsame]
    exact Nat.mul_le_mul_right _ (roundDiv_mono (Nat.mul_le_mul_left 10 h))
  · -- No more than 1024.0 of the one unit, and no less than 1.0 of the other.
    have hbelow := Nat.le_of_lt ((scaleOf_bounds count).2 hgibi)
    have habove := (scaleOf_bounds count').1 hbytes
    calc tenths count (scaleOf count) * (scaleOf count).size
        ≤ 10 * 1024 * (scaleOf count).size := Nat.mul_le_mul_right _ (tenths_le hbelow)
      _ = 10 * (1024 * (scaleOf count).size) := Nat.mul_assoc ..
      _ ≤ 10 * 1 * (scaleOf count').size := by omega
      _ ≤ tenths count' (scaleOf count') * (scaleOf count').size :=
          Nat.mul_le_mul_right _ (le_tenths (by rwa [Nat.one_mul]))

/-! ## Accuracy -/

namespace Quantity

theorem bytes_ofHeld (held : Nat) :
    (ofHeld held).bytes = (tenths held (scaleOf held) * (scaleOf held).size : Nat) / 10 := by
  rw [bytes, ofHeld]
  push_cast
  ring

theorem ofHeld_mono {held held' : Nat} (h : held ≤ held') :
    (ofHeld held).bytes ≤ (ofHeld held').bytes := by
  rw [bytes_ofHeld, bytes_ofHeld]
  have hle : ((tenths held (scaleOf held) * (scaleOf held).size : Nat) : ℚ) ≤
      (tenths held' (scaleOf held') * (scaleOf held').size : Nat) := by
    exact_mod_cast shown_mono h
  linarith

/-- What is shown is off by half a tenth of the unit at most. -/
theorem ofHeld_near (held : Nat) :
    |(ofHeld held).bytes - held| ≤ (ofHeld held).scale.size / 20 := by
  obtain ⟨hbelow, habove⟩ := roundDiv_near (10 * held) (scaleOf held).size (size_pos _)
  rw [bytes_ofHeld, abs_le, ofHeld]
  rw [← tenths] at hbelow habove
  constructor
  · have hcast : ((2 * (10 * held) : Nat) : ℚ) ≤
        (2 * (tenths held (scaleOf held) * (scaleOf held).size) + (scaleOf held).size : Nat) := by
      exact_mod_cast habove
    push_cast at hcast ⊢
    linarith
  · have hcast : ((2 * (tenths held (scaleOf held) * (scaleOf held).size) : Nat) : ℚ) ≤
        (2 * (10 * held) + (scaleOf held).size : Nat) := by
      exact_mod_cast hbelow
    push_cast at hcast ⊢
    linarith

theorem one_le_decimal {held : Nat} (h : (ofHeld held).scale ≠ .bytes) :
    1 ≤ (ofHeld held).decimal := by
  have hle := le_tenths (k := 1) ((Nat.one_mul _).trans_le ((scaleOf_bounds held).1 h))
  have hcast : ((10 * 1 : Nat) : ℚ) ≤ tenths held (scaleOf held) := by exact_mod_cast hle
  rw [ofHeld]
  push_cast at hcast
  linarith

theorem decimal_le {held : Nat} (h : (ofHeld held).scale ≠ .gibi) :
    (ofHeld held).decimal ≤ 1024 := by
  have hle := tenths_le (Nat.le_of_lt ((scaleOf_bounds held).2 h))
  have hcast : (tenths held (scaleOf held) : ℚ) ≤ (10 * 1024 : Nat) := by exact_mod_cast hle
  rw [ofHeld]
  push_cast at hcast
  linarith

end Quantity

/-- **Byte counts are shown in order and accurately.** The text of a count is read back
as a decimal of a unit. A larger count is never shown as fewer bytes, whatever the two
units are. Below 1024 the bytes are exact. What is shown is off by a twentieth of the
unit at most from the count as it is held, which below 2 ^ 53 is the count itself. And
no unit but the smallest is shown by less than 1.0 of it, and none but the largest by
more than 1024.0. -/
theorem shown_accurately (count : Nat) :
    ∃ q, Quantity.read? (render count) = some q ∧
      (∀ count' q', count ≤ count' → Quantity.read? (render count') = some q' →
        q.bytes ≤ q'.bytes) ∧
      (count < 1024 → q.scale = .bytes ∧ q.bytes = count) ∧
      |q.bytes - toDouble count| ≤ q.scale.size / 20 ∧
      (count < 2 ^ 53 → |q.bytes - count| ≤ q.scale.size / 20) ∧
      (q.scale ≠ .bytes → 1 ≤ q.decimal) ∧ (q.scale ≠ .gibi → q.decimal ≤ 1024) := by
  have hnear := Quantity.ofHeld_near (toDouble count)
  have hheld : count < 2 ^ 53 → toDouble count = count := fun h =>
    toDouble_of_lt (by rwa [Nat.one_shiftLeft])
  refine ⟨_, read?_render count, fun count' q' hle hq' => ?_, fun hlt => ?_, hnear, fun hlt => ?_,
    Quantity.one_le_decimal, Quantity.decimal_le⟩
  · obtain rfl := Option.some.inj ((read?_render count').symm.trans hq')
    exact Quantity.ofHeld_mono (toDouble_mono hle)
  · have hscale : scaleOf count = .bytes := if_pos hlt
    rw [hheld (Nat.lt_trans hlt (by decide)), Quantity.bytes_ofHeld, Quantity.ofHeld, hscale,
      tenths_bytes]
    refine ⟨rfl, ?_⟩
    simp [Scale.size]
  · rw [hheld hlt] at hnear ⊢
    exact hnear

/-- The last counts that are shown in bytes and in kibibytes. The latter is rounded up
to 1024.0, which is no more than the next count is shown as. -/
theorem boundaries_shown_accurately :
    (∃ q, Quantity.read? (render 1023) = some q ∧ q.scale = .bytes ∧ q.bytes = 1023) ∧
      ∃ q q', Quantity.read? (render 1048575) = some q ∧
        Quantity.read? (render 1048576) = some q' ∧ q.bytes ≤ q'.bytes ∧ q.scale = .kibi ∧
        1 ≤ q.decimal ∧ q.decimal ≤ 1024 ∧ |q.bytes - 1048575| ≤ q.scale.size / 20 := by
  obtain ⟨p, hp, -, hexact, -⟩ := shown_accurately 1023
  obtain ⟨q, hq, hmono, -, -, hnear, hone, hle⟩ := shown_accurately 1048575
  have hscale : q.scale = .kibi := by
    obtain rfl := Option.some.inj ((read?_render _).symm.trans hq)
    decide +kernel
  have hdecimal : 1 ≤ q.decimal ∧ q.decimal ≤ 1024 :=
    ⟨hone (by simp [hscale]), hle (by simp [hscale])⟩
  refine ⟨⟨p, hp, hexact (by decide)⟩, q, _, hq, read?_render _,
    hmono 1048576 _ (by decide) (read?_render _), hscale, hdecimal.1, hdecimal.2,
    hnear (by decide)⟩

end ByteSize

end DeviceLink
