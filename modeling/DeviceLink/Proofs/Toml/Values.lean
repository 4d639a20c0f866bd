import DeviceLink.Proofs.Text.Decimal
import DeviceLink.Proofs.Toml.Texts
import DeviceLink.Toml.Document
/-!
# TOML — values are read back

A text, an integer or a truth value is read back from its written form, up to
the end of its line (`value?_writeValue`). An integer is its digits, with no
leading zero, after a minus sign where it is negative; so it is neither a date
nor a time, and none of the words for a truth value.
-/

namespace DeviceLink

namespace Toml

open Text

/-! ## Numerals -/

theorem grouped?_digits {cs : List Char} (hne : cs ≠ []) (h : ∀ c ∈ cs, c.isDigit = true) :
    grouped? Char.isDigit cs = some cs := by
  match cs with
  | [c] => simp [grouped?, h c List.mem_cons_self]
  | c :: d :: r =>
    have hd : d ≠ '_' := by
      rintro rfl
      cases h '_' (by simp)
    have ih := grouped?_digits (List.cons_ne_nil d r) fun x hx => h x (List.mem_cons_of_mem c hx)
    rw [grouped?.eq_def]
    split <;> simp_all

theorem plainDigits?_toDigits (n : Nat) :
    plainDigits? (Nat.toDigits 10 n) = some (Nat.toDigits 10 n) := by
  rw [plainDigits?, grouped?_digits Nat.toDigits_ne_nil fun c => isDigit_of_mem_toDigits]
  split
  · next heq =>
    rcases Nat.eq_zero_or_pos n with rfl | hn
    · simp at heq
    · exact absurd (Option.some.inj heq) (toDigits_ne_zero_cons hn _)
  · rfl

/-- The integers the format holds. -/
def Holds (n : Int) : Prop := -(greatest + 1 : Int) ≤ n ∧ n ≤ greatest

theorem integer?_toDigits {n : Nat} (h : n ≤ greatest) :
    integer? (Nat.toDigits 10 n) = some (n : Int) := by
  have hsign : sign (Nat.toDigits 10 n) = (false, Nat.toDigits 10 n) := by
    cases hl : Nat.toDigits 10 n with
    | nil => exact absurd hl Nat.toDigits_ne_nil
    | cons c l =>
      have hc : c.isDigit = true := isDigit_of_mem_toDigits (by rw [hl]; exact List.mem_cons_self)
      unfold sign
      split
      · next heq =>
        rw [(List.cons.inj heq).1] at hc
        cases hc
      · next heq =>
        rw [(List.cons.inj heq).1] at hc
        cases hc
      · rfl
  have hbase : ∀ x r, x.isDigit = false → Nat.toDigits 10 n ≠ '0' :: x :: r := by
    intro x r hx heq
    have := isDigit_of_mem_toDigits (n := n) (c := x) (by rw [heq]; simp)
    rw [hx] at this
    cases this
  rw [integer?.eq_def]
  split
  · next heq => exact absurd heq (hbase _ _ rfl)
  · next heq => exact absurd heq (hbase _ _ rfl)
  · next heq => exact absurd heq (hbase _ _ rfl)
  · simp [hsign, plainDigits?_toDigits, digitsValue_toDigits, h]

theorem integer?_negative {n : Nat} (h : n ≤ greatest + 1) :
    integer? ('-' :: Nat.toDigits 10 n) = some (-(n : Int)) := by
  rw [integer?.eq_def]
  simp [sign, plainDigits?_toDigits, digitsValue_toDigits, h]

/-- An integer the format holds is read back from its digits. -/
theorem integer?_toString {n : Int} (h : Holds n) : integer? (toString n).toList = some n := by
  obtain ⟨hlo, hhi⟩ := h
  rw [toList_toString]
  split
  · rw [integer?_toDigits (by omega)]
    congr 1
    omega
  · rw [integer?_negative (by omega)]
    congr 1
    omega

/-- A written integer is a run of digits, with or without a minus sign before it. -/
theorem mem_toString {n : Int} {c : Char} (h : c ∈ (toString n).toList) :
    c.isDigit = true ∨ c = '-' := by
  rw [toList_toString] at h
  split at h
  · exact .inl (isDigit_of_mem_toDigits h)
  · obtain rfl | h := List.mem_cons.1 h
    · exact .inr rfl
    · exact .inl (isDigit_of_mem_toDigits h)

theorem mem_tail_toString {n : Int} {c : Char} (h : c ∈ (toString n).toList.tail) :
    c.isDigit = true := by
  rw [toList_toString] at h
  split at h
  · exact isDigit_of_mem_toDigits (List.mem_of_mem_tail h)
  · exact isDigit_of_mem_toDigits h

/-! ## Dates and times -/

theorem isDate_eq_false {cs : List Char} (h : '-' ∉ cs.tail) : isDate cs = false := by
  unfold isDate
  split
  · simp at h
  · rfl

theorem afterTime?_eq_none {cs : List Char} (h : ':' ∉ cs) : afterTime? cs = none := by
  unfold afterTime?
  split
  · simp at h
  · rfl

theorem isMoment_eq_false {cs : List Char} (hdash : '-' ∉ cs.tail) (hcolon : ':' ∉ cs) :
    isMoment cs = false := by
  have htake : isDate (cs.take 10) = false :=
    isDate_eq_false fun h => hdash (by
      cases cs with
      | nil => simp at h
      | cons c cs => exact List.mem_of_mem_take h)
  simp [isMoment, isDate_eq_false hdash, afterTime?_eq_none hcolon, htake]

/-! ## Values without quotes -/

theorem ofRun?_toString {n : Int} (h : Holds n) : ofRun? (toString n).toList = some (.int n) := by
  have hno : ∀ c : Char, c.isDigit = false → c ≠ '-' → c ∉ (toString n).toList := by
    intro c hc hd hm
    rcases mem_toString hm with h | h
    · rw [h] at hc
      cases hc
    · exact hd h
  have htrue : (toString n).toList ≠ ['t', 'r', 'u', 'e'] := fun heq =>
    hno 't' rfl (by decide) (by rw [heq]; simp)
  have hfalse : (toString n).toList ≠ ['f', 'a', 'l', 's', 'e'] := fun heq =>
    hno 'f' rfl (by decide) (by rw [heq]; simp)
  have hmoment : isMoment (toString n).toList = false :=
    isMoment_eq_false (fun hm => nomatch (mem_tail_toString hm : Char.isDigit '-' = true))
      (hno ':' rfl (by decide))
  simp only [ofRun?, if_neg htrue, if_neg hfalse, hmoment, Bool.false_eq_true, if_false,
    integer?_toString h]

/-- A run without quotes is read up to the end of its line. -/
theorem plain?_run {cs : List Char} {d : Datum} (hc : ∀ c ∈ cs, isPlain c = true)
    (hd : ofRun? cs = some d) (r : List Char) : plain? (cs ++ '\n' :: r) = some (d, '\n' :: r) := by
  have htake : (cs ++ '\n' :: r).takeWhile isPlain = cs := by
    rw [List.takeWhile_append_of_pos hc, List.takeWhile_cons_of_neg (by decide), List.append_nil]
  have hdrop : (cs ++ '\n' :: r).dropWhile isPlain = '\n' :: r := by
    rw [List.dropWhile_append_of_pos hc, List.dropWhile_cons_of_neg (by decide)]
  simp [plain?, htake, hdrop, hd, isZonedTime, afterTime?]

theorem isPlain_of_isDigit {c : Char} (h : c.isDigit = true) : isPlain c = true := by
  simp [isPlain, Char.isAlphanum, h]

/-! ## Values -/

theorem value?_quoted {depth : Nat} {q : Char} (hq : q = '"' ∨ q = '\'') (r : List Char) :
    value? depth (q :: r) = (text? (q :: r)).map fun p => (.text (String.ofList p.1), p.2) := by
  rcases hq with rfl | rfl <;> cases depth <;> rfl

theorem value?_plain {depth : Nat} {c : Char} (h : isPlain c = true) (r : List Char) :
    value? depth (c :: r) = plain? (c :: r) := by
  have h₁ : c ≠ '"' := by rintro rfl; cases h
  have h₂ : c ≠ '\'' := by rintro rfl; cases h
  have h₃ : c ≠ '[' := by rintro rfl; cases h
  have h₄ : c ≠ '\x7b' := by rintro rfl; cases h
  rw [value?.eq_def]
  split <;> simp_all

theorem writeText_head (cs : List Char) : ∃ q r, (q = '"' ∨ q = '\'') ∧ writeText cs = q :: r := by
  unfold writeText
  simp only
  split
  · exact ⟨_, _, .inl rfl, rfl⟩
  · exact ⟨_, _, .inr rfl, rfl⟩
  · exact ⟨_, _, .inl rfl, rfl⟩
  · exact ⟨_, _, .inr rfl, rfl⟩

theorem value?_writeText (depth : Nat) (cs r : List Char) :
    value? depth (writeText cs ++ '\n' :: r) = some (.text (String.ofList cs), '\n' :: r) := by
  have hread : text? (writeText cs ++ '\n' :: r) = some (cs, '\n' :: r) :=
    text?_writeText cs (by simp [Ends]) (by simp [Ends])
  obtain ⟨q, t, hq, ht⟩ := writeText_head cs
  rw [ht, List.cons_append] at hread ⊢
  rw [value?_quoted hq, hread]
  rfl


/-- A run without quotes is a value of its own. -/
theorem value?_run (depth : Nat) {cs : List Char} {d : Datum} (hne : cs ≠ [])
    (hc : ∀ c ∈ cs, isPlain c = true) (hd : ofRun? cs = some d) (r : List Char) :
    value? depth (cs ++ '\n' :: r) = some (d, '\n' :: r) := by
  rw [← plain?_run hc hd]
  obtain ⟨c, cs, rfl⟩ := List.exists_cons_of_ne_nil hne
  exact value?_plain (hc c List.mem_cons_self) _

theorem toString_ne_nil (n : Int) : (toString n).toList ≠ [] := by
  rw [toList_toString]
  split <;> simp

theorem isPlain_of_mem_toString {n : Int} {c : Char} (h : c ∈ (toString n).toList) :
    isPlain c = true := by
  rcases mem_toString h with h | rfl
  · exact isPlain_of_isDigit h
  · rfl

/-- The values the format holds, as far as they are written. -/
def Storable (d : Datum) : Prop := ∀ n, d = .int n → Holds n

/-- **A value is read back from its written form**, up to the end of its line. -/
theorem value?_writeValue (depth : Nat) {d : Datum} {text : List Char}
    (h : writeValue? d = some text) (hd : Storable d) (r : List Char) :
    value? depth (text ++ '\n' :: r) = some (d, '\n' :: r) := by
  cases d with
  | text s =>
    obtain rfl := Option.some.inj h
    rw [value?_writeText, String.ofList_toList]
  | int n =>
    obtain rfl := Option.some.inj h
    exact value?_run depth (toString_ne_nil n) (fun c => isPlain_of_mem_toString)
      (ofRun?_toString (hd n rfl)) r
  | bool b =>
    cases b <;> obtain rfl := Option.some.inj h <;>
      exact value?_run depth (List.cons_ne_nil _ _) (List.all_eq_true.1 rfl) rfl r
  | _ => cases h

theorem isBlank_eq_false {p : Char → Bool} (hspace : p ' ' = false) (htab : p '\t' = false)
    {c : Char} (h : p c = true) : isBlank c = false := by
  have h₁ : c ≠ ' ' := by
    rintro rfl
    rw [hspace] at h
    cases h
  have h₂ : c ≠ '\t' := by
    rintro rfl
    rw [htab] at h
    cases h
  simp [isBlank, h₁, h₂]

/-- No value begins with a blank. -/
theorem writeValue_head {d : Datum} {text : List Char} (h : writeValue? d = some text) :
    ∃ c r, text = c :: r ∧ isBlank c = false := by
  cases d with
  | text s =>
    obtain rfl := Option.some.inj h
    obtain ⟨q, r, rfl | rfl, ht⟩ := writeText_head s.toList <;> exact ⟨_, _, ht, rfl⟩
  | int n =>
    obtain rfl := Option.some.inj h
    obtain ⟨c, r, hc⟩ := List.exists_cons_of_ne_nil (toString_ne_nil n)
    refine ⟨c, r, hc, ?_⟩
    exact isBlank_eq_false (p := isPlain) rfl rfl
      (isPlain_of_mem_toString (n := n) (by rw [hc]; exact List.mem_cons_self))
  | bool b =>
    cases b <;> obtain rfl := Option.some.inj h <;> exact ⟨_, _, rfl, rfl⟩
  | _ => cases h

end Toml

end DeviceLink
