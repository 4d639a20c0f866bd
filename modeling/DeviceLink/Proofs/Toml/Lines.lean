import DeviceLink.Proofs.Toml.Values
/-!
# TOML — lines are read back

What one line of a document does to the table being read. A line that gives a
new key its value adds it to the open table (`Reads.entry`), and a header closes
that table and opens another (`Reads.header`). Lines compose: a stretch of a
document reads from one state to another whatever follows it (`Reads`).
-/

namespace DeviceLink

namespace Toml

/-! ## Keys -/

/-- A key that needs no quotes. -/
def Bare (key : String) : Prop := key.toList ≠ [] ∧ key.toList.all isBare = true

instance (key : String) : Decidable (Bare key) := inferInstanceAs (Decidable (_ ∧ _))

theorem Bare.chars {key : String} (h : Bare key) : ∀ c ∈ key.toList, isBare c = true :=
  List.all_eq_true.1 h.2

/-- A bare key is written as it stands, and begins with no other sign. -/
theorem Bare.head {key : String} (h : Bare key) : ∃ c s, key.toList = c :: s ∧ isBare c = true := by
  obtain ⟨c, s, hs⟩ := List.exists_cons_of_ne_nil h.1
  exact ⟨c, s, hs, h.chars c (by rw [hs]; exact List.mem_cons_self)⟩

theorem keyPart?_bare {key : String} (h : Bare key) {x : Char} (hx : isBare x = false)
    (r : List Char) : keyPart? (key.toList ++ x :: r) = some (key, x :: r) := by
  have htake : (key.toList ++ x :: r).takeWhile isBare = key.toList := by
    rw [List.takeWhile_append_of_pos h.chars, List.takeWhile_cons_of_neg (by simp [hx]),
      List.append_nil]
  have hdrop : (key.toList ++ x :: r).dropWhile isBare = x :: r := by
    rw [List.dropWhile_append_of_pos h.chars, List.dropWhile_cons_of_neg (by simp [hx])]
  have hkey : key.toList.isEmpty = false := by simpa using h.1
  obtain ⟨c, s, hs, hc⟩ := h.head
  have h₁ : c ≠ '"' := by rintro rfl; cases hc
  have h₂ : c ≠ '\'' := by rintro rfl; cases hc
  rw [keyPart?.eq_def]
  split
  · next heq =>
    rw [hs] at heq
    exact absurd (List.cons.inj heq).1 h₁
  · next heq =>
    rw [hs] at heq
    exact absurd (List.cons.inj heq).1 h₂
  · simp [htake, hdrop, h.1]

/-- A bare key is read up to a sign that is no part of it. -/
theorem key?_bare {key : String} (h : Bare key) {x : Char} (hx : isBare x = false)
    {r s : List Char} {y : Char} (hy : (x :: r).dropWhile isBlank = y :: s) (hdot : y ≠ '.') :
    key? (key.toList ++ x :: r) = some (([], key), y :: s) := by
  have hblank : (key.toList ++ x :: r).dropWhile isBlank = key.toList ++ x :: r := by
    obtain ⟨c, s, hs, hc⟩ := h.head
    rw [hs, List.cons_append, List.dropWhile_cons_of_neg]
    simp [isBlank_eq_false (p := isBare) rfl rfl hc]
  have hparts : ∀ fuel, keyParts? (fuel + 1) (key.toList ++ x :: r) = some ([key], y :: s) := by
    intro fuel
    simp only [keyParts?, hblank, keyPart?_bare h hx, Option.bind_eq_bind, Option.bind_some, hy]
    split
    · next heq => exact absurd (List.cons.inj heq).1 hdot
    · rfl
  simp [key?, depthLimit, hparts 78]

/-! ## Tables -/

/-- A table with more entries. -/
def Table.append (t : Table) (entries : List (String × Item)) : Table :=
  { t with entries := t.entries ++ entries }

theorem Table.find_eq_none {t : Table} {key : String} (h : key ∉ t.entries.map (·.1)) :
    t.find key = none := by
  rw [Table.find, Option.map_eq_none_iff, List.find?_eq_none]
  intro e he
  simp only [beq_iff_eq]
  rintro rfl
  exact h (List.mem_map_of_mem he)

theorem Table.put_fresh {t : Table} {key : String} (h : key ∉ t.entries.map (·.1)) (item : Item) :
    t.put key item = t.append [(key, item)] := by
  simp [Table.put, Table.find_eq_none h, Table.append]

/-! ## Reading on

A stretch of a document is read line by line, each line from the state the one before it
left. The reader counts its lines down from a number that is large enough for the whole
text, and so for what is left of it. -/

/-- Reading the characters takes one state of a document to another, whatever follows them. -/
def Reads (b : Builder) (cs : List Char) (b' : Builder) : Prop :=
  ∀ fuel r, (cs ++ r).length < fuel →
    ∃ fuel', r.length < fuel' ∧ lines? fuel b (cs ++ r) = lines? fuel' b' r

theorem Reads.refl (b : Builder) : Reads b [] b := fun fuel _ h => ⟨fuel, h, rfl⟩

theorem Reads.trans {b b' b'' : Builder} {cs ds : List Char} (h : Reads b cs b')
    (h' : Reads b' ds b'') : Reads b (cs ++ ds) b'' := by
  intro fuel r hlt
  rw [List.append_assoc] at hlt ⊢
  obtain ⟨fuel₁, hlt₁, heq₁⟩ := h fuel (ds ++ r) hlt
  obtain ⟨fuel₂, hlt₂, heq₂⟩ := h' fuel₁ r hlt₁
  exact ⟨fuel₂, hlt₂, heq₁.trans heq₂⟩

/-- One line, told from its first character. -/
theorem Reads.line {b b' : Builder} {cs : List Char} (hne : cs ≠ [])
    (h : ∀ fuel r, lines? (fuel + 1) b (cs ++ r) = lines? fuel b' r) : Reads b cs b' := by
  intro fuel r hlt
  obtain ⟨fuel, rfl⟩ := Nat.exists_eq_succ_of_ne_zero (Nat.ne_zero_of_lt hlt)
  have hpos := List.length_pos_iff.2 hne
  rw [List.length_append] at hlt
  exact ⟨fuel, by omega, h fuel r⟩

theorem lineEnd?_newline (r : List Char) : lineEnd? ('\n' :: r) = some r := rfl

theorem Reads.emptyLine (b : Builder) : Reads b ['\n'] b :=
  Reads.line (by decide) fun _ _ => rfl


/-- An empty line before a stretch makes no difference. -/
theorem Reads.of_emptyLine {b b' : Builder} {cs : List Char} (h : Reads b ('\n' :: cs) b') :
    Reads b cs b' := fun fuel r hlt => h (fuel + 1) r (Nat.succ_lt_succ hlt)

/-! ## Lines -/

/-- A new key gets its value. -/
theorem Builder.insert?_fresh {b : Builder} {key : String} (hdotted : b.current.dotted = false)
    (hfresh : key ∉ b.current.entries.map (·.1)) (d : Datum) :
    b.insert? [] key d = some { b with current := b.current.append [(key, .value d)] } := by
  simp [Builder.insert?, Table.insert?, Table.update?, hdotted, Table.find_eq_none hfresh,
    Table.put_fresh hfresh]

theorem keyLine?_entry {b : Builder} {key : String} {d : Datum} {text : List Char}
    (hkey : Bare key) (htext : writeValue? d = some text) (hd : Storable d)
    (hdotted : b.current.dotted = false) (hfresh : key ∉ b.current.entries.map (·.1))
    (r : List Char) :
    keyLine? b (key.toList ++ ' ' :: '=' :: ' ' :: (text ++ '\n' :: r)) =
      some ({ b with current := b.current.append [(key, .value d)] }, r) := by
  obtain ⟨v, vs, hv, hblank⟩ := writeValue_head htext
  have hname : key? (key.toList ++ ' ' :: '=' :: ' ' :: (text ++ '\n' :: r)) =
      some (([], key), '=' :: ' ' :: (text ++ '\n' :: r)) :=
    key?_bare hkey rfl rfl (by decide)
  have hgap : (' ' :: (text ++ '\n' :: r)).dropWhile isBlank = text ++ '\n' :: r := by
    rw [List.dropWhile_cons_of_pos rfl, hv, List.cons_append,
      List.dropWhile_cons_of_neg (by simp [hblank])]
  simp only [keyLine?, hname, Option.bind_eq_bind, Option.bind_some, hgap,
    value?_writeValue _ htext hd, lineEnd?_newline, Builder.insert?_fresh hdotted hfresh]
  rfl

/-- A line that begins with a bare key gives it a value. -/
theorem lines?_bare {c : Char} (hc : isBare c = true) (fuel : Nat) (b : Builder) (r : List Char) :
    lines? (fuel + 1) b (c :: r) = (keyLine? b (c :: r)).bind fun x => lines? fuel x.1 x.2 := by
  have h₁ : c ≠ '[' := by rintro rfl; cases hc
  have h₂ : c ≠ '#' := by rintro rfl; cases hc
  have h₃ : c ≠ '\n' := by rintro rfl; cases hc
  have h₄ : c ≠ '\r' := by rintro rfl; cases hc
  have hblank : (c :: r).dropWhile isBlank = c :: r :=
    List.dropWhile_cons_of_neg (by simp [isBlank_eq_false (p := isBare) rfl rfl hc])
  rw [lines?, hblank]
  split
  · next heq => cases heq
  · next heq => exact absurd (List.cons.inj heq).1 h₁
  · next heq =>
    obtain ⟨rfl, rfl⟩ := List.cons.inj heq
    simp [h₂, h₃, h₄]

/-- A line that gives a new key its value. -/
theorem Reads.entry {b : Builder} {key : String} {d : Datum} {text : List Char} (hkey : Bare key)
    (htext : writeValue? d = some text) (hd : Storable d) (hdotted : b.current.dotted = false)
    (hfresh : key ∉ b.current.entries.map (·.1)) :
    Reads b (key.toList ++ [' ', '=', ' '] ++ text ++ ['\n'])
      { b with current := b.current.append [(key, .value d)] } := by
  refine Reads.line (by simp) fun fuel r => ?_
  have hwhole : key.toList ++ [' ', '=', ' '] ++ text ++ ['\n'] ++ r =
      key.toList ++ ' ' :: '=' :: ' ' :: (text ++ '\n' :: r) := by simp
  have hline := keyLine?_entry hkey htext hd hdotted hfresh r
  obtain ⟨c, s, hs, hc⟩ := hkey.head
  rw [hwhole]
  rw [hs, List.cons_append] at hline ⊢
  rw [lines?_bare hc, hline]
  rfl

/-- A line that opens the table of a new key closes the one before it. -/
theorem Reads.header {b : Builder} {t : Table} {key : String} (hkey : Bare key)
    (hclose : b.close? = some t) (hfresh : key ∉ t.entries.map (·.1)) :
    Reads b ('[' :: key.toList ++ [']', '\n']) ⟨t, [key], false, {}⟩ := by
  refine Reads.line (by simp) fun fuel r => ?_
  have hwhole : '[' :: key.toList ++ [']', '\n'] ++ r =
      '[' :: (key.toList ++ ']' :: '\n' :: r) := by simp
  have hname : key? (key.toList ++ ']' :: '\n' :: r) = some (([], key), ']' :: '\n' :: r) :=
    key?_bare hkey rfl rfl (by decide)
  have hopen : b.header? [key] = some ⟨t, [key], false, {}⟩ := by
    simp [Builder.header?, hclose, Table.update?, Builder.header?.look, Table.find_eq_none hfresh]
  have hline : headerLine? b (key.toList ++ ']' :: '\n' :: r) =
      some (⟨t, [key], false, {}⟩, r) := by
    obtain ⟨c, s, hs, hc⟩ := hkey.head
    have h₁ : c ≠ '[' := by rintro rfl; cases hc
    rw [headerLine?.eq_def]
    split
    · next heq =>
      rw [hs] at heq
      exact absurd (List.cons.inj heq).1 h₁
    · simp only [hname, Option.bind_eq_bind, Option.bind_some, List.nil_append, hopen,
        lineEnd?_newline]
      rfl
  rw [hwhole, lines?, List.dropWhile_cons_of_neg (by decide)]
  simp [hline]

end Toml

end DeviceLink
