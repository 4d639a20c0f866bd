import DeviceLink.Datum.Decode
import DeviceLink.Datum.Encode
import DeviceLink.Proofs.Configuration.Ports
import DeviceLink.Proofs.Text.Stops
/-!
# Ports — how a range is written

A range is one port or two around a colon, and a port is a run of digits that may
have leading zeros, a plus sign before it and white space on either side. `Written`
says so without a reader; every text then reads in one way (`Reading`), as the
range that is written, as two ends out of order, or as nothing. Data may also give
a range in numbers, as one port or as a map of the two ends, and reads as the text
of these numbers would (`reads_as_written`).
-/

namespace DeviceLink

namespace Text

/-! ## Blanks -/

/-- Blanks are all that trimming takes away. -/
theorem exists_trim (cs : List Char) :
    ∃ before after, cs = before ++ trim cs ++ after ∧ (∀ c ∈ before, isBlank c = true) ∧
      ∀ c ∈ after, isBlank c = true := by
  have hrest : cs.dropWhile isBlank =
      trim cs ++ ((cs.dropWhile isBlank).reverse.takeWhile isBlank).reverse := by
    have hsplit := List.takeWhile_append_dropWhile (p := isBlank) (l := (cs.dropWhile isBlank).reverse)
    have hreversed := congrArg List.reverse hsplit
    rw [List.reverse_append, List.reverse_reverse] at hreversed
    exact hreversed.symm
  have hblank : ∀ l : List Char, ∀ c ∈ l.takeWhile isBlank, isBlank c = true := fun l =>
    List.all_eq_true.1 List.all_takeWhile
  refine ⟨cs.takeWhile isBlank, ((cs.dropWhile isBlank).reverse.takeWhile isBlank).reverse, ?_,
    hblank cs, fun c hc => hblank _ c (List.mem_reverse.1 hc)⟩
  rw [List.append_assoc, ← hrest, List.takeWhile_append_dropWhile]

/-- Trimming leaves what has no blank at its ends. -/
theorem trim_append {before core after : List Char} (hbefore : ∀ c ∈ before, isBlank c = true)
    (hafter : ∀ c ∈ after, isBlank c = true) (hne : core ≠ [])
    (hcore : ∀ c ∈ core, isBlank c = false) : trim (before ++ core ++ after) = core := by
  have hhead : ∀ c ∈ (core ++ after).head?, isBlank c = false := by
    obtain ⟨c, l, rfl⟩ := List.exists_cons_of_ne_nil hne
    exact forall_head?_cons (P := (isBlank · = false)) (hcore c List.mem_cons_self) (l ++ after)
  have hlast : ∀ c ∈ core.reverse.head?, isBlank c = false := by
    intro c hc
    exact hcore c (List.mem_reverse.1 (List.mem_of_mem_head? hc))
  have hend : ∀ c ∈ after.reverse, isBlank c = true := by
    intro c hc
    exact hafter c (List.mem_reverse.1 hc)
  rw [trim, List.append_assoc, dropWhile_run hbefore hhead, List.reverse_append,
    dropWhile_run hend hlast, List.reverse_reverse]

theorem isBlank_plus : isBlank '+' = false := by decide

end Text

namespace PortRange

open Text

/-! ## Grammar -/

/-- **One end of a written range**, and the port it names. -/
inductive IsEnd : List Char → Port → Prop
  | digits {before sign digits after : List Char} {port : Port} :
      (∀ c ∈ before, isBlank c = true) → (sign = [] ∨ sign = ['+']) → digits ≠ [] →
      (∀ c ∈ digits, c.isDigit = true) → Nat.ofDigitChars 10 digits 0 = port.toNat →
      (∀ c ∈ after, isBlank c = true) → IsEnd (before ++ (sign ++ digits) ++ after) port

/-- **A written range**, in order or not, and its two ends. -/
inductive Written : List Char → Port → Port → Prop
  /-- There is no colon: both ends are the one port. -/
  | one {cs : List Char} {port : Port} : ':' ∉ cs → IsEnd cs port → Written cs port port
  /-- The text is cut at its first colon. -/
  | two {cs cs' : List Char} {first last : Port} :
      ':' ∉ cs → IsEnd cs first → IsEnd cs' last → Written (cs ++ ':' :: cs') first last

/-- **How a text reads.** -/
inductive Reading (text : String) : Except Error PortRange → Prop
  | range {r : PortRange} : Written text.toList r.first r.last → Reading text (.ok r)
  | inverted {first last : Port} :
      Written text.toList first last → last < first →
      Reading text (.error (.inverted first last))
  | malformed : (∀ first last, ¬ Written text.toList first last) →
      Reading text (.error (.malformed text))

/-! ## Ends -/

/-- **A part of a text is read as a port exactly where it is an end.** -/
theorem port?_eq_some_iff {cs : List Char} {port : Port} :
    port? cs = some port ↔ IsEnd cs port := by
  constructor
  · intro h
    rw [port?] at h
    split at h
    · next n hn =>
      split at h
      · next hlt =>
        obtain ⟨before, after, hcs, hbefore, hafter⟩ := exists_trim cs
        obtain ⟨sign, digits, hcore, hsign, hne, hall, hvalue⟩ := unsigned?_eq_some_iff.1 hn
        have hport : n = port.toNat := by
          rw [← Option.some.inj h, UInt16.toNat_ofNat_of_lt' hlt]
        rw [hcs, hcore]
        exact .digits hbefore hsign hne hall (hvalue.trans hport) hafter
      · cases h
    · cases h
  · rintro @⟨before, sign, digits, after, _, hbefore, hsign, hne, hall, hvalue, hafter⟩
    have hcore : ∀ c ∈ sign ++ digits, isBlank c = false := by
      intro c hc
      rcases List.mem_append.1 hc with hc | hc
      · rcases hsign with rfl | rfl
        · cases hc
        · rw [List.mem_singleton.1 hc, isBlank_plus]
      · exact isBlank_of_isDigit (hall c hc)
    have htrim := trim_append hbefore hafter (by simp [hne]) hcore
    have hread : unsigned? (sign ++ digits) = some port.toNat :=
      unsigned?_eq_some_iff.2 ⟨sign, digits, rfl, hsign, hne, hall, hvalue⟩
    have hlt : port.toNat < UInt16.size := port.toNat_lt
    simp only [port?, htrim, hread, if_pos hlt, UInt16.ofNat_toNat]

theorem port?_eq_none_iff {cs : List Char} : port? cs = none ↔ ∀ port, ¬ IsEnd cs port := by
  rw [Option.eq_none_iff_forall_ne_some]
  exact forall_congr' fun port => not_congr port?_eq_some_iff

theorem IsEnd.unique {cs : List Char} {port port' : Port} (h : IsEnd cs port)
    (h' : IsEnd cs port') : port = port' := by
  rw [← port?_eq_some_iff] at h h'
  exact Option.some.inj (h.symm.trans h')

/-! ## Cutting at the first colon -/

/-- A text has no colon, or a first one. -/
theorem cut_cases (cs : List Char) :
    ':' ∉ cs ∨ ∃ a b, cs = a ++ ':' :: b ∧ ':' ∉ a := by
  by_cases h : ':' ∈ cs
  · exact .inr (List.eq_append_cons_of_mem h)
  · exact .inl h

theorem written_one_iff {cs : List Char} (h : ':' ∉ cs) {first last : Port} :
    Written cs first last ↔ IsEnd cs first ∧ last = first := by
  constructor
  · rintro (⟨-, hend⟩ | ⟨-, -, -⟩)
    · exact ⟨hend, rfl⟩
    · exact absurd (List.mem_append_right _ List.mem_cons_self) h
  · rintro ⟨hend, rfl⟩
    exact .one h hend

theorem written_two_iff {a b : List Char} (h : ':' ∉ a) {first last : Port} :
    Written (a ++ ':' :: b) first last ↔ IsEnd a first ∧ IsEnd b last := by
  constructor
  · intro hw
    generalize hcs : a ++ ':' :: b = cs at hw
    rcases hw with ⟨hnone, -⟩ | @⟨a', b', _, _, ha', hfirst, hlast⟩
    · exact absurd (hcs ▸ List.mem_append_right a List.mem_cons_self) hnone
    · -- The first colon is where either reading has it.
      have hcut := cut_append h b
      rw [hcs, cut_append ha' b'] at hcut
      obtain ⟨rfl, rfl⟩ : a' = a ∧ b' = b := by simpa using hcut
      exact ⟨hfirst, hlast⟩
  · rintro ⟨hfirst, hlast⟩
    exact .two h hfirst hlast

theorem Written.unique {cs : List Char} {first last first' last' : Port}
    (h : Written cs first last) (h' : Written cs first' last') :
    first = first' ∧ last = last' := by
  obtain hnone | ⟨a, b, rfl, ha⟩ := cut_cases cs
  · rw [written_one_iff hnone] at h h'
    have hfirst := h.1.unique h'.1
    exact ⟨hfirst, by rw [h.2, h'.2, hfirst]⟩
  · rw [written_two_iff ha] at h h'
    exact ⟨h.1.unique h'.1, h.2.unique h'.2⟩

/-! ## Reading -/

theorem eq_of_ends {r r' : PortRange} (hfirst : r.first = r'.first) (hlast : r.last = r'.last) :
    r = r' := by
  rcases r with ⟨first, last, hle⟩
  rcases r' with ⟨first', last', hle'⟩
  obtain rfl : first = first' := hfirst
  obtain rfl : last = last' := hlast
  rfl

theorem between_reading {text : String} {first last : Port}
    (h : Written text.toList first last) : Reading text (between first last) := by
  rw [between]
  split
  · next hle => exact .range h
  · next hle => exact .inverted h (UInt16.not_le.1 hle)

/-- **Every text is read as it is written.** -/
theorem parse_reading (text : String) : Reading text (parse text) := by
  obtain hnone | ⟨a, b, hcs, ha⟩ := cut_cases text.toList
  · rw [parse, cut_of_not_mem hnone]
    dsimp only
    split
    · next port hport =>
      refine .range ?_
      exact .one hnone (port?_eq_some_iff.1 hport)
    · next hport =>
      refine .malformed fun first last hw => ?_
      exact port?_eq_none_iff.1 hport first ((written_one_iff hnone).1 hw).1
  · rw [parse, hcs, cut_append ha]
    dsimp only
    split
    · next first last hfirst hlast =>
      refine between_reading ?_
      rw [hcs]
      exact .two ha (port?_eq_some_iff.1 hfirst) (port?_eq_some_iff.1 hlast)
    · next hnot =>
      refine .malformed fun first last hw => ?_
      rw [hcs, written_two_iff ha] at hw
      exact hnot first last (port?_eq_some_iff.2 hw.1) (port?_eq_some_iff.2 hw.2)

/-- A text that is written in one way is read in one way. -/
theorem Reading.unique {text : String} {x y : Except Error PortRange} (h : Reading text x)
    (h' : Reading text y) : x = y := by
  rcases h with @⟨r, hw⟩ | @⟨first, last, hw, hlt⟩ | hnone
  · rcases h' with @⟨r', hw'⟩ | @⟨first', last', hw', hlt'⟩ | hnone'
    · obtain ⟨hfirst, hlast⟩ := hw.unique hw'
      rw [eq_of_ends hfirst hlast]
    · obtain ⟨rfl, rfl⟩ := hw.unique hw'
      exact absurd r.first_le_last (UInt16.not_le.2 hlt')
    · exact absurd hw (hnone' _ _)
  · rcases h' with @⟨r', hw'⟩ | @⟨first', last', hw', hlt'⟩ | hnone'
    · obtain ⟨rfl, rfl⟩ := hw.unique hw'
      exact absurd r'.first_le_last (UInt16.not_le.2 hlt)
    · obtain ⟨rfl, rfl⟩ := hw.unique hw'
      rfl
    · exact absurd hw (hnone' _ _)
  · rcases h' with ⟨hw'⟩ | ⟨hw', -⟩ | hnone'
    · exact absurd hw' (hnone _ _)
    · exact absurd hw' (hnone _ _)
    · rfl

/-- What a text is read as is what it reads. -/
theorem parse_eq_iff {text : String} {x : Except Error PortRange} :
    parse text = x ↔ Reading text x := by
  constructor
  · rintro rfl
    exact parse_reading text
  · intro h
    exact (parse_reading text).unique h

/-! ## Ranges in numbers -/

/-- **A value that gives a range**, and the text it stands for. -/
inductive Gives : Datum → String → Prop
  | port (n : Int) : Gives (.int n) (toString n)
  | text (text : String) : Gives (.text text) text
  | ends {entries : List (String × Datum)} {first last : Int} :
      Datum.lookup "first" entries = some (.int first) →
      Datum.lookup "last" entries = some (.int last) →
      Gives (.map entries) s!"{first}:{last}"

/-- How the fault of a text is told of a value that stands for it: numbers that are
no ports are not called misspelt. -/
def Error.toldOf : Datum → Error → Mismatch
  | .text _, e => .portRange e
  | _, .malformed _ => .rangeForm
  | _, e => .portRange e

/-- A number is a port where its digits are one. -/
theorem port?_toString (n : Int) :
    port? (toString n).toList = (Datum.asUInt16 (.int n)).toOption := by
  have hdigits : ∀ m, ∀ c ∈ Nat.toDigits 10 m, isBlank c = false := fun m c hc =>
    isBlank_of_isDigit (isDigit_of_mem_toDigits hc)
  rw [Text.toList_toString, Datum.asUInt16, Datum.asWord]
  split
  · next hn =>
    rw [port?, trim_of_forall (hdigits _), unsigned?_toDigits]
    dsimp only
    by_cases hle : n ≤ 65535
    · have hlt : n.toNat < 65536 := by omega
      rw [if_pos hlt, if_pos ⟨hn, hle⟩]
      rfl
    · have hlt : ¬ n.toNat < 65536 := by omega
      rw [if_neg hlt, if_neg fun h => hle h.2]
      rfl
  · next hn =>
    -- A minus sign is not read.
    have hminus : ∀ c ∈ '-' :: Nat.toDigits 10 (-n).toNat, isBlank c = false :=
      List.forall_mem_cons.2 ⟨by decide, hdigits _⟩
    rw [port?, trim_of_forall hminus, if_neg fun h => hn h.1]
    rfl

theorem colon_not_mem_toString (n : Int) : ':' ∉ (toString n).toList := by
  rw [Text.toList_toString]
  split
  · exact colon_not_mem_toDigits _
  · intro h
    rcases List.mem_cons.1 h with h | h
    · cases h
    · exact colon_not_mem_toDigits _ h

theorem toList_ends (first last : Int) :
    s!"{first}:{last}".toList = (toString first).toList ++ ':' :: (toString last).toList := by
  simp only [String.toList_append, List.append_assoc]
  rfl

/-- **A value that gives a range is read as the text it stands for.** -/
theorem Gives.asPortRange_eq {d : Datum} {text : String} (h : Gives d text) :
    d.asPortRange = (parse text).mapError (Error.toldOf d) := by
  rcases h with n | _ | @⟨entries, first, last, hfirst, hlast⟩
  · rw [Datum.asPortRange, parse, cut_of_not_mem (colon_not_mem_toString n)]
    dsimp only
    rw [port?_toString]
    rcases Datum.asUInt16 (.int n) with e | port <;> rfl
  · rfl
  · have hfound : (Datum.lookup "first" entries).map Datum.asUInt16 = some (Datum.asUInt16 (.int first)) ∧
        (Datum.lookup "last" entries).map Datum.asUInt16 = some (Datum.asUInt16 (.int last)) := by
      rw [hfirst, hlast]
      exact ⟨rfl, rfl⟩
    rw [Datum.asPortRange, hfound.1, hfound.2, parse, toList_ends,
      cut_append (colon_not_mem_toString first)]
    dsimp only
    rw [port?_toString, port?_toString]
    rcases Datum.asUInt16 (.int first) with e | first
    · rfl
    rcases Datum.asUInt16 (.int last) with e | last
    · rfl
    dsimp only [Except.toOption]
    rw [between]
    split <;> rfl

/-- Whole numbers alone are read as words. -/
theorem int_of_asUInt16 {d : Datum} {port : Port} (h : d.asUInt16 = .ok port) :
    ∃ n, d = .int n := by
  rcases d with _ | _ | n | _ | _ | _ | _ | _
  case int => exact ⟨n, rfl⟩
  all_goals cases h

/-- No other value gives a range. -/
theorem gives_of_asPortRange {d : Datum} {r : PortRange} (h : d.asPortRange = .ok r) :
    ∃ text, Gives d text := by
  rcases d with _ | _ | n | _ | text | _ | _ | entries
  case int => exact ⟨_, .port n⟩
  case text => exact ⟨_, .text text⟩
  case map =>
    rw [Datum.asPortRange] at h
    split at h
    · next first last hfirst hlast =>
      obtain ⟨d, hd, hfirst⟩ := Option.map_eq_some_iff.1 hfirst
      obtain ⟨d', hd', hlast⟩ := Option.map_eq_some_iff.1 hlast
      obtain ⟨n, rfl⟩ := int_of_asUInt16 hfirst
      obtain ⟨m, rfl⟩ := int_of_asUInt16 hlast
      exact ⟨_, .ends hd hd'⟩
    · cases h
  all_goals cases h

/-- **Ranges are read as they are written.** A text is cut at its first colon and is
a range exactly where each part is a port and the two are in order; it is inverted
exactly where both are ports and are not in order, and malformed otherwise. A value
in data gives the range of the text it stands for, or none where the text has none,
and there are no other values that give one. The text of a range is read back, and
so is the value it is written as. -/
theorem reads_as_written :
    (∀ text first last, (∃ r, parse text = .ok r ∧ r.first = first ∧ r.last = last) ↔
      Written text.toList first last ∧ first ≤ last) ∧
    (∀ text first last, parse text = .error (.inverted first last) ↔
      Written text.toList first last ∧ last < first) ∧
    (∀ text text', parse text = .error (.malformed text') ↔
      text' = text ∧ ∀ first last, ¬ Written text.toList first last) ∧
    (∀ d text, Gives d text → d.asPortRange = (parse text).mapError (Error.toldOf d)) ∧
    (∀ d r, d.asPortRange = .ok r →
      (∃ text, Gives d text ∧ parse text = .ok r) ∧ r.first ≤ r.last) ∧
    (∀ r, parse r.render = .ok r) ∧
    ∀ p : Params, ∃ entries d, p.toDatum = .map entries ∧
      Datum.lookup "port_range" entries = some d ∧ d.asPortRange = .ok p.portRange := by
  refine ⟨fun text first last => ?_, fun text first last => ?_, fun text text' => ?_,
    fun d text => Gives.asPortRange_eq, fun d r h => ⟨?_, r.first_le_last⟩,
    parse_render, fun p => ?_⟩
  · constructor
    · rintro ⟨r, hr, rfl, rfl⟩
      obtain ⟨hw⟩ := parse_eq_iff.1 hr
      exact ⟨hw, r.first_le_last⟩
    · rintro ⟨hw, hle⟩
      exact ⟨⟨first, last, hle⟩, parse_eq_iff.2 (.range hw), rfl, rfl⟩
  · rw [parse_eq_iff]
    constructor
    · rintro (_ | ⟨hw, hlt⟩ | _)
      exact ⟨hw, hlt⟩
    · rintro ⟨hw, hlt⟩
      exact .inverted hw hlt
  · rw [parse_eq_iff]
    constructor
    · rintro (_ | _ | hnone)
      exact ⟨rfl, hnone⟩
    · rintro ⟨rfl, hnone⟩
      exact .malformed hnone
  · obtain ⟨text, hgives⟩ := gives_of_asPortRange h
    rw [hgives.asPortRange_eq] at h
    rcases hp : parse text with e | r' <;> rw [hp] at h <;> cases h
    exact ⟨text, hgives, hp⟩
  · have hread : (Datum.text p.portRange.render).asPortRange = .ok p.portRange := by
      rw [(Gives.text _).asPortRange_eq, parse_render]
      rfl
    exact ⟨_, _, rfl, rfl, hread⟩

/-- A range with blanks, a plus sign and leading zeros, and a map out of order. -/
theorem spaced_reads_as_written :
    (∃ r, parse " +080:0443\n" = .ok r ∧ r.first = 80 ∧ r.last = 443) ∧
      Datum.asPortRange (.map [("last", .int 9), ("first", .int 10)]) =
        .error (.portRange (.inverted 10 9)) ∧
      ∃ text, Gives (.int 80) text ∧ parse text = .ok (single 80) := by
  obtain ⟨hrange, -, -, hdata, hordered, -, -⟩ := reads_as_written
  have hfirst : IsEnd " +080".toList 80 :=
    @IsEnd.digits [' '] ['+'] ['0', '8', '0'] [] 80 (List.all_eq_true.1 (by decide)) (.inr rfl)
      (by decide) (List.all_eq_true.1 (by decide)) (by decide) (List.all_eq_true.1 (by decide))
  have hlast : IsEnd "0443\n".toList 443 :=
    @IsEnd.digits [] [] ['0', '4', '4', '3'] ['\n'] 443 (List.all_eq_true.1 (by decide)) (.inl rfl)
      (by decide) (List.all_eq_true.1 (by decide)) (by decide) (List.all_eq_true.1 (by decide))
  have hwritten : Written " +080:0443\n".toList 80 443 := .two (by decide) hfirst hlast
  refine ⟨(hrange _ 80 443).2 ⟨hwritten, by decide⟩, ?_, (hordered (.int 80) (single 80) rfl).1⟩
  rw [hdata _ _ (.ends rfl rfl)]
  rfl

end PortRange

end DeviceLink
