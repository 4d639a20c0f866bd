import DeviceLink.Proofs.Text.Utf8
import DeviceLink.Proofs.Url.Addresses
import DeviceLink.Proofs.Url.Escapes
import DeviceLink.Url.Parser
/-!
# URLs — hosts are read back

A host that was read stands in a URL in a form that is read as the same host
(`settled_of_readHost`). A name is in the form that reading brings it into: in
lower case, in ASCII, without escapes (`Domain.parse?_self`). An address of
version four is a name of digits, so it is read as a name first. One of version
six stands in brackets, where its colons do not end it.
-/

namespace DeviceLink

open Text

/-! ## Names -/

namespace Domain

theorem isControl_of_isForbidden {c : Char} (h : isForbidden c = false) :
    Percent.isControl c = false := by
  rw [isForbidden, Bool.or_eq_false_iff] at h
  exact h.1

/-- What may stand in a name is ASCII. -/
theorem toNat_lt_of_isForbidden {c : Char} (h : isForbidden c = false) : c.toNat < 0x7f := by
  have hcontrol := isControl_of_isForbidden h
  simp only [Percent.isControl, Bool.or_eq_false_iff, decide_eq_false_iff_not] at hcontrol
  omega

theorem isIgnored_eq_false {c : Char} (h : c.toNat < 0x7f) : isIgnored c = false := by
  simp only [isIgnored, Bool.or_eq_false_iff, Bool.and_eq_false_iff, decide_eq_false_iff_not]
  constructor
  · simp
    omega
  · omega

theorem fold_eq_toLower {c : Char} (h : c.toNat < 0x7f) : fold c = c.toLower := by
  have hascii : c.toNat < 0x80 := by omega
  simp only [fold, if_pos hascii]

/-- What may stand in a name, the dots included, as it stands there. -/
theorem of_mem_name {name : List Char} (h : (labels name).all isLabel = true) {c : Char}
    (hc : c ∈ name) : isForbidden c = false ∧ c.toLower = c := by
  by_cases hdot : c = '.'
  · subst hdot
    exact ⟨by decide, by decide⟩
  · rw [← intercalate_labels name, mem_intercalate hdot] at hc
    obtain ⟨label, hlabel, hmem⟩ := hc
    have hgood := List.all_eq_true.1 h label hlabel
    rw [isLabel.eq_def, Bool.and_eq_true, Bool.and_eq_true, Bool.not_eq_true'] at hgood
    refine ⟨Bool.eq_false_iff.2 ?_, ?_⟩
    · exact List.any_eq_false.1 hgood.1.1 c hmem
    · simpa using List.all_eq_true.1 hgood.1.2 c hmem

theorem asciiLabel_eq_self {label : List Char} (h : ∀ c ∈ label, c.toNat < 0x7f) :
    asciiLabel label = label := by
  have hall : (label.all fun c => c.toNat < 0x80) = true := by
    rw [List.all_eq_true]
    intro c hc
    have hlt := h c hc
    exact decide_eq_true (by omega)
  rw [asciiLabel, hall, if_pos rfl]

/-- **A name is read as itself.** -/
theorem parse?_self {name : List Char} (h : (labels name).all isLabel = true) :
    parse? name = some name := by
  have hascii : ∀ c ∈ name, c.toNat < 0x7f := fun c hc =>
    toNat_lt_of_isForbidden (of_mem_name h hc).1
  have hescape : '%' ∉ name := fun hmem => absurd (of_mem_name h hmem).1 (by decide)
  have hshown : name.filter (!isIgnored ·) = name := by
    rw [List.filter_eq_self]
    intro c hc
    rw [isIgnored_eq_false (hascii c hc)]
    rfl
  have hfolded : name.map fold = name := by
    refine (List.map_congr_left fun c hc => ?_).trans (List.map_id name)
    rw [fold_eq_toLower (hascii c hc), (of_mem_name h hc).2]
    rfl
  have hlabels : (labels name).map asciiLabel = labels name := by
    refine (List.map_congr_left fun label hlabel => ?_).trans (List.map_id _)
    rw [asciiLabel_eq_self fun c hc => hascii c (mem_of_mem_splitOn hlabel hc).1]
    rfl
  rw [parse?, Percent.decode_eq_encode hescape, Utf8.decode?_encode, Option.bind_some, ofText?]
  simp only [hshown, hfolded, hlabels, intercalate_labels, h, if_true]

/-- What is read as a name is one. -/
theorem all_isLabel_of_parse? {cs name : List Char} (h : parse? cs = some name) :
    (labels name).all isLabel = true := by
  obtain ⟨shown, -, h⟩ := Option.bind_eq_some_iff.1 h
  simp only [ofText?] at h
  split at h
  · next hall =>
    injection h with h
    rw [← h, hall]
  · exact absurd h.symm (Option.some_ne_none name)

/-! ### Addresses as names -/

theorem isLabel_of_digits {label : List Char} (h : ∀ c ∈ label, c.isDigit = true) :
    isLabel label = true := by
  have hforbidden : label.any isForbidden = false := by
    rw [List.any_eq_false]
    intro c hc
    simpa using isDigit_of_all (p := (!isForbidden ·)) (by decide) (h c hc)
  have hlower : (label.all fun c => c.toLower == c) = true := by
    rw [List.all_eq_true]
    intro c hc
    exact isDigit_of_all (p := fun c => c.toLower == c) (by decide) (h c hc)
  rw [isLabel.eq_def, hforbidden, hlower, Bool.not_false, Bool.true_and, Bool.true_and]
  split
  · exact absurd (h 'x' List.mem_cons_self) (by decide)
  · rfl

theorem all_isLabel_render (a : UInt32) : (labels (Ipv4.render a)).all isLabel = true := by
  rw [Ipv4.labels_render, List.all_eq_true]
  intro label hlabel
  obtain ⟨n, -, rfl⟩ := List.mem_map.1 hlabel
  exact isLabel_of_digits fun c => isDigit_of_mem_toDigits

end Domain

namespace Url

/-! ## Where a host ends -/

/-- What may follow a host: a port, or the end of the authority. -/
def EndsHost (special : Bool) (z : List Char) : Prop :=
  ∀ c ∈ z.head?, endsAuthority special c = true ∨ c = ':'

theorem hostText_ends {special : Bool} {z : List Char} (h : EndsHost special z) :
    hostText special false z = ([], z) := by
  rcases z with _ | ⟨c, z⟩
  · rfl
  · have hends : (endsAuthority special c || c == ':' && !false) = true := by
      rcases h c rfl with hc | rfl
      · rw [hc, Bool.true_or]
      · rw [beq_self_eq_true, Bool.not_false, Bool.and_true, Bool.or_true]
    rw [hostText, if_pos hends]

theorem ne_of_not_breaker {c d : Char} (hc : isHostBreaker c = false)
    (hd : isHostBreaker d = true) : c ≠ d := by
  rintro rfl
  rw [hd] at hc
  exact Bool.noConfusion hc

/-- What ends no authority of a special scheme ends none. -/
theorem endsAuthority_eq_false {c : Char} (h : endsAuthority true c = false) (special : Bool) :
    endsAuthority special c = false := by
  simp only [endsAuthority, Bool.true_and, Bool.or_eq_false_iff] at h
  simp [endsAuthority, h]

theorem endsAuthority_of_not_breaker (special : Bool) {c : Char} (h : isHostBreaker c = false) :
    endsAuthority special c = false := by
  have hslash : c ≠ '/' := ne_of_not_breaker h (by decide)
  have hquery : c ≠ '?' := ne_of_not_breaker h (by decide)
  have hfragment : c ≠ '#' := ne_of_not_breaker h (by decide)
  have hback : c ≠ '\\' := ne_of_not_breaker h (by decide)
  simp [endsAuthority, hslash, hquery, hfragment, hback]

/-- A host without anything that breaks one is read to its end. -/
theorem hostText_unbroken {special : Bool} {t z : List Char}
    (ht : ∀ c ∈ t, isHostBreaker c = false) (hz : EndsHost special z) :
    hostText special false (t ++ z) = (t, z) := by
  induction t with
  | nil => exact hostText_ends hz
  | cons c t ih =>
      rw [List.forall_mem_cons] at ht
      have hcolon : (c == ':') = false := beq_eq_false_iff_ne.2 (ne_of_not_breaker ht.1 (by decide))
      have hopen : (c == '[') = false := beq_eq_false_iff_ne.2 (ne_of_not_breaker ht.1 (by decide))
      rw [List.cons_append, hostText, endsAuthority_of_not_breaker special ht.1, hcolon, hopen]
      simp [ih ht.2]

/-- Between brackets a colon does not end a host. -/
theorem hostText_inside {special : Bool} {t z : List Char}
    (ht : ∀ c ∈ t, endsAuthority special c = false ∧ c ≠ ']') (hz : EndsHost special z) :
    hostText special true (t ++ ']' :: z) = (t ++ [']'], z) := by
  induction t with
  | nil =>
      have hclose : endsAuthority special ']' = false := by cases special <;> rfl
      rw [List.nil_append, hostText, hclose]
      simp [hostText_ends hz]
  | cons c t ih =>
      rw [List.forall_mem_cons] at ht
      have hinside : (c == '[' || (true && c != ']')) = true := by
        simp [ht.1.2]
      rw [List.cons_append, hostText, hinside, ih ht.2, ht.1.1]
      simp

/-! ## Hosts -/

/-- **A host that is read back** from where it stands in a URL. -/
structure Settled (special : Bool) (h : Host) : Prop where
  /-- It is not passed over. -/
  nonempty : h.render ≠ []
  /-- Nothing in it ends an authority or a user's part, or is skipped. -/
  free : ∀ c ∈ h.render, endsAuthority special c = false ∧ c ≠ '@' ∧ isSkipped c = false
  /-- It is read to its end and no further. -/
  ends : ∀ z, EndsHost special z → hostText special false (h.render ++ z) = (h.render, z)
  /-- It is taken for no drive. -/
  undriven : isDrive h.render = false
  read : readHost special h.render = .ok h

theorem bracketed?_unbroken {t : List Char} (h : ∀ c ∈ t, isHostBreaker c = false) :
    bracketed? t = none := by
  rcases t with _ | ⟨c, t⟩
  · rfl
  · have hopen : c ≠ '[' := ne_of_not_breaker (h c List.mem_cons_self) (by decide)
    rw [bracketed?]
    intro cs heq
    injection heq with hc _
    exact hopen hc

theorem isDrive_unbroken {t : List Char} (h : ∀ c ∈ t, isHostBreaker c = false) :
    isDrive t = false := by
  unfold isDrive
  split
  · next c d =>
    have hd := h d (List.mem_cons_of_mem c List.mem_cons_self)
    have hcolon : d ≠ ':' := ne_of_not_breaker hd (by decide)
    have hbar : d ≠ '|' := ne_of_not_breaker hd (by decide)
    simp [hcolon, hbar]
  · rfl

/-- A host without anything that breaks one. -/
theorem settled_unbroken {special : Bool} {h : Host} (hne : h.render ≠ [])
    (hfree : ∀ c ∈ h.render, isHostBreaker c = false)
    (hread : readHost special h.render = .ok h) : Settled special h where
  nonempty := hne
  free c hc := by
    have hbreak := hfree c hc
    refine ⟨endsAuthority_of_not_breaker special hbreak, ne_of_not_breaker hbreak (by decide), ?_⟩
    rw [isHostBreaker, Bool.or_eq_false_iff, Bool.or_eq_false_iff] at hbreak
    exact hbreak.1.2
  ends z hz := hostText_unbroken hfree hz
  undriven := isDrive_unbroken hfree
  read := hread

theorem isHostBreaker_of_isForbidden {c : Char} (h : Domain.isForbidden c = false) :
    isHostBreaker c = false := by
  rw [Bool.eq_false_iff]
  intro hbreak
  have hskipped : ∀ d, isSkipped d = true → Domain.isForbidden d = true := by
    intro d hd
    simp only [isSkipped, Bool.or_eq_true, beq_iff_eq] at hd
    rcases hd with (rfl | rfl) | rfl <;> decide
  have hmarks : (" #/:<>?@[\\]^|".toList.all Domain.isForbidden) = true := by decide
  simp only [isHostBreaker, Bool.or_eq_true, beq_iff_eq] at hbreak
  have hforbidden : Domain.isForbidden c = true := by
    rcases hbreak with (rfl | hskip) | hmark
    · decide
    · exact hskipped c hskip
    · exact List.all_eq_true.1 hmarks c (List.contains_iff_mem.1 hmark)
  rw [hforbidden] at h
  exact Bool.noConfusion h

theorem not_breaker_of_name {name : List Char}
    (h : (Domain.labels name).all Domain.isLabel = true) :
    ∀ c ∈ name, isHostBreaker c = false := fun _ hc =>
  isHostBreaker_of_isForbidden (Domain.of_mem_name h hc).1

/-- How a name is read where the scheme is special. -/
theorem readHost_name {name : List Char} (h : (Domain.labels name).all Domain.isLabel = true)
    (hne : name ≠ []) :
    readHost true name =
      if Ipv4.endsInNumber name then ((Ipv4.parse? name).map Host.ipv4).elim (.error .ipv4) .ok
      else .ok (.domain name) := by
  rw [readHost, bracketed?_unbroken (not_breaker_of_name h), Domain.parse?_self h]
  rcases name with _ | ⟨c, name⟩
  · exact absurd rfl hne
  · rfl

theorem settled_domain {name : List Char} (h : (Domain.labels name).all Domain.isLabel = true)
    (hne : name ≠ []) (hnumber : Ipv4.endsInNumber name = false) :
    Settled true (.domain name) := by
  refine settled_unbroken hne (not_breaker_of_name h) ?_
  have hread := readHost_name h hne
  rw [hnumber, if_neg Bool.false_ne_true] at hread
  exact hread

theorem settled_ipv4 (a : UInt32) : Settled true (.ipv4 a) := by
  have hname := Domain.all_isLabel_render a
  have hne : Ipv4.render a ≠ [] := by
    intro hnil
    have hends := Ipv4.endsInNumber_render a
    rw [hnil] at hends
    exact absurd hends (by decide)
  refine settled_unbroken hne (not_breaker_of_name hname) ?_
  have hread := readHost_name hname hne
  rw [Ipv4.endsInNumber_render, if_pos rfl, Ipv4.parse?_render] at hread
  exact hread

theorem settled_ipv6 (special : Bool) {ws : List UInt16} (h : ws.length = 8) :
    Settled special (.ipv6 ws) := by
  have hrender : (Host.ipv6 ws).render = '[' :: (Ipv6.render ws ++ [']']) := rfl
  have hfree : ∀ c ∈ Ipv6.render ws,
      endsAuthority special c = false ∧ c ≠ '@' ∧ c ≠ ']' ∧ isSkipped c = false := by
    intro c hc
    have hall := Ipv6.render_of_all
      (p := fun c => !endsAuthority true c && c != '@' && c != ']' && !isSkipped c)
      (by decide) (by decide) hc
    simp only [Bool.and_eq_true, Bool.not_eq_true', bne_iff_ne, ne_eq] at hall
    exact ⟨endsAuthority_eq_false hall.1.1.1 special, hall.1.1.2, hall.1.2, hall.2⟩
  refine ⟨by rw [hrender]; exact List.cons_ne_nil _ _, ?_, ?_, ?_, ?_⟩
  · intro c hc
    rw [hrender, List.mem_cons, List.mem_append, List.mem_singleton] at hc
    rcases hc with rfl | hc | rfl
    · cases special <;> decide
    · exact ⟨(hfree c hc).1, (hfree c hc).2.1, (hfree c hc).2.2.2⟩
    · cases special <;> decide
  · intro z hz
    have hinside := hostText_inside (t := Ipv6.render ws)
      (fun c hc => ⟨(hfree c hc).1, (hfree c hc).2.2.1⟩) hz
    have hopen : endsAuthority special '[' = false := by cases special <;> rfl
    rw [hrender, List.cons_append, List.append_assoc, List.singleton_append, hostText, hopen]
    simp [hinside]
  · rw [hrender, isDrive.eq_def]
    split
    · next heq =>
      injection heq with hc _
      rw [← hc]
      rfl
    · rfl
  · rw [hrender, readHost, bracketed?]
    simp [Ipv6.parse?_render h]

theorem settled_plain {cs : List Char} (hne : cs ≠ []) (h : cs.any isHostBreaker = false) :
    Settled false (.plain (Percent.encode Percent.isControl cs)) := by
  have hfree : ∀ c ∈ Percent.encode Percent.isControl cs, isHostBreaker c = false := fun c hc =>
    Percent.encode_free (by decide) (fun d hd _ => Bool.eq_false_iff.2 (List.any_eq_false.1 h d hd))
      hc
  refine settled_unbroken (Percent.encode_ne_nil hne) hfree ?_
  have hany : (Percent.encode Percent.isControl cs).any isHostBreaker = false := by
    rw [List.any_eq_false]
    intro c hc
    rw [hfree c hc]
    exact Bool.false_ne_true
  change readHost false (Percent.encode Percent.isControl cs) = _
  rw [readHost, bracketed?_unbroken hfree]
  dsimp only
  rw [if_neg Bool.false_ne_true, hany, if_neg Bool.false_ne_true,
    Percent.encode_encode (by decide)]

theorem eq_ipv6_of_bracketed? {cs : List Char} {h : Host} (hread : bracketed? cs = some (.ok h)) :
    ∃ ws : List UInt16, ws.length = 8 ∧ h = .ipv6 ws := by
  unfold bracketed? at hread
  split at hread
  · injection hread with hread
    split at hread
    · rcases hwords : Ipv6.parse? (List.dropLast _) with _ | ws
      · rw [hwords] at hread
        cases hread
      · rw [hwords] at hread
        injection hread with hread
        exact ⟨ws, Ipv6.length_of_parse? hwords, hread.symm⟩
    · cases hread
  · cases hread

/-- **What is read as a host** is read back. -/
theorem settled_of_readHost {special : Bool} {cs : List Char} {h : Host} (hne : cs ≠ [])
    (hread : readHost special cs = .ok h) : Settled special h := by
  rw [readHost] at hread
  split at hread
  · next found hfound =>
    rw [hread] at hfound
    obtain ⟨ws, hlength, rfl⟩ := eq_ipv6_of_bracketed? hfound
    exact settled_ipv6 special hlength
  · cases special with
    | true =>
      rw [if_pos rfl] at hread
      split at hread
      · cases hread
      · cases hread
      · next name hnil hname =>
        have hlabels := Domain.all_isLabel_of_parse? hname
        split at hread
        · rcases haddress : Ipv4.parse? name with _ | a
          · rw [haddress] at hread
            cases hread
          · rw [haddress] at hread
            injection hread with hread
            rw [← hread]
            exact settled_ipv4 a
        · next hnumber =>
          injection hread with hread
          rw [← hread]
          exact settled_domain hlabels hnil
            (Bool.eq_false_iff.2 hnumber)
    | false =>
      rw [if_neg Bool.false_ne_true] at hread
      split at hread
      · cases hread
      · next hbreak =>
        injection hread with hread
        rw [← hread]
        exact settled_plain hne (Bool.eq_false_iff.2 hbreak)

end Url

end DeviceLink
