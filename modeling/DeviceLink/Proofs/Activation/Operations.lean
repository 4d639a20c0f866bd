import DeviceLink.Proofs.Agent.Segments
import DeviceLink.Proofs.Url.Authority
import DeviceLink.Proofs.Url.Paths
/-!
# Activation — the paths of operations in a URL

An operation's path is written in a URL with everything escaped that a path may
not hold (`written`). What is not escaped has its meaning there: a mark that ends
a path, a backslash, a segment of dots. The path of a stop has none of them
(`carried_stopPath`), and that of a start has none where no option's text has
(`carried_startPath`).
-/

namespace DeviceLink

open Text

namespace Url

/-! ## What a path may hold -/

/-- What is not escaped in a path can be seen. -/
theorem visible_of_not_inPath {c : Char} (h : Percent.inPath c = false) :
    0x20 < c.toNat ∧ c.toNat < 0x7f := by
  have hspace : c ≠ ' ' := by
    rintro rfl
    exact absurd h (by decide)
  have hne : c.toNat ≠ 0x20 := fun heq => hspace (Char.toNat_inj.1 heq)
  simp only [Percent.inPath, Percent.inFragment, Percent.isControl, Bool.or_eq_false_iff,
    decide_eq_false_iff_not] at h
  omega

theorem isEdge_of_not_inPath {c : Char} (h : Percent.inPath c = false) : isEdge c = false := by
  have hvisible := visible_of_not_inPath h
  rw [isEdge, decide_eq_false_iff_not]
  omega

theorem isSkipped_of_not_inPath {c : Char} (h : Percent.inPath c = false) :
    isSkipped c = false := by
  rw [Bool.eq_false_iff]
  intro hskip
  simp only [isSkipped, Bool.or_eq_true, beq_iff_eq] at hskip
  rcases hskip with (rfl | rfl) | rfl <;> exact absurd h (by decide)

/-- Without escapes, only a dot is one. -/
theorem isDot_iff {s : List Char} (h : ∀ c ∈ s, Percent.inPath c = false ∧ c ≠ '%') :
    isDot s = true ↔ s = ['.'] := by
  have hescape : s.map Char.toLower ≠ "%2e".toList := by
    have htext : "%2e".toList = ['%', '2', 'e'] := rfl
    rw [htext]
    rcases s with _ | ⟨c, s⟩
    · exact (List.cons_ne_nil _ _).symm
    · intro heq
      injection heq with hlower _
      have hc := h c List.mem_cons_self
      have hascii : c.toNat < 128 := Nat.lt_trans (visible_of_not_inPath hc.1).2 (by decide)
      have hall := ascii_of_all (p := fun c => c.toLower != '%' || c == '%') (by decide)
        hascii
      simp [hlower, hc.2] at hall
  rw [isDot, Bool.or_eq_true, beq_iff_eq, beq_iff_eq, or_iff_left hescape]

/-- And only two dots are their double. -/
theorem isPlain_of_ne {s : List Char} (h : ∀ c ∈ s, Percent.inPath c = false ∧ c ≠ '%')
    (hdot : s ≠ ['.']) (hparent : s ≠ ['.', '.']) : IsPlain s := by
  refine ⟨Bool.eq_false_iff.2 (mt (isDot_iff h).1 hdot), Bool.eq_false_iff.2 fun hup => ?_⟩
  rw [isParent.eq_def] at hup
  split at hup
  · next r =>
    rw [isDot_iff fun c hc => h c (List.mem_cons_of_mem _ hc)] at hup
    exact hparent (by rw [hup])
  · next hother =>
    rw [Bool.and_eq_true, isDot_iff fun c hc => h c (List.mem_of_mem_take hc)] at hup
    rcases s with _ | ⟨c, s⟩
    · exact absurd hup.1.symm (List.cons_ne_nil _ _)
    · injection hup.1 with hc _
      exact hother s (by rw [hc])

end Url

namespace Activator

open Url

/-! ## Operations -/

/-- The paths that requests are made for. -/
def IsOperation (path : String) : Prop := path = Agent.stopPath ∨ ∃ p, path = Agent.startPath p

/-- A path as it is written in a URL. -/
def written (path : String) : List Char := Percent.encode Percent.inPath (trailing path.toList)

/-- **A path that a URL carries as it is**: no mark in it starts something else, no
backslash divides it, and no dots in it climb. -/
structure Carried (path : String) : Prop where
  unmarked : ∀ c ∈ path.toList, c ≠ '?' ∧ c ≠ '#' ∧ c ≠ '\\'
  undotted : ∀ s ∈ Domain.splitOn (· == '/') (written path), IsPlain s

/-- Where nothing in it is escaped, a path is written as it is. -/
theorem written_eq_self {path : String} (h : ∀ c ∈ path.toList, Percent.inPath c = false) :
    written path = path.toList := by
  have htrailing : trailing path.toList = path.toList := by
    have hends : path.toList.reverse.dropWhile isEdge = path.toList.reverse := by
      rcases hreverse : path.toList.reverse with _ | ⟨c, r⟩
      · rfl
      · have hmem : c ∈ path.toList :=
          List.mem_reverse.1 (by rw [hreverse]; exact List.mem_cons_self)
        rw [List.dropWhile_cons_of_neg]
        rw [isEdge_of_not_inPath (h c hmem)]
        exact Bool.false_ne_true
    rw [trailing, hends, List.reverse_reverse, List.filter_eq_self]
    intro c hc
    rw [isSkipped_of_not_inPath (h c hc)]
    rfl
  rw [written, htrailing, Percent.encode_eq_self h]

theorem mem_of_mem_trailing {c : Char} {cs : List Char} (hc : c ∈ trailing cs) : c ∈ cs := by
  have hmem := (List.mem_filter.1 hc).1
  exact List.mem_reverse.1 ((List.dropWhile_suffix _).subset (List.mem_reverse.1 hmem))

/-- What the operations are named by. -/
def names : List (List Char) := ["startScrcpy".toList, "stopScrcpy".toList]

theorem IsOperation.toList_eq {path : String} (h : IsOperation path) :
    ∃ name ∈ names, ∃ r, path.toList = name ++ '/' :: r := by
  rcases h with rfl | ⟨p, rfl⟩
  · exact ⟨"stopScrcpy".toList, List.mem_cons_of_mem _ List.mem_cons_self, [], rfl⟩
  · refine ⟨"startScrcpy".toList, List.mem_cons_self,
      ("/".intercalate (Agent.arguments p true)).toList, ?_⟩
    rw [Agent.startPath, String.toList_append]
    rfl

theorem encode_trailing {name : List Char} (hkept : name.filter (!isSkipped ·) = name)
    (hsame : Percent.encode Percent.inPath name = name) (r : List Char) :
    Percent.encode Percent.inPath (trailing (name ++ '/' :: r)) =
      name ++ '/' :: Percent.encode Percent.inPath (trailing r) := by
  rw [trailing_stop, hkept, Percent.encode_append, hsame]
  rfl

/-- An operation is written with its name first. -/
theorem IsOperation.written_eq {path : String} (h : IsOperation path) :
    ∃ name ∈ names, ∃ w, written path = name ++ '/' :: w := by
  obtain ⟨name, hname, r, hpath⟩ := h.toList_eq
  refine ⟨name, hname, Percent.encode Percent.inPath (trailing r), ?_⟩
  rw [written, hpath]
  rcases List.mem_cons.1 hname with rfl | hname
  · exact encode_trailing isHostlike_start.kept (by decide) r
  · rw [List.mem_singleton] at hname
    subst hname
    exact encode_trailing isHostlike_stop.kept (by decide) r

/-- So its first segment is that name. -/
theorem IsOperation.head?_splitOn {path : String} (h : IsOperation path) :
    ∃ name ∈ names, (Domain.splitOn (· == '/') (written path)).head? = some name := by
  obtain ⟨name, hname, w, hwritten⟩ := h.written_eq
  have hslash : ∀ c ∈ name, (c == '/') = false := by
    have hall : (names.all fun name => name.all fun c => !(c == '/')) = true := by decide
    intro c hc
    simpa using List.all_eq_true.1 (List.all_eq_true.1 hall name hname) c hc
  refine ⟨name, hname, ?_⟩
  rw [hwritten, Domain.splitOn_append_cons rfl, Domain.splitOn_eq_singleton hslash]
  rfl

/-! ## Texts that stand for themselves -/

/-- Whether a character is neither escaped nor part of an escape, and divides nothing. -/
def isClear (c : Char) : Bool := !Percent.inPath c && c != '%' && c != '\\'

theorem isClear_iff {c : Char} :
    isClear c = true ↔ Percent.inPath c = false ∧ c ≠ '%' ∧ c ≠ '\\' := by
  simp [isClear, and_assoc]

/-- **A text that stands for itself in a path**, dots that climb not among its segments. -/
structure IsBare (text : String) : Prop where
  clear : ∀ c ∈ text.toList, isClear c = true
  undotted : ∀ s ∈ Agent.segments text, s ≠ "." ∧ s ≠ ".."

theorem IsBare.carried {path : String} (h : IsBare path) : Carried path := by
  have hclear : ∀ c ∈ path.toList, Percent.inPath c = false ∧ c ≠ '%' ∧ c ≠ '\\' := fun c hc =>
    isClear_iff.1 (h.clear c hc)
  have hwritten : written path = path.toList := written_eq_self fun c hc => (hclear c hc).1
  refine ⟨fun c hc => ⟨?_, ?_, (hclear c hc).2.2⟩, fun s hs => ?_⟩
  · rintro rfl
    exact absurd (hclear _ hc).1 (by decide)
  · rintro rfl
    exact absurd (hclear _ hc).1 (by decide)
  · rw [hwritten] at hs
    have hsegment : String.ofList s ∈ Agent.segments path := by
      rw [Agent.segments, List.splitOn_eq_splitOnP, ← Domain.splitOn_eq]
      exact List.mem_map_of_mem hs
    obtain ⟨hdot, hparent⟩ := h.undotted _ hsegment
    refine isPlain_of_ne (fun c hc => ?_) (fun heq => ?_) fun heq => ?_
    · have hfree := hclear c (Domain.mem_of_mem_splitOn hs hc).1
      exact ⟨hfree.1, hfree.2.1⟩
    · exact hdot (congrArg String.ofList heq)
    · exact hparent (congrArg String.ofList heq)

theorem carried_stopPath : Carried Agent.stopPath := by
  have hsegments : Agent.segments Agent.stopPath = ["stopScrcpy", ""] := by decide
  have hundotted : ∀ s ∈ ["stopScrcpy", ""], s ≠ "." ∧ s ≠ ".." := by simp
  rw [← hsegments] at hundotted
  exact IsBare.carried ⟨List.all_eq_true.1 (by decide), hundotted⟩

/-! ### Arguments -/

/-- A text of one segment. -/
theorem isBare_of_not_mem {text : String} (hclear : ∀ c ∈ text.toList, isClear c = true)
    (hslash : '/' ∉ text.toList) (hdot : text ≠ ".") (hparent : text ≠ "..") : IsBare text := by
  refine ⟨hclear, fun s hs => ?_⟩
  rw [Agent.segments_of_not_mem hslash, List.mem_singleton] at hs
  rw [hs]
  exact ⟨hdot, hparent⟩

theorem isBare_version : IsBare Agent.protocolVersion :=
  isBare_of_not_mem (List.all_eq_true.1 (by decide)) Agent.unmarked_version.slash (by decide)
    (by decide)

theorem isClear_of_isWordPart {c : Char} (h : Agent.isWordPart c = true) :
    isClear c = true ∧ c ≠ '.' := by
  have hpart : isSchemePart c = true := by
    rw [isSchemePart, Bool.or_eq_true, Bool.or_eq_true, Bool.or_eq_true]
    rw [Agent.isWordPart, Bool.or_eq_true] at h
    rcases h with halphanum | hhyphen
    · exact .inl (.inl (.inl halphanum))
    · exact .inl (.inr hhyphen)
  have hall := ascii_of_all (p := fun c => !Agent.isWordPart c || (isClear c && c != '.'))
    (by decide) (toNat_lt_of_isSchemePart hpart)
  rw [h, Bool.not_true, Bool.false_or, Bool.and_eq_true, bne_iff_ne] at hall
  exact hall

theorem isBare_word {text : String} (h : Agent.IsWord text) : IsBare text := by
  have hdot : '.' ∉ text.toList := fun hmem => (isClear_of_isWordPart (h '.' hmem)).2 rfl
  refine isBare_of_not_mem (fun c hc => (isClear_of_isWordPart (h c hc)).1) h.unmarked.slash ?_ ?_
  · rintro rfl
    exact hdot (by decide)
  · rintro rfl
    exact hdot (by decide)

/-- **The path of a start stands for itself** where its free texts do. -/
theorem isBare_startPath {p : Params} (h : ∀ t ∈ Agent.texts p, IsBare t) :
    IsBare (Agent.startPath p) := by
  have hargs : ∀ a ∈ Agent.arguments p true, IsBare a := by
    intro a ha
    rcases Agent.argument_cases ha with rfl | hword | htext
    · exact isBare_version
    · exact isBare_word hword
    · exact h a htext
  have hfirst : ("startScrcpy/".toList.all isClear) = true := by decide
  refine ⟨fun c hc => ?_, fun s hs => ?_⟩
  · rw [Agent.toList_startPath, List.mem_append] at hc
    rcases hc with hc | hc
    · exact List.all_eq_true.1 hfirst c hc
    · by_cases hslash : c = '/'
      · rw [hslash]
        decide
      · obtain ⟨part, hpart, hmem⟩ := (mem_intercalate hslash _).1 hc
        obtain ⟨a, ha, rfl⟩ := List.mem_map.1 hpart
        exact (hargs a ha).clear c hmem
  · rw [Agent.segments_startPath, List.mem_cons] at hs
    rcases hs with rfl | hs
    · decide
    · obtain ⟨a, ha, hmem⟩ := List.mem_flatMap.1 hs
      exact (hargs a ha).undotted s hmem

theorem carried_startPath {p : Params} (h : ∀ t ∈ Agent.texts p, IsBare t) :
    Carried (Agent.startPath p) :=
  (isBare_startPath h).carried

end Activator

end DeviceLink
