import DeviceLink.Proofs.Text.Stops
import DeviceLink.Proofs.Url.Escapes
import DeviceLink.Proofs.Url.Pieces
import DeviceLink.Url.Parser
import Mathlib.Data.List.DropRight
/-!
# URLs — paths are read back

The segments of a path are read so that reading them again changes nothing: no
dot is left among them, and nothing that is escaped or would divide them
(`cleared_segments`). So a path is read back (`segments_render`), and so is
one with other segments put where its last, empty ones were (`segments_below`).
-/

namespace DeviceLink

open Text

namespace Url

/-- Whether a character divides segments. -/
def isSlash (family : Family) (c : Char) : Bool := c == '/' || (family.isSpecial && c == '\\')

/-- A segment that stands for itself. -/
def IsPlain (s : List Char) : Prop := isDot s = false ∧ isParent s = false

theorem isPlain_nil : IsPlain [] := ⟨rfl, rfl⟩

/-! ## Climbing -/

theorem climb_nil (above : List (List Char)) : climb above [] = above.reverse := rfl

theorem climb_cons (above : List (List Char)) (s : List Char) (l : List (List Char)) :
    climb above (s :: l) =
      if isParent s then climb (if l.isEmpty then [] :: above.drop 1 else above.drop 1) l
      else if isDot s then climb (if l.isEmpty then [] :: above else above) l
      else climb (s :: above) l :=
  rfl

/-- Segments that stand for themselves are kept. -/
theorem climb_plain {l : List (List Char)} (h : ∀ s ∈ l, IsPlain s) (above : List (List Char)) :
    climb above l = above.reverse ++ l := by
  induction l generalizing above with
  | nil => rw [climb_nil, List.append_nil]
  | cons s l ih =>
      rw [List.forall_mem_cons] at h
      rw [climb_cons, h.1.2, h.1.1, if_neg Bool.false_ne_true, if_neg Bool.false_ne_true, ih h.2,
        List.reverse_cons, List.append_assoc, List.singleton_append]

/-- What holds of the segments above, of the empty one and of each new one that stands
for itself holds of all that are left. -/
theorem forall_climb {P : List Char → Prop} (hnil : P []) {l above : List (List Char)}
    (habove : ∀ s ∈ above, P s) (hl : ∀ s ∈ l, IsPlain s → P s) : ∀ s ∈ climb above l, P s := by
  induction l generalizing above with
  | nil =>
      intro s hs
      rw [climb_nil, List.mem_reverse] at hs
      exact habove s hs
  | cons t l ih =>
      rw [List.forall_mem_cons] at hl
      have hdrop : ∀ s ∈ above.drop 1, P s := fun s hs => habove s (List.mem_of_mem_drop hs)
      rw [climb_cons]
      split
      · refine ih ?_ hl.2
        split
        · exact List.forall_mem_cons.2 ⟨hnil, hdrop⟩
        · exact hdrop
      next hparent =>
        split
        · refine ih ?_ hl.2
          split
          · exact List.forall_mem_cons.2 ⟨hnil, habove⟩
          · exact habove
        next hdot =>
          have ht := hl.1 ⟨Bool.eq_false_iff.2 hdot, Bool.eq_false_iff.2 hparent⟩
          exact ih (List.forall_mem_cons.2 ⟨ht, habove⟩) hl.2

theorem climb_ne_nil {l : List (List Char)} (h : l ≠ []) (above : List (List Char)) :
    climb above l ≠ [] := by
  induction l generalizing above with
  | nil => exact absurd rfl h
  | cons t l ih =>
      -- With nothing left to climb over, the last segment is kept, or an empty one for it.
      have hlast : ∀ above : List (List Char), above ≠ [] → climb above l ≠ [] := by
        intro above habove
        rcases l with _ | ⟨s, l⟩
        · rw [climb_nil]
          exact mt List.reverse_eq_nil_iff.1 habove
        · exact ih (List.cons_ne_nil s l) above
      have hnext : ∀ rest : List (List Char),
          climb (if l.isEmpty then [] :: rest else rest) l ≠ [] := by
        intro rest
        rcases l with _ | ⟨s, l⟩
        · exact hlast _ (List.cons_ne_nil _ _)
        · exact ih (List.cons_ne_nil s l) _
      rw [climb_cons]
      split
      · exact hnext _
      split
      · exact hnext _
      · exact hlast _ (List.cons_ne_nil _ _)

/-! ## Leaving out empty segments -/

/-- No empty segment before others. -/
def IsPacked (parts : List (List Char)) : Prop := ∀ s r, parts ≠ [] :: s :: r

theorem dropEmpty_cons (s : List Char) (r : List (List Char)) :
    dropEmpty ([] :: s :: r) = dropEmpty (s :: r) := rfl

theorem dropEmpty_of_isPacked {parts : List (List Char)} (h : IsPacked parts) :
    dropEmpty parts = parts := by
  rw [dropEmpty]
  exact h

theorem isPacked_dropEmpty (parts : List (List Char)) : IsPacked (dropEmpty parts) := by
  induction parts using dropEmpty.induct with
  | case1 s r ih =>
      rw [dropEmpty_cons]
      exact ih
  | case2 parts h =>
      rw [dropEmpty_of_isPacked h]
      exact h

theorem dropEmpty_suffix (parts : List (List Char)) : dropEmpty parts <:+ parts := by
  induction parts using dropEmpty.induct with
  | case1 s r ih =>
      rw [dropEmpty_cons]
      exact ih.trans (List.suffix_cons [] (s :: r))
  | case2 parts h => exact ⟨[], dropEmpty_of_isPacked h⟩

theorem dropEmpty_ne_nil {parts : List (List Char)} (h : parts ≠ []) : dropEmpty parts ≠ [] := by
  induction parts using dropEmpty.induct with
  | case1 s r ih =>
      rw [dropEmpty_cons]
      exact ih (List.cons_ne_nil s r)
  | case2 parts hpacked =>
      rw [dropEmpty_of_isPacked hpacked]
      exact h

/-! ## Segments -/

/-- The text of a path without the slash it starts with. -/
theorem segments_slash (family : Family) (cs : List Char) :
    segments family ('/' :: cs) =
      if family = .file then
        dropEmpty (climb [] ((Domain.splitOn (isSlash family) cs).map
          (Percent.encode Percent.inPath)))
      else climb [] ((Domain.splitOn (isSlash family) cs).map (Percent.encode Percent.inPath)) :=
  rfl

/-- Whatever it is read from, a path has no segments or those of a text after a slash. -/
theorem segments_cases (family : Family) (cs : List Char) :
    (family.isSpecial = false ∧ segments family cs = []) ∨
      ∃ text, segments family cs = segments family ('/' :: text) := by
  rcases cs with _ | ⟨c, r⟩
  · rcases family with _ | _ | _
    · exact .inr ⟨[], rfl⟩
    · exact .inr ⟨[], rfl⟩
    · exact .inl ⟨rfl, rfl⟩
  · by_cases hc : isSlash family c = true
    · refine .inr ⟨r, ?_⟩
      rw [segments_slash]
      simp only [isSlash] at hc
      simp only [segments, hc]
      rfl
    · refine .inr ⟨c :: r, ?_⟩
      rw [segments_slash]
      simp only [isSlash] at hc
      simp only [segments, hc]
      rfl

/-- **Segments that are read back.** -/
structure Cleared (family : Family) (parts : List (List Char)) : Prop where
  /-- Nothing in one is escaped or divides it. -/
  clear : ∀ s ∈ parts, ∀ c ∈ s, Percent.inPath c = false ∧ isSlash family c = false
  plain : ∀ s ∈ parts, IsPlain s
  nonempty : family.isSpecial = true → parts ≠ []
  packed : family = .file → IsPacked parts

theorem isSlash_of_mem_escapeChars (family : Family) :
    (Percent.escapeChars.all fun c => !isSlash family c) = true := by
  rcases family with _ | _ | _ <;> decide

/-- **The segments of a path** are read back. -/
theorem cleared_segments (family : Family) (cs : List Char) :
    Cleared family (segments family cs) := by
  rcases segments_cases family cs with ⟨hother, hnil⟩ | ⟨text, htext⟩
  · rw [hnil]
    refine ⟨?_, ?_, fun hspecial => ?_, fun _ s r => ?_⟩
    · exact fun s hs => absurd hs List.not_mem_nil
    · exact fun s hs => absurd hs List.not_mem_nil
    · rw [hother] at hspecial
      exact absurd hspecial Bool.false_ne_true
    · exact (List.cons_ne_nil _ _).symm
  rw [htext, segments_slash]
  have hpieces :
      (Domain.splitOn (isSlash family) text).map (Percent.encode Percent.inPath) ≠ [] := by
    simpa using Domain.splitOn_ne_nil text
  have hall : ∀ s ∈ climb [] ((Domain.splitOn (isSlash family) text).map
      (Percent.encode Percent.inPath)),
      IsPlain s ∧ ∀ c ∈ s, Percent.inPath c = false ∧ isSlash family c = false := by
    refine forall_climb ⟨isPlain_nil, fun c hc => absurd hc List.not_mem_nil⟩
      (fun s hs => absurd hs List.not_mem_nil) fun s hs hplain => ⟨hplain, fun c hc => ?_⟩
    obtain ⟨piece, hpiece, rfl⟩ := List.mem_map.1 hs
    refine ⟨Percent.escaped_encode (by decide) hc, ?_⟩
    exact Percent.encode_free (isSlash_of_mem_escapeChars family)
      (fun d hd _ => (Domain.mem_of_mem_splitOn hpiece hd).2) hc
  have hne := climb_ne_nil hpieces []
  split
  · refine ⟨fun s hs => ?_, fun s hs => ?_, fun _ => dropEmpty_ne_nil hne,
      fun _ => isPacked_dropEmpty _⟩
    · exact (hall s ((dropEmpty_suffix _).subset hs)).2
    · exact (hall s ((dropEmpty_suffix _).subset hs)).1
  · next hfile =>
    exact ⟨fun s hs => (hall s hs).2, fun s hs => (hall s hs).1, fun _ => hne,
      fun heq => absurd heq hfile⟩

/-! ## Written paths -/

theorem render_append (ps qs : List (List Char)) :
    (Path.segments (ps ++ qs)).render = (Path.segments ps).render ++ (Path.segments qs).render :=
  List.flatMap_append

/-- A path is its segments joined, after a slash. -/
theorem render_eq_intercalate {parts : List (List Char)} (h : parts ≠ []) :
    (Path.segments parts).render = '/' :: ['/'].intercalate parts := by
  induction parts with
  | nil => exact absurd rfl h
  | cons s parts ih =>
      rcases parts with _ | ⟨t, parts⟩
      · simp [Path.render]
      · have hrest := ih (List.cons_ne_nil t parts)
        rw [List.intercalate_cons_cons, List.append_assoc, List.singleton_append, ← hrest]
        rfl

/-- A path is the text it is split from, after a slash. -/
theorem render_splitOn (cs : List Char) :
    (Path.segments (Domain.splitOn (· == '/') cs)).render = '/' :: cs := by
  rw [render_eq_intercalate (Domain.splitOn_ne_nil cs), Domain.intercalate_splitOn]

variable {family : Family} {parts pieces : List (List Char)}

/-- Segments that would be read from a text with nothing to escape or to climb. -/
theorem Cleared.segments_splitOn (h : Cleared family parts) {text : List Char}
    (htext : Domain.splitOn (isSlash family) text = pieces)
    (hparts : pieces.map (Percent.encode Percent.inPath) = parts) :
    segments family ('/' :: text) = parts := by
  rw [segments_slash, htext, hparts, climb_plain h.plain, List.reverse_nil, List.nil_append]
  split
  · next hfile => exact dropEmpty_of_isPacked (h.packed hfile)
  · rfl

/-- **A path is read back.** -/
theorem Cleared.segments_render (h : Cleared family parts) :
    segments family (Path.segments parts).render = parts := by
  by_cases hnil : parts = []
  · subst hnil
    have hother : family.isSpecial = false := by
      rw [Bool.eq_false_iff]
      exact fun hspecial => h.nonempty hspecial rfl
    simp [segments, Path.render, hother]
  · have hsplit : Domain.splitOn (isSlash family) (['/'].intercalate parts) = parts :=
      Domain.splitOn_intercalate rfl hnil fun s hs c hc => (h.clear s hs c hc).2
    have hsame : parts.map (Percent.encode Percent.inPath) = parts := by
      refine (List.map_congr_left fun s hs => ?_).trans (List.map_id parts)
      exact Percent.encode_eq_self fun c hc => (h.clear s hs c hc).1
    rw [render_eq_intercalate hnil]
    exact h.segments_splitOn hsplit hsame

/-! ## Below a path -/

theorem encode_intercalate (pieces : List (List Char)) :
    Percent.encode Percent.inPath (['/'].intercalate pieces) =
      ['/'].intercalate (pieces.map (Percent.encode Percent.inPath)) := by
  have hslash : Percent.encode Percent.inPath ['/'] = ['/'] := by decide
  induction pieces with
  | nil => rfl
  | cons s pieces ih =>
      rcases pieces with _ | ⟨t, pieces⟩
      · simp
      · rw [List.map_cons, List.map_cons, List.intercalate_cons_cons, List.intercalate_cons_cons,
          Percent.encode_append, Percent.encode_append, hslash, ih, List.map_cons]

/-- Escaping leaves slashes alone and adds none. -/
theorem map_encode_splitOn (cs : List Char) :
    (Domain.splitOn (· == '/') cs).map (Percent.encode Percent.inPath) =
      Domain.splitOn (· == '/') (Percent.encode Percent.inPath cs) := by
  have hslash : ∀ piece ∈ (Domain.splitOn (· == '/') cs).map (Percent.encode Percent.inPath),
      ∀ c ∈ piece, (c == '/') = false := by
    intro piece hpiece c hc
    obtain ⟨raw, hraw, rfl⟩ := List.mem_map.1 hpiece
    exact Percent.encode_free (p := (· == '/')) (by decide)
      (fun d hd _ => (Domain.mem_of_mem_splitOn hraw hd).2) hc
  have hne : (Domain.splitOn (· == '/') cs).map (Percent.encode Percent.inPath) ≠ [] := by
    simpa using Domain.splitOn_ne_nil cs
  have hjoin := encode_intercalate (Domain.splitOn (· == '/') cs)
  rw [Domain.intercalate_splitOn] at hjoin
  rw [hjoin, Domain.splitOn_intercalate rfl hne hslash]

theorem splitOn_isSlash {cs : List Char} (h : '\\' ∉ cs) :
    Domain.splitOn (isSlash family) cs = Domain.splitOn (· == '/') cs := by
  refine Domain.splitOn_congr fun c hc => ?_
  have hback : (c == '\\') = false := by
    rw [beq_eq_false_iff_ne]
    rintro rfl
    exact h hc
  rw [isSlash, hback, Bool.and_false, Bool.or_false]

/-- Where a path's last segments are empty, its text ends in slashes. -/
theorem rdropWhile_render (h : ∀ s ∈ parts, '/' ∉ s) :
    (Path.segments parts).render.rdropWhile (· == '/') =
      (Path.segments (parts.rdropWhile List.isEmpty)).render := by
  induction parts using List.reverseRecOn with
  | nil => rfl
  | append_singleton parts s ih =>
      have hlast : (Path.segments (parts ++ [s])).render =
          (Path.segments parts).render ++ '/' :: s := by
        rw [render_append]
        simp [Path.render]
      rw [hlast]
      rcases List.eq_nil_or_concat s with rfl | ⟨t, c, rfl⟩
      · rw [List.rdropWhile_concat_pos _ _ _ rfl, List.rdropWhile_concat_pos _ _ _ rfl]
        exact ih fun s hs => h s (List.mem_append_left _ hs)
      · have hc : ¬ (c == '/') = true := by
          rw [beq_iff_eq]
          rintro rfl
          exact h (t.concat '/') (by simp) (by simp)
        have hne : ¬ (t.concat c).isEmpty = true := by simp
        rw [List.rdropWhile_concat_neg _ _ _ hne, hlast, List.concat_eq_append,
          ← List.cons_append, ← List.append_assoc]
        exact List.rdropWhile_concat_neg (· == '/') _ c hc

/-- What is left of a path without its last, empty segments starts with none. -/
theorem Cleared.rdropWhile_ne_cons_nil (h : Cleared family parts) (hfile : family = .file)
    (r : List (List Char)) : parts.rdropWhile List.isEmpty ≠ [] :: r := by
  intro heq
  obtain ⟨t, hparts⟩ := List.rdropWhile_prefix List.isEmpty parts
  rw [heq, List.cons_append] at hparts
  rcases hrest : r ++ t with _ | ⟨s, r'⟩
  · rw [hrest] at hparts
    rw [← hparts] at heq
    exact absurd heq.symm (List.cons_ne_nil _ _)
  · rw [hrest] at hparts
    exact h.packed hfile s r' hparts.symm

/-- **Other segments** may take the place of a path's last, empty ones. -/
theorem Cleared.append (h : Cleared family parts) {w : List Char} (hback : '\\' ∉ w)
    (hclear : ∀ c ∈ w, Percent.inPath c = false)
    (hplain : ∀ s ∈ Domain.splitOn (· == '/') w, IsPlain s)
    (hfirst : (Domain.splitOn (· == '/') w).head? ≠ some []) :
    Cleared family (parts.rdropWhile List.isEmpty ++ Domain.splitOn (· == '/') w) := by
  have hsubset : ∀ s ∈ parts.rdropWhile List.isEmpty, s ∈ parts := fun s hs =>
    (List.rdropWhile_prefix List.isEmpty parts).subset hs
  refine ⟨fun s hs => ?_, fun s hs => ?_, fun _ => ?_, fun hfile s r heq => ?_⟩
  · rcases List.mem_append.1 hs with hs | hs
    · exact h.clear s (hsubset s hs)
    · have hsplit : Domain.splitOn (isSlash family) w = Domain.splitOn (· == '/') w :=
        splitOn_isSlash hback
      rw [← hsplit] at hs
      intro c hc
      obtain ⟨hmem, hslash⟩ := Domain.mem_of_mem_splitOn hs hc
      exact ⟨hclear c hmem, hslash⟩
  · rcases List.mem_append.1 hs with hs | hs
    · exact h.plain s (hsubset s hs)
    · exact hplain s hs
  · exact List.append_ne_nil_of_right_ne_nil _ (Domain.splitOn_ne_nil w)
  · rcases hkept : parts.rdropWhile List.isEmpty with _ | ⟨t, kept⟩
    · rw [hkept, List.nil_append] at heq
      exact hfirst (by rw [heq]; rfl)
    · rw [hkept, List.cons_append] at heq
      injection heq with ht _
      rw [ht] at hkept
      exact h.rdropWhile_ne_cons_nil hfile kept hkept

/-- **A path below another** is read as the other's segments without the last, empty
ones, and then its own. -/
theorem Cleared.segments_below (h : Cleared family parts) {op : List Char} (hback : '\\' ∉ op)
    (hplain : ∀ s ∈ Domain.splitOn (· == '/') (Percent.encode Percent.inPath op), IsPlain s)
    (hfirst : (Domain.splitOn (· == '/') (Percent.encode Percent.inPath op)).head? ≠ some []) :
    segments family ((Path.segments (parts.rdropWhile List.isEmpty)).render ++ '/' :: op) =
      parts.rdropWhile List.isEmpty ++
        Domain.splitOn (· == '/') (Percent.encode Percent.inPath op) := by
  have hwritten : '\\' ∉ Percent.encode Percent.inPath op := by
    intro hmem
    have hfree := Percent.encode_free (p := (· == '\\')) (by decide)
      (fun c hc _ => beq_eq_false_iff_ne.2 fun heq => hback (heq ▸ hc)) hmem
    exact absurd hfree (by decide)
  have hall := h.append hwritten (fun c hc => Percent.escaped_encode (by decide) hc) hplain hfirst
  have hsame : (parts.rdropWhile List.isEmpty).map (Percent.encode Percent.inPath) =
      parts.rdropWhile List.isEmpty := by
    refine (List.map_congr_left fun s hs => ?_).trans (List.map_id _)
    exact Percent.encode_eq_self fun c hc => (hall.clear s (List.mem_append_left _ hs) c hc).1
  by_cases hnil : parts.rdropWhile List.isEmpty = []
  · rw [hnil, List.nil_append] at hall ⊢
    exact hall.segments_splitOn (splitOn_isSlash hback) (map_encode_splitOn op)
  · have hsplit : Domain.splitOn (isSlash family)
        (['/'].intercalate (parts.rdropWhile List.isEmpty) ++ '/' :: op) =
        parts.rdropWhile List.isEmpty ++ Domain.splitOn (· == '/') op := by
      rw [Domain.splitOn_append_cons rfl, splitOn_isSlash hback,
        Domain.splitOn_intercalate rfl hnil]
      exact fun s hs c hc => (hall.clear s (List.mem_append_left _ hs) c hc).2
    rw [render_eq_intercalate hnil, List.cons_append]
    refine hall.segments_splitOn hsplit ?_
    rw [List.map_append, hsame, map_encode_splitOn]

end Url

end DeviceLink
