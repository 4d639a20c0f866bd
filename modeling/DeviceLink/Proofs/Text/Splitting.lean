import Mathlib.Data.String.Basic
/-!
# Text — cutting at a character

A text is cut at a character by walking along its bytes. The pieces are those its
list of characters is cut into (`splitOn_singleton`), so a text that begins with a
piece and the character is cut there first, and the rest of it on its own.
-/

namespace DeviceLink

namespace Text

open String

/-- The walk, with `m` being what was passed since the last separator. -/
theorem splitOnAux_singleton (x : Char) (l m r : List Char) (pieces : List String) :
    splitOnAux (ofList (l ++ m ++ r)) (singleton x) ⟨utf8Len l⟩ ⟨utf8Len l + utf8Len m⟩ 0 pieces =
      pieces.reverse ++ (List.splitOnPPrepend (· == x) r m.reverse).map ofList := by
  have hget : Pos.Raw.get (singleton x) 0 = x := by simpa using get_of_valid [] [x]
  have hnext : Pos.Raw.next (singleton x) 0 = ⟨x.utf8Size⟩ := by simpa using next_of_valid [] x []
  have hend : Pos.Raw.atEnd (singleton x) ⟨x.utf8Size⟩ = true := by
    simp [atEnd_iff, Pos.Raw.le_iff]
  induction r generalizing l m pieces with
  | nil =>
      have hlast : Pos.Raw.atEnd (ofList (l ++ m ++ [])) ⟨utf8Len l + utf8Len m⟩ = true := by
        simp only [atEnd_iff, rawEndPos_ofList, List.append_nil, utf8Len_append, Pos.Raw.mk_le_mk,
          Nat.le_refl]
      rw [splitOnAux, if_pos hlast]
      simpa using extract_of_valid l m []
  | cons c r ih =>
      have hsize := c.utf8Size_pos
      have hmore : ¬ Pos.Raw.atEnd (ofList (l ++ m ++ c :: r)) ⟨utf8Len l + utf8Len m⟩ = true := by
        simp only [atEnd_iff, rawEndPos_ofList, utf8Len_append, utf8Len_cons, Pos.Raw.mk_le_mk]
        omega
      have hhere : Pos.Raw.get (ofList (l ++ m ++ c :: r)) ⟨utf8Len l + utf8Len m⟩ = c := by
        simpa using get_of_valid (l ++ m) (c :: r)
      have hafter : Pos.Raw.next (ofList (l ++ m ++ c :: r)) ⟨utf8Len l + utf8Len m⟩ =
          ⟨utf8Len l + utf8Len m + c.utf8Size⟩ := by
        simpa using next_of_valid (l ++ m) c r
      rw [splitOnAux, if_neg hmore, hhere, hget]
      by_cases hsep : (c == x) = true
      · -- A separator: what was passed is a piece, and the next one begins behind it.
        obtain rfl := beq_iff_eq.1 hsep
        have hback : Pos.Raw.unoffsetBy ⟨utf8Len l + utf8Len m + c.utf8Size⟩ ⟨c.utf8Size⟩ =
            ⟨utf8Len l + utf8Len m⟩ := by
          simp [Pos.Raw.ext_iff]
        rw [if_pos hsep, List.splitOnPPrepend_cons_pos (p := (· == c)) hsep]
        simp only [hnext, hend, hafter, hback, extract_of_valid l m (c :: r), if_true]
        simpa [Nat.add_assoc] using ih (l ++ m ++ [c]) [] (ofList m :: pieces)
      · have hback : Pos.Raw.unoffsetBy ⟨utf8Len l + utf8Len m⟩ 0 = ⟨utf8Len l + utf8Len m⟩ := by
          simp
        rw [if_neg hsep, List.splitOnPPrepend_cons_neg (by simpa using hsep), hback, hafter]
        simpa [Nat.add_assoc] using ih l (m ++ [c]) pieces

/-- **The pieces of a text** are those of its characters. -/
theorem splitOn_singleton (s : String) (x : Char) :
    s.splitOn (singleton x) = (s.toList.splitOn x).map ofList := by
  have hne : (singleton x == "") = false := by simp
  rw [splitOn, hne, if_neg (by decide), List.splitOn_eq_splitOnP]
  simpa using splitOnAux_singleton x [] [] s.toList []

variable {x : Char} {s : String}

theorem splitOn_of_not_mem (h : x ∉ s.toList) : s.splitOn (singleton x) = [s] := by
  rw [splitOn_singleton, List.splitOn_eq_singleton h, List.map_singleton, ofList_toList]

/-- The first piece of a text, and those of the rest. -/
theorem splitOn_append (h : x ∉ s.toList) (rest : String) :
    (s ++ singleton x ++ rest).splitOn (singleton x) = s :: rest.splitOn (singleton x) := by
  rw [splitOn_singleton, splitOn_singleton, toList_append, toList_append, toList_singleton,
    List.append_assoc, List.singleton_append, List.splitOn_append_cons_self_of_not_mem h,
    List.map_cons, ofList_toList]

/-- A text with a separator has a first piece. -/
theorem exists_append_of_mem (h : x ∈ s.toList) :
    ∃ first rest, s = first ++ singleton x ++ rest ∧ x ∉ first.toList := by
  obtain ⟨a, b, hab, ha⟩ := List.eq_append_cons_of_mem h
  refine ⟨ofList a, ofList b, ?_, by rwa [toList_ofList]⟩
  rw [← toList_inj, toList_append, toList_append, toList_singleton, toList_ofList, toList_ofList,
    hab, List.append_assoc, List.singleton_append]

end Text

end DeviceLink
