import DeviceLink.Proofs.Toml.Lines
import Mathlib.Data.List.Forall2
import Mathlib.Data.List.Nodup
/-!
# TOML — documents are read back

Reading what the printer wrote of a table gives the table (`parse?_print`), as
far as the printer writes it: texts, integers and truth values, in the table and
in the tables it holds. Values that are unset have no line; lines come before
sections, and both keep their order. The keys have to be bare and each stand
once, as those of a structure do.
-/

namespace DeviceLink

namespace Toml

/-! ## Tables as lines -/

/-- The entries of a table that are written as lines. -/
def lineEntries (entries : List (String × Datum)) : List (String × Datum) :=
  entries.filter fun e => (writeValue? e.2).isSome

/-- The tables in a table, with their entries. -/
def sectionsOf (entries : List (String × Datum)) : List (String × List (String × Datum)) :=
  entries.filterMap fun e =>
    match e.2 with
    | .map inner => some (e.1, inner)
    | _ => none

/-- Entries with bare keys, each once, and integers the format holds. -/
structure Plain (entries : List (String × Datum)) : Prop where
  bare : ∀ e ∈ entries, Bare e.1
  nodup : (entries.map (·.1)).Nodup
  storable : ∀ e ∈ entries, Storable e.2

/-- The entries as those of a table being read. -/
def asItems (entries : List (String × Datum)) : List (String × Item) :=
  entries.map fun e => (e.1, .value e.2)

theorem Plain.tail {e : String × Datum} {entries : List (String × Datum)}
    (h : Plain (e :: entries)) : Plain entries where
  bare x hx := h.bare x (List.mem_cons_of_mem e hx)
  nodup := (List.nodup_cons.1 h.nodup).2
  storable x hx := h.storable x (List.mem_cons_of_mem e hx)

theorem Table.append_append (t : Table) (es fs : List (String × Item)) :
    (t.append es).append fs = t.append (es ++ fs) := by
  simp [Table.append]

/-- The lines of a table are read one after the other. -/
theorem Reads.lines {entries : List (String × Datum)} (h : Plain entries) {b : Builder}
    (hdotted : b.current.dotted = false)
    (hfresh : ∀ e ∈ entries, e.1 ∉ b.current.entries.map (·.1)) :
    Reads b (writeLines entries)
      { b with current := b.current.append (asItems (lineEntries entries)) } := by
  induction entries generalizing b with
  | nil =>
    have hsame : b.current.append [] = b.current := by simp [Table.append]
    simp only [lineEntries, List.filter_nil, asItems, List.map_nil, hsame]
    exact .refl b
  | cons e rest ih =>
      obtain ⟨key, d⟩ := e
      have hrest : ∀ e ∈ rest, e.1 ∉ b.current.entries.map (·.1) :=
        fun e he => hfresh e (List.mem_cons_of_mem _ he)
      cases htext : writeValue? d with
      | none =>
        simpa [writeLines, lineEntries, htext] using ih h.tail hdotted hrest
      | some text =>
        have hline := Reads.entry (h.bare _ List.mem_cons_self) htext
          (h.storable _ List.mem_cons_self) hdotted (hfresh _ List.mem_cons_self)
        have hnew : ∀ e ∈ rest, e.1 ∉ (b.current.append [(key, .value d)]).entries.map (·.1) := by
          intro e he
          have hmem : e.1 ∈ rest.map (·.1) := List.mem_map_of_mem he
          have hne : e.1 ≠ key := fun heq => (List.nodup_cons.1 h.nodup).1 (heq ▸ hmem)
          simpa [Table.append, hne] using hrest e he
        have := hline.trans (ih h.tail (b := { b with current := _ }) hdotted hnew)
        simpa [writeLines, lineEntries, asItems, htext, Table.append_append] using this

/-! ## Tables as sections -/

/-- A section: its header and its lines. -/
def sectionText (s : String × List (String × Datum)) : List Char :=
  ('[' :: s.1.toList ++ [']', '\n']) ++ writeLines s.2

theorem writeSections_eq (entries : List (String × Datum)) :
    writeSections entries = (sectionsOf entries).map sectionText := by
  induction entries with
  | nil => rfl
  | cons e rest ih =>
      obtain ⟨key, d⟩ := e
      cases d <;> simpa [writeSections, sectionsOf, sectionText] using ih

theorem joinSections_cons (s : List Char) (rest : List (List Char)) :
    joinSections (s :: rest) = s ++ rest.flatMap ('\n' :: ·) := by
  induction rest generalizing s with
  | nil => simp [joinSections]
  | cons s' rest ih =>
    rw [joinSections, ih s', List.flatMap_cons, List.cons_append]
    simp

/-- The table a section is read as. -/
def sectionItem (s : String × List (String × Datum)) : String × Item :=
  (s.1, .table false false (asItems (lineEntries s.2)))

/-- A section is read as a table of its own, after the one before it. -/
theorem Reads.section {s : String × List (String × Datum)} (hkey : Bare s.1) (hs : Plain s.2)
    {b : Builder} {t : Table} (hclose : b.close? = some t) (hfresh : s.1 ∉ t.entries.map (·.1)) :
    ∃ b', Reads b (sectionText s) b' ∧ b'.close? = some (t.append [sectionItem s]) := by
  have hheader := Reads.header hkey hclose hfresh
  refine ⟨_, hheader.trans (Reads.lines hs rfl (by simp)), ?_⟩
  simp [Builder.close?, Table.update?, Table.find_eq_none hfresh, Table.put_fresh hfresh,
    Table.toItem, Table.append, sectionItem]

/-- Sections are read one after the other. -/
theorem Reads.sections {ss : List (String × List (String × Datum))}
    (hkeys : ∀ s ∈ ss, Bare s.1) (hss : ∀ s ∈ ss, Plain s.2) (hnodup : (ss.map (·.1)).Nodup)
    {b : Builder} {t : Table} (hclose : b.close? = some t)
    (hfresh : ∀ s ∈ ss, s.1 ∉ t.entries.map (·.1)) :
    ∃ b', Reads b ((ss.map sectionText).flatMap ('\n' :: ·)) b' ∧
      b'.close? = some (t.append (ss.map sectionItem)) := by
  induction ss generalizing b t with
  | nil => exact ⟨b, .refl b, by simpa [Table.append] using hclose⟩
  | cons s rest ih =>
      obtain ⟨b₁, hread, hclose₁⟩ := Reads.section (hkeys s List.mem_cons_self)
        (hss s List.mem_cons_self) hclose (hfresh s List.mem_cons_self)
      obtain ⟨hs, hrest⟩ := List.nodup_cons.1 hnodup
      have hfresh₁ : ∀ s' ∈ rest, s'.1 ∉ (t.append [sectionItem s]).entries.map (·.1) := by
        intro s' hs'
        have hmem : s'.1 ∈ rest.map (·.1) := List.mem_map_of_mem hs'
        have hne : s'.1 ≠ s.1 := fun heq => hs (show s.1 ∈ _ from heq ▸ hmem)
        simpa [Table.append, sectionItem, hne] using hfresh s' (List.mem_cons_of_mem s hs')
      obtain ⟨b₂, hread₂, hclose₂⟩ := ih (fun s' h => hkeys s' (List.mem_cons_of_mem s h))
        (fun s' h => hss s' (List.mem_cons_of_mem s h)) hrest hclose₁ hfresh₁
      refine ⟨b₂, ?_, by simpa [Table.append_append] using hclose₂⟩
      have := ((Reads.emptyLine b).trans hread).trans hread₂
      simpa using this


/-! ## Documents -/

/-- A table that can be written as a document: its tables hold no others. -/
structure Printable (entries : List (String × Datum)) : Prop extends Plain entries where
  sections : ∀ s ∈ sectionsOf entries, Plain s.2

/-- What a document shows of a table: the entries that are written as lines, then the tables
with what is written of each. -/
def shown (entries : List (String × Datum)) : List (String × Datum) :=
  lineEntries entries ++ (sectionsOf entries).map fun s => (s.1, .map (lineEntries s.2))

theorem mem_of_mem_sectionsOf {entries : List (String × Datum)}
    {s : String × List (String × Datum)} (h : s ∈ sectionsOf entries) :
    (s.1, .map s.2) ∈ entries := by
  obtain ⟨⟨key, d⟩, he, heq⟩ := List.mem_filterMap.1 h
  cases d <;> cases heq
  exact he

theorem keys_sectionsOf_sublist (entries : List (String × Datum)) :
    ((sectionsOf entries).map (·.1)).Sublist (entries.map (·.1)) := by
  induction entries with
  | nil => exact .slnil
  | cons e rest ih =>
      obtain ⟨key, d⟩ := e
      cases d with
      | map inner => exact ih.cons_cons key
      | _ => exact ih.cons key

/-- A key is not both that of a line and that of a section. -/
theorem Plain.key_of_section {entries : List (String × Datum)} (h : Plain entries)
    {s : String × List (String × Datum)} (hs : s ∈ sectionsOf entries) :
    s.1 ∉ (lineEntries entries).map (·.1) := by
  intro hmem
  obtain ⟨e, he, hkey⟩ := List.mem_map.1 hmem
  obtain ⟨he, htext⟩ := List.mem_filter.1 he
  have heq := List.inj_on_of_nodup_map h.nodup he (mem_of_mem_sectionsOf hs) hkey
  rw [heq] at htext
  cases htext

theorem entriesToData_append (es fs : List (String × Item)) :
    entriesToData (es ++ fs) = entriesToData es ++ entriesToData fs := by
  induction es with
  | nil => rfl
  | cons e es ih => simp [entriesToData, ih]

theorem entriesToData_asItems (entries : List (String × Datum)) :
    entriesToData (asItems entries) = entries := by
  induction entries with
  | nil => rfl
  | cons e rest ih =>
      change (e.1, e.2) :: entriesToData (asItems rest) = e :: rest
      rw [ih]

theorem entriesToData_sections (ss : List (String × List (String × Datum))) :
    entriesToData (ss.map sectionItem) = ss.map fun s => (s.1, .map (lineEntries s.2)) := by
  induction ss with
  | nil => rfl
  | cons s rest ih =>
      change (s.1, Datum.map (entriesToData (asItems (lineEntries s.2)))) ::
        entriesToData (rest.map sectionItem) = _
      rw [ih, entriesToData_asItems]
      rfl

/-- A table's lines are none, or begin with a bare key. -/
theorem writeLines_head {entries : List (String × Datum)} (h : Plain entries) :
    writeLines entries = [] ∨ ∃ c r, writeLines entries = c :: r ∧ isBare c = true := by
  induction entries with
  | nil => exact .inl rfl
  | cons e rest ih =>
      obtain ⟨key, d⟩ := e
      cases htext : writeValue? d with
      | none => simpa [writeLines, htext] using ih h.tail
      | some text =>
        obtain ⟨c, s, hs, hc⟩ := (h.bare _ List.mem_cons_self).head
        exact .inr ⟨c, s ++ ' ' :: '=' :: ' ' :: (text ++ '\n' :: writeLines rest),
          by simp [writeLines, htext, hs], hc⟩

/-- The characters of a document. -/
theorem toList_print (entries : List (String × Datum)) :
    (print entries).toList =
      joinSections ((if (writeLines entries).isEmpty then [] else [writeLines entries]) ++
        (sectionsOf entries).map sectionText) := by
  simp [print, writeSections_eq]

/-- No document begins with a mark of the byte order. -/
theorem print_head {entries : List (String × Datum)} (h : Plain entries) (r : List Char) :
    (print entries).toList ≠ '\ufeff' :: r := by
  rw [toList_print]
  rcases writeLines_head h with hnil | ⟨c, s, hs, hc⟩
  · rw [hnil]
    cases sectionsOf entries with
    | nil => simp [joinSections]
    | cons s rest => simp [joinSections_cons, sectionText]
  · rw [hs]
    intro heq
    rw [List.isEmpty_cons, if_neg (by decide), List.singleton_append, joinSections_cons] at heq
    rw [(List.cons.inj heq).1] at hc
    cases hc

/-- The lines of a document are read into the table it shows. -/
theorem Reads.document {entries : List (String × Datum)} (h : Printable entries) :
    ∃ b, Reads {} (print entries).toList b ∧
      b.close? = some (({} : Table).append (asItems (lineEntries entries) ++
        (sectionsOf entries).map sectionItem)) := by
  have hlines := Reads.lines h.toPlain (b := {}) rfl (by simp)
  have hclose : Builder.close? { ({} : Builder) with
      current := ({} : Table).append (asItems (lineEntries entries)) } =
      some (({} : Table).append (asItems (lineEntries entries))) := rfl
  have hkeys : ∀ s ∈ sectionsOf entries, Bare s.1 :=
    fun s hs => h.bare _ (mem_of_mem_sectionsOf hs)
  have hnodup : ((sectionsOf entries).map (·.1)).Nodup :=
    h.nodup.sublist (keys_sectionsOf_sublist entries)
  have hfresh : ∀ s ∈ sectionsOf entries,
      s.1 ∉ (({} : Table).append (asItems (lineEntries entries))).entries.map (·.1) :=
    fun s hs => by simpa [Table.append, asItems] using h.toPlain.key_of_section hs
  obtain ⟨b, hread, hdone⟩ := Reads.sections hkeys h.sections hnodup hclose hfresh
  rw [toList_print, ← Table.append_append]
  by_cases hnil : writeLines entries = []
  · rw [hnil] at hlines ⊢
    generalize sectionsOf entries = ss at hread hdone ⊢
    cases ss with
    | nil => exact ⟨b, hlines.trans hread, hdone⟩
    | cons s rest =>
      -- the first section has no empty line before it
      refine ⟨b, hlines.trans (Reads.of_emptyLine ?_), hdone⟩
      rw [List.isEmpty_nil, if_pos rfl, List.nil_append, List.map_cons, joinSections_cons]
      simpa using hread
  · refine ⟨b, ?_, hdone⟩
    rw [if_neg (by simpa using hnil), List.singleton_append, joinSections_cons]
    exact hlines.trans hread

/-- **A table is read back from its document**, as far as it shows it. -/
theorem parse?_print {entries : List (String × Datum)} (h : Printable entries) :
    parse? (print entries) = some (.map (shown entries)) := by
  obtain ⟨b, hread, hclose⟩ := Reads.document h
  obtain ⟨fuel, hfuel, hlines⟩ :=
    hread ((print entries).toList.length + 1) [] (by simp)
  rw [List.append_nil] at hlines
  obtain ⟨fuel, rfl⟩ := Nat.exists_eq_succ_of_ne_zero (Nat.ne_zero_of_lt hfuel)
  have hdone : lines? (fuel + 1) b [] = some b := rfl
  have hdatum : (({} : Table).append (asItems (lineEntries entries) ++
      (sectionsOf entries).map sectionItem)).toDatum = .map (shown entries) := by
    simp [Table.toDatum, Table.append, entriesToData_append, entriesToData_asItems,
      entriesToData_sections, shown]
  unfold parse?
  split
  · next heq => exact absurd heq (print_head h.toPlain _)
  · simp only [hlines, hdone, hclose, Option.bind_eq_bind, Option.bind_some, hdatum]
    rfl

/-! ## Leaving out

A table with less in it is written as the same text with less in it. -/

theorem writeLines_eq_nil {entries : List (String × Datum)}
    (h : ∀ e ∈ entries, writeValue? e.2 = none) : writeLines entries = [] := by
  induction entries with
  | nil => rfl
  | cons e rest ih =>
      simp only [writeLines, h e List.mem_cons_self]
      exact ih fun x hx => h x (List.mem_cons_of_mem e hx)

theorem lineEntries_eq_nil {entries : List (String × Datum)}
    (h : ∀ e ∈ entries, writeValue? e.2 = none) : lineEntries entries = [] :=
  List.filter_eq_nil_iff.2 fun e he => by simp [h e he]

/-- Leaving out entries leaves out their lines. -/
theorem writeLines_filter_sublist (p : String × Datum → Bool) (entries : List (String × Datum)) :
    (writeLines (entries.filter p)).Sublist (writeLines entries) := by
  induction entries with
  | nil => exact .slnil
  | cons e rest ih =>
      obtain ⟨key, d⟩ := e
      cases hp : p (key, d) with
      | true =>
        rw [List.filter_cons_of_pos hp, writeLines, writeLines]
        split
        · exact (ih.cons_cons '\n').append_left _
        · exact ih
      | false =>
        rw [List.filter_cons_of_neg (by simp [hp]), writeLines]
        split
        · exact ih.trans ((List.sublist_cons_self _ _).trans (List.sublist_append_right _ _))
        · exact ih

theorem joinSections_sublist_flatMap (ss : List (List Char)) :
    (joinSections ss).Sublist (ss.flatMap ('\n' :: ·)) := by
  cases ss with
  | nil => exact .slnil
  | cons s rest =>
    rw [joinSections_cons, List.flatMap_cons]
    exact List.sublist_cons_self _ _

/-- Sections with something left out, or left out altogether. -/
abbrev LeftOf (ss ts : List (List Char)) : Prop := List.SublistForall₂ List.Sublist ss ts

theorem LeftOf.flatMap {ss ts : List (List Char)} (h : LeftOf ss ts) :
    (ss.flatMap ('\n' :: ·)).Sublist (ts.flatMap ('\n' :: ·)) := by
  induction h with
  | nil => exact List.nil_sublist _
  | cons hs _ ih => exact (hs.cons_cons '\n').append ih
  | cons_right _ ih => exact ih.trans (List.sublist_append_right _ _)

theorem LeftOf.joinSections {ss ts : List (List Char)} (h : LeftOf ss ts) :
    (joinSections ss).Sublist (joinSections ts) := by
  cases h with
  | nil => exact List.nil_sublist _
  | cons hs h =>
    rw [joinSections_cons, joinSections_cons]
    exact hs.append (LeftOf.flatMap h)
  | cons_right h =>
    rw [joinSections_cons]
    exact (joinSections_sublist_flatMap ss).trans
      ((LeftOf.flatMap h).trans (List.sublist_append_right _ _))

end Toml

end DeviceLink
