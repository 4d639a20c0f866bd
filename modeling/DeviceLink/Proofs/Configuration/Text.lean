import DeviceLink.Configuration.File
import DeviceLink.Proofs.Configuration.Fields
/-!
# Configurations — texts are read back

A configuration is read back from its text (`ofText_toText`), and so is what is
kept of it when sections or fields of it are left out (`ofText_partText`): the
fields that are kept have their values, the others the standard ones.
-/

namespace DeviceLink

open Datum

/-! ## Parts of a table -/

namespace Toml

theorem Plain.filter {entries : List (String × Datum)} (h : Plain entries)
    (p : String × Datum → Bool) : Plain (entries.filter p) where
  bare e he := h.bare e (List.mem_filter.1 he).1
  nodup := h.nodup.sublist (List.filter_sublist.map _)
  storable e he := h.storable e (List.mem_filter.1 he).1

end Toml

/-- The entries of a map with kept keys. -/
def Datum.keeping (keep : String → Bool) : Datum → Datum
  | .map entries => .map (entries.filter fun e => keep e.1)
  | d => d

/-- Which sections of a table are kept, and which entries of each. -/
structure Selection where
  sections : String → Bool
  fields : String → String → Bool

namespace Selection

/-- What is kept of a table. -/
def entries (s : Selection) (all : List (String × Datum)) : List (String × Datum) :=
  (all.filter fun e => s.sections e.1).map fun e => (e.1, e.2.keeping (s.fields e.1))

/-- Everything is kept. -/
def all : Selection := ⟨fun _ => true, fun _ _ => true⟩

theorem keeping_true (d : Datum) : d.keeping (fun _ => true) = d := by
  cases d <;> simp [Datum.keeping]

theorem entries_all (es : List (String × Datum)) : Selection.all.entries es = es := by
  simp [entries, all, keeping_true]

theorem storable_keeping {d : Datum} (h : Toml.Storable d) (keep : String → Bool) :
    Toml.Storable (d.keeping keep) := by
  cases d with
  | map inner => exact fun _ h => nomatch h
  | _ => exact h

theorem sectionsOf_entries (s : Selection) (es : List (String × Datum)) :
    Toml.sectionsOf (s.entries es) =
      ((Toml.sectionsOf es).filter fun x => s.sections x.1).map
        fun x => (x.1, x.2.filter fun e => s.fields x.1 e.1) := by
  induction es with
  | nil => rfl
  | cons e rest ih =>
      obtain ⟨key, d⟩ := e
      cases hk : s.sections key <;> cases d <;>
        simpa [entries, Toml.sectionsOf, hk, Datum.keeping] using ih

/-- What is kept of a table that can be written can be written. -/
theorem printable {es : List (String × Datum)} (h : Toml.Printable es) (s : Selection) :
    Toml.Printable (s.entries es) where
  bare e he := by
    obtain ⟨e', he', rfl⟩ := List.mem_map.1 he
    exact h.bare e' (List.mem_filter.1 he').1
  nodup := by
    have hkeys : (s.entries es).map (·.1) = (es.filter fun e => s.sections e.1).map (·.1) := by
      simp [entries]
    rw [hkeys]
    exact h.nodup.sublist (List.filter_sublist.map _)
  storable e he := by
    obtain ⟨e', he', rfl⟩ := List.mem_map.1 he
    exact storable_keeping (h.storable e' (List.mem_filter.1 he').1) _
  sections x hx := by
    rw [sectionsOf_entries] at hx
    obtain ⟨x', hx', rfl⟩ := List.mem_map.1 hx
    exact (h.sections x' (List.mem_filter.1 hx').1).filter _

end Selection

namespace Configuration

/-- The text of what is kept of a configuration. -/
def partText (s : Selection) (c : Configuration) : String :=
  match c.toDatum with
  | .map entries => Toml.print (s.entries entries)
  | _ => ""

/-- The configuration with the fields of a selection, and standard values in place of the
others. -/
def keeping (s : Selection) (c : Configuration) : Configuration :=
  let standard : Configuration := {}
  { server := kept (s.sections "server") (c.server.keeping (s.fields "server")) standard.server
    bridge := kept (s.sections "bridge") (c.bridge.keeping (s.fields "bridge")) standard.bridge }

/-- The configuration's sections, as they are read from what is kept. -/
def settings (s : Selection) (c : Configuration) : List (Setting Configuration) :=
  [ (("server", .map ((c.server.settings.map (·.1)).filter (isWritten (s.fields "server")))),
      fun k a => { a with server := kept k (c.server.keeping (s.fields "server")) a.server }),
    (("bridge", .map ((c.bridge.settings.map (·.1)).filter (isWritten (s.fields "bridge")))),
      fun k a => { a with bridge := kept k (c.bridge.keeping (s.fields "bridge")) a.bridge }) ]

theorem configurationFields_nodup : ((configurationFields .file).map (·.1)).Nodup := by
  simp [configurationFields]

theorem takes (s : Selection) (c : Configuration) :
    List.Forall₂ Takes (configurationFields .file) (settings s c) := by
  simp only [configurationFields, settings, List.forall₂_cons, List.Forall₂.nil, and_true]
  exact ⟨⟨rfl, fun a => by simp [kept, asParams_kept], fun a => rfl⟩,
    ⟨rfl, fun a => by simp [kept, asToolPaths_kept], fun a => rfl⟩⟩

/-- The configuration's entries. -/
def entries (c : Configuration) : List (String × Datum) :=
  [("server", .map (c.server.settings.map (·.1))), ("bridge", .map (c.bridge.settings.map (·.1)))]

theorem sectionsOf_entries (c : Configuration) :
    Toml.sectionsOf c.entries =
      [("server", c.server.settings.map (·.1)), ("bridge", c.bridge.settings.map (·.1))] := rfl

theorem printable (c : Configuration) : Toml.Printable c.entries where
  bare e he := by
    simp only [entries, List.mem_cons, List.not_mem_nil, or_false] at he
    rcases he with rfl | rfl
    · exact (by decide : Toml.Bare "server")
    · exact (by decide : Toml.Bare "bridge")
  nodup := by simp [entries]
  storable e he := by
    simp only [entries, List.mem_cons, List.not_mem_nil, or_false] at he
    rcases he with rfl | rfl <;> exact fun _ h => nomatch h
  sections x hx := by
    simp only [sectionsOf_entries, List.mem_cons, List.not_mem_nil, or_false] at hx
    rcases hx with rfl | rfl
    · exact c.server.plain
    · exact c.bridge.plain

theorem lineEntries_keep (es : List (String × Datum)) (keep : String → Bool) :
    Toml.lineEntries (es.filter fun e => keep e.1) = es.filter (isWritten keep) := by
  rw [Toml.lineEntries, List.filter_filter]
  exact congrArg (es.filter ·) (funext fun e => Bool.and_comm _ _)

theorem partText_eq (s : Selection) (c : Configuration) :
    c.partText s = Toml.print (s.entries c.entries) := rfl

theorem writeValue?_entries (s : Selection) (c : Configuration) :
    ∀ e ∈ s.entries c.entries, Toml.writeValue? e.2 = none := by
  intro e he
  obtain ⟨e', he', rfl⟩ := List.mem_map.1 he
  have hmem : e' ∈ c.entries := (List.mem_filter.1 he').1
  simp only [entries, List.mem_cons, List.not_mem_nil, or_false] at hmem
  rcases hmem with rfl | rfl <;> rfl

theorem shown_entries (s : Selection) (c : Configuration) :
    Toml.shown (s.entries c.entries) =
      ((settings s c).map (·.1)).filter fun e => s.sections e.1 := by
  rw [Toml.shown, Toml.lineEntries_eq_nil (writeValue?_entries s c), List.nil_append,
    s.sectionsOf_entries, sectionsOf_entries]
  cases h₁ : s.sections "server" <;> cases h₂ : s.sections "bridge" <;>
    simp [settings, h₁, h₂, lineEntries_keep]

/-- **What is kept of a configuration is read back**, and standard values for the rest. -/
theorem ofText_partText (s : Selection) (c : Configuration) :
    ofText (c.partText s) = .ok (c.keeping s) := by
  have hfill := fillByKey_filter configurationFields_nodup (fun e => exists_takes (takes s c))
    (fun e => s.sections e.1) {}
  have hread : asConfiguration .file (.map (Toml.shown (s.entries c.entries))) =
      .ok (c.keeping s) := by
    rw [shown_entries]
    exact hfill
  rw [ofText, partText_eq, Toml.parse?_print (s.printable c.printable)]
  simp only [hread]
  rfl

theorem partText_all (c : Configuration) : c.partText .all = c.toText := by
  rw [partText_eq, Selection.entries_all]
  rfl

theorem keeping_all (c : Configuration) : c.keeping .all = c := rfl

/-- **A configuration is read back from its text.** -/
theorem ofText_toText (c : Configuration) : ofText c.toText = .ok c := by
  rw [← partText_all, ofText_partText, keeping_all]

theorem toList_partText (s : Selection) (c : Configuration) :
    (c.partText s).toList =
      Toml.joinSections ((Toml.sectionsOf (s.entries c.entries)).map Toml.sectionText) := by
  rw [partText_eq, Toml.toList_print, Toml.writeLines_eq_nil (writeValue?_entries s c)]
  rfl

/-- The text of what is kept of a configuration is the text of all of it, with something left
out. -/
theorem partText_sublist (s : Selection) (c : Configuration) :
    (c.partText s).toList.Sublist c.toText.toList := by
  have hleft : Toml.LeftOf ((Toml.sectionsOf (s.entries c.entries)).map Toml.sectionText)
      ((Toml.sectionsOf c.entries).map Toml.sectionText) := by
    have hfewer := (List.filter_sublist (p := fun x => s.sections x.1)
      (l := Toml.sectionsOf c.entries)).map Toml.sectionText
    rw [s.sectionsOf_entries, List.map_map]
    refine List.sublistForall₂_iff.2 ⟨_, ?_, hfewer⟩
    rw [List.forall₂_map_left_iff, List.forall₂_map_right_iff, List.forall₂_same]
    exact fun x _ => (Toml.writeLines_filter_sublist _ x.2).append_left _
  rw [toList_partText, ← partText_all, toList_partText, Selection.entries_all]
  exact hleft.joinSections

end Configuration

end DeviceLink
