import DeviceLink.Program.Settings
import DeviceLink.Proofs.Configuration.Text
import DeviceLink.Proofs.Text.Splitting
/-!
# Configurations — what stands under a key

The keys of a configuration are its sections and, behind a section and a point, the
fields of it (`Configuration.keys`). A path of keys that is followed from the top of
a configuration ends at a value for each of these, and for no other text: what stands
there is what the section or the field holds, and nothing only where the field is an
option that is not set (`exists_stands`, `value?_of_not_mem`).
-/

namespace DeviceLink

open Datum Text

/-! ## Paths -/

/-- A key is one part, or a part and the parts behind its first point. -/
theorem key_cases (key : String) :
    '.' ∉ key.toList ∨ ∃ name rest, key = name ++ "." ++ rest ∧ '.' ∉ name.toList := by
  by_cases h : '.' ∈ key.toList
  · exact .inr (exists_append_of_mem h)
  · exact .inl h

theorem splitOn_of_section {name : String} (h : '.' ∉ name.toList) : name.splitOn "." = [name] :=
  splitOn_of_not_mem h

theorem splitOn_of_field {name : String} (h : '.' ∉ name.toList) (rest : String) :
    (name ++ "." ++ rest).splitOn "." = name :: rest.splitOn "." :=
  splitOn_append h rest

namespace Datum

/-- Whether there is a value. -/
def isSet : Datum → Bool
  | .null => false
  | _ => true

@[simp]
theorem isSet_text (s : String) : (Datum.text s).isSet = true := rfl

@[simp]
theorem isSet_int (n : Int) : (Datum.int n).isSet = true := rfl

@[simp]
theorem isSet_bool (b : Bool) : (Datum.bool b).isSet = true := rfl

@[simp]
theorem isSet_map (entries : List (String × Datum)) : (Datum.map entries).isSet = true := rfl

theorem isSet_ofOption_eq_false (o : Option String) : (ofOption o).isSet = false ↔ none = o := by
  cases o <;> simp [ofOption, isSet]

theorem descend_nil (d : Datum) : d.descend [] = if d.isSet then some d else none := by
  cases d <;> rfl

theorem descend_map (entries : List (String × Datum)) (key : String) (rest : List String) :
    (Datum.map entries).descend (key :: rest) = (lookup key entries).bind (·.descend rest) := rfl

/-- No path leads below a value that is written on a line, or below none. -/
theorem descend_of_plain {d : Datum} (h : (Toml.writeValue? d).isSome = d.isSet) (key : String)
    (rest : List String) : d.descend (key :: rest) = none := by
  cases d with
  | map entries => cases h
  | _ => rfl

end Datum

/-- A table of entries that each are written on a line, or are not set. -/
structure Toml.Flat (entries : List (String × Datum)) : Prop extends Toml.Plain entries where
  plain : ∀ e ∈ entries, (Toml.writeValue? e.2).isSome = e.2.isSet

theorem plain_ofOption (o : Option String) :
    (Toml.writeValue? (ofOption o)).isSome = (ofOption o).isSet := by
  cases o <;> rfl

theorem plain_bool (b : Bool) :
    (Toml.writeValue? (.bool b)).isSome = (Datum.bool b).isSet := by
  cases b <;> rfl

theorem Params.flat (p : Params) : Toml.Flat (p.settings.map (·.1)) where
  toPlain := p.plain
  plain := by
    have htext : ∀ s, (Toml.writeValue? (.text s)).isSome = (Datum.text s).isSet := fun _ => rfl
    have hint : ∀ n, (Toml.writeValue? (.int n)).isSome = (Datum.int n).isSet := fun _ => rfl
    simp [Params.settings, htext, hint, plain_ofOption, plain_bool]

theorem ToolPaths.flat (b : ToolPaths) : Toml.Flat (b.settings.map (·.1)) where
  toPlain := b.plain
  plain := by simp [ToolPaths.settings, plain_ofOption]

/-! ## Sections -/

/-- A section holds a structure: its entries are flat, stand in the order of the fields,
and each is what its field has. -/
structure IsSection {α : Type} (fields : List (Datum.Field α)) (es : List (Setting α)) (a : α) :
    Prop where
  flat : Toml.Flat (es.map (·.1))
  takes : List.Forall₂ Takes fields es
  /-- Setting a field to what it has changes nothing. -/
  own : ∀ e ∈ es, e.2 true a = a

namespace IsSection

variable {α : Type} {fields : List (Datum.Field α)} {es : List (Setting α)} {a : α}

theorem keys_eq (h : IsSection fields es a) : (es.map (·.1)).map (·.1) = fields.map (·.1) := by
  have hkeys := h.takes
  clear h
  induction hkeys with
  | nil => rfl
  | cons hhead _ ih => simp only [List.map_cons, hhead.key, ih]

/-- Every field has an entry, and holds what it says. -/
theorem exists_entry (h : IsSection fields es a) {f : Datum.Field α} (hf : f ∈ fields) :
    ∃ e ∈ es, e.1.1 = f.1 ∧ f.2 e.1.2 a = .ok a := by
  obtain ⟨e, he, htakes⟩ : ∃ e ∈ es, Takes f e := by
    have hall := h.takes
    clear h
    induction hall with
    | nil => cases hf
    | cons hhead _ ih =>
        rcases List.mem_cons.1 hf with rfl | hf
        · exact ⟨_, List.mem_cons_self, hhead⟩
        · obtain ⟨e, he, htakes⟩ := ih hf
          exact ⟨e, List.mem_cons_of_mem _ he, htakes⟩
  exact ⟨e, he, htakes.key.symm, (htakes.read a).trans (congrArg _ (h.own e he))⟩

theorem descend_entry (h : IsSection fields es a) {e : Setting α} (he : e ∈ es) :
    (Datum.map (es.map (·.1))).descend [e.1.1] = if e.1.2.isSet then some e.1.2 else none := by
  rw [descend_map, lookup_of_mem h.flat.nodup (List.mem_map_of_mem he), Option.bind_some,
    descend_nil]

/-- A path in a section ends at one of its fields or nowhere. -/
theorem descend_eq_none (h : IsSection fields es a) {key : String} {rest : List String}
    (hkey : key ∉ fields.map (·.1) ∨ rest ≠ []) :
    (Datum.map (es.map (·.1))).descend (key :: rest) = none := by
  rw [descend_map]
  by_cases hmem : key ∈ (es.map (·.1)).map (·.1)
  · have hrest : rest ≠ [] := by
      rcases hkey with hkey | hrest
      · exact absurd (h.keys_eq ▸ hmem) hkey
      · exact hrest
    obtain ⟨e, he, rfl⟩ := List.mem_map.1 hmem
    obtain ⟨next, rest, rfl⟩ := List.exists_cons_of_ne_nil hrest
    rw [lookup_of_mem h.flat.nodup he, Option.bind_some, descend_of_plain (h.flat.plain e he)]
  · rw [lookup_of_not_mem hmem, Option.bind_none]

/-- What is set in a section is found by the keys of its fields. -/
theorem filter_isSet (h : IsSection fields es a) :
    (es.map (·.1)).filter (·.2.isSet) = fields.filterMap fun f =>
      ((Datum.map (es.map (·.1))).descend [f.1]).map (f.1, ·) := by
  let found (key : String) : Option (String × Datum) :=
    ((Datum.map (es.map (·.1))).descend [key]).map (key, ·)
  have hfound : ∀ e ∈ es.map (·.1), found e.1 = Option.guard (fun e => e.2.isSet) e := by
    intro e he
    obtain ⟨entry, hentry, rfl⟩ := List.mem_map.1 he
    simp only [found, h.descend_entry hentry, Option.guard]
    split <;> rfl
  calc (es.map (·.1)).filter (·.2.isSet)
      = (es.map (·.1)).filterMap fun e => found e.1 := by
        rw [List.filterMap_congr hfound, List.filterMap_eq_filter]
    _ = ((es.map (·.1)).map (·.1)).filterMap found := by
        simp only [List.filterMap_map]
        rfl
    _ = fields.filterMap fun f => found f.1 := by
        rw [h.keys_eq, List.filterMap_map]
        rfl

theorem descend_splitOn (h : IsSection fields es a) {key : String}
    (hkey : key ∉ fields.map (·.1)) :
    (Datum.map (es.map (·.1))).descend (key.splitOn ".") = none := by
  obtain hpoint | ⟨first, rest, rfl, hfirst⟩ := key_cases key
  · rw [splitOn_of_section hpoint]
    exact h.descend_eq_none (.inl hkey)
  · rw [splitOn_of_field hfirst]
    refine h.descend_eq_none (.inr ?_)
    rw [show "." = String.singleton '.' from rfl, splitOn_singleton]
    simp [List.splitOn_ne_nil]

end IsSection

theorem Params.isSection (p : Params) : IsSection (paramsFields .file) p.settings p where
  flat := p.flat
  takes := p.takes
  own := by simp [Params.settings, kept]

theorem ToolPaths.isSection (b : ToolPaths) : IsSection toolPathsFields b.settings b where
  flat := b.flat
  takes := b.takes
  own := by simp [ToolPaths.settings, kept]

/-! ## Keys -/

namespace Configuration

/-- **The keys of a configuration**: its sections, and the fields that are declared in each. -/
def keys : List String :=
  ["server", "bridge"] ++ (paramsFields .file).map ("server" ++ "." ++ ·.1) ++
    toolPathsFields.map ("bridge" ++ "." ++ ·.1)

/-- **What a configuration holds under a key.** -/
inductive Under (c : Configuration) : String → Datum → Prop
  | server : Under c "server" c.server.toDatum
  | bridge : Under c "bridge" c.bridge.toDatum
  /-- A field holds what changes nothing when it is read into the field. -/
  | serverField {f : Datum.Field Params} {d : Datum} :
      f ∈ paramsFields .file → f.2 d c.server = .ok c.server →
      Under c ("server" ++ "." ++ f.1) d
  | bridgeField {f : Datum.Field ToolPaths} {d : Datum} :
      f ∈ toolPathsFields → f.2 d c.bridge = .ok c.bridge → Under c ("bridge" ++ "." ++ f.1) d

/-- The options of a configuration, by their keys. -/
def options (c : Configuration) : List (String × Option String) :=
  [ ("server.crop", c.server.crop), ("server.codec_options", c.server.codecOptions),
    ("server.encoder_name", c.server.encoderName), ("server.remote_url", c.server.remoteUrl),
    ("bridge.adb_path", c.bridge.adbPath), ("bridge.server_path", c.bridge.serverPath) ]

/-- The options of a section are its fields that may have no value. -/
theorem options_server (c : Configuration) : ∀ e ∈ c.server.settings,
    (e.1.2.isSet = false ↔ ("server" ++ "." ++ e.1.1, none) ∈ c.options) := by
  simp [Params.settings, options, isSet_ofOption_eq_false]

theorem options_bridge (c : Configuration) : ∀ e ∈ c.bridge.settings,
    (e.1.2.isSet = false ↔ ("bridge" ++ "." ++ e.1.1, none) ∈ c.options) := by
  simp [ToolPaths.settings, options, isSet_ofOption_eq_false]

theorem point_not_mem_fields :
    (∀ f ∈ paramsFields .file, '.' ∉ f.1.toList) ∧ ∀ f ∈ toolPathsFields, '.' ∉ f.1.toList := by
  have h : (∀ key ∈ (paramsFields .file).map (·.1), '.' ∉ key.toList) ∧
      ∀ key ∈ toolPathsFields.map (·.1), '.' ∉ key.toList := by
    simp only [paramsFields, toolPathsFields, List.map_cons, List.map_nil]
    decide
  exact ⟨fun f hf => h.1 f.1 (List.mem_map_of_mem hf), fun f hf => h.2 f.1 (List.mem_map_of_mem hf)⟩

theorem value?_server (c : Configuration) (rest : String) :
    c.value? ("server" ++ "." ++ rest) = c.server.toDatum.descend (rest.splitOn ".") := by
  rw [value?, splitOn_of_field (by decide)]
  rfl

theorem value?_bridge (c : Configuration) (rest : String) :
    c.value? ("bridge" ++ "." ++ rest) = c.bridge.toDatum.descend (rest.splitOn ".") := by
  rw [value?, splitOn_of_field (by decide)]
  rfl

/-- **What stands under a key**: what the configuration holds there. It is found unless it is
an option that is not set. -/
structure Stands (c : Configuration) (key : String) (d : Datum) : Prop where
  under : c.Under key d
  found : c.value? key = if d.isSet then some d else none
  unset : d.isSet = false ↔ (key, none) ∈ c.options
  /-- It is a table of values, or a value. -/
  shape : (∃ entries, d = .map entries ∧ Toml.Flat entries) ∨
    (Toml.writeValue? d).isSome = d.isSet

theorem stands_server (c : Configuration) : c.Stands "server" c.server.toDatum where
  under := .server
  found := by
    rw [value?, splitOn_of_section (by decide)]
    rfl
  unset := by simp [Params.toDatum, options]
  shape := .inl ⟨_, c.server.toDatum_eq, c.server.flat⟩

theorem stands_bridge (c : Configuration) : c.Stands "bridge" c.bridge.toDatum where
  under := .bridge
  found := by
    rw [value?, splitOn_of_section (by decide)]
    rfl
  unset := by simp [ToolPaths.toDatum, options]
  shape := .inl ⟨_, c.bridge.toDatum_eq, c.bridge.flat⟩

/-- **Every key has something under it.** -/
theorem exists_stands (c : Configuration) {key : String} (h : key ∈ keys) :
    ∃ d, c.Stands key d := by
  simp only [keys, List.cons_append, List.nil_append, List.mem_cons, List.mem_append,
    List.mem_map] at h
  rcases h with rfl | rfl | ⟨f, hf, rfl⟩ | ⟨f, hf, rfl⟩
  · exact ⟨_, c.stands_server⟩
  · exact ⟨_, c.stands_bridge⟩
  · obtain ⟨e, he, hkey, hread⟩ := c.server.isSection.exists_entry hf
    have hpoint : '.' ∉ e.1.1.toList := hkey ▸ point_not_mem_fields.1 f hf
    refine ⟨e.1.2, .serverField hf hread, ?_, hkey ▸ options_server c e he,
      .inr (c.server.flat.plain _ (List.mem_map_of_mem he))⟩
    rw [← hkey, value?_server, splitOn_of_section hpoint]
    exact c.server.isSection.descend_entry he
  · obtain ⟨e, he, hkey, hread⟩ := c.bridge.isSection.exists_entry hf
    have hpoint : '.' ∉ e.1.1.toList := hkey ▸ point_not_mem_fields.2 f hf
    refine ⟨e.1.2, .bridgeField hf hread, ?_, hkey ▸ options_bridge c e he,
      .inr (c.bridge.flat.plain _ (List.mem_map_of_mem he))⟩
    rw [← hkey, value?_bridge, splitOn_of_section hpoint]
    exact c.bridge.isSection.descend_entry he

/-- **No other text has.** -/
theorem value?_of_not_mem (c : Configuration) {key : String} (h : key ∉ keys) :
    c.value? key = none := by
  have hsections : ∀ name, name ≠ "server" → name ≠ "bridge" → lookup name
      [("server", c.server.toDatum), ("bridge", c.bridge.toDatum)] = none := by
    intro name hserver hbridge
    exact lookup_of_not_mem (by simp [hserver, hbridge])
  simp only [keys, List.cons_append, List.nil_append, List.mem_cons, List.mem_append,
    List.mem_map, not_or] at h
  obtain ⟨hserver, hbridge, hparams, hpaths⟩ := h
  obtain hpoint | ⟨name, rest, rfl, hname⟩ := key_cases key
  · rw [value?, splitOn_of_section hpoint, toDatum, descend_map, hsections key hserver hbridge,
      Option.bind_none]
  · by_cases hserver : name = "server"
    · subst hserver
      refine (value?_server c rest).trans (c.server.isSection.descend_splitOn fun hrest => ?_)
      obtain ⟨f, hf, rfl⟩ := List.mem_map.1 hrest
      exact hparams ⟨f, hf, rfl⟩
    by_cases hbridge : name = "bridge"
    · subst hbridge
      refine (value?_bridge c rest).trans (c.bridge.isSection.descend_splitOn fun hrest => ?_)
      obtain ⟨f, hf, rfl⟩ := List.mem_map.1 hrest
      exact hpaths ⟨f, hf, rfl⟩
    rw [value?, splitOn_of_field hname, toDatum, descend_map, hsections name hserver hbridge,
      Option.bind_none]

end Configuration

end DeviceLink
