import Mathlib
import DeviceLink.Proofs.Configuration.Text
import DeviceLink.Proofs.Files.Writing
/-!
# Configurations — round trips through files

A saved configuration is loaded as it was, and saving what was loaded leaves the
files as they are; a file that holds only part of one is loaded with standard
values for the rest (`survives_file`). Saving prepares the directory the file
belongs in and writes the text there (`save_cases`), and both can be done again
without changing anything.
-/

namespace DeviceLink

namespace Configuration

variable {files saved : FileTree} {path text : String} {c : Configuration}

/-! ## Loading -/

/-- Loading is reading the file's text and the configuration in it. -/
theorem load_of_readText (h : files.readText path = .ok text) : load files path = ofText text := by
  have hthere : files.contains path = true := by
    cases hl : files.look path with
    | ok node => simp [FileTree.contains, hl]
    | error e =>
      rw [FileTree.readText, hl] at h
      cases h
  rw [load, if_pos hthere, h]

/-! ## Saving -/

theorem eq_ok_of_mapError {ε ε' α : Type} {x : Except ε α} {f : ε → ε'} {a : α}
    (h : x.mapError f = .ok a) : x = .ok a := by
  cases x with
  | ok b =>
    cases h
    rfl
  | error e => cases h

/-- The directory a file belongs in, made if there is one to make. -/
def prepare (files : FileTree) (path : String) : Except ConfigError FileTree :=
  match Path.parent? path with
  | none => .ok files
  | some directory =>
    (files.makeDirectories (Path.parts directory).reverse).mapError .noDirectory

theorem save_eq (files : FileTree) (path : String) (c : Configuration) :
    save files path c =
      (prepare files path).bind fun ready =>
        (ready.writeText path c.toText).mapError .unwritable := by
  unfold save prepare
  cases Path.parent? path <;> rfl

/-- Saving prepares the directory and writes the text. -/
theorem save_cases (h : save files path c = .ok saved) :
    ∃ ready, prepare files path = .ok ready ∧ ready.writeText path c.toText = .ok saved := by
  rw [save_eq] at h
  cases hready : prepare files path with
  | error e =>
    rw [hready] at h
    cases h
  | ok ready =>
    rw [hready] at h
    exact ⟨ready, rfl, eq_ok_of_mapError h⟩

/-- The directory is still prepared after the file is written. -/
theorem prepare_writeText {ready : FileTree} (hready : prepare files path = .ok ready)
    (hsaved : ready.writeText path text = .ok saved) : prepare saved path = .ok saved := by
  unfold prepare at hready ⊢
  cases hparent : Path.parent? path with
  | none => rfl
  | some directory =>
    rw [hparent] at hready
    have hmade := FileTree.makeDirectories_resolve (eq_ok_of_mapError hready)
    have hstill := FileTree.resolve_writeText hsaved hmade
    simp only [FileTree.makeDirectories_of_resolve hstill]
    rfl

theorem readText_save (h : save files path c = .ok saved) :
    saved.readText path = .ok c.toText := by
  obtain ⟨ready, -, hsaved⟩ := save_cases h
  exact FileTree.readText_writeText hsaved

theorem save_save (h : save files path c = .ok saved) : save saved path c = .ok saved := by
  obtain ⟨ready, hready, hsaved⟩ := save_cases h
  rw [save_eq, prepare_writeText hready hsaved]
  change (saved.writeText path c.toText).mapError ConfigError.unwritable = .ok saved
  rw [FileTree.writeText_writeText hsaved]
  rfl

theorem load_save (h : save files path c = .ok saved) : load saved path = .ok c := by
  rw [load_of_readText (readText_save h), ofText_toText]

/-! ## Round trips -/

/-- **Configurations survive their files.** A configuration's text is accepted and gives the
configuration back; so a saved configuration is loaded as it was, and saving what was loaded
changes nothing. When some sections are left out of the text, and some fields of those that are
kept, the fields that are left have their values, and all others the standard ones. -/
theorem survives_file (c : Configuration) :
    ofText c.toText = .ok c ∧
    (∀ files path saved, save files path c = .ok saved →
      saved.readText path = .ok c.toText ∧ load saved path = .ok c ∧
        (do save saved path (← load saved path)) = .ok saved) ∧
    (∀ s, (c.partText s).toList.Sublist c.toText.toList ∧
      ofText (c.partText s) = .ok (c.keeping s)) ∧
    ∀ s files path, files.readText path = .ok (c.partText s) →
      load files path = .ok (c.keeping s) := by
  refine ⟨ofText_toText c, fun files path saved h => ⟨readText_save h, load_save h, ?_⟩,
    fun s => ⟨partText_sublist s c, ofText_partText s c⟩, fun s files path h => ?_⟩
  · rw [load_save h]
    exact save_save h
  · rw [load_of_readText h, ofText_partText]

/-- A configuration whose texts need quotes, escapes and several lines. -/
def quoted : Configuration where
  server :=
    { logLevel := .warn
      crop := some ""
      codecOptions := some "say \"hi\" and ''' \\ \x00"
      encoderName := some "one\ntwo\"\""
      portRange := .single 27183
      lockVideoOrientation := -1
      remoteUrl := some "http://[::1]:8080/" }
  bridge := { adbPath := some "C:\\tools\\adb", serverPath := none }

/-- The codec options and the second section of `quoted`. -/
def codecAndBridge : Selection where
  sections _ := true
  fields name key := name == "bridge" || key == "codec_options"

theorem quoted_survives_file :
    ∃ saved, save {} "a/b" quoted = .ok saved ∧ load saved "a/b" = .ok quoted ∧
      ∃ files, FileTree.writeText {} "c" (quoted.partText codecAndBridge) = .ok files ∧
        load files "c" = .ok (quoted.keeping codecAndBridge) := by
  have hparts : Path.parts "a/b" = ["a", "b"] := by cbv
  have hparent : Path.parent? "a/b" = some "a" := by cbv
  have habove : Path.parts "a" = ["a"] := by cbv
  have hpart : Path.parts "c" = ["c"] := by cbv
  have hready : prepare {} "a/b" = .ok (({} : FileTree).put ["a"] .directory) := by
    rw [prepare, hparent]
    simp only [habove]
    rfl
  have hsave : ∃ saved, save {} "a/b" quoted = .ok saved := by
    rw [save_eq, hready]
    generalize quoted.toText = text
    simp only [Except.bind, FileTree.writeText, FileTree.look, hparts]
    rw [if_neg (by decide)]
    exact ⟨_, rfl⟩
  have hwrite : ∃ files,
      FileTree.writeText {} "c" (quoted.partText codecAndBridge) = .ok files := by
    generalize quoted.partText codecAndBridge = text
    rw [FileTree.writeText, FileTree.look, hpart, if_neg (by decide)]
    exact ⟨_, rfl⟩
  obtain ⟨saved, hsave⟩ := hsave
  obtain ⟨files, hwrite⟩ := hwrite
  exact ⟨saved, hsave, ((survives_file quoted).2.1 {} _ saved hsave).2.1, files, hwrite,
    (survives_file quoted).2.2.2 codecAndBridge files _ (FileTree.readText_writeText hwrite)⟩

end Configuration

end DeviceLink
