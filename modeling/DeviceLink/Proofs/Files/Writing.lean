import DeviceLink.Files.Tree
import DeviceLink.Proofs.Text.Utf8
/-!
# Files — what has been written is read

A text is read back from the path it was written to (`readText_writeText`). A
path leads somewhere if every part of it before the last is a directory
(`resolve_eq_ok`), and writing puts a file where directories lead and none
stands; so it leaves every directory where it was, and writing the same once
more changes nothing.
-/

namespace DeviceLink

namespace FileTree

variable {t t' : FileTree} {parts other : List String} {node : FileNode} {path text : String}

/-! ## Looking -/

/-- A path leads somewhere if directories lead all the way to it. -/
theorem resolve_eq_ok : t.resolve parts = .ok node ↔
    (∀ k < parts.length, t.at? (parts.take k) = some .directory) ∧ t.at? parts = some node := by
  have habove : ((List.range parts.length).map parts.take).find?
      (fun p => t.at? p != some .directory) = none ↔
      ∀ k < parts.length, t.at? (parts.take k) = some .directory := by
    simp [List.find?_eq_none]
  unfold resolve
  simp only
  split
  · next p hp =>
    have hno := fun h => (Option.some_ne_none p) (hp.symm.trans (habove.2 h))
    constructor
    · intro h
      cases h
    · exact fun h => absurd h.1 hno
  · next hp =>
    have hall := habove.1 hp
    split
    · next n hn =>
      rw [hn]
      constructor
      · rintro ⟨⟩
        exact ⟨hall, rfl⟩
      · rintro ⟨-, ⟨⟩⟩
        rfl
    · next hn =>
      rw [hn]
      constructor
      · intro h
        cases h
      · rintro ⟨-, ⟨⟩⟩

/-! ## Putting -/

theorem at?_put_of_ne (h : other ≠ parts) (node : FileNode) :
    (t.put parts node).at? other = t.at? other := by
  unfold at?
  split
  · rfl
  · rfl
  · congr 1
    have hne : (parts == other) = false := by simpa using fun heq : parts = other => h heq.symm
    simp only [put, List.find?_cons, hne, List.find?_filter]
    congr 1
    funext x
    by_cases hx : x.1 = other
    · simp [hx, h]
    · simp [hx]

theorem at?_put_directory (t : FileTree) (parts : List String) :
    (t.put parts .directory).at? parts = some .directory := by
  unfold at?
  split
  · rfl
  · rfl
  · simp [put]

/-- What is put where no directory is. -/
theorem at?_put_self (h : t.at? parts ≠ some .directory) (node : FileNode) :
    (t.put parts node).at? parts = some node := by
  unfold at? at h ⊢
  split
  · exact absurd rfl h
  · exact absurd rfl h
  · simp [put]

theorem put_put (t : FileTree) (parts : List String) (node : FileNode) :
    (t.put parts node).put parts node = t.put parts node := by
  simp [put, List.filter_filter]

/-- A directory is where it was after something is put where no directory is. -/
theorem resolve_put_directory (hnew : t.at? parts ≠ some .directory)
    (h : t.resolve other = .ok .directory) (node : FileNode) :
    (t.put parts node).resolve other = .ok .directory := by
  have hsame : ∀ p, t.at? p = some .directory → (t.put parts node).at? p = some .directory := by
    intro p hp
    have hne : p ≠ parts := fun heq => hnew (by rw [← heq, hp])
    rw [at?_put_of_ne hne, hp]
  obtain ⟨habove, hat⟩ := resolve_eq_ok.1 h
  exact resolve_eq_ok.2 ⟨fun k hk => hsame _ (habove k hk), hsame _ hat⟩

theorem take_ne_self {k : Nat} (h : k < parts.length) : parts.take k ≠ parts := fun heq => by
  have := congrArg List.length heq
  rw [List.length_take] at this
  omega

/-- What is put where directories lead is there. -/
theorem resolve_put (habove : ∀ k < parts.length, t.at? (parts.take k) = some .directory)
    (hat : (t.put parts node).at? parts = some node) :
    (t.put parts node).resolve parts = .ok node :=
  resolve_eq_ok.2 ⟨fun k hk => by rw [at?_put_of_ne (take_ne_self hk), habove k hk], hat⟩

/-- Directories lead to a path if they lead to the one it lies in. -/
theorem above_of_dropLast (h : t.resolve parts.dropLast = .ok .directory) :
    ∀ k < parts.length, t.at? (parts.take k) = some .directory := by
  intro k hk
  obtain ⟨habove, hat⟩ := resolve_eq_ok.1 h
  rw [List.length_dropLast] at habove
  by_cases hlast : k < parts.length - 1
  · have := habove k hlast
    rwa [List.dropLast_eq_take, List.take_take, Nat.min_eq_left (by omega)] at this
  · rw [List.dropLast_eq_take] at hat
    rwa [show k = parts.length - 1 by omega]

/-! ## Making directories -/

theorem makeDirectory_resolve (h : t.makeDirectory parts = .ok t') :
    t'.resolve parts = .ok .directory := by
  unfold makeDirectory at h
  split at h
  · cases h
  · split at h <;> cases h
    next hparent => exact resolve_put (above_of_dropLast hparent) (at?_put_directory t parts)

/-- One step of making directories: a directory that is there is left as it is. -/
def ensureDirectory (t : FileTree) (parts : List String) : Except IoError FileTree :=
  match t.resolve parts with
  | .ok .directory => .ok t
  | _ => t.makeDirectory parts

theorem makeDirectories_cons (t : FileTree) (name : String) (above : List String) :
    t.makeDirectories (name :: above) =
      match t.ensureDirectory (name :: above).reverse with
      | .error .notFound => do (← t.makeDirectories above).ensureDirectory (name :: above).reverse
      | r => r := rfl

theorem ensureDirectory_of_resolve (h : t.resolve parts = .ok .directory) :
    t.ensureDirectory parts = .ok t := by
  simp only [ensureDirectory, h]

theorem ensureDirectory_resolve (h : t.ensureDirectory parts = .ok t') :
    t'.resolve parts = .ok .directory := by
  unfold ensureDirectory at h
  split at h
  · next hdir =>
    cases h
    exact hdir
  · exact makeDirectory_resolve h

/-- The directory that is made is there, with those that lead to it. -/
theorem makeDirectories_resolve {above : List String} (h : t.makeDirectories above = .ok t') :
    t'.resolve above.reverse = .ok .directory := by
  cases above with
  | nil => rfl
  | cons name above =>
    rw [makeDirectories_cons] at h
    split at h
    · cases hu : t.makeDirectories above with
      | error e =>
        rw [hu] at h
        cases h
      | ok u =>
        rw [hu] at h
        exact ensureDirectory_resolve h
    · exact ensureDirectory_resolve h

theorem makeDirectories_of_resolve {above : List String}
    (h : t.resolve above.reverse = .ok .directory) : t.makeDirectories above = .ok t := by
  cases above with
  | nil => rfl
  | cons name above => rw [makeDirectories_cons, ensureDirectory_of_resolve h]

/-! ## Writing -/

/-- Where a text has been written: directories lead there, and no directory was there. -/
theorem writeText_cases (h : t.writeText path text = .ok t') :
    path ≠ "" ∧ t' = t.put (Path.parts path) (.file (Utf8.encode text.toList)) ∧
      (∀ k < (Path.parts path).length, t.at? ((Path.parts path).take k) = some .directory) ∧
      t.at? (Path.parts path) ≠ some .directory := by
  have hpath : path ≠ "" := by
    rintro rfl
    simp [writeText, look] at h
  have hlook : t.look path = t.resolve (Path.parts path) := if_neg hpath
  simp only [writeText, hlook, if_neg hpath] at h
  refine ⟨hpath, ?_⟩
  split at h
  · cases h
  · next hfile =>
    obtain ⟨habove, hat⟩ := resolve_eq_ok.1 hfile
    cases h
    exact ⟨rfl, habove, by simp [hat]⟩
  · next herror =>
    split at h <;> cases h
    next hparent =>
      have habove := above_of_dropLast hparent
      refine ⟨rfl, habove, fun hat => ?_⟩
      rw [resolve_eq_ok.2 ⟨habove, hat⟩] at herror
      cases herror

/-- **A file that has been written is there.** -/
theorem writeText_resolve (h : t.writeText path text = .ok t') :
    t'.look path = .ok (.file (Utf8.encode text.toList)) := by
  obtain ⟨hpath, rfl, habove, hnew⟩ := writeText_cases h
  rw [look, if_neg hpath]
  exact resolve_put habove (at?_put_self hnew _)

/-- **What has been written is read.** -/
theorem readText_writeText (h : t.writeText path text = .ok t') : t'.readText path = .ok text := by
  simp [readText, writeText_resolve h, Utf8.decode?_encode, bind, Except.bind]

/-- Writing the same once more changes nothing. -/
theorem writeText_writeText (h : t.writeText path text = .ok t') :
    t'.writeText path text = .ok t' := by
  have hlook := writeText_resolve h
  obtain ⟨-, rfl, -, -⟩ := writeText_cases h
  simp only [writeText, hlook, put_put]

/-- A directory that was there before a text is written is there after it. -/
theorem resolve_writeText (h : t.writeText path text = .ok t')
    (hdir : t.resolve other = .ok .directory) : t'.resolve other = .ok .directory := by
  obtain ⟨-, rfl, -, hnew⟩ := writeText_cases h
  exact resolve_put_directory hnew hdir _

end FileTree

end DeviceLink
