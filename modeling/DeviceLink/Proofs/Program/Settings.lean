import DeviceLink.Proofs.Configuration.Keys
import DeviceLink.Proofs.Surroundings.Acts
import DeviceLink.Rehearsal.Desk
/-!
# Programs — which values are shown

Asked for the value under a key, the program shows what the section or the field
holds, and says that there is no such key where the text is none or names an option
that is not set. It never fails once the configuration is loaded, and shows nothing
else (`keys_answered`). A section is shown as a document that is read as the entries
that are set (`shows_display`).
-/

namespace DeviceLink

/-! ## Values -/

namespace Datum

/-- **How a value is shown.** -/
inductive Shows : Datum → String → Prop
  | text (s : String) : Shows (.text s) s
  | int (n : Int) : Shows (.int n) (toString n)
  | bool (b : Bool) : Shows (.bool b) (toString b)
  /-- A table is shown as a document with the entries that are set, sorted by their keys. -/
  | table {entries shown : List (String × Datum)} {text : String} :
      Toml.parse? text = some (.map shown) → shown.Perm (entries.filter (·.2.isSet)) →
      (shown.map (·.1)).Pairwise (· ≤ ·) → Shows (.map entries) text

variable {entries : List (String × Datum)}

theorem tidied_eq (entries : List (String × Datum)) :
    tidied entries = (entries.filter (·.2.isSet)).mergeSort fun a b => a.1 ≤ b.1 := rfl

theorem tidied_perm (entries : List (String × Datum)) :
    (tidied entries).Perm (entries.filter (·.2.isSet)) :=
  List.mergeSort_perm _ _

theorem tidied_sorted (entries : List (String × Datum)) :
    ((tidied entries).map (·.1)).Pairwise (· ≤ ·) := by
  rw [List.pairwise_map, tidied_eq]
  have hsorted : ((entries.filter (·.2.isSet)).mergeSort fun a b => decide (a.1 ≤ b.1)).Pairwise
      fun a b => decide (a.1 ≤ b.1) = true :=
    List.pairwise_mergeSort
      (fun a b c hab hbc => by simpa using String.le_trans (by simpa using hab) (by simpa using hbc))
      (fun a b => by simpa using String.le_total a.1 b.1) _
  exact hsorted.imp fun h => of_decide_eq_true h

end Datum

namespace Toml

open Datum

/-- A flat table is read back from its document, as the entries that are set. -/
theorem Flat.parse?_tidied {entries : List (String × Datum)} (h : Flat entries) :
    parse? (print (tidied entries)) = some (.map (tidied entries)) := by
  have hmem : ∀ e ∈ tidied entries, e ∈ entries ∧ e.2.isSet = true := fun e he =>
    List.mem_filter.1 ((tidied_perm entries).mem_iff.1 he)
  have hline : ∀ e ∈ tidied entries, (writeValue? e.2).isSome = true := fun e he =>
    (h.plain e (hmem e he).1).trans (hmem e he).2
  have hsections : sectionsOf (tidied entries) = [] := by
    refine List.filterMap_eq_nil_iff.2 fun e he => ?_
    have hsome := hline e he
    split
    · next inner heq =>
      rw [heq] at hsome
      cases hsome
    · rfl
  have hprintable : Printable (tidied entries) := {
    bare := fun e he => h.bare e (hmem e he).1
    nodup := (((tidied_perm entries).map (·.1)).nodup_iff).2
      (h.nodup.sublist (List.filter_sublist.map _))
    storable := fun e he => h.storable e (hmem e he).1
    sections := by simp [hsections] }
  have hshown : shown (tidied entries) = tidied entries := by
    rw [shown, hsections, lineEntries, List.filter_eq_self.2 hline]
    exact List.append_nil _
  rw [parse?_print hprintable, hshown]

end Toml

/-- **What stands under a key is shown.** -/
theorem Configuration.Stands.shows_display {c : Configuration} {key : String} {d : Datum}
    (h : c.Stands key d) (hset : d.isSet = true) : d.Shows d.display := by
  rcases h.shape with ⟨entries, rfl, hflat⟩ | hplain
  · exact .table hflat.parse?_tidied (Datum.tidied_perm entries) (Datum.tidied_sorted entries)
  · cases d with
    | text s => exact .text s
    | int n =>
      have hdisplay : (Datum.int n).display = toString n := String.ofList_toList
      rw [hdisplay]
      exact .int n
    | bool b => cases b <;> exact .bool _
    | null => cases hset
    | _ => cases hplain

/-! ## The command -/

namespace Program

variable {σ : Type} {D : Desk σ} {path : String} {s s' : σ} {c : Configuration}

/-- **Where a configuration comes from**: it is the standard one where there is no file,
and else the one that is loaded. -/
inductive Loads (D : Desk σ) (path : String) (s : σ) : Configuration → σ → Prop
  | standard : (D.files s).1.contains path = false → Loads D path s {} (D.files s).2
  | file {c : Configuration} : (D.files s).1.contains path = true →
      Configuration.load (D.files (D.files s).2).1 path = .ok c →
      Loads D path s c (D.files (D.files s).2).2

/-- Once the configuration is there, the value is shown and nothing fails. -/
theorem Loads.showValue_eq (h : Loads D path s c s') (key : String) :
    showValue D path key s = (.ok (), (presentValue D c key s').2) := by
  rcases h with hnone | ⟨hthere, hload⟩
  · rw [showValue, Act.bind_apply, if_neg (by simp [hnone])]
    rfl
  · rw [showValue, Act.bind_apply, if_pos hthere, Act.bind_apply, load, Act.bind_apply,
      Act.pure_apply]
    simp only [hload]
    rfl

theorem presentValue_of_some {d : Datum} {key : String} (h : c.value? key = some d) :
    presentValue D c key = D.result d.display := by
  simp only [presentValue, h]

theorem presentValue_of_none {key : String} (h : c.value? key = none) :
    presentValue D c key = D.notify .failure s!"Key not found: {key}" := by
  simp only [presentValue, h]

/-- **Keys are answered.** Once the configuration is loaded, or there is none to load,
the command for one value does not fail. Where the key is one of the configuration and
no option that is not set, it shows what the configuration holds there and nothing else:
a text as it is, numbers and truth values as they are written, and a section as a
document of what is set in it. For any other text it says that there is no such key,
and shows nothing else. -/
theorem keys_answered (h : Loads D path s c s') (key : String) :
    (key ∈ Configuration.keys ∧ (key, none) ∉ c.options →
      ∃ d text, c.Under key d ∧ d.Shows text ∧
        showValue D path key s = (.ok (), (D.result text s').2)) ∧
    (¬ (key ∈ Configuration.keys ∧ (key, none) ∉ c.options) →
      showValue D path key s = (.ok (), (D.notify .failure s!"Key not found: {key}" s').2)) := by
  rw [h.showValue_eq]
  constructor
  · rintro ⟨hkey, hoption⟩
    obtain ⟨d, hd⟩ := c.exists_stands hkey
    have hset : d.isSet = true := by
      rw [← Bool.not_eq_false]
      exact hd.unset.not.2 hoption
    have hfound := hd.found
    rw [if_pos hset] at hfound
    exact ⟨d, d.display, hd.under, hd.shows_display hset, by rw [presentValue_of_some hfound]⟩
  · intro hnot
    have hnone : c.value? key = none := by
      by_cases hkey : key ∈ Configuration.keys
      · obtain ⟨d, hd⟩ := c.exists_stands hkey
        have hunset : d.isSet = false := hd.unset.2 (by_contra fun hin => hnot ⟨hkey, hin⟩)
        rw [hd.found, hunset]
        rfl
      · exact c.value?_of_not_mem hkey
    rw [presentValue_of_none hnone]

/-- A desk with no files on it, and nothing shown yet. -/
def bare : Desk Rehearsal.World := Rehearsal.desk "adb"

theorem bare_loads : Loads bare "config.toml" {} {} {} := by
  have hparts : Path.parts "config.toml" = ["config.toml"] := by
    have hwhole : "config.toml".splitOn "/" = ["config.toml"] :=
      Text.splitOn_of_not_mem (x := '/') (by decide)
    rw [Path.parts, hwhole]
    decide
  have hlook : FileTree.look {} "config.toml" = .error .notFound := by
    rw [FileTree.look, if_neg (by decide), hparts]
    rfl
  have hnone : FileTree.contains {} "config.toml" = false := by
    rw [FileTree.contains, hlook]
  exact .standard hnone

/-- The standard bit rate is shown, and there is nothing behind one more point. -/
theorem standard_keys_answered :
    let key := "server.bit_rate"
    let beyond := "server.bit_rate."
    (∃ d text, Configuration.Under {} key d ∧ d.Shows text ∧
      showValue bare "config.toml" key {} = (.ok (), (bare.result text {}).2)) ∧
    showValue bare "config.toml" beyond {} =
      (.ok (), (bare.notify .failure s!"Key not found: {beyond}" {}).2) := by
  intro key beyond
  have hkeys : key ∈ Configuration.keys ∧ beyond ∉ Configuration.keys := by decide +kernel
  have hoption : (key, none) ∉ Configuration.options {} := by decide +kernel
  exact ⟨(keys_answered bare_loads key).1 ⟨hkeys.1, hoption⟩,
    (keys_answered bare_loads beyond).2 fun h => hkeys.2 h.1⟩

/-- **An option that is not set is not shown**, although it is a key. -/
theorem unset_option_not_shown :
    "server.crop" ∈ Configuration.keys ∧
      (showValue bare "config.toml" "server.crop" {}).2.shown =
        [(.faults, Notice.failure.line "Key not found: server.crop")] := by
  have hkey : "server.crop" ∈ Configuration.keys := by decide +kernel
  have hnone : Configuration.value? {} "server.crop" = none := by
    refine (Configuration.value?_server {} "crop").trans ?_
    rw [splitOn_of_section (by decide)]
    rfl
  rw [bare_loads.showValue_eq, presentValue_of_none hnone]
  exact ⟨hkey, rfl⟩

end Program

end DeviceLink
