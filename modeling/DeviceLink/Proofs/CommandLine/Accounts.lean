import DeviceLink.Proofs.CommandLine.LongForm
import Mathlib.Data.List.Perm.Basic
/-!
# Command lines — what is given is accounted for

An argument gives options: one by its long name, or several by their letters (`gives`).
Where the settings tell which options have been given (`Tells`), every reading accounts
for the arguments read so far: what has acted is held by the settings, once, and at most
one option still waits (`Accounted`). So arguments that are accepted give no option twice,
and the settings hold the options that were given and no others (`Tells.parse_perm`).
-/

namespace DeviceLink

namespace CommandLine

variable {α : Type} {g : Grammar α} {o : Switch α} {r r' : Reading α}

theorem bind_eq_ok {ε β γ : Type} {x : Except ε β} {f : β → Except ε γ} {c : γ}
    (h : x >>= f = .ok c) : ∃ b, x = .ok b ∧ f b = .ok c := by
  cases x with
  | error e => cases h
  | ok b => exact ⟨b, rfl, h⟩

/-! ## What an argument gives -/

/-- The option that has a long name. -/
def longGiven (g : Grammar α) (cs : List Char) : List String :=
  ((g.options.find? (·.long == String.ofList (cs.takeWhile (· ≠ '=')))).map (·.long)).toList

/-- The options that have the letters of a run. What follows the letter of an option with a
value is its value. -/
def lettersGiven (g : Grammar α) : List Char → List String
  | [] => []
  | c :: cs =>
    match g.options.find? (·.letter == some c) with
    | none => []
    | some o =>
      match o.effect with
      | .value _ _ _ => [o.long]
      | _ => o.long :: lettersGiven g cs

/-- **The options an argument gives**, by their long names. -/
def gives (g : Grammar α) (arg : String) : List String :=
  match arg.toList with
  | ['-', '-'] => []
  | '-' :: '-' :: cs => longGiven g cs
  | '-' :: cs => lettersGiven g cs
  | _ => []

/-- What an option that acts makes of the settings. -/
inductive Acts : Effect α → α → α → Prop
  | mark (set : α → α) (a : α) : Acts (.mark set) a (set a)
  | value {placeholder text : String} {negatives : Bool}
      {read : String → α → Except ValueFault α} {a b : α} :
      read text a = .ok b → Acts (.value placeholder negatives read) a b

/-- **Settings that tell which options have been given**, of a grammar of options alone
that each are given at most once. -/
structure Tells (g : Grammar α) (names : α → List String) : Prop where
  positions : g.positions = []
  subcommands : g.subcommands = []
  once : ∀ o ∈ g.options, ∀ add, o.effect ≠ .count add
  /-- No number is taken for a run of letters. -/
  letters : ∀ o ∈ g.options, ∀ c ∈ o.letter, c.isDigit = false
  acts : ∀ o ∈ g.options, ∀ a b, Acts o.effect a b → o.long ∉ names a →
    (names b).Perm (o.long :: names a)

/-- An option that acts does so once, and no other acts with it. -/
theorem Reading.apply_eq_ok (honce : ∀ add, o.effect ≠ .count add) {value : Option String}
    (h : r.apply g o value = .ok r') :
    o.long ∉ r.seen ∧ ∃ b, Acts o.effect r.settings b ∧
      r' = { r with settings := b, seen := o.long :: r.seen } := by
  obtain ⟨long, letter, effect⟩ := o
  cases effect with
  | mark set =>
    obtain ⟨r₁, hfirst, hset⟩ := bind_eq_ok h
    simp only at hfirst
    split at hfirst
    · cases hfirst
    · next hnew =>
      cases hfirst
      cases hset
      exact ⟨by simpa using hnew, _, .mark set _, rfl⟩
  | count add => exact absurd rfl (honce add)
  | value placeholder negatives read =>
    cases value with
    | none => cases h
    | some text =>
      obtain ⟨r₁, hfirst, hread⟩ := bind_eq_ok h
      simp only at hfirst
      split at hfirst
      · cases hfirst
      · next hnew =>
        cases hfirst
        simp only at hread
        split at hread
        · next b hb =>
          cases hread
          exact ⟨by simpa using hnew, b, .value hb, rfl⟩
        · cases hread
        · cases hread
  | help => cases h
  | version => cases h

theorem lettersGiven_of_isNumber {names : α → List String} (hg : Tells g names) {c : Char}
    {cs : List Char} (h : isNumber (c :: cs) = true) : lettersGiven g (c :: cs) = [] := by
  have hdigit : c.isDigit = true := by
    by_contra hnot
    simp [isNumber, isNumber.go, hnot] at h
  have hnone : g.options.find? (·.letter == some c) = none := by
    refine List.find?_eq_none.2 fun o ho heq => ?_
    have hletter := hg.letters o ho c (beq_iff_eq.1 heq)
    rw [hdigit] at hletter
    cases hletter
  rw [lettersGiven, hnone]

/-! ## Readings -/

/-- The option that waits to act. -/
def Reading.waiting (r : Reading α) : List String := (r.pending.map (·.1.long)).toList

/-- **A reading accounts for the options that were given.** -/
structure Accounted (g : Grammar α) (names : α → List String) (r : Reading α)
    (given : List String) : Prop where
  /-- Each has acted or waits. -/
  told : (r.waiting ++ r.seen).Perm given
  held : (names r.settings).Perm r.seen
  nodup : r.seen.Nodup
  known : ∀ p ∈ r.pending, p.1 ∈ g.options

namespace Accounted

variable {names : α → List String} {given : List String}

theorem perm {given' : List String} (h : Accounted g names r given) (hperm : given.Perm given') :
    Accounted g names r given' :=
  { h with told := h.told.trans hperm }

theorem seen_perm (h : Accounted g names r given) (hpending : r.pending = none) :
    r.seen.Perm given := by
  have htold := h.told
  rwa [Reading.waiting, hpending] at htold

theorem waiting_perm (h : Accounted g names r given) {value : Option String}
    (hpending : r.pending = some (o, value)) : (o.long :: r.seen).Perm given := by
  have htold := h.told
  rwa [Reading.waiting, hpending] at htold

/-- An option acts once, and is accounted for. -/
theorem apply (hg : Tells g names) (h : Accounted g names r given) (hpending : r.pending = none)
    (ho : o ∈ g.options) {value : Option String} (happly : r.apply g o value = .ok r') :
    Accounted g names r' (o.long :: given) ∧ r'.pending = none := by
  obtain ⟨hnew, b, hacts, rfl⟩ := Reading.apply_eq_ok (hg.once o ho) happly
  refine ⟨⟨?_, ?_, List.nodup_cons.2 ⟨hnew, h.nodup⟩, h.known⟩, hpending⟩
  · rw [Reading.waiting, hpending]
    exact (h.seen_perm hpending).cons o.long
  · have hnew' : o.long ∉ names r.settings := fun hin => hnew (h.held.mem_iff.1 hin)
    exact (hg.acts o ho _ _ hacts hnew').trans (h.held.cons o.long)

theorem settle (hg : Tells g names) (h : Accounted g names r given)
    (hsettle : r.settle g = .ok r') : Accounted g names r' given ∧ r'.pending = none := by
  rw [Reading.settle] at hsettle
  split at hsettle
  · next hpending =>
    cases hsettle
    exact ⟨h, hpending⟩
  · next o value hpending =>
    have hseen : Accounted g names { r with pending := none } r.seen :=
      ⟨.refl _, h.held, h.nodup, fun p hp => absurd hp (Option.not_mem_none p)⟩
    have ho : o ∈ g.options := h.known (o, value) hpending
    obtain ⟨hnext, hnone⟩ := hseen.apply hg rfl ho hsettle
    exact ⟨hnext.perm (h.waiting_perm hpending), hnone⟩

theorem take (hg : Tells g names) (h : Accounted g names r given) (ho : o ∈ g.options)
    {value : Option String} (htake : r.take g o value = .ok r') :
    Accounted g names r' (o.long :: given) := by
  obtain ⟨r₁, hsettle, htake⟩ := bind_eq_ok htake
  obtain ⟨hsettled, hpending⟩ := h.settle hg hsettle
  split at htake
  · next heffect =>
    cases htake
    refine ⟨(hsettled.seen_perm hpending).cons o.long, hsettled.held, hsettled.nodup, fun p hp => ?_⟩
    cases hp
    exact ho
  · exact (hsettled.apply hg hpending ho htake).1

theorem takeLong (hg : Tells g names) (h : Accounted g names r given) {cs : List Char}
    (htake : r.takeLong g cs = .ok r') : Accounted g names r' (longGiven g cs ++ given) := by
  simp only [Reading.takeLong] at htake
  split at htake
  · cases htake
  · next o hfound =>
    have hgiven : longGiven g cs = [o.long] := by rw [longGiven, hfound]; rfl
    have hnext : ∃ value, r.take g o value = .ok r' := by
      split at htake
      · exact ⟨_, htake⟩
      · exact ⟨_, htake⟩
      · cases htake
    obtain ⟨value, hnext⟩ := hnext
    rw [hgiven]
    exact h.take hg (List.mem_of_find?_eq_some hfound) hnext

theorem takeLetters (hg : Tells g names) {cs : List Char} (h : Accounted g names r given)
    (htake : Reading.takeLetters g cs r = .ok r') :
    Accounted g names r' (lettersGiven g cs ++ given) := by
  induction cs generalizing r given with
  | nil =>
    cases htake
    exact h
  | cons c cs ih =>
    rw [Reading.takeLetters.eq_def] at htake
    simp only at htake
    split at htake
    · cases htake
    · next o hfound =>
      have ho := List.mem_of_find?_eq_some hfound
      split at htake
      · next heffect =>
        have hgiven : lettersGiven g (c :: cs) = [o.long] := by
          simp only [lettersGiven, hfound, heffect]
        rw [hgiven]
        exact h.take hg ho htake
      · next heffect =>
        have hgiven : lettersGiven g (c :: cs) = o.long :: lettersGiven g cs := by
          simp only [lettersGiven, hfound]
        obtain ⟨r₁, hfirst, hrest⟩ := bind_eq_ok htake
        rw [hgiven]
        exact (ih (h.take hg ho hfirst) hrest).perm List.perm_middle

theorem not_takePosition (hg : Tells g names) {text : String} :
    r.takePosition g text ≠ .ok r' := by
  simp [Reading.takePosition, hg.positions, hg.subcommands]

theorem takePlain (hg : Tells g names) (h : Accounted g names r given) {arg : String}
    (htake : r.takePlain g arg = .ok r') : Accounted g names r' given := by
  rw [Reading.takePlain, Reading.awaiting.eq_def] at htake
  split at htake
  · next o hawaiting =>
    have hpending : r.pending = some (o, none) := by
      split at hawaiting
      · next heq =>
        cases hawaiting
        exact heq
      · cases hawaiting
    cases htake
    refine ⟨h.waiting_perm hpending, h.held, h.nodup, fun p hp => ?_⟩
    cases hp
    exact h.known (o, none) hpending
  · exact absurd htake (not_takePosition hg)

/-- One more argument is accounted for. -/
theorem scan_cons (hg : Tells g names) (h : Accounted g names r given) {arg : String}
    {rest : List String} {outcome : Outcome α} (hscan : scan g (arg :: rest) r = .ok outcome) :
    ∃ r₁, Accounted g names r₁ (gives g arg ++ given) ∧ scan g rest r₁ = .ok outcome := by
  rw [scan_cons_eq hg.subcommands] at hscan
  split at hscan
  · obtain ⟨r₁, hfirst, -⟩ := bind_eq_ok hscan
    exact absurd hfirst (not_takePosition hg)
  -- a lone minus sign, the mark behind which only positions follow, a long name, letters,
  -- and a text that is no option
  split at hscan
  · next harg =>
    obtain ⟨r₁, hfirst, hrest⟩ := bind_eq_ok hscan
    have hgives : gives g arg = [] := by
      simp only [gives, harg]
      rfl
    exact ⟨r₁, hgives ▸ h.takePlain hg hfirst, hrest⟩
  · next harg =>
    have hgives : gives g arg = [] := by simp only [gives, harg]
    exact ⟨_, hgives ▸ ⟨h.told, h.held, h.nodup, h.known⟩, hscan⟩
  · next cs _ harg =>
    obtain ⟨r₁, hfirst, hrest⟩ := bind_eq_ok hscan
    have hgives : gives g arg = longGiven g cs := by simp only [gives, harg]
    exact ⟨r₁, hgives ▸ h.takeLong hg hfirst, hrest⟩
  · next cs hne _ _ harg =>
    have hgives : gives g arg = lettersGiven g cs := by simp only [gives, harg]
    split at hscan
    · -- A negative number is a value, and no letter is a digit.
      next hnumber =>
      obtain ⟨c, cs, rfl⟩ := List.exists_cons_of_ne_nil hne
      obtain ⟨r₁, hfirst, hrest⟩ := bind_eq_ok hscan
      rw [lettersGiven_of_isNumber hg (Bool.and_eq_true_iff.1 hnumber).1] at hgives
      exact ⟨r₁, hgives ▸ h.takePlain hg hfirst, hrest⟩
    · obtain ⟨r₁, hfirst, hrest⟩ := bind_eq_ok hscan
      exact ⟨r₁, hgives ▸ h.takeLetters hg hfirst, hrest⟩
  · obtain ⟨r₁, hfirst, hrest⟩ := bind_eq_ok hscan
    have hgives : gives g arg = [] := by
      rw [gives]
      split <;> simp_all
    exact ⟨r₁, hgives ▸ h.takePlain hg hfirst, hrest⟩

/-- **Every reading accounts for the arguments** that led to it. -/
theorem scan (hg : Tells g names) (h : Accounted g names r given) {args : List String}
    {outcome : Outcome α} (hscan : scan g args r = .ok outcome) :
    ∃ r', outcome = .done r' ∧ Accounted g names r' (args.flatMap (gives g) ++ given) := by
  induction args generalizing r given with
  | nil =>
    cases hscan
    exact ⟨r, rfl, h⟩
  | cons arg rest ih =>
    obtain ⟨r₁, hfirst, hrest⟩ := h.scan_cons hg hscan
    obtain ⟨r', rfl, hlast⟩ := ih hfirst hrest
    refine ⟨r', rfl, hlast.perm ?_⟩
    rw [List.flatMap_cons, ← List.append_assoc]
    exact List.perm_append_comm.append_right given

end Accounted

/-- **What is accepted gives no option twice**, and the settings hold what was given. -/
theorem Tells.parse_perm {names : α → List String} (hg : Tells g names) {args : List String}
    {standard a : α} (hstandard : names standard = []) (hparse : parse g args standard = .ok a) :
    (names a).Perm (args.flatMap (gives g)) ∧ (args.flatMap (gives g)).Nodup := by
  obtain ⟨outcome, hscan, hfinish⟩ := bind_eq_ok hparse
  have hstart : Accounted g names { settings := standard } [] :=
    ⟨.refl _, hstandard ▸ .refl _, List.nodup_nil, fun p hp => absurd hp (Option.not_mem_none p)⟩
  obtain ⟨r, rfl, hr⟩ := hstart.scan hg hscan
  obtain ⟨r', hsettle, hdone⟩ := bind_eq_ok hfinish
  obtain ⟨hr', hpending⟩ := hr.settle hg hsettle
  have hsettings : r'.settings = a := by
    simp only [hg.subcommands, hg.positions] at hdone
    simpa using hdone
  have hgiven := hr'.seen_perm hpending
  rw [List.append_nil] at hgiven
  exact ⟨hsettings ▸ hr'.held.trans hgiven, (hgiven.nodup_iff).1 hr'.nodup⟩

end CommandLine

end DeviceLink
