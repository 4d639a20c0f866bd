import DeviceLink.Proofs.Tunnel.Walk
import DeviceLink.Proofs.Connection.Quiet
import Mathlib.Data.List.Induction
/-!
# Tunnels — the ledger of mappings

A mapping that was made is owed its removal. `Trace.Accounted` says of a whole
trace what this asks for: which mapping is still in place, that every other one
was removed once and before the next was asked for, and that nothing else was
removed. It speaks of positions and is awkward to carry along; `Trace.books`
reads the trace from its beginning and keeps the one removal that is owed, and
`accounted_of_books` says that a trace it can read is accounted for.
-/

namespace DeviceLink

/-- A removal that is owed: for which device, and by which command. -/
abbrev Due := Option String × BridgeCommand

/-- The command that removes what a command maps. A reverse mapping goes by the
name of the agent's socket, a forward one by its port. -/
def BridgeCommand.undo? : BridgeCommand → Option BridgeCommand
  | .reverse _ _ => some (.reverseRemove Agent.socketName)
  | .forward port _ => some (.forwardRemove port)
  | _ => none

namespace Event

/-- Whether a mapping was asked for. -/
def isMapping : Event → Bool
  | .bridge _ c _ => c.undo?.isSome
  | _ => false

/-- What is owed for the mapping that was made, if one was. -/
def made? : Event → Option Due
  | .bridge serial c (.ok ()) => c.undo?.map (serial, ·)
  | _ => none

/-- The removal that was asked for, if one was. -/
def removal? : Event → Option Due
  | .bridge serial c _ => if c.isRemoval then some (serial, c) else none
  | _ => none

theorem made?_eq_none {e : Event} (h : e.isMapping = false) : e.made? = none := by
  cases e with
  | bridge serial c r =>
      rcases r with _ | ⟨⟩
      · rfl
      · simp only [isMapping, Option.isSome_eq_false_iff, Option.isNone_iff_eq_none] at h
        simp only [made?, h, Option.map_none]
  | _ => rfl

theorem isMapping_of_isQuiet {e : Event} (h : e.isQuiet = true) : e.isMapping = false := by
  cases e with
  | bridge _ _ _ => cases h
  | _ => rfl

theorem removal?_of_isQuiet {e : Event} (h : e.isQuiet = true) : e.removal? = none := by
  cases e with
  | bridge _ _ _ => cases h
  | _ => rfl

end Event

namespace Trace

/-! ## Accounts, by position -/

/-- An event of a kind stands at a position. -/
def At (t : Trace) (i : Nat) (p : Event → Prop) : Prop := ∃ e, t[i]? = some e ∧ p e

/-- A mapping that was made stands at a position. -/
def MadeAt (t : Trace) (i : Nat) : Prop := t.At i fun e => e.made?.isSome

/-- The mapping made at a position has its own removal at another: the one it
is owed, after it and before the next mapping is asked for. -/
def RemovedAt (t : Trace) (i j : Nat) : Prop :=
  i < j ∧ (∃ d, t.At i (·.made? = some d) ∧ t.At j (·.removal? = some d)) ∧
    ∀ k, i < k → k < j → ¬ t.At k (·.isMapping = true)

/-- The mapping made at a position is still in place. -/
def InPlace (t : Trace) (i : Nat) : Prop := t.MadeAt i ∧ ∀ j, ¬ t.RemovedAt i j

/-- **The mappings of a trace are accounted for**, one of them still in place
or none. -/
structure Accounted (t : Trace) (held : Bool) : Prop where
  held_iff : held = true ↔ ∃ i, t.InPlace i
  /-- At most one mapping is in place. -/
  sole : ∀ i j, t.InPlace i → t.InPlace j → i = j
  /-- Every other one was removed exactly once. -/
  once : ∀ i, t.MadeAt i → ¬ t.InPlace i → ∃! j, t.RemovedAt i j
  /-- Nothing else was removed. -/
  paired : ∀ j, t.At j (fun e => e.removal?.isSome) → ∃ i, t.RemovedAt i j

/-! ## Accounts, read from the beginning -/

/-- What is owed after one more event. There is nothing to say when a mapping
is asked for while one is in place, or when what is removed is not owed. -/
def book : Option Due → Event → Option (Option Due)
  | none, e => if e.removal?.isSome then none else some e.made?
  | some d, e =>
    if e.isMapping then none
    else match e.removal? with
      | none => some (some d)
      | some d' => if d' = d then some none else none

/-- What is owed after a trace. -/
def books (o : Option Due) (t : Trace) : Option (Option Due) := t.foldlM book o

@[simp] theorem books_nil (o : Option Due) : books o [] = some o := rfl

@[simp] theorem books_cons (o : Option Due) (e : Event) (t : Trace) :
    books o (e :: t) = (book o e).bind (books · t) := rfl

theorem books_append (o : Option Due) (t t' : Trace) :
    books o (t ++ t') = (books o t).bind (books · t') := List.foldlM_append

/-- An event that asks for no mapping and no removal leaves the books alone. -/
theorem book_eq_self {o : Option Due} {e : Event} (hm : e.isMapping = false)
    (hr : e.removal? = none) : book o e = some o := by
  cases o with
  | none => simp [book, hr, Event.made?_eq_none hm]
  | some d => simp [book, hm, hr]

theorem books_quiet {o : Option Due} {t : Trace} (h : Quiet t) : books o t = some o := by
  induction t with
  | nil => rfl
  | cons e t ih =>
      have he := h e List.mem_cons_self
      rw [books_cons, book_eq_self (Event.isMapping_of_isQuiet he) (Event.removal?_of_isQuiet he)]
      exact ih fun e' he' => h e' (List.mem_cons_of_mem e he')

/-! ## One from the other -/

section Concat

variable {t : Trace} {e : Event} {i j : Nat}

theorem at_concat {p : Event → Prop} :
    (t ++ [e]).At i p ↔ t.At i p ∨ i = t.length ∧ p e := by
  unfold At
  -- The position is within the trace, the new one, or beyond both.
  rcases Nat.lt_trichotomy i t.length with h | rfl | h
  · simp [List.getElem?_append_left h, Nat.ne_of_lt h]
  · simp
  · have hi : (t ++ [e]).length ≤ i := by simp; omega
    simp [List.getElem?_eq_none hi, List.getElem?_eq_none (Nat.le_of_lt h), Nat.ne_of_gt h]

theorem At.lt_length {p : Event → Prop} (h : t.At i p) : i < t.length := by
  obtain ⟨e, he, -⟩ := h
  exact (List.getElem?_eq_some_iff.1 he).1

theorem At.isSome {d : Due} {f : Event → Option Due} (h : t.At i (f · = some d)) :
    t.At i fun e => (f e).isSome := by
  obtain ⟨e, he, hd⟩ := h
  exact ⟨e, he, by simp only [hd, Option.isSome_some]⟩

theorem RemovedAt.lt_length (h : t.RemovedAt i j) : j < t.length := by
  obtain ⟨-, ⟨d, -, hj⟩, -⟩ := h
  exact hj.lt_length

/-- A removal in the longer trace is one in the shorter, or the last event. -/
theorem removedAt_concat : (t ++ [e]).RemovedAt i j ↔
    t.RemovedAt i j ∨ j = t.length ∧ (∃ d, t.At i (·.made? = some d) ∧ e.removal? = some d) ∧
      ∀ k, i < k → ¬ t.At k (·.isMapping = true) := by
  constructor
  · rintro ⟨hij, ⟨d, hi, hj⟩, hk⟩
    have hi : t.At i (·.made? = some d) := by
      rcases at_concat.1 hi with hi | ⟨rfl, -⟩
      · exact hi
      · have := hj.lt_length
        simp only [List.length_append, List.length_singleton] at this
        omega
    rcases at_concat.1 hj with hj | ⟨rfl, he⟩
    · exact .inl ⟨hij, ⟨d, hi, hj⟩, fun k h h' hm => hk k h h' (at_concat.2 (.inl hm))⟩
    · exact .inr ⟨rfl, ⟨d, hi, he⟩, fun k h hm => hk k h hm.lt_length (at_concat.2 (.inl hm))⟩
  · rintro (⟨hij, ⟨d, hi, hj⟩, hk⟩ | ⟨rfl, ⟨d, hi, he⟩, hk⟩)
    · refine ⟨hij, ⟨d, at_concat.2 (.inl hi), at_concat.2 (.inl hj)⟩, fun k h h' hm => ?_⟩
      rcases at_concat.1 hm with hm | ⟨rfl, -⟩
      · exact hk k h h' hm
      · have := hj.lt_length
        omega
    · refine ⟨hi.lt_length, ⟨d, at_concat.2 (.inl hi), at_concat.2 (.inr ⟨rfl, he⟩)⟩,
        fun k h h' hm => ?_⟩
      rcases at_concat.1 hm with hm | ⟨rfl, -⟩
      · exact hk k h hm
      · omega

end Concat

/-- The three ways in which books are kept. -/
theorem book_cases {o o' : Option Due} {e : Event} (h : book o e = some o') :
    (e.made? = none ∧ e.removal? = none ∧ o' = o ∧ (o.isSome → e.isMapping = false)) ∨
    (∃ d, o = none ∧ o' = some d ∧ e.made? = some d ∧ e.removal? = none) ∨
    (∃ d, o = some d ∧ o' = none ∧ e.removal? = some d ∧ e.isMapping = false) := by
  cases o with
  | none =>
      simp only [book] at h
      split at h
      · cases h
      · next hr =>
          have hr : e.removal? = none := by simpa using hr
          cases h
          rcases hm : e.made? with _ | d
          · exact .inl ⟨rfl, hr, rfl, fun h => by cases h⟩
          · exact .inr (.inl ⟨d, rfl, rfl, rfl, hr⟩)
  | some d =>
      simp only [book] at h
      split at h
      · cases h
      · next hm =>
          have hm : e.isMapping = false := by simpa using hm
          rcases hr : e.removal? with _ | d' <;> simp only [hr] at h
          · cases h
            exact .inl ⟨Event.made?_eq_none hm, rfl, rfl, fun _ => hm⟩
          · split at h
            · next hd => cases h; exact .inr (.inr ⟨d, rfl, rfl, hd ▸ rfl, hm⟩)
            · cases h

/-- The mapping made at a position is the last that was asked for, and its
removal is owed. -/
def OwedAt (t : Trace) (d : Due) (i : Nat) : Prop :=
  t.At i (·.made? = some d) ∧
    ∀ k, i < k → ¬ t.At k (·.isMapping = true) ∧ ¬ t.At k (fun e => e.removal?.isSome)

/-- What the books say of the positions: a mapping that was made is owed its
removal now, or had it once. -/
structure Booked (t : Trace) (o : Option Due) : Prop where
  owed : ∀ d, o = some d → ∃ i, t.OwedAt d i
  settled : ∀ i, t.MadeAt i → (∃ d, o = some d ∧ t.OwedAt d i) ∨ ∃! j, t.RemovedAt i j
  paired : ∀ j, t.At j (fun e => e.removal?.isSome) → ∃ i, t.RemovedAt i j

theorem OwedAt.not_removedAt {t : Trace} {d : Due} {i j : Nat} (h : t.OwedAt d i) :
    ¬ t.RemovedAt i j := by
  rintro ⟨hij, ⟨d', -, hj⟩, -⟩
  exact (h.2 j hij).2 hj.isSome

theorem At.isMapping {t : Trace} {i : Nat} (h : t.At i fun e => e.made?.isSome) :
    t.At i (·.isMapping = true) := by
  obtain ⟨e, he, hm⟩ := h
  refine ⟨e, he, ?_⟩
  by_contra hn
  rw [Event.made?_eq_none (by simpa using hn)] at hm
  cases hm

theorem Booked.accounted {t : Trace} {o : Option Due} (h : t.Booked o) :
    t.Accounted o.isSome := by
  -- To be in place is to be owed a removal.
  have hin : ∀ {i}, t.InPlace i → ∃ d, o = some d ∧ t.OwedAt d i := by
    rintro i ⟨hm, hn⟩
    rcases h.settled i hm with hd | ⟨j, hj, -⟩
    · exact hd
    · exact absurd hj (hn j)
  have hout : ∀ {d i}, t.OwedAt d i → t.InPlace i := fun hi =>
    ⟨hi.1.isSome, fun _ => hi.not_removedAt⟩
  constructor
  · constructor
    · intro ho
      obtain ⟨d, rfl⟩ := Option.isSome_iff_exists.1 ho
      obtain ⟨i, hi⟩ := h.owed d rfl
      exact ⟨i, hout hi⟩
    · rintro ⟨i, hi⟩
      obtain ⟨d, rfl, -⟩ := hin hi
      rfl
  · intro i j hi hj
    obtain ⟨d, -, hd⟩ := hin hi
    obtain ⟨d', -, hd'⟩ := hin hj
    rcases Nat.lt_trichotomy i j with hij | hij | hij
    · exact absurd hd'.1.isSome.isMapping (hd.2 j hij).1
    · exact hij
    · exact absurd hd.1.isSome.isMapping (hd'.2 i hij).1
  · intro i hm hn
    rcases h.settled i hm with ⟨d, -, hd⟩ | hj
    · exact absurd (hout hd) hn
    · exact hj
  · exact h.paired

section Booked

variable {t : Trace} {e : Event}

/-- An event that is no removal removes nothing that was not removed before. -/
theorem RemovedAt.of_concat (hr : e.removal? = none) {i j : Nat} (h : (t ++ [e]).RemovedAt i j) :
    t.RemovedAt i j := by
  rcases removedAt_concat.1 h with h | ⟨-, ⟨d, -, he⟩, -⟩
  · exact h
  · rw [hr] at he
    cases he

/-- A removal in the longer trace, where the last event is none. -/
theorem Booked.paired_concat {o : Option Due} (h : t.Booked o) (hr : e.removal? = none) {j : Nat}
    (hj : (t ++ [e]).At j fun e => e.removal?.isSome) : ∃ i, (t ++ [e]).RemovedAt i j := by
  rcases at_concat.1 hj with hj | ⟨-, he⟩
  · obtain ⟨i, hi⟩ := h.paired j hj
    exact ⟨i, removedAt_concat.2 (.inl hi)⟩
  · rw [hr] at he
    cases he

/-- An event that neither makes a mapping nor removes one, nor asks for one
while one is in place. -/
theorem Booked.kept {o : Option Due} (h : t.Booked o) (hm : e.made? = none)
    (hr : e.removal? = none) (hno : o.isSome → e.isMapping = false) : (t ++ [e]).Booked o := by
  have howed : ∀ {d i}, o = some d → t.OwedAt d i → (t ++ [e]).OwedAt d i := by
    rintro d i rfl ⟨hi, hk⟩
    refine ⟨at_concat.2 (.inl hi), fun k hik => ⟨fun hc => ?_, fun hc => ?_⟩⟩
    · rcases at_concat.1 hc with hc | ⟨-, he⟩
      · exact (hk k hik).1 hc
      · rw [hno rfl] at he
        cases he
    · rcases at_concat.1 hc with hc | ⟨-, he⟩
      · exact (hk k hik).2 hc
      · rw [hr] at he
        cases he
  constructor
  · intro d hd
    obtain ⟨i, hi⟩ := h.owed d hd
    exact ⟨i, howed hd hi⟩
  · intro i hi
    rcases at_concat.1 hi with hi | ⟨-, he⟩
    · rcases h.settled i hi with ⟨d, hd, hi⟩ | ⟨j, hj, hu⟩
      · exact .inl ⟨d, hd, howed hd hi⟩
      · exact .inr ⟨j, removedAt_concat.2 (.inl hj), fun j' hj' => hu j' (hj'.of_concat hr)⟩
    · rw [hm] at he
      cases he
  · exact fun j hj => h.paired_concat hr hj

/-- A mapping that is made while none is in place. -/
theorem Booked.made {d : Due} (h : t.Booked none) (hm : e.made? = some d)
    (hr : e.removal? = none) : (t ++ [e]).Booked (some d) := by
  have hnew : (t ++ [e]).OwedAt d t.length := by
    refine ⟨at_concat.2 (.inr ⟨rfl, hm⟩), fun k hk => ⟨fun hc => ?_, fun hc => ?_⟩⟩ <;>
    · have := hc.lt_length
      simp only [List.length_append, List.length_singleton] at this
      omega
  constructor
  · rintro d' hd'
    cases hd'
    exact ⟨_, hnew⟩
  · intro i hi
    rcases at_concat.1 hi with hi | ⟨rfl, -⟩
    · -- Nothing was owed, so what was made before had its removal.
      rcases h.settled i hi with ⟨d, hd, -⟩ | ⟨j, hj, hu⟩
      · cases hd
      · exact .inr ⟨j, removedAt_concat.2 (.inl hj), fun j' hj' => hu j' (hj'.of_concat hr)⟩
    · exact .inl ⟨d, rfl, hnew⟩
  · exact fun j hj => h.paired_concat hr hj

/-- The removal that is owed: its mapping is the one in place. -/
theorem Booked.removed {d : Due} (h : t.Booked (some d)) (hr : e.removal? = some d)
    (hm : e.isMapping = false) : (t ++ [e]).Booked none := by
  obtain ⟨i₀, hi₀, hk₀⟩ := h.owed d rfl
  have hnew : ∀ {i}, t.OwedAt d i → (t ++ [e]).RemovedAt i t.length := fun hi =>
    removedAt_concat.2 (.inr ⟨rfl, ⟨d, hi.1, hr⟩, fun k hk => (hi.2 k hk).1⟩)
  constructor
  · intro d' hd'
    cases hd'
  · intro i hi
    refine .inr ?_
    rcases at_concat.1 hi with hi | ⟨-, he⟩
    · rcases h.settled i hi with ⟨d', hd', hi'⟩ | ⟨j, hj, hu⟩
      · cases hd'
        refine ⟨t.length, hnew hi', fun j hj => ?_⟩
        rcases removedAt_concat.1 hj with hj | ⟨rfl, -⟩
        · exact absurd hj hi'.not_removedAt
        · rfl
      · refine ⟨j, removedAt_concat.2 (.inl hj), fun j' hj' => ?_⟩
        rcases removedAt_concat.1 hj' with hj' | ⟨rfl, -, hk⟩
        · exact hu j' hj'
        · -- A mapping removed before is followed by the one that is owed.
          rcases Nat.lt_trichotomy i i₀ with hlt | rfl | hlt
          · exact absurd hi₀.isSome.isMapping (hk i₀ hlt)
          · exact absurd hj (OwedAt.not_removedAt ⟨hi₀, hk₀⟩)
          · exact absurd hi.isMapping (hk₀ i hlt).1
    · rw [Event.made?_eq_none hm] at he
      cases he
  · intro j hj
    rcases at_concat.1 hj with hj | ⟨rfl, -⟩
    · obtain ⟨i, hi⟩ := h.paired j hj
      exact ⟨i, removedAt_concat.2 (.inl hi)⟩
    · exact ⟨i₀, hnew ⟨hi₀, hk₀⟩⟩

/-- **Books that are kept stay true to the positions**, event by event. -/
theorem Booked.concat {o o' : Option Due} (h : t.Booked o) (hb : book o e = some o') :
    (t ++ [e]).Booked o' := by
  rcases book_cases hb with ⟨hm, hr, rfl, hno⟩ | ⟨d, rfl, rfl, hm, hr⟩ | ⟨d, rfl, rfl, hr, hm⟩
  · exact h.kept hm hr hno
  · exact h.made hm hr
  · exact h.removed hr hm

end Booked

theorem booked_of_books {t : Trace} {o : Option Due} (h : books none t = some o) :
    t.Booked o := by
  induction t using List.reverseRecOn generalizing o with
  | nil =>
      cases h
      have hat : ∀ (i : Nat) (p : Event → Prop), ¬ Trace.At [] i p := by
        rintro i p ⟨e, he, -⟩
        cases he
      exact ⟨fun d hd => (nomatch hd), fun i hi => absurd hi (hat _ _),
        fun j hj => absurd hj (hat _ _)⟩
  | append_singleton t e ih =>
      rw [books_append] at h
      obtain ⟨o₁, h₁, h₂⟩ := Option.bind_eq_some_iff.1 h
      refine (ih h₁).concat ?_
      rw [books_cons] at h₂
      obtain ⟨o₂, h₂, h₃⟩ := Option.bind_eq_some_iff.1 h₂
      cases h₃
      exact h₂

/-- **Books that can be kept account for every mapping.** -/
theorem accounted_of_books {t : Trace} {o : Option Due} (h : books none t = some o) :
    t.Accounted o.isSome :=
  (booked_of_books h).accounted

end Trace

/-! ## What walks and acts leave owed -/

namespace Tunnel

open Trace

variable {serial : Option String} {range : PortRange} {ports : List Port} {es : Trace}

/-- The removal that is owed for a tunnel. -/
def due (serial : Option String) (t : Tunnel) : Due := (serial, t.removal)

/-- The removal of a tunnel settles what is owed for it. -/
theorem books_removal (t : Tunnel) (r : Except BridgeError Unit) :
    books (some (due serial t)) [.bridge serial t.removal r] = some none := by
  obtain ⟨direction, port⟩ := t
  cases direction <;> simp [book, due, removal, Event.isMapping, Event.removal?,
    BridgeCommand.undo?, BridgeCommand.isRemoval]

theorem ReverseWalk.books {r : Except TunnelError (Tunnel × Listener)}
    (h : ReverseWalk serial range ports es r) :
    books none es = some (r.toOption.map (due serial ·.1)) := by
  induction h with
  | exhausted => rfl
  | refused => rfl
  | bound => rfl
  | @busy port _ _ removed _ _ _ ih =>
      rw [books_append]
      change ((Trace.books (some (due serial ⟨.reverse, port⟩)) _).bind _) = _
      rw [books_cons, book_eq_self rfl rfl, Option.bind_some]
      rw [show Event.bridge serial (.reverseRemove Agent.socketName) removed =
        .bridge serial (removal ⟨.reverse, port⟩) removed from rfl, books_removal]
      exact ih

theorem ForwardWalk.books {r : Except TunnelError Tunnel}
    (h : ForwardWalk serial range ports es r) :
    books none es = some (r.toOption.map (due serial)) := by
  induction h with
  | exhausted => rfl
  | mapped => rfl
  | refused _ ih => exact ih

/-- A tunnel that was enabled is owed its removal; a failure leaves nothing
owed. -/
theorem Enabling.books {forceForward : Bool} {r : Except TunnelError (Tunnel × Option Listener)}
    (h : Enabling serial range forceForward es r) :
    books none es = some (r.toOption.map (due serial ·.1)) := by
  cases h with
  | reverse h => exact h.books
  | fallback hw hf =>
      rw [books_append, hw.books]
      refine hf.books.trans ?_
      rename_i r
      cases r <;> rfl
  | forward hf =>
      refine hf.books.trans ?_
      rename_i r
      cases r <;> rfl

end Tunnel

end DeviceLink
