import DeviceLink.Proofs.Surroundings.Trace
/-!
# Listeners — the moves of a call

Everything a call on a listener can do in one move, with what it needs for it
and what it leaves. `moves_does` says that these are all; whatever holds of
the calls on a listener, whoever makes them and in whatever order, is proved
by the cases of `Does`. Once the listener is shut, only a close before the lock
may have to wait (`exists_move_of_shut`).
-/

namespace DeviceLink

namespace Listener

namespace Call

/-- Whether the call is one that accepts. -/
def isAccept : Call → Bool
  | .queued => true
  | .accepting => true
  | .accepted _ => true
  | .refused _ => true
  | _ => false

/-- Whether the call is one that closes. -/
def isClose (c : Call) : Bool := !c.isAccept

/-- Whether the call is a close that passed the gate. -/
def isPast : Call → Bool
  | .shutting => true
  | .waiting => true
  | .dropping => true
  | .closed true => true
  | _ => false

/-- Whether the call holds the lock. -/
def isHolding : Call → Bool
  | .accepting => true
  | .dropping => true
  | _ => false

/-- **One move** of the call of a number. -/
inductive Does {σ : Type} (id : Nat) :
    Call → Listener → σ × Trace → Call → Listener → σ × Trace → Prop
  /-- An accept that has not got the lock gives up. -/
  | giveUp {l : Listener} {x : σ × Trace} :
      l.shut = true → Does id .queued l x (.accepted none) l x
  | lock {l : Listener} {x : σ × Trace} :
      l.holder = none → Does id .queued l x .accepting { l with holder := some id } x
  /-- An accept that waits for a connection gives up. -/
  | wake {l : Listener} {x : σ × Trace} :
      l.shut = true ∨ l.dropped = true →
      Does id .accepting l x (.accepted none) { l with holder := none } x
  | take {l : Listener} {w w' : σ} {t : Trace} {stream : Stream} :
      l.dropped = false →
      Does id .accepting l (w, t) (.accepted (some stream)) { l with holder := none }
        (w', t ++ [.arrival l.bound (.ok stream)])
  | refuse {l : Listener} {w w' : σ} {t : Trace} {cause : IoError} :
      l.dropped = false →
      Does id .accepting l (w, t) (.refused cause) { l with holder := none }
        (w', t ++ [.arrival l.bound (.error cause)])
  /-- A close finds that another passed the gate. -/
  | lose {l : Listener} {x : σ × Trace} :
      l.gate = true → Does id .closing l x (.closed false) l x
  | pass {l : Listener} {x : σ × Trace} :
      l.gate = false → Does id .closing l x .shutting { l with gate := true } x
  /-- The accepts are told to give up. -/
  | shut {l : Listener} {x : σ × Trace} :
      Does id .shutting l x .waiting { l with shut := true } x
  | hold {l : Listener} {x : σ × Trace} :
      l.holder = none → Does id .waiting l x .dropping { l with holder := some id } x
  | drop {l : Listener} {w w' : σ} {t : Trace} :
      Does id .dropping l (w, t) (.closed true) { l with holder := none, dropped := true }
        (w', t ++ [.unlisten l.bound])

variable {σ : Type} {S : Surroundings σ} {id : Nat} {c : Call} {l : Listener} {x : σ × Trace}

/-- **All there is to a move.** -/
theorem moves_does {m : Call × Listener × σ × Trace} (h : m ∈ c.moves S.traced id l x) :
    Does id c l x m.1 m.2.1 m.2.2 := by
  obtain ⟨w, t⟩ := x
  cases c with
  | queued =>
      simp only [moves, List.mem_append] at h
      rcases h with h | h
      · split at h
        · next hs => rw [List.mem_singleton] at h; rw [h]; exact .giveUp hs
        · cases h
      · split at h
        · next hn =>
            rw [List.mem_singleton] at h; rw [h]; exact .lock (Option.isNone_iff_eq_none.1 hn)
        · cases h
  | accepting =>
      simp only [moves, List.mem_append] at h
      rcases h with h | h
      · split at h
        · next hs =>
            rw [List.mem_singleton] at h
            rw [h]
            exact .wake (by simpa using hs)
        · cases h
      · split at h
        · cases h
        · next hd =>
            have hd : l.dropped = false := by simpa using hd
            have ha : S.traced.arrival? l.bound (w, t) =
                ((S.arrival? l.bound w).1, (S.arrival? l.bound w).2,
                  t ++ (S.arrival? l.bound w).1.toList.map (.arrival l.bound)) := rfl
            rw [ha] at h
            generalize S.arrival? l.bound w = y at h
            obtain ⟨_ | cause | stream, w'⟩ := y
            · cases h
            · rw [List.mem_singleton] at h; rw [h]; exact .refuse hd
            · rw [List.mem_singleton] at h; rw [h]; exact .take hd
  | closing =>
      simp only [moves] at h
      split at h
      · next hg => rw [List.mem_singleton] at h; rw [h]; exact .lose hg
      · next hg => rw [List.mem_singleton] at h; rw [h]; exact .pass (by simpa using hg)
  | shutting => simp only [moves, List.mem_singleton] at h; rw [h]; exact .shut
  | waiting =>
      simp only [moves] at h
      split at h
      · next hn =>
          rw [List.mem_singleton] at h; rw [h]; exact .hold (Option.isNone_iff_eq_none.1 hn)
      · cases h
  | dropping =>
      simp only [moves, List.mem_singleton] at h
      rw [h]
      exact .drop
  | accepted _ => cases h
  | refused _ => cases h
  | closed _ => cases h

/-- A call stays what it is. -/
theorem Does.isAccept_eq {x' : σ × Trace} {c' : Call} {l' : Listener}
    (h : Does id c l x c' l' x') : c'.isAccept = c.isAccept := by
  cases h <;> rfl

/-- A call that is not over can move, unless it is an accept on a listener that
is not shut or a close that waits for the lock. -/
theorem exists_move (hs : c.isAccept = true → l.shut = true) (hc : c.isOver = false)
    (hl : c = .waiting → l.holder = none) (S : Surroundings σ) (id : Nat) (x : σ) :
    c.moves S id l x ≠ [] := by
  cases c with
  | queued => simp [moves, hs rfl]
  | accepting => simp [moves, hs rfl]
  | closing => simp only [moves]; split <;> simp
  | shutting => simp [moves]
  | waiting => simp [moves, hl rfl]
  | dropping => simp [moves]
  | accepted _ => cases hc
  | refused _ => cases hc
  | closed _ => cases hc

/-- Once the listener is shut, a call that is not over can move, unless it is a
close that waits for the lock. -/
theorem exists_move_of_shut (hs : l.shut = true) (hc : c.isOver = false)
    (hl : c = .waiting → l.holder = none) (S : Surroundings σ) (id : Nat) (x : σ) :
    c.moves S id l x ≠ [] := exists_move (fun _ => hs) hc hl S id x

end Call

/-- A close that finds the lock free goes through, if it is the first. -/
theorem run_closing {σ : Type} {l : Listener} (hl : l.holder = none) (S : Surroundings σ) (id : Nat)
    (w : σ) :
    Call.closing.run S id l w =
      if l.gate then (.closed false, l, w)
      else (.closed true, { l with gate := true, shut := true, dropped := true },
        (S.unlisten l.bound w).2) := by
  obtain ⟨port, bound, gate, shut, holder, dropped⟩ := l
  cases hl
  cases gate <;> simp [Call.run, Call.moves]

end Listener

end DeviceLink
