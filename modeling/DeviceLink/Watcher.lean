import DeviceLink.Listener
/-!
# Watchers — telling that an agent is gone

An agent's process is watched in the background. Once it has ended, by itself
or because a kill was asked for, its termination is told, and then the
listener is closed, so that nobody waits any longer for an agent that is gone.
A watcher is a machine like the calls on a listener; it moves whenever the one
who started it has to wait, and its moves bring it closer to its end
(`rank_lt_of_mem_moves`).
-/

namespace DeviceLink

/-- How far a watcher has come. -/
inductive WatchStage
  /-- It waits for the process to end or a kill to be asked for. -/
  | watching
  /-- It is about to kill the process. -/
  | killing
  /-- It waits for the killed process to end. -/
  | reaping
  /-- It is about to tell the termination. -/
  | telling
  /-- It closes the listener. -/
  | closing (call : Listener.Call)
  /-- It is over. -/
  | finished
  deriving DecidableEq, Repr

/-- How many moves a watcher has left at most. -/
def WatchStage.rank : WatchStage → Nat
  | .watching => 9
  | .killing => 8
  | .reaping => 7
  | .telling => 6
  | .closing call => 1 + call.rank
  | .finished => 0

/-- The watch over one process. -/
structure Watcher where
  process : RunningAgent
  /-- Whether a listener is closed at the end. -/
  guards : Bool
  stage : WatchStage := .watching
  /-- A kill was asked for. -/
  killAsked : Bool := false
  deriving DecidableEq, Repr

/-- What a session shares with the watcher it started. -/
structure Vigil where
  /-- The termination was told. -/
  terminated : Bool := false
  listener : Option Listener := none
  watcher : Option Watcher := none
  deriving DecidableEq, Repr

namespace Vigil

/-- The number of the calls the session makes itself. -/
def ownerId : Nat := 0

/-- The number of the watcher's calls. -/
def watcherId : Nat := 1

variable {σ : Type} (S : Surroundings σ)

/-- Tell of a failure to do something with the process, if there was one. -/
def noteFailure (deed : String) : Except IoError Unit → StateM σ Unit
  | .ok () => pure ()
  | .error e => S.warn s!"Could not {deed} the server: {e.message}"

/-- Tell of a failure to wait for the process, if there was one. -/
def noteWait : Except IoError Unit → StateM σ Unit
  | .ok () => pure ()
  | .error e => S.warn s!"Could not wait for the server process: {e.message}"

/-- The vigil with its watcher at another stage. -/
def withStage (v : Vigil) (w : Watcher) (stage : WatchStage) : Vigil :=
  { v with watcher := some { w with stage } }

/-- The move that follows the end of the process, if it has ended. -/
def reap (v : Vigil) (w : Watcher) (s : σ) : List (Vigil × σ) :=
  match S.ended? w.process s with
  | (some result, s) => [(v.withStage w .telling, (noteWait S result s).2)]
  | (none, _) => []

/-- The moves open to a watcher. -/
def movesOf (v : Vigil) (w : Watcher) (s : σ) : List (Vigil × σ) :=
  match w.stage with
  | .watching => reap S v w s ++ if w.killAsked then [(v.withStage w .killing, s)] else []
  | .killing =>
    let killed := S.kill w.process s
    [(v.withStage w .reaping, (noteFailure S "kill" killed.1 killed.2).2)]
  | .reaping => reap S v w s
  | .telling =>
    let next : WatchStage := if w.guards then .closing .closing else .finished
    [({ v with terminated := true }.withStage w next, s)]
  | .closing call =>
    match v.listener with
    | some l =>
      if call.isOver then [(v.withStage w .finished, s)]
      else (call.moves S watcherId l s).map fun m =>
        ({ v with listener := some m.2.1 }.withStage w (.closing m.1), m.2.2)
    | none => [(v.withStage w .finished, s)]
  | .finished => []

/-- The moves open to the watcher, if there is one. -/
def moves (v : Vigil) (s : σ) : List (Vigil × σ) :=
  match v.watcher with
  | some w => v.movesOf S w s
  | none => []

/-- How many moves the watcher has left at most. -/
def rank (v : Vigil) : Nat := v.watcher.elim 0 (·.stage.rank)

theorem rank_withStage {v : Vigil} {w : Watcher} {stage : WatchStage} :
    (v.withStage w stage).rank = stage.rank := rfl

theorem rank_lt_of_mem_moves {v : Vigil} {s : σ} {m : Vigil × σ} (h : m ∈ v.moves S s) :
    m.1.rank < v.rank := by
  unfold moves at h
  split at h
  · next w hw =>
    have hr : v.rank = w.stage.rank := by simp [rank, hw]
    rw [hr]
    have hreap : ∀ {m}, m ∈ v.reap S w s → m.1.rank = WatchStage.telling.rank := by
      intro m hm
      unfold reap at hm
      split at hm
      · simp only [List.mem_singleton] at hm; rw [hm]; rfl
      · simp at hm
    unfold movesOf at h
    split at h
    · next hs =>
      rw [hs]
      rcases List.mem_append.1 h with h | h
      · rw [hreap h]; decide
      · split at h
        · simp only [List.mem_singleton] at h; rw [h, rank_withStage]; decide
        · simp at h
    · next hs =>
      rw [hs]; simp only [List.mem_singleton] at h; rw [h, rank_withStage]; decide
    · next hs => rw [hs, hreap h]; decide
    · next hs =>
      rw [hs]
      simp only [List.mem_singleton] at h
      rw [h]
      show (if w.guards then WatchStage.closing .closing else .finished).rank < _
      split <;> decide
    · next call hs =>
      rw [hs]
      split at h
      · split at h
        · simp only [List.mem_singleton] at h; rw [h]; show 0 < 1 + call.rank; omega
        · obtain ⟨n, hn, rfl⟩ := List.mem_map.1 h
          have := Listener.Call.rank_lt_of_mem_moves S watcherId hn
          show 1 + n.1.rank < 1 + call.rank
          omega
      · simp only [List.mem_singleton] at h; rw [h]; show 0 < 1 + call.rank; omega
    · simp at h
  · simp at h

/-- Let the watcher move for as long as it can. -/
def settled (v : Vigil) (s : σ) : Vigil × σ :=
  match h : v.moves S s with
  | [] => (v, s)
  | m :: _ =>
    have : m.1.rank < v.rank := rank_lt_of_mem_moves S (h ▸ List.mem_cons_self)
    m.1.settled m.2
termination_by v.rank

/-- An act on the surroundings alone. -/
def outside {α : Type} (act : StateM σ α) : StateM (Vigil × σ) α := fun (v, s) =>
  let (a, s) := act s
  (a, v, s)

/-- Let the watcher move for as long as it can. -/
def settle : StateM (Vigil × σ) Unit := modify fun (v, s) => v.settled S s

/-- Ask until something is there, with the watcher at work in between. Gives
up, with nothing, when nothing more can happen. -/
def waitFor {α β : Type} (ask : β → StateM (Vigil × σ) (β ⊕ α)) :
    Nat → β → StateM (Vigil × σ) (Option α)
  | fuel, b => do
    settle S
    match ← ask b with
    | .inr a => return some a
    | .inl b =>
      match fuel with
      | 0 => return none
      | fuel + 1 =>
        match ← outside (S.next? none) with
        | some _ => waitFor ask fuel b
        | none => return none

/-- Ask until something is there. -/
def await {α β : Type} (ask : β → StateM (Vigil × σ) (β ⊕ α)) (b : β) :
    StateM (Vigil × σ) (Option α) := do
  let (_, s) ← get
  waitFor S ask (S.horizon s) b

/-- Let time pass, with the watcher at work, at most until a condition holds;
gives whether it does. -/
def passUntil (done : Vigil → Bool) : Nat → Nat → StateM (Vigil × σ) Bool
  | fuel, rest => do
    settle S
    let (v, _) ← get
    if done v then return true
    match fuel with
    | 0 => outside (S.sleep rest); return false
    | fuel + 1 =>
      match ← outside (S.next? (some rest)) with
      | some passed => passUntil done fuel (rest - passed)
      | none => outside (S.sleep rest); return false

/-- Wait so many milliseconds for the termination; gives whether it was told. -/
def awaitTermination (limit : Nat) : StateM (Vigil × σ) Bool := do
  let (_, s) ← get
  passUntil S (·.terminated) (S.horizon s) limit

/-- Let so many milliseconds pass. -/
def pause (time : Nat) : StateM (Vigil × σ) Unit := do
  let (_, s) ← get
  discard (passUntil S (fun _ => false) (S.horizon s) time)

/-- Take a call on the listener as far as it can go. -/
def advance (call : Listener.Call) : StateM (Vigil × σ) (Listener.Call ⊕ Listener.Call) :=
  fun (v, s) =>
    match v.listener with
    | none => (.inr call, v, s)
    | some l =>
      let (call, l, s) := call.run S ownerId l s
      (if call.isOver then .inr call else .inl call, { v with listener := some l }, s)

/-- Accept a connection. Gives nothing if none ever comes, and no connection
if the listener is closed. -/
def accept : StateM (Vigil × σ) (Option (Option Stream)) := do
  match ← await S (advance S) .queued with
  | some (.accepted stream) => return some stream
  | some _ => return some none
  | none => return none

/-- Close the listener; gives whether this was the first close. -/
def closeListener : StateM (Vigil × σ) (Option Bool) := do
  match ← await S (advance S) .closing with
  | some (.closed first) => return some first
  | some _ => return some false
  | none => return none

/-- Ask the watcher to kill its process. -/
def askKill (v : Vigil) : Vigil :=
  { v with watcher := v.watcher.map fun w => { w with killAsked := true } }

/-- Ask whether the watcher is over. -/
def askOver (_ : Unit) : StateM (Vigil × σ) (Unit ⊕ Unit) := fun (v, s) =>
  (if v.watcher.all (·.stage == .finished) then .inr () else .inl (), v, s)

/-- Wait for the watcher to be over, and forget it. -/
def join : StateM (Vigil × σ) (Option Unit) := do
  let ended ← await S askOver ()
  modify fun (v, s) => ({ v with watcher := none }, s)
  return ended

end Vigil

end DeviceLink
