import DeviceLink.Surroundings
/-!
# Listeners — accepting until closed, and closing once

A listener is shared by calls that accept a connection and calls that close
it. A close passes a gate that only the first one passes, tells the accepts to
give up, and drops the listener once it holds the lock that an accept holds
while it waits. The calls take turns in any order; each is a machine whose
`moves` are its atomic steps, none while it has to wait. Every move brings its
call closer to its end (`rank_lt_of_mem_moves`), so a call left to itself stops.
-/

namespace DeviceLink

/-- A local port that is listened on. -/
structure Listener where
  /-- The port that was asked for. -/
  port : Port
  /-- The port that is listened on. -/
  bound : Port
  /-- A close passed the gate. -/
  gate : Bool := false
  /-- Accepts are told to give up. -/
  shut : Bool := false
  /-- The call that holds the lock. -/
  holder : Option Nat := none
  /-- The port is no longer listened on. -/
  dropped : Bool := false
  deriving DecidableEq, Repr

namespace Listener

/-- A call on a listener, by how far it has come. -/
inductive Call
  /-- An accept before it has the lock. -/
  | queued
  /-- An accept that holds the lock and waits for a connection. -/
  | accepting
  /-- An accept that is over, without a connection if the listener was closed. -/
  | accepted (stream : Option Stream)
  /-- An accept that is over because the system let it fail. -/
  | refused (cause : IoError)
  /-- A close before the gate. -/
  | closing
  /-- A close past the gate. -/
  | shutting
  /-- A close before it has the lock. -/
  | waiting
  /-- A close that holds the lock. -/
  | dropping
  /-- A close that is over, and whether it was the one to pass the gate. -/
  | closed (first : Bool)
  deriving DecidableEq, Repr

namespace Call

/-- How many moves a call has left at most. -/
def rank : Call → Nat
  | .queued => 2
  | .accepting => 1
  | .accepted _ => 0
  | .refused _ => 0
  | .closing => 4
  | .shutting => 3
  | .waiting => 2
  | .dropping => 1
  | .closed _ => 0

/-- Whether the call is over. -/
def isOver (c : Call) : Bool := c.rank == 0

variable {σ : Type} (S : Surroundings σ) (id : Nat)

/-- The moves open to the call of a number. -/
def moves : Call → Listener → σ → List (Call × Listener × σ)
  | .queued, l, s =>
    (if l.shut then [(.accepted none, l, s)] else []) ++
      (if l.holder.isNone then [(.accepting, { l with holder := some id }, s)] else [])
  | .accepting, l, s =>
    (if l.shut || l.dropped then [(.accepted none, { l with holder := none }, s)] else []) ++
      (if l.dropped then []
      else
        match S.arrival? l.bound s with
        | (some (.ok stream), s) => [(.accepted (some stream), { l with holder := none }, s)]
        | (some (.error cause), s) => [(.refused cause, { l with holder := none }, s)]
        | (none, _) => [])
  | .closing, l, s =>
    if l.gate then [(.closed false, l, s)] else [(.shutting, { l with gate := true }, s)]
  | .shutting, l, s => [(.waiting, { l with shut := true }, s)]
  | .waiting, l, s =>
    if l.holder.isNone then [(.dropping, { l with holder := some id }, s)] else []
  | .dropping, l, s =>
    [(.closed true, { l with holder := none, dropped := true }, (S.unlisten l.bound s).2)]
  | .accepted _, _, _ => []
  | .refused _, _, _ => []
  | .closed _, _, _ => []

theorem rank_lt_of_mem_moves {c : Call} {l : Listener} {s : σ} {m : Call × Listener × σ}
    (h : m ∈ c.moves S id l s) : m.1.rank < c.rank := by
  cases c with
  | accepting =>
    simp only [moves, List.mem_append] at h
    rcases h with h | h
    · split at h <;> simp_all [rank]
    · split at h
      · simp at h
      · split at h <;> simp_all [rank]
  | queued =>
    simp only [moves, List.mem_append] at h
    rcases h with h | h <;> split at h <;> simp_all [rank]
  | closing => simp only [moves] at h; split at h <;> simp_all [rank]
  | waiting => simp only [moves] at h; split at h <;> simp_all [rank]
  | _ => simp_all [moves, rank]

/-- Move for as long as the call can. -/
def run (c : Call) (l : Listener) (s : σ) : Call × Listener × σ :=
  match h : c.moves S id l s with
  | [] => (c, l, s)
  | m :: _ =>
    have : m.1.rank < c.rank := rank_lt_of_mem_moves S id (h ▸ List.mem_cons_self)
    m.1.run m.2.1 m.2.2
termination_by c.rank

end Call

variable {σ : Type} (S : Surroundings σ)

/-- Listen on a local port. -/
def bind (port : Port) : ExceptT IoError (StateM σ) Listener := do
  let bound ← ExceptT.mk (S.listen port)
  return { port, bound }

end Listener

end DeviceLink
