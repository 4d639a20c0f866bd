import DeviceLink.Rehearsal.Recorder
import DeviceLink.Watcher
/-!
# Rehearsals — calls that take turns

A bench holds listeners, the calls made on them in the background and one
watcher, and lets them take turns until none of them can move: the calls in the
order they were made, then the watcher. Every turn in which something moves
takes away from what is left to do, so that as many turns as that are enough.
-/

namespace DeviceLink

namespace Rehearsal

/-- Listeners, background calls and a watcher over a world. -/
structure Bench where
  world : World
  listeners : List Listener := []
  /-- The calls made, each with the listener it is made on. -/
  calls : List (Nat × Listener.Call) := []
  terminated : Bool := false
  watcher : Option Watcher := none
  /-- When the termination is told by somebody else. -/
  alarms : List Nat := []

namespace Bench

/-- The watcher with the listener it closes, the first one. -/
def vigil (b : Bench) : Vigil := ⟨b.terminated, b.listeners.head?, b.watcher⟩

/-- Take over what a watcher's turn left. -/
def withVigil (b : Bench) (v : Vigil) (w : World) : Bench :=
  { b with
    terminated := v.terminated
    watcher := v.watcher
    listeners := (v.listener.elim b.listeners fun l => b.listeners.set 0 l)
    world := w }

/-- A call takes its turn. -/
def turnOf (b : Bench) (i : Nat) : Bench :=
  match b.calls[i]? with
  | none => b
  | some (k, call) =>
    match b.listeners[k]? with
    | none => b
    | some l =>
      -- the first two numbers are those of a session and its watcher
      let (call, l, w) := call.run recording (i + 2) l b.world
      { b with calls := b.calls.set i (k, call), listeners := b.listeners.set k l, world := w }

/-- Everybody takes a turn. -/
def turn (b : Bench) : Bench :=
  let b := (List.range b.calls.length).foldl turnOf b
  let (v, w) := b.vigil.settled recording b.world
  b.withVigil v w

/-- How many moves are left at most. -/
def rank (b : Bench) : Nat := b.calls.foldr (fun c n => c.2.rank + n) b.vigil.rank

/-- Take turns until nobody can move. -/
def settled (b : Bench) : Bench := b.rank.repeat turn b

/-- The listener in use, the latest one. -/
def current (b : Bench) : Nat := b.listeners.length - 1

/-- Make a call in the background. -/
def add (b : Bench) (call : Listener.Call) : Bench :=
  { b with calls := b.calls ++ [(b.current, call)] }

/-- Make calls and take turns; gives how far these calls came. -/
def perform (b : Bench) (calls : List Listener.Call) : List Listener.Call × Bench :=
  let before := b.calls.length
  let b := (calls.foldl add b).settled
  ((b.calls.drop before).map (·.2), { b with calls := b.calls.take before })

/-- How many background calls are not over. -/
def unfinished (b : Bench) : Nat := (b.calls.filter fun c => !c.2.isOver).length

/-- Forget the background calls; gives how far they came. -/
def collect (b : Bench) : List Listener.Call × Bench :=
  (b.calls.map (·.2), { b with calls := [] })

/-- Listen on a port. -/
def bind (b : Bench) (port : Port) : Except IoError Unit × Bench :=
  match Listener.bind recording port b.world with
  | (.ok l, w) => (.ok (), { b with listeners := b.listeners ++ [l], world := w })
  | (.error e, w) => (.error e, { b with world := w })

/-- Something done to the world, with everybody's turns after it. -/
def act {α : Type} (b : Bench) (x : StateM World α) : α × Bench :=
  let (a, w) := x b.world
  (a, { b with world := w }.settled)

/-- Have a process run and watched. -/
def watch (b : Bench) : Bench :=
  match World.recordExecute none [] b.world with
  | (.ok process, w) =>
    { b with
      world := w
      watcher := some { process, guards := !b.listeners.isEmpty } }.settled
  | (.error _, w) => { b with world := w }

/-- Let the alarms up to now go off. -/
def ring (b : Bench) : Bench :=
  let due := b.alarms.filter (· ≤ b.world.clock)
  { b with
    terminated := b.terminated || !due.isEmpty
    alarms := b.alarms.filter (b.world.clock < ·) }

/-- Wait so many milliseconds for the termination. -/
def wait (b : Bench) (limit : Nat) : Bool × Bench :=
  let start := b.world.clock
  let alarm := (b.alarms.filter (· < start + limit)).min?
  let ((told, v, w) : Bool × Vigil × World) :=
    Vigil.awaitTermination recording (alarm.elim limit (· - start)) (b.vigil, b.world)
  let b := b.withVigil v w
  if told || b.world.clock == start then (told || alarm.isSome, if alarm.isSome then b.ring else b)
  else (alarm.isSome, b.ring.settled)

/-- Ask for the watched process to be killed. -/
def askKill (b : Bench) : Bench := (b.withVigil b.vigil.askKill b.world).settled

/-- Wait for the watcher, and forget it. -/
def join (b : Bench) : Bench :=
  match b.watcher with
  | none => b
  | some _ =>
    let (_, v, w) := Vigil.join recording (b.vigil, b.world)
    (b.withVigil v w).settled

end Bench

end Rehearsal

end DeviceLink
