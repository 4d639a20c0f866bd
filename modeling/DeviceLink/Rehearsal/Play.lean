import DeviceLink.Rehearsal.ScriptedTool
import DeviceLink.Session.Basic
/-!
# Rehearsals — a session played through

A play is a session in a scripted world, with the connections that an agent of
the script opened to it and the channels that were handed over. After every
deed the watcher moves for as long as it can.
-/

namespace DeviceLink

namespace Rehearsal

/-- A session under way in a scripted world. -/
structure Play where
  surroundings : Surroundings World
  world : World
  session : Session := {}
  /-- The channels that were handed over and not closed yet. -/
  taken : Option (Stream × Stream) := none
  /-- The party that was invited last. -/
  guest : Option Nat := none
  /-- The connections an agent opened. -/
  dialed : List Stream := []
  /-- The session was given up. -/
  abandoned : Bool := false

namespace Play

/-- Something done to the world. -/
def act {α : Type} (p : Play) (x : StateM World α) : α × Play :=
  let (a, world) := x p.world
  (a, { p with world })

/-- Let the watcher move for as long as it can. -/
def settled (p : Play) : Play :=
  let (vigil, world) := p.session.vigil.settled p.surroundings p.world
  { p with session := { p.session with vigil }, world }

/-- A call on the session. -/
def call {α : Type} (p : Play) (c : Surroundings World → Session.Call World α) :
    Except (Halt SessionError) α × Play :=
  let (r, session, world) := (c p.surroundings).run (p.session, p.world)
  (r, settled { p with session, world })

/-- Connect the session; the agent may exit as soon as the session waits. -/
def connect (p : Play) (terminates : Bool) : Except (Halt SessionError) Unit × Play :=
  let pending := if terminates then [(p.world.clock, Event.terminate)] else []
  let (r, p) := { p with world := { p.world with pending } }.call Session.connect
  if p.world.pending.isEmpty then (r, p)
  else (r, ({ p with world := { p.world with pending := [] } }.act World.terminateAgent).2)

/-- Give the session up. -/
def destroy (p : Play) : Except (Halt SessionError) Unit × Play :=
  let (r, p) := p.call Session.destroy
  (r, { p with abandoned := true })

/-- Take the channels; gives whether there were any. -/
def take (p : Play) : Bool × Play :=
  match p.call fun _ => Session.takeChannels with
  | (.ok (some taken), p) => (true, { p with taken })
  | (_, p) => (false, p)

/-- Close the channels that were handed over. -/
def dropChannels (p : Play) : Play :=
  { (p.act (World.closeLinks (p.taken.elim [] fun t => [t.1, t.2]))).2 with taken := none }

/-- A channel, wherever it is. -/
def channel (p : Play) (video : Bool) : Option Stream :=
  match p.taken with
  | some t => some (if video then t.1 else t.2)
  | none => if video then p.session.video else p.session.control

/-- Have a party listen on a port. -/
def invite (p : Play) (port : Port) (party : Party) : Play :=
  let (guest, p) := p.act (World.invite port party)
  { p with guest }

/-- Have the party that was invited last go. -/
def dismiss (p : Play) : Play :=
  { (p.act (p.guest.forM World.dismiss)).2 with guest := none }

/-- Have an agent connect once for each text it writes. -/
def dial (p : Play) (port : Port) (texts : List (List UInt8)) :
    List (Except IoError Stream) × Play :=
  let (rs, p) := p.act (texts.mapM (World.dial port))
  (rs, { p with dialed := p.dialed ++ rs.filterMap (·.toOption) })

/-- Have the agent reset its connections. -/
def resetDialed (p : Play) : Play :=
  let reset (s : Stream) : StateM World Unit :=
    World.mapLink s fun l => { l with ending := .reset }
  { (p.act (p.dialed.forM reset)).2 with dialed := [] }

end Play

end Rehearsal

end DeviceLink
