import DeviceLink.Bridge.Tool
import DeviceLink.Files.Tree
import DeviceLink.LogFilter
import DeviceLink.Program.Terminal
/-!
# Rehearsals — a world that follows a script

A rehearsal runs sessions in a world whose every party follows a script: who
listens on which port, what an agent writes, how the bridge tool exits, what
the activation endpoint answers. The world keeps what it was asked to do, so
that a rehearsal can be looked over afterwards. This file has the network:
connections as the host sees them, and the ports of the host.
-/

namespace DeviceLink

namespace Rehearsal

/-- What follows the bytes of a connection. -/
inductive Ending
  | held
  | closed
  | reset
  deriving DecidableEq, Repr

/-- A connection of the host. -/
structure Link where
  /-- What the host has not read yet. -/
  incoming : List UInt8 := []
  ending : Ending := .held
  /-- The host closed its end. -/
  hostClosed : Bool := false
  deriving Repr

/-- What a party does with one connection. -/
structure Greeting where
  bytes : List UInt8 := []
  ending : Ending := .held
  /-- The connection is one of its channels. -/
  isChannel : Bool := true
  /-- It no longer listens once it has this connection. -/
  leaves : Bool := false

/-- Somebody who listens on a port and follows a plan. -/
structure Party where
  /-- What it does with the next connections. -/
  plan : List Greeting
  /-- How many connections it took. -/
  met : Nat := 0
  /-- The connections it serves. -/
  channels : List Stream := []
  listening : Bool := true
  /-- It goes once every channel of its plan is closed. -/
  goesWhenDone : Bool := false

/-- Who listens on a port. -/
inductive Holder
  /-- The session, with the connections it has not accepted yet. -/
  | session (backlog : List Stream)
  /-- Somebody who takes connections and says nothing. -/
  | stranger
  /-- A party of the script. -/
  | party (index : Nat)

/-- What can happen by itself. -/
inductive Event
  /-- The agent exits. -/
  | terminate

/-! ## The bridge's script -/

/-- How the agent behind a recording bridge reaches the host. -/
inductive AgentKind
  | silent
  | reverse
  | forward
  deriving DecidableEq

/-- When the process behind a recording bridge exits by itself. -/
inductive ExitKind
  | immediately
  | whenKilled
  | onTrigger
  deriving DecidableEq

/-- How a scripted failure looks. -/
inductive FailureKind
  | code
  | signal
  | spawn
  deriving DecidableEq

/-- What a recording bridge does when it is told something. -/
structure Behavior where
  failPush : Bool := false
  failReverse : Bool := false
  failForwardPorts : List Port := []
  failExecute : Bool := false
  agent : AgentKind := .silent
  exit : ExitKind := .whenKilled
  failReversePorts : List Port := []
  failReverseRemove : Bool := false
  failForwardRemove : Bool := false
  failure : FailureKind := .code
  waitError : Bool := false
  killError : Bool := false

/-- What the bridge tool does when it is run. -/
inductive Rule
  | exit (code : Nat)
  | signal (number : Nat)
  /-- It runs until it is killed. -/
  | hang
  /-- It fails on these ports. -/
  | failPorts (ports : List Nat)
  /-- It is an agent that connects or listens and serves a video. -/
  | agent (listens : Bool) (video : List UInt8) (ending : Ending)

/-- A run of the bridge tool in the background. -/
structure ToolRun where
  running : Bool
  links : List Stream := []
  party : Option Nat := none
  /-- Its end was waited for. -/
  reaped : Bool := false

/-- What was asked of the bridge. -/
inductive Request
  | command (serial : Option String) (command : BridgeCommand)
  | execute (serial : Option String) (arguments : List String)
  /-- The bridge tool was run. -/
  | tool (arguments : List String)

/-- A scripted response of the activation endpoint. -/
structure Reply where
  body : List UInt8 := []
  /-- A length other than the body's. -/
  declared : Option Nat := none
  status : Nat := 200
  /-- The connection is closed without an answer. -/
  drop : Bool := false

/-- What comes of a scripted reply. -/
def Reply.response (r : Reply) : Response :=
  if r.status = 204 ∨ r.status = 304 then ⟨[], true⟩
  else
    match r.declared with
    | some n => ⟨[r.body.take n], n ≤ r.body.length⟩
    | none => ⟨[r.body], true⟩

/-- The scripted world. -/
structure World where
  /-- Milliseconds passed. -/
  clock : Nat := 0
  /-- What can still happen, and when. -/
  pending : List (Nat × Event) := []
  /-- What is told. -/
  filter : LogFilter := .atLeast .debug
  /-- What was told, the latest first. -/
  reports : List Report := []
  /-- What was shown on the terminal, the latest first. -/
  shown : List (Channel × String) := []
  /-- What was asked of the bridge, the latest first. -/
  asked : List Request := []
  files : FileTree := ⟨[]⟩
  links : List Link := []
  parties : List Party := []
  holders : List (Port × Holder) := []
  behavior : Behavior := {}
  kills : Nat := 0
  /-- The agent was told to exit, and no process has taken notice. -/
  permit : Bool := false
  /-- The port of the last reverse mapping. -/
  reversed : Option Port := none
  /-- The port of the last forward mapping. -/
  forwarded : Option Port := none
  /-- How many processes a recording bridge started. -/
  spawned : Nat := 0
  killed : List Nat := []
  /-- Why the bridge tool cannot be started, if it cannot. -/
  toolFault : Option IoError := none
  rules : List (String × Rule) := []
  runs : List ToolRun := []
  /-- The port the activation endpoint listens on. -/
  endpoint : Port := 0
  replies : List Reply := []
  /-- The request lines it received, the latest first. -/
  requests : List String := []

/-- The process number every run of the bridge tool is known by. -/
def pid : Nat := 4242

namespace World

/-- Change the world. -/
def update (f : World → World) : StateM World Unit := modify f

/-! ## Connections -/

/-- A new connection. -/
def addLink (l : Link) : StateM World Stream := fun w =>
  (w.links.length, { w with links := w.links ++ [l] })

/-- A connection by its number. -/
def link (w : World) (s : Stream) : Link := (w.links[s]?).getD { ending := .closed }

/-- Change a connection. -/
def mapLink (s : Stream) (f : Link → Link) : StateM World Unit :=
  update fun w => { w with links := w.links.modify s f }

/-- The host closes connections. -/
def closeLinks (ss : List Stream) : StateM World Unit :=
  ss.forM fun s => mapLink s fun l => { l with hostClosed := true }

/-- Whether a party is still listening. -/
def isThere (w : World) (p : Party) : Bool :=
  p.listening && !(p.goesWhenDone && p.plan.isEmpty &&
    p.channels.all fun s => (w.link s).hostClosed)

/-- Who listens on a port. -/
def holder? (w : World) (port : Port) : Option Holder :=
  (w.holders.find? fun h => h.1 == port && match h.2 with
    | .party i => (w.parties[i]?).any w.isThere
    | _ => true).map (·.2)

/-- Whether nobody listens on a port. -/
def isFree (w : World) (port : Port) : Bool := (w.holder? port).isNone

/-- Listen on a port. -/
def hold (port : Port) (h : Holder) : StateM World Unit :=
  update fun w => { w with holders := (port, h) :: w.holders }

/-- A new party on a port, unless somebody listens there. -/
def invite (port : Port) (p : Party) : StateM World (Option Nat) := do
  let w ← get
  if w.isFree port then
    update fun w => { w with parties := w.parties ++ [p] }
    hold port (.party w.parties.length)
    return some w.parties.length
  else return none

/-- The strangers listen no longer. -/
def dismissStrangers : StateM World Unit :=
  update fun w =>
    { w with holders := w.holders.filter fun h =>
        match h.2 with
        | .stranger => false
        | _ => true }

/-- Change a party. -/
def mapParty (i : Nat) (f : Party → Party) : StateM World Unit :=
  update fun w => { w with parties := w.parties.modify i f }

/-- A party listens no longer and ends what it serves. -/
def dismiss (i : Nat) : StateM World Unit := do
  if let some p := (← get).parties[i]? then
    p.channels.forM fun s => mapLink s fun l =>
      if l.ending == .held then { l with ending := .closed } else l
  mapParty i fun p => { p with listening := false }

/-- A port nobody listens on, for who does not mind which. -/
def anyPort (w : World) : Port :=
  ((List.range 4096).map fun k => UInt16.ofNat (49152 + k)).find? w.isFree |>.getD 49152

/-- Listen for the session. -/
def listen (port : Port) : StateM World (Except IoError Port) := do
  let w ← get
  let bound := if port = 0 then w.anyPort else port
  if w.isFree bound then
    hold bound (.session [])
    return .ok bound
  else return .error .addressInUse

/-- Change the session's backlog on a port. -/
def setBacklog (port : Port) (backlog : List Stream) : StateM World Unit :=
  update fun w =>
    { w with holders := w.holders.map fun h =>
        match h.2 with
        | .session _ => if h.1 == port then (port, .session backlog) else h
        | _ => h }

/-- The connection that waits longest. -/
def arrival? (port : Port) : StateM World (Option Stream) := do
  match (← get).holder? port with
  | some (.session (s :: rest)) =>
    setBacklog port rest
    return some s
  | _ => return none

/-- No longer listen for the session; connections not accepted are closed. -/
def unlisten (port : Port) : StateM World Unit := do
  if let some (.session backlog) := (← get).holder? port then closeLinks backlog
  update fun w =>
    { w with holders := w.holders.filter fun h =>
        match h.2 with
        | .session _ => h.1 != port
        | _ => true }

/-- Connect to the session, writing bytes, if it or anybody listens. -/
def dial (port : Port) (bytes : List UInt8) : StateM World (Except IoError Stream) := do
  match (← get).holder? port with
  | none => return .error .connectionRefused
  | some (.session backlog) =>
    let s ← addLink { incoming := bytes }
    setBacklog port (backlog ++ [s])
    return .ok s
  | some _ => return .ok (← addLink {})

/-- The hosts that are this one. -/
def isLocal (host : String) : Bool :=
  ["127.0.0.1", "localhost", "0.0.0.0", "::ffff:7f00:1"].contains host

/-- Connect from the host to whoever listens. -/
def connect (e : Endpoint) : StateM World (Except IoError Stream) := do
  let w ← get
  match if isLocal e.host then w.holder? e.port else none with
  | none => return .error .connectionRefused
  | some (.session _) => dial e.port []
  | some .stranger => return .ok (← addLink {})
  | some (.party i) =>
    match (w.parties[i]?).bind (·.plan.head?) with
    | none => return .ok (← addLink {})
    | some g =>
      let s ← addLink { incoming := g.bytes, ending := g.ending }
      mapParty i fun p =>
        { p with
          plan := p.plan.drop 1
          met := p.met + 1
          channels := if g.isChannel then p.channels ++ [s] else p.channels
          listening := p.listening && !g.leaves }
      return .ok s

/-- Read so many bytes, if they are there or never will be. -/
def read? (s : Stream) (count : Nat) : StateM World (Option (Except IoError (List UInt8))) := do
  let l := (← get).link s
  if count ≤ l.incoming.length then
    mapLink s fun l => { l with incoming := l.incoming.drop count }
    return some (.ok (l.incoming.take count))
  else
    match l.ending with
    | .held => return none
    | .closed => return some (.error .streamEnded)
    | .reset => return some (.error .connectionReset)

/-- Read one byte. -/
def readByte? (s : Stream) : StateM World (Option (Except IoError (Option UInt8))) := do
  match ← read? s 1 with
  | some (.ok bytes) => return some (.ok bytes.head?)
  | some (.error .streamEnded) => return some (.ok none)
  | some (.error e) => return some (.error e)
  | none => return none

/-- Read to the end. -/
def drain? (s : Stream) : StateM World (Option Nat) := do
  let l := (← get).link s
  if l.ending == .held then return none
  mapLink s fun l => { l with incoming := [] }
  return some l.incoming.length

/-! ## Time -/

/-- The agent is told to exit. -/
def terminateAgent : StateM World Unit := update fun w => { w with permit := true }

/-- Let the next thing happen, if it does in time. -/
def next? (patience : Option Nat) : StateM World (Option Nat) := do
  let w ← get
  match w.pending with
  | [] => return none
  | (time, .terminate) :: rest =>
    if patience.all (time < w.clock + ·) then
      update fun w => { w with pending := rest, clock := max time w.clock }
      terminateAgent
      return some (time - w.clock)
    else return none

/-- Let time pass. -/
def sleep (time : Nat) : StateM World Unit := update fun w => { w with clock := w.clock + time }

/-! ## Requests to the activation endpoint -/

/-- The port a URL's request goes to. -/
def portOf (u : Url) : Port := (u.port <|> Url.impliedPort u.scheme).getD 80

/-- Send a request. -/
def request (u : Url) : StateM World (Except TransportFault Response) := do
  let w ← get
  let fault := TransportFault.unanswered
    (String.ofList { u with username := [], password := [] }.render)
  let here := u.host.any (fun h => isLocal (String.ofList h.bare)) && portOf u == w.endpoint &&
    u.scheme == "http".toList
  match if here then w.replies else [] with
  | [] => return .error fault
  | r :: rest =>
    update fun w =>
      { w with
        requests := s!"GET {String.ofList u.target} HTTP/1.1" :: w.requests
        replies := if rest.isEmpty then [r] else rest }
    if r.drop then return .error fault
    return .ok (Reply.response r)

/-- Tell something, if it is to be told. -/
def report (r : Report) : StateM World Unit :=
  update fun w => if w.filter.admits r.level then { w with reports := r :: w.reports } else w

/-- Note what was asked of the bridge. -/
def note (r : Request) : StateM World Unit := update fun w => { w with asked := r :: w.asked }

end World

end Rehearsal

end DeviceLink
