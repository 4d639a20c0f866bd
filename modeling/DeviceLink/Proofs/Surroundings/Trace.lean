import DeviceLink.Tunnel
/-!
# Surroundings — with a trace of what was done to them

`Surroundings.traced` does what the surroundings it is made of do and writes
down every act with what came of it, the earliest first. The trace is only
ever added to and never read, so that what a session does is what it would do
without one; what it did is then a statement about a list of events. Reports
are left out: they change nothing outside the log.
-/

namespace DeviceLink

/-- Whether the command removes a mapping. -/
def BridgeCommand.isRemoval : BridgeCommand → Bool
  | .reverseRemove _ => true
  | .forwardRemove _ => true
  | _ => false

/-- Something that was done to the surroundings, with what came of it. -/
inductive Event
  /-- The bridge was told a command for a device. -/
  | bridge (serial : Option String) (command : BridgeCommand) (result : Except BridgeError Unit)
  /-- Something was run on a device. -/
  | execute (serial : Option String) (arguments : List String)
      (result : Except BridgeError RunningAgent)
  /-- A process had ended. -/
  | ended (process : RunningAgent) (result : Except IoError Unit)
  | kill (process : RunningAgent) (result : Except IoError Unit)
  /-- A request was sent. -/
  | get (url : Url) (result : Except TransportFault Response)
  | listen (port : Port) (result : Except IoError Port)
  /-- A connection was accepted, or failed to be. -/
  | arrival (port : Port) (result : Except IoError Stream)
  | unlisten (port : Port)
  | connect (endpoint : Endpoint) (result : Except IoError Stream)
  /-- A connection gave a byte, its end or a failure. -/
  | byte (stream : Stream) (result : Except IoError (Option UInt8))
  | drained (stream : Stream) (count : Nat)
  | close (stream : Stream)
  /-- So many milliseconds passed. -/
  | passed (time : Nat)

/-- What was done, the earliest first. -/
abbrev Trace := List Event

/-- An act begun at a trace has added events to it that go with what it gave. -/
def Trace.Adds {α σ : Type} (t : Trace) (D : Trace → α → Prop) (y : α × σ × Trace) : Prop :=
  ∃ es, y.2.2 = t ++ es ∧ D es y.1

/-- What was added before counts as well. -/
theorem Trace.Adds.before {α σ : Type} {t pre : Trace} {D E : Trace → α → Prop}
    {y : α × σ × Trace} (h : (t ++ pre).Adds D y) (hE : ∀ {es}, D es y.1 → E (pre ++ es) y.1) :
    t.Adds E y := by
  obtain ⟨es, hes, hD⟩ := h
  exact ⟨pre ++ es, by rw [hes, List.append_assoc], hE hD⟩

namespace Surroundings

variable {σ : Type}

/-- An act, and what is written down of it. -/
def noted {α : Type} (act : StateM σ α) (note : α → Trace) : StateM (σ × Trace) α :=
  fun x => ((act x.1).1, (act x.1).2, x.2 ++ note (act x.1).1)

/-- The surroundings with a trace. -/
def traced (S : Surroundings σ) : Surroundings (σ × Trace) where
  report r := noted (S.report r) fun _ => []
  isFile path := noted (S.isFile path) fun _ => []
  bridge serial c := noted (S.bridge serial c) fun r => [.bridge serial c r]
  execute serial args := noted (S.execute serial args) fun r => [.execute serial args r]
  ended? p := noted (S.ended? p) fun r => r.toList.map (.ended p)
  kill p := noted (S.kill p) fun r => [.kill p r]
  get u := noted (S.get u) fun r => [.get u r]
  listen port := noted (S.listen port) fun r => [.listen port r]
  arrival? port := noted (S.arrival? port) fun r => r.toList.map (.arrival port)
  unlisten port := noted (S.unlisten port) fun _ => [.unlisten port]
  connect e := noted (S.connect e) fun r => [.connect e r]
  readByte? s := noted (S.readByte? s) fun r => r.toList.map (.byte s)
  drain? s := noted (S.drain? s) fun r => r.toList.map (.drained s)
  close s := noted (S.close s) fun _ => [.close s]
  next? limit := noted (S.next? limit) fun r => r.toList.map .passed
  sleep time := noted (S.sleep time) fun _ => [.passed time]
  horizon w := S.horizon w.1

variable (S : Surroundings σ) (w : σ) (t : Trace)

/-! What the four acts that set a session up add to the trace, and that reports
add nothing. -/

@[simp] theorem traced_bridge (serial : Option String) (c : BridgeCommand) :
    S.traced.bridge serial c (w, t) =
      ((S.bridge serial c w).1, (S.bridge serial c w).2,
        t ++ [.bridge serial c (S.bridge serial c w).1]) := rfl

@[simp] theorem traced_execute (serial : Option String) (args : List String) :
    S.traced.execute serial args (w, t) =
      ((S.execute serial args w).1, (S.execute serial args w).2,
        t ++ [.execute serial args (S.execute serial args w).1]) := rfl

@[simp] theorem traced_get (u : Url) :
    S.traced.get u (w, t) = ((S.get u w).1, (S.get u w).2, t ++ [.get u (S.get u w).1]) := rfl

@[simp] theorem traced_listen (port : Port) :
    S.traced.listen port (w, t) =
      ((S.listen port w).1, (S.listen port w).2, t ++ [.listen port (S.listen port w).1]) := rfl

@[simp] theorem traced_unlisten (port : Port) :
    S.traced.unlisten port (w, t) = ((), (S.unlisten port w).2, t ++ [.unlisten port]) := rfl

@[simp] theorem traced_close (s : Stream) :
    S.traced.close s (w, t) = ((), (S.close s w).2, t ++ [.close s]) := rfl

@[simp] theorem traced_isFile (path : String) :
    S.traced.isFile path (w, t) = ((S.isFile path w).1, (S.isFile path w).2, t) := by
  simp [traced, noted]

@[simp] theorem traced_report (r : Report) :
    S.traced.report r (w, t) = ((), (S.report r w).2, t) := by
  simp [traced, noted]

@[simp] theorem traced_info (text : String) :
    S.traced.info text (w, t) = ((), (S.info text w).2, t) := traced_report S w t _

@[simp] theorem traced_warn (text : String) :
    S.traced.warn text (w, t) = ((), (S.warn text w).2, t) := traced_report S w t _

@[simp] theorem traced_error (text : String) :
    S.traced.error text (w, t) = ((), (S.error text w).2, t) := traced_report S w t _

/-- Surroundings in which every port can be mapped and listened on, and nothing
can be run. -/
def barren : Surroundings Unit where
  report _ := pure ()
  isFile _ := pure true
  bridge _ _ := pure (.ok ())
  execute _ _ := pure (.error (.failed BridgeCommand.executeLabel (some 1)))
  ended? _ := pure none
  kill _ := pure (.ok ())
  get _ := pure (.error .brokenOff)
  listen port := pure (.ok port)
  arrival? _ := pure none
  unlisten _ := pure ()
  connect _ := pure (.ok 0)
  readByte? _ := pure none
  drain? _ := pure none
  close _ := pure ()
  next? _ := pure none
  sleep _ := pure ()
  horizon _ := 0

/-- Surroundings in which an agent can be run, and exits at once. -/
def fleeting : Surroundings Unit :=
  { barren with
    execute := fun _ _ => pure (.ok { handle := 0, pid := none })
    ended? := fun _ => pure (some (.ok ())) }

/-- An agent that serves: how many connections it has, whether it was killed,
and how much time has passed. -/
structure Serving where
  connections : Nat := 0
  killed : Bool := false
  clock : Nat := 0

/-- Surroundings in which an agent can be run that connects wherever it is
waited for and serves whoever connects to it, and exits when it is killed. -/
def serving : Surroundings Serving where
  report _ := pure ()
  isFile _ := pure true
  bridge _ _ := pure (.ok ())
  execute _ _ := pure (.ok { handle := 0, pid := none })
  ended? _ := fun s => (if s.killed then some (.ok ()) else none, s)
  kill _ := fun s => (.ok (), { s with killed := true })
  get _ := pure (.error .brokenOff)
  listen port := pure (.ok port)
  arrival? _ := fun s => (some (.ok s.connections), { s with connections := s.connections + 1 })
  unlisten _ := pure ()
  connect _ := fun s => (.ok s.connections, { s with connections := s.connections + 1 })
  readByte? _ := pure (some (.ok (some 0)))
  drain? _ := pure (some 0)
  close _ := pure ()
  next? _ := pure none
  sleep time := fun s => ((), { s with clock := s.clock + time })
  horizon _ := 0

end Surroundings

end DeviceLink
