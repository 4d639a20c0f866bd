import DeviceLink.Proofs.Session.Stopping
import DeviceLink.Proofs.Watcher.Moves
import Mathlib.Logic.Relation
/-!
# Sessions — an owner and a watcher, step by step

A call on a session lets the watcher move at certain points and as far as it
can. Here the two take their steps in any order, with everything else that
happens in between: the owner starts a session with a reverse tunnel, connects
it as often as it likes and stops it, and `Owner` says where in a call it is;
the watcher makes its moves; the surroundings change as they like, so that the
agent may exit and connect at any moment. What a call gives is what some order
of the steps gives (`connect_steps`, `stop_steps`).
-/

namespace DeviceLink

namespace Session

/-- Why an owner calls on the listener. -/
inductive Errand
  /-- To accept the video connection. -/
  | video
  /-- To accept the control connection. -/
  | control
  /-- To close it once both are accepted. -/
  | connected
  /-- To close it at a stop. -/
  | stopping
  deriving DecidableEq

namespace Errand

/-- Whether a connection is to be accepted. -/
def isAccept : Errand → Bool
  | .video => true
  | .control => true
  | .connected => false
  | .stopping => false

/-- The call as it begins. -/
def call (e : Errand) : Listener.Call := if e.isAccept then .queued else .closing

end Errand

/-- Where an owner is. -/
inductive Owner
  /-- Between two calls, with what the last one came to. -/
  | free (last : Except (Halt SessionError) Unit)
  /-- In a call on the listener. -/
  | calling (e : Errand) (c : Listener.Call)
  /-- About to close the channels. -/
  | releasing
  /-- About to undo the activation. -/
  | deactivating
  /-- Waiting for the termination, for as long as an agent may take to exit. -/
  | awaiting
  /-- Waiting for the watcher. -/
  | joining
  /-- About to be done with a stop. -/
  | ending

/-- A session, where its owner is, and what surrounds them. -/
structure Scene (σ : Type) where
  session : Session
  owner : Owner
  world : σ × Trace

/-- Who takes a step. -/
inductive Party
  | owner
  | watcher
  | nature
  deriving DecidableEq

/-- The session with its listener as a call left it. -/
def withListener (s : Session) (l : Listener) : Session :=
  { s with vigil := { s.vigil with listener := some l } }

variable {σ : Type} (S : Surroundings σ)

/-- **One step.** -/
inductive Step : Party → Scene σ → Scene σ → Prop
  /-- A start, which opens a reverse tunnel if it goes well. -/
  | start {s s' : Session} {x x' : σ × Trace} {last r : Except (Halt SessionError) Unit}
      {artifact : String} {serial : Option String} {p : Params} :
      Session.start S.traced artifact serial p (s, x) = (r, s', x') →
      (r = .ok () → s'.activator = none ∧ s'.direction = some .reverse) →
      Step .owner ⟨s, .free last, x⟩ ⟨s', .free r, x'⟩
  /-- A connect begins. -/
  | connect {s : Session} {x : σ × Trace} {last : Except (Halt SessionError) Unit} :
      s.phase = .started → s.vigil.listener.isSome →
      Step .owner ⟨s, .free last, x⟩ ⟨s, .calling .video Errand.video.call, x⟩
  /-- A connect finds no listener. -/
  | unheard {s : Session} {x : σ × Trace} {last : Except (Halt SessionError) Unit} :
      s.phase = .started → s.vigil.listener = none →
      Step .owner ⟨s, .free last, x⟩ ⟨s, .free (.error (.failed .remoteDied)), x⟩
  /-- A connect is refused. -/
  | refused {s : Session} {x : σ × Trace} {last : Except (Halt SessionError) Unit} :
      s.phase ≠ .started →
      Step .owner ⟨s, .free last, x⟩
        ⟨s, .free (.error (.failed (.invalidState "connect" s.phase))), x⟩
  /-- A call on the listener moves. -/
  | call {s : Session} {x x' : σ × Trace} {e : Errand} {l l' : Listener} {c c' : Listener.Call} :
      s.vigil.listener = some l → (c', l', x') ∈ c.moves S.traced Vigil.ownerId l x →
      Step .owner ⟨s, .calling e c, x⟩ ⟨s.withListener l', .calling e c', x'⟩
  /-- The video connection is accepted. -/
  | video {s s' : Session} {x x' : σ × Trace} {stream : Stream}
      {r : Except (Halt SessionError) Unit} :
      setVideo S.traced stream (s, x) = (r, s', x') →
      Step .owner ⟨s, .calling .video (.accepted (some stream)), x⟩
        ⟨s', .calling .control Errand.control.call, x'⟩
  /-- The control connection is accepted. -/
  | control {s s' : Session} {x x' : σ × Trace} {stream : Stream}
      {r : Except (Halt SessionError) Unit} :
      setControl S.traced stream (s, x) = (r, s', x') →
      Step .owner ⟨s, .calling .control (.accepted (some stream)), x⟩
        ⟨s', .calling .connected Errand.connected.call, x'⟩
  /-- No connection is accepted: the agent counts as gone. -/
  | died {s : Session} {x : σ × Trace} {e : Errand} {c : Listener.Call} :
      e.isAccept = true → c = .accepted none ∨ (∃ cause, c = .refused cause) →
      Step .owner ⟨s, .calling e c, x⟩ ⟨s, .free (.error (.failed .remoteDied)), x⟩
  /-- A connect is done. -/
  | connected {s : Session} {x : σ × Trace} {first : Bool} :
      Step .owner ⟨s, .calling .connected (.closed first), x⟩
        ⟨{ s with phase := .connected }, .free (.ok ()), x⟩
  /-- A stop begins. -/
  | stop {s : Session} {x : σ × Trace} {last : Except (Halt SessionError) Unit} :
      s.phase = .started ∨ s.phase = .connected →
      Step .owner ⟨s, .free last, x⟩
        ⟨{ s with phase := .stopping },
          if s.vigil.listener.isSome then .calling .stopping Errand.stopping.call else .releasing,
          x⟩
  /-- There is nothing to stop. -/
  | unstopped {s : Session} {x : σ × Trace} {last : Except (Halt SessionError) Unit} :
      s.phase ≠ .started → s.phase ≠ .connected →
      Step .owner ⟨s, .free last, x⟩ ⟨s, .free (.ok ()), x⟩
  /-- The listener is closed. -/
  | closed {s : Session} {x : σ × Trace} {first : Bool} :
      Step .owner ⟨s, .calling .stopping (.closed first), x⟩ ⟨s, .releasing, x⟩
  | release {s s' : Session} {x x' : σ × Trace} {r : Except (Halt SessionError) Unit} :
      closeChannels S.traced (s, x) = (r, s', x') →
      Step .owner ⟨s, .releasing, x⟩ ⟨s', .deactivating, x'⟩
  | deactivate {s s' : Session} {x x' : σ × Trace} {r : Except (Halt SessionError) Unit} :
      Session.deactivate S.traced (s, x) = (r, s', x') →
      Step .owner ⟨s, .deactivating, x⟩
        ⟨s', if s.vigil.watcher.isSome then .awaiting else .ending, x'⟩
  /-- The termination is told in time. -/
  | told {s : Session} {x : σ × Trace} :
      s.vigil.terminated = true → Step .owner ⟨s, .awaiting, x⟩ ⟨s, .joining, x⟩
  /-- The time is over, and a kill is asked for. -/
  | expired {s : Session} {x : σ × Trace} :
      s.vigil.terminated = false →
      Step .owner ⟨s, .awaiting, x⟩ ⟨{ s with vigil := s.vigil.askKill }, .joining, x⟩
  /-- The watcher is over, and forgotten. -/
  | joined {s : Session} {x : σ × Trace} :
      s.vigil.watcher.all (·.stage == .finished) = true →
      Step .owner ⟨s, .joining, x⟩
        ⟨{ s with vigil := { s.vigil with watcher := none } }, .ending, x⟩
  | stopped {s : Session} {x : σ × Trace} :
      Step .owner ⟨s, .ending, x⟩
        ⟨{ s with phase := .stopped, vigil := { s.vigil with listener := none } },
          .free (.ok ()), x⟩
  /-- The watcher moves. -/
  | watch {s : Session} {o : Owner} {x x' : σ × Trace} {v : Vigil} :
      (v, x') ∈ s.vigil.moves S.traced x →
      Step .watcher ⟨s, o, x⟩ ⟨{ s with vigil := v }, o, x'⟩
  /-- The surroundings change by themselves, and time may pass. -/
  | elapse {s : Session} {o : Owner} {w : σ} {t : Trace} (w' : σ) (times : List Nat) :
      Step .nature ⟨s, o, w, t⟩ ⟨s, o, w', t ++ times.map .passed⟩

/-- Any number of steps. -/
def Steps : Scene σ → Scene σ → Prop :=
  Relation.ReflTransGen fun g g' => ∃ who, Step S who g g'

variable {S}

theorem Steps.step {g g₁ g₂ : Scene σ} (h : Steps S g g₁) {who : Party} (hs : Step S who g₁ g₂) :
    Steps S g g₂ := h.tail ⟨who, hs⟩

end Session

end DeviceLink
