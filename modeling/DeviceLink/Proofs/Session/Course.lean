import DeviceLink.Proofs.Session.Channels
import DeviceLink.Proofs.Session.Scene
/-!
# Sessions — any session, step by step

`Scene` follows the owner of a session with a reverse tunnel through its starts,
connects and stops. Here the owner may have any session: its agent may listen as
well, behind a forward tunnel or an endpoint, so that a connect probes it; the
channels may be taken, and are written down then; and the session may be given
up. `Place` adds where the owner is meanwhile. The watcher and the surroundings
take their steps in between, in any order, wherever the owner is.
-/

namespace DeviceLink

namespace Session

/-- How often and how long an agent that listens is looked for. -/
def policy (s : Session) : RetryPolicy := if s.activator.isSome then .direct else .forward

/-- Where the owner of any session is. -/
inductive Place
  /-- Where an owner is with a reverse tunnel, or between two calls, or in a stop. -/
  | within (o : Owner)
  /-- About to connect to an agent that may listen, with so many attempts left. -/
  | probing (e : Endpoint) (p : RetryPolicy) (left : Nat)
  /-- Waiting for the byte of a live agent. -/
  | reading (e : Endpoint) (p : RetryPolicy) (left : Nat) (stream : Stream)
  /-- Between two attempts. -/
  | pausing (e : Endpoint) (p : RetryPolicy) (left : Nat)
  /-- With a video connection to a live agent. -/
  | found (e : Endpoint) (stream : Stream)
  /-- About to connect once more. -/
  | dialing (e : Endpoint)
  /-- With a control connection. -/
  | dialed (stream : Stream)
  /-- With both channels in their places. -/
  | linked
  /-- Giving the session up, and waiting for the watcher. -/
  | leaving
  /-- Giving the session up, with nobody to wait for. -/
  | parting

/-- Between two calls, with what the last one came to. -/
abbrev Place.free (last : Except (Halt SessionError) Unit) : Place := .within (.free last)

/-- A session, where its owner is, what surrounds them, and the channels that
were handed over. -/
structure Stage (σ : Type) where
  session : Session
  place : Place
  world : σ × Trace
  handed : List Stream

/-- The owner is between two calls. -/
def Stage.IsBetween {σ : Type} (g : Stage σ) : Prop := ∃ last, g.place = .free last

/-- The channels that a taking gives. -/
def handedOver (r : Option (Stream × Stream)) : List Stream := r.elim [] fun c => [c.1, c.2]

variable {σ : Type} (S : Surroundings σ)

/-- **A step in search of an agent that listens**, which leaves the session
alone. -/
inductive Seek : Place → σ × Trace → Place → σ × Trace → Prop
  /-- Nothing is there. -/
  | refused {e : Endpoint} {p : RetryPolicy} {left : Nat} {cause : IoError} {x x' : σ × Trace} :
      S.traced.connect e x = (.error cause, x') →
      Seek (.probing e p (left + 1)) x (.pausing e p left) x'
  | opened {e : Endpoint} {p : RetryPolicy} {left : Nat} {stream : Stream} {x x' : σ × Trace} :
      S.traced.connect e x = (.ok stream, x') →
      Seek (.probing e p (left + 1)) x (.reading e p left stream) x'
  /-- There is no byte yet. -/
  | silent {e : Endpoint} {p : RetryPolicy} {left : Nat} {stream : Stream} {x x' : σ × Trace} :
      S.traced.readByte? stream x = (none, x') →
      Seek (.reading e p left stream) x (.reading e p left stream) x'
  | live {e : Endpoint} {p : RetryPolicy} {left : Nat} {stream : Stream} {b : UInt8}
      {x x' : σ × Trace} :
      S.traced.readByte? stream x = (some (.ok (some b)), x') →
      Seek (.reading e p left stream) x (.found e stream) x'
  /-- Nobody serves, and the connection is closed. -/
  | dead {e : Endpoint} {p : RetryPolicy} {left : Nat} {stream : Stream}
      {found : Except IoError (Option UInt8)} {x x' : σ × Trace} :
      S.traced.readByte? stream x = (some found, x') → (∀ b, found ≠ .ok (some b)) →
      Seek (.reading e p left stream) x (.pausing e p left) (S.traced.close stream x').2
  /-- Another attempt begins. -/
  | again {e : Endpoint} {p : RetryPolicy} {left : Nat} {x : σ × Trace} :
      Seek (.pausing e p left) x (.probing e p left) x
  /-- No attempt is left. -/
  | exhausted {e : Endpoint} {p : RetryPolicy} {x : σ × Trace} :
      Seek (.probing e p 0) x (.free (.error (.failed (.connectionTimeout e.render p.tries)))) x
  | undialed {e : Endpoint} {cause : IoError} {x x' : σ × Trace} :
      S.traced.connect e x = (.error cause, x') →
      Seek (.dialing e) x (.free (.error (.failed (.connect e.render cause)))) x'
  | dialed {e : Endpoint} {stream : Stream} {x x' : σ × Trace} :
      S.traced.connect e x = (.ok stream, x') → Seek (.dialing e) x (.dialed stream) x'

/-- **One step** with any session. -/
inductive Progress : Party → Stage σ → Stage σ → Prop
  /-- A step as with a reverse tunnel. -/
  | own {s s' : Session} {o o' : Owner} {x x' : σ × Trace} {handed : List Stream} :
      Step S .owner ⟨s, o, x⟩ ⟨s', o', x'⟩ →
      Progress .owner ⟨s, .within o, x, handed⟩ ⟨s', .within o', x', handed⟩
  /-- A start, whatever it opens. -/
  | start {s s' : Session} {x x' : σ × Trace} {last r : Except (Halt SessionError) Unit}
      {artifact : String} {serial : Option String} {p : Params} {handed : List Stream} :
      Session.start S.traced artifact serial p (s, x) = (r, s', x') →
      Progress .owner ⟨s, .free last, x, handed⟩ ⟨s', .free r, x', handed⟩
  /-- A connect to an agent that listens begins. -/
  | connect {s : Session} {x : σ × Trace} {last : Except (Halt SessionError) Unit} {e : Endpoint}
      {handed : List Stream} :
      s.phase = .started → s.endpoint? = some e →
      Progress .owner ⟨s, .free last, x, handed⟩
        ⟨s, .probing e s.policy s.policy.tries.toNat, x, handed⟩
  /-- A connect finds no way to the agent. -/
  | pathless {s : Session} {x : σ × Trace} {last : Except (Halt SessionError) Unit}
      {handed : List Stream} :
      s.phase = .started → s.activator = none → s.tunnel = none →
      Progress .owner ⟨s, .free last, x, handed⟩
        ⟨s, .free (.error (.failed (.invalidState "connect" s.phase))), x, handed⟩
  | seek {s : Session} {p p' : Place} {x x' : σ × Trace} {handed : List Stream} :
      Seek S p x p' x' → Progress .owner ⟨s, p, x, handed⟩ ⟨s, p', x', handed⟩
  | video {s s' : Session} {x x' : σ × Trace} {e : Endpoint} {stream : Stream}
      {r : Except (Halt SessionError) Unit} {handed : List Stream} :
      setVideo S.traced stream (s, x) = (r, s', x') →
      Progress .owner ⟨s, .found e stream, x, handed⟩ ⟨s', .dialing e, x', handed⟩
  | control {s s' : Session} {x x' : σ × Trace} {stream : Stream}
      {r : Except (Halt SessionError) Unit} {handed : List Stream} :
      setControl S.traced stream (s, x) = (r, s', x') →
      Progress .owner ⟨s, .dialed stream, x, handed⟩ ⟨s', .linked, x', handed⟩
  /-- A connect to an endpoint is done. -/
  | connected {s : Session} {x : σ × Trace} {handed : List Stream} :
      s.activator.isSome = true →
      Progress .owner ⟨s, .linked, x, handed⟩
        ⟨{ s with phase := .connected }, .free (.ok ()), x, handed⟩
  /-- A connect through a forward tunnel is done, and the tunnel is removed. -/
  | unmapped {s : Session} {u : Tunnel} {x x' : σ × Trace} {handed : List Stream} :
      s.activator = none → s.tunnel = some u → u.disable S.traced s.serial x = ((), x') →
      Progress .owner ⟨s, .linked, x, handed⟩
        ⟨{ s with phase := .connected, tunnelEnabled := false }, .free (.ok ()), x', handed⟩
  | take {s s' : Session} {x x' : σ × Trace} {last : Except (Halt SessionError) Unit}
      {r : Option (Stream × Stream)} {handed : List Stream} :
      takeChannels (s, x) = (.ok r, s', x') →
      Progress .owner ⟨s, .free last, x, handed⟩ ⟨s', .free (.ok ()), x', handed ++ handedOver r⟩
  /-- The session is given up, and a kill is asked for if there is a watcher. -/
  | leave {s : Session} {x : σ × Trace} {last : Except (Halt SessionError) Unit}
      {handed : List Stream} :
      Progress .owner ⟨s, .free last, x, handed⟩
        ⟨{ s with vigil := s.vigil.askKill },
          if s.vigil.watcher.isSome then .leaving else .parting, x, handed⟩
  /-- The watcher is over, and forgotten. -/
  | left {s : Session} {x : σ × Trace} {handed : List Stream} :
      s.vigil.watcher.all (·.stage == .finished) = true →
      Progress .owner ⟨s, .leaving, x, handed⟩
        ⟨{ s with vigil := { s.vigil with watcher := none } }, .parting, x, handed⟩
  | part {s s' : Session} {x x' : σ × Trace} {r : Except (Halt SessionError) Unit}
      {handed : List Stream} :
      closeChannels S.traced (s, x) = (r, s', x') →
      Progress .owner ⟨s, .parting, x, handed⟩
        ⟨{ s' with phase := .destroyed }, .free (.ok ()), x', handed⟩
  /-- The watcher moves. -/
  | watch {s : Session} {p : Place} {x x' : σ × Trace} {v : Vigil} {handed : List Stream} :
      (v, x') ∈ s.vigil.moves S.traced x →
      Progress .watcher ⟨s, p, x, handed⟩ ⟨{ s with vigil := v }, p, x', handed⟩
  /-- The surroundings change by themselves, and time may pass. -/
  | elapse {s : Session} {p : Place} {w : σ} {t : Trace} {handed : List Stream} (w' : σ)
      (times : List Nat) :
      Progress .nature ⟨s, p, (w, t), handed⟩ ⟨s, p, (w', t ++ times.map .passed), handed⟩

/-- Any number of steps. -/
def Course : Stage σ → Stage σ → Prop :=
  Relation.ReflTransGen fun g g' => ∃ who, Progress S who g g'

variable {S}

theorem Course.step {g g₁ g₂ : Stage σ} (h : Course S g g₁) {who : Party}
    (hs : Progress S who g₁ g₂) : Course S g g₂ := h.tail ⟨who, hs⟩

end Session

end DeviceLink
