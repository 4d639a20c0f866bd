import DeviceLink.Proofs.Session.Agreement
/-!
# Tunnels — where the mapped port is listened on

A system that is asked to listen on a port listens there or fails; asked for port
zero it takes some free port instead (`Surroundings.Listens`). Listener and tunnel
keep the port that was asked for, so that they agree with the system on every port
but zero. A range may hold port zero, always as its first, and then it is the first
one tried: where the bridge maps it, what is listened on is another port
(`enable_zero`), and no connection to the mapped one is ever accepted.
-/

namespace DeviceLink

variable {σ : Type}

/-- **What a system listens on** when it is asked for a port. -/
structure Surroundings.Listens (S : Surroundings σ) : Prop where
  /-- Any other port than zero is listened on itself. -/
  asked : ∀ port bound w, port ≠ 0 → (S.listen port w).1 = .ok bound → bound = port
  /-- Nothing is ever listened on at port zero. -/
  nonzero : ∀ port bound w, (S.listen port w).1 = .ok bound → bound ≠ 0

/-- The port that is listened on is the one asked for unless that is zero. -/
theorem Surroundings.Listens.bound_eq_iff {S : Surroundings σ} (hS : S.Listens)
    {port bound : Port} {w : σ} (h : (S.listen port w).1 = .ok bound) :
    bound = port ↔ port ≠ 0 := by
  constructor
  · rintro rfl
    exact hS.nonzero _ _ w h
  · intro hport
    exact hS.asked port bound w hport h

/-- Port zero can only be the first of a range. -/
theorem PortRange.first_eq_zero {range : PortRange} (h : range.contains 0 = true) :
    range.first = 0 := by
  have hle : range.first ≤ 0 := (contains_iff.1 h).1
  have hzero : (0 : Port) ≤ range.first := UInt16.zero_le
  exact UInt16.le_antisymm hle hzero

/-- A range that holds port zero tries it before all others. -/
theorem PortRange.ports_of_first {range : PortRange} (h : range.first = 0) :
    ∃ rest, range.ports = 0 :: rest := by
  rw [ports, List.range'_succ, List.map_cons, h]
  exact ⟨_, rfl⟩

namespace Tunnel

variable (S : Surroundings σ) (serial : Option String) (range : PortRange)

/-- **Port zero is mapped where it can be**, and another port is listened on. -/
theorem enable_zero {w : σ} {bound : Port} (hfirst : range.first = 0)
    (hmapped : (S.bridge serial (.reverse Agent.socketName 0) w).1 = .ok ())
    (hbound : (S.listen 0 (S.bridge serial (.reverse Agent.socketName 0) w).2).1 = .ok bound)
    (t : Trace) :
    ∃ y, enable S.traced serial range false (w, t) =
      (.ok (⟨.reverse, 0⟩, some { port := 0, bound }), y) := by
  obtain ⟨rest, hports⟩ := PortRange.ports_of_first hfirst
  simp only [enable, Bool.not_false, if_true, hports, reverseFrom, Trial.bind_apply,
    Trial.lift_apply, Trial.run_apply, Surroundings.traced_bridge, hmapped, Listener.bind_apply,
    Surroundings.traced_listen]
  generalize S.listen 0 _ = x at hbound
  obtain ⟨r, w'⟩ := x
  obtain rfl : r = .ok bound := hbound
  exact ⟨_, rfl⟩

/-- **A reverse tunnel and the listener it comes with**, after the events that enabled
it over a range. -/
structure Listened (u : Tunnel) (l : Listener) (es : Trace) : Prop where
  /-- The listener has the tunnel's port, which is of the range -/
  port : l.port = u.localPort
  contains : range.contains u.localPort = true
  /-- and the last one that the bridge mapped. -/
  ready : u.Ready serial l.bound es
  /-- What is listened on is that port unless it is zero, -/
  bound : l.bound = u.localPort ↔ u.localPort ≠ 0
  nonzero : l.bound ≠ 0
  /-- as it is only where the range starts with zero. -/
  zero : u.localPort = 0 → range.first = 0
  /-- An accept takes what comes in on the port that is listened on. -/
  accepts : ∀ (v : Vigil) w t, v.Sound → v.listener = some l →
    v.Carries t (Connection.Accepted l.bound) (Connection.accept S.traced (v, w, t))

variable {S serial range}

/-- **A reverse tunnel is listened on where it is mapped unless that is port zero**,
whatever ports are busy and whatever the bridge answers. -/
theorem enable_listens (hS : S.Listens) {forceForward : Bool} {w : σ} {t : Trace} {u : Tunnel}
    {k : Option Listener} {y : σ × Trace}
    (h : enable S.traced serial range forceForward (w, t) = (.ok (u, k), y))
    (hu : u.direction = .reverse) :
    ∃ l es, k = some l ∧ y.2 = t ++ es ∧ Listened S serial range u l es := by
  obtain ⟨es, hes, hen, hyields⟩ := enable_yields S serial range forceForward w t
  rw [h] at hes hen
  obtain ⟨hport, bound, hready, ⟨-, rfl⟩ | ⟨hforward, -⟩⟩ := hen.ready
  · have hlisten : Event.listen u.localPort (.ok bound) ∈ es := by
      obtain ⟨a, b, rfl, -, hb⟩ := hready
      exact List.mem_append_right a (List.mem_cons_of_mem _ (hb hu))
    obtain ⟨w₁, hw₁⟩ := hyields _ hlisten
    exact ⟨_, es, rfl, hes,
      { port := rfl
        contains := hport
        ready := hready
        bound := hS.bound_eq_iff hw₁
        nonzero := hS.nonzero _ _ w₁ hw₁
        zero := fun hzero => PortRange.first_eq_zero (hzero ▸ hport)
        accepts := fun v w' t' hv hl => Connection.accept_carries S hv hl w' t' }⟩
  · rw [hu] at hforward
    cases hforward

/-- Surroundings in which every port can be mapped, and port 49152 is listened on
when port zero is asked for. -/
def ephemeral : Surroundings Unit :=
  { Surroundings.barren with listen := fun port => pure (.ok (if port = 0 then 49152 else port)) }

theorem ephemeral_listens : ephemeral.Listens where
  asked port bound _ hport h := by
    have hbound : (if port = 0 then 49152 else port) = bound := Except.ok.inj h
    rw [← hbound, if_neg hport]
  nonzero port bound _ h := by
    have hbound : (if port = 0 then 49152 else port) = bound := Except.ok.inj h
    rw [← hbound]
    split
    · decide
    · assumption

/-- A range above port zero: the port that is listened on is the one mapped. -/
theorem ephemeral_enable_listens :
    ∃ u l y, enable ephemeral.traced none (.single 27183) false ((), []) = (.ok (u, some l), y) ∧
      u.direction = .reverse ∧ l.bound = u.localPort := by
  have henable : enable ephemeral.traced none (.single 27183) false ((), []) =
      (.ok (⟨.reverse, 27183⟩, some { port := 27183, bound := 27183 }), (), _) := rfl
  obtain ⟨l, _, hl, -, hlistened⟩ := enable_listens ephemeral_listens henable rfl
  exact ⟨_, l, _, hl ▸ henable, rfl, hlistened.bound.2 (by decide)⟩

/-- A range of port zero alone: the port that is mapped is not the one listened on. -/
theorem zero_not_listened_on :
    ¬ ∀ (S : Surroundings Unit) (range : PortRange) (u : Tunnel) (l : Listener) (y : Unit × Trace),
      S.Listens → enable S.traced none range false ((), []) = (.ok (u, some l), y) →
        u.direction = .reverse → l.bound = u.localPort := by
  intro h
  obtain ⟨y, hy⟩ := enable_zero ephemeral none (.single 0) (w := ()) rfl rfl rfl []
  exact absurd (h _ _ _ _ _ ephemeral_listens hy rfl) (by decide)

end Tunnel

end DeviceLink
