import DeviceLink.Proofs.Tunnel.Walk
import DeviceLink.Proofs.Surroundings.Demands
/-!
# Tunnels — which one is selected

How a port turns out is a matter of the surroundings: whether it can be mapped
either way, whether it can be listened on. Where that is settled for every port
beforehand (`Outcomes`), so is the tunnel. A search goes through the ports in
order and ends at the least one of a kind, or past them all (`EndsAt`): the one
for a reverse tunnel at a port that is refused or can be listened on, the one
for a forward tunnel at a port that can be mapped. `enable_selects` says what
comes of the two, and which commands the bridge is told for it.
-/

namespace DeviceLink

/-! ## Where a search ends -/

namespace PortRange

/-- **The least port of the range** of a kind. -/
structure Least (range : PortRange) (P : Port → Prop) (port : Port) : Prop where
  contains : range.contains port = true
  kind : P port
  least : ∀ q, range.contains q = true → P q → port ≤ q

/-- **Where a search for a port of a kind ends**, past them all if there is none. -/
inductive EndsAt (range : PortRange) (P : Port → Prop) : Option Port → Prop
  | least {port : Port} : range.Least P port → EndsAt range P (some port)
  | vain : (∀ q, range.contains q = true → ¬ P q) → EndsAt range P none

/-- The ports a search has passed where it ends, in the order of the search. -/
def passed (range : PortRange) : Option Port → List Port
  | some port => range.ports.filter (· < port)
  | none => range.ports

variable {range : PortRange} {P : Port → Prop} {port : Port}

theorem Least.unique {port' : Port} (h : range.Least P port) (h' : range.Least P port') :
    port = port' :=
  UInt16.le_antisymm (h.least port' h'.contains h'.kind) (h'.least port h.contains h.kind)

/-- A search that comes to a port of the kind ends there. -/
theorem least_of_ports {pre post : List Port} (h : range.ports = pre ++ port :: post)
    (hpre : ∀ q ∈ pre, ¬ P q) (hport : P port) :
    range.Least P port ∧ range.passed (some port) = pre := by
  have hsorted := range.pairwise_ports
  rw [h, List.pairwise_append, List.pairwise_cons] at hsorted
  obtain ⟨-, ⟨hpost, -⟩, hbelow⟩ := hsorted
  refine ⟨⟨mem_ports.1 (by simp [h]), hport, fun q hq hP => ?_⟩, ?_⟩
  · rw [← mem_ports, h, List.mem_append, List.mem_cons] at hq
    rcases hq with hq | rfl | hq
    · exact absurd hP (hpre q hq)
    · exact UInt16.le_refl q
    · exact UInt16.le_of_lt (hpost q hq)
  · have hpass : pre.filter (· < port) = pre :=
      List.filter_eq_self.2 fun q hq => decide_eq_true (hbelow q hq port List.mem_cons_self)
    have hstop : (port :: post).filter (· < port) = [] := by
      refine List.filter_eq_nil_iff.2 fun q hq => ?_
      rcases List.mem_cons.1 hq with rfl | hq
      · simp
      · simpa using UInt16.le_of_lt (hpost q hq)
    rw [passed, h, List.filter_append, hpass, hstop, List.append_nil]

end PortRange

namespace Tunnel

/-! ## How ports turn out -/

/-- How each port turns out. -/
structure Outcomes where
  /-- The port can be mapped for a reverse tunnel. -/
  reverses : Port → Bool
  /-- The port can be listened on. -/
  listens : Port → Bool
  /-- The port can be mapped for a forward tunnel. -/
  forwards : Port → Bool

namespace Outcomes

/-- A search for a reverse tunnel goes no further than the port: its mapping is
refused, or it is listened on. -/
def Settles (o : Outcomes) (port : Port) : Prop := o.reverses port = false ∨ o.listens port = true

/-- **A reverse tunnel is had on a port.** -/
structure Reverses (o : Outcomes) (range : PortRange) (forced : Bool) (port : Port) : Prop where
  unforced : forced = false
  least : range.Least o.Settles port
  reverses : o.reverses port = true
  listens : o.listens port = true

end Outcomes

/-- **Ports turn out by an assignment of outcomes**, for a device. What comes of a
removal is left open. -/
structure TurnOut {σ : Type} (S : Surroundings σ) (serial : Option String) (o : Outcomes) :
    Prop where
  reverse : ∀ port w,
    (S.bridge serial (.reverse Agent.socketName port) w).1.isOk = o.reverses port
  listen : ∀ port w, (S.listen port w).1.isOk = o.listens port
  forward : ∀ port w,
    (S.bridge serial (.forward port Agent.socketName) w).1.isOk = o.forwards port

section Commands

variable (serial : Option String)

/-- A port is asked for in search of a reverse tunnel. -/
def asked (port : Port) : List Demand := [.command serial (.reverse Agent.socketName port)]

/-- A port is asked for and given up again. -/
def passedBy (port : Port) : List Demand :=
  [.command serial (.reverse Agent.socketName port),
    .command serial (.reverseRemove Agent.socketName)]

/-- A port is asked for in search of a forward tunnel. -/
def forwarded (port : Port) : List Demand := [.command serial (.forward port Agent.socketName)]

variable (o : Outcomes) (range : PortRange)

/-- The commands of a search for a reverse tunnel. -/
inductive ReverseCalls : List Demand → Prop
  | upTo {stop : Option Port} : range.EndsAt o.Settles stop →
      ReverseCalls ((range.passed stop).flatMap (passedBy serial) ++
        stop.toList.flatMap (asked serial))

/-- The commands of a search for a forward tunnel. -/
inductive ForwardCalls : List Demand → Prop
  | upTo {stop : Option Port} : range.EndsAt (o.forwards · = true) stop →
      ForwardCalls ((range.passed stop ++ stop.toList).flatMap (forwarded serial))

/-- **The commands told while a tunnel is enabled.** -/
inductive Calls : Bool → List Demand → Prop
  | reverse {ds : List Demand} {port : Port} : o.Reverses range false port →
      ReverseCalls serial o range ds → Calls false ds
  | fallback {ds ds' : List Demand} : (∀ port, ¬ o.Reverses range false port) →
      ReverseCalls serial o range ds → ForwardCalls serial o range ds' → Calls false (ds ++ ds')
  | forced {ds : List Demand} : ForwardCalls serial o range ds → Calls true ds

/-- **The tunnel that is selected**, and what the bridge is told for it. -/
structure Selection (forced : Bool) (ds : List Demand)
    (r : Except TunnelError (Tunnel × Option Listener)) : Prop where
  /-- A reverse tunnel with a listener on its port is had exactly where one can be. -/
  reverse : ∀ port, (∃ l, l.port = port ∧ r = .ok (⟨.reverse, port⟩, some l)) ↔
    o.Reverses range forced port
  /-- Else it is a forward one without, on the least port that can be mapped. -/
  forward : ∀ port, r = .ok (⟨.forward, port⟩, none) ↔
    (∀ p, ¬ o.Reverses range forced p) ∧ range.Least (o.forwards · = true) port
  /-- Else it fails for want of a port, in words that fit the range. -/
  exhausted : ∀ e, r = .error e ↔
    (∀ p, ¬ o.Reverses range forced p) ∧
      (∀ q, range.contains q = true → o.forwards q = false) ∧
      e = if range.first = range.last then .portUnavailable .forward range.first
        else .rangeExhausted .forward range.first range.last
  calls : Calls serial o range forced ds

end Commands

variable {σ : Type} {S : Surroundings σ} {serial : Option String} {range : PortRange}
  {o : Outcomes}

theorem exhausted_forward (range : PortRange) :
    TunnelError.exhausted .forward range =
      if range.first = range.last then .portUnavailable .forward range.first
      else .rangeExhausted .forward range.first range.last := by
  simp only [TunnelError.exhausted, PortRange.isSingle_iff]

/-! ## The search for a reverse tunnel -/

/-- What a search for a reverse tunnel comes to. -/
inductive ReverseEnd (o : Outcomes) (range : PortRange) :
    Except TunnelError (Tunnel × Listener) → Prop
  | had {port : Port} {l : Listener} : o.Reverses range false port → l.port = port →
      ReverseEnd o range (.ok (⟨.reverse, port⟩, l))
  | failed {e : TunnelError} : (∀ port, ¬ o.Reverses range false port) →
      ReverseEnd o range (.error e)

/-- Ports that are passed by stand before the rest in the search. -/
theorem ReverseWalk.calls (pre : List Port) {ports : List Port} {es : Trace}
    {r : Except TunnelError (Tunnel × Listener)} (h : ReverseWalk serial range ports es r)
    (ho : TurnOut S serial o) (hes : ∀ e ∈ es, S.Yields e) (hports : range.ports = pre ++ ports)
    (hpre : ∀ q ∈ pre, ¬ o.Settles q) :
    ReverseEnd o range r ∧
      ReverseCalls serial o range (pre.flatMap (passedBy serial) ++ es.demands) := by
  induction h generalizing pre with
  | exhausted =>
      rw [List.append_nil] at hports
      have hnone : ∀ q, range.contains q = true → ¬ o.Settles q := fun q hq =>
        hpre q (hports ▸ PortRange.mem_ports.2 hq)
      refine ⟨.failed fun port h => hnone port h.least.contains h.least.kind, ?_⟩
      simpa [PortRange.passed, hports, Trace.demands] using
        (.upTo (.vain hnone) : ReverseCalls serial o range _)
  | @refused port rest e =>
      obtain ⟨w, hw⟩ := hes _ List.mem_cons_self rfl
      have hport : o.reverses port = false := by rw [← ho.reverse port w, hw]; rfl
      obtain ⟨hleast, hpassed⟩ := PortRange.least_of_ports hports hpre (.inl hport)
      refine ⟨.failed fun port' h => ?_, ?_⟩
      · rw [h.least.unique hleast] at h
        exact absurd h.reverses (by simp [hport])
      · rw [← hpassed]
        exact .upTo (.least hleast)
  | @bound port at' rest =>
      obtain ⟨w, hw⟩ := hes _ List.mem_cons_self rfl
      obtain ⟨w', hw'⟩ := hes _ (List.mem_cons_of_mem _ List.mem_cons_self)
      have hport : o.reverses port = true := by rw [← ho.reverse port w, hw]; rfl
      have hlistens : o.listens port = true := by rw [← ho.listen port w', hw']; rfl
      obtain ⟨hleast, hpassed⟩ := PortRange.least_of_ports hports hpre (.inr hlistens)
      refine ⟨.had ⟨rfl, hleast, hport, hlistens⟩ rfl, ?_⟩
      rw [← hpassed]
      exact .upTo (.least hleast)
  | @busy port rest e removed es r _ ih =>
      rw [List.forall_mem_append] at hes
      obtain ⟨w, hw⟩ := hes.1 _ List.mem_cons_self rfl
      obtain ⟨w', hw'⟩ := hes.1 _ (List.mem_cons_of_mem _ List.mem_cons_self)
      have hport : o.reverses port = true := by rw [← ho.reverse port w, hw]; rfl
      have hlistens : o.listens port = false := by rw [← ho.listen port w', hw']; rfl
      have hunsettled : ¬ o.Settles port := by simp [Outcomes.Settles, hport, hlistens]
      -- The port joins those passed by, and the search goes on behind it.
      have hrest := ih (pre ++ [port]) hes.2 (by simpa using hports)
        (List.forall_mem_append.2 ⟨hpre, by simpa using hunsettled⟩)
      rwa [List.flatMap_append, List.flatMap_singleton, List.append_assoc] at hrest

/-! ## The search for a forward tunnel -/

/-- What a search for a forward tunnel comes to. -/
inductive ForwardEnd (o : Outcomes) (range : PortRange) : Except TunnelError Tunnel → Prop
  | had {port : Port} : range.Least (o.forwards · = true) port →
      ForwardEnd o range (.ok ⟨.forward, port⟩)
  | failed : (∀ q, range.contains q = true → o.forwards q = false) →
      ForwardEnd o range (.error (.exhausted .forward range))

theorem ForwardWalk.calls (pre : List Port) {ports : List Port} {es : Trace} {r : Except TunnelError Tunnel}
    (h : ForwardWalk serial range ports es r) (ho : TurnOut S serial o)
    (hes : ∀ e ∈ es, S.Yields e) (hports : range.ports = pre ++ ports)
    (hpre : ∀ q ∈ pre, ¬ o.forwards q = true) :
    ForwardEnd o range r ∧
      ForwardCalls serial o range (pre.flatMap (forwarded serial) ++ es.demands) := by
  induction h generalizing pre with
  | exhausted =>
      rw [List.append_nil] at hports
      have hnone : ∀ q, range.contains q = true → ¬ o.forwards q = true := fun q hq =>
        hpre q (hports ▸ PortRange.mem_ports.2 hq)
      refine ⟨.failed fun q hq => Bool.eq_false_iff.2 (hnone q hq), ?_⟩
      simpa [PortRange.passed, hports, Trace.demands] using
        (.upTo (.vain hnone) : ForwardCalls serial o range _)
  | @mapped port rest =>
      obtain ⟨w, hw⟩ := hes _ List.mem_cons_self rfl
      have hport : o.forwards port = true := by rw [← ho.forward port w, hw]; rfl
      obtain ⟨hleast, hpassed⟩ := PortRange.least_of_ports hports hpre hport
      refine ⟨.had hleast, ?_⟩
      have hcalls : ForwardCalls serial o range _ := .upTo (.least hleast)
      rw [hpassed] at hcalls
      simpa [List.flatMap_append, forwarded, Trace.demands, Event.demand?] using hcalls
  | @refused port rest e es r _ ih =>
      rw [List.forall_mem_cons] at hes
      obtain ⟨w, hw⟩ := hes.1 rfl
      have hport : ¬ o.forwards port = true := by
        rw [← ho.forward port w, hw]
        exact Bool.false_ne_true
      have hrest := ih (pre ++ [port]) hes.2 (by simpa using hports)
        (List.forall_mem_append.2 ⟨hpre, by simpa using hport⟩)
      rwa [List.flatMap_append, List.flatMap_singleton, List.append_assoc] at hrest

/-! ## The two together -/

/-- Without a reverse tunnel it is the search for a forward one that decides. -/
theorem Selection.of_forward {forced : Bool} {ds : List Demand} {r : Except TunnelError Tunnel}
    (hnone : ∀ port, ¬ o.Reverses range forced port) (hend : ForwardEnd o range r)
    (hcalls : Calls serial o range forced ds) :
    Selection serial o range forced ds (r.map (·, none)) := by
  cases hend with
  | @had port hleast =>
      refine ⟨fun p => ⟨fun ⟨l, _, h⟩ => ?_, fun h => absurd h (hnone p)⟩,
        fun p => ⟨fun h => ?_, fun h => ?_⟩, fun e => ⟨fun h => ?_, fun h => ?_⟩, hcalls⟩
      · cases h
      · cases h
        exact ⟨hnone, hleast⟩
      · rw [h.2.unique hleast]
        rfl
      · cases h
      · exact absurd hleast.kind (by simp [h.2.1 port hleast.contains])
  | failed hvain =>
      refine ⟨fun p => ⟨fun ⟨l, _, h⟩ => ?_, fun h => absurd h (hnone p)⟩,
        fun p => ⟨fun h => ?_, fun h => ?_⟩, fun e => ⟨fun h => ?_, fun h => ?_⟩, hcalls⟩
      · cases h
      · cases h
      · exact absurd h.2.kind (by simp [hvain p h.2.contains])
      · cases h
        exact ⟨hnone, hvain, exhausted_forward range⟩
      · rw [h.2.2, ← exhausted_forward]
        rfl

/-- A reverse tunnel that is had is the one selected. -/
theorem Selection.of_reverse {port : Port} {l : Listener} {ds : List Demand}
    (h : o.Reverses range false port) (hl : l.port = port)
    (hcalls : Calls serial o range false ds) :
    Selection serial o range false ds (.ok (⟨.reverse, port⟩, some l)) where
  reverse p := by
    constructor
    · rintro ⟨l', hl', hr⟩
      cases hr
      exact h
    · intro hp
      obtain rfl : p = port := hp.least.unique h.least
      exact ⟨l, hl, rfl⟩
  forward p := ⟨fun hr => (nomatch hr), fun hr => absurd h (hr.1 port)⟩
  exhausted e := ⟨fun hr => (nomatch hr), fun hr => absurd h (hr.1 port)⟩
  calls := hcalls

/-- **Which tunnel is selected**, and what the bridge is told for it, in all
surroundings where the ports turn out by an assignment of outcomes: the state
they are in and what comes of a removal make no difference. -/
theorem enable_selects (ho : TurnOut S serial o) (range : PortRange) (forced : Bool) (w : σ)
    (tr : Trace) :
    ∃ es, (enable S.traced serial range forced (w, tr)).2.2 = tr ++ es ∧
      Selection serial o range forced es.demands
        (enable S.traced serial range forced (w, tr)).1 := by
  obtain ⟨es, hes, hen, hyields⟩ := enable_yields S serial range forced w tr
  refine ⟨es, hes, ?_⟩
  generalize (enable S.traced serial range forced (w, tr)).1 = r at hen
  cases hen with
  | reverse hw =>
      obtain ⟨hend, hcalls⟩ := hw.calls [] ho hyields rfl (by simp)
      cases hend with
      | had h hl => exact .of_reverse h hl (.reverse h hcalls)
  | fallback hw hf =>
      rw [List.forall_mem_append] at hyields
      obtain ⟨hend, hcalls⟩ := hw.calls [] ho hyields.1 rfl (by simp)
      obtain ⟨hend', hcalls'⟩ := hf.calls [] ho hyields.2 rfl (by simp)
      cases hend with
      | failed hnone =>
          rw [Trace.demands_append]
          exact .of_forward hnone hend' (.fallback hnone hcalls hcalls')
  | forward hf =>
      obtain ⟨hend, hcalls⟩ := hf.calls [] ho hyields rfl (by simp)
      exact .of_forward (fun port h => (nomatch h.unforced)) hend (.forced hcalls)

/-- Surroundings in which all ports can be mapped, and the low ones are busy. -/
def crowded : Surroundings Unit :=
  { Surroundings.barren with
    listen := fun port => pure (if 27185 ≤ port then .ok port else .error .addressInUse) }

/-- How ports turn out there. -/
def crowdedOutcomes : Outcomes := ⟨fun _ => true, fun port => decide (27185 ≤ port), fun _ => true⟩

/-- Where the first two ports of the standard range are busy the third is selected. -/
theorem crowded_enable_selects :
    TurnOut crowded none crowdedOutcomes ∧ ∃ l : Listener, l.port = 27185 ∧
      (enable crowded.traced none .standard false ((), [])).1 =
        .ok (⟨.reverse, 27185⟩, some l) := by
  have ho : TurnOut crowded none crowdedOutcomes := by
    refine ⟨fun _ _ => rfl, fun port w => ?_, fun _ _ => rfl⟩
    by_cases h : 27185 ≤ port <;> simp [crowded, crowdedOutcomes, h, Except.isOk, Except.toBool]
  have hleast : PortRange.standard.Least crowdedOutcomes.Settles 27185 :=
    ⟨by decide, .inr rfl, fun q _ hq => by simpa [Outcomes.Settles, crowdedOutcomes] using hq⟩
  obtain ⟨es, -, hselection⟩ := enable_selects ho .standard false () []
  exact ⟨ho, (hselection.reverse 27185).2 ⟨rfl, hleast, rfl, rfl⟩⟩

end Tunnel

end DeviceLink
