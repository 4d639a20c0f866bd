import DeviceLink.Proofs.Listener.Moves
import DeviceLink.Watcher
/-!
# Watchers — the moves of a watcher

Everything a watcher can do in one move. It tells the termination before it
turns to the listener, and kills the process only where it was asked to; what
follows for whoever shares a vigil with it is proved by the cases of `Does`.
-/

namespace DeviceLink

namespace Vigil

/-- **One move** of the watcher of a vigil. -/
inductive Does {σ : Type} : Vigil → Watcher → σ × Trace → Vigil → σ × Trace → Prop
  /-- The process has ended. -/
  | reap {v : Vigil} {x : Watcher} {w w' : σ} {t : Trace} {r : Except IoError Unit} :
      x.stage = .watching ∨ x.stage = .reaping →
      Does v x (w, t) (v.withStage x .telling) (w', t ++ [.ended x.process r])
  /-- A kill was asked for. -/
  | ask {v : Vigil} {x : Watcher} {y : σ × Trace} :
      x.stage = .watching → x.killAsked = true → Does v x y (v.withStage x .killing) y
  | kill {v : Vigil} {x : Watcher} {w w' : σ} {t : Trace} {r : Except IoError Unit} :
      x.stage = .killing →
      Does v x (w, t) (v.withStage x .reaping) (w', t ++ [.kill x.process r])
  | tell {v : Vigil} {x : Watcher} {y : σ × Trace} :
      x.stage = .telling →
      Does v x y
        ({ v with terminated := true }.withStage x
          (if x.guards then .closing .closing else .finished)) y
  /-- Its call on the listener moves. -/
  | call {v : Vigil} {x : Watcher} {y y' : σ × Trace} {l l' : Listener} {c c' : Listener.Call} :
      x.stage = .closing c → v.listener = some l → Listener.Call.Does watcherId c l y c' l' y' →
      Does v x y ({ v with listener := some l' }.withStage x (.closing c')) y'
  /-- Its call on the listener is over, or there is nothing to call on. -/
  | finish {v : Vigil} {x : Watcher} {y : σ × Trace} {c : Listener.Call} :
      x.stage = .closing c → (v.listener.isSome → c.isOver = true) →
      Does v x y (v.withStage x .finished) y

variable {σ : Type} {S : Surroundings σ} {v : Vigil} {y : σ × Trace}

/-- A watcher neither finds a listener nor loses one. -/
theorem Does.isSome_listener {x : Watcher} {v' : Vigil} {y' : σ × Trace}
    (h : Does v x y v' y') : v'.listener.isSome = v.listener.isSome := by
  cases h with
  | call _ hl _ => rw [hl]; rfl
  | _ => rfl

theorem reap_does {x : Watcher} {m : Vigil × σ × Trace}
    (hs : x.stage = .watching ∨ x.stage = .reaping) (h : m ∈ v.reap S.traced x y) :
    Does v x y m.1 m.2 := by
  obtain ⟨w, t⟩ := y
  have he : S.traced.ended? x.process (w, t) = ((S.ended? x.process w).1,
      (S.ended? x.process w).2, t ++ (S.ended? x.process w).1.toList.map (.ended x.process)) := rfl
  rw [reap, he] at h
  generalize S.ended? x.process w = z at h
  obtain ⟨_ | r, w'⟩ := z
  · cases h
  · rw [List.mem_singleton] at h
    rw [h]
    cases r with
    | ok _ => exact .reap hs
    | error e =>
        simp only [noteWait, Surroundings.traced_warn]
        exact .reap hs

/-- **All there is to a move** of a watcher. -/
theorem moves_does {m : Vigil × σ × Trace} (h : m ∈ v.moves S.traced y) :
    ∃ x, v.watcher = some x ∧ Does v x y m.1 m.2 := by
  unfold moves at h
  split at h
  · next x hx =>
      refine ⟨x, hx, ?_⟩
      unfold movesOf at h
      split at h
      · next hs =>
          rcases List.mem_append.1 h with h | h
          · exact reap_does (.inl hs) h
          · split at h
            · next hk => rw [List.mem_singleton] at h; rw [h]; exact .ask hs hk
            · cases h
      · next hs =>
          rw [List.mem_singleton] at h
          rw [h]
          obtain ⟨w, t⟩ := y
          have hkill : S.traced.kill x.process (w, t) = ((S.kill x.process w).1,
              (S.kill x.process w).2, t ++ [.kill x.process (S.kill x.process w).1]) := rfl
          rw [hkill]
          generalize S.kill x.process w = z
          obtain ⟨r, w'⟩ := z
          cases r with
          | ok _ => exact .kill hs
          | error e =>
              simp only [noteFailure, Surroundings.traced_warn]
              exact .kill hs
      · next hs => exact reap_does (.inr hs) h
      · next hs => rw [List.mem_singleton] at h; rw [h]; exact .tell hs
      · next c hs =>
          split at h
          · next l hl =>
              split at h
              · next ho => rw [List.mem_singleton] at h; rw [h]; exact .finish hs fun _ => ho
              · obtain ⟨n, hn, rfl⟩ := List.mem_map.1 h
                exact .call hs hl (Listener.Call.moves_does hn)
          · next hl =>
              rw [List.mem_singleton] at h
              rw [h]
              exact .finish hs fun hsome => by rw [hl] at hsome; cases hsome
      · cases h
  · cases h

end Vigil

end DeviceLink
