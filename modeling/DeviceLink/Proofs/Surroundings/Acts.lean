import DeviceLink.Session.Basic
/-!
# Surroundings — acts, run on a state

An act is a function on what it acts on, and what its parts do to a state is
read off by rewriting: an act after another runs on the state the first one
left, and nothing runs after a failure.
-/

namespace DeviceLink

variable {τ α β ε : Type}

/-! ## Acts that give a value -/

namespace Act

@[simp] theorem pure_apply (a : α) (t : τ) : (pure a : StateM τ α) t = (a, t) := rfl

@[simp] theorem bind_apply (x : StateM τ α) (f : α → StateM τ β) (t : τ) :
    (x >>= f) t = f (x t).1 (x t).2 := rfl

@[simp] theorem map_apply (f : α → β) (x : StateM τ α) (t : τ) :
    (f <$> x) t = (f (x t).1, (x t).2) := rfl

@[simp] theorem get_apply (t : τ) : (get : StateM τ τ) t = (t, t) := rfl

@[simp] theorem modify_apply (f : τ → τ) (t : τ) : (modify f : StateM τ Unit) t = ((), f t) := rfl

end Act

/-! ## Acts that may fail -/

namespace Trial

@[simp] theorem pure_apply (a : α) (t : τ) :
    (pure a : ExceptT ε (StateM τ) α) t = (.ok a, t) := rfl

@[simp] theorem bind_apply (x : ExceptT ε (StateM τ) α) (f : α → ExceptT ε (StateM τ) β) (t : τ) :
    (x >>= f) t = match x t with
      | (.ok a, t) => f a t
      | (.error e, t) => (.error e, t) := by
  change ExceptT.bindCont f (x t).1 (x t).2 = _
  rcases x t with ⟨e | a, t'⟩ <;> rfl

@[simp] theorem map_apply (f : α → β) (x : ExceptT ε (StateM τ) α) (t : τ) :
    (f <$> x) t = ((x t).1.map f, (x t).2) := by
  simp only [Functor.map, ExceptT.map, ExceptT.mk, Act.bind_apply]
  rcases x t with ⟨e | a, t'⟩ <;> rfl

@[simp] theorem discard_apply (x : ExceptT ε (StateM τ) α) (t : τ) :
    (discard x : ExceptT ε (StateM τ) Unit) t = ((x t).1.map fun _ => (), (x t).2) :=
  map_apply (fun _ => ()) x t

@[simp] theorem throw_apply (e : ε) (t : τ) :
    (throw e : ExceptT ε (StateM τ) α) t = (.error e, t) := rfl

@[simp] theorem lift_apply (x : StateM τ α) (t : τ) :
    (ExceptT.lift x : ExceptT ε (StateM τ) α) t = (.ok (x t).1, (x t).2) := rfl

@[simp] theorem monadLift_apply (x : StateM τ α) (t : τ) :
    (monadLift x : ExceptT ε (StateM τ) α) t = (.ok (x t).1, (x t).2) := rfl

@[simp] theorem run_apply (x : ExceptT ε (StateM τ) α) (t : τ) : x.run t = x t := rfl

@[simp] theorem mk_apply (x : StateM τ (Except ε α)) (t : τ) : ExceptT.mk x t = x t := rfl

end Trial

theorem Listener.bind_apply {σ : Type} (S : Surroundings σ) (port : Port) (w : σ) :
    Listener.bind S port w =
      ((S.listen port w).1.map fun bound => { port, bound }, (S.listen port w).2) := by
  simp only [Listener.bind, Trial.bind_apply, Trial.mk_apply]
  rcases S.listen port w with ⟨e | bound, w'⟩ <;> rfl

/-! ## Parts of a session's call -/

namespace Session

variable {σ : Type}

@[simp] theorem outside_apply (act : StateM σ α) (s : Session) (w : σ) :
    outside act (s, w) = (.ok (act w).1, s, (act w).2) := rfl

@[simp] theorem current_apply (s : Session) (w : σ) : current (s, w) = (.ok s, s, w) := rfl

@[simp] theorem update_apply (f : Session → Session) (s : Session) (w : σ) :
    update f (s, w) = (.ok (), f s, w) := rfl

@[simp] theorem fail_apply (cause : SessionError) (s : Session) (w : σ) :
    (fail cause : Call σ α) (s, w) = (.error (.failed cause), s, w) := rfl

@[simp] theorem waiting_apply (act : StateM (Vigil × σ) (Option α)) (s : Session) (w : σ) :
    waiting act (s, w) =
      ((act (s.vigil, w)).1.elim (.error .stuck) .ok,
        { s with vigil := (act (s.vigil, w)).2.1 }, (act (s.vigil, w)).2.2) := rfl

@[simp] theorem attempt_apply (act : Connection.Attempt σ α) (s : Session) (w : σ) :
    attempt act (s, w) =
      ((act (s.vigil, w)).1, { s with vigil := (act (s.vigil, w)).2.1 },
        (act (s.vigil, w)).2.2) := rfl

end Session

/-! ## Acts beside a watcher -/

namespace Vigil

variable {σ : Type}

@[simp] theorem outside_apply (act : StateM σ α) (v : Vigil) (w : σ) :
    outside act (v, w) = ((act w).1, v, (act w).2) := rfl

@[simp] theorem settle_apply (S : Surroundings σ) (v : Vigil) (w : σ) :
    settle S (v, w) = ((), v.settled S w) := rfl

end Vigil

end DeviceLink
