import DeviceLink.Proofs.Session.Stopping
/-!
# Sessions — calls in any order

Whoever owns a session may start it, connect it, take its channels and stop it
in any order, and go on whatever a call came to. `Deed` is one such call and
`play` is any number of them; what every deed keeps, every play keeps
(`play_keeps`).
-/

namespace DeviceLink

namespace Session

/-- A call an owner makes, with what it is made with. -/
inductive Deed
  | start (artifact : String) (serial : Option String) (p : Params)
  | connect
  | take
  | stop

/-- What a deed gives: channels, if it hands them over. -/
abbrev Reply := Except (Halt SessionError) (Option (Stream × Stream))

variable {σ : Type} (S : Surroundings σ)

/-- The call. -/
def Deed.call : Deed → Call σ (Option (Stream × Stream))
  | .start artifact serial p => (fun _ => none) <$> Session.start S artifact serial p
  | .connect => (fun _ => none) <$> Session.connect S
  | .take => takeChannels
  | .stop => (fun _ => none) <$> Session.stop S

/-- One deed after the other, with what each gives and the phase it leaves. -/
def play : List Deed → Session × σ → List (Reply × Phase) × Session × σ
  | [], x => ([], x)
  | d :: ds, x =>
    let y := d.call S x
    let z := play ds y.2
    ((y.1, y.2.1.phase) :: z.1, z.2)

theorem play_cons (d : Deed) (ds : List Deed) (x : Session × σ) :
    play S (d :: ds) x =
      (((d.call S x).1, (d.call S x).2.1.phase) :: (play S ds (d.call S x).2).1,
        (play S ds (d.call S x).2).2) := rfl

variable {S}

/-- What every deed keeps, every play keeps. -/
theorem play_keeps {P : Session × σ → Prop} (h : ∀ (d : Deed) {x}, P x → P (d.call S x).2)
    (ds : List Deed) {x : Session × σ} (hx : P x) : P (play S ds x).2 := by
  induction ds generalizing x with
  | nil => exact hx
  | cons d ds ih => exact ih (h d hx)

/-- Taking the channels changes nothing but them. -/
theorem takeChannels_apply (s : Session) (x : σ) :
    ∃ r video control, takeChannels (s, x) = (.ok r, { s with video, control }, x) := by
  simp only [takeChannels, Trial.bind_apply, current_apply]
  rcases hv : s.video with _ | v
  · exact ⟨none, s.video, s.control, rfl⟩
  rcases hc : s.control with _ | c
  · exact ⟨none, s.video, s.control, rfl⟩
  · exact ⟨some (v, c), none, none, rfl⟩

end Session

end DeviceLink
