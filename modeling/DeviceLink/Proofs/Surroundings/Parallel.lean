import DeviceLink.Proofs.Activation.Answer
import DeviceLink.Proofs.Surroundings.Trace
/-!
# Surroundings — two at a time

One call is made in two surroundings, which need not have the same states. A
relation between the states that each act keeps, whatever the acts give, is
kept by what is made of the acts; the rules of this file follow the ways acts
are put together, one for each. `Surroundings.Concord` is what two surroundings
have to agree in for a session to fare alike in both, but for the bridge, and
`Surroundings.Agree` is that and what has to be agreed in about the bridge.
-/

namespace DeviceLink

/-- Two outcomes of one kind: values of one relation or failures of another. -/
inductive Outcomes {ε ε' α α' : Type} (E : ε → ε' → Prop) (Q : α → α' → Prop) :
    Except ε α → Except ε' α' → Prop
  | ok {a : α} {a' : α'} : Q a a' → Outcomes E Q (.ok a) (.ok a')
  | error {e : ε} {e' : ε'} : E e e' → Outcomes E Q (.error e) (.error e')

/-- They succeed alike and with the same value, and may fail for different causes. -/
def Concur {ε ε' α : Type} : Except ε α → Except ε' α → Prop := Outcomes (fun _ _ => True) Eq

variable {τ τ' α α' β β' ε ε' : Type}

/-! ## The rules -/

/-- **Two acts in parallel**: from states of a relation they give results of
one, and the states they leave are related again. -/
def Act.Parallel (P : τ → τ' → Prop) (Q : α → α' → Prop) (x : StateM τ α) (x' : StateM τ' α') :
    Prop :=
  ∀ ⦃t t'⦄, P t t' → Q (x t).1 (x' t').1 ∧ P (x t).2 (x' t').2

/-- **Two acts in parallel** that may fail, and then fail together. -/
def Trial.Parallel (P : τ → τ' → Prop) (E : ε → ε' → Prop) (Q : α → α' → Prop)
    (x : ExceptT ε (StateM τ) α) (x' : ExceptT ε' (StateM τ') α') : Prop :=
  ∀ ⦃t t'⦄, P t t' → Outcomes E Q (x t).1 (x' t').1 ∧ P (x t).2 (x' t').2

namespace Act.Parallel

variable {P : τ → τ' → Prop} {Q : α → α' → Prop} {Q₂ : β → β' → Prop}

theorem pure {a : α} {a' : α'} (h : Q a a') : Act.Parallel P Q (pure a) (pure a') :=
  fun _ _ hP => ⟨h, hP⟩

theorem bind {x : StateM τ α} {x' : StateM τ' α'} {f : α → StateM τ β} {f' : α' → StateM τ' β'}
    (hx : Act.Parallel P Q x x') (hf : ∀ {a a'}, Q a a' → Act.Parallel P Q₂ (f a) (f' a')) :
    Act.Parallel P Q₂ (x >>= f) (x' >>= f') := fun _ _ hP =>
  have h := hx hP
  hf h.1 h.2

theorem mono {Q' : α → α' → Prop} {x : StateM τ α} {x' : StateM τ' α'}
    (hx : Act.Parallel P Q x x') (hQ : ∀ {a a'}, Q a a' → Q' a a') :
    Act.Parallel P Q' x x' := fun _ _ hP => ⟨hQ (hx hP).1, (hx hP).2⟩

theorem map {x : StateM τ α} {x' : StateM τ' α'} {f : α → β} {f' : α' → β'}
    (hx : Act.Parallel P Q x x') (hf : ∀ {a a'}, Q a a' → Q₂ (f a) (f' a')) :
    Act.Parallel P Q₂ (f <$> x) (f' <$> x') := fun _ _ hP => ⟨hf (hx hP).1, (hx hP).2⟩

end Act.Parallel

namespace Trial.Parallel

variable {P : τ → τ' → Prop} {E : ε → ε' → Prop} {Q : α → α' → Prop} {Q₂ : β → β' → Prop}

theorem pure {a : α} {a' : α'} (h : Q a a') : Trial.Parallel P E Q (pure a) (pure a') :=
  fun _ _ hP => ⟨.ok h, hP⟩

theorem throw {e : ε} {e' : ε'} (h : E e e') : Trial.Parallel P E Q (throw e) (throw e') :=
  fun _ _ hP => ⟨.error h, hP⟩

theorem bind {x : ExceptT ε (StateM τ) α} {x' : ExceptT ε' (StateM τ') α'}
    {f : α → ExceptT ε (StateM τ) β} {f' : α' → ExceptT ε' (StateM τ') β'}
    (hx : Trial.Parallel P E Q x x')
    (hf : ∀ {a a'}, Q a a' → Trial.Parallel P E Q₂ (f a) (f' a')) :
    Trial.Parallel P E Q₂ (x >>= f) (x' >>= f') := by
  intro t t' hP
  obtain ⟨hr, hu⟩ := hx hP
  simp only [Trial.bind_apply]
  rcases hy : x t with ⟨r, u⟩
  rcases hy' : x' t' with ⟨r', u'⟩
  simp only [hy, hy'] at hr hu
  cases hr with
  | ok hQ => exact hf hQ hu
  | error hE => exact ⟨.error hE, hu⟩

theorem map {x : ExceptT ε (StateM τ) α} {x' : ExceptT ε' (StateM τ') α'} {f : α → β}
    {f' : α' → β'} (hx : Trial.Parallel P E Q x x')
    (hf : ∀ {a a'}, Q a a' → Q₂ (f a) (f' a')) :
    Trial.Parallel P E Q₂ (f <$> x) (f' <$> x') := by
  intro t t' hP
  simp only [Trial.map_apply]
  obtain ⟨hr, hu⟩ := hx hP
  refine ⟨?_, hu⟩
  generalize (x t).1 = r at hr
  generalize (x' t').1 = r' at hr
  cases hr with
  | ok hQ => exact .ok (hf hQ)
  | error hE => exact .error hE

theorem discard {x : ExceptT ε (StateM τ) α} {x' : ExceptT ε' (StateM τ') α'}
    (hx : Trial.Parallel P E Q x x') :
    Trial.Parallel P E Eq (discard x) (discard x') := map hx fun _ => rfl

theorem ite {c : Prop} [Decidable c] {x y : ExceptT ε (StateM τ) α}
    {x' y' : ExceptT ε' (StateM τ') α'} (hx : Trial.Parallel P E Q x x')
    (hy : Trial.Parallel P E Q y y') :
    Trial.Parallel P E Q (if c then x else y) (if c then x' else y') := by
  split
  · exact hx
  · exact hy

/-- What cannot fail. -/
theorem lift {x : StateM τ α} {x' : StateM τ' α'} (hx : Act.Parallel P Q x x') :
    Trial.Parallel P E Q (ExceptT.lift x) (ExceptT.lift x') := fun _ _ hP =>
  ⟨.ok (hx hP).1, (hx hP).2⟩

/-- What may fail, with its failure as a result. -/
theorem run {x : ExceptT ε (StateM τ) α} {x' : ExceptT ε' (StateM τ') α'}
    (hx : Trial.Parallel P E Q x x') : Act.Parallel P (Outcomes E Q) x.run x'.run := hx

end Trial.Parallel

/-- Beside something that is the same in both. -/
def Beside (κ : Type) (R : τ → τ' → Prop) (x : κ × τ) (x' : κ × τ') : Prop :=
  x.1 = x'.1 ∧ R x.2 x'.2

theorem Beside.of {κ : Type} {R : τ → τ' → Prop} {t : τ} {t' : τ'} (k : κ) (h : R t t') :
    Beside κ R (k, t) (k, t') := ⟨rfl, h⟩

/-! ## Surroundings that agree -/

namespace Surroundings

variable {σ σ' : Type}

/-- **Two surroundings that agree in all but the bridge**, as far as it
matters. They may differ in what is reported, in how waiting for a process and
a kill turn out, and in what comes of any request but those of `asked`. -/
structure Concord (asked : Url → Prop) (S : Surroundings σ) (S' : Surroundings σ')
    (R : σ → σ' → Prop) : Prop where
  /-- What is reported in one of them alone changes nothing. -/
  told : ∀ r {w w'}, R w w' → R (S.report r w).2 w'
  told' : ∀ r {w w'}, R w w' → R w (S'.report r w').2
  isFile : ∀ path, Act.Parallel R Eq (S.isFile path) (S'.isFile path)
  /-- A process ends at the same moment, however waiting for it turns out. -/
  ended : ∀ p, Act.Parallel R (fun r r' => r.isSome = r'.isSome) (S.ended? p) (S'.ended? p)
  kill : ∀ p, Act.Parallel R (fun _ _ => True) (S.kill p) (S'.kill p)
  get : ∀ u, Act.Parallel R (fun r r' => asked u → Activator.answer r = Activator.answer r')
    (S.get u) (S'.get u)
  listen : ∀ port, Act.Parallel R Concur (S.listen port) (S'.listen port)
  arrival : ∀ port, Act.Parallel R Eq (S.arrival? port) (S'.arrival? port)
  unlisten : ∀ port, Act.Parallel R Eq (S.unlisten port) (S'.unlisten port)
  connect : ∀ e, Act.Parallel R Eq (S.connect e) (S'.connect e)
  readByte : ∀ x, Act.Parallel R Eq (S.readByte? x) (S'.readByte? x)
  close : ∀ x, Act.Parallel R Eq (S.close x) (S'.close x)
  next : ∀ limit, Act.Parallel R Eq (S.next? limit) (S'.next? limit)
  sleep : ∀ time, Act.Parallel R Eq (S.sleep time) (S'.sleep time)
  horizon : ∀ {w w'}, R w w' → S.horizon w = S'.horizon w'

/-- **Two surroundings that agree**, as far as it matters: they agree in which
commands succeed, save for those that take a mapping away, and not in why one
fails. -/
structure Agree (asked : Url → Prop) (S : Surroundings σ) (S' : Surroundings σ')
    (R : σ → σ' → Prop) : Prop extends Concord asked S S' R where
  bridge : ∀ serial c, Act.Parallel R (fun r r' => c.isRemoval = false → Concur r r')
    (S.bridge serial c) (S'.bridge serial c)
  execute : ∀ serial args, Act.Parallel R Concur (S.execute serial args) (S'.execute serial args)

namespace Concord

variable {asked : Url → Prop} {S : Surroundings σ} {S' : Surroundings σ'} {R : σ → σ' → Prop}

/-- Different things may be told, also one here and none there. -/
theorem reports (h : Concord asked S S' R) (r r' : Report) :
    Act.Parallel R Eq (S.report r) (S'.report r') :=
  fun _ _ hR => ⟨rfl, h.told r (h.told' r' hR)⟩

theorem reports_left (h : Concord asked S S' R) (r : Report) :
    Act.Parallel R Eq (S.report r) (pure () : StateM σ' Unit) :=
  fun _ _ hR => ⟨rfl, h.told r hR⟩

theorem reports_right (h : Concord asked S S' R) (r : Report) :
    Act.Parallel R Eq (pure () : StateM σ Unit) (S'.report r) :=
  fun _ _ hR => ⟨rfl, h.told' r hR⟩

end Concord

end Surroundings

end DeviceLink
