/-!
Programs that change a state and may stop with an error. What was changed before
the error stays changed.
-/
namespace Effects

def Effect (σ ε α : Type) := σ → Except ε α × σ

variable {σ τ ε ε' α β : Type}

instance : Monad (Effect σ ε) where
  pure a := fun s => (.ok a, s)
  bind m f := fun s => match m s with
    | (.ok a, t) => f a t
    | (.error e, t) => (.error e, t)

def stop (e : ε) : Effect σ ε α := fun s => (.error e, s)

/-- What can be read off the state. -/
def look (f : σ → α) : Effect σ ε α := fun s => (.ok (f s), s)

def ofExcept : Except ε α → Effect σ ε α
  | .ok a => pure a
  | .error e => stop e

/-- The outcome as a value, for a handler to look at. -/
def attempt (m : Effect σ ε α) : Effect σ ε' (Except ε α) := fun s => (.ok (m s).1, (m s).2)

/-! Conditions before, after and at an error -/

/-- From a state with `P`, a result leaves `Q` and an error leaves `E`. -/
def Meets (P : σ → Prop) (m : Effect σ ε α) (Q : α → σ → Prop) (E : ε → σ → Prop) : Prop :=
  ∀ s, P s → match m s with
    | (.ok a, t) => Q a t
    | (.error e, t) => E e t

variable {P : σ → Prop} {m : Effect σ ε α} {Q : α → σ → Prop} {E : ε → σ → Prop}

theorem Meets.pure (a : α) (holds : ∀ s, P s → Q a s) :
    Meets P (pure a : Effect σ ε α) Q E := holds

theorem Meets.stop (e : ε) (holds : ∀ s, P s → E e s) :
    Meets P (stop e : Effect σ ε α) Q E := holds

theorem Meets.look (f : σ → α) (holds : ∀ s, P s → Q (f s) s) :
    Meets P (look f : Effect σ ε α) Q E := holds

theorem Meets.bind {f : α → Effect σ ε β} {R : β → σ → Prop} (first : Meets P m Q E)
    (next : ∀ a, Meets (Q a) (f a) R E) : Meets P (m >>= f) R E := by
  intro s holds
  have one := first s holds
  change match (match m s with
    | (.ok a, t) => f a t
    | (.error e, t) => (.error e, t)) with
    | (.ok b, u) => R b u
    | (.error e, u) => E e u
  match ran : m s with
  | (.ok a, t) =>
    rw [ran] at one
    exact next a t one
  | (.error e, t) =>
    rw [ran] at one
    exact one

theorem Meets.mono {P' : σ → Prop} {Q' : α → σ → Prop} {E' : ε → σ → Prop}
    (meets : Meets P m Q E) (weaker : ∀ s, P' s → P s)
    (done : ∀ a s, Q a s → Q' a s) (stopped : ∀ e s, E e s → E' e s) :
    Meets P' m Q' E' := by
  intro s holds
  have one := meets s (weaker s holds)
  match ran : m s with
  | (.ok a, t) =>
    rw [ran] at one
    exact done a t one
  | (.error e, t) =>
    rw [ran] at one
    exact stopped e t one

theorem Meets.attempt {R : Except ε α → σ → Prop} {E₀ : ε' → σ → Prop}
    (meets : Meets P m Q E) (done : ∀ a s, Q a s → R (.ok a) s)
    (stopped : ∀ e s, E e s → R (.error e) s) :
    Meets P (attempt m : Effect σ ε' (Except ε α)) R E₀ := by
  intro s holds
  have one := meets s holds
  change R (m s).1 (m s).2
  match ran : m s with
  | (.ok a, t) =>
    rw [ran] at one
    exact done a t one
  | (.error e, t) =>
    rw [ran] at one
    exact stopped e t one

/-- A fact that does not depend on the state. -/
theorem Meets.given {p : Prop} (each : p → Meets P m Q E) : Meets (fun s => p ∧ P s) m Q E :=
  fun s holds => each holds.1 s holds.2

theorem Meets.outcome {s : σ} (meets : Meets P m Q E) (holds : P s) :
    (∀ a, (m s).1 = .ok a → Q a (m s).2) ∧ ∀ e, (m s).1 = .error e → E e (m s).2 := by
  have one := meets s holds
  match ran : m s with
  | (.ok a, t) =>
    rw [ran] at one
    exact ⟨fun _ same => Except.ok.inj same ▸ one, nofun⟩
  | (.error e, t) =>
    rw [ran] at one
    exact ⟨nofun, fun _ same => Except.error.inj same ▸ one⟩

/-! What a program does not touch -/

/-- Whatever the outcome, what `f` shows is as before. -/
def Quiet (f : σ → τ) (m : Effect σ ε α) : Prop := ∀ s, f (m s).2 = f s

variable {f : σ → τ}

theorem quiet_pure (a : α) : Quiet f (pure a : Effect σ ε α) := fun _ => rfl

theorem quiet_stop (e : ε) : Quiet f (stop e : Effect σ ε α) := fun _ => rfl

theorem quiet_look (g : σ → α) : Quiet f (look g : Effect σ ε α) := fun _ => rfl

theorem Quiet.attempt (quiet : Quiet f m) : Quiet f (attempt m : Effect σ ε' (Except ε α)) := quiet

theorem Quiet.bind {g : α → Effect σ ε β} (first : Quiet f m) (next : ∀ a, Quiet f (g a)) :
    Quiet f (m >>= g) := by
  intro s
  change f (match m s with
    | (.ok a, t) => g a t
    | (.error e, t) => (.error e, t)).2 = f s
  have one := first s
  match ran : m s with
  | (.ok a, t) =>
    rw [ran] at one
    rw [next a t]
    exact one
  | (.error e, t) =>
    rw [ran] at one
    exact one

theorem Quiet.meets (quiet : Quiet f m) (I : τ → Prop) :
    Meets (fun s => I (f s)) m (fun _ t => I (f t)) (fun _ t => I (f t)) := by
  intro s holds
  have same := quiet s
  match ran : m s with
  | (.ok a, t) =>
    rw [ran] at same
    change I (f t)
    rw [show f t = f s from same]
    exact holds
  | (.error e, t) =>
    rw [ran] at same
    change I (f t)
    rw [show f t = f s from same]
    exact holds

/-- A program that touches nothing and then another. -/
theorem Quiet.then {g : α → Effect σ ε β} {I : τ → Prop} {R : β → σ → Prop} (quiet : Quiet f m)
    (stays : ∀ e s, I (f s) → E e s)
    (next : ∀ a, Meets (fun s => I (f s)) (g a) R E) :
    Meets (fun s => I (f s)) (m >>= g) R E :=
  ((quiet.meets I).mono (fun _ => id) (fun _ _ => id) stays).bind next

end Effects
