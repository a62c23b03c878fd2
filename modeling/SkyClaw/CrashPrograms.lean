import Mathlib.Logic.Basic

set_option linter.all false

/-!
Programs over a world that outlives them. An error can be caught; a crash ends
the program where it stands. Either way the world keeps what was done.
-/
namespace CrashPrograms

inductive Outcome (ε α : Type) where
  | value (a : α)
  | error (e : ε)
  | crash
  deriving DecidableEq

def Program (σ ε α : Type) : Type := σ → Outcome ε α × σ

variable {σ ε α β : Type}

namespace Program

def pure (a : α) : Program σ ε α := fun s => (.value a, s)

def bind (p : Program σ ε α) (f : α → Program σ ε β) : Program σ ε β := fun s =>
  match p s with
  | (.value a, t) => f a t
  | (.error e, t) => (.error e, t)
  | (.crash, t) => (.crash, t)

instance : Monad (Program σ ε) where
  pure := pure
  bind := bind

def throw (e : ε) : Program σ ε α := fun s => (.error e, s)

def lift : Except ε α → Program σ ε α
  | .ok a => pure a
  | .error e => throw e

def catchError (p : Program σ ε α) (handler : ε → Program σ ε α) : Program σ ε α := fun s =>
  match p s with
  | (.error e, t) => handler e t
  | other => other

/-- What the world shows. -/
def gets (g : σ → α) : Program σ ε α := fun s => (.value (g s), s)

end Program

/-- From a world in `pre`, a value leaves `post`, an error leaves `fail` and a crash leaves
`crashed`. -/
structure Triple (pre : σ → Prop) (p : Program σ ε α) (post : α → σ → Prop) (fail : ε → σ → Prop)
    (crashed : σ → Prop) : Prop where
  run : ∀ s, pre s → match p s with
    | (.value a, t) => post a t
    | (.error e, t) => fail e t
    | (.crash, t) => crashed t

variable {pre : σ → Prop} {p : Program σ ε α} {f : α → Program σ ε β} {post : α → σ → Prop}
  {after : β → σ → Prop} {fail : ε → σ → Prop} {crashed : σ → Prop}

theorem Triple.pure {a : α} (holds : ∀ s, pre s → post a s) :
    Triple pre (Pure.pure a : Program σ ε α) post fail crashed := ⟨holds⟩

theorem Triple.throw {e : ε} (holds : ∀ s, pre s → fail e s) :
    Triple pre (Program.throw e : Program σ ε α) post fail crashed := ⟨holds⟩

theorem Triple.bind (first : Triple pre p post fail crashed)
    (next : ∀ a, Triple (post a) (f a) after fail crashed) :
    Triple pre (p >>= f) after fail crashed := by
  refine ⟨fun s holds => ?_⟩
  have done := first.run s holds
  show match Program.bind p f s with
    | (.value a, t) => after a t
    | (.error e, t) => fail e t
    | (.crash, t) => crashed t
  rw [Program.bind]
  cases ran : p s with
  | mk outcome t =>
    rw [ran] at done
    cases outcome with
    | value a => exact (next a).run t done
    | error e => exact done
    | crash => exact done

theorem Triple.weaken {pre' : σ → Prop} {post' : α → σ → Prop} {fail' : ε → σ → Prop}
    {crashed' : σ → Prop} (proved : Triple pre' p post' fail' crashed') (before : ∀ s, pre s → pre' s)
    (value : ∀ a s, post' a s → post a s) (error : ∀ e s, fail' e s → fail e s)
    (crash : ∀ s, crashed' s → crashed s) : Triple pre p post fail crashed := by
  refine ⟨fun s holds => ?_⟩
  have done := proved.run s (before s holds)
  cases ran : p s with
  | mk outcome t =>
    rw [ran] at done
    cases outcome with
    | value a => exact value a t done
    | error e => exact error e t done
    | crash => exact crash t done

theorem Triple.lift {x : Except ε α} (value : ∀ a s, x = .ok a → pre s → post a s)
    (error : ∀ e s, pre s → fail e s) :
    Triple pre (Program.lift x : Program σ ε α) post fail crashed := by
  cases x with
  | error e => exact ⟨error e⟩
  | ok a => exact ⟨fun s holds => value a s rfl holds⟩

/-- A check that leaves the world alone. -/
theorem Triple.check {x : Except ε α} (error : ∀ e s, pre s → fail e s)
    (next : ∀ a, x = .ok a → Triple pre (f a) after fail crashed) :
    Triple pre (Program.lift x >>= f) after fail crashed := by
  cases x with
  | error e => exact ⟨error e⟩
  | ok a => exact next a rfl

/-- What the world shows is known from then on. -/
theorem Triple.gets {g : σ → α}
    (next : ∀ a, Triple (fun s => pre s ∧ g s = a) (f a) after fail crashed) :
    Triple pre (Program.gets g >>= f) after fail crashed :=
  ⟨fun s holds => (next (g s)).run s ⟨holds, rfl⟩⟩

/-- What a program does to one world. -/
theorem Triple.final {Q : σ → Prop} (proved : Triple pre p (fun _ => Q) (fun _ => Q) Q) {s : σ}
    (holds : pre s) : Q (p s).2 := by
  have done := proved.run s holds
  cases ran : p s with
  | mk outcome t =>
    rw [ran] at done
    cases outcome <;> exact done

end CrashPrograms
