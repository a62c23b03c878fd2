/-!
Runs of a partial step function. An event that is not enabled in a state has
no successor. `allowed` restricts the steps a run may take; it is `True`
everywhere for unrestricted runs.
-/
namespace TransitionRuns

variable {State Event : Type}

def run (step : State → Event → Option State) : State → List Event → Option State
  | s, [] => some s
  | s, e :: es => (step s e).bind fun t => run step t es

inductive Reaches (step : State → Event → Option State) (start : State → Prop)
    (allowed : State → Event → Prop) : State → Prop where
  | start {s : State} (first : start s) : Reaches step start allowed s
  | next {s t : State} {e : Event} (before : Reaches step start allowed s)
      (ok : allowed s e) (moved : step s e = some t) : Reaches step start allowed t

variable {step : State → Event → Option State} {start : State → Prop}
  {allowed : State → Event → Prop}

theorem Reaches.invariant {inv : State → Prop} (initial : ∀ s, start s → inv s)
    (preserved : ∀ s e t, inv s → allowed s e → step s e = some t → inv t)
    {s : State} (reached : Reaches step start allowed s) : inv s := by
  induction reached with
  | start first => exact initial _ first
  | next before ok moved ih => exact preserved _ _ _ ih ok moved

theorem Reaches.mono {more : State → Event → Prop} (weaker : ∀ s e, allowed s e → more s e) {s : State}
    (reached : Reaches step start allowed s) : Reaches step start more s := by
  induction reached with
  | start first => exact .start first
  | next before ok moved ih => exact .next ih (weaker _ _ ok) moved

theorem Reaches.trans {s t : State} (first : Reaches step start allowed s)
    (second : Reaches step (· = s) allowed t) : Reaches step start allowed t := by
  induction second with
  | start same => subst same; exact first
  | next before ok moved ih => exact .next ih ok moved

theorem Reaches.from_start {s : State} (reached : Reaches step start allowed s) :
    ∃ s₀, start s₀ ∧ Reaches step (· = s₀) allowed s := by
  induction reached with
  | start first => exact ⟨_, first, .start rfl⟩
  | next before ok moved ih =>
    obtain ⟨s₀, first, from_s₀⟩ := ih
    exact ⟨s₀, first, .next from_s₀ ok moved⟩

theorem Reaches.of_run {s t : State} {es : List Event} (from_s : Reaches step start allowed s)
    (ok : ∀ u e, allowed u e) (done : run step s es = some t) :
    Reaches step start allowed t := by
  induction es generalizing s with
  | nil =>
    simp only [run, Option.some.injEq] at done
    exact done ▸ from_s
  | cons e es ih =>
    simp only [run, Option.bind_eq_some_iff] at done
    obtain ⟨u, moved, rest⟩ := done
    exact ih (.next from_s (ok s e) moved) rest

/-- Every step of the run is one that `allowed` permits. -/
def Permitted (step : State → Event → Option State) (allowed : State → Event → Prop) :
    State → List Event → Prop
  | _, [] => True
  | s, e :: es => allowed s e ∧
    match step s e with
    | some t => Permitted step allowed t es
    | none => True

theorem Reaches.of_permitted_run {s t : State} {es : List Event}
    (from_s : Reaches step start allowed s) (ok : Permitted step allowed s es)
    (done : run step s es = some t) : Reaches step start allowed t := by
  induction es generalizing s with
  | nil =>
    simp only [run, Option.some.injEq] at done
    exact done ▸ from_s
  | cons e es ih =>
    simp only [run, Option.bind_eq_some_iff] at done
    obtain ⟨u, moved, rest⟩ := done
    simp only [Permitted, moved] at ok
    exact ih (.next from_s ok.1 moved) ok.2 rest

/-- The steps that `allowed` permits, and no others. -/
def restricted (step : State → Event → Option State) (allowed : State → Event → Bool) (s : State)
    (e : Event) : Option State :=
  if allowed s e then step s e else none

theorem Reaches.of_restricted_run {allowed : State → Event → Bool} {s t : State} {es : List Event}
    (from_s : Reaches step start (allowed · ·) s)
    (done : run (restricted step allowed) s es = some t) : Reaches step start (allowed · ·) t := by
  induction es generalizing s with
  | nil =>
    simp only [run, Option.some.injEq] at done
    exact done ▸ from_s
  | cons e es ih =>
    simp only [run, Option.bind_eq_some_iff] at done
    obtain ⟨u, moved, rest⟩ := done
    unfold restricted at moved
    split at moved
    · next ok => exact ih (.next from_s ok moved) rest
    · cases moved

end TransitionRuns
