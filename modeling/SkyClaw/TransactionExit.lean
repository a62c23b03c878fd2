import SkyClaw.LeaseCancellation
import SkyClaw.SnapshotRollback

set_option linter.all false

/-!
One run of `SnapshotTransactionLock.__aexit__`: the wait for the heartbeat, the
restores and the release with its retries. A cancellation is requested in one
step and delivered at a later one.
-/
namespace TransactionExit
open LeaseCancellation SnapshotRollback TransitionRuns

inductive Lanzada where
  | cancelledError
  | snapshotRollbackError
  | lockLeaseLostError
  deriving DecidableEq

/-- Where the exit is suspended, or how it has ended; `cancelacion` tells whether the loop of
`liberar_lease_definitiva` has caught a `CancelledError`. -/
inductive Fase where
  | latido
  | restaura (snap : String) (quedan : List String)
  | libera (tarea : Nat) (cancelacion : Bool)
  | fuera (lanza : Option Lanzada)
  deriving DecidableEq

/-- `cancelada` is ghost: the task has been cancelled during the exit. -/
structure Estado (F : Type) where
  snapshots : List String
  forceRollback : Bool
  exc : Option Excepcion
  token : F
  leaseLost : Bool
  rollbackAttempted : Bool
  failures : List String
  restored : List String
  pendiente : Option Lanzada
  releases : List (F × Tarea Bool)
  estados : List EstadoDeCleanupDeLease
  fase : Fase
  cancelPendiente : Bool
  cancelada : Bool

variable {F : Type}

namespace Estado

/-- `_safe_release` with the token of this context. -/
def empiezaRelease (s : Estado F) (pendiente : Option Lanzada) : Estado F :=
  { s with
    pendiente := pendiente
    releases := [(s.token, .enVuelo)]
    fase := .libera 0 false }

/-- The `finally` of `_rollback_snapshots` and what it ends with, a cancellation apart. -/
def acabaRollback (s : Estado F) (cancelacion : Bool) : Estado F :=
  let left := s.snapshots.reverse.filter fun path => decide (path ∉ s.restored ∧ path ∉ s.failures)
  let failures := s.failures ++ left
  { s with failures := failures }.empiezaRelease
    (if cancelacion then some .cancelledError
    else if !failures.isEmpty && s.exc.isNone then some .snapshotRollbackError
    else none)

/-- The next pass of the loop. -/
def sigueRollback (s : Estado F) : List String → Estado F
  | [] => s.acabaRollback false
  | snap :: rest => { s with fase := .restaura snap rest }

/-- `__aexit__` from its first await on. -/
def trasLatido (s : Estado F) : Estado F :=
  let should := shouldRollback s.forceRollback s.leaseLost s.exc
  let s := { s with rollbackAttempted := should }
  if should then s.sigueRollback s.snapshots.reverse else s.empiezaRelease none

def trasRestaurar (s : Estado F) (snap : String) (quedan : List String) (ok : Bool) : Estado F :=
  if ok then { s with restored := snap :: s.restored }.sigueRollback quedan
  else { s with failures := s.failures ++ [snap] }.sigueRollback quedan

/-- What `__aexit__` ends with when the release has not raised. -/
def salida (s : Estado F) : Option Lanzada :=
  match s.pendiente with
  | some e => some e
  | none => if s.exc.isNone && s.leaseLost then some .lockLeaseLostError else none

/-- The end of `liberar_lease_definitiva`. -/
def trasRelease (s : Estado F) (estado : EstadoDeCleanupDeLease) (cancelacion : Bool) : Estado F :=
  { s with
    estados := s.estados ++ [estado]
    fase := .fuera (if cancelacion then some .cancelledError else s.salida) }

def tareaRelease (s : Estado F) (k : Nat) : Tarea Bool := ((s.releases[k]?).map (·.2)).getD .enVuelo

/-- Its `except CancelledError`; `vencido` is the comparison of the clock with `plazo`. -/
def canceladoEnRelease (s : Estado F) (k : Nat) (vencido : Bool) : Estado F :=
  match s.tareaRelease k with
  | .enVuelo => { s with fase := .libera k true }
  | .valor liberada => s.trasRelease (estadoDeRelease liberada) true
  | .error => s.trasRelease .falloDeLiberacion true
  | .cancelada =>
    if vencido then s.trasRelease .indeterminado true
    else { s with releases := s.releases ++ [(s.token, .enVuelo)], fase := .libera s.releases.length true }

/-- A pass of its loop. Under the deadline a result may take the place of a cancellation that
arrives with it. -/
def reanudaRelease (s : Estado F) (k : Nat) (cancelacion vencido : Bool) : Despertar → Option (Estado F)
  | .resultado =>
    if s.cancelPendiente && !cancelacion then none
    else
      let s := { s with cancelPendiente := false }
      match s.tareaRelease k with
      | .enVuelo => none
      | .valor liberada => some (s.trasRelease (estadoDeRelease liberada) cancelacion)
      | .error => some (s.trasRelease .falloDeLiberacion cancelacion)
      | .cancelada => some (s.canceladoEnRelease k vencido)
  | .cancelacion =>
    if s.cancelPendiente then some ({ s with cancelPendiente := false }.canceladoEnRelease k vencido) else none
  | .timeout =>
    if cancelacion then
      match s.tareaRelease k with
      | .valor liberada => some (s.trasRelease (estadoDeRelease liberada) true)
      | .error => some (s.trasRelease .falloDeLiberacion true)
      | _ => some (s.trasRelease .indeterminado true)
    else none

end Estado

inductive Evento where
  | cancela
  -- the heartbeat: it loses the lease, and it ends
  | pierdeLease
  | terminaLatido
  | terminaRestauracion (ok : Bool)
  | entregaCancelacion
  | terminaRelease (k : Nat) (fin : Tarea Bool)
  | reanuda (despertar : Despertar) (vencido : Bool)
  deriving DecidableEq

def Fase.suspendida : Fase → Bool
  | .fuera _ => false
  | _ => true

def step (s : Estado F) : Evento → Option (Estado F)
  | .cancela =>
    if s.fase.suspendida then some { s with cancelPendiente := true, cancelada := true } else none
  | .pierdeLease => if s.fase = .latido then some { s with leaseLost := true } else none
  | .terminaLatido =>
    -- a `CancelledError` here is taken for the one of the heartbeat
    if s.fase = .latido then some { s with cancelPendiente := false }.trasLatido else none
  | .terminaRestauracion ok =>
    match s.fase with
    | .restaura snap quedan => if s.cancelPendiente then none else some (s.trasRestaurar snap quedan ok)
    | _ => none
  | .entregaCancelacion =>
    match s.fase with
    | .restaura _ _ =>
      if s.cancelPendiente then some ({ s with cancelPendiente := false }.acabaRollback true) else none
    | _ => none
  | .terminaRelease k fin =>
    match s.tareaRelease k with
    | .enVuelo => some { s with releases := s.releases.modify k fun r => (r.1, fin) }
    | _ => none
  | .reanuda despertar vencido =>
    match s.fase with
    | .libera k cancelacion => s.reanudaRelease k cancelacion vencido despertar
    | _ => none

/-- The exit begins; without `auto_renew` there is no heartbeat to wait for. -/
def Estado.inicial (snapshots : List String) (forceRollback autoRenew leaseLost : Bool) (exc : Option Excepcion)
    (token : F) : Estado F :=
  let s : Estado F := {
    snapshots := snapshots
    forceRollback := forceRollback
    exc := exc
    token := token
    leaseLost := leaseLost
    rollbackAttempted := false
    failures := []
    restored := []
    pendiente := none
    releases := []
    estados := []
    fase := .latido
    cancelPendiente := false
    cancelada := false }
  if autoRenew then s else s.trasLatido

def Inicio (s : Estado F) : Prop :=
  ∃ snapshots forceRollback autoRenew leaseLost exc token,
    s = .inicial snapshots forceRollback autoRenew leaseLost exc token

/-- The exit that was cancelled raises, and a release with its own token has been issued. -/
def Conservada (s : Estado F) : Prop :=
  ∀ lanza, s.fase = .fuera lanza → s.cancelada = true → lanza ≠ none ∧ ∃ r ∈ s.releases, r.1 = s.token

/-- The task is not cancelled while it waits for the heartbeat. -/
def permite (s : Estado F) (e : Evento) : Bool := !(decide (e = .cancela) && decide (s.fase = .latido))

/-! The invariant -/

/-- What each suspension point keeps of a cancellation. -/
def Situada (s : Estado F) : Prop :=
  match s.fase with
  | .latido => s.cancelada = false
  | .restaura _ _ => s.cancelada = true → s.cancelPendiente = true
  | .libera _ cancelacion =>
    (s.cancelada = true → s.cancelPendiente = true ∨ cancelacion = true ∨ s.pendiente.isSome = true) ∧
      s.releases ≠ []
  | .fuera lanza => (s.cancelada = true → lanza ≠ none) ∧ s.releases ≠ []

structure Inv (s : Estado F) : Prop where
  situada : Situada s
  tokens : ∀ r ∈ s.releases, r.1 = s.token

section
variable {s t : Estado F}

theorem inv_empiezaRelease {pendiente : Option Lanzada}
    (kept : s.cancelada = true → s.cancelPendiente = true ∨ pendiente.isSome = true) :
    Inv (s.empiezaRelease pendiente) where
  situada := by
    refine ⟨fun asked => ?_, List.cons_ne_nil _ _⟩
    rcases kept asked with pending | raised
    · exact .inl pending
    · exact .inr (.inr raised)
  tokens r mem := by
    obtain rfl := List.mem_singleton.mp mem
    rfl

theorem inv_acabaRollback {cancelacion : Bool}
    (kept : s.cancelada = true → s.cancelPendiente = true ∨ cancelacion = true) :
    Inv (s.acabaRollback cancelacion) := by
  refine inv_empiezaRelease fun asked => ?_
  rcases kept asked with pending | raised
  · exact .inl pending
  · exact .inr (by rw [if_pos raised]; rfl)

theorem inv_sigueRollback (tokens : ∀ r ∈ s.releases, r.1 = s.token)
    (kept : s.cancelada = true → s.cancelPendiente = true) (quedan : List String) :
    Inv (s.sigueRollback quedan) := by
  cases quedan with
  | nil => exact inv_acabaRollback fun asked => .inl (kept asked)
  | cons snap rest => exact ⟨kept, tokens⟩

theorem inv_trasLatido (tokens : ∀ r ∈ s.releases, r.1 = s.token) (quiet : s.cancelada = false) :
    Inv s.trasLatido := by
  have kept : s.cancelada = true → s.cancelPendiente = true := by
    intro asked
    rw [quiet] at asked
    cases asked
  rw [Estado.trasLatido]
  split
  · refine inv_sigueRollback ?_ ?_ _
    · exact tokens
    · exact kept
  · exact inv_empiezaRelease fun asked => .inl (kept asked)

theorem inv_trasRestaurar (tokens : ∀ r ∈ s.releases, r.1 = s.token)
    (kept : s.cancelada = true → s.cancelPendiente = true) (snap : String) (quedan : List String) (ok : Bool) :
    Inv (s.trasRestaurar snap quedan ok) := by
  rw [Estado.trasRestaurar]
  split
  all_goals
    refine inv_sigueRollback ?_ ?_ quedan
    · exact tokens
    · exact kept

theorem salida_of_pendiente (raised : s.pendiente.isSome = true) : s.salida ≠ none := by
  obtain ⟨e, is⟩ := Option.isSome_iff_exists.mp raised
  simp [Estado.salida, is]

theorem inv_trasRelease {estado : EstadoDeCleanupDeLease} {cancelacion : Bool}
    (tokens : ∀ r ∈ s.releases, r.1 = s.token) (issued : s.releases ≠ [])
    (kept : s.cancelada = true → cancelacion = true ∨ s.pendiente.isSome = true) :
    Inv (s.trasRelease estado cancelacion) where
  situada := by
    refine ⟨fun asked => ?_, issued⟩
    rcases kept asked with caught | raised
    · rw [if_pos caught]
      exact Option.some_ne_none _
    · split
      · exact Option.some_ne_none _
      · exact salida_of_pendiente raised
  tokens := tokens

theorem inv_canceladoEnRelease (tokens : ∀ r ∈ s.releases, r.1 = s.token) (issued : s.releases ≠ [])
    (k : Nat) (vencido : Bool) : Inv (s.canceladoEnRelease k vencido) := by
  rw [Estado.canceladoEnRelease]
  split
  · exact ⟨⟨fun _ => .inr (.inl rfl), issued⟩, tokens⟩
  · exact inv_trasRelease tokens issued fun _ => .inl rfl
  · exact inv_trasRelease tokens issued fun _ => .inl rfl
  · split
    · exact inv_trasRelease tokens issued fun _ => .inl rfl
    · refine ⟨⟨fun _ => .inr (.inl rfl), List.append_ne_nil_of_right_ne_nil _ (List.cons_ne_nil _ _)⟩, ?_⟩
      intro r mem
      rcases List.mem_append.mp mem with older | newest
      · exact tokens r older
      · obtain rfl := List.mem_singleton.mp newest
        rfl

theorem inv_reanudaRelease {k : Nat} {cancelacion vencido : Bool} {despertar : Despertar} (inv : Inv s)
    (waiting : s.fase = .libera k cancelacion)
    (moved : s.reanudaRelease k cancelacion vencido despertar = some t) : Inv t := by
  have situated := inv.situada
  rw [Situada, waiting] at situated
  obtain ⟨kept, issued⟩ := situated
  have tokens := inv.tokens
  cases despertar with
  | resultado =>
    simp only [Estado.reanudaRelease] at moved
    split at moved
    · cases moved
    · rename_i quiet
      have known : s.cancelada = true → cancelacion = true ∨ s.pendiente.isSome = true := by
        intro asked
        rcases kept asked with pending | caught
        · rw [pending] at quiet
          exact .inl (by simpa using quiet)
        · exact caught
      split at moved
      · cases moved
      · cases moved
        exact inv_trasRelease tokens issued known
      · cases moved
        exact inv_trasRelease tokens issued known
      · cases moved
        refine inv_canceladoEnRelease ?_ ?_ k vencido
        · exact tokens
        · exact issued
  | cancelacion =>
    simp only [Estado.reanudaRelease] at moved
    split at moved
    · cases moved
      refine inv_canceladoEnRelease ?_ ?_ k vencido
      · exact tokens
      · exact issued
    · cases moved
  | timeout =>
    simp only [Estado.reanudaRelease] at moved
    split at moved
    · split at moved
      all_goals
        cases moved
        exact inv_trasRelease tokens issued fun _ => .inl rfl
    · cases moved

theorem inv_step {e : Evento} (inv : Inv s) (ok : permite s e = true) (moved : step s e = some t) : Inv t := by
  have situated := inv.situada
  rw [Situada] at situated
  cases e with
  | cancela =>
    simp only [step] at moved
    split at moved
    · rename_i waits
      cases moved
      refine ⟨?_, inv.tokens⟩
      cases at_ : s.fase with
      | latido => simp [permite, at_] at ok
      | restaura snap quedan => simp [Situada]
      | libera k cancelacion =>
        rw [at_] at situated
        simp [Situada, situated.2]
      | fuera lanza =>
        rw [at_] at waits
        cases waits
    · cases moved
  | pierdeLease =>
    simp only [step] at moved
    split at moved
    · cases moved
      exact ⟨inv.situada, inv.tokens⟩
    · cases moved
  | terminaLatido =>
    simp only [step] at moved
    split at moved
    · rename_i waits
      cases moved
      rw [waits] at situated
      exact inv_trasLatido inv.tokens situated
    · cases moved
  | terminaRestauracion done =>
    simp only [step] at moved
    split at moved
    · rename_i snap quedan waits
      rw [waits] at situated
      split at moved
      · cases moved
      · cases moved
        exact inv_trasRestaurar inv.tokens situated snap quedan done
    · cases moved
  | entregaCancelacion =>
    simp only [step] at moved
    split at moved
    · split at moved
      · cases moved
        exact inv_acabaRollback fun _ => .inr rfl
      · cases moved
    · cases moved
  | terminaRelease k fin =>
    simp only [step] at moved
    split at moved
    · cases moved
      have issued : s.releases ≠ [] → (s.releases.modify k fun r => (r.1, fin)) ≠ [] := by
        intro some_ none_
        exact some_ (List.length_eq_zero_iff.mp (by simpa using congrArg List.length none_))
      constructor
      · rw [Situada]
        dsimp only
        split at situated
        all_goals
          first
          | exact situated
          | exact ⟨situated.1, issued situated.2⟩
      · intro r mem
        obtain ⟨j, at_j⟩ := List.getElem?_of_mem mem
        rw [List.getElem?_modify] at at_j
        obtain ⟨r', before, rfl⟩ := Option.map_eq_some_iff.mp at_j
        have same := inv.tokens r' (List.mem_of_getElem? before)
        dsimp only
        split
        · exact same
        · exact same
    · cases moved
  | reanuda despertar vencido =>
    simp only [step] at moved
    split at moved
    · rename_i k cancelacion waits
      exact inv_reanudaRelease inv waits moved
    · cases moved

end

theorem cancelacion_conservada {s : Estado F} (reached : Reaches step Inicio (fun s e => permite s e = true) s) :
    Conservada s := by
  have inv : Inv s := by
    refine reached.invariant ?_ fun s e t inv ok moved => inv_step inv ok moved
    intro s first
    obtain ⟨snapshots, forceRollback, autoRenew, leaseLost, exc, token, rfl⟩ := first
    cases autoRenew with
    | true => exact ⟨rfl, nofun⟩
    | false => exact inv_trasLatido nofun rfl
  intro lanza out asked
  have situated := inv.situada
  rw [Situada, out] at situated
  obtain ⟨r, mem⟩ := List.exists_mem_of_ne_nil _ situated.2
  exact ⟨situated.1 asked, r, mem, inv.tokens r mem⟩

/-- A body that raised, one snapshot, a lease whose token is 0. -/
def trasFallo : Estado Int := .inicial ["a.esp"] false true false (some ⟨false, false⟩) 0

/-- The restore is cancelled, and so is the release, whose first task had been cancelled too. -/
def cancelaTodo : List Evento :=
  [.terminaLatido, .cancela, .entregaCancelacion, .terminaRelease 0 .cancelada, .cancela,
    .reanuda .cancelacion false, .terminaRelease 1 (.valor true), .reanuda .resultado false]

theorem cancelacion_conservada_todo :
    ∃ s, run (restricted step permite) trasFallo cancelaTodo = some s ∧
      (s.fase, s.cancelada) = (.fuera (some .cancelledError), true) ∧ Conservada s := by
  have looks : ((run (restricted step permite) trasFallo cancelaTodo).map fun s => (s.fase, s.cancelada)) =
      some (.fuera (some .cancelledError), true) := by
    decide
  obtain ⟨s, done, seen⟩ := Option.map_eq_some_iff.mp looks
  have first : Inicio trasFallo := ⟨_, _, _, _, _, _, rfl⟩
  exact ⟨s, done, seen, cancelacion_conservada (.of_restricted_run (.start first) done)⟩

/-- Cancelled while it waits for the heartbeat, after a clean body. -/
def canceladaEnLatido : List Evento :=
  [.cancela, .terminaLatido, .terminaRelease 0 (.valor true), .reanuda .resultado false]

theorem cancelacion_perdida :
    ∃ s, run step (Estado.inicial ["a.esp"] false true false none (0 : Int)) canceladaEnLatido = some s ∧
      ¬ Conservada s := by
  have looks : ((run step (Estado.inicial ["a.esp"] false true false none (0 : Int)) canceladaEnLatido).map
      fun s => (s.fase, s.cancelada)) = some (.fuera none, true) := by
    decide
  obtain ⟨s, done, seen⟩ := Option.map_eq_some_iff.mp looks
  obtain ⟨out, asked⟩ := Prod.mk.injEq .. ▸ seen
  exact ⟨s, done, fun kept => (kept none out asked).1 rfl⟩

end TransactionExit
