import Mathlib.Data.List.Basic

set_option linter.all false

/-!
`DatabaseLifecycleManager.transaction`, in `db_lifecycle.py`: the commit of a body,
the rollback and the close when something fails, and what comes out of the three
shielded waits folded together.
-/
namespace DatabaseLifecycle

inductive Operacion where
  | commit
  | rollback
  | close
  deriving DecidableEq

/-- Exceptions, by where the object comes from. `interna` is the `CancelledError` born inside
the operation and `envuelta` the `_DatabaseOperationCancelled` around it. -/
inductive Excepcion where
  | delCuerpo (cancelledError : Bool)
  | externa (op : Operacion)
  | interna (op : Operacion)
  | envuelta (op : Operacion)
  | ordinaria (op : Operacion)
  deriving DecidableEq

/-- What is raised, and its chain of `__cause__`. -/
structure Lanzada where
  error : Excepcion
  causas : List Excepcion := []
  deriving DecidableEq

/-- `raise error from causa` -/
def Excepcion.lanzaDesde (error : Excepcion) (causa : Lanzada) : Lanzada :=
  ⟨error, causa.error :: causa.causas⟩

/-! The shielded wait -/

/-- How the task of an operation ends. -/
inductive Final where
  | completa
  | falla
  | cancelada
  deriving DecidableEq

/-- A wait for a task: the `cancelling()` at each `CancelledError` that finds the task running, and
the turn in which the task is done, with or without a `CancelledError`. The shield of a
cancelled task always raises it. -/
structure Ejecucion where
  interrupciones : List Nat
  final : Final
  interrumpida : Bool
  cancelling : Nat
  coherente : final = .cancelada → interrumpida = true

/-- What `_await_db_operation` does: the constructors other than the first are what it raises. -/
inductive Espera where
  | completa
  | cancelledError (cancelacion : Excepcion)
  | failedAfterCancellation (cancellation operationError : Excepcion)
  | operationCancelled (cause : Excepcion)
  | error (e : Excepcion)
  deriving DecidableEq

/-- The first cancellation from outside is kept. -/
def anota (op : Operacion) (externa : Bool) (cancelacion : Option Excepcion) : Option Excepcion :=
  if externa && cancelacion.isNone then some (.externa op) else cancelacion

/-- The turns that find the task running. -/
def vueltas (op : Operacion) : List Nat → Option Excepcion → Option Excepcion
  | [], cancelacion => cancelacion
  | _ :: resto, cancelacion => vueltas op resto (anota op true cancelacion)

def Ejecucion.ultimaExterna (x : Ejecucion) : Bool :=
  x.interrumpida && (x.final ≠ .cancelada || 0 < x.cancelling)

def awaitDbOperation (op : Operacion) (x : Ejecucion) : Espera :=
  let cancelacion := anota op x.ultimaExterna (vueltas op x.interrupciones none)
  match x.final, cancelacion with
  | .completa, none => .completa
  | .completa, some c => .cancelledError c
  | .cancelada, some c => .failedAfterCancellation c (.interna op)
  | .cancelada, none => .operationCancelled (.interna op)
  | .falla, some c => .failedAfterCancellation c (.ordinaria op)
  | .falla, none => .error (.ordinaria op)

/-! The close -/

structure CloseOutcome where
  closed : Bool
  error : Option Excepcion
  cancellation : Option Excepcion
  deriving DecidableEq

/-- `_close_connection` with `shielded=True`. -/
def closeConnection (x : Ejecucion) : CloseOutcome :=
  match awaitDbOperation .close x with
  | .failedAfterCancellation cancellation e => ⟨false, some e, some cancellation⟩
  | .operationCancelled cause => ⟨false, some cause, none⟩
  | .cancelledError c => ⟨true, none, some c⟩
  | .error e => ⟨false, some e, none⟩
  | .completa => ⟨true, none, none⟩

section
variable {Clave Conexion : Type} [DecidableEq Clave] [DecidableEq Conexion]

structure Manager (Clave Conexion : Type) where
  connections : List (Clave × Conexion)
  quarantinedPaths : List Clave

/-- The connection that `_resolve_connection` hands out without opening one. -/
def Manager.resolveConnection (m : Manager Clave Conexion) (k : Clave) : Option Conexion :=
  if k ∈ m.quarantinedPaths then none else m.connections.lookup k

/-- All that happens to a transaction that `operation` has given the connection `conn` of the key
`propia`: how the body ends and how each operation runs if it is reached. `clave` is what the path
resolves to once the rollback has failed, and `registro` what the manager holds after the close. -/
structure Sucesos (Clave Conexion : Type) where
  propia : Clave
  conn : Conexion
  /-- Nothing, or whether what the body raises is a `CancelledError`. -/
  cuerpo : Option Bool
  commit : Ejecucion
  rollback : Ejecucion
  close : Ejecucion
  registro : Manager Clave Conexion
  clave : Clave

/-- The end of a transaction. The last three fields tell what has been done to the connection. -/
structure Fin (Clave Conexion : Type) where
  lanzada : Option Lanzada
  manager : Manager Clave Conexion
  confirmada : Bool := false
  revertida : Bool := false
  cerrada : Bool := false

variable (s : Sucesos Clave Conexion)

/-- The guard of `_invalidate_under_boundary`. -/
def Sucesos.vigente : Prop := s.registro.connections.lookup s.clave = some s.conn

instance : Decidable s.vigente := inferInstanceAs (Decidable (_ = _))

def invalidateUnderBoundary : Option CloseOutcome × Manager Clave Conexion :=
  let outcome := closeConnection s.close
  if ¬s.vigente then (none, s.registro)
  else if outcome.closed then
    (some outcome, { s.registro with
      connections := s.registro.connections.filter fun e => e.1 ≠ s.clave })
  else (some outcome, { s.registro with quarantinedPaths := s.clave :: s.registro.quarantinedPaths })

/-- `_rollback_after_failure` once the rollback has failed. -/
def trasRollbackFallido (operationError : Excepcion) (cancellationToRestore : Option Excepcion)
    (rollbackError : Excepcion) (rollbackCancellation : Option Excepcion) : Fin Clave Conexion :=
  let (outcome, manager) := invalidateUnderBoundary s
  let closeError := outcome.bind (·.error)
  let closeCancellation := outcome.bind (·.cancellation)
  let diagnosticError : Lanzada :=
    if cancellationToRestore = some operationError then ⟨rollbackError, []⟩
    else rollbackError.lanzaDesde ⟨operationError, []⟩
  let diagnosticError : Lanzada :=
    match closeError with
    | some e => e.lanzaDesde diagnosticError
    | none => diagnosticError
  { lanzada :=
      match cancellationToRestore.or (rollbackCancellation.or closeCancellation) with
      | some c => some (c.lanzaDesde diagnosticError)
      | none => some diagnosticError
    manager
    cerrada := s.close.final = .completa }

/-- `_rollback_after_failure`: it returns or raises. -/
def rollbackAfterFailure (operationError : Excepcion) (cancellationToRestore : Option Excepcion) :
    Fin Clave Conexion :=
  let revertida : Fin Clave Conexion :=
    { lanzada :=
        match cancellationToRestore with
        | some c => if c = operationError then none else some (c.lanzaDesde ⟨operationError, []⟩)
        | none => none
      manager := s.registro
      revertida := true }
  match awaitDbOperation .rollback s.rollback with
  | .completa => revertida
  | .cancelledError c =>
    if cancellationToRestore.isNone then { revertida with lanzada := some ⟨c, []⟩ } else revertida
  | .failedAfterCancellation c e =>
    trasRollbackFallido s operationError cancellationToRestore e (some c)
  | .operationCancelled cause => trasRollbackFallido s operationError cancellationToRestore cause none
  | .error e => trasRollbackFallido s operationError cancellationToRestore e none

/-- What a handler raises after `_rollback_after_failure` has returned. -/
def Fin.oLanza (fin : Fin Clave Conexion) (e : Lanzada) : Fin Clave Conexion :=
  { fin with lanzada := some (fin.lanzada.getD e) }

def transaction : Fin Clave Conexion :=
  match s.cuerpo with
  | some cancelledError =>
    let error := .delCuerpo cancelledError
    let cancellation := if cancelledError then some error else none
    (rollbackAfterFailure s error cancellation).oLanza ⟨error, []⟩
  | none =>
    match awaitDbOperation .commit s.commit with
    | .completa => { lanzada := none, manager := s.registro, confirmada := true }
    -- the handler leaves it to the callee to raise
    | .failedAfterCancellation c e => rollbackAfterFailure s e (some c)
    | .operationCancelled cause =>
      (rollbackAfterFailure s cause none).oLanza (cause.lanzaDesde ⟨.envuelta .commit, []⟩)
    | .cancelledError c => { lanzada := some ⟨c, []⟩, manager := s.registro, confirmada := true }
    | .error e => (rollbackAfterFailure s e none).oLanza ⟨e, []⟩

/-! What is promised -/

/-- A cancellation from outside arrives while the operation runs. -/
def Ejecucion.desdeFuera (x : Ejecucion) : Prop := x.interrupciones ≠ [] ∨ x.ultimaExterna = true

instance (x : Ejecucion) : Decidable x.desdeFuera := inferInstanceAs (Decidable (_ ∨ _))

/-- The first cancellation from outside, when there is one. -/
def Ejecucion.cancelacion (op : Operacion) (x : Ejecucion) : Option Excepcion :=
  if x.desdeFuera then some (.externa op) else none

/-- The rollback is needed. -/
def Sucesos.fracasa : Prop := s.cuerpo ≠ none ∨ s.commit.final ≠ .completa

/-- A cancellation from outside arrives before the close. -/
def Sucesos.canceladaAntes : Prop :=
  s.cuerpo = some true ∨ (s.cuerpo = none ∧ s.commit.desdeFuera) ∨ (s.fracasa ∧ s.rollback.desdeFuera)

def Sucesos.sinRevertir : Prop := s.fracasa ∧ s.rollback.final ≠ .completa

def Sucesos.cancelada : Prop := s.canceladaAntes ∨ (s.sinRevertir ∧ s.close.desdeFuera)

/-- A `CancelledError` of the task and not of an operation. -/
def Excepcion.deFuera : Excepcion → Prop
  | .delCuerpo cancelledError => cancelledError = true
  | .externa _ => True
  | _ => False

structure Veraz : Prop where
  normal : (transaction s).lanzada = none → s.cuerpo = none ∧ s.commit.final = .completa
  confirma : (transaction s).confirmada = true ↔ s.cuerpo = none ∧ s.commit.final = .completa
  segura : ∀ e ∈ (transaction s).lanzada, (transaction s).confirmada = false →
    (transaction s).revertida = true ∨ (transaction s).cerrada = true ∨
      s.propia ∈ (transaction s).manager.quarantinedPaths
  /-- A later transaction is not given the connection with the statements of the body. -/
  sirve : (transaction s).confirmada = false → (transaction s).revertida = false →
    (transaction s).cerrada = false → (transaction s).manager.resolveConnection s.propia ≠ some s.conn
  propaga : s.cancelada → ∀ e ∈ (transaction s).lanzada, e.error.deFuera

end

/-! The wait -/

variable {op : Operacion} {x : Ejecucion}

theorem vueltas_some (c : Excepcion) (l : List Nat) : vueltas op l (some c) = some c := by
  induction l with
  | nil => rfl
  | cons n l ih => exact ih

/-- However many cancellations arrive, the first one is kept. -/
theorem anota_vueltas :
    anota op x.ultimaExterna (vueltas op x.interrupciones none) = x.cancelacion op := by
  unfold Ejecucion.cancelacion Ejecucion.desdeFuera
  by_cases empty : x.interrupciones = []
  · by_cases last : x.ultimaExterna = true <;> simp [empty, vueltas, anota, last]
  · obtain ⟨n, l, some_⟩ := List.exists_cons_of_ne_nil empty
    have first : vueltas op (n :: l) none = some (.externa op) := vueltas_some _ l
    by_cases last : x.ultimaExterna = true <;> simp [some_, first, anota, last]

/-- The error that an operation ends with on its own. -/
def Excepcion.Propia (op : Operacion) (e : Excepcion) : Prop := e = .interna op ∨ e = .ordinaria op

theorem await_completa (done : x.final = .completa) :
    awaitDbOperation op x = match x.cancelacion op with
      | none => .completa
      | some c => .cancelledError c := by
  simp only [awaitDbOperation, anota_vueltas, done]
  cases x.cancelacion op <;> rfl

theorem await_falla (op : Operacion) (failed : x.final ≠ .completa) :
    ∃ e, Excepcion.Propia op e ∧ ((x.cancelacion op = some (.externa op) ∧
        awaitDbOperation op x = .failedAfterCancellation (.externa op) e) ∨
      (x.cancelacion op = none ∧
        (awaitDbOperation op x = .operationCancelled e ∨ awaitDbOperation op x = .error e))) := by
  have known : x.cancelacion op = some (.externa op) ∨ x.cancelacion op = none := by
    unfold Ejecucion.cancelacion
    split <;> simp
  cases final : x.final with
  | completa => exact absurd final failed
  | falla =>
    refine ⟨.ordinaria op, Or.inr rfl, ?_⟩
    rcases known with some_ | none_
    · exact Or.inl ⟨some_, by simp only [awaitDbOperation, anota_vueltas, final, some_]⟩
    · exact Or.inr ⟨none_, Or.inr (by simp only [awaitDbOperation, anota_vueltas, final, none_])⟩
  | cancelada =>
    refine ⟨.interna op, Or.inl rfl, ?_⟩
    rcases known with some_ | none_
    · exact Or.inl ⟨some_, by simp only [awaitDbOperation, anota_vueltas, final, some_]⟩
    · exact Or.inr ⟨none_, Or.inl (by simp only [awaitDbOperation, anota_vueltas, final, none_])⟩

theorem cancelacion_eq_none : x.cancelacion op = none ↔ ¬x.desdeFuera := by
  unfold Ejecucion.cancelacion
  split <;> simp [*]

theorem Excepcion.Propia.not_deFuera {e : Excepcion} (own : Excepcion.Propia op e) : ¬e.deFuera := by
  rcases own with rfl | rfl <;> exact id

theorem close_completa (done : x.final = .completa) :
    closeConnection x = ⟨true, none, x.cancelacion .close⟩ := by
  rw [closeConnection, await_completa done]
  cases x.cancelacion .close <;> rfl

theorem close_falla (failed : x.final ≠ .completa) :
    ∃ e, Excepcion.Propia .close e ∧ closeConnection x = ⟨false, some e, x.cancelacion .close⟩ := by
  obtain ⟨e, own, ⟨known, ran⟩ | ⟨known, ran | ran⟩⟩ := await_falla .close failed
  · exact ⟨e, own, by rw [closeConnection, ran, known]⟩
  · exact ⟨e, own, by rw [closeConnection, ran, known]⟩
  · exact ⟨e, own, by rw [closeConnection, ran, known]⟩

/-! The rollback -/

section
variable {Clave Conexion : Type} [DecidableEq Clave] [DecidableEq Conexion]
  {s : Sucesos Clave Conexion} {operationError : Excepcion} {restore : Option Excepcion}

/-- The cancellation of the close that the guard lets through. -/
def Sucesos.delClose (s : Sucesos Clave Conexion) : Option Excepcion :=
  if s.vigente then s.close.cancelacion .close else none

theorem invalidate_spec (s : Sucesos Clave Conexion) :
    ((invalidateUnderBoundary s).1.bind (·.cancellation)) = s.delClose ∧
      (∀ e ∈ (invalidateUnderBoundary s).1.bind (·.error), ¬e.deFuera) ∧
      (∀ k, k ∈ (invalidateUnderBoundary s).2.quarantinedPaths ↔ k ∈ s.registro.quarantinedPaths ∨
        (s.vigente ∧ s.close.final ≠ .completa ∧ k = s.clave)) ∧
      (s.close.final ≠ .completa → (invalidateUnderBoundary s).2.connections = s.registro.connections) := by
  unfold invalidateUnderBoundary Sucesos.delClose
  by_cases current : s.vigente
  · by_cases done : s.close.final = .completa
    · simp [current, close_completa done, done]
    · obtain ⟨e, own, closed⟩ := close_falla done
      simp [current, closed, done, own.not_deFuera, or_comm]
  · simp [current]

theorem fallido_spec (s : Sucesos Clave Conexion) (operationError : Excepcion)
    (restore cancellation : Option Excepcion) {rollbackError : Excepcion}
    (own : Excepcion.Propia .rollback rollbackError) :
    ∃ e, (trasRollbackFallido s operationError restore rollbackError cancellation).lanzada = some e ∧
      match restore.or (cancellation.or s.delClose) with
      | some c => e.error = c
      | none => ¬e.error.deFuera := by
  obtain ⟨ofClose, errors, -, -⟩ := invalidate_spec s
  unfold trasRollbackFallido
  simp only [ofClose]
  cases restore.or (cancellation.or s.delClose) with
  | some c => exact ⟨_, rfl, rfl⟩
  | none =>
    refine ⟨_, rfl, ?_⟩
    dsimp only
    split
    · next e there => exact errors e there
    · split <;> exact own.not_deFuera

theorem rollback_completa (operationError : Excepcion) (restore : Option Excepcion)
    (done : s.rollback.final = .completa) :
    (rollbackAfterFailure s operationError restore).revertida = true ∧
      (rollbackAfterFailure s operationError restore).confirmada = false ∧
      (rollbackAfterFailure s operationError restore).lanzada = match restore with
        | some c => if c = operationError then none else some (c.lanzaDesde ⟨operationError, []⟩)
        | none => (s.rollback.cancelacion .rollback).map (⟨·, []⟩) := by
  unfold rollbackAfterFailure
  rw [await_completa done]
  cases s.rollback.cancelacion .rollback with
  | none => cases restore <;> simp
  | some c => cases restore <;> simp

theorem rollback_falla (operationError : Excepcion) (restore : Option Excepcion)
    (failed : s.rollback.final ≠ .completa) :
    ∃ e, Excepcion.Propia .rollback e ∧ rollbackAfterFailure s operationError restore =
      trasRollbackFallido s operationError restore e (s.rollback.cancelacion .rollback) := by
  unfold rollbackAfterFailure
  obtain ⟨e, own, ⟨known, ran⟩ | ⟨known, ran | ran⟩⟩ := await_falla .rollback failed
  · exact ⟨e, own, by rw [ran, known]⟩
  · exact ⟨e, own, by rw [ran, known]⟩
  · exact ⟨e, own, by rw [ran, known]⟩

/-- A cancellation to be raised, from the one to restore to that of the close. -/
def Porta (s : Sucesos Clave Conexion) (restore : Option Excepcion) : Prop :=
  restore.isSome ∨ s.rollback.desdeFuera ∨
    (s.rollback.final ≠ .completa ∧ s.vigente ∧ s.close.desdeFuera)

theorem cancelacion_deFuera {op : Operacion} {x : Ejecucion} {c : Excepcion}
    (there : x.cancelacion op = some c) : c.deFuera ∧ x.desdeFuera := by
  unfold Ejecucion.cancelacion at there
  split at there
  · next outside =>
    obtain rfl := Option.some.inj there
    exact ⟨trivial, outside⟩
  · cases there

/-- What a failed transaction does, whatever has failed in it. -/
theorem rollback_spec (s : Sucesos Clave Conexion) {d : Lanzada} (outside : ∀ c ∈ restore, c.deFuera)
    (same : restore = some operationError → d.error.deFuera) :
    (∃ e, ((rollbackAfterFailure s operationError restore).oLanza d).lanzada = some e ∧
        (Porta s restore → e.error.deFuera) ∧
        (s.rollback.final ≠ .completa → ¬Porta s restore → ¬e.error.deFuera)) ∧
      (rollbackAfterFailure s operationError restore).confirmada = false ∧
      ((rollbackAfterFailure s operationError restore).revertida = true ↔ s.rollback.final = .completa) ∧
      (s.rollback.final ≠ .completa →
        ((rollbackAfterFailure s operationError restore).cerrada = true ↔ s.close.final = .completa) ∧
        (rollbackAfterFailure s operationError restore).manager = (invalidateUnderBoundary s).2) := by
  by_cases done : s.rollback.final = .completa
  · obtain ⟨reverted, notCommitted, raised⟩ := rollback_completa operationError restore done
    refine ⟨⟨_, rfl, ?_, fun failed => absurd done failed⟩, notCommitted, iff_of_true reverted done,
      fun failed => absurd done failed⟩
    intro carries
    rw [raised]
    cases known : restore with
    | some c =>
      have fromOutside := outside c known
      dsimp only
      by_cases own : c = operationError
      · rw [if_pos own]
        exact same (own ▸ known)
      · rw [if_neg own]
        exact fromOutside
    | none =>
      rcases carries with some_ | byRollback | ⟨failed, -⟩
      · rw [known] at some_
        cases some_
      · rw [Ejecucion.cancelacion, if_pos byRollback]
        trivial
      · exact absurd done failed
  · obtain ⟨e, own, ran⟩ := rollback_falla operationError restore done
    obtain ⟨lanzada, raised, what⟩ :=
      fallido_spec s operationError restore (s.rollback.cancelacion .rollback) own
    rw [ran]
    refine ⟨⟨lanzada, ?_, ?_, ?_⟩, rfl, iff_of_false nofun done, fun _ => ⟨?_, rfl⟩⟩
    · rw [Fin.oLanza, raised]
      rfl
    · intro carries
      cases found : restore.or ((s.rollback.cancelacion .rollback).or s.delClose) with
      | some c =>
        rw [found] at what
        rw [what]
        rcases Option.or_eq_some_iff.mp found with fromRestore | ⟨-, later⟩
        · exact outside c fromRestore
        · rcases Option.or_eq_some_iff.mp later with fromRollback | ⟨-, fromClose⟩
          · exact (cancelacion_deFuera fromRollback).1
          · unfold Sucesos.delClose at fromClose
            split at fromClose
            · exact (cancelacion_deFuera fromClose).1
            · cases fromClose
      | none =>
        obtain ⟨noRestore, later⟩ := Option.or_eq_none_iff.mp found
        obtain ⟨noRollback, noClose⟩ := Option.or_eq_none_iff.mp later
        rcases carries with some_ | byRollback | ⟨-, current, byClose⟩
        · rw [noRestore] at some_
          cases some_
        · exact absurd byRollback (cancelacion_eq_none.mp noRollback)
        · rw [Sucesos.delClose, if_pos current] at noClose
          exact absurd byClose (cancelacion_eq_none.mp noClose)
    · intro _ silent
      have quiet (carries : Porta s restore) : False := silent carries
      have none_ : restore.or ((s.rollback.cancelacion .rollback).or s.delClose) = none := by
        rw [Option.or_eq_none_iff, Option.or_eq_none_iff]
        refine ⟨?_, cancelacion_eq_none.mpr fun byRollback => quiet (Or.inr (Or.inl byRollback)), ?_⟩
        · cases known : restore with
          | none => rfl
          | some c => exact absurd (Or.inl (by rw [known]; rfl)) quiet
        · unfold Sucesos.delClose
          split
          · next current =>
            exact cancelacion_eq_none.mpr fun byClose => quiet (Or.inr (Or.inr ⟨done, current, byClose⟩))
          · rfl
      rw [none_] at what
      exact what
    · simp [trasRollbackFallido]

theorem rollback_lanza {c : Excepcion} (other : c ≠ operationError) (d : Lanzada) :
    (rollbackAfterFailure s operationError (some c)).oLanza d =
      rollbackAfterFailure s operationError (some c) := by
  have raised : ∃ e, (rollbackAfterFailure s operationError (some c)).lanzada = some e := by
    by_cases done : s.rollback.final = .completa
    · rw [(rollback_completa operationError (some c) done).2.2]
      exact ⟨_, if_neg other⟩
    · obtain ⟨e, own, ran⟩ := rollback_falla operationError (some c) done
      obtain ⟨lanzada, raised, -⟩ := fallido_spec s operationError (some c) (s.rollback.cancelacion .rollback) own
      exact ⟨lanzada, by rw [ran]; exact raised⟩
  obtain ⟨e, raised⟩ := raised
  rw [Fin.oLanza, raised]
  cases fin : rollbackAfterFailure s operationError (some c)
  rw [fin] at raised
  cases raised
  rfl

/-- Each handler that gets to the rollback is one call of it and what it raises if the call returns. -/
theorem transaction_fracasa (failed : s.fracasa) :
    ∃ operationError restore d, transaction s = (rollbackAfterFailure s operationError restore).oLanza d ∧
      (∀ c ∈ restore, c.deFuera) ∧ (restore = some operationError → d.error.deFuera) ∧
      (restore.isSome ↔ s.cuerpo = some true ∨ (s.cuerpo = none ∧ s.commit.desdeFuera)) := by
  cases body : s.cuerpo with
  | some cancelledError =>
    have ran : transaction s = (rollbackAfterFailure s (.delCuerpo cancelledError)
        (if cancelledError then some (.delCuerpo cancelledError) else none)).oLanza
          ⟨.delCuerpo cancelledError, []⟩ := by
      simp only [transaction, body]
    refine ⟨_, _, _, ran, ?_, ?_, ?_⟩
    · cases cancelledError <;> simp [Excepcion.deFuera]
    · cases cancelledError <;> simp [Excepcion.deFuera]
    · cases cancelledError <;> simp
  | none =>
    have notDone : s.commit.final ≠ .completa := failed.resolve_left fun raised => raised body
    obtain ⟨e, own, ⟨known, awaited⟩ | ⟨known, awaited | awaited⟩⟩ := await_falla .commit notDone
    · have other : Excepcion.externa .commit ≠ e := by
        rcases own with rfl | rfl <;> nofun
      have ran : transaction s = (rollbackAfterFailure s e (some (.externa .commit))).oLanza ⟨e, []⟩ := by
        rw [rollback_lanza other]
        simp only [transaction, body, awaited]
      refine ⟨_, _, _, ran, ?_, ?_, ?_⟩
      · simp [Excepcion.deFuera]
      · intro same
        exact absurd (Option.some.inj same) other
      · simp [(cancelacion_deFuera known).2]
    · have ran : transaction s =
          (rollbackAfterFailure s e none).oLanza (e.lanzaDesde ⟨.envuelta .commit, []⟩) := by
        simp only [transaction, body, awaited]
      exact ⟨_, _, _, ran, nofun, nofun, by simp [cancelacion_eq_none.mp known]⟩
    · have ran : transaction s = (rollbackAfterFailure s e none).oLanza ⟨e, []⟩ := by
        simp only [transaction, body, awaited]
      exact ⟨_, _, _, ran, nofun, nofun, by simp [cancelacion_eq_none.mp known]⟩

omit [DecidableEq Clave] [DecidableEq Conexion] in
/-- What comes before the close does not depend on the handler. -/
theorem canceladaAntes_iff (failed : s.fracasa) {restore : Option Excepcion}
    (carried : restore.isSome ↔ s.cuerpo = some true ∨ (s.cuerpo = none ∧ s.commit.desdeFuera)) :
    s.canceladaAntes ↔ restore.isSome ∨ s.rollback.desdeFuera := by
  rw [carried, Sucesos.canceladaAntes, or_assoc]
  simp only [failed, true_and]

theorem transaction_confirma (body : s.cuerpo = none) (done : s.commit.final = .completa) :
    (transaction s).confirmada = true ∧
      (transaction s).lanzada = (s.commit.cancelacion .commit).map (⟨·, []⟩) := by
  simp only [transaction, body, await_completa done]
  cases s.commit.cancelacion .commit <;> exact ⟨rfl, rfl⟩

/-- Where the rollback fails, the path still stands for the connection, or the close makes up for it:
it is over, and no cancellation from outside arrived only then. -/
def Sucesos.Resguardada (s : Sucesos Clave Conexion) : Prop :=
  s.sinRevertir →
    (s.close.final = .completa ∨ s.propia ∈ s.registro.quarantinedPaths ∨
      (s.vigente ∧ s.clave = s.propia)) ∧
    (s.vigente ∨ s.canceladaAntes ∨ ¬s.close.desdeFuera)

/-- What a transaction that fails does, in terms of what happens to it. -/
structure Fracaso (s : Sucesos Clave Conexion) (e : Lanzada) : Prop where
  lanzada : (transaction s).lanzada = some e
  confirmada : (transaction s).confirmada = false
  revertida : (transaction s).revertida = true ↔ s.rollback.final = .completa
  cerrada : s.rollback.final ≠ .completa →
    ((transaction s).cerrada = true ↔ s.close.final = .completa)
  cuarentena : s.rollback.final ≠ .completa → ∀ k, k ∈ (transaction s).manager.quarantinedPaths ↔
    k ∈ s.registro.quarantinedPaths ∨ (s.vigente ∧ s.close.final ≠ .completa ∧ k = s.clave)
  antes : s.canceladaAntes → e.error.deFuera
  cierre : s.rollback.final ≠ .completa → s.vigente → s.close.desdeFuera → e.error.deFuera
  silencio : s.rollback.final ≠ .completa → ¬s.vigente → ¬s.canceladaAntes → ¬e.error.deFuera

theorem fracaso_of_fracasa {s : Sucesos Clave Conexion} (failed : s.fracasa) : ∃ e, Fracaso s e := by
  obtain ⟨operationError, restore, d, ran, outside, same, carried⟩ := transaction_fracasa failed
  obtain ⟨⟨e, raised, loud, silent⟩, notCommitted, reverted, closed⟩ := rollback_spec s outside same
  have before := canceladaAntes_iff failed carried
  obtain ⟨-, -, quarantined, -⟩ := invalidate_spec s
  refine ⟨e, ?_, ?_, ?_, ?_, ?_, ?_, ?_, ?_⟩
  · rw [ran]
    exact raised
  · rw [ran]
    exact notCommitted
  · rw [ran]
    exact reverted
  · intro notReverted
    rw [ran]
    exact (closed notReverted).1
  · intro notReverted
    rw [ran]
    simp only [Fin.oLanza, (closed notReverted).2]
    exact quarantined
  · intro early
    rcases before.mp early with some_ | byRollback
    · exact loud (Or.inl some_)
    · exact loud (Or.inr (Or.inl byRollback))
  · intro notReverted current byClose
    exact loud (Or.inr (Or.inr ⟨notReverted, current, byClose⟩))
  · intro notReverted gone quiet
    apply silent notReverted
    intro carries
    rcases carries with some_ | byRollback | ⟨-, current, -⟩
    · exact quiet (before.mpr (Or.inl some_))
    · exact quiet (before.mpr (Or.inr byRollback))
    · exact gone current

theorem resguardada_of_veraz {s : Sucesos Clave Conexion} (failed : s.fracasa) (truthful : Veraz s) :
    s.Resguardada := by
  obtain ⟨e, end_⟩ := fracaso_of_fracasa failed
  intro ⟨_, notReverted⟩
  constructor
  · rcases truthful.segura e end_.lanzada end_.confirmada with back | shut | refused
    · exact absurd (end_.revertida.mp back) notReverted
    · exact Or.inl ((end_.cerrada notReverted).mp shut)
    · rcases (end_.cuarentena notReverted s.propia).mp refused with old | ⟨current, -, key⟩
      · exact Or.inr (Or.inl old)
      · exact Or.inr (Or.inr ⟨current, key.symm⟩)
  · by_cases current : s.vigente
    · exact Or.inl current
    · by_cases early : s.canceladaAntes
      · exact Or.inr (Or.inl early)
      · refine Or.inr (Or.inr fun byClose => ?_)
        have outside := truthful.propaga (Or.inr ⟨⟨failed, notReverted⟩, byClose⟩) e end_.lanzada
        exact end_.silencio notReverted current early outside

/-- The path is refused where neither the rollback nor the close has been done. -/
theorem rechazada {s : Sucesos Clave Conexion} {e : Lanzada} (end_ : Fracaso s e)
    (failed : s.fracasa) (guarded : s.Resguardada) (notReverted : s.rollback.final ≠ .completa)
    (notClosed : s.close.final ≠ .completa) : s.propia ∈ (transaction s).manager.quarantinedPaths := by
  apply (end_.cuarentena notReverted s.propia).mpr
  rcases (guarded ⟨failed, notReverted⟩).1 with done | old | ⟨current, key⟩
  · exact absurd done notClosed
  · exact Or.inl old
  · exact Or.inr ⟨current, notClosed, key.symm⟩

theorem veraz_of_resguardada {s : Sucesos Clave Conexion} (failed : s.fracasa) (guarded : s.Resguardada) :
    Veraz s := by
  obtain ⟨e, end_⟩ := fracaso_of_fracasa failed
  constructor
  · intro normal
    rw [end_.lanzada] at normal
    cases normal
  · rw [end_.confirmada]
    apply iff_of_false nofun
    intro ⟨body, done⟩
    rcases failed with raised | notDone
    · exact raised body
    · exact notDone done
  · intro _ _ _
    by_cases done : s.rollback.final = .completa
    · exact Or.inl (end_.revertida.mpr done)
    · by_cases shut : s.close.final = .completa
      · exact Or.inr (Or.inl ((end_.cerrada done).mpr shut))
      · exact Or.inr (Or.inr (rechazada end_ failed guarded done shut))
  · intro _ notReverted notClosed
    have done : s.rollback.final ≠ .completa := fun over_ => by
      rw [end_.revertida.mpr over_] at notReverted
      cases notReverted
    have shut : s.close.final ≠ .completa := fun over_ => by
      rw [(end_.cerrada done).mpr over_] at notClosed
      cases notClosed
    rw [Manager.resolveConnection, if_pos (rechazada end_ failed guarded done shut)]
    nofun
  · intro cancelled e' there
    rw [end_.lanzada] at there
    obtain rfl := Option.some.inj there
    rcases cancelled with early | ⟨⟨-, notReverted⟩, byClose⟩
    · exact end_.antes early
    · rcases (guarded ⟨failed, notReverted⟩).2 with current | early | quiet
      · exact end_.cierre notReverted current byClose
      · exact end_.antes early
      · exact absurd byClose quiet

theorem veraz_of_confirma {s : Sucesos Clave Conexion} (body : s.cuerpo = none)
    (done : s.commit.final = .completa) : Veraz s := by
  obtain ⟨committed, raised⟩ := transaction_confirma body done
  constructor
  · exact fun _ => ⟨body, done⟩
  · exact iff_of_true committed ⟨body, done⟩
  · intro _ _ none_
    rw [committed] at none_
    cases none_
  · intro none_
    rw [committed] at none_
    cases none_
  · intro _ e there
    rw [raised] at there
    obtain ⟨c, known, rfl⟩ := Option.map_eq_some_iff.mp there
    exact (cancelacion_deFuera known).1

end

/-! A path that resolves to another key when the rollback fails -/

def ordinario : Ejecucion := ⟨[], .falla, false, 0, nofun⟩

/-- The body fails, and so do the rollback and, after a cancellation from outside, the close. The path is
relative and the process has another working directory by then. -/
def otraClave : Sucesos String Nat where
  propia := "/datos/sky_claw_state.db"
  conn := 1
  cuerpo := some false
  commit := ordinario
  rollback := ordinario
  close := ⟨[1], .falla, false, 1, nofun⟩
  registro := ⟨[("/datos/sky_claw_state.db", 1)], []⟩
  clave := "/tmp/sky_claw_state.db"

end DatabaseLifecycle
