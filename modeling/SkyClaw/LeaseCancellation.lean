import SkyClaw.DistributedLocks

set_option linter.all false

/-!
One run of `adquirir_lease_definitiva` with the tasks it leaves behind. The
acquire task, the release tasks, the caller and the supervisor advance in any
order; a cancellation is requested in one step and delivered at a later one.
-/
namespace LeaseCancellation
open DistributedLocks
variable {F : Type}

inductive EstadoDeCleanupDeLease where
  | noRequerido | sinLease | liberada | yaExpiradaOReclamada | falloDeLiberacion | indeterminado
  deriving DecidableEq

inductive Tarea (α : Type) where
  | enVuelo
  | valor (result : α)
  | error
  | cancelada
  deriving DecidableEq

/-- The caller: at the `await` of the acquire task or of release task `tarea`,
    where `cancelacion` tells whether that loop has caught a `CancelledError`
    (and so waits under a deadline), or out of the function. -/
inductive Llamador (F : Type) where
  | esperaAcquire (cancelacion : Bool)
  | esperaRelease (info : LockInfo F) (tarea : Nat) (cancelacion : Bool)
  | devuelve (info : LockInfo F)
  | propagaFallo
  | propagaCancelacion (indeterminado : Bool)
  deriving DecidableEq

inductive Supervisora where
  | adquisicionTardia
  | liberacionTardia (tarea : Nat)
  | terminada
  deriving DecidableEq

/-- `supervisora` is the task given to `_registrar_tarea_supervisada`.
    `cancelada` and `cerrada` are ghost: the caller, or the supervisor through
    `close()`, has been cancelled at some point. -/
structure Estado (F : Type) where
  llamador : Llamador F
  acquire : Tarea (LockInfo F)
  releases : List (F × Tarea Bool)
  supervisora : Option Supervisora
  cancelPendiente : Bool
  cierrePendiente : Bool
  cancelada : Bool
  cerrada : Bool
  estados : List EstadoDeCleanupDeLease
  deriving DecidableEq

def Estado.inicial : Estado F where
  llamador := .esperaAcquire false
  acquire := .enVuelo
  releases := []
  supervisora := none
  cancelPendiente := false
  cierrePendiente := false
  cancelada := false
  cerrada := false
  estados := []

def Estado.onEstado (s : Estado F) (estado : EstadoDeCleanupDeLease) : Estado F :=
  { s with estados := s.estados ++ [estado] }

def Estado.invocarRelease (s : Estado F) (token : F) : Estado F :=
  { s with releases := s.releases ++ [(token, .enVuelo)] }

def Estado.tareaRelease (s : Estado F) (k : Nat) : Tarea Bool :=
  ((s.releases[k]?).map (·.2)).getD .enVuelo

def estadoDeRelease (liberada : Bool) : EstadoDeCleanupDeLease :=
  if liberada then .liberada else .yaExpiradaOReclamada

/-- `registra` the supervisor, report `INDETERMINADO` and raise. -/
def Estado.delega (s : Estado F) (supervisora : Supervisora) (indeterminado : Bool) : Estado F :=
  { s.onEstado .indeterminado with
    supervisora := some supervisora, llamador := .propagaCancelacion indeterminado }

/-- How a suspended coroutine is resumed. -/
inductive Despertar where
  | resultado
  | cancelacion
  | timeout
  deriving DecidableEq

/-- After the loop of `adquirir_lease_definitiva`, with `cancelacion` set and
    the acquire task done. -/
def Estado.compensa (s : Estado F) : Estado F :=
  match s.acquire with
  | .valor info =>
    { s.invocarRelease info.acquiredAt with
      llamador := .esperaRelease info s.releases.length false }
  | _ => { s.onEstado .sinLease with llamador := .propagaCancelacion false }

/-- A pass through the loop of `adquirir_lease_definitiva`. The result of a
    cancelled task is `CancelledError` too. Under the deadline a result may take
    the place of a cancellation that arrives with it. -/
def Estado.reanudaAcquire (s : Estado F) (cancelacion : Bool) : Despertar → Option (Estado F)
  | .resultado =>
    match s.acquire, cancelacion with
    | .enVuelo, _ => none
    | .cancelada, _ => some s.compensa
    | .valor info, false =>
      if s.cancelPendiente then none
      else some { s.onEstado .noRequerido with llamador := .devuelve info }
    | .error, false =>
      if s.cancelPendiente then none else some { s with llamador := .propagaFallo }
    | _, true => some { s with cancelPendiente := false }.compensa
  | .cancelacion =>
    if s.cancelPendiente then
      let s := { s with cancelPendiente := false }
      match s.acquire with
      | .enVuelo => some { s with llamador := .esperaAcquire true }
      | _ => some s.compensa
    else none
  | .timeout =>
    if cancelacion then
      match s.acquire with
      | .enVuelo => some (s.delega .adquisicionTardia true)
      | _ => some s.compensa
    else none

/-- The end of `liberar_lease_definitiva`. Whether it returns or raises,
    `adquirir_lease_definitiva` then raises its own `cancelacion`. -/
def Estado.trasRelease (s : Estado F) (estado : EstadoDeCleanupDeLease) : Estado F :=
  { s.onEstado estado with llamador := .propagaCancelacion false }

/-- The `except CancelledError` of `liberar_lease_definitiva`; `vencido` is the
    comparison of the monotonic clock with `plazo`. -/
def Estado.canceladoEnRelease (s : Estado F) (info : LockInfo F) (k : Nat) (vencido : Bool) :
    Estado F :=
  match s.tareaRelease k with
  | .enVuelo => { s with llamador := .esperaRelease info k true }
  | .valor liberada => s.trasRelease (estadoDeRelease liberada)
  | .error => s.trasRelease .falloDeLiberacion
  | .cancelada =>
    if vencido then s.trasRelease .indeterminado
    else { s.invocarRelease info.acquiredAt with
      llamador := .esperaRelease info s.releases.length true }

def Estado.reanudaRelease (s : Estado F) (info : LockInfo F) (k : Nat) (cancelacion vencido : Bool) :
    Despertar → Option (Estado F)
  | .resultado =>
    if s.cancelPendiente ∧ ¬ cancelacion then none
    else
      let s := { s with cancelPendiente := false }
      match s.tareaRelease k with
      | .enVuelo => none
      | .valor liberada => some (s.trasRelease (estadoDeRelease liberada))
      | .error => some (s.trasRelease .falloDeLiberacion)
      | .cancelada => some (s.canceladoEnRelease info k vencido)
  | .cancelacion =>
    if s.cancelPendiente then
      some ({ s with cancelPendiente := false }.canceladoEnRelease info k vencido)
    else none
  | .timeout =>
    if cancelacion then
      match s.tareaRelease k with
      | .valor liberada => some (s.trasRelease (estadoDeRelease liberada))
      | .error => some (s.trasRelease .falloDeLiberacion)
      | _ => some (s.delega (.liberacionTardia k) false)
    else none

def Estado.terminaSupervisora (s : Estado F) : Estado F :=
  { s with supervisora := some .terminada }

/-- `_supervisar_adquisicion_tardia` up to its release. When it is cancelled
    with the acquisition still in flight it only cancels and awaits it. -/
def Estado.reanudaAdquisicionTardia (s : Estado F) : Option (Estado F) :=
  match s.acquire with
  | .enVuelo => if s.cierrePendiente then some s.terminaSupervisora else none
  | .valor info =>
    some { s.invocarRelease info.acquiredAt with
      supervisora := some (.liberacionTardia s.releases.length), cierrePendiente := false }
  | _ => some (s.onEstado .sinLease).terminaSupervisora

def Estado.reanudaLiberacionTardia (s : Estado F) (k : Nat) : Option (Estado F) :=
  if s.cierrePendiente then some s.terminaSupervisora
  else
    match s.tareaRelease k with
    | .enVuelo => none
    | .valor liberada => some (s.onEstado (estadoDeRelease liberada)).terminaSupervisora
    | .error => some (s.onEstado .falloDeLiberacion).terminaSupervisora
    | .cancelada => some s.terminaSupervisora

def Llamador.enCurso : Llamador F → Bool
  | .esperaAcquire _ | .esperaRelease .. => true
  | _ => false

inductive Evento (F : Type) where
  | cancela
  | terminaAcquire (fin : Tarea (LockInfo F))
  | terminaRelease (k : Nat) (fin : Tarea Bool)
  | reanuda (despertar : Despertar) (vencido : Bool)
  | cierra
  | reanudaSupervisora

def paso (s : Estado F) : Evento F → Option (Estado F)
  | .cancela =>
    if s.llamador.enCurso then some { s with cancelPendiente := true, cancelada := true } else none
  | .terminaAcquire fin =>
    match s.acquire with
    | .enVuelo => some { s with acquire := fin }
    | _ => none
  | .terminaRelease k fin =>
    match s.tareaRelease k with
    | .enVuelo => some { s with releases := s.releases.modify k fun r => (r.1, fin) }
    | _ => none
  | .reanuda despertar vencido =>
    match s.llamador with
    | .esperaAcquire cancelacion => s.reanudaAcquire cancelacion despertar
    | .esperaRelease info k cancelacion => s.reanudaRelease info k cancelacion vencido despertar
    | _ => none
  | .cierra =>
    match s.supervisora with
    | some .adquisicionTardia | some (.liberacionTardia _) =>
      some { s with cierrePendiente := true, cerrada := true }
    | _ => none
  | .reanudaSupervisora =>
    match s.supervisora with
    | some .adquisicionTardia => s.reanudaAdquisicionTardia
    | some (.liberacionTardia k) => s.reanudaLiberacionTardia k
    | _ => none

def Alcanzable : Estado F → Prop :=
  TransitionRuns.Reaches paso (· = Estado.inicial) fun _ _ => True

/-! What is known of a run -/

/-- A release of `A` has been issued and it is not left without an owner. -/
def Emitida (s : Estado F) (A : LockInfo F) : Prop :=
  ∃ k t, s.releases[k]? = some (A.acquiredAt, t) ∧
    (t ≠ .enVuelo ∨ s.supervisora = some (.liberacionTardia k) ∨ s.cerrada = true)

def Compensada (s : Estado F) : Prop :=
  match s.acquire with
  | .enVuelo => s.supervisora = some .adquisicionTardia ∨ s.cerrada = true
  | .valor A => s.supervisora = some .adquisicionTardia ∨ Emitida s A ∨ s.cerrada = true
  | _ => True

def Situado (s : Estado F) : Prop :=
  match s.llamador with
  | .esperaAcquire cancelacion =>
    s.releases = [] ∧ s.supervisora = none ∧
      (cancelacion = false → s.cancelada = true → s.cancelPendiente = true)
  | .esperaRelease A k _ =>
    s.acquire = .valor A ∧ s.supervisora = none ∧ ∃ t, s.releases[k]? = some (A.acquiredAt, t)
  | .devuelve A => s.acquire = .valor A ∧ s.cancelada = false ∧ s.supervisora = none
  | .propagaFallo => s.cancelada = false ∧ s.supervisora = none
  | .propagaCancelacion false =>
    s.acquire ≠ .enVuelo ∧ s.supervisora ≠ some .adquisicionTardia ∧
      ∀ A, s.acquire = .valor A → Emitida s A
  | .propagaCancelacion true => Compensada s

structure Coherente (s : Estado F) : Prop where
  situado : Situado s
  tokens : ∀ r ∈ s.releases, ∃ A, s.acquire = .valor A ∧ r.1 = A.acquiredAt
  liberada : .liberada ∈ s.estados → ∃ r ∈ s.releases, r.2 = .valor true
  cierre : s.cierrePendiente = true → s.cerrada = true

section
variable {s t : Estado F} {A : LockInfo F} {k : Nat}

theorem tareaRelease_of_get {token : F} {r : Tarea Bool}
    (at_k : s.releases[k]? = some (token, r)) : s.tareaRelease k = r := by
  simp [Estado.tareaRelease, at_k]

theorem get_invocarRelease {token : F} :
    (s.invocarRelease token).releases[s.releases.length]? = some (token, .enVuelo) := by
  simp [Estado.invocarRelease]

theorem tokens_invocarRelease (acquired : s.acquire = .valor A)
    (tokens : ∀ r ∈ s.releases, ∃ B, s.acquire = .valor B ∧ r.1 = B.acquiredAt) :
    ∀ r ∈ (s.invocarRelease A.acquiredAt).releases,
      ∃ B, s.acquire = .valor B ∧ r.1 = B.acquiredAt := by
  intro r member
  rcases List.mem_append.mp member with older | newest
  · exact tokens r older
  · exact ⟨A, acquired, by simp_all⟩

theorem liberada_invocarRelease {token : F}
    (backed : .liberada ∈ s.estados → ∃ r ∈ s.releases, r.2 = .valor true) :
    .liberada ∈ s.estados → ∃ r ∈ (s.invocarRelease token).releases, r.2 = .valor true := by
  intro reported
  obtain ⟨r, member, returned⟩ := backed reported
  exact ⟨r, List.mem_append_left _ member, returned⟩

theorem liberada_onEstado {estado : EstadoDeCleanupDeLease}
    (backed : .liberada ∈ s.estados → ∃ r ∈ s.releases, r.2 = .valor true)
    (own : estado = .liberada → ∃ r ∈ s.releases, r.2 = .valor true) :
    .liberada ∈ (s.onEstado estado).estados → ∃ r ∈ s.releases, r.2 = .valor true := by
  intro reported
  rcases List.mem_append.mp reported with older | newest
  · exact backed older
  · exact own (List.mem_singleton.mp newest).symm

theorem estadoDeRelease_liberada {liberada : Bool} (reported : estadoDeRelease liberada = .liberada) :
    liberada = true := by
  cases liberada with
  | true => rfl
  | false => simp [estadoDeRelease] at reported

theorem coherente_compensa (fresh : s.releases = []) (free : s.supervisora = none)
    (done : s.acquire ≠ .enVuelo)
    (backed : .liberada ∈ s.estados → ∃ r ∈ s.releases, r.2 = .valor true)
    (closing : s.cierrePendiente = true → s.cerrada = true) : Coherente s.compensa := by
  unfold Estado.compensa
  split
  · rename_i info acquired
    refine ⟨⟨acquired, free, .enVuelo, get_invocarRelease⟩, ?_, liberada_invocarRelease backed,
      closing⟩
    exact tokens_invocarRelease acquired (by simp [fresh])
  · rename_i unacquired
    refine ⟨⟨done, by simp [Estado.onEstado, free], ?_⟩, by simp [Estado.onEstado, fresh], ?_,
      closing⟩
    · intro A acquired
      exact absurd acquired (unacquired A)
    · exact liberada_onEstado backed (by rintro ⟨⟩)

theorem coherente_reanudaAcquire {cancelacion : Bool} {despertar : Despertar}
    (inv : Coherente s) (waiting : s.llamador = .esperaAcquire cancelacion)
    (moved : s.reanudaAcquire cancelacion despertar = some t) : Coherente t := by
  have situated := inv.situado
  simp only [Situado, waiting] at situated
  obtain ⟨fresh, free, pending⟩ := situated
  have backed := inv.liberada
  have closing := inv.cierre
  have done_compensa {s' : Estado F} (releases : s'.releases = s.releases)
      (same : s'.supervisora = s.supervisora) (estados : s'.estados = s.estados)
      (closing' : s'.cierrePendiente = true → s'.cerrada = true) (done : s'.acquire ≠ .enVuelo) :
      Coherente s'.compensa :=
    coherente_compensa (releases.trans fresh) (same.trans free) done (by rwa [estados, releases])
      closing'
  cases despertar with
  | resultado =>
    simp only [Estado.reanudaAcquire] at moved
    split at moved
    · simp at moved
    · rename_i ended
      simp only [Option.some.injEq] at moved
      subst moved
      exact done_compensa rfl rfl rfl closing (by simp [ended])
    · rename_i info ended
      split at moved
      · simp at moved
      · rename_i quiet
        simp only [Option.some.injEq] at moved
        subst moved
        refine ⟨⟨ended, ?_, free⟩, by simp [Estado.onEstado, fresh], ?_, closing⟩
        · exact Bool.eq_false_iff.mpr fun asked => quiet (pending rfl asked)
        · exact liberada_onEstado backed (by rintro ⟨⟩)
    · split at moved
      · simp at moved
      · rename_i quiet
        simp only [Option.some.injEq] at moved
        subst moved
        refine ⟨⟨?_, free⟩, by simp [fresh], backed, closing⟩
        exact Bool.eq_false_iff.mpr fun asked => quiet (pending rfl asked)
    · rename_i running other
      simp only [Option.some.injEq] at moved
      subst moved
      exact done_compensa rfl rfl rfl closing (by simpa using running)
  | cancelacion =>
    simp only [Estado.reanudaAcquire] at moved
    split at moved
    · split at moved
      · simp only [Option.some.injEq] at moved
        subst moved
        exact ⟨⟨fresh, free, by simp⟩, by simp [fresh], backed, closing⟩
      · rename_i ended
        simp only [Option.some.injEq] at moved
        subst moved
        exact done_compensa rfl rfl rfl closing (by simpa using ended)
    · simp at moved
  | timeout =>
    simp only [Estado.reanudaAcquire] at moved
    split at moved
    · split at moved
      · rename_i running
        simp only [Option.some.injEq] at moved
        subst moved
        refine ⟨?_, by simp [Estado.delega, Estado.onEstado, fresh], ?_, closing⟩
        · simp [Situado, Compensada, Estado.delega, Estado.onEstado, running]
        · exact liberada_onEstado backed (by rintro ⟨⟩)
      · rename_i ended
        simp only [Option.some.injEq] at moved
        subst moved
        exact done_compensa rfl rfl rfl closing (by simpa using ended)
    · simp at moved

/-- The release `k` has ended, and the caller reports it and raises. -/
theorem coherente_trasRelease {token : F} {r : Tarea Bool} {estado : EstadoDeCleanupDeLease}
    (inv : Coherente s) (acquired : s.acquire = .valor A) (free : s.supervisora = none)
    (at_k : s.releases[k]? = some (token, r)) (same : token = A.acquiredAt)
    (ended : r ≠ .enVuelo) (own : estado = .liberada → r = .valor true) :
    Coherente (s.trasRelease estado) := by
  subst same
  refine ⟨⟨?_, ?_, ?_⟩, inv.tokens, ?_, inv.cierre⟩
  · simp [Estado.trasRelease, Estado.onEstado, acquired]
  · simp [Estado.trasRelease, Estado.onEstado, free]
  · intro B other
    have equal : B = A := by
      simpa [Estado.trasRelease, Estado.onEstado, acquired, eq_comm] using other
    exact equal ▸ ⟨k, r, at_k, .inl ended⟩
  · exact liberada_onEstado inv.liberada fun reported =>
      ⟨_, List.mem_of_getElem? at_k, own reported⟩

theorem coherente_canceladoEnRelease {r : Tarea Bool} {vencido : Bool} (inv : Coherente s)
    (acquired : s.acquire = .valor A) (free : s.supervisora = none)
    (at_k : s.releases[k]? = some (A.acquiredAt, r)) :
    Coherente (s.canceladoEnRelease A k vencido) := by
  simp only [Estado.canceladoEnRelease, tareaRelease_of_get at_k]
  cases r with
  | enVuelo => exact ⟨⟨acquired, free, _, at_k⟩, inv.tokens, inv.liberada, inv.cierre⟩
  | valor liberada =>
    refine coherente_trasRelease inv acquired free at_k rfl (by simp) fun reported => ?_
    rw [estadoDeRelease_liberada reported]
  | error => exact coherente_trasRelease inv acquired free at_k rfl (by simp) (by rintro ⟨⟩)
  | cancelada =>
    cases vencido with
    | true => exact coherente_trasRelease inv acquired free at_k rfl (by simp) (by rintro ⟨⟩)
    | false =>
      refine ⟨⟨acquired, free, .enVuelo, get_invocarRelease⟩, ?_,
        liberada_invocarRelease inv.liberada, inv.cierre⟩
      exact tokens_invocarRelease acquired inv.tokens

theorem Coherente.sinPendiente {espera : Llamador F} (inv : Coherente s)
    (waiting : s.llamador = espera) (releasing : ∃ A k c, espera = .esperaRelease A k c) :
    Coherente { s with cancelPendiente := false } := by
  obtain ⟨A, k, c, rfl⟩ := releasing
  have situated := inv.situado
  simp only [Situado, waiting] at situated
  exact ⟨by simpa only [Situado, waiting] using situated, inv.tokens, inv.liberada, inv.cierre⟩

theorem coherente_reanudaRelease {cancelacion vencido : Bool} {despertar : Despertar}
    (inv : Coherente s) (waiting : s.llamador = .esperaRelease A k cancelacion)
    (moved : s.reanudaRelease A k cancelacion vencido despertar = some t) : Coherente t := by
  have situated := inv.situado
  simp only [Situado, waiting] at situated
  obtain ⟨acquired, free, r, at_k⟩ := situated
  have quiet := inv.sinPendiente waiting ⟨A, k, cancelacion, rfl⟩
  have now := tareaRelease_of_get at_k
  cases despertar with
  | resultado =>
    simp only [Estado.reanudaRelease] at moved
    split at moved
    · simp at moved
    · split at moved <;> rename_i ended
      · simp at moved
      · simp only [Option.some.injEq] at moved
        subst moved
        obtain rfl : r = _ := now.symm.trans ended
        refine coherente_trasRelease quiet acquired free at_k rfl (by simp) fun reported => ?_
        rw [estadoDeRelease_liberada reported]
      · simp only [Option.some.injEq] at moved
        subst moved
        obtain rfl : r = _ := now.symm.trans ended
        exact coherente_trasRelease quiet acquired free at_k rfl (by simp) (by rintro ⟨⟩)
      · simp only [Option.some.injEq] at moved
        subst moved
        exact coherente_canceladoEnRelease quiet acquired free at_k
  | cancelacion =>
    simp only [Estado.reanudaRelease] at moved
    split at moved
    · simp only [Option.some.injEq] at moved
      subst moved
      exact coherente_canceladoEnRelease quiet acquired free at_k
    · simp at moved
  | timeout =>
    simp only [Estado.reanudaRelease, now] at moved
    split at moved
    · split at moved
      · simp only [Option.some.injEq] at moved
        subst moved
        refine coherente_trasRelease inv acquired free at_k rfl (by simp) fun reported => ?_
        rw [estadoDeRelease_liberada reported]
      · simp only [Option.some.injEq] at moved
        subst moved
        exact coherente_trasRelease inv acquired free at_k rfl (by simp) (by rintro ⟨⟩)
      · simp only [Option.some.injEq] at moved
        subst moved
        refine ⟨⟨?_, ?_, ?_⟩, inv.tokens, liberada_onEstado inv.liberada (by rintro ⟨⟩),
          inv.cierre⟩
        · simp [Estado.delega, Estado.onEstado, acquired]
        · simp [Estado.delega]
        · intro B other
          have equal : B = A := by simpa [Estado.delega, Estado.onEstado, acquired, eq_comm] using other
          exact equal ▸ ⟨k, r, at_k, .inr (.inl rfl)⟩
    · simp at moved

theorem Coherente.supervisada (inv : Coherente s) {tarea : Supervisora}
    (active : s.supervisora = some tarea) :
    ∃ indeterminado, s.llamador = .propagaCancelacion indeterminado ∧
      (tarea = .adquisicionTardia → indeterminado = true) := by
  have situated := inv.situado
  simp only [Situado] at situated
  split at situated
  · simp [active] at situated
  · simp [active] at situated
  · simp [active] at situated
  · simp [active] at situated
  · rename_i out
    refine ⟨false, out, ?_⟩
    rintro rfl
    exact absurd active situated.2.1
  · rename_i out
    exact ⟨true, out, fun _ => rfl⟩

/-- The supervisor of release `k` may end once that release has, or when it is closed. -/
theorem Emitida.termina (issued : Emitida s A) (active : s.supervisora = some (.liberacionTardia k))
    (ended : s.tareaRelease k ≠ .enVuelo ∨ s.cerrada = true) :
    Emitida s.terminaSupervisora A := by
  obtain ⟨j, r, at_j, finished | watched | closed⟩ := issued
  · exact ⟨j, r, at_j, .inl finished⟩
  · obtain rfl : k = j := by simpa [active] using watched
    rcases ended with done | closed
    · exact ⟨k, r, at_j, .inl (tareaRelease_of_get at_j ▸ done)⟩
    · exact ⟨k, r, at_j, .inr (.inr closed)⟩
  · exact ⟨j, r, at_j, .inr (.inr closed)⟩

theorem situado_termina (inv : Coherente s) (active : s.supervisora = some (.liberacionTardia k))
    (ended : s.tareaRelease k ≠ .enVuelo ∨ s.cerrada = true) : Situado s.terminaSupervisora := by
  obtain ⟨indeterminado, out, -⟩ := inv.supervisada active
  have situated := inv.situado
  cases indeterminado with
  | false =>
    simp only [Situado, out] at situated
    simp only [Situado, Estado.terminaSupervisora, out]
    exact ⟨situated.1, by simp, fun A acquired => (situated.2.2 A acquired).termina active ended⟩
  | true =>
    simp only [Situado, out, Compensada] at situated
    simp only [Situado, Estado.terminaSupervisora, out, Compensada]
    split at situated <;> simp_all
    rename_i A acquired
    exact situated.imp_left fun issued => issued.termina active ended

theorem coherente_reanudaLiberacionTardia (inv : Coherente s)
    (active : s.supervisora = some (.liberacionTardia k))
    (moved : s.reanudaLiberacionTardia k = some t) : Coherente t := by
  simp only [Estado.reanudaLiberacionTardia] at moved
  split at moved
  · rename_i closing
    simp only [Option.some.injEq] at moved
    subst moved
    exact ⟨situado_termina inv active (.inr (inv.cierre closing)), inv.tokens, inv.liberada,
      inv.cierre⟩
  · split at moved <;> rename_i ended
    · simp at moved
    · rename_i liberada
      simp only [Option.some.injEq] at moved
      subst moved
      have placed := situado_termina inv active (.inl (by simp [ended]))
      refine ⟨placed, inv.tokens, ?_, inv.cierre⟩
      refine liberada_onEstado inv.liberada fun reported => ?_
      obtain rfl := estadoDeRelease_liberada reported
      obtain ⟨r, at_k, value⟩ : ∃ r, s.releases[k]? = some r ∧ r.2 = .valor true := by
        cases at_k : s.releases[k]? with
        | none => simp [Estado.tareaRelease, at_k] at ended
        | some r => exact ⟨r, rfl, by simpa [Estado.tareaRelease, at_k] using ended⟩
      exact ⟨r, List.mem_of_getElem? at_k, value⟩
    · simp only [Option.some.injEq] at moved
      subst moved
      have placed := situado_termina inv active (.inl (by simp [ended]))
      exact ⟨placed, inv.tokens, liberada_onEstado inv.liberada (by rintro ⟨⟩), inv.cierre⟩
    · simp only [Option.some.injEq] at moved
      subst moved
      exact ⟨situado_termina inv active (.inl (by simp [ended])), inv.tokens, inv.liberada, inv.cierre⟩

theorem coherente_reanudaAdquisicionTardia (inv : Coherente s)
    (active : s.supervisora = some .adquisicionTardia)
    (moved : s.reanudaAdquisicionTardia = some t) : Coherente t := by
  obtain ⟨_, out, indeterminado⟩ := inv.supervisada active
  obtain rfl := indeterminado rfl
  simp only [Estado.reanudaAdquisicionTardia] at moved
  split at moved
  · rename_i running
    split at moved
    · rename_i closing
      simp only [Option.some.injEq] at moved
      subst moved
      refine ⟨?_, inv.tokens, inv.liberada, inv.cierre⟩
      simp only [Situado, Estado.terminaSupervisora, out, Compensada, running]
      exact .inr (inv.cierre closing)
    · simp at moved
  · rename_i A acquired
    simp only [Option.some.injEq] at moved
    subst moved
    refine ⟨?_, tokens_invocarRelease acquired inv.tokens, liberada_invocarRelease inv.liberada,
      by simp⟩
    simp only [Situado, Estado.invocarRelease, out, Compensada, acquired]
    exact .inr (.inl ⟨s.releases.length, .enVuelo, get_invocarRelease, .inr (.inl rfl)⟩)
  · simp only [Option.some.injEq] at moved
    subst moved
    refine ⟨?_, inv.tokens, liberada_onEstado inv.liberada (by rintro ⟨⟩), inv.cierre⟩
    simp only [Situado, Estado.terminaSupervisora, Estado.onEstado, out, Compensada]

theorem coherente_terminaAcquire {fin : Tarea (LockInfo F)} (inv : Coherente s)
    (running : s.acquire = .enVuelo) : Coherente { s with acquire := fin } := by
  have fresh : ∀ r, r ∉ s.releases := by
    intro r member
    obtain ⟨A, acquired, -⟩ := inv.tokens r member
    simp [running] at acquired
  refine ⟨?_, fun r member => absurd member (fresh r), inv.liberada, inv.cierre⟩
  have situated := inv.situado
  simp only [Situado] at situated ⊢
  split at situated
  · exact situated
  · simp [running] at situated
  · simp [running] at situated
  · exact situated
  · exact absurd running situated.1
  · simp only [Compensada, running] at situated
    simp only [Compensada]
    split
    · exact situated
    · exact situated.imp_right .inr
    · trivial

theorem get_terminaRelease (fin : Tarea Bool) {j : Nat} {r : F × Tarea Bool}
    (at_j : s.releases[j]? = some r) :
    (s.releases.modify k fun r => (r.1, fin))[j]? = some (if k = j then (r.1, fin) else r) := by
  rw [List.getElem?_modify, at_j]
  split <;> rfl

theorem Emitida.terminaRelease {fin : Tarea Bool} (issued : Emitida s A)
    (running : s.tareaRelease k = .enVuelo) :
    Emitida { s with releases := s.releases.modify k fun r => (r.1, fin) } A := by
  obtain ⟨j, r, at_j, owned⟩ := issued
  have now := get_terminaRelease (k := k) fin at_j
  by_cases same : k = j
  · subst same
    rw [tareaRelease_of_get at_j] at running
    refine ⟨k, fin, by simpa using now, ?_⟩
    rcases owned with done | rest
    · exact absurd running done
    · exact .inr rest
  · exact ⟨j, r, by simpa [same] using now, owned⟩

theorem coherente_terminaRelease {fin : Tarea Bool} (inv : Coherente s)
    (running : s.tareaRelease k = .enVuelo) :
    Coherente { s with releases := s.releases.modify k fun r => (r.1, fin) } := by
  refine ⟨?_, ?_, ?_, inv.cierre⟩
  · have situated := inv.situado
    simp only [Situado] at situated ⊢
    split at situated
    · exact ⟨by simp [situated.1], situated.2⟩
    · rename_i B j c _
      obtain ⟨acquired, free, r, at_j⟩ := situated
      refine ⟨acquired, free, if k = j then fin else r, ?_⟩
      rw [get_terminaRelease _ at_j]
      split <;> rfl
    · exact situated
    · exact situated
    · exact ⟨situated.1, situated.2.1, fun B acquired =>
        (situated.2.2 B acquired).terminaRelease running⟩
    · simp only [Compensada] at situated ⊢
      split at situated
      · exact situated
      · exact situated.imp_right fun rest => rest.imp_left fun issued =>
          issued.terminaRelease running
      · trivial
  · intro r member
    obtain ⟨j, at_j⟩ := List.getElem?_of_mem member
    cases before : s.releases[j]? with
    | none => simp [List.getElem?_modify, before] at at_j
    | some r' =>
      obtain ⟨B, acquired, same⟩ := inv.tokens r' (List.mem_of_getElem? before)
      rw [get_terminaRelease _ before, Option.some.injEq] at at_j
      subst at_j
      refine ⟨B, acquired, ?_⟩
      split <;> exact same
  · intro reported
    obtain ⟨r, member, value⟩ := inv.liberada reported
    obtain ⟨j, at_j⟩ := List.getElem?_of_mem member
    have other : k ≠ j := by
      rintro rfl
      rw [@tareaRelease_of_get _ _ _ r.1 r.2 at_j, value] at running
      simp at running
    have now := get_terminaRelease (k := k) fin at_j
    rw [if_neg other] at now
    exact ⟨r, List.mem_of_getElem? now, value⟩

theorem coherente_cancela (inv : Coherente s) (running : s.llamador.enCurso = true) :
    Coherente { s with cancelPendiente := true, cancelada := true } := by
  refine ⟨?_, inv.tokens, inv.liberada, inv.cierre⟩
  have situated := inv.situado
  simp only [Situado] at situated ⊢
  split at situated <;> rename_i out <;> simp only [out, Llamador.enCurso] at running
  · exact ⟨situated.1, situated.2.1, fun _ _ => trivial⟩
  · exact situated
  all_goals simp at running

theorem coherente_cierra (inv : Coherente s) :
    Coherente { s with cierrePendiente := true, cerrada := true } := by
  refine ⟨?_, inv.tokens, inv.liberada, fun _ => rfl⟩
  have closed {B : LockInfo F} (issued : Emitida s B) :
      Emitida { s with cierrePendiente := true, cerrada := true } B := by
    obtain ⟨j, r, at_j, -⟩ := issued
    exact ⟨j, r, at_j, .inr (.inr rfl)⟩
  have situated := inv.situado
  simp only [Situado] at situated ⊢
  split at situated
  · exact situated
  · exact situated
  · exact situated
  · exact situated
  · exact ⟨situated.1, situated.2.1, fun B acquired => closed (situated.2.2 B acquired)⟩
  · simp only [Compensada]
    split
    · exact .inr trivial
    · exact .inr (.inr trivial)
    · trivial

theorem coherente_paso {e : Evento F} (inv : Coherente s) (moved : paso s e = some t) :
    Coherente t := by
  cases e with
  | cancela =>
    simp only [paso] at moved
    split at moved
    · rename_i running
      simp only [Option.some.injEq] at moved
      exact moved ▸ coherente_cancela inv running
    · simp at moved
  | terminaAcquire fin =>
    simp only [paso] at moved
    split at moved
    · rename_i running
      simp only [Option.some.injEq] at moved
      exact moved ▸ coherente_terminaAcquire inv running
    · simp at moved
  | terminaRelease k fin =>
    simp only [paso] at moved
    split at moved
    · rename_i running
      simp only [Option.some.injEq] at moved
      exact moved ▸ coherente_terminaRelease inv running
    · simp at moved
  | reanuda despertar vencido =>
    simp only [paso] at moved
    split at moved
    · rename_i waiting
      exact coherente_reanudaAcquire inv waiting moved
    · rename_i waiting
      exact coherente_reanudaRelease inv waiting moved
    · simp at moved
  | cierra =>
    simp only [paso] at moved
    split at moved
    · simp only [Option.some.injEq] at moved
      exact moved ▸ coherente_cierra inv
    · simp only [Option.some.injEq] at moved
      exact moved ▸ coherente_cierra inv
    · simp at moved
  | reanudaSupervisora =>
    simp only [paso] at moved
    split at moved
    · rename_i active
      exact coherente_reanudaAdquisicionTardia inv active moved
    · rename_i active
      exact coherente_reanudaLiberacionTardia inv active moved
    · simp at moved

theorem alcanzable_coherente (reached : Alcanzable s) : Coherente s := by
  refine TransitionRuns.Reaches.invariant ?_ ?_ reached
  · rintro _ rfl
    refine ⟨⟨rfl, rfl, ?_⟩, ?_, ?_, ?_⟩ <;> simp [Estado.inicial]
  · intro s e t inv _ moved
    exact coherente_paso inv moved

end

structure CancelacionDurable (s : Estado F) : Prop where
  devuelve : ∀ A, s.llamador = .devuelve A → s.cancelada = false ∧ s.acquire = .valor A
  propaga : s.cancelada = true → s.llamador.enCurso = false →
    ∃ indeterminado, s.llamador = .propagaCancelacion indeterminado
  compensada : ∀ A, s.llamador = .propagaCancelacion false → s.acquire = .valor A → Emitida s A
  vence : ∀ vencido, s.llamador = .esperaAcquire true → s.acquire = .enVuelo →
    ∃ t, paso s (.reanuda .timeout vencido) = some t ∧ t.llamador = .propagaCancelacion true ∧
      t.supervisora = some .adquisicionTardia
  supervisada : s.llamador = .propagaCancelacion true → s.acquire = .enVuelo →
    s.supervisora = some .adquisicionTardia ∨ s.cerrada = true
  tardia : ∀ A, s.llamador = .propagaCancelacion true → s.acquire = .valor A →
    s.supervisora = some .adquisicionTardia ∨ Emitida s A ∨ s.cerrada = true
  libera : ∀ A, s.supervisora = some .adquisicionTardia → s.acquire = .valor A →
    ∃ t, paso s .reanudaSupervisora = some t ∧
      t.releases = s.releases ++ [(A.acquiredAt, .enVuelo)]
  tokens : ∀ r ∈ s.releases, ∃ A, s.acquire = .valor A ∧ r.1 = A.acquiredAt
  liberada : .liberada ∈ s.estados →
    ∃ A, s.acquire = .valor A ∧ (A.acquiredAt, .valor true) ∈ s.releases

/-- The deadline passes first and the acquisition succeeds later. -/
def adquisicionTardia : List (Evento Int) :=
  [.cancela, .reanuda .cancelacion false, .reanuda .timeout true,
    .terminaAcquire (.valor ⟨"load_order", "merge", 0, 600, some 600⟩), .reanudaSupervisora,
    .terminaRelease 0 (.valor true), .reanudaSupervisora]

end LeaseCancellation
