import SkyClaw.ExceptionChains
import SkyClaw.TransitionRuns

set_option linter.all false

/-!
A brokered session over a live process: the stream of events of its worker, the
driver that owns the outcome, the cancellation, and the calls of `result`,
`wait` and `cancel`. It begins when its launch frame has been sent. A stretch
of code with no await in it is one step. What a worker, the bridge or a clock
does to the two futures of the job is a step of its own.
-/
namespace VfsSession
open ExceptionChains TransitionRuns

inductive Clase where
  | sessionError
  | sessionProtocolError
  | jobCancelledError
  | brokerError
  | jobTimeoutError
  | teardownError
  | cancelledError
  deriving DecidableEq

inductive Mensaje where
  | startedDuplicado
  | exitAntesDeStarted
  | exitDuplicado
  | incoherente (evento resultado : Int)
  | sinExitCode
  | cancelado
  | excedioPlazo
  | sinTracking
  | sinResultado (exitCode : Option Int)
  | resultadoInvalido
  | launchRechazado
  | terminacionRechazada
  | sinConfirmarSalida
  | vacio
  deriving DecidableEq

/-- What an exception carries, the two attributes set on it afterwards included. -/
structure Datos where
  clase : Clase
  mensaje : Mensaje
  terminalityUnknown : Bool
  teardownError : Option Nat

def Datos.de (clase : Clase) (mensaje : Mensaje) : Datos := ⟨clase, mensaje, false, none⟩

/-! The veto on rollback -/

def markUnknownTerminality (teardownError : Option Nat) (d : Datos) : Datos :=
  { d with terminalityUnknown := true, teardownError := teardownError <|> d.teardownError }

def Datos.veta (d : Datos) : Bool :=
  d.terminalityUnknown || d.clase == .teardownError || d.teardownError.isSome

def exceptionForbidsRollback (heap : Heap Datos) (exc : Nat) : Bool := alguna Datos.veta heap 32 [] exc

/-! The session -/

inductive VfsSessionEvent where
  | toolStarted (toolPid : Nat)
  | toolExit (exitCode : Int)
  deriving DecidableEq

structure VfsJobResult where
  message : String
  exitCode : Option Int
  deriving DecidableEq

inductive Futuro (α : Type) where
  | pendiente
  | valor (a : α)
  | error (e : Nat)
  | cancelado
  deriving DecidableEq

def Futuro.done {α : Type} : Futuro α → Bool
  | .pendiente => false
  | _ => true

/-- `set_exception` on a future that may be done already. -/
def Futuro.falla {α : Type} (e : Nat) : Futuro α → Futuro α
  | .pendiente => .error e
  | f => f

def Futuro.resuelve {α : Type} (a : α) : Futuro α → Futuro α
  | .pendiente => .valor a
  | f => f

inductive Desenlace where
  | valor (r : VfsJobResult)
  | error (e : Nat)
  deriving DecidableEq

/-- The task of `_conducir_sesion`: it waits for the result, for `worker_exit` with a result or
a failure in hand, or for the termination it asked for when the time was over; then it cleans
up with its outcome decided. -/
inductive Driver where
  | espera
  | sale (r : VfsJobResult)
  | falla (e : Nat)
  | cancela
  | limpia (d : Desenlace)
  | borra (d : Desenlace)
  | hecho (d : Desenlace)
  deriving DecidableEq

def Driver.decidido : Driver → Option Desenlace
  | .limpia d | .borra d | .hecho d => some d
  | _ => none

/-- The task of `_request_termination_and_wait`. -/
inductive Terminacion where
  | no
  | pide
  | espera
  | sinTracking (e : Nat)
  | hecha
  | fallida (e : Nat)
  deriving DecidableEq

/-- The task of `_cancelar_y_confirmar`. -/
inductive Cancelacion where
  | no
  | empieza
  | espera
  | hecha (fallo : Option Nat)
  deriving DecidableEq

inductive Respuesta where
  | resultado (r : VfsJobResult)
  | codigo (exitCode : Int)
  | nada
  | lanza (e : Nat)
  | cancelada (e : Nat)
  deriving DecidableEq

inductive Metodo where
  | result
  | wait
  | cancel
  deriving DecidableEq

/-- In the fence, a call has the `CancelledError` that took it there (if any), and whether it
has been cancelled once more. -/
inductive Fase where
  | espera
  | fence (callerCanc : Option Nat) (cancelada : Bool)
  | acabada (respuesta : Respuesta)
  deriving DecidableEq

structure Llamada where
  metodo : Metodo
  fase : Fase
  deriving DecidableEq

structure Estado where
  pid : Option Nat
  exitCode : Option Int
  protocolError : Option Nat
  confirmedTerminal : Bool
  terminalityUnknown : Bool
  teardownError : Option Nat
  teardownCompleto : Bool
  resultado : Futuro VfsJobResult
  salida : Futuro (Option Int)
  eventos : List VfsSessionEvent
  -- the job has its queue of events, and its two futures, in the maps of the broker
  suscrito : Bool
  registrado : Bool
  colector : Bool
  cancelacion : Cancelacion
  terminacion : Terminacion
  driver : Driver
  llamadas : List Llamada
  heap : Heap Datos
  -- every event that entered the queue
  recibidos : List VfsSessionEvent

def Estado.abierta : Estado where
  pid := none
  exitCode := none
  protocolError := none
  confirmedTerminal := false
  terminalityUnknown := false
  teardownError := none
  teardownCompleto := false
  resultado := .pendiente
  salida := .pendiente
  eventos := []
  suscrito := true
  registrado := true
  colector := true
  cancelacion := .no
  terminacion := .no
  driver := .espera
  llamadas := []
  heap := []
  recibidos := []

/-- The exception that the next `nace` puts at `s.heap.length`. -/
def Estado.nace (d : Datos) (context : Option Nat) (s : Estado) : Estado :=
  { s with heap := s.heap ++ [⟨d, none, context⟩] }

/-! The stream of events -/

def aplicarEvento (e : VfsSessionEvent) (s : Estado) : Except Mensaje Estado :=
  match e with
  | .toolStarted pid =>
    if s.pid.isSome then .error .startedDuplicado else .ok { s with pid := some pid }
  | .toolExit code =>
    if s.pid.isNone then .error .exitAntesDeStarted
    else if s.exitCode.isSome then .error .exitDuplicado
    else .ok { s with exitCode := some code }

def iniciarCancelacion (s : Estado) : Estado :=
  if s.cancelacion = .no then { s with cancelacion := .empieza } else s

/-- The error was raised while `handled` was being handled. -/
def registrarErrorDeProtocolo (m : Mensaje) (handled : Option Nat) (s : Estado) : Estado :=
  let error := s.heap.length
  let s := s.nace (.de .sessionProtocolError m) handled
  iniciarCancelacion { s with
    protocolError := s.protocolError <|> some error
    resultado := s.resultado.falla error }

def drenar (handled : Option Nat) : List VfsSessionEvent → Estado → Estado
  | [], s => { s with eventos := [] }
  | e :: rest, s =>
    match aplicarEvento e s with
    | .ok t => drenar handled rest t
    | .error m => registrarErrorDeProtocolo m handled { s with eventos := rest }

def drenarEventosPendientes (handled : Option Nat) (s : Estado) : Estado := drenar handled s.eventos s

/-- What the collector does with the event it took from the queue. -/
def recolectar (e : VfsSessionEvent) (s : Estado) : Estado :=
  match aplicarEvento e s with
  | .ok t => t
  | .error m => { registrarErrorDeProtocolo m none s with colector := false }

/-! The calls -/

/-- `result` after its wait for the driver. -/
def resultar (d : Desenlace) (s : Estado) : Estado × Respuesta :=
  match d with
  | .error e =>
    let t := drenarEventosPendientes (some e) s
    match t.protocolError with
    | some p => ({ t with heap := conCausa p none (lanza p (some e) t.heap) }, .lanza p)
    | none => (t, .lanza e)
  | .valor r =>
    let t := drenarEventosPendientes none s
    match t.protocolError with
    | some p => (t, .lanza p)
    | none =>
      match t.exitCode, r.exitCode with
      | some a, some b =>
        if a ≠ b then (t.nace (.de .sessionProtocolError (.incoherente a b)) none, .lanza t.heap.length)
        else ({ t with confirmedTerminal := true }, .resultado r)
      | _, _ => ({ t with confirmedTerminal := true }, .resultado r)

/-- `wait` after `result`. -/
def esperar : Estado × Respuesta → Estado × Respuesta
  | (s, .resultado r) =>
    match r.exitCode with
    | some code => (s, .codigo code)
    | none => (s.nace (.de .sessionError .sinExitCode) none, .lanza s.heap.length)
  | other => other

def entregar (m : Metodo) (d : Desenlace) (s : Estado) : Estado × Respuesta :=
  match m with
  | .wait => esperar (resultar d s)
  | _ => resultar d s

/-- The fence when the cancellation and the driver are done, up to what it raises. The driver's
error that it absorbed may get a cancelled caller for its context; that one is only marked if
the error is, and the link is left out. -/
def cerrarFence (s : Estado) : Estado :=
  let t := { s with teardownCompleto := true }
  match s.driver with
  | .hecho (.error e) =>
    if exceptionForbidsRollback s.heap e && s.teardownError.isNone then
      { t with teardownError := some e, terminalityUnknown := true, confirmedTerminal := false }
    else t
  | _ => t

def marcarYEncadenar (exc : Nat) (unknown : Bool) (teardownError : Option Nat) (heap : Heap Datos) : Heap Datos :=
  let heap := if unknown || teardownError.isSome then marca (markUnknownTerminality teardownError) exc heap else heap
  if teardownError.isSome then conCausa exc teardownError heap else heap

/-- What the fence raises, with the exception its caller is handling. -/
def lanzarDeFence (handled : Option Nat) (cancelada : Bool) (s : Estado) : Estado × Option Nat :=
  if cancelada then
    let canc := s.heap.length
    let t := s.nace (.de .cancelledError .vacio) handled
    ({ t with heap := marcarYEncadenar canc t.terminalityUnknown t.teardownError t.heap }, some canc)
  else
    match s.teardownError with
    | some t => ({ s with heap := lanza t handled s.heap }, some t)
    | none => (s, none)

/-- `result` with its caller cancelled, once the fence has ended. -/
def propagarCancelacion (callerCanc : Nat) (teardownExc : Option Nat) (s : Estado) : Estado :=
  let exc := teardownExc.bind fun x => s.heap[x]?.map (·.carga)
  let teardownError := exc.bind (·.teardownError) <|> s.teardownError <|>
    if exc.any (·.clase ≠ .cancelledError) then teardownExc else none
  let isUnknown := s.terminalityUnknown || exc.any (·.terminalityUnknown) || teardownError.isSome
  { s with heap := marcarYEncadenar callerCanc isUnknown teardownError s.heap }

def acabarFence (callerCanc : Option Nat) (cancelada : Bool) (s : Estado) : Estado × Respuesta :=
  let (t, exc) := lanzarDeFence callerCanc cancelada (cerrarFence s)
  match callerCanc, exc with
  | some c, exc => (propagarCancelacion c exc t, .cancelada c)
  | none, some e => (t, if cancelada then .cancelada e else .lanza e)
  | none, none => (t, .nada)

/-- `cancel` up to its first await. -/
def cancel (s : Estado) : Estado × Fase :=
  let responder (s : Estado) : Fase :=
    match s.teardownError with
    | some e => .acabada (.lanza e)
    | none => .acabada .nada
  let fence := (iniciarCancelacion s, Fase.fence none false)
  if s.teardownCompleto then (s, responder s)
  else
    match s.driver with
    | .hecho (.error e) =>
      if exceptionForbidsRollback s.heap e then
        ({ s with teardownError := some e, terminalityUnknown := true, confirmedTerminal := false,
                  teardownCompleto := true }, .acabada (.lanza e))
      else if s.resultado.done then (s, responder s)
      else fence
    | .hecho (.valor _) => if s.resultado.done then (s, responder s) else fence
    | _ => fence

/-! The driver, the termination and the cancellation -/

/-- A future of the job has a fence waiting on it: the driver's own, or the termination's. -/
def Estado.hayFence (s : Estado) : Bool :=
  match s.driver, s.terminacion with
  | .sale _, _ | .falla _, _ | _, .espera => true
  | _, _ => false

def pedirTerminacion (s : Estado) : Estado :=
  if s.terminacion = .no then { s with terminacion := .pide } else s

/-- The end of the driver's coroutine, with its `finally` up to the wait for the collector. -/
def decidir (d : Desenlace) (s : Estado) : Estado :=
  { s with driver := .limpia d, registrado := false, colector := false }

def conducir (s : Estado) : Option Estado :=
  match s.driver with
  | .espera =>
    match s.resultado with
    | .valor r => some { s with driver := .sale r }
    | .error e => some { s with driver := .falla e }
    | _ => none
  | .sale r =>
    match s.salida with
    | .valor _ => some (decidir (.valor r) s)
    | .error t => some { s with driver := .falla t }
    | _ => none
  | .falla e =>
    match s.salida with
    | .valor _ => some (decidir (.error e) s)
    | .error t =>
      some (decidir (.error e)
        { s with heap := marca (markUnknownTerminality (some t)) e (lanza t (some e) s.heap) })
    | _ => none
  | .cancela =>
    -- the builtin error that the new one is raised from has no mark and no links, and is left out
    match s.terminacion with
    | .hecha => some (decidir (.error s.heap.length) (s.nace (.de .jobTimeoutError .excedioPlazo) none))
    | .fallida t =>
      some (decidir (.error s.heap.length)
        (s.nace (markUnknownTerminality (some t) (.de .jobTimeoutError .excedioPlazo)) none))
    | .sinTracking e => some (decidir (.error e) s)
    | _ => none
  | .limpia d =>
    some { s with
      driver := .borra d, suscrito := false
      resultado := if s.resultado.done then s.resultado else .cancelado }
  | .borra d => some { s with driver := .hecho d }
  | .hecho _ => none

def terminar (s : Estado) : Option Estado :=
  match s.terminacion with
  | .pide =>
    if s.registrado then some { s with terminacion := .espera }
    else some { s.nace (.de .brokerError .sinTracking) none with terminacion := .sinTracking s.heap.length }
  | .espera =>
    match s.salida with
    | .valor _ => some { s with terminacion := .hecha }
    | .error t => some { s with terminacion := .fallida t }
    | _ => none
  | _ => none

/-- The end of `_cancelar_y_confirmar` when `_cancelar_job_de_sesion` returned. -/
def confirmar (s : Estado) : Estado :=
  let s := { s with confirmedTerminal := true, cancelacion := .hecha none }
  if s.resultado.done then s
  else { s.nace (.de .jobCancelledError .cancelado) none with resultado := .error s.heap.length }

/-- Its end when `_cancelar_job_de_sesion` raised. -/
def noConfirmar (e : Nat) (s : Estado) : Estado :=
  { s with
    terminalityUnknown := true, teardownError := some e, cancelacion := .hecha (some e)
    resultado := s.resultado.falla e }

/-- Whether the next step of the cancellation ends it as confirmed. -/
def Estado.confirmara (s : Estado) : Bool :=
  match s.cancelacion with
  | .empieza => !s.registrado
  | .espera =>
    match s.terminacion with
    | .hecha => true
    | .sinTracking _ => !s.registrado
    | _ => false
  | _ => false

def cancelarYConfirmar (s : Estado) : Option Estado :=
  if s.confirmara then some (confirmar s)
  else
    match s.cancelacion with
    | .empieza => some (pedirTerminacion { s with cancelacion := .espera })
    | .espera =>
      match s.terminacion with
      | .fallida e | .sinTracking e => some (noConfirmar e s)
      | _ => none
    | _ => none

/-! Steps -/

inductive Evento where
  | evento (e : VfsSessionEvent)
  | jobResult (r : VfsJobResult)
  | resultadoInvalido
  | workerExit (exitCode : Option Int)
  | launchError
  | cancelError
  | plazo
  | bridgePerdido
  | timeout
  | colector
  | driver
  | terminacion
  | cancelacion
  | llama (m : Metodo)
  | interrumpe (i : Nat)
  | entrega (i : Nat)
  | fence (i : Nat)
  deriving DecidableEq

def maxEventosDeSesion : Nat := 64

def Estado.responde (i : Nat) (fase : Fase) (s : Estado) : Estado :=
  { s with llamadas := s.llamadas.modify i fun c => { c with fase := fase } }

def interrumpir (i : Nat) (s : Estado) : Option Estado :=
  match s.llamadas[i]? with
  | some ⟨_, .espera⟩ =>
    some ((iniciarCancelacion (s.nace (.de .cancelledError .vacio) none)).responde i
      (.fence (some s.heap.length) false))
  | some ⟨_, .fence c _⟩ => some (s.responde i (.fence c true))
  | _ => none

def step (s : Estado) : Evento → Option Estado
  | .evento e =>
    if s.suscrito ∧ s.eventos.length < maxEventosDeSesion then
      some { s with eventos := s.eventos ++ [e], recibidos := s.recibidos ++ [e] }
    else none
  | .jobResult r =>
    if s.registrado ∧ s.resultado = .pendiente then some { s with resultado := .valor r } else none
  | .resultadoInvalido =>
    if s.registrado ∧ s.resultado = .pendiente then
      some { s.nace (.de .brokerError .resultadoInvalido) none with resultado := .error s.heap.length }
    else none
  | .workerExit exitCode =>
    if s.registrado then
      let t := { s with salida := s.salida.resuelve exitCode }
      if s.resultado = .pendiente ∧ s.terminacion = .no then
        some { t.nace (.de .brokerError (.sinResultado exitCode)) none with resultado := .error s.heap.length }
      else some t
    else none
  | .launchError =>
    if s.registrado ∧ s.resultado = .pendiente then
      some { s.nace (.de .brokerError .launchRechazado) none with
        resultado := .error s.heap.length, salida := s.salida.resuelve none }
    else none
  | .cancelError =>
    if s.registrado then
      some { s.nace (.de .teardownError .terminacionRechazada) none with
        salida := s.salida.falla s.heap.length, resultado := s.resultado.falla s.heap.length }
    else none
  | .plazo =>
    if s.hayFence ∧ s.salida = .pendiente then
      some { s.nace (.de .teardownError .sinConfirmarSalida) none with salida := .error s.heap.length }
    else none
  | .bridgePerdido =>
    if s.hayFence ∧ s.salida = .pendiente then some { s with salida := .valor none } else none
  | .timeout =>
    if s.driver = .espera then some (pedirTerminacion { s with driver := .cancela }) else none
  | .colector =>
    match s.colector, s.eventos with
    | true, e :: rest => some (recolectar e { s with eventos := rest })
    | _, _ => none
  | .driver => conducir s
  | .terminacion => terminar s
  | .cancelacion => cancelarYConfirmar s
  | .llama .cancel =>
    let (t, fase) := cancel s
    some { t with llamadas := t.llamadas ++ [⟨.cancel, fase⟩] }
  | .llama m => some { s with llamadas := s.llamadas ++ [⟨m, .espera⟩] }
  | .interrumpe i => interrumpir i s
  | .entrega i =>
    match s.llamadas[i]?, s.driver with
    | some ⟨m, .espera⟩, .hecho d =>
      let (t, r) := entregar m d s
      some (t.responde i (.acabada r))
    | _, _ => none
  | .fence i =>
    match s.llamadas[i]?, s.driver, s.cancelacion with
    | some ⟨_, .fence callerCanc cancelada⟩, .hecho _, .hecha _ =>
      let (t, r) := acabarFence callerCanc cancelada s
      some (t.responde i (.acabada r))
    | _, _, _ => none

/-- The driver has a failure in hand that forbids rollback. -/
def Estado.driverVetado (s : Estado) : Bool :=
  match s.driver with
  | .falla e | .limpia (.error e) | .borra (.error e) | .hecho (.error e) => exceptionForbidsRollback s.heap e
  | _ => false

/-- The driver's outcome, or the cancellation, was of unknown terminality. -/
def Estado.desconocida (s : Estado) : Bool :=
  (match s.driver with
    | .hecho (.error e) => exceptionForbidsRollback s.heap e
    | _ => false) ||
  match s.cancelacion with
  | .hecha (some _) => true
  | _ => false

end VfsSession
