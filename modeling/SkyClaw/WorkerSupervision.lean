import Mathlib.Logic.Function.Basic
import SkyClaw.TaskTables
import SkyClaw.TransitionRuns

set_option linter.all false

/-!
The supervision fence of the broker. A worker is born running; it creates
nothing until the broker sends it `supervised`, once the bridge has
acknowledged the launch. The acknowledgement, the hello of the worker and the
wait for the write lock are on different tasks. A task that waits for the lock
goes on in a step of its own.
-/
namespace WorkerSupervision
open TaskTables TransitionRuns

/-- An entry of `_pending` and of `_job_objects`; `done` is that of the future. -/
structure Registro where
  numero : Nat
  jobObject : String
  done : Bool
  deriving DecidableEq

/-- A worker's connection, with the registration of the job when its hello was taken. -/
structure Conexion where
  job : String
  jobObject : String
  registro : Nat
  closing : Bool
  deriving DecidableEq

inductive Fase where
  | espera
  | escribe
  | terminada
  deriving DecidableEq

/-- A task in `_autorizar_worker_si_corresponde`, past the mark it leaves before its first await. -/
structure Autorizacion where
  job : String
  writer : Nat
  registro : Nat
  fase : Fase
  deriving DecidableEq

/-- A task of `_request_termination_and_wait`. -/
structure Terminacion where
  job : String
  registro : Nat
  viva : Bool
  deriving DecidableEq

structure Estado where
  contador : Nat
  pending : String → Option Registro
  launchAcked : String → Bool
  supervisedSent : String → Bool
  -- the job is in `_termination_tasks`
  terminando : String → Bool
  workerByJob : String → Option Nat
  conexiones : List Conexion
  autorizaciones : List Autorizacion
  terminaciones : List Terminacion
  -- since the job was registered: the names acknowledged, and whether a cancel frame was written
  acks : String → List (Option String)
  cancelado : String → Bool
  -- the connections that got `supervised`, one entry for each frame
  supervisados : List Nat

def Estado.vacio : Estado where
  contador := 0
  pending _ := none
  launchAcked _ := false
  supervisedSent _ := false
  terminando _ := false
  workerByJob _ := none
  conexiones := []
  autorizaciones := []
  terminaciones := []
  acks _ := []
  cancelado _ := false
  supervisados := []

def isClosing (s : Estado) (writer : Nat) : Bool := (s.conexiones[writer]?).all (·.closing)

def close (writer : Nat) (s : Estado) : Estado :=
  { s with conexiones := s.conexiones.modify writer fun c => { c with closing := true } }

def supervisionVigente (s : Estado) (job : String) (writer : Option Nat) : Bool :=
  match s.pending job, writer with
  | some r, some w => !r.done && !s.terminando job && s.workerByJob job == some w && !isClosing s w
  | _, _ => false

/-- Up to the wait for the write lock. -/
def autorizarWorkerSiCorresponde (job : String) (s : Estado) : Estado :=
  if !s.launchAcked job || s.supervisedSent job then s
  else
    match s.workerByJob job, s.pending job with
    | some w, some r =>
      if supervisionVigente s job (some w) then
        { s with
          supervisedSent := Function.update s.supervisedSent job true
          autorizaciones := s.autorizaciones ++ [⟨job, w, r.numero, .espera⟩] }
      else s
    | _, _ => s

def denegarSupervision (job : String) (s : Estado) : Estado :=
  let s := { s with launchAcked := Function.update s.launchAcked job false }
  match s.workerByJob job with
  | some w => close w s
  | none => s

def registrarLaunchAck (job : String) (jobObject : Option String) (s : Estado) : Estado :=
  match s.pending job with
  | none => s
  | some r =>
    let s := { s with acks := Function.update s.acks job (jobObject :: s.acks job) }
    if r.done || s.terminando job then s
    else if jobObject ≠ some r.jobObject then denegarSupervision job s
    else autorizarWorkerSiCorresponde job { s with launchAcked := Function.update s.launchAcked job true }

def registrarJob (job jobObject : String) (s : Estado) : Estado :=
  { s with
    contador := s.contador + 1
    pending := Function.update s.pending job (some ⟨s.contador, jobObject, false⟩)
    acks := Function.update s.acks job []
    cancelado := Function.update s.cancelado job false }

def limpiarRegistro (job : String) (s : Estado) : Estado :=
  { s with
    pending := Function.update s.pending job none
    launchAcked := Function.update s.launchAcked job false
    supervisedSent := Function.update s.supervisedSent job false
    terminando := Function.update s.terminando job false }

def resolver (job : String) (r : Registro) (s : Estado) : Estado :=
  { s with pending := Function.update s.pending job (some { r with done := true }) }

inductive Evento where
  | registra (job jobObject : String)
  | resuelve (job : String)
  | launchError (job : String)
  | limpia (job : String)
  | hello (job jobObject : String)
  | helloAck (writer : Nat)
  | cierra (writer : Nat)
  | desconecta (writer : Nat)
  | launchAck (job : String) (jobObject : Option String)
  | escribe (autorizacion : Nat)
  | drena (autorizacion : Nat)
  | falla (autorizacion : Nat)
  | cancela (job : String)
  | cancelFrame (terminacion : Nat)
  | terminada (terminacion : Nat)
  deriving DecidableEq

def Estado.fase (s : Estado) (i : Nat) (fase : Fase) : Estado :=
  { s with autorizaciones := s.autorizaciones.modify i fun a => { a with fase := fase } }

def step (s : Estado) : Evento → Option Estado
  | .registra job jobObject => if s.pending job = none then some (registrarJob job jobObject s) else none
  | .resuelve job =>
    match s.pending job with
    | some r => if r.done then none else some (resolver job r s)
    | none => none
  | .launchError job =>
    match s.pending job with
    | some r => if r.done then none else some (denegarSupervision job (resolver job r s))
    | none => none
  | .limpia job => if s.pending job = none then none else some (limpiarRegistro job s)
  | .hello job jobObject =>
    -- a hello for another job, or with another name, is rejected
    match s.pending job with
    | some r =>
      if jobObject = r.jobObject then
        some { s with
          conexiones := s.conexiones ++ [⟨job, jobObject, r.numero, false⟩]
          workerByJob := Function.update s.workerByJob job (some s.conexiones.length) }
      else some s
    | none => some s
  | .helloAck writer => (s.conexiones[writer]?).map fun c => autorizarWorkerSiCorresponde c.job s
  | .cierra writer => some (close writer s)
  | .desconecta writer =>
    (s.conexiones[writer]?).map fun c =>
      if s.workerByJob c.job = some writer then
        close writer { s with workerByJob := Function.update s.workerByJob c.job none }
      else close writer s
  | .launchAck job jobObject => some (registrarLaunchAck job jobObject s)
  | .escribe i =>
    match s.autorizaciones[i]? with
    | some ⟨job, writer, _, .espera⟩ =>
      if supervisionVigente s job (some writer) then
        some { s.fase i .escribe with supervisados := s.supervisados ++ [writer] }
      else some (s.fase i .terminada)
    | _ => none
  | .drena i =>
    match s.autorizaciones[i]? with
    | some ⟨_, _, _, .escribe⟩ => some (s.fase i .terminada)
    | _ => none
  | .falla i =>
    match s.autorizaciones[i]? with
    | some ⟨job, writer, _, .escribe⟩ =>
      -- the frame did not drain: the connection is lost
      some (close writer
        { s.fase i .terminada with supervisedSent := Function.update s.supervisedSent job false })
    | _ => none
  | .cancela job =>
    match s.pending job with
    | some r =>
      if s.terminando job then some s
      else some { s with
        terminando := Function.update s.terminando job true
        terminaciones := s.terminaciones ++ [⟨job, r.numero, true⟩] }
    | none => none
  | .cancelFrame k =>
    match s.terminaciones[k]? with
    | some ⟨job, _, true⟩ => some { s with cancelado := Function.update s.cancelado job true }
    | _ => none
  | .terminada k =>
    match s.terminaciones[k]? with
    | some ⟨_, _, true⟩ => some { s with
        terminaciones := s.terminaciones.modify k fun t => { t with viva := false } }
    | _ => none

/-- What has to hold for the broker to write `supervised` for `job` on the connection `writer`. -/
structure Supervisable (s : Estado) (job : String) (writer : Nat) : Prop where
  registro : ∃ r, s.pending job = some r ∧ r.done = false ∧ some r.jobObject ∈ s.acks job ∧
    ∃ c, s.conexiones[writer]? = some c ∧ c.job = job ∧ c.jobObject = r.jobObject
  worker : s.workerByJob job = some writer
  cancelado : s.cancelado job = false
  una : writer ∉ s.supervisados

/-- Whatever the step from `s` writes, it may write. -/
def Supervisada (s : Estado) (e : Evento) (t : Estado) : Prop :=
  t.supervisados = s.supervisados ∨
    ∃ i a, e = .escribe i ∧ s.autorizaciones[i]? = some a ∧ t.supervisados = s.supervisados ++ [a.writer] ∧
      Supervisable s a.job a.writer

/-- Nothing left by an earlier registration of the job acts on the current one: `supervised` goes
to a connection accepted since, and neither a cancel frame nor a lost write is of an earlier one. -/
def permite (s : Estado) : Evento → Bool
  | .escribe i =>
    match s.autorizaciones[i]? with
    | some a =>
      !supervisionVigente s a.job (some a.writer) ||
        (s.conexiones[a.writer]?).map (·.registro) == (s.pending a.job).map (·.numero)
    | none => true
  | .falla i =>
    match s.autorizaciones[i]? with
    | some a => (s.pending a.job).all (·.numero == a.registro)
    | none => true
  | .cancelFrame k =>
    match s.terminaciones[k]? with
    | some t => (s.pending t.job).all (·.numero == t.registro)
    | none => true
  | _ => true

def permitido (s : Estado) (e : Evento) : Prop := permite s e = true

end WorkerSupervision
