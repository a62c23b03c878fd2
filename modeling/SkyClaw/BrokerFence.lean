import Mathlib.Logic.Function.Basic
import SkyClaw.TaskTables
import SkyClaw.TransitionRuns

set_option linter.all false

/-!
The fence of the broker: the jobs of one instance take its lock in turn, and a
job that was launched keeps it until its worker is known to be over. Bridge,
workers, clock and callers act between any two steps. A session or `close` may
ask for the termination of the job that is registered, so its fence may begin
at any time. The mark of a quarantine is on disk as soon as it is set.
-/
namespace BrokerFence
open TaskTables TransitionRuns

structure Plazos where
  fenceGrace : Nat
  connectedDeadline : Nat
  replayGrace : Nat

/-- The future of `worker_exit`. -/
inductive Salida where
  | pendiente
  | resuelta
  | fallida
  deriving DecidableEq

/-- What a turn of the loop waits for, with how often the bridge had been lost, or ready, before. -/
inductive Vigilia where
  | itera
  | conectado (lostCount hasta : Nat)
  | caido (connectCount hasta : Nat)
  deriving DecidableEq

/-- A task in the loop over `_await_exit_or_bridge_loss`. `_await_worker_exit` fixes the limit of a
lost bridge when it begins, `_await_job_completion` does not. -/
structure Espera where
  inicio : Nat
  limiteFijo : Bool
  vigilia : Vigilia
  deriving DecidableEq

/-- Where `submit`, or the driver of a session, is. -/
inductive Fase where
  | esperaLock
  | prepara
  -- registered, the driver of a session has not begun
  | arranca
  -- with the bridge connection that `_send_bridge` took before the write lock
  | envia (conexion : Nat)
  | drena
  | espera
  | completa
  | falla
  | cancela
  | limpia (veta : Bool)
  | fin (veta : Bool)
  deriving DecidableEq

/-- Where the caller of `open_session` is; in the teardown, whether the exception it raises
afterwards forbids rollback by itself, and whether it was cancelled again. -/
inductive Apertura where
  | submit
  | espera
  | fence (veta cancelada : Bool)
  | abierta
  | fallida
  deriving DecidableEq

structure Corrida where
  job : String
  fase : Fase
  apertura : Apertura
  -- the future of the result, and whether it is one
  resultado : Option Bool
  salida : Salida
  -- there is a task in `_termination_tasks`
  terminando : Bool
  esperas : List Espera
  replayDeadline : Option Nat
  -- since its launch frame was written
  lanzada : Bool
  workerExit : Bool
  rechazada : Bool
  gracia : Bool
  deriving DecidableEq

structure Estado where
  ahora : Nat
  -- the connection of `_bridge_writer`, and whether its handler has still to declare it ready
  bridgeWriter : Option Nat
  bridgeClosing : Bool
  bridgeHellos : Nat
  helloAck : Bool
  bridgeReady : Bool
  bridgeLost : Bool
  lostCount : Nat
  connectCount : Nat
  connectedAt : Option Nat
  -- since when the bridge is not ready, if it is not
  lostAt : Nat
  -- the job that the mark names, if it names one
  quarantine : Option (Option String)
  lock : Bool
  corridas : List Corrida
  deriving DecidableEq

def Estado.inicial (quarantine : Option (Option String)) : Estado where
  ahora := 0
  bridgeWriter := none
  bridgeClosing := false
  bridgeHellos := 0
  helloAck := false
  bridgeReady := false
  bridgeLost := false
  lostCount := 0
  connectCount := 0
  connectedAt := none
  lostAt := 0
  quarantine := quarantine
  lock := false
  corridas := []

def Corrida.nueva (job : String) (apertura : Apertura) : Corrida where
  job := job
  fase := .esperaLock
  apertura := apertura
  resultado := none
  salida := .pendiente
  terminando := false
  esperas := []
  replayDeadline := none
  lanzada := false
  workerExit := false
  rechazada := false
  gracia := false

/-- The lock is of this run. -/
def Corrida.dentro (c : Corrida) : Bool :=
  match c.fase with
  | .esperaLock | .fin _ => false
  | _ => true

/-- The job has its futures in the maps of the broker. -/
def Corrida.registrada (c : Corrida) : Bool :=
  match c.fase with
  | .esperaLock | .prepara | .limpia _ | .fin _ => false
  | _ => true

/-- Between the check of the quarantine and the launch frame. -/
def Corrida.porLanzar (c : Corrida) : Bool :=
  match c.fase with
  | .prepara | .arranca | .envia _ => true
  | _ => false

/-- What lets go of a launched job without a veto. -/
def Corrida.segura (c : Corrida) : Bool := c.workerExit || c.rechazada || c.gracia

def Estado.cambia (s : Estado) (i : Nat) (f : Corrida → Corrida) : Estado :=
  { s with corridas := s.corridas.modify i f }

def Salida.resuelve : Salida → Salida
  | .pendiente => .resuelta
  | x => x

def Salida.falla : Salida → Salida
  | .pendiente => .fallida
  | x => x

/-! The fence -/

def Estado.bridgeConnected (s : Estado) : Bool := s.bridgeReady && !s.bridgeLost

variable (p : Plazos)

/-- The deadline in force, with the window that a reconnected bridge gets to repeat its events. -/
def effectiveDeadline (s : Estado) (c : Corrida) (e : Espera) : Nat × Option Nat :=
  let deadline := e.inicio + p.connectedDeadline
  let isReconnect := decide (1 < s.connectCount) || (s.connectedAt).any (deadline ≤ ·)
  let replay :=
    match c.replayDeadline, s.connectedAt with
    | none, some at_ => if deadline ≤ s.ahora ∧ isReconnect then some (at_ + p.replayGrace) else none
    | replay, _ => replay
  (replay.getD deadline, replay)

def lossDeadline (s : Estado) (e : Espera) : Nat :=
  if e.limiteFijo then e.inicio + p.fenceGrace else s.ahora + p.fenceGrace

/-- The worker did not confirm its exit with the bridge connected. -/
def vencer (i : Nat) (c : Corrida) (s : Estado) : Estado :=
  { s.cambia i fun c => { c with salida := .fallida } with quarantine := some (some c.job) }

/-- The bridge did not come back: the worker is taken for dead. -/
def asumir (i : Nat) (s : Estado) : Estado :=
  s.cambia i fun c => { c with
    salida := .resuelta, gracia := c.gracia || decide (s.lostAt + p.fenceGrace ≤ s.ahora) }

def vigilar (i k : Nat) (vigilia : Vigilia) (s : Estado) : Estado :=
  s.cambia i fun c => { c with esperas := c.esperas.modify k fun e => { e with vigilia := vigilia } }

/-- One turn of the loop, up to what it waits for. -/
def iterar (i k : Nat) (c : Corrida) (e : Espera) (s : Estado) : Estado :=
  if s.bridgeConnected then
    let (limit, replay) := effectiveDeadline p s c e
    let t := s.cambia i fun c => { c with replayDeadline := replay }
    if limit ≤ s.ahora then vencer i c t else vigilar i k (.conectado s.lostCount limit) t
  else
    let limit := lossDeadline p s e
    if limit ≤ s.ahora then asumir p i s else vigilar i k (.caido s.connectCount limit) s

/-- The end of what it waits for, at the limit, if the bridge did not come or go meanwhile. -/
def despertar (i : Nat) (c : Corrida) (e : Espera) (s : Estado) : Option Estado :=
  match e.vigilia with
  | .conectado count limit =>
    if limit ≤ s.ahora ∧ s.bridgeConnected ∧ s.lostCount = count then some (vencer i c s) else none
  | .caido count limit =>
    if limit ≤ s.ahora ∧ s.bridgeReady = false ∧ s.connectCount = count then some (asumir p i s) else none
  | .itera => none

def Corrida.conEspera (ahora : Nat) (limiteFijo : Bool) (c : Corrida) : Corrida :=
  { c with esperas := c.esperas ++ [⟨ahora, limiteFijo, .itera⟩] }

/-! The run of a job -/

/-- An exception after the launch: it waits for the exit. -/
def Corrida.fallar (ahora : Nat) (c : Corrida) : Corrida := { c with fase := .falla }.conEspera ahora true

/-- The fence of `_await_job_completion`, the only one without a fixed limit, ends here. -/
def Corrida.cancelar (c : Corrida) : Corrida :=
  { c with fase := .cancela, terminando := true, esperas := c.esperas.filter (·.limiteFijo) }

/-- `_send_bridge` takes the connection, or raises. What it raises is not waited for. -/
def Corrida.enviar (s : Estado) (c : Corrida) : Corrida :=
  match s.bridgeWriter, s.bridgeClosing with
  | some n, false => { c with fase := .envia n }
  | _, _ => { c with fase := .limpia false }

def recibir (ahora : Nat) (c : Corrida) : Option Corrida :=
  match c.fase, c.resultado with
  | .espera, some true => some ({ c with fase := .completa }.conEspera ahora false)
  | .espera, some false => some (c.fallar ahora)
  | _, _ => none

def decidir (c : Corrida) : Option Corrida :=
  match c.fase, c.salida with
  | .completa, .resuelta => some { c with fase := .limpia false }
  | .completa, .fallida => some { c with fase := .falla }
  | .falla, .resuelta | .cancela, .resuelta => some { c with fase := .limpia false }
  | .falla, .fallida | .cancela, .fallida => some { c with fase := .limpia true }
  | _, _ => none

/-- A cancellation of the task in `submit`. Nothing waits for the launch that it interrupts. -/
def interrumpir (c : Corrida) : Option Corrida :=
  match c.apertura, c.fase with
  | .submit, .envia _ | .submit, .drena => some { c with fase := .limpia false }
  | .submit, .espera | .submit, .completa => some c.cancelar
  | _, _ => none

def interrumpirApertura (c : Corrida) : Option Corrida :=
  match c.apertura, c.fase with
  | _, .esperaLock | _, .prepara => none
  | .espera, _ => some { c with apertura := .fence false false }
  | .fence veta _, _ => some { c with apertura := .fence veta true }
  | _, _ => none

/-- What `open_session` raises at the end of its teardown: a cancellation of the teardown is
suppressed, with the error it carries. -/
def vetaDeApertura (veta cancelada driver : Bool) : Bool := if cancelada then veta else veta || driver

/-! What the bridge says -/

def alJob (job : String) (f : Corrida → Corrida) (s : Estado) : Estado :=
  { s with corridas := s.corridas.map fun c => if c.job = job then f c else c }

def workerExit (job : String) (s : Estado) : Estado :=
  let t := alJob job (fun c => { c with
    workerExit := c.workerExit || c.lanzada
    salida := if c.registrada then c.salida.resuelve else c.salida
    resultado := if c.registrada && !c.terminando then c.resultado.or (some false) else c.resultado }) s
  { t with quarantine := if s.quarantine = some (some job) then none else s.quarantine }

/-- The launch was refused. After the result, the message is an error of the bridge. -/
def launchError (job : String) (s : Estado) : Estado :=
  alJob job (fun c =>
    if c.registrada && c.resultado.isNone then { c with
      rechazada := c.rechazada || c.lanzada
      salida := c.salida.resuelve
      resultado := some false }
    else c) s

def cancelError (job : String) (s : Estado) : Estado :=
  let t := alJob job (fun c =>
    if c.registrada then { c with
      salida := c.salida.falla
      resultado := c.resultado.or (some false) }
    else c) s
  { t with quarantine := some (some job) }

inductive Evento where
  | tick (ticks : Nat)
  | bridgeHello
  | bridgeReady
  | bridgeCloses
  | bridgeLost
  | submit (job : String)
  | openSession (job : String)
  | adquiere (i : Nat)
  | abandona (i : Nat)
  | registra (i : Nat)
  | arranca (i : Nat)
  | lanza (i : Nat)
  | noEnvia (i : Nat)
  | drenada (i : Nat)
  | noDrena (i : Nat)
  | jobResult (i : Nat) (valido : Bool)
  | recibe (i : Nat)
  | timeout (i : Nat)
  | interrumpe (i : Nat)
  | pideTermino (i : Nat)
  | termina (i : Nat)
  | itera (i k : Nat)
  | despierta (i k : Nat)
  | vence (i k : Nat)
  | decide (i : Nat)
  | libera (i : Nat)
  | toolStarted (i : Nat)
  | aperturaFalla (i : Nat) (protocolo : Bool)
  | interrumpeApertura (i : Nat)
  | acabaApertura (i : Nat)
  | workerExit (job : String)
  | launchError (job : String)
  | cancelError (job : String)
  deriving DecidableEq

def step (s : Estado) : Evento → Option Estado
  | .tick ticks => some { s with ahora := s.ahora + ticks }
  | .bridgeHello =>
    if s.bridgeWriter.isSome && !s.bridgeClosing then none
    else some { s with
      bridgeWriter := some s.bridgeHellos, bridgeHellos := s.bridgeHellos + 1
      bridgeClosing := false, helloAck := true }
  | .bridgeReady =>
    if s.helloAck then
      some { s with
        connectCount := s.connectCount + 1, connectedAt := some s.ahora
        helloAck := false, bridgeReady := true, bridgeLost := false }
    else none
  | .bridgeCloses => if s.bridgeWriter.isSome then some { s with bridgeClosing := true } else none
  | .bridgeLost =>
    if s.bridgeWriter.isSome then
      some { s with
        bridgeWriter := none, bridgeClosing := false, helloAck := false
        bridgeReady := false, bridgeLost := true, lostCount := s.lostCount + 1
        lostAt := if s.bridgeReady then s.ahora else s.lostAt }
    else none
  | .submit job =>
    if s.quarantine.isSome then some s
    else some { s with corridas := s.corridas ++ [.nueva job .submit] }
  | .openSession job =>
    if s.quarantine.isSome then some s
    else some { s with corridas := s.corridas ++ [.nueva job .espera] }
  | .adquiere i =>
    match s.corridas[i]? with
    | some c =>
      if c.fase = .esperaLock ∧ s.lock = false then
        if s.quarantine.isSome then some (s.cambia i fun c => { c with fase := .fin false, apertura := .fallida })
        else some { s.cambia i fun c => { c with fase := .prepara } with lock := true }
      else none
    | none => none
  | .abandona i =>
    match s.corridas[i]? with
    | some c =>
      match c.fase with
      | .esperaLock => some (s.cambia i fun c => { c with fase := .fin false, apertura := .fallida })
      | .prepara =>
        some { s.cambia i fun c => { c with fase := .fin false, apertura := .fallida } with lock := false }
      | _ => none
    | none => none
  | .registra i =>
    match s.corridas[i]? with
    | some c =>
      if c.fase = .prepara then
        some (s.cambia i fun c => if c.apertura = .submit then c.enviar s else { c with fase := .arranca })
      else none
    | none => none
  | .arranca i =>
    match s.corridas[i]? with
    | some c => if c.fase = .arranca then some (s.cambia i (·.enviar s)) else none
    | none => none
  | .lanza i =>
    match s.corridas[i]? with
    | some c =>
      match c.fase with
      | .envia n =>
        if s.bridgeWriter = some n ∧ s.bridgeClosing = false then
          some (s.cambia i fun c => { c with fase := .drena, lanzada := true })
        else none
      | _ => none
    | none => none
  | .noEnvia i =>
    match s.corridas[i]? with
    | some c =>
      match c.fase with
      | .envia _ => some (s.cambia i fun c => { c with fase := .limpia false })
      | _ => none
    | none => none
  | .drenada i =>
    match s.corridas[i]? with
    | some c => if c.fase = .drena then some (s.cambia i fun c => { c with fase := .espera }) else none
    | none => none
  | .noDrena i =>
    match s.corridas[i]? with
    | some c => if c.fase = .drena then some (s.cambia i fun c => { c with fase := .limpia false }) else none
    | none => none
  | .jobResult i valido =>
    match s.corridas[i]? with
    | some c =>
      if c.registrada ∧ c.resultado = none then some (s.cambia i fun c => { c with resultado := some valido }) else none
    | none => none
  | .recibe i => (s.corridas[i]?).bind fun c => (recibir s.ahora c).map fun d => s.cambia i fun _ => d
  | .timeout i =>
    match s.corridas[i]? with
    | some c => if c.fase = .espera then some (s.cambia i (·.cancelar)) else none
    | none => none
  | .interrumpe i => (s.corridas[i]?).bind fun c => (interrumpir c).map fun d => s.cambia i fun _ => d
  | .pideTermino i =>
    match s.corridas[i]? with
    | some c => if c.registrada then some (s.cambia i fun c => { c with terminando := true }) else none
    | none => none
  | .termina i =>
    match s.corridas[i]? with
    | some c => if c.registrada then some (s.cambia i (·.conEspera s.ahora true)) else none
    | none => none
  | .itera i k =>
    match s.corridas[i]? with
    | some c =>
      match c.esperas[k]? with
      | some e =>
        if e.vigilia = .itera ∧ c.salida = .pendiente then some (iterar p i k c e s) else none
      | none => none
    | none => none
  | .despierta i k => (s.corridas[i]?).map fun _ => vigilar i k .itera s
  | .vence i k =>
    match s.corridas[i]? with
    | some c =>
      match c.esperas[k]? with
      | some e => if c.salida = .pendiente then despertar p i c e s else none
      | none => none
    | none => none
  | .decide i => (s.corridas[i]?).bind fun c => (decidir c).map fun d => s.cambia i fun _ => d
  | .libera i =>
    match s.corridas[i]? with
    | some c =>
      match c.fase with
      | .limpia veta => some { s.cambia i fun c => { c with fase := .fin veta } with lock := false }
      | _ => none
    | none => none
  | .toolStarted i =>
    match s.corridas[i]? with
    | some c =>
      if c.apertura = .espera ∧ c.lanzada then some (s.cambia i fun c => { c with apertura := .abierta }) else none
    | none => none
  | .aperturaFalla i protocolo =>
    match s.corridas[i]? with
    | some c =>
      match c.apertura, c.fase with
      | .espera, .fin veta =>
        some (s.cambia i fun c => { c with apertura := .fence (veta && !protocolo) false })
      | _, _ => none
    | none => none
  | .interrumpeApertura i =>
    (s.corridas[i]?).bind fun c => (interrumpirApertura c).map fun d => s.cambia i fun _ => d
  | .acabaApertura i =>
    match s.corridas[i]? with
    | some c =>
      match c.apertura, c.fase with
      | .fence _ _, .fin _ => some (s.cambia i fun c => { c with apertura := .fallida })
      | _, _ => none
    | none => none
  | .workerExit job => some (workerExit job s)
  | .launchError job => some (launchError job s)
  | .cancelError job => some (cancelError job s)

end BrokerFence
