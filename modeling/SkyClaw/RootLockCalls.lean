import SkyClaw.RootLockRecord
import SkyClaw.TransitionRuns

set_option linter.all false

/-!
One root lock under any interleaving of `acquire`, `release` and `assert_owned`: processes
are born and die, a pid comes back, a query may have no answer, and whatever touches the
record may fail. A file lock is exclusive per open file and ends with its process.
-/
namespace FrozenRootLock
open TransitionRuns

/-- What a clean-up does next. -/
inductive Limpieza where
  | desbloquea
  | cierra
  | hilo
  deriving DecidableEq

/-- How far an acquisition is, and then its handle. `deshace` is the `except` of the
acquisition, and `sucio` is whether a failed flush left data in the buffer. In `admitida`,
`viva` and `soltada` the last argument is ghost: whether the owner was alive, whether no
release has written, and what is left to give back. -/
inductive Fase where
  | pide
  | conHilo
  | identificada
  | abierta
  | bloqueada
  | leida (previo : Option RootLockMetadata)
  | admitida (liveness : Option OwnerLiveness) (duenoVivo : Bool)
  | escrita (m : RootLockMetadata)
  | deshace (e : LockError) (sucio : Bool) (queda : Limpieza)
  | viva (m : RootLockMetadata) (intacto : Bool)
  | soltada (m : RootLockMetadata) (queda : Option Limpieza)
  deriving DecidableEq

structure Sesion where
  proceso : Proceso
  reclaimOrphaned : Bool
  fase : Fase
  deriving DecidableEq

inductive Validacion where
  | valida
  | sondea
  | sondeado
  deriving DecidableEq

/-- Who calls `_validate_handle_ownership`. `releaseAjeno` is a `release` that does not find
its process to be the owner. -/
inductive Quien where
  | assertOwned
  | releaseAjeno
  | release
  deriving DecidableEq

inductive Tarea where
  | consulta
  | valida (quien : Quien) (v : Validacion)
  | escribe
  | finaliza (sucio : Bool)
  | limpia (sucio : Bool) (queda : Limpieza)
  deriving DecidableEq

/-- A call of `release` or of `assert_owned` on a handle. -/
structure Llamada where
  sesion : Nat
  proceso : Proceso
  tarea : Tarea
  deriving DecidableEq

/-- Who opened a file: an acquisition, or the probe of a validation. -/
inductive Origen where
  | sesion (id : Nat)
  | sonda (id : Nat)
  deriving DecidableEq

/-- A record that an acquisition has written over, with what it knew of its owner. -/
structure Toma where
  proceso : Proceso
  reclaimOrphaned : Bool
  previo : Option Bytes
  liveness : Option OwnerLiveness
  duenoVivo : Bool
  deriving DecidableEq

/-- `hilos` are the thread locks that are taken, and `activos` is `_ACTIVE_HANDLES`, each
with one entry per process. Ghosts are `soltando`, the handles with a `release` in progress;
`terminadas`, the acquisitions that raised and the handles with a `release` that ended; and
`tomas`. -/
structure Estado where
  archivo : Option Bytes
  candado : Option Origen
  descriptores : Origen → Option Proceso
  hilos : Proceso → Bool
  activos : Proceso → Option Nat
  sesiones : Nat → Option Sesion
  llamadas : Nat → Option Llamada
  vivos : List Proceso
  usados : List Proceso
  fallidas : List (Nat × LockError)
  soltando : List Nat
  terminadas : List Nat
  tomas : List Toma

def Estado.inicial : Estado :=
  ⟨none, none, fun _ => none, fun _ => false, fun _ => none, fun _ => none, fun _ => none, [], [], [],
    [], [], []⟩

/-- How a write of the record ends. One that fails may leave anything behind. -/
inductive Escritura where
  | ok
  | falla (queda : Bytes) (sucio : Bool)
  deriving DecidableEq

/-- What the environment answers to a step. `cierra` may flush what the buffer had left. -/
inductive Accion where
  | sigue
  | falla
  | consulta (consulta : Consulta)
  | escribe (sessionId : String) (now : Int) (escritura : Escritura)
  | libera (now : Int) (escritura : Escritura)
  | cierra (tardio : Option Bytes)
  deriving DecidableEq

inductive Evento where
  | nace (p : Proceso)
  | muere (p : Proceso)
  | acquire (id : Nat) (p : Proceso) (reclaimOrphaned : Bool)
  | release (id sesion : Nat)
  | assertOwned (id sesion : Nat)
  | sesion (id : Nat) (a : Accion)
  | llamada (id : Nat) (a : Accion)
  deriving DecidableEq

namespace Estado

def sigue (s : Estado) (id : Nat) (x : Sesion) : Estado :=
  { s with sesiones := Function.update s.sesiones id (some x) }

def avanza (s : Estado) (id : Nat) (c : Llamada) : Estado :=
  { s with llamadas := Function.update s.llamadas id (some c) }

/-- The acquisition raises and goes to its clean-up. -/
def cae (s : Estado) (id : Nat) (x : Sesion) (e : LockError) (sucio : Bool) (queda : Limpieza) :
    Estado :=
  s.sigue id { x with fase := .deshace e sucio queda }

def fracasa (s : Estado) (id : Nat) (e : LockError) : Estado :=
  { s with
    sesiones := Function.update s.sesiones id none
    fallidas := (id, e) :: s.fallidas
    terminadas := id :: s.terminadas }

/-! The three resources -/

def desbloquea (s : Estado) (o : Origen) : Estado :=
  { s with candado := if s.candado = some o then none else s.candado }

def abre (s : Estado) (o : Origen) (p : Proceso) : Estado :=
  { s with descriptores := Function.update s.descriptores o (some p) }

def cierra (s : Estado) (o : Origen) (tardio : Option Bytes) : Estado :=
  { s with
    archivo := tardio.or s.archivo
    descriptores := Function.update s.descriptores o none }

def sueltaHilo (s : Estado) (p : Proceso) : Estado :=
  { s with hilos := Function.update s.hilos p false }

end Estado

/-- What the file holds after a write. -/
def Escritura.deja (json : Json) (m : RootLockMetadata) : Escritura → Bytes
  | ok => serializa json m
  | falla queda _ => queda

section
variable (json : Json) (uuid : String → Option String) (root : CanonicalRoot)

/-- The record that an acquisition mints. -/
def fresca (p : Proceso) (sessionId : String) (now : Int) : RootLockMetadata :=
  ⟨lockSchemaVersion, root.val, sessionId, p.pid, p.createTime, now, .held, none⟩

/-- The answer of `psutil` about the owner of a record, and the gates. -/
def Estado.clasifica (s : Estado) (id : Nat) (x : Sesion) (m : RootLockMetadata)
    (consulta : Consulta) : Estado :=
  let liveness := checkProcessLiveness m.pid m.processCreateTime consulta
  let residuoLocal := isSameProcessStaleRecord m root x.proceso (s.activos x.proceso).isSome
  match admiteHeld m liveness residuoLocal x.reclaimOrphaned with
  | .error e => s.cae id x e false .desbloquea
  | .ok _ => s.sigue id { x with
      fase := .admitida (some liveness) (estaVivo s.vivos m.pid m.processCreateTime) }

def Estado.escribe (s : Estado) (id : Nat) (x : Sesion) (liveness : Option OwnerLiveness)
    (duenoVivo : Bool) (m : RootLockMetadata) (escritura : Escritura) : Estado :=
  let t := { s with
    archivo := some (escritura.deja json m)
    tomas := ⟨x.proceso, x.reclaimOrphaned, s.archivo, liveness, duenoVivo⟩ :: s.tomas }
  match escritura with
  | .ok => t.sigue id { x with fase := .escrita m }
  | .falla _ sucio => t.cae id x .persistencia sucio .desbloquea

/-- A step of `acquire_frozen_runtime_root_lock`. A call that waits for a lock has no step
while it waits. -/
def Estado.pasoSesion (s : Estado) (id : Nat) (x : Sesion) (a : Accion) : Option Estado :=
  match x.fase, a with
  | .pide, .sigue =>
    if s.hilos x.proceso then none
    else some ({ s with hilos := Function.update s.hilos x.proceso true }.sigue id
      { x with fase := .conHilo })
  | .pide, .falla => if s.hilos x.proceso then some (s.fracasa id .busyThread) else none
  | .conHilo, .sigue => some (s.sigue id { x with fase := .identificada })
  | .conHilo, .falla => some (s.cae id x .excepcion false .hilo)
  | .identificada, .sigue =>
    some (({ s with archivo := some (s.archivo.getD []) }.abre (.sesion id) x.proceso).sigue id
      { x with fase := .abierta })
  | .identificada, .falla => some (s.cae id x .excepcion false .hilo)
  | .abierta, .sigue =>
    if s.candado = none then
      some ({ s with candado := some (.sesion id) }.sigue id { x with fase := .bloqueada })
    else none
  | .abierta, .falla => some (s.cae id x .busyProcess false .desbloquea)
  | .bloqueada, .sigue =>
    match leerArchivo json uuid root s.archivo with
    | .error e => some (s.cae id x (.metadata e) false .desbloquea)
    | .ok previo => some (s.sigue id { x with fase := .leida previo })
  | .leida none, .sigue => some (s.sigue id { x with fase := .admitida none false })
  | .leida (some m), .sigue =>
    if m.phase = .released then some (s.sigue id { x with fase := .admitida none false }) else none
  | .leida (some m), .consulta consulta =>
    if m.phase = .held ∧ consulta.veraz s.vivos m.pid then some (s.clasifica root id x m consulta)
    else none
  | .admitida liveness duenoVivo, .escribe sessionId now escritura =>
    if uuid sessionId = some sessionId ∧ 0 < now then
      some (s.escribe json id x liveness duenoVivo (fresca root x.proceso sessionId now) escritura)
    else none
  | .escrita m, .sigue =>
    some ({ s with activos := Function.update s.activos x.proceso (some id) }.sigue id
      { x with fase := .viva m true })
  | .bloqueada, .falla => some (s.cae id x .excepcion false .desbloquea)
  | .leida _, .falla => some (s.cae id x .excepcion false .desbloquea)
  | .admitida _ _, .falla => some (s.cae id x .excepcion false .desbloquea)
  | .escrita _, .falla => some (s.cae id x .excepcion false .desbloquea)
  | .deshace e sucio .desbloquea, .sigue =>
    some ((s.desbloquea (.sesion id)).cae id x e sucio .cierra)
  | .deshace e sucio .cierra, .cierra tardio =>
    if tardio = none ∨ sucio then some ((s.cierra (.sesion id) tardio).cae id x e sucio .hilo)
    else none
  | .deshace e _ .hilo, .sigue => some ((s.sueltaHilo x.proceso).fracasa id e)
  | _, _ => none

/-- The checks of `_validate_handle_ownership` before the probe. -/
def Estado.esDueno (s : Estado) (id : Nat) : Bool :=
  match s.sesiones id with
  | some ⟨p, _, .viva m _⟩ =>
    (s.descriptores (.sesion id)).isSome && s.activos p = some id &&
      match leerArchivo json uuid root s.archivo with
      | .ok (some disco) => coincideEnDisco m disco
      | _ => false
  | _ => false

end

namespace Estado

def cuelga (s : Estado) (id : Nat) : Estado :=
  { s with llamadas := Function.update s.llamadas id none }

/-- A `release` ends, whether it returns or raises. -/
def termina (s : Estado) (id : Nat) (c : Llamada) : Estado :=
  { s.cuelga id with
    soltando := s.soltando.erase c.sesion
    terminadas := c.sesion :: s.terminadas }

/-- The validation ends. `sigue` is what a `release` by the owner does then. -/
def contesta (s : Estado) (id : Nat) (c : Llamada) (sigue : Tarea) : Quien → Estado
  | .assertOwned => s.cuelga id
  | .releaseAjeno => s.termina id c
  | .release => s.avanza id { c with tarea := sigue }

/-- The validation raises, which a `release` by the owner answers with its `finally`. -/
def rechaza (s : Estado) (id : Nat) (c : Llamada) (quien : Quien) : Estado :=
  s.contesta id c (.finaliza false) quien

def acepta (s : Estado) (id : Nat) (c : Llamada) (quien : Quien) : Estado :=
  s.contesta id c .escribe quien

/-- The `release` of a handle reads `_released`. -/
def empieza (s : Estado) (id : Nat) (c : Llamada) : Estado :=
  match s.sesiones c.sesion with
  | some ⟨_, _, .soltada _ _⟩ => s.termina id c
  | _ => s.avanza id { c with tarea := .valida .release .valida }

def libera (s : Estado) (json : Json) (id : Nat) (c : Llamada) (now : Int)
    (escritura : Escritura) : Estado :=
  match s.sesiones c.sesion with
  | some ⟨p, reclaim, .viva m _⟩ =>
    let t := { s with archivo := some (escritura.deja json (m.liberada now)) }
    let sucio := match escritura with
      | .ok => false
      | .falla _ sucio => sucio
    (t.sigue c.sesion ⟨p, reclaim, .viva m false⟩).avanza id { c with tarea := .finaliza sucio }
  | _ => s.avanza id { c with tarea := .finaliza false }

end Estado

/-- `_released` is set, and this is left to give back. -/
def Fase.suelta (queda : Option Limpieza) : Fase → Fase
  | .viva m _ => .soltada m queda
  | .soltada m _ => .soltada m queda
  | fase => fase

def Estado.marca (s : Estado) (sesion : Nat) (queda : Option Limpieza) : Estado :=
  match s.sesiones sesion with
  | some x => s.sigue sesion { x with fase := x.fase.suelta queda }
  | none => s

/-- The `finally` of `release`, up to its file. -/
def Estado.finaliza (s : Estado) (id : Nat) (c : Llamada) (sucio : Bool) : Estado :=
  let t := if s.activos c.proceso = some c.sesion then
    { s with activos := Function.update s.activos c.proceso none } else s
  let queda : Limpieza := if (s.descriptores (.sesion c.sesion)).isSome then .desbloquea else .hilo
  (t.marca c.sesion (some queda)).avanza id { c with tarea := .limpia sucio queda }

section
variable (json : Json) (uuid : String → Option String) (root : CanonicalRoot)

/-- A step of `release` or of `assert_owned`. -/
def Estado.pasoLlamada (s : Estado) (id : Nat) (c : Llamada) (a : Accion) : Option Estado :=
  match c.tarea, a with
  | .consulta, .sigue => some (s.empieza id c)
  | .consulta, .falla => some (s.avanza id { c with tarea := .valida .releaseAjeno .valida })
  | .valida quien .valida, .sigue =>
    if s.esDueno json uuid root c.sesion then
      some (s.avanza id { c with tarea := .valida quien .sondea })
    else some (s.rechaza id c quien)
  | .valida quien .valida, .falla => some (s.rechaza id c quien)
  | .valida quien .sondea, .sigue =>
    if s.candado = none then
      some (({ s with candado := some (.sonda id) }.abre (.sonda id) c.proceso).avanza id
        { c with tarea := .valida quien .sondeado })
    else some (s.acepta id c quien)
  | .valida quien .sondea, .falla => some (s.rechaza id c quien)
  | .valida quien .sondeado, .sigue =>
    some (((s.desbloquea (.sonda id)).cierra (.sonda id) none).rechaza id c quien)
  | .escribe, .libera now escritura => some (s.libera json id c now escritura)
  | .finaliza sucio, .sigue => some (s.finaliza id c sucio)
  | .limpia sucio .desbloquea, .sigue =>
    some (((s.desbloquea (.sesion c.sesion)).marca c.sesion (some .cierra)).avanza id
      { c with tarea := .limpia sucio .cierra })
  | .limpia sucio .cierra, .cierra tardio =>
    if tardio = none ∨ sucio then
      some (((s.cierra (.sesion c.sesion) tardio).marca c.sesion (some .hilo)).avanza id
        { c with tarea := .limpia sucio .hilo })
    else none
  | .limpia _ .hilo, .sigue =>
    some (((s.sueltaHilo c.proceso).marca c.sesion none).termina id c)
  | _, _ => none

/-- A process is born with an identity that no other has had, and its pid is free. -/
def Estado.nace (s : Estado) (p : Proceso) : Option Estado :=
  if 0 < p.pid ∧ 0 < p.createTime ∧ (s.vivos.all fun q => q.pid ≠ p.pid) ∧
      s.usados.all fun q => ¬(q.pid = p.pid ∧ cerca q.createTime p.createTime) then
    some { s with vivos := p :: s.vivos, usados := p :: s.usados }
  else none

/-- The kernel closes the files of a process that dies. -/
def Estado.muere (s : Estado) (p : Proceso) : Estado :=
  { s with
    candado := s.candado.filter fun o => s.descriptores o ≠ some p
    descriptores := fun o => (s.descriptores o).filter fun q => q ≠ p
    hilos := Function.update s.hilos p false
    activos := Function.update s.activos p none
    sesiones := fun i => (s.sesiones i).filter fun x => x.proceso ≠ p
    llamadas := fun i => (s.llamadas i).filter fun c => c.proceso ≠ p
    vivos := s.vivos.filter fun q => q ≠ p
    soltando := s.soltando.filter fun i => (s.sesiones i).all fun x => x.proceso ≠ p }

/-- A handle, whether it was released or not. -/
def Fase.esHandle : Fase → Bool
  | viva _ _ => true
  | soltada _ _ => true
  | _ => false

/-- A thread calls a method of a handle of its process. -/
def Estado.llama (s : Estado) (id sesion : Nat) (tarea : Tarea) : Option Estado :=
  match s.llamadas id, s.sesiones sesion with
  | none, some x =>
    if x.fase.esHandle then some (s.avanza id ⟨sesion, x.proceso, tarea⟩) else none
  | _, _ => none

def step (s : Estado) : Evento → Option Estado
  | .nace p => s.nace p
  | .muere p => some (s.muere p)
  | .acquire id p reclaimOrphaned =>
    if p ∈ s.vivos ∧ s.sesiones id = none ∧ id ∉ s.terminadas then
      some (s.sigue id ⟨p, reclaimOrphaned, .pide⟩)
    else none
  | .release id sesion =>
    (s.llama id sesion .consulta).map fun t => { t with soltando := sesion :: t.soltando }
  | .assertOwned id sesion => s.llama id sesion (.valida .assertOwned .valida)
  | .sesion id a => (s.sesiones id).bind fun x => s.pasoSesion json uuid root id x a
  | .llamada id a => (s.llamadas id).bind fun c => s.pasoLlamada json uuid root id c a

end

end FrozenRootLock
