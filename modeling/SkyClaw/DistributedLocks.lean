import Mathlib
import SkyClaw.KeyedRows
import SkyClaw.TransitionRuns

set_option linter.all false

/-!
The lease table and the `DistributedLockManager` calls of
`sky_claw/app/db/locks.py`. A call reads the clock, runs its one SQL statement
and returns in separate steps, and the steps of all calls of the process
interleave. Opening and closing a connection are not among them.
-/
namespace DistributedLocks
open KeyedRows

/-- `time.time()` readings and TTLs: finite floats with their order, the
    rounded sum and `math.nextafter(x, math.inf)`. No other arithmetic is used. -/
class Reloj (F : Type) extends LinearOrder F, Add F where
  nextafter : F → F
  lt_nextafter (x : F) : x < nextafter x

/-- Clock readings counted in units of the spacing of floats near the present
    time, where the next float is one unit further. -/
instance : Reloj Int where
  nextafter x := x + 1
  lt_nextafter x := Int.lt_succ x

/-- A row of `resource_locks`. -/
structure ResourceLock (F : Type) where
  resourceId : String
  agentId : String
  acquiredAt : F
  expiresAt : F
  deriving DecidableEq

abbrev ResourceLocks (F : Type) := Table (ResourceLock F) String ResourceLock.resourceId

structure LockInfo (F : Type) where
  resourceId : String
  agentId : String
  acquiredAt : F
  expiresAt : F
  leaseTtlSeconds : Option F
  deriving DecidableEq

def LockInfo.fila (info : LockInfo F) : ResourceLock F :=
  ⟨info.resourceId, info.agentId, info.acquiredAt, info.expiresAt⟩

variable {F : Type}

structure DistributedLockManager (F : Type) where
  defaultTtl : F
  maxRetries : Nat
  lifecycle : Bool
  deriving DecidableEq

def DistributedLockManager.ttlSeconds (self : DistributedLockManager F) (ttl : Option F) : F :=
  ttl.getD self.defaultTtl

inductive Peticion (F : Type) where
  | acquireLock (self : DistributedLockManager F) (resourceId agentId : String) (ttl : Option F)
  | renewLock (self : DistributedLockManager F) (resourceId agentId : String) (ttl : Option F)
      (acquiredAt : Option F)
  | releaseLock (resourceId agentId : String) (acquiredAt : Option F)
  | forceRelease (resourceId : String)
  | cleanupExpired
  deriving DecidableEq

/-- Where a call stands. `listo` holds the reading (and, for an acquisition, the
    token) that its statement will use, `hecho` the row count of the statement. -/
inductive Fase (F : Type) where
  | espera (attempt : Nat)
  | listo (attempt : Nat) (ahora : F) (token : Option F)
  | hecho (attempt : Nat) (ahora : F) (token : Option F) (rowcount : Nat)
  | hechoSinReloj (rowcount : Nat)

def Fase.attempt : Fase F → Nat
  | .espera n | .listo n .. | .hecho n .. => n
  | .hechoSinReloj _ => 0

inductive Resultado (F : Type) where
  | lock (info : LockInfo F)
  | ok (value : Bool)
  | count (value : Nat)
  | raises
  deriving DecidableEq

/-- What has happened so far, as statements and returns. -/
inductive Suceso (F : Type) where
  | token (value : F)
  | acquire (info : LockInfo F) (ahora : F) (rowcount : Nat)
  | renew (resourceId agentId : String) (acquiredAt : Option F) (newExpiresAt now : F)
      (rowcount : Nat)
  | release (resourceId agentId : String) (acquiredAt : Option F) (rowcount : Nat)
  | releaseAny (resourceId : String) (rowcount : Nat)
  | cleanup (now : F) (rowcount : Nat)
  | returns (peticion : Peticion F) (value : Resultado F)
  deriving DecidableEq

/-- `ultimoToken` is the process-wide entry of the database; `historia` is
    ghost state, newest first, each entry with the call it belongs to. -/
structure Estado (F : Type) where
  tabla : ResourceLocks F
  ultimoToken : Option F
  llamadas : Nat → Option (Peticion F × Fase F)
  historia : List (Nat × Suceso F)

def Estado.inicial (tabla : ResourceLocks F) : Estado F := ⟨tabla, none, fun _ => none, []⟩

def Estado.sigue (s : Estado F) (id : Nat) (llamada : Option (Peticion F × Fase F)) : Estado F :=
  { s with llamadas := fun i => if i = id then llamada else s.llamadas i }

def Estado.anota (s : Estado F) (id : Nat) (suceso : Suceso F) : Estado F :=
  { s with historia := (id, suceso) :: s.historia }

def Estado.retorna (s : Estado F) (id : Nat) (p : Peticion F) (value : Resultado F) : Estado F :=
  (s.sigue id none).anota id (.returns p value)

section
variable (s : Estado F) (id : Nat) (llamada : Option (Peticion F × Fase F)) (suceso : Suceso F)
  (p : Peticion F) (value : Resultado F)

@[simp] theorem Estado.sigue_tabla : (s.sigue id llamada).tabla = s.tabla := rfl
@[simp] theorem Estado.sigue_ultimoToken : (s.sigue id llamada).ultimoToken = s.ultimoToken := rfl
@[simp] theorem Estado.sigue_historia : (s.sigue id llamada).historia = s.historia := rfl
@[simp] theorem Estado.sigue_llamadas (i : Nat) :
    (s.sigue id llamada).llamadas i = if i = id then llamada else s.llamadas i := rfl
@[simp] theorem Estado.anota_tabla : (s.anota id suceso).tabla = s.tabla := rfl
@[simp] theorem Estado.anota_ultimoToken : (s.anota id suceso).ultimoToken = s.ultimoToken := rfl
@[simp] theorem Estado.anota_historia :
    (s.anota id suceso).historia = (id, suceso) :: s.historia := rfl
@[simp] theorem Estado.anota_llamadas : (s.anota id suceso).llamadas = s.llamadas := rfl
@[simp] theorem Estado.retorna_tabla : (s.retorna id p value).tabla = s.tabla := rfl
@[simp] theorem Estado.retorna_ultimoToken :
    (s.retorna id p value).ultimoToken = s.ultimoToken := rfl
@[simp] theorem Estado.retorna_historia :
    (s.retorna id p value).historia = (id, .returns p value) :: s.historia := rfl
@[simp] theorem Estado.retorna_llamadas (i : Nat) :
    (s.retorna id p value).llamadas i = if i = id then none else s.llamadas i := rfl

end

variable [Reloj F]

/- The statements, each with its row count. -/

def acquireSql (t : ResourceLocks F) (nueva : ResourceLock F) (ahora : F) :
    ResourceLocks F × Nat :=
  match free : t.find nueva.resourceId with
  | none => (t.insert nueva free, 1)
  | some vieja =>
    if vieja.expiresAt < ahora then
      (t.updateWhere (fun r => r.resourceId = nueva.resourceId)
        (fun r => { r with
          agentId := nueva.agentId
          acquiredAt := nueva.acquiredAt
          expiresAt := nueva.expiresAt }) (fun _ => rfl), 1)
    else (t, 0)

/-- The `WHERE` of `_RELEASE_SQL`. An `acquired_at` of `NULL` equals nothing. -/
def esLaLease (resourceId agentId : String) (acquiredAt : Option F) (r : ResourceLock F) : Bool :=
  r.resourceId = resourceId ∧ r.agentId = agentId ∧ acquiredAt = some r.acquiredAt

def esLaLeaseViva (resourceId agentId : String) (acquiredAt : Option F) (now : F)
    (r : ResourceLock F) : Bool :=
  esLaLease resourceId agentId acquiredAt r ∧ r.expiresAt > now

def renewSql (t : ResourceLocks F) (newExpiresAt : F) (resourceId agentId : String)
    (acquiredAt : Option F) (now : F) : ResourceLocks F × Nat :=
  (t.updateWhere (esLaLeaseViva resourceId agentId acquiredAt now)
      (fun r => { r with expiresAt := newExpiresAt }) (fun _ => rfl),
    t.count (esLaLeaseViva resourceId agentId acquiredAt now))

def releaseSql (t : ResourceLocks F) (resourceId agentId : String) (acquiredAt : Option F) :
    ResourceLocks F × Nat :=
  (t.deleteWhere (esLaLease resourceId agentId acquiredAt),
    t.count (esLaLease resourceId agentId acquiredAt))

def releaseAnySql (t : ResourceLocks F) (resourceId : String) : ResourceLocks F × Nat :=
  (t.deleteWhere (fun r => r.resourceId = resourceId),
    t.count (fun r => r.resourceId = resourceId))

def cleanupSql (t : ResourceLocks F) (now : F) : ResourceLocks F × Nat :=
  (t.deleteWhere (fun r => r.expiresAt < now), t.count (fun r => r.expiresAt < now))

/-- `_acuniar_token`, with `_ULTIMO_TOKEN_POR_BASE` of this database as argument. -/
def acuniarToken (ultimo : Option F) (ahora : F) : F :=
  match ultimo with
  | none => ahora
  | some u => if ahora > u then ahora else Reloj.nextafter u

/-- The attempt failed: the loop of `acquire_lock` goes on or gives up. -/
def Estado.reintenta (s : Estado F) (id : Nat) (self : DistributedLockManager F) (p : Peticion F)
    (attempt : Nat) : Estado F :=
  if attempt + 1 < self.maxRetries then s.sigue id (some (p, .espera (attempt + 1)))
  else s.retorna id p .raises

def leer (s : Estado F) (id : Nat) (ahora : F) : Peticion F → Nat → Option (Estado F)
  | p@(.acquireLock self ..), n =>
    if n < self.maxRetries then
      let token := acuniarToken s.ultimoToken ahora
      some (({ s with ultimoToken := some token }.sigue id
        (some (p, .listo n ahora (some token)))).anota id (.token token))
    else none
  | p@(.renewLock ..), n | p@.cleanupExpired, n => some (s.sigue id (some (p, .listo n ahora none)))
  | .releaseLock .., _ | .forceRelease _, _ => none

/-- The `LockInfo` of the attempt that read `ahora` and minted `token`. -/
def infoDeIntento (self : DistributedLockManager F) (resourceId agentId : String)
    (ttl : Option F) (ahora token : F) : LockInfo F where
  resourceId := resourceId
  agentId := agentId
  acquiredAt := token
  expiresAt := ahora + self.ttlSeconds ttl
  leaseTtlSeconds := some (self.ttlSeconds ttl)

def ejecutar (s : Estado F) (id : Nat) : Peticion F → Fase F → Option (Estado F)
  | p@(.acquireLock self resourceId agentId ttl), .listo n ahora (some token) =>
    let info := infoDeIntento self resourceId agentId ttl ahora token
    let (tabla, rowcount) := acquireSql s.tabla info.fila ahora
    some (({ s with tabla := tabla }.sigue id
      (some (p, .hecho n ahora (some token) rowcount))).anota id (.acquire info ahora rowcount))
  | p@(.renewLock self resourceId agentId ttl acquiredAt), .listo n now none =>
    let newExpiresAt := now + self.ttlSeconds ttl
    let (tabla, rowcount) := renewSql s.tabla newExpiresAt resourceId agentId acquiredAt now
    some (({ s with tabla := tabla }.sigue id (some (p, .hecho n now none rowcount))).anota id
      (.renew resourceId agentId acquiredAt newExpiresAt now rowcount))
  | p@(.releaseLock resourceId agentId acquiredAt), .espera _ =>
    let (tabla, rowcount) := releaseSql s.tabla resourceId agentId acquiredAt
    some (({ s with tabla := tabla }.sigue id (some (p, .hechoSinReloj rowcount))).anota id
      (.release resourceId agentId acquiredAt rowcount))
  | p@(.forceRelease resourceId), .espera _ =>
    let (tabla, rowcount) := releaseAnySql s.tabla resourceId
    some (({ s with tabla := tabla }.sigue id (some (p, .hechoSinReloj rowcount))).anota id
      (.releaseAny resourceId rowcount))
  | p@.cleanupExpired, .listo n now none =>
    let (tabla, rowcount) := cleanupSql s.tabla now
    some (({ s with tabla := tabla }.sigue id (some (p, .hecho n now none rowcount))).anota id
      (.cleanup now rowcount))
  | _, _ => none

/-- The code after the statement. `despues` is the second reading that the
    lifecycle branches take once their commit has returned. -/
def concluir (s : Estado F) (id : Nat) (despues : F) : Peticion F → Fase F → Option (Estado F)
  | p@(.acquireLock self resourceId agentId ttl), .hecho n ahora (some token) rowcount =>
    let info := infoDeIntento self resourceId agentId ttl ahora token
    if 0 < rowcount then
      if self.lifecycle ∧ despues ≥ info.expiresAt then some (s.reintenta id self p n)
      else some (s.retorna id p (.lock info))
    else some (s.reintenta id self p n)
  | p@(.renewLock self _ _ ttl _), .hecho _ now none rowcount =>
    if self.lifecycle ∧ 0 < rowcount ∧ despues ≥ now + self.ttlSeconds ttl then
      some (s.retorna id p (.ok false))
    else some (s.retorna id p (.ok (0 < rowcount)))
  | p@(.releaseLock ..), .hechoSinReloj rowcount | p@(.forceRelease _), .hechoSinReloj rowcount =>
    some (s.retorna id p (.ok (0 < rowcount)))
  | p@.cleanupExpired, .hecho _ _ _ rowcount => some (s.retorna id p (.count rowcount))
  | _, _ => none

/-- SQLite raises in the statement or in its commit. In the second case the
    effect stays on the connection for a later commit to make durable. -/
def fallar (s : Estado F) (id : Nat) : Peticion F → Fase F → Estado F
  | p@(.acquireLock self ..), fase => s.reintenta id self p fase.attempt
  | p@(.renewLock ..), _ => s.retorna id p (.ok false)
  | p, _ => s.retorna id p .raises

/-- `aborta` is an exception that leaves the call: a cancellation at an await, or
    the lifecycle refusing the operation. -/
inductive Accion (F : Type) where
  | llama (peticion : Peticion F)
  | lee (ahora : F)
  | ejecuta
  | concluye (despues : F)
  | falla
  | aborta

def paso (s : Estado F) (e : Nat × Accion F) : Option (Estado F) :=
  match e.2, s.llamadas e.1 with
  | .llama p, none => some (s.sigue e.1 (some (p, .espera 0)))
  | .lee ahora, some (p, .espera n) => leer s e.1 ahora p n
  | .ejecuta, some (p, fase) => ejecutar s e.1 p fase
  | .concluye despues, some (p, fase) => concluir s e.1 despues p fase
  | .falla, some (p, fase) => some (fallar s e.1 p fase)
  | .aborta, some (p, _) => some (s.retorna e.1 p .raises)
  | _, _ => none

/-- The states of a process that opened a database holding `tabla`. -/
def Alcanzable (tabla : ResourceLocks F) : Estado F → Prop :=
  TransitionRuns.Reaches paso (· = Estado.inicial tabla) fun _ _ => True

end DistributedLocks
