import SkyClaw.GoldenMutationLock
import SkyClaw.ProtectionJournalStore

set_option linter.all false

/-!
The lock of one Golden under any interleaving of its calls: processes are born and die, a
write may leave anything behind, and a liveness query may have no answer. A file that is
open with share mode 0 cannot be opened again.
-/
namespace GoldenLockExclusion
open TransitionRuns ProtectionJournal GoldenMutationLock
open ProtectionJournalStore (jsonPlano)

/-- A call of `acquire_golden_mutation_lock`, or of its variant for recovery. -/
structure Llamada where
  id : Nat
  proceso : Proceso
  operationId : String
  allowOrphanedTakeover : Bool
  deriving DecidableEq

/-- How far the owner of a file handle is. `acunado` is a `GoldenMutationLockHandle` that is
not closed, and `soltando` is the inside of its `release`. `debia` is ghost. -/
inductive Fase where
  | abierto
  | leido
  | identificado (fresca : GoldenLockMetadata)
  | escrito (fresca : GoldenLockMetadata)
  | fallido (fresca : GoldenLockMetadata)
  | limpiado
  | acunado (identity : GoldenLockMetadata) (debia : Option (String × Proceso))
  | soltando (identity : GoldenLockMetadata)
  | soltado
  deriving DecidableEq

/-- A file handle. `alAbrir` and `duenoVivo` are ghost: what the file held when it was
opened, and whether the owner it named was alive at the classification. -/
structure Manejador where
  llamada : Llamada
  alAbrir : Bytes
  previo : Option GoldenLockMetadata
  duenoVivo : Bool
  fase : Fase
  deriving DecidableEq

/-- `fallidas` are the calls that raised. `pendiente` is ghost: the operation that acquired
last, with its process, until its `release` writes. -/
structure Estado where
  archivo : Bytes
  manejadores : List Manejador
  vivos : List Proceso
  usados : List Proceso
  siguiente : Nat
  fallidas : List (Nat × LockError)
  pendiente : Option (String × Proceso)
  deriving DecidableEq

def Estado.inicial : Estado := ⟨[], [], [], [], 0, [], none⟩

inductive Evento where
  | nace (proceso : Proceso)
  | muere (proceso : Proceso)
  | abre (proceso : Proceso) (operationId : String) (allowOrphanedTakeover : Bool) (ok : Bool)
  | lee (id : Nat) (tag : Option Nat) (leido : Bool)
  | clasifica (id : Nat) (ownerAlive : Option Bool) (ahora : Option Int)
  | escribe (id : Nat) (escritura : Escritura)
  | confirma (id : Nat) (ok : Bool)
  | release (id : Nat)
  | retiene (id : Nat)
  | interrumpe (id : Nat)
  deriving DecidableEq

def estaVivo (vivos : List Proceso) (pid creationTime : Nat) : Bool :=
  vivos.any fun p => p.pid = pid && p.creationTime = creationTime

def Manejador.esVivo (h : Manejador) : Bool :=
  match h.fase with
  | .acunado _ _ => true
  | _ => false

/-- The acquisition is a takeover: what it found is not released. -/
def Manejador.esToma (h : Manejador) : Bool :=
  match h.previo with
  | some m => m.phase ≠ .released
  | none => false

namespace Estado

def manejador (s : Estado) (id : Nat) : Option Manejador :=
  s.manejadores.find? fun h => h.llamada.id = id

def sigue (s : Estado) (h : Manejador) : Estado :=
  { s with manejadores := s.manejadores.map fun k => if k.llamada.id = h.llamada.id then h else k }

def cierra (s : Estado) (id : Nat) : Estado :=
  { s with manejadores := s.manejadores.filter fun h => h.llamada.id ≠ id }

/-- The call raises, and its `finally` has closed the handle. -/
def lanza (s : Estado) (id : Nat) (e : LockError) : Estado :=
  { s.cierra id with fallidas := (id, e) :: s.fallidas }

end Estado

section
variable (json : Json) (uuid : String → Option String) (golden : Golden)

def Estado.abre (s : Estado) (proceso : Proceso) (operationId : String) (takeover ok : Bool) :
    Estado :=
  let id := s.siguiente
  let t := { s with siguiente := id + 1 }
  match validateCanonicalOperationId uuid (.str operationId) with
  | .error e => t.lanza id (.modelo e)
  | .ok operationId =>
    if s.manejadores ≠ [] then t.lanza id .sharingViolation
    else if !ok then t.lanza id .io
    else { t with
      manejadores := ⟨⟨id, proceso, operationId, takeover⟩, s.archivo, none, false, .abierto⟩ ::
        s.manejadores }

def Estado.lee (s : Estado) (h : Manejador) (tag : Option Nat) (leido : Bool) : Estado :=
  match leerLock json uuid golden s.archivo tag leido with
  | .error e => s.lanza h.llamada.id e
  | .ok previo => s.sigue { h with previo, fase := .leido }

/-- The kernel says of a process that it is alive or dead only when it is. -/
def Estado.respondeBien (s : Estado) (previo : Option GoldenLockMetadata)
    (ownerAlive : Option Bool) : Bool :=
  match previo, ownerAlive with
  | some m, some vivo => vivo = estaVivo s.vivos m.ownerPid m.ownerProcessCreationTime
  | _, _ => true

def Estado.clasifica (s : Estado) (h : Manejador) (ownerAlive : Option Bool)
    (ahora : Option Int) : Estado :=
  match admitirLock h.previo ownerAlive h.llamada.allowOrphanedTakeover h.llamada.operationId with
  | .error e => s.lanza h.llamada.id e
  | .ok _ =>
    match ahora with
    | none => s.lanza h.llamada.id .io
    | some ahora =>
      match metadataFresca uuid golden h.llamada.proceso h.llamada.operationId ahora with
      | .error e => s.lanza h.llamada.id (.modelo e)
      | .ok fresca =>
        let duenoVivo := match h.previo with
          | some m => estaVivo s.vivos m.ownerPid m.ownerProcessCreationTime
          | none => false
        s.sigue { h with duenoVivo, fase := .identificado fresca }

def Estado.escribeFresca (s : Estado) (h : Manejador) (fresca : GoldenLockMetadata)
    (escritura : Escritura) : Estado :=
  let escrito := escribirLock json s.archivo fresca escritura
  { s with archivo := escrito.1 }.sigue
    { h with fase := if escrito.2 then .escrito fresca else .fallido fresca }

/-- The clean-up of a failed acquisition writes `RELEASED`. -/
def Estado.limpia (s : Estado) (h : Manejador) (fresca : GoldenLockMetadata)
    (escritura : Escritura) : Estado :=
  let escrito := escribirLock json s.archivo fresca.liberada escritura
  let t := { s with archivo := escrito.1 }
  if escrito.2 then t.sigue { h with fase := .limpiado }
  else t.lanza h.llamada.id (.acquisitionCleanup false)

def Estado.escribeReleased (s : Estado) (h : Manejador) (identity : GoldenLockMetadata)
    (escritura : Escritura) : Estado :=
  let escrito := escribirLock json s.archivo identity.liberada escritura
  let t := { s with archivo := escrito.1, pendiente := none }
  if escrito.2 then t.sigue { h with fase := .soltado } else t.cierra h.llamada.id

def Estado.acuna (s : Estado) (h : Manejador) (fresca : GoldenLockMetadata) : Estado :=
  { s with pendiente := some (h.llamada.operationId, h.llamada.proceso) }.sigue
    { h with fase := .acunado fresca s.pendiente }

/-- The step of an open handle. -/
def Estado.paso (s : Estado) (h : Manejador) : Evento → Option Estado
  | .lee _ tag leido =>
    match h.fase with
    | .abierto => some (s.lee json uuid golden h tag leido)
    | _ => none
  | .clasifica _ ownerAlive ahora =>
    match h.fase with
    | .leido =>
      if s.respondeBien h.previo ownerAlive then some (s.clasifica uuid golden h ownerAlive ahora)
      else none
    | _ => none
  | .escribe _ escritura =>
    match h.fase with
    | .identificado fresca => some (s.escribeFresca json h fresca escritura)
    | .fallido fresca => some (s.limpia json h fresca escritura)
    | .soltando identity => some (s.escribeReleased json h identity escritura)
    | _ => none
  | .confirma _ ok =>
    match h.fase with
    | .escrito fresca =>
      if ok then some (s.acuna h fresca) else some (s.sigue { h with fase := .fallido fresca })
    | .limpiado => some (s.lanza h.llamada.id (.acquisitionCleanup ok))
    | .soltado => some (s.cierra h.llamada.id)
    | _ => none
  | .release _ =>
    match h.fase with
    | .acunado identity _ => some (s.sigue { h with fase := .soltando identity })
    | _ => none
  | .retiene _ =>
    match h.fase with
    | .acunado _ _ => some (s.cierra h.llamada.id)
    | _ => none
  | .interrumpe _ =>
    match h.fase with
    | .acunado _ _ => none
    | .soltando _ => some (s.cierra h.llamada.id)
    | .soltado => some (s.cierra h.llamada.id)
    | _ => some (s.lanza h.llamada.id .excepcion)
  | _ => none

/-- A process is born with an identity that no other has had, and its `pid` is free. -/
def Estado.nace (s : Estado) (p : Proceso) : Option Estado :=
  if (s.usados.any fun q => q.pid = p.pid && q.creationTime = p.creationTime) ∨
      s.vivos.any fun q => q.pid = p.pid then none
  else some { s with vivos := p :: s.vivos, usados := p :: s.usados }

/-- The kernel closes the handles of a process that dies. -/
def Estado.muere (s : Estado) (p : Proceso) : Estado :=
  { s with
    vivos := s.vivos.filter fun q => q ≠ p
    manejadores := s.manejadores.filter fun h => h.llamada.proceso ≠ p }

def step (s : Estado) : Evento → Option Estado
  | .nace p => s.nace p
  | .muere p => some (s.muere p)
  | .abre proceso operationId takeover ok =>
    if proceso ∈ s.vivos then some (s.abre uuid proceso operationId takeover ok) else none
  | .lee id tag leido => (s.manejador id).bind fun h => s.paso json uuid golden h (.lee id tag leido)
  | .clasifica id ownerAlive ahora =>
    (s.manejador id).bind fun h => s.paso json uuid golden h (.clasifica id ownerAlive ahora)
  | .escribe id escritura =>
    (s.manejador id).bind fun h => s.paso json uuid golden h (.escribe id escritura)
  | .confirma id ok => (s.manejador id).bind fun h => s.paso json uuid golden h (.confirma id ok)
  | .release id => (s.manejador id).bind fun h => s.paso json uuid golden h (.release id)
  | .retiene id => (s.manejador id).bind fun h => s.paso json uuid golden h (.retiene id)
  | .interrumpe id => (s.manejador id).bind fun h => s.paso json uuid golden h (.interrumpe id)

end

/-! What holds in every run -/

section
variable (json : Json) (uuid : String → Option String) (golden : Golden)

/-- What the file says, where it can be read, is that this operation has not released. -/
def noLibera (archivo : Bytes) (operationId : String) : Bool :=
  match leerLock json uuid golden archivo (some 0) true with
  | .ok none => false
  | .ok (some m) => m.phase = .authorizationBoundary && m.operationId = operationId
  | .error _ => true

def Manejador.noPierde (h : Manejador) (escritura : Escritura) : Bool :=
  match h.fase, escritura with
  | .identificado _, .falla queda => noLibera json uuid golden queda h.llamada.operationId
  | .fallido _, .ok => false
  | .fallido _, .falla queda => noLibera json uuid golden queda h.llamada.operationId
  | _, _ => true

/-- In a takeover a write that fails does not free the lock, and that of the clean-up fails. -/
def permitido (s : Estado) : Evento → Bool
  | .escribe id escritura =>
    match s.manejador id with
    | some h => !h.esToma || h.noPierde json uuid golden escritura
    | none => true
  | _ => true

/-- What the call found: nothing, a lock that was released, or that of its own operation,
whose owner was dead, and then the call is a recovery. -/
def PrevioAdmisible (h : Manejador) : Prop :=
  leerLock json uuid golden h.alAbrir (some 0) true = .ok h.previo ∧
    ∀ m, h.previo = some m → m.phase = .released ∨
      (m.operationId = h.llamada.operationId ∧ h.llamada.allowOrphanedTakeover = true ∧
        h.duenoVivo = false)

/-- The call has not written yet. -/
def Manejador.sinEscribir (h : Manejador) : Bool :=
  match h.fase with
  | .abierto => true
  | .leido => true
  | .identificado _ => true
  | _ => false

structure NuncaRobado (s : Estado) : Prop where
  unico : (s.manejadores.filter Manejador.esVivo).length ≤ 1
  cerradas : ∀ h ∈ s.manejadores, ∀ f ∈ s.fallidas, f.1 ≠ h.llamada.id
  intacto : ∀ h ∈ s.manejadores, h.sinEscribir = true → s.archivo = h.alAbrir
  previo : ∀ h ∈ s.manejadores, h.esVivo = true → PrevioAdmisible json uuid golden h
  deuda : ∀ h ∈ s.manejadores, ∀ identity operationId p,
    h.fase = .acunado identity (some (operationId, p)) →
      operationId = h.llamada.operationId ∧ h.llamada.allowOrphanedTakeover = true ∧
        estaVivo s.vivos p.pid p.creationTime = false

def Muerto (s : Estado) (p : Proceso) : Prop :=
  p ∈ s.usados ∧ estaVivo s.vivos p.pid p.creationTime = false

/-- What is owed is what the file says, where it can be read, and is of a process that is
dead or is the one it names. -/
def Deuda (s : Estado) : Prop :=
  ∀ operationId p, s.pendiente = some (operationId, p) → p ∈ s.usados ∧
    ∀ previo, leerLock json uuid golden s.archivo (some 0) true = .ok previo →
      ∃ m, previo = some m ∧ m.phase = .authorizationBoundary ∧ m.operationId = operationId ∧
        (Muerto s p ∨ (m.ownerPid = p.pid ∧ m.ownerProcessCreationTime = p.creationTime))

/-- What is owed is of this call's operation and of a dead process, and this is a recovery. -/
def DebeA (s : Estado) (h : Manejador) (debe : Option (String × Proceso)) : Prop :=
  ∀ operationId p, debe = some (operationId, p) → operationId = h.llamada.operationId ∧
    h.llamada.allowOrphanedTakeover = true ∧ Muerto s p

def Escrita (s : Estado) (h : Manejador) (fresca : GoldenLockMetadata) : Prop :=
  leerLock json uuid golden s.archivo (some 0) true = .ok (some fresca) ∧
    fresca.phase = .authorizationBoundary ∧ fresca.operationId = h.llamada.operationId ∧
    fresca.ownerPid = h.llamada.proceso.pid ∧
    fresca.ownerProcessCreationTime = h.llamada.proceso.creationTime

/-- The call went through the gates, and a debt there was is one that it may take. -/
structure Admitida (s : Estado) (h : Manejador) : Prop where
  previo : PrevioAdmisible json uuid golden h
  libre : h.esToma = false → s.pendiente = none
  debe : DebeA s h s.pendiente

def FaseSana (s : Estado) (h : Manejador) : Prop :=
  match h.fase with
  | .abierto => s.archivo = h.alAbrir
  | .leido => s.archivo = h.alAbrir ∧
      leerLock json uuid golden h.alAbrir (some 0) true = .ok h.previo
  | .identificado fresca => s.archivo = h.alAbrir ∧ Admitida json uuid golden s h ∧
      ∃ ahora, metadataFresca uuid golden h.llamada.proceso h.llamada.operationId ahora = .ok fresca
  | .escrito fresca => Admitida json uuid golden s h ∧ Escrita json uuid golden s h fresca
  | .fallido _ => Admitida json uuid golden s h
  | .acunado fresca debia => PrevioAdmisible json uuid golden h ∧ DebeA s h debia ∧
      Escrita json uuid golden s h fresca
  | _ => True

structure Sano (s : Estado) (h : Manejador) : Prop where
  vive : h.llamada.proceso ∈ s.vivos
  id : h.llamada.id < s.siguiente
  cerradas : ∀ f ∈ s.fallidas, f.1 ≠ h.llamada.id
  fase : FaseSana json uuid golden s h

structure Coherente (s : Estado) : Prop where
  unico : s.manejadores = [] ∨ ∃ h, s.manejadores = [h] ∧ Sano json uuid golden s h
  deuda : Deuda json uuid golden s
  fallidas : ∀ f ∈ s.fallidas, f.1 < s.siguiente
  vivos : ∀ p ∈ s.vivos, p ∈ s.usados

variable {json uuid golden}

theorem leerLock_ok {raw : Bytes} {tag : Option Nat} {leido : Bool}
    {m : Option GoldenLockMetadata} (ok : leerLock json uuid golden raw tag leido = .ok m) :
    leerLock json uuid golden raw (some 0) true = .ok m := by
  unfold leerLock at ok
  split at ok
  · cases ok
  · next tag =>
    split at ok
    · cases ok
    · next zero =>
      obtain rfl : tag = 0 := not_not.mp zero
      cases leido with
      | false => simp at ok
      | true =>
        unfold leerLock
        simpa using ok

/-- A confirmed write leaves the payload, and one that is not leaves the file or `queda`. -/
theorem escribirLock_cases (archivo : Bytes) (m : GoldenLockMetadata) (escritura : Escritura) :
    (escribirLock json archivo m escritura = (serializeGoldenLockMetadata json m, true) ∧
      (serializeGoldenLockMetadata json m).length ≤ maxMetadataBytes) ∨
    escribirLock json archivo m escritura = (archivo, false) ∨
    ∃ queda, escritura = .falla queda ∧ escribirLock json archivo m escritura = (queda, false) := by
  unfold escribirLock
  dsimp only
  by_cases long : maxMetadataBytes < (serializeGoldenLockMetadata json m).length
  · rw [if_pos long]
    exact .inr (.inl rfl)
  · rw [if_neg long]
    cases escritura with
    | ok => exact .inl ⟨rfl, Nat.not_lt.mp long⟩
    | falla queda => exact .inr (.inr ⟨queda, rfl, rfl⟩)

theorem manejador_unico {s : Estado} {h k : Manejador} (only : s.manejadores = [h]) {id : Nat}
    (found : s.manejador id = some k) : k = h := by
  have mem := List.mem_of_find?_eq_some found
  rw [only] at mem
  exact List.mem_singleton.mp mem

theorem sigue_unico {s : Estado} {h k : Manejador} (only : s.manejadores = [h])
    (same : k.llamada = h.llamada) : (s.sigue k).manejadores = [k] := by
  simp [Estado.sigue, only, same]

theorem cierra_unico {s : Estado} {h : Manejador} (only : s.manejadores = [h]) :
    (s.cierra h.llamada.id).manejadores = [] := by
  simp [Estado.cierra, only]

/-- The file and what is owed are the same, and the dead stay dead. -/
structure MismoMundo (s t : Estado) : Prop where
  archivo : t.archivo = s.archivo
  pendiente : t.pendiente = s.pendiente
  usados : ∀ p ∈ s.usados, p ∈ t.usados
  muerto : ∀ p, Muerto s p → Muerto t p

theorem mismo_manejadores (s : Estado) (manejadores : List Manejador) (siguiente : Nat)
    (fallidas : List (Nat × LockError)) :
    MismoMundo s { s with manejadores, siguiente, fallidas } :=
  ⟨rfl, rfl, fun _ => id, fun _ => id⟩

theorem MismoMundo.deuda {s t : Estado} (mismo : MismoMundo s t)
    (deuda : Deuda json uuid golden s) : Deuda json uuid golden t := by
  intro operationId p owed
  rw [mismo.pendiente] at owed
  obtain ⟨used, said⟩ := deuda operationId p owed
  rw [mismo.archivo]
  refine ⟨mismo.usados p used, ?_⟩
  intro previo read
  obtain ⟨m, found, phase, same, owner⟩ := said previo read
  exact ⟨m, found, phase, same, owner.imp_left (mismo.muerto p)⟩

theorem MismoMundo.debeA {s t : Estado} (mismo : MismoMundo s t) {h : Manejador}
    {debe : Option (String × Proceso)} (owes : DebeA s h debe) : DebeA t h debe := by
  intro operationId p owed
  obtain ⟨same, takeover, dead⟩ := owes operationId p owed
  exact ⟨same, takeover, mismo.muerto p dead⟩

theorem MismoMundo.admitida {s t : Estado} (mismo : MismoMundo s t) {h : Manejador}
    (admitida : Admitida json uuid golden s h) : Admitida json uuid golden t h := by
  constructor
  · exact admitida.previo
  · rw [mismo.pendiente]
    exact admitida.libre
  · rw [mismo.pendiente]
    exact mismo.debeA admitida.debe

theorem MismoMundo.faseSana {s t : Estado} (mismo : MismoMundo s t) {h : Manejador}
    (sana : FaseSana json uuid golden s h) : FaseSana json uuid golden t h := by
  unfold FaseSana at sana ⊢
  unfold Escrita at *
  rw [mismo.archivo]
  split
  · simpa [*] using sana
  · simpa [*] using sana
  · next fresca reached =>
    simp only [reached] at sana
    exact ⟨sana.1, mismo.admitida sana.2.1, sana.2.2⟩
  · next fresca reached =>
    simp only [reached] at sana
    exact ⟨mismo.admitida sana.1, sana.2⟩
  · next fresca reached =>
    simp only [reached] at sana
    exact mismo.admitida sana
  · next fresca debia reached =>
    simp only [reached] at sana
    exact ⟨sana.1, mismo.debeA sana.2.1, sana.2.2⟩
  · trivial

/-- The call goes on to a phase that is sound, and may have written. -/
theorem Coherente.sigue {s : Estado} {h k : Manejador} (coherente : Coherente json uuid golden s)
    (only : s.manejadores = [h]) (sano : Sano json uuid golden s h) (archivo : Bytes)
    (pendiente : Option (String × Proceso)) (same : k.llamada = h.llamada)
    (fase : FaseSana json uuid golden { s with archivo, pendiente } k)
    (deuda : Deuda json uuid golden { s with archivo, pendiente }) :
    Coherente json uuid golden ({ s with archivo, pendiente }.sigue k) := by
  constructor
  · right
    refine ⟨k, sigue_unico only same, ?_⟩
    constructor
    · exact same ▸ sano.vive
    · exact same ▸ sano.id
    · exact same ▸ sano.cerradas
    · exact (mismo_manejadores _ _ _ _).faseSana fase
  · exact (mismo_manejadores _ _ _ _).deuda deuda
  · exact coherente.fallidas
  · exact coherente.vivos

/-- The call closes its handle. -/
theorem Coherente.cierra {s : Estado} {h : Manejador} (coherente : Coherente json uuid golden s)
    (only : s.manejadores = [h]) (archivo : Bytes) (pendiente : Option (String × Proceso))
    (deuda : Deuda json uuid golden { s with archivo, pendiente }) :
    Coherente json uuid golden ({ s with archivo, pendiente }.cierra h.llamada.id) := by
  constructor
  · exact .inl (cierra_unico only)
  · exact (mismo_manejadores _ _ _ _).deuda deuda
  · exact coherente.fallidas
  · exact coherente.vivos

/-- The call closes its handle and raises. -/
theorem Coherente.lanza {s : Estado} {h : Manejador} (coherente : Coherente json uuid golden s)
    (only : s.manejadores = [h]) (sano : Sano json uuid golden s h) (e : LockError)
    (archivo : Bytes) (deuda : Deuda json uuid golden { s with archivo }) :
    Coherente json uuid golden ({ s with archivo }.lanza h.llamada.id e) := by
  constructor
  · exact .inl (cierra_unico only)
  · exact (mismo_manejadores _ _ _ _).deuda deuda
  · intro f mem
    rcases List.mem_cons.mp mem with rfl | old
    · exact sano.id
    · exact coherente.fallidas f old
  · exact coherente.vivos

theorem Coherente.lee {s : Estado} {h : Manejador} (coherente : Coherente json uuid golden s)
    (only : s.manejadores = [h]) (sano : Sano json uuid golden s h) (reached : h.fase = .abierto)
    (tag : Option Nat) (leido : Bool) :
    Coherente json uuid golden (s.lee json uuid golden h tag leido) := by
  have intact := sano.fase
  simp only [FaseSana, reached] at intact
  unfold Estado.lee
  cases read : leerLock json uuid golden s.archivo tag leido with
  | error e => exact coherente.lanza only sano e s.archivo coherente.deuda
  | ok previo =>
    exact coherente.sigue only sano s.archivo s.pendiente rfl
      ⟨intact, intact ▸ leerLock_ok read⟩ coherente.deuda

/-- What the gates let through may take over the debt there is, if any. -/
theorem Coherente.admitida {s : Estado} {h k : Manejador} (coherente : Coherente json uuid golden s)
    (intact : s.archivo = h.alAbrir)
    (read : leerLock json uuid golden h.alAbrir (some 0) true = .ok h.previo)
    {ownerAlive : Option Bool} (truthful : s.respondeBien h.previo ownerAlive = true)
    {disposition : PreexistingLockDisposition}
    (admitted : admitirLock h.previo ownerAlive h.llamada.allowOrphanedTakeover
      h.llamada.operationId = .ok disposition)
    (llamada : k.llamada = h.llamada) (alAbrir : k.alAbrir = h.alAbrir)
    (previo : k.previo = h.previo)
    (duenoVivo : ∀ m, h.previo = some m →
      k.duenoVivo = estaVivo s.vivos m.ownerPid m.ownerProcessCreationTime) :
    Admitida json uuid golden s k := by
  have dead : ∀ m, h.previo = some m → m.phase = .released ∨
      (m.operationId = h.llamada.operationId ∧ h.llamada.allowOrphanedTakeover = true ∧
        estaVivo s.vivos m.ownerPid m.ownerProcessCreationTime = false) := by
    intro m found
    rcases admitirLock_ok admitted found with free | ⟨same, takeover, answered⟩
    · exact .inl free
    · right
      refine ⟨same, takeover, ?_⟩
      simpa [Estado.respondeBien, found, answered] using truthful
  constructor
  · constructor
    · rw [alAbrir, previo]
      exact read
    · intro m found
      rw [previo] at found
      rw [llamada, duenoVivo m found]
      exact dead m found
  · intro free
    cases owed : s.pendiente with
    | none => rfl
    | some debt =>
      have said := (coherente.deuda debt.1 debt.2 owed).2
      rw [intact] at said
      obtain ⟨m, found, phase, _⟩ := said _ read
      simp [Manejador.esToma, previo, found, phase] at free
  · intro operationId p owed
    obtain ⟨used, said⟩ := coherente.deuda operationId p owed
    rw [intact] at said
    obtain ⟨m, found, phase, same, owner⟩ := said _ read
    rw [llamada]
    rcases dead m found with free | ⟨own, takeover, gone⟩
    · rw [phase] at free
      cases free
    · refine ⟨same.symm.trans own, takeover, used, ?_⟩
      rcases owner with ⟨_, gone⟩ | ⟨pid, creation⟩
      · exact gone
      · rw [← pid, ← creation]
        exact gone

theorem Coherente.clasifica {s : Estado} {h : Manejador} (coherente : Coherente json uuid golden s)
    (only : s.manejadores = [h]) (sano : Sano json uuid golden s h) (reached : h.fase = .leido)
    {ownerAlive : Option Bool} (truthful : s.respondeBien h.previo ownerAlive = true)
    (ahora : Option Int) :
    Coherente json uuid golden (s.clasifica uuid golden h ownerAlive ahora) := by
  have intact := sano.fase
  simp only [FaseSana, reached] at intact
  unfold Estado.clasifica
  split
  · exact coherente.lanza only sano _ s.archivo coherente.deuda
  · next admitted =>
    split
    · exact coherente.lanza only sano _ s.archivo coherente.deuda
    · next ahora =>
      split
      · exact coherente.lanza only sano _ s.archivo coherente.deuda
      · next fresca built =>
        refine coherente.sigue only sano s.archivo s.pendiente rfl
          ⟨intact.1, ?_, ahora, built⟩ coherente.deuda
        refine coherente.admitida intact.1 intact.2 truthful admitted rfl rfl rfl ?_
        intro m found
        simp only [found]

theorem noLibera_ok {archivo : Bytes} {operationId : String}
    (held : noLibera json uuid golden archivo operationId = true)
    {previo : Option GoldenLockMetadata}
    (read : leerLock json uuid golden archivo (some 0) true = .ok previo) :
    ∃ m, previo = some m ∧ m.phase = .authorizationBoundary ∧ m.operationId = operationId := by
  rw [noLibera, read] at held
  cases previo with
  | none => cases held
  | some m => exact ⟨m, rfl, by simpa using held⟩

/-- Writing leaves the debt alone where it does not free the lock of the debtor's operation. -/
theorem Deuda.conservada {s : Estado} {h : Manejador} {archivo : Bytes}
    (deuda : Deuda json uuid golden s) (debe : DebeA s h s.pendiente)
    (held : noLibera json uuid golden archivo h.llamada.operationId = true) :
    Deuda json uuid golden { s with archivo } := by
  intro operationId p owed
  obtain ⟨same, _, dead⟩ := debe operationId p owed
  refine ⟨(deuda operationId p owed).1, ?_⟩
  intro previo read
  obtain ⟨m, found, phase, operation⟩ := noLibera_ok held read
  exact ⟨m, found, phase, operation.trans same.symm, .inl dead⟩

theorem Escrita.sinLiberar {s : Estado} {h : Manejador} {fresca : GoldenLockMetadata}
    (escrita : Escrita json uuid golden s h fresca) :
    noLibera json uuid golden s.archivo h.llamada.operationId = true := by
  obtain ⟨written, phase, operation, _⟩ := escrita
  simp [noLibera, written, phase, operation]

theorem Deuda.sinDeuda {s : Estado} (free : s.pendiente = none) : Deuda json uuid golden s := by
  intro operationId p owed
  rw [free] at owed
  cases owed

theorem Coherente.escribeFresca {s : Estado} {h : Manejador}
    (coherente : Coherente json uuid golden s) (only : s.manejadores = [h])
    (sano : Sano json uuid golden s h) {fresca : GoldenLockMetadata}
    (reached : h.fase = .identificado fresca) {escritura : Escritura}
    (allowed : h.esToma = true → ∀ queda, escritura = .falla queda →
      noLibera json uuid golden queda h.llamada.operationId = true) :
    Coherente json uuid golden (s.escribeFresca json h fresca escritura) := by
  have sound := sano.fase
  simp only [FaseSana, reached] at sound
  obtain ⟨_, admitida, ahora, built⟩ := sound
  obtain ⟨valida, key, pid, creation, operation, phase⟩ := metadataFresca_ok built
  have admitida' : ∀ (archivo : Bytes) (fase : Fase),
      Admitida json uuid golden { s with archivo } { h with fase } := fun _ _ =>
    ⟨admitida.previo, admitida.libre, admitida.debe⟩
  unfold Estado.escribeFresca
  rcases escribirLock_cases s.archivo fresca escritura with ⟨written, fits⟩ | written | ⟨queda, failed, written⟩
  · rw [written]
    have escrita : Escrita json uuid golden
        { s with archivo := serializeGoldenLockMetadata json fresca } h fresca :=
      ⟨leerLock_escrito valida key fits, phase, operation, pid, creation⟩
    exact coherente.sigue only sano _ s.pendiente rfl ⟨admitida' _ _, escrita⟩
      (coherente.deuda.conservada admitida.debe escrita.sinLiberar)
  · rw [written]
    exact coherente.sigue only sano s.archivo s.pendiente rfl (admitida' _ _) coherente.deuda
  · rw [written]
    refine coherente.sigue only sano queda s.pendiente rfl (admitida' _ _) ?_
    cases takeover : h.esToma with
    | true => exact coherente.deuda.conservada admitida.debe (allowed takeover queda failed)
    | false => exact .sinDeuda (admitida.libre takeover)

theorem Coherente.limpia {s : Estado} {h : Manejador} (coherente : Coherente json uuid golden s)
    (only : s.manejadores = [h]) (sano : Sano json uuid golden s h) {fresca : GoldenLockMetadata}
    (reached : h.fase = .fallido fresca) {escritura : Escritura}
    (allowed : h.esToma = true → ∃ queda, escritura = .falla queda ∧
      noLibera json uuid golden queda h.llamada.operationId = true) :
    Coherente json uuid golden (s.limpia json h fresca escritura) := by
  have admitida := sano.fase
  simp only [FaseSana, reached] at admitida
  have deuda : Deuda json uuid golden
      { s with archivo := (escribirLock json s.archivo fresca.liberada escritura).1 } := by
    cases takeover : h.esToma with
    | false => exact .sinDeuda (admitida.libre takeover)
    | true =>
      obtain ⟨queda, failed, held⟩ := allowed takeover
      rcases escribirLock_cases s.archivo fresca.liberada escritura with
        written | written | ⟨other, same, written⟩
      · unfold escribirLock at written
        simp [failed] at written
        split at written <;> simp at written
      · rw [written]
        exact coherente.deuda
      · obtain rfl := Escritura.falla.inj (failed.symm.trans same)
        rw [written]
        exact coherente.deuda.conservada admitida.debe held
  unfold Estado.limpia
  dsimp only
  split
  · exact coherente.sigue only sano _ s.pendiente rfl trivial deuda
  · exact coherente.lanza only sano _ _ deuda

theorem Coherente.escribeReleased {s : Estado} {h : Manejador}
    (coherente : Coherente json uuid golden s) (only : s.manejadores = [h])
    (sano : Sano json uuid golden s h) (identity : GoldenLockMetadata) (escritura : Escritura) :
    Coherente json uuid golden (s.escribeReleased json h identity escritura) := by
  unfold Estado.escribeReleased
  dsimp only
  split
  · exact coherente.sigue only sano _ none rfl trivial (.sinDeuda rfl)
  · exact coherente.cierra only _ none (.sinDeuda rfl)

theorem Coherente.acuna {s : Estado} {h : Manejador} (coherente : Coherente json uuid golden s)
    (only : s.manejadores = [h]) (sano : Sano json uuid golden s h) {fresca : GoldenLockMetadata}
    (reached : h.fase = .escrito fresca) : Coherente json uuid golden (s.acuna h fresca) := by
  have sound := sano.fase
  simp only [FaseSana, reached] at sound
  obtain ⟨admitida, escrita⟩ := sound
  unfold Estado.acuna
  refine coherente.sigue only sano s.archivo _ rfl ⟨admitida.previo, admitida.debe, escrita⟩ ?_
  rintro operationId p ⟨⟩
  obtain ⟨read, phase, operation, owner⟩ := escrita
  refine ⟨coherente.vivos _ sano.vive, ?_⟩
  intro previo again
  have found : previo = some fresca := Except.ok.inj (again.symm.trans read)
  exact ⟨fresca, found, phase, operation, .inr owner⟩

/-- A failed flush leaves the call to its clean-up. -/
theorem Coherente.falla {s : Estado} {h : Manejador} (coherente : Coherente json uuid golden s)
    (only : s.manejadores = [h]) (sano : Sano json uuid golden s h) {fresca : GoldenLockMetadata}
    (reached : h.fase = .escrito fresca) :
    Coherente json uuid golden (s.sigue { h with fase := .fallido fresca }) := by
  have sound := sano.fase
  simp only [FaseSana, reached] at sound
  exact coherente.sigue only sano s.archivo s.pendiente rfl
    ⟨sound.1.previo, sound.1.libre, sound.1.debe⟩ coherente.deuda

theorem Coherente.paso {s t : Estado} {h : Manejador} (coherente : Coherente json uuid golden s)
    (only : s.manejadores = [h]) (sano : Sano json uuid golden s h) {e : Evento}
    (allowed : ∀ id escritura, e = .escribe id escritura → h.esToma = true →
      h.noPierde json uuid golden escritura = true)
    (moved : s.paso json uuid golden h e = some t) : Coherente json uuid golden t := by
  cases e with
  | nace p => cases moved
  | muere p => cases moved
  | abre p operationId takeover ok => cases moved
  | lee id tag leido =>
    simp only [Estado.paso] at moved
    split at moved
    · next reached =>
      obtain rfl := Option.some.inj moved
      exact coherente.lee only sano reached tag leido
    · cases moved
  | clasifica id ownerAlive ahora =>
    simp only [Estado.paso] at moved
    split at moved
    · next reached =>
      split at moved
      · next truthful =>
        obtain rfl := Option.some.inj moved
        exact coherente.clasifica only sano reached truthful ahora
      · cases moved
    · cases moved
  | escribe id escritura =>
    have allowed := allowed id escritura rfl
    unfold Manejador.noPierde at allowed
    simp only [Estado.paso] at moved
    split at moved
    · next fresca reached =>
      obtain rfl := Option.some.inj moved
      rw [reached] at allowed
      refine coherente.escribeFresca only sano reached ?_
      intro takeover queda failed
      subst failed
      exact allowed takeover
    · next fresca reached =>
      obtain rfl := Option.some.inj moved
      rw [reached] at allowed
      refine coherente.limpia only sano reached ?_
      intro takeover
      cases escritura with
      | ok => cases allowed takeover
      | falla queda => exact ⟨queda, rfl, allowed takeover⟩
    · obtain rfl := Option.some.inj moved
      exact coherente.escribeReleased only sano _ escritura
    · cases moved
  | confirma id ok =>
    simp only [Estado.paso] at moved
    split at moved
    · next fresca reached =>
      split at moved
      · obtain rfl := Option.some.inj moved
        exact coherente.acuna only sano reached
      · obtain rfl := Option.some.inj moved
        exact coherente.falla only sano reached
    · obtain rfl := Option.some.inj moved
      exact coherente.lanza only sano _ s.archivo coherente.deuda
    · obtain rfl := Option.some.inj moved
      exact coherente.cierra only s.archivo s.pendiente coherente.deuda
    · cases moved
  | release id =>
    simp only [Estado.paso] at moved
    split at moved
    · obtain rfl := Option.some.inj moved
      exact coherente.sigue only sano s.archivo s.pendiente rfl trivial coherente.deuda
    · cases moved
  | retiene id =>
    simp only [Estado.paso] at moved
    split at moved
    · obtain rfl := Option.some.inj moved
      exact coherente.cierra only s.archivo s.pendiente coherente.deuda
    · cases moved
  | interrumpe id =>
    simp only [Estado.paso] at moved
    split at moved
    · cases moved
    · obtain rfl := Option.some.inj moved
      exact coherente.cierra only s.archivo s.pendiente coherente.deuda
    · obtain rfl := Option.some.inj moved
      exact coherente.cierra only s.archivo s.pendiente coherente.deuda
    · obtain rfl := Option.some.inj moved
      exact coherente.lanza only sano _ s.archivo coherente.deuda

theorem MismoMundo.sano {s t : Estado} (mismo : MismoMundo s t) {h : Manejador}
    (sano : Sano json uuid golden s h) (alive : h.llamada.proceso ∈ t.vivos)
    (later : s.siguiente ≤ t.siguiente) (open' : ∀ f ∈ t.fallidas, f.1 ≠ h.llamada.id) :
    Sano json uuid golden t h :=
  ⟨alive, Nat.lt_of_lt_of_le sano.id later, open', mismo.faseSana sano.fase⟩

theorem estaVivo_false {vivos : List Proceso} {pid creationTime : Nat} :
    estaVivo vivos pid creationTime = false ↔
      ∀ q ∈ vivos, ¬(q.pid = pid ∧ q.creationTime = creationTime) := by
  simp [estaVivo]

/-- A process that is dead stays dead: no other is born with its identity. -/
theorem Coherente.nace {s t : Estado} (coherente : Coherente json uuid golden s) {p : Proceso}
    (born : s.nace p = some t) : Coherente json uuid golden t := by
  unfold Estado.nace at born
  split at born
  · cases born
  · next new =>
    obtain rfl := Option.some.inj born
    have mismo : MismoMundo s { s with vivos := p :: s.vivos, usados := p :: s.usados } := by
      refine ⟨rfl, rfl, fun q used => List.mem_cons_of_mem p used, ?_⟩
      intro q dead
      obtain ⟨used, gone⟩ := dead
      refine ⟨List.mem_cons_of_mem p used, estaVivo_false.mpr ?_⟩
      intro r alive same
      rcases List.mem_cons.mp alive with rfl | old
      · refine new (.inl (List.any_eq_true.mpr ⟨q, used, ?_⟩))
        simp [same]
      · exact estaVivo_false.mp gone r old same
    constructor
    · refine coherente.unico.imp_right ?_
      rintro ⟨h, only, sano⟩
      exact ⟨h, only, mismo.sano sano (List.mem_cons_of_mem p sano.vive) le_rfl sano.cerradas⟩
    · exact mismo.deuda coherente.deuda
    · exact coherente.fallidas
    · intro q alive
      rcases List.mem_cons.mp alive with rfl | old
      · exact List.mem_cons_self
      · exact List.mem_cons_of_mem p (coherente.vivos q old)

theorem Coherente.muere {s : Estado} (coherente : Coherente json uuid golden s) (p : Proceso) :
    Coherente json uuid golden (s.muere p) := by
  have mismo : MismoMundo s (s.muere p) := by
    refine ⟨rfl, rfl, fun _ => id, ?_⟩
    intro q dead
    refine ⟨dead.1, estaVivo_false.mpr ?_⟩
    intro r alive
    exact estaVivo_false.mp dead.2 r (List.mem_filter.mp alive).1
  constructor
  · rcases coherente.unico with none | ⟨h, only, sano⟩
    · exact .inl (by simp [Estado.muere, none])
    · by_cases own : h.llamada.proceso = p
      · exact .inl (by simp [Estado.muere, only, own])
      · refine .inr ⟨h, by simp [Estado.muere, only, own], ?_⟩
        exact mismo.sano sano (by simp [Estado.muere, sano.vive, own]) le_rfl sano.cerradas
  · exact mismo.deuda coherente.deuda
  · exact coherente.fallidas
  · intro q alive
    exact coherente.vivos q (List.mem_filter.mp alive).1

/-- The call raises without a handle of its own, and that of another call stays. -/
theorem Coherente.rechaza {s : Estado} (coherente : Coherente json uuid golden s) (e : LockError) :
    Coherente json uuid golden
      ({ s with siguiente := s.siguiente + 1 }.lanza s.siguiente e) := by
  have fallidas : ∀ f ∈ (s.siguiente, e) :: s.fallidas, f.1 < s.siguiente + 1 := by
    intro f mem
    rcases List.mem_cons.mp mem with rfl | old
    · exact Nat.lt_succ_self _
    · exact Nat.lt_succ_of_lt (coherente.fallidas f old)
  constructor
  · rcases coherente.unico with none | ⟨h, only, sano⟩
    · exact .inl (by simp [Estado.lanza, Estado.cierra, none])
    · right
      have other : h.llamada.id ≠ s.siguiente := Nat.ne_of_lt sano.id
      refine ⟨h, by simp [Estado.lanza, Estado.cierra, only, other], ?_⟩
      refine (mismo_manejadores s _ _ _).sano sano sano.vive (Nat.le_succ _) ?_
      intro f mem
      rcases List.mem_cons.mp mem with rfl | old
      · exact other.symm
      · exact sano.cerradas f old
  · exact (mismo_manejadores _ _ _ _).deuda coherente.deuda
  · exact fallidas
  · exact coherente.vivos

theorem Coherente.abre {s : Estado} (coherente : Coherente json uuid golden s) {p : Proceso}
    (alive : p ∈ s.vivos) (operationId : String) (takeover ok : Bool) :
    Coherente json uuid golden (s.abre uuid p operationId takeover ok) := by
  unfold Estado.abre
  dsimp only
  split
  · exact coherente.rechaza _
  · next operationId valid =>
    split
    · exact coherente.rechaza _
    · next free =>
      split
      · exact coherente.rechaza _
      · have none : s.manejadores = [] := not_not.mp free
        constructor
        · refine .inr ⟨_, by rw [none], ?_⟩
          constructor
          · exact alive
          · exact Nat.lt_succ_self _
          · intro f old
            exact Nat.ne_of_lt (coherente.fallidas f old)
          · unfold FaseSana
            rfl
        · exact (mismo_manejadores _ _ _ _).deuda coherente.deuda
        · intro f old
          exact Nat.lt_succ_of_lt (coherente.fallidas f old)
        · exact coherente.vivos

theorem Coherente.inicial : Coherente json uuid golden .inicial :=
  ⟨.inl rfl, .sinDeuda rfl, nofun, nofun⟩

theorem Coherente.mueve {s t : Estado} (coherente : Coherente json uuid golden s) {e : Evento}
    {id : Nat} (allowed : permitido json uuid golden s e = true)
    (own : ∀ other escritura, e = .escribe other escritura → other = id)
    (moved : ((s.manejador id).bind fun h => s.paso json uuid golden h e) = some t) :
    Coherente json uuid golden t := by
  obtain ⟨h, found, moved⟩ := Option.bind_eq_some_iff.mp moved
  rcases coherente.unico with none | ⟨k, only, sano⟩
  · simp [Estado.manejador, none] at found
  · obtain rfl := manejador_unico only found
    refine coherente.paso only sano ?_ moved
    intro other escritura write takeover
    rw [write, own other escritura write] at allowed
    simpa [permitido, found, takeover] using allowed

theorem Coherente.step {s t : Estado} (coherente : Coherente json uuid golden s) {e : Evento}
    (allowed : permitido json uuid golden s e = true) (moved : step json uuid golden s e = some t) :
    Coherente json uuid golden t := by
  cases e with
  | nace p => exact coherente.nace moved
  | muere p =>
    obtain rfl := Option.some.inj moved
    exact coherente.muere p
  | abre p operationId takeover ok =>
    simp only [GoldenLockExclusion.step] at moved
    split at moved
    · next alive =>
      obtain rfl := Option.some.inj moved
      exact coherente.abre alive operationId takeover ok
    · cases moved
  | escribe id escritura =>
    refine coherente.mueve allowed ?_ moved
    rintro _ _ ⟨⟩
    rfl
  | lee id tag leido => exact coherente.mueve allowed nofun moved
  | clasifica id ownerAlive ahora => exact coherente.mueve allowed nofun moved
  | confirma id ok => exact coherente.mueve allowed nofun moved
  | release id => exact coherente.mueve allowed nofun moved
  | retiene id => exact coherente.mueve allowed nofun moved
  | interrumpe id => exact coherente.mueve allowed nofun moved

theorem Coherente.nuncaRobado {s : Estado} (coherente : Coherente json uuid golden s) :
    NuncaRobado json uuid golden s := by
  rcases coherente.unico with none | ⟨h, only, sano⟩
  · constructor <;> simp [none]
  · have sound := sano.fase
    constructor
    · rw [only]
      exact List.length_filter_le _ [h]
    · intro k mem
      obtain rfl := List.mem_singleton.mp (only ▸ mem)
      exact sano.cerradas
    · intro k mem unwritten
      obtain rfl := List.mem_singleton.mp (only ▸ mem)
      unfold Manejador.sinEscribir at unwritten
      unfold FaseSana at sound
      split at unwritten
      · next reached =>
        simp only [reached] at sound
        exact sound
      · next reached =>
        simp only [reached] at sound
        exact sound.1
      · next reached =>
        simp only [reached] at sound
        exact sound.1
      · cases unwritten
    · intro k mem alive
      obtain rfl := List.mem_singleton.mp (only ▸ mem)
      unfold Manejador.esVivo at alive
      split at alive
      · next reached =>
        simp only [FaseSana, reached] at sound
        exact sound.1
      · cases alive
    · intro k mem identity operationId p reached
      obtain rfl := List.mem_singleton.mp (only ▸ mem)
      simp only [FaseSana, reached] at sound
      obtain ⟨same, takeover, dead⟩ := sound.2.1 operationId p rfl
      exact ⟨same, takeover, dead.2⟩

end

/-- While no write in a takeover frees the lock, it is never stolen. -/
theorem nunca_robado (json : Json) (uuid : String → Option String) (golden : Golden) {s : Estado}
    (reached : Reaches (step json uuid golden) (· = .inicial)
      (permitido json uuid golden · ·) s) :
    NuncaRobado json uuid golden s := by
  have coherente : Coherente json uuid golden s := reached.invariant
    (fun _ first => first ▸ .inicial) fun _ _ _ sound allowed moved => sound.step allowed moved
  exact coherente.nuncaRobado

/-! A recovery by the same operation, and the clean-up of one that could not confirm its write -/

def goldenMods : Golden := ⟨1, 2, by decide, by decide⟩

def primero : Proceso := ⟨10, 1, 0⟩

def segundo : Proceso := ⟨20, 2, 0⟩

/-- An acquisition until its fresh metadata is written. -/
def adquiere (id : Nat) (p : Proceso) (operationId : String) (takeover : Bool)
    (ownerAlive : Option Bool) : List Evento :=
  [.abre p operationId takeover true, .lee id (some 0) true, .clasifica id ownerAlive (some 5),
    .escribe id .ok]

/-- The first process dies with the lock of `"x"`, and the second one takes it over. -/
def recuperacion : List Evento :=
  .nace primero :: .nace segundo :: adquiere 0 primero "x" false none ++
    ([.confirma 0 true, .muere primero] : List Evento) ++ adquiere 1 segundo "x" true (some false)

/-- What the last call found owed, where it has a live handle. -/
def Estado.debido (s : Estado) : Option (String × Option (String × Proceso)) :=
  match s.manejadores with
  | [h] =>
    match h.fase with
    | .acunado _ debia => some (h.llamada.operationId, debia)
    | _ => none
  | _ => none

theorem lock_recuperado : ∃ s, s.debido = some ("x", some ("x", primero)) ∧
    NuncaRobado jsonPlano some goldenMods s := by
  have done : (run (restricted (step jsonPlano some goldenMods)
      (permitido jsonPlano some goldenMods)) .inicial (recuperacion ++ ([.confirma 1 true] : List Evento))).map
      Estado.debido = some (some ("x", some ("x", primero))) := by
    decide +kernel
  obtain ⟨s, ran, owed⟩ := Option.map_eq_some_iff.mp done
  exact ⟨s, owed, nunca_robado jsonPlano some goldenMods (.of_restricted_run (.start rfl) ran)⟩

/-- The clean-up frees a lock that is not its own, and another operation acquires. -/
theorem lock_robado : ¬ ∀ s,
    Reaches (step jsonPlano some goldenMods) (· = .inicial) (fun _ _ => True) s →
      NuncaRobado jsonPlano some goldenMods s := by
  intro claim
  have done : (run (step jsonPlano some goldenMods) .inicial
      (recuperacion ++ ([.confirma 1 false, .escribe 1 .ok, .confirma 1 true] : List Evento) ++
        adquiere 2 segundo "y" false none ++ ([.confirma 2 true] : List Evento))).map Estado.debido =
      some (some ("y", some ("x", primero))) := by
    decide +kernel
  obtain ⟨s, ran, owed⟩ := Option.map_eq_some_iff.mp done
  have sound := claim s (.of_run (.start rfl) (fun _ _ => trivial) ran)
  unfold Estado.debido at owed
  split at owed
  · next h only =>
    split at owed
    · next identity debia reached =>
      obtain ⟨operation, rfl⟩ := Prod.mk.inj (Option.some.inj owed)
      have same := (sound.deuda h (by simp [only]) identity "x" primero reached).1
      rw [operation] at same
      exact absurd same (by decide)
    · cases owed
  · cases owed

end GoldenLockExclusion
