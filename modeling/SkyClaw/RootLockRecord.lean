import Mathlib
import SkyClaw.Checks

set_option linter.all false

/-!
The owner record of a root lock, `root_lock.py`: how it is written and read, what is
known of its owner, and what an acquisition makes of it. Times are in ten-millionths of
a second.
-/
namespace FrozenRootLock
open Checks

abbrev Bytes := List UInt8

inductive LockPhase where
  | held
  | released
  deriving DecidableEq

def LockPhase.value : LockPhase → String
  | held => "HELD"
  | released => "RELEASED"

/-- A value of the record. `otro` is one that no field accepts. -/
inductive Valor where
  | texto (s : String)
  | entero (n : Int)
  | real (t : Int)
  | otro
  deriving DecidableEq

inductive Documento where
  | objeto (pares : List (String × Valor))
  | otro
  deriving DecidableEq

/-- The module `json`, on the objects of this file. Spaces may follow a document. -/
structure Json where
  dumps : List (String × Valor) → Bytes
  loads : Bytes → Option Documento
  loads_dumps : ∀ pares spaces, pares.Pairwise (fun a b => a.1 < b.1) →
    (∀ p ∈ pares, p.2 ≠ .otro) →
      loads (dumps pares ++ List.replicate spaces 32) = some (.objeto pares)
  dumps_ne_nil : ∀ pares, dumps pares ≠ []

/-- The messages of `FrozenRuntimeLockMetadataError`. -/
inductive MetadataError where
  | vacia
  | noJson
  | noObjeto
  | campos (claves : List String)
  | schemaVersion
  | canonicalRoot
  | otroRoot (canonicalRoot : String)
  | sessionNoTextual
  | sessionNoUuid
  | pid
  | processCreateTime
  | acquiredAt
  | phase
  | releasedAtSobra
  | releasedAtFalta
  | releasedAt
  | releasedAtAnterior
  deriving DecidableEq

structure RootLockMetadata where
  schemaVersion : Int
  canonicalRoot : String
  sessionId : String
  pid : Int
  processCreateTime : Int
  acquiredAt : Int
  phase : LockPhase
  releasedAt : Option Int
  deriving DecidableEq

/-- `os.path.abspath` is never empty. -/
abbrev CanonicalRoot := {s : String // s ≠ ""}

def lockSchemaVersion : Int := 1

def lockOwnerFields : List String :=
  ["schema_version", "canonical_root", "session_id", "pid", "process_create_time", "acquired_at",
    "phase"]

def lockMetadataAllowedFields : List String := "released_at" :: lockOwnerFields

/-! Reading -/

/-- The value of a key, where the last pair of a key counts. -/
def campo (pares : List (String × Valor)) (field : String) : Option Valor :=
  pares.reverse.lookup field

def Valor.aTexto : Valor → Option String
  | texto s => some s
  | _ => none

def Valor.aEntero : Valor → Option Int
  | entero n => some n
  | _ => none

/-- A time that is positive and finite. -/
def Valor.aInstante : Valor → Option Int
  | entero n => if 0 < n then some (n * 10 ^ 7) else none
  | real t => if 0 < t then some t else none
  | _ => none

def Valor.aFase : Valor → Option LockPhase
  | texto s =>
    if s = LockPhase.held.value then some .held
    else if s = LockPhase.released.value then some .released
    else none
  | _ => none

def leerReleasedAt (releasedAt : Option Valor) (acquiredAt : Int) :
    LockPhase → Except MetadataError (Option Int)
  | .held => do
    require (releasedAt = none) .releasedAtSobra
    return none
  | .released => do
    let valor ← present .releasedAtFalta releasedAt
    let instante ← present .releasedAt valor.aInstante
    require (acquiredAt ≤ instante) .releasedAtAnterior
    return some instante

section
variable (json : Json) (uuid : String → Option String) (root : CanonicalRoot)

def leerCampos (pares : List (String × Valor)) : Except MetadataError RootLockMetadata := do
  let claves := pares.map (·.1)
  require (lockOwnerFields ⊆ claves ∧ claves ⊆ lockMetadataAllowedFields) (.campos claves)
  require (campo pares "schema_version" = some (.entero lockSchemaVersion)) .schemaVersion
  let canonicalRoot ← present .canonicalRoot ((campo pares "canonical_root").bind Valor.aTexto)
  require (canonicalRoot ≠ "") .canonicalRoot
  require (canonicalRoot = root.val) (.otroRoot canonicalRoot)
  let sessionId ← present .sessionNoTextual ((campo pares "session_id").bind Valor.aTexto)
  require (uuid sessionId = some sessionId) .sessionNoUuid
  let pid ← present .pid ((campo pares "pid").bind Valor.aEntero)
  require (0 < pid) .pid
  let createTime ← present .processCreateTime
    ((campo pares "process_create_time").bind Valor.aInstante)
  let acquiredAt ← present .acquiredAt ((campo pares "acquired_at").bind Valor.aInstante)
  let phase ← present .phase ((campo pares "phase").bind Valor.aFase)
  let releasedAt ← leerReleasedAt (campo pares "released_at") acquiredAt phase
  return ⟨lockSchemaVersion, canonicalRoot, sessionId, pid, createTime, acquiredAt, phase, releasedAt⟩

def readMetadataBytes (raw : Bytes) : Except MetadataError RootLockMetadata :=
  if raw = [] then .error .vacia
  else match json.loads raw with
    | none => .error .noJson
    | some .otro => .error .noObjeto
    | some (.objeto pares) => leerCampos uuid root pares

/-- What a lock file says, which may not exist and is empty until its first record. -/
def leerArchivo : Option Bytes → Except MetadataError (Option RootLockMetadata)
  | none => .ok none
  | some raw => if raw = [] then .ok none else (readMetadataBytes json uuid root raw).map some

end

/-! Writing -/

def RootLockMetadata.payload (m : RootLockMetadata) : List (String × Valor) :=
  ([("acquired_at", .real m.acquiredAt), ("canonical_root", .texto m.canonicalRoot),
    ("phase", .texto m.phase.value), ("pid", .entero m.pid),
    ("process_create_time", .real m.processCreateTime)] : List (String × Valor)) ++
  (m.releasedAt.map fun t => ("released_at", Valor.real t)).toList ++
  ([("schema_version", .entero m.schemaVersion), ("session_id", .texto m.sessionId)] :
    List (String × Valor))

def serializa (json : Json) (m : RootLockMetadata) : Bytes := json.dumps m.payload

/-- What `_write_metadata_crash_safe` writes over a file of some size before it truncates it. -/
def durablePayload (json : Json) (m : RootLockMetadata) (oldSize : Nat) : Bytes :=
  serializa json m ++ List.replicate (oldSize - (serializa json m).length) 32

/-- The record that `release` writes. -/
def RootLockMetadata.liberada (m : RootLockMetadata) (now : Int) : RootLockMetadata :=
  { m with phase := .released, releasedAt := some (max now m.acquiredAt) }

/-! The owner -/

/-- The identity of a process. -/
structure Proceso where
  pid : Int
  createTime : Int
  deriving DecidableEq

/-- At most `1e-4` seconds apart. -/
def cerca (a b : Int) : Bool := (a - b).natAbs ≤ 1000

inductive OwnerLiveness where
  | alive
  | dead
  | indeterminate
  deriving DecidableEq

/-- What `psutil` answers about a process id. -/
inductive Consulta where
  | noSuchProcess
  | error
  | visto (createTime : Int) (isRunning isZombie : Bool)
  deriving DecidableEq

def checkProcessLiveness (pid expectedCreateTime : Int) (consulta : Consulta) : OwnerLiveness :=
  if pid ≤ 0 then .dead
  else match consulta with
    | .noSuchProcess => .dead
    | .error => .indeterminate
    | .visto createTime isRunning isZombie =>
      if !isRunning then .dead
      else if isZombie then .dead
      else if cerca createTime expectedCreateTime then .alive
      else .dead

/-- The process is there with this identity. -/
def estaVivo (vivos : List Proceso) (pid createTime : Int) : Bool :=
  vivos.any fun p => p.pid = pid && cerca p.createTime createTime

/-- A query says that a process is there, or is not, only when that is so. -/
def Consulta.veraz (vivos : List Proceso) (pid : Int) : Consulta → Bool
  | noSuchProcess => vivos.all fun p => p.pid ≠ pid
  | error => true
  | visto createTime isRunning isZombie =>
    if isRunning && !isZombie then vivos.any fun p => p.pid = pid && p.createTime = createTime
    else vivos.all fun p => p.pid ≠ pid

/-- The record names this process. -/
def RootLockMetadata.esDe (m : RootLockMetadata) (p : Proceso) : Bool :=
  m.pid = p.pid && cerca m.processCreateTime p.createTime

/-- `activo` is whether the process has an active handle. -/
def isSameProcessStaleRecord (m : RootLockMetadata) (root : CanonicalRoot) (p : Proceso)
    (activo : Bool) : Bool :=
  m.phase = .held && m.canonicalRoot = root.val && m.esDe p && !activo

inductive LockError where
  | busyThread
  | busyProcess
  | busyOwner (pid : Int)
  | indeterminate
  | orphaned (pid : Int)
  | metadata (e : MetadataError)
  | persistencia
  | excepcion
  deriving DecidableEq

/-- What `acquire_frozen_runtime_root_lock` makes of a record whose phase is `HELD`. -/
def admiteHeld (m : RootLockMetadata) (liveness : OwnerLiveness)
    (residuoLocal reclaimOrphaned : Bool) : Except LockError Unit := do
  require (¬(liveness = .alive ∧ residuoLocal = false)) (.busyOwner m.pid)
  require (liveness ≠ .indeterminate) .indeterminate
  require (¬(liveness = .dead ∧ reclaimOrphaned = false)) (.orphaned m.pid)

/-- The comparisons of `_validate_handle_ownership` with what the file says. -/
def coincideEnDisco (handle disco : RootLockMetadata) : Bool :=
  disco.sessionId = handle.sessionId && disco.pid = handle.pid &&
    disco.canonicalRoot = handle.canonicalRoot &&
    cerca disco.processCreateTime handle.processCreateTime &&
    cerca disco.acquiredAt handle.acquiredAt && disco.phase = .held

/-! Written records are read back -/

structure RootLockMetadata.Valida (uuid : String → Option String) (root : CanonicalRoot)
    (m : RootLockMetadata) : Prop where
  schema : m.schemaVersion = lockSchemaVersion
  canonical : m.canonicalRoot = root.val
  session : uuid m.sessionId = some m.sessionId
  pid : 0 < m.pid
  createTime : 0 < m.processCreateTime
  acquired : 0 < m.acquiredAt
  released : m.releasedAt = none ↔ m.phase = .held
  later : ∀ t, m.releasedAt = some t → m.acquiredAt ≤ t

section
variable {json : Json} {uuid : String → Option String} {root : CanonicalRoot} {m : RootLockMetadata}

theorem RootLockMetadata.Valida.liberada (valida : m.Valida uuid root) (now : Int) :
    (m.liberada now).Valida uuid root := by
  constructor
  · exact valida.schema
  · exact valida.canonical
  · exact valida.session
  · exact valida.pid
  · exact valida.createTime
  · exact valida.acquired
  · simp [RootLockMetadata.liberada]
  · intro t same
    obtain rfl := Option.some.inj same
    exact Int.le_max_right _ _

theorem aFase_value (phase : LockPhase) : (Valor.texto phase.value).aFase = some phase := by
  cases phase <;> rfl

theorem aInstante_real {t : Int} (positive : 0 < t) : (Valor.real t).aInstante = some t :=
  if_pos positive

theorem campo_payload (m : RootLockMetadata) :
    campo m.payload "schema_version" = some (.entero m.schemaVersion) ∧
    campo m.payload "canonical_root" = some (.texto m.canonicalRoot) ∧
    campo m.payload "session_id" = some (.texto m.sessionId) ∧
    campo m.payload "pid" = some (.entero m.pid) ∧
    campo m.payload "process_create_time" = some (.real m.processCreateTime) ∧
    campo m.payload "acquired_at" = some (.real m.acquiredAt) ∧
    campo m.payload "phase" = some (.texto m.phase.value) ∧
    campo m.payload "released_at" = m.releasedAt.map Valor.real := by
  unfold campo RootLockMetadata.payload
  cases m.releasedAt with
  | none => exact ⟨rfl, rfl, rfl, rfl, rfl, rfl, rfl, rfl⟩
  | some t => exact ⟨rfl, rfl, rfl, rfl, rfl, rfl, rfl, rfl⟩

theorem claves_payload (m : RootLockMetadata) :
    lockOwnerFields ⊆ m.payload.map (·.1) ∧
      m.payload.map (·.1) ⊆ lockMetadataAllowedFields := by
  unfold RootLockMetadata.payload
  cases m.releasedAt with
  | none => simp [lockOwnerFields, lockMetadataAllowedFields]
  | some t => simp [lockOwnerFields, lockMetadataAllowedFields]

theorem payload_ascending (m : RootLockMetadata) :
    m.payload.Pairwise fun a b => a.1 < b.1 := by
  have claves : (m.payload.map (·.1)).Pairwise (· < ·) := by
    unfold RootLockMetadata.payload
    cases m.releasedAt with
    | none =>
      show ["acquired_at", "canonical_root", "phase", "pid", "process_create_time",
        "schema_version", "session_id"].Pairwise (· < ·)
      decide
    | some t =>
      show ["acquired_at", "canonical_root", "phase", "pid", "process_create_time", "released_at",
        "schema_version", "session_id"].Pairwise (· < ·)
      decide
  exact List.pairwise_map.mp claves

theorem payload_writable (m : RootLockMetadata) : ∀ p ∈ m.payload, p.2 ≠ .otro := by
  unfold RootLockMetadata.payload
  cases m.releasedAt with
  | none => simp
  | some t => simp

theorem leerReleasedAt_payload (valida : m.Valida uuid root) :
    leerReleasedAt (m.releasedAt.map Valor.real) m.acquiredAt m.phase = .ok m.releasedAt := by
  cases phase : m.phase with
  | held =>
    rw [valida.released.mpr phase]
    rfl
  | released =>
    cases released : m.releasedAt with
    | none => exact absurd (valida.released.mp released) (by simp [phase])
    | some t =>
      have later := valida.later t released
      have positive : 0 < t := Int.lt_of_lt_of_le valida.acquired later
      simp only [leerReleasedAt, bind_ok, present_ok, require_ok, pure_ok, Option.map_some]
      exact ⟨_, rfl, t, aInstante_real positive, (), later, rfl⟩

theorem leerCampos_payload (valida : m.Valida uuid root) :
    leerCampos uuid root m.payload = .ok m := by
  obtain ⟨schema, canonical, session, pid, createTime, acquired, phase, released⟩ := campo_payload m
  simp only [leerCampos, bind_ok, require_ok, present_ok, pure_ok, exists_const, schema, canonical,
    session, pid, createTime, acquired, phase, released, Option.bind_some, valida.schema]
  refine ⟨claves_payload m, trivial, m.canonicalRoot, rfl, valida.canonical ▸ root.property,
    valida.canonical, m.sessionId, rfl, valida.session, m.pid, rfl, valida.pid,
    m.processCreateTime, aInstante_real valida.createTime, m.acquiredAt,
    aInstante_real valida.acquired, m.phase, aFase_value m.phase, m.releasedAt,
    leerReleasedAt_payload valida, ?_⟩
  rw [← valida.schema]

/-- A record is read back before the file is truncated as well as after. -/
theorem leerArchivo_durable (valida : m.Valida uuid root) (oldSize : Nat) :
    leerArchivo json uuid root (some (durablePayload json m oldSize)) = .ok (some m) := by
  have written : durablePayload json m oldSize ≠ [] := by
    intro empty
    exact json.dumps_ne_nil _ (List.append_eq_nil_iff.mp empty).1
  have loaded : json.loads (durablePayload json m oldSize) = some (.objeto m.payload) :=
    json.loads_dumps _ _ (payload_ascending m) (payload_writable m)
  simp only [leerArchivo, if_neg written, readMetadataBytes, loaded, leerCampos_payload valida,
    Except.map]

theorem leerArchivo_serializa (valida : m.Valida uuid root) :
    leerArchivo json uuid root (some (serializa json m)) = .ok (some m) := by
  have same : durablePayload json m 0 = serializa json m := by simp [durablePayload]
  exact same ▸ leerArchivo_durable valida 0

theorem aInstante_ok {v : Valor} {t : Int} (ok : v.aInstante = some t) : 0 < t := by
  cases v with
  | entero n =>
    simp only [Valor.aInstante] at ok
    split at ok
    · have same := Option.some.inj ok
      omega
    · cases ok
  | real n =>
    simp only [Valor.aInstante] at ok
    split at ok
    · next positive => exact Option.some.inj ok ▸ positive
    · cases ok
  | texto s => cases ok
  | otro => cases ok

theorem leerReleasedAt_ok {valor : Option Valor} {acquiredAt : Int} {phase : LockPhase}
    {releasedAt : Option Int} (ok : leerReleasedAt valor acquiredAt phase = .ok releasedAt) :
    (releasedAt = none ↔ phase = .held) ∧ ∀ t, releasedAt = some t → acquiredAt ≤ t := by
  cases phase with
  | held =>
    simp only [leerReleasedAt, bind_ok, require_ok, pure_ok, exists_const] at ok
    obtain ⟨_, rfl⟩ := ok
    exact ⟨by simp, by simp⟩
  | released =>
    simp only [leerReleasedAt, bind_ok, present_ok, require_ok, pure_ok, exists_const] at ok
    obtain ⟨_, _, t, _, later, rfl⟩ := ok
    refine ⟨by simp, ?_⟩
    intro u same
    exact Option.some.inj same ▸ later

/-- What is accepted is a record of this root that its own checks accept. -/
theorem leerCampos_ok {pares : List (String × Valor)} (ok : leerCampos uuid root pares = .ok m) :
    m.Valida uuid root := by
  simp only [leerCampos, bind_ok, require_ok, present_ok, pure_ok, exists_const] at ok
  obtain ⟨_, _, canonical, _, _, rooted, session, _, known, pid, _, positive, createTime, created,
    acquiredAt, acquired, phase, _, releasedAt, released, rfl⟩ := ok
  obtain ⟨ends, later⟩ := leerReleasedAt_ok released
  obtain ⟨_, _, created⟩ := Option.bind_eq_some_iff.mp created
  obtain ⟨_, _, acquired⟩ := Option.bind_eq_some_iff.mp acquired
  exact ⟨rfl, rooted, known, positive, aInstante_ok created, aInstante_ok acquired, ends, later⟩

theorem leerArchivo_ok {archivo : Option Bytes}
    (ok : leerArchivo json uuid root archivo = .ok (some m)) : m.Valida uuid root := by
  cases archivo with
  | none => cases ok
  | some raw =>
    simp only [leerArchivo, readMetadataBytes] at ok
    split at ok
    · cases ok
    · split at ok
      · cases ok
      · cases ok
      · next pares _ =>
        cases read : leerCampos uuid root pares with
        | error e => simp [read, Except.map] at ok
        | ok n =>
          rw [read] at ok
          obtain rfl := Option.some.inj (Except.ok.inj ok)
          exact leerCampos_ok read

/-! What is known of the owner -/

theorem cerca_refl (t : Int) : cerca t t = true := by simp [cerca]

theorem cerca_comm (a b : Int) : cerca a b = cerca b a := by
  simp only [cerca, decide_eq_decide]
  omega

/-- No query says that a living owner is dead, or that a dead one is alive. -/
theorem checkProcessLiveness_veraz {vivos : List Proceso} {pid createTime : Int} {consulta : Consulta}
    (positive : 0 < pid) (truthful : consulta.veraz vivos pid = true)
    (one : ∀ p ∈ vivos, ∀ q ∈ vivos, p.pid = q.pid → p = q) :
    (checkProcessLiveness pid createTime consulta = .alive → estaVivo vivos pid createTime = true) ∧
      (checkProcessLiveness pid createTime consulta = .dead →
        estaVivo vivos pid createTime = false) := by
  have absent : (vivos.all fun p => p.pid ≠ pid) = true → estaVivo vivos pid createTime = false := by
    intro none
    simp only [estaVivo, List.any_eq_false]
    intro p mem
    have other := List.all_eq_true.mp none p mem
    simp only [decide_eq_true_eq] at other
    simp [other]
  simp only [checkProcessLiveness, if_neg (Int.not_le.mpr positive)]
  cases consulta with
  | noSuchProcess => exact ⟨nofun, fun _ => absent truthful⟩
  | error => exact ⟨nofun, nofun⟩
  | visto seen isRunning isZombie =>
    cases isRunning with
    | false => exact ⟨nofun, fun _ => absent truthful⟩
    | true =>
      cases isZombie with
      | true => exact ⟨nofun, fun _ => absent truthful⟩
      | false =>
        obtain ⟨p, mem, same⟩ := List.any_eq_true.mp truthful
        simp only [Bool.and_eq_true, decide_eq_true_eq] at same
        obtain ⟨rfl, rfl⟩ := same
        dsimp only [Bool.not_true, Bool.false_eq_true]
        rw [if_neg (by simp), if_neg (by simp)]
        constructor
        · intro alive
          split at alive
          · next near =>
            exact List.any_eq_true.mpr ⟨p, mem, by simp [near]⟩
          · cases alive
        · intro dead
          split at dead
          · cases dead
          · next far =>
            simp only [estaVivo, List.any_eq_false]
            intro q other both
            simp only [Bool.and_eq_true, decide_eq_true_eq] at both
            obtain rfl := one q other p mem both.1
            exact far both.2

/-- A record with an owner is let through when it is a residue of this process, or a
reclaim was asked for and the answer was that the owner is dead. -/
theorem admiteHeld_ok {liveness : OwnerLiveness} {residuoLocal reclaimOrphaned : Bool}
    (ok : admiteHeld m liveness residuoLocal reclaimOrphaned = .ok ()) :
    (liveness = .alive ∧ residuoLocal = true) ∨ (liveness = .dead ∧ reclaimOrphaned = true) := by
  simp only [admiteHeld, bind_ok, require_ok, exists_const, not_and, Bool.not_eq_false] at ok
  obtain ⟨alive, known, dead⟩ := ok
  cases liveness with
  | alive => exact .inl ⟨rfl, alive rfl⟩
  | dead => exact .inr ⟨rfl, dead rfl⟩
  | indeterminate => exact absurd rfl known

end

end FrozenRootLock
