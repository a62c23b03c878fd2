import SkyClaw.ProtectionJournal

set_option linter.all false

/-!
`golden_mutation_lock.py`: the metadata of the lock of one Golden, how it is written
and read, and what an acquisition makes of what it finds.
-/
namespace GoldenMutationLock
open ProtectionJournal

inductive GoldenLockPhase where
  | authorizationBoundary
  | released
  deriving DecidableEq

def GoldenLockPhase.value : GoldenLockPhase → String
  | authorizationBoundary => "AUTHORIZATION_BOUNDARY"
  | released => "RELEASED"

/-- The messages of `GoldenLockModelError`, with the field they name. -/
inductive ModelError where
  | lockKey
  | noEntero (field : String)
  | rango (field : String) (max : Nat)
  | pidCero
  | operationIdNoTextual
  | operationIdNoUuid
  | operationIdNoCanonico
  | phaseDesconocida
  | createdAtCero
  deriving DecidableEq

/-- The messages of `GoldenLockMetadataError` about what is read. -/
inductive MetadataError where
  | vacia
  | cota (bytes : Nat)
  | noJson
  | noObjeto
  | esquema
  | modelo (e : ModelError)
  deriving DecidableEq

inductive LockError where
  | sharingViolation
  | io
  | reparse (tag : Nat)
  | metadata (e : MetadataError)
  | sustitucionCruzada (lockKey : String)
  | busyOwnerAlive
  | busyOwnerUnreadable
  | orphaned
  | orphanedOperationMismatch (orphanedOperationId : String)
  | modelo (e : ModelError)
  | acquisitionCleanup (cleanupSucceeded : Bool)
  | excepcion
  deriving DecidableEq

structure GoldenLockMetadata where
  lockKey : String
  ownerPid : Nat
  ownerProcessCreationTime : Nat
  sessionId : Nat
  operationId : String
  phase : GoldenLockPhase
  createdAt : Nat
  deriving DecidableEq

/-- The physical identity that the lock is about. -/
structure Golden where
  volumeSerialNumber : Nat
  rootFileId : Nat
  volume_le : volumeSerialNumber ≤ maxUint64
  file_le : rootFileId ≤ maxUint128

def goldenLockNamePrefix : String := "skyclaw_golden_lock_"

def maxMetadataBytes : Nat := 65536

def maxUint32 : Nat := 2 ^ 32 - 1

def maxInt64 : Nat := 2 ^ 63 - 1

def hex (n : Nat) : String := String.ofList (Nat.toDigits 16 n)

def deriveGoldenLockKey (golden : Golden) : String :=
  goldenLockNamePrefix ++ hex golden.volumeSerialNumber ++ "_" ++ hex golden.rootFileId

/-! Validators -/

def validateLockKey : JsonValue → Except ModelError String
  | .str key =>
    if goldenLockNamePrefix.toList.isPrefixOf key.toList then .ok key else .error .lockKey
  | _ => .error .lockKey

def validateUint (value : JsonValue) (field : String) (max : Nat) : Except ModelError Nat :=
  match value with
  | .int n => if 0 ≤ n ∧ n ≤ max then .ok n.toNat else .error (.rango field max)
  | _ => .error (.noEntero field)

def validateCanonicalOperationId (uuid : String → Option String) :
    JsonValue → Except ModelError String
  | .str value =>
    if value = "" then .error .operationIdNoTextual
    else match uuid value with
      | none => .error .operationIdNoUuid
      | some canonical => if canonical = value then .ok value else .error .operationIdNoCanonico
  | _ => .error .operationIdNoTextual

def validatePhase : JsonValue → Except ModelError GoldenLockPhase
  | .str value =>
    if value = GoldenLockPhase.authorizationBoundary.value then .ok .authorizationBoundary
    else if value = GoldenLockPhase.released.value then .ok .released
    else .error .phaseDesconocida
  | _ => .error .phaseDesconocida

def exigir (ok : Bool) (e : ModelError) : Except ModelError Unit := if ok then .ok () else .error e

/-- The constructor of `GoldenLockMetadata`, whose arguments come from a JSON object too. -/
def buildGoldenLockMetadata (uuid : String → Option String) (lockKey ownerPid
    ownerProcessCreationTime sessionId operationId phase createdAt : JsonValue) :
    Except ModelError GoldenLockMetadata := do
  let lockKey ← validateLockKey lockKey
  let ownerPid ← validateUint ownerPid "owner_pid" maxUint32
  exigir (ownerPid ≠ 0) .pidCero
  let creationTime ← validateUint ownerProcessCreationTime "owner_process_creation_time" maxUint64
  let sessionId ← validateUint sessionId "session_id" maxUint32
  let operationId ← validateCanonicalOperationId uuid operationId
  let phase ← validatePhase phase
  let createdAt ← validateUint createdAt "created_at" maxInt64
  exigir (createdAt ≠ 0) .createdAtCero
  return ⟨lockKey, ownerPid, creationTime, sessionId, operationId, phase, createdAt⟩

/-! Bytes -/

/-- The payload of `serialize_golden_lock_metadata`, with the keys in order. -/
def metadataDict (m : GoldenLockMetadata) : List (String × JsonValue) :=
  [("created_at", .int m.createdAt), ("lock_key", .str m.lockKey),
    ("operation_id", .str m.operationId), ("owner_pid", .int m.ownerPid),
    ("owner_process_creation_time", .int m.ownerProcessCreationTime),
    ("phase", .str m.phase.value), ("session_id", .int m.sessionId)]

def lockMetadataKeys : List String :=
  ["lock_key", "owner_pid", "owner_process_creation_time", "session_id", "operation_id", "phase",
    "created_at"]

section
variable (json : Json) (uuid : String → Option String)

def serializeGoldenLockMetadata (m : GoldenLockMetadata) : Bytes := json.dumps (metadataDict m)

/-- The value of a key of a dictionary, where the last pair of a key counts. -/
def campo (pares : List (String × JsonValue)) (field : String) : JsonValue :=
  (pares.reverse.lookup field).getD .otro

def deserializeGoldenLockMetadata (raw : Bytes) : Except MetadataError GoldenLockMetadata :=
  if raw = [] then .error .vacia
  else if maxMetadataBytes < raw.length then .error (.cota raw.length)
  else match json.loads raw with
    | none => .error .noJson
    | some .otro => .error .noObjeto
    | some (.objeto pares) =>
      if !mismasClaves pares lockMetadataKeys then .error .esquema
      else (buildGoldenLockMetadata uuid (campo pares "lock_key") (campo pares "owner_pid")
        (campo pares "owner_process_creation_time") (campo pares "session_id")
        (campo pares "operation_id") (campo pares "phase")
        (campo pares "created_at")).mapError .modelo

/-! What an acquisition makes of the lock file -/

/-- The check for a reparse point and the reading. `tag` and `leido` are what the kernel
answers, and a `none` or a `false` is a `GoldenLockIoError`. -/
def leerLock (golden : Golden) (raw : Bytes) (tag : Option Nat) (leido : Bool) :
    Except LockError (Option GoldenLockMetadata) :=
  match tag with
  | none => .error .io
  | some tag =>
    if tag ≠ 0 then .error (.reparse tag)
    else if !leido ∨ maxMetadataBytes < raw.length then .error .io
    else if raw = [] then .ok none
    else match deserializeGoldenLockMetadata json uuid raw with
      | .error e => .error (.metadata e)
      | .ok m =>
        if m.lockKey ≠ deriveGoldenLockKey golden then .error (.sustitucionCruzada m.lockKey)
        else .ok (some m)

inductive PreexistingLockDisposition where
  | noPreexisting
  | residualReleased
  | busyOwnerAlive
  | busyOwnerUnreadable
  | orphanedLock
  deriving DecidableEq

def classifyPreexistingLock (metadata : Option GoldenLockMetadata) (ownerAlive : Option Bool) :
    PreexistingLockDisposition :=
  match metadata with
  | none => .noPreexisting
  | some m =>
    if m.phase = .released then .residualReleased
    else match ownerAlive with
      | some true => .busyOwnerAlive
      | none => .busyOwnerUnreadable
      | some false => .orphanedLock

/-- The gates of `_acquire_lock_core` between the reading and the writing. -/
def admitirLock (metadata : Option GoldenLockMetadata) (ownerAlive : Option Bool)
    (allowOrphanedTakeover : Bool) (operationId : String) :
    Except LockError PreexistingLockDisposition :=
  match classifyPreexistingLock metadata ownerAlive with
  | .busyOwnerAlive => .error .busyOwnerAlive
  | .busyOwnerUnreadable => .error .busyOwnerUnreadable
  | .orphanedLock =>
    if !allowOrphanedTakeover then .error .orphaned
    else match metadata with
      | some m =>
        if m.operationId ≠ operationId then .error (.orphanedOperationMismatch m.operationId)
        else .ok .orphanedLock
      | none => .ok .orphanedLock
  | other => .ok other

/-- The identity of a process. `creationTime` tells the processes of one `pid` apart. -/
structure Proceso where
  pid : Nat
  creationTime : Nat
  sessionId : Nat
  deriving DecidableEq

def metadataFresca (golden : Golden) (proceso : Proceso) (operationId : String) (ahora : Int) :
    Except ModelError GoldenLockMetadata :=
  buildGoldenLockMetadata uuid (.str (deriveGoldenLockKey golden)) (.int proceso.pid)
    (.int proceso.creationTime) (.int proceso.sessionId) (.str operationId)
    (.str GoldenLockPhase.authorizationBoundary.value) (.int ahora)

def GoldenLockMetadata.liberada (m : GoldenLockMetadata) : GoldenLockMetadata :=
  { m with phase := .released }

/-- How a write ends. One that fails may leave anything behind. -/
inductive Escritura where
  | ok
  | falla (queda : Bytes)
  deriving DecidableEq

/-- `write_lock_bytes`: what the file holds then, and whether it was confirmed. -/
def escribirLock (archivo : Bytes) (m : GoldenLockMetadata) (escritura : Escritura) : Bytes × Bool :=
  let payload := serializeGoldenLockMetadata json m
  if maxMetadataBytes < payload.length then (archivo, false)
  else match escritura with
    | .ok => (payload, true)
    | .falla queda => (queda, false)

end

/-! Written metadata is read back -/

section
variable {json : Json} {uuid : String → Option String}

theorem bind_ok {ε α β : Type} {x : Except ε α} {f : α → Except ε β} {y : β} :
    (x >>= f) = .ok y ↔ ∃ a, x = .ok a ∧ f a = .ok y := by
  cases x with
  | error e => exact ⟨nofun, nofun⟩
  | ok a =>
    constructor
    · exact fun h => ⟨a, rfl, h⟩
    · intro ⟨b, same, h⟩
      exact Except.ok.inj same ▸ h

theorem validateUint_ok {value : JsonValue} {field : String} {max n : Nat}
    (ok : validateUint value field max = .ok n) : validateUint (.int n) field max = .ok n := by
  unfold validateUint at ok ⊢
  split at ok
  · next m =>
    split at ok
    · next bounds =>
      obtain rfl := Except.ok.inj ok
      rw [if_pos (by omega), Int.toNat_natCast]
    · cases ok
  · cases ok

theorem validateLockKey_ok {value : JsonValue} {key : String}
    (ok : validateLockKey value = .ok key) : validateLockKey (.str key) = .ok key := by
  unfold validateLockKey at ok
  split at ok
  · next same =>
    split at ok
    · next starts =>
      obtain rfl := Except.ok.inj ok
      exact if_pos starts
    · cases ok
  · cases ok

theorem validateCanonicalOperationId_ok {value : JsonValue} {id : String}
    (ok : validateCanonicalOperationId uuid value = .ok id) :
    validateCanonicalOperationId uuid (.str id) = .ok id := by
  unfold validateCanonicalOperationId at ok
  split at ok
  · next text =>
    have same : text = id := by
      split at ok
      · cases ok
      · split at ok
        · cases ok
        · split at ok
          · exact Except.ok.inj ok
          · cases ok
    subst same
    exact ok
  · cases ok

theorem validatePhase_value (phase : GoldenLockPhase) :
    validatePhase (.str phase.value) = .ok phase := by
  cases phase <;> rfl

/-- Metadata that its own constructor accepts as it is. -/
def GoldenLockMetadata.Valida (uuid : String → Option String) (m : GoldenLockMetadata) : Prop :=
  buildGoldenLockMetadata uuid (.str m.lockKey) (.int m.ownerPid)
    (.int m.ownerProcessCreationTime) (.int m.sessionId) (.str m.operationId)
    (.str m.phase.value) (.int m.createdAt) = .ok m

theorem buildGoldenLockMetadata_valida {key pid creation session operation phase created : JsonValue}
    {m : GoldenLockMetadata}
    (built : buildGoldenLockMetadata uuid key pid creation session operation phase created = .ok m) :
    m.Valida uuid := by
  simp only [buildGoldenLockMetadata, bind_ok] at built
  obtain ⟨k, hk, p, hp, _, hp0, c, hc, s, hs, o, ho, f, _, t, ht, _, ht0, same⟩ := built
  obtain rfl := Except.ok.inj same
  simp only [GoldenLockMetadata.Valida, buildGoldenLockMetadata, validateLockKey_ok hk,
    validateUint_ok hp, validateUint_ok hc, validateUint_ok hs,
    validateCanonicalOperationId_ok ho, validatePhase_value, validateUint_ok ht]
  simp only [bind, Except.bind, hp0, ht0]
  rfl

theorem serialize_ne_nil (m : GoldenLockMetadata) : serializeGoldenLockMetadata json m ≠ [] :=
  json.dumps_ne_nil _

theorem deserialize_serialize {m : GoldenLockMetadata} (valida : m.Valida uuid)
    (fits : (serializeGoldenLockMetadata json m).length ≤ maxMetadataBytes) :
    deserializeGoldenLockMetadata json uuid (serializeGoldenLockMetadata json m) = .ok m := by
  have ordered : (metadataDict m).Pairwise fun a b => a.1 < b.1 := by
    simp only [metadataDict, List.pairwise_cons, List.mem_cons, List.not_mem_nil, or_false,
      forall_eq_or_imp, forall_eq, List.Pairwise.nil, and_true, IsEmpty.forall_iff, implies_true]
    decide
  have values : ∀ p ∈ metadataDict m, p.2 ≠ .otro := by simp [metadataDict]
  have keys : mismasClaves (metadataDict m) lockMetadataKeys = true := by
    simp [mismasClaves, metadataDict, lockMetadataKeys]
  have loaded : json.loads (serializeGoldenLockMetadata json m) = some (.objeto (metadataDict m)) :=
    json.loads_dumps _ ordered values
  unfold deserializeGoldenLockMetadata
  rw [if_neg (serialize_ne_nil m), if_neg (Nat.not_lt.mpr fits), loaded]
  dsimp only
  rw [keys]
  have fields : ∀ field value, (metadataDict m).reverse.lookup field = some value →
      campo (metadataDict m) field = value := by
    intro field value found
    rw [campo, found, Option.getD_some]
  rw [fields "lock_key" (.str m.lockKey) rfl, fields "owner_pid" (.int m.ownerPid) rfl,
    fields "owner_process_creation_time" (.int m.ownerProcessCreationTime) rfl,
    fields "session_id" (.int m.sessionId) rfl, fields "operation_id" (.str m.operationId) rfl,
    fields "phase" (.str m.phase.value) rfl, fields "created_at" (.int m.createdAt) rfl]
  unfold GoldenLockMetadata.Valida at valida
  rw [valida]
  rfl

theorem metadataFresca_ok {golden : Golden} {proceso : Proceso} {operationId : String} {ahora : Int}
    {m : GoldenLockMetadata}
    (built : metadataFresca uuid golden proceso operationId ahora = .ok m) :
    m.Valida uuid ∧ m.lockKey = deriveGoldenLockKey golden ∧ m.ownerPid = proceso.pid ∧
      m.ownerProcessCreationTime = proceso.creationTime ∧ m.operationId = operationId ∧
      m.phase = .authorizationBoundary := by
  refine ⟨buildGoldenLockMetadata_valida built, ?_⟩
  simp only [metadataFresca, buildGoldenLockMetadata, bind_ok] at built
  obtain ⟨k, hk, p, hp, _, _, c, hc, s, _, o, ho, f, hf, t, _, _, _, same⟩ := built
  obtain rfl := Except.ok.inj same
  have uint : ∀ {n max m : Nat} {field : String}, validateUint (.int n) field max = .ok m →
      m = n := by
    intro n max m field ok
    simp only [validateUint] at ok
    split at ok
    · have same := Except.ok.inj ok
      omega
    · cases ok
  have key : deriveGoldenLockKey golden = k := by
    simp only [validateLockKey] at hk
    split at hk
    · exact Except.ok.inj hk
    · cases hk
  have operation : operationId = o := by
    simp only [validateCanonicalOperationId] at ho
    split at ho
    · cases ho
    · split at ho
      · cases ho
      · split at ho
        · exact Except.ok.inj ho
        · cases ho
  rw [validatePhase_value] at hf
  exact ⟨key.symm, uint hp, uint hc, operation.symm, (Except.ok.inj hf).symm⟩

/-- What a confirmed write leaves is read back by the next acquisition. -/
theorem leerLock_escrito {golden : Golden} {m : GoldenLockMetadata} (valida : m.Valida uuid)
    (key : m.lockKey = deriveGoldenLockKey golden)
    (fits : (serializeGoldenLockMetadata json m).length ≤ maxMetadataBytes) :
    leerLock json uuid golden (serializeGoldenLockMetadata json m) (some 0) true = .ok (some m) := by
  unfold leerLock
  dsimp only
  rw [if_neg (by simp), if_neg (by simpa using fits), if_neg (serialize_ne_nil m),
    deserialize_serialize valida fits]
  simp [key]

/-- Metadata that is not released is only admitted as an orphan of the same operation, by a
recovery that was told that the owner is dead. -/
theorem admitirLock_ok {metadata : Option GoldenLockMetadata} {ownerAlive : Option Bool}
    {takeover : Bool} {operationId : String} {disposition : PreexistingLockDisposition}
    (ok : admitirLock metadata ownerAlive takeover operationId = .ok disposition)
    {m : GoldenLockMetadata} (found : metadata = some m) :
    m.phase = .released ∨ (m.operationId = operationId ∧ takeover = true ∧
      ownerAlive = some false) := by
  subst found
  by_cases free : m.phase = .released
  · exact .inl free
  · right
    simp only [admitirLock, classifyPreexistingLock, if_neg free] at ok
    match ownerAlive with
    | none => cases ok
    | some true => cases ok
    | some false =>
      dsimp only at ok
      split at ok
      · cases ok
      · next allowed =>
        split at ok
        · cases ok
        · next same => exact ⟨not_not.mp same, by simpa using allowed, rfl⟩

end

end GoldenMutationLock
