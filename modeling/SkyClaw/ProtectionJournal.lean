import Mathlib
import SkyClaw.FramedLog
import SkyClaw.TrimmedText

set_option linter.all false

/-!
The journal of a Golden protection, `protection_journal.py`: its records, the
lines they are written as, and the replay that derives the state from them.
`Json` holds what the journal needs of the module `json`; `uuid` stands for
`str(uuid.UUID(..))`.
-/
namespace ProtectionJournal
open TrimmedText

local instance lawfulBEq_parte : LawfulBEq (List Char) := inferInstance

abbrev Bytes := List UInt8

inductive ProtectionTransactionState where
  | preparing
  | prepared
  | awaitingElevation
  | applying
  | verifyingGp1
  | verifyingRv2
  | verifyingNodeSet
  | archivingBackup
  | committed
  | cancelled
  | elevationRejected
  | refuseToApply
  | refuseToPlan
  | rollbackRequired
  | rollingBack
  | rolledBack
  | rollbackFailed
  | indeterminate
  deriving DecidableEq

namespace ProtectionTransactionState

def value : ProtectionTransactionState → String
  | preparing => "preparing"
  | prepared => "prepared"
  | awaitingElevation => "awaiting_elevation"
  | applying => "applying"
  | verifyingGp1 => "verifying_gp1"
  | verifyingRv2 => "verifying_rv2"
  | verifyingNodeSet => "verifying_node_set"
  | archivingBackup => "archiving_backup"
  | committed => "committed"
  | cancelled => "cancelled"
  | elevationRejected => "elevation_rejected"
  | refuseToApply => "refuse_to_apply"
  | refuseToPlan => "refuse_to_plan"
  | rollbackRequired => "rollback_required"
  | rollingBack => "rolling_back"
  | rolledBack => "rolled_back"
  | rollbackFailed => "rollback_failed"
  | indeterminate => "indeterminate"

def todos : List ProtectionTransactionState :=
  [preparing, prepared, awaitingElevation, applying, verifyingGp1, verifyingRv2,
    verifyingNodeSet, archivingBackup, committed, cancelled, elevationRejected, refuseToApply,
    refuseToPlan, rollbackRequired, rollingBack, rolledBack, rollbackFailed, indeterminate]

def deTexto (s : String) : Option ProtectionTransactionState := todos.find? fun e => e.value = s

theorem deTexto_value (e : ProtectionTransactionState) : deTexto e.value = some e := by
  cases e <;> decide

/-- `TRANSACTION_TRANSITIONS`. -/
def transitions : ProtectionTransactionState → List ProtectionTransactionState
  | preparing => [prepared, refuseToApply, cancelled]
  | prepared => [awaitingElevation, refuseToApply, cancelled]
  | awaitingElevation => [applying, refuseToPlan, elevationRejected, cancelled]
  | applying => [verifyingGp1, rollbackRequired, indeterminate]
  | verifyingGp1 => [verifyingRv2, rollbackRequired, indeterminate]
  | verifyingRv2 => [verifyingNodeSet, rollbackRequired, indeterminate]
  | verifyingNodeSet => [archivingBackup, rollbackRequired, indeterminate]
  | archivingBackup => [committed, rollbackRequired]
  | rollbackRequired => [rollingBack, indeterminate]
  | rollingBack => [rolledBack, rollbackFailed, indeterminate]
  | _ => []

end ProtectionTransactionState

def initialTransactionState : ProtectionTransactionState := .applying

/-- `S4A_PERMITTED_TRANSITION_TARGETS`. -/
def s4aPermittedTransitionTargets : List ProtectionTransactionState :=
  [.rollbackRequired, .rollingBack, .rolledBack, .rollbackFailed, .indeterminate]

inductive NodeWalState where
  | mutating
  | mutated
  deriving DecidableEq

namespace NodeWalState

def value : NodeWalState → String
  | mutating => "mutating"
  | mutated => "mutated"

def deTexto (s : String) : Option NodeWalState := [mutating, mutated].find? fun e => e.value = s

theorem deTexto_value (e : NodeWalState) : deTexto e.value = some e := by
  cases e <;> decide

/-- `NODE_WAL_TRANSITIONS`. -/
def transitions : Option NodeWalState → List NodeWalState
  | none => [mutating]
  | some mutating => [mutated]
  | some mutated => []

end NodeWalState

/-! Errors -/

/-- The messages of `ProtectionJournalSchemaError` and its subclass, with what they quote. -/
inductive SchemaError where
  | sequenceInvalida
  | operationIdNoUuid (value : String)
  | operationIdNoCanonico
  | sha256 (field : String)
  | rango (field : String) (max : Nat)
  | textoVacio (field : String)
  | noTexto (field : String)
  | noEntero (field : String)
  | relativePathVacio
  | relativePathNoPosix
  | relativePathNoCanonico
  | lineaVacia
  | noJson
  | claveDuplicada
  | noObjeto
  | kindAusente
  | kindDesconocido (kind : String)
  | schemaNoCerrado (kind : String)
  | schemaVersion
  | estadoDesconocido
  | estadoDeNodoDesconocido
  | sinRegistros
  | sinHeader
  | headerSequence (observado : Nat)
  | secuenciaRota (esperado observado : Nat)
  | transicionNoDeclarada (current target : ProtectionTransactionState)
  | transicionDeNodo (relativePath : String) (current : Option NodeWalState) (target : NodeWalState)
  | identidadCambiada (relativePath : String)
  | headerDuplicado
  deriving DecidableEq

/-! Validators -/

def strip (s : String) : String := String.ofList (TrimmedText.strip isspace s.toList)

/-- `str.lower` on the texts that can be hexadecimal digits. -/
def lower (s : String) : String := String.ofList (s.toList.map Char.toLower)

def maxUint64 : Nat := 2 ^ 64 - 1

def maxUint128 : Nat := 2 ^ 128 - 1

def validateSequence (value : Int) : Except SchemaError Nat :=
  if 1 ≤ value then .ok value.toNat else .error .sequenceInvalida

def validateOperationId (uuid : String → Option String) (value : String) :
    Except SchemaError String :=
  match uuid (strip value) with
  | none => .error (.operationIdNoUuid value)
  | some parsed => if strip value = parsed then .ok (strip value) else .error .operationIdNoCanonico

def validateSha256Hex (value field : String) : Except SchemaError String :=
  let normalized := lower (strip value)
  if normalized.toList.length = 64 ∧
      normalized.toList.all fun ch => ch.isDigit || ('a' ≤ ch && ch ≤ 'f') then .ok normalized
  else .error (.sha256 field)

def validateUint (value : Int) (field : String) (max : Nat) : Except SchemaError Nat :=
  if 0 ≤ value ∧ value ≤ max then .ok value.toNat else .error (.rango field max)

def validateNonemptyText (value field : String) : Except SchemaError String :=
  if strip value = "" then .error (.textoVacio field) else .ok (strip value)

/-- `_validate_canonical_relpath`, in `golden_protection_plan.py`. -/
def validateRelativePath (value : String) : Except SchemaError String :=
  if value = "" then .error .relativePathVacio
  else if value = "." then .ok value
  else if '\x00' ∈ value.toList ∨ '\\' ∈ value.toList ∨ ':' ∈ value.toList ∨
      value.toList.head? = some '/' then .error .relativePathNoPosix
  else if (value.toList.splitOn '/').any fun part => part ∈ [[], ['.'], ['.', '.']] then
    .error .relativePathNoCanonico
  else .ok value

/-! Records -/

structure JournalHeaderRecord where
  sequence : Nat
  operationId : String
  authorizedPlanDigest : String
  canonicalRoot : String
  volumeSerialNumber : Nat
  rootFileId : Nat
  createdAt : String
  deriving DecidableEq

structure JournalTransactionRecord where
  sequence : Nat
  state : ProtectionTransactionState
  deriving DecidableEq

structure JournalNodeRecord where
  sequence : Nat
  relativePath : String
  volumeSerialNumber : Nat
  fileId : Nat
  preSdSha256 : String
  state : NodeWalState
  deriving DecidableEq

inductive JournalRecord where
  | header (record : JournalHeaderRecord)
  | transaction (record : JournalTransactionRecord)
  | node (record : JournalNodeRecord)
  deriving DecidableEq

def schemaVersion : String := "1.0"

def JournalRecord.sequence : JournalRecord → Nat
  | .header record => record.sequence
  | .transaction record => record.sequence
  | .node record => record.sequence

/-- The checks of `JournalHeaderRecord.__post_init__`; the schema version is the only one
there is. -/
def buildHeader (uuid : String → Option String) (sequence : Int) (operationId
    authorizedPlanDigest canonicalRoot : String) (volumeSerialNumber rootFileId : Int)
    (createdAt : String) : Except SchemaError JournalHeaderRecord := do
  return ⟨← validateSequence sequence, ← validateOperationId uuid operationId,
    ← validateSha256Hex authorizedPlanDigest "authorized_plan_digest",
    ← validateNonemptyText canonicalRoot "canonical_root",
    ← validateUint volumeSerialNumber "volume_serial_number" maxUint64,
    ← validateUint rootFileId "root_file_id" maxUint128,
    ← validateNonemptyText createdAt "created_at"⟩

def buildTransaction (sequence : Int) (state : ProtectionTransactionState) :
    Except SchemaError JournalTransactionRecord := do
  return ⟨← validateSequence sequence, state⟩

def buildNode (sequence : Int) (relativePath : String) (volumeSerialNumber fileId : Int)
    (preSdSha256 : String) (state : NodeWalState) : Except SchemaError JournalNodeRecord := do
  return ⟨← validateSequence sequence, ← validateRelativePath relativePath,
    ← validateUint volumeSerialNumber "volume_serial_number" maxUint64,
    ← validateUint fileId "file_id" maxUint128,
    ← validateSha256Hex preSdSha256 "pre_sd_sha256", state⟩

/-! Lines -/

/-- A value of a JSON object; `otro` is any that is neither a string nor an integer. -/
inductive JsonValue where
  | str (s : String)
  | int (n : Int)
  | otro
  deriving DecidableEq

inductive Documento where
  | objeto (pares : List (String × JsonValue))
  | otro

/-- `json.dumps` with `sort_keys`, encoded, and `json.loads` with the pairs of the object. An
object with its keys in order is read back as it was written, on one line that is not empty. -/
structure Json where
  dumps : List (String × JsonValue) → Bytes
  loads : Bytes → Option Documento
  loads_dumps : ∀ pares, pares.Pairwise (fun a b => a.1 < b.1) → (∀ p ∈ pares, p.2 ≠ .otro) →
    loads (dumps pares) = some (.objeto pares)
  dumps_linea : ∀ pares, 10 ∉ dumps pares
  dumps_ne_nil : ∀ pares, dumps pares ≠ []

/-- `_journal_record_dict`, with the keys in order. -/
def journalRecordDict : JournalRecord → List (String × JsonValue)
  | .header r => [("authorized_plan_digest", .str r.authorizedPlanDigest),
      ("canonical_root", .str r.canonicalRoot), ("created_at", .str r.createdAt),
      ("kind", .str "journal_header"), ("operation_id", .str r.operationId),
      ("root_file_id", .int r.rootFileId), ("schema_version", .str schemaVersion),
      ("sequence", .int r.sequence), ("volume_serial_number", .int r.volumeSerialNumber)]
  | .transaction r => [("kind", .str "transaction_state"), ("sequence", .int r.sequence),
      ("state", .str r.state.value)]
  | .node r => [("file_id", .int r.fileId), ("kind", .str "node_state"),
      ("pre_sd_sha256", .str r.preSdSha256), ("relative_path", .str r.relativePath),
      ("sequence", .int r.sequence), ("state", .str r.state.value),
      ("volume_serial_number", .int r.volumeSerialNumber)]

def canonicalJson (json : Json) (record : JournalRecord) : Bytes :=
  json.dumps (journalRecordDict record)

/-- `serialize_journal_record` of each record, one after the other. -/
def serialize (json : Json) (records : List JournalRecord) : Bytes :=
  FramedLog.encode 10 (canonicalJson json) records

def headerRecordKeys : List String :=
  ["kind", "schema_version", "sequence", "operation_id", "authorized_plan_digest",
    "canonical_root", "volume_serial_number", "root_file_id", "created_at"]

def transactionRecordKeys : List String := ["kind", "sequence", "state"]

def nodeRecordKeys : List String :=
  ["kind", "sequence", "relative_path", "volume_serial_number", "file_id", "pre_sd_sha256",
    "state"]

def mismasClaves (pares : List (String × JsonValue)) (keys : List String) : Bool :=
  (pares.map (·.1)).all (· ∈ keys) && keys.all (· ∈ pares.map (·.1))

def texto (pares : List (String × JsonValue)) (field : String) : Except SchemaError String :=
  match pares.lookup field with
  | some (.str s) => .ok s
  | _ => .error (.noTexto field)

def entero (pares : List (String × JsonValue)) (field : String) : Except SchemaError Int :=
  match pares.lookup field with
  | some (.int n) => .ok n
  | _ => .error (.noEntero field)

def parsePayload (uuid : String → Option String) (pares : List (String × JsonValue)) :
    Except SchemaError JournalRecord := do
  let kind ← match pares.lookup "kind" with
    | some (.str kind) => .ok kind
    | _ => .error .kindAusente
  if kind ∉ ["journal_header", "transaction_state", "node_state"] then
    .error (.kindDesconocido kind)
  let sequence ← match pares.lookup "sequence" with
    | some (.int n) => validateSequence n
    | _ => .error .sequenceInvalida
  if kind = "journal_header" then
    if !mismasClaves pares headerRecordKeys then .error (.schemaNoCerrado kind)
    if pares.lookup "schema_version" ≠ some (.str schemaVersion) then .error .schemaVersion
    let record ← buildHeader uuid sequence (← texto pares "operation_id")
      (← texto pares "authorized_plan_digest") (← texto pares "canonical_root")
      (← entero pares "volume_serial_number") (← entero pares "root_file_id")
      (← texto pares "created_at")
    return .header record
  else if kind = "transaction_state" then
    if !mismasClaves pares transactionRecordKeys then .error (.schemaNoCerrado kind)
    let state ← match pares.lookup "state" with
      | some (.str s) => match ProtectionTransactionState.deTexto s with
        | some state => .ok state
        | none => .error .estadoDesconocido
      | _ => .error .estadoDesconocido
    return .transaction (← buildTransaction sequence state)
  else
    if !mismasClaves pares nodeRecordKeys then .error (.schemaNoCerrado kind)
    let state ← match pares.lookup "state" with
      | some (.str s) => match NodeWalState.deTexto s with
        | some state => .ok state
        | none => .error .estadoDeNodoDesconocido
      | _ => .error .estadoDeNodoDesconocido
    return .node (← buildNode sequence (← texto pares "relative_path")
      (← entero pares "volume_serial_number") (← entero pares "file_id")
      (← texto pares "pre_sd_sha256") state)

def parseJournalLine (json : Json) (uuid : String → Option String) (line : Bytes) :
    Except SchemaError JournalRecord :=
  if line = [] then .error .lineaVacia
  else match json.loads line with
    | none => .error .noJson
    | some .otro => .error .noObjeto
    | some (.objeto pares) =>
      if ¬ (pares.map (·.1)).Nodup then .error .claveDuplicada else parsePayload uuid pares

/-! Replay -/

structure JournalPhysicalRoot where
  canonicalRoot : String
  volumeSerialNumber : Nat
  rootFileId : Nat
  deriving DecidableEq

/-- The state that the records of a journal give. -/
structure Journal where
  operationId : String
  authorizedPlanDigest : String
  physicalRoot : JournalPhysicalRoot
  transactionState : ProtectionTransactionState
  nodeRecords : List JournalNodeRecord
  createdAt : String
  sequence : Nat
  deriving DecidableEq

/-- The state of the last record of the node. -/
def Journal.nodeState (journal : Journal) (relativePath : String) : Option NodeWalState :=
  (journal.nodeRecords.reverse.find? fun record => record.relativePath = relativePath).map
    (·.state)

def assertTransactionTransition (current target : ProtectionTransactionState) :
    Except SchemaError Unit :=
  if target ∈ current.transitions then .ok () else .error (.transicionNoDeclarada current target)

def assertNodeTransition (current : Option NodeWalState) (target : NodeWalState)
    (relativePath : String) : Except SchemaError Unit :=
  if target ∈ NodeWalState.transitions current then .ok ()
  else .error (.transicionDeNodo relativePath current target)

/-- The variables of the loop of `replay_journal_records`. -/
structure Reproduccion where
  transactionState : ProtectionTransactionState
  transactionDeclared : Bool
  nodeRecords : List JournalNodeRecord
  nodeStates : String → Option NodeWalState
  nodeIdentities : String → Option (Nat × Nat × String)
  expectedSequence : Nat

def Reproduccion.inicial : Reproduccion :=
  ⟨initialTransactionState, false, [], fun _ => none, fun _ => none, 2⟩

def Reproduccion.transaction (r : Reproduccion) (state : ProtectionTransactionState) :
    Except SchemaError Reproduccion :=
  if !r.transactionDeclared && state = initialTransactionState then
    .ok { r with transactionDeclared := true }
  else
    (assertTransactionTransition r.transactionState state).map fun _ =>
      { r with transactionState := state, transactionDeclared := true }

def Reproduccion.node (r : Reproduccion) (record : JournalNodeRecord) :
    Except SchemaError Reproduccion := do
  let identity := (record.volumeSerialNumber, record.fileId, record.preSdSha256)
  assertNodeTransition (r.nodeStates record.relativePath) record.state record.relativePath
  if (r.nodeIdentities record.relativePath).any (· ≠ identity) then
    .error (.identidadCambiada record.relativePath)
  else .ok { r with
    nodeIdentities := Function.update r.nodeIdentities record.relativePath (some identity)
    nodeStates := Function.update r.nodeStates record.relativePath (some record.state)
    nodeRecords := r.nodeRecords ++ [record] }

def Reproduccion.paso (r : Reproduccion) (record : JournalRecord) :
    Except SchemaError Reproduccion :=
  if record.sequence ≠ r.expectedSequence then
    .error (.secuenciaRota r.expectedSequence record.sequence)
  else
    let r := { r with expectedSequence := r.expectedSequence + 1 }
    match record with
    | .transaction record => r.transaction record.state
    | .node record => r.node record
    | .header _ => .error .headerDuplicado

def Reproduccion.journal (r : Reproduccion) (header : JournalHeaderRecord) : Journal :=
  ⟨header.operationId, header.authorizedPlanDigest,
    ⟨header.canonicalRoot, header.volumeSerialNumber, header.rootFileId⟩,
    r.transactionState, r.nodeRecords, header.createdAt, r.expectedSequence - 1⟩

def replayJournalRecords : List JournalRecord → Except SchemaError Journal
  | [] => .error .sinRegistros
  | .header header :: records =>
    if header.sequence ≠ 1 then .error (.headerSequence header.sequence)
    else (records.foldlM Reproduccion.paso .inicial).map (·.journal header)
  | _ => .error .sinHeader

/-- `JournalLoadResult`. -/
inductive JournalLoad where
  | valid (journal : Journal)
  | tornTail (sinRegistros : Bool)
  | schemaInvalid (detail : SchemaError)
  deriving DecidableEq

def parseRecords (json : Json) (uuid : String → Option String) (raw : Bytes) :
    Except SchemaError (List JournalRecord) :=
  (FramedLog.lines 10 raw).mapM (parseJournalLine json uuid)

def parseJournalBytes (json : Json) (uuid : String → Option String) (raw : Bytes) :
    JournalLoad :=
  if raw = [] then .tornTail true
  else if raw.getLast? ≠ some 10 then .tornTail false
  else match (parseRecords json uuid raw).bind replayJournalRecords with
    | .error e => .schemaInvalid e
    | .ok journal => .valid journal

/-! Written records are read back -/

theorem strip_strip (s : String) : strip (strip s) = strip s := by
  simp [strip]

theorem strip_of_solid {s : String} (solid : ∀ c ∈ s.toList, isspace c = false) : strip s = s := by
  have trimmed : Trimmed isspace s.toList := by
    have front : s.toList.dropWhile isspace = s.toList :=
      dropWhile_of_head fun c mem => solid c (List.mem_of_mem_head? mem)
    rw [Trimmed, TrimmedText.strip, front, List.rdropWhile_eq_self_iff]
    intro nonempty
    simp [solid _ (List.getLast_mem nonempty)]
  rw [strip, trimmed, String.ofList_toList]

theorem hex_range {c : Char} (hex : (c.isDigit || ('a' ≤ c && c ≤ 'f')) = true) :
    (48 ≤ c.toNat ∧ c.toNat ≤ 57) ∨ (97 ≤ c.toNat ∧ c.toNat ≤ 102) := by
  simp only [Char.isDigit, Bool.or_eq_true, Bool.and_eq_true, decide_eq_true_eq, Char.le_def,
    UInt32.le_iff_toNat_le] at hex
  exact hex

theorem hex_solid {c : Char} (hex : (c.isDigit || ('a' ≤ c && c ≤ 'f')) = true) :
    isspace c = false := by
  have range := hex_range hex
  simp only [isspace, Bool.or_eq_false_iff, Bool.and_eq_false_iff, decide_eq_false_iff_not]
  omega

theorem hex_lower {c : Char} (hex : (c.isDigit || ('a' ≤ c && c ≤ 'f')) = true) :
    c.toLower = c := by
  have range := hex_range hex
  have small : ¬ (65 ≤ c.val.toNat ∧ c.val.toNat ≤ 90) := by
    have same : c.val.toNat = c.toNat := rfl
    omega
  rw [Char.toLower, dif_neg]
  simpa [UInt32.le_iff_toNat_le] using small

theorem validateSequence_ok {value : Int} {n : Nat} (ok : validateSequence value = .ok n) :
    validateSequence n = .ok n := by
  unfold validateSequence at ok ⊢
  split at ok
  · obtain rfl := Except.ok.inj ok
    rw [if_pos (by omega), Int.toNat_natCast]
  · cases ok

theorem validateOperationId_ok {uuid : String → Option String} {value y : String}
    (ok : validateOperationId uuid value = .ok y) : validateOperationId uuid y = .ok y := by
  unfold validateOperationId at ok ⊢
  cases parsed : uuid (strip value) with
  | none => simp [parsed] at ok
  | some canonical =>
    rw [parsed] at ok
    dsimp only at ok
    split at ok
    · next same =>
      obtain rfl := Except.ok.inj ok
      rw [strip_strip, parsed]
      exact if_pos same
    · cases ok

theorem lower_strip_hex {t : String}
    (hex : ∀ c ∈ t.toList, (c.isDigit || ('a' ≤ c && c ≤ 'f')) = true) : lower (strip t) = t := by
  have same : t.toList.map Char.toLower = t.toList := by
    conv_rhs => rw [← List.map_id t.toList]
    exact List.map_congr_left fun c mem => hex_lower (hex c mem)
  rw [strip_of_solid fun c mem => hex_solid (hex c mem), lower, same, String.ofList_toList]

theorem validateSha256Hex_ok {value field y : String}
    (ok : validateSha256Hex value field = .ok y) : validateSha256Hex y field = .ok y := by
  unfold validateSha256Hex at ok
  generalize lower (strip value) = normalized at ok
  by_cases good : normalized.toList.length = 64 ∧
      (normalized.toList.all fun ch => ch.isDigit || ('a' ≤ ch && ch ≤ 'f')) = true
  · rw [if_pos good] at ok
    obtain rfl := Except.ok.inj ok
    rw [validateSha256Hex, lower_strip_hex (List.all_eq_true.mp good.2)]
    exact if_pos good
  · rw [if_neg good] at ok
    cases ok

theorem validateUint_ok {value : Int} {field : String} {max n : Nat}
    (ok : validateUint value field max = .ok n) : validateUint n field max = .ok n := by
  unfold validateUint at ok ⊢
  split at ok
  · obtain rfl := Except.ok.inj ok
    rw [if_pos (by omega), Int.toNat_natCast]
  · cases ok

theorem validateNonemptyText_ok {value field y : String}
    (ok : validateNonemptyText value field = .ok y) : validateNonemptyText y field = .ok y := by
  unfold validateNonemptyText at ok ⊢
  split at ok
  · cases ok
  · next some_text =>
    obtain rfl := Except.ok.inj ok
    rw [strip_strip, if_neg some_text]

theorem validateRelativePath_ok {value y : String} (ok : validateRelativePath value = .ok y) :
    y = value := by
  unfold validateRelativePath at ok
  split at ok
  · cases ok
  · split at ok
    · exact (Except.ok.inj ok).symm
    · split at ok
      · cases ok
      · split at ok
        · cases ok
        · exact (Except.ok.inj ok).symm

/-- A record that its own constructor accepts as it is. -/
def JournalRecord.Valido (uuid : String → Option String) : JournalRecord → Prop
  | .header r => buildHeader uuid r.sequence r.operationId r.authorizedPlanDigest
      r.canonicalRoot r.volumeSerialNumber r.rootFileId r.createdAt = .ok r
  | .transaction r => buildTransaction r.sequence r.state = .ok r
  | .node r => buildNode r.sequence r.relativePath r.volumeSerialNumber r.fileId r.preSdSha256
      r.state = .ok r

theorem bind_ok {α β : Type} {x : Except SchemaError α} {f : α → Except SchemaError β} {y : β} :
    (x >>= f) = .ok y ↔ ∃ a, x = .ok a ∧ f a = .ok y := by
  cases x with
  | error e =>
    constructor
    · intro h
      cases h
    · rintro ⟨a, h, _⟩
      cases h
  | ok a =>
    constructor
    · exact fun h => ⟨a, rfl, h⟩
    · rintro ⟨b, same, h⟩
      exact Except.ok.inj same ▸ h

theorem buildHeader_valido {uuid : String → Option String} {sequence : Int}
    {operationId digest root : String} {volume rootFileId : Int} {createdAt : String}
    {r : JournalHeaderRecord}
    (built : buildHeader uuid sequence operationId digest root volume rootFileId createdAt = .ok r) :
    JournalRecord.Valido uuid (.header r) := by
  simp only [buildHeader, bind_ok] at built
  obtain ⟨n, hn, o, ho, d, hd, c, hc, v, hv, f, hf, t, ht, same⟩ := built
  obtain rfl := Except.ok.inj same
  simp only [JournalRecord.Valido, buildHeader, validateSequence_ok hn, validateOperationId_ok ho,
    validateSha256Hex_ok hd, validateNonemptyText_ok hc, validateUint_ok hv, validateUint_ok hf,
    validateNonemptyText_ok ht]
  rfl

theorem buildTransaction_valido {uuid : String → Option String} {sequence : Int}
    {state : ProtectionTransactionState} {r : JournalTransactionRecord}
    (built : buildTransaction sequence state = .ok r) :
    JournalRecord.Valido uuid (.transaction r) := by
  simp only [buildTransaction, bind_ok] at built
  obtain ⟨n, hn, same⟩ := built
  obtain rfl := Except.ok.inj same
  simp only [JournalRecord.Valido, buildTransaction, validateSequence_ok hn]
  rfl

theorem buildNode_valido {uuid : String → Option String} {sequence : Int} {path : String}
    {volume fileId : Int} {sd : String} {state : NodeWalState} {r : JournalNodeRecord}
    (built : buildNode sequence path volume fileId sd state = .ok r) :
    JournalRecord.Valido uuid (.node r) := by
  simp only [buildNode, bind_ok] at built
  obtain ⟨n, hn, p, hp, v, hv, f, hf, d, hd, same⟩ := built
  obtain rfl := Except.ok.inj same
  obtain rfl := validateRelativePath_ok hp
  simp only [JournalRecord.Valido, buildNode, validateSequence_ok hn, hp, validateUint_ok hv,
    validateUint_ok hf, validateSha256Hex_ok hd]
  rfl

theorem validateSequence_natCast {m n : Nat} (ok : validateSequence m = .ok n) : n = m := by
  unfold validateSequence at ok
  split at ok
  · have same := Except.ok.inj ok
    omega
  · cases ok

theorem validateSequence_de_valido {uuid : String → Option String} {record : JournalRecord}
    (valido : record.Valido uuid) : validateSequence record.sequence = .ok record.sequence := by
  have first : ∃ n, validateSequence record.sequence = .ok n := by
    cases record with
    | header r =>
      simp only [JournalRecord.Valido, buildHeader, bind_ok] at valido
      obtain ⟨n, hn, _⟩ := valido
      exact ⟨n, hn⟩
    | transaction r =>
      simp only [JournalRecord.Valido, buildTransaction, bind_ok] at valido
      obtain ⟨n, hn, _⟩ := valido
      exact ⟨n, hn⟩
    | node r =>
      simp only [JournalRecord.Valido, buildNode, bind_ok] at valido
      obtain ⟨n, hn, _⟩ := valido
      exact ⟨n, hn⟩
  obtain ⟨n, hn⟩ := first
  rw [hn, validateSequence_natCast hn]

theorem parsePayload_dict {uuid : String → Option String} {record : JournalRecord}
    (valido : record.Valido uuid) : parsePayload uuid (journalRecordDict record) = .ok record := by
  have first := validateSequence_de_valido valido
  cases record with
  | header r =>
    have claves : mismasClaves (journalRecordDict (.header r)) headerRecordKeys = true := by
      simp [mismasClaves, journalRecordDict, headerRecordKeys]
    simp only [JournalRecord.sequence] at first
    unfold JournalRecord.Valido at valido
    unfold parsePayload
    rw [claves]
    simp [journalRecordDict, List.lookup, first, texto, entero, valido, bind, Except.bind, pure,
      Except.pure]
  | transaction r =>
    have claves : mismasClaves (journalRecordDict (.transaction r)) transactionRecordKeys = true := by
      simp [mismasClaves, journalRecordDict, transactionRecordKeys]
    simp only [JournalRecord.sequence] at first
    unfold JournalRecord.Valido at valido
    unfold parsePayload
    rw [claves]
    simp [journalRecordDict, List.lookup, first, valido, bind, Except.bind, pure, Except.pure,
      ProtectionTransactionState.deTexto_value]
  | node r =>
    have claves : mismasClaves (journalRecordDict (.node r)) nodeRecordKeys = true := by
      simp [mismasClaves, journalRecordDict, nodeRecordKeys]
    simp only [JournalRecord.sequence] at first
    unfold JournalRecord.Valido at valido
    unfold parsePayload
    rw [claves]
    simp [journalRecordDict, List.lookup, first, texto, entero, valido, bind, Except.bind, pure,
      Except.pure, NodeWalState.deTexto_value]

theorem journalRecordDict_claves (record : JournalRecord) :
    ((journalRecordDict record).map (·.1)).Pairwise (· < ·) ∧
      ((journalRecordDict record).map (·.1)).Nodup := by
  cases record with
  | header r =>
    simp only [journalRecordDict, List.map]
    decide
  | transaction r =>
    simp only [journalRecordDict, List.map]
    decide
  | node r =>
    simp only [journalRecordDict, List.map]
    decide

theorem parseJournalLine_canonical {json : Json} {uuid : String → Option String}
    {record : JournalRecord} (valido : record.Valido uuid) :
    parseJournalLine json uuid (canonicalJson json record) = .ok record := by
  obtain ⟨orden, distintas⟩ := journalRecordDict_claves record
  have valores : ∀ p ∈ journalRecordDict record, p.2 ≠ .otro := by
    cases record <;> simp [journalRecordDict]
  unfold parseJournalLine canonicalJson
  rw [if_neg (json.dumps_ne_nil _), json.loads_dumps _ (List.pairwise_map.mp orden) valores]
  dsimp only
  rw [if_neg (not_not.mpr distintas), parsePayload_dict valido]

theorem canonicalJson_linea (json : Json) (record : JournalRecord) :
    10 ∉ canonicalJson json record := json.dumps_linea _

theorem parseRecords_serialize {json : Json} {uuid : String → Option String}
    {records : List JournalRecord} (validos : ∀ r ∈ records, r.Valido uuid) :
    parseRecords json uuid (serialize json records) = .ok records := by
  rw [parseRecords, serialize, FramedLog.lines_encode (canonicalJson_linea json)]
  induction records with
  | nil => rfl
  | cons r records ih =>
    rw [List.map_cons, List.mapM_cons, parseJournalLine_canonical (validos r (by simp)),
      ih fun s mem => validos s (List.mem_cons_of_mem _ mem)]
    rfl

/-- A journal of whole records is read as their replay. -/
theorem parseJournalBytes_serialize {json : Json} {uuid : String → Option String}
    {records : List JournalRecord} (validos : ∀ r ∈ records, r.Valido uuid)
    (alguno : records ≠ []) :
    parseJournalBytes json uuid (serialize json records) =
      match replayJournalRecords records with
      | .error e => .schemaInvalid e
      | .ok journal => .valid journal := by
  have last : (serialize json records).getLast? = some 10 := FramedLog.getLast?_encode alguno
  have nonempty : serialize json records ≠ [] := by
    intro empty
    simp [empty] at last
  unfold parseJournalBytes
  rw [if_neg nonempty, if_neg (not_not.mpr last), parseRecords_serialize validos]
  rfl

end ProtectionJournal
