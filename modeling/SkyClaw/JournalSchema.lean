import SkyClaw.ImplicitTransaction
import SkyClaw.KeyedRows

set_option linter.all false

/-!
The tables of `journal.db` with their constraints, and the statements that
write them. A row that breaks a constraint cannot be in a table; the statement
that would put it there raises. `orphan_evidence_absorptions` is left out: it
has no writer, and is empty in a database that this schema created.
-/
namespace OperationJournal
open KeyedRows ImplicitTransaction

inductive OperationType where
  | modInstall | modUninstall | modUpdate | pluginClean
  | fileCreate | fileModify | fileDelete | fileRename
  deriving DecidableEq

inductive OperationStatus where
  | started | completed | failed | rolledBack
  deriving DecidableEq

inductive TransactionStatus where
  | pending | committed | rolledBack
  deriving DecidableEq

inductive HandoffState where
  | awaitingDeployment | indeterminate | superseding | superseded | completed
  deriving DecidableEq

/-- `HANDOFF_STATES_ACTIVOS`. -/
def HandoffState.activo : HandoffState → Bool
  | .awaitingDeployment | .indeterminate | .superseding => true
  | _ => false

inductive SweepReceiptState where
  | unresolved | consumed | noArtifact | superseded
  deriving DecidableEq

inductive ArtifactResolutionKind where
  | absorbedByHandoff | supersededByRun | noArtifactDemonstrated | restoredByteExact
  deriving DecidableEq

def ArtifactResolutionKind.value : ArtifactResolutionKind → String
  | .absorbedByHandoff => "absorbed_by_handoff"
  | .supersededByRun => "superseded_by_run"
  | .noArtifactDemonstrated => "no_artifact_demonstrated"
  | .restoredByteExact => "restored_byte_exact"

/- JSON as far as the journal looks into it: `other` holds the text of a value
   that is neither a string nor, at the top of a field, a list. -/

inductive JsonItem where
  | str (value : String)
  | other (json : String)
  deriving DecidableEq

inductive JsonValue where
  | str (value : String)
  | arr (items : List JsonItem)
  | other (json : String)
  deriving DecidableEq

abbrev JsonObject := List (String × JsonValue)

/-- A `metadata` column that is not `NULL`: a JSON object, another JSON value,
    or something `json.loads` does not take. -/
inductive Metadata where
  | object (fields : JsonObject)
  | otherRoot (json : String)
  | unreadable (raw : String)
  deriving DecidableEq

/-- `dict.get`; of repeated keys `json.loads` keeps the last. -/
def jsonGet (fields : JsonObject) (name : String) : Option JsonValue :=
  (fields.reverse.find? fun field => field.1 = name).map (·.2)

/-- A key keeps its place when its value is replaced. -/
def jsonSet (fields : JsonObject) (name : String) (value : JsonValue) : JsonObject :=
  if fields.any fun field => field.1 = name then
    fields.map fun field => if field.1 = name then (name, value) else field
  else fields ++ [(name, value)]

/-- Times are seconds, as `datetime('now')` gives them. -/
structure Transaction where
  transactionId : Nat
  modId : Option Int
  description : String
  status : TransactionStatus
  createdAt : Int
  committedAt : Option Int
  rolledBackAt : Option Int
  deriving DecidableEq

structure JournalEntry where
  id : Nat
  transactionId : Nat
  timestamp : Int
  agentId : String
  operationType : OperationType
  targetPath : String
  status : OperationStatus
  snapshotPath : Option String
  checksum : Option String
  metadata : Option Metadata
  rolledBack : Bool
  deriving DecidableEq

structure DeploymentHandoff where
  handoffId : Nat
  sourceTxId : Nat
  state : HandoffState
  artifactPath : String
  gameKey : String
  modsRootKey : String
  dataKey : String
  expectedProfile : String
  expectedDigest : Option String
  expectedFiles : Option Int
  expectedBytes : Option Int
  observedDigest : Option String
  observedFiles : Option Int
  observedBytes : Option Int
  createdAt : Int
  updatedAt : Int
  completedAt : Option Int
  supersededAt : Option Int
  supersededBy : Option Nat
  deriving DecidableEq

structure SweepReceipt where
  receiptId : Nat
  transactionId : Nat
  state : SweepReceiptState
  sweptAt : Int
  resolvedAt : Option Int
  deriving DecidableEq

structure ArtifactResolution where
  resolutionId : Nat
  transactionId : Nat
  artifactPath : String
  resolutionKind : ArtifactResolutionKind
  handoffId : Option Nat
  resolvedAt : Int
  deriving DecidableEq

def todosONinguno (digest : Option String) (files bytes : Option Int) : Bool :=
  digest.isSome = files.isSome ∧ files.isSome = bytes.isSome

/-- The `CHECK`s of `deployment_handoffs`. -/
def DeploymentHandoff.chk (h : DeploymentHandoff) : Bool :=
  (h.state = .indeterminate ∨ h.state = .superseded ∨
      (h.expectedDigest.isSome ∧ h.expectedFiles.isSome ∧ h.expectedBytes.isSome)) ∧
    (h.state ≠ .indeterminate ∨ h.expectedDigest.isNone) ∧
    todosONinguno h.expectedDigest h.expectedFiles h.expectedBytes ∧
    todosONinguno h.observedDigest h.observedFiles h.observedBytes

/-- `chk_resolution_provenance`. -/
def ArtifactResolutionKind.provenance : ArtifactResolutionKind → Option Nat → Bool
  | .absorbedByHandoff, h | .supersededByRun, h => h.isSome
  | .noArtifactDemonstrated, h | .restoredByteExact, h => h.isNone

/-- `idx_handoffs_owner_activo`. -/
def duenios (rows : List DeploymentHandoff) : List String :=
  (rows.filter fun h => h.state.activo).map (·.artifactPath)

structure HandoffTable extends AutoTable DeploymentHandoff DeploymentHandoff.handoffId where
  ownerActivo : (duenios rows).Nodup
  checked : ∀ h ∈ rows, h.chk = true

structure ReceiptTable extends AutoTable SweepReceipt SweepReceipt.receiptId where
  uniqueTx : (rows.map (·.transactionId)).Nodup

structure ResolutionTable extends AutoTable ArtifactResolution ArtifactResolution.resolutionId where
  uniqueTxArtifact : (rows.map fun r => (r.transactionId, r.artifactPath)).Nodup

structure JournalDB where
  transactions : AutoTable Transaction Transaction.transactionId
  journalEntries : AutoTable JournalEntry JournalEntry.id
  deploymentHandoffs : HandoffTable
  sweepReceipts : ReceiptTable
  artifactResolutions : ResolutionTable

def JournalDB.empty : JournalDB where
  transactions := .empty
  journalEntries := .empty
  deploymentHandoffs :=
    { AutoTable.empty with
      ownerActivo := List.nodup_nil
      checked := by simp [AutoTable.empty, Table.empty] }
  sweepReceipts := { AutoTable.empty with uniqueTx := List.nodup_nil }
  artifactResolutions := { AutoTable.empty with uniqueTxArtifact := List.nodup_nil }

inductive SqliteError where
  | integrity (text : String)
  | operational (text : String)
  deriving DecidableEq

def SqliteError.text : SqliteError → String
  | .integrity text | .operational text => text

/-- What leaves a journal call: an SQLite error or a `JournalTransactionError`. -/
inductive Fallo where
  | sqlite (error : SqliteError)
  | journalTransaction (message : String) (transactionId : Option Nat)
  deriving DecidableEq

abbrev Sql := Body JournalDB Fallo

def integridad (text : String) : Fallo := .sqlite (.integrity text)

def claveForanea : Fallo := integridad "FOREIGN KEY constraint failed"

/-- The value of a statement is its row count or, for an `INSERT`, `lastrowid`. -/
abbrev Sentencia := JournalDB → Except Fallo (Nat × JournalDB)

def updateTransactions (p : Transaction → Bool) (f : Transaction → Transaction)
    (keeps : ∀ t, (f t).transactionId = t.transactionId) : Sentencia := fun db =>
  .ok (db.transactions.count p,
    { db with transactions := db.transactions.updateWhere p f keeps })

def updateEntry (id : Nat) (f : JournalEntry → JournalEntry) (keeps : ∀ e, (f e).id = e.id) :
    Sentencia := fun db =>
  .ok (db.journalEntries.count (fun e => e.id = id),
    { db with journalEntries := db.journalEntries.updateWhere (fun e => e.id = id) f keeps })

def updateHandoffs (p : DeploymentHandoff → Bool) (f : DeploymentHandoff → DeploymentHandoff)
    (keeps : ∀ h, (f h).handoffId = h.handoffId) : Sentencia := fun db =>
  let tabla := db.deploymentHandoffs.updateWhere p f keeps
  if checked : ∀ h ∈ tabla.rows, h.chk = true then
    if owner : (duenios tabla.rows).Nodup then
      .ok (db.deploymentHandoffs.count p,
        { db with deploymentHandoffs := ⟨tabla, owner, checked⟩ })
    else .error (integridad "UNIQUE constraint failed: deployment_handoffs.artifact_path")
  else .error (integridad "CHECK constraint failed: deployment_handoffs")

def insertTransaction (modId : Option Int) (description : String) (now : Int) : Sentencia :=
  fun db =>
    let tabla := db.transactions.insertNext
      (fun k => ⟨k, modId, description, .pending, now, none, none⟩) fun _ => rfl
    .ok (tabla.seq, { db with transactions := tabla })

def insertEntry (fila : Nat → JournalEntry) (keyed : ∀ k, (fila k).id = k) (transactionId : Nat) :
    Sentencia := fun db =>
  if (db.transactions.find transactionId).isNone then .error claveForanea
  else
    let tabla := db.journalEntries.insertNext
      (fun k => { fila k with transactionId := transactionId }) keyed
    .ok (tabla.seq, { db with journalEntries := tabla })

/-- `_INSERT_HANDOFF_SQL` with the parameters of `fila_de_registro`. -/
def insertHandoff (registro : DeploymentHandoff) (now : Int) : Sentencia := fun db =>
  let tabla := db.deploymentHandoffs.insertNext (fun k =>
    { registro with
      handoffId := k, createdAt := now, updatedAt := now, completedAt := none,
      supersededAt := none, supersededBy := none }) fun _ => rfl
  if checked : ∀ h ∈ tabla.rows, h.chk = true then
    if owner : (duenios tabla.rows).Nodup then
      if (db.transactions.find registro.sourceTxId).isNone then .error claveForanea
      else .ok (tabla.seq, { db with deploymentHandoffs := ⟨tabla, owner, checked⟩ })
    else .error (integridad "UNIQUE constraint failed: deployment_handoffs.artifact_path")
  else .error (integridad "CHECK constraint failed: deployment_handoffs")

/-- `_INSERT_SWEEP_RECEIPT_SQL`. -/
def insertReceipt (transactionId : Nat) (now : Int) : Sentencia := fun db =>
  let tabla := db.sweepReceipts.insertNext
    (fun k => ⟨k, transactionId, .unresolved, now, none⟩) fun _ => rfl
  if uniqueTx : (tabla.rows.map (·.transactionId)).Nodup then
    if (db.transactions.find transactionId).isNone then .error claveForanea
    else .ok (tabla.seq, { db with sweepReceipts := ⟨tabla, uniqueTx⟩ })
  else .error (integridad "UNIQUE constraint failed: stale_pending_sweep_receipts.transaction_id")

/-- The one `UPDATE` of `stale_pending_sweep_receipts`, closing a receipt that is
    still `unresolved`. -/
def updateReceipt (transactionId : Nat) (state : SweepReceiptState) (now : Int) : Sentencia :=
  fun db =>
    let p (r : SweepReceipt) : Bool := r.transactionId = transactionId ∧ r.state = .unresolved
    let f (r : SweepReceipt) : SweepReceipt := { r with state := state, resolvedAt := some now }
    let tabla := db.sweepReceipts.updateWhere p f fun _ => rfl
    have same : tabla.rows.map (·.transactionId) = db.sweepReceipts.rows.map (·.transactionId) := by
      simp only [tabla, AutoTable.updateWhere, Table.updateWhere, List.map_map]
      refine List.map_congr_left fun r _ => ?_
      simp only [Function.comp]
      split <;> rfl
    .ok (db.sweepReceipts.count p,
      { db with sweepReceipts := ⟨tabla, same ▸ db.sweepReceipts.uniqueTx⟩ })

def JournalDB.resolucion (db : JournalDB) (transactionId : Nat) (artifactPath : String) :
    Option ArtifactResolution :=
  db.artifactResolutions.rows.find? fun r =>
    r.transactionId = transactionId ∧ r.artifactPath = artifactPath

/-- `_INSERT_RESOLUCION_EVIDENCIA_SQL`. A pair that is already resolved is left
    as it is, whatever the rest of the row says. -/
def insertResolucion (transactionId : Nat) (artifactPath : String) (kind : ArtifactResolutionKind)
    (handoffId : Option Nat) (now : Int) : Sentencia := fun db =>
  if kind.provenance handoffId = false then
    .error (integridad "CHECK constraint failed: chk_resolution_provenance")
  else
    let tabla := db.artifactResolutions.insertNext
      (fun k => ⟨k, transactionId, artifactPath, kind, handoffId, now⟩) fun _ => rfl
    if unique : (tabla.rows.map fun r => (r.transactionId, r.artifactPath)).Nodup then
      if (db.transactions.find transactionId).isNone ∨
          ∃ h ∈ handoffId, (db.deploymentHandoffs.find h).isNone then .error claveForanea
      else .ok (tabla.seq, { db with artifactResolutions := ⟨tabla, unique⟩ })
    else .ok (0, db)

end OperationJournal
