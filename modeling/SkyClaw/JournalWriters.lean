import Mathlib.Data.List.Dedup
import Mathlib.Data.List.Sort
import SkyClaw.JournalSchema

set_option linter.all false

/-!
The mutating operations of `OperationJournal`, in `journal.py`. With a lifecycle
every operation runs inside `transaction()`, which rolls back on any exception;
without one each writer has its own error path. `now` is the clock of the
statements of an operation and `averia` the error SQLite raises in it, if any.
-/
namespace OperationJournal
open KeyedRows ImplicitTransaction

abbrev Averia := Option (Nat × SqliteError)

def Averia.fault (averia : Averia) : Fault Fallo := averia.map fun (n, e) => (n, .sqlite e)

/-- SQLite raises after `n` statements and commits of the operation. -/
def EnPaso (n : Nat) (averia : Averia) : Prop := ∃ e, averia = some (n, e)

structure Journal where
  lifecycle : Bool
  conn : Connection JournalDB
  currentTransaction : Option Nat

def Journal.con (j : Journal) (conn : Connection JournalDB) : Journal := { j with conn := conn }

/-- `_current_transaction` is cleared after a durable commit of that transaction. -/
def Journal.olvida (j : Journal) (transactionId : Nat) : Journal :=
  if j.currentTransaction = some transactionId then { j with currentTransaction := none } else j

/-- The statements of a writer in one boundary, then the Python code after the
    commit. `revierte` tells whether the standalone branch rolls back on error,
    and `alFallar` how the error leaves the call. -/
def Journal.escribe (j : Journal) (revierte : Bool) (body : Sql α) (averia : Averia)
    (despues : α → Journal → β × Journal) (alFallar : Fallo → Fallo) : Except Fallo β × Journal :=
  match boundary (j.lifecycle || revierte) body j.conn averia.fault with
  | (.ok a, conn) => (.ok (despues a (j.con conn)).1, (despues a (j.con conn)).2)
  | (.error e, conn) => (.error (alFallar e), j.con conn)

def devuelve (a : α) (j : Journal) : α × Journal := (a, j)

def devuelveNada (_ : α) (j : Journal) : Unit × Journal := ((), j)

/-- `except sqlite3.Error as e: raise JournalTransactionError(...) from e`. -/
def envuelve (mensaje : String) (transactionId : Option Nat) : Fallo → Fallo
  | .sqlite e => .journalTransaction (mensaje ++ ": " ++ e.text) transactionId
  | fallo => fallo

/-! Evidence of orphan transactions -/

/-- A Python set of ids, in the order its consumers sort it. -/
def conjunto (ids : List Nat) : List Nat := ids.dedup.insertionSort (· ≤ ·)

def separadorDe (canonica : String) : String :=
  let barra := Char.ofNat 92
  if canonica.toList.contains barra then String.singleton barra else "/"

/-- `clave` is `clave_de_artifact`, whose value depends on the links of the file system. -/
def canonicaYPrefijo (clave : String → String) (objetivo : String) : String × String :=
  (clave objetivo, clave objetivo ++ separadorDe (clave objetivo))

def nombraObjetivo (clave : String → String) (ruta objetivoFisico pref : String) : Bool :=
  clave ruta = objetivoFisico ∨ pref.toList.isPrefixOf (clave ruta).toList

def rutasDeMetadata : Option Metadata → List String
  | some (.object fields) =>
    match jsonGet fields "files_touched" with
    | some (.arr items) => items.filterMap fun
      | .str ruta => some ruta
      | .other _ => none
    | _ => []
  | _ => []

def JournalDB.receiptDe (db : JournalDB) (transactionId : Nat) : Option SweepReceipt :=
  db.sweepReceipts.rows.find? fun r => r.transactionId = transactionId

def JournalDB.esCausal (db : JournalDB) (transactionId : Nat) : Bool :=
  match db.transactions.find transactionId with
  | some t => t.status = .pending ∨ (t.status = .rolledBack ∧ (db.receiptDe transactionId).isSome)
  | none => false

def JournalDB.coincidencias (db : JournalDB) (clave : String → String)
    (objetivoFisico pref : String) : List Nat :=
  (db.journalEntries.rows.filter fun e => db.esCausal e.transactionId ∧
    (rutasDeMetadata e.metadata).any fun ruta =>
      nombraObjetivo clave ruta objetivoFisico pref).map (·.transactionId)

def JournalDB.resueltas (db : JournalDB) (objetivoFisico : String) : List Nat :=
  (db.artifactResolutions.rows.filter fun r => r.artifactPath = objetivoFisico).map
    (·.transactionId)

def candidatasOrphanEnConn (clave : String → String) (objetivoFisico pref : String) :
    Sql (List Nat) := do
  let coincidencias ← Body.query fun db => db.coincidencias clave objetivoFisico pref
  let resueltas ← Body.query fun db => db.resueltas objetivoFisico
  pure (conjunto (coincidencias.filter fun id => id ∉ resueltas))

def JournalDB.esResolubleHistorica (db : JournalDB) (transactionId : Nat) : Bool :=
  match db.transactions.find transactionId with
  | some t => t.status = .rolledBack ∧ (db.receiptDe transactionId).isSome
  | none => false

def filtrarResolublesHistoricasEnConn (ids : List Nat) : Sql (List Nat) :=
  if conjunto ids = [] then pure []
  else Body.query fun db => (conjunto ids).filter db.esResolubleHistorica

def comillas (texto : String) : String := "'" ++ texto ++ "'"

def provenanciaTexto (kind : ArtifactResolutionKind) (handoffId : Option Nat) : String :=
  "(" ++ kind.value ++ ", " ++ (handoffId.map toString).getD "None" ++ ")"

def registrarResolucion (objetivoFisico : String) (kind : ArtifactResolutionKind)
    (handoffId : Option Nat) (now : Int) (id : Nat) : Sql Unit := do
  let _ ← Body.statement (insertResolucion id objetivoFisico kind handoffId now)
  let fila ← Body.query fun db => db.resolucion id objetivoFisico
  match fila with
  | none => Body.raise (.journalTransaction ("Resolución ausente tras INSERT para TX " ++
      toString id ++ " en " ++ comillas objetivoFisico) (some id))
  | some r =>
    if r.resolutionKind = kind ∧ r.handoffId = handoffId then pure ()
    else Body.raise (.journalTransaction ("Conflicto de resolución para TX " ++ toString id ++
      " en " ++ comillas objetivoFisico ++ ": existente=" ++
      provenanciaTexto r.resolutionKind r.handoffId ++ ", nueva=" ++
      provenanciaTexto kind handoffId) (some id))

def registrarResolucionesDeArtifactEnConn (clave : String → String) (ids : List Nat)
    (artifactPath : String) (kind : ArtifactResolutionKind) (handoffId : Option Nat) (now : Int) :
    Sql Unit :=
  Body.each (conjunto ids) (registrarResolucion (clave artifactPath) kind handoffId now)

def sellarEvidenciaDeArtifact (clave : String → String) (objetivoFisico pref : String)
    (handoffId : Nat) (kind : ArtifactResolutionKind) (excluir : Nat) (soloHistoricas : Bool)
    (now : Int) : Sql Unit := do
  let candidatas ← candidatasOrphanEnConn clave objetivoFisico pref
  let candidatas := candidatas.filter (· ≠ excluir)
  let candidatas ← if soloHistoricas then filtrarResolublesHistoricasEnConn candidatas
    else pure candidatas
  registrarResolucionesDeArtifactEnConn clave candidatas objetivoFisico kind (some handoffId) now

/-! Transactions -/

def Transaction.committed (now : Int) (t : Transaction) : Transaction :=
  { t with status := .committed, committedAt := some now }

def Transaction.revertida (now : Int) (t : Transaction) : Transaction :=
  { t with status := .rolledBack, rolledBackAt := some now }

def esPendiente (transactionId : Nat) (t : Transaction) : Bool :=
  t.transactionId = transactionId ∧ t.status = .pending

def noPendiente (transactionId : Nat) : Fallo :=
  .journalTransaction ("Transaction " ++ toString transactionId ++ " not found or not pending")
    (some transactionId)

def exigeFilas (rechazo : Fallo) (rowcount : Nat) : Sql Unit :=
  if rowcount = 0 then Body.raise rechazo else pure ()

def beginTransaction (description : String) (modId : Option Int) (now : Int) (averia : Averia)
    (j : Journal) : Except Fallo Nat × Journal :=
  j.escribe false (Body.statement (insertTransaction modId description now)) averia
    (fun id j => (id, { j with currentTransaction := some id }))
    (envuelve "Failed to begin transaction" none)

/-- The body shared by `commit_transaction` and `rollback_transaction`. The
    standalone branch commits before it looks at the row count. -/
def cierraTransaccion (cierra : Transaction → Transaction)
    (keeps : ∀ t, (cierra t).transactionId = t.transactionId) (mensaje : String)
    (transactionId : Nat) (averia : Averia) (j : Journal) : Except Fallo Unit × Journal :=
  let update : Sql Nat := Body.statement (updateTransactions (esPendiente transactionId) cierra keeps)
  let rechazo := noPendiente transactionId
  if j.lifecycle then
    j.escribe true (do
        let rowcount ← update
        exigeFilas rechazo rowcount)
      averia (fun _ j => ((), j.olvida transactionId)) (envuelve mensaje (some transactionId))
  else
    match j.escribe false update averia devuelve (envuelve mensaje (some transactionId)) with
    | (.ok 0, j') => (.error rechazo, j')
    | (.ok _, j') => (.ok (), j'.olvida transactionId)
    | (.error e, j') => (.error e, j')

def commitTransaction (transactionId : Nat) (now : Int) :
    Averia → Journal → Except Fallo Unit × Journal :=
  cierraTransaccion (Transaction.committed now) (fun _ => rfl) "Failed to commit transaction"
    transactionId

def rollbackTransaction (transactionId : Nat) (now : Int) :
    Averia → Journal → Except Fallo Unit × Journal :=
  cierraTransaccion (Transaction.revertida now) (fun _ => rfl) "Failed to roll back transaction"
    transactionId

/-- Unlike `rollback_transaction` it does not look at the status. -/
def markTransactionRolledBack (transactionId : Nat) (now : Int) (averia : Averia) (j : Journal) :
    Except Fallo Unit × Journal :=
  j.escribe false (Body.statement (updateTransactions (fun t => t.transactionId = transactionId)
    (Transaction.revertida now) fun _ => rfl)) averia devuelveNada id

def esStale (limite : Int) (t : Transaction) : Bool := t.status = .pending ∧ t.createdAt < limite

def escribirSweep (limite now : Int) : Sql Nat := do
  let ids ← Body.statement fun db => do
    let (_, db') ← updateTransactions (esStale limite) (Transaction.revertida now) (fun _ => rfl) db
    pure ((db.transactions.rows.filter (esStale limite)).map (·.transactionId), db')
  Body.each ids fun id => do
    let _ ← Body.statement (insertReceipt id now)
    pure ()
  pure ids.length

/-- `maxAge` is `max_age_hours` in seconds. -/
def sweepStalePending (maxAge now : Int) (averia : Averia) (j : Journal) :
    Except Fallo Nat × Journal :=
  j.escribe true (escribirSweep (now - maxAge) now) averia devuelve
    (envuelve "Failed to sweep stale transactions" none)

/-! Entries -/

structure Operation where
  agentId : String
  operationType : OperationType
  targetPath : String
  transactionId : Option Nat
  snapshotPath : Option String
  checksum : Option String
  metadata : Option JsonObject
  deriving DecidableEq

/-- `json.dumps(metadata) if metadata else None`. -/
def volcado : Option JsonObject → Option Metadata
  | none | some [] => none
  | some fields => some (.object fields)

def Operation.fila (op : Operation) (transactionId : Nat) (now : Int) (id : Nat) : JournalEntry where
  id := id
  transactionId := transactionId
  timestamp := now
  agentId := op.agentId
  operationType := op.operationType
  targetPath := op.targetPath
  status := .started
  snapshotPath := op.snapshotPath
  checksum := op.checksum
  metadata := volcado op.metadata
  rolledBack := false

/-- `transaction_id or self._current_transaction`. -/
def transaccionDe (pedida actual : Option Nat) : Option Nat :=
  match pedida with
  | none | some 0 => actual
  | some id => some id

def beginOperation (op : Operation) (now : Int) (averia : Averia) (j : Journal) :
    Except Fallo Nat × Journal :=
  match transaccionDe op.transactionId j.currentTransaction with
  | none =>
    (.error (.journalTransaction "No active transaction. Call begin_transaction first." none), j)
  | some tx =>
    j.escribe false (Body.statement (insertEntry (op.fila tx now) (fun _ => rfl) tx)) averia devuelve
      (envuelve "Failed to log operation" (some tx))

def updateStatus (entryId : Nat) (status : OperationStatus) (averia : Averia) (j : Journal) :
    Except Fallo Unit × Journal :=
  j.escribe false (Body.statement (updateEntry entryId (fun e => { e with status := status })
    fun _ => rfl)) averia devuelveNada id

def completeOperation (entryId : Nat) : Averia → Journal → Except Fallo Unit × Journal :=
  updateStatus entryId .completed

def metadataPreviaFusionable : Option Metadata → JsonObject
  | some (.object fields) => fields
  | _ => []

/-- `{**previa, **evidencia}`. -/
def fusion (previa evidencia : JsonObject) : JsonObject :=
  evidencia.foldl (fun fields field => jsonSet fields field.1 field.2) previa

def evidenciaDeFallo (error : String) (metadata : Option JsonObject) : JsonObject :=
  if error = "" then metadata.getD [] else jsonSet (metadata.getD []) "error" (.str error)

def escribirFallo (entryId : Nat) (evidencia : JsonObject) : Sql Unit := do
  let _ ← Body.statement (updateEntry entryId (fun e => { e with status := .failed }) fun _ => rfl)
  if evidencia = [] then pure ()
  else do
    let fila ← Body.query fun db => db.journalEntries.find entryId
    match fila with
    | none => pure ()
    | some row => do
      let previa := metadataPreviaFusionable row.metadata
      let _ ← Body.statement (updateEntry entryId
        (fun e => { e with metadata := some (.object (fusion previa evidencia)) }) fun _ => rfl)
      pure ()

def failOperation (entryId : Nat) (error : String) (metadata : Option JsonObject) (averia : Averia)
    (j : Journal) : Except Fallo Unit × Journal :=
  j.escribe true (escribirFallo entryId (evidenciaDeFallo error metadata)) averia devuelveNada id

/-- `json_set(COALESCE(metadata, '\x7b\x7d'), '$.rollback_details', ?)`, which fails on
    text that is not JSON and leaves a root that is not an object alone. -/
def conRollbackDetails (details : String) : Option Metadata → Except Fallo (Option Metadata)
  | none => .ok (some (.object [("rollback_details", .str details)]))
  | some (.object fields) =>
    .ok (some (.object (jsonSet fields "rollback_details" (.str details))))
  | some (.otherRoot json) => .ok (some (.otherRoot json))
  | some (.unreadable _) => .error (.sqlite (.operational "malformed JSON"))

def updateRollbackDetails (entryId : Nat) (details : String) : Sentencia := fun db =>
  match db.journalEntries.find entryId with
  | none => .ok (0, db)
  | some row => do
    let metadata ← conRollbackDetails details row.metadata
    updateEntry entryId (fun e => { e with metadata := metadata }) (fun _ => rfl) db

def escribirMarca (entryId : Nat) (details : String) : Sql Unit := do
  let _ ← Body.statement (updateEntry entryId
    (fun e => { e with status := .rolledBack, rolledBack := true }) fun _ => rfl)
  if details = "" then pure ()
  else do
    let _ ← Body.statement (updateRollbackDetails entryId details)
    pure ()

/-- No `details` is the same as empty ones. -/
def markRolledBack (entryId : Nat) (details : String) (averia : Averia) (j : Journal) :
    Except Fallo Unit × Journal :=
  j.escribe false (escribirMarca entryId details) averia devuelveNada id

/-! Handoffs and resolutions -/

def JournalDB.handoffActivo (db : JournalDB) (artifactPath : String) : Option DeploymentHandoff :=
  db.deploymentHandoffs.rows.find? fun h => h.artifactPath = artifactPath ∧ h.state.activo

def yaNoActivo (handoffId transactionId : Nat) : Fallo :=
  .journalTransaction ("Handoff " ++ toString handoffId ++
    " ya no está activo: no se puede superseder") (some transactionId)

def noEsperaDeployment (handoffId transactionId : Nat) : Fallo :=
  .journalTransaction ("Handoff " ++ toString handoffId ++ " not found or not awaiting_deployment")
    (some transactionId)

/-- `viejo` is the `handoff_id` of the handoff that is replaced. -/
def escribirHandoffDeDeployment (clave : String → String) (transactionId : Nat)
    (descripcion : Option String) (registro : DeploymentHandoff) (viejo : Option Nat) (now : Int) :
    Sql Nat := do
  let rowcount ← Body.statement (updateTransactions (esPendiente transactionId)
    (fun t => { t.committed now with description := descripcion.getD t.description }) fun _ => rfl)
  exigeFilas (noPendiente transactionId) rowcount
  match viejo with
  | some viejo => do
    let tocadas ← Body.statement (updateHandoffs (fun h => h.handoffId = viejo ∧ h.state.activo)
      (fun h => { h with state := .superseded, supersededAt := some now, updatedAt := now })
      fun _ => rfl)
    exigeFilas (yaNoActivo viejo transactionId) tocadas
    let nuevo ← Body.statement (insertHandoff registro now)
    let _ ← Body.statement (updateHandoffs (fun h => h.handoffId = viejo)
      (fun h => { h with supersededBy := some nuevo }) fun _ => rfl)
    let (objetivo, pref) := canonicaYPrefijo clave registro.artifactPath
    sellarEvidenciaDeArtifact clave objetivo pref viejo .absorbedByHandoff transactionId false now
    pure nuevo
  | none => do
    let nuevo ← Body.statement (insertHandoff registro now)
    let (objetivo, pref) := canonicaYPrefijo clave registro.artifactPath
    sellarEvidenciaDeArtifact clave objetivo pref nuevo .supersededByRun transactionId true now
    pure nuevo

def crearHandoffDeDeployment (clave : String → String) (transactionId : Nat)
    (descripcion : Option String) (registro : DeploymentHandoff) (viejo : Option Nat) (now : Int)
    (averia : Averia) (j : Journal) : Except Fallo Nat × Journal :=
  j.escribe true (escribirHandoffDeDeployment clave transactionId descripcion registro viejo now)
    averia (fun nuevo j => (nuevo, j.olvida transactionId))
    (envuelve "Failed to commit transaction with deployment handoff" (some transactionId))

def escribirResumeCompletado (clave : String → String) (transactionId handoffId : Nat) (now : Int) :
    Sql Unit := do
  let rowcount ← Body.statement (updateTransactions (esPendiente transactionId)
    (Transaction.committed now) fun _ => rfl)
  exigeFilas (noPendiente transactionId) rowcount
  let tocadas ← Body.statement (updateHandoffs
    (fun h => h.handoffId = handoffId ∧ h.state = .awaitingDeployment)
    (fun h => { h with state := .completed, completedAt := some now, updatedAt := now }) fun _ => rfl)
  exigeFilas (noEsperaDeployment handoffId transactionId) tocadas
  let fila ← Body.query fun db => db.deploymentHandoffs.find handoffId
  match fila with
  | none => Body.raise (.journalTransaction ("Handoff " ++ toString handoffId ++
      " disappeared mid-boundary") (some transactionId))
  | some h =>
    let (objetivo, pref) := canonicaYPrefijo clave h.artifactPath
    sellarEvidenciaDeArtifact clave objetivo pref handoffId .absorbedByHandoff transactionId false now

def completarHandoffDeResume (clave : String → String) (transactionId handoffId : Nat) (now : Int)
    (averia : Averia) (j : Journal) : Except Fallo Unit × Journal :=
  j.escribe true (escribirResumeCompletado clave transactionId handoffId now) averia
    (fun _ j => ((), j.olvida transactionId))
    (envuelve "Failed to complete deployment handoff" (some transactionId))

/-- A keyword argument of `transicionar_handoff`; `ajena` is one that
    `_CAMPOS_TRANSICION_HANDOFF` does not have. -/
inductive CampoTransicion where
  | expectedDigest (value : Option String)
  | expectedFiles (value : Option Int)
  | expectedBytes (value : Option Int)
  | observedDigest (value : Option String)
  | observedFiles (value : Option Int)
  | observedBytes (value : Option Int)
  | ajena (nombre : String)
  deriving DecidableEq

def CampoTransicion.nombreAjeno : CampoTransicion → Option String
  | .ajena nombre => some nombre
  | _ => none

def CampoTransicion.aplica (h : DeploymentHandoff) : CampoTransicion → DeploymentHandoff
  | .expectedDigest v => { h with expectedDigest := v }
  | .expectedFiles v => { h with expectedFiles := v }
  | .expectedBytes v => { h with expectedBytes := v }
  | .observedDigest v => { h with observedDigest := v }
  | .observedFiles v => { h with observedFiles := v }
  | .observedBytes v => { h with observedBytes := v }
  | .ajena _ => h

def transicion (hacia : HandoffState) (campos : List CampoTransicion) (now : Int)
    (h : DeploymentHandoff) : DeploymentHandoff :=
  campos.foldl CampoTransicion.aplica { h with state := hacia, updatedAt := now }

theorem transicion_conserva {β : Type} {campo : DeploymentHandoff → β}
    (kept : ∀ h c, campo (CampoTransicion.aplica h c) = campo h)
    (moved : ∀ h s n, campo { h with state := s, updatedAt := n } = campo h) (hacia : HandoffState)
    (campos : List CampoTransicion) (now : Int) (h : DeploymentHandoff) :
    campo (transicion hacia campos now h) = campo h := by
  have fields (h : DeploymentHandoff) : campo (campos.foldl CampoTransicion.aplica h) = campo h := by
    induction campos generalizing h with
    | nil => rfl
    | cons c campos ih => rw [List.foldl_cons, ih, kept]
  exact (fields _).trans (moved h hacia now)

theorem transicion_handoffId (hacia : HandoffState) (campos : List CampoTransicion) (now : Int)
    (h : DeploymentHandoff) : (transicion hacia campos now h).handoffId = h.handoffId :=
  transicion_conserva (fun _ c => by cases c <;> rfl) (fun _ _ _ => rfl) hacia campos now h

theorem transicion_artifactPath (hacia : HandoffState) (campos : List CampoTransicion) (now : Int)
    (h : DeploymentHandoff) : (transicion hacia campos now h).artifactPath = h.artifactPath :=
  transicion_conserva (fun _ c => by cases c <;> rfl) (fun _ _ _ => rfl) hacia campos now h

def transicionarHandoff (handoffId : Nat) (desde hacia : HandoffState)
    (campos : List CampoTransicion) (now : Int) (averia : Averia) (j : Journal) :
    Except Fallo Bool × Journal :=
  match campos.findSome? CampoTransicion.nombreAjeno with
  | some nombre =>
    (.error (.journalTransaction ("Columna de handoff no permitida en una transición: " ++
      comillas nombre) none), j)
  | none =>
    j.escribe true (Body.statement (updateHandoffs
        (fun h => h.handoffId = handoffId ∧ h.state = desde) (transicion hacia campos now)
        (transicion_handoffId hacia campos now)))
      averia (fun tocadas j => (decide (tocadas = 1), j))
      (envuelve "Failed to transition handoff" none)

def escribirHandoffIndeterminado (clave : String → String) (registro : DeploymentHandoff)
    (absorciones : List Nat) (now : Int) : Sql Nat := do
  let nuevo ← Body.statement (insertHandoff registro now)
  registrarResolucionesDeArtifactEnConn clave absorciones (clave registro.artifactPath)
    .absorbedByHandoff (some nuevo) now
  pure nuevo

def registrarHandoffIndeterminado (clave : String → String) (registro : DeploymentHandoff)
    (consumirReceiptsDe : List Nat) (absorberEvidenciaDe : Option (List Nat)) (now : Int)
    (averia : Averia) (j : Journal) : Except Fallo (Option Nat) × Journal :=
  match j.escribe true (escribirHandoffIndeterminado clave registro
      (conjunto (absorberEvidenciaDe.getD consumirReceiptsDe)) now) averia devuelve id with
  | (.ok nuevo, j') => (.ok (some nuevo), j')
  | (.error (.sqlite (.integrity _)), j') => (.ok none, j')
  | (.error e, j') => (.error (envuelve "Failed to register indeterminate handoff" none e), j')

def escribirNoArtifact (clave : String → String) (objetivoFisico : String) (ids : List Nat)
    (now : Int) : Sql Unit := do
  let resolubles ← filtrarResolublesHistoricasEnConn ids
  registrarResolucionesDeArtifactEnConn clave resolubles objetivoFisico .noArtifactDemonstrated none
    now

def resolverEvidenciaComoNoArtifact (clave : String → String) (artifactPath : String)
    (txIds : List Nat) (now : Int) (averia : Averia) (j : Journal) : Except Fallo Unit × Journal :=
  if txIds = [] then (.ok (), j)
  else
    j.escribe true (escribirNoArtifact clave (clave artifactPath) (conjunto txIds) now) averia
      devuelveNada (envuelve "Failed to record no_artifact resolutions" none)

def registrarResolucionDeRestauracionDeArtifact (clave : String → String) (transactionId : Nat)
    (artifactPath : String) (now : Int) (averia : Averia) (j : Journal) :
    Except Fallo Unit × Journal :=
  j.escribe true (registrarResolucionesDeArtifactEnConn clave [transactionId] (clave artifactPath)
    .restoredByteExact none now) averia devuelveNada
    (envuelve "Failed to record restored_byte_exact resolution" none)

def escribirCierreDeReceipts (ids : List Nat) (now : Int) : Sql Unit :=
  Body.each ids fun id => do
    let _ ← Body.statement (updateReceipt id .noArtifact now)
    pure ()

def cerrarReceiptsComoNoArtifact (txIds : List Nat) (now : Int) (averia : Averia) (j : Journal) :
    Except Fallo Unit × Journal :=
  if txIds = [] then (.ok (), j)
  else
    j.escribe true (escribirCierreDeReceipts (conjunto txIds) now) averia devuelveNada
      (envuelve "Failed to close sweep receipts" none)

/-! Every operation, as a call -/

inductive Operacion where
  | beginTransaction (description : String) (modId : Option Int)
  | commitTransaction (transactionId : Nat)
  | rollbackTransaction (transactionId : Nat)
  | markTransactionRolledBack (transactionId : Nat)
  | sweepStalePending (maxAge : Int)
  | beginOperation (op : Operation)
  | completeOperation (entryId : Nat)
  | failOperation (entryId : Nat) (error : String) (metadata : Option JsonObject)
  | markRolledBack (entryId : Nat) (details : String)
  | crearHandoffDeDeployment (transactionId : Nat) (descripcion : Option String)
      (registro : DeploymentHandoff) (viejo : Option Nat)
  | completarHandoffDeResume (transactionId handoffId : Nat)
  | transicionarHandoff (handoffId : Nat) (desde hacia : HandoffState)
      (campos : List CampoTransicion)
  | registrarHandoffIndeterminado (registro : DeploymentHandoff) (consumirReceiptsDe : List Nat)
      (absorberEvidenciaDe : Option (List Nat))
  | resolverEvidenciaComoNoArtifact (artifactPath : String) (txIds : List Nat)
  | registrarResolucionDeRestauracionDeArtifact (transactionId : Nat) (artifactPath : String)
  | cerrarReceiptsComoNoArtifact (txIds : List Nat)
  deriving DecidableEq

inductive Respuesta where
  | nada
  | id (value : Nat)
  | cuenta (value : Nat)
  | talVez (value : Option Nat)
  | hecho (value : Bool)
  deriving DecidableEq

def responde (r : α → Respuesta) (salida : Except Fallo α × Journal) :
    Except Fallo Respuesta × Journal := (salida.1.map r, salida.2)

def Operacion.corre (clave : String → String) (now : Int) (averia : Averia) (j : Journal) :
    Operacion → Except Fallo Respuesta × Journal
  | .beginTransaction description modId =>
    responde .id (OperationJournal.beginTransaction description modId now averia j)
  | .commitTransaction id =>
    responde (fun _ => .nada) (OperationJournal.commitTransaction id now averia j)
  | .rollbackTransaction id =>
    responde (fun _ => .nada) (OperationJournal.rollbackTransaction id now averia j)
  | .markTransactionRolledBack id =>
    responde (fun _ => .nada) (OperationJournal.markTransactionRolledBack id now averia j)
  | .sweepStalePending maxAge =>
    responde .cuenta (OperationJournal.sweepStalePending maxAge now averia j)
  | .beginOperation op => responde .id (OperationJournal.beginOperation op now averia j)
  | .completeOperation entryId =>
    responde (fun _ => .nada) (OperationJournal.completeOperation entryId averia j)
  | .failOperation entryId error metadata =>
    responde (fun _ => .nada) (OperationJournal.failOperation entryId error metadata averia j)
  | .markRolledBack entryId details =>
    responde (fun _ => .nada) (OperationJournal.markRolledBack entryId details averia j)
  | .crearHandoffDeDeployment id descripcion registro viejo =>
    responde .id
      (OperationJournal.crearHandoffDeDeployment clave id descripcion registro viejo now averia j)
  | .completarHandoffDeResume id handoffId =>
    responde (fun _ => .nada)
      (OperationJournal.completarHandoffDeResume clave id handoffId now averia j)
  | .transicionarHandoff handoffId desde hacia campos =>
    responde .hecho
      (OperationJournal.transicionarHandoff handoffId desde hacia campos now averia j)
  | .registrarHandoffIndeterminado registro consumir absorber =>
    responde .talVez
      (OperationJournal.registrarHandoffIndeterminado clave registro consumir absorber now averia j)
  | .resolverEvidenciaComoNoArtifact artifactPath txIds =>
    responde (fun _ => .nada)
      (OperationJournal.resolverEvidenciaComoNoArtifact clave artifactPath txIds now averia j)
  | .registrarResolucionDeRestauracionDeArtifact id artifactPath =>
    responde (fun _ => .nada)
      (OperationJournal.registrarResolucionDeRestauracionDeArtifact clave id artifactPath now averia j)
  | .cerrarReceiptsComoNoArtifact txIds =>
    responde (fun _ => .nada) (OperationJournal.cerrarReceiptsComoNoArtifact txIds now averia j)

end OperationJournal
