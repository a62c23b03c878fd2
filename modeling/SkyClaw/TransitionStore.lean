import SkyClaw.CrashPrograms
import SkyClaw.TransitionDocuments

set_option linter.all false

/-!
The transitions of the activation journal, `frozen_runtime/journal.py`: CREATE,
START_NEXT, UPDATE and FINALIZE over the files under `state/`. The caller holds
the root lock, so the files of a call change only by its own writes; a crash, or
any error the system raises, may come before each of them.
-/
namespace TransitionJournal
open JsonText SortedEntries Checks CrashPrograms

local instance lawfulBEq_scope : LawfulBEq (List Utf8Text.CodePoint) := inferInstance

abbrev Bytes := List UInt8

/-- `state/transition.json`, `state/transitions/` and `state/finalization-seqs/`, with the name of
each file without `.json`. A directory may not exist. -/
structure Almacen where
  transition : Option Bytes
  transitions : Option (List (Texto × Bytes))
  finalizationSeqs : Option (List (Texto × Bytes))
  deriving DecidableEq

structure PropuestaTransicion where
  transitionId : Texto
  operation : JournalOperation
  sourceActivation : SourceActivation
  sourceActivationDigest : Texto
  targetGenerationId : Texto
  targetCloneId : Texto
  targetRuntimeSetupId : Texto
  candidateId : Option Texto
  approvalScopeDigest : Texto
  evidenceDigests : EvidenceDigests
  expectedEffectivePath : Texto
  createdAtNs : Int
  deriving DecidableEq

structure ProyeccionScope where
  operation : Texto
  sourceActivationDigest : Texto
  targetGenerationId : Texto
  targetCloneId : Texto
  targetRuntimeSetupId : Texto
  candidateId : Option Texto
  cloneEvidence : Texto
  runtimeSetupEvidence : Texto
  compatibilityEvidenceId : Texto
  approvalId : Texto
  approvalSeq : Int
  deriving DecidableEq

structure AprobacionConsumida where
  approvalId : Texto
  approvalSeq : Int
  scopeDigest : Texto
  consumedByTransitionId : Texto
  proyeccion : ProyeccionScope
  deriving DecidableEq

structure PostVerifyEvidence where
  transitionId : Texto
  resultado : Texto
  sourceActivationDigest : Texto
  targetGenerationId : Texto
  targetCloneId : Texto
  targetRuntimeSetupId : Texto
  desiredActiveGeneration : Option Texto
  effectiveObservationDigest : Texto
  payloadDigest : Texto
  verifiedAtNs : Int
  expectedJournalRevision : Int
  deriving DecidableEq

structure HistorialFinalizado where
  registros : List FinalizedTransitionRecord
  nextSeq : Int
  latest : Option FinalizedTransitionRecord
  fronteraSeq : Option Int
  deriving DecidableEq

structure AuditoriaReservas where
  reservas : List SeqReservation
  huerfanas : List (Int × Texto)
  deriving DecidableEq

/-! Checks of what the caller brings -/

def proyectarPropuesta (p : PropuestaTransicion) (approvalId : Texto) (approvalSeq : Int) :
    ProyeccionScope where
  operation := lit p.operation.value
  sourceActivationDigest := p.sourceActivationDigest
  targetGenerationId := p.targetGenerationId
  targetCloneId := p.targetCloneId
  targetRuntimeSetupId := p.targetRuntimeSetupId
  candidateId := p.candidateId
  cloneEvidence := p.evidenceDigests.cloneEvidence
  runtimeSetupEvidence := p.evidenceDigests.runtimeSetupEvidence
  compatibilityEvidenceId := p.evidenceDigests.compatibilityEvidence
  approvalId := approvalId
  approvalSeq := approvalSeq

/-- Field by field, under the names of the scope. -/
def discrepanciasScope (aprobado transicion : ProyeccionScope) : List String :=
  (([("operation", aprobado.operation = transicion.operation),
    ("source_activation_digest",
      aprobado.sourceActivationDigest = transicion.sourceActivationDigest),
    ("generation_id", aprobado.targetGenerationId = transicion.targetGenerationId),
    ("clone_id", aprobado.targetCloneId = transicion.targetCloneId),
    ("clone_evidence", aprobado.cloneEvidence = transicion.cloneEvidence),
    ("runtime_setup_id", aprobado.targetRuntimeSetupId = transicion.targetRuntimeSetupId),
    ("runtime_setup_evidence", aprobado.runtimeSetupEvidence = transicion.runtimeSetupEvidence),
    ("compatibility_evidence_id",
      aprobado.compatibilityEvidenceId = transicion.compatibilityEvidenceId),
    ("candidate_id", aprobado.candidateId = transicion.candidateId),
    ("approval_id", aprobado.approvalId = transicion.approvalId),
    ("approval_seq", aprobado.approvalSeq = transicion.approvalSeq)] : List (String × Bool)).filter
      (!·.2)).map (·.1)

def exigirProyeccionLigada (aprobado transicion : ProyeccionScope) : Except JournalError Unit :=
  require (discrepanciasScope aprobado transicion = [])
    (.scopeBinding (discrepanciasScope aprobado transicion))

def validarAprobacion (a : AprobacionConsumida) : Except JournalError Unit := do
  require (UuidV4 a.approvalId) (.schema "approval_id")
  require (UuidV4 a.consumedByTransitionId) (.schema "consumed_by_transition_id")
  require (DigestHex a.scopeDigest) (.schema "scope_digest")
  require (1 ≤ a.approvalSeq) (.schema "approval_seq")
  require (a.proyeccion.approvalId = a.approvalId ∧ a.proyeccion.approvalSeq = a.approvalSeq)
    (.identity "proyeccion")

def validarPostEvidence (e : PostVerifyEvidence) : Except JournalError Unit := do
  require (UuidV4 e.transitionId) (.evidenciaPost "transition_id")
  require (e.resultado ∈ [lit "PASS", lit "FAIL"]) (.evidenciaPost "resultado")
  require (DigestHex e.sourceActivationDigest) (.evidenciaPost "source_activation_digest")
  require (DigestHex e.effectiveObservationDigest) (.evidenciaPost "effective_observation_digest")
  require (DigestHex e.payloadDigest) (.evidenciaPost "payload_digest")
  require (GenerationIdCanonico e.targetGenerationId) (.evidenciaPost "target_generation_id")
  require (TextoValido e.targetCloneId) (.evidenciaPost "target_clone_id")
  require (TextoValido e.targetRuntimeSetupId) (.evidenciaPost "target_runtime_setup_id")
  require (∀ t ∈ e.desiredActiveGeneration, GenerationIdCanonico t)
    (.evidenciaPost "desired_active_generation")
  require (1 ≤ e.verifiedAtNs) (.evidenciaPost "verified_at_ns")
  require (0 ≤ e.expectedJournalRevision) (.evidenciaPost "expected_journal_revision")

section
variable (sha256 : Bytes → Texto)

def validarPropuesta (p : PropuestaTransicion) : Except JournalError Unit := do
  require (UuidV4 p.transitionId) (.schema "transition_id")
  let canonico ← digestCanonico sha256 p.sourceActivation
  require (p.sourceActivationDigest = canonico) (.identity "source_activation_digest")
  require (GenerationIdCanonico p.targetGenerationId) (.schema "target_generation_id")
  require (TextoValido p.targetCloneId) (.schema "target_clone_id")
  require (TextoValido p.targetRuntimeSetupId) (.schema "target_runtime_setup_id")
  require (TextoValido p.expectedEffectivePath) (.schema "expected_effective_path")
  require (DigestHex p.approvalScopeDigest) (.schema "approval_scope_digest")
  let _ ← validarCandidateId (opcional p.candidateId) p.operation
  require (DigestHex p.evidenceDigests.cloneEvidence) (.schema "clone_evidence")
  require (DigestHex p.evidenceDigests.runtimeSetupEvidence) (.schema "runtime_setup_evidence")
  require (DigestHex p.evidenceDigests.compatibilityEvidence) (.schema "compatibility_evidence")
  require (0 ≤ p.createdAtNs) (.schema "created_at_ns")

def exigirPrecondicionesComunes (p : PropuestaTransicion) (a : AprobacionConsumida) :
    Except JournalError Unit := do
  validarPropuesta sha256 p
  validarAprobacion a
  require (a.consumedByTransitionId = p.transitionId) (.identity "consumed_by_transition_id")
  require (a.scopeDigest = p.approvalScopeDigest) (.identity "approval_scope_digest")
  exigirProyeccionLigada a.proyeccion (proyectarPropuesta p a.approvalId a.approvalSeq)

/-! Reading the files -/

def leerJsonEstricto (raw : Bytes) : Except JournalError Json :=
  match loads raw with
  | some (.obj members) => .ok (.obj members)
  | _ => .error .corrupt

/-- Nothing for a journal that is `ABSENT`. -/
def cargarJournalTransicion (a : Almacen) : Except JournalError (Option Journal) :=
  match a.transition with
  | none => .ok none
  | some raw => do
    let doc ← parsearJournal sha256 (← leerJsonEstricto raw)
    return some doc

/-- The files that are not a placeholder. -/
def publicados (dir : List (Texto × Bytes)) : List (Texto × Bytes) := dir.filter fun archivo => !archivo.2.isEmpty

def leerRegistro (archivo : Texto × Bytes) : Except JournalError FinalizedTransitionRecord := do
  validarRegistro sha256 (← leerJsonEstricto archivo.2) archivo.1

def leerReserva (rootId : Texto) (archivo : Texto × Bytes) : Except JournalError SeqReservation := do
  validarReserva (← leerJsonEstricto archivo.2) archivo.1 rootId

def historialVacio : HistorialFinalizado := ⟨[], 1, none, none⟩

def porSeq (r s : FinalizedTransitionRecord) : Prop := r.finalizationSeq ≤ s.finalizationSeq

instance (r s : FinalizedTransitionRecord) : Decidable (porSeq r s) :=
  inferInstanceAs (Decidable (_ ≤ _))

/-- `range(sMin, sMax + 1)` -/
def rangoSeqs (sMin sMax : Int) : List Int :=
  (List.range (sMax + 1 - sMin).toNat).map fun n : Nat => sMin + n

def encadenar (registros : List FinalizedTransitionRecord) :
    Except JournalError HistorialFinalizado := do
  let seqs := registros.map (·.finalizationSeq)
  let ids := registros.map (·.transitionId)
  require seqs.Nodup (.identity "finalization_seq duplicado")
  require ids.Nodup (.identity "transition_id duplicado")
  let ordenados := registros.insertionSort porSeq
  let sMin := seqs.min?.getD 0
  let sMax := seqs.max?.getD 0
  require ((∀ s ∈ seqs, s ∈ rangoSeqs sMin sMax) ∧ ∀ s ∈ rangoSeqs sMin sMax, s ∈ seqs)
    (.identity "hueco interior")
  require (∀ r ∈ ordenados, r.finalizationSeq = sMin ∨
    (ordenados.find? fun previo => previo.finalizationSeq = r.finalizationSeq - 1).any
      (fun previo => some previo.transitionId = r.finalizedFromTransitionId))
    (.identity "predecesor roto")
  return ⟨ordenados, sMax + 1, ordenados.getLast?, some sMin⟩

def derivarHistorialFinalizados (a : Almacen) : Except JournalError HistorialFinalizado :=
  match a.transitions with
  | none => do
    let snapshot ← cargarJournalTransicion sha256 a
    require (snapshot = none) .storeNoInicializado
    return historialVacio
  | some dir => do
    let registros ← (publicados dir).mapM (leerRegistro sha256)
    if registros = [] then return historialVacio
    encadenar registros

def sinRegistro (reservas : List SeqReservation) (historial : HistorialFinalizado) :
    List (Int × Texto) :=
  (reservas.filter fun v => v.finalizationSeq ∉ historial.registros.map (·.finalizationSeq)).map
    fun v => (v.finalizationSeq, v.transitionId)

variable (rootId : Texto)

def auditarReservasFinalizacion (a : Almacen) (historial : HistorialFinalizado) :
    Except JournalError AuditoriaReservas :=
  match a.finalizationSeqs with
  | none => do
    require (historial.registros = []) (.identity "finalization-seqs")
    return ⟨[], []⟩
  | some dir => do
    let reservas ← (publicados dir).mapM (leerReserva rootId)
    require (∀ v ∈ reservas, ∀ r ∈ historial.registros,
      r.finalizationSeq = v.finalizationSeq → r.transitionId = v.transitionId)
      (.identity "reserva de otra transición")
    require (∀ r ∈ historial.registros, ∃ v ∈ reservas,
      v.finalizationSeq = r.finalizationSeq ∧ v.transitionId = r.transitionId)
      (.identity "registro sin reserva")
    return ⟨reservas, sinRegistro reservas historial⟩

def exigirSinReservasHuerfanas (a : Almacen) (historial : HistorialFinalizado) :
    Except JournalError Unit := do
  let auditoria ← auditarReservasFinalizacion rootId a historial
  require (auditoria.huerfanas = []) (.identity "reserva huérfana")

def exigirDirsStore (a : Almacen) : Except JournalError Unit :=
  require (a.transitions.isSome ∧ a.finalizationSeqs.isSome) .storeNoInicializado

/-! Transitions, under the root lock -/

/-- The files, and how many writes come before the crash. -/
structure Disco where
  almacen : Almacen
  restantes : Nat
  deriving DecidableEq

abbrev Tarea := Program Disco JournalError

def leer : Tarea Almacen := .gets (·.almacen)

/-- One durable write: the creation of a placeholder, or `os.replace`. -/
def escribir (cambio : Almacen → Almacen) : Tarea Unit := fun d =>
  match d.restantes with
  | 0 => (.crash, d)
  | n + 1 => (.value (), ⟨cambio d.almacen, n⟩)

/-- The bytes of `write_json_atomic`. -/
def bytesDe (payload : Json) : Except JournalError Bytes :=
  present .codificacion (dumps (indented 2) payload)

/-- `_validar_antes_de_escribir_journal` and the write. -/
def escribirJournal (doc : Journal) : Tarea Unit := do
  let _ ← .lift (parsearJournal sha256 (serializarJournal doc))
  let raw ← .lift (bytesDe (serializarJournal doc))
  escribir fun a => { a with transition := some raw }

def enPending : Option Journal → Option (Journal × Pendiente)
  | some doc => match doc.cuerpo with
    | .pendiente p => some (doc, p)
    | .none _ => none
  | none => none

def construirDocPendiente (p : PropuestaTransicion) (a : AprobacionConsumida) (revision : Int)
    (lockSessionId : Texto) : Journal where
  journalRevision := revision
  createdAtNs := p.createdAtNs
  lockSessionId := lockSessionId
  cuerpo := .pendiente {
    operation := p.operation
    transitionId := p.transitionId
    sourceActivation := p.sourceActivation
    sourceActivationDigest := p.sourceActivationDigest
    targetGenerationId := p.targetGenerationId
    targetCloneId := p.targetCloneId
    targetRuntimeSetupId := p.targetRuntimeSetupId
    candidateId := p.candidateId
    approvalScopeDigest := p.approvalScopeDigest
    consumedApprovalId := a.approvalId
    consumedApprovalSeq := a.approvalSeq
    consumedScopeDigest := a.scopeDigest
    evidenceDigests := p.evidenceDigests
    expectedEffectivePath := p.expectedEffectivePath }

/-- The revision of the first PENDING of a root. -/
def revisionDeCreate (snapshot : Option Journal) (historial : HistorialFinalizado) :
    Except JournalError Int :=
  match snapshot with
  | some doc => do
    require (historial.registros = []) (.cas "hay historial: es START_NEXT")
    require (doc.cuerpo = .none none) (.cas "testigo sin store")
    return doc.journalRevision + 1
  | none => do
    require (historial.registros = []) (.identity "registros sin journal")
    return 0

def crearPendienteLocked (propuesta : PropuestaTransicion) (aprobacion : AprobacionConsumida)
    (sesion : Texto) : Tarea Unit := do
  let a ← leer
  let _ ← .lift (exigirDirsStore a)
  let _ ← .lift (exigirPrecondicionesComunes sha256 propuesta aprobacion)
  let snapshot ← .lift (cargarJournalTransicion sha256 a)
  let _ ← .lift (require (enPending snapshot = none) (.cas "ya existe un PENDING"))
  let historial ← .lift (derivarHistorialFinalizados sha256 a)
  let _ ← .lift (exigirSinReservasHuerfanas rootId a historial)
  let _ ← .lift (require (propuesta.transitionId ∉ historial.registros.map (·.transitionId))
    (.cas "transition_id ya utilizado"))
  let revision ← .lift (revisionDeCreate snapshot historial)
  escribirJournal sha256 (construirDocPendiente propuesta aprobacion revision sesion)

/-- The witness of a journal in NONE. -/
def testigoDe : Option Journal → Except JournalError (Journal × Option Texto)
  | some doc => match doc.cuerpo with
    | .none testigo => .ok (doc, testigo)
    | .pendiente _ => .error (.cas "START_NEXT exige NONE")
  | none => .error (.cas "START_NEXT exige NONE")

def startNextLocked (propuesta : PropuestaTransicion) (aprobacion : AprobacionConsumida)
    (sesion : Texto) : Tarea Unit := do
  let a ← leer
  let _ ← .lift (exigirDirsStore a)
  let _ ← .lift (exigirPrecondicionesComunes sha256 propuesta aprobacion)
  let snapshot ← .lift (cargarJournalTransicion sha256 a)
  let vigente ← .lift (testigoDe snapshot)
  let historial ← .lift (derivarHistorialFinalizados sha256 a)
  let latest ← .lift (present (.cas "START_NEXT exige historial") historial.latest)
  let _ ← .lift (exigirSinReservasHuerfanas rootId a historial)
  let _ ← .lift (require (propuesta.transitionId ∉ historial.registros.map (·.transitionId))
    (.cas "transition_id ya utilizado"))
  let _ ← .lift (require (vigente.2 ≠ none) (.cas "NONE sin testigo"))
  let _ ← .lift (require (vigente.2 = some latest.transitionId) (.identity "testigo"))
  escribirJournal sha256
    (construirDocPendiente propuesta aprobacion (vigente.1.journalRevision + 1) sesion)

def camposActualizables : List Texto := [lit "expected_effective_path"]

/-- The path of the document, or the one that the changes give. -/
def rutaActualizada (p : Pendiente) (cambios : List (Texto × Json)) : Except JournalError Texto :=
  match (dict cambios).get "expected_effective_path" with
  | some valor => exigirTextoValor "expected_effective_path" valor
  | none => .ok p.expectedEffectivePath

def actualizarLocked (expectedTransitionId : Texto) (expectedJournalRevision : Int)
    (cambios : List (Texto × Json)) : Tarea Unit := do
  let a ← leer
  let snapshot ← .lift (cargarJournalTransicion sha256 a)
  let vigente ← .lift (present (.cas "no hay un PENDING") (enPending snapshot))
  let _ ← .lift (require (vigente.2.transitionId = expectedTransitionId ∧
    vigente.1.journalRevision = expectedJournalRevision) (.cas "CAS desactualizado"))
  let _ ← .lift (require (∀ c ∈ cambios, c.1 ∈ camposActualizables)
    (.identity "campos no actualizables"))
  let ruta ← .lift (rutaActualizada vigente.2 cambios)
  escribirJournal sha256 { vigente.1 with
    journalRevision := vigente.1.journalRevision + 1
    cuerpo := .pendiente { vigente.2 with expectedEffectivePath := ruta } }

/-- The evidence binds the transition in force, its revision and its target. -/
def Ligada (doc : Journal) (p : Pendiente) (e : PostVerifyEvidence) : Prop :=
  p.transitionId = e.transitionId ∧ e.resultado = lit "PASS" ∧
    doc.journalRevision = e.expectedJournalRevision ∧
    e.sourceActivationDigest = p.sourceActivationDigest ∧
    e.targetGenerationId = p.targetGenerationId ∧ e.targetCloneId = p.targetCloneId ∧
    e.targetRuntimeSetupId = p.targetRuntimeSetupId ∧
    e.desiredActiveGeneration = some p.targetGenerationId

def exigirEvidenciaCoherente (doc : Journal) (p : Pendiente) (e : PostVerifyEvidence) :
    Except JournalError Unit := do
  require (p.transitionId = e.transitionId) (.evidenciaPost "transition_id")
  require (e.resultado = lit "PASS") (.evidenciaPost "resultado")
  require (doc.journalRevision = e.expectedJournalRevision) (.cas "revisión de la evidencia")
  require (e.sourceActivationDigest = p.sourceActivationDigest)
    (.evidenciaPost "source_activation_digest")
  require (e.targetGenerationId = p.targetGenerationId) (.evidenciaPost "target_generation_id")
  require (e.targetCloneId = p.targetCloneId) (.evidenciaPost "target_clone_id")
  require (e.targetRuntimeSetupId = p.targetRuntimeSetupId)
    (.evidenciaPost "target_runtime_setup_id")
  require (e.desiredActiveGeneration = some p.targetGenerationId)
    (.evidenciaPost "desired_active_generation")

theorem exigirEvidenciaCoherente_ok {doc : Journal} {p : Pendiente} {e : PostVerifyEvidence}
    {u : Unit} : exigirEvidenciaCoherente doc p e = .ok u ↔ Ligada doc p e := by
  simp only [exigirEvidenciaCoherente, Ligada, bind_ok, require_ok, exists_const]

/-- The record is the one that the pending transition describes, and the last of the chain. -/
def Coincide (r : FinalizedTransitionRecord) (p : Pendiente) (historial : HistorialFinalizado) :
    Prop :=
  r.operation = p.operation ∧ r.sourceActivation = p.sourceActivation ∧
    r.sourceActivationDigest = p.sourceActivationDigest ∧
    r.targetGenerationId = p.targetGenerationId ∧ r.targetCloneId = p.targetCloneId ∧
    r.targetRuntimeSetupId = p.targetRuntimeSetupId ∧ r.candidateId = p.candidateId ∧
    r.approvalScopeDigest = p.approvalScopeDigest ∧
    r.consumedApprovalId = p.consumedApprovalId ∧ r.consumedApprovalSeq = p.consumedApprovalSeq ∧
    historial.latest.map (·.transitionId) = some r.transitionId

instance (r : FinalizedTransitionRecord) (p : Pendiente) (h : HistorialFinalizado) :
    Decidable (Coincide r p h) := by
  unfold Coincide
  infer_instance

/-- F1a. -/
def reservarSeqLocked (seq : Int) (transitionId : Texto) : Tarea Unit := do
  let a ← leer
  let dir ← .lift (present .storeNoInicializado a.finalizationSeqs)
  let ruta := nombreSeq seq
  let completar : Tarea Unit := do
    let raw ← .lift (bytesDe (serializarReserva ⟨rootId, seq, transitionId⟩))
    escribir fun a => { a with finalizationSeqs := a.finalizationSeqs.map (put ruta raw) }
  match find dir ruta with
  | none => do
    let _ ← escribir fun a => { a with finalizationSeqs := a.finalizationSeqs.map (put ruta []) }
    completar
  | some [] => completar
  | some raw => do
    let existente ← .lift (leerReserva rootId (ruta, raw))
    .lift (require (existente.finalizationSeq = seq ∧ existente.transitionId = transitionId)
      (.cas "seq ya reservada"))

/-- F1b. A record that is there is never written again. -/
def persistirRegistroLocked (record : FinalizedTransitionRecord) :
    Tarea FinalizedTransitionRecord := do
  let a ← leer
  let dir ← .lift (present .storeNoInicializado a.transitions)
  let ruta := record.transitionId
  let completar : Tarea FinalizedTransitionRecord := do
    let raw ← .lift (bytesDe (serializarRegistro record))
    let _ ← escribir fun a => { a with transitions := a.transitions.map (put ruta raw) }
    return record
  match find dir ruta with
  | none => do
    let _ ← escribir fun a => { a with transitions := a.transitions.map (put ruta []) }
    completar
  | some [] => completar
  | some raw => do
    let existente ← .lift (leerRegistro sha256 (ruta, raw))
    let _ ← .lift (require (existente.transitionId = record.transitionId ∧
      existente.finalizationSeq = record.finalizationSeq ∧
      existente.postVerifyEvidenceDigest = record.postVerifyEvidenceDigest)
      (.identity "registro con otra identidad"))
    return existente

/-- F2. `reloj` is `time.time_ns()`, the nanoseconds since the epoch. -/
def rotarJournalLocked (registro : FinalizedTransitionRecord) (revisionPrevia : Int)
    (sesion : Texto) (reloj : Nat) : Tarea Unit := do
  let a ← leer
  let vigente ← .lift (cargarJournalTransicion sha256 a)
  if vigente.map (·.cuerpo) = some (.none (some registro.transitionId)) then return ()
  let pending ← .lift (present (.cas "no hay un PENDING") (enPending vigente))
  let _ ← .lift (require (pending.2.transitionId = registro.transitionId)
    (.cas "el PENDING no es de esta transición"))
  let _ ← .lift (require (pending.1.journalRevision = revisionPrevia) (.cas "CAS desactualizado"))
  escribirJournal sha256
    ⟨revisionPrevia + 1, reloj, sesion, .none (some registro.transitionId)⟩

def construirRegistro (p : Pendiente) (historial : HistorialFinalizado) (e : PostVerifyEvidence)
    (reloj : Nat) : FinalizedTransitionRecord where
  transitionId := p.transitionId
  finalizationSeq := historial.nextSeq
  finalizedFromTransitionId := historial.latest.map (·.transitionId)
  operation := p.operation
  sourceActivation := p.sourceActivation
  sourceActivationDigest := p.sourceActivationDigest
  previousActivationTarget := p.sourceActivation
  targetGenerationId := p.targetGenerationId
  targetCloneId := p.targetCloneId
  targetRuntimeSetupId := p.targetRuntimeSetupId
  candidateId := p.candidateId
  approvalScopeDigest := p.approvalScopeDigest
  consumedApprovalId := p.consumedApprovalId
  consumedApprovalSeq := p.consumedApprovalSeq
  postVerifyEvidenceDigest := e.payloadDigest
  postVerifiedAtNs := e.verifiedAtNs
  finalizedAtNs := reloj

/-- What is left to do for a transition whose record is there. -/
def completarFinalizacion (doc : Journal) (registro : FinalizedTransitionRecord)
    (historial : HistorialFinalizado) (e : PostVerifyEvidence) (sesion : Texto) (reloj : Nat) :
    Tarea FinalizedTransitionRecord := do
  let _ ← .lift (require (registro.postVerifyEvidenceDigest = e.payloadDigest ∧
    registro.postVerifiedAtNs = e.verifiedAtNs) (.evidenciaPost "payload_digest"))
  let _ ← .lift (require (e.resultado = lit "PASS") (.evidenciaPost "resultado"))
  match doc.cuerpo with
  | .none testigo => do
    let _ ← .lift (require (testigo = some e.transitionId) (.cas "NONE de otra transición"))
    return registro
  | .pendiente p => do
    let _ ← .lift (require (Coincide registro p historial) (.identity "registro"))
    let _ ← .lift (exigirEvidenciaCoherente doc p e)
    let _ ← rotarJournalLocked sha256 registro doc.journalRevision sesion reloj
    return registro

def finalizarLocked (e : PostVerifyEvidence) (sesion : Texto) (relojRegistro relojJournal : Nat) :
    Tarea FinalizedTransitionRecord := do
  let a ← leer
  let _ ← .lift (exigirDirsStore a)
  let _ ← .lift (validarPostEvidence e)
  let snapshot ← .lift (cargarJournalTransicion sha256 a)
  let doc ← .lift (present (.cas "no hay journal") snapshot)
  let historial ← .lift (derivarHistorialFinalizados sha256 a)
  let _ ← .lift (auditarReservasFinalizacion rootId a historial)
  match historial.registros.find? fun r => r.transitionId = e.transitionId with
  | some registro => completarFinalizacion sha256 doc registro historial e sesion relojJournal
  | none =>
    match doc.cuerpo with
    | .none _ => .throw (.cas "testigo sin registro")
    | .pendiente p => do
      let _ ← .lift (exigirEvidenciaCoherente doc p e)
      let registro := construirRegistro p historial e relojRegistro
      let _ ← reservarSeqLocked rootId registro.finalizationSeq registro.transitionId
      let registro ← persistirRegistroLocked sha256 registro
      let _ ← rotarJournalLocked sha256 registro doc.journalRevision sesion relojJournal
      return registro

inductive Transicion where
  | create (propuesta : PropuestaTransicion) (aprobacion : AprobacionConsumida) (sesion : Texto)
  | startNext (propuesta : PropuestaTransicion) (aprobacion : AprobacionConsumida) (sesion : Texto)
  | update (expectedTransitionId : Texto) (expectedJournalRevision : Int)
      (cambios : List (Texto × Json))
  | finalize (evidencia : PostVerifyEvidence) (sesion : Texto) (relojRegistro relojJournal : Nat)

def Transicion.tarea : Transicion → Tarea Unit
  | .create propuesta aprobacion sesion =>
    crearPendienteLocked sha256 rootId propuesta aprobacion sesion
  | .startNext propuesta aprobacion sesion =>
    startNextLocked sha256 rootId propuesta aprobacion sesion
  | .update id revision cambios => actualizarLocked sha256 id revision cambios
  | .finalize e sesion relojRegistro relojJournal => do
    let _ ← finalizarLocked sha256 rootId e sesion relojRegistro relojJournal
    return ()

/-- A transition that is cut, if at all, after `escrituras` writes. -/
structure Evento where
  transicion : Transicion
  escrituras : Nat

def step (a : Almacen) (e : Evento) : Option Almacen :=
  some ((e.transicion.tarea sha256 rootId) ⟨a, e.escrituras⟩).2.almacen

/-- A root where no transition has begun, whether its directories are there or not. -/
def Inicial (a : Almacen) : Prop :=
  a.transition = none ∧ (∀ dir ∈ a.transitions, dir = []) ∧ ∀ dir ∈ a.finalizationSeqs, dir = []

end

end TransitionJournal
