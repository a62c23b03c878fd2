import SkyClaw.Checks
import SkyClaw.JsonText
import SkyClaw.TrimmedText

set_option linter.all false

/-!
The documents of the activation journal, `frozen_runtime/journal.py`: the journal
in force, the finalized records and the reservations of their sequence, each with
its closed schema. What passes its own parser is read back equal.
-/
namespace TransitionJournal
open Utf8Text JsonText SortedEntries Checks

local instance lawfulBEq_campo : LawfulBEq (List CodePoint) := inferInstance

abbrev Texto := Text

inductive JournalError where
  | schema (campo : String)
  | identity (motivo : String)
  | cas (motivo : String)
  | corrupt
  | evidenciaPost (campo : String)
  | storeNoInicializado
  | scopeBinding (campos : List String)
  /-- `UnicodeEncodeError` or the limit of digits: the document has no bytes. -/
  | codificacion
  deriving DecidableEq

inductive JournalOperation where
  | promotion
  | rollback
  deriving DecidableEq

def JournalOperation.value : JournalOperation → String
  | .promotion => "PROMOTION"
  | .rollback => "ROLLBACK"

structure SourceActivation where
  generationId : Option Texto
  cloneId : Option Texto
  runtimeSetupId : Option Texto
  effectiveRuntimeEvidence : Option Texto
  deriving DecidableEq

structure EvidenceDigests where
  cloneEvidence : Texto
  runtimeSetupEvidence : Texto
  compatibilityEvidence : Texto
  deriving DecidableEq

/-- What a journal in PENDING says beyond its base fields. -/
structure Pendiente where
  operation : JournalOperation
  transitionId : Texto
  sourceActivation : SourceActivation
  sourceActivationDigest : Texto
  targetGenerationId : Texto
  targetCloneId : Texto
  targetRuntimeSetupId : Texto
  candidateId : Option Texto
  approvalScopeDigest : Texto
  consumedApprovalId : Texto
  consumedApprovalSeq : Int
  consumedScopeDigest : Texto
  evidenceDigests : EvidenceDigests
  expectedEffectivePath : Texto
  deriving DecidableEq

/-- The schema is closed by state: `NONE` with its witness, or `PENDING_*` in full. -/
inductive Cuerpo where
  | none (lastFinalizedTransitionId : Option Texto)
  | pendiente (p : Pendiente)
  deriving DecidableEq

structure Journal where
  journalRevision : Int
  createdAtNs : Int
  lockSessionId : Texto
  cuerpo : Cuerpo
  deriving DecidableEq

structure FinalizedTransitionRecord where
  transitionId : Texto
  finalizationSeq : Int
  finalizedFromTransitionId : Option Texto
  operation : JournalOperation
  sourceActivation : SourceActivation
  sourceActivationDigest : Texto
  previousActivationTarget : SourceActivation
  targetGenerationId : Texto
  targetCloneId : Texto
  targetRuntimeSetupId : Texto
  candidateId : Option Texto
  approvalScopeDigest : Texto
  consumedApprovalId : Texto
  consumedApprovalSeq : Int
  postVerifyEvidenceDigest : Texto
  postVerifiedAtNs : Int
  finalizedAtNs : Int
  deriving DecidableEq

structure SeqReservation where
  rootId : Texto
  finalizationSeq : Int
  transitionId : Texto
  deriving DecidableEq

def JOURNAL_SCHEMA_VERSION : Int := 2
def RECORD_SCHEMA_VERSION : Int := 2
def RESERVATION_SCHEMA_VERSION : Int := 1

/-! Forms of the values -/

def espacio : CodePoint → Bool
  | .scalar c => TrimmedText.isspace c
  | .surrogate _ => false

/-- Not empty and without spaces at its ends. -/
def TextoValido (t : Texto) : Prop := t ≠ [] ∧ TrimmedText.strip espacio t = t

instance (t : Texto) : Decidable (TextoValido t) :=
  inferInstanceAs (Decidable (t ≠ [] ∧ TrimmedText.strip espacio t = t))

def digitoHex : CodePoint → Bool
  | .scalar c => c.isDigit || ('a' ≤ c && c ≤ 'f')
  | .surrogate _ => false

def alfanumerico : CodePoint → Bool
  | .scalar c => c.isDigit || ('a' ≤ c && c ≤ 'z')
  | .surrogate _ => false

/-- The text of a version 4 UUID, as `str(uuid.UUID(t))` writes it. -/
def UuidV4 (t : Texto) : Prop :=
  t.length = 36 ∧ t.zipIdx.all (fun (p, i) =>
    if i ∈ [8, 13, 18, 23] then p == .scalar '-'
    else if i = 14 then p == .scalar '4'
    else if i = 19 then p ∈ lit "89ab"
    else digitoHex p) = true

instance (t : Texto) : Decidable (UuidV4 t) := by
  unfold UuidV4
  infer_instance

def DigestHex (t : Texto) : Prop := t.length = 64 ∧ t.all digitoHex = true

instance (t : Texto) : Decidable (DigestHex t) :=
  inferInstanceAs (Decidable (t.length = 64 ∧ t.all digitoHex = true))

def reservadosWindows : List String :=
  ["con", "prn", "aux", "nul", "com1", "com2", "com3", "com4", "com5", "com6", "com7", "com8",
    "com9", "lpt1", "lpt2", "lpt3", "lpt4", "lpt5", "lpt6", "lpt7", "lpt8", "lpt9"]

/-- `^[a-z0-9]+(?:\.[a-z0-9]+)*__[0-9a-f]{12}$`, and no reserved name before the first dot or
underscore. -/
def GenerationIdCanonico (t : Texto) : Prop :=
  let version := t.take (t.length - 14)
  15 ≤ t.length ∧ (t.drop (t.length - 12)).all digitoHex = true ∧
    (t.drop (t.length - 14)).take 2 = lit "__" ∧
    (version.splitOn (.scalar '.')).all (fun tramo => tramo ≠ [] && tramo.all alfanumerico) = true ∧
    t.takeWhile (fun p => p ∉ lit "._") ∉ reservadosWindows.map lit

instance (t : Texto) : Decidable (GenerationIdCanonico t) := by
  unfold GenerationIdCanonico
  infer_instance

/-- A text of some form. -/
def exigirForma (forma : Texto → Prop) [DecidablePred forma] (campo : String) :
    Json → Except JournalError Texto
  | .str t => do
    require (forma t) (.schema campo)
    return t
  | _ => .error (.schema campo)

def exigirTextoValor := exigirForma TextoValido

def exigirGenerationIdValor := exigirForma GenerationIdCanonico

def exigirUuidV4 := exigirForma UuidV4

def exigirDigest := exigirForma DigestHex

/-- A field that must be there. -/
def exigirCampo (exigirValor : String → Json → Except JournalError Texto) (payload : Json)
    (campo : String) : Except JournalError Texto := do
  exigirValor campo (← present (.schema campo) (payload.get campo))

def exigirTexto := exigirCampo exigirTextoValor

def exigirGenerationId := exigirCampo exigirGenerationIdValor

/-- A field that may be missing or null. -/
def exigirOpcional (exigirValor : String → Json → Except JournalError Texto) (payload : Json)
    (campo : String) : Except JournalError (Option Texto) :=
  match payload.get campo with
  | none => .ok none
  | some .null => .ok none
  | some valor => (exigirValor campo valor).map some

def exigirTextoOpcional := exigirOpcional exigirTextoValor

def exigirGenerationIdOpcional := exigirOpcional exigirGenerationIdValor

def exigirEntero (payload : Json) (campo : String) (minimo : Int) : Except JournalError Int :=
  match payload.get campo with
  | some (.int n) => do
    require (minimo ≤ n) (.schema campo)
    return n
  | _ => .error (.schema campo)

def exigirCamposExactos (payload : Json) (requeridos opcionales : List String) :
    Except JournalError Unit := do
  require (∀ campo ∈ requeridos, (payload.get campo).isSome) (.schema "campos obligatorios")
  require (∀ clave ∈ keys payload, clave ∈ (requeridos ++ opcionales).map lit)
    (.schema "campos no previstos")

def exigirVersion (payload : Json) (soportada : Int) : Except JournalError Unit :=
  match payload.get "schema_version" with
  | some (.int n) => require (n = soportada) (.schema "schema_version")
  | _ => .error (.schema "schema_version")

def exigirOperation (payload : Json) : Except JournalError JournalOperation :=
  match payload.get "operation" with
  | some (.str t) =>
    if t = lit JournalOperation.promotion.value then .ok .promotion
    else if t = lit JournalOperation.rollback.value then .ok .rollback
    else .error (.schema "operation")
  | _ => .error (.schema "operation")

def validarCandidateId (valor : Json) (operation : JournalOperation) :
    Except JournalError (Option Texto) :=
  match operation, valor with
  | .promotion, valor => (exigirTextoValor "candidate_id" valor).map some
  | .rollback, .null => .ok none
  | .rollback, _ => .error (.schema "candidate_id")

/-! Serialization -/

def opcional : Option Texto → Json
  | none => .null
  | some t => .str t

def serializarSource (s : SourceActivation) : Json :=
  record [("generation_id", opcional s.generationId), ("clone_id", opcional s.cloneId),
    ("runtime_setup_id", opcional s.runtimeSetupId),
    ("effective_runtime_evidence", opcional s.effectiveRuntimeEvidence)]

def serializarEvidence (e : EvidenceDigests) : Json :=
  record [("clone_evidence", .str e.cloneEvidence),
    ("runtime_setup_evidence", .str e.runtimeSetupEvidence),
    ("compatibility_evidence", .str e.compatibilityEvidence)]

def camposNone (doc : Journal) (testigo : Option Texto) : List (String × Json) :=
  [("schema_version", .int JOURNAL_SCHEMA_VERSION), ("state", .str (lit "NONE")),
    ("journal_revision", .int doc.journalRevision), ("created_at_ns", .int doc.createdAtNs),
    ("lock_session_id", .str doc.lockSessionId),
    ("last_finalized_transition_id", opcional testigo)]

def camposPending (doc : Journal) (p : Pendiente) : List (String × Json) :=
  [("schema_version", .int JOURNAL_SCHEMA_VERSION),
    ("state", .str (lit ("PENDING_" ++ p.operation.value))),
    ("journal_revision", .int doc.journalRevision), ("created_at_ns", .int doc.createdAtNs),
    ("lock_session_id", .str doc.lockSessionId),
    ("operation", .str (lit p.operation.value)),
    ("transition_id", .str p.transitionId),
    ("source_activation", serializarSource p.sourceActivation),
    ("source_activation_digest", .str p.sourceActivationDigest),
    ("target_generation_id", .str p.targetGenerationId),
    ("target_clone_id", .str p.targetCloneId),
    ("target_runtime_setup_id", .str p.targetRuntimeSetupId),
    ("candidate_id", opcional p.candidateId),
    ("approval_scope_digest", .str p.approvalScopeDigest),
    ("consumed_approval_id", .str p.consumedApprovalId),
    ("consumed_approval_seq", .int p.consumedApprovalSeq),
    ("consumed_scope_digest", .str p.consumedScopeDigest),
    ("evidence_digests", serializarEvidence p.evidenceDigests),
    ("expected_effective_path", .str p.expectedEffectivePath)]

def serializarJournal (doc : Journal) : Json :=
  match doc.cuerpo with
  | .none testigo => record (camposNone doc testigo)
  | .pendiente p => record (camposPending doc p)

def camposRecord (r : FinalizedTransitionRecord) : List (String × Json) :=
  [("schema_version", .int RECORD_SCHEMA_VERSION), ("record_state", .str (lit "FINALIZED")),
    ("transition_id", .str r.transitionId), ("finalization_seq", .int r.finalizationSeq),
    ("finalized_from_transition_id", opcional r.finalizedFromTransitionId),
    ("operation", .str (lit r.operation.value)),
    ("source_activation", serializarSource r.sourceActivation),
    ("source_activation_digest", .str r.sourceActivationDigest),
    ("previous_activation_target", serializarSource r.previousActivationTarget),
    ("target_generation_id", .str r.targetGenerationId),
    ("target_clone_id", .str r.targetCloneId),
    ("target_runtime_setup_id", .str r.targetRuntimeSetupId),
    ("candidate_id", opcional r.candidateId),
    ("approval_scope_digest", .str r.approvalScopeDigest),
    ("consumed_approval_id", .str r.consumedApprovalId),
    ("consumed_approval_seq", .int r.consumedApprovalSeq),
    ("post_verify_evidence_digest", .str r.postVerifyEvidenceDigest),
    ("post_verified_at_ns", .int r.postVerifiedAtNs), ("finalized_at_ns", .int r.finalizedAtNs)]

def serializarRegistro (r : FinalizedTransitionRecord) : Json := record (camposRecord r)

def camposReservation (r : SeqReservation) : List (String × Json) :=
  [("schema_version", .int RESERVATION_SCHEMA_VERSION), ("root_id", .str r.rootId),
    ("finalization_seq", .int r.finalizationSeq), ("transition_id", .str r.transitionId)]

def serializarReserva (r : SeqReservation) : Json := record (camposReservation r)

/-! Parsers -/

section
variable (sha256 : List UInt8 → Texto)

/-- The digest of the canonical form of a source, when that has bytes. -/
def digestCanonico (s : SourceActivation) : Except JournalError Texto :=
  (present .codificacion (dumps compact (serializarSource s))).map sha256

def camposSource : List String :=
  ["generation_id", "clone_id", "runtime_setup_id", "effective_runtime_evidence"]

def SourceActivation.presentes (s : SourceActivation) : Nat :=
  [s.generationId, s.cloneId, s.runtimeSetupId, s.effectiveRuntimeEvidence].countP (·.isSome)

def validarSourceActivation (payload : Json) : Except JournalError SourceActivation := do
  exigirCamposExactos payload camposSource []
  let source : SourceActivation := {
    generationId := ← exigirGenerationIdOpcional payload "generation_id"
    cloneId := ← exigirTextoOpcional payload "clone_id"
    runtimeSetupId := ← exigirTextoOpcional payload "runtime_setup_id"
    effectiveRuntimeEvidence := ← exigirTextoOpcional payload "effective_runtime_evidence" }
  require (source.presentes = 0 ∨ source.presentes = 4) (.schema "source_activation")
  return source

def validarEvidenceDigests (payload : Json) : Except JournalError EvidenceDigests := do
  exigirCamposExactos payload
    ["clone_evidence", "runtime_setup_evidence", "compatibility_evidence"] []
  return {
    cloneEvidence := ← exigirCampo exigirDigest payload "clone_evidence"
    runtimeSetupEvidence := ← exigirCampo exigirDigest payload "runtime_setup_evidence"
    compatibilityEvidence := ← exigirCampo exigirDigest payload "compatibility_evidence" }

/-- A text that is also a version 4 UUID. -/
def exigirIdentidad (payload : Json) (campo : String) : Except JournalError Texto := do
  exigirUuidV4 campo (.str (← exigirTexto payload campo))

def exigirUuidOpcional := exigirOpcional exigirUuidV4

def camposJournalBase : List String :=
  ["schema_version", "state", "journal_revision", "created_at_ns", "lock_session_id"]

def camposJournalPendiente : List String :=
  ["operation", "transition_id", "source_activation", "source_activation_digest",
    "target_generation_id", "target_clone_id", "target_runtime_setup_id", "candidate_id",
    "approval_scope_digest", "consumed_approval_id", "consumed_approval_seq",
    "consumed_scope_digest", "evidence_digests", "expected_effective_path"]

def parsearPendiente (payload : Json) (estado : Texto) : Except JournalError Pendiente := do
  exigirCamposExactos payload (camposJournalBase ++ camposJournalPendiente) []
  let operation ← exigirOperation payload
  require (estado = lit ("PENDING_" ++ operation.value)) (.schema "state")
  let transitionId ← exigirIdentidad payload "transition_id"
  let fuente ← validarSourceActivation
    (← present (.schema "source_activation") (payload.get "source_activation"))
  let fuenteDigest ← exigirCampo exigirDigest payload "source_activation_digest"
  let canonico ← digestCanonico sha256 fuente
  require (fuenteDigest = canonico) (.identity "source_activation_digest")
  let evidence ← validarEvidenceDigests
    (← present (.schema "evidence_digests") (payload.get "evidence_digests"))
  let scopeDigest ← exigirCampo exigirDigest payload "approval_scope_digest"
  let consumedScope ← exigirCampo exigirDigest payload "consumed_scope_digest"
  require (consumedScope = scopeDigest) (.identity "consumed_scope_digest")
  let targetGenerationId ← exigirGenerationId payload "target_generation_id"
  let targetCloneId ← exigirTexto payload "target_clone_id"
  let targetRuntimeSetupId ← exigirTexto payload "target_runtime_setup_id"
  let candidateId ← validarCandidateId
    (← present (.schema "candidate_id") (payload.get "candidate_id")) operation
  let consumedApprovalId ← exigirIdentidad payload "consumed_approval_id"
  let consumedApprovalSeq ← exigirEntero payload "consumed_approval_seq" 1
  let expectedEffectivePath ← exigirTexto payload "expected_effective_path"
  return {
    operation, transitionId, sourceActivation := fuente, sourceActivationDigest := fuenteDigest
    targetGenerationId, targetCloneId, targetRuntimeSetupId, candidateId
    approvalScopeDigest := scopeDigest, consumedApprovalId, consumedApprovalSeq
    consumedScopeDigest := consumedScope, evidenceDigests := evidence, expectedEffectivePath }

def exigirEstado (payload : Json) : Except JournalError Texto :=
  match payload.get "state" with
  | some (.str t) => do
    require (t ∈ [lit "NONE", lit "PENDING_PROMOTION", lit "PENDING_ROLLBACK"]) (.schema "state")
    return t
  | _ => .error (.schema "state")

def parsearJournal (payload : Json) : Except JournalError Journal := do
  exigirVersion payload JOURNAL_SCHEMA_VERSION
  let estado ← exigirEstado payload
  let revision ← exigirEntero payload "journal_revision" 0
  let createdAtNs ← exigirEntero payload "created_at_ns" 0
  let lockSessionId ← exigirIdentidad payload "lock_session_id"
  if estado = lit "NONE" then
    exigirCamposExactos payload camposJournalBase ["last_finalized_transition_id"]
    let testigo ← exigirUuidOpcional payload "last_finalized_transition_id"
    return ⟨revision, createdAtNs, lockSessionId, .none testigo⟩
  else
    let p ← parsearPendiente sha256 payload estado
    return ⟨revision, createdAtNs, lockSessionId, .pendiente p⟩

def camposRegistro : List String :=
  ["schema_version", "record_state", "transition_id", "finalization_seq",
    "finalized_from_transition_id", "operation", "source_activation", "source_activation_digest",
    "previous_activation_target", "target_generation_id", "target_clone_id",
    "target_runtime_setup_id", "candidate_id", "approval_scope_digest", "consumed_approval_id",
    "consumed_approval_seq", "post_verify_evidence_digest", "post_verified_at_ns",
    "finalized_at_ns"]

def exigirFinalizado (payload : Json) : Except JournalError Unit :=
  match payload.get "record_state" with
  | some (.str t) => require (t = lit "FINALIZED") (.schema "record_state")
  | _ => .error (.schema "record_state")

/-- `stem` is the name of the file, without `.json`. -/
def validarRegistro (payload : Json) (stem : Texto) :
    Except JournalError FinalizedTransitionRecord := do
  exigirVersion payload RECORD_SCHEMA_VERSION
  exigirFinalizado payload
  exigirCamposExactos payload camposRegistro []
  let transitionId ← exigirIdentidad payload "transition_id"
  require (stem = transitionId) (.identity "nombre del registro")
  let finalizationSeq ← exigirEntero payload "finalization_seq" 1
  let previa ← exigirUuidOpcional payload "finalized_from_transition_id"
  let operation ← exigirOperation payload
  let fuente ← validarSourceActivation
    (← present (.schema "source_activation") (payload.get "source_activation"))
  let fuenteDigest ← exigirCampo exigirDigest payload "source_activation_digest"
  let canonico ← digestCanonico sha256 fuente
  require (fuenteDigest = canonico) (.identity "source_activation_digest")
  let previoTarget ← validarSourceActivation
    (← present (.schema "previous_activation_target") (payload.get "previous_activation_target"))
  require (previoTarget = fuente) (.identity "previous_activation_target")
  let targetGenerationId ← exigirGenerationId payload "target_generation_id"
  let targetCloneId ← exigirTexto payload "target_clone_id"
  let targetRuntimeSetupId ← exigirTexto payload "target_runtime_setup_id"
  let candidateId ← validarCandidateId
    (← present (.schema "candidate_id") (payload.get "candidate_id")) operation
  let approvalScopeDigest ← exigirCampo exigirDigest payload "approval_scope_digest"
  let consumedApprovalId ← exigirIdentidad payload "consumed_approval_id"
  let consumedApprovalSeq ← exigirEntero payload "consumed_approval_seq" 1
  let postVerifyEvidenceDigest ← exigirCampo exigirDigest payload "post_verify_evidence_digest"
  let postVerifiedAtNs ← exigirEntero payload "post_verified_at_ns" 1
  let finalizedAtNs ← exigirEntero payload "finalized_at_ns" 0
  return {
    transitionId, finalizationSeq, finalizedFromTransitionId := previa, operation
    sourceActivation := fuente, sourceActivationDigest := fuenteDigest
    previousActivationTarget := previoTarget, targetGenerationId, targetCloneId
    targetRuntimeSetupId, candidateId, approvalScopeDigest, consumedApprovalId
    consumedApprovalSeq, postVerifyEvidenceDigest, postVerifiedAtNs, finalizedAtNs }

/-- `str(seq)` -/
def nombreSeq (seq : Int) : Texto := toCodePoints (FlatJson.writeNumber seq)

def exigirRootId (payload : Json) : Except JournalError Texto :=
  match payload.get "root_id" with
  | some (.str t) => do
    require (t ≠ []) (.schema "root_id")
    return t
  | _ => .error (.schema "root_id")

def validarReserva (payload : Json) (stem rootIdEsperado : Texto) :
    Except JournalError SeqReservation := do
  exigirCamposExactos payload ["schema_version", "root_id", "finalization_seq", "transition_id"] []
  exigirVersion payload RESERVATION_SCHEMA_VERSION
  let finalizationSeq ← exigirEntero payload "finalization_seq" 1
  require (stem = nombreSeq finalizationSeq) (.identity "nombre de la reserva")
  let rootId ← exigirRootId payload
  require (rootId = rootIdEsperado) (.identity "root_id")
  let transitionId ← exigirIdentidad payload "transition_id"
  return ⟨rootId, finalizationSeq, transitionId⟩

end

/-! What each parser asks of the document that was written -/

section
variable {forma : Texto → Prop} [DecidablePred forma] {payload : Json} {campo : String}

theorem exigirForma_ok {t u : Texto} :
    exigirForma forma campo (.str t) = .ok u ↔ forma t ∧ t = u := by
  simp only [exigirForma, bind_ok, require_ok, pure_ok, exists_const]

theorem exigirCampo_ok {t u : Texto} (got : payload.get campo = some (.str t)) :
    exigirCampo (exigirForma forma) payload campo = .ok u ↔ forma t ∧ t = u := by
  simp only [exigirCampo, got, bind_ok, present_ok, Option.some.injEq, exists_eq_left',
    exigirForma_ok]

theorem exigirIdentidad_ok {t u : Texto} (got : payload.get campo = some (.str t)) :
    exigirIdentidad payload campo = .ok u ↔ (TextoValido t ∧ UuidV4 t) ∧ t = u := by
  simp only [exigirIdentidad, exigirTexto, exigirTextoValor, exigirUuidV4, bind_ok,
    exigirCampo_ok got, exigirForma_ok]
  constructor
  · rintro ⟨a, ⟨texto, rfl⟩, uuid, rfl⟩
    exact ⟨⟨texto, uuid⟩, rfl⟩
  · rintro ⟨⟨texto, uuid⟩, rfl⟩
    exact ⟨t, ⟨texto, rfl⟩, uuid, rfl⟩

theorem exigirEntero_ok {n m minimo : Int} (got : payload.get campo = some (.int n)) :
    exigirEntero payload campo minimo = .ok m ↔ minimo ≤ n ∧ n = m := by
  simp only [exigirEntero, got, bind_ok, require_ok, pure_ok, exists_const]

theorem exigirOpcional_ok {t u : Option Texto} (got : payload.get campo = some (opcional t)) :
    exigirOpcional (exigirForma forma) payload campo = .ok u ↔ (∀ x ∈ t, forma x) ∧ t = u := by
  cases t with
  | none => simp [exigirOpcional, got, opcional]
  | some t =>
    have mapa : (exigirForma forma campo (.str t)).map some = .ok u ↔ forma t ∧ some t = u := by
      by_cases ok : forma t
      · rw [exigirForma_ok.mpr ⟨ok, rfl⟩]
        simp [Except.map, ok]
      · cases leido : exigirForma forma campo (.str t) with
        | error e => simp [Except.map, ok]
        | ok v => exact absurd (exigirForma_ok.mp leido).1 ok
    simpa [exigirOpcional, got, opcional] using mapa

end

theorem exigirCamposExactos_record {campos : List (String × Json)}
    {requeridos opcionales : List String} (estan : ∀ c ∈ requeridos, c ∈ campos.map (·.1))
    (previstos : ∀ c ∈ campos.map (·.1), c ∈ requeridos ++ opcionales) {u : Unit} :
    exigirCamposExactos (record campos) requeridos opcionales = .ok u ↔ True := by
  simp only [exigirCamposExactos, bind_ok, require_ok, exists_const, iff_true]
  constructor
  · intro campo mem
    obtain ⟨p, inside, rfl⟩ := List.mem_map.mp (estan campo mem)
    rw [get_record, Option.isSome_map, List.find?_isSome]
    exact ⟨p, List.mem_reverse.mpr inside, decide_eq_true rfl⟩
  · intro clave mem
    obtain ⟨campo, inside, rfl⟩ := List.mem_map.mp (mem_keys_record mem)
    exact List.mem_map_of_mem (previstos campo inside)

def CandidatoValido (operation : JournalOperation) (c : Option Texto) : Prop :=
  match operation with
  | .promotion => ∃ t, c = some t ∧ TextoValido t
  | .rollback => c = none

theorem validarCandidateId_ok {operation : JournalOperation} {c d : Option Texto} :
    validarCandidateId (opcional c) operation = .ok d ↔ CandidatoValido operation c ∧ c = d := by
  cases operation with
  | promotion =>
    cases c with
    | none => simp [validarCandidateId, opcional, exigirTextoValor, exigirForma, Except.map,
        CandidatoValido]
    | some t =>
      by_cases ok : TextoValido t
      · have leido : exigirTextoValor "candidate_id" (.str t) = .ok t := exigirForma_ok.mpr ⟨ok, rfl⟩
        simp [validarCandidateId, opcional, leido, Except.map, CandidatoValido, ok]
      · cases leido : exigirTextoValor "candidate_id" (.str t) with
        | error e => simp [validarCandidateId, opcional, leido, Except.map, CandidatoValido, ok]
        | ok v => exact absurd (exigirForma_ok.mp leido).1 ok
  | rollback => cases c <;> simp [validarCandidateId, opcional, CandidatoValido]

structure SourceActivation.Valida (s : SourceActivation) : Prop where
  generacion : ∀ t ∈ s.generationId, GenerationIdCanonico t
  clone : ∀ t ∈ s.cloneId, TextoValido t
  setup : ∀ t ∈ s.runtimeSetupId, TextoValido t
  efectivo : ∀ t ∈ s.effectiveRuntimeEvidence, TextoValido t
  /-- Nothing, or everything with what was observed. -/
  entera : s.presentes = 0 ∨ s.presentes = 4

theorem validarSourceActivation_ok {s d : SourceActivation} :
    validarSourceActivation (serializarSource s) = .ok d ↔ s.Valida ∧ s = d := by
  have exactos : ∀ u, exigirCamposExactos (serializarSource s) camposSource [] = .ok u ↔ True :=
    fun u => exigirCamposExactos_record (by simp [camposSource]) (by simp [camposSource])
  have generacion : (serializarSource s).get "generation_id" = some (opcional s.generationId) := by
    simp [serializarSource, get_record]
  have clone : (serializarSource s).get "clone_id" = some (opcional s.cloneId) := by
    simp [serializarSource, get_record]
  have setup : (serializarSource s).get "runtime_setup_id" = some (opcional s.runtimeSetupId) := by
    simp [serializarSource, get_record]
  have efectivo : (serializarSource s).get "effective_runtime_evidence" =
      some (opcional s.effectiveRuntimeEvidence) := by
    simp [serializarSource, get_record]
  simp only [validarSourceActivation, bind_ok, exactos, exigirGenerationIdOpcional,
    exigirGenerationIdValor, exigirTextoOpcional, exigirTextoValor, exigirOpcional_ok generacion,
    exigirOpcional_ok clone, exigirOpcional_ok setup, exigirOpcional_ok efectivo, require_ok,
    pure_ok, exists_const, true_and]
  constructor
  · rintro ⟨_, ⟨g, rfl⟩, _, ⟨c, rfl⟩, _, ⟨r, rfl⟩, _, ⟨e, rfl⟩, entera, rfl⟩
    exact ⟨⟨g, c, r, e, entera⟩, rfl⟩
  · rintro ⟨v, rfl⟩
    exact ⟨_, ⟨v.generacion, rfl⟩, _, ⟨v.clone, rfl⟩, _, ⟨v.setup, rfl⟩, _, ⟨v.efectivo, rfl⟩,
      v.entera, rfl⟩

structure EvidenceDigests.Valida (e : EvidenceDigests) : Prop where
  clone : DigestHex e.cloneEvidence
  setup : DigestHex e.runtimeSetupEvidence
  compatibilidad : DigestHex e.compatibilityEvidence

theorem validarEvidenceDigests_ok {e d : EvidenceDigests} :
    validarEvidenceDigests (serializarEvidence e) = .ok d ↔ e.Valida ∧ e = d := by
  have exactos : ∀ u, exigirCamposExactos (serializarEvidence e)
      ["clone_evidence", "runtime_setup_evidence", "compatibility_evidence"] [] = .ok u ↔ True :=
    fun u => exigirCamposExactos_record (by simp) (by simp)
  have clone : (serializarEvidence e).get "clone_evidence" = some (.str e.cloneEvidence) := by
    simp [serializarEvidence, get_record]
  have setup : (serializarEvidence e).get "runtime_setup_evidence" =
      some (.str e.runtimeSetupEvidence) := by
    simp [serializarEvidence, get_record]
  have compatibilidad : (serializarEvidence e).get "compatibility_evidence" =
      some (.str e.compatibilityEvidence) := by
    simp [serializarEvidence, get_record]
  simp only [validarEvidenceDigests, bind_ok, exactos, exigirDigest, exigirCampo_ok clone,
    exigirCampo_ok setup, exigirCampo_ok compatibilidad, pure_ok, exists_const, true_and]
  constructor
  · rintro ⟨_, ⟨c, rfl⟩, _, ⟨r, rfl⟩, _, ⟨k, rfl⟩, rfl⟩
    exact ⟨⟨c, r, k⟩, rfl⟩
  · rintro ⟨v, rfl⟩
    exact ⟨_, ⟨v.clone, rfl⟩, _, ⟨v.setup, rfl⟩, _, ⟨v.compatibilidad, rfl⟩, rfl⟩

section
variable {sha256 : List UInt8 → Texto}

theorem exigirOperation_ok {payload : Json} {operation o : JournalOperation}
    (got : payload.get "operation" = some (.str (lit operation.value))) :
    exigirOperation payload = .ok o ↔ operation = o := by
  cases operation <;> simp [exigirOperation, got, JournalOperation.value]

/-- What the parser asks of a journal in PENDING beyond its base fields. -/
structure Pendiente.Valido (sha256 : List UInt8 → Texto) (p : Pendiente) : Prop where
  transicion : TextoValido p.transitionId ∧ UuidV4 p.transitionId
  fuente : p.sourceActivation.Valida
  fuenteHex : DigestHex p.sourceActivationDigest
  fuenteDigest : digestCanonico sha256 p.sourceActivation = .ok p.sourceActivationDigest
  evidencia : p.evidenceDigests.Valida
  scope : DigestHex p.approvalScopeDigest
  consumido : p.consumedScopeDigest = p.approvalScopeDigest
  generacion : GenerationIdCanonico p.targetGenerationId
  clone : TextoValido p.targetCloneId
  setup : TextoValido p.targetRuntimeSetupId
  candidato : CandidatoValido p.operation p.candidateId
  aprobacion : TextoValido p.consumedApprovalId ∧ UuidV4 p.consumedApprovalId
  aprobacionSeq : 1 ≤ p.consumedApprovalSeq
  ruta : TextoValido p.expectedEffectivePath

theorem parsearPendiente_ok {doc : Journal} {p q : Pendiente} {estado : Texto} :
    parsearPendiente sha256 (record (camposPending doc p)) estado = .ok q ↔
      estado = lit ("PENDING_" ++ p.operation.value) ∧ p.Valido sha256 ∧ p = q := by
  have nodup : ((camposPending doc p).map (·.1)).Nodup := by simp [camposPending]
  have leido : ∀ campo valor, (campo, valor) ∈ camposPending doc p →
      (record (camposPending doc p)).get campo = some valor :=
    fun _ _ mem => get_of_mem nodup mem
  have exactos : ∀ u, exigirCamposExactos (record (camposPending doc p))
      (camposJournalBase ++ camposJournalPendiente) [] = .ok u ↔ True := fun u =>
    exigirCamposExactos_record (by simp [camposPending, camposJournalBase, camposJournalPendiente])
      (by simp [camposPending, camposJournalBase, camposJournalPendiente])
  have operacion : ∀ o, exigirOperation (record (camposPending doc p)) = .ok o ↔ p.operation = o :=
    fun _ => exigirOperation_ok (leido _ _ (by simp [camposPending]))
  simp only [parsearPendiente, bind_ok, exactos, operacion, require_ok, present_ok, pure_ok,
    exigirDigest, exigirGenerationId, exigirGenerationIdValor, exigirTexto, exigirTextoValor,
    exigirIdentidad_ok (leido "transition_id" (.str p.transitionId) (by simp [camposPending])),
    leido "source_activation" (serializarSource p.sourceActivation) (by simp [camposPending]),
    exigirCampo_ok (leido "source_activation_digest" (.str p.sourceActivationDigest)
      (by simp [camposPending])),
    leido "evidence_digests" (serializarEvidence p.evidenceDigests) (by simp [camposPending]),
    exigirCampo_ok (leido "approval_scope_digest" (.str p.approvalScopeDigest)
      (by simp [camposPending])),
    exigirCampo_ok (leido "consumed_scope_digest" (.str p.consumedScopeDigest)
      (by simp [camposPending])),
    exigirCampo_ok (leido "target_generation_id" (.str p.targetGenerationId)
      (by simp [camposPending])),
    exigirCampo_ok (leido "target_clone_id" (.str p.targetCloneId) (by simp [camposPending])),
    exigirCampo_ok (leido "target_runtime_setup_id" (.str p.targetRuntimeSetupId)
      (by simp [camposPending])),
    leido "candidate_id" (opcional p.candidateId) (by simp [camposPending]),
    exigirIdentidad_ok (leido "consumed_approval_id" (.str p.consumedApprovalId)
      (by simp [camposPending])),
    exigirEntero_ok (leido "consumed_approval_seq" (.int p.consumedApprovalSeq)
      (by simp [camposPending])),
    exigirCampo_ok (leido "expected_effective_path" (.str p.expectedEffectivePath)
      (by simp [camposPending])),
    Option.some.injEq, exists_eq_left', exists_const, true_and, validarSourceActivation_ok,
    validarEvidenceDigests_ok, validarCandidateId_ok]
  constructor
  · rintro ⟨estado, _, ⟨transicion, rfl⟩, _, ⟨fuente, rfl⟩, _, ⟨hex, rfl⟩, _, canonico, rfl, _,
      ⟨evidencia, rfl⟩, _, ⟨scope, rfl⟩, _, ⟨_, rfl⟩, consumido, _, ⟨generacion, rfl⟩, _,
      ⟨clone, rfl⟩, _, ⟨setup, rfl⟩, _, ⟨candidato, rfl⟩, _, ⟨aprobacion, rfl⟩, _, ⟨seq, rfl⟩, _,
      ⟨ruta, rfl⟩, rfl⟩
    exact ⟨estado, ⟨transicion, fuente, hex, canonico, evidencia, scope, consumido, generacion,
      clone, setup, candidato, aprobacion, seq, ruta⟩, rfl⟩
  · rintro ⟨estado, v, rfl⟩
    have consumidoHex : DigestHex p.consumedScopeDigest := v.consumido ▸ v.scope
    exact ⟨estado, _, ⟨v.transicion, rfl⟩, _, ⟨v.fuente, rfl⟩, _, ⟨v.fuenteHex, rfl⟩, _,
      v.fuenteDigest, rfl, _, ⟨v.evidencia, rfl⟩, _, ⟨v.scope, rfl⟩, _, ⟨consumidoHex, rfl⟩,
      v.consumido, _, ⟨v.generacion, rfl⟩, _, ⟨v.clone, rfl⟩, _, ⟨v.setup, rfl⟩, _,
      ⟨v.candidato, rfl⟩, _, ⟨v.aprobacion, rfl⟩, _, ⟨v.aprobacionSeq, rfl⟩, _, ⟨v.ruta, rfl⟩, rfl⟩

/-- What the parser asks of a journal. -/
structure Journal.Valido (sha256 : List UInt8 → Texto) (doc : Journal) : Prop where
  revision : 0 ≤ doc.journalRevision
  creado : 0 ≤ doc.createdAtNs
  sesion : TextoValido doc.lockSessionId ∧ UuidV4 doc.lockSessionId
  cuerpo : match doc.cuerpo with
    | .none testigo => ∀ t ∈ testigo, UuidV4 t
    | .pendiente p => p.Valido sha256

theorem exigirVersion_ok {payload : Json} {n soportada : Int} {u : Unit}
    (got : payload.get "schema_version" = some (.int n)) :
    exigirVersion payload soportada = .ok u ↔ n = soportada := by
  simp [exigirVersion, got]

theorem exigirEstado_ok {payload : Json} {t u : Texto}
    (got : payload.get "state" = some (.str t)) :
    exigirEstado payload = .ok u ↔
      t ∈ [lit "NONE", lit "PENDING_PROMOTION", lit "PENDING_ROLLBACK"] ∧ t = u := by
  simp only [exigirEstado, got, bind_ok, require_ok, pure_ok, exists_const]

/-- What the parser accepts of a journal that was serialized is that journal. -/
theorem parsearJournal_ok {doc d : Journal} :
    parsearJournal sha256 (serializarJournal doc) = .ok d ↔ doc.Valido sha256 ∧ doc = d := by
  obtain ⟨revision, creado, sesion, cuerpo⟩ := doc
  cases cuerpo with
  | none testigo =>
    have nodup : ((camposNone ⟨revision, creado, sesion, .none testigo⟩ testigo).map (·.1)).Nodup :=
      by simp [camposNone]
    have leido : ∀ campo valor,
        (campo, valor) ∈ camposNone ⟨revision, creado, sesion, .none testigo⟩ testigo →
        (record (camposNone ⟨revision, creado, sesion, .none testigo⟩ testigo)).get campo =
          some valor := fun _ _ mem => get_of_mem nodup mem
    have exactos : ∀ u, exigirCamposExactos
        (record (camposNone ⟨revision, creado, sesion, .none testigo⟩ testigo)) camposJournalBase
        ["last_finalized_transition_id"] = .ok u ↔ True := fun u =>
      exigirCamposExactos_record (by simp [camposNone, camposJournalBase])
        (by simp [camposNone, camposJournalBase])
    simp only [serializarJournal, parsearJournal, bind_ok,
      exigirVersion_ok (leido _ (.int JOURNAL_SCHEMA_VERSION) (by simp [camposNone])),
      exigirEstado_ok (leido _ (.str (lit "NONE")) (by simp [camposNone])),
      exigirEntero_ok (leido "journal_revision" (.int revision) (by simp [camposNone])),
      exigirEntero_ok (leido "created_at_ns" (.int creado) (by simp [camposNone])),
      exigirIdentidad_ok (leido "lock_session_id" (.str sesion) (by simp [camposNone]))]
    constructor
    · rintro ⟨_, -, _, ⟨-, rfl⟩, _, ⟨r, rfl⟩, _, ⟨c, rfl⟩, _, ⟨u, rfl⟩, resto⟩
      simp only [if_true, bind_ok, exactos, exigirUuidOpcional, exigirUuidV4,
        exigirOpcional_ok (leido "last_finalized_transition_id" (opcional testigo)
          (by simp [camposNone])), pure_ok, exists_const, true_and] at resto
      obtain ⟨_, ⟨uuid, rfl⟩, rfl⟩ := resto
      exact ⟨⟨r, c, u, uuid⟩, rfl⟩
    · rintro ⟨v, rfl⟩
      refine ⟨(), trivial, _, ⟨by simp, rfl⟩, _, ⟨v.revision, rfl⟩, _, ⟨v.creado, rfl⟩, _,
        ⟨v.sesion, rfl⟩, ?_⟩
      simp only [if_true, bind_ok, exactos, exigirUuidOpcional, exigirUuidV4,
        exigirOpcional_ok (leido "last_finalized_transition_id" (opcional testigo)
          (by simp [camposNone])), pure_ok, exists_const, true_and]
      exact ⟨_, ⟨v.cuerpo, rfl⟩, rfl⟩
  | pendiente p =>
    have nodup : ((camposPending ⟨revision, creado, sesion, .pendiente p⟩ p).map (·.1)).Nodup :=
      by simp [camposPending]
    have leido : ∀ campo valor,
        (campo, valor) ∈ camposPending ⟨revision, creado, sesion, .pendiente p⟩ p →
        (record (camposPending ⟨revision, creado, sesion, .pendiente p⟩ p)).get campo =
          some valor := fun _ _ mem => get_of_mem nodup mem
    have estado : lit ("PENDING_" ++ p.operation.value) ∈
        [lit "NONE", lit "PENDING_PROMOTION", lit "PENDING_ROLLBACK"] ∧
        lit ("PENDING_" ++ p.operation.value) ≠ lit "NONE" := by
      cases p.operation <;> simp [JournalOperation.value]
    simp only [serializarJournal, parsearJournal, bind_ok,
      exigirVersion_ok (leido _ (.int JOURNAL_SCHEMA_VERSION) (by simp [camposPending])),
      exigirEstado_ok (leido _ (.str (lit ("PENDING_" ++ p.operation.value)))
        (by simp [camposPending])),
      exigirEntero_ok (leido "journal_revision" (.int revision) (by simp [camposPending])),
      exigirEntero_ok (leido "created_at_ns" (.int creado) (by simp [camposPending])),
      exigirIdentidad_ok (leido "lock_session_id" (.str sesion) (by simp [camposPending]))]
    constructor
    · rintro ⟨_, -, _, ⟨-, rfl⟩, _, ⟨r, rfl⟩, _, ⟨c, rfl⟩, _, ⟨u, rfl⟩, resto⟩
      simp only [if_neg estado.2, bind_ok, parsearPendiente_ok, true_and, pure_ok] at resto
      obtain ⟨_, ⟨valido, rfl⟩, rfl⟩ := resto
      exact ⟨⟨r, c, u, valido⟩, rfl⟩
    · rintro ⟨v, rfl⟩
      refine ⟨(), trivial, _, ⟨estado.1, rfl⟩, _, ⟨v.revision, rfl⟩, _, ⟨v.creado, rfl⟩, _,
        ⟨v.sesion, rfl⟩, ?_⟩
      simp only [if_neg estado.2, bind_ok, parsearPendiente_ok, true_and, pure_ok]
      exact ⟨_, ⟨v.cuerpo, rfl⟩, rfl⟩

structure FinalizedTransitionRecord.Valido (sha256 : List UInt8 → Texto)
    (r : FinalizedTransitionRecord) : Prop where
  transicion : TextoValido r.transitionId ∧ UuidV4 r.transitionId
  seq : 1 ≤ r.finalizationSeq
  previa : ∀ t ∈ r.finalizedFromTransitionId, UuidV4 t
  fuente : r.sourceActivation.Valida
  fuenteHex : DigestHex r.sourceActivationDigest
  fuenteDigest : digestCanonico sha256 r.sourceActivation = .ok r.sourceActivationDigest
  previoTarget : r.previousActivationTarget = r.sourceActivation
  generacion : GenerationIdCanonico r.targetGenerationId
  clone : TextoValido r.targetCloneId
  setup : TextoValido r.targetRuntimeSetupId
  candidato : CandidatoValido r.operation r.candidateId
  scope : DigestHex r.approvalScopeDigest
  aprobacion : TextoValido r.consumedApprovalId ∧ UuidV4 r.consumedApprovalId
  aprobacionSeq : 1 ≤ r.consumedApprovalSeq
  evidencia : DigestHex r.postVerifyEvidenceDigest
  verificado : 1 ≤ r.postVerifiedAtNs
  finalizado : 0 ≤ r.finalizedAtNs

/-- The same of a record, under the name of its transition. -/
theorem validarRegistro_ok {r d : FinalizedTransitionRecord} {stem : Texto} :
    validarRegistro sha256 (serializarRegistro r) stem = .ok d ↔
      r.Valido sha256 ∧ stem = r.transitionId ∧ r = d := by
  have nodup : ((camposRecord r).map (·.1)).Nodup := by simp [camposRecord]
  have leido : ∀ campo valor, (campo, valor) ∈ camposRecord r →
      (record (camposRecord r)).get campo = some valor := fun _ _ mem => get_of_mem nodup mem
  have exactos : ∀ u, exigirCamposExactos (record (camposRecord r)) camposRegistro [] = .ok u ↔
      True := fun u => exigirCamposExactos_record (by simp [camposRecord, camposRegistro])
        (by simp [camposRecord, camposRegistro])
  have operacion : ∀ o, exigirOperation (record (camposRecord r)) = .ok o ↔ r.operation = o :=
    fun _ => exigirOperation_ok (leido _ _ (by simp [camposRecord]))
  have finalizado : ∀ u, exigirFinalizado (record (camposRecord r)) = .ok u ↔ True := by
    intro u
    simp [exigirFinalizado, leido "record_state" (.str (lit "FINALIZED")) (by simp [camposRecord])]
  simp only [serializarRegistro, validarRegistro, bind_ok, exactos, operacion, finalizado,
    require_ok, present_ok, pure_ok, exigirDigest, exigirGenerationId, exigirGenerationIdValor,
    exigirTexto, exigirTextoValor, exigirUuidOpcional, exigirUuidV4,
    exigirVersion_ok (leido _ (.int RECORD_SCHEMA_VERSION) (by simp [camposRecord])),
    exigirIdentidad_ok (leido "transition_id" (.str r.transitionId) (by simp [camposRecord])),
    exigirEntero_ok (leido "finalization_seq" (.int r.finalizationSeq) (by simp [camposRecord])),
    exigirOpcional_ok (leido "finalized_from_transition_id" (opcional r.finalizedFromTransitionId)
      (by simp [camposRecord])),
    leido "source_activation" (serializarSource r.sourceActivation) (by simp [camposRecord]),
    exigirCampo_ok (leido "source_activation_digest" (.str r.sourceActivationDigest)
      (by simp [camposRecord])),
    leido "previous_activation_target" (serializarSource r.previousActivationTarget)
      (by simp [camposRecord]),
    exigirCampo_ok (leido "target_generation_id" (.str r.targetGenerationId)
      (by simp [camposRecord])),
    exigirCampo_ok (leido "target_clone_id" (.str r.targetCloneId) (by simp [camposRecord])),
    exigirCampo_ok (leido "target_runtime_setup_id" (.str r.targetRuntimeSetupId)
      (by simp [camposRecord])),
    leido "candidate_id" (opcional r.candidateId) (by simp [camposRecord]),
    exigirCampo_ok (leido "approval_scope_digest" (.str r.approvalScopeDigest)
      (by simp [camposRecord])),
    exigirIdentidad_ok (leido "consumed_approval_id" (.str r.consumedApprovalId)
      (by simp [camposRecord])),
    exigirEntero_ok (leido "consumed_approval_seq" (.int r.consumedApprovalSeq)
      (by simp [camposRecord])),
    exigirCampo_ok (leido "post_verify_evidence_digest" (.str r.postVerifyEvidenceDigest)
      (by simp [camposRecord])),
    exigirEntero_ok (leido "post_verified_at_ns" (.int r.postVerifiedAtNs)
      (by simp [camposRecord])),
    exigirEntero_ok (leido "finalized_at_ns" (.int r.finalizedAtNs) (by simp [camposRecord])),
    Option.some.injEq, exists_eq_left', exists_const, true_and, validarSourceActivation_ok,
    validarCandidateId_ok]
  constructor
  · rintro ⟨_, ⟨transicion, rfl⟩, stem, _, ⟨seq, rfl⟩, _, ⟨previa, rfl⟩, _, ⟨fuente, rfl⟩, _,
      ⟨hex, rfl⟩, _, canonico, rfl, _, ⟨_, rfl⟩, previo, _, ⟨generacion, rfl⟩, _, ⟨clone, rfl⟩, _,
      ⟨setup, rfl⟩, _, ⟨candidato, rfl⟩, _, ⟨scope, rfl⟩, _, ⟨aprobacion, rfl⟩, _,
      ⟨aprobacionSeq, rfl⟩, _, ⟨evidencia, rfl⟩, _, ⟨verificado, rfl⟩, _, ⟨finalizadoAt, rfl⟩, rfl⟩
    exact ⟨⟨transicion, seq, previa, fuente, hex, canonico, previo, generacion, clone, setup,
      candidato, scope, aprobacion, aprobacionSeq, evidencia, verificado, finalizadoAt⟩, stem, rfl⟩
  · rintro ⟨v, stem, rfl⟩
    have previoValido : r.previousActivationTarget.Valida := v.previoTarget ▸ v.fuente
    exact ⟨_, ⟨v.transicion, rfl⟩, stem, _, ⟨v.seq, rfl⟩, _, ⟨v.previa, rfl⟩, _, ⟨v.fuente, rfl⟩, _,
      ⟨v.fuenteHex, rfl⟩, _, v.fuenteDigest, rfl, _, ⟨previoValido, rfl⟩, v.previoTarget, _,
      ⟨v.generacion, rfl⟩, _, ⟨v.clone, rfl⟩, _, ⟨v.setup, rfl⟩, _, ⟨v.candidato, rfl⟩, _,
      ⟨v.scope, rfl⟩, _, ⟨v.aprobacion, rfl⟩, _, ⟨v.aprobacionSeq, rfl⟩, _, ⟨v.evidencia, rfl⟩, _,
      ⟨v.verificado, rfl⟩, _, ⟨v.finalizado, rfl⟩, rfl⟩

structure SeqReservation.Valida (rootId : Texto) (r : SeqReservation) : Prop where
  root : r.rootId = rootId ∧ rootId ≠ []
  seq : 1 ≤ r.finalizationSeq
  transicion : TextoValido r.transitionId ∧ UuidV4 r.transitionId

/-- The same of a reservation, under the name of its sequence and in its own root. -/
theorem validarReserva_ok {r d : SeqReservation} {stem rootId : Texto} :
    validarReserva (serializarReserva r) stem rootId = .ok d ↔
      r.Valida rootId ∧ stem = nombreSeq r.finalizationSeq ∧ r = d := by
  have nodup : ((camposReservation r).map (·.1)).Nodup := by simp [camposReservation]
  have leido : ∀ campo valor, (campo, valor) ∈ camposReservation r →
      (record (camposReservation r)).get campo = some valor := fun _ _ mem => get_of_mem nodup mem
  have exactos : ∀ u, exigirCamposExactos (record (camposReservation r))
      ["schema_version", "root_id", "finalization_seq", "transition_id"] [] = .ok u ↔ True :=
    fun u => exigirCamposExactos_record (by simp [camposReservation]) (by simp [camposReservation])
  have raiz : ∀ u, exigirRootId (record (camposReservation r)) = .ok u ↔
      r.rootId ≠ [] ∧ r.rootId = u := by
    intro u
    simp only [exigirRootId, leido "root_id" (.str r.rootId) (by simp [camposReservation]), bind_ok,
      require_ok, pure_ok, exists_const]
  simp only [serializarReserva, validarReserva, bind_ok, exactos, raiz, require_ok, pure_ok,
    exigirVersion_ok (leido _ (.int RESERVATION_SCHEMA_VERSION) (by simp [camposReservation])),
    exigirEntero_ok (leido "finalization_seq" (.int r.finalizationSeq)
      (by simp [camposReservation])),
    exigirIdentidad_ok (leido "transition_id" (.str r.transitionId) (by simp [camposReservation])),
    exists_const, true_and]
  constructor
  · rintro ⟨_, ⟨seq, rfl⟩, stem, _, ⟨noVacio, rfl⟩, rfl, _, ⟨transicion, rfl⟩, rfl⟩
    exact ⟨⟨⟨rfl, noVacio⟩, seq, transicion⟩, stem, rfl⟩
  · rintro ⟨v, stem, rfl⟩
    have noVacio : r.rootId ≠ [] := v.root.1 ▸ v.root.2
    exact ⟨_, ⟨v.seq, rfl⟩, stem, _, ⟨noVacio, rfl⟩, v.root.1, _, ⟨v.transicion, rfl⟩, rfl⟩

end

end TransitionJournal
