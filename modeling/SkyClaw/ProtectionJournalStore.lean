import SkyClaw.FlatJson
import SkyClaw.ProtectionJournal
import SkyClaw.TransitionRuns

set_option linter.all false

/-!
`DurableProtectionJournal` and the functions around it, `protection_journal_store.py`,
over one operation and its plan. An append may land cut at any byte, an append
or a flush may fail, and a crash may also cut what no flush has confirmed.
-/
namespace ProtectionJournalStore
open TransitionRuns ProtectionJournal

structure NodeMutationBinding where
  relativePath : String
  volumeSerialNumber : Nat
  fileId : Nat
  preSdSha256 : String
  deriving DecidableEq

/-- What the journal reads of an `AuthorizedPlan`. Its digest is computed, so it is in
the form that the journal writes. -/
structure AuthorizedPlan where
  operationId : String
  planDigest : String
  canonicalRoot : String
  volumeSerialNumber : Nat
  rootFileId : Nat
  nodes : List NodeMutationBinding
  digest_hex : validateSha256Hex planDigest "authorized_plan_digest" = .ok planDigest

/-- A `DurableGoldenBackupArchive`, with the answer of `binds_to` for the plan. -/
structure GoldenBackupArchive where
  bindsTo : Bool
  authorizedPlanDigest : String
  deriving DecidableEq

inductive StoreError where
  | schema (e : SchemaError)
  | planBinding
  | prematureCommit
  | finalizationNotAdmitted (target : ProtectionTransactionState)
  | targetFueraDeAlcance (target : ProtectionTransactionState)
  | durabilityFailed
  | cerrado
  deriving DecidableEq

/-- The object that holds the handle. `id` tells the objects of a run apart. -/
structure DurableProtectionJournal where
  id : Nat
  journal : Journal
  records : List JournalRecord
  abierto : Bool
  durabilityFailed : Bool
  deriving DecidableEq

inductive Llamada where
  | recordNodeMutationIntent (binding : NodeMutationBinding)
  | recordNodeMutationCompleted (binding : NodeMutationBinding)
  | transitionTo (target : ProtectionTransactionState)
  | enterFinalizationPhase (target : ProtectionTransactionState)
  | commitFinalized (archive : GoldenBackupArchive)
  deriving DecidableEq

/-! Checks before the append -/

namespace DurableProtectionJournal

def requireLiveHandle (o : DurableProtectionJournal) : Except StoreError Unit :=
  if o.durabilityFailed then .error .durabilityFailed
  else if !o.abierto then .error .cerrado
  else .ok ()

def requireBinding (plan : AuthorizedPlan) (binding : NodeMutationBinding) :
    Except StoreError NodeMutationBinding :=
  match plan.nodes.find? fun node => node.relativePath = binding.relativePath with
  | none => .error .planBinding
  | some expected =>
    if binding.volumeSerialNumber ≠ expected.volumeSerialNumber ∨
        binding.fileId ≠ expected.fileId ∨ binding.preSdSha256 ≠ expected.preSdSha256 then
      .error .planBinding
    else .ok expected

/-- The record of both node calls. -/
def nodeRecord (plan : AuthorizedPlan) (o : DurableProtectionJournal)
    (binding : NodeMutationBinding) (state : NodeWalState) : Except StoreError JournalRecord := do
  o.requireLiveHandle
  let expected ← requireBinding plan binding
  let record := do
    assertNodeTransition (o.journal.nodeState expected.relativePath) state expected.relativePath
    buildNode (o.journal.sequence + 1 : Nat) expected.relativePath expected.volumeSerialNumber
      expected.fileId expected.preSdSha256 state
  return .node (← record.mapError .schema)

def transactionRecord (o : DurableProtectionJournal) (target : ProtectionTransactionState) :
    Except StoreError JournalRecord := do
  let record := do
    assertTransactionTransition o.journal.transactionState target
    buildTransaction (o.journal.sequence + 1 : Nat) target
  return .transaction (← record.mapError .schema)

def recordNodeMutationIntent (plan : AuthorizedPlan) (o : DurableProtectionJournal)
    (binding : NodeMutationBinding) : Except StoreError JournalRecord :=
  o.nodeRecord plan binding .mutating

def recordNodeMutationCompleted (plan : AuthorizedPlan) (o : DurableProtectionJournal)
    (binding : NodeMutationBinding) : Except StoreError JournalRecord :=
  o.nodeRecord plan binding .mutated

def transitionTo (o : DurableProtectionJournal) (target : ProtectionTransactionState) :
    Except StoreError JournalRecord := do
  o.requireLiveHandle
  if target = .committed then .error .prematureCommit
  if target ∉ s4aPermittedTransitionTargets then .error (.targetFueraDeAlcance target)
  o.transactionRecord target

/-- `_S4D_FINALIZATION_TARGETS`, each with its `_S4D_FINALIZATION_ENTRY_POINTS`. -/
def finalizationEntryPoints :
    ProtectionTransactionState → Option (List ProtectionTransactionState)
  | .verifyingGp1 => some [.applying, .verifyingGp1]
  | .verifyingRv2 => some [.verifyingGp1]
  | .verifyingNodeSet => some [.verifyingRv2]
  | .archivingBackup => some [.verifyingNodeSet]
  | _ => none

def enterFinalizationPhase (o : DurableProtectionJournal) (target : ProtectionTransactionState) :
    Except StoreError JournalRecord := do
  o.requireLiveHandle
  match finalizationEntryPoints target with
  | none => .error (.finalizationNotAdmitted target)
  | some entradas =>
    if o.journal.transactionState ∉ entradas then .error (.finalizationNotAdmitted target)
    else o.transactionRecord target

def commitFinalized (o : DurableProtectionJournal) (archive : GoldenBackupArchive) :
    Except StoreError JournalRecord := do
  o.requireLiveHandle
  if o.journal.transactionState ≠ .archivingBackup then .error .prematureCommit
  if !archive.bindsTo then .error .prematureCommit
  if archive.authorizedPlanDigest ≠ o.journal.authorizedPlanDigest then .error .prematureCommit
  o.transactionRecord .committed

/-- The record that a call hands to `_append_record`, or why it does not get there. -/
def registro (plan : AuthorizedPlan) (o : DurableProtectionJournal) :
    Llamada → Except StoreError JournalRecord
  | .recordNodeMutationIntent binding => o.recordNodeMutationIntent plan binding
  | .recordNodeMutationCompleted binding => o.recordNodeMutationCompleted plan binding
  | .transitionTo target => o.transitionTo target
  | .enterFinalizationPhase target => o.enterFinalizationPhase target
  | .commitFinalized archive => o.commitFinalized archive

def markDurabilityFailure (o : DurableProtectionJournal) : DurableProtectionJournal :=
  { o with
    journal := { o.journal with transactionState := .indeterminate }
    durabilityFailed := true }

end DurableProtectionJournal

/-! The system -/

/-- How an append ends: `append n` fails after `n` bytes, `flush` is not confirmed. -/
inductive Fallo where
  | ninguno
  | append (escritos : Nat)
  | flush
  deriving DecidableEq

inductive FalloCreacion where
  | ninguno
  | stage
  | append
  | publish
  | muereTrasPublicar
  deriving DecidableEq

inductive Suceso where
  | intento (id : Nat)
  | fallo (id : Nat)
  | permiso (id : Nat)
  deriving DecidableEq

def Suceso.id : Suceso → Nat
  | intento id => id
  | fallo id => id
  | permiso id => id

/-- `archivo` is the authoritative path and `firme` the bytes that a flush has confirmed.
The rest is for the statements: `intentados` are the records that the file held when the
object was created or opened, with those it tried to append; `todos` are all that were
tried and `devueltos` those whose call returned; `historia` has the latest first. -/
structure Sistema where
  archivo : Option Bytes
  firme : Nat
  objeto : Option DurableProtectionJournal
  siguiente : Nat
  publicado : Bool
  intentados : List JournalRecord
  todos : List JournalRecord
  devueltos : List JournalRecord
  historia : List Suceso

def Sistema.inicial : Sistema := ⟨none, 0, none, 0, false, [], [], [], []⟩

inductive Evento where
  | crea (createdAt : Option String) (now : String) (fallo : FalloCreacion)
  | abre
  | llama (llamada : Llamada) (fallo : Fallo)
  | cierra
  | caida (quedan : Nat)
  deriving DecidableEq

/-- No handle is open: one writer at a time. -/
def Sistema.libre (s : Sistema) : Bool :=
  match s.objeto with
  | none => true
  | some o => !o.abierto

inductive Classification where
  | absent
  | valid (journal : Journal)
  | indeterminate
  deriving DecidableEq

section
variable (json : Json) (uuid : String → Option String) (plan : AuthorizedPlan)

def classifyProtectionJournal (archivo : Option Bytes) : Classification :=
  match archivo with
  | none => .absent
  | some raw => match parseJournalBytes json uuid raw with
    | .valid journal => .valid journal
    | .tornTail _ => .indeterminate
    | .schemaInvalid _ => .indeterminate

def requireJournalMatchesPlan (journal : Journal) : Bool :=
  journal.operationId = plan.operationId ∧ journal.authorizedPlanDigest = plan.planDigest ∧
    journal.physicalRoot.volumeSerialNumber = plan.volumeSerialNumber ∧
    journal.physicalRoot.rootFileId = plan.rootFileId ∧
    journal.physicalRoot.canonicalRoot = plan.canonicalRoot

def buildJournalHeaderRecord (createdAt : String) : Except SchemaError JournalHeaderRecord :=
  buildHeader uuid 1 plan.operationId plan.planDigest plan.canonicalRoot
    plan.volumeSerialNumber plan.rootFileId createdAt

def initialState : JournalRecord := .transaction ⟨2, initialTransactionState⟩

/-- `created_at or _now_iso()`. -/
def createdAtOr (createdAt : Option String) (now : String) : String :=
  match createdAt with
  | some text => if text = "" then now else text
  | none => now

/-- `create_protection_journal`. -/
def Sistema.crea (s : Sistema) (createdAt : Option String) (now : String)
    (fallo : FalloCreacion) : Sistema :=
  if s.archivo.isSome then s
  else
    match buildJournalHeaderRecord uuid plan (createdAtOr createdAt now) with
    | .error _ => s
    | .ok header =>
      if fallo ∈ [.stage, .append, .publish] then s
      else
        let records := [.header header, initialState]
        let raw := serialize json records
        let t := { s with
          archivo := some raw, firme := raw.length, objeto := none, publicado := true,
          intentados := records, todos := records }
        if fallo = .muereTrasPublicar then t
        else match parseJournalBytes json uuid raw with
          | .valid journal =>
            if journal.authorizedPlanDigest = plan.planDigest then
              { t with
                objeto := some ⟨s.siguiente, journal, records, true, false⟩
                siguiente := s.siguiente + 1, devueltos := records }
            else { t with archivo := none }
          | _ => { t with archivo := none }

/-- `open_protection_journal`. -/
def Sistema.abre (s : Sistema) : Sistema :=
  match s.archivo with
  | none => s
  | some raw => match parseJournalBytes json uuid raw, parseRecords json uuid raw with
    | .valid journal, .ok records =>
      if requireJournalMatchesPlan plan journal then
        { s with
          objeto := some ⟨s.siguiente, journal, records, true, false⟩
          siguiente := s.siguiente + 1, intentados := records }
      else s
    | _, _ => s

/-- `_append_record`. -/
def Sistema.appendRecord (s : Sistema) (o : DurableProtectionJournal) (record : JournalRecord)
    (esIntencion : Bool) (fallo : Fallo) : Sistema :=
  let payload := serialize json [record]
  let raw := s.archivo.getD []
  let t := { s with intentados := s.intentados ++ [record], todos := s.todos ++ [record] }
  match fallo with
  | .append escritos =>
    { t with
      archivo := some (raw ++ payload.take escritos), objeto := some o.markDurabilityFailure
      historia := .fallo o.id :: .intento o.id :: s.historia }
  | .flush =>
    { t with
      archivo := some (raw ++ payload), objeto := some o.markDurabilityFailure
      historia := .fallo o.id :: .intento o.id :: s.historia }
  | .ninguno =>
    let records := o.records ++ [record]
    let escrito := { t with
      archivo := some (raw ++ payload), firme := (raw ++ payload).length
      historia := .intento o.id :: s.historia }
    match replayJournalRecords records with
    | .error _ => { escrito with objeto := some { o with records } }
    | .ok journal =>
      { escrito with
        objeto := some { o with records, journal }, devueltos := s.devueltos ++ [record]
        historia := if esIntencion then .permiso o.id :: .intento o.id :: s.historia
          else .intento o.id :: s.historia }

def Llamada.esIntencion : Llamada → Bool
  | .recordNodeMutationIntent _ => true
  | _ => false

def Sistema.llama (s : Sistema) (o : DurableProtectionJournal) (llamada : Llamada)
    (fallo : Fallo) : Sistema :=
  match o.registro plan llamada with
  | .error _ => s
  | .ok record => s.appendRecord json o record llamada.esIntencion fallo

def step (s : Sistema) : Evento → Option Sistema
  | .crea createdAt now fallo =>
    if s.libre then some (s.crea json uuid plan createdAt now fallo) else none
  | .abre => if s.libre then some (s.abre json uuid plan) else none
  | .llama llamada fallo => s.objeto.map fun o => s.llama json plan o llamada fallo
  | .cierra => s.objeto.map fun o => { s with objeto := some { o with abierto := false } }
  | .caida quedan =>
    if s.firme ≤ quedan then
      some { s with archivo := s.archivo.map (·.take quedan), objeto := none }
    else none

end

/-! Records that are appended are valid -/

section
variable {json : Json} {uuid : String → Option String} {plan : AuthorizedPlan}

theorem bind_ok {α β : Type} {x : Except StoreError α} {f : α → Except StoreError β} {y : β}
    (ok : (x >>= f) = .ok y) : ∃ a, x = .ok a ∧ f a = .ok y := by
  cases x with
  | error e => cases ok
  | ok a => exact ⟨a, rfl, ok⟩

theorem mapError_ok {α : Type} {x : Except SchemaError α} {y : α}
    (ok : x.mapError StoreError.schema = .ok y) : x = .ok y := by
  cases x with
  | error e => cases ok
  | ok a => exact congrArg Except.ok (Except.ok.inj ok)

theorem check_ok {α : Type} {p : Prop} [Decidable p] {e : StoreError}
    {f : Unit → Except StoreError α} {y : α}
    (ok : (if p then Except.error e >>= f else Except.ok () >>= f) = .ok y) : f () = .ok y := by
  split at ok
  · cases ok
  · exact ok

namespace DurableProtectionJournal
variable {o : DurableProtectionJournal}

theorem nodeRecord_valido {binding : NodeMutationBinding} {state : NodeWalState}
    {record : JournalRecord} (ok : o.nodeRecord plan binding state = .ok record) :
    record.Valido uuid := by
  obtain ⟨_, _, ok⟩ := bind_ok ok
  obtain ⟨expected, _, ok⟩ := bind_ok ok
  obtain ⟨node, built, same⟩ := bind_ok ok
  obtain rfl := Except.ok.inj same
  obtain ⟨_, _, built⟩ := ProtectionJournal.bind_ok.mp (mapError_ok built)
  exact buildNode_valido built

theorem transactionRecord_valido {target : ProtectionTransactionState} {record : JournalRecord}
    (ok : o.transactionRecord target = .ok record) : record.Valido uuid := by
  obtain ⟨t, built, same⟩ := bind_ok ok
  obtain rfl := Except.ok.inj same
  obtain ⟨_, _, built⟩ := ProtectionJournal.bind_ok.mp (mapError_ok built)
  exact buildTransaction_valido built

/-- Every call starts with the check of the handle, and the record that it appends is valid. -/
theorem registro_ok (uuid : String → Option String) {llamada : Llamada} {record : JournalRecord}
    (ok : o.registro plan llamada = .ok record) :
    o.durabilityFailed = false ∧ o.abierto = true ∧ record.Valido uuid := by
  have live : ∀ {u : Unit}, o.requireLiveHandle = .ok u →
      o.durabilityFailed = false ∧ o.abierto = true := by
    intro u live
    unfold requireLiveHandle at live
    split at live
    · cases live
    · next healthy =>
      split at live
      · cases live
      · next handle => exact ⟨by simpa using healthy, by simpa using handle⟩
  cases llamada with
  | recordNodeMutationIntent binding =>
    obtain ⟨_, alive, _⟩ := bind_ok ok
    exact ⟨(live alive).1, (live alive).2, nodeRecord_valido ok⟩
  | recordNodeMutationCompleted binding =>
    obtain ⟨_, alive, _⟩ := bind_ok ok
    exact ⟨(live alive).1, (live alive).2, nodeRecord_valido ok⟩
  | transitionTo target =>
    obtain ⟨_, alive, rest⟩ := bind_ok ok
    exact ⟨(live alive).1, (live alive).2, transactionRecord_valido (check_ok (check_ok rest))⟩
  | enterFinalizationPhase target =>
    obtain ⟨_, alive, rest⟩ := bind_ok ok
    refine ⟨(live alive).1, (live alive).2, ?_⟩
    split at rest
    · cases rest
    · split at rest
      · cases rest
      · exact transactionRecord_valido rest
  | commitFinalized archive =>
    obtain ⟨_, alive, rest⟩ := bind_ok ok
    exact ⟨(live alive).1, (live alive).2,
      transactionRecord_valido (check_ok (check_ok (check_ok rest)))⟩

end DurableProtectionJournal

/-! Creation -/

theorem buildHeader_campos {sequence : Int} {operationId digest root : String}
    {volume rootFileId : Int} {createdAt : String} {r : JournalHeaderRecord}
    (built : buildHeader uuid sequence operationId digest root volume rootFileId createdAt = .ok r) :
    validateSequence sequence = .ok r.sequence ∧
      validateSha256Hex digest "authorized_plan_digest" = .ok r.authorizedPlanDigest := by
  simp only [buildHeader, ProtectionJournal.bind_ok] at built
  obtain ⟨n, hn, o, _, d, hd, c, _, v, _, f, _, t, _, same⟩ := built
  obtain rfl := Except.ok.inj same
  exact ⟨hn, hd⟩

theorem initialState_valido : initialState.Valido uuid := rfl

/-- The two records of a creation are read back as a journal of the plan. -/
theorem creado_valido (json : Json) {createdAt : String} {header : JournalHeaderRecord}
    (built : buildJournalHeaderRecord uuid plan createdAt = .ok header) :
    ∃ journal, parseJournalBytes json uuid (serialize json [.header header, initialState]) =
      .valid journal ∧ journal.authorizedPlanDigest = plan.planDigest := by
  obtain ⟨first, digest⟩ := buildHeader_campos built
  have validos : ∀ r ∈ [.header header, initialState], r.Valido uuid := by
    intro r mem
    simp only [List.mem_cons, List.not_mem_nil, or_false] at mem
    rcases mem with rfl | rfl
    · exact buildHeader_valido built
    · exact initialState_valido
  have uno : header.sequence = 1 := (Except.ok.inj first).symm
  rw [plan.digest_hex] at digest
  have replayed : replayJournalRecords [.header header, initialState] =
      .ok (Reproduccion.journal
        { Reproduccion.inicial with expectedSequence := 3, transactionDeclared := true }
        header) := by
    rw [replayJournalRecords, if_neg (not_not.mpr uno)]
    rfl
  rw [parseJournalBytes_serialize validos (List.cons_ne_nil _ _), replayed]
  exact ⟨_, rfl, (Except.ok.inj digest).symm⟩

/-! What the file holds -/

/-- The file is a start of what was written, cut behind all that a flush has confirmed. -/
structure Coherente (json : Json) (uuid : String → Option String) (s : Sistema) : Prop where
  ausente : s.archivo = none → s.publicado = false ∧ s.devueltos = []
  cortado : ∀ raw, s.archivo = some raw →
    s.firme ≤ raw.length ∧ ∃ n, raw = (serialize json s.intentados).take n
  validos : ∀ r ∈ s.intentados, r.Valido uuid
  confirmados : ∃ d, (serialize json (s.intentados.take d)).length ≤ s.firme ∧
    s.devueltos.Sublist (s.intentados.take d)
  probados : s.intentados.Sublist s.todos
  vivo : ∀ o, s.objeto = some o → o.abierto = true → o.durabilityFailed = false →
    s.archivo = some (serialize json s.intentados) ∧ o.records = s.intentados

/-- A file that reads as valid holds whole records only, and all that a call returned. -/
theorem Coherente.leido {s : Sistema} (coherente : Coherente json uuid s) {raw : Bytes}
    {journal : Journal} (on_disk : s.archivo = some raw)
    (valid : parseJournalBytes json uuid raw = .valid journal) :
    ∃ k, raw = serialize json (s.intentados.take k) ∧
      parseRecords json uuid raw = .ok (s.intentados.take k) ∧
      replayJournalRecords (s.intentados.take k) = .ok journal ∧
      ∃ d, (serialize json (s.intentados.take d)).length ≤ s.firme ∧
        s.devueltos.Sublist (s.intentados.take d) ∧
        s.intentados.take d <+: s.intentados.take k := by
  obtain ⟨durable, n, cut⟩ := coherente.cortado raw on_disk
  unfold parseJournalBytes at valid
  split at valid
  · cases valid
  · next some_byte =>
    split at valid
    · cases valid
    · next whole =>
      rcases FramedLog.cut_cases (canonicalJson_linea json) s.intentados n with ⟨k, same⟩ | torn
      · replace cut : raw = serialize json (s.intentados.take k) := cut.trans same
        have validos : ∀ r ∈ s.intentados.take k, r.Valido uuid :=
          fun r mem => coherente.validos r (List.mem_of_mem_take mem)
        have parsed : parseRecords json uuid raw = .ok (s.intentados.take k) := by
          rw [cut]
          exact parseRecords_serialize validos
        rw [parsed, Except.bind] at valid
        obtain ⟨d, confirmed, returned⟩ := coherente.confirmados
        refine ⟨k, cut, parsed, ?_, d, confirmed, returned, ?_⟩
        · cases replayed : replayJournalRecords (s.intentados.take k) with
          | error e => simp [replayed] at valid
          | ok j => simpa [replayed] using valid
        · rw [cut] at durable
          exact FramedLog.prefix_of_length_le (Nat.le_trans confirmed durable)
      · rw [not_not] at whole
        rw [cut] at whole
        exact absurd whole torn.2

theorem Coherente.inicial : Coherente json uuid .inicial := by
  constructor
  · exact fun _ => ⟨rfl, rfl⟩
  · simp [Sistema.inicial]
  · simp [Sistema.inicial]
  · exact ⟨0, by simp [Sistema.inicial, serialize, FramedLog.encode], List.Sublist.refl _⟩
  · exact List.Sublist.refl _
  · simp [Sistema.inicial]

theorem Coherente.crea {s : Sistema} (coherente : Coherente json uuid s)
    {createdAt : Option String} {now : String} {fallo : FalloCreacion} :
    Coherente json uuid (s.crea json uuid plan createdAt now fallo) := by
  unfold Sistema.crea
  split
  · exact coherente
  · next absent =>
    cases built : buildJournalHeaderRecord uuid plan (createdAtOr createdAt now) with
    | error e => exact coherente
    | ok header =>
      dsimp only
      split
      · exact coherente
      · obtain ⟨journal, reread, digest⟩ := creado_valido json built
        have none_returned : s.devueltos = [] := by
          have missing : s.archivo = none := by simpa using absent
          exact (coherente.ausente missing).2
        have validos : ∀ r ∈ [.header header, initialState], r.Valido uuid := by
          intro r mem
          simp only [List.mem_cons, List.not_mem_nil, or_false] at mem
          rcases mem with rfl | rfl
          · exact buildHeader_valido built
          · exact initialState_valido
        split
        · constructor
          · exact nofun
          · rintro raw ⟨⟩
            exact ⟨Nat.le_refl _, _, List.take_length.symm⟩
          · exact validos
          · exact ⟨2, Nat.le_refl _, none_returned ▸ List.nil_sublist _⟩
          · exact List.Sublist.refl _
          · exact nofun
        · rw [reread]
          dsimp only
          rw [if_pos digest]
          constructor
          · exact nofun
          · rintro raw ⟨⟩
            exact ⟨Nat.le_refl _, _, List.take_length.symm⟩
          · exact validos
          · exact ⟨2, Nat.le_refl _, List.Sublist.refl _⟩
          · exact List.Sublist.refl _
          · rintro o ⟨⟩ _ _
            exact ⟨rfl, rfl⟩

theorem Coherente.abre {s : Sistema} (coherente : Coherente json uuid s) :
    Coherente json uuid (s.abre json uuid plan) := by
  unfold Sistema.abre
  cases on_disk : s.archivo with
  | none => exact coherente
  | some raw =>
    dsimp only
    split
    · next journal records valid parsed =>
      split
      · obtain ⟨k, whole, same, _, d, confirmed, returned, start⟩ := coherente.leido on_disk valid
        obtain rfl : records = s.intentados.take k := Except.ok.inj (parsed.symm.trans same)
        constructor
        · exact nofun
        · rintro _ ⟨⟩
          exact ⟨(coherente.cortado raw on_disk).1, raw.length, by
            rw [whole]
            exact List.take_length.symm⟩
        · exact fun r mem => coherente.validos r (List.mem_of_mem_take mem)
        · refine ⟨(s.intentados.take d).length, ?_, ?_⟩
          · rw [← List.prefix_iff_eq_take.mp start]
            exact confirmed
          · rw [← List.prefix_iff_eq_take.mp start]
            exact returned
        · exact (List.take_sublist _ _).trans coherente.probados
        · rintro o ⟨⟩ _ _
          exact ⟨congrArg some whole, rfl⟩
      · exact coherente
    · exact coherente

/-- The bytes of one more record come after those of the others. -/
theorem serialize_append (records : List JournalRecord) (record : JournalRecord) :
    serialize json (records ++ [record]) = serialize json records ++ serialize json [record] :=
  FramedLog.encode_append records [record]

theorem Coherente.appendRecord {s : Sistema} (coherente : Coherente json uuid s)
    {o : DurableProtectionJournal} (current : s.objeto = some o) (open_handle : o.abierto = true)
    (healthy : o.durabilityFailed = false) {record : JournalRecord} (valido : record.Valido uuid)
    {esIntencion : Bool} {fallo : Fallo} :
    Coherente json uuid (s.appendRecord json o record esIntencion fallo) := by
  obtain ⟨on_disk, held⟩ := coherente.vivo o current open_handle healthy
  obtain ⟨d, confirmed, returned⟩ := coherente.confirmados
  have durable := (coherente.cortado _ on_disk).1
  have validos : ∀ r ∈ s.intentados ++ [record], r.Valido uuid := by
    intro r mem
    rcases List.mem_append.mp mem with old | new
    · exact coherente.validos r old
    · exact List.mem_singleton.mp new ▸ valido
  have before : (s.intentados ++ [record]).take (min d s.intentados.length) =
      s.intentados.take d := by
    rw [List.take_append_of_le_length (Nat.min_le_right _ _), ← List.take_take, List.take_length]
  have confirmados : ∃ d, (serialize json ((s.intentados ++ [record]).take d)).length ≤ s.firme ∧
      s.devueltos.Sublist ((s.intentados ++ [record]).take d) :=
    ⟨min d s.intentados.length, before ▸ confirmed, before ▸ returned⟩
  have probados : (s.intentados ++ [record]).Sublist (s.todos ++ [record]) :=
    coherente.probados.append (List.Sublist.refl _)
  have whole : s.archivo.getD [] ++ serialize json [record] =
      serialize json (s.intentados ++ [record]) := by
    rw [on_disk, Option.getD_some, serialize_append]
  unfold Sistema.appendRecord
  cases fallo with
  | append escritos =>
    constructor
    · exact nofun
    · rintro _ ⟨⟩
      rw [on_disk, Option.getD_some]
      constructor
      · rw [List.length_append]
        exact Nat.le_add_right_of_le durable
      · exact ⟨(serialize json s.intentados).length + escritos, by
          rw [serialize_append, List.take_length_add_append]⟩
    · exact validos
    · exact confirmados
    · exact probados
    · rintro _ ⟨⟩ _ failed
      cases failed
  | flush =>
    constructor
    · exact nofun
    · rintro _ ⟨⟩
      rw [whole]
      constructor
      · rw [serialize_append, List.length_append]
        exact Nat.le_add_right_of_le durable
      · exact ⟨_, List.take_length.symm⟩
    · exact validos
    · exact confirmados
    · exact probados
    · rintro _ ⟨⟩ _ failed
      cases failed
  | ninguno =>
    dsimp only
    rw [whole, held]
    have todo : ∃ d, (serialize json ((s.intentados ++ [record]).take d)).length ≤
        (serialize json (s.intentados ++ [record])).length ∧
        (s.devueltos ++ [record]).Sublist ((s.intentados ++ [record]).take d) := by
      refine ⟨(s.intentados ++ [record]).length, ?_, ?_⟩
      · rw [List.take_length]
      · rw [List.take_length]
        exact (returned.trans (List.take_sublist _ _)).append (List.Sublist.refl _)
    cases replayJournalRecords (s.intentados ++ [record]) with
    | error e =>
      constructor
      · exact nofun
      · rintro _ ⟨⟩
        exact ⟨Nat.le_refl _, _, List.take_length.symm⟩
      · exact validos
      · obtain ⟨d, le, sub⟩ := todo
        exact ⟨d, le, (List.sublist_append_left _ _).trans sub⟩
      · exact probados
      · rintro _ ⟨⟩ _ _
        exact ⟨rfl, rfl⟩
    | ok journal =>
      constructor
      · exact nofun
      · rintro _ ⟨⟩
        exact ⟨Nat.le_refl _, _, List.take_length.symm⟩
      · exact validos
      · exact todo
      · exact probados
      · rintro _ ⟨⟩ _ _
        exact ⟨rfl, rfl⟩

theorem Coherente.llama {s : Sistema} (coherente : Coherente json uuid s)
    {o : DurableProtectionJournal} (current : s.objeto = some o) {llamada : Llamada}
    {fallo : Fallo} : Coherente json uuid (s.llama json plan o llamada fallo) := by
  unfold Sistema.llama
  cases checked : o.registro plan llamada with
  | error e => exact coherente
  | ok record =>
    obtain ⟨healthy, open_handle, valido⟩ :=
      DurableProtectionJournal.registro_ok uuid checked
    exact coherente.appendRecord current open_handle healthy valido

theorem Coherente.cierra {s : Sistema} (coherente : Coherente json uuid s)
    (o : DurableProtectionJournal) :
    Coherente json uuid { s with objeto := some { o with abierto := false } } :=
  { coherente with
    vivo := by
      rintro _ ⟨⟩ still_open
      cases still_open }

theorem Coherente.caida {s : Sistema} (coherente : Coherente json uuid s) {quedan : Nat}
    (durable : s.firme ≤ quedan) :
    Coherente json uuid { s with archivo := s.archivo.map (·.take quedan), objeto := none } := by
  constructor
  · intro missing
    exact coherente.ausente (Option.map_eq_none_iff.mp missing)
  · intro raw on_disk
    obtain ⟨old, before, rfl⟩ := Option.map_eq_some_iff.mp on_disk
    obtain ⟨firm, n, cut⟩ := coherente.cortado old before
    constructor
    · rw [List.length_take]
      exact Nat.le_min.mpr ⟨durable, firm⟩
    · exact ⟨min quedan n, by rw [cut, List.take_take]⟩
  · exact coherente.validos
  · exact coherente.confirmados
  · exact coherente.probados
  · exact nofun

theorem Coherente.step {s t : Sistema} {e : Evento} (coherente : Coherente json uuid s)
    (moved : step json uuid plan s e = some t) : Coherente json uuid t := by
  cases e with
  | crea createdAt now fallo =>
    simp only [ProtectionJournalStore.step, Option.ite_none_right_eq_some, Option.some.injEq] at moved
    obtain ⟨_, rfl⟩ := moved
    exact coherente.crea
  | abre =>
    simp only [ProtectionJournalStore.step, Option.ite_none_right_eq_some, Option.some.injEq] at moved
    obtain ⟨_, rfl⟩ := moved
    exact coherente.abre
  | llama llamada fallo =>
    obtain ⟨o, current, rfl⟩ := Option.map_eq_some_iff.mp moved
    exact coherente.llama current
  | cierra =>
    obtain ⟨o, _, rfl⟩ := Option.map_eq_some_iff.mp moved
    exact coherente.cierra o
  | caida quedan =>
    simp only [ProtectionJournalStore.step, Option.ite_none_right_eq_some, Option.some.injEq] at moved
    obtain ⟨durable, rfl⟩ := moved
    exact coherente.caida durable

/-! What an object does after a failure -/

/-- `despues` comes later than `antes`. -/
def TrasFallo (despues antes : Suceso) : Prop :=
  ∀ id, antes = .fallo id → despues ≠ .intento id ∧ despues ≠ .permiso id

structure Envenenado (s : Sistema) : Prop where
  orden : s.historia.Pairwise TrasFallo
  sucesos : ∀ e ∈ s.historia, e.id < s.siguiente
  objeto : ∀ o, s.objeto = some o → o.id < s.siguiente
  fallado : ∀ o, s.objeto = some o → .fallo o.id ∈ s.historia → o.durabilityFailed = true

theorem Envenenado.inicial : Envenenado .inicial := by
  constructor
  · exact List.Pairwise.nil
  · exact nofun
  · exact nofun
  · exact nofun

/-- An object that is new has no past. -/
theorem Envenenado.nuevo {s t : Sistema} (envenenado : Envenenado s)
    {o : DurableProtectionJournal} (id : o.id = s.siguiente) (current : t.objeto = some o)
    (next : t.siguiente = s.siguiente + 1) (same : t.historia = s.historia) : Envenenado t := by
  constructor
  · exact same ▸ envenenado.orden
  · intro e mem
    have old := envenenado.sucesos e (same ▸ mem)
    omega
  · intro p now
    obtain rfl := Option.some.inj (current.symm.trans now)
    omega
  · intro p now failed
    obtain rfl := Option.some.inj (current.symm.trans now)
    have old := envenenado.sucesos _ (same ▸ failed)
    simp only [Suceso.id] at old
    omega

theorem Envenenado.sinObjeto {s t : Sistema} (envenenado : Envenenado s)
    (current : t.objeto = none) (next : t.siguiente = s.siguiente)
    (same : t.historia = s.historia) : Envenenado t := by
  constructor
  · exact same ▸ envenenado.orden
  · exact fun e mem => next ▸ envenenado.sucesos e (same ▸ mem)
  · exact fun o now => by cases current.symm.trans now
  · exact fun o now => by cases current.symm.trans now

theorem Envenenado.crea {s : Sistema} (envenenado : Envenenado s) {createdAt : Option String}
    {now : String} {fallo : FalloCreacion} :
    Envenenado (s.crea json uuid plan createdAt now fallo) := by
  unfold Sistema.crea
  split
  · exact envenenado
  · cases built : buildJournalHeaderRecord uuid plan (createdAtOr createdAt now) with
    | error e => exact envenenado
    | ok header =>
      dsimp only
      split
      · exact envenenado
      · split
        · exact envenenado.sinObjeto rfl rfl rfl
        · split
          · split
            · exact envenenado.nuevo rfl rfl rfl rfl
            · exact envenenado.sinObjeto rfl rfl rfl
          · exact envenenado.sinObjeto rfl rfl rfl

theorem Envenenado.abre {s : Sistema} (envenenado : Envenenado s) :
    Envenenado (s.abre json uuid plan) := by
  unfold Sistema.abre
  split
  · exact envenenado
  · split
    · split
      · exact envenenado.nuevo rfl rfl rfl rfl
      · exact envenenado
    · exact envenenado

/-- Whatever an object without failures adds to the history, a failure is the last of it. -/
theorem Envenenado.agrega {s t : Sistema} (envenenado : Envenenado s)
    {o p : DurableProtectionJournal} (current : s.objeto = some o)
    (healthy : o.durabilityFailed = false) (then_current : t.objeto = some p) (id : p.id = o.id)
    (next : t.siguiente = s.siguiente) (nuevos : List Suceso)
    (history : t.historia = nuevos ++ s.historia) (orden : nuevos.Pairwise TrasFallo)
    (propios : ∀ e ∈ nuevos, e.id = o.id)
    (marked : .fallo o.id ∈ nuevos → p.durabilityFailed = true) : Envenenado t := by
  have no_failure : .fallo o.id ∉ s.historia := by
    intro mem
    simp [envenenado.fallado o current mem] at healthy
  constructor
  · rw [history]
    refine List.pairwise_append.mpr ⟨orden, envenenado.orden, ?_⟩
    intro a new b old i failed
    have other : i ≠ o.id := by
      rintro rfl
      exact no_failure (failed ▸ old)
    have own := propios a new
    constructor
    · rintro rfl
      exact other own
    · rintro rfl
      exact other own
  · intro e mem
    rw [history] at mem
    rw [next]
    rcases List.mem_append.mp mem with new | old
    · rw [propios e new]
      exact envenenado.objeto o current
    · exact envenenado.sucesos e old
  · intro q now
    obtain rfl := Option.some.inj (then_current.symm.trans now)
    rw [next, id]
    exact envenenado.objeto o current
  · intro q now failed
    obtain rfl := Option.some.inj (then_current.symm.trans now)
    rw [history, id] at failed
    rcases List.mem_append.mp failed with new | old
    · exact marked new
    · exact absurd old no_failure

theorem trasFallo_intento (id : Nat) (e : Suceso) : TrasFallo e (.intento id) := nofun

theorem Envenenado.appendRecord {s : Sistema} (envenenado : Envenenado s)
    {o : DurableProtectionJournal} (current : s.objeto = some o)
    (healthy : o.durabilityFailed = false) {record : JournalRecord} {esIntencion : Bool}
    {fallo : Fallo} : Envenenado (s.appendRecord json o record esIntencion fallo) := by
  have failing : [Suceso.fallo o.id, .intento o.id].Pairwise TrasFallo := by
    simp [trasFallo_intento]
  unfold Sistema.appendRecord
  cases fallo with
  | append escritos =>
    exact envenenado.agrega current healthy rfl rfl rfl [.fallo o.id, .intento o.id] rfl failing
      (by simp [Suceso.id]) fun _ => rfl
  | flush =>
    exact envenenado.agrega current healthy rfl rfl rfl [.fallo o.id, .intento o.id] rfl failing
      (by simp [Suceso.id]) fun _ => rfl
  | ninguno =>
    dsimp only
    split
    · exact envenenado.agrega current healthy rfl rfl rfl [.intento o.id] rfl
        (by simp) (by simp [Suceso.id]) (by simp)
    · cases esIntencion with
      | true =>
        exact envenenado.agrega current healthy rfl rfl rfl [.permiso o.id, .intento o.id] rfl
          (by simp [trasFallo_intento]) (by simp [Suceso.id]) (by simp)
      | false =>
        exact envenenado.agrega current healthy rfl rfl rfl [.intento o.id] rfl
          (by simp) (by simp [Suceso.id]) (by simp)

theorem Envenenado.step {s t : Sistema} {e : Evento} (envenenado : Envenenado s)
    (moved : step json uuid plan s e = some t) : Envenenado t := by
  cases e with
  | crea createdAt now fallo =>
    simp only [ProtectionJournalStore.step, Option.ite_none_right_eq_some, Option.some.injEq] at moved
    obtain ⟨_, rfl⟩ := moved
    exact envenenado.crea
  | abre =>
    simp only [ProtectionJournalStore.step, Option.ite_none_right_eq_some, Option.some.injEq] at moved
    obtain ⟨_, rfl⟩ := moved
    exact envenenado.abre
  | llama llamada fallo =>
    obtain ⟨o, current, rfl⟩ := Option.map_eq_some_iff.mp moved
    unfold Sistema.llama
    cases checked : o.registro plan llamada with
    | error e => exact envenenado
    | ok record =>
      have healthy := (DurableProtectionJournal.registro_ok uuid checked).1
      exact envenenado.appendRecord current healthy
  | cierra =>
    obtain ⟨o, current, rfl⟩ := Option.map_eq_some_iff.mp moved
    constructor
    · exact envenenado.orden
    · exact envenenado.sucesos
    · rintro _ ⟨⟩
      exact envenenado.objeto o current
    · rintro _ ⟨⟩ failed
      exact envenenado.fallado o current failed
  | caida quedan =>
    simp only [ProtectionJournalStore.step, Option.ite_none_right_eq_some, Option.some.injEq] at moved
    obtain ⟨_, rfl⟩ := moved
    exact envenenado.sinObjeto rfl rfl rfl

/-! Every run -/

/-- What the file is classified as, and what each object does after a failure. -/
structure Segura (json : Json) (uuid : String → Option String) (s : Sistema) : Prop where
  clasificacion :
    (classifyProtectionJournal json uuid s.archivo = .absent ∧ s.publicado = false) ∨
    classifyProtectionJournal json uuid s.archivo = .indeterminate ∨
    ∃ k journal, classifyProtectionJournal json uuid s.archivo = .valid journal ∧
      replayJournalRecords (s.intentados.take k) = .ok journal ∧
      s.devueltos.Sublist (s.intentados.take k) ∧ s.intentados.Sublist s.todos
  envenenado : ∀ despues antes id, s.historia = despues ++ .fallo id :: antes →
    .intento id ∉ despues ∧ .permiso id ∉ despues

theorem Coherente.clasificacion {s : Sistema} (coherente : Coherente json uuid s) :
    (classifyProtectionJournal json uuid s.archivo = .absent ∧ s.publicado = false) ∨
    classifyProtectionJournal json uuid s.archivo = .indeterminate ∨
    ∃ k journal, classifyProtectionJournal json uuid s.archivo = .valid journal ∧
      replayJournalRecords (s.intentados.take k) = .ok journal ∧
      s.devueltos.Sublist (s.intentados.take k) ∧ s.intentados.Sublist s.todos := by
  cases on_disk : s.archivo with
  | none => exact .inl ⟨rfl, (coherente.ausente on_disk).1⟩
  | some raw =>
    right
    simp only [classifyProtectionJournal]
    cases parsed : parseJournalBytes json uuid raw with
    | valid journal =>
      obtain ⟨k, _, _, replayed, d, _, returned, start⟩ := coherente.leido on_disk parsed
      exact .inr ⟨k, journal, rfl, replayed, returned.trans start.sublist, coherente.probados⟩
    | tornTail sinRegistros => exact .inl rfl
    | schemaInvalid detail => exact .inl rfl

theorem Envenenado.tras_fallo {s : Sistema} (envenenado : Envenenado s)
    {despues antes : List Suceso} {id : Nat} (history : s.historia = despues ++ .fallo id :: antes) :
    .intento id ∉ despues ∧ .permiso id ∉ despues := by
  have orden := envenenado.orden
  rw [history, List.pairwise_append] at orden
  have later : ∀ e ∈ despues, e ≠ .intento id ∧ e ≠ .permiso id :=
    fun e mem => orden.2.2 e mem (.fallo id) List.mem_cons_self id rfl
  exact ⟨fun mem => (later _ mem).1 rfl, fun mem => (later _ mem).2 rfl⟩

/-- In every run, whatever is cut or fails. -/
theorem journal_seguro {s : Sistema}
    (reached : Reaches (step json uuid plan) (· = .inicial) (fun _ _ => True) s) :
    Segura json uuid s := by
  have coherente : Coherente json uuid s := reached.invariant
    (by rintro _ rfl; exact .inicial) fun _ _ _ before _ moved => before.step moved
  have envenenado : Envenenado s := reached.invariant
    (by rintro _ rfl; exact .inicial) fun _ _ _ before _ moved => before.step moved
  exact ⟨coherente.clasificacion, fun _ _ _ history => envenenado.tras_fallo history⟩

end

theorem crea_inicial {json : Json} {uuid : String → Option String} {plan : AuthorizedPlan}
    {createdAt : Option String} {now : String} {header : JournalHeaderRecord} {journal : Journal}
    {records : List JournalRecord}
    (built : buildJournalHeaderRecord uuid plan (createdAtOr createdAt now) = .ok header)
    (both : [.header header, initialState] = records)
    (reread : parseJournalBytes json uuid (serialize json records) = .valid journal)
    (digest : journal.authorizedPlanDigest = plan.planDigest) :
    Sistema.inicial.crea json uuid plan createdAt now .ninguno =
      ⟨some (serialize json records), (serialize json records).length,
        some ⟨0, journal, records, true, false⟩, 1, true, records, records, records, []⟩ := by
  have allowed : FalloCreacion.ninguno ∉ [.stage, .append, .publish] := by decide
  simp only [Sistema.crea, Sistema.inicial, Option.isSome_none, Bool.false_eq_true, if_false, built,
    if_neg allowed, both, reread, if_pos digest, reduceCtorEq, Nat.zero_add]

theorem abre_valido {json : Json} {uuid : String → Option String} {plan : AuthorizedPlan}
    {s : Sistema} {raw : Bytes} {journal : Journal} {records : List JournalRecord}
    (on_disk : s.archivo = some raw) (valid : parseJournalBytes json uuid raw = .valid journal)
    (parsed : parseRecords json uuid raw = .ok records)
    (bound : requireJournalMatchesPlan plan journal = true) :
    s.abre json uuid plan = { s with
      objeto := some ⟨s.siguiente, journal, records, true, false⟩
      siguiente := s.siguiente + 1, intentados := records } := by
  simp only [Sistema.abre, on_disk, valid, parsed, bound, if_true]

/-! A record that never reached the file -/

def valorPlano : JsonValue → FlatJson.Value
  | .str s => .text s.toList
  | .int n => .number n
  | .otro => .text []

def valorLeido : FlatJson.Value → JsonValue
  | .text t => .str (String.ofList t)
  | .number n => .int n

/-- The module `json` on the objects of a journal. -/
def jsonPlano : Json where
  dumps pares := FlatJson.dumps (pares.map fun p => (p.1.toList, valorPlano p.2))
  loads linea := (FlatJson.loads linea).map fun pares =>
    .objeto (pares.map fun p => (String.ofList p.1, valorLeido p.2))
  loads_dumps := by
    intro pares _ escribibles
    have leidos : pares.map ((fun p => (String.ofList p.1, valorLeido p.2)) ∘
        fun p => (p.1.toList, valorPlano p.2)) = pares := by
      conv_rhs => rw [← List.map_id pares]
      apply List.map_congr_left
      rintro ⟨clave, valor⟩ mem
      cases valor with
      | str s => simp [valorPlano, valorLeido]
      | int n => simp [valorPlano, valorLeido]
      | otro => exact absurd rfl (escribibles _ mem)
    rw [FlatJson.loads_dumps, Option.map_some, List.map_map, leidos]
  dumps_linea _ := FlatJson.dumps_one_line _
  dumps_ne_nil _ := FlatJson.dumps_ne_nil _

def planMods : AuthorizedPlan where
  operationId := "6f9619ff-8b86-4011-b42d-00cf4fc964ff"
  planDigest := "3f3f3f3f3f3f3f3f3f3f3f3f3f3f3f3f3f3f3f3f3f3f3f3f3f3f3f3f3f3f3f3f"
  canonicalRoot := "C:/MO2/mods"
  volumeSerialNumber := 7
  rootFileId := 9
  nodes := []
  digest_hex := by decide +kernel

def fechaMods : String := "2026-01-01T00:00:00+00:00"

def headerMods : JournalHeaderRecord :=
  ⟨1, planMods.operationId, planMods.planDigest, planMods.canonicalRoot,
    planMods.volumeSerialNumber, planMods.rootFileId, fechaMods⟩

def creados : List JournalRecord := [.header headerMods, initialState]

def journalMods (state : ProtectionTransactionState) (sequence : Nat) : Journal :=
  ⟨planMods.operationId, planMods.planDigest,
    ⟨planMods.canonicalRoot, planMods.volumeSerialNumber, planMods.rootFileId⟩, state, [],
    fechaMods, sequence⟩

def objetoMods (id : Nat) : DurableProtectionJournal :=
  ⟨id, journalMods .applying 2, creados, true, false⟩

theorem header_construido : buildJournalHeaderRecord some planMods fechaMods = .ok headerMods := by
  decide +kernel

theorem creados_validos : ∀ r ∈ creados, r.Valido some := by
  intro r mem
  simp only [creados, List.mem_cons, List.not_mem_nil, or_false] at mem
  rcases mem with rfl | rfl
  · exact buildHeader_valido header_construido
  · exact initialState_valido

theorem creados_leidos : parseJournalBytes jsonPlano some (serialize jsonPlano creados) =
    .valid (journalMods .applying 2) :=
  parseJournalBytes_serialize creados_validos (List.cons_ne_nil _ _)

def creado : Sistema :=
  ⟨some (serialize jsonPlano creados), (serialize jsonPlano creados).length,
    some (objetoMods 0), 1, true, creados, creados, creados, []⟩

/-- A record of the first process, of which nothing lands, and one of the second. -/
def perdido : JournalRecord := .transaction ⟨3, .rollbackRequired⟩

def siguiente : JournalRecord := .transaction ⟨3, .indeterminate⟩

def reabierto : Sistema :=
  ⟨some (serialize jsonPlano creados), (serialize jsonPlano creados).length,
    some (objetoMods 1), 2, true, creados, creados ++ [perdido], creados,
    [.fallo 0, .intento 0]⟩

def trasPerdido : Sistema :=
  reabierto.appendRecord jsonPlano (objetoMods 1) siguiente false .ninguno

theorem creado_paso :
    step jsonPlano some planMods .inicial (.crea none fechaMods .ninguno) = some creado :=
  congrArg some (crea_inicial header_construido rfl creados_leidos rfl)

def caido : Sistema :=
  { reabierto with
    objeto := none
    siguiente := 1
    intentados := creados ++ [perdido] }

theorem perdido_llamado : step jsonPlano some planMods creado
    (.llama (.transitionTo .rollbackRequired) (.append 0)) =
      some (creado.appendRecord jsonPlano (objetoMods 0) perdido false (.append 0)) := rfl

theorem perdido_caido : step jsonPlano some planMods
    (creado.appendRecord jsonPlano (objetoMods 0) perdido false (.append 0))
    (.caida (serialize jsonPlano creados).length) = some caido := by
  simp [step, Sistema.appendRecord, creado, caido, reabierto, objetoMods]

theorem caido_abierto : step jsonPlano some planMods caido .abre = some reabierto :=
  congrArg some (abre_valido rfl creados_leidos (parseRecords_serialize creados_validos)
    (by decide +kernel))

theorem siguiente_llamado : step jsonPlano some planMods reabierto
    (.llama (.transitionTo .indeterminate) .ninguno) = some trasPerdido := rfl

theorem reaches_trasPerdido :
    Reaches (step jsonPlano some planMods) (· = .inicial) (fun _ _ => True) trasPerdido := by
  apply Reaches.next _ trivial siguiente_llamado
  apply Reaches.next _ trivial caido_abierto
  apply Reaches.next _ trivial perdido_caido
  apply Reaches.next _ trivial perdido_llamado
  exact .next (.start rfl) trivial creado_paso

theorem journal_tras_perdido : Segura jsonPlano some trasPerdido :=
  journal_seguro reaches_trasPerdido

theorem trasPerdido_leido : classifyProtectionJournal jsonPlano some trasPerdido.archivo =
    .valid (journalMods .indeterminate 3) := by
  have escrito : trasPerdido.archivo = some (serialize jsonPlano (creados ++ [siguiente])) := by
    rw [serialize_append]
    rfl
  have validos : ∀ r ∈ creados ++ [siguiente], r.Valido some := by
    intro r mem
    rcases List.mem_append.mp mem with old | new
    · exact creados_validos r old
    · exact List.mem_singleton.mp new ▸ rfl
  rw [escrito, classifyProtectionJournal, parseJournalBytes_serialize validos (by decide)]
  rfl

/-- The file goes on without the lost record, so it is a start of no list that has it. -/
theorem registro_perdido :
    ¬ ∀ s, Reaches (step jsonPlano some planMods) (· = .inicial) (fun _ _ => True) s →
      (classifyProtectionJournal jsonPlano some s.archivo = .absent ∧ s.publicado = false) ∨
      classifyProtectionJournal jsonPlano some s.archivo = .indeterminate ∨
      ∃ k journal, classifyProtectionJournal jsonPlano some s.archivo = .valid journal ∧
        replayJournalRecords (s.todos.take k) = .ok journal ∧
        s.devueltos.Sublist (s.todos.take k) := by
  intro claim
  have read := claim trasPerdido reaches_trasPerdido
  rw [trasPerdido_leido] at read
  rcases read with ⟨absent, _⟩ | indeterminate | ⟨k, journal, same, replayed, _⟩
  · cases absent
  · cases indeterminate
  · obtain rfl := Classification.valid.inj same
    have records : trasPerdido.todos = creados ++ [perdido, siguiente] := rfl
    have starts : ∀ k ∈ List.range 5,
        replayJournalRecords ((creados ++ [perdido, siguiente]).take k) ≠
          .ok (journalMods .indeterminate 3) := by
      decide +kernel
    have four : (creados ++ [perdido, siguiente]).take k =
        (creados ++ [perdido, siguiente]).take (min k 4) := by
      have length : (creados ++ [perdido, siguiente]).length = 4 := rfl
      rw [← length, ← List.take_take, List.take_length]
    rw [records, four] at replayed
    exact starts (min k 4) (List.mem_range.mpr (by omega)) replayed

end ProtectionJournalStore
