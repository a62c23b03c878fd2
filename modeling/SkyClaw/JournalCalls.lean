import SkyClaw.JournalChanges
import SkyClaw.TransitionRuns

set_option linter.all false

/-!
The public calls as coroutines that yield at each operation of the journal:
`log_operation`, the exit of `transaction()` and `StagingJournal` are made of
several operations or of none. Other coroutines may run wherever one yields.
-/
namespace OperationJournal
open ImplicitTransaction

def OperationType.value : OperationType → String
  | .modInstall => "mod_install"
  | .modUninstall => "mod_uninstall"
  | .modUpdate => "mod_update"
  | .pluginClean => "plugin_clean"
  | .fileCreate => "file_create"
  | .fileModify => "file_modify"
  | .fileDelete => "file_delete"
  | .fileRename => "file_rename"

/-- `OperationType(operation_type)`, or `FILE_MODIFY` when it raises. -/
def OperationType.deTexto (texto : String) : OperationType :=
  ([.modInstall, .modUninstall, .modUpdate, .pluginClean, .fileCreate, .fileModify, .fileDelete,
    .fileRename].find? fun type => OperationType.value type = texto).getD .fileModify

theorem OperationType.deTexto_value (type : OperationType) :
    OperationType.deTexto type.value = type := by
  cases type <;> decide

/-- The fields of `StagingJournal`. -/
structure Staging where
  stagedTxId : Option Nat
  stagedCommit : Bool
  deriving DecidableEq

/-- `anota` is what the call writes on the `StagingJournal` once the operation
    it awaits has answered. -/
inductive Corrutina where
  | fin (resultado : Except Fallo Respuesta)
  | espera (op : Operacion) (anota : Except Fallo Respuesta → Staging → Staging)
      (sigue : Except Fallo Respuesta → Corrutina)

def Corrutina.pide (op : Operacion) (sigue : Except Fallo Respuesta → Corrutina) : Corrutina :=
  .espera op (fun _ s => s) sigue

def Corrutina.sola (op : Operacion) : Corrutina := .pide op .fin

/-- The `except` of `log_operation`: whatever the mark answers, the first error is re-raised. -/
def compensa (transactionId : Nat) (e : Fallo) : Corrutina :=
  .pide (.markTransactionRolledBack transactionId) fun _ => .fin (.error e)

def logOperation (agentId operationType filePath : String) (details : Option JsonObject) :
    Corrutina :=
  .pide (.beginTransaction ("Legacy operation: " ++ operationType) none) fun
    | .error e => .fin (.error e)
    | .ok (.id txId) =>
      let op : Operation := ⟨agentId, .deTexto operationType, filePath, some txId, none, none, details⟩
      .pide (.beginOperation op) fun
        | .error e => compensa txId e
        | .ok (.id opId) => .pide (.completeOperation opId) fun
          | .error e => compensa txId e
          | .ok _ => .pide (.commitTransaction txId) fun
            | .error e => compensa txId e
            | .ok _ => .fin (.ok (.id opId))
        | .ok r => .fin (.ok r)
    | .ok r => .fin (.ok r)

def anotaBegin : Except Fallo Respuesta → Staging → Staging
  | .ok (.id txId), _ => ⟨some txId, false⟩
  | _, s => s

def anotaResuelta : Except Fallo Respuesta → Staging → Staging
  | .ok _, _ => ⟨none, false⟩
  | _, s => s

/-- A call on the `StagingJournal`, which does not delegate the sweep. -/
def Staging.empieza (s : Staging) : Operacion → Option (Staging × Corrutina)
  | .beginTransaction description modId =>
    some (s, .espera (.beginTransaction description modId) anotaBegin .fin)
  | .commitTransaction id =>
    if some id = s.stagedTxId then some ({ s with stagedCommit := true }, .fin (.ok .nada))
    else some (s, .sola (.commitTransaction id))
  | .markTransactionRolledBack id =>
    some (if some id = s.stagedTxId then { s with stagedCommit := false } else s,
      .sola (.markTransactionRolledBack id))
  | .sweepStalePending _ => none
  | op => some (s, .sola op)

def Staging.commitStaged (s : Staging) : Corrutina :=
  match s.stagedTxId, s.stagedCommit with
  | some id, true => .espera (.commitTransaction id) anotaResuelta .fin
  | _, _ => .fin (.ok .nada)

def Staging.rollbackStaged (s : Staging) : Corrutina :=
  match s.stagedTxId with
  | some id => .espera (.markTransactionRolledBack id) anotaResuelta .fin
  | none => .fin (.ok .nada)

inductive Llamada where
  | operacion (op : Operacion)
  | logOperation (agentId operationType filePath : String) (details : Option JsonObject)
  /-- The exit of `transaction()`; `excepcion` is what its body raised. -/
  | saleDeTransaction (id : Nat) (excepcion : Option Fallo)
  | staging (op : Operacion)
  | saleDeTransactionStaging (id : Nat) (excepcion : Option Fallo)
  | commitStaged
  | rollbackStaged

def reanuda (e : Fallo) : Corrutina → Corrutina
  | .espera op anota _ => .espera op anota fun _ => .fin (.error e)
  | .fin _ => .fin (.error e)

/-- What a call does before it first yields. -/
def Llamada.empieza (s : Staging) : Llamada → Option (Staging × Corrutina)
  | .operacion op => some (s, .sola op)
  | .logOperation agentId operationType filePath details =>
    some (s, OperationJournal.logOperation agentId operationType filePath details)
  | .saleDeTransaction id none => some (s, .sola (.commitTransaction id))
  | .saleDeTransaction id (some e) => some (s, reanuda e (.sola (.rollbackTransaction id)))
  | .staging op => s.empieza op
  | .saleDeTransactionStaging id none => s.empieza (.commitTransaction id)
  | .saleDeTransactionStaging id (some e) =>
    (s.empieza (.rollbackTransaction id)).map fun (s, c) => (s, reanuda e c)
  | .commitStaged => some (s, s.commitStaged)
  | .rollbackStaged => some (s, s.rollbackStaged)

/-- The default of `max_age_hours`. -/
def veinticuatroHoras : Int := 24 * 3600

/-- `close()` and `open()`. What was not committed is gone, the schema and its
    migration find nothing to do, and the sweep of `open()` is best-effort. -/
def Journal.reabre (j : Journal) (now : Int) (averia : Averia) : Journal :=
  (sweepStalePending veinticuatroHoras now averia
    { j with conn := j.conn.rollback, currentTransaction := none }).2

structure Sistema where
  journal : Journal
  staging : Staging
  tareas : List Corrutina

inductive Evento where
  | llama (l : Llamada)
  | avanza (k : Nat) (now : Int) (averia : Averia)
  | reabre (now : Int) (averia : Averia)

def paso (clave : String → String) (s : Sistema) : Evento → Option Sistema
  | .llama l => (l.empieza s.staging).map fun (staging, c) =>
    { s with staging := staging, tareas := s.tareas ++ [c] }
  | .avanza k now averia =>
    match s.tareas[k]? with
    | some (.espera op anota sigue) =>
      let (r, journal) := op.corre clave now averia s.journal
      some ⟨journal, anota r s.staging, s.tareas.set k (sigue r)⟩
    | _ => none
  | .reabre now averia => some { s with journal := s.journal.reabre now averia }

/-! Runs -/

/-- A journal that has just been opened, over whatever database there was. -/
def Inicial (s : Sistema) : Prop := s.journal.conn.Clean ∧ s.staging = ⟨none, false⟩ ∧ s.tareas = []

/-- Steps that run only operations allowed by the durable copy. -/
def Permite (allowed : JournalDB → Operacion → Prop) (s : Sistema) : Evento → Prop
  | .avanza k _ _ =>
    match s.tareas[k]? with
    | some (.espera op _ _) => allowed s.journal.conn.durable op
    | _ => True
  | _ => True

/-- A preorder that every allowed operation extends. -/
structure Regla (clave : String → String) (R : JournalDB → JournalDB → Prop)
    (allowed : JournalDB → Operacion → Prop) : Prop where
  refl : ∀ db, R db db
  trans : ∀ {a b c}, R a b → R b c → R a c
  barre : ∀ base maxAge, allowed base (.sweepStalePending maxAge)
  transforma : ∀ {base db db' op now}, allowed base op → R base db →
    Transforma clave now op db db' → R base db'

namespace Regla
variable {clave : String → String} {R : JournalDB → JournalDB → Prop}
  {allowed : JournalDB → Operacion → Prop}

/-- The copies after an operation, when the working copy follows the durable one. -/
theorem corre (rule : Regla clave R allowed) {op : Operacion} {now : Int} {averia : Averia}
    {j : Journal} (ok : allowed j.conn.durable op) (coherent : R j.conn.durable j.conn.working) :
    let c := (op.corre clave now averia j).2.conn
    R j.conn.durable c.durable ∧ R c.durable c.working := by
  have after := @corre_transforma clave op now averia j
  dsimp only at after ⊢
  rcases after with ⟨durable, reverted | transformed⟩ | ⟨durable, transformed⟩
  · rw [durable, reverted]
    exact ⟨rule.refl _, rule.refl _⟩
  · rw [durable]
    exact ⟨rule.refl _, rule.transforma ok coherent transformed⟩
  · rw [durable]
    exact ⟨rule.transforma ok coherent transformed, rule.refl _⟩

theorem paso (rule : Regla clave R allowed) {s t : Sistema} {e : Evento}
    (coherent : R s.journal.conn.durable s.journal.conn.working) (ok : Permite allowed s e)
    (moved : paso clave s e = some t) :
    R s.journal.conn.durable t.journal.conn.durable ∧
      R t.journal.conn.durable t.journal.conn.working := by
  cases e with
  | llama l =>
    obtain ⟨⟨staging, c⟩, -, rfl⟩ := Option.map_eq_some_iff.mp moved
    exact ⟨rule.refl _, coherent⟩
  | avanza k now averia =>
    simp only [OperationJournal.paso] at moved
    split at moved
    · rename_i op anota sigue at_k
      cases moved
      simp only [Permite, at_k] at ok
      exact rule.corre ok coherent
    · cases moved
  | reabre now averia =>
    cases moved
    exact @Regla.corre clave R allowed rule (.sweepStalePending veinticuatroHoras) now averia
      { s.journal with conn := s.journal.conn.rollback, currentTransaction := none }
      (rule.barre _ _) (rule.refl _)

theorem coherente (rule : Regla clave R allowed) {s : Sistema}
    (reached : TransitionRuns.Reaches (OperationJournal.paso clave) Inicial (Permite allowed) s) :
    R s.journal.conn.durable s.journal.conn.working := by
  induction reached with
  | start opened =>
    rw [opened.1]
    exact rule.refl _
  | next before ok moved ih => exact (rule.paso ih ok moved).2

theorem alcanza (rule : Regla clave R allowed) {s t : Sistema}
    (coherent : R s.journal.conn.durable s.journal.conn.working)
    (later : TransitionRuns.Reaches (OperationJournal.paso clave) (· = s) (Permite allowed) t) :
    R s.journal.conn.durable t.journal.conn.durable ∧
      R t.journal.conn.durable t.journal.conn.working := by
  induction later with
  | start same =>
    subst same
    exact ⟨rule.refl _, coherent⟩
  | next before ok moved ih =>
    obtain ⟨kept, coherent'⟩ := ih
    obtain ⟨kept', coherent''⟩ := rule.paso coherent' ok moved
    exact ⟨rule.trans kept kept', coherent''⟩

end Regla

end OperationJournal
