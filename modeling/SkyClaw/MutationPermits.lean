import SkyClaw.ProtectionJournalStore

set_option linter.all false

/-!
The permits of `record_node_mutation_intent`, over the runs of one operation: the
transaction and its nodes are two machines over one log.
-/
namespace MutationPermits
open TransitionRuns ProtectionJournal ProtectionJournalStore

/-- The node of a record, when it is one of this path. -/
def delNodo (path : String) : JournalRecord → Option JournalNodeRecord
  | .node record => if record.relativePath = path then some record else none
  | _ => none

def historial (path : String) (records : List JournalRecord) : List JournalNodeRecord :=
  records.filterMap (delNodo path)

def identidad (record : JournalNodeRecord) : Nat × Nat × String :=
  (record.volumeSerialNumber, record.fileId, record.preSdSha256)

/-- Started at most once, completed at most once and after that, with one identity. -/
inductive UnaVez : List JournalNodeRecord → Prop where
  | sinIniciar : UnaVez []
  | iniciado (a : JournalNodeRecord) (starts : a.state = .mutating) : UnaVez [a]
  | completado (a b : JournalNodeRecord) (starts : a.state = .mutating) (ends : b.state = .mutated)
      (same : identidad a = identidad b) : UnaVez [a, b]

section
variable (plan : AuthorizedPlan)

/-- The record in the `WalMutationPermit` that a call returns. -/
def permiso (s : Sistema) : Evento → Option JournalNodeRecord
  | .llama (.recordNodeMutationIntent binding) .ninguno =>
    match s.objeto with
    | none => none
    | some o =>
      match o.recordNodeMutationIntent plan binding with
      | .ok (.node record) =>
        match replayJournalRecords (o.records ++ [.node record]) with
        | .ok _ => some record
        | .error _ => none
      | _ => none
  | _ => none

/-- `permisos` are those of every object of the operation so far. -/
structure Operacion where
  sistema : Sistema
  permisos : List JournalNodeRecord

def Operacion.inicial : Operacion := ⟨.inicial, []⟩

variable (json : Json) (uuid : String → Option String)

def Operacion.step (op : Operacion) (e : Evento) : Option Operacion :=
  (ProtectionJournalStore.step json uuid plan op.sistema e).map fun t =>
    ⟨t, (permiso plan op.sistema e).toList ++ op.permisos⟩

end

/-! Replay -/

/-- What the replay has of a node is what its records say. -/
def Sigue (r : Reproduccion) (seen : List JournalRecord) (path : String) : Prop :=
  match r.nodeStates path with
  | none => historial path seen = [] ∧ r.nodeIdentities path = none
  | some .mutating => ∃ a, historial path seen = [a] ∧ a.state = .mutating ∧
      r.nodeIdentities path = some (identidad a)
  | some .mutated => ∃ a b, historial path seen = [a, b] ∧ a.state = .mutating ∧
      b.state = .mutated ∧ identidad a = identidad b

theorem Sigue.unaVez {r : Reproduccion} {seen : List JournalRecord} {path : String}
    (sigue : Sigue r seen path) : UnaVez (historial path seen) := by
  unfold Sigue at sigue
  split at sigue
  · rw [sigue.1]
    exact .sinIniciar
  · obtain ⟨a, same, starts, _⟩ := sigue
    rw [same]
    exact .iniciado a starts
  · obtain ⟨a, b, same, starts, ends, identity⟩ := sigue
    rw [same]
    exact .completado a b starts ends identity

theorem historial_agrega (path : String) (seen : List JournalRecord) (record : JournalRecord) :
    historial path (seen ++ [record]) = historial path seen ++ (delNodo path record).toList := by
  rw [historial, List.filterMap_append]
  cases other : delNodo path record with
  | none => simp [historial, other]
  | some n => simp [historial, other]

/-- A record that is not of the path leaves what is known of it. -/
theorem Sigue.ajeno {r q : Reproduccion} {seen : List JournalRecord} {path : String}
    {record : JournalRecord} (sigue : Sigue r seen path) (other : delNodo path record = none)
    (states : q.nodeStates path = r.nodeStates path)
    (identities : q.nodeIdentities path = r.nodeIdentities path) :
    Sigue q (seen ++ [record]) path := by
  unfold Sigue at sigue ⊢
  rw [states, identities, historial_agrega, other]
  simpa using sigue

theorem Sigue.transaction {r q : Reproduccion} {seen : List JournalRecord} {path : String}
    {record : JournalTransactionRecord} (sigue : Sigue r seen path)
    (ran : r.transaction record.state = .ok q) : Sigue q (seen ++ [.transaction record]) path := by
  unfold Reproduccion.transaction at ran
  split at ran
  · obtain rfl := Except.ok.inj ran
    exact sigue.ajeno rfl rfl rfl
  · cases checked : assertTransactionTransition r.transactionState record.state with
    | error e => simp [checked, Except.map] at ran
    | ok u =>
      simp only [checked, Except.map, Except.ok.injEq] at ran
      subst ran
      exact sigue.ajeno rfl rfl rfl

theorem assertNodeTransition_ok {current : Option NodeWalState} {target : NodeWalState}
    {path : String} {u : Unit} (ok : assertNodeTransition current target path = .ok u) :
    (current = none ∧ target = .mutating) ∨ (current = some .mutating ∧ target = .mutated) := by
  unfold assertNodeTransition at ok
  split at ok
  · next declared =>
    cases current with
    | none => exact .inl ⟨rfl, List.mem_singleton.mp declared⟩
    | some state =>
      cases state with
      | mutating => exact .inr ⟨rfl, List.mem_singleton.mp declared⟩
      | mutated => cases declared
  · cases ok

theorem Sigue.node {r q : Reproduccion} {seen : List JournalRecord} {path : String}
    {record : JournalNodeRecord} (sigue : Sigue r seen path) (ran : r.node record = .ok q) :
    Sigue q (seen ++ [JournalRecord.node record]) path := by
  unfold Reproduccion.node at ran
  obtain ⟨_, checked, ran⟩ := ProtectionJournal.bind_ok.mp ran
  split at ran
  · cases ran
  · next steady =>
    obtain rfl := Except.ok.inj ran
    by_cases own : record.relativePath = path
    · subst own
      have added : delNodo record.relativePath (.node record) = some record := if_pos rfl
      unfold Sigue at sigue ⊢
      simp only [Function.update_self, historial_agrega, added, Option.toList_some]
      rcases assertNodeTransition_ok checked with ⟨before, starts⟩ | ⟨before, ends⟩
      · rw [before] at sigue
        rw [starts]
        exact ⟨record, by rw [sigue.1, List.nil_append], starts, rfl⟩
      · rw [before] at sigue
        obtain ⟨a, only, starts, known⟩ := sigue
        rw [ends]
        refine ⟨a, record, by rw [only, List.singleton_append], starts, ends, ?_⟩
        rw [known] at steady
        simpa [identidad] using steady
    · exact sigue.ajeno (if_neg own) (Function.update_of_ne (Ne.symm own) _ _)
        (Function.update_of_ne (Ne.symm own) _ _)

theorem Sigue.paso {r q : Reproduccion} {seen : List JournalRecord} {path : String}
    {record : JournalRecord} (sigue : Sigue r seen path) (ran : r.paso record = .ok q) :
    Sigue q (seen ++ [record]) path := by
  unfold Reproduccion.paso at ran
  split at ran
  · cases ran
  · have advanced : Sigue { r with expectedSequence := r.expectedSequence + 1 } seen path := sigue
    cases record with
    | header h => cases ran
    | transaction t => exact advanced.transaction ran
    | node n => exact advanced.node ran

theorem Sigue.foldlM {r q : Reproduccion} {seen records : List JournalRecord} {path : String}
    (sigue : Sigue r seen path) (ran : records.foldlM Reproduccion.paso r = .ok q) :
    Sigue q (seen ++ records) path := by
  induction records generalizing r seen with
  | nil =>
    obtain rfl := Except.ok.inj ran
    rw [List.append_nil]
    exact sigue
  | cons record records ih =>
    rw [List.foldlM_cons] at ran
    obtain ⟨mid, first, rest⟩ := ProtectionJournal.bind_ok.mp ran
    have all := ih (sigue.paso first) rest
    rwa [List.append_assoc] at all

/-- In what the replay accepts, no node starts twice, whatever the transaction does. -/
theorem replay_unaVez {records : List JournalRecord} {journal : Journal}
    (ran : replayJournalRecords records = .ok journal) (path : String) :
    UnaVez (historial path records) := by
  unfold replayJournalRecords at ran
  split at ran
  · cases ran
  · next header records =>
    split at ran
    · cases ran
    · cases folded : records.foldlM Reproduccion.paso .inicial with
      | error e => simp [folded, Except.map] at ran
      | ok r =>
        have start : Sigue .inicial [.header header] path := ⟨rfl, rfl⟩
        exact (start.foldlM folded).unaVez
  · cases ran

/-! A permit -/

section
variable {json : Json} {uuid : String → Option String} {plan : AuthorizedPlan}

theorem requireBinding_ok {binding expected : NodeMutationBinding}
    (ok : DurableProtectionJournal.requireBinding plan binding = .ok expected) :
    plan.nodes.find? (fun node => node.relativePath = binding.relativePath) = some binding ∧
      expected = binding := by
  unfold DurableProtectionJournal.requireBinding at ok
  split at ok
  · cases ok
  · next node found =>
    have path : node.relativePath = binding.relativePath := by
      simpa using List.find?_some found
    split at ok
    · cases ok
    · next same =>
      obtain rfl := Except.ok.inj ok
      simp only [ne_eq, not_or, not_not] at same
      obtain ⟨volume, fileId, sd⟩ := same
      obtain rfl : binding = node := by
        cases binding
        cases node
        simp_all
      exact ⟨found, rfl⟩

/-- What a node call appends is of the node of the plan that its binding is. -/
theorem nodeRecord_ok {o : DurableProtectionJournal} {binding : NodeMutationBinding}
    {state : NodeWalState} {record : JournalRecord}
    (ok : o.nodeRecord plan binding state = .ok record) :
    plan.nodes.find? (fun node => node.relativePath = binding.relativePath) = some binding ∧
      ∃ n, record = .node n ∧
        buildNode (o.journal.sequence + 1 : Nat) binding.relativePath binding.volumeSerialNumber
          binding.fileId binding.preSdSha256 state = .ok n := by
  obtain ⟨_, _, ok⟩ := ProtectionJournalStore.bind_ok ok
  obtain ⟨expected, bound, ok⟩ := ProtectionJournalStore.bind_ok ok
  obtain ⟨n, built, same⟩ := ProtectionJournalStore.bind_ok ok
  obtain ⟨found, rfl⟩ := requireBinding_ok bound
  obtain ⟨_, _, built⟩ := ProtectionJournal.bind_ok.mp (mapError_ok built)
  exact ⟨found, n, (Except.ok.inj same).symm, built⟩

theorem buildNode_campos {sequence : Int} {path : String} {volume fileId : Nat} {sd : String}
    {state : NodeWalState} {n : JournalNodeRecord}
    (built : buildNode sequence path volume fileId sd state = .ok n) :
    n.relativePath = path ∧ n.volumeSerialNumber = volume ∧ n.fileId = fileId ∧
      validateSha256Hex sd "pre_sd_sha256" = .ok n.preSdSha256 ∧ n.state = state := by
  simp only [buildNode, ProtectionJournal.bind_ok] at built
  obtain ⟨_, _, p, hp, v, hv, f, hf, d, hd, same⟩ := built
  obtain rfl := Except.ok.inj same
  have exact_uint : ∀ {value max : Nat} {field : String} {m : Nat},
      validateUint value field max = .ok m → m = value := by
    intro value max field m ok
    unfold validateUint at ok
    split at ok
    · have same := Except.ok.inj ok
      omega
    · cases ok
  exact ⟨validateRelativePath_ok hp, exact_uint hv, exact_uint hf, hd, rfl⟩

/-- What a permit for `record` tells about the step that returned it. -/
structure ConPermiso (json : Json) (plan : AuthorizedPlan) (s t : Sistema)
    (permisos : List JournalNodeRecord) (e : Evento) (record : JournalNodeRecord) : Prop where
  pedido : ∃ binding, e = .llama (.recordNodeMutationIntent binding) .ninguno ∧
    plan.nodes.find? (fun node => node.relativePath = binding.relativePath) = some binding ∧
    record.relativePath = binding.relativePath ∧
    record.volumeSerialNumber = binding.volumeSerialNumber ∧ record.fileId = binding.fileId ∧
    validateSha256Hex binding.preSdSha256 "pre_sd_sha256" = .ok record.preSdSha256
  mutando : record.state = .mutating
  asentado : ∃ o raw, s.objeto = some o ∧ o.abierto = true ∧ o.durabilityFailed = false ∧
    s.archivo = some raw ∧ t.archivo = some (raw ++ serialize json [JournalRecord.node record]) ∧
    t.firme = (raw ++ serialize json [.node record]).length
  nuevo : ∀ p ∈ permisos, p.relativePath ≠ record.relativePath

theorem permiso_ok {s : Sistema} {e : Evento} {record : JournalNodeRecord}
    (granted : permiso plan s e = some record) :
    ∃ binding o journal, e = .llama (.recordNodeMutationIntent binding) .ninguno ∧
      s.objeto = some o ∧ o.recordNodeMutationIntent plan binding = .ok (.node record) ∧
      replayJournalRecords (o.records ++ [JournalRecord.node record]) = .ok journal := by
  unfold permiso at granted
  split at granted
  · next binding =>
    split at granted
    · cases granted
    · next o current =>
      split at granted
      · next n checked =>
        split at granted
        · next journal replayed =>
          obtain rfl := Option.some.inj granted
          exact ⟨binding, o, journal, rfl, current, checked, replayed⟩
        · cases granted
      · cases granted
  · cases granted

/-- The state after a permit, and the one that was returned: both come from one append. -/
theorem permiso_paso {s t : Sistema} {binding : NodeMutationBinding}
    {o : DurableProtectionJournal} {record : JournalNodeRecord} {journal : Journal}
    (current : s.objeto = some o)
    (checked : o.recordNodeMutationIntent plan binding = .ok (.node record))
    (replayed : replayJournalRecords (o.records ++ [JournalRecord.node record]) = .ok journal)
    (moved : ProtectionJournalStore.step json uuid plan s
      (.llama (.recordNodeMutationIntent binding) .ninguno) = some t) :
    t.archivo = some (s.archivo.getD [] ++ serialize json [JournalRecord.node record]) ∧
      t.firme = (s.archivo.getD [] ++ serialize json [.node record]).length ∧
      t.devueltos = s.devueltos ++ [JournalRecord.node record] ∧
      t.historia = .permiso o.id :: .intento o.id :: s.historia := by
  obtain ⟨_, same, rfl⟩ := Option.map_eq_some_iff.mp moved
  obtain rfl := Option.some.inj (current.symm.trans same)
  have registered : o.registro plan (.recordNodeMutationIntent binding) = .ok (.node record) :=
    checked
  simp only [Sistema.llama, registered, Sistema.appendRecord, replayed, Llamada.esIntencion, if_true,
    and_self]

/-- A call that has returned stays so. -/
theorem devueltos_crece {s t : Sistema} {e : Evento} (coherente : Coherente json uuid s)
    (moved : ProtectionJournalStore.step json uuid plan s e = some t) {r : JournalRecord}
    (mem : r ∈ s.devueltos) : r ∈ t.devueltos := by
  cases e with
  | crea createdAt now fallo =>
    simp only [ProtectionJournalStore.step, Option.ite_none_right_eq_some, Option.some.injEq] at moved
    obtain ⟨_, rfl⟩ := moved
    unfold Sistema.crea
    split
    · exact mem
    · next absent =>
      have missing : s.archivo = none := by simpa using absent
      rw [(coherente.ausente missing).2] at mem
      cases mem
  | abre =>
    simp only [ProtectionJournalStore.step, Option.ite_none_right_eq_some, Option.some.injEq] at moved
    obtain ⟨_, rfl⟩ := moved
    unfold Sistema.abre
    split
    · exact mem
    · split
      · split
        · exact mem
        · exact mem
      · exact mem
  | llama llamada fallo =>
    obtain ⟨o, _, rfl⟩ := Option.map_eq_some_iff.mp moved
    unfold Sistema.llama
    split
    · exact mem
    · unfold Sistema.appendRecord
      cases fallo with
      | append escritos => exact mem
      | flush => exact mem
      | ninguno =>
        dsimp only
        split
        · exact mem
        · exact List.mem_append_left _ mem
  | cierra =>
    obtain ⟨_, _, rfl⟩ := Option.map_eq_some_iff.mp moved
    exact mem
  | caida quedan =>
    simp only [ProtectionJournalStore.step, Option.ite_none_right_eq_some, Option.some.injEq] at moved
    obtain ⟨_, rfl⟩ := moved
    exact mem

structure Operacion.Coherente (json : Json) (uuid : String → Option String) (op : Operacion) :
    Prop where
  sistema : ProtectionJournalStore.Coherente json uuid op.sistema
  permisos : ∀ p ∈ op.permisos, .node p ∈ op.sistema.devueltos

theorem Operacion.Coherente.step {op next : Operacion} {e : Evento}
    (coherente : op.Coherente json uuid) (moved : op.step plan json uuid e = some next) :
    next.Coherente json uuid := by
  obtain ⟨t, ran, rfl⟩ := Option.map_eq_some_iff.mp moved
  constructor
  · exact coherente.sistema.step ran
  · intro p mem
    rcases List.mem_append.mp mem with new | old
    · have granted : permiso plan op.sistema e = some p := by simpa using new
      obtain ⟨binding, o, journal, rfl, current, checked, replayed⟩ := permiso_ok granted
      obtain ⟨_, _, returned, _⟩ := permiso_paso current checked replayed ran
      rw [returned]
      exact List.mem_append_right _ (List.mem_singleton_self _)
    · exact devueltos_crece coherente.sistema ran (coherente.permisos p old)

/-- No node that is already mutating can be the last one to start. -/
theorem unaVez_inicio {records : List JournalRecord} {p record : JournalNodeRecord}
    (once : UnaVez (historial record.relativePath (records ++ [JournalRecord.node record])))
    (starts : record.state = .mutating) (mem : .node p ∈ records) :
    p.relativePath ≠ record.relativePath := by
  intro same
  have before : p ∈ historial record.relativePath records :=
    List.mem_filterMap.mpr ⟨.node p, mem, if_pos same⟩
  have own : delNodo record.relativePath (.node record) = some record := if_pos rfl
  rw [historial_agrega, own, Option.toList_some] at once
  generalize historial record.relativePath records = past at once before
  cases past with
  | nil => cases before
  | cons a past =>
    cases past with
    | nil =>
      cases once with
      | completado _ _ _ ends _ => simp [starts] at ends
    | cons b past => cases past <;> cases once

theorem conPermiso {op : Operacion} {t : Sistema} {e : Evento} {record : JournalNodeRecord}
    (coherente : op.Coherente json uuid)
    (moved : ProtectionJournalStore.step json uuid plan op.sistema e = some t)
    (granted : permiso plan op.sistema e = some record) :
    ConPermiso json plan op.sistema t op.permisos e record := by
  obtain ⟨binding, o, journal, rfl, current, checked, replayed⟩ := permiso_ok granted
  obtain ⟨written, firm, _, _⟩ := permiso_paso current checked replayed moved
  obtain ⟨found, n, same, built⟩ := nodeRecord_ok checked
  obtain rfl := JournalRecord.node.inj same
  obtain ⟨path, volume, fileId, sd, starts⟩ := buildNode_campos built
  have registered : o.registro plan (.recordNodeMutationIntent binding) = .ok (.node record) :=
    checked
  obtain ⟨healthy, open_handle, _⟩ := DurableProtectionJournal.registro_ok uuid registered
  obtain ⟨on_disk, held⟩ := coherente.sistema.vivo o current open_handle healthy
  rw [on_disk, Option.getD_some] at written firm
  constructor
  · exact ⟨binding, rfl, found, path, volume, fileId, sd⟩
  · exact starts
  · exact ⟨o, _, current, open_handle, healthy, on_disk, written, firm⟩
  · intro p mem
    obtain ⟨d, _, returned⟩ := coherente.sistema.confirmados
    have kept : .node p ∈ o.records := by
      rw [held]
      exact List.mem_of_mem_take (returned.subset (coherente.permisos p mem))
    exact unaVez_inicio (replay_unaVez replayed record.relativePath) starts kept

/-- A permit is for a node of the plan whose intention is now durable, and the first one of
that node in the operation; and no accepted sequence of records starts a node twice. -/
theorem permisos_unicos :
    (∀ op, Reaches (Operacion.step plan json uuid) (· = .inicial) (fun _ _ => True) op →
      ∀ e t record, ProtectionJournalStore.step json uuid plan op.sistema e = some t →
        permiso plan op.sistema e = some record →
        ConPermiso json plan op.sistema t op.permisos e record) ∧
    ∀ records journal, replayJournalRecords records = .ok journal →
      ∀ path, UnaVez (historial path records) := by
  constructor
  · intro op reached e t record moved granted
    have coherente : op.Coherente json uuid := reached.invariant
      (by rintro _ rfl; exact ⟨.inicial, nofun⟩) fun _ _ _ before _ moved => before.step moved
    exact conPermiso coherente moved granted
  · exact fun _ _ ran path => replay_unaVez ran path

end

/-! A permit after the rollback -/

def nodoMods : NodeMutationBinding :=
  ⟨"Data", 7, 11, "5a5a5a5a5a5a5a5a5a5a5a5a5a5a5a5a5a5a5a5a5a5a5a5a5a5a5a5a5a5a5a5a"⟩

def planNodo : AuthorizedPlan := { planMods with nodes := [nodoMods] }

def pideNodo : Evento := .llama (.recordNodeMutationIntent nodoMods) .ninguno

def mutando (sequence : Nat) : JournalNodeRecord :=
  ⟨sequence, nodoMods.relativePath, nodoMods.volumeSerialNumber, nodoMods.fileId,
    nodoMods.preSdSha256, .mutating⟩

theorem creado_con_nodo :
    Operacion.step planNodo jsonPlano some .inicial (.crea none fechaMods .ninguno) =
      some ⟨creado, []⟩ := by
  have created : ProtectionJournalStore.step jsonPlano some planNodo .inicial
      (.crea none fechaMods .ninguno) = some creado :=
    congrArg some (crea_inicial header_construido rfl creados_leidos rfl)
  rw [Operacion.step, Operacion.inicial, created]
  rfl

theorem reaches_creado :
    Reaches (Operacion.step planNodo jsonPlano some) (· = .inicial) (fun _ _ => True)
      ⟨creado, []⟩ :=
  .next (.start rfl) trivial creado_con_nodo

/-- The first permit, for the node of the plan. -/
theorem permiso_en_applying :
    ConPermiso jsonPlano planNodo creado
      (creado.llama jsonPlano planNodo (objetoMods 0) (.recordNodeMutationIntent nodoMods) .ninguno)
      [] pideNodo (mutando 3) ∧
    UnaVez (historial "Data" (creados ++ [.node (mutando 3)])) := by
  have granted : permiso planNodo creado pideNodo = some (mutando 3) := by decide +kernel
  have replayed : replayJournalRecords (creados ++ [.node (mutando 3)]) =
      .ok { journalMods .applying 3 with nodeRecords := [mutando 3] } := by decide +kernel
  have permits := @permisos_unicos jsonPlano some planNodo
  exact ⟨permits.1 ⟨creado, []⟩ reaches_creado pideNodo _ _ rfl granted,
    permits.2 _ _ replayed "Data"⟩

/-- A transition whose record is read back moves the object to what the replay gives. -/
theorem transicion_paso (target : ProtectionTransactionState) (record : JournalRecord)
    (journal : Journal) {op : Operacion} {o : DurableProtectionJournal}
    (reached : Reaches (Operacion.step planNodo jsonPlano some) (· = .inicial) (fun _ _ => True) op)
    (current : op.sistema.objeto = some o)
    (checked : o.registro planNodo (.transitionTo target) = .ok record)
    (replayed : replayJournalRecords (o.records ++ [record]) = .ok journal) :
    ∃ t : Operacion, Reaches (Operacion.step planNodo jsonPlano some) (· = .inicial)
        (fun _ _ => True) t ∧
      t.sistema.objeto = some { o with records := o.records ++ [record], journal } := by
  have moved : ∃ t, ProtectionJournalStore.step jsonPlano some planNodo op.sistema
      (.llama (.transitionTo target) .ninguno) = some t ∧
      t.objeto = some { o with records := o.records ++ [record], journal } := by
    simp [ProtectionJournalStore.step, current, Sistema.llama, checked, Sistema.appendRecord,
      replayed]
  obtain ⟨t, moved, object⟩ := moved
  have next : Operacion.step planNodo jsonPlano some op
      (.llama (.transitionTo target) .ninguno) = some ⟨t, op.permisos⟩ := by
    rw [Operacion.step, moved]
    rfl
  exact ⟨⟨t, op.permisos⟩, reached.next trivial next, object⟩

def retroceso : List JournalRecord :=
  [.transaction ⟨3, .rollbackRequired⟩, .transaction ⟨4, .rollingBack⟩,
    .transaction ⟨5, .rolledBack⟩]

/-- Once rolled back the journal still grants a permit, and the replay accepts the record. -/
theorem permiso_en_rolled_back :
    (∃ op o, Reaches (Operacion.step planNodo jsonPlano some) (· = .inicial) (fun _ _ => True) op ∧
      op.sistema.objeto = some o ∧ o.journal.transactionState = .rolledBack ∧
      permiso planNodo op.sistema pideNodo = some (mutando 6)) ∧
    replayJournalRecords (creados ++ retroceso ++ [.node (mutando 6)]) =
      .ok { journalMods .rolledBack 6 with nodeRecords := [mutando 6] } := by
  constructor
  · obtain ⟨t, reached, current⟩ := transicion_paso .rollbackRequired
      (.transaction ⟨3, .rollbackRequired⟩) (journalMods .rollbackRequired 3)
      reaches_creado rfl (by decide +kernel) (by decide +kernel)
    obtain ⟨u, reached, current⟩ := transicion_paso .rollingBack
      (.transaction ⟨4, .rollingBack⟩) (journalMods .rollingBack 4)
      reached current (by decide +kernel) (by decide +kernel)
    obtain ⟨v, reached, current⟩ := transicion_paso .rolledBack
      (.transaction ⟨5, .rolledBack⟩) (journalMods .rolledBack 5)
      reached current (by decide +kernel) (by decide +kernel)
    refine ⟨v, _, reached, current, rfl, ?_⟩
    simp only [permiso, pideNodo, current]
    decide +kernel
  · decide +kernel

end MutationPermits
