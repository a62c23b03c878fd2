import SkyClaw.ReservedChain
import SkyClaw.TransitionRuns
import SkyClaw.TransitionStore

set_option linter.all false

/-!
The chain of finalized transitions. Whatever is cut, the files under `state/` are
those of a chain with reserved numbers.
-/
namespace TransitionJournal
open JsonText SortedEntries Checks CrashPrograms ReservedChain

/-- The pending document, with its body. -/
abbrev Vigente := Journal × Pendiente

/-- The record is the one of this transition, with the evidence that closed it. -/
structure Cierra (d : Vigente) (e : PostVerifyEvidence) (r : FinalizedTransitionRecord) : Prop where
  transicion : r.transitionId = d.2.transitionId
  operacion : r.operation = d.2.operation
  fuente : r.sourceActivation = d.2.sourceActivation ∧
    r.sourceActivationDigest = d.2.sourceActivationDigest ∧
    r.previousActivationTarget = d.2.sourceActivation
  destino : r.targetGenerationId = d.2.targetGenerationId ∧
    r.targetCloneId = d.2.targetCloneId ∧ r.targetRuntimeSetupId = d.2.targetRuntimeSetupId
  candidato : r.candidateId = d.2.candidateId
  aprobacion : r.approvalScopeDigest = d.2.approvalScopeDigest ∧
    r.consumedApprovalId = d.2.consumedApprovalId ∧ r.consumedApprovalSeq = d.2.consumedApprovalSeq
  evidencia : r.postVerifyEvidenceDigest = e.payloadDigest ∧ r.postVerifiedAtNs = e.verifiedAtNs

def protocolo : Protocol Vigente FinalizedTransitionRecord Texto where
  subject d := d.2.transitionId
  name r := r.transitionId
  number r := r.finalizationSeq
  previous r := r.finalizedFromTransitionId
  closes d r := ∃ e, Ligada d.1 d.2 e ∧ Cierra d e r

abbrev Estado := State Vigente FinalizedTransitionRecord

/-! The history of a chain -/

section
variable {cadena : List FinalizedTransitionRecord}

theorem mem_seqs (numerada : Numbered protocolo cadena) {k : Int} :
    k ∈ cadena.map (·.finalizationSeq) ↔ 1 ≤ k ∧ k ≤ cadena.length := by
  have numeros := numerada.numbers
  rw [← List.mem_reverse, show (cadena.map (·.finalizationSeq)) = cadena.map protocolo.number from rfl,
    numeros, List.mem_map]
  constructor
  · rintro ⟨n, mem, rfl⟩
    have less := List.mem_range.mp mem
    omega
  · rintro ⟨low, high⟩
    exact ⟨(k - 1).toNat, List.mem_range.mpr (by omega), by omega⟩

theorem nodup_seqs (numerada : Numbered protocolo cadena) :
    (cadena.map (·.finalizationSeq)).Nodup := by
  have numeros := numerada.numbers
  rw [← List.nodup_reverse, show (cadena.map (·.finalizationSeq)) = cadena.map protocolo.number from rfl,
    numeros]
  exact List.nodup_range.map fun n m same => by omega

instance : Std.Total porSeq := ⟨fun _ _ => Int.le_total _ _⟩

instance : IsTrans FinalizedTransitionRecord porSeq := ⟨fun _ _ _ => Int.le_trans⟩

theorem pairwise_reverse (numerada : Numbered protocolo cadena) :
    cadena.reverse.Pairwise porSeq := by
  rw [List.pairwise_reverse]
  induction cadena with
  | nil => exact List.Pairwise.nil
  | cons r resto ih =>
    refine List.pairwise_cons.mpr ⟨fun q mem => ?_, ih numerada.2.2⟩
    have dentro := numerada.2.2.number_pos mem
    have propio : r.finalizationSeq = resto.length + 1 := numerada.1
    show q.finalizationSeq ≤ r.finalizationSeq
    have numero : protocolo.number q = q.finalizationSeq := rfl
    omega

/-- The records of a chain in any order are the chain, from the first to the last. -/
theorem encadenar_cadena (numerada : Numbered protocolo cadena)
    (nombres : (cadena.map (·.transitionId)).Nodup) (alguno : cadena ≠ [])
    {registros : List FinalizedTransitionRecord} (perm : registros.Perm cadena) :
    encadenar registros =
      .ok ⟨cadena.reverse, cadena.length + 1, cadena.head?, some 1⟩ := by
  have seqs := perm.map (·.finalizationSeq)
  have ids := perm.map (·.transitionId)
  have mem : ∀ k : Int, k ∈ registros.map (·.finalizationSeq) ↔ 1 ≤ k ∧ k ≤ cadena.length :=
    fun k => seqs.mem_iff.trans (mem_seqs numerada)
  have positiva : 0 < cadena.length := List.length_pos_iff.mpr alguno
  have orden : registros.insertionSort porSeq = cadena.reverse := by
    apply List.Perm.eq_of_pairwise _ (List.pairwise_insertionSort porSeq registros)
      (pairwise_reverse numerada)
      (((List.perm_insertionSort porSeq registros).trans perm).trans cadena.reverse_perm.symm)
    intro r q hr hq le ge
    have r_mem := perm.subset ((List.perm_insertionSort porSeq registros).subset hr)
    have q_mem := List.mem_reverse.mp hq
    exact List.inj_on_of_nodup_map (nodup_seqs numerada) r_mem q_mem (Int.le_antisymm le ge)
  have minimo : (registros.map (·.finalizationSeq)).min? = some 1 :=
    List.min?_eq_some_iff.mpr ⟨(mem 1).mpr (by omega), fun k inside => ((mem k).mp inside).1⟩
  have maximo : (registros.map (·.finalizationSeq)).max? = some (cadena.length : Int) :=
    List.max?_eq_some_iff.mpr ⟨(mem _).mpr (by omega), fun k inside => ((mem k).mp inside).2⟩
  have rango : ∀ k : Int, k ∈ rangoSeqs 1 cadena.length ↔ 1 ≤ k ∧ k ≤ cadena.length := by
    intro k
    simp only [rangoSeqs, List.mem_map, List.mem_range]
    constructor
    · rintro ⟨n, less, rfl⟩
      omega
    · rintro ⟨low, high⟩
      exact ⟨(k - 1).toNat, by omega, by omega⟩
  have previo : ∀ r ∈ cadena.reverse, r.finalizationSeq = 1 ∨
      (cadena.reverse.find? fun previo => previo.finalizationSeq = r.finalizationSeq - 1).any
        (fun previo => some previo.transitionId = r.finalizedFromTransitionId) := by
    intro r inside
    rcases numerada.predecessor (List.mem_reverse.mp inside) with ⟨first, -⟩ | ⟨q, q_mem, next, names⟩
    · exact .inl first
    · right
      have siguiente : r.finalizationSeq = q.finalizationSeq + 1 := next
      cases hallado : cadena.reverse.find? fun previo =>
          decide (previo.finalizationSeq = r.finalizationSeq - 1) with
      | none =>
        have nadie := List.find?_eq_none.mp hallado q (List.mem_reverse.mpr q_mem)
        simp [siguiente] at nadie
      | some x =>
        have x_mem := List.mem_reverse.mp (List.mem_of_find?_eq_some hallado)
        have numero : x.finalizationSeq = q.finalizationSeq := by
          have test := List.find?_some hallado
          simp only [decide_eq_true_eq] at test
          omega
        obtain rfl : x = q := List.inj_on_of_nodup_map (nodup_seqs numerada) x_mem q_mem numero
        exact decide_eq_true names.symm
  have rangoEntero : (∀ s ∈ registros.map (·.finalizationSeq), s ∈ rangoSeqs 1 cadena.length) ∧
      ∀ s ∈ rangoSeqs 1 cadena.length, s ∈ registros.map (·.finalizationSeq) :=
    ⟨fun k inside => (rango k).mpr ((mem k).mp inside),
      fun k inside => (mem k).mpr ((rango k).mp inside)⟩
  have ultimo : cadena.reverse.getLast? = cadena.head? := List.getLast?_reverse
  simp only [encadenar, bind_ok, require_ok, pure_ok, exists_const, minimo, maximo,
    Option.getD_some, orden, ultimo]
  exact ⟨seqs.nodup_iff.mpr (nodup_seqs numerada), ids.nodup_iff.mpr nombres, rangoEntero, previo,
    trivial⟩

/-- What `derivar_historial_finalizados` makes of a chain. -/
def historialDe (cadena : List FinalizedTransitionRecord) : HistorialFinalizado :=
  if cadena = [] then historialVacio
  else ⟨cadena.reverse, cadena.length + 1, cadena.head?, some 1⟩

theorem historialDe_registros : (historialDe cadena).registros = cadena.reverse := by
  unfold historialDe
  split
  · next vacia =>
    subst vacia
    rfl
  · rfl

theorem historialDe_latest : (historialDe cadena).latest = cadena.head? := by
  unfold historialDe
  split
  · next vacia =>
    subst vacia
    rfl
  · rfl

theorem historialDe_nextSeq : (historialDe cadena).nextSeq = cadena.length + 1 := by
  unfold historialDe
  split
  · next vacia =>
    subst vacia
    rfl
  · rfl

end

/-! Files -/

theorem ordered_opcional (t : Option Texto) : Ordered (opcional t) := by
  cases t <;> simp [opcional, Ordered]

theorem ordered_serializarSource (s : SourceActivation) : Ordered (serializarSource s) :=
  ordered_record (by simp [ordered_opcional])

theorem ordered_serializarEvidence (e : EvidenceDigests) : Ordered (serializarEvidence e) :=
  ordered_record (by simp [Ordered])

theorem ordered_serializarJournal (doc : Journal) : Ordered (serializarJournal doc) := by
  unfold serializarJournal
  split
  · exact ordered_record (by simp [camposNone, Ordered, ordered_opcional])
  · exact ordered_record (by simp [camposPending, Ordered, ordered_opcional,
      ordered_serializarSource, ordered_serializarEvidence])

theorem ordered_serializarRegistro (r : FinalizedTransitionRecord) :
    Ordered (serializarRegistro r) :=
  ordered_record (by simp [camposRecord, Ordered, ordered_opcional, ordered_serializarSource])

theorem ordered_serializarReserva (r : SeqReservation) : Ordered (serializarReserva r) :=
  ordered_record (by simp [camposReservation, Ordered])

theorem leerJsonEstricto_bytesDe {payload : Json} {raw : Bytes} (ordered : Ordered payload)
    (objeto : ∃ members, payload = .obj members) (escrito : bytesDe payload = .ok raw) :
    leerJsonEstricto raw = .ok payload := by
  obtain ⟨members, rfl⟩ := objeto
  rw [leerJsonEstricto, loads_dumps ordered (present_ok.mp escrito)]

theorem bytesDe_ne_nil {payload : Json} {raw : Bytes} (escrito : bytesDe payload = .ok raw) :
    raw ≠ [] := dumps_ne_nil (present_ok.mp escrito)

/-- A document that was written: its bytes, and that its own parser takes it. -/
def bytesRegistro (r : FinalizedTransitionRecord) : Bytes :=
  (dumps (indented 2) (serializarRegistro r)).getD []

def archivoRegistro (r : FinalizedTransitionRecord) : Texto × Bytes :=
  (r.transitionId, bytesRegistro r)

def archivoReserva (v : SeqReservation) : Texto × Bytes :=
  (nombreSeq v.finalizationSeq, (dumps (indented 2) (serializarReserva v)).getD [])

section
variable {sha256 : Bytes → Texto} {rootId : Texto}

theorem leerRegistro_archivo {r : FinalizedTransitionRecord} (valido : r.Valido sha256)
    (escrito : bytesDe (serializarRegistro r) = .ok (archivoRegistro r).2) :
    leerRegistro sha256 (archivoRegistro r) = .ok r := by
  have leido := leerJsonEstricto_bytesDe (ordered_serializarRegistro r) ⟨_, rfl⟩ escrito
  simp only [leerRegistro, bind_ok, leido]
  exact ⟨_, rfl, validarRegistro_ok.mpr ⟨valido, rfl, rfl⟩⟩

theorem leerReserva_archivo {v : SeqReservation} (valida : v.Valida rootId)
    (escrita : bytesDe (serializarReserva v) = .ok (archivoReserva v).2) :
    leerReserva rootId (archivoReserva v) = .ok v := by
  have leido := leerJsonEstricto_bytesDe (ordered_serializarReserva v) ⟨_, rfl⟩ escrita
  simp only [leerReserva, bind_ok, leido]
  exact ⟨_, rfl, validarReserva_ok.mpr ⟨valida, rfl, rfl⟩⟩

/-- The reservations of a state: those of its records, and one for the pending document. -/
def reservasDe (rootId : Texto) (s : Estado) : List SeqReservation :=
  (if s.reserved then
    s.pending.toList.map fun d => ⟨rootId, s.chain.length + 1, d.2.transitionId⟩ else []) ++
  s.chain.map fun r => ⟨rootId, r.finalizationSeq, r.transitionId⟩

/-- What the journal in force says of the state. -/
def Dice (snapshot : Option Journal) (s : Estado) : Prop :=
  match snapshot with
  | none => s.pending = none ∧ s.chain = []
  | some doc => match doc.cuerpo with
    | .none testigo => s.pending = none ∧ s.chain ≠ [] ∧
        testigo = s.chain.head?.map (·.transitionId)
    | .pendiente p => s.pending = some (doc, p)

/-- The files are those of the state, each one as its own parser takes it. -/
structure Representa (sha256 : Bytes → Texto) (rootId : Texto) (a : Almacen) (s : Estado) :
    Prop where
  sound : Sound protocolo s
  journal : ∃ snapshot : Option Journal, Dice snapshot s ∧ match snapshot with
    | none => a.transition = none
    | some doc => doc.Valido sha256 ∧ ∃ raw, bytesDe (serializarJournal doc) = .ok raw ∧
        a.transition = some raw
  registros : (publicados (a.transitions.getD [])).Perm (s.chain.map archivoRegistro)
  validos : ∀ r ∈ s.chain, r.Valido sha256 ∧
    bytesDe (serializarRegistro r) = .ok (archivoRegistro r).2
  reservas : (publicados (a.finalizationSeqs.getD [])).Perm
    ((reservasDe rootId s).map archivoReserva)
  validas : ∀ v ∈ reservasDe rootId s, v.Valida rootId ∧
    bytesDe (serializarReserva v) = .ok (archivoReserva v).2
  ordenados : Ascending (a.transitions.getD []) ∧ Ascending (a.finalizationSeqs.getD [])
  directorios : s.pending ≠ none → a.transitions.isSome ∧ a.finalizationSeqs.isSome

variable {a : Almacen} {s : Estado}

theorem Representa.cargar (representa : Representa sha256 rootId a s) :
    ∃ snapshot, cargarJournalTransicion sha256 a = .ok snapshot ∧ Dice snapshot s := by
  obtain ⟨snapshot, dice, escrito⟩ := representa.journal
  refine ⟨snapshot, ?_, dice⟩
  cases snapshot with
  | none => rw [cargarJournalTransicion, escrito]
  | some doc =>
    obtain ⟨valido, raw, bytes, archivo⟩ := escrito
    have objeto : ∃ members, serializarJournal doc = .obj members := by
      unfold serializarJournal
      split <;> exact ⟨_, rfl⟩
    have leido := leerJsonEstricto_bytesDe (ordered_serializarJournal doc) objeto bytes
    simp only [cargarJournalTransicion, archivo, bind_ok, leido, pure_ok, Option.some.injEq,
      exists_eq_right]
    exact ⟨_, rfl, parsearJournal_ok.mpr ⟨valido, rfl⟩⟩

theorem Representa.derivar (representa : Representa sha256 rootId a s)
    (existe : a.transitions.isSome) :
    derivarHistorialFinalizados sha256 a = .ok (historialDe s.chain) := by
  obtain ⟨archivos, dir⟩ := Option.isSome_iff_exists.mp existe
  have perm := representa.registros
  rw [dir, Option.getD_some] at perm
  obtain ⟨registros, leidos, order⟩ := mapM_perm perm fun r mem =>
    leerRegistro_archivo (representa.validos r mem).1 (representa.validos r mem).2
  simp only [derivarHistorialFinalizados, dir, bind_ok]
  refine ⟨registros, leidos, ?_⟩
  unfold historialDe
  by_cases vacia : s.chain = []
  · rw [vacia] at order
    rw [if_pos order.eq_nil, if_pos vacia]
    rfl
  · have alguno : registros ≠ [] := by
      rintro rfl
      exact vacia order.nil_eq.symm
    rw [if_neg alguno, if_neg vacia, encadenar_cadena representa.sound.numbered
      representa.sound.names vacia order]

theorem mem_reservasDe {v : SeqReservation} :
    v ∈ reservasDe rootId s ↔
      (s.reserved = true ∧ ∃ d, s.pending = some d ∧
        v = ⟨rootId, s.chain.length + 1, d.2.transitionId⟩) ∨
      ∃ r ∈ s.chain, v = ⟨rootId, r.finalizationSeq, r.transitionId⟩ := by
  unfold reservasDe
  cases s.reserved <;> cases s.pending <;> simp [eq_comm]

/-- The audit passes, and what it finds without a record is the reservation of the pending one. -/
theorem Representa.auditar (representa : Representa sha256 rootId a s)
    (existe : a.finalizationSeqs.isSome) :
    ∃ auditoria, auditarReservasFinalizacion rootId a (historialDe s.chain) = .ok auditoria ∧
      auditoria.reservas.Perm (reservasDe rootId s) ∧
      (auditoria.huerfanas = [] → s.reserved = false) := by
  obtain ⟨archivos, dir⟩ := Option.isSome_iff_exists.mp existe
  have numerada := representa.sound.numbered
  have perm := representa.reservas
  rw [dir, Option.getD_some] at perm
  obtain ⟨reservas, leidas, order⟩ := mapM_perm perm fun v mem =>
    leerReserva_archivo (representa.validas v mem).1 (representa.validas v mem).2
  have propia : ∀ v ∈ reservas, ∀ r ∈ (historialDe s.chain).registros,
      r.finalizationSeq = v.finalizationSeq → r.transitionId = v.transitionId := by
    intro v hv r hr same
    rw [historialDe_registros, List.mem_reverse] at hr
    rcases mem_reservasDe.mp (order.subset hv) with ⟨-, d, -, rfl⟩ | ⟨q, hq, rfl⟩
    · have dentro := ((mem_seqs numerada).mp (List.mem_map_of_mem hr)).2
      simp only at same
      omega
    · rw [List.inj_on_of_nodup_map (nodup_seqs numerada) hr hq same]
  have cubiertos : ∀ r ∈ (historialDe s.chain).registros, ∃ v ∈ reservas,
      v.finalizationSeq = r.finalizationSeq ∧ v.transitionId = r.transitionId := by
    intro r hr
    rw [historialDe_registros, List.mem_reverse] at hr
    exact ⟨_, order.mem_iff.mpr (mem_reservasDe.mpr (.inr ⟨r, hr, rfl⟩)), rfl, rfl⟩
  refine ⟨⟨reservas, sinRegistro reservas (historialDe s.chain)⟩, ?_, order, fun ninguna => ?_⟩
  · simp only [auditarReservasFinalizacion, dir, bind_ok, require_ok, pure_ok, exists_const]
    exact ⟨reservas, leidas, propia, cubiertos, rfl⟩
  · cases reservada : s.reserved with
    | false => rfl
    | true =>
      obtain ⟨d, pending, -⟩ := representa.sound.reserved reservada
      have dentro : (⟨rootId, s.chain.length + 1, d.2.transitionId⟩ : SeqReservation) ∈ reservas :=
        order.mem_iff.mpr (mem_reservasDe.mpr (.inl ⟨reservada, d, pending, rfl⟩))
      have fuera : (s.chain.length : Int) + 1 ∉
          (historialDe s.chain).registros.map (·.finalizationSeq) := by
        rw [historialDe_registros, List.map_reverse, List.mem_reverse, mem_seqs numerada]
        omega
      simp only [sinRegistro, List.map_eq_nil_iff, List.filter_eq_nil_iff] at ninguna
      exact absurd (decide_eq_true fuera) (ninguna _ dentro)

/-! Writes -/

/-- There is no document under the name yet. -/
def Libre (dir : List (Texto × Bytes)) (k : Texto) : Prop := ∀ raw, find dir k = some raw → raw = []

/-- A file that is created empty is no document. -/
theorem publicados_placeholder {dir : List (Texto × Bytes)} {k : Texto} (libre : Libre dir k)
    (ascending : Ascending dir) : (publicados (put k [] dir)).Perm (publicados dir) :=
  filter_put_perm (p := fun raw => !raw.isEmpty) ascending fun raw found => by simp [libre raw found]

theorem publicados_put {dir : List (Texto × Bytes)} {k : Texto} {raw : Bytes} (lleno : raw ≠ [])
    (libre : Libre dir k) (ascending : Ascending dir) :
    (publicados (put k raw dir)).Perm ((k, raw) :: publicados dir) := by
  have perm := @filter_put_perm _ _ _ _ ascending k raw (fun raw => !raw.isEmpty)
    fun raw found => by simp [libre raw found]
  simpa [publicados, lleno] using perm

theorem nombreSeq_injective {k l : Int} (same : nombreSeq k = nombreSeq l) : k = l := by
  have numerales := toCodePoints_inj.mp same
  have leido := FlatJson.readNumber_writeNumber k (d := ' ') [] (by decide)
  rw [numerales, FlatJson.readNumber_writeNumber l [] (by decide)] at leido
  exact (congrArg Prod.fst (Option.some.inj leido)).symm

theorem Representa.escribeJournal (representa : Representa sha256 rootId a s) {t : Estado}
    {doc : Journal} {raw : Bytes} (sound : Sound protocolo t) (cadena : t.chain = s.chain)
    (reservas : reservasDe rootId t = reservasDe rootId s) (dice : Dice (some doc) t)
    (directorios : t.pending ≠ none → a.transitions.isSome ∧ a.finalizationSeqs.isSome)
    (valido : doc.Valido sha256) (bytes : bytesDe (serializarJournal doc) = .ok raw) :
    Representa sha256 rootId { a with transition := some raw } t where
  sound := sound
  journal := ⟨some doc, dice, valido, raw, bytes, rfl⟩
  registros := cadena ▸ representa.registros
  validos := cadena ▸ representa.validos
  reservas := reservas ▸ representa.reservas
  validas := reservas ▸ representa.validas
  ordenados := representa.ordenados
  directorios := directorios

theorem Representa.placeholderReserva (representa : Representa sha256 rootId a s)
    {dir : List (Texto × Bytes)} (existe : a.finalizationSeqs = some dir) {k : Texto}
    (libre : Libre dir k) :
    Representa sha256 rootId
      { a with finalizationSeqs := a.finalizationSeqs.map (put k []) } s where
  sound := representa.sound
  journal := representa.journal
  registros := representa.registros
  validos := representa.validos
  reservas := by
    have perm := representa.reservas
    have orden := representa.ordenados.2
    simp only [existe, Option.getD_some, Option.map_some] at perm orden ⊢
    exact (publicados_placeholder libre orden).trans perm
  validas := representa.validas
  ordenados := by
    have orden := representa.ordenados
    simp only [existe, Option.getD_some, Option.map_some] at orden ⊢
    exact ⟨orden.1, orden.2.put k []⟩
  directorios := by simpa using representa.directorios

theorem Representa.placeholderRegistro (representa : Representa sha256 rootId a s)
    {dir : List (Texto × Bytes)} (existe : a.transitions = some dir) {k : Texto}
    (libre : Libre dir k) :
    Representa sha256 rootId { a with transitions := a.transitions.map (put k []) } s where
  sound := representa.sound
  journal := representa.journal
  registros := by
    have perm := representa.registros
    have orden := representa.ordenados.1
    simp only [existe, Option.getD_some, Option.map_some] at perm orden ⊢
    exact (publicados_placeholder libre orden).trans perm
  validos := representa.validos
  reservas := representa.reservas
  validas := representa.validas
  ordenados := by
    have orden := representa.ordenados
    simp only [existe, Option.getD_some, Option.map_some] at orden ⊢
    exact ⟨orden.1.put k [], orden.2⟩
  directorios := by simpa using representa.directorios

/-- F1a on a free number. -/
theorem Representa.reserva (representa : Representa sha256 rootId a s) {d : Vigente}
    (pending : s.pending = some d) (fresca : d.2.transitionId ∉ s.chain.map (·.transitionId))
    {dir : List (Texto × Bytes)} (existe : a.finalizationSeqs = some dir)
    (libre : Libre dir (nombreSeq (s.chain.length + 1)))
    (valida : (⟨rootId, s.chain.length + 1, d.2.transitionId⟩ : SeqReservation).Valida rootId)
    {raw : Bytes}
    (bytes : bytesDe (serializarReserva ⟨rootId, s.chain.length + 1, d.2.transitionId⟩) = .ok raw) :
    Representa sha256 rootId
      { a with finalizationSeqs :=
          a.finalizationSeqs.map (put (nombreSeq (s.chain.length + 1)) raw) }
      { s with reserved := true } := by
  have archivada : archivoReserva ⟨rootId, s.chain.length + 1, d.2.transitionId⟩ =
      (nombreSeq (s.chain.length + 1), raw) := by
    rw [archivoReserva, present_ok.mp bytes]
    rfl
  have perm := representa.reservas
  have orden := representa.ordenados
  simp only [existe, Option.getD_some] at perm orden
  have sinReserva : s.reserved = false := by
    cases reservada : s.reserved with
    | false => rfl
    | true =>
      have dentro := perm.mem_iff.mpr (List.mem_map_of_mem
        (mem_reservasDe.mpr (.inl ⟨reservada, d, pending, rfl⟩)))
      rw [archivada] at dentro
      have archivo := (List.mem_filter.mp dentro).1
      exact absurd (libre raw ((find_eq_some orden.2).mpr archivo)) (bytesDe_ne_nil bytes)
  have nuevas : reservasDe rootId { s with reserved := true } =
      ⟨rootId, s.chain.length + 1, d.2.transitionId⟩ :: reservasDe rootId s := by
    simp [reservasDe, sinReserva, pending]
  constructor
  · exact (Closing.reserve (P := protocolo) pending fresca).sound representa.sound
  · exact representa.journal
  · exact representa.registros
  · exact representa.validos
  · rw [nuevas, List.map_cons, archivada]
    simp only [existe, Option.map_some, Option.getD_some]
    exact (publicados_put (bytesDe_ne_nil bytes) libre orden.2).trans (perm.cons _)
  · rw [nuevas]
    intro v mem
    rcases List.mem_cons.mp mem with rfl | mem
    · exact ⟨valida, by rw [archivada]; exact bytes⟩
    · exact representa.validas v mem
  · simp only [existe, Option.map_some, Option.getD_some]
    exact ⟨orden.1, orden.2.put _ _⟩
  · simpa using representa.directorios

/-- A number that is taken by the pending transition is its reservation. -/
theorem Representa.reservada (representa : Representa sha256 rootId a s)
    {dir : List (Texto × Bytes)} (existe : a.finalizationSeqs = some dir) {raw : Bytes}
    (ocupada : find dir (nombreSeq (s.chain.length + 1)) = some raw) (lleno : raw ≠ []) :
    s.reserved = true := by
  have perm := representa.reservas
  have orden := representa.ordenados.2
  simp only [existe, Option.getD_some] at perm orden
  have dentro : (nombreSeq (s.chain.length + 1), raw) ∈ publicados dir :=
    List.mem_filter.mpr ⟨(find_eq_some orden).mp ocupada, by simpa using lleno⟩
  obtain ⟨v, mem, archivada⟩ := List.mem_map.mp (perm.subset dentro)
  have numero : v.finalizationSeq = s.chain.length + 1 :=
    nombreSeq_injective (congrArg Prod.fst archivada)
  rcases mem_reservasDe.mp mem with ⟨reservada, -⟩ | ⟨r, inside, rfl⟩
  · exact reservada
  · have dentro := ((mem_seqs representa.sound.numbered).mp (List.mem_map_of_mem inside)).2
    simp only at numero
    omega

/-- F1b on a transition without a record. -/
theorem Representa.publica (representa : Representa sha256 rootId a s) {d : Vigente}
    {r : FinalizedTransitionRecord} (pending : s.pending = some d) (reservada : s.reserved = true)
    (publica : Closing protocolo s { s with chain := r :: s.chain, reserved := false })
    (propio : r.transitionId = d.2.transitionId) (numero : r.finalizationSeq = s.chain.length + 1)
    (valido : r.Valido sha256) {dir : List (Texto × Bytes)} (existe : a.transitions = some dir)
    (libre : Libre dir r.transitionId) {raw : Bytes}
    (bytes : bytesDe (serializarRegistro r) = .ok raw) :
    Representa sha256 rootId
      { a with transitions := a.transitions.map (put r.transitionId raw) }
      { s with chain := r :: s.chain, reserved := false } := by
  have archivado : archivoRegistro r = (r.transitionId, raw) := by
    rw [archivoRegistro, bytesRegistro, present_ok.mp bytes]
    rfl
  have perm := representa.registros
  have orden := representa.ordenados
  simp only [existe, Option.getD_some] at perm orden
  have mismas : reservasDe rootId { s with chain := r :: s.chain, reserved := false } =
      reservasDe rootId s := by
    simp [reservasDe, reservada, pending, propio, numero]
  constructor
  · exact publica.sound representa.sound
  · obtain ⟨snapshot, dice, escrito⟩ := representa.journal
    refine ⟨snapshot, ?_, escrito⟩
    cases snapshot with
    | none =>
      rw [dice.1] at pending
      cases pending
    | some doc =>
      simp only [Dice] at dice ⊢
      split at dice
      · rw [dice.1] at pending
        cases pending
      · exact dice
  · rw [List.map_cons, archivado]
    simp only [existe, Option.map_some, Option.getD_some]
    exact (publicados_put (bytesDe_ne_nil bytes) libre orden.1).trans (perm.cons _)
  · intro q mem
    rcases List.mem_cons.mp mem with rfl | mem
    · exact ⟨valido, by rw [archivado]; exact bytes⟩
    · exact representa.validos q mem
  · exact mismas ▸ representa.reservas
  · exact mismas ▸ representa.validas
  · simp only [existe, Option.map_some, Option.getD_some]
    exact ⟨orden.1.put _ _, orden.2⟩
  · simpa using representa.directorios

/-- There is no file for a transition without a record, but for a placeholder. -/
theorem Representa.libre (representa : Representa sha256 rootId a s)
    {dir : List (Texto × Bytes)} (existe : a.transitions = some dir) {k : Texto}
    (fresca : k ∉ s.chain.map (·.transitionId)) : Libre dir k := by
  intro raw hallado
  by_contra lleno
  have perm := representa.registros
  have orden := representa.ordenados.1
  simp only [existe, Option.getD_some] at perm orden
  have dentro : (k, raw) ∈ publicados dir :=
    List.mem_filter.mpr ⟨(find_eq_some orden).mp hallado, by simpa using lleno⟩
  obtain ⟨r, mem, archivado⟩ := List.mem_map.mp (perm.subset dentro)
  exact fresca (List.mem_map.mpr ⟨r, mem, congrArg Prod.fst archivado⟩)

end

end TransitionJournal
