import SkyClaw.FinalizedRuns

set_option linter.all false

/-!
An interrupted finalization is completed by the evidence of its record, unless an
UPDATE has moved the journal on from the revision that the evidence names.
-/
namespace TransitionJournal
open JsonText SortedEntries Checks CrashPrograms ReservedChain TransitionRuns

/-! Tasks that end with a value -/

/-- The task returns, and leaves at least this many writes. -/
def Logra {α : Type} (gasto : Nat) (t : Tarea α) (d : Disco) : Prop :=
  ∃ x f, t d = (.value x, f) ∧ d.restantes ≤ f.restantes + gasto

section
variable {α β : Type} {d : Disco} {k l : Nat}

theorem leer_sigue (f : Almacen → Tarea β) :
    (leer >>= f) d = f d.almacen d := rfl

theorem comprueba_sigue {x : Except JournalError α} {v : α} (hay : x = .ok v)
    (f : α → Tarea β) : (Program.lift x >>= f) d = f v d := by
  subst hay
  rfl

theorem escribir_sigue (cambio : Almacen → Almacen) (f : Unit → Tarea β) (a : Almacen)
    (n : Nat) : (escribir cambio >>= f) ⟨a, n + 1⟩ = f () ⟨cambio a, n⟩ := rfl

theorem devuelve_sigue (t : Tarea α) (f : α → β) :
    ((t >>= fun x => pure (f x)) d).2 = (t d).2 := by
  show (Program.bind t _ d).2 = _
  unfold Program.bind
  cases t d with
  | mk resultado g => cases resultado <;> rfl

theorem sigue {t : Tarea α} {v : α} {g : Disco} (corre : t d = (.value v, g))
    (f : α → Tarea β) : (t >>= f) d = f v g := by
  show Program.bind t f d = _
  simp only [Program.bind, corre]

theorem Logra.termina {x : α} : Logra 0 (pure x) d := ⟨x, d, rfl, Nat.le_refl _⟩

theorem Logra.leyendo {f : Almacen → Tarea α} (luego : Logra k (f d.almacen) d) :
    Logra k (leer >>= f) d := luego

theorem Logra.comprueba {x : Except JournalError α} {v : α} {f : α → Tarea β} (hay : x = .ok v)
    (luego : Logra k (f v) d) : Logra k (.lift x >>= f) d := by
  subst hay
  exact luego

theorem Logra.escribe {cambio : Almacen → Almacen} (queda : 1 ≤ d.restantes) :
    Logra 1 (escribir cambio) d := by
  obtain ⟨a, n⟩ := d
  cases n with
  | zero => cases queda
  | succ n => exact ⟨(), ⟨cambio a, n⟩, rfl, Nat.le_refl _⟩

theorem Logra.bind {t : Tarea α} {f : α → Tarea β} (primero : Logra k t d)
    (luego : ∀ x g, t d = (.value x, g) → d.restantes ≤ g.restantes + k → Logra l (f x) g) :
    Logra (k + l) (t >>= f) d := by
  obtain ⟨x, g, corre, quedan⟩ := primero
  obtain ⟨y, h, sigue, restan⟩ := luego x g corre quedan
  refine ⟨y, h, ?_, by omega⟩
  show Program.bind t f d = _
  simp only [Program.bind, corre, sigue]

theorem Logra.afloja {t : Tarea α} (logra : Logra k t d) (menos : k ≤ l) : Logra l t d := by
  obtain ⟨x, f, corre, quedan⟩ := logra
  exact ⟨x, f, corre, by omega⟩

end

/-! What can be written -/

/-- The interpreter writes the number. -/
def Cabe (n : Int) : Prop := (Nat.toDigits 10 n.natAbs).length ≤ maxDigits

instance (n : Int) : Decidable (Cabe n) := inferInstanceAs (Decidable (_ ≤ _))

theorem writable_int {n : Int} : writable (.int n) = true ↔ Cabe n := by
  simp [writable, Cabe]

theorem bytesDe_escribible {payload : Json} (ok : writable payload = true) :
    ∃ raw, bytesDe payload = .ok raw := by
  simp [bytesDe, present, dumps, ok]

theorem escribible_bytesDe {payload : Json} {raw : Bytes} (escrito : bytesDe payload = .ok raw) :
    writable payload = true := by
  have hecho := present_ok.mp escrito
  unfold dumps at hecho
  split at hecho
  · next ok => exact ok
  · cases hecho

theorem escribible_hex {t : Texto} (hex : t.all digitoHex = true) : t.all isScalar = true := by
  rw [List.all_eq_true] at hex ⊢
  intro c mem
  have digito := hex c mem
  cases c with
  | scalar c => rfl
  | surrogate n => cases digito

theorem escribible_uuid {t : Texto} (uuid : UuidV4 t) : t.all isScalar = true := by
  rw [List.all_eq_true]
  intro c mem
  obtain ⟨i, menor, rfl⟩ := List.mem_iff_getElem.mp mem
  have digito := List.all_eq_true.mp uuid.2 (t[i], i) (by simp [List.mem_zipIdx_iff_getElem?, menor])
  cases caso : t[i] with
  | scalar c => rfl
  | surrogate n =>
    have literal : .surrogate n ∉ lit "89ab" := by simp [lit, toCodePoints]
    simp [caso, digitoHex, literal] at digito

section
variable {sha256 : Bytes → Texto} {rootId : Texto} {a : Almacen} {s : Estado} {d : Vigente}
  {e : PostVerifyEvidence} {r : FinalizedTransitionRecord} {sesion : Texto} {reloj n : Nat}

/-- A call that can rotate the journal: the session is one of the lock, no write fails, and the
interpreter writes the numbers. -/
structure Rotable (d : Vigente) (sesion : Texto) (reloj n : Nat) : Prop where
  sesion : TextoValido sesion ∧ UuidV4 sesion
  reloj : Cabe reloj
  revision : Cabe (d.1.journalRevision + 1)
  escrituras : 1 ≤ n

theorem escribirJournal_logra {doc : Journal} (valido : doc.Valido sha256)
    (escribible : writable (serializarJournal doc) = true) {f : Disco} (queda : 1 ≤ f.restantes) :
    Logra 1 (escribirJournal sha256 doc) f := by
  obtain ⟨raw, bytes⟩ := bytesDe_escribible escribible
  exact Logra.comprueba (parsearJournal_ok.mpr ⟨valido, rfl⟩)
    (Logra.comprueba bytes (Logra.escribe queda))

theorem rotar_logra (representa : Representa sha256 rootId a s) (pending : s.pending = some d)
    (propio : r.transitionId = d.2.transitionId) (rotable : Rotable d sesion reloj n) :
    Logra 1 (rotarJournalLocked sha256 r d.1.journalRevision sesion reloj) ⟨a, n⟩ := by
  have vigente := representa.vigente pending
  have uuid : UuidV4 r.transitionId := propio ▸ vigente.2.2.2.transicion.2
  have valido : Journal.Valido sha256
      ⟨d.1.journalRevision + 1, reloj, sesion, .none (some r.transitionId)⟩ := by
    refine ⟨?_, Int.natCast_nonneg _, rotable.sesion, ?_⟩
    · have revision := vigente.2.2.1.revision
      simp only
      omega
    · intro t mem
      obtain rfl := Option.some.inj mem
      exact uuid
  have escribible : writable (serializarJournal
      ⟨d.1.journalRevision + 1, reloj, sesion, .none (some r.transitionId)⟩) = true := by
    apply writable_record
    simp only [camposNone, List.forall_mem_cons, writable_int, opcional]
    exact ⟨by decide, rfl, rotable.revision, rotable.reloj, escribible_uuid rotable.sesion.2,
      escribible_uuid uuid, by simp⟩
  unfold rotarJournalLocked
  apply Logra.leyendo
  apply Logra.comprueba vigente.1
  rw [if_neg]
  · apply Logra.comprueba (v := d) (present_ok.mpr ?_)
    · apply Logra.comprueba (v := ()) (require_ok.mpr propio.symm)
      apply Logra.comprueba (v := ()) (require_ok.mpr rfl)
      exact escribirJournal_logra valido escribible rotable.escrituras
    · simp only [enPending, vigente.2.1]
  · rw [Option.map_some, vigente.2.1]
    simp

theorem completar_logra (representa : Representa sha256 rootId a s) (pending : s.pending = some d)
    (ultimo : s.chain.head? = some r) (ligada : Ligada d.1 d.2 e) (cierra : Cierra d e r)
    (rotable : Rotable d sesion reloj n) :
    Logra 1 (completarFinalizacion sha256 d.1 r (historialDe s.chain) e sesion reloj) ⟨a, n⟩ := by
  have vigente := representa.vigente pending
  have coincide : Coincide r d.2 (historialDe s.chain) := by
    refine ⟨cierra.operacion, cierra.fuente.1, cierra.fuente.2.1, cierra.destino.1,
      cierra.destino.2.1, cierra.destino.2.2, cierra.candidato, cierra.aprobacion.1,
      cierra.aprobacion.2.1, cierra.aprobacion.2.2, ?_⟩
    rw [historialDe_latest, ultimo, Option.map_some]
  unfold completarFinalizacion
  apply Logra.comprueba (v := ()) (require_ok.mpr cierra.evidencia)
  apply Logra.comprueba (v := ()) (require_ok.mpr ligada.2.1)
  simp only [vigente.2.1]
  apply Logra.comprueba (v := ()) (require_ok.mpr coincide)
  apply Logra.comprueba (v := ()) (exigirEvidenciaCoherente_ok.mpr ligada)
  exact (rotar_logra representa pending cierra.transicion rotable).bind
    fun _ _ _ _ => Logra.termina

/-- The numbers and texts of a new record can be written too. -/
structure Publicable (rootId : Texto) (d : Vigente) (publicados : Nat) (e : PostVerifyEvidence)
    (sesion : Texto) (relojRegistro reloj n : Nat) : Prop extends Rotable d sesion reloj n where
  raiz : rootId.all isScalar = true
  seq : Cabe (publicados + 1)
  verificado : Cabe e.verifiedAtNs
  relojRegistro : Cabe relojRegistro
  todas : 5 ≤ n

theorem escribible_reserva (representa : Representa sha256 rootId a s)
    (pending : s.pending = some d) (raiz : rootId.all isScalar = true)
    (cabe : Cabe (s.chain.length + 1)) :
    writable (serializarReserva ⟨rootId, s.chain.length + 1, d.2.transitionId⟩) = true := by
  have uuid := (representa.vigente pending).2.2.2.transicion.2
  apply writable_record
  simp only [camposReservation, List.forall_mem_cons, writable_int]
  exact ⟨by decide, raiz, cabe, escribible_uuid uuid, by simp⟩

theorem reservar_logra (representa : Representa sha256 rootId a s) (pending : s.pending = some d)
    (raiz : rootId.all isScalar = true) (cabe : Cabe (s.chain.length + 1)) (queda : 2 ≤ n) :
    Logra 2 (reservarSeqLocked rootId (s.chain.length + 1) d.2.transitionId) ⟨a, n⟩ := by
  obtain ⟨dir, existe⟩ := Option.isSome_iff_exists.mp
    (representa.directorios (by simp [pending])).2
  obtain ⟨raw, bytes⟩ := bytesDe_escribible (escribible_reserva representa pending raiz cabe)
  unfold reservarSeqLocked
  apply Logra.leyendo
  apply Logra.comprueba (v := dir) (present_ok.mpr existe)
  dsimp only
  split
  · apply Logra.bind (k := 1) (l := 1) (Logra.escribe (by simp only; omega))
    intro _ g _ quedan
    exact Logra.comprueba bytes (Logra.escribe (by simp only at quedan; omega))
  · exact Logra.comprueba bytes ((Logra.escribe (by simp only; omega)).afloja (by omega))
  · next otro lleno hallado =>
    -- the number is taken: by this very transition
    have ocupada := representa.reservada existe hallado (by simpa using lleno)
    have propia : ⟨rootId, s.chain.length + 1, d.2.transitionId⟩ ∈ reservasDe rootId s :=
      mem_reservasDe.mpr (.inl ⟨ocupada, d, pending, rfl⟩)
    have archivo := representa.reservas.mem_iff.mpr (List.mem_map_of_mem propia)
    rw [existe, Option.getD_some] at archivo
    have orden := representa.ordenados.2
    rw [existe, Option.getD_some] at orden
    have mismo := (find_eq_some orden).mpr (List.mem_filter.mp archivo).1
    have igual : otro = (archivoReserva ⟨rootId, s.chain.length + 1, d.2.transitionId⟩).2 :=
      Option.some.inj (hallado.symm.trans mismo)
    obtain ⟨valida, escrita⟩ := representa.validas _ propia
    have leida := leerReserva_archivo valida escrita
    apply Logra.comprueba (v := ⟨rootId, s.chain.length + 1, d.2.transitionId⟩) (igual ▸ leida)
    refine ⟨(), _, ?_, Nat.le_add_right _ _⟩
    simp [Program.lift, require, Program.pure]

theorem escribible_opcional {t : Option Texto} :
    writable (opcional t) = true ↔ ∀ x ∈ t, x.all isScalar = true := by
  cases t <;> simp [opcional, writable]

/-- What the journal could be written with, the record can. -/
theorem escribible_registro (representa : Representa sha256 rootId a s)
    (pending : s.pending = some d) {u : Unit} (valida : validarPostEvidence e = .ok u)
    {relojRegistro : Nat} (publicable : Publicable rootId d s.chain.length e sesion relojRegistro reloj n) :
    writable (serializarRegistro (construirRegistro d.2 (historialDe s.chain) e relojRegistro)) =
      true := by
  obtain ⟨snapshot, dice, escrito⟩ := representa.journal
  obtain ⟨rfl, cuerpo⟩ := enPending_cuerpo ((enPending_dice dice).trans pending)
  obtain ⟨-, raw, bytes, -⟩ := escrito
  have nodup : ((camposPending d.1 d.2).map (·.1)).Nodup := by simp [camposPending]
  have journal := escribible_bytesDe bytes
  simp only [serializarJournal, cuerpo] at journal
  have campos := writable_of_record nodup journal
  simp only [camposPending, List.forall_mem_cons] at campos
  obtain ⟨-, -, -, -, -, operation, transicion, fuente, digest, generacion, clone, setup, candidato,
    scope, aprobacion, aprobacionSeq, -⟩ := campos
  have seq : (historialDe s.chain).nextSeq = s.chain.length + 1 := historialDe_nextSeq
  have latest : (historialDe s.chain).latest = s.chain.head? := historialDe_latest
  have previa : writable (opcional (s.chain.head?.map (·.transitionId))) = true := by
    rw [escribible_opcional]
    intro t mem
    obtain ⟨q, ultimo, rfl⟩ := Option.mem_map.mp mem
    exact escribible_uuid (representa.validos q (List.mem_of_mem_head? ultimo)).1.transicion.2
  apply writable_record
  simp only [camposRecord, construirRegistro, List.forall_mem_cons, writable_int, seq, latest]
  exact ⟨by decide, by decide, transicion, publicable.seq, previa, operation, fuente, digest, fuente,
    generacion, clone, setup, candidato, scope, aprobacion, writable_int.mp aprobacionSeq,
    escribible_hex (validarPostEvidence_ok valida).1.2, publicable.verificado,
    publicable.relojRegistro, by simp⟩

theorem persistir_logra (representa : Representa sha256 rootId a s) (existe : a.transitions.isSome)
    (fresca : r.transitionId ∉ s.chain.map (·.transitionId))
    (escribible : writable (serializarRegistro r) = true) (queda : 2 ≤ n) :
    Logra 2 (persistirRegistroLocked sha256 r) ⟨a, n⟩ := by
  obtain ⟨dir, existe⟩ := Option.isSome_iff_exists.mp existe
  obtain ⟨raw, bytes⟩ := bytesDe_escribible escribible
  have libre : Libre dir r.transitionId := representa.libre existe fresca
  have completa : ∀ {f : Disco}, 1 ≤ f.restantes → Logra 1 (do
      let raw ← .lift (bytesDe (serializarRegistro r))
      let _ ← escribir fun b => { b with
        transitions := b.transitions.map (put r.transitionId raw) }
      return r) f := fun queda =>
    Logra.comprueba bytes ((Logra.escribe queda).bind fun _ _ _ _ => Logra.termina)
  unfold persistirRegistroLocked
  apply Logra.leyendo
  apply Logra.comprueba (v := dir) (present_ok.mpr existe)
  dsimp only
  split
  · apply Logra.bind (k := 1) (l := 1) (Logra.escribe (by simp only; omega))
    intro _ g _ quedan
    exact completa (by simp only at quedan; omega)
  · exact (completa (by simp only; omega)).afloja (by omega)
  · next otro lleno hallado => exact absurd (libre otro hallado) (by simpa using lleno)

/-- What is left of FINALIZE after the checks that come before it looks for the record. -/
theorem finalizar_entra (representa : Representa sha256 rootId a s) (pending : s.pending = some d)
    (valida : validarPostEvidence e = .ok ()) (sesion : Texto) (relojRegistro reloj n : Nat) :
    finalizarLocked sha256 rootId e sesion relojRegistro reloj ⟨a, n⟩ =
      (match (historialDe s.chain).registros.find?
          fun r : FinalizedTransitionRecord => r.transitionId = e.transitionId with
      | some registro => completarFinalizacion sha256 d.1 registro (historialDe s.chain) e sesion reloj
      | none => do
        let _ ← .lift (exigirEvidenciaCoherente d.1 d.2 e)
        let registro := construirRegistro d.2 (historialDe s.chain) e relojRegistro
        let _ ← reservarSeqLocked rootId registro.finalizationSeq registro.transitionId
        let registro ← persistirRegistroLocked sha256 registro
        let _ ← rotarJournalLocked sha256 registro d.1.journalRevision sesion reloj
        return registro) ⟨a, n⟩ := by
  have existen := representa.directorios (by simp [pending])
  have vigente := representa.vigente pending
  obtain ⟨auditoria, auditada, -⟩ := representa.auditar existen.2
  unfold finalizarLocked
  rw [leer_sigue, comprueba_sigue (v := ()) (exigirDirsStore_ok.mpr existen), comprueba_sigue valida,
    comprueba_sigue vigente.1, comprueba_sigue (v := d.1) (present_ok.mpr rfl),
    comprueba_sigue (representa.derivar existen.1), comprueba_sigue auditada]
  cases (historialDe s.chain).registros.find?
    fun r : FinalizedTransitionRecord => r.transitionId = e.transitionId with
  | some registro => rfl
  | none => simp only [vigente.2.1]

/-- Without a record of the transition, FINALIZE goes through its three steps. -/
theorem finalizar_nueva (representa : Representa sha256 rootId a s) (pending : s.pending = some d)
    (fresca : d.2.transitionId ∉ s.chain.map (·.transitionId))
    (valida : validarPostEvidence e = .ok ()) (ligada : Ligada d.1 d.2 e) (sesion : Texto)
    (relojRegistro reloj n : Nat) :
    ∃ R, construirRegistro d.2 (historialDe s.chain) e relojRegistro = R ∧
      Registra sha256 e s d R ∧
      finalizarLocked sha256 rootId e sesion relojRegistro reloj ⟨a, n⟩ = (do
        let _ ← reservarSeqLocked rootId (s.chain.length + 1) d.2.transitionId
        let registro ← persistirRegistroLocked sha256 R
        let _ ← rotarJournalLocked sha256 registro d.1.journalRevision sesion reloj
        return registro) ⟨a, n⟩ := by
  have ninguno : (historialDe s.chain).registros.find? (fun q => q.transitionId = e.transitionId) =
      none := by
    rw [historialDe_registros, List.find?_eq_none]
    intro q mem igual
    have misma : q.transitionId = d.2.transitionId := (of_decide_eq_true igual).trans ligada.1.symm
    exact fresca (List.mem_map.mpr ⟨q, List.mem_reverse.mp mem, misma⟩)
  have registra := construirRegistro_registra representa pending valida ligada relojRegistro
  have corre := finalizar_entra representa pending valida sesion relojRegistro reloj n
  rw [ninguno] at corre
  simp only at corre
  rw [comprueba_sigue (v := ()) (exigirEvidenciaCoherente_ok.mpr ligada), registra.numero,
    registra.propio] at corre
  exact ⟨_, rfl, registra, corre⟩

/-- A record that is there is rotated by the evidence that it has. -/
theorem finalizar_logra_publicada (representa : Representa sha256 rootId a s)
    (pending : s.pending = some d) (valida : validarPostEvidence e = .ok ())
    (ultimo : s.chain.head? = some r) (ligada : Ligada d.1 d.2 e) (cierra : Cierra d e r)
    (relojRegistro : Nat) (rotable : Rotable d sesion reloj n) :
    Logra 1 (finalizarLocked sha256 rootId e sesion relojRegistro reloj) ⟨a, n⟩ := by
  have propio : r.transitionId = e.transitionId := cierra.transicion.trans ligada.1
  have dentro : r ∈ s.chain := List.mem_of_mem_head? ultimo
  have hallado : (historialDe s.chain).registros.find? (fun q => q.transitionId = e.transitionId) =
      some r := by
    rw [historialDe_registros]
    cases busca : s.chain.reverse.find? fun q => decide (q.transitionId = e.transitionId) with
    | none =>
      have nadie := List.find?_eq_none.mp busca r (List.mem_reverse.mpr dentro)
      exact absurd (decide_eq_true propio) nadie
    | some q =>
      have mem := List.mem_reverse.mp (List.mem_of_find?_eq_some busca)
      have mismo : q.transitionId = e.transitionId := by simpa using List.find?_some busca
      rw [List.inj_on_of_nodup_map representa.sound.names mem dentro (mismo.trans propio.symm)]
  have completa := completar_logra representa pending ultimo ligada cierra rotable
  unfold Logra
  rw [finalizar_entra representa pending valida, hallado]
  exact completa

theorem finalizar_logra_nueva (raiz : rootId ≠ []) (representa : Representa sha256 rootId a s)
    (pending : s.pending = some d) (fresca : d.2.transitionId ∉ s.chain.map (·.transitionId))
    (valida : validarPostEvidence e = .ok ()) (ligada : Ligada d.1 d.2 e) {relojRegistro : Nat}
    (publicable : Publicable rootId d s.chain.length e sesion relojRegistro reloj n) :
    Logra 5 (finalizarLocked sha256 rootId e sesion relojRegistro reloj) ⟨a, n⟩ := by
  have escribible := escribible_registro representa pending valida publicable
  have todas := publicable.todas
  obtain ⟨R, construido, registra, corre⟩ := finalizar_nueva representa pending fresca valida
    ligada sesion relojRegistro reloj n
  rw [construido] at escribible
  unfold Logra
  rw [corre]
  have reservar := reservar_logra representa pending publicable.raiz publicable.seq (n := n) (by omega)
  refine Logra.bind (k := 2) (l := 3) reservar ?_
  intro _ f hecho quedan
  have reservada := (reservar_cierra raiz pending fresca representa).devuelve rfl hecho
  have existe := reservada.directorios (by simp [pending])
  have persistir := persistir_logra (n := f.restantes) reservada existe.1 (registra.propio ▸ fresca)
    escribible (by simp only at quedan; omega)
  apply Logra.bind (k := 2) (l := 1) persistir
  intro x g escrito restan
  obtain ⟨rfl, publicada⟩ := (persistir_cierra (s := { s with reserved := true }) pending
    fresca rfl ⟨ligada, registra.cierra, registra.propio, registra.numero, registra.previa,
      registra.valido⟩).devuelve reservada escrito
  have rotable : Rotable d sesion reloj g.restantes :=
    { publicable.toRotable with escrituras := by simp only at quedan restan; omega }
  apply Logra.bind (k := 1) (l := 0) (rotar_logra publicada pending registra.propio rotable)
  exact fun _ _ _ _ => Logra.termina

/-! Runs in which no UPDATE of a transition with a record takes effect -/

abbrev AlcanzaPaciente (sha256 : Bytes → Texto) (rootId : Texto) (inicio : Almacen → Prop) :=
  Reaches (step sha256 rootId) inicio (Permitido sha256)

theorem AlcanzaPaciente.representa (raiz : rootId ≠ [])
    (alcanzado : AlcanzaPaciente sha256 rootId Inicial a) :
    ∃ s, Representa sha256 rootId a s ∧ Kept protocolo s := by
  induction alcanzado with
  | start inicial => exact ⟨_, inicial.representa, fun _ _ pending => by cases pending⟩
  | next antes permitido moved ih =>
    obtain ⟨s, representa, kept⟩ := ih
    obtain ⟨t, avanza, nuevo⟩ := step_avanza raiz representa moved
    exact ⟨t, nuevo, kept.next avanza.pasos nuevo.sound avanza.origen (avanza.asentada permitido)⟩

/-- A document with its record is the one that is pending, as long as one of its subject is. -/
theorem AlcanzaPaciente.ligado (raiz : rootId ≠ []) (representa : Representa sha256 rootId a s)
    (bound : Bound protocolo d s) {b : Almacen}
    (hasta : AlcanzaPaciente sha256 rootId (· = a) b) :
    ∃ t, Steps protocolo s t ∧ Representa sha256 rootId b t ∧ Bound protocolo d t := by
  induction hasta with
  | start igual => exact ⟨s, .refl, igual ▸ representa, bound⟩
  | next antes permitido moved ih =>
    obtain ⟨t, pasos, medio, ligado⟩ := ih
    obtain ⟨u, avanza, nuevo⟩ := step_avanza raiz medio moved
    exact ⟨u, pasos.trans avanza.pasos, nuevo,
      ligado.next avanza.pasos (avanza.asentada permitido)⟩

/-- FINALIZE returns the record and leaves nothing pending. -/
def Concluye (sha256 : Bytes → Texto) (rootId : Texto) (a : Almacen) (e : PostVerifyEvidence)
    (sesion : Texto) (relojRegistro reloj n : Nat) (r : FinalizedTransitionRecord) : Prop :=
  ∃ b, finalizarLocked sha256 rootId e sesion relojRegistro reloj ⟨a, n⟩ = (.value r, b) ∧
    (cargarJournalTransicion sha256 b.almacen).map enPending = .ok none

theorem Logra.concluye (raiz : rootId ≠ []) (representa : Representa sha256 rootId a s)
    {relojRegistro k : Nat}
    (logra : Logra k (finalizarLocked sha256 rootId e sesion relojRegistro reloj) ⟨a, n⟩) :
    ∃ r t, Finalizada e r s t ∧ Sound protocolo t ∧
      Concluye sha256 rootId a e sesion relojRegistro reloj n r := by
  obtain ⟨r, b, corre, -⟩ := logra
  obtain ⟨t, finalizada, despues⟩ := (finalizar_cierra raiz representa).devuelve rfl corre
  refine ⟨r, t, finalizada, despues.sound, b, corre, ?_⟩
  rw [despues.pendiente, finalizada.rotado]

/-- Evidence of a PENDING, with what the verification gave. -/
def evidenciaDe (d : Vigente) (payloadDigest : Texto) (verifiedAtNs : Int) : PostVerifyEvidence where
  transitionId := d.2.transitionId
  resultado := lit "PASS"
  sourceActivationDigest := d.2.sourceActivationDigest
  targetGenerationId := d.2.targetGenerationId
  targetCloneId := d.2.targetCloneId
  targetRuntimeSetupId := d.2.targetRuntimeSetupId
  desiredActiveGeneration := some d.2.targetGenerationId
  effectiveObservationDigest := d.2.approvalScopeDigest
  payloadDigest := payloadDigest
  verifiedAtNs := verifiedAtNs
  expectedJournalRevision := d.1.journalRevision

theorem evidenciaDe_valida (journal : d.1.Valido sha256) (pendiente : d.2.Valido sha256)
    {payloadDigest : Texto} (digest : DigestHex payloadDigest) {verifiedAtNs : Int}
    (verificado : 1 ≤ verifiedAtNs) :
    validarPostEvidence (evidenciaDe d payloadDigest verifiedAtNs) = .ok () := by
  simp only [validarPostEvidence, bind_ok, require_ok, exists_const]
  refine ⟨pendiente.transicion.2, List.mem_cons_self, pendiente.fuenteHex, pendiente.scope, digest,
    pendiente.generacion, pendiente.clone, pendiente.setup, ?_, verificado, journal.revision⟩
  intro t mem
  exact Option.some.inj mem ▸ pendiente.generacion

theorem evidenciaDe_ligada {payloadDigest : Texto} {verifiedAtNs : Int} :
    Ligada d.1 d.2 (evidenciaDe d payloadDigest verifiedAtNs) :=
  ⟨rfl, rfl, rfl, rfl, rfl, rfl, rfl, rfl⟩

/-- In every run whose UPDATEs are of transitions without a record, the PENDING that it leaves can be
finalized: by the evidence of its record if it has one, by any coherent evidence if not. -/
theorem finalizacion_completable (raiz : rootId ≠ [])
    (alcanzado : AlcanzaPaciente sha256 rootId Inicial a)
    (pending : (cargarJournalTransicion sha256 a).map enPending = .ok (some d)) :
    (∀ c e sesion₀ reloj₀ reloj₁ m b raw, AlcanzaPaciente sha256 rootId Inicial c →
      step sha256 rootId c ⟨.finalize e sesion₀ reloj₀ reloj₁, m⟩ = some b →
      AlcanzaPaciente sha256 rootId (· = b) a →
      (d.2.transitionId, raw) ∈ publicados (b.transitions.getD []) →
      (d.2.transitionId, raw) ∉ publicados (c.transitions.getD []) →
      ∃ r, leerRegistro sha256 (d.2.transitionId, raw) = .ok r ∧
        ∀ sesion relojRegistro reloj n, Rotable d sesion reloj n →
          Concluye sha256 rootId a e sesion relojRegistro reloj n r) ∧
    ((∀ archivo ∈ publicados (a.transitions.getD []), archivo.1 ≠ d.2.transitionId) →
      ∀ e sesion relojRegistro reloj n, validarPostEvidence e = .ok () → Ligada d.1 d.2 e →
        Publicable rootId d (publicados (a.transitions.getD [])).length e sesion relojRegistro reloj n →
        ∃ r, r.transitionId = d.2.transitionId ∧
          Concluye sha256 rootId a e sesion relojRegistro reloj n r) ∧
    ∃ e, ∀ sesion relojRegistro reloj n,
      Publicable rootId d (publicados (a.transitions.getD [])).length e sesion relojRegistro reloj n →
      ∃ r, r.transitionId = d.2.transitionId ∧
        Concluye sha256 rootId a e sesion relojRegistro reloj n r := by
  obtain ⟨s, representa, kept⟩ := alcanzado.representa raiz
  have espera : s.pending = some d := by
    rw [representa.pendiente] at pending
    exact Except.ok.inj pending
  have cuantos : (publicados (a.transitions.getD [])).length = s.chain.length := by
    rw [representa.registros.length_eq, List.length_map]
  have vigente := representa.vigente espera
  have nueva : d.2.transitionId ∉ s.chain.map (·.transitionId) →
      ∀ e sesion relojRegistro reloj n, validarPostEvidence e = .ok () → Ligada d.1 d.2 e →
        Publicable rootId d s.chain.length e sesion relojRegistro reloj n →
        ∃ r, r.transitionId = d.2.transitionId ∧
          Concluye sha256 rootId a e sesion relojRegistro reloj n r := by
    intro fresca e sesion relojRegistro reloj n valida ligada publicable
    obtain ⟨r, t, finalizada, -, concluye⟩ :=
      (finalizar_logra_nueva raiz representa espera fresca valida ligada publicable).concluye raiz
        representa
    exact ⟨r, finalizada.propio.trans ligada.1.symm, concluye⟩
  have hecha : ∀ e r, s.chain.head? = some r → validarPostEvidence e = .ok () → Ligada d.1 d.2 e →
      Cierra d e r → ∀ sesion relojRegistro reloj n, Rotable d sesion reloj n →
        Concluye sha256 rootId a e sesion relojRegistro reloj n r := by
    intro e r ultimo valida ligada cierra sesion relojRegistro reloj n rotable
    obtain ⟨q, t, finalizada, sound, concluye⟩ :=
      (finalizar_logra_publicada representa espera valida ultimo ligada cierra relojRegistro
        rotable).concluye raiz representa
    have dentro := finalizada.cierres.steps.chain_suffix.subset (List.mem_of_mem_head? ultimo)
    have mismo : q.transitionId = r.transitionId :=
      finalizada.propio.trans (ligada.1.symm.trans cierra.transicion.symm)
    rwa [← List.inj_on_of_nodup_map sound.names finalizada.publicado dentro mismo]
  refine ⟨?_, ?_, ?_⟩
  · intro c e sesion₀ reloj₀ reloj₁ m b raw inicio moved hasta publicado antes
    obtain ⟨u, previo, -⟩ := inicio.representa raiz
    obtain ⟨v, finaliza, medio⟩ := step_finaliza raiz previo moved
    obtain ⟨r, mem, archivo⟩ := List.mem_map.mp (medio.registros.subset publicado)
    have nuevo : r ∉ u.chain := fun viejo =>
      antes (archivo ▸ previo.registros.mem_iff.mpr (List.mem_map_of_mem viejo))
    rcases finaliza.origen r mem with viejo | ⟨valida, f, otro, ligada, cierra, propio⟩
    · exact absurd viejo nuevo
    have bound : Bound protocolo f v := by
      refine ⟨List.mem_map.mpr ⟨r, mem, propio⟩, fun g sigue _ => ?_⟩
      rcases finaliza.cierres.published.1 with igual | ninguno
      · rw [igual, otro] at sigue
        exact (Option.some.inj sigue).symm
      · rw [ninguno] at sigue
        cases sigue
    obtain ⟨w, pasos, final, ligado⟩ := hasta.ligado raiz medio bound
    have sigue : w.pending = some d := by
      rw [final.pendiente] at pending
      exact Except.ok.inj pending
    have tid : r.transitionId = d.2.transitionId := congrArg Prod.fst archivo
    obtain rfl : d = f := ligado.2 d sigue (tid.symm.trans propio)
    have alli : (d.2.transitionId, raw) ∈ publicados (a.transitions.getD []) :=
      final.registros.mem_iff.mpr
        (List.mem_map.mpr ⟨r, pasos.chain_suffix.subset mem, archivo⟩)
    obtain ⟨q, dentro, mismo⟩ := List.mem_map.mp (representa.registros.subset alli)
    have leido := leerRegistro_archivo (representa.validos q dentro).1 (representa.validos q dentro).2
    have suyo := leerRegistro_archivo (medio.validos r mem).1 (medio.validos r mem).2
    rw [mismo, ← archivo, suyo] at leido
    obtain rfl := Except.ok.inj leido
    refine ⟨r, archivo ▸ suyo, hecha e r ?_ valida ligada cierra⟩
    exact (kept d r espera dentro tid).2
  · intro sinRegistro e sesion relojRegistro reloj n valida ligada publicable
    refine nueva (fun dentro => ?_) e sesion relojRegistro reloj n valida ligada
      (cuantos ▸ publicable)
    obtain ⟨r, mem, misma⟩ := List.mem_map.mp dentro
    exact sinRegistro (archivoRegistro r)
      (representa.registros.mem_iff.mpr (List.mem_map_of_mem mem)) misma
  · rw [cuantos]
    by_cases publicada : d.2.transitionId ∈ s.chain.map (·.transitionId)
    · obtain ⟨r, mem, misma⟩ := List.mem_map.mp publicada
      obtain ⟨⟨e, -, cierra⟩, ultimo⟩ := kept d r espera mem misma
      have valido := (representa.validos r mem).1
      refine ⟨evidenciaDe d r.postVerifyEvidenceDigest r.postVerifiedAtNs,
        fun sesion relojRegistro reloj n publicable => ⟨r, misma, ?_⟩⟩
      exact hecha _ r ultimo
        (evidenciaDe_valida vigente.2.2.1 vigente.2.2.2 valido.evidencia valido.verificado)
        evidenciaDe_ligada { cierra with evidencia := ⟨rfl, rfl⟩ } sesion relojRegistro reloj n
        publicable.toRotable
    · refine ⟨evidenciaDe d d.2.approvalScopeDigest 1,
        fun sesion relojRegistro reloj n publicable => ?_⟩
      exact nueva publicada _ sesion relojRegistro reloj n
        (evidenciaDe_valida vigente.2.2.1 vigente.2.2.2 vigente.2.2.2.scope (by omega))
        evidenciaDe_ligada publicable

end

/-! A transition that stays pending -/

theorem escribirJournal_corre {sha256 : Bytes → Texto} {doc : Journal} {raw : Bytes}
    (valido : doc.Valido sha256) (bytes : bytesDe (serializarJournal doc) = .ok raw) (a : Almacen)
    (n : Nat) :
    escribirJournal sha256 doc ⟨a, n + 1⟩ = (.value (), ⟨{ a with transition := some raw }, n⟩) := by
  unfold escribirJournal
  rw [comprueba_sigue (parsearJournal_ok.mpr ⟨valido, rfl⟩), comprueba_sigue bytes]
  rfl

/-- F1a where no file is there takes its two writes. -/
theorem reservar_corre {rootId id ruta : Texto} {seq : Int} {a : Almacen}
    {dir : List (Texto × Bytes)} (existe : a.finalizationSeqs = some dir)
    (nombre : nombreSeq seq = ruta) (vacante : find dir ruta = none) {raw : Bytes}
    (bytes : bytesDe (serializarReserva ⟨rootId, seq, id⟩) = .ok raw) (n : Nat) :
    ∃ b, reservarSeqLocked rootId seq id ⟨a, n + 2⟩ = (.value (), ⟨b, n⟩) ∧
      b.transitions = a.transitions := by
  refine ⟨{ a with finalizationSeqs := some (put ruta raw (put ruta [] dir)) }, ?_, rfl⟩
  unfold reservarSeqLocked
  rw [leer_sigue, comprueba_sigue (present_ok.mpr existe)]
  simp only [nombre, vacante]
  rw [escribir_sigue _ _ a (n + 1), comprueba_sigue bytes, existe]
  rfl

/-- F1b where no file is there takes its two writes. -/
theorem persistir_corre {sha256 : Bytes → Texto} {r : FinalizedTransitionRecord} {a : Almacen}
    {dir : List (Texto × Bytes)} (existe : a.transitions = some dir)
    (vacante : find dir r.transitionId = none) {raw : Bytes}
    (bytes : bytesDe (serializarRegistro r) = .ok raw) (n : Nat) :
    ∃ b, persistirRegistroLocked sha256 r ⟨a, n + 2⟩ = (.value r, ⟨b, n⟩) := by
  refine ⟨{ a with transitions := some (put r.transitionId raw (put r.transitionId [] dir)) }, ?_⟩
  unfold persistirRegistroLocked
  rw [leer_sigue, comprueba_sigue (present_ok.mpr existe)]
  simp only [vacante]
  rw [escribir_sigue _ _ a (n + 1), comprueba_sigue bytes, existe]
  rfl

/-- Without a write left the journal is not rotated. -/
theorem rotar_agotada {sha256 : Bytes → Texto} {r : FinalizedTransitionRecord} {revision : Int}
    {sesion : Texto} {reloj : Nat} (a : Almacen) :
    ((rotarJournalLocked sha256 r revision sesion reloj) ⟨a, 0⟩).2 = ⟨a, 0⟩ := by
  have quieta : Triple (· = (⟨a, 0⟩ : Disco)) (rotarJournalLocked sha256 r revision sesion reloj)
      (fun _ d => d = ⟨a, 0⟩) (fun _ d => d = ⟨a, 0⟩) (fun d => d = ⟨a, 0⟩) := by
    unfold rotarJournalLocked
    refine Triple.gets fun b => ?_
    refine Triple.check (fun _ _ holds => holds.1) fun vigente _ => ?_
    split
    · exact Triple.pure fun _ holds => holds.1
    refine Triple.check (fun _ _ holds => holds.1) fun pending _ => ?_
    refine Triple.check (fun _ _ holds => holds.1) fun _ _ => ?_
    refine Triple.check (fun _ _ holds => holds.1) fun _ _ => ?_
    refine Triple.check (fun _ _ holds => holds.1) fun _ _ => ?_
    refine Triple.check (fun _ _ holds => holds.1) fun raw _ => ⟨fun d holds => ?_⟩
    rw [holds.1]
    rfl
  exact quieta.final rfl

def docFijo : Journal := construirDocPendiente propuestaFija aprobacionFija 0 (idFijo '3')

theorem docFijo_valido : docFijo.Valido sha256Fijo := by
  refine ⟨by decide, by decide, by decide, ?_⟩
  simp only [docFijo, construirDocPendiente]
  constructor
  · decide
  · exact ⟨nofun, nofun, nofun, nofun, .inl rfl⟩
  · decide
  · rfl
  · exact ⟨by decide, by decide +kernel, by decide +kernel⟩
  · decide
  · rfl
  · decide
  · decide
  · decide
  · exact ⟨lit "k", rfl, by decide⟩
  · decide
  · decide
  · decide

theorem docFijo_escribible : writable (serializarJournal docFijo) = true := by
  decide

def pendienteFijo : Pendiente where
  operation := .promotion
  transitionId := idFijo '1'
  sourceActivation := ⟨none, none, none, none⟩
  sourceActivationDigest := sha256Fijo []
  targetGenerationId := generacionFija
  targetCloneId := lit "c"
  targetRuntimeSetupId := lit "s"
  candidateId := some (lit "k")
  approvalScopeDigest := sha256Fijo []
  consumedApprovalId := idFijo '2'
  consumedApprovalSeq := 1
  consumedScopeDigest := sha256Fijo []
  evidenceDigests := ⟨sha256Fijo [], sha256Fijo [], sha256Fijo []⟩
  expectedEffectivePath := lit "p"

theorem docFijo_cuerpo : docFijo.cuerpo = .pendiente pendienteFijo := rfl

/-- The pending transition, and the records that it has. -/
def estadoFijo (cadena : List FinalizedTransitionRecord) (doc : Journal) : Estado :=
  ⟨cadena, some (doc, pendienteFijo), false⟩

theorem creada : ∃ c, step sha256Fijo (lit "r") vacioFijo creaFija = some c ∧
    Representa sha256Fijo (lit "r") c (estadoFijo [] docFijo) ∧ c.transitions = some [] ∧
    c.finalizationSeqs = some [] := by
  obtain ⟨raw, bytes⟩ := bytesDe_escribible docFijo_escribible
  have precondiciones : exigirPrecondicionesComunes sha256Fijo propuestaFija aprobacionFija = .ok () := by
    decide
  have corre : crearPendienteLocked sha256Fijo (lit "r") propuestaFija aprobacionFija (idFijo '3')
      ⟨vacioFijo, 1⟩ = (.value (), ⟨{ vacioFijo with transition := some raw }, 0⟩) := by
    have dirs : exigirDirsStore vacioFijo = .ok () := rfl
    have ausente : cargarJournalTransicion sha256Fijo vacioFijo = .ok none := rfl
    have libre : enPending none = none := rfl
    have historial : derivarHistorialFinalizados sha256Fijo vacioFijo = .ok historialVacio := rfl
    have reservas : exigirSinReservasHuerfanas (lit "r") vacioFijo historialVacio = .ok () := rfl
    have nueva : propuestaFija.transitionId ∉ historialVacio.registros.map (·.transitionId) :=
      List.not_mem_nil
    have revision : revisionDeCreate none historialVacio = .ok 0 := rfl
    unfold crearPendienteLocked
    rw [leer_sigue, comprueba_sigue dirs, comprueba_sigue precondiciones, comprueba_sigue ausente,
      comprueba_sigue (v := ()) (require_ok.mpr libre), comprueba_sigue historial,
      comprueba_sigue reservas, comprueba_sigue (v := ()) (require_ok.mpr nueva),
      comprueba_sigue revision]
    exact escribirJournal_corre docFijo_valido bytes vacioFijo 0
  have inicial : Inicial vacioFijo := by simp [Inicial, vacioFijo]
  have paso : Step protocolo ⟨[], none, false⟩ (estadoFijo [] docFijo) :=
    Step.create (P := protocolo) rfl rfl (List.not_mem_nil)
  refine ⟨{ vacioFijo with transition := some raw }, ?_, ?_, rfl, rfl⟩
  · simp only [step, creaFija, Transicion.tarea, corre]
  · exact inicial.representa.abre docFijo_cuerpo paso (by simp) ⟨rfl, rfl⟩ docFijo_valido bytes

theorem evidenciaFija_valida : validarPostEvidence (evidenciaFija 0) = .ok () := by
  decide

theorem evidenciaFija_ligada : Ligada docFijo pendienteFijo (evidenciaFija 0) :=
  ⟨rfl, rfl, rfl, rfl, rfl, rfl, rfl, rfl⟩

/-- FINALIZE is cut before its last write. -/
theorem publicada {c : Almacen} (representa : Representa sha256Fijo (lit "r") c (estadoFijo [] docFijo))
    (registros : c.transitions = some []) (reservas : c.finalizationSeqs = some []) :
    ∃ b R, step sha256Fijo (lit "r") c (finalizaFija 4) = some b ∧
      Representa sha256Fijo (lit "r") b (estadoFijo [R] docFijo) ∧
      Cierra (docFijo, pendienteFijo) (evidenciaFija 0) R := by
  have pending : (estadoFijo [] docFijo).pending = some (docFijo, pendienteFijo) := rfl
  have fresca : pendienteFijo.transitionId ∉ (estadoFijo [] docFijo).chain.map (·.transitionId) :=
    List.not_mem_nil
  have publicable : Publicable (lit "r") (docFijo, pendienteFijo) (estadoFijo [] docFijo).chain.length
      (evidenciaFija 0) (idFijo '3') 1 1 5 :=
    { sesion := docFijo_valido.sesion
      reloj := by decide
      revision := by decide
      escrituras := by decide
      raiz := by decide
      seq := by decide
      verificado := by decide
      relojRegistro := by decide
      todas := by decide }
  have escribible := escribible_registro representa pending evidenciaFija_valida publicable
  obtain ⟨R, construido, registra, corre⟩ := finalizar_nueva representa pending fresca
    evidenciaFija_valida evidenciaFija_ligada (idFijo '3') 1 1 4
  rw [construido] at escribible
  obtain ⟨raw, bytes⟩ := bytesDe_escribible escribible
  obtain ⟨otro, bytesReserva⟩ := bytesDe_escribible
    (escribible_reserva representa pending publicable.raiz publicable.seq)
  obtain ⟨f, reserva, mismos⟩ := reservar_corre reservas rfl rfl bytesReserva 2
  obtain ⟨b, publica⟩ := @persistir_corre sha256Fijo _ _ _ (mismos.trans registros) rfl _ bytes 0
  have reservada := (reservar_cierra (by decide) pending fresca representa).devuelve rfl reserva
  have final := (persistir_cierra (s := { estadoFijo [] docFijo with reserved := true }) pending fresca
    rfl ⟨evidenciaFija_ligada, registra.cierra, registra.propio, registra.numero, registra.previa,
      registra.valido⟩).devuelve reservada publica
  rw [sigue reserva, sigue publica] at corre
  refine ⟨b, R, ?_, final.2, registra.cierra⟩
  have moved : step sha256Fijo (lit "r") c (finalizaFija 4) =
      some ((finalizarLocked sha256Fijo (lit "r") (evidenciaFija 0) (idFijo '3') 1 1 >>=
        fun _ => pure ()) ⟨c, 4⟩).2.almacen := rfl
  rw [moved, devuelve_sigue, corre, devuelve_sigue, rotar_agotada]

def docActualizado : Journal :=
  { docFijo with journalRevision := docFijo.journalRevision + 1, cuerpo := .pendiente pendienteFijo }

theorem docActualizado_valido : docActualizado.Valido sha256Fijo where
  revision := by decide
  creado := docFijo_valido.creado
  sesion := docFijo_valido.sesion
  cuerpo := docFijo_valido.cuerpo

def actualizaFija : Evento := ⟨.update (idFijo '1') 0 [], 1⟩

/-- UPDATE moves the journal on, with the record there or not. -/
theorem actualizada {b : Almacen} {cadena : List FinalizedTransitionRecord}
    (representa : Representa sha256Fijo (lit "r") b (estadoFijo cadena docFijo)) :
    ∃ a, step sha256Fijo (lit "r") b actualizaFija = some a ∧
      Representa sha256Fijo (lit "r") a (estadoFijo cadena docActualizado) := by
  have pending : (estadoFijo cadena docFijo).pending = some (docFijo, pendienteFijo) := rfl
  have vigente := representa.vigente pending
  have escribible : writable (serializarJournal docActualizado) = true := by
    decide
  obtain ⟨raw, bytes⟩ := bytesDe_escribible escribible
  have hay : enPending (some docFijo) = some (docFijo, pendienteFijo) := rfl
  have cas : pendienteFijo.transitionId = idFijo '1' ∧ docFijo.journalRevision = 0 := ⟨rfl, rfl⟩
  have campos : ∀ c ∈ ([] : List (Texto × Json)), c.1 ∈ camposActualizables := nofun
  have ruta : rutaActualizada pendienteFijo [] = .ok pendienteFijo.expectedEffectivePath := rfl
  have corre : actualizarLocked sha256Fijo (idFijo '1') 0 [] ⟨b, 1⟩ =
      (.value (), ⟨{ b with transition := some raw }, 0⟩) := by
    unfold actualizarLocked
    rw [leer_sigue, comprueba_sigue vigente.1, comprueba_sigue (present_ok.mpr hay),
      comprueba_sigue (v := ()) (require_ok.mpr cas),
      comprueba_sigue (v := ()) (require_ok.mpr campos), comprueba_sigue ruta]
    exact escribirJournal_corre docActualizado_valido bytes b 0
  have paso : Step protocolo (estadoFijo cadena docFijo) (estadoFijo cadena docActualizado) :=
    @Step.revise _ _ _ protocolo _ _ (docActualizado, pendienteFijo) pending rfl
  have moved : step sha256Fijo (lit "r") b actualizaFija =
      some (actualizarLocked sha256Fijo (idFijo '1') 0 [] ⟨b, 1⟩).2.almacen := rfl
  refine ⟨{ b with transition := some raw }, by rw [moved, corre], ?_⟩
  exact representa.abre rfl paso (fun _ => rfl) (representa.directorios (by simp [pending]))
    docActualizado_valido bytes

/-- CREATE, a FINALIZE that is cut before it rotates the journal, and an UPDATE: the evidence of the
record is never taken again. -/
theorem finalizacion_bloqueada :
    ∃ a b c d, Alcanza sha256Fijo (lit "r") Inicial c ∧
      step sha256Fijo (lit "r") c (finalizaFija 4) = some b ∧
      Alcanza sha256Fijo (lit "r") (· = b) a ∧
      (cargarJournalTransicion sha256Fijo a).map enPending = .ok (some d) ∧
      (∃ raw, (d.2.transitionId, raw) ∈ publicados (b.transitions.getD []) ∧
        (d.2.transitionId, raw) ∉ publicados (c.transitions.getD [])) ∧
      ∀ sesion relojRegistro reloj n r,
        ¬Concluye sha256Fijo (lit "r") a (evidenciaFija 0) sesion relojRegistro reloj n r := by
  obtain ⟨c, creado, inicio, registros, reservas⟩ := creada
  obtain ⟨b, R, cortado, medio, cierra⟩ := publicada inicio registros reservas
  obtain ⟨a, movido, final⟩ := actualizada medio
  have inicial : Inicial vacioFijo := by simp [Inicial, vacioFijo]
  refine ⟨a, b, c, (docActualizado, pendienteFijo), .next (.start inicial) trivial creado, cortado,
    .next (.start rfl) trivial movido, ?_, ⟨bytesRegistro R, ?_, ?_⟩, ?_⟩
  · rw [final.pendiente]
    rfl
  · have archivo : (pendienteFijo.transitionId, bytesRegistro R) = archivoRegistro R :=
      Prod.ext cierra.transicion.symm rfl
    rw [archivo]
    exact medio.registros.mem_iff.mpr (List.mem_map_of_mem List.mem_cons_self)
  · rw [registros]
    exact List.not_mem_nil
  · rintro sesion relojRegistro reloj n r ⟨f, corre, -⟩
    obtain ⟨t, finalizada, -⟩ := (finalizar_cierra (by decide) final).devuelve rfl corre
    have revision := (finalizada.ligada _ rfl).2.2.1
    exact absurd revision (by decide)

/-- The same without the UPDATE. -/
theorem finalizacion_reanudada :
    ∃ a b r, step sha256Fijo (lit "r") a (finalizaFija 4) = some b ∧
      r.transitionId = idFijo '1' ∧
      Concluye sha256Fijo (lit "r") b (evidenciaFija 0) (idFijo '3') 1 1 1 r := by
  obtain ⟨c, creado, inicio, registros, reservas⟩ := creada
  obtain ⟨b, R, cortado, medio, cierra⟩ := publicada inicio registros reservas
  have inicial : Inicial vacioFijo := by simp [Inicial, vacioFijo]
  have crear : Permitido sha256Fijo vacioFijo creaFija := trivial
  have finalizar : Permitido sha256Fijo c (finalizaFija 4) := trivial
  have antes : AlcanzaPaciente sha256Fijo (lit "r") Inicial c := .next (.start inicial) crear creado
  have alcanzado : AlcanzaPaciente sha256Fijo (lit "r") Inicial b := .next antes finalizar cortado
  have pending : (cargarJournalTransicion sha256Fijo b).map enPending =
      .ok (some (docFijo, pendienteFijo)) := by
    rw [medio.pendiente]
    rfl
  have archivo : (pendienteFijo.transitionId, bytesRegistro R) = archivoRegistro R :=
    Prod.ext cierra.transicion.symm rfl
  obtain ⟨completa, -⟩ := finalizacion_completable (by decide) alcanzado pending
  obtain ⟨r, leido, concluye⟩ := completa c (evidenciaFija 0) (idFijo '3') 1 1 4 b (bytesRegistro R)
    antes cortado (.start rfl)
    (archivo ▸ medio.registros.mem_iff.mpr (List.mem_map_of_mem List.mem_cons_self))
    (by rw [registros]; exact List.not_mem_nil)
  have mem : R ∈ (estadoFijo [R] docFijo).chain := List.mem_cons_self
  have suyo := leerRegistro_archivo (medio.validos R mem).1 (medio.validos R mem).2
  refine ⟨c, b, r, cortado, ?_, concluye (idFijo '3') 1 1 1
    ⟨docFijo_valido.sesion, by decide, by decide, by decide⟩⟩
  rw [archivo, suyo] at leido
  rw [← Except.ok.inj leido]
  exact cierra.transicion

end TransitionJournal
