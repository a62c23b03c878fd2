import SkyClaw.FinalizedChain

set_option linter.all false

/-!
The transitions of the activation journal on the files of a chain. Each is cut
where it may be, and leaves the files of a chain that goes on from this one.
-/
namespace TransitionJournal
open JsonText SortedEntries Checks CrashPrograms ReservedChain TransitionRuns

section
variable {sha256 : Bytes → Texto} {rootId : Texto} {a : Almacen} {s : Estado}

/-! Tasks over the files -/

def En (p : Almacen → Prop) (d : Disco) : Prop := p d.almacen

/-- From files in `p`, a task that ends leaves `q`, and one that is cut or fails leaves `fin`. -/
def Lleva {α : Type} (p : Almacen → Prop) (t : Tarea α) (q : α → Almacen → Prop)
    (fin : Almacen → Prop) : Prop :=
  Triple (En p) t (fun x => En (q x)) (fun _ => En fin) (En fin)

variable {α β : Type} {p fin : Almacen → Prop} {q : α → Almacen → Prop} {r : β → Almacen → Prop}

theorem Lleva.bind {t : Tarea α} {f : α → Tarea β} (primero : Lleva p t q fin)
    (luego : ∀ x, Lleva (q x) (f x) r fin) : Lleva p (t >>= f) r fin :=
  Triple.bind primero luego

theorem Lleva.termina {x : α} (queda : ∀ b, p b → q x b) : Lleva p (pure x) q fin :=
  Triple.pure fun d holds => queda d.almacen holds

theorem Lleva.falla {e : JournalError} (queda : ∀ b, p b → fin b) :
    Lleva p (.throw e : Tarea α) q fin :=
  Triple.throw fun d holds => queda d.almacen holds

theorem Lleva.leyendo {f : Almacen → Tarea β} (luego : ∀ b, p b → Lleva (· = b) (f b) r fin) :
    Lleva p (leer >>= f) r fin := by
  refine ⟨fun d holds => ?_⟩
  exact (luego d.almacen holds).run d rfl

/-- A check, and then what it found. -/
theorem Lleva.comprueba {x : Except JournalError α} {f : α → Tarea β} (queda : ∀ b, p b → fin b)
    (luego : ∀ v, x = .ok v → Lleva p (f v) r fin) : Lleva p (.lift x >>= f) r fin :=
  Triple.check (fun _ d holds => queda d.almacen holds) luego

theorem Lleva.resultado {x : Except JournalError α} (queda : ∀ b, p b → fin b)
    (hay : ∀ v b, x = .ok v → p b → q v b) : Lleva p (.lift x) q fin :=
  Triple.lift (fun v d found holds => hay v d.almacen found holds)
    fun _ d holds => queda d.almacen holds

theorem Lleva.escribe {cambio : Almacen → Almacen} {q : Unit → Almacen → Prop}
    (antes : ∀ b, p b → fin b) (despues : ∀ b, p b → q () (cambio b)) :
    Lleva p (escribir cambio) q fin := by
  refine ⟨fun ⟨b, n⟩ holds => ?_⟩
  cases n with
  | zero => exact antes b holds
  | succ n => exact despues b holds

/-- The journal is written only as its own parser takes it. -/
theorem Lleva.escribeJournal {doc : Journal} {q : Unit → Almacen → Prop}
    (antes : ∀ b, p b → fin b)
    (despues : ∀ b raw, p b → doc.Valido sha256 → bytesDe (serializarJournal doc) = .ok raw →
      q () { b with transition := some raw }) :
    Lleva p (escribirJournal sha256 doc) q fin := by
  apply Lleva.comprueba antes
  intro leido parseado
  apply Lleva.comprueba antes
  intro raw bytes
  exact Lleva.escribe antes fun b holds => despues b raw holds (parsearJournal_ok.mp parseado).1 bytes

theorem Lleva.afloja {t : Tarea α} {fin' : Almacen → Prop} {q' : α → Almacen → Prop}
    (probado : Lleva p t q' fin') (valor : ∀ x b, q' x b → q x b) (final : ∀ b, fin' b → fin b) :
    Lleva p t q fin :=
  Triple.weaken probado (fun _ holds => holds) (fun x d => valor x d.almacen)
    (fun _ d => final d.almacen) fun d => final d.almacen

theorem Lleva.desde {t : Tarea α} {b : Almacen} (holds : p b) (probado : Lleva p t q fin) :
    Lleva (· = b) t q fin := by
  refine Triple.weaken probado ?_ (fun _ _ done => done) (fun _ _ done => done) fun _ done => done
  intro d igual
  obtain rfl : d.almacen = b := igual
  exact holds

theorem Lleva.pura {P : Prop} {t : Tarea α} (luego : P → Lleva p t q fin) :
    Lleva (fun b => P ∧ p b) t q fin :=
  ⟨fun d holds => (luego holds.1).run d holds.2⟩

theorem Lleva.devuelve {t : Tarea α} {d f : Disco} {x : α} (lleva : Lleva p t q fin)
    (antes : p d.almacen) (corre : t d = (.value x, f)) : q x f.almacen := by
  have hecho := lleva.run d antes
  rw [corre] at hecho
  exact hecho

/-! What each transition does to the chain -/

/-- Some steps lead to a state that the files are those of. -/
def Hasta (sha256 : Bytes → Texto) (rootId : Texto) (R : Estado → Estado → Prop) (s : Estado)
    (a : Almacen) : Prop := ∃ t, R s t ∧ Representa sha256 rootId a t

/-- The chain goes on, and a record that is new is the one of the document that was pending. Where
`paciente` holds, a document with its record is not written again. -/
structure Avanza (paciente : Prop) (s t : Estado) : Prop where
  pasos : Steps protocolo s t
  origen : ∀ r ∈ t.chain, r ∈ s.chain ∨
    ∃ d, s.pending = some d ∧ protocolo.closes d r ∧ r.transitionId = d.2.transitionId
  asentada : paciente → Settled protocolo s t

/-- FINALIZE, with the evidence of the record that it publishes. -/
structure Finaliza (e : PostVerifyEvidence) (s t : Estado) : Prop where
  cierres : Closings protocolo s t
  origen : ∀ r ∈ t.chain, r ∈ s.chain ∨ validarPostEvidence e = .ok () ∧
    ∃ d, s.pending = some d ∧ Ligada d.1 d.2 e ∧ Cierra d e r ∧ r.transitionId = d.2.transitionId

/-- FINALIZE that returns. -/
structure Finalizada (e : PostVerifyEvidence) (r : FinalizedTransitionRecord) (s t : Estado) :
    Prop extends Finaliza e s t where
  rotado : t.pending = none
  publicado : r ∈ t.chain
  propio : r.transitionId = e.transitionId
  ligada : ∀ d, s.pending = some d → Ligada d.1 d.2 e

variable {paciente : Prop} {e : PostVerifyEvidence}

theorem Avanza.quieto : Avanza paciente s s :=
  ⟨.refl, fun _ mem => .inl mem, fun _ _ pending _ => pending⟩

theorem Finaliza.quieto : Finaliza e s s := ⟨.refl, fun _ mem => .inl mem⟩

theorem Finaliza.avanza {t : Estado} (finaliza : Finaliza e s t) : Avanza paciente s t := by
  refine ⟨finaliza.cierres.steps, fun r mem => ?_, fun _ => finaliza.cierres.settled⟩
  rcases finaliza.origen r mem with viejo | ⟨-, d, pending, ligada, cierra, propio⟩
  · exact .inl viejo
  · exact .inr ⟨d, pending, ⟨e, ligada, cierra⟩, propio⟩

abbrev Avanzan (sha256 : Bytes → Texto) (rootId : Texto) (paciente : Prop) :=
  Hasta sha256 rootId (Avanza paciente)

theorem Hasta.quieto {R : Estado → Estado → Prop} (refl : R s s)
    (representa : Representa sha256 rootId a s) {b : Almacen} (igual : b = a) :
    Hasta sha256 rootId R s b := ⟨s, refl, igual ▸ representa⟩

theorem exigirDirsStore_ok {u : Unit} :
    exigirDirsStore a = .ok u ↔ a.transitions.isSome ∧ a.finalizationSeqs.isSome := by
  simp [exigirDirsStore]

theorem enPending_dice {snapshot : Option Journal} (dice : Dice snapshot s) :
    enPending snapshot = s.pending := by
  cases snapshot with
  | none => exact dice.1.symm
  | some doc =>
    simp only [Dice, enPending] at dice ⊢
    split at dice <;> simp_all

theorem enPending_cuerpo {snapshot : Option Journal} {d : Vigente}
    (hay : enPending snapshot = some d) : snapshot = some d.1 ∧ d.1.cuerpo = .pendiente d.2 := by
  cases snapshot with
  | none => cases hay
  | some doc =>
    simp only [enPending] at hay
    split at hay
    · next cuerpo =>
      cases hay
      exact ⟨rfl, cuerpo⟩
    · cases hay

theorem reservasDe_mismas {t : Estado} (mismo : t.reserved = s.reserved) (cadena : t.chain = s.chain)
    (pendiente : s.reserved = true → t.pending.map (·.2.transitionId) =
      s.pending.map (·.2.transitionId)) :
    reservasDe rootId t = reservasDe rootId s := by
  unfold reservasDe
  rw [mismo, cadena]
  cases reservada : s.reserved with
  | false => rfl
  | true =>
    have misma := congrArg (fun x : Option Texto =>
      x.toList.map fun id => (⟨rootId, s.chain.length + 1, id⟩ : SeqReservation)) (pendiente reservada)
    simpa [Option.toList_map, Function.comp_def] using misma

/-- The journal is written with this PENDING, which some step leads to. -/
theorem Representa.abre (representa : Representa sha256 rootId a s) {doc : Journal} {p : Pendiente}
    (cuerpo : doc.cuerpo = .pendiente p) (paso : Step protocolo s { s with pending := some (doc, p) })
    (reservada : s.reserved = true → s.pending.map (·.2.transitionId) = some p.transitionId)
    (existen : a.transitions.isSome ∧ a.finalizationSeqs.isSome) {raw : Bytes}
    (valido : doc.Valido sha256) (bytes : bytesDe (serializarJournal doc) = .ok raw) :
    Representa sha256 rootId { a with transition := some raw } { s with pending := some (doc, p) } := by
  have dicho : Dice (some doc) { s with pending := some (doc, p) } := by
    simp only [Dice, cuerpo]
  exact representa.escribeJournal (paso.sound representa.sound) rfl
    (reservasDe_mismas rfl rfl fun hay => (reservada hay).symm) dicho (fun _ => existen) valido bytes

/-- A PENDING is written only where there is none, and no reservation is left over. -/
theorem abre_pendiente {snapshot : Option Journal} {doc : Journal} {p : Pendiente}
    (cuerpo : doc.cuerpo = .pendiente p) (representa : Representa sha256 rootId a s)
    (dice : Dice snapshot s) (libre : enPending snapshot = none)
    (existen : a.transitions.isSome ∧ a.finalizationSeqs.isSome) {u : Unit}
    (sinHuerfanas : exigirSinReservasHuerfanas rootId a (historialDe s.chain) = .ok u)
    (nueva : p.transitionId ∉ (historialDe s.chain).registros.map (·.transitionId)) :
    Lleva (· = a) (escribirJournal sha256 doc) (fun _ => Avanzan sha256 rootId paciente s)
      (Avanzan sha256 rootId paciente s) := by
  obtain ⟨auditoria, auditada, -, huerfanas⟩ := representa.auditar existen.2
  simp only [exigirSinReservasHuerfanas, auditada, bind_ok, require_ok, Except.ok.injEq,
    exists_eq_left'] at sinHuerfanas
  have inactiva : s.pending = none := (enPending_dice dice).symm.trans libre
  have sinReserva := huerfanas sinHuerfanas
  rw [historialDe_registros, List.map_reverse, List.mem_reverse] at nueva
  have paso := Step.create (P := protocolo) (d := (doc, p)) inactiva sinReserva nueva
  apply Lleva.escribeJournal
  · intro b igual
    exact .quieto .quieto representa igual
  · intro b raw igual valido bytes
    refine ⟨_, ⟨.single paso, fun _ mem => .inl mem, fun _ d pending publicado => ?_⟩,
      igual ▸ representa.abre cuerpo paso (fun reservada => ?_) existen valido bytes⟩
    · obtain rfl := Option.some.inj pending
      exact absurd publicado nueva
    · rw [sinReserva] at reservada
      cases reservada

/-- A PENDING may be written again for the same transition. -/
theorem revisa_pendiente {doc : Journal} {p : Pendiente} {d : Vigente}
    (cuerpo : doc.cuerpo = .pendiente p) (representa : Representa sha256 rootId a s)
    (pending : s.pending = some d) (misma : p.transitionId = d.2.transitionId)
    (sinRegistro : paciente → d.2.transitionId ∉ s.chain.map (·.transitionId)) :
    Lleva (· = a) (escribirJournal sha256 doc) (fun _ => Avanzan sha256 rootId paciente s)
      (Avanzan sha256 rootId paciente s) := by
  have paso : Step protocolo s { s with pending := some (doc, p) } :=
    @Step.revise _ _ _ protocolo s d (doc, p) pending misma
  have existen := representa.directorios (by simp [pending])
  apply Lleva.escribeJournal
  · intro b igual
    exact .quieto .quieto representa igual
  · intro b raw igual valido bytes
    refine ⟨_, ⟨.single paso, fun _ mem => .inl mem, fun quieta f otro publicado => ?_⟩,
      igual ▸ representa.abre cuerpo paso (fun _ => ?_) existen valido bytes⟩
    · obtain rfl := Option.some.inj otro
      have dentro : d.2.transitionId ∈ s.chain.map (·.transitionId) := misma ▸ publicado
      exact absurd dentro (sinRegistro quieta)
    · simp [pending, misma]

variable {propuesta : PropuestaTransicion} {aprobacion : AprobacionConsumida} {sesion : Texto}

theorem construirDocPendiente_cuerpo {revision : Int} :
    ∃ p : Pendiente, (construirDocPendiente propuesta aprobacion revision sesion).cuerpo =
      .pendiente p ∧ p.transitionId = propuesta.transitionId := ⟨_, rfl, rfl⟩

theorem crear_avanza (representa : Representa sha256 rootId a s) :
    Lleva (· = a) (crearPendienteLocked sha256 rootId propuesta aprobacion sesion)
      (fun _ => Avanzan sha256 rootId paciente s) (Avanzan sha256 rootId paciente s) := by
  have queda : ∀ b, b = a → Avanzan sha256 rootId paciente s b := fun b =>
    Hasta.quieto Avanza.quieto representa
  unfold crearPendienteLocked
  apply Lleva.leyendo
  rintro _ rfl
  refine Lleva.comprueba queda fun _ dirs => Lleva.comprueba queda fun _ _ => ?_
  refine Lleva.comprueba queda fun snapshot cargado => Lleva.comprueba queda fun _ inactivo => ?_
  refine Lleva.comprueba queda fun historial derivado => Lleva.comprueba queda fun _ libres => ?_
  refine Lleva.comprueba queda fun _ nueva => Lleva.comprueba queda fun revision _ => ?_
  have existen := exigirDirsStore_ok.mp dirs
  obtain ⟨_, leido, dice⟩ := representa.cargar
  obtain rfl := Except.ok.inj (cargado.symm.trans leido)
  rw [representa.derivar existen.1] at derivado
  obtain rfl := Except.ok.inj derivado
  obtain ⟨p, cuerpo, misma⟩ := construirDocPendiente_cuerpo
  exact abre_pendiente cuerpo representa dice (require_ok.mp inactivo) existen libres
    (misma ▸ require_ok.mp nueva)

theorem testigoDe_libre {snapshot : Option Journal} {vigente : Journal × Option Texto}
    (ok : testigoDe snapshot = .ok vigente) : enPending snapshot = none := by
  cases snapshot with
  | none => rfl
  | some doc =>
    simp only [testigoDe] at ok
    split at ok
    · next cuerpo => simp only [enPending, cuerpo]
    · cases ok

theorem startNext_avanza (representa : Representa sha256 rootId a s) :
    Lleva (· = a) (startNextLocked sha256 rootId propuesta aprobacion sesion)
      (fun _ => Avanzan sha256 rootId paciente s) (Avanzan sha256 rootId paciente s) := by
  have queda : ∀ b, b = a → Avanzan sha256 rootId paciente s b := fun b =>
    Hasta.quieto Avanza.quieto representa
  unfold startNextLocked
  apply Lleva.leyendo
  rintro _ rfl
  refine Lleva.comprueba queda fun _ dirs => Lleva.comprueba queda fun _ _ => ?_
  refine Lleva.comprueba queda fun snapshot cargado => Lleva.comprueba queda fun vigente enNone => ?_
  refine Lleva.comprueba queda fun historial derivado => Lleva.comprueba queda fun _ _ => ?_
  refine Lleva.comprueba queda fun _ libres => Lleva.comprueba queda fun _ nueva => ?_
  refine Lleva.comprueba queda fun _ _ => Lleva.comprueba queda fun _ _ => ?_
  have existen := exigirDirsStore_ok.mp dirs
  obtain ⟨_, leido, dice⟩ := representa.cargar
  obtain rfl := Except.ok.inj (cargado.symm.trans leido)
  rw [representa.derivar existen.1] at derivado
  obtain rfl := Except.ok.inj derivado
  obtain ⟨p, cuerpo, misma⟩ := construirDocPendiente_cuerpo
  exact abre_pendiente cuerpo representa dice (testigoDe_libre enNone) existen libres
    (misma ▸ require_ok.mp nueva)

/-- The checks of UPDATE pass on this PENDING. -/
structure Actualizable (d : Vigente) (id : Texto) (revision : Int) (cambios : List (Texto × Json)) :
    Prop where
  vigente : d.2.transitionId = id ∧ d.1.journalRevision = revision
  campos : ∀ c ∈ cambios, c.1 ∈ camposActualizables
  ruta : ∃ ruta, rutaActualizada d.2 cambios = .ok ruta

theorem actualizar_avanza (representa : Representa sha256 rootId a s) {id : Texto} {revision : Int}
    {cambios : List (Texto × Json)}
    (sinRegistro : paciente → ∀ d, s.pending = some d → Actualizable d id revision cambios →
      d.2.transitionId ∉ s.chain.map (·.transitionId)) :
    Lleva (· = a) (actualizarLocked sha256 id revision cambios)
      (fun _ => Avanzan sha256 rootId paciente s) (Avanzan sha256 rootId paciente s) := by
  have queda : ∀ b, b = a → Avanzan sha256 rootId paciente s b := fun b =>
    Hasta.quieto Avanza.quieto representa
  unfold actualizarLocked
  apply Lleva.leyendo
  rintro _ rfl
  refine Lleva.comprueba queda fun snapshot cargado => Lleva.comprueba queda fun vigente hay => ?_
  refine Lleva.comprueba queda fun _ cas => Lleva.comprueba queda fun _ campos => ?_
  refine Lleva.comprueba queda fun ruta leida => ?_
  obtain ⟨_, leido, dice⟩ := representa.cargar
  obtain rfl := Except.ok.inj (cargado.symm.trans leido)
  have pending : s.pending = some vigente := (enPending_dice dice).symm.trans (present_ok.mp hay)
  exact revisa_pendiente rfl representa pending rfl fun quieta =>
    sinRegistro quieta vigente pending ⟨require_ok.mp cas, require_ok.mp campos, ruta, leida⟩

/-! FINALIZE -/

/-- The pending document is the journal, as its parser takes it. -/
theorem Representa.vigente (representa : Representa sha256 rootId a s) {d : Vigente}
    (pending : s.pending = some d) :
    cargarJournalTransicion sha256 a = .ok (some d.1) ∧ d.1.cuerpo = .pendiente d.2 ∧
      d.1.Valido sha256 ∧ d.2.Valido sha256 := by
  obtain ⟨snapshot, cargado, dice⟩ := representa.cargar
  obtain ⟨rfl, cuerpo⟩ := enPending_cuerpo ((enPending_dice dice).trans pending)
  refine ⟨cargado, cuerpo, ?_⟩
  obtain ⟨snapshot, dice, escrito⟩ := representa.journal
  obtain ⟨rfl, -⟩ := enPending_cuerpo ((enPending_dice dice).trans pending)
  have valido := escrito.1.cuerpo
  rw [cuerpo] at valido
  exact ⟨escrito.1, valido⟩

/-- The next number has no reservation, but for a placeholder. -/
def Vacante (sha256 : Bytes → Texto) (rootId : Texto) (s : Estado) (a : Almacen) : Prop :=
  Representa sha256 rootId a s ∧ ∃ dir, a.finalizationSeqs = some dir ∧
    Libre dir (nombreSeq (s.chain.length + 1))

theorem reservar_cierra (raiz : rootId ≠ []) {d : Vigente} (pending : s.pending = some d)
    (fresca : d.2.transitionId ∉ s.chain.map (·.transitionId))
    (representa : Representa sha256 rootId a s) :
    Lleva (· = a) (reservarSeqLocked rootId (s.chain.length + 1) d.2.transitionId)
      (fun _ b => Representa sha256 rootId b { s with reserved := true })
      (fun b => Representa sha256 rootId b s) := by
  have valida : (⟨rootId, s.chain.length + 1, d.2.transitionId⟩ : SeqReservation).Valida rootId :=
    ⟨⟨rfl, raiz⟩, by simp only; omega, (representa.vigente pending).2.2.2.transicion⟩
  have queda : ∀ b, b = a → Representa sha256 rootId b s := fun b igual => igual ▸ representa
  -- the name is free, or has a placeholder that nothing is lost with
  have completa : ∀ raw, bytesDe (serializarReserva ⟨rootId, s.chain.length + 1, d.2.transitionId⟩) =
      .ok raw → Lleva (Vacante sha256 rootId s)
      (escribir fun b => { b with
        finalizationSeqs := b.finalizationSeqs.map (put (nombreSeq (s.chain.length + 1)) raw) })
      (fun _ b => Representa sha256 rootId b { s with reserved := true })
      (fun b => Representa sha256 rootId b s) := by
    intro raw bytes
    apply Lleva.escribe (fun b holds => holds.1)
    rintro b ⟨mismo, dir, existe, libre⟩
    exact mismo.reserva pending fresca existe libre valida bytes
  unfold reservarSeqLocked
  apply Lleva.leyendo
  rintro _ rfl
  refine Lleva.comprueba queda fun dir existe => ?_
  have existe := present_ok.mp existe
  dsimp only
  split
  · next vacante =>
    have libre : Libre dir (nombreSeq (s.chain.length + 1)) := by
      intro raw hallado
      rw [vacante] at hallado
      cases hallado
    apply Lleva.bind (q := fun _ => Vacante sha256 rootId s)
    · apply Lleva.escribe queda
      rintro _ rfl
      refine ⟨representa.placeholderReserva existe libre, _, by rw [existe]; rfl, ?_⟩
      intro raw hallado
      simpa using hallado.symm
    · intro _
      exact Lleva.comprueba (fun b holds => holds.1) completa
  · next hallado =>
    have libre : Libre dir (nombreSeq (s.chain.length + 1)) := by
      intro raw otro
      rw [hallado] at otro
      exact (Option.some.inj otro).symm
    apply Lleva.desde (p := Vacante sha256 rootId s) ⟨representa, dir, existe, libre⟩
    exact Lleva.comprueba (fun b holds => holds.1) completa
  · next raw lleno hallado =>
    refine Lleva.comprueba queda fun existente _ => ?_
    refine Lleva.resultado queda ?_
    rintro _ _ _ rfl
    have reservada := representa.reservada existe hallado (by simpa using lleno)
    have misma : { s with reserved := true } = s := by rw [← reservada]
    exact misma ▸ representa

/-- The record that closes this document, as its own parser takes it. -/
structure Registra (sha256 : Bytes → Texto) (e : PostVerifyEvidence) (s : Estado) (d : Vigente)
    (r : FinalizedTransitionRecord) : Prop where
  ligada : Ligada d.1 d.2 e
  cierra : Cierra d e r
  propio : r.transitionId = d.2.transitionId
  numero : r.finalizationSeq = s.chain.length + 1
  previa : r.finalizedFromTransitionId = s.chain.head?.map (·.transitionId)
  valido : r.Valido sha256

theorem Registra.publica {d : Vigente} {r : FinalizedTransitionRecord}
    (registra : Registra sha256 e s d r) (pending : s.pending = some d) (reservada : s.reserved = true)
    (fresca : d.2.transitionId ∉ s.chain.map (·.transitionId)) :
    Closing protocolo s { s with chain := r :: s.chain, reserved := false } :=
  .publish pending reservada fresca ⟨e, registra.ligada, registra.cierra⟩ registra.propio
    registra.numero registra.previa

/-- There is no record of the transition, but for a placeholder. -/
def SinRegistro (sha256 : Bytes → Texto) (rootId : Texto) (s : Estado) (id : Texto) (a : Almacen) :
    Prop :=
  Representa sha256 rootId a s ∧ ∃ dir, a.transitions = some dir ∧ Libre dir id

theorem persistir_cierra {d : Vigente} {r : FinalizedTransitionRecord}
    (pending : s.pending = some d) (fresca : d.2.transitionId ∉ s.chain.map (·.transitionId))
    (reservada : s.reserved = true) (registra : Registra sha256 e s d r) :
    Lleva (fun b => Representa sha256 rootId b s) (persistirRegistroLocked sha256 r)
      (fun x b => x = r ∧
        Representa sha256 rootId b { s with chain := r :: s.chain, reserved := false })
      (fun b => Representa sha256 rootId b s) := by
  have completa : ∀ raw, bytesDe (serializarRegistro r) = .ok raw →
      Lleva (SinRegistro sha256 rootId s r.transitionId) (do
        let _ ← escribir fun b => { b with
          transitions := b.transitions.map (put r.transitionId raw) }
        return r)
      (fun x b => x = r ∧
        Representa sha256 rootId b { s with chain := r :: s.chain, reserved := false })
      (fun b => Representa sha256 rootId b s) := by
    intro raw bytes
    apply Lleva.bind
      (q := fun _ b => Representa sha256 rootId b { s with chain := r :: s.chain, reserved := false })
    · apply Lleva.escribe (fun b holds => holds.1)
      rintro b ⟨mismo, dir, existe, libre⟩
      exact mismo.publica pending reservada (registra.publica pending reservada fresca)
        registra.propio registra.numero registra.valido existe libre bytes
    · intro _
      exact Lleva.termina fun b publicado => ⟨rfl, publicado⟩
  unfold persistirRegistroLocked
  apply Lleva.leyendo
  intro a representa
  have queda : ∀ b, b = a → Representa sha256 rootId b s := fun b igual => igual ▸ representa
  refine Lleva.comprueba queda fun dir existe => ?_
  have existe := present_ok.mp existe
  have libre : Libre dir r.transitionId := representa.libre existe (registra.propio ▸ fresca)
  dsimp only
  split
  · apply Lleva.bind (q := fun _ => SinRegistro sha256 rootId s r.transitionId)
    · apply Lleva.escribe queda
      rintro _ rfl
      refine ⟨representa.placeholderRegistro existe libre, _, by rw [existe]; rfl, ?_⟩
      intro raw hallado
      simpa using hallado.symm
    · intro _
      exact Lleva.comprueba (fun b holds => holds.1) completa
  · apply Lleva.desde (p := SinRegistro sha256 rootId s r.transitionId)
      ⟨representa, dir, existe, libre⟩
    exact Lleva.comprueba (fun b holds => holds.1) completa
  · next raw lleno hallado => exact absurd (libre raw hallado) (by simpa using lleno)

/-- F2 takes the pending document away, which the last record of the chain closes. -/
theorem rotar_cierra {d : Vigente} {r : FinalizedTransitionRecord} {revision : Int} {sesion : Texto}
    {reloj : Nat} (pending : s.pending = some d)
    (publicado : s.chain.head?.map (·.transitionId) = some d.2.transitionId)
    (libre : s.reserved = false) :
    Lleva (fun b => Representa sha256 rootId b s) (rotarJournalLocked sha256 r revision sesion reloj)
      (fun _ b => Representa sha256 rootId b { s with pending := none })
      (fun b => Representa sha256 rootId b s) := by
  unfold rotarJournalLocked
  apply Lleva.leyendo
  intro a representa
  have queda : ∀ b, b = a → Representa sha256 rootId b s := fun b igual => igual ▸ representa
  have vigente := representa.vigente pending
  refine Lleva.comprueba queda fun snapshot cargado => ?_
  obtain rfl := Except.ok.inj (cargado.symm.trans vigente.1)
  split
  · next rotado =>
    rw [Option.map_some, vigente.2.1] at rotado
    cases rotado
  refine Lleva.comprueba queda fun f hay => Lleva.comprueba queda fun _ propio => ?_
  refine Lleva.comprueba queda fun _ _ => ?_
  have mismo : enPending (some d.1) = some d := by simp only [enPending, vigente.2.1]
  obtain rfl := Option.some.inj ((present_ok.mp hay).symm.trans mismo)
  have propio := require_ok.mp propio
  have paso : Closing protocolo s { s with pending := none } := .rotate pending publicado libre
  have alguno : s.chain ≠ [] := by
    rintro vacia
    rw [vacia] at publicado
    cases publicado
  apply Lleva.escribeJournal queda
  intro b raw igual valido bytes
  have dicho : Dice (some ⟨revision + 1, reloj, sesion, .none (some r.transitionId)⟩)
      { s with pending := none } := ⟨rfl, alguno, propio ▸ publicado.symm⟩
  refine igual ▸ representa.escribeJournal (paso.sound representa.sound) rfl
    (reservasDe_mismas rfl rfl fun reservada => ?_) dicho (fun no => absurd rfl no) valido bytes
  rw [libre] at reservada
  cases reservada

theorem validarPostEvidence_ok {u : Unit} (valida : validarPostEvidence e = .ok u) :
    DigestHex e.payloadDigest ∧ 1 ≤ e.verifiedAtNs := by
  simp only [validarPostEvidence, bind_ok, require_ok, exists_const] at valida
  exact ⟨valida.2.2.2.2.1, valida.2.2.2.2.2.2.2.2.2.1⟩

theorem construirRegistro_registra (representa : Representa sha256 rootId a s) {d : Vigente}
    (pending : s.pending = some d) {u : Unit} (valida : validarPostEvidence e = .ok u)
    (ligada : Ligada d.1 d.2 e) (reloj : Nat) :
    Registra sha256 e s d (construirRegistro d.2 (historialDe s.chain) e reloj) := by
  obtain ⟨-, -, -, valido⟩ := representa.vigente pending
  have evidencia := validarPostEvidence_ok valida
  have seq : (historialDe s.chain).nextSeq = s.chain.length + 1 := historialDe_nextSeq
  have latest : (historialDe s.chain).latest = s.chain.head? := historialDe_latest
  refine ⟨ligada, ⟨rfl, rfl, ⟨rfl, rfl, rfl⟩, ⟨rfl, rfl, rfl⟩, rfl, ⟨rfl, rfl, rfl⟩, rfl, rfl⟩,
    rfl, seq, ?_, ?_⟩
  · simp only [construirRegistro, latest]
  · constructor
    · exact valido.transicion
    · simp only [construirRegistro, seq]
      omega
    · simp only [construirRegistro, latest]
      intro t mem
      obtain ⟨r, ultimo, rfl⟩ := Option.mem_map.mp mem
      exact (representa.validos r (List.mem_of_mem_head? ultimo)).1.transicion.2
    · exact valido.fuente
    · exact valido.fuenteHex
    · exact valido.fuenteDigest
    · rfl
    · exact valido.generacion
    · exact valido.clone
    · exact valido.setup
    · exact valido.candidato
    · exact valido.scope
    · exact valido.aprobacion
    · exact valido.aprobacionSeq
    · exact evidencia.1
    · exact evidencia.2
    · exact Int.natCast_nonneg _

/-- A reservation that is left over is of a transition without a record. -/
theorem Representa.sinReserva (representa : Representa sha256 rootId a s) {d : Vigente}
    (pending : s.pending = some d) (publicado : d.2.transitionId ∈ s.chain.map (·.transitionId)) :
    s.reserved = false := by
  cases reservada : s.reserved with
  | false => rfl
  | true =>
    obtain ⟨f, otro, fresca⟩ := representa.sound.reserved reservada
    obtain rfl := Option.some.inj (otro.symm.trans pending)
    exact absurd publicado fresca

/-- A record that is there is completed only while it is the last one. -/
theorem completar_cierra (representa : Representa sha256 rootId a s) {doc : Journal}
    (dice : Dice (some doc) s) {r : FinalizedTransitionRecord} (publicado : r ∈ s.chain)
    (propio : r.transitionId = e.transitionId) {reloj : Nat} :
    Lleva (· = a) (completarFinalizacion sha256 doc r (historialDe s.chain) e sesion reloj)
      (fun x => Hasta sha256 rootId (Finalizada e x) s) (Hasta sha256 rootId (Finaliza e) s) := by
  have queda : ∀ b, b = a → Hasta sha256 rootId (Finaliza e) s b := fun b =>
    Hasta.quieto .quieto representa
  unfold completarFinalizacion
  refine Lleva.comprueba queda fun _ _ => Lleva.comprueba queda fun _ _ => ?_
  cases cuerpo : doc.cuerpo with
  | none testigo =>
    refine Lleva.comprueba queda fun _ _ => Lleva.termina fun b igual => ?_
    simp only [Dice, cuerpo] at dice
    refine Hasta.quieto ⟨.quieto, dice.1, publicado, propio, fun d pending => ?_⟩ representa igual
    rw [dice.1] at pending
    cases pending
  | pendiente p =>
    refine Lleva.comprueba queda fun _ coincide => Lleva.comprueba queda fun _ coherente => ?_
    have coincide := require_ok.mp coincide
    have ligada := exigirEvidenciaCoherente_ok.mp coherente
    have misma : r.transitionId = p.transitionId := propio.trans ligada.1.symm
    have pending : s.pending = some (doc, p) := by
      simp only [Dice, cuerpo] at dice
      exact dice
    have ultimo : s.chain.head?.map (·.transitionId) = some p.transitionId := by
      have latest := coincide.2.2.2.2.2.2.2.2.2.2
      rwa [historialDe_latest, misma] at latest
    have libre := representa.sinReserva pending (List.mem_map.mpr ⟨r, publicado, misma⟩)
    have paso : Closing protocolo s { s with pending := none } := .rotate pending ultimo libre
    apply Lleva.bind
      (q := fun _ b => Representa sha256 rootId b { s with pending := none })
    · apply Lleva.desde (p := fun b => Representa sha256 rootId b s) representa
      exact (rotar_cierra pending ultimo libre).afloja (fun _ _ done => done)
        fun b mismo => ⟨s, .quieto, mismo⟩
    · intro _
      apply Lleva.termina
      intro b rotado
      refine ⟨_, ⟨⟨.single paso, fun _ mem => .inl mem⟩, rfl, publicado, propio, ?_⟩, rotado⟩
      intro d otro
      obtain rfl := Option.some.inj (otro.symm.trans pending)
      exact ligada

theorem finalizar_cierra (raiz : rootId ≠ []) (representa : Representa sha256 rootId a s)
    {relojRegistro relojJournal : Nat} :
    Lleva (· = a) (finalizarLocked sha256 rootId e sesion relojRegistro relojJournal)
      (fun x => Hasta sha256 rootId (Finalizada e x) s) (Hasta sha256 rootId (Finaliza e) s) := by
  have queda : ∀ b, b = a → Hasta sha256 rootId (Finaliza e) s b := fun b =>
    Hasta.quieto .quieto representa
  unfold finalizarLocked
  apply Lleva.leyendo
  rintro _ rfl
  refine Lleva.comprueba queda fun _ dirs => Lleva.comprueba queda fun _ valida => ?_
  refine Lleva.comprueba queda fun snapshot cargado => Lleva.comprueba queda fun doc hay => ?_
  refine Lleva.comprueba queda fun historial derivado => Lleva.comprueba queda fun _ _ => ?_
  have existen := exigirDirsStore_ok.mp dirs
  obtain ⟨_, leido, dice⟩ := representa.cargar
  obtain rfl := Except.ok.inj (cargado.symm.trans leido)
  obtain rfl := present_ok.mp hay
  rw [representa.derivar existen.1] at derivado
  obtain rfl := Except.ok.inj derivado
  split
  · next r hallado =>
    have mem := List.mem_of_find?_eq_some hallado
    rw [historialDe_registros, List.mem_reverse] at mem
    exact completar_cierra representa dice mem (by simpa using List.find?_some hallado)
  · next ninguno =>
    cases cuerpo : doc.cuerpo with
    | none testigo => exact Lleva.falla queda
    | pendiente p =>
      refine Lleva.comprueba queda fun _ coherente => ?_
      have ligada := exigirEvidenciaCoherente_ok.mp coherente
      have pending : s.pending = some (doc, p) := by
        simp only [Dice, cuerpo] at dice
        exact dice
      have fresca : p.transitionId ∉ s.chain.map (·.transitionId) := by
        intro mem
        obtain ⟨r, mem, misma⟩ := List.mem_map.mp mem
        have test := List.find?_eq_none.mp ninguno r
          (historialDe_registros ▸ List.mem_reverse.mpr mem)
        exact test (decide_eq_true (misma.trans ligada.1))
      have registra := construirRegistro_registra representa pending valida ligada relojRegistro
      obtain ⟨R, construido⟩ : ∃ R, construirRegistro p (historialDe s.chain) e relojRegistro = R :=
        ⟨_, rfl⟩
      rw [construido] at registra ⊢
      have reserva := Closing.reserve (P := protocolo) pending fresca
      have publica : Closing protocolo { s with reserved := true }
          { s with chain := R :: s.chain, reserved := false } :=
        .publish pending rfl fresca ⟨e, ligada, registra.cierra⟩ registra.propio registra.numero
          registra.previa
      have rota : Closing protocolo { s with chain := R :: s.chain, reserved := false }
          ⟨R :: s.chain, none, false⟩ :=
        .rotate pending (congrArg some registra.propio) rfl
      have nuevos : ∀ r ∈ R :: s.chain, r ∈ s.chain ∨ validarPostEvidence e = .ok () ∧
          ∃ d, s.pending = some d ∧ Ligada d.1 d.2 e ∧ Cierra d e r ∧
            r.transitionId = d.2.transitionId := by
        intro r mem
        rcases List.mem_cons.mp mem with rfl | mem
        · exact .inr ⟨valida, _, pending, ligada, registra.cierra, registra.propio⟩
        · exact .inl mem
      dsimp only
      rw [registra.numero, registra.propio]
      apply Lleva.bind ((reservar_cierra raiz pending fresca representa).afloja
        (fun _ _ done => done) fun b mismo => ⟨s, .quieto, mismo⟩)
      intro _
      apply Lleva.bind ((persistir_cierra (s := { s with reserved := true }) pending fresca rfl
        ⟨ligada, registra.cierra, registra.propio, registra.numero, registra.previa,
          registra.valido⟩).afloja (fun _ _ done => done)
        fun b mismo => ⟨_, ⟨.single reserva, fun _ mem => .inl mem⟩, mismo⟩)
      intro x
      apply Lleva.pura
      rintro rfl
      apply Lleva.bind ((rotar_cierra (s := { s with chain := x :: s.chain, reserved := false })
        pending (congrArg some registra.propio) rfl).afloja (fun _ _ done => done)
        fun b mismo => ⟨_, ⟨.tail (.single reserva) publica, nuevos⟩, mismo⟩)
      intro _
      apply Lleva.termina
      intro b rotado
      refine ⟨_, ⟨⟨.tail (.tail (.single reserva) publica) rota, nuevos⟩, rfl,
        List.mem_cons_self, registra.propio.trans ligada.1, ?_⟩, rotado⟩
      intro d otro
      obtain rfl := Option.some.inj (otro.symm.trans pending)
      exact ligada

/-! Runs -/

theorem Lleva.final {t : Tarea α} (lleva : Lleva (· = a) t (fun _ => fin) fin) (n : Nat) :
    fin (t ⟨a, n⟩).2.almacen := by
  have hecho := lleva.run ⟨a, n⟩ rfl
  cases corrida : t ⟨a, n⟩ with
  | mk resultado d =>
    rw [corrida] at hecho
    cases resultado <;> exact hecho

theorem Representa.pendiente (representa : Representa sha256 rootId a s) :
    (cargarJournalTransicion sha256 a).map enPending = .ok s.pending := by
  obtain ⟨snapshot, cargado, dice⟩ := representa.cargar
  rw [cargado]
  exact congrArg Except.ok (enPending_dice dice)

/-- An UPDATE that takes effect is of a transition that has no record yet. -/
def Permitido (sha256 : Bytes → Texto) (a : Almacen) (e : Evento) : Prop :=
  match e.transicion with
  | .update id revision cambios => ∀ d, (cargarJournalTransicion sha256 a).map enPending = .ok (some d) →
      Actualizable d id revision cambios →
      ∀ archivo ∈ publicados (a.transitions.getD []), archivo.1 ≠ d.2.transitionId
  | _ => True

theorem step_finaliza (raiz : rootId ≠ []) (representa : Representa sha256 rootId a s)
    {relojRegistro relojJournal n : Nat} {b : Almacen}
    (moved : step sha256 rootId a ⟨.finalize e sesion relojRegistro relojJournal, n⟩ = some b) :
    Hasta sha256 rootId (Finaliza e) s b := by
  obtain rfl := Option.some.inj moved
  have lleva : Lleva (· = a)
      (Transicion.tarea sha256 rootId (.finalize e sesion relojRegistro relojJournal))
      (fun _ => Hasta sha256 rootId (Finaliza e) s) (Hasta sha256 rootId (Finaliza e) s) := by
    apply Lleva.bind (finalizar_cierra raiz representa)
    intro x
    apply Lleva.termina
    rintro b ⟨t, finalizada, despues⟩
    exact ⟨t, finalizada.toFinaliza, despues⟩
  exact lleva.final n

/-- However a transition ends, the chain goes on from where it was. -/
theorem step_avanza (raiz : rootId ≠ []) (representa : Representa sha256 rootId a s) {ev : Evento}
    {b : Almacen} (moved : step sha256 rootId a ev = some b) :
    Avanzan sha256 rootId (Permitido sha256 a ev) s b := by
  obtain rfl := Option.some.inj moved
  obtain ⟨transicion, escrituras⟩ := ev
  cases transicion with
  | create propuesta aprobacion sesion => exact (crear_avanza representa).final escrituras
  | startNext propuesta aprobacion sesion => exact (startNext_avanza representa).final escrituras
  | update id revision cambios =>
    refine (actualizar_avanza representa fun permitido d pending actualizable dentro => ?_).final
      escrituras
    obtain ⟨r, mem, misma⟩ := List.mem_map.mp dentro
    exact permitido d (pending ▸ representa.pendiente) actualizable (archivoRegistro r)
      (representa.registros.mem_iff.mpr (List.mem_map_of_mem mem)) misma
  | finalize e sesion relojRegistro relojJournal =>
    obtain ⟨t, finaliza, despues⟩ := step_finaliza raiz representa (n := escrituras) rfl
    exact ⟨t, finaliza.avanza, despues⟩

theorem Inicial.representa (inicial : Inicial a) :
    Representa sha256 rootId a ⟨[], none, false⟩ := by
  obtain ⟨sinJournal, registros, reservas⟩ := inicial
  have vacio : ∀ dir : Option (List (Texto × Bytes)), (∀ d ∈ dir, d = []) → dir.getD [] = [] := by
    intro dir vacia
    cases dir with
    | none => rfl
    | some d => exact vacia d rfl
  constructor
  · exact ⟨trivial, List.nodup_nil, nofun⟩
  · exact ⟨none, ⟨rfl, rfl⟩, sinJournal⟩
  · rw [vacio _ registros]
    exact List.Perm.nil
  · exact fun _ mem => absurd mem List.not_mem_nil
  · rw [vacio _ reservas]
    exact List.Perm.nil
  · exact fun _ mem => absurd mem List.not_mem_nil
  · rw [vacio _ registros, vacio _ reservas]
    exact ⟨List.Pairwise.nil, List.Pairwise.nil⟩
  · exact fun no => absurd rfl no

abbrev Alcanza (sha256 : Bytes → Texto) (rootId : Texto) (inicio : Almacen → Prop) :=
  Reaches (step sha256 rootId) inicio fun _ _ => True

/-- The record closes what was the journal in force once in the run. -/
def Cerrado (sha256 : Bytes → Texto) (rootId : Texto) (a : Almacen)
    (r : FinalizedTransitionRecord) : Prop :=
  ∃ c doc p e, Alcanza sha256 rootId Inicial c ∧ Alcanza sha256 rootId (· = c) a ∧
    cargarJournalTransicion sha256 c = .ok (some doc) ∧ doc.cuerpo = .pendiente p ∧
    Ligada doc p e ∧ Cierra (doc, p) e r

theorem Alcanza.representa (raiz : rootId ≠ []) (alcanzado : Alcanza sha256 rootId Inicial a) :
    ∃ s, Representa sha256 rootId a s ∧ ∀ r ∈ s.chain, Cerrado sha256 rootId a r := by
  induction alcanzado with
  | start inicial => exact ⟨_, inicial.representa, fun _ mem => absurd mem List.not_mem_nil⟩
  | @next a b e antes ok moved ih =>
    obtain ⟨s, representa, cerrados⟩ := ih
    obtain ⟨t, avanza, nuevo⟩ := step_avanza raiz representa moved
    have paso : Alcanza sha256 rootId (· = a) b := .next (.start rfl) ok moved
    refine ⟨t, nuevo, fun r mem => ?_⟩
    rcases avanza.origen r mem with viejo | ⟨d, pending, ⟨e, ligada, cierra⟩, -⟩
    · obtain ⟨c, doc, p, e, inicio, hasta, resto⟩ := cerrados r viejo
      exact ⟨c, doc, p, e, inicio, hasta.trans paso, resto⟩
    · obtain ⟨cargado, cuerpo, -⟩ := representa.vigente pending
      exact ⟨a, d.1, d.2, e, antes, paso, cargado, cuerpo, ligada, cierra⟩

theorem Alcanza.avanza (raiz : rootId ≠ []) (representa : Representa sha256 rootId a s)
    {b : Almacen} (hasta : Alcanza sha256 rootId (· = a) b) :
    ∃ t, Steps protocolo s t ∧ Representa sha256 rootId b t := by
  induction hasta with
  | start igual => exact ⟨s, .refl, igual ▸ representa⟩
  | next antes ok moved ih =>
    obtain ⟨t, pasos, medio⟩ := ih
    obtain ⟨u, avanza, nuevo⟩ := step_avanza raiz medio moved
    exact ⟨u, pasos.trans avanza.pasos, nuevo⟩

/-! What the files are in every durable state -/

/-- Reading the bytes gives a document, the only one that is written as they are. -/
def Fiel (leer : Bytes → Except JournalError α) (serializar : α → Json) (raw : Bytes) : Prop :=
  ∃ x, leer raw = .ok x ∧ bytesDe (serializar x) = .ok raw ∧
    ∀ y, bytesDe (serializar y) = .ok raw → y = x

theorem Fiel.escrito {parse : Json → Except JournalError α} {serializar : α → Json}
    (ordered : ∀ x, Ordered (serializar x)) (objeto : ∀ x, ∃ members, serializar x = .obj members)
    (propio : ∀ x y, parse (serializar y) = .ok x → y = x) {x : α} {raw : Bytes}
    (bytes : bytesDe (serializar x) = .ok raw) (leido : parse (serializar x) = .ok x) :
    Fiel (fun raw => leerJsonEstricto raw >>= parse) serializar raw := by
  have json := leerJsonEstricto_bytesDe (ordered x) (objeto x) bytes
  refine ⟨x, bind_ok.mpr ⟨_, json, leido⟩, bytes, fun y otro => propio x y ?_⟩
  have mismo := leerJsonEstricto_bytesDe (ordered y) (objeto y) otro
  rw [json] at mismo
  rw [← Except.ok.inj mismo, leido]

structure CadenaIntegra (sha256 : Bytes → Texto) (rootId : Texto) (a : Almacen)
    (snapshot : Option Journal) (registros : List FinalizedTransitionRecord)
    (reservas : List SeqReservation) : Prop where
  journal : cargarJournalTransicion sha256 a = .ok snapshot
  leidos : (publicados (a.transitions.getD [])).mapM (leerRegistro sha256) = .ok registros
  leidas : (publicados (a.finalizationSeqs.getD [])).mapM (leerReserva rootId) = .ok reservas
  seqs : ∀ k, k ∈ registros.map (·.finalizationSeq) ↔ 1 ≤ k ∧ k ≤ (registros.length : Int)
  sinRepetir : (registros.map (·.finalizationSeq)).Nodup ∧ (registros.map (·.transitionId)).Nodup
  previa : ∀ r ∈ registros, (r.finalizationSeq = 1 ∧ r.finalizedFromTransitionId = none) ∨
    ∃ q ∈ registros, r.finalizationSeq = q.finalizationSeq + 1 ∧
      r.finalizedFromTransitionId = some q.transitionId
  propia : ∀ r ∈ registros, ⟨rootId, r.finalizationSeq, r.transitionId⟩ ∈ reservas ∧
    ∀ v ∈ reservas, v.finalizationSeq = r.finalizationSeq → v.transitionId = r.transitionId
  /-- A reservation without a record is the next one, of the PENDING. -/
  huerfana : ∀ v ∈ reservas, v.finalizationSeq ∈ registros.map (·.finalizationSeq) ∨
    v.finalizationSeq = (registros.length : Int) + 1 ∧
      ∃ d, enPending snapshot = some d ∧ v.transitionId = d.2.transitionId
  fielJournal : ∀ raw ∈ a.transition,
    Fiel (fun raw => leerJsonEstricto raw >>= parsearJournal sha256) serializarJournal raw
  fielesRegistros : ∀ archivo ∈ publicados (a.transitions.getD []),
    Fiel (fun raw => leerRegistro sha256 (archivo.1, raw)) serializarRegistro archivo.2
  fielesReservas : ∀ archivo ∈ publicados (a.finalizationSeqs.getD []),
    Fiel (fun raw => leerReserva rootId (archivo.1, raw)) serializarReserva archivo.2

theorem objeto_serializarJournal (doc : Journal) : ∃ members, serializarJournal doc = .obj members := by
  unfold serializarJournal
  split <;> exact ⟨_, rfl⟩

theorem objeto_serializarRegistro (r : FinalizedTransitionRecord) :
    ∃ members, serializarRegistro r = .obj members := ⟨_, rfl⟩

theorem Representa.fielJournal (representa : Representa sha256 rootId a s) :
    ∀ raw ∈ a.transition,
      Fiel (fun raw => leerJsonEstricto raw >>= parsearJournal sha256) serializarJournal raw := by
  intro raw hay
  obtain ⟨snapshot, -, escrito⟩ := representa.journal
  cases snapshot with
  | none =>
    rw [escrito] at hay
    cases hay
  | some doc =>
    obtain ⟨valido, otro, bytes, archivo⟩ := escrito
    obtain rfl := Option.some.inj (archivo.symm.trans hay)
    exact .escrito ordered_serializarJournal objeto_serializarJournal
      (fun _ _ leido => (parsearJournal_ok.mp leido).2) bytes (parsearJournal_ok.mpr ⟨valido, rfl⟩)

theorem Representa.fielesRegistros (representa : Representa sha256 rootId a s) :
    ∀ archivo ∈ publicados (a.transitions.getD []),
      Fiel (fun raw => leerRegistro sha256 (archivo.1, raw)) serializarRegistro archivo.2 := by
  intro archivo mem
  obtain ⟨r, dentro, rfl⟩ := List.mem_map.mp (representa.registros.subset mem)
  obtain ⟨valido, bytes⟩ := representa.validos r dentro
  have propio : ∀ x y, validarRegistro sha256 (serializarRegistro y) r.transitionId = .ok x → y = x :=
    fun _ _ leido => (validarRegistro_ok.mp leido).2.2
  have leido : validarRegistro sha256 (serializarRegistro r) r.transitionId = .ok r :=
    validarRegistro_ok.mpr ⟨valido, rfl, rfl⟩
  exact @Fiel.escrito _ (fun json => validarRegistro sha256 json r.transitionId) _
    ordered_serializarRegistro objeto_serializarRegistro propio r _ bytes leido

theorem Representa.fielesReservas (representa : Representa sha256 rootId a s) :
    ∀ archivo ∈ publicados (a.finalizationSeqs.getD []),
      Fiel (fun raw => leerReserva rootId (archivo.1, raw)) serializarReserva archivo.2 := by
  intro archivo mem
  obtain ⟨v, dentro, rfl⟩ := List.mem_map.mp (representa.reservas.subset mem)
  obtain ⟨valida, bytes⟩ := representa.validas v dentro
  have leida : validarReserva (serializarReserva v) (nombreSeq v.finalizationSeq) rootId = .ok v :=
    validarReserva_ok.mpr ⟨valida, rfl, rfl⟩
  exact @Fiel.escrito _ (fun json => validarReserva json (nombreSeq v.finalizationSeq) rootId) _
    ordered_serializarReserva (fun _ => ⟨_, rfl⟩) (fun _ _ leido => (validarReserva_ok.mp leido).2.2)
    v _ bytes leida

theorem Representa.integra (representa : Representa sha256 rootId a s) :
    ∃ snapshot registros reservas, CadenaIntegra sha256 rootId a snapshot registros reservas ∧
      Dice snapshot s ∧ registros.Perm s.chain := by
  obtain ⟨snapshot, cargado, dice⟩ := representa.cargar
  obtain ⟨registros, leidos, orden⟩ := mapM_perm representa.registros fun r mem =>
    leerRegistro_archivo (representa.validos r mem).1 (representa.validos r mem).2
  obtain ⟨reservas, leidas, ordenReservas⟩ := mapM_perm representa.reservas fun v mem =>
    leerReserva_archivo (representa.validas v mem).1 (representa.validas v mem).2
  have numerada := representa.sound.numbered
  have seqs := orden.map (·.finalizationSeq)
  have numeros : ∀ k, k ∈ registros.map (·.finalizationSeq) ↔ 1 ≤ k ∧ k ≤ (registros.length : Int) := by
    intro k
    rw [seqs.mem_iff, mem_seqs numerada, orden.length_eq]
  refine ⟨snapshot, registros, reservas, ?_, dice, orden⟩
  constructor
  · exact cargado
  · exact leidos
  · exact leidas
  · exact numeros
  · exact ⟨seqs.nodup_iff.mpr (nodup_seqs numerada),
      (orden.map (·.transitionId)).nodup_iff.mpr representa.sound.names⟩
  · intro r mem
    rcases numerada.predecessor (orden.subset mem) with primero | ⟨q, dentro, siguiente⟩
    · exact .inl primero
    · exact .inr ⟨q, orden.mem_iff.mpr dentro, siguiente⟩
  · intro r mem
    have dentro := orden.subset mem
    refine ⟨ordenReservas.mem_iff.mpr (mem_reservasDe.mpr (.inr ⟨r, dentro, rfl⟩)), ?_⟩
    intro v mem misma
    rcases mem_reservasDe.mp (ordenReservas.subset mem) with ⟨-, d, -, rfl⟩ | ⟨q, hq, rfl⟩
    · have rango := ((mem_seqs numerada).mp (List.mem_map_of_mem dentro)).2
      simp only at misma
      omega
    · rw [List.inj_on_of_nodup_map (nodup_seqs numerada) hq dentro misma]
  · intro v mem
    rcases mem_reservasDe.mp (ordenReservas.subset mem) with ⟨-, d, pending, rfl⟩ | ⟨q, hq, rfl⟩
    · refine .inr ⟨by rw [orden.length_eq], d, (enPending_dice dice).trans pending, rfl⟩
    · exact .inl (seqs.mem_iff.mpr (List.mem_map_of_mem hq))
  · exact representa.fielJournal
  · exact representa.fielesRegistros
  · exact representa.fielesReservas

/-- The chain of finalized transitions, in every state that runs of CREATE, START_NEXT, UPDATE and
FINALIZE leave, each of them cut anywhere. -/
theorem cadena_finalizada (raiz : rootId ≠ []) (alcanzado : Alcanza sha256 rootId Inicial a) :
    (∃ snapshot registros reservas, CadenaIntegra sha256 rootId a snapshot registros reservas ∧
      ∀ r ∈ registros, Cerrado sha256 rootId a r) ∧
    (∀ b, Alcanza sha256 rootId (· = a) b → ∀ archivo ∈ publicados (a.transitions.getD []),
      archivo ∈ publicados (b.transitions.getD [])) ∧
    -- there is no other PENDING until this one has its record
    ∀ e b d, step sha256 rootId a e = some b →
      (cargarJournalTransicion sha256 a).map enPending = .ok (some d) →
      (∃ f, (cargarJournalTransicion sha256 b).map enPending = .ok (some f) ∧
        f.2.transitionId = d.2.transitionId) ∨
      ∃ archivo ∈ publicados (b.transitions.getD []), archivo.1 = d.2.transitionId := by
  obtain ⟨s, representa, cerrados⟩ := alcanzado.representa raiz
  refine ⟨?_, ?_, ?_⟩
  · obtain ⟨snapshot, registros, reservas, integra, -, orden⟩ := representa.integra
    exact ⟨snapshot, registros, reservas, integra, fun r mem => cerrados r (orden.subset mem)⟩
  · intro b hasta archivo mem
    obtain ⟨t, pasos, nuevo⟩ := hasta.avanza raiz representa
    have viejo := representa.registros.subset mem
    exact nuevo.registros.mem_iff.mpr ((pasos.chain_suffix.map archivoRegistro).subset viejo)
  · intro e b d moved pending
    obtain ⟨t, avanza, nuevo⟩ := step_avanza raiz representa moved
    obtain ⟨snapshot, cargado, dice⟩ := representa.cargar
    obtain ⟨despues, leido, dicho⟩ := nuevo.cargar
    rw [cargado] at pending
    have vigente : s.pending = some d := (enPending_dice dice).symm.trans (Except.ok.inj pending)
    rcases avanza.pasos.pending_until vigente with ⟨f, sigue, misma⟩ | publicado
    · refine .inl ⟨f, ?_, misma⟩
      rw [leido]
      exact congrArg Except.ok ((enPending_dice dicho).trans sigue)
    · obtain ⟨r, mem, misma⟩ := List.mem_map.mp publicado
      exact .inr ⟨archivoRegistro r, nuevo.registros.mem_iff.mpr (List.mem_map_of_mem mem), misma⟩

end

/-! A run that is cut once the record is there, and again before the journal is rotated -/

def sha256Fijo (_ : Bytes) : Texto := List.replicate 64 (.scalar 'a')

def idFijo (c : Char) : Texto :=
  (lit "00000000-0000-4000-8000-000000000000").dropLast ++ [.scalar c]

def generacionFija : Texto := lit "1.6__aaaaaaaaaaaa"

def propuestaFija : PropuestaTransicion where
  transitionId := idFijo '1'
  operation := .promotion
  sourceActivation := ⟨none, none, none, none⟩
  sourceActivationDigest := sha256Fijo []
  targetGenerationId := generacionFija
  targetCloneId := lit "c"
  targetRuntimeSetupId := lit "s"
  candidateId := some (lit "k")
  approvalScopeDigest := sha256Fijo []
  evidenceDigests := ⟨sha256Fijo [], sha256Fijo [], sha256Fijo []⟩
  expectedEffectivePath := lit "p"
  createdAtNs := 1

def aprobacionFija : AprobacionConsumida where
  approvalId := idFijo '2'
  approvalSeq := 1
  scopeDigest := sha256Fijo []
  consumedByTransitionId := idFijo '1'
  proyeccion := proyectarPropuesta propuestaFija (idFijo '2') 1

def evidenciaFija (revision : Int) : PostVerifyEvidence where
  transitionId := idFijo '1'
  resultado := lit "PASS"
  sourceActivationDigest := sha256Fijo []
  targetGenerationId := generacionFija
  targetCloneId := lit "c"
  targetRuntimeSetupId := lit "s"
  desiredActiveGeneration := some generacionFija
  effectiveObservationDigest := sha256Fijo []
  payloadDigest := sha256Fijo []
  verifiedAtNs := 1
  expectedJournalRevision := revision

def creaFija : Evento := ⟨.create propuestaFija aprobacionFija (idFijo '3'), 1⟩

def finalizaFija (escrituras : Nat) : Evento :=
  ⟨.finalize (evidenciaFija 0) (idFijo '3') 1 1, escrituras⟩

def vacioFijo : Almacen := ⟨none, some [], some []⟩

theorem cadena_finalizada_tras_cortes :
    ∃ a, run (step sha256Fijo (lit "r")) vacioFijo [creaFija, finalizaFija 3, finalizaFija 4] =
        some a ∧
      ∃ snapshot registros reservas,
        CadenaIntegra sha256Fijo (lit "r") a snapshot registros reservas := by
  have inicial : Inicial vacioFijo := by simp [Inicial, vacioFijo]
  obtain ⟨a, corrida⟩ : ∃ a, run (step sha256Fijo (lit "r")) vacioFijo
      [creaFija, finalizaFija 3, finalizaFija 4] = some a := ⟨_, rfl⟩
  have alcanzado : Alcanza sha256Fijo (lit "r") Inicial a :=
    .of_run (.start inicial) (fun _ _ => trivial) corrida
  obtain ⟨⟨snapshot, registros, reservas, integra, -⟩, -⟩ :=
    cadena_finalizada (by decide) alcanzado
  exact ⟨a, corrida, snapshot, registros, reservas, integra⟩

end TransitionJournal
