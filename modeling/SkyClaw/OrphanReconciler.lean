import SkyClaw.ArtifactBoundaries

set_option linter.all false

/-!
`reconciliar_orphan_de_artifact`, in `handoffs.py`, after a boundary that sealed
the evidence of its artifact. Other operations may run wherever it awaits.
-/
namespace OperationJournal
open KeyedRows ImplicitTransaction Relation

inductive ArtifactReachability where
  | present
  | absent
  | unknown
  deriving DecidableEq

/-- What `digest_arbol` answers. -/
structure DigestDeArbol where
  digest : String
  files : Int
  bytes : Int
  deriving DecidableEq

/-- The keys and the profile that a new handoff is registered with. -/
structure Contexto where
  gameKey : String
  modsRootKey : String
  dataKey : String
  expectedProfile : String

inductive Reconciliacion where
  | nada
  | handoff (h : DeploymentHandoff)
  | sinResolver (candidatas : List Nat)

/-- What the reconciler awaits. An await that raises ends it. -/
inductive Reconciliador where
  | fin (resultado : Reconciliacion)
  | consultaActivo (artifactPath : String) (sigue : Option DeploymentHandoff → Reconciliador)
  | consultaCandidatas (objetivo : String) (sigue : List Nat → Reconciliador)
  | pideAlcance (sigue : ArtifactReachability → Reconciliador)
  | pideDigest (sigue : Option DigestDeArbol → Reconciliador)
  | opera (op : Operacion) (sigue : Respuesta → Reconciliador)

/-- The times of a record that is to be inserted are SQLite's to fill in. -/
def registroIndeterminado (sourceTxId : Nat) (artifactPath : String) (c : Contexto)
    (observado : Option DigestDeArbol) : DeploymentHandoff where
  handoffId := 0
  sourceTxId := sourceTxId
  state := .indeterminate
  artifactPath := artifactPath
  gameKey := c.gameKey
  modsRootKey := c.modsRootKey
  dataKey := c.dataKey
  expectedProfile := c.expectedProfile
  expectedDigest := none
  expectedFiles := none
  expectedBytes := none
  observedDigest := observado.map (·.digest)
  observedFiles := observado.map (·.files)
  observedBytes := observado.map (·.bytes)
  createdAt := 0
  updatedAt := 0
  completedAt := none
  supersededAt := none
  supersededBy := none

def coincide (activo : DeploymentHandoff) : Option DigestDeArbol → Bool
  | none => false
  | some observado => activo.expectedDigest.isSome ∧
    (some observado.digest, some observado.files, some observado.bytes) =
      (activo.expectedDigest, activo.expectedFiles, activo.expectedBytes)

def degradarAIndeterminate (activo : DeploymentHandoff) (observado : Option DigestDeArbol) :
    Operacion :=
  .transicionarHandoff activo.handoffId .superseding .indeterminate
    [.expectedDigest none, .expectedFiles none, .expectedBytes none,
      .observedDigest (observado.map (·.digest)), .observedFiles (observado.map (·.files)),
      .observedBytes (observado.map (·.bytes))]

def respondeActivo (artifactPath : String) : Reconciliador :=
  .consultaActivo artifactPath fun
    | some h => .fin (.handoff h)
    | none => .fin .nada

def reconciliarOrphanDeArtifact (clave : String → String) (modTexgen : String) (c : Contexto) :
    Reconciliador :=
  let ruta := clave modTexgen
  .consultaActivo ruta fun
    | some activo =>
      if activo.state = .superseding then
        .pideDigest fun observado =>
          if coincide activo observado then
            .opera (.transicionarHandoff activo.handoffId .superseding .awaitingDeployment []) fun _ =>
              respondeActivo ruta
          else .opera (degradarAIndeterminate activo observado) fun _ => respondeActivo ruta
      else .fin (.handoff activo)
    | none => .consultaCandidatas ruta fun
      | [] => .fin .nada
      | primera :: resto => .pideAlcance fun
        | .unknown => .fin (.sinResolver (primera :: resto))
        | .absent =>
          .opera (.resolverEvidenciaComoNoArtifact ruta (primera :: resto)) fun _ => .fin .nada
        | .present => .pideDigest fun observado =>
          .opera (.registrarHandoffIndeterminado (registroIndeterminado primera ruta c observado)
            (primera :: resto) (some (primera :: resto))) fun _ => respondeActivo ruta

def consultarHandoffActivo (artifactPath : String) (averia : Averia) (j : Journal) :
    Except Fallo (Option DeploymentHandoff) :=
  ((Body.query fun db => db.handoffActivo artifactPath : Sql _) (j.conn.working, averia.fault)).1

/-- The operations that a reconciler may issue, when each of its reads sees a
    journal in `vistos`. -/
inductive Emite (clave : String → String) (vistos : Journal → Prop) :
    Reconciliador → Operacion → Prop where
  | aqui {op : Operacion} {sigue : Respuesta → Reconciliador} :
      Emite clave vistos (.opera op sigue) op
  | trasOperar {op op' : Operacion} {sigue : Respuesta → Reconciliador} (r : Respuesta)
      (later : Emite clave vistos (sigue r) op') : Emite clave vistos (.opera op sigue) op'
  | trasActivo {path : String} {sigue : Option DeploymentHandoff → Reconciliador} {op : Operacion}
      {j : Journal} {averia : Averia} {activo : Option DeploymentHandoff} (seen : vistos j)
      (answered : consultarHandoffActivo path averia j = .ok activo)
      (later : Emite clave vistos (sigue activo) op) :
      Emite clave vistos (.consultaActivo path sigue) op
  | trasCandidatas {objetivo : String} {sigue : List Nat → Reconciliador} {op : Operacion}
      {j : Journal} {averia : Averia} {ids : List Nat} (seen : vistos j)
      (answered : transaccionesQueNombran clave objetivo averia j = .ok ids)
      (later : Emite clave vistos (sigue ids) op) :
      Emite clave vistos (.consultaCandidatas objetivo sigue) op
  | trasAlcance {sigue : ArtifactReachability → Reconciliador} {op : Operacion}
      (alcance : ArtifactReachability) (later : Emite clave vistos (sigue alcance) op) :
      Emite clave vistos (.pideAlcance sigue) op
  | trasDigest {sigue : Option DigestDeArbol → Reconciliador} {op : Operacion}
      (observado : Option DigestDeArbol) (later : Emite clave vistos (sigue observado) op) :
      Emite clave vistos (.pideDigest sigue) op

variable {clave : String → String}

theorem respondeActivo_no_emite {vistos : Journal → Prop} {path : String} {op : Operacion} :
    ¬ Emite clave vistos (respondeActivo path) op := by
  rintro ⟨⟩
  rename_i activo _ _ later
  cases activo <;> cases later

/-- What an `INDETERMINATE` is registered from. -/
structure Fabrica (clave : String → String) (vistos : Journal → Prop) (modTexgen : String)
    (registro : DeploymentHandoff) (consumir : List Nat) (absorber : Option (List Nat)) : Prop where
  leidas : ∃ j averia, vistos j ∧
    transaccionesQueNombran clave (clave modTexgen) averia j = .ok consumir
  origen : registro.sourceTxId ∈ consumir
  absorbidas : absorber = some consumir
  artifact : registro.artifactPath = clave modTexgen

theorem emite_fabrica {vistos : Journal → Prop} {modTexgen : String} {c : Contexto}
    {registro : DeploymentHandoff} {consumir : List Nat} {absorber : Option (List Nat)}
    (emitted : Emite clave vistos (reconciliarOrphanDeArtifact clave modTexgen c)
      (.registrarHandoffIndeterminado registro consumir absorber)) :
    Fabrica clave vistos modTexgen registro consumir absorber := by
  cases emitted with
  | @trasActivo _ _ _ _ _ activo _ _ later =>
    cases activo with
    | some activo =>
      dsimp only at later
      split at later
      · cases later with
        | trasDigest observado later =>
          dsimp only at later
          split at later
          · cases later with
            | trasOperar r later => exact absurd later respondeActivo_no_emite
          · cases later with
            | trasOperar r later => exact absurd later respondeActivo_no_emite
      · cases later
    | none =>
      cases later with
      | @trasCandidatas _ _ _ j averia ids seen answered later =>
        cases ids with
        | nil => cases later
        | cons primera resto =>
          cases later with
          | trasAlcance alcance later =>
            cases alcance with
            | unknown => cases later
            | absent =>
              cases later with
              | trasOperar r later => cases later
            | present =>
              cases later with
              | trasDigest observado later =>
                cases later with
                | aqui => exact ⟨⟨j, averia, seen, answered⟩, .head _, rfl, rfl⟩
                | trasOperar r later => exact absurd later respondeActivo_no_emite

/-! After a boundary -/

/-- The journals that any operations may make of `j`. -/
def Despues (clave : String → String) (j k : Journal) : Prop :=
  ∃ t, TransitionRuns.Reaches (paso clave) (·.journal = j) Cualquiera t ∧ t.journal = k

/-- The transaction is begun after `j`, or the artifact is named in it after `j`. -/
def Nueva (clave : String → String) (A : String) (j : Journal) (id : Nat) : Prop :=
  j.conn.durable.estado id = none ∨ ¬ j.conn.durable.Nombrada clave A id

/-- From `j` on the artifact has no evidence but what is newer than `j`. -/
structure Sellado (clave : String → String) (A : String) (j : Journal) : Prop where
  vacia : j.candidatas clave A = []
  posteriores : ∀ k, Despues clave j k → ∀ id ∈ k.candidatas clave A, Nueva clave A j id
  fabricadas : ∀ modTexgen c registro consumir absorber, clave modTexgen = clave A →
    Emite clave (Despues clave j) (reconciliarOrphanDeArtifact clave modTexgen c)
      (.registrarHandoffIndeterminado registro consumir absorber) →
    Nueva clave A j registro.sourceTxId ∧ absorber = some consumir ∧
      ∀ id ∈ consumir, Nueva clave A j id

theorem candidatas_clave {A B : String} {db : JournalDB} (same : clave A = clave B) :
    db.candidatas clave A = db.candidatas clave B := by
  unfold JournalDB.candidatas canonicaYPrefijo
  rw [same]

/-- Evidence that was complete in `base` was a candidate there, or resolved. -/
theorem Sucede.nueva {base db : JournalDB} {A : String} {id : Nat} (later : Sucede base db)
    (coherent : Coherente base) (sealed : base.candidatas clave A = []) (candidate : id ∈ db.candidatas clave A) :
    base.estado id = none ∨ ¬ base.Nombrada clave A id := by
  by_cases absent : base.estado id = none
  · exact .inl absent
  · right
    intro named
    obtain ⟨causal, -, unresolved⟩ := mem_candidatas.mp candidate
    have before : base.esCausal id = true := by
      rw [esCausal_iff] at causal ⊢
      rcases causal with pending | ⟨reverted, swept⟩
      · exact .inl (later.pendiente id absent pending)
      · rcases later.barrida id absent swept with swept | pending
        · exact .inr ⟨coherent id swept, swept⟩
        · exact .inl pending
    have open_then : id ∉ base.resueltas (clave A) := by
      intro resolved
      refine unresolved ?_
      obtain ⟨r, member, same⟩ := List.mem_map.mp resolved
      obtain ⟨member, path⟩ := List.mem_filter.mp member
      exact List.mem_map.mpr ⟨r, List.mem_filter.mpr ⟨later.conserva r member, path⟩, same⟩
    have there := mem_candidatas.mpr ⟨before, named, open_then⟩
    rw [sealed] at there
    exact List.not_mem_nil there

theorem sellado (idempotent : ∀ r, clave (clave r) = clave r) {A : String} {j : Journal}
    (clean : j.conn.Clean) (coherent : Coherente j.conn.working)
    (sealed : j.conn.working.candidatas clave A = []) : Sellado clave A j := by
  rw [clean] at coherent sealed
  have later : ∀ k, Despues clave j k → ∀ id ∈ k.candidatas clave A, Nueva clave A j id := by
    rintro k ⟨t, reached, rfl⟩ id candidate
    obtain ⟨s, rfl, from_s⟩ := reached.from_start
    have coherent_copies : Sucede s.journal.conn.durable s.journal.conn.working := by
      rw [clean]
      exact .refl _
    obtain ⟨kept, kept'⟩ := (reglaSucede clave).alcanza coherent_copies from_s
    exact (kept.trans kept').nueva coherent sealed candidate
  refine ⟨by rw [Journal.candidatas, clean]; exact sealed, later, ?_⟩
  intro modTexgen c registro consumir absorber same emitted
  obtain ⟨⟨k, averia, seen, answered⟩, source, absorbed, -⟩ := emite_fabrica emitted
  have read : consumir = k.candidatas clave A := by
    rw [transaccionesQueNombran_ok answered]
    exact candidatas_clave ((idempotent _).trans same)
  have every : ∀ id ∈ consumir, Nueva clave A j id := fun id member =>
    later k seen id (read ▸ member)
  exact ⟨every _ source, absorbed, every⟩

/-- What the operations that end an artifact's ownership leave and raise, from `j`. -/
structure Fronteras (clave : String → String) (j : Journal) : Prop where
  reemplazo : ∀ tx descripcion registro viejo now averia r,
    ((Operacion.crearHandoffDeDeployment tx descripcion registro (some viejo)).corre clave now
      averia j).1 = .ok r →
    Sellado clave registro.artifactPath ((Operacion.crearHandoffDeDeployment tx descripcion registro
      (some viejo)).corre clave now averia j).2
  resume : ∀ tx handoffId h now averia r,
    j.conn.working.deploymentHandoffs.find handoffId = some h →
    ((Operacion.completarHandoffDeResume tx handoffId).corre clave now averia j).1 = .ok r →
    Sellado clave h.artifactPath
      ((Operacion.completarHandoffDeResume tx handoffId).corre clave now averia j).2
  primera : ∀ tx descripcion registro now averia r,
    ((Operacion.crearHandoffDeDeployment tx descripcion registro none).corre clave now
      averia j).1 = .ok r →
    ((Operacion.crearHandoffDeDeployment tx descripcion registro none).corre clave now
      averia j).2.candidatas clave registro.artifactPath =
        (j.candidatas clave registro.artifactPath).filter (quedaPendiente j.conn.working tx)
  fallosDeCrear : ∀ tx descripcion registro viejo now averia e,
    ((Operacion.crearHandoffDeDeployment tx descripcion registro viejo).corre clave now
      averia j).1 = .error e →
    e = noPendiente tx ∨ (∃ v, viejo = some v ∧ e = yaNoActivo v tx) ∨
      ∃ e', e = envuelve "Failed to commit transaction with deployment handoff" (some tx) (.sqlite e')
  fallosDeCompletar : ∀ tx handoffId now averia e,
    ((Operacion.completarHandoffDeResume tx handoffId).corre clave now averia j).1 = .error e →
    e = noPendiente tx ∨ e = noEsperaDeployment handoffId tx ∨
      ∃ e', e = envuelve "Failed to complete deployment handoff" (some tx) (.sqlite e')

section
variable {j : Journal} {now : Int} {averia : Averia} {tx : Nat}

/-- An operation keeps the receipts of the working copy coherent. -/
theorem coherente_corre {op : Operacion} (coherent : Coherente j.conn.durable)
    (copies : Sucede j.conn.durable j.conn.working) :
    Coherente (op.corre clave now averia j).2.conn.working := by
  obtain ⟨kept, kept'⟩ := @Regla.corre clave Sucede _ (reglaSucede clave) op now averia j trivial copies
  exact (kept.trans kept').coherente coherent

theorem fronteras (idempotent : ∀ r, clave (clave r) = clave r) (coherent : Coherente j.conn.durable)
    (copies : Sucede j.conn.durable j.conn.working) : Fronteras clave j where
  reemplazo := by
    intro tx descripcion registro viejo now averia r returned
    obtain ⟨nuevo, written⟩ := responde_ok returned
    obtain ⟨clean, sealed⟩ := escribe_cumple (fun _ _ => olvida_conn _ _) (meets_handoff idempotent)
      written
    refine sellado idempotent clean (coherente_corre coherent copies) (sealed.trans ?_)
    simp
  resume := by
    intro tx handoffId h now averia r found returned
    obtain ⟨_, written⟩ := responde_ok returned
    obtain ⟨clean, sealed⟩ := escribe_cumple (fun _ _ => olvida_conn _ _) (meets_resume idempotent)
      written
    exact sellado idempotent clean (coherente_corre coherent copies) (sealed h found)
  primera := by
    intro tx descripcion registro now averia r returned
    obtain ⟨nuevo, written⟩ := responde_ok returned
    obtain ⟨-, left⟩ := escribe_cumple (fun _ _ => olvida_conn _ _) (meets_handoff idempotent) written
    refine Eq.trans left ?_
    simp [Journal.candidatas]
  fallosDeCrear := by
    intro tx descripcion registro viejo now averia e raised
    obtain ⟨e₀, known | ⟨e', rfl⟩, rfl⟩ := escribe_fallo (meets_handoff idempotent)
      (responde_error raised)
    · cases viejo with
      | none =>
        rcases List.mem_singleton.mp known with rfl
        exact .inl rfl
      | some v =>
        rcases List.mem_pair.mp known with rfl | rfl
        · exact .inl rfl
        · exact .inr (.inl ⟨v, rfl, rfl⟩)
    · exact .inr (.inr ⟨e', rfl⟩)
  fallosDeCompletar := by
    intro tx handoffId now averia e raised
    obtain ⟨e₀, known | ⟨e', rfl⟩, rfl⟩ := escribe_fallo (meets_resume idempotent)
      (responde_error raised)
    · rcases List.mem_pair.mp known with rfl | rfl
      · exact .inl rfl
      · exact .inr (.inl rfl)
    · exact .inr (.inr ⟨e', rfl⟩)

end

/-- A journal opened over a database whose receipts are of transactions that were swept. -/
def InicialCoherente (s : Sistema) : Prop := Inicial s ∧ Coherente s.journal.conn.durable

theorem fronteras_selladas {s : Sistema} (idempotent : ∀ r, clave (clave r) = clave r)
    (reached : TransitionRuns.Reaches (paso clave) InicialCoherente Cualquiera s) :
    Fronteras clave s.journal := by
  obtain ⟨s₀, ⟨⟨clean, -⟩, coherent⟩, from_s₀⟩ := reached.from_start
  have copies : Sucede s₀.journal.conn.durable s₀.journal.conn.working := by
    rw [clean]
    exact .refl _
  obtain ⟨kept, copies⟩ := (reglaSucede clave).alcanza copies from_s₀
  exact fronteras idempotent (kept.coherente coherent) copies

def entrega (tx : Nat) : DeploymentHandoff :=
  { registroIndeterminado tx "mods/patch.esp" ⟨"skyrim", "mods", "data", "Default"⟩ none with
    state := .awaitingDeployment, expectedDigest := some "d1", expectedFiles := some 1,
    expectedBytes := some 8 }

/-- One handoff, and two transactions begun after it. -/
def conHandoff : List Evento :=
  [.llama (.operacion (.beginTransaction "patch" none)), .avanza 0 0 none,
    .llama (.operacion (.crearHandoffDeDeployment 1 none (entrega 1) none)), .avanza 1 1 none,
    .llama (.operacion (.beginTransaction "regen" none)), .avanza 2 2 none,
    .llama (.operacion (.beginTransaction "sort" none)), .avanza 3 3 none]

def reemplazo : Operacion := .crearHandoffDeDeployment 2 none (entrega 2) (some 1)

def trasReemplazo (s : Sistema) : Journal := (reemplazo.corre id 4 none s.journal).2

def conTresTransacciones : Sistema :=
  (TransitionRuns.run (paso id) sistemaSuelto conHandoff).get (by decide +kernel)

def nombraTres : List Evento :=
  [.llama (.operacion (.beginOperation { copia with transactionId := some 3 })), .avanza 4 5 none]

def conTercera : Sistema :=
  (TransitionRuns.run (paso id)
    { conTresTransacciones with journal := trasReemplazo conTresTransacciones } nombraTres).get
    (by decide +kernel)

/-- A transaction begun before the boundary names the artifact after it. -/
theorem nombrada_despues :
    ∃ s, TransitionRuns.run (paso id) sistemaSuelto conHandoff = some s ∧
      (reemplazo.corre id 4 none s.journal).1 = .ok (.id 2) ∧
      (trasReemplazo s).estado 3 = some .pending ∧
      ∃ k, Despues id (trasReemplazo s) k ∧ k.candidatas id "mods/patch.esp" = [3] := by
  refine ⟨conTresTransacciones, (Option.some_get _).symm, by decide +kernel, by decide +kernel,
    conTercera.journal, ⟨conTercera, ?_, rfl⟩, by decide +kernel⟩
  exact .of_run (.start rfl) cualquiera (Option.some_get _).symm

theorem reemplazo_sellado :
    ∃ s, TransitionRuns.run (paso id) sistemaSuelto conHandoff = some s ∧
      (reemplazo.corre id 4 none s.journal).1 = .ok (.id 2) ∧
      Sellado id "mods/patch.esp" (trasReemplazo s) := by
  have opened : InicialCoherente sistemaSuelto :=
    ⟨⟨rfl, rfl, rfl⟩, fun id swept => absurd swept (List.not_mem_nil)⟩
  have ran : TransitionRuns.run (paso id) sistemaSuelto conHandoff = some conTresTransacciones :=
    (Option.some_get _).symm
  have answered : (reemplazo.corre id 4 none conTresTransacciones.journal).1 = .ok (.id 2) := by
    decide +kernel
  refine ⟨conTresTransacciones, ran, answered, ?_⟩
  exact (fronteras_selladas (fun _ => rfl)
    (.of_run (.start opened) cualquiera ran)).reemplazo 2 none (entrega 2) 1 4 none (.id 2) answered

end OperationJournal
