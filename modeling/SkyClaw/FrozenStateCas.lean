import SkyClaw.FrozenState
import SkyClaw.TransitionRuns

set_option linter.all false

/-!
Processes that observe `active.json` and write it, one writer at a time. An observer
reads the file twice and holds no lock, so a write can come between its readings.
-/
namespace FrozenState
open Utf8Text JsonText

/-! The processes -/

/-- A dictionary, in the order in which its keys are written. -/
structure Payload where
  json : Json
  ordenado : Ordered json

/-- A call that has ended: the document before it, what was asked, its result and the
document after it. -/
inductive Hecho (Hash : Type) where
  | cas (antes : Option Bytes) (payload : Payload) (esperado : EstadoPrevioObservado Hash)
      (resultado : Except Error (EstadoPrevioObservado Hash)) (despues : Option Bytes)
  | guarda (antes : Option Bytes) (state : FrozenRuntimeState) (resultado : Except Error Unit)
      (despues : Option Bytes)

def Hecho.antes {Hash : Type} : Hecho Hash → Option Bytes
  | .cas antes _ _ _ _ => antes
  | .guarda antes _ _ _ => antes

def Hecho.despues {Hash : Type} : Hecho Hash → Option Bytes
  | .cas _ _ _ _ despues => despues
  | .guarda _ _ _ despues => despues

structure Sistema (Hash : Type) where
  doc : Option Bytes
  /-- What the observers have read that have not ended. -/
  lecturas : List (Option Bytes)
  /-- The tokens given out, each with the bytes that it was made from. -/
  fichas : List (EstadoPrevioObservado Hash × Option Bytes)
  /-- The writers that have ended, the last one first. -/
  historia : List (Hecho Hash)

inductive Evento (Hash : Type) where
  | lee
  | termina (i : Nat) (fallaCarga : Bool)
  | cas (payload : Payload) (esperado : EstadoPrevioObservado Hash) (falla : Paso → Bool)
  | guarda (state : FrozenRuntimeState) (falla : Paso → Bool)

variable {Hash : Type} [DecidableEq Hash] (casefold : Text → Text) (sha256 : Bytes → Hash) (w : Escritor)

def step (s : Sistema Hash) : Evento Hash → Option (Sistema Hash)
  | .lee => some { s with lecturas := s.doc :: s.lecturas }
  | .termina i fallaCarga =>
    match s.lecturas[i]? with
    | none => none
    | some crudo =>
      match terminaObservacion casefold sha256 fallaCarga crudo s.doc with
      | .error _ => some { s with lecturas := s.lecturas.eraseIdx i }
      | .ok ficha => some { s with
          lecturas := s.lecturas.eraseIdx i
          fichas := (ficha, crudo) :: s.fichas }
  | .cas payload esperado falla =>
    let r := escribirEstadoActivoCas casefold sha256 w falla s.doc payload.json esperado
    some { s with doc := r.2, historia := .cas s.doc payload esperado r.1 r.2 :: s.historia }
  | .guarda state falla =>
    let r := saveFrozenRuntimeState casefold w falla s.doc state
    some { s with doc := r.2, historia := .guarda s.doc state r.1 r.2 :: s.historia }

def Inicio (s : Sistema Hash) : Prop := s.lecturas = [] ∧ s.fichas = [] ∧ s.historia = []

/-! What is asked of a step -/

/-- A payload that says one thing: its identifiers are written as they are stored, and
one of the first schema has no second intention. -/
structure Normal (payload : Json) : Prop where
  plegados : ∀ key ∈ ["desired_active_generation", "desired_generation_id", "desired_clone_id"],
    ∀ t, payload.get key = some (.str t) → casefold t = t
  unaIntencion : payload.get "schema_version" = some (.int 1) →
    ∀ v, payload.get "desired_generation_id" = some v → payload.get "desired_active_generation" = some v

def Plegado (state : FrozenRuntimeState) : Prop :=
  (∀ t, state.desiredActiveGeneration = some t → casefold t = t) ∧
    ∀ t, state.desiredCloneId = some t → casefold t = t

/-- A call that gets to publish has a payload that says one thing, and nothing fails
after it; a state that has the form has its identifiers as they are stored. -/
def Cuidado (s : Sistema Hash) : Evento Hash → Prop
  | .cas payload esperado falla =>
    falla .candado = false → ∀ raw, casAntes casefold sha256 w falla s.doc payload.json esperado = .ok raw →
      Normal casefold payload.json ∧ falla .relectura = false ∧ falla .recarga = false ∧
        falla .suelta = false
  | .guarda state _ => ∀ leido, validarForma casefold (payloadDe state) = .ok leido → Plegado casefold state
  | _ => True

/-! What is promised of a call -/

/-- A state is what a payload denotes. -/
structure Denota (payload : Json) (state : FrozenRuntimeState) : Prop where
  schema : payload.get "schema_version" = some (.int state.schemaVersion)
  fecha : payload.get "updated_at_ns" = some (.int state.updatedAtNs)
  generation : coincide state.desiredActiveGeneration ((payload.get (if state.schemaVersion = 1 then
    "desired_active_generation" else "desired_generation_id")).getD .null) = true
  clone : coincide state.desiredCloneId ((payload.get "desired_clone_id").getD .null) = true

def Hecho.Correcto (casefold : Text → Text) : Hecho Hash → Prop
  | .cas antes _ _ (.error _) despues => despues = antes
  | .cas _ payload _ (.ok _) despues =>
    ∃ raw state, despues = some raw ∧ cargar casefold raw = .ok state ∧ Denota payload.json state
  | .guarda _ _ (.error _) _ => True
  | .guarda _ state (.ok _) despues => ∃ raw, despues = some raw ∧ cargar casefold raw = .ok state

/-- No update is lost. -/
structure Atomico (casefold : Text → Text) (s : Sistema Hash) : Prop where
  correctos : ∀ h ∈ s.historia, h.Correcto casefold
  observado : ∀ antes payload esperado ficha despues, .cas antes payload esperado (.ok ficha) despues ∈ s.historia →
    ∀ crudo, (esperado, crudo) ∈ s.fichas → antes = crudo
  unGanador : ∀ antes antes' payload payload' esperado ficha ficha' despues despues',
    .cas antes payload esperado (.ok ficha) despues ∈ s.historia →
    .cas antes' payload' esperado (.ok ficha') despues' ∈ s.historia → antes = antes'
  cadena : s.historia.IsChain fun h g => h.antes = g.despues
  final : ∀ h ∈ s.historia.head?, s.doc = h.despues

/-! What the parser gives -/

variable {casefold} {sha256} {w}

theorem validarGenerationId_ok {t g : Text} (ok : validarGenerationId casefold t = .ok g) : g = casefold t := by
  unfold validarGenerationId at ok
  split at ok
  · cases ok
  · split at ok
    · cases ok
    · dsimp only at ok
      split at ok
      · cases ok
      · split at ok
        · cases ok
        · cases ok
          rfl

theorem validarCloneId_ok {t c : Text} (ok : validarCloneId casefold t = .ok c) : c = casefold t := by
  unfold validarCloneId at ok
  split at ok
  · cases ok
  · split at ok
    · cases ok
    · split at ok
      · cases ok
      · split at ok
        · cases ok
        · dsimp only at ok
          split at ok
          · cases ok
          · split at ok
            · cases ok
            · cases ok
              rfl

theorem idONull_coincide {valida : Text → Except Error Text}
    (folds : ∀ {t g}, valida t = .ok g → g = casefold t) {v : Json} {g : Option Text}
    (ok : idONull valida v = .ok g) (plegado : ∀ t, v = .str t → casefold t = t) : coincide g v = true := by
  cases v with
  | null =>
    cases ok
    rfl
  | str t =>
    rw [idONull] at ok
    cases valid : valida t with
    | error e =>
      rw [valid] at ok
      cases ok
    | ok u =>
      rw [valid] at ok
      cases ok
      rw [coincide, folds valid, plegado t rfl, decide_eq_true_eq]
  | bool b => cases ok
  | int n => cases ok
  | real literal => cases ok
  | arr items => cases ok
  | obj members => cases ok

/-- What a payload of the first schema says, and what it says of the second. -/
inductive Forma (casefold : Text → Text) (data : Json) : FrozenRuntimeState → Prop where
  | v1 {deseado : Json} {g : Option Text} {actualizado : Int}
      (schema : data.get "schema_version" = some (.int 1))
      (fecha : data.get "updated_at_ns" = some (.int actualizado))
      (generation : data.get "desired_active_generation" = some deseado)
      (clone : data.get "desired_clone_id" = none)
      (valida : idONull (validarGenerationId casefold) deseado = .ok g) :
      Forma casefold data ⟨1, g, actualizado, none⟩
  | v2 {genId cloneId : Json} {g c : Option Text} {actualizado : Int}
      (schema : data.get "schema_version" = some (.int 2))
      (fecha : data.get "updated_at_ns" = some (.int actualizado))
      (generation : data.get "desired_generation_id" = some genId)
      (clone : data.get "desired_clone_id" = some cloneId)
      (valida : idONull (validarGenerationId casefold) genId = .ok g)
      (validaClone : idONull (validarCloneId casefold) cloneId = .ok c) :
      Forma casefold data ⟨2, g, actualizado, c⟩

theorem map_ok {α β ε : Type} {x : Except ε α} {f : α → β} {b : β} (ok : x.map f = .ok b) :
    ∃ a, x = .ok a ∧ f a = b := by
  cases x with
  | error e => cases ok
  | ok a => exact ⟨a, rfl, Except.ok.inj ok⟩

theorem forma_parsear {data : Json} {state : FrozenRuntimeState}
    (ok : parsearEstado casefold data = .ok state) : Forma casefold data state := by
  unfold parsearEstado at ok
  split at ok
  · split at ok
    · next schema version =>
      split at ok
      · cases ok
      · next supported =>
        split at ok
        · next actualizado fecha =>
          split at ok
          · cases ok
          · split at ok
            · next first =>
              subst first
              unfold parsearV1 at ok
              split at ok
              · cases ok
              · next deseado generation =>
                split at ok
                · cases ok
                · next clone =>
                  obtain ⟨g, valida, rfl⟩ := map_ok ok
                  exact .v1 version fecha generation (by simpa using clone) valida
            · next other =>
              have second : schema = 2 := by
                simp only [schemaVersionsSoportados, List.mem_cons, List.not_mem_nil, or_false,
                  not_not] at supported
                omega
              subst second
              unfold parsearV2 at ok
              split at ok
              · next genId cloneId generation clone =>
                split at ok
                · cases ok
                · split at ok
                  · cases ok
                  · cases valida : idONull (validarGenerationId casefold) genId with
                    | error e =>
                      rw [valida] at ok
                      cases ok
                    | ok g =>
                      rw [valida] at ok
                      obtain ⟨c, validaClone, rfl⟩ := map_ok ok
                      exact .v2 version fecha generation clone valida validaClone
              · cases ok
        · cases ok
    · cases ok
  · cases ok

theorem Forma.denota {data : Json} {state : FrozenRuntimeState} (forma : Forma casefold data state)
    (normal : Normal casefold data) : Denota data state := by
  cases forma with
  | v1 schema fecha generation clone valida =>
    refine ⟨schema, fecha, ?_, ?_⟩
    · rw [if_pos rfl, generation, Option.getD_some]
      exact idONull_coincide validarGenerationId_ok valida fun t same =>
        normal.plegados "desired_active_generation" (by decide) t (by rw [generation, same])
    · rw [clone]
      rfl
  | v2 schema fecha generation clone valida validaClone =>
    refine ⟨schema, fecha, ?_, ?_⟩
    · rw [if_neg (show ¬ (2 : Int) = 1 by decide), generation, Option.getD_some]
      exact idONull_coincide validarGenerationId_ok valida fun t same =>
        normal.plegados "desired_generation_id" (by decide) t (by rw [generation, same])
    · rw [clone, Option.getD_some]
      exact idONull_coincide validarCloneId_ok validaClone fun t same =>
        normal.plegados "desired_clone_id" (by decide) t (by rw [clone, same])

/-- What is read again is what the writer expects. -/
theorem Forma.relee {data : Json} {state : FrozenRuntimeState} (forma : Forma casefold data state)
    (normal : Normal casefold data) :
    coincide state.desiredActiveGeneration (generacionNueva data) = true ∧
      coincide state.desiredCloneId (cloneNuevo data) = true := by
  have denotes := forma.denota normal
  refine ⟨?_, denotes.clone⟩
  have generation := denotes.generation
  cases forma with
  | v1 schema fecha stored clone valida =>
    rw [if_pos rfl] at generation
    unfold generacionNueva
    cases second : data.get "desired_generation_id" with
    | none => exact generation
    | some v =>
      rw [normal.unaIntencion schema v second] at generation
      exact generation
  | v2 schema fecha stored clone valida validaClone =>
    rw [if_neg (show ¬ (2 : Int) = 1 by decide), stored, Option.getD_some] at generation
    rw [generacionNueva, stored, Option.getD_some]
    exact generation

/-! A call -/

omit [DecidableEq Hash] in
theorem terminaObservacion_ok {fallaCarga : Bool} {crudo actual : Option Bytes}
    {ficha : EstadoPrevioObservado Hash}
    (ok : terminaObservacion casefold sha256 fallaCarga crudo actual = .ok ficha) :
    ficha.sha256 = crudo.map sha256 := by
  unfold terminaObservacion at ok
  split at ok
  · cases ok
    rfl
  · split at ok
    · cases ok
    · split at ok
      · cases ok
        rfl
      · obtain ⟨state, _, rfl⟩ := map_ok ok
        rfl

omit [DecidableEq Hash] in
theorem observar_ok {fallaLectura fallaCarga : Bool} {doc : Option Bytes} {ficha : EstadoPrevioObservado Hash}
    (ok : observarEstadoPrevio casefold sha256 fallaLectura fallaCarga doc = .ok ficha) :
    ficha.sha256 = doc.map sha256 := by
  unfold observarEstadoPrevio at ok
  split at ok
  · cases ok
  · exact terminaObservacion_ok ok

theorem writeJsonAtomic_ok {falla : Paso → Bool} {payload : Json} {raw : Bytes}
    (ok : writeJsonAtomic w falla payload = .ok raw) : dumpsWith w.flotante w.formato payload = some raw := by
  unfold writeJsonAtomic at ok
  split at ok
  · cases ok
  · split at ok
    · cases ok
    · split at ok
      · cases ok
      · next written =>
        split at ok
        · cases ok
        · cases ok
          exact written

theorem validarForma_ok {payload : Json} {state : FrozenRuntimeState}
    (ok : validarForma casefold payload = .ok state) : parsearEstado casefold payload = .ok state := by
  unfold validarForma at ok
  split at ok
  · exact ok
  · cases ok

/-- A document that has been written is loaded as its payload. -/
theorem cargar_escrito (floats : Floats w.flotante) {payload : Json} (ordered : Ordered payload)
    {falla : Paso → Bool} {raw : Bytes} (written : writeJsonAtomic w falla payload = .ok raw) :
    cargar casefold raw = parsearEstado casefold payload := by
  rw [cargar, loads_dumpsWith floats ordered (writeJsonAtomic_ok written)]

/-- What a call that gets to publish has found. -/
structure Publica (casefold : Text → Text) (sha256 : Bytes → Hash) (w : Escritor) (falla : Paso → Bool)
    (doc : Option Bytes) (payload : Json) (esperado : EstadoPrevioObservado Hash) (raw : Bytes) : Prop where
  forma : ∃ state, validarForma casefold payload = .ok state
  contenido : esperado.sha256 = doc.map sha256
  escrito : writeJsonAtomic w falla payload = .ok raw

theorem casAntes_ok {falla : Paso → Bool} {doc : Option Bytes} {payload : Json}
    {esperado : EstadoPrevioObservado Hash} {raw : Bytes}
    (ok : casAntes casefold sha256 w falla doc payload esperado = .ok raw) :
    Publica casefold sha256 w falla doc payload esperado raw := by
  unfold casAntes at ok
  split at ok
  · cases ok
  · next state forma =>
    split at ok
    · cases ok
    · next actual seen =>
      split at ok
      · cases ok
      · split at ok
        · cases ok
        · next same =>
          split at ok
          · cases ok
          · rw [not_not] at same
            exact ⟨⟨state, forma⟩, same ▸ observar_ok seen, ok⟩

omit [DecidableEq Hash] in
theorem casDespues_eq {falla : Paso → Bool} {raw : Bytes} {payload : Json} {state : FrozenRuntimeState}
    (still : falla .relectura = false) (again : falla .recarga = false)
    (loaded : cargar casefold raw = .ok state) (forma : Forma casefold payload state)
    (normal : Normal casefold payload) :
    casDespues casefold sha256 falla raw payload = .ok
      ⟨false, some (sha256 raw), state.desiredActiveGeneration, state.desiredCloneId⟩ := by
  have read : observarEstadoPrevio casefold sha256 false false (some raw) = .ok
      ⟨false, some (sha256 raw), state.desiredActiveGeneration, state.desiredCloneId⟩ := by
    simp only [observarEstadoPrevio, terminaObservacion, loaded, Bool.false_eq_true, if_false]
    rfl
  obtain ⟨generation, clone⟩ := forma.relee normal
  rw [casDespues, still, again, read]
  dsimp only
  rw [generation, clone, Bool.and_self, if_pos rfl]

/-- A call that meets its condition: it raises and nothing has changed, or the document
is the one its token was made from and what is loaded afterwards is what was asked. -/
theorem cas_correcto (floats : Floats w.flotante) (falla : Paso → Bool) (doc : Option Bytes)
    (payload : Payload) (esperado : EstadoPrevioObservado Hash)
    (careful : falla .candado = false → ∀ raw,
      casAntes casefold sha256 w falla doc payload.json esperado = .ok raw →
      Normal casefold payload.json ∧ falla .relectura = false ∧ falla .recarga = false ∧
        falla .suelta = false) :
    let r := escribirEstadoActivoCas casefold sha256 w falla doc payload.json esperado
    (Hecho.cas doc payload esperado r.1 r.2).Correcto casefold := by
  unfold escribirEstadoActivoCas
  dsimp only
  cases locked : falla .candado with
  | true => rfl
  | false =>
    rw [if_neg Bool.false_ne_true]
    cases before : casAntes casefold sha256 w falla doc payload.json esperado with
    | error e => rfl
    | ok raw =>
      obtain ⟨normal, still, again, release⟩ := careful locked raw before
      have published := casAntes_ok before
      obtain ⟨state, forma⟩ := published.forma
      have parsed := validarForma_ok forma
      have loaded : cargar casefold raw = .ok state := by
        rw [cargar_escrito floats payload.ordenado published.escrito, parsed]
      have shape := forma_parsear parsed
      dsimp only
      rw [release, if_neg Bool.false_ne_true, casDespues_eq still again loaded shape normal]
      exact ⟨raw, state, rfl, loaded, shape.denota normal⟩

theorem cas_contenido {falla : Paso → Bool} {doc : Option Bytes} {payload : Json}
    {esperado ficha : EstadoPrevioObservado Hash}
    (ok : (escribirEstadoActivoCas casefold sha256 w falla doc payload esperado).1 = .ok ficha) :
    esperado.sha256 = doc.map sha256 := by
  unfold escribirEstadoActivoCas at ok
  split at ok
  · cases ok
  · split at ok
    · cases ok
    · next raw before => exact (casAntes_ok before).contenido

/-! A save -/

theorem ordered_payloadDe (state : FrozenRuntimeState) : Ordered (payloadDe state) := by
  have ids : ∀ t : Option Text, Ordered ((t.map Json.str).getD .null) := by
    intro t
    cases t with
    | none => simp [Ordered]
    | some t => simp [Ordered]
  unfold payloadDe
  dsimp only
  split
  · exact ordered_record (by simp [Ordered, ids])
  · exact ordered_record (by simp [Ordered, ids])

theorem idONull_plegado {valida : Text → Except Error Text}
    (folds : ∀ {t g}, valida t = .ok g → g = casefold t) {t g : Option Text}
    (ok : idONull valida ((t.map Json.str).getD .null) = .ok g) (plegado : ∀ u, t = some u → casefold u = u) :
    g = t := by
  have fixed : ∀ u, ((t.map Json.str).getD .null) = Json.str u → casefold u = u := by
    intro u same
    apply plegado
    cases t with
    | none => cases same
    | some v =>
      cases same
      rfl
  have agrees := idONull_coincide folds ok fixed
  cases t with
  | none => exact of_decide_eq_true agrees
  | some u => exact of_decide_eq_true agrees

/-- A state that has the form is read back from its payload. -/
theorem parsear_payloadDe {state leido : FrozenRuntimeState}
    (supported : state.schemaVersion ∈ schemaVersionsSoportados)
    (single : state.schemaVersion = 1 → state.desiredCloneId = none)
    (parsed : parsearEstado casefold (payloadDe state) = .ok leido) (plegado : Plegado casefold state) :
    leido = state := by
  have forma := forma_parsear parsed
  simp only [schemaVersionsSoportados, List.mem_cons, List.not_mem_nil, or_false] at supported
  obtain ⟨version, generation, updated, clone⟩ := state
  dsimp only at supported single
  cases supported with
  | inl first =>
    subst first
    have no_clone := single rfl
    subst no_clone
    simp only [payloadDe, if_neg (show ¬ (1 : Int) = 2 by decide)] at forma
    cases forma with
    | @v1 deseado g actualizado schema fecha stored _ valida =>
      have same : deseado = (generation.map Json.str).getD .null := by
        rw [get_record] at stored
        exact (Option.some.inj stored).symm
      have date : actualizado = updated := by
        rw [get_record] at fecha
        exact (Json.int.inj (Option.some.inj fecha)).symm
      rw [same] at valida
      rw [date, idONull_plegado validarGenerationId_ok valida plegado.1]
    | v2 schema _ _ _ _ _ =>
      rw [get_record] at schema
      cases Option.some.inj schema
  | inr second =>
    subst second
    simp only [payloadDe, if_pos] at forma
    cases forma with
    | v1 schema _ _ _ _ =>
      rw [get_record] at schema
      cases Option.some.inj schema
    | @v2 genId cloneId g c actualizado schema fecha stored storedClone valida validaClone =>
      have same : genId = (generation.map Json.str).getD .null := by
        rw [get_record] at stored
        exact (Option.some.inj stored).symm
      have same_clone : cloneId = (clone.map Json.str).getD .null := by
        rw [get_record] at storedClone
        exact (Option.some.inj storedClone).symm
      have date : actualizado = updated := by
        rw [get_record] at fecha
        exact (Json.int.inj (Option.some.inj fecha)).symm
      rw [same] at valida
      rw [same_clone] at validaClone
      rw [date, idONull_plegado validarGenerationId_ok valida plegado.1,
        idONull_plegado validarCloneId_ok validaClone plegado.2]

omit [DecidableEq Hash] in
theorem guarda_correcto (floats : Floats w.flotante) (falla : Paso → Bool) (doc : Option Bytes)
    (state : FrozenRuntimeState)
    (careful : ∀ leido, validarForma casefold (payloadDe state) = .ok leido → Plegado casefold state) :
    let r := saveFrozenRuntimeState casefold w falla doc state
    (Hecho.guarda doc state r.1 r.2 : Hecho Hash).Correcto casefold := by
  unfold saveFrozenRuntimeState
  dsimp only
  split
  · trivial
  · split
    · trivial
    · next supported =>
      split
      · trivial
      · next single =>
        split
        · trivial
        · next leido forma =>
          split
          · trivial
          · next raw written =>
            dsimp only
            cases falla .suelta with
            | true => trivial
            | false =>
              have parsed := validarForma_ok forma
              have same : leido = state := by
                refine parsear_payloadDe (not_not.mp supported) ?_ parsed (careful leido forma)
                intro first
                by_contra some_clone
                exact single ⟨first, some_clone⟩
              refine ⟨raw, rfl, ?_⟩
              rw [cargar_escrito floats (ordered_payloadDe state) written, parsed, same]

/-! The runs -/

structure Valido (casefold : Text → Text) (sha256 : Bytes → Hash) (s : Sistema Hash) : Prop where
  correctos : ∀ h ∈ s.historia, h.Correcto casefold
  fichas : ∀ f ∈ s.fichas, f.1.sha256 = f.2.map sha256
  contenidos : ∀ antes payload esperado ficha despues,
    .cas antes payload esperado (.ok ficha) despues ∈ s.historia → esperado.sha256 = antes.map sha256
  cadena : s.historia.IsChain fun h g => h.antes = g.despues
  final : ∀ h ∈ s.historia.head?, s.doc = h.despues

omit [DecidableEq Hash] in
/-- A writer ends: its call starts from the document that the last one left. -/
theorem Valido.anota {s : Sistema Hash} (valid : Valido casefold sha256 s) {h : Hecho Hash}
    (starts : h.antes = s.doc) (correct : h.Correcto casefold)
    (content : ∀ antes payload esperado ficha despues, h = .cas antes payload esperado (.ok ficha) despues →
      esperado.sha256 = antes.map sha256) :
    Valido casefold sha256 { s with doc := h.despues, historia := h :: s.historia } := by
  constructor
  · exact List.forall_mem_cons.mpr ⟨correct, valid.correctos⟩
  · exact valid.fichas
  · intro antes payload esperado ficha despues mem
    cases List.mem_cons.mp mem with
    | inl here => exact content antes payload esperado ficha despues here.symm
    | inr before => exact valid.contenidos antes payload esperado ficha despues before
  · dsimp only
    cases past : s.historia with
    | nil => exact List.IsChain.singleton h
    | cons g gs =>
      have chain := valid.cadena
      rw [past] at chain
      refine List.isChain_cons_cons.mpr ⟨?_, chain⟩
      rw [starts]
      exact valid.final g (by rw [past]; rfl)
  · intro g head
    cases head
    rfl

theorem Valido.step {s t : Sistema Hash} {e : Evento Hash} (floats : Floats w.flotante)
    (valid : Valido casefold sha256 s) (careful : Cuidado casefold sha256 w s e)
    (moved : step casefold sha256 w s e = some t) : Valido casefold sha256 t := by
  cases e with
  | lee =>
    cases moved
    exact ⟨valid.correctos, valid.fichas, valid.contenidos, valid.cadena, valid.final⟩
  | termina i fallaCarga =>
    simp only [FrozenState.step] at moved
    split at moved
    · cases moved
    · next crudo reading =>
      split at moved
      · cases moved
        exact ⟨valid.correctos, valid.fichas, valid.contenidos, valid.cadena, valid.final⟩
      · next ficha ended =>
        cases moved
        exact ⟨valid.correctos, List.forall_mem_cons.mpr ⟨terminaObservacion_ok ended, valid.fichas⟩,
          valid.contenidos, valid.cadena, valid.final⟩
  | cas payload esperado falla =>
    cases moved
    refine valid.anota (h := .cas s.doc payload esperado _ _) rfl
      (cas_correcto floats falla s.doc payload esperado careful) ?_
    intro antes payload' esperado' ficha despues same
    obtain ⟨same_doc, _, same_token, ok, _⟩ := Hecho.cas.inj same
    rw [← same_token, ← same_doc]
    exact cas_contenido ok
  | guarda state falla =>
    cases moved
    refine valid.anota (h := .guarda s.doc state _ _) rfl
      (guarda_correcto floats falla s.doc state careful) ?_
    intro antes payload esperado ficha despues same
    cases same

/-- In every run whose calls meet their condition, no update is lost. -/
theorem cas_atomico {casefold : Text → Text} {sha256 : Bytes → Hash} {w : Escritor}
    (floats : Floats w.flotante) (sinColisiones : Function.Injective sha256) {s : Sistema Hash}
    (reached : TransitionRuns.Reaches (step casefold sha256 w) Inicio (Cuidado casefold sha256 w) s) :
    Atomico casefold s := by
  have valid : Valido casefold sha256 s := by
    refine reached.invariant ?_ fun s e t valid careful moved => valid.step floats careful moved
    intro s first
    obtain ⟨_, fichas, historia⟩ := first
    constructor
    · rw [historia]
      exact List.forall_mem_nil _
    · rw [fichas]
      exact List.forall_mem_nil _
    · intro antes payload esperado ficha despues mem
      rw [historia] at mem
      cases mem
    · rw [historia]
      exact List.IsChain.nil
    · intro h head
      rw [historia] at head
      cases head
  have one : Function.Injective (Option.map sha256) := Option.map_injective sinColisiones
  refine ⟨valid.correctos, ?_, ?_, valid.cadena, valid.final⟩
  · intro antes payload esperado ficha despues done crudo given
    apply one
    rw [← valid.contenidos antes payload esperado ficha despues done]
    exact valid.fichas _ given
  · intro antes antes' payload payload' esperado ficha ficha' despues despues' first second
    apply one
    rw [← valid.contenidos antes payload esperado ficha despues first,
      ← valid.contenidos antes' payload' esperado ficha' despues' second]

/-! Calls on a few documents -/

def enMinusculas (t : Text) : Text := t.map fun
  | .scalar c => .scalar c.toLower
  | p => p

/-- The layout of `indent=2` on POSIX, without floats. -/
def escritor : Escritor := ⟨fun _ => false, indented 2⟩

def payloadV2 (generation clone : String) : Payload where
  json := record [("schema_version", .int 2), ("desired_generation_id", .str (lit generation)),
    ("desired_clone_id", .str (lit clone)), ("updated_at_ns", .int 7)]
  ordenado := ordered_record (by simp [Ordered])

def fichaAusente : EstadoPrevioObservado Bytes := ⟨true, none, none, none⟩

theorem normal_payloadV2 {generation clone : String} (folded : enMinusculas (lit generation) = lit generation)
    (folded_clone : enMinusculas (lit clone) = lit clone) :
    Normal enMinusculas (payloadV2 generation clone).json := by
  constructor
  · intro key mem t found
    rw [payloadV2, get_record] at found
    simp only [List.mem_cons, List.not_mem_nil, or_false] at mem
    obtain rfl | rfl | rfl := mem
    · cases found
    · cases found
      exact folded
    · cases found
      exact folded_clone
  · intro first
    rw [payloadV2, get_record] at first
    cases first

def vacio : Sistema Bytes := ⟨none, [], [], []⟩

/-- The first activation: a process observes that there is no document and writes one. -/
theorem cas_atomico_primera :
    ∃ s, TransitionRuns.run (step enMinusculas id escritor) vacio
        [.lee, .termina 0 false,
          .cas (payloadV2 "1.6.1170__a1b2c3d4e5f6" "base") fichaAusente fun _ => false] = some s ∧
      s.doc.isSome = true ∧ s.fichas = [(fichaAusente, none)] ∧ Atomico enMinusculas s := by
  have normal : Normal enMinusculas (payloadV2 "1.6.1170__a1b2c3d4e5f6" "base").json :=
    normal_payloadV2 (by decide +kernel) (by decide +kernel)
  have empty : TransitionRuns.Reaches (step enMinusculas id escritor) Inicio
      (Cuidado enMinusculas id escritor) vacio := .start ⟨rfl, rfl, rfl⟩
  have read : TransitionRuns.Reaches (step enMinusculas id escritor) Inicio
      (Cuidado enMinusculas id escritor) ⟨none, [none], [], []⟩ :=
    .next empty (e := .lee) trivial rfl
  have observed : TransitionRuns.Reaches (step enMinusculas id escritor) Inicio
      (Cuidado enMinusculas id escritor) ⟨none, [], [(fichaAusente, none)], []⟩ :=
    .next read (e := .termina 0 false) trivial rfl
  have careful : Cuidado enMinusculas id escritor ⟨none, [], [(fichaAusente, none)], []⟩
      (.cas (payloadV2 "1.6.1170__a1b2c3d4e5f6" "base") fichaAusente fun _ => false) :=
    fun _ _ _ => ⟨normal, rfl, rfl, rfl⟩
  exact ⟨_, rfl, by decide +kernel, rfl,
    cas_atomico floats_none Function.injective_id (.next observed careful rfl)⟩

/-- A payload with a capital in its generation is published, and then the call raises. -/
theorem cas_con_mayusculas :
    let r := escribirEstadoActivoCas enMinusculas id escritor (fun _ => false) none
      (payloadV2 "1.6.1170__A1B2C3D4E5F6" "base").json fichaAusente
    r.1 = .error .storage ∧ r.2.isSome = true := by decide +kernel

-- A second intention in a payload of the first schema does the same.
example :
    let r := escribirEstadoActivoCas enMinusculas id escritor (fun _ => false) none
      (record [("schema_version", .int 1), ("desired_active_generation", .str (lit "1.6__a1b2c3d4e5f6")),
        ("desired_generation_id", .null), ("updated_at_ns", .int 7)]) fichaAusente
    r.1 = .error .storage ∧ r.2.isSome = true := by decide +kernel

-- A state with a capital is saved, and loaded as another.
example :
    let r := saveFrozenRuntimeState enMinusculas escritor (fun _ => false) none
      ⟨1, some (lit "1.6__A1B2C3D4E5F6"), 7, none⟩
    r.1 = .ok () ∧ r.2.map (cargar enMinusculas) =
      some (.ok ⟨1, some (lit "1.6__a1b2c3d4e5f6"), 7, none⟩) := by decide +kernel

end FrozenState
