import SkyClaw.ConfigSaves

set_option linter.all false

/-!
A save loses no update: what each object changed between two snapshots is known
from the generations, and the lock keeps the file as the save has read it.
-/
namespace ConfigStore
open TransitionRuns

/-! What is claimed of the keys that are not sensitive -/

/-- The keys that a list of changes assigns, and those it takes out. -/
def Cambio.toca (d : Datos) (key : Clave) : Cambio → Prop
  | .pone k _ => k = key
  | .quita k => k = key ∧ (d.valores.lookup key).isSome = true
  | .dentro _ _ => False

/-- What object `o` knows of its own changes before and after a step. -/
structure Recuerda (e : Evento) (o : Nat) (obj obj' : Objeto) : Prop where
  vida : obj'.vida = .listo
  guardado : e = .reemplaza o true → obj'.desde = obj.nuevas
  desde : e ≠ .reemplaza o true → ∀ key, obj.desde key = true → obj'.desde key = true
  foto : e = .foto o → obj'.nuevas = ninguna
  nuevas : e ≠ .foto o → ∀ key, obj.nuevas key = true → obj'.nuevas key = true

structure SinPerdidas (s : Estado) (e : Evento) (t : Estado) : Prop where
  /-- A successful save writes what its object changed between the two snapshots and
      leaves every other key as the file had it. -/
  escribe : ∀ o, e = .reemplaza o true → ∃ g fresco d, s.cerrojo = some (o, .claves g) ∧
    s.archivo.fresco = some fresco ∧ t.archivo = .tabla d ∧
    ∀ key, key ∉ clavesSensibles →
      d.lookup key = if g.intentadas key then g.snapshot.valores.lookup key else fresco.lookup key
  /-- Nothing else changes the file, a failed save in particular. -/
  intacto : (∀ o, e ≠ .reemplaza o true) → t.archivo = s.archivo
  /-- The snapshot of a save and what was changed before it stay until the save ends. -/
  foto : ∀ o fase g, t.cerrojo = some (o, fase) → fase.guardado = some g →
    (∃ obj, e = .foto o ∧ s.objetos o = some obj ∧ g.snapshot = obj.data ∧ g.intentadas = obj.desde) ∨
    ∃ fase' g', s.cerrojo = some (o, fase') ∧ fase'.guardado = some g' ∧ g.snapshot = g'.snapshot ∧
      g.intentadas = g'.intentadas
  /-- What an object changed is written by its next successful save: only that one forgets
      it, and not what was changed after its snapshot. -/
  recuerda : ∀ o obj, s.objetos o = some obj → obj.vida = .listo →
    ∃ obj', t.objetos o = some obj' ∧ Recuerda e o obj obj'
  /-- Every assignment and every deletion is remembered. -/
  anota : ∀ o obj cambios, e = .muta o cambios → s.objetos o = some obj → ∃ obj',
    t.objetos o = some obj' ∧ ∀ key, (∃ c ∈ cambios, c.toca obj.data key) →
      obj'.desde key = true ∧ obj'.nuevas key = true

/-! The generations -/

def Datos.Acotada (d : Datos) : Prop := ∀ key g, d.generaciones key = some g → g ≤ d.secuencia

/-- `m` says which keys were marked from `b` to `d`. -/
structure Marcadas (b d : Datos) (m : Clave → Bool) : Prop where
  base : b.Acotada
  crece : b.secuencia ≤ d.secuencia
  igual : ∀ key, m key = false → d.generaciones key = b.generaciones key ∧
    (d.valores.lookup key).isSome = (b.valores.lookup key).isSome
  nueva : ∀ key, m key = true → ∃ g, d.generaciones key = some g ∧ b.secuencia < g

section Generaciones
variable {b d : Datos} {m : Clave → Bool} {key : Clave} {v : Valor}

theorem marcada_apply (m : Clave → Bool) (key k : Clave) :
    marcada m key k = if k = key then true else m k := Function.update_apply ..

theorem Datos.Acotada.marcar (bounded : d.Acotada) (key : Clave) : (d.marcarMutacion key).Acotada := by
  intro k g here
  simp only [marcarMutacion, Function.update_apply] at here ⊢
  split at here
  · cases here
    exact Nat.le_refl _
  · exact Nat.le_succ_of_le (bounded k g here)

theorem Datos.Acotada.update (bounded : d.Acotada) (nuevos : Diccionario) : (d.update nuevos).Acotada := by
  have all : ∀ (keys : List Clave) (d : Datos), d.Acotada → (keys.foldl marcarMutacion d).Acotada := by
    intro keys
    induction keys with
    | nil => exact fun d bounded => bounded
    | cons key keys ih => exact fun d bounded => ih _ (bounded.marcar key)
  exact all _ _ bounded

theorem Marcadas.refl (bounded : d.Acotada) : Marcadas d d ninguna :=
  ⟨bounded, Nat.le_refl _, fun _ _ => ⟨rfl, rfl⟩, nofun⟩

/-- Only the value under `key` may change when `key` is marked. -/
theorem Marcadas.marca (marks : Marcadas b d m) {valores : Diccionario}
    (others : ∀ k, k ≠ key → valores.lookup k = d.valores.lookup k) :
    Marcadas b ({ d with valores := valores }.marcarMutacion key) (marcada m key) := by
  refine ⟨marks.base, Nat.le_succ_of_le marks.crece, ?_, ?_⟩
  · intro k unmarked
    rw [marcada_apply] at unmarked
    split at unmarked
    · cases unmarked
    · next other =>
      simp only [Datos.marcarMutacion, Function.update_of_ne other]
      rw [others k other]
      exact marks.igual k unmarked
  · intro k marked
    rw [marcada_apply] at marked
    simp only [Datos.marcarMutacion, Function.update_apply]
    have grows := marks.crece
    split at marked
    · next same => exact ⟨_, if_pos same, by omega⟩
    · next other =>
      rw [if_neg other]
      exact marks.nueva k marked

/-- The generations say exactly what was marked. -/
theorem Marcadas.clavesMutadas (marks : Marcadas b d m) : clavesMutadas b d = m := by
  funext key
  unfold ConfigStore.clavesMutadas
  cases marked : m key with
  | false =>
    rw [(marks.igual key marked).1]
    split <;> simp [*]
  | true =>
    obtain ⟨g, here, newer⟩ := marks.nueva key marked
    rw [here]
    simp only [decide_eq_true_eq]
    intro same
    have := marks.base key g same
    omega

theorem Marcadas.lookup_mezcla (marks : Marcadas b d m) (fresco : Diccionario) (key : Clave) :
    (mezcla fresco b d).lookup key = if m key then d.valores.lookup key else fresco.lookup key := by
  unfold mezcla
  rw [lookup_filtra, lookup_union, lookup_filtra, marks.clavesMutadas]
  cases marked : m key with
  | true => cases there : d.valores.lookup key <;> simp [there, marked]
  | false =>
    have kept := (marks.igual key marked).2
    cases there : d.valores.lookup key with
    | none =>
      rw [there] at kept
      simp [marked, ← kept]
    | some v => simp [marked, there]

theorem Objeto.cambia_spec (obj : Objeto) (c : Cambio) :
    (obj.cambia c = obj ∧ ∀ key, ¬ c.toca obj.data key) ∨
    (∃ key v, c = .dentro key v ∧ (obj.data.valores.lookup key).isSome = true ∧ obj.cambia c =
      { obj with data := { obj.data with valores := obj.data.valores.insert key v } }) ∨
    ∃ key valores, (∀ k, k ≠ key → valores.lookup k = obj.data.valores.lookup k) ∧
      (∀ k, c.toca obj.data k → k = key) ∧
      obj.cambia c = obj.intenta key ({ obj.data with valores := valores }.marcarMutacion key) := by
  cases c with
  | pone key v =>
    right; right
    exact ⟨key, _, fun k other => by rw [lookup_insert_apply, if_neg other], fun k same => same.symm, rfl⟩
  | quita key =>
    cases here : obj.data.valores.lookup key with
    | none =>
      left
      refine ⟨by simp [Objeto.cambia, here], ?_⟩
      rintro k ⟨rfl, present⟩
      rw [here] at present
      cases present
    | some v =>
      right; right
      refine ⟨key, obj.data.valores.erase key, ?_, fun k same => same.1.symm, ?_⟩
      · intro k other
        rw [lookup_erase_apply, if_neg other]
      · simp [Objeto.cambia, here, Datos.delItem]
  | dentro key v =>
    cases here : obj.data.valores.lookup key with
    | none => exact .inl ⟨by simp [Objeto.cambia, here], fun k no => no⟩
    | some w =>
      right; left
      exact ⟨key, v, rfl, by rw [here]; rfl, by simp [Objeto.cambia, here]⟩

theorem Marcadas.dentro (marks : Marcadas b d m) (present : (d.valores.lookup key).isSome = true) :
    Marcadas b { d with valores := d.valores.insert key v } m := by
  refine ⟨marks.base, marks.crece, ?_, marks.nueva⟩
  intro k unmarked
  refine ⟨(marks.igual k unmarked).1, ?_⟩
  rw [← (marks.igual k unmarked).2, lookup_insert_apply]
  split
  · next same => rw [same, present]; rfl
  · rfl

/-- What a list of changes keeps: it marks for every baseline alike. -/
structure Mudanza (obj obj' : Objeto) : Prop where
  baseline : obj'.baseline = obj.baseline
  vida : obj'.vida = obj.vida
  pendientes : obj'.secretosPendientes = obj.secretosPendientes
  acotada : obj.data.Acotada → obj'.data.Acotada
  desde : ∀ b, Marcadas b obj.data obj.desde → Marcadas b obj'.data obj'.desde
  nuevas : ∀ b, Marcadas b obj.data obj.nuevas → Marcadas b obj'.data obj'.nuevas
  crecen : ∀ key, (obj.desde key = true → obj'.desde key = true) ∧
    (obj.nuevas key = true → obj'.nuevas key = true)

theorem Mudanza.refl (obj : Objeto) : Mudanza obj obj :=
  ⟨rfl, rfl, rfl, id, fun _ => id, fun _ => id, fun _ => ⟨id, id⟩⟩

theorem Mudanza.trans {obj obj' obj'' : Objeto} (first : Mudanza obj obj') (second : Mudanza obj' obj'') :
    Mudanza obj obj'' where
  baseline := second.baseline.trans first.baseline
  vida := second.vida.trans first.vida
  pendientes := second.pendientes.trans first.pendientes
  acotada := fun bounded => second.acotada (first.acotada bounded)
  desde := fun b marks => second.desde b (first.desde b marks)
  nuevas := fun b marks => second.nuevas b (first.nuevas b marks)
  crecen := fun key => ⟨fun was => (second.crecen key).1 ((first.crecen key).1 was),
    fun was => (second.crecen key).2 ((first.crecen key).2 was)⟩

theorem marcada_of (m : Clave → Bool) (key k : Clave) (was : m k = true) : marcada m key k = true := by
  rw [marcada_apply, was]
  split <;> rfl

theorem Objeto.mudanza_cambia (obj : Objeto) (c : Cambio) : Mudanza obj (obj.cambia c) := by
  obtain ⟨same, _⟩ | ⟨key, v, _, present, same⟩ | ⟨key, valores, others, _, same⟩ := obj.cambia_spec c
  · rw [same]
    exact .refl obj
  · rw [same]
    exact ⟨rfl, rfl, rfl, id, fun b marks => marks.dentro present, fun b marks => marks.dentro present,
      fun _ => ⟨id, id⟩⟩
  · rw [same]
    exact ⟨rfl, rfl, rfl, fun bounded => Datos.Acotada.marcar (d := { obj.data with valores := valores }) bounded key,
      fun b marks => marks.marca others, fun b marks => marks.marca others,
      fun k => ⟨marcada_of obj.desde key k, marcada_of obj.nuevas key k⟩⟩

theorem Objeto.mudanza_foldl (obj : Objeto) (cambios : List Cambio) :
    Mudanza obj (cambios.foldl Objeto.cambia obj) := by
  induction cambios generalizing obj with
  | nil => exact .refl obj
  | cons c cambios ih => exact (obj.mudanza_cambia c).trans (ih _)

/-- A key that a change touches is marked by it, and a later change still touches its key
    unless that was marked in between. -/
theorem Objeto.cambia_toca (obj : Objeto) (c c' : Cambio) (key : Clave) :
    (c.toca obj.data key → (obj.cambia c).desde key = true ∧ (obj.cambia c).nuevas key = true) ∧
    (c'.toca obj.data key → c'.toca (obj.cambia c).data key ∨
      (obj.cambia c).desde key = true ∧ (obj.cambia c).nuevas key = true) := by
  obtain ⟨same, none_⟩ | ⟨k, v, rfl, present, same⟩ | ⟨k, valores, others, only, same⟩ := obj.cambia_spec c
  · rw [same]
    exact ⟨fun touched => absurd touched (none_ key), .inl⟩
  · rw [same]
    refine ⟨False.elim, fun touched => .inl ?_⟩
    cases c' with
    | pone k' w => exact touched
    | dentro k' w => exact touched
    | quita k' =>
      refine ⟨touched.1, ?_⟩
      rw [lookup_insert_apply]
      split
      · rfl
      · exact touched.2
  · rw [same]
    have marks : ∀ j, j = k → (obj.intenta k ({ obj.data with valores := valores }.marcarMutacion k)).desde j =
        true ∧ (obj.intenta k ({ obj.data with valores := valores }.marcarMutacion k)).nuevas j = true := by
      rintro j rfl
      simp [Objeto.intenta, marcada_apply]
    refine ⟨fun touched => marks key (only key touched), fun touched => ?_⟩
    by_cases mine : key = k
    · exact .inr (marks key mine)
    · left
      cases c' with
      | pone k' w => exact touched
      | dentro k' w => exact touched
      | quita k' => exact ⟨touched.1, (congrArg Option.isSome (others key mine)).trans touched.2⟩

theorem Objeto.foldl_toca (obj : Objeto) (cambios : List Cambio) (key : Clave)
    (touched : ∃ c ∈ cambios, c.toca obj.data key) :
    (cambios.foldl Objeto.cambia obj).desde key = true ∧ (cambios.foldl Objeto.cambia obj).nuevas key = true := by
  induction cambios generalizing obj with
  | nil =>
    obtain ⟨c, inside, _⟩ := touched
    cases inside
  | cons head cambios ih =>
    obtain ⟨c, inside, touches⟩ := touched
    have later := ((obj.cambia head).mudanza_foldl cambios).crecen key
    cases List.mem_cons.mp inside with
    | inl first =>
      obtain ⟨marked, new⟩ := (obj.cambia_toca head head key).1 (first ▸ touches)
      exact ⟨later.1 marked, later.2 new⟩
    | inr rest =>
      cases (obj.cambia_toca head c key).2 touches with
      | inl still => exact ih _ ⟨c, rest, still⟩
      | inr marked => exact ⟨later.1 marked.1, later.2 marked.2⟩

end Generaciones

/-! The invariant -/

/-- A save after its snapshot: what its object changed before and after, and the merge
    outside the sensitive keys. -/
structure Vale (a : Archivo) (obj : Objeto) (g : Guardado) : Prop where
  fresco : a.fresco = some g.fresco
  antes : Marcadas obj.baseline g.snapshot g.intentadas
  despues : Marcadas g.snapshot obj.data obj.nuevas
  mutadas : g.clavesMutadas = g.intentadas
  mezcla : ∀ key, key ∉ clavesSensibles →
    g.saveData.lookup key = (mezcla g.fresco obj.baseline g.snapshot).lookup key
  resto : ∀ key ∈ g.resto, key ∈ clavesSensibles

def EnCurso (a : Archivo) (obj : Objeto) : Fase → Prop
  | .leido fresco => a.fresco = some fresco
  | .claves g => Vale a obj g
  | .migra g key _ => Vale a obj g ∧ key ∈ clavesSensibles

structure Invariante (s : Estado) : Prop where
  acotada : ∀ o obj, s.objetos o = some obj → obj.data.Acotada
  sano : ∀ o obj, s.objetos o = some obj → obj.guardable = true → Marcadas obj.baseline obj.data obj.desde
  enCurso : ∀ o fase, s.cerrojo = some (o, fase) → ∃ obj, s.objetos o = some obj ∧ obj.guardable = true ∧
    EnCurso s.archivo obj fase

section Pasos
variable {py : Entorno} {s t : Estado} {e : Evento} {o : Nat} {obj : Objeto}

theorem objetos_pone (s : Estado) (o : Nat) (obj : Objeto) (p : Nat) :
    (s.pone o obj).objetos p = if p = o then some obj else s.objetos p := Function.update_apply ..

/-- One object moves; the lock stays with another one or is this one's. -/
theorem Invariante.mueve (inv : Invariante s) (objetos : t.objetos = (s.pone o obj).objetos)
    (acotada : obj.data.Acotada) (sano : obj.guardable = true → Marcadas obj.baseline obj.data obj.desde)
    (cerrojo : ∀ p fase, t.cerrojo = some (p, fase) →
      p ≠ o ∧ s.cerrojo = some (p, fase) ∧ t.archivo = s.archivo ∨
      p = o ∧ obj.guardable = true ∧ EnCurso t.archivo obj fase) : Invariante t := by
  constructor
  · intro p obj' here
    rw [objetos, objetos_pone] at here
    split at here
    · cases here
      exact acotada
    · exact inv.acotada p obj' here
  · intro p obj' here savable
    rw [objetos, objetos_pone] at here
    split at here
    · cases here
      exact sano savable
    · exact inv.sano p obj' here savable
  · intro p fase held
    obtain ⟨other, same, file⟩ | ⟨rfl, savable, going⟩ := cerrojo p fase held
    · obtain ⟨obj', here, savable, going⟩ := inv.enCurso p fase same
      refine ⟨obj', ?_, savable, file ▸ going⟩
      rw [objetos, objetos_pone, if_neg other]
      exact here
    · exact ⟨obj, by rw [objetos, objetos_pone, if_pos rfl], savable, going⟩

/-- An object that cannot be saved does not hold the lock. -/
theorem Invariante.ajeno (inv : Invariante s) (here : s.objetos o = some obj)
    (not_yet : obj.guardable = false) {p : Nat} {fase : Fase} (held : s.cerrojo = some (p, fase)) : p ≠ o := by
  rintro rfl
  obtain ⟨obj', there, savable, _⟩ := inv.enCurso p fase held
  rw [here] at there
  cases there
  rw [not_yet] at savable
  cases savable

/-- What the loop over the sensitive keys may change of a save. -/
structure Sigue (g g' : Guardado) (key : Clave) : Prop where
  fresco : g'.fresco = g.fresco
  snapshot : g'.snapshot = g.snapshot
  mutadas : g'.clavesMutadas = g.clavesMutadas
  intentadas : g'.intentadas = g.intentadas
  vivas : g'.vivas = g.vivas
  otras : ∀ k, k ≠ key → g'.saveData.lookup k = g.saveData.lookup k
  fallidas : ∀ k, k ≠ key → g'.fallidas k = g.fallidas k
  resto : ∀ k ∈ g'.resto, k ∈ g.resto

theorem Vale.sigue {a : Archivo} {obj' : Objeto} {g g' : Guardado} {key : Clave} (good : Vale a obj g)
    (goes : Sigue g g' key) (inside : key ∈ clavesSensibles) (baseline : obj'.baseline = obj.baseline)
    (data : obj'.data = obj.data) (nuevas : obj'.nuevas = obj.nuevas) : Vale a obj' g' where
  fresco := by rw [goes.fresco]; exact good.fresco
  antes := by rw [goes.snapshot, goes.intentadas, baseline]; exact good.antes
  despues := by rw [goes.snapshot, data, nuevas]; exact good.despues
  mutadas := by rw [goes.mutadas, goes.intentadas]; exact good.mutadas
  mezcla := by
    intro k outside
    have other : k ≠ key := fun same => outside (same ▸ inside)
    rw [goes.otras k other, goes.fresco, goes.snapshot, baseline]
    exact good.mezcla k outside
  resto := fun k later => good.resto k (goes.resto k later)

theorem sigue_guarda {g g' : Guardado} {key : Clave} (goes : Sigue g g' key) (v : Option Valor) :
    Sigue g (g'.guarda key v) key := by
  cases v with
  | none => exact goes
  | some v =>
    refine ⟨goes.fresco, goes.snapshot, goes.mutadas, goes.intentadas, goes.vivas, ?_, goes.fallidas, goes.resto⟩
    intro k other
    rw [← goes.otras k other]
    exact AList.lookup_insert_ne other

theorem sigue_falla {g g' : Guardado} {key : Clave} (goes : Sigue g g' key) : Sigue g (g'.falla key) key := by
  refine ⟨goes.fresco, goes.snapshot, goes.mutadas, goes.intentadas, goes.vivas, goes.otras, ?_, goes.resto⟩
  intro k other
  rw [← goes.fallidas k other]
  exact Function.update_of_ne other _ _

theorem sigue_salta {g : Guardado} {key : Clave} {resto : List Clave} (split : g.resto = key :: resto) :
    Sigue g (g.salta key resto) key := by
  refine ⟨rfl, rfl, rfl, rfl, rfl, fun k other => AList.lookup_erase_ne other, fun _ _ => rfl, ?_⟩
  intro k later
  rw [split]
  exact List.mem_cons_of_mem key later

/-- The ways a turn can go. -/
inductive Tramitado (py : Entorno) (s : Estado) (obj : Objeto) (g : Guardado) (key : Clave)
    (resto : List Clave) : Tramite → Prop where
  | escribe (v : Valor) (explicita : (g.clavesMutadas key || obj.secretosPendientes key) = true)
      (objeto : g.snapshot.valores.cierta key = some v) :
      Tramitado py s obj g key resto ⟨Function.update s.keyring key (some (v.str py)),
        Function.update obj.secretosPendientes key false, .claves (g.salta key resto)⟩
  | borra (explicita : (g.clavesMutadas key || obj.secretosPendientes key) = true)
      (objeto : g.snapshot.valores.cierta key = none) :
      Tramitado py s obj g key resto ⟨Function.update s.keyring key none,
        Function.update obj.secretosPendientes key false, .claves (g.salta key resto)⟩
  | noBorra (explicita : (g.clavesMutadas key || obj.secretosPendientes key) = true)
      (objeto : g.snapshot.valores.cierta key = none) :
      Tramitado py s obj g key resto ⟨s.keyring, Function.update obj.secretosPendientes key true,
        .claves ((g.salta key resto).falla key)⟩
  | falla (pendientes : Clave → Bool)
      (secreto : (g.clavesMutadas key || obj.secretosPendientes key) = false ∨
        (g.snapshot.valores.cierta key).isSome = true) :
      Tramitado py s obj g key resto ⟨s.keyring, pendientes,
        .claves (((g.salta key resto).falla key).guarda key (g.fresco.cierta key))⟩
  | vigente (enKeyring : (s.vivo key).isSome = true ∨ g.fresco.cierta key = none) :
      Tramitado py s obj g key resto ⟨s.keyring, obj.secretosPendientes, .claves (g.salta key resto)⟩
  | migra (v : Valor) (archivo : g.fresco.cierta key = some v) (vacio : s.vivo key = none) :
      Tramitado py s obj g key resto ⟨s.keyring, obj.secretosPendientes, .migra (g.salta key resto) key v⟩

theorem tramita_cases (py : Entorno) (s : Estado) (obj : Objeto) (g : Guardado) (key : Clave)
    (resto : List Clave) (ok : Bool) : Tramitado py s obj g key resto (tramita py s obj g key resto ok) := by
  simp only [tramita]
  split
  · next explicit =>
    split
    · next v here => exact .escribe v explicit here
    · next v here => exact .falla _ (.inr (by rw [here]; rfl))
    · next here => exact .borra explicit here
    · next here => exact .noBorra explicit here
  · next explicit =>
    split
    · next nothing =>
      simp only [Bool.and_eq_true, Option.isNone_iff_eq_none] at nothing
      exact .vigente (.inr nothing.2)
    · split
      · split
        · next empty file => exact .migra _ file empty
        · next v w none_ =>
          refine .vigente ?_
          cases live : s.vivo key with
          | some x => exact .inl rfl
          | none =>
            cases file : g.fresco.cierta key with
            | none => exact .inr rfl
            | some x => exact absurd file (none_ x live)
      · exact .falla _ (.inl (by simpa using explicit))

theorem tramita_falla (py : Entorno) (s : Estado) (obj : Objeto) (g : Guardado) (key : Clave)
    (resto : List Clave) : (tramita py s obj g key resto false).keyring = s.keyring := by
  simp only [tramita]
  split
  · split <;> first | rfl | (next fine => cases fine)
  · rfl

theorem Tramitado.sigue {g : Guardado} {key : Clave} {resto : List Clave} {hecho : Tramite}
    (done : Tramitado py s obj g key resto hecho) (split : g.resto = key :: resto) :
    ∃ g', Sigue g g' key ∧ (hecho.fase = .claves g' ∨ ∃ v, hecho.fase = .migra g' key v) := by
  have base := sigue_salta split
  cases done with
  | escribe v explicita objeto => exact ⟨_, base, .inl rfl⟩
  | borra explicita objeto => exact ⟨_, base, .inl rfl⟩
  | noBorra explicita objeto => exact ⟨_, sigue_falla base, .inl rfl⟩
  | falla pendientes secreto => exact ⟨_, sigue_guarda (sigue_falla base) _, .inl rfl⟩
  | vigente enKeyring => exact ⟨_, base, .inl rfl⟩
  | migra v archivo vacio => exact ⟨_, base, .inr ⟨v, rfl⟩⟩

/-! The steps -/

theorem step_construye {leyo : Bool} (moved : step py s (.construye o leyo) = some t) :
    s.objetos o = none ∧ ∃ leido, (∀ d, leido = some d → ∃ raw, s.archivo = .tabla raw ∧ d = plano raw) ∧
      t = s.pone o (construido py leido) := by
  simp only [step] at moved
  split at moved
  · cases moved
  · next free =>
    cases moved
    refine ⟨free, _, ?_, rfl⟩
    intro d read
    split at read
    · next raw file =>
      split at read
      · cases read
        exact ⟨raw, file, rfl⟩
      · cases read
    · cases read

theorem step_obtiene {ok : Bool} (moved : step py s (.obtiene o ok) = some t) :
    ∃ obj key resto migrado, s.objetos o = some obj ∧ obj.vida = .hidrata (key :: resto) migrado ∧
      ((∃ stored migrado', ok = true ∧ s.vivo key = some stored ∧ t = s.pone o { obj with
          data := obj.data.setItem key (.texto stored), vida := .hidrata resto migrado' }) ∨
        (∃ v, (ok = true → s.vivo key = none) ∧ obj.data.valores.cierta key = some v ∧
          t = s.pone o { obj with vida := .planta key v (!ok) resto migrado }) ∨
        t = s.pone o { obj with vida := .hidrata resto migrado }) := by
  simp only [step] at moved
  split at moved
  · next obj here =>
    split at moved
    · next key resto migrado life =>
      refine ⟨obj, key, resto, migrado, here, life, ?_⟩
      split at moved
      · next stored got =>
        cases moved
        split at got
        · next fine => exact .inl ⟨stored, _, fine, got, rfl⟩
        · cases got
      · next v got text =>
        cases moved
        refine .inr (.inl ⟨v, ?_, text, rfl⟩)
        intro fine
        rw [if_pos fine] at got
        exact got
      · cases moved
        exact .inr (.inr rfl)
    · cases moved
  · cases moved

theorem step_planta {ok : Bool} (moved : step py s (.planta o ok) = some t) :
    ∃ obj key v fallo resto migrado, s.objetos o = some obj ∧ obj.vida = .planta key v fallo resto migrado ∧
      t.objetos = (s.pone o { obj with vida := .hidrata resto (migrado || ok) }).objetos ∧
      t.archivo = s.archivo ∧ t.cerrojo = s.cerrojo ∧
      t.keyring = if ok then Function.update s.keyring key (some (v.str py)) else s.keyring := by
  simp only [step] at moved
  split at moved
  · next obj here =>
    split at moved
    · next key v fallo resto migrado life =>
      cases moved
      refine ⟨obj, key, v, fallo, resto, migrado, here, life, ?_, ?_, ?_, ?_⟩ <;> split <;> rfl
    · cases moved
  · cases moved

theorem step_hidratado (moved : step py s (.hidratado o) = some t) :
    ∃ obj migrado, s.objetos o = some obj ∧ obj.vida = .hidrata [] migrado ∧
      t = s.pone o { obj.alFin with vida := if migrado then .friega else .listo } := by
  simp only [step] at moved
  split at moved
  · next obj here =>
    split at moved
    · next life =>
      cases moved
      exact ⟨obj, true, here, life, rfl⟩
    · next life =>
      cases moved
      exact ⟨obj, false, here, life, rfl⟩
    · cases moved
  · cases moved

theorem step_muta {cambios : List Cambio} (moved : step py s (.muta o cambios) = some t) :
    ∃ obj, s.objetos o = some obj ∧ obj.vida = .listo ∧ t = s.pone o (cambios.foldl Objeto.cambia obj) := by
  simp only [step] at moved
  split at moved
  · next obj here =>
    split at moved
    · next life =>
      cases moved
      exact ⟨obj, here, life, rfl⟩
    · cases moved
  · cases moved

theorem step_toma {leyo : Bool} (moved : step py s (.toma o leyo) = some t) :
    ∃ obj, s.objetos o = some obj ∧ obj.guardable = true ∧ s.cerrojo = none ∧
      ((∃ fresco, s.archivo.fresco = some fresco ∧ t = { s with cerrojo := some (o, .leido fresco) }) ∨
        t = s.pone o obj.trasGuardar) := by
  simp only [step] at moved
  split at moved
  · next obj free here =>
    split at moved
    · next savable =>
      refine ⟨obj, here, savable, free, ?_⟩
      split at moved
      · next fresco read =>
        cases moved
        split at read
        · exact .inl ⟨fresco, read, rfl⟩
        · cases read
      · cases moved
        exact .inr rfl
    · cases moved
  · cases moved

theorem step_foto (moved : step py s (.foto o) = some t) :
    ∃ obj fresco, s.objetos o = some obj ∧ s.cerrojo = some (o, .leido fresco) ∧
      t = { s.pone o { obj with nuevas := ninguna } with cerrojo := some (o, .claves (empieza fresco obj)) } := by
  simp only [step] at moved
  split at moved
  · next p fresco obj held here =>
    split at moved
    · next mine =>
      cases moved
      exact ⟨obj, fresco, here, mine ▸ held, rfl⟩
    · cases moved
  · cases moved

theorem step_clave {ok : Bool} (moved : step py s (.clave o ok) = some t) :
    ∃ obj g key resto hecho, s.objetos o = some obj ∧ s.cerrojo = some (o, .claves g) ∧
      g.resto = key :: resto ∧ Tramitado py s obj g key resto hecho ∧ (ok = false → hecho.keyring = s.keyring) ∧
      t = { s.pone o { obj with secretosPendientes := hecho.pendientes } with
        keyring := hecho.keyring, cerrojo := some (o, hecho.fase) } := by
  simp only [step] at moved
  split at moved
  · next p g obj held here =>
    split at moved
    · next key resto remains =>
      split at moved
      · next mine =>
        cases moved
        refine ⟨obj, g, key, resto, _, here, mine ▸ held, remains, tramita_cases py s obj g key resto ok, ?_, rfl⟩
        rintro rfl
        exact tramita_falla py s obj g key resto
      · cases moved
    · cases moved
  · cases moved

theorem step_migra {ok : Bool} (moved : step py s (.migra o ok) = some t) :
    ∃ g key v, s.cerrojo = some (o, .migra g key v) ∧
      t = if ok then { s with
          keyring := Function.update s.keyring key (some (v.str py)), cerrojo := some (o, .claves g) }
        else { s with cerrojo := some (o, .claves ((g.falla key).guarda key (some v))) } := by
  simp only [step] at moved
  split at moved
  · next p g key v held =>
    split at moved
    · next mine =>
      refine ⟨g, key, v, mine ▸ held, ?_⟩
      split at moved
      · next fine => cases moved; rw [if_pos fine]
      · next failed => cases moved; rw [if_neg failed]
    · cases moved
  · cases moved

/-- A successful save's last step. -/
theorem step_reemplaza (moved : step py s (.reemplaza o true) = some t) :
    ∃ (obj : Objeto) (g : Guardado) (obj' : Objeto), s.objetos o = some obj ∧
      s.cerrojo = some (o, .claves g) ∧ g.resto = [] ∧
      obj'.data = obj.data ∧ obj'.baseline = g.snapshot ∧ obj'.desde = obj.nuevas ∧
      obj'.nuevas = obj.nuevas ∧ obj'.vida = obj.vida ∧
      t = { s.pone o obj'.trasGuardar with archivo := .tabla g.saveData, cerrojo := none } := by
  simp only [step] at moved
  split at moved
  · next p g obj held here =>
    split at moved
    · next done =>
      split at moved
      · next mine =>
        cases moved
        exact ⟨obj, g, { obj.cierra py g (Estado.efectivo py { s with archivo := .tabla g.saveData }) with
          baseline := g.snapshot, desde := obj.nuevas }, here, mine ▸ held, done, rfl, rfl, rfl, rfl, rfl, rfl⟩
      · cases moved
    · cases moved
  · cases moved

/-- The end of a save by an exception, a failed write among them. -/
theorem step_suelta (moved : step py s e = some t) (ends : e = .aborta o ∨ e = .reemplaza o false) :
    ∃ obj fase, s.objetos o = some obj ∧ s.cerrojo = some (o, fase) ∧ t = s.suelta py o obj fase := by
  obtain rfl | rfl := ends
  · simp only [step] at moved
    split at moved
    · next p fase obj held here =>
      split at moved
      · next mine =>
        cases moved
        exact ⟨obj, fase, here, mine ▸ held, rfl⟩
      · cases moved
    · cases moved
  · simp only [step] at moved
    split at moved
    · next p g obj held here =>
      split at moved
      · split at moved
        · next mine =>
          cases moved
          exact ⟨obj, .claves g, here, mine ▸ held, rfl⟩
        · cases moved
      · cases moved
    · cases moved

/-! What the steps keep -/

theorem construido_acotada (py : Entorno) (leido : Option Diccionario) : (construido py leido).data.Acotada := by
  have migrated : ∀ d : Datos, d.Acotada → (migrateLlmModel py d).Acotada := by
    intro d bounded
    simp only [migrateLlmModel]
    split
    · exact bounded
    · split
      · split
        · exact bounded
        · exact Datos.Acotada.marcar (d := { d with valores := _ }) bounded _
      · exact bounded
  have empty : Datos.Acotada ⟨loadDefaults py, 0, fun _ => none⟩ := nofun
  refine migrated _ ?_
  cases leido with
  | none => exact empty
  | some nuevos => exact empty.update nuevos

theorem trasGuardar_data (obj : Objeto) : obj.trasGuardar.data = obj.data := by
  unfold Objeto.trasGuardar
  split <;> rfl

theorem trasGuardar_sano (bounded : obj.data.Acotada)
    (marks : Marcadas obj.baseline obj.data obj.desde) :
    Marcadas obj.trasGuardar.baseline obj.trasGuardar.data obj.trasGuardar.desde := by
  unfold Objeto.trasGuardar
  split
  · exact .refl bounded
  · exact marks

theorem trasGuardar_listo (ready : obj.vida = .listo) : obj.trasGuardar = obj := by
  simp [Objeto.trasGuardar, ready]

theorem guardable_of_listo (ready : obj.vida = .listo) : obj.guardable = true := by
  simp [Objeto.guardable, ready]

/-- An object that is being constructed moves. -/
theorem Invariante.construye (inv : Invariante s) {obj' : Objeto} (here : s.objetos o = some obj)
    (not_yet : obj.guardable = false) (objetos : t.objetos = (s.pone o obj').objetos)
    (cerrojo : t.cerrojo = s.cerrojo) (archivo : t.archivo = s.archivo) (acotada : obj'.data.Acotada)
    (sano : obj'.guardable = true → Marcadas obj'.baseline obj'.data obj'.desde) : Invariante t := by
  refine inv.mueve objetos acotada sano ?_
  intro p fase held
  rw [cerrojo] at held
  exact .inl ⟨inv.ajeno here not_yet held, held, archivo⟩

theorem Invariante.guardado (inv : Invariante s) {fase : Fase} (held : s.cerrojo = some (o, fase))
    (here : s.objetos o = some obj) : obj.guardable = true ∧ EnCurso s.archivo obj fase := by
  obtain ⟨obj', there, savable, going⟩ := inv.enCurso o fase held
  rw [here] at there
  cases there
  exact ⟨savable, going⟩

theorem Invariante.suelta (inv : Invariante s) {fase : Fase} (here : s.objetos o = some obj)
    (held : s.cerrojo = some (o, fase)) : Invariante (s.suelta py o obj fase) := by
  have savable := (inv.guardado held here).1
  have bounded := inv.acotada o obj here
  have marks := inv.sano o obj here savable
  unfold Estado.suelta
  split
  · next g _ =>
    have closed : Marcadas (obj.cierra py g (s.efectivo py)).baseline (obj.cierra py g (s.efectivo py)).data
        (obj.cierra py g (s.efectivo py)).desde := marks
    exact inv.mueve rfl (by rw [trasGuardar_data]; exact bounded) (fun _ => trasGuardar_sano bounded closed) nofun
  · exact inv.mueve rfl (by rw [trasGuardar_data]; exact bounded) (fun _ => trasGuardar_sano bounded marks) nofun

theorem Invariante.paso (inv : Invariante s) (moved : step py s e = some t) : Invariante t := by
  cases e with
  | construye o leyo =>
    obtain ⟨free, leido, _, rfl⟩ := step_construye moved
    refine inv.mueve rfl (construido_acotada py leido) nofun ?_
    intro p fase held
    obtain ⟨obj', there, _⟩ := inv.enCurso p fase held
    refine .inl ⟨?_, held, rfl⟩
    rintro rfl
    rw [free] at there
    cases there
  | obtiene o ok =>
    obtain ⟨obj, key, resto, migrado, here, life, turn⟩ := step_obtiene moved
    have not_yet : obj.guardable = false := by
      simp [Objeto.guardable, life]
    have bounded := inv.acotada o obj here
    obtain ⟨stored, migrado', _, _, rfl⟩ | ⟨v, _, _, rfl⟩ | rfl := turn
    · exact inv.construye here not_yet rfl rfl rfl (Datos.Acotada.marcar (d := { obj.data with valores := _ }) bounded key) nofun
    · exact inv.construye here not_yet rfl rfl rfl bounded nofun
    · exact inv.construye here not_yet rfl rfl rfl bounded nofun
  | planta o ok =>
    obtain ⟨obj, key, v, fallo, resto, migrado, here, life, objetos, archivo, cerrojo, _⟩ := step_planta moved
    have not_yet : obj.guardable = false := by
      simp [Objeto.guardable, life]
    exact inv.construye here not_yet objetos cerrojo archivo (inv.acotada o obj here) nofun
  | hidratado o =>
    obtain ⟨obj, migrado, here, life, rfl⟩ := step_hidratado moved
    have not_yet : obj.guardable = false := by
      simp [Objeto.guardable, life]
    have bounded := inv.acotada o obj here
    exact inv.construye here not_yet rfl rfl rfl bounded fun _ => .refl bounded
  | muta o cambios =>
    obtain ⟨obj, here, life, rfl⟩ := step_muta moved
    have moves := obj.mudanza_foldl cambios
    have marks := inv.sano o obj here (guardable_of_listo life)
    refine inv.mueve rfl (moves.acotada (inv.acotada o obj here)) (fun _ => ?_) ?_
    · rw [moves.baseline]
      exact moves.desde _ marks
    · intro p fase held
      by_cases mine : p = o
      · subst mine
        obtain ⟨savable, going⟩ := inv.guardado held here
        refine .inr ⟨rfl, guardable_of_listo (moves.vida.trans life), ?_⟩
        have keeps : ∀ g, Vale s.archivo obj g → Vale s.archivo (cambios.foldl Objeto.cambia obj) g := by
          intro g good
          exact ⟨good.fresco, moves.baseline ▸ good.antes, moves.nuevas _ good.despues, good.mutadas,
            moves.baseline ▸ good.mezcla, good.resto⟩
        cases fase with
        | leido fresco => exact going
        | claves g => exact keeps g going
        | migra g key v => exact ⟨keeps g going.1, going.2⟩
      · exact .inl ⟨mine, held, rfl⟩
  | toma o leyo =>
    obtain ⟨obj, here, savable, free, ⟨fresco, read, rfl⟩ | rfl⟩ := step_toma moved
    · refine ⟨inv.acotada, inv.sano, ?_⟩
      intro p fase held
      cases held
      exact ⟨obj, here, savable, read⟩
    · have bounded := inv.acotada o obj here
      refine inv.mueve rfl (by rw [trasGuardar_data]; exact bounded)
        (fun _ => trasGuardar_sano bounded (inv.sano o obj here savable)) ?_
      intro p fase held
      have none_ : s.cerrojo = some (p, fase) := held
      rw [free] at none_
      cases none_
  | foto o =>
    obtain ⟨obj, fresco, here, held, rfl⟩ := step_foto moved
    obtain ⟨savable, going⟩ := inv.guardado held here
    have bounded := inv.acotada o obj here
    have marks := inv.sano o obj here savable
    refine inv.mueve rfl bounded (fun _ => marks) ?_
    intro p fase now
    cases now
    refine .inr ⟨rfl, savable, ?_⟩
    exact ⟨going, marks, .refl bounded, marks.clavesMutadas, fun _ _ => rfl, fun _ => id⟩
  | clave o ok =>
    obtain ⟨obj, g, key, resto, hecho, here, held, remains, done, _, rfl⟩ := step_clave moved
    obtain ⟨savable, good⟩ := inv.guardado held here
    have inside := good.resto key (by rw [remains]; exact List.mem_cons_self)
    obtain ⟨g', goes, ending⟩ := done.sigue remains
    have good' : Vale s.archivo { obj with secretosPendientes := hecho.pendientes } g' :=
      good.sigue goes inside rfl rfl rfl
    refine inv.mueve rfl (inv.acotada o obj here) (fun _ => inv.sano o obj here savable) ?_
    intro p fase now
    cases now
    refine .inr ⟨rfl, savable, ?_⟩
    obtain same | ⟨v, same⟩ := ending
    · rw [same]
      exact good'
    · rw [same]
      exact ⟨good', inside⟩
  | migra o ok =>
    obtain ⟨g, key, v, held, rfl⟩ := step_migra moved
    obtain ⟨obj, here, savable, good, inside⟩ := inv.enCurso o _ held
    have failed : Sigue g ((g.falla key).guarda key (some v)) key :=
      sigue_guarda (sigue_falla ⟨rfl, rfl, rfl, rfl, rfl, fun _ _ => rfl, fun _ _ => rfl, fun _ => id⟩) _
    cases ok with
    | true =>
      refine ⟨inv.acotada, inv.sano, ?_⟩
      intro p fase now
      cases now
      exact ⟨obj, here, savable, good⟩
    | false =>
      refine ⟨inv.acotada, inv.sano, ?_⟩
      intro p fase now
      cases now
      exact ⟨obj, here, savable, good.sigue failed inside rfl rfl rfl⟩
  | reemplaza o ok =>
    cases ok with
    | true =>
      obtain ⟨obj, g, obj', here, held, remains, data, baseline, desde, _, _, rfl⟩ := step_reemplaza moved
      obtain ⟨savable, good⟩ := inv.guardado held here
      have bounded : obj'.data.Acotada := data ▸ inv.acotada o obj here
      refine inv.mueve rfl (by rw [trasGuardar_data]; exact bounded) (fun _ => ?_) nofun
      refine trasGuardar_sano bounded ?_
      rw [baseline, data, desde]
      exact good.despues
    | false =>
      obtain ⟨obj, fase, here, held, rfl⟩ := step_suelta moved (.inr rfl)
      exact inv.suelta here held
  | aborta o =>
    obtain ⟨obj, fase, here, held, rfl⟩ := step_suelta moved (.inl rfl)
    exact inv.suelta here held

theorem Invariante.reached {allowed : Estado → Evento → Prop}
    (reached : Reaches (step py) Inicial allowed s) : Invariante s := by
  refine reached.invariant ?_ fun u e v inv _ moved => inv.paso moved
  intro u first
  refine ⟨?_, ?_, ?_⟩
  · intro o obj here
    rw [first.objetos o] at here
    cases here
  · intro o obj here
    rw [first.objetos o] at here
    cases here
  · intro o fase held
    rw [first.cerrojo] at held
    cases held

/-! What a step keeps of the claim -/

theorem step_archivo (moved : step py s e = some t) (other : ∀ o, e ≠ .reemplaza o true) :
    t.archivo = s.archivo := by
  cases e with
  | construye o leyo =>
    obtain ⟨_, leido, _, rfl⟩ := step_construye moved
    rfl
  | obtiene o ok =>
    obtain ⟨obj, key, resto, migrado, _, _, turn⟩ := step_obtiene moved
    obtain ⟨stored, migrado', _, _, rfl⟩ | ⟨v, _, _, rfl⟩ | rfl := turn <;> rfl
  | planta o ok =>
    obtain ⟨obj, key, v, fallo, resto, migrado, _, _, _, archivo, _⟩ := step_planta moved
    exact archivo
  | hidratado o =>
    obtain ⟨obj, migrado, _, _, rfl⟩ := step_hidratado moved
    rfl
  | muta o cambios =>
    obtain ⟨obj, _, _, rfl⟩ := step_muta moved
    rfl
  | toma o leyo =>
    obtain ⟨obj, _, _, _, ⟨fresco, _, rfl⟩ | rfl⟩ := step_toma moved <;> rfl
  | foto o =>
    obtain ⟨obj, fresco, _, _, rfl⟩ := step_foto moved
    rfl
  | clave o ok =>
    obtain ⟨obj, g, key, resto, hecho, _, _, _, _, _, rfl⟩ := step_clave moved
    rfl
  | migra o ok =>
    obtain ⟨g, key, v, _, rfl⟩ := step_migra moved
    split <;> rfl
  | reemplaza o ok =>
    cases ok with
    | true => exact absurd rfl (other o)
    | false =>
      obtain ⟨obj, fase, _, _, rfl⟩ := step_suelta moved (.inr rfl)
      rfl
  | aborta o =>
    obtain ⟨obj, fase, _, _, rfl⟩ := step_suelta moved (.inl rfl)
    rfl

/-- One object moves and the others know what they knew. -/
theorem recuerda_pone {p : Nat} {obj' : Objeto} (objetos : t.objetos = (s.pone p obj').objetos)
    (others : ∀ o, o ≠ p → e ≠ .reemplaza o true ∧ e ≠ .foto o)
    (mine : ∀ obj, s.objetos p = some obj → obj.vida = .listo → Recuerda e p obj obj')
    (here : s.objetos o = some obj) (ready : obj.vida = .listo) :
    ∃ obj', t.objetos o = some obj' ∧ Recuerda e o obj obj' := by
  rw [objetos, objetos_pone]
  split
  · next same =>
    subst same
    exact ⟨obj', rfl, mine obj here ready⟩
  · next other =>
    obtain ⟨no_save, no_snapshot⟩ := others o other
    exact ⟨obj, here, ready, fun is => absurd is no_save, fun _ _ => id, fun is => absurd is no_snapshot,
      fun _ _ => id⟩

/-- A ready object that keeps what it knows. -/
theorem recuerda_igual {obj' : Objeto} (no_save : e ≠ .reemplaza o true) (no_snapshot : e ≠ .foto o)
    (vida : obj'.vida = .listo) (desde : obj'.desde = obj.desde) (nuevas : obj'.nuevas = obj.nuevas) :
    Recuerda e o obj obj' :=
  ⟨vida, fun is => absurd is no_save, fun _ _ was => desde ▸ was, fun is => absurd is no_snapshot,
    fun _ _ was => nuevas ▸ was⟩

theorem recuerda_mismos (objetos : t.objetos = s.objetos) (others : ∀ o, e ≠ .reemplaza o true ∧ e ≠ .foto o)
    (here : s.objetos o = some obj) (ready : obj.vida = .listo) :
    ∃ obj', t.objetos o = some obj' ∧ Recuerda e o obj obj' :=
  ⟨obj, objetos ▸ here, recuerda_igual (others o).1 (others o).2 ready rfl rfl⟩

theorem recuerda_suelta {p : Nat} {obj₀ : Objeto} {fase : Fase} (here₀ : s.objetos p = some obj₀)
    (others : ∀ o, e ≠ .reemplaza o true ∧ e ≠ .foto o) (here : s.objetos o = some obj)
    (ready : obj.vida = .listo) :
    ∃ obj', (s.suelta py p obj₀ fase).objetos o = some obj' ∧ Recuerda e o obj obj' := by
  refine recuerda_pone rfl (fun o _ => others o) ?_ here ready
  intro obj₁ here₁ ready₁
  rw [here₀] at here₁
  cases here₁
  split
  · next g _ =>
    have closed : (obj₀.cierra py g (s.efectivo py)).vida = .listo := ready₁
    rw [trasGuardar_listo closed]
    exact recuerda_igual (others p).1 (others p).2 ready₁ rfl rfl
  · rw [trasGuardar_listo ready₁]
    exact recuerda_igual (others p).1 (others p).2 ready₁ rfl rfl

theorem step_recuerda (moved : step py s e = some t) (here : s.objetos o = some obj)
    (ready : obj.vida = .listo) : ∃ obj', t.objetos o = some obj' ∧ Recuerda e o obj obj' := by
  cases e with
  | construye p leyo =>
    obtain ⟨free, leido, _, rfl⟩ := step_construye moved
    refine recuerda_pone rfl (fun _ _ => ⟨nofun, nofun⟩) ?_ here ready
    intro obj there
    rw [free] at there
    cases there
  | obtiene p ok =>
    obtain ⟨obj₀, key, resto, migrado, here₀, life, turn⟩ := step_obtiene moved
    have never : ∀ (obj' : Objeto) obj, s.objetos p = some obj → obj.vida = .listo →
        Recuerda (.obtiene p ok) p obj obj' := by
      intro obj' obj there ready
      rw [here₀] at there
      cases there
      rw [life] at ready
      cases ready
    obtain ⟨stored, migrado', _, _, rfl⟩ | ⟨v, _, _, rfl⟩ | rfl := turn <;>
      exact recuerda_pone rfl (fun _ _ => ⟨nofun, nofun⟩) (never _) here ready
  | planta p ok =>
    obtain ⟨obj₀, key, v, fallo, resto, migrado, here₀, life, objetos, _⟩ := step_planta moved
    refine recuerda_pone objetos (fun _ _ => ⟨nofun, nofun⟩) ?_ here ready
    intro obj there ready
    rw [here₀] at there
    cases there
    rw [life] at ready
    cases ready
  | hidratado p =>
    obtain ⟨obj₀, migrado, here₀, life, rfl⟩ := step_hidratado moved
    refine recuerda_pone rfl (fun _ _ => ⟨nofun, nofun⟩) ?_ here ready
    intro obj there ready
    rw [here₀] at there
    cases there
    rw [life] at ready
    cases ready
  | muta p cambios =>
    obtain ⟨obj₀, here₀, life, rfl⟩ := step_muta moved
    refine recuerda_pone rfl (fun _ _ => ⟨nofun, nofun⟩) ?_ here ready
    intro obj there ready
    rw [here₀] at there
    cases there
    have moves := obj₀.mudanza_foldl cambios
    exact ⟨moves.vida.trans ready, nofun, fun _ key => (moves.crecen key).1, nofun,
      fun _ key => (moves.crecen key).2⟩
  | toma p leyo =>
    obtain ⟨obj₀, here₀, savable, free, ⟨fresco, read, rfl⟩ | rfl⟩ := step_toma moved
    · exact recuerda_mismos rfl (fun _ => ⟨nofun, nofun⟩) here ready
    · refine recuerda_pone rfl (fun _ _ => ⟨nofun, nofun⟩) ?_ here ready
      intro obj there ready
      rw [here₀] at there
      cases there
      rw [trasGuardar_listo ready]
      exact recuerda_igual nofun nofun ready rfl rfl
  | foto p =>
    obtain ⟨obj₀, fresco, here₀, held, rfl⟩ := step_foto moved
    refine recuerda_pone rfl ?_ ?_ here ready
    · intro o other
      refine ⟨nofun, fun same => ?_⟩
      cases same
      exact other rfl
    · intro obj there ready
      rw [here₀] at there
      cases there
      exact ⟨ready, nofun, fun _ _ => id, fun _ => rfl, fun no => absurd rfl no⟩
  | clave p ok =>
    obtain ⟨obj₀, g, key, resto, hecho, here₀, held, remains, done, _, rfl⟩ := step_clave moved
    refine recuerda_pone rfl (fun _ _ => ⟨nofun, nofun⟩) ?_ here ready
    intro obj there ready
    rw [here₀] at there
    cases there
    exact recuerda_igual nofun nofun ready rfl rfl
  | migra p ok =>
    obtain ⟨g, key, v, held, rfl⟩ := step_migra moved
    refine recuerda_mismos ?_ (fun _ => ⟨nofun, nofun⟩) here ready
    split <;> rfl
  | reemplaza p ok =>
    cases ok with
    | true =>
      obtain ⟨obj₀, g, obj₁, here₀, held, remains, data, baseline, desde, nuevas, vida, rfl⟩ :=
        step_reemplaza moved
      refine recuerda_pone rfl ?_ ?_ here ready
      · intro o other
        refine ⟨fun same => ?_, nofun⟩
        cases same
        exact other rfl
      · intro obj there ready
        rw [here₀] at there
        cases there
        rw [trasGuardar_listo (vida.trans ready)]
        exact ⟨vida.trans ready, fun _ => desde, fun no => absurd rfl no, nofun, fun _ _ was => nuevas ▸ was⟩
    | false =>
      obtain ⟨obj₀, fase, here₀, held, rfl⟩ := step_suelta moved (.inr rfl)
      exact recuerda_suelta here₀ (fun _ => ⟨nofun, nofun⟩) here ready
  | aborta p =>
    obtain ⟨obj₀, fase, here₀, held, rfl⟩ := step_suelta moved (.inl rfl)
    exact recuerda_suelta here₀ (fun _ => ⟨nofun, nofun⟩) here ready

/-- The snapshot of the save going on is the one it took. -/
theorem step_fotografia {fase : Fase} {g : Guardado} (moved : step py s e = some t)
    (held : t.cerrojo = some (o, fase)) (taken : fase.guardado = some g) :
    (∃ obj, e = .foto o ∧ s.objetos o = some obj ∧ g.snapshot = obj.data ∧ g.intentadas = obj.desde) ∨
    ∃ fase' g', s.cerrojo = some (o, fase') ∧ fase'.guardado = some g' ∧ g.snapshot = g'.snapshot ∧
      g.intentadas = g'.intentadas := by
  have same : t.cerrojo = s.cerrojo → ∃ fase' g', s.cerrojo = some (o, fase') ∧
      fase'.guardado = some g' ∧ g.snapshot = g'.snapshot ∧ g.intentadas = g'.intentadas :=
    fun unchanged => ⟨fase, g, unchanged ▸ held, taken, rfl, rfl⟩
  cases e with
  | construye p leyo =>
    obtain ⟨_, leido, _, rfl⟩ := step_construye moved
    exact .inr (same rfl)
  | obtiene p ok =>
    obtain ⟨obj, key, resto, migrado, _, _, turn⟩ := step_obtiene moved
    obtain ⟨stored, migrado', _, _, rfl⟩ | ⟨v, _, _, rfl⟩ | rfl := turn <;> exact .inr (same rfl)
  | planta p ok =>
    obtain ⟨obj, key, v, fallo, resto, migrado, _, _, _, _, cerrojo, _⟩ := step_planta moved
    exact .inr (same cerrojo)
  | hidratado p =>
    obtain ⟨obj, migrado, _, _, rfl⟩ := step_hidratado moved
    exact .inr (same rfl)
  | muta p cambios =>
    obtain ⟨obj, _, _, rfl⟩ := step_muta moved
    exact .inr (same rfl)
  | toma p leyo =>
    obtain ⟨obj, _, _, free, ⟨fresco, _, rfl⟩ | rfl⟩ := step_toma moved
    · cases held
      cases taken
    · exact .inr (same rfl)
  | foto p =>
    obtain ⟨obj, fresco, here, _, rfl⟩ := step_foto moved
    cases held
    cases taken
    exact .inl ⟨obj, rfl, here, rfl, rfl⟩
  | clave p ok =>
    obtain ⟨obj, g₀, key, resto, hecho, _, held₀, remains, done, _, rfl⟩ := step_clave moved
    obtain ⟨g', goes, ending⟩ := done.sigue remains
    cases held
    have is_g : g = g' := by
      obtain same | ⟨v, same⟩ := ending <;> (rw [same] at taken; cases taken; rfl)
    subst is_g
    exact .inr ⟨_, g₀, held₀, rfl, goes.snapshot, goes.intentadas⟩
  | migra p ok =>
    obtain ⟨g₀, key, v, held₀, rfl⟩ := step_migra moved
    right
    split at held
    · cases held
      cases taken
      exact ⟨_, g, held₀, rfl, rfl, rfl⟩
    · cases held
      cases taken
      exact ⟨_, g₀, held₀, rfl, rfl, rfl⟩
  | reemplaza p ok =>
    cases ok with
    | true =>
      obtain ⟨obj₀, g₀, obj₁, _, _, _, _, _, _, _, _, rfl⟩ := step_reemplaza moved
      cases held
    | false =>
      obtain ⟨obj₀, fase, _, _, rfl⟩ := step_suelta moved (.inr rfl)
      cases held
  | aborta p =>
    obtain ⟨obj₀, fase, _, _, rfl⟩ := step_suelta moved (.inl rfl)
    cases held

end Pasos

/-- No save loses an update, whatever the objects and however their saves, changes and
    constructions interleave. -/
theorem guardar_sin_perdidas {py : Entorno} {s t : Estado} {e : Evento}
    (reached : Reaches (step py) Inicial (fun _ _ => True) s) (moved : step py s e = some t) :
    SinPerdidas s e t := by
  have inv := Invariante.reached reached
  constructor
  · rintro o rfl
    obtain ⟨obj, g, obj', here, held, _, _, _, _, _, _, rfl⟩ := step_reemplaza moved
    obtain ⟨_, good⟩ := inv.guardado held here
    refine ⟨g, g.fresco, g.saveData, held, good.fresco, rfl, ?_⟩
    intro key plain
    rw [good.mezcla key plain, good.antes.lookup_mezcla]
  · exact step_archivo moved
  · exact fun o fase g => step_fotografia moved
  · exact fun o obj => step_recuerda moved
  · rintro o obj cambios rfl here
    obtain ⟨obj', there, _, rfl⟩ := step_muta moved
    rw [here] at there
    cases there
    exact ⟨_, by rw [objetos_pone, if_pos rfl], fun key touched => obj.foldl_toca cambios key touched⟩

/-! A run -/

def entorno : Entorno := ⟨fun _ => "", id, ""⟩

def sinNada : Estado := ⟨.ausente, fun _ => none, fun _ => none, none⟩

def nace (o : Nat) : List Evento :=
  .construye o true :: (List.replicate 8 (Evento.obtiene o true) ++ [Evento.hidratado o])

/-- A save up to its last step. -/
def casiGuarda (o : Nat) : List Evento :=
  ([.toma o true, .foto o] : List Evento) ++ List.replicate 8 (Evento.clave o true)

/-- Two objects; the first one is changed during its own save. -/
def dosObjetos : List Evento :=
  nace 0 ++ nace 1 ++ ([.muta 0 [.pone "loot_exe" (.texto "L")]] : List Evento) ++ casiGuarda 0 ++
    ([.muta 0 [.pone "xedit_exe" (.texto "X")], .reemplaza 0 true,
      .muta 1 [.pone "skyrim_path" (.texto "S"), .quita "first_run"]] : List Evento) ++ casiGuarda 1

theorem dos_guardan : ∃ s t, run (step entorno) sinNada dosObjetos = some s ∧
    step entorno s (.reemplaza 1 true) = some t ∧ SinPerdidas s (.reemplaza 1 true) t ∧
    ["loot_exe", "xedit_exe", "skyrim_path", "first_run"].map (fun key =>
        t.archivo.fresco.bind fun d => (d.lookup key).map (Valor.str entorno)) =
      [some "L", none, some "S", none] := by
  have looks : ((run (step entorno) sinNada dosObjetos).bind fun s =>
      (step entorno s (.reemplaza 1 true)).map fun t =>
        ["loot_exe", "xedit_exe", "skyrim_path", "first_run"].map (fun key =>
          t.archivo.fresco.bind fun d => (d.lookup key).map (Valor.str entorno))) =
      some [some "L", none, some "S", none] := by
    decide +kernel
  obtain ⟨s, done, rest⟩ := Option.bind_eq_some_iff.mp looks
  obtain ⟨t, moved, written⟩ := Option.map_eq_some_iff.mp rest
  have start : Inicial sinNada := ⟨fun _ => rfl, rfl⟩
  exact ⟨s, t, done, moved,
    guardar_sin_perdidas (.of_run (.start start) (fun _ _ => trivial) done) moved, written⟩

end ConfigStore
