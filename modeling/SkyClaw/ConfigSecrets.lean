import SkyClaw.ConfigUpdates

set_option linter.all false

/-!
The secrets: a sensitive key lives in the keyring, or in the file until a save can
move it. The keyring may fail at every operation and the file at every write;
constructions use the keyring without the lock.
-/
namespace ConfigStore
open TransitionRuns

/-- A secret that one of the two places still has. -/
def Estado.recuperable (py : Entorno) (s : Estado) (key : Clave) (x : String) : Prop :=
  s.vivo key = some x ∨ (s.archivo.plaintext key).map (Valor.str py) = some x

/-- What the object assigned or deleted since its last successful save, or before and it
    never took effect. -/
def Guardado.intencion (g : Guardado) (key : Clave) : Bool := g.intentadas key || g.vivas key

/-- A keyring operation on `key` fails in this step, or has failed in the save or in the
    construction that the step is one of. -/
def falloEn (s : Estado) (key : Clave) : Evento → Prop
  | .clave _ ok | .migra _ ok | .obtiene _ ok => ok = false
  | .planta o ok => ok = false ∨ ∃ obj v resto migrado, s.objetos o = some obj ∧
      obj.vida = .planta key v true resto migrado
  | .reemplaza o _ => ∃ g, s.cerrojo = some (o, .claves g) ∧ g.fallidas key = true
  | _ => False

structure Sobreviven (py : Entorno) (s : Estado) (e : Evento) (t : Estado) : Prop where
  /-- A save changes a secret only if its object wants that. -/
  cambia : (∀ o ok, e ≠ .planta o ok) → ∀ key ∈ clavesSensibles, t.efectivo py key ≠ s.efectivo py key →
    ∃ o fase g, s.cerrojo = some (o, fase) ∧ fase.guardado = some g ∧ g.intencion key = true
  /-- No plaintext gets into the file. -/
  filtra : ∀ key ∈ clavesSensibles, ∀ v, t.archivo.plaintext key = some v → s.archivo.plaintext key = some v
  /-- A failed operation loses nothing but what the object deleted. -/
  pierde : ∀ key ∈ clavesSensibles, ∀ x, falloEn s key e → s.recuperable py key x → t.recuperable py key x ∨
    ∃ o fase g, s.cerrojo = some (o, fase) ∧ fase.guardado = some g ∧ g.intencion key = true ∧
      g.querido py key = none

/-- What a save would write over the file. -/
def Objeto.diff (obj : Objeto) : Diccionario :=
  obj.data.valores.filtra (clavesMutadas obj.baseline obj.data)

/-- No save retries an intent that an earlier save achieved, unless the secret still is
    what it wants; a construction that could not read the keyring does not store over
    another secret; no object assigns a legacy section with a secret in it. -/
def permitido (py : Entorno) (s : Estado) : Evento → Prop
  | .clave o _ => ∀ obj g key resto, s.objetos o = some obj → s.cerrojo = some (o, .claves g) →
      g.resto = key :: resto → obj.secretosPendientes key = true → g.intencion key = false →
      s.efectivo py key = g.querido py key
  | .planta o true => ∀ obj key v resto migrado, s.objetos o = some obj →
      obj.vida = .planta key v true resto migrado → ∀ w, s.vivo key = some w → w = v.str py
  | .foto o => ∀ obj, s.objetos o = some obj → ∀ key ∈ clavesSensibles, obj.diff.extraido key = none
  | _ => True

/-! The invariant -/

/-- A key whose turn is over: it stays in the file as it was, or it is gone from there
    and the keyring has it or the object wants that. -/
structure Cuidada (py : Entorno) (vivo : Clave → Option String) (g : Guardado) (key : Clave) : Prop where
  archivo : g.saveData.lookup key = g.fresco.cierta key ∨
    g.saveData.lookup key = none ∧ ((vivo key).isSome = true ∨ g.intencion key = true)
  fallida : g.fallidas key = true → g.saveData.lookup key = g.fresco.cierta key ∨
    g.intencion key = true ∧ g.querido py key = none

structure Cuida (py : Entorno) (vivo : Clave → Option String) (g : Guardado) (turno : Option Clave) : Prop where
  secciones : ∀ key ∈ clavesSensibles, g.saveData.extraido key = none
  resto : g.resto <:+ clavesSensibles
  limpias : ∀ key, key ∈ g.resto ∨ turno = some key → g.fallidas key = false
  hechas : ∀ key ∈ clavesSensibles, key ∉ g.resto → turno ≠ some key → Cuidada py vivo g key

/-- About to store the plaintext: the keyring has nothing else. -/
structure Migra (py : Entorno) (vivo : Clave → Option String) (g : Guardado) (key : Clave) (v : Valor) :
    Prop where
  cuida : Cuida py vivo g (some key)
  fuera : key ∉ g.resto
  archivo : g.fresco.cierta key = some v
  quitada : g.saveData.lookup key = none
  vivo : ∀ w, vivo key = some w → w = v.str py

def Guarda (py : Entorno) (vivo : Clave → Option String) : Fase → Prop
  | .leido _ => True
  | .claves g => Cuida py vivo g none
  | .migra g key v => Migra py vivo g key v

/-- The keys that a construction still has to look at: it read what the file has. -/
def Concuerda (a : Archivo) (d : Datos) (resto : List Clave) : Prop :=
  ∀ key ∈ resto, ∀ v, d.valores.cierta key = some v → ∀ p, a.plaintext key = some p → p = v

def EnConstruccion (a : Archivo) (obj : Objeto) : Prop :=
  match obj.vida with
  | .hidrata resto _ => resto <:+ clavesSensibles ∧ Concuerda a obj.data resto
  | .planta key v _ resto _ => key :: resto <:+ clavesSensibles ∧ Concuerda a obj.data resto ∧
      v.cierto = true ∧ ∀ p, a.plaintext key = some p → p = v
  | _ => True

structure Secretos (py : Entorno) (s : Estado) : Prop where
  construccion : ∀ o obj, s.objetos o = some obj → EnConstruccion s.archivo obj
  guardado : ∀ o fase, s.cerrojo = some (o, fase) → Guarda py s.vivo fase

section Vistas
variable {py : Entorno} {s : Estado} {key : Clave} {v : Valor}

theorem cierta_iff {d : Diccionario} : d.cierta key = some v ↔ d.lookup key = some v ∧ v.cierto = true := by
  simp [Diccionario.cierta, Option.filter_eq_some_iff]

theorem extraido_congr {d e : Diccionario} (same : ∀ k ∈ secciones, d.lookup k = e.lookup k) (key : Clave) :
    d.extraido key = e.extraido key := by
  have telegram := same "telegram" (by decide)
  have nexus := same "nexus" (by decide)
  have paths := same "paths" (by decide)
  simp only [Diccionario.extraido, Diccionario.enSeccion, telegram, nexus, paths]

theorem fresco_seccion {a : Archivo} {d : Diccionario} (read : a.fresco = some d) {k : Clave}
    (inside : k ∈ secciones) : d.lookup k = none := by
  cases a with
  | ausente =>
    cases read
    rfl
  | ilegible => cases read
  | tabla raw =>
    cases read
    exact plano_seccion inside

theorem secciones_no_sensibles {k : Clave} (inside : k ∈ secciones) : k ∉ clavesSensibles := by
  simp only [secciones, List.mem_cons, List.not_mem_nil, or_false] at inside
  obtain rfl | rfl | rfl := inside <;> decide

theorem sensible_no_seccion (sensitive : key ∈ clavesSensibles) : key ∉ secciones :=
  fun inside => secciones_no_sensibles inside sensitive

/-- Without secrets in sections the flat view has what stands at the top. -/
theorem plaintext_tabla {d : Diccionario} (sensitive : key ∈ clavesSensibles)
    (clean : d.extraido key = none) : (Archivo.tabla d).plaintext key = d.cierta key := by
  simp only [Archivo.plaintext, Archivo.fresco, Option.bind_some, Diccionario.cierta]
  rw [lookup_plano, if_neg (sensible_no_seccion sensitive), clean, Option.or_none]

theorem plaintext_fresco {a : Archivo} {d : Diccionario} (read : a.fresco = some d) (key : Clave) :
    a.plaintext key = d.cierta key := by
  simp [Archivo.plaintext, read]

theorem cierta_of_lookup {d e : Diccionario} (same : d.lookup key = e.cierta key) :
    d.cierta key = e.cierta key := by
  rw [Diccionario.cierta, same, Diccionario.cierta, Option.filter_filter]
  simp

end Vistas

section Turnos
variable {py : Entorno} {s t : Estado} {vivo vivo' : Clave → Option String} {g g' : Guardado} {key : Clave}

theorem vivo_pone (s : Estado) {v : Valor} (keyring : t.keyring = Function.update s.keyring key (some (v.str py)))
    (true_ : v.cierto = true) (k : Clave) : t.vivo k = if k = key then some (v.str py) else s.vivo k := by
  simp only [Estado.vivo, keyring, Function.update_apply]
  split
  · simp [Option.filter, str_ne_empty py true_]
  · rfl

theorem vivo_quita (s : Estado) (keyring : t.keyring = Function.update s.keyring key none) (k : Clave) :
    t.vivo k = if k = key then none else s.vivo k := by
  simp only [Estado.vivo, keyring, Function.update_apply]
  split <;> rfl

theorem Sigue.intencion (goes : Sigue g g' key) (k : Clave) : g'.intencion k = g.intencion k := by
  simp only [Guardado.intencion, goes.intentadas, goes.vivas]

theorem Sigue.querido (goes : Sigue g g' key) (k : Clave) : g'.querido py k = g.querido py k := by
  simp only [Guardado.querido, goes.snapshot]

/-- A key keeps what its turn did while later keys have theirs. -/
theorem Cuidada.sigue {k : Clave} (done : Cuidada py vivo g k) (goes : Sigue g g' key) (other : k ≠ key)
    (kept : (vivo k).isSome = true → (vivo' k).isSome = true) : Cuidada py vivo' g' k := by
  constructor
  · rw [goes.otras k other, goes.fresco, goes.intencion]
    obtain same | ⟨gone, live | wanted⟩ := done.archivo
    · exact .inl same
    · exact .inr ⟨gone, .inl (kept live)⟩
    · exact .inr ⟨gone, .inr wanted⟩
  · rw [goes.fallidas k other, goes.otras k other, goes.fresco, goes.intencion, goes.querido]
    exact done.fallida

theorem Cuida.mono {turno : Option Clave} (good : Cuida py vivo g turno)
    (kept : ∀ k, (vivo k).isSome = true → (vivo' k).isSome = true) : Cuida py vivo' g turno := by
  refine ⟨good.secciones, good.resto, good.limpias, ?_⟩
  intro k sensitive out past
  obtain ⟨place, failed⟩ := good.hechas k sensitive out past
  refine ⟨?_, failed⟩
  obtain same | ⟨gone, live | wanted⟩ := place
  · exact .inl same
  · exact .inr ⟨gone, .inl (kept k live)⟩
  · exact .inr ⟨gone, .inr wanted⟩

theorem extraido_sigue (goes : Sigue g g' key) (sensitive : key ∈ clavesSensibles) (k : Clave) :
    g'.saveData.extraido k = g.saveData.extraido k := by
  refine extraido_congr (fun seccion inside => goes.otras seccion ?_) k
  rintro rfl
  exact secciones_no_sensibles inside sensitive

theorem fuera_de_resto {resto : List Clave} (suffix : key :: resto <:+ clavesSensibles) :
    key ∉ resto ∧ key ∈ clavesSensibles ∧ resto <:+ clavesSensibles := by
  have nodup : (key :: resto).Nodup := suffix.sublist.nodup (by decide)
  exact ⟨(List.nodup_cons.mp nodup).1, suffix.subset List.mem_cons_self,
    (List.suffix_cons key resto).trans suffix⟩

/-- The turn of `key`, which is over or goes on as a migration. -/
theorem Cuida.turno {resto : List Clave} {turno : Option Clave} (good : Cuida py vivo g none)
    (remains : g.resto = key :: resto) (goes : Sigue g g' key) (now : g'.resto = resto)
    (kept : ∀ k, k ≠ key → (vivo k).isSome = true → (vivo' k).isSome = true)
    (over_ : turno = none ∧ Cuidada py vivo' g' key ∨ turno = some key ∧ g'.fallidas key = false) :
    Cuida py vivo' g' turno := by
  obtain ⟨out, sensitive, suffix⟩ := fuera_de_resto (remains ▸ good.resto)
  constructor
  · intro k inside
    rw [extraido_sigue goes sensitive]
    exact good.secciones k inside
  · rw [now]
    exact suffix
  · intro k which
    rw [now] at which
    by_cases mine : k = key
    · obtain later | turn := which
      · exact absurd (mine ▸ later) out
      · obtain ⟨none_, _⟩ | ⟨_, clean⟩ := over_
        · rw [none_] at turn
          cases turn
        · exact mine ▸ clean
    · rw [goes.fallidas k mine]
      obtain later | turn := which
      · exact good.limpias k (.inl (remains ▸ List.mem_cons_of_mem key later))
      · obtain ⟨none_, _⟩ | ⟨some_, _⟩ := over_
        · rw [none_] at turn
          cases turn
        · rw [some_] at turn
          exact absurd (Option.some.inj turn).symm mine
  · intro k inside past other
    rw [now] at past
    by_cases mine : k = key
    · obtain ⟨_, done⟩ | ⟨some_, _⟩ := over_
      · exact mine ▸ done
      · exact absurd (mine ▸ some_) other
    · refine (good.hechas k inside ?_ nofun).sigue goes mine (kept k mine)
      rw [remains, List.mem_cons, not_or]
      exact ⟨mine, past⟩

theorem lookup_guarda (g : Guardado) (key : Clave) (v : Option Valor) (gone : g.saveData.lookup key = none) :
    (g.guarda key v).saveData.lookup key = v := by
  cases v with
  | none => exact gone
  | some v => exact AList.lookup_insert g.saveData

/-- A turn with an explicit intent: the intent is alive or the secret is as it wants. -/
theorem viva_o_cumplida {obj : Objeto} (good : Vale s.archivo obj g)
    (stale : obj.secretosPendientes key = true → g.intencion key = false →
      s.efectivo py key = g.querido py key)
    (explicit : (g.clavesMutadas key || obj.secretosPendientes key) = true) :
    g.intencion key = true ∨ s.efectivo py key = g.querido py key := by
  cases wanted : g.intencion key with
  | true => exact .inl rfl
  | false =>
    right
    refine stale ?_ wanted
    simp only [Guardado.intencion, Bool.or_eq_false_iff] at wanted
    rw [good.mutadas, wanted.1, Bool.false_or] at explicit
    exact explicit

theorem efectivo_none (none_ : s.efectivo py key = none) :
    s.vivo key = none ∧ s.archivo.plaintext key = none := by
  simp only [Estado.efectivo, Option.or_eq_none_iff, Option.map_eq_none_iff] at none_
  exact none_

theorem Tramitado.guarda {obj : Objeto} {resto : List Clave} {hecho : Tramite}
    (done : Tramitado py s obj g key resto hecho) (cuida : Cuida py s.vivo g none)
    (remains : g.resto = key :: resto) (good : Vale s.archivo obj g)
    (stale : obj.secretosPendientes key = true → g.intencion key = false →
      s.efectivo py key = g.querido py key)
    (keyring : t.keyring = hecho.keyring) : Guarda py t.vivo hecho.fase := by
  have base := sigue_salta remains
  have gone : (g.salta key resto).saveData.lookup key = none := AList.lookup_erase key g.saveData
  have clean : (g.salta key resto).fallidas key = false :=
    cuida.limpias key (.inl (remains ▸ List.mem_cons_self))
  have not_failed : (g.salta key resto).fallidas key ≠ true := by
    rw [clean]
    exact Bool.false_ne_true
  have plaintext := plaintext_fresco good.fresco
  have unchanged : t.keyring = s.keyring → t.vivo = s.vivo := by
    intro same
    funext k
    rw [Estado.vivo, same, Estado.vivo]
  -- a deletion that nobody wants any more finds no copy at all
  have deleted : g.snapshot.valores.cierta key = none →
      (g.clavesMutadas key || obj.secretosPendientes key) = true →
      g.intencion key = true ∨ g.fresco.cierta key = none := by
    intro empty explicit
    obtain wanted | achieved := viva_o_cumplida good stale explicit
    · exact .inl wanted
    · rw [Guardado.querido, empty, Option.map_none] at achieved
      exact .inr ((plaintext key).symm.trans (efectivo_none achieved).2)
  cases done with
  | escribe v explicita objeto =>
    have live := vivo_pone s keyring (cierta_iff.mp objeto).2
    refine cuida.turno remains base rfl ?_ (.inl ⟨rfl, ?_, fun bad => absurd bad not_failed⟩)
    · intro k other was
      rw [live, if_neg other]
      exact was
    · refine .inr ⟨gone, .inl ?_⟩
      rw [live, if_pos rfl]
      rfl
  | borra explicita objeto =>
    have live := vivo_quita s keyring
    refine cuida.turno remains base rfl ?_ (.inl ⟨rfl, ?_, fun bad => absurd bad not_failed⟩)
    · intro k other was
      rw [live, if_neg other]
      exact was
    · obtain wanted | empty := deleted objeto explicita
      · exact .inr ⟨gone, .inr wanted⟩
      · exact .inl (gone.trans empty.symm)
  | noBorra explicita objeto =>
    rw [unchanged keyring]
    refine cuida.turno remains (sigue_falla base) rfl (fun _ _ => id) (.inl ⟨rfl, ?_⟩)
    obtain wanted | empty := deleted objeto explicita
    · exact ⟨.inr ⟨gone, .inr wanted⟩, fun _ => .inr ⟨wanted, by simp [Guardado.querido, Guardado.falla, Guardado.salta, objeto]⟩⟩
    · exact ⟨.inl (gone.trans empty.symm), fun _ => .inl (gone.trans empty.symm)⟩
  | falla pendientes secreto =>
    rw [unchanged keyring]
    have goes := sigue_guarda (sigue_falla base) (g.fresco.cierta key)
    have kept := lookup_guarda ((g.salta key resto).falla key) key (g.fresco.cierta key) gone
    have place : (((g.salta key resto).falla key).guarda key (g.fresco.cierta key)).saveData.lookup key =
        (((g.salta key resto).falla key).guarda key (g.fresco.cierta key)).fresco.cierta key := by
      rw [kept, goes.fresco]
    refine cuida.turno remains goes ?_ (fun _ _ => id) (.inl ⟨rfl, .inl place, fun _ => .inl place⟩)
    cases g.fresco.cierta key <;> rfl
  | vigente enKeyring =>
    rw [unchanged keyring]
    refine cuida.turno remains base rfl (fun _ _ => id) (.inl ⟨rfl, ?_, fun bad => absurd bad not_failed⟩)
    obtain live | empty := enKeyring
    · exact .inr ⟨gone, .inl live⟩
    · exact .inl (gone.trans empty.symm)
  | migra v archivo vacio =>
    rw [unchanged keyring]
    refine ⟨cuida.turno remains base rfl (fun _ _ => id) (.inr ⟨rfl, clean⟩), ?_, archivo, gone, ?_⟩
    · exact (fuera_de_resto (remains ▸ cuida.resto)).1
    · intro w live
      rw [vacio] at live
      cases live

/-- A turn changes no secret but its own, and that one only if the object wants it. -/
theorem Tramitado.efectivo {obj : Objeto} {resto : List Clave} {hecho : Tramite}
    (done : Tramitado py s obj g key resto hecho) (good : Vale s.archivo obj g)
    (stale : obj.secretosPendientes key = true → g.intencion key = false →
      s.efectivo py key = g.querido py key)
    (keyring : t.keyring = hecho.keyring) (archivo : t.archivo = s.archivo) (k : Clave)
    (changed : t.efectivo py k ≠ s.efectivo py k) : k = key ∧ g.intencion key = true := by
  have unchanged : t.keyring = s.keyring → t.efectivo py k = s.efectivo py k := by
    intro same
    simp only [Estado.efectivo, Estado.vivo, same, archivo]
  cases done with
  | escribe v explicita objeto =>
    have live := vivo_pone s keyring (cierta_iff.mp objeto).2 k
    by_cases mine : k = key
    · refine ⟨mine, ?_⟩
      obtain wanted | achieved := viva_o_cumplida good stale explicita
      · exact wanted
      · exfalso
        subst mine
        apply changed
        rw [achieved, Guardado.querido, objeto, Estado.efectivo, live, if_pos rfl]
        rfl
    · rw [if_neg mine] at live
      exact absurd (by simp only [Estado.efectivo, live, archivo]) changed
  | borra explicita objeto =>
    have live := vivo_quita s keyring k
    by_cases mine : k = key
    · refine ⟨mine, ?_⟩
      obtain wanted | achieved := viva_o_cumplida good stale explicita
      · exact wanted
      · exfalso
        subst mine
        apply changed
        rw [Guardado.querido, objeto, Option.map_none] at achieved
        rw [achieved, Estado.efectivo, live, if_pos rfl, archivo, (efectivo_none achieved).2]
        rfl
    · rw [if_neg mine] at live
      exact absurd (by simp only [Estado.efectivo, live, archivo]) changed
  | noBorra explicita objeto => exact absurd (unchanged keyring) changed
  | falla pendientes secreto => exact absurd (unchanged keyring) changed
  | vigente enKeyring => exact absurd (unchanged keyring) changed
  | migra v archivo vacio => exact absurd (unchanged keyring) changed

end Turnos

section Construcciones
variable {py : Entorno} {s t : Estado} {a a' : Archivo} {obj : Objeto} {key : Clave}

theorem EnConstruccion.mono (there : EnConstruccion a obj)
    (kept : ∀ key ∈ clavesSensibles, ∀ p, a'.plaintext key = some p → a.plaintext key = some p) :
    EnConstruccion a' obj := by
  have agrees : ∀ resto, resto <:+ clavesSensibles → Concuerda a obj.data resto →
      Concuerda a' obj.data resto := by
    intro resto suffix same key inside v here p found
    exact same key inside v here p (kept key (suffix.subset inside) p found)
  unfold EnConstruccion at there ⊢
  split
  · next resto migrado life =>
    simp only [life] at there
    exact ⟨there.1, agrees resto there.1 there.2⟩
  · next key v fallo resto migrado life =>
    simp only [life] at there
    obtain ⟨suffix, same, true_, only⟩ := there
    obtain ⟨_, sensitive, rest⟩ := fuera_de_resto suffix
    exact ⟨suffix, agrees resto rest same, true_, fun p found => only p (kept key sensitive p found)⟩
  · trivial

theorem construccion_guardable (savable : obj.guardable = true) : EnConstruccion a obj := by
  unfold EnConstruccion
  unfold Objeto.guardable at savable
  split at savable
  · next life => simp [life]
  · next life => simp [life]
  · cases savable

theorem guardable_trasGuardar (savable : obj.guardable = true) : obj.trasGuardar.guardable = true := by
  unfold Objeto.trasGuardar
  split
  · rfl
  · exact savable

theorem update_valores (d : Datos) (nuevos : Diccionario) : (d.update nuevos).valores = nuevos ∪ d.valores := by
  have all : ∀ (keys : List Clave) (d : Datos), (keys.foldl Datos.marcarMutacion d).valores = d.valores := by
    intro keys
    induction keys with
    | nil => exact fun d => rfl
    | cons key keys ih => exact fun d => ih _
  exact all _ _

/-- No provider's model is a sensitive key. -/
theorem slot_no_sensible (provider : String) : provider ++ "_model" ∉ clavesSensibles := by
  intro inside
  have ends : ∀ key ∈ clavesSensibles, key.toList.getLast? ≠ some 'l' := by decide
  apply ends _ inside
  rw [String.toList_append, List.getLast?_append]
  rfl

theorem migrate_lookup (py : Entorno) (d : Datos) (sensitive : key ∈ clavesSensibles) :
    (migrateLlmModel py d).valores.lookup key = d.valores.lookup key := by
  simp only [migrateLlmModel]
  split
  · rfl
  · split
    · split
      · rfl
      · refine AList.lookup_insert_ne ?_
        rintro rfl
        exact slot_no_sensible _ sensitive
    · rfl

theorem defaults_sin_secretos (py : Entorno) : ∀ key ∈ clavesSensibles, (loadDefaults py).cierta key = none := by
  simp only [clavesSensibles, List.forall_mem_cons, List.not_mem_nil, false_imp_iff, implies_true, and_true]
  exact ⟨rfl, rfl, rfl, rfl, rfl, rfl, rfl, rfl⟩

theorem construccion_construido {leido : Option Diccionario}
    (read : ∀ d, leido = some d → ∃ raw, a = .tabla raw ∧ d = plano raw) :
    EnConstruccion a (construido py leido) := by
  refine ⟨List.suffix_rfl, ?_⟩
  intro key sensitive v here p found
  simp only [Diccionario.cierta, construido] at here
  rw [migrate_lookup py _ sensitive] at here
  cases leido with
  | none =>
    have none_ := defaults_sin_secretos py key sensitive
    rw [Diccionario.cierta] at none_
    rw [none_] at here
    cases here
  | some d =>
    obtain ⟨raw, rfl, rfl⟩ := read d rfl
    have top : (plano raw).lookup key = some p := (cierta_iff.mp found).1
    simp only [update_valores, lookup_union, top, Option.some_or] at here
    exact (Option.some.inj ((Option.filter_eq_some_iff.mp here).1))

end Construcciones

section Pasos
variable {py : Entorno} {s t : Estado} {e : Evento} {o : Nat} {obj : Objeto}

/-- A step that touches neither the keyring nor the file. -/
theorem sobreviven_igual (keyring : t.keyring = s.keyring) (archivo : t.archivo = s.archivo) :
    Sobreviven py s e t := by
  have vivo : t.vivo = s.vivo := by
    funext k
    rw [Estado.vivo, keyring, Estado.vivo]
  refine ⟨fun _ key _ changed => ?_, fun key _ v found => ?_, fun key _ x _ here => .inl ?_⟩
  · exact absurd (by simp only [Estado.efectivo, vivo, archivo]) changed
  · rw [archivo] at found
    exact found
  · rw [Estado.recuperable, vivo, archivo]
    exact here

/-- One object moves and the file gains no plaintext. -/
theorem Secretos.mueve (sec : Secretos py s) (objetos : t.objetos = (s.pone o obj).objetos)
    (mine : EnConstruccion t.archivo obj)
    (kept : ∀ key ∈ clavesSensibles, ∀ p, t.archivo.plaintext key = some p → s.archivo.plaintext key = some p)
    (guardado : ∀ p fase, t.cerrojo = some (p, fase) → Guarda py t.vivo fase) : Secretos py t := by
  refine ⟨?_, guardado⟩
  intro p obj' here
  rw [objetos, objetos_pone] at here
  split at here
  · cases here
    exact mine
  · exact (sec.construccion p obj' here).mono kept

theorem Secretos.suelta (sec : Secretos py s) (inv : Invariante s) {fase : Fase} (here : s.objetos o = some obj)
    (held : s.cerrojo = some (o, fase)) : Secretos py (s.suelta py o obj fase) := by
  have savable := (inv.guardado held here).1
  unfold Estado.suelta
  split
  · next g _ =>
    have closed : (obj.cierra py g (s.efectivo py)).guardable = true := savable
    exact sec.mueve rfl (construccion_guardable (guardable_trasGuardar closed)) (fun _ _ _ => id) nofun
  · exact sec.mueve rfl (construccion_guardable (guardable_trasGuardar savable)) (fun _ _ _ => id) nofun

theorem Guarda.mono {vivo vivo' : Clave → Option String} {fase : Fase} (good : Guarda py vivo fase)
    (kept : ∀ k, (vivo k).isSome = true → (vivo' k).isSome = true)
    (migra : ∀ g key v, fase = .migra g key v → ∀ w, vivo' key = some w → w = v.str py) :
    Guarda py vivo' fase := by
  cases fase with
  | leido fresco => trivial
  | claves g => exact Cuida.mono good kept
  | migra g key v =>
    have m : Migra py vivo g key v := good
    exact ⟨m.cuida.mono kept, m.fuera, m.archivo, m.quitada, migra g key v rfl⟩

/-- The migration of a key is over. -/
theorem Migra.acaba {vivo vivo' : Clave → Option String} {g g' : Guardado} {key : Clave} {v : Valor}
    (m : Migra py vivo g key v) (goes : Sigue g g' key) (now : g'.resto = g.resto)
    (sensitive : key ∈ clavesSensibles) (kept : ∀ k, (vivo k).isSome = true → (vivo' k).isSome = true)
    (done : Cuidada py vivo' g' key) : Cuida py vivo' g' none := by
  refine ⟨?_, now ▸ m.cuida.resto, ?_, ?_⟩
  · intro k inside
    rw [extraido_sigue goes sensitive]
    exact m.cuida.secciones k inside
  · intro k which
    obtain later | no := which
    · rw [now] at later
      have other : k ≠ key := fun same => m.fuera (same ▸ later)
      rw [goes.fallidas k other]
      exact m.cuida.limpias k (.inl later)
    · cases no
  · intro k inside past _
    by_cases mine : k = key
    · exact mine ▸ done
    · refine (m.cuida.hechas k inside (now ▸ past) ?_).sigue goes mine (kept k)
      exact fun same => mine (Option.some.inj same).symm

theorem sigue_mismo (g : Guardado) (key : Clave) : Sigue g g key :=
  ⟨rfl, rfl, rfl, rfl, rfl, fun _ _ => rfl, fun _ _ => rfl, fun _ => id⟩

/-- The flat view of what a finished save writes. -/
theorem plaintext_guardado {vivo : Clave → Option String} {g : Guardado} {key : Clave}
    (cuida : Cuida py vivo g none) (sensitive : key ∈ clavesSensibles) :
    (Archivo.tabla g.saveData).plaintext key = g.saveData.cierta key :=
  plaintext_tabla sensitive (cuida.secciones key sensitive)

/-- A finished save: the file has the plaintext as before or no longer. -/
theorem guardado_plaintext {vivo : Clave → Option String} {g : Guardado} {key : Clave}
    (cuida : Cuida py vivo g none) (done : g.resto = []) (fresco : s.archivo.fresco = some g.fresco)
    (sensitive : key ∈ clavesSensibles) :
    (Archivo.tabla g.saveData).plaintext key = s.archivo.plaintext key ∨
    (Archivo.tabla g.saveData).plaintext key = none ∧
      ((vivo key).isSome = true ∨ g.intencion key = true) := by
  have turn := cuida.hechas key sensitive (by rw [done]; exact List.not_mem_nil) nofun
  rw [plaintext_guardado cuida sensitive, plaintext_fresco fresco]
  obtain same | ⟨gone, why⟩ := turn.archivo
  · exact .inl (cierta_of_lookup same)
  · exact .inr ⟨by rw [Diccionario.cierta, gone]; rfl, why⟩

theorem sobreviven_reemplaza (inv : Invariante s) (sec : Secretos py s)
    (moved : step py s (.reemplaza o true) = some t) : Sobreviven py s (.reemplaza o true) t := by
  obtain ⟨obj, g, obj', here, held, remains, _, _, _, _, _, rfl⟩ := step_reemplaza moved
  have good : Vale s.archivo obj g := (inv.guardado held here).2
  have cuida : Cuida py s.vivo g none := sec.guardado o _ held
  have place := fun (key : Clave) (sensitive : key ∈ clavesSensibles) => guardado_plaintext cuida remains good.fresco sensitive
  refine ⟨?_, ?_, ?_⟩
  · intro _ key sensitive changed
    refine ⟨o, _, g, held, rfl, ?_⟩
    cases wanted : g.intencion key with
    | true => rfl
    | false =>
      exfalso
      apply changed
      obtain same | ⟨_, live | is⟩ := place key sensitive
      · exact congrArg (fun p : Option Valor => (s.vivo key).or (p.map (Valor.str py))) same
      · obtain ⟨x, live⟩ := Option.isSome_iff_exists.mp live
        have now : Estado.vivo { s.pone o obj'.trasGuardar with archivo := .tabla g.saveData, cerrojo := none } key =
          some x := live
        rw [Estado.efectivo, Estado.efectivo, live, now]
        rfl
      · rw [wanted] at is
        cases is
  · intro key sensitive v found
    obtain same | ⟨gone, _⟩ := place key sensitive
    · exact same.symm.trans found
    · exact absurd (found.symm.trans gone) nofun
  · rintro key sensitive x ⟨g', held', failed⟩ here'
    rw [held] at held'
    cases held'
    have turn := cuida.hechas key sensitive (by rw [remains]; exact List.not_mem_nil) nofun
    obtain same | ⟨wanted, empty⟩ := turn.fallida failed
    · left
      obtain live | file := here'
      · exact .inl live
      · right
        have same' : (Archivo.tabla g.saveData).plaintext key = s.archivo.plaintext key := by
          rw [plaintext_guardado cuida sensitive, plaintext_fresco good.fresco, cierta_of_lookup same]
        exact (congrArg (Option.map (Valor.str py)) same').trans file
    · exact .inr ⟨o, _, g, held, rfl, wanted, empty⟩

theorem sobreviven_planta {ok : Bool} (sec : Secretos py s) (allowed : permitido py s (.planta o ok))
    (moved : step py s (.planta o ok) = some t) : Sobreviven py s (.planta o ok) t := by
  obtain ⟨obj, key, v, fallo, resto, migrado, here, life, _, archivo, _, keyring⟩ := step_planta moved
  cases ok with
  | false => exact sobreviven_igual keyring archivo
  | true =>
    rw [if_pos rfl] at keyring
    have building := sec.construccion o obj here
    simp only [EnConstruccion, life] at building
    have live := vivo_pone s keyring building.2.2.1
    refine ⟨fun no => absurd rfl (no o true), fun _ _ v found => archivo ▸ found, ?_⟩
    intro k _ x failed was
    left
    obtain there | file := was
    · left
      rw [live k]
      split
      · next mine =>
        obtain no | ⟨obj', v', resto', migrado', here', life'⟩ := failed
        · cases no
        · rw [here] at here'
          cases here'
          rw [life] at life'
          cases life'
          rw [allowed obj key v resto migrado here life x (mine ▸ there)]
      · exact there
    · right
      rw [archivo]
      exact file

theorem sobreviven_clave {ok : Bool} (inv : Invariante s) (allowed : permitido py s (.clave o ok))
    (moved : step py s (.clave o ok) = some t) : Sobreviven py s (.clave o ok) t := by
  obtain ⟨obj, g, key, resto, hecho, here, held, remains, done, failing, rfl⟩ := step_clave moved
  cases ok with
  | false => exact sobreviven_igual (failing rfl) rfl
  | true =>
    have good : Vale s.archivo obj g := (inv.guardado held here).2
    refine ⟨?_, fun _ _ v found => found, ?_⟩
    · intro _ k _ changed
      have only : k = key ∧ g.intencion key = true := by
        refine done.efectivo good (allowed obj g key resto here held remains) ?_ ?_ k changed <;> rfl
      exact ⟨o, _, g, held, rfl, only.1 ▸ only.2⟩
    · intro k _ x failed
      cases failed

theorem sobreviven_migra {ok : Bool} (inv : Invariante s) (sec : Secretos py s)
    (moved : step py s (.migra o ok) = some t) : Sobreviven py s (.migra o ok) t := by
  obtain ⟨g, key, v, held, rfl⟩ := step_migra moved
  cases ok with
  | false => exact sobreviven_igual rfl rfl
  | true =>
    obtain ⟨obj, here, savable, good, _⟩ := inv.enCurso o _ held
    have m : Migra py s.vivo g key v := sec.guardado o _ held
    have plaintext : s.archivo.plaintext key = some v := (plaintext_fresco good.fresco key).trans m.archivo
    refine ⟨?_, fun _ _ v found => found, fun _ _ _ failed => nomatch failed⟩
    intro _ k _ changed
    exfalso
    apply changed
    rw [if_pos rfl]
    have live := vivo_pone s (t := { s with
      keyring := Function.update s.keyring key (some (v.str py)), cerrojo := some (o, .claves g) }) rfl
      (cierta_iff.mp m.archivo).2 k
    rw [Estado.efectivo, Estado.efectivo, live]
    split
    · next mine =>
      subst mine
      rw [plaintext]
      cases there : s.vivo k with
      | none => rfl
      | some w =>
        rw [m.vivo w there]
    · rfl

theorem Secretos.paso (sec : Secretos py s) (inv : Invariante s) (allowed : permitido py s e)
    (moved : step py s e = some t) : Secretos py t := by
  cases e with
  | construye o leyo =>
    obtain ⟨_, leido, read, rfl⟩ := step_construye moved
    exact sec.mueve rfl (construccion_construido read) (fun _ _ _ => id) sec.guardado
  | obtiene o ok =>
    obtain ⟨obj, key, resto, migrado, here, life, turn⟩ := step_obtiene moved
    have building := sec.construccion o obj here
    simp only [EnConstruccion, life] at building
    obtain ⟨suffix, agrees⟩ := building
    obtain ⟨out, sensitive, rest⟩ := fuera_de_resto suffix
    have later : Concuerda s.archivo obj.data resto :=
      fun k inside => agrees k (List.mem_cons_of_mem key inside)
    obtain ⟨stored, migrado', _, _, rfl⟩ | ⟨v, _, text, rfl⟩ | rfl := turn
    · refine sec.mueve rfl ⟨rest, ?_⟩ (fun _ _ _ => id) sec.guardado
      intro k inside v found
      have other : k ≠ key := fun same => out (same ▸ inside)
      have same : (obj.data.setItem key (.texto stored)).valores.cierta k = obj.data.valores.cierta k :=
        congrArg (Option.filter Valor.cierto) (AList.lookup_insert_ne other)
      exact later k inside v (same.symm.trans found)
    · exact sec.mueve rfl ⟨suffix, later, (cierta_iff.mp text).2, agrees key List.mem_cons_self v text⟩
        (fun _ _ _ => id) sec.guardado
    · exact sec.mueve rfl ⟨rest, later⟩ (fun _ _ _ => id) sec.guardado
  | planta o ok =>
    obtain ⟨obj, key, v, fallo, resto, migrado, here, life, objetos, archivo, cerrojo, keyring⟩ := step_planta moved
    have building := sec.construccion o obj here
    simp only [EnConstruccion, life] at building
    obtain ⟨suffix, later, true_, only⟩ := building
    refine sec.mueve objetos ?_ (fun _ _ p found => archivo ▸ found) ?_
    · rw [archivo]
      exact ⟨(fuera_de_resto suffix).2.2, later⟩
    · intro p fase held
      rw [cerrojo] at held
      have going := sec.guardado p fase held
      cases ok with
      | false =>
        have same : t.vivo = s.vivo := by
          funext k
          rw [Estado.vivo, keyring, Estado.vivo]
          rfl
        exact same ▸ going
      | true =>
        rw [if_pos rfl] at keyring
        have live := vivo_pone s keyring true_
        refine going.mono ?_ ?_
        · intro k was
          rw [live k]
          split
          · rfl
          · exact was
        · rintro g k w rfl x found
          have m : Migra py s.vivo g k w := going
          rw [live k] at found
          split at found
          · next mine =>
            obtain ⟨obj', there, _, good, _⟩ := inv.enCurso p _ held
            have file : s.archivo.plaintext k = some w := (plaintext_fresco good.fresco k).trans m.archivo
            rw [only w (mine ▸ file)]
            exact (Option.some.inj found).symm
          · exact m.vivo x found
  | hidratado o =>
    obtain ⟨obj, migrado, here, life, rfl⟩ := step_hidratado moved
    refine sec.mueve rfl ?_ (fun _ _ _ => id) sec.guardado
    apply construccion_guardable
    cases migrado <;> rfl
  | muta o cambios =>
    obtain ⟨obj, here, life, rfl⟩ := step_muta moved
    refine sec.mueve rfl ?_ (fun _ _ _ => id) sec.guardado
    exact construccion_guardable (guardable_of_listo ((obj.mudanza_foldl cambios).vida.trans life))
  | toma o leyo =>
    obtain ⟨obj, here, savable, free, ⟨fresco, read, rfl⟩ | rfl⟩ := step_toma moved
    · refine ⟨sec.construccion, ?_⟩
      intro p fase held
      cases held
      trivial
    · exact sec.mueve rfl (construccion_guardable (guardable_trasGuardar savable)) (fun _ _ _ => id) sec.guardado
  | foto o =>
    obtain ⟨obj, fresco, here, held, rfl⟩ := step_foto moved
    obtain ⟨savable, read⟩ := inv.guardado held here
    have marks := inv.sano o obj here savable
    refine sec.mueve rfl (construccion_guardable savable) (fun _ _ _ => id) ?_
    intro p fase now
    cases now
    refine ⟨?_, List.suffix_rfl, fun _ _ => rfl, fun key inside out => absurd inside out⟩
    intro key inside
    rw [← allowed obj here key inside]
    refine extraido_congr ?_ key
    intro seccion is_section
    simp only [empieza, Objeto.diff]
    rw [marks.lookup_mezcla, lookup_filtra, marks.clavesMutadas]
    split
    · rfl
    · exact fresco_seccion read is_section
  | clave o ok =>
    obtain ⟨obj, g, key, resto, hecho, here, held, remains, done, _, rfl⟩ := step_clave moved
    obtain ⟨savable, good⟩ := inv.guardado held here
    have stale := allowed obj g key resto here held remains
    refine sec.mueve rfl (construccion_guardable savable) (fun _ _ _ => id) ?_
    intro p fase now
    cases now
    exact done.guarda (sec.guardado o _ held) remains good stale rfl
  | migra o ok =>
    obtain ⟨g, key, v, held, rfl⟩ := step_migra moved
    obtain ⟨obj, here, savable, good, sensitive⟩ := inv.enCurso o _ held
    have m : Migra py s.vivo g key v := sec.guardado o _ held
    have clean : g.fallidas key ≠ true := by
      rw [m.cuida.limpias key (.inr rfl)]
      exact Bool.false_ne_true
    cases ok with
    | true =>
      have live := vivo_pone s (t := { s with
        keyring := Function.update s.keyring key (some (v.str py)), cerrojo := some (o, .claves g) }) rfl
        (cierta_iff.mp m.archivo).2
      refine ⟨sec.construccion, ?_⟩
      intro p fase now
      cases now
      refine m.acaba (sigue_mismo g key) rfl sensitive ?_ ⟨.inr ⟨m.quitada, .inl ?_⟩, fun bad => absurd bad clean⟩
      · intro k was
        refine (congrArg Option.isSome (live k)).trans ?_
        split
        · rfl
        · exact was
      · exact (congrArg Option.isSome (live key)).trans (by rw [if_pos rfl]; rfl)
    | false =>
      refine ⟨sec.construccion, ?_⟩
      intro p fase now
      cases now
      have goes : Sigue g ((g.falla key).guarda key (some v)) key := sigue_guarda (sigue_falla (sigue_mismo g key)) _
      have kept : ((g.falla key).guarda key (some v)).saveData.lookup key =
          ((g.falla key).guarda key (some v)).fresco.cierta key := by
        rw [lookup_guarda (g.falla key) key (some v) m.quitada]
        exact m.archivo.symm
      exact m.acaba goes rfl sensitive (fun _ => id) ⟨.inl kept, fun _ => .inl kept⟩
  | reemplaza o ok =>
    cases ok with
    | true =>
      have survive := sobreviven_reemplaza inv sec moved
      obtain ⟨obj, g, obj', here, held, _, _, _, _, _, vida, rfl⟩ := step_reemplaza moved
      have savable : obj'.guardable = true := by
        rw [Objeto.guardable, vida]
        exact (inv.guardado held here).1
      exact sec.mueve rfl (construccion_guardable (guardable_trasGuardar savable)) survive.filtra (by simp)
    | false =>
      obtain ⟨obj, fase, here, held, rfl⟩ := step_suelta moved (.inr rfl)
      exact sec.suelta inv here held
  | aborta o =>
    obtain ⟨obj, fase, here, held, rfl⟩ := step_suelta moved (.inl rfl)
    exact sec.suelta inv here held

theorem Secretos.reached (reached : Reaches (step py) Inicial (permitido py) s) : Secretos py s := by
  induction reached with
  | start first =>
    refine ⟨?_, ?_⟩
    · intro o obj here
      rw [first.objetos o] at here
      cases here
    · intro o fase held
      rw [first.cerrojo] at held
      cases held
  | next before ok moved ih => exact ih.paso (Invariante.reached before) ok moved

/-- The events that neither use the keyring nor write the file. -/
def Evento.quieto : Evento → Prop
  | .planta _ _ | .clave _ _ | .migra _ _ | .reemplaza _ true => False
  | _ => True

theorem step_quieto (moved : step py s e = some t) (quiet : e.quieto) :
    t.keyring = s.keyring ∧ t.archivo = s.archivo := by
  refine ⟨?_, step_archivo moved ?_⟩
  rotate_left
  · rintro o rfl
    exact quiet
  cases e with
  | construye o leyo =>
    obtain ⟨_, leido, _, rfl⟩ := step_construye moved
    rfl
  | obtiene o ok =>
    obtain ⟨obj, key, resto, migrado, _, _, turn⟩ := step_obtiene moved
    obtain ⟨stored, migrado', _, _, rfl⟩ | ⟨v, _, _, rfl⟩ | rfl := turn <;> rfl
  | hidratado o =>
    obtain ⟨obj, migrado, _, _, rfl⟩ := step_hidratado moved
    rfl
  | muta o cambios =>
    obtain ⟨obj, _, _, rfl⟩ := step_muta moved
    rfl
  | toma o leyo =>
    obtain ⟨obj, _, _, _, ⟨fresco, _, rfl⟩ | rfl⟩ := step_toma moved <;> rfl
  | foto o =>
    obtain ⟨obj, fresco, _, _, rfl⟩ := step_foto moved
    rfl
  | planta o ok => exact quiet.elim
  | clave o ok => exact quiet.elim
  | migra o ok => exact quiet.elim
  | reemplaza o ok =>
    cases ok with
    | true => exact quiet.elim
    | false =>
      obtain ⟨obj, fase, _, _, rfl⟩ := step_suelta moved (.inr rfl)
      rfl
  | aborta o =>
    obtain ⟨obj, fase, _, _, rfl⟩ := step_suelta moved (.inl rfl)
    rfl

end Pasos

/-- Secrets survive saves, unless an intent that took effect is retried, a construction
    stores over what it could not read or a section is assigned. -/
theorem secretos_sobreviven {py : Entorno} {s t : Estado} {e : Evento}
    (reached : Reaches (step py) Inicial (permitido py) s) (allowed : permitido py s e)
    (moved : step py s e = some t) : Sobreviven py s e t := by
  have inv := Invariante.reached reached
  have sec := Secretos.reached reached
  cases e with
  | planta o ok => exact sobreviven_planta sec allowed moved
  | clave o ok => exact sobreviven_clave inv allowed moved
  | migra o ok => exact sobreviven_migra inv sec moved
  | reemplaza o ok =>
    cases ok with
    | true => exact sobreviven_reemplaza inv sec moved
    | false =>
      obtain ⟨keyring, archivo⟩ := step_quieto moved trivial
      exact sobreviven_igual keyring archivo
  | _ =>
    obtain ⟨keyring, archivo⟩ := step_quieto moved trivial
    exact sobreviven_igual keyring archivo

/-! Runs -/

/-- `permitido`, computed. -/
def permite (py : Entorno) (s : Estado) : Evento → Bool
  | .clave o _ =>
    match s.objetos o, s.cerrojo with
    | some obj, some (_, .claves g) => g.resto.head?.all fun key =>
        !obj.secretosPendientes key || g.intencion key || s.efectivo py key = g.querido py key
    | _, _ => true
  | .planta o true =>
    match (s.objetos o).map Objeto.vida with
    | some (.planta key v true _ _) => (s.vivo key).all (· = v.str py)
    | _ => true
  | .foto o => (s.objetos o).all fun obj => clavesSensibles.all fun key => (obj.diff.extraido key).isNone
  | _ => true

theorem permitido_of_permite {py : Entorno} (s : Estado) (e : Evento) (check : permite py s e = true) :
    permitido py s e := by
  cases e with
  | clave o ok =>
    intro obj g key resto here held remains pending unwanted
    simpa [permite, here, held, remains, pending, unwanted] using check
  | planta o ok =>
    cases ok with
    | false => trivial
    | true =>
      intro obj key v resto migrado here life w live
      simpa [permite, here, life, live] using check
  | foto o =>
    intro obj here key inside
    simp only [permite, here, Option.all_some, List.all_eq_true, Option.isNone_iff_eq_none] at check
    exact check key inside
  | _ => trivial

/-- A file with the secret in a section, and a keyring. -/
def conArchivo (plaintext : String) (vivo : Option String) : Estado :=
  ⟨.tabla (List.toAList [⟨"nexus", .tabla [("api_key", .texto plaintext)]⟩]),
    fun key => if key = "nexus_api_key" then vivo else none, fun _ => none, none⟩

/-- A construction up to the secret, whose reading fails. -/
def naceAMedias (o : Nat) : List Evento :=
  .construye o true :: (List.replicate 4 (Evento.obtiene o true) ++ [Evento.obtiene o false])

/-- Neither the construction's reading nor its storing works, and the save moves the secret. -/
def migracion : List Evento :=
  naceAMedias 0 ++ ([.planta 0 false] : List Evento) ++ List.replicate 3 (Evento.obtiene 0 true) ++
    ([.hidratado 0, .toma 0 true, .foto 0] : List Evento) ++ List.replicate 5 (Evento.clave 0 true) ++
    ([.migra 0 true] : List Evento) ++ List.replicate 3 (Evento.clave 0 true)

theorem secreto_migrado : ∃ s t, run (restricted (step entorno) (permite entorno)) (conArchivo "P" none) migracion =
      some s ∧ step entorno s (.reemplaza 0 true) = some t ∧ Sobreviven entorno s (.reemplaza 0 true) t ∧
    (s.archivo.plaintext "nexus_api_key").map (Valor.str entorno) = some "P" ∧
    (t.archivo.plaintext "nexus_api_key").map (Valor.str entorno) = none ∧
    t.efectivo entorno "nexus_api_key" = some "P" := by
  have looks : ((run (restricted (step entorno) (permite entorno)) (conArchivo "P" none) migracion).bind fun s =>
      (step entorno s (.reemplaza 0 true)).map fun t =>
        ((s.archivo.plaintext "nexus_api_key").map (Valor.str entorno),
          (t.archivo.plaintext "nexus_api_key").map (Valor.str entorno), t.efectivo entorno "nexus_api_key")) =
      some (some "P", none, some "P") := by
    decide +kernel
  obtain ⟨s, done, rest⟩ := Option.bind_eq_some_iff.mp looks
  obtain ⟨t, moved, views⟩ := Option.map_eq_some_iff.mp rest
  simp only [Prod.mk.injEq] at views
  have start : Inicial (conArchivo "P" none) := ⟨fun _ => rfl, rfl⟩
  have reached : Reaches (step entorno) Inicial (permitido entorno) s :=
    .mono permitido_of_permite (.of_restricted_run (.start start) done)
  exact ⟨s, t, done, moved, secretos_sobreviven reached trivial moved, views.1, views.2.1, views.2.2⟩

/-- The first object deletes a secret that is not there, the second one sets it and the
    first one saves again. -/
def borradoRancio : List Evento :=
  nace 0 ++ nace 1 ++
    ([.muta 0 [.pone "nexus_api_key" (.texto "")], .toma 0 true, .foto 0] : List Evento) ++
    List.replicate 4 (Evento.clave 0 true) ++ ([.clave 0 false] : List Evento) ++
    List.replicate 3 (Evento.clave 0 true) ++
    ([.reemplaza 0 true, .muta 1 [.pone "nexus_api_key" (.texto "W")]] : List Evento) ++ casiGuarda 1 ++
    ([.reemplaza 1 true, .toma 0 true, .foto 0] : List Evento) ++ List.replicate 4 (Evento.clave 0 true)

def seccionAsignada : List Evento :=
  nace 0 ++ ([.muta 0 [.pone "nexus" (.tabla [("api_key", .texto "S")])]] : List Evento) ++ casiGuarda 0

def enPlanta (o : Option Objeto) : Bool :=
  match o.map Objeto.vida with
  | some (.planta "nexus_api_key" _ true _ _) => true
  | _ => false

/-- (1) The save deletes a secret that its object no longer wants gone. (2) A construction
    that could not read the keyring overwrites it. (3) A save writes a plaintext. -/
theorem secreto_perdido :
    (∃ s t, run (step entorno) sinNada borradoRancio = some s ∧ step entorno s (.clave 0 true) = some t ∧
      ¬ Sobreviven entorno s (.clave 0 true) t) ∧
    (∃ s t, run (step entorno) (conArchivo "P" (some "W")) (naceAMedias 0) = some s ∧
      step entorno s (.planta 0 true) = some t ∧ ¬ Sobreviven entorno s (.planta 0 true) t) ∧
    ∃ s t, run (step entorno) sinNada seccionAsignada = some s ∧ step entorno s (.reemplaza 0 true) = some t ∧
      ¬ Sobreviven entorno s (.reemplaza 0 true) t := by
  have sensitive : "nexus_api_key" ∈ clavesSensibles := by decide
  refine ⟨?_, ?_, ?_⟩
  · have looks : ((run (step entorno) sinNada borradoRancio).bind fun s =>
        (step entorno s (.clave 0 true)).map fun t =>
          (s.efectivo entorno "nexus_api_key", t.efectivo entorno "nexus_api_key",
            s.cerrojo.map fun held => held.2.guardado.map (·.intencion "nexus_api_key"))) =
        some (some "W", none, some (some false)) := by
      decide +kernel
    obtain ⟨s, done, rest⟩ := Option.bind_eq_some_iff.mp looks
    obtain ⟨t, moved, views⟩ := Option.map_eq_some_iff.mp rest
    simp only [Prod.mk.injEq] at views
    obtain ⟨before, after, held⟩ := views
    refine ⟨s, t, done, moved, fun safe => ?_⟩
    obtain ⟨o, fase, g, lock, taken, wanted⟩ := safe.cambia (by simp) _ sensitive (by simp [before, after])
    simp [lock, taken, wanted] at held
  · have looks : ((run (step entorno) (conArchivo "P" (some "W")) (naceAMedias 0)).bind fun s =>
        (step entorno s (.planta 0 true)).map fun t =>
          (s.vivo "nexus_api_key", t.vivo "nexus_api_key",
            (t.archivo.plaintext "nexus_api_key").map (Valor.str entorno), s.cerrojo.isNone,
            enPlanta (s.objetos 0))) =
        some (some "W", some "P", some "P", true, true) := by
      decide +kernel
    obtain ⟨s, done, rest⟩ := Option.bind_eq_some_iff.mp looks
    obtain ⟨t, moved, views⟩ := Option.map_eq_some_iff.mp rest
    simp only [Prod.mk.injEq] at views
    obtain ⟨before, after, file, free, phase⟩ := views
    refine ⟨s, t, done, moved, fun safe => ?_⟩
    have failed : falloEn s "nexus_api_key" (.planta 0 true) := by
      unfold enPlanta at phase
      split at phase
      · next v resto migrado life =>
        obtain ⟨obj, here, life⟩ := Option.map_eq_some_iff.mp life
        exact .inr ⟨obj, v, resto, migrado, here, life⟩
      · cases phase
    obtain (live | kept) | ⟨o, fase, g, lock, _⟩ := safe.pierde _ sensitive "W" failed (.inl before)
    · rw [after] at live
      exact absurd live (by decide)
    · rw [file] at kept
      exact absurd kept (by decide)
    · rw [lock] at free
      cases free
  · have looks : ((run (step entorno) sinNada seccionAsignada).bind fun s =>
        (step entorno s (.reemplaza 0 true)).map fun t =>
          ((s.archivo.plaintext "nexus_api_key").isNone, (t.archivo.plaintext "nexus_api_key").isSome)) =
        some (true, true) := by
      decide +kernel
    obtain ⟨s, done, rest⟩ := Option.bind_eq_some_iff.mp looks
    obtain ⟨t, moved, views⟩ := Option.map_eq_some_iff.mp rest
    simp only [Prod.mk.injEq] at views
    obtain ⟨v, written⟩ := Option.isSome_iff_exists.mp views.2
    refine ⟨s, t, done, moved, fun safe => ?_⟩
    have already := safe.filtra _ sensitive v written
    rw [already] at views
    cases views.1

end ConfigStore
