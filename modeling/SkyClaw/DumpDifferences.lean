import Mathlib.Data.Finset.Card
import SkyClaw.DumpExactness

set_option linter.all false

/-!
Which elements `differing_elements` lists, and when the dump keeps every difference.
-/
namespace RecordDumps
open TrimmedText TextLines OrderedDicts
open XeditConflicts (NombrePlugin Renglon intToHex textoDe)

/-! The table of the values -/

structure Asignacion where
  path : Texto
  plugin : Texto
  value : Texto

def asignaciones (versions : List RecordVersion) : List Asignacion :=
  versions.flatMap fun version => version.elements.map fun par => ⟨par.1, version.plugin, par.2⟩

theorem byPath_eq (versions : List RecordVersion) :
    byPath versions = (asignaciones versions).foldl (fun d a => d.assign a.path a.plugin a.value)
      .empty := by
  unfold byPath asignaciones
  generalize OrderedDict.empty = d
  induction versions generalizing d with
  | nil => rfl
  | cons version versions ih =>
    rw [List.foldl_cons, List.flatMap_cons, List.foldl_append, List.foldl_map, ih]

def RecordVersion.valores (v : RecordVersion) (name : Texto) : List Texto :=
  (v.elements.filter (·.1 = name)).map Prod.snd

theorem valores_asignados (versions : List RecordVersion) (name plugin : Texto) :
    ((asignaciones versions).filter fun a => (a.path, a.plugin) = (name, plugin)).map (·.value) =
      (versions.filter (·.plugin = plugin)).flatMap (·.valores name) := by
  unfold asignaciones
  induction versions with
  | nil => rfl
  | cons v versions ih =>
    rw [List.flatMap_cons, List.filter_append, List.map_append, ih]
    by_cases own : v.plugin = plugin
    · rw [List.filter_cons_of_pos (by simpa using own), List.flatMap_cons, RecordVersion.valores]
      congr 1
      rw [List.filter_map, List.map_map]
      simp [own, Function.comp_def]
    · rw [List.filter_cons_of_neg (by simpa using own), List.filter_map]
      simp [own, Function.comp_def]

theorem filter_propia {versions : List RecordVersion} (distinct : (versions.map (·.plugin)).Nodup)
    {v : RecordVersion} (mem : v ∈ versions) : versions.filter (·.plugin = v.plugin) = [v] := by
  induction versions with
  | nil => cases mem
  | cons w versions ih =>
    rw [List.map_cons, List.nodup_cons] at distinct
    cases List.mem_cons.mp mem with
    | inl first =>
      subst first
      have nobody : versions.filter (·.plugin = v.plugin) = [] := by
        rw [List.filter_eq_nil_iff]
        intro u inside
        have other : u.plugin ≠ v.plugin := fun same => distinct.1 (List.mem_map.mpr ⟨u, inside, same⟩)
        simpa using other
      rw [List.filter_cons_of_pos (by simp), nobody]
    | inr later =>
      have other : w.plugin ≠ v.plugin := fun same =>
        distinct.1 (List.mem_map.mpr ⟨v, later, same.symm⟩)
      rw [List.filter_cons_of_neg (by simpa using other), ih distinct.2 later]

/-- The table holds the last value that a version gives to a name. -/
theorem valueAt_byPath {versions : List RecordVersion} (distinct : (versions.map (·.plugin)).Nodup)
    {name plugin value : Texto} : (byPath versions).valueAt name plugin = some value ↔
      ∃ v ∈ versions, v.plugin = plugin ∧ (v.valores name).getLast? = some value := by
  have last := OrderedDict.valueAt_foldl (fun a : Asignacion => (a.path, a.plugin)) (·.value)
    (asignaciones versions) .empty name plugin
  rw [valores_asignados, OrderedDict.valueAt_empty, Option.or_none] at last
  rw [byPath_eq, last]
  constructor
  · intro found
    cases own : versions.filter (·.plugin = plugin) with
    | nil =>
      rw [own] at found
      cases found
    | cons v rest =>
      have mem : v ∈ versions.filter (·.plugin = plugin) := own ▸ List.mem_cons_self
      have both := List.mem_filter.mp mem
      have file : v.plugin = plugin := by simpa using both.2
      rw [← file, filter_propia distinct both.1, List.flatMap_singleton] at found
      exact ⟨v, both.1, file, found⟩
  · rintro ⟨v, mem, rfl, value_⟩
    rw [filter_propia distinct mem, List.flatMap_singleton]
    exact value_

theorem length_dedup {l : List Texto} : 1 < l.dedup.length ↔ ∃ a ∈ l, ∃ b ∈ l, a ≠ b := by
  rw [← List.card_toFinset, Finset.one_lt_card]
  simp only [List.mem_toFinset]

theorem mem_differingElements {d : RecordDump} {name : Texto} :
    name ∈ d.differingElements.map Prod.fst ↔ ∃ p a q b,
      (byPath d.versions).valueAt name p = some a ∧ (byPath d.versions).valueAt name q = some b ∧
        a ≠ b := by
  simp only [RecordDump.differingElements, List.mem_map, List.mem_filter, decide_eq_true_eq,
    length_dedup]
  constructor
  · rintro ⟨⟨_, inner⟩, ⟨entry, a, ⟨⟨p, _⟩, first, rfl⟩, b, ⟨⟨q, _⟩, second, rfl⟩, different⟩, rfl⟩
    rw [OrderedDict.mem_entries_iff] at entry first second
    exact ⟨p, _, q, _, by rw [OrderedDict.valueAt, entry]; exact first,
      by rw [OrderedDict.valueAt, entry]; exact second, different⟩
  · rintro ⟨p, a, q, b, first, second, different⟩
    unfold OrderedDict.valueAt at first second
    cases entry : (byPath d.versions).lookup name with
    | none =>
      rw [entry] at first
      cases first
    | some inner =>
      rw [entry, Option.bind_some, ← OrderedDict.mem_entries_iff] at first second
      refine ⟨(name, inner), ⟨OrderedDict.mem_entries_iff.mpr entry, a, ?_, b, ?_, different⟩, rfl⟩
      · exact ⟨(p, a), first, rfl⟩
      · exact ⟨(q, b), second, rfl⟩

/-- A name is listed when the last values of two versions for it differ. -/
theorem listado_iff {d : RecordDump} (distinct : (d.versions.map (·.plugin)).Nodup) {name : Texto} :
    name ∈ d.differingElements.map Prod.fst ↔ ∃ v ∈ d.versions, ∃ w ∈ d.versions,
      v.valores name ≠ [] ∧ w.valores name ≠ [] ∧
        (v.valores name).getLast? ≠ (w.valores name).getLast? := by
  simp only [mem_differingElements, valueAt_byPath distinct]
  constructor
  · rintro ⟨_, a, _, b, ⟨v, mem_v, rfl, last_v⟩, ⟨w, mem_w, rfl, last_w⟩, different⟩
    refine ⟨v, mem_v, w, mem_w, ?_, ?_, ?_⟩
    · exact List.ne_nil_of_mem (List.mem_of_getLast? last_v)
    · exact List.ne_nil_of_mem (List.mem_of_getLast? last_w)
    · rw [last_v, last_w]
      exact fun same => different (Option.some.inj same)
  · rintro ⟨v, mem_v, w, mem_w, some_v, some_w, different⟩
    have last_v := List.getLast?_eq_some_getLast some_v
    have last_w := List.getLast?_eq_some_getLast some_w
    refine ⟨_, _, _, _, ⟨v, mem_v, rfl, last_v⟩, ⟨w, mem_w, rfl, last_w⟩, fun same => different ?_⟩
    rw [last_v, last_w, same]

/-! What the dump keeps -/

theorem valores_leida (v : Version) (winner name : Texto) :
    (v.leida winner).valores name = v.valores name := by
  unfold RecordVersion.valores Version.leida Version.valores
  dsimp only
  rw [List.filter_map, List.map_map]
  rfl

theorem recortada_eq_leida {v : Version} {winner : Texto} :
    v.recortada winner = v.leida winner ↔
      ∀ el ∈ v.elements, ∀ c ∈ el.value.getLast?, isspace c = false := by
  simp only [Version.recortada, Version.leida, RecordVersion.mk.injEq, true_and, List.map_inj_left,
    Prod.mk.injEq]
  refine forall₂_congr fun el _ => ?_
  rw [List.rdropWhile_eq_self_iff]
  constructor
  · intro kept c last
    have nonempty := List.ne_nil_of_mem (List.mem_of_getLast? last)
    have solid := kept nonempty
    rw [List.getLast?_eq_some_getLast nonempty, Option.mem_some_iff] at last
    simpa [last] using solid
  · intro solid nonempty
    have last := solid _ (List.getLast?_eq_some_getLast nonempty)
    simpa using last

theorem recortadas_eq_leidas {e : MainRecord} {winner : Texto} :
    e.versiones.map (Version.recortada winner) = e.versiones.map (Version.leida winner) ↔
      SinBlancosFinales e := by
  rw [List.map_inj_left]
  exact forall₂_congr fun v _ => recortada_eq_leida

theorem log_limpio (ls : List Texto) : EnElLog ls (ls.map fun l => ⟨none, false, l⟩) := by
  induction ls with
  | nil => exact .fin
  | cons l ls ih => exact .linea ⟨none, false, l⟩ (fun m mark => by cases mark) ih

theorem plugins_leidas (e : Volcado) (winner : Texto) :
    ((e.versiones.map (Version.leida winner)).map (·.plugin)).Nodup := by
  rw [List.map_map]
  exact e.archivosDistintos

/-- When nothing is lost at the end of a value, a name is listed when the last values differ. -/
theorem listado_leidas {e : Volcado} {d : RecordDump} {winner name : Texto}
    (read : d.versions = e.versiones.map (Version.leida winner)) :
    name ∈ d.differingElements.map Prod.fst ↔ ∃ v ∈ e.versiones, ∃ w ∈ e.versiones,
      v.valores name ≠ [] ∧ w.valores name ≠ [] ∧
        (v.valores name).getLast? ≠ (w.valores name).getLast? := by
  rw [listado_iff (by rw [read]; exact plugins_leidas e winner), read]
  simp only [List.mem_map, exists_exists_and_eq_and, valores_leida]

/-- What the dump can only keep when the record lets it. -/
theorem condicion_de_guarda {lower : Lower} {e : Volcado} (keeps : GuardaDiferencias lower e.toMainRecord) :
    SinBlancosFinales e.toMainRecord ∧ DifierenAlFinal e.toMainRecord := by
  obtain ⟨editorId, tipo, parsed⟩ := parse_volcado lower e
  have plain := log_limpio (process e.toMainRecord)
  obtain ⟨d, only, _, versions⟩ := keeps.leido _ plain
  have read := List.singleton_inj.mp ((parsed _ plain).symm.trans only)
  constructor
  · rw [← recortadas_eq_leidas, ← versions, ← read]
  · intro name differ
    have listed := keeps.listado _ plain d (only ▸ List.mem_singleton_self d) name differ
    exact (listado_leidas versions).mp listed

/-- The dump keeps every difference exactly when no value ends in white space and no name
differs only before the last value that each version gives it. -/
theorem guardaDiferencias_iff (lower : Lower) (e : Volcado) :
    GuardaDiferencias lower e.toMainRecord ↔
      SinBlancosFinales e.toMainRecord ∧ DifierenAlFinal e.toMainRecord := by
  constructor
  · exact condicion_de_guarda
  · rintro ⟨sinBlancos, alFinal⟩
    obtain ⟨editorId, tipo, parsed⟩ := parse_volcado lower e
    have versions : e.versiones.map (Version.recortada e.winningOverride.texto) =
        e.versiones.map (Version.leida e.winningOverride.texto) := recortadas_eq_leidas.mpr sinBlancos
    constructor
    · intro registro log
      exact ⟨_, parsed registro log, rfl, versions⟩
    · intro registro log corte start
      rw [process_eq, List.dropLast_concat] at log
      exact parse_cortado log (visibles_lineas e) (abiertas_lineas e) start
    · intro registro log d mem name differ
      rw [parsed registro log, List.mem_singleton] at mem
      rw [listado_leidas (by rw [mem]; exact versions)]
      exact alFinal name differ

def archivoDe (nombre : String) (valido : nombre.toList.all XeditConflicts.validoEnNombre = true) (noVacio : nombre.toList ≠ []) : NombrePlugin :=
  ⟨nombre.toList, noVacio, List.all_eq_true.mp valido⟩

/-- A critical record with one override. -/
def recordDe (deMaestro deOverride : List Elemento) : MainRecord where
  formId := 0x00012EB7
  editorId := "Lydia".toList
  signature := "NPC_".toList
  isMaster := true
  version := ⟨archivoDe "Skyrim.esm" rfl (by decide), deMaestro⟩
  overrides := [⟨archivoDe "Mod.esp" rfl (by decide), deOverride⟩]
  winningOverride := archivoDe "Mod.esp" rfl (by decide)

def elementoDe (name value : String) : Elemento := ⟨name.toList, value.toList⟩

def cabe (el : Elemento) : Bool :=
  (el.name ++ el.value).all (fun c => c ≠ '|' && !esSalto c) && length el.name ≤ MAX_VALUE_CHARS &&
    length el.value ≤ MAX_VALUE_CHARS && el.value ≠ []

theorem cabe_facts {el : Elemento} (ok : cabe el = true) :
    (Cabe el.name ∧ Cabe el.value) ∧ el.value ≠ [] := by
  simp only [cabe, Bool.and_eq_true, List.all_eq_true, List.mem_append, decide_eq_true_eq,
    Bool.not_eq_true'] at ok
  obtain ⟨⟨⟨clean, short_name⟩, short_value⟩, nonempty⟩ := ok
  refine ⟨⟨⟨?_, ?_, short_name⟩, ⟨?_, ?_, short_value⟩⟩, nonempty⟩
  · exact fun bar => (clean '|' (.inl bar)).1 rfl
  · exact fun c mem => (clean c (.inl mem)).2
  · exact fun bar => (clean '|' (.inr bar)).1 rfl
  · exact fun c mem => (clean c (.inr mem)).2

def volcadoDe (a b : List Elemento) (caben : (a ++ b).all cabe = true)
    (pocos : a.length ≤ MAX_ELEMENTS ∧ b.length ≤ MAX_ELEMENTS) : Volcado where
  toMainRecord := recordDe a b
  conOverrides := Nat.le_refl 1
  maestro := rfl
  critico := by
    change XeditConflicts.isCriticalType "NPC_".toList = true
    decide
  editorEntero := by
    change ∀ c ∈ "Lydia".toList, esSalto c = false
    exact ninguno rfl
  archivosEnteros := by
    simp only [MainRecord.versiones, recordDe, List.forall_mem_cons]
    exact ⟨ninguno rfl, ninguno rfl, List.forall_mem_nil _⟩
  archivosDistintos := by simp [MainRecord.versiones, recordDe, archivoDe]
  pocos := by
    simp only [MainRecord.versiones, recordDe, List.forall_mem_cons]
    exact ⟨pocos.1, pocos.2, List.forall_mem_nil _⟩
  caben := by
    simp only [List.all_append, Bool.and_eq_true, List.all_eq_true] at caben
    simp only [MainRecord.versiones, recordDe, List.forall_mem_cons]
    exact ⟨fun el mem => (cabe_facts (caben.1 el mem)).1,
      fun el mem => (cabe_facts (caben.2 el mem)).1, List.forall_mem_nil _⟩
  conValor := by
    simp only [List.all_append, Bool.and_eq_true, List.all_eq_true] at caben
    simp only [MainRecord.versiones, recordDe, List.forall_mem_cons]
    exact ⟨fun el mem => (cabe_facts (caben.1 el mem)).2,
      fun el mem => (cabe_facts (caben.2 el mem)).2, List.forall_mem_nil _⟩

def repetido : Volcado :=
  volcadoDe [elementoDe "Factions" "A", elementoDe "Factions" "B"]
    [elementoDe "Factions" "C", elementoDe "Factions" "B"] (by decide) (by decide)

def conBlanco : Volcado :=
  volcadoDe [elementoDe "Full Name" "Lydia "] [elementoDe "Full Name" "Lydia"] (by decide) (by decide)

/-- A name that differs before its last value is not listed, and a value loses the blank
at its end. -/
theorem diferencias_perdidas :
    ¬ GuardaDiferencias (fun t => t.map Char.toLower) repetido.toMainRecord ∧
      ¬ GuardaDiferencias (fun t => t.map Char.toLower) conBlanco.toMainRecord := by
  constructor
  · intro keeps
    have differ : DifierenEn repetido.toMainRecord "Factions".toList :=
      ⟨_, List.mem_cons_self, _, List.mem_cons_of_mem _ List.mem_cons_self, by decide, by decide,
        by decide⟩
    obtain ⟨v, mem_v, w, mem_w, _, _, different⟩ := (condicion_de_guarda keeps).2 _ differ
    have last : ∀ u ∈ repetido.versiones, (u.valores "Factions".toList).getLast? = some ['B'] := by
      intro u mem
      obtain first | second := List.mem_pair.mp mem
      · subst first
        decide
      · subst second
        decide
    exact different ((last v mem_v).trans (last w mem_w).symm)
  · intro keeps
    have solid := (condicion_de_guarda keeps).1 _ List.mem_cons_self _ List.mem_cons_self ' ' (by decide)
    cases solid

end RecordDumps
