import SkyClaw.FirstByKey
import SkyClaw.TextLines

set_option linter.all false

/-!
The plugins that load and their order, `mo2/plugin_sources.py`: the officials that are in
the `Data` folder, the order of the profile, and what it activates.
-/
namespace PluginSources
open FirstByKey TextLines TrimmedText

local instance lawfulBEq_nombre : LawfulBEq (List Char) := inferInstance

/-- `str.casefold`; on ASCII texts it is the lower case. -/
structure Casefold where
  pliega : Texto → Texto
  ascii : ∀ t : Texto, t.all (·.toNat < 128) = true → pliega t = t.map Char.toLower

instance : CoeFun Casefold fun _ => Texto → Texto := ⟨Casefold.pliega⟩

def officialMasters : List Texto :=
  ["Skyrim.esm".toList, "Update.esm".toList, "Dawnguard.esm".toList, "HearthFires.esm".toList,
    "Dragonborn.esm".toList]

inductive ActivationSourceStatus where
  | absent
  | ok
  | unreadable
  deriving DecidableEq

/-- `PluginSources`, without the folders that it lists for the sensors. -/
structure Fuentes where
  explicitEnabledPlugins : List Texto
  implicitOfficialMasters : List Texto
  orderedPlugins : List Texto
  activationSourceStatus : ActivationSourceStatus
  deriving DecidableEq

section
variable (casefold : Casefold)

/-! `effective_enabled_plugins` -/

def Fuentes.efectivos (f : Fuentes) : List Texto :=
  f.explicitEnabledPlugins.map casefold ++ f.implicitOfficialMasters.map casefold

structure Union where
  resultado : List Texto
  vistos : List Texto

def agrega (efectivos : List Texto) (s : Union) (nombre : Texto) : Union :=
  let clave := casefold nombre
  if clave ∈ efectivos ∧ clave ∉ s.vistos then ⟨s.resultado ++ [nombre], clave :: s.vistos⟩ else s

def Fuentes.effectiveEnabledPlugins (f : Fuentes) : List Texto :=
  let efectivos := f.efectivos casefold
  let oficiales := f.implicitOfficialMasters.foldl (agrega casefold efectivos) ⟨[], []⟩
  let ordenados := f.orderedPlugins.foldl (agrega casefold efectivos) oficiales
  (f.explicitEnabledPlugins.foldl (agrega casefold efectivos) ordenados).resultado

/-! The files -/

/-- A file of the profile: its name and the text that `read_text` gives, or nothing on `OSError`. -/
structure Archivo where
  nombre : Texto
  texto : Option Texto
  deriving DecidableEq

/-- The lines that are neither empty nor comments. -/
def entradas (lineas : List Texto) : List Texto :=
  (lineas.map (strip isspace)).filter fun l => l ≠ [] ∧ l.head? ≠ some '#'

/-- `_read_entries` -/
def readEntries : Option Archivo → Option (List Texto)
  | none => some []
  | some archivo => archivo.texto.map fun texto => entradas (splitlines texto)

/-- `line.lstrip("*").strip()` -/
def sinEstrellas (linea : Texto) : Texto := strip isspace (linea.dropWhile (· = '*'))

/-- `path.name.lower() == "plugins.txt"`; only ASCII letters have these lower cases. -/
def esPluginsTxt (archivo : Option Archivo) : Bool :=
  archivo.any fun a => a.nombre.map Char.toLower = "plugins.txt".toList

/-- `_parse_activation` -/
def parseActivation (archivo : Option Archivo) : Option (List Texto) :=
  match readEntries archivo with
  | none => none
  | some [] => some []
  | some (e :: es) =>
    let marcadas := ((e :: es).filter (·.head? = some '*')).map fun l => strip isspace (l.drop 1)
    if esPluginsTxt archivo ∧ marcadas ≠ [] then some marcadas
    else some ((e :: es).map sinEstrellas)

/-- `_parse_order` -/
def parseOrder (archivo : Option Archivo) : List Texto :=
  ((readEntries archivo).getD []).map sinEstrellas

/-- An entry of the `Data` folder; nothing where `is_file` raises `OSError`. -/
structure Entrada where
  nombre : Texto
  esArchivo : Option Bool
  deriving DecidableEq

/-- `_implicit_official_masters` of a folder that can be listed or not. -/
def implicitOfficialMasters (data : Option (List Entrada)) : List Texto :=
  match data with
  | none => []
  | some entries =>
    let buscados := officialMasters.map casefold
    let presentes := (entries.filter fun e => casefold e.nombre ∈ buscados ∧ e.esArchivo = some true).map
      fun e => casefold e.nombre
    officialMasters.filter fun nombre => casefold nombre ∈ presentes

/-- `resolve_plugin_sources` -/
def resolvePluginSources (data : Option (List Entrada)) (pluginsFile orderFile : Option Archivo) : Fuentes :=
  let activation := parseActivation (pluginsFile.or orderFile)
  let ordered := match orderFile with
    | some orden => parseOrder (some orden)
    | none => parseOrder pluginsFile
  match activation with
  | none => ⟨[], implicitOfficialMasters casefold data, ordered, .unreadable⟩
  | some explicit => ⟨explicit, implicitOfficialMasters casefold data, ordered,
      if pluginsFile.isSome then .ok else .absent⟩

end

/-! The union -/

section
variable {casefold : Casefold}

theorem foldl_agrega (efectivos : List Texto) (s : Union) (nombres : List Texto) :
    nombres.foldl (agrega casefold efectivos) s =
      ⟨s.resultado ++ firsts casefold s.vistos (nombres.filter fun n => casefold n ∈ efectivos),
        ((firsts casefold s.vistos (nombres.filter fun n => casefold n ∈ efectivos)).map casefold).reverse ++
          s.vistos⟩ := by
  induction nombres generalizing s with
  | nil => simp [firsts]
  | cons n nombres ih =>
    rw [List.foldl_cons, ih, agrega]
    by_cases inside : casefold n ∈ efectivos
    · rw [List.filter_cons_of_pos (by simpa using inside), firsts]
      by_cases old : casefold n ∈ s.vistos
      · simp [inside, old]
      · simp [inside, old]
    · rw [List.filter_cons_of_neg (by simpa using inside)]
      simp [inside]

/-- The three passes are one. -/
theorem effective_eq (f : Fuentes) : f.effectiveEnabledPlugins casefold =
    firsts casefold [] ((f.implicitOfficialMasters ++ f.orderedPlugins ++ f.explicitEnabledPlugins).filter
      fun n => casefold n ∈ f.efectivos casefold) := by
  have one : f.effectiveEnabledPlugins casefold =
      ((f.implicitOfficialMasters ++ f.orderedPlugins ++ f.explicitEnabledPlugins).foldl
        (agrega casefold (f.efectivos casefold)) ⟨[], []⟩).resultado := by
    rw [List.foldl_append, List.foldl_append]
    rfl
  rw [one, foldl_agrega, List.nil_append]

/-! The officials -/

theorem officials_nodup : (officialMasters.map casefold).Nodup := by
  have lowered : officialMasters.map casefold = officialMasters.map fun n => n.map Char.toLower := by
    refine List.map_congr_left fun n mem => casefold.ascii n ?_
    exact List.all_eq_true.mp (show officialMasters.all (fun n => n.all (·.toNat < 128)) = true by decide) n mem
  rw [lowered]
  decide

/-- The officials that have a file in the folder, in their order. -/
theorem implicit_spec (data : Option (List Entrada)) :
    (implicitOfficialMasters casefold data).Sublist officialMasters ∧
      ∀ n ∈ officialMasters, n ∈ implicitOfficialMasters casefold data ↔
        ∃ entries, data = some entries ∧ ∃ e ∈ entries, casefold e.nombre = casefold n ∧ e.esArchivo = some true := by
  unfold implicitOfficialMasters
  cases data with
  | none => exact ⟨List.nil_sublist _, fun n _ => by simp⟩
  | some entries =>
    refine ⟨List.filter_sublist, fun n official => ?_⟩
    rw [List.mem_filter, decide_eq_true_eq, List.mem_map]
    constructor
    · intro present
      obtain ⟨_, e, mem, same⟩ := present
      rw [List.mem_filter, decide_eq_true_eq] at mem
      exact ⟨entries, rfl, e, mem.1, same, mem.2.2⟩
    · intro there
      obtain ⟨entries, listed, e, mem, same, file⟩ := there
      cases listed
      refine ⟨official, e, List.mem_filter.mpr ⟨mem, ?_⟩, same⟩
      rw [decide_eq_true_eq, same]
      exact ⟨List.mem_map_of_mem official, file⟩

theorem implicit_nodup (data : Option (List Entrada)) :
    ((implicitOfficialMasters casefold data).map casefold).Nodup :=
  officials_nodup.sublist ((implicit_spec data).1.map casefold)

/-! The order -/

/-- The effective plugins: the officials, then the rest of the profile order, then the rest. -/
theorem effective_split {f : Fuentes} (nodup : (f.implicitOfficialMasters.map casefold).Nodup) :
    f.effectiveEnabledPlugins casefold = f.implicitOfficialMasters ++
      firsts casefold (f.implicitOfficialMasters.map casefold)
        (f.orderedPlugins.filter fun n => casefold n ∈ f.efectivos casefold) ++
      firsts casefold ((f.implicitOfficialMasters ++ f.orderedPlugins).map casefold) f.explicitEnabledPlugins := by
  have officials : (f.implicitOfficialMasters.filter fun n => casefold n ∈ f.efectivos casefold) =
      f.implicitOfficialMasters := by
    refine List.filter_eq_self.mpr fun n mem => ?_
    rw [decide_eq_true_eq, Fuentes.efectivos]
    exact List.mem_append_right _ (List.mem_map_of_mem mem)
  have active : (f.explicitEnabledPlugins.filter fun n => casefold n ∈ f.efectivos casefold) =
      f.explicitEnabledPlugins := by
    refine List.filter_eq_self.mpr fun n mem => ?_
    rw [decide_eq_true_eq, Fuentes.efectivos]
    exact List.mem_append_left _ (List.mem_map_of_mem mem)
  rw [effective_eq, List.filter_append, List.filter_append, officials, active, firsts_append, firsts_append,
    firsts_nodup nodup (fun _ _ => List.not_mem_nil), List.nil_append, List.nil_append]
  congr 1
  refine firsts_congr fun n mem => ?_
  have inside : casefold n ∈ f.efectivos casefold := List.mem_append_left _ (List.mem_map_of_mem mem)
  rw [List.map_append, List.mem_append, List.map_append, List.mem_append]
  refine or_congr_right ?_
  constructor
  · intro listed
    exact List.map_subset _ (List.filter_subset_self _) listed
  · intro listed
    obtain ⟨m, mem, same⟩ := List.mem_map.mp listed
    refine List.mem_map.mpr ⟨m, List.mem_filter.mpr ⟨mem, ?_⟩, same⟩
    rw [decide_eq_true_eq, same]
    exact inside

theorem mem_effective {f : Fuentes} {k : Texto} : k ∈ (f.effectiveEnabledPlugins casefold).map casefold ↔
    k ∈ f.explicitEnabledPlugins.map casefold ∨ k ∈ f.implicitOfficialMasters.map casefold := by
  rw [effective_eq, mem_keys_firsts]
  constructor
  · intro both
    obtain ⟨n, mem, same⟩ := List.mem_map.mp both.1
    have inside := (List.mem_filter.mp mem).2
    rw [decide_eq_true_eq, same, Fuentes.efectivos, List.mem_append] at inside
    exact inside
  · intro either
    have effective : k ∈ f.efectivos casefold := List.mem_append.mpr either
    refine ⟨?_, List.not_mem_nil⟩
    have kept {n : Texto} (mem : n ∈ f.implicitOfficialMasters ++ f.orderedPlugins ++ f.explicitEnabledPlugins)
        (same : casefold n = k) : k ∈ ((f.implicitOfficialMasters ++ f.orderedPlugins ++
          f.explicitEnabledPlugins).filter fun n => casefold n ∈ f.efectivos casefold).map casefold := by
      refine List.mem_map.mpr ⟨n, List.mem_filter.mpr ⟨mem, ?_⟩, same⟩
      rw [decide_eq_true_eq, same]
      exact effective
    cases either with
    | inl explicit =>
      obtain ⟨n, mem, same⟩ := List.mem_map.mp explicit
      exact kept (List.mem_append_right _ mem) same
    | inr official =>
      obtain ⟨n, mem, same⟩ := List.mem_map.mp official
      exact kept (List.mem_append_left _ (List.mem_append_left _ mem)) same

/-! Lines of the order that count for nothing -/

theorem entradas_append (a b : List Texto) : entradas (a ++ b) = entradas a ++ entradas b := by
  rw [entradas, List.map_append, List.filter_append]
  rfl

/-- The name that a line of the order gives, when it is neither empty nor a comment. -/
theorem nombres_linea (linea : Texto) : (entradas [linea]).map sinEstrellas = [] ∨
    (entradas [linea]).map sinEstrellas = [sinEstrellas (strip isspace linea)] := by
  by_cases useful : strip isspace linea ≠ [] ∧ (strip isspace linea).head? ≠ some '#'
  · refine .inr ?_
    rw [entradas, List.map_singleton, List.filter_cons_of_pos (by simpa using useful), List.filter_nil,
      List.map_singleton]
  · refine .inl ?_
    rw [entradas, List.map_singleton, List.filter_cons_of_neg (by simpa using useful), List.filter_nil,
      List.map_nil]

/-- A name that is not effective may be listed anywhere or not at all. -/
theorem effective_sin_linea {f g : Fuentes} {a b : List Texto} {linea : Texto}
    (explicit : g.explicitEnabledPlugins = f.explicitEnabledPlugins)
    (implicit : g.implicitOfficialMasters = f.implicitOfficialMasters)
    (without : f.orderedPlugins = (entradas (a ++ b)).map sinEstrellas)
    (listed : g.orderedPlugins = (entradas (a ++ linea :: b)).map sinEstrellas)
    (inert : casefold (sinEstrellas (strip isspace linea)) ∉ (f.effectiveEnabledPlugins casefold).map casefold) :
    g.effectiveEnabledPlugins casefold = f.effectiveEnabledPlugins casefold := by
  have keys : g.efectivos casefold = f.efectivos casefold := by
    rw [Fuentes.efectivos, explicit, implicit, Fuentes.efectivos]
  have outside : casefold (sinEstrellas (strip isspace linea)) ∉ f.efectivos casefold := by
    intro inside
    exact inert (mem_effective.mpr (List.mem_append.mp inside))
  have gone : ((entradas [linea]).map sinEstrellas).filter (fun n => casefold n ∈ f.efectivos casefold) = [] := by
    cases nombres_linea linea with
    | inl none_ => rw [none_, List.filter_nil]
    | inr one => rw [one, List.filter_cons_of_neg (by simpa using outside), List.filter_nil]
  have order : g.orderedPlugins.filter (fun n => casefold n ∈ f.efectivos casefold) =
      f.orderedPlugins.filter fun n => casefold n ∈ f.efectivos casefold := by
    rw [listed, without, ← List.singleton_append, entradas_append, entradas_append, entradas_append, List.map_append,
      List.map_append, List.map_append, List.filter_append, List.filter_append, List.filter_append, gone,
      List.nil_append]
  rw [effective_eq, effective_eq, keys, List.filter_append, List.filter_append, List.filter_append,
    List.filter_append, explicit, implicit, order]

end

/-! The two files of a profile -/

/-- The sources of a profile that has both files, from their texts. -/
def fuentesDe (casefold : Casefold) (data : Option (List Entrada)) (plugins orden : Texto) : Fuentes :=
  resolvePluginSources casefold data (some ⟨"plugins.txt".toList, some plugins⟩)
    (some ⟨"loadorder.txt".toList, some orden⟩)

theorem fuentesDe_campos (casefold : Casefold) (data : Option (List Entrada)) (plugins orden : Texto) :
    (fuentesDe casefold data plugins orden).implicitOfficialMasters = implicitOfficialMasters casefold data ∧
    some (fuentesDe casefold data plugins orden).explicitEnabledPlugins =
      parseActivation (some ⟨"plugins.txt".toList, some plugins⟩) ∧
    (fuentesDe casefold data plugins orden).orderedPlugins = (entradas (splitlines orden)).map sinEstrellas := by
  have some_ : ∃ explicit, parseActivation (some ⟨"plugins.txt".toList, some plugins⟩) = some explicit := by
    unfold parseActivation readEntries
    simp only [Option.map_some]
    split
    · next absent => cases absent
    · exact ⟨_, rfl⟩
    · split
      · exact ⟨_, rfl⟩
      · exact ⟨_, rfl⟩
  obtain ⟨explicit, parsed⟩ := some_
  unfold fuentesDe resolvePluginSources
  rw [Option.some_or, parsed]
  exact ⟨rfl, rfl, rfl⟩

end PluginSources
