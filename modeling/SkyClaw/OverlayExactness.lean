import Mathlib.Data.List.Nodup
import Mathlib.Data.List.Infix
import Mathlib.Data.String.Basic
import SkyClaw.OverlayWinners

set_option linter.all false

/-!
The questions to the index of `ganadores.py`, and when its answers are those of
the overlay: the index walks each layer from the folder that the file system opens
for the prefix, and the overlay has what the tree of the layer has.
-/

/-! The last element of a list with a property -/

/-- Nothing after the element has the property. -/
def LastWith {α : Type} (p : α → Prop) (l : List α) (x : α) : Prop :=
  ∃ front back, l = front ++ x :: back ∧ p x ∧ ∀ y ∈ back, ¬p y

namespace LastWith

variable {α : Type} {p q : α → Prop} {l : List α} {x y : α}

theorem mem (last : LastWith p l x) : x ∈ l := by
  obtain ⟨front, back, rfl, -, -⟩ := last
  simp

theorem holds (last : LastWith p l x) : p x := by
  obtain ⟨-, -, -, px, -⟩ := last
  exact px

theorem exists_of_any (some_ : ∃ x ∈ l, p x) : ∃ y, LastWith p l y := by
  induction l with
  | nil =>
    obtain ⟨x, mem, -⟩ := some_
    cases mem
  | cons first l ih =>
    by_cases later : ∃ x ∈ l, p x
    · obtain ⟨y, front, back, rfl, py, none_⟩ := ih later
      exact ⟨y, first :: front, back, rfl, py, none_⟩
    · have none_ : ∀ y ∈ l, ¬p y := fun y inside py => later ⟨y, inside, py⟩
      obtain ⟨x, mem, px⟩ := some_
      rcases List.mem_cons.mp mem with rfl | inside
      · exact ⟨x, [], l, rfl, px, none_⟩
      · exact absurd px (none_ x inside)

/-- Two last elements stand at the same place, unless one stands after the other. -/
theorem place {front front' back back' : List α} (same : front ++ x :: back = front' ++ y :: back')
    (noY : y ∉ back) (noX : x ∉ back') : x = y ∧ back = back' := by
  rcases List.append_eq_append_iff.mp same with ⟨mid, rfl, rest⟩ | ⟨mid, rfl, rest⟩
  · cases mid with
    | nil => exact List.cons.inj rest
    | cons first mid =>
      obtain ⟨rfl, rfl⟩ := List.cons.inj rest
      exact absurd (List.mem_append_right _ List.mem_cons_self) noY
  · cases mid with
    | nil =>
      obtain ⟨rfl, rfl⟩ := List.cons.inj rest
      exact ⟨rfl, rfl⟩
    | cons first mid =>
      obtain ⟨rfl, rfl⟩ := List.cons.inj rest
      exact absurd (List.mem_append_right _ List.mem_cons_self) noX

theorem unique (first : LastWith p l x) (second : LastWith p l y) : x = y := by
  obtain ⟨front, back, rfl, px, none_⟩ := first
  obtain ⟨front', back', same, py, none_'⟩ := second
  exact (place same (fun mem => none_ y mem py) fun mem => none_' x mem px).1

/-- The last element with either property, when it is the last with each. -/
theorem or (first : LastWith p l x) (second : LastWith q l x) : LastWith (fun y => p y ∨ q y) l x := by
  obtain ⟨front, back, rfl, px, none_⟩ := first
  obtain ⟨front', back', same, qx, none_'⟩ := second
  have place_ := place same (fun mem => none_ x mem px) fun mem => none_' x mem qx
  refine ⟨front, back, rfl, Or.inl px, ?_⟩
  intro y mem either
  rcases either with py | qy
  · exact none_ y mem py
  · exact none_' y (place_.2 ▸ mem) qy

/-- A stronger property that the last element has. -/
theorem mono (last : LastWith p l x) (strong : ∀ y ∈ l, q y → p y) (qx : q x) : LastWith q l x := by
  obtain ⟨front, back, rfl, -, none_⟩ := last
  refine ⟨front, back, rfl, qx, fun y mem qy => none_ y mem (strong y ?_ qy)⟩
  exact List.mem_append_right _ (List.mem_cons_of_mem _ mem)

end LastWith

namespace Ganadores
open FileTrees

/-- The `GanadoresError` of the questions to the index. -/
inductive ConsultaError where
  | rutaInvalida (ruta : String)
  | sufijoVacio
  deriving DecidableEq

/-- `_clave`, with the components of the normalized path. -/
def partesDe (ruta : String) : Except ConsultaError (List String) :=
  let normalizada := ruta.toList.map fun c => if c = '\\' then '/' else c
  let partes := (normalizada.splitOn '/').map String.ofList
  if normalizada = [] ∨ normalizada.head? = some '/' ∨
      (partes.any fun p => p = "" ∨ p = "." ∨ p = "..") ∨ ':' ∈ normalizada then
    .error (.rutaInvalida ruta)
  else .ok partes

/-- The key as the dictionary has it. -/
def texto (k : Clave) : String := "/".intercalate k

section
variable (nombres : Nombres)

/-- `GanadoresDelPerfil.ganador` -/
def GanadoresDelPerfil.ganadorDe (g : GanadoresDelPerfil) (ruta : String) :
    Except ConsultaError (Option GanadorDeRuta) := do
  let partes ← partesDe ruta
  return g.ganador nombres partes

def terminaEn (buscado : String) (k : Clave) : Bool := buscado.toList.isSuffixOf (texto k).toList

def GanadoresDelPerfil.conSufijo (g : GanadoresDelPerfil) (sufijo : String) :
    Except ConsultaError (List GanadorDeRuta) :=
  if sufijo = "" then .error .sufijoVacio
  else
    let buscado := nombres.lower sufijo
    let claves := (g.ganadores.map Prod.fst).mergeSort fun a b => texto a ≤ texto b
    .ok ((claves.filter (terminaEn buscado)).filterMap fun k => g.ganadores.lookup k)

/-! What the overlay delivers -/

/-- A layer has a file at a path that runs through its own folders, with no hidden name. -/
def Contiene (raiz : Nodo) (ruta : List String) (a : Archivo) : Prop :=
  raiz.own? nombres.fold ruta = some (.file a) ∧ ruta.any (esOculto nombres) = false

/-- A layer has a file at a path in some letter case. -/
def Tiene (k : Clave) (capa : Capa × Nodo) : Prop :=
  ∃ ruta a, clave nombres ruta = k ∧ Contiene nombres capa.2 ruta a

variable (capas : List (Capa × Nodo)) (prefijo : List String) (g : GanadoresDelPerfil)

/-- The answer for a path is the file of the highest layer that has it. -/
def Acierta (k : Clave) : Option GanadorDeRuta → Prop
  | none => ∀ capa ∈ capas, ¬Tiene nombres k capa
  | some w => ∃ capa, LastWith (Tiene nombres k) capas capa ∧ w.capa = capa.1 ∧
      clave nombres w.rutaVirtual = k ∧ Contiene nombres capa.2 w.rutaVirtual w.archivo

/-- Every path of the prefix that can be asked for is answered rightly. -/
def Correcto : Prop :=
  ∀ ruta partes found, partesDe ruta = .ok partes → clave nombres prefijo <+: clave nombres partes →
    g.ganadorDe nombres ruta = .ok found → Acierta nombres capas (clave nombres partes) found

/-- The listing by suffix has each winner that ends so, once. -/
def Sufijos : Prop :=
  ∀ sufijo ≠ "", ∃ lista, g.conSufijo nombres sufijo = .ok lista ∧ lista.Nodup ∧
    ∀ w, w ∈ lista ↔ g.ganador nombres w.rutaVirtual = some w ∧
      (nombres.lower sufijo).toList <:+ (texto (clave nombres w.rutaVirtual)).toList

/-- Every layer was read to its end, within the cap. -/
def Completo (maximo : Int) : Prop :=
  (∀ capa ∈ capas, Seen.failed ∉ archivosDe nombres capa.2 prefijo) ∧
    ((capas.flatMap fun capa => archivosDe nombres capa.2 prefijo).length : Int) ≤ maximo

/-- The walk from the prefix arrives at a path of the layer. -/
def Alcanza (k : Clave) (capa : Capa × Nodo) : Prop := ∃ a, Provee nombres prefijo k capa.2 a

/-- The prefix is visible, and a place of the layer's own. -/
def PrefijoPropio (capa : Capa × Nodo) : Prop :=
  prefijo.any (esOculto nombres) = false ∧ (capa.2.own? nombres.fold prefijo).isSome

/-- The highest layer that has a path, be it in its tree or at the end of the walk from the
prefix, has it at the end of the walk and from a prefix that is its own. -/
def PrefijoFiel : Prop :=
  ∀ ruta partes, partesDe ruta = .ok partes → clave nombres prefijo <+: clave nombres partes →
    ∀ capa, LastWith (fun c => Alcanza nombres prefijo (clave nombres partes) c ∨
        Tiene nombres (clave nombres partes) c) capas capa →
      Alcanza nombres prefijo (clave nombres partes) capa ∧ PrefijoPropio nombres prefijo capa

end

variable {nombres : Nombres} {capas : List (Capa × Nodo)} {prefijo : List String}
  {g : GanadoresDelPerfil} {k : Clave} {capa : Capa × Nodo}

theorem own_distinct {node child : Nodo} {p : List String} (distinct : node.Distinct nombres.fold)
    (owned : node.own? nombres.fold p = some child) : child.Distinct nombres.fold := by
  induction p generalizing node with
  | nil =>
    simp only [Node.own?, Option.some.injEq] at owned
    exact owned ▸ distinct
  | cons name path ih =>
    cases node with
    | folder tag entries =>
      simp only [Node.own?, Option.bind_eq_some_iff] at owned
      obtain ⟨next, found, below⟩ := owned
      simp only [Node.Distinct] at distinct
      exact ih (find_distinct distinct found) below
    | _ => simp [Node.own?] at owned

/-- The file system goes where the layer's own folders lead. -/
theorem descend_of_own {node child : Nodo} {p : List String}
    (owned : node.own? nombres.fold p = some child) : node.descend nombres.fold p = some child := by
  induction p generalizing node with
  | nil => exact owned
  | cons name path ih =>
    cases node with
    | folder tag entries =>
      simp only [Node.own?, Option.bind_eq_some_iff] at owned
      obtain ⟨next, found, below⟩ := owned
      simp only [Node.descend, Node.target, found, Option.bind_some]
      exact ih below
    | _ => simp [Node.own?] at owned

/-- What the walk finds from a prefix of the layer's own is in the layer. -/
theorem contiene_of_walk {ruta : List String} {a : Archivo} (distinct : capa.2.Distinct nombres.fold)
    (propio : PrefijoPropio nombres prefijo capa)
    (seen : Seen.file ruta a ∈ archivosDe nombres capa.2 prefijo)
    (visible : ruta.any (esOculto nombres) = false) : Contiene nombres capa.2 (prefijo ++ ruta) a := by
  obtain ⟨base, owned⟩ := Option.isSome_iff_exists.mp propio.2
  constructor
  · rw [own_append, owned, Option.bind_some]
    rw [archivosDe, descend_of_own owned] at seen
    exact own_of_walk (own_distinct distinct owned) seen
  · rw [List.any_append, propio.1, visible, Bool.or_false]

/-- A path of the layer leads through a prefix of its own. -/
theorem propio_of_contiene {ruta : List String} {a : Archivo}
    (there : Contiene nombres capa.2 (prefijo ++ ruta) a) : PrefijoPropio nombres prefijo capa := by
  obtain ⟨owned, visible⟩ := there
  rw [own_append] at owned
  obtain ⟨base, here, -⟩ := Option.bind_eq_some_iff.mp owned
  rw [List.any_append, Bool.or_eq_false_iff] at visible
  exact ⟨visible.1, by rw [here]; rfl⟩

/-! The index -/

/-- The winner of a path is of the last layer where the walk arrives at it. -/
theorem indice_elige {texto_ : String} {tope : Int} {r r' : Recorrido}
    (ran : capas.foldlM (recorrerCapa nombres texto_ tope prefijo) r = .ok r') (k : Clave) :
    (∃ capa ruta a, LastWith (Alcanza nombres prefijo k) capas capa ∧
      Seen.file ruta a ∈ archivosDe nombres capa.2 prefijo ∧ ruta.any (esOculto nombres) = false ∧
      clave nombres (prefijo ++ ruta) = k ∧
      r'.indice.ganadores.lookup k = some ⟨prefijo ++ ruta, capa.1, a⟩) ∨
    ((∀ capa ∈ capas, ¬Alcanza nombres prefijo k capa) ∧
      r'.indice.ganadores.lookup k = r.indice.ganadores.lookup k) := by
  induction capas generalizing r with
  | nil =>
    simp only [List.foldlM_nil, pure, Except.pure, Except.ok.injEq] at ran
    exact Or.inr ⟨nofun, by rw [ran]⟩
  | cons first capas ih =>
    rw [List.foldlM_cons] at ran
    obtain ⟨mid, own, rest⟩ := bind_ok ran
    rcases ih rest with ⟨capa, ruta, a, ⟨front, back, same, last⟩, seen⟩ | ⟨none_later, kept⟩
    · exact Or.inl ⟨capa, ruta, a, ⟨first :: front, back, by rw [same]; rfl, last⟩, seen⟩
    rcases recorrido_elige own k with ⟨ruta, a, ⟨seen, visible, same⟩, found⟩ | ⟨absent, before⟩
    · left
      refine ⟨first, ruta, a, ⟨[], capas, rfl, ⟨a, ruta, seen, visible, same⟩, none_later⟩, seen,
        visible, same, kept.trans found⟩
    · right
      refine ⟨?_, kept.trans before⟩
      intro capa mem
      rcases List.mem_cons.mp mem with rfl | later
      · intro ⟨a, there⟩
        exact absent a there
      · exact none_later capa later

/-- A path has one entry, which is its own. -/
def Ordenado (nombres : Nombres) (g : GanadoresDelPerfil) : Prop :=
  (g.ganadores.map Prod.fst).Nodup ∧ ∀ e ∈ g.ganadores, e.1 = clave nombres e.2.rutaVirtual

theorem Ordenado.pisar (ordered : Ordenado nombres g) (w : GanadorDeRuta) :
    Ordenado nombres (g.pisar (clave nombres w.rutaVirtual) w) := by
  constructor
  · rw [GanadoresDelPerfil.pisar, List.map_cons, List.nodup_cons]
    constructor
    · intro again
      obtain ⟨e, mem, same⟩ := List.mem_map.mp again
      simp only [ne_eq, List.mem_filter, decide_not, Bool.not_eq_true', decide_eq_false_iff_not] at mem
      exact mem.2 same
    · exact ordered.1.sublist (List.filter_sublist.map _)
  · intro e mem
    rcases List.mem_cons.mp mem with rfl | old
    · rfl
    · exact ordered.2 e (List.mem_of_mem_filter old)

/-- The walk of one layer: the order is kept, and what was visited was readable and within the cap. -/
theorem visita_completa {texto_ : String} {tope : Int} {capa : Capa} {vistos : List (Seen Archivo)}
    {r r' : Recorrido} (ran : vistos.foldlM (visitar nombres texto_ tope prefijo capa) r = .ok r')
    (ordered : Ordenado nombres r.indice) (within : r.visitados ≤ tope) :
    Ordenado nombres r'.indice ∧ Seen.failed ∉ vistos ∧
      r'.visitados = r.visitados + vistos.length ∧ r'.visitados ≤ tope := by
  induction vistos generalizing r with
  | nil =>
    simp only [List.foldlM_nil, pure, Except.pure, Except.ok.injEq] at ran
    subst ran
    exact ⟨ordered, nofun, by simp, within⟩
  | cons visto vistos ih =>
    rw [List.foldlM_cons] at ran
    obtain ⟨mid, first, rest⟩ := bind_ok ran
    cases visto with
    | failed => cases first
    | file ruta a =>
      have step : Ordenado nombres mid.indice ∧ mid.visitados = r.visitados + 1 ∧ mid.visitados ≤ tope := by
        simp only [visitar] at first
        split at first
        · cases first
        · next under =>
          split at first
          · obtain rfl := Except.ok.inj first
            exact ⟨ordered, rfl, not_lt.mp under⟩
          · obtain rfl := Except.ok.inj first
            exact ⟨ordered.pisar ⟨prefijo ++ ruta, capa, a⟩, rfl, not_lt.mp under⟩
      obtain ⟨later, readable, count, cap⟩ := ih rest step.1 step.2.2
      refine ⟨later, ?_, ?_, cap⟩
      · intro mem
        rcases List.mem_cons.mp mem with one | more
        · cases one
        · exact readable more
      · rw [count, step.2.1, List.length_cons]
        omega

theorem indice_completo {texto_ : String} {tope : Int} {r r' : Recorrido}
    (ran : capas.foldlM (recorrerCapa nombres texto_ tope prefijo) r = .ok r')
    (ordered : Ordenado nombres r.indice) (within : r.visitados ≤ tope) :
    Ordenado nombres r'.indice ∧ (∀ capa ∈ capas, Seen.failed ∉ archivosDe nombres capa.2 prefijo) ∧
      r'.visitados = r.visitados + (capas.flatMap fun capa => archivosDe nombres capa.2 prefijo).length ∧
      r'.visitados ≤ tope := by
  induction capas generalizing r with
  | nil =>
    simp only [List.foldlM_nil, pure, Except.pure, Except.ok.injEq] at ran
    subst ran
    exact ⟨ordered, nofun, by simp, within⟩
  | cons first capas ih =>
    rw [List.foldlM_cons] at ran
    obtain ⟨mid, own, rest⟩ := bind_ok ran
    obtain ⟨order, readable, count, cap⟩ := visita_completa own ordered within
    obtain ⟨later, allReadable, total, bound⟩ := ih rest order cap
    refine ⟨later, ?_, ?_, bound⟩
    · intro capa mem
      rcases List.mem_cons.mp mem with rfl | more
      · exact readable
      · exact allReadable capa more
    · rw [total, count, List.flatMap_cons, List.length_append]
      omega

/-! The listing by suffix -/

theorem mem_of_lookup {w : GanadorDeRuta} {l : List (Clave × GanadorDeRuta)}
    (found : l.lookup k = some w) : (k, w) ∈ l := by
  obtain ⟨front, back, rfl, -⟩ := List.lookup_eq_some_iff.mp found
  simp

theorem sufijos_of_ordenado (ordered : Ordenado nombres g) : Sufijos nombres g := by
  intro sufijo some_
  rw [GanadoresDelPerfil.conSufijo, if_neg some_]
  have own {k : Clave} {w : GanadorDeRuta} (found : g.ganadores.lookup k = some w) :
      k = clave nombres w.rutaVirtual := ordered.2 _ (mem_of_lookup found)
  refine ⟨_, rfl, ?_, ?_⟩
  · apply List.Nodup.filterMap
    · intro k k' w found found'
      rw [own found, own found']
    · exact List.Nodup.filter _ ((List.mergeSort_perm _ _).nodup_iff.mpr ordered.1)
  · intro w
    rw [List.mem_filterMap]
    constructor
    · intro ⟨k, mem, found⟩
      have ends := (List.mem_filter.mp mem).2
      obtain rfl := own found
      exact ⟨found, List.isSuffixOf_iff_suffix.mp ends⟩
    · intro ⟨found, ends⟩
      refine ⟨clave nombres w.rutaVirtual, List.mem_filter.mpr ⟨?_, List.isSuffixOf_iff_suffix.mpr ends⟩, found⟩
      exact (List.mergeSort_perm _ _).mem_iff.mpr (List.mem_map_of_mem (mem_of_lookup found))

/-! The layers of a run -/

theorem capas_distintas {modsDir dataRoot : Nodo} (mods : modsDir.Distinct nombres.fold)
    (data : dataRoot.Distinct nombres.fold) (cuales : List Capa) :
    ∀ capa ∈ capasDe nombres modsDir dataRoot cuales, capa.2.Distinct nombres.fold := by
  intro capa mem
  obtain ⟨c, -, found⟩ := List.mem_filterMap.mp mem
  obtain ⟨nodo, there, rfl⟩ := Option.map_eq_some_iff.mp found
  cases c with
  | mod nombre => exact child_distinct mods there
  | overwrite => exact child_distinct data there

theorem sin_repetir {vistos enabled : List String} (ran : exigirSinRepetir nombres vistos enabled = .ok ()) :
    enabled.Nodup ∧ ∀ m ∈ enabled, nombres.lower m ∉ vistos := by
  induction enabled generalizing vistos with
  | nil => exact ⟨List.nodup_nil, by simp⟩
  | cons nombre enabled ih =>
    rw [exigirSinRepetir] at ran
    obtain ⟨_, _, ran⟩ := bind_ok ran
    split at ran
    · cases ran
    · next fresh =>
      obtain ⟨nodup, others⟩ := ih ran
      refine ⟨List.nodup_cons.mpr ⟨fun mem => others nombre mem List.mem_cons_self, nodup⟩, ?_⟩
      intro m mem
      rcases List.mem_cons.mp mem with rfl | later
      · exact fresh
      · exact fun old => others m later (List.mem_cons_of_mem _ old)

/-- No two layers have the same label. -/
theorem etiquetas_distintas {modsDir dataRoot : Nodo} {enabled : List String} (nodup : enabled.Nodup) :
    ((capasDe nombres modsDir dataRoot (enabled.map .mod ++ [.overwrite])).map Prod.fst).Nodup := by
  have labels (cuales : List Capa) :
      ((capasDe nombres modsDir dataRoot cuales).map Prod.fst).Sublist cuales := by
    induction cuales with
    | nil => exact List.Sublist.refl []
    | cons c cuales ih =>
      cases found : carpetaDe nombres modsDir dataRoot c with
      | none => simpa [capasDe, found] using ih.cons c
      | some nodo => simpa [capasDe, found] using ih
  apply List.Nodup.sublist (labels _)
  rw [List.nodup_append]
  refine ⟨nodup.map fun a b same => Capa.mod.inj same, by simp, ?_⟩
  intro c mem c' mem' same
  obtain ⟨m, -, rfl⟩ := List.mem_map.mp mem
  cases List.mem_singleton.mp mem'
  cases same

/-- What the index is, whatever the prefix. -/
structure Indexado (nombres : Nombres) (capas : List (Capa × Nodo)) (prefijo : List String)
    (maximo : Int) (g : GanadoresDelPerfil) : Prop where
  labels : (capas.map Prod.fst).Nodup
  ordered : Ordenado nombres g
  complete : Completo nombres capas prefijo maximo
  elige : ∀ k, (∃ capa ruta a, LastWith (Alcanza nombres prefijo k) capas capa ∧
      Seen.file ruta a ∈ archivosDe nombres capa.2 prefijo ∧ ruta.any (esOculto nombres) = false ∧
      clave nombres (prefijo ++ ruta) = k ∧ g.ganadores.lookup k = some ⟨prefijo ++ ruta, capa.1, a⟩) ∨
    ((∀ capa ∈ capas, ¬Alcanza nombres prefijo k capa) ∧ g.ganadores.lookup k = none)

theorem indexado_of_ok {modsDir dataRoot : Nodo} {enabled : List String} {texto_ : String} {maximo : Int}
    (ran : indexarGanadores nombres modsDir dataRoot enabled texto_ maximo = .ok g) :
    ∃ prefijo, exigirPrefijo texto_ = .ok prefijo ∧
      Indexado nombres (capasDe nombres modsDir dataRoot (enabled.map .mod ++ [.overwrite])) prefijo maximo g := by
  simp only [indexarGanadores] at ran
  obtain ⟨tope, cap, ran⟩ := bind_ok ran
  obtain ⟨prefijo, onPrefix, ran⟩ := bind_ok ran
  obtain ⟨_, _, ran⟩ := bind_ok ran
  obtain ⟨_, _, ran⟩ := bind_ok ran
  obtain ⟨mods, onEnabled, ran⟩ := bind_ok ran
  obtain ⟨capas, onMods, ran⟩ := bind_ok ran
  obtain ⟨overwrite, onOverwrite, ran⟩ := bind_ok ran
  obtain ⟨r, walked, ran⟩ := bind_ok ran
  obtain rfl := Except.ok.inj ran
  have positive : tope = maximo ∧ (0 : Int) ≤ tope := by
    unfold exigirTope at cap
    split at cap
    · cases cap
    · next above =>
      obtain rfl := Except.ok.inj cap
      exact ⟨rfl, by omega⟩
  have nodup : enabled.Nodup := by
    simp only [exigirEnabled] at onEnabled
    obtain ⟨_, distinct, _⟩ := bind_ok onEnabled
    exact (sin_repetir distinct).1
  obtain rfl := exigirEnabled_ok onEnabled
  have all : capas ++ overwrite = capasDe nombres modsDir dataRoot (mods.map .mod ++ [.overwrite]) := by
    rw [capasDe, List.filterMap_append, ← capasDe, ← capasDe, ← (capas_de_mods dataRoot (mapM_ok onMods)).1,
      ← (capaOverwrite_ok modsDir onOverwrite).1]
  rw [all] at walked
  have empty : Ordenado nombres ⟨[]⟩ := ⟨List.nodup_nil, by simp⟩
  obtain ⟨ordered, readable, count, bound⟩ := indice_completo walked empty positive.2
  refine ⟨prefijo, onPrefix, etiquetas_distintas nodup, ordered, ⟨readable, ?_⟩, indice_elige walked⟩
  rw [← positive.1]
  rw [count] at bound
  exact le_trans (le_of_eq (Int.zero_add _).symm) bound

theorem ganadorDe_ok {ruta : String} {partes : List String} (parsed : partesDe ruta = .ok partes)
    {found : Option GanadorDeRuta} :
    g.ganadorDe nombres ruta = .ok found ↔ g.ganadores.lookup (clave nombres partes) = found := by
  simp only [GanadoresDelPerfil.ganadorDe, parsed, bind, Except.bind, pure, Except.pure, Except.ok.injEq,
    GanadoresDelPerfil.ganador]

/-- One path of the prefix. -/
theorem acierta_iff {maximo : Int} (distinct : ∀ capa ∈ capas, capa.2.Distinct nombres.fold)
    (indexed : Indexado nombres capas prefijo maximo g) (k : Clave) :
    Acierta nombres capas k (g.ganadores.lookup k) ↔
      ∀ capa, LastWith (fun c => Alcanza nombres prefijo k c ∨ Tiene nombres k c) capas capa →
        Alcanza nombres prefijo k capa ∧ PrefijoPropio nombres prefijo capa := by
  constructor
  · intro right capa last
    rcases indexed.elige k with ⟨reached, ruta, a, lastReached, seen, visible, same, found⟩ | ⟨none_, found⟩
    · rw [found] at right
      obtain ⟨having, lastHaving, label, -, contained⟩ := right
      have one : reached = having :=
        List.inj_on_of_nodup_map indexed.labels lastReached.mem lastHaving.mem label
      subst one
      have both : capa = reached := last.unique (lastReached.or lastHaving)
      subst both
      exact ⟨lastReached.holds, propio_of_contiene contained⟩
    · rw [found] at right
      rcases last.holds with reaches | has
      · exact absurd reaches (none_ capa last.mem)
      · exact absurd has (right capa last.mem)
  · intro faithful
    by_cases any : ∃ capa ∈ capas, Alcanza nombres prefijo k capa ∨ Tiene nombres k capa
    · obtain ⟨capa, last⟩ := LastWith.exists_of_any any
      obtain ⟨reaches, own⟩ := faithful capa last
      have lastReaches : LastWith (Alcanza nombres prefijo k) capas capa :=
        last.mono (fun _ _ there => Or.inl there) reaches
      rcases indexed.elige k with ⟨reached, ruta, a, lastReached, seen, visible, same, found⟩ | ⟨none_, found⟩
      · have one : reached = capa := lastReached.unique lastReaches
        subst one
        have contained := contiene_of_walk (distinct reached last.mem) own seen visible
        rw [found]
        exact ⟨reached, last.mono (fun _ _ there => Or.inr there) ⟨_, a, same, contained⟩, rfl, same, contained⟩
      · exact absurd reaches (none_ capa last.mem)
    · have nobody : ∀ capa ∈ capas, ¬Alcanza nombres prefijo k capa ∧ ¬Tiene nombres k capa :=
        fun capa mem => ⟨fun there => any ⟨capa, mem, Or.inl there⟩, fun there => any ⟨capa, mem, Or.inr there⟩⟩
      rcases indexed.elige k with ⟨reached, -, -, lastReached, -⟩ | ⟨none_, found⟩
      · exact absurd lastReached.holds (nobody reached lastReached.mem).1
      · rw [found]
        exact fun capa mem => (nobody capa mem).2

theorem correcto_iff {maximo : Int} (distinct : ∀ capa ∈ capas, capa.2.Distinct nombres.fold)
    (indexed : Indexado nombres capas prefijo maximo g) :
    Correcto nombres capas prefijo g ↔ PrefijoFiel nombres capas prefijo := by
  constructor
  · intro right ruta partes parsed under
    exact (acierta_iff distinct indexed _).mp (right ruta partes _ parsed under ((ganadorDe_ok parsed).mpr rfl))
  · intro faithful ruta partes found parsed under asked
    rw [← (ganadorDe_ok parsed).mp asked]
    exact (acierta_iff distinct indexed _).mpr (faithful ruta partes parsed under)

/-- Where names are compared as `str.lower` does, the prefix is visible and no layer has it behind
a link, the condition holds. -/
theorem fiel_of_visible (names : ∀ a b, nombres.fold a = nombres.fold b ↔ nombres.lower a = nombres.lower b)
    (visible : prefijo.any (esOculto nombres) = false)
    (own : ∀ capa ∈ capas, (capa.2.descend nombres.fold prefijo).isSome →
      (capa.2.own? nombres.fold prefijo).isSome) : PrefijoFiel nombres capas prefijo := by
  have keys (p q : List String) : clave nombres p = clave nombres q ↔ p.map nombres.fold = q.map nombres.fold := by
    induction p generalizing q with
    | nil => cases q <;> simp [clave]
    | cons a p ih =>
      cases q with
      | nil => simp [clave]
      | cons b q =>
        have rest := ih q
        simp only [clave] at rest
        simp only [clave, List.map_cons, List.cons.injEq, names, rest]
  intro ruta partes parsed under capa last
  rcases last.holds with ⟨a, camino, seen, rest⟩ | ⟨camino, a, same, contained⟩
  · refine ⟨⟨a, camino, seen, rest⟩, visible, own capa last.mem ?_⟩
    unfold archivosDe at seen
    split at seen
    · cases seen
    · next base there => rw [there]; rfl
  · rw [← same] at under
    obtain ⟨resto, split_⟩ := under
    have cut : camino = camino.take prefijo.length ++ camino.drop prefijo.length :=
      (List.take_append_drop _ _).symm
    have front : clave nombres (camino.take prefijo.length) = clave nombres prefijo := by
      have taken := congrArg (List.take prefijo.length) split_
      rw [clave, clave, List.take_append_of_le_length (by simp), List.take_of_length_le (by simp)] at taken
      rw [clave, clave, taken, List.map_take]
    obtain ⟨owned, shown⟩ := contained
    rw [cut, own_append, own_congr ((keys _ _).mp front)] at owned
    obtain ⟨base, here, below⟩ := Option.bind_eq_some_iff.mp owned
    obtain ⟨q, sameNames, seen⟩ := walk_of_own below
    have sameKeys : clave nombres (prefijo ++ q) = clave nombres partes := by
      rw [← same, cut]
      simp only [clave, List.map_append] at front ⊢
      rw [front]
      congr 1
      exact (keys _ _).mpr sameNames
    have hidden (p : List String) : p.any (esOculto nombres) =
        (clave nombres p).any fun name => sufijoOculto.toList.isSuffixOf name.toList := by
      rw [clave, List.any_map]
      rfl
    refine ⟨⟨a, q, ?_, ?_, sameKeys⟩, visible, by rw [here]; rfl⟩
    · rw [archivosDe, descend_of_own here]
      exact seen
    · rw [cut, List.any_append, Bool.or_eq_false_iff] at shown
      rw [hidden, (keys _ _).mpr sameNames, ← hidden]
      exact shown.2

def minusculas (s : String) : String := String.ofList (s.toList.map Char.toLower)

def nombresDeWindows : Nombres := ⟨minusculas, minusculas⟩

def unaTextura : Archivo := ⟨true, 1, 7, [0x44]⟩

def conUnaCarpeta (nombre : String) (nodo : Nodo) : Nodo := .folder 0 (.cons nombre nodo .nil)

/-- One mod whose only texture is in a hidden folder. -/
def modsOcultos : Nodo :=
  conUnaCarpeta "Base" (conUnaCarpeta "Textures" (conUnaCarpeta "x.mohidden"
    (conUnaCarpeta "a_n.dds" (.file unaTextura))))

def dataConOverwrite : Nodo :=
  conUnaCarpeta "overwrite" (conUnaCarpeta "Textures" (conUnaCarpeta "b.dds" (.file unaTextura)))

end Ganadores
