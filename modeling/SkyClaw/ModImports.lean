import Mathlib.Data.List.Flatten
import Mathlib.Data.List.Induction
import Mathlib.Logic.Function.Basic

set_option linter.all false

/-!
What one entry of the load order becomes, the table of mods under upserts, and
the batches that the producer cuts the load order into.
-/
namespace SyncEngine

abbrev Texto := List Char

/-- A mod of the modlist, and whether it is enabled. -/
abbrev Entrada := Texto × Bool

/-- The methods of `str`, and `int`, which raises where it answers nothing. -/
structure Python where
  strip : Texto → Texto
  isdigit : Texto → Bool
  int : Texto → Option Int

/-- The fields of an answer, as `str`; `modId` is empty where `int(info["mod_id"])` raises. -/
structure Info where
  modId : Option Int
  name : Option Texto
  version : Option Texto
  author : Option Texto
  categoryId : Option Texto
  downloadUrl : Option Texto

inductive Consulta where
  | info (i : Info)
  /-- Nothing, or no `mod_id`. -/
  | vacia
  /-- One of the exceptions that skip the mod. -/
  | rechazo (exc : Texto)
  | excepcion

structure Entorno where
  python : Python
  /-- The `modid` of the `meta.ini` of a mod, where it has one that can be read. -/
  modid : Texto → Option Texto
  fetchModInfo : Int → Consulta
  enrichRemote : Bool

def assertSafeComponent (name : Texto) : Bool :=
  !name.isEmpty && name ≠ ['.'] && name ≠ ['.', '.'] && !name.contains '/' && !name.contains '\\' &&
    name.all fun c => 0x20 ≤ c.toNat

/-- `none` where it raises. -/
def extractNexusId (env : Entorno) (modName : Texto) : Option (Option Int) :=
  if assertSafeComponent modName then
    let parts := (modName.splitOn '-').map env.python.strip
    match parts.find? fun part => env.python.isdigit part && decide (2 ≤ part.length) with
    | some part => (env.python.int part).map some
    | none =>
      match env.modid modName with
      | none => some none
      | some modid =>
        if env.python.isdigit modid && modid ≠ ['0'] then (env.python.int modid).map some
        else some none
  else some none

/-- The columns that an upsert writes. -/
structure Fila where
  nexusId : Int
  name : Texto
  version : Texto
  author : Texto
  category : Texto
  downloadUrl : Texto
  installed : Bool
  enabledInVfs : Bool
  deriving DecidableEq

inductive Salida where
  | salta
  | falla (error : Texto)
  | importa (fila : Fila) (syncStatus syncDetail : Texto)
  | excepcion

/-- The body of the loop of `_process_batch_inner`. -/
def procesarMod (env : Entorno) (e : Entrada) : Salida :=
  match extractNexusId env e.1 with
  | none => .excepcion
  | some none => .salta
  | some (some nexusId) =>
    if env.enrichRemote then
      match env.fetchModInfo nexusId with
      | .rechazo exc => .falla (e.1 ++ ':' :: ' ' :: exc)
      | .excepcion => .excepcion
      | .vacia => .salta
      | .info info =>
        match info.modId with
        | none => .excepcion
        | some modId =>
          .importa ⟨modId, info.name.getD e.1, info.version.getD [], info.author.getD [],
            info.categoryId.getD [], info.downloadUrl.getD [], true, e.2⟩ "ok".toList e.1
    else
      .importa ⟨nexusId, e.1, [], [], [], [], true, e.2⟩ "degraded".toList
        (e.1 ++ ": identidad local importada sin metadatos Nexus".toList)

def fila? (env : Entorno) (e : Entrada) : Option Fila :=
  match procesarMod env e with
  | .importa fila _ _ => some fila
  | _ => none

def filasDe (env : Entorno) (lote : List Entrada) : List Fila := lote.filterMap (fila? env)

/-! The table -/

/-- A row without its id and its timestamps. -/
structure Mod where
  name : Texto
  version : Texto
  author : Texto
  category : Texto
  downloadUrl : Texto
  installed : Bool
  enabledInVfs : Bool
  installPath : Texto
  deriving DecidableEq

/-- The table by `nexus_id`, which is unique. -/
abbrev Tabla := Int → Option Mod

/-- What the upsert leaves of the row that was there. -/
def Fila.sobre (f : Fila) (old : Option Mod) : Mod :=
  ⟨f.name, f.version, f.author, f.category, f.downloadUrl, f.installed, f.enabledInVfs,
    (old.map Mod.installPath).getD []⟩

def upsert (t : Tabla) (f : Fila) : Tabla := Function.update t f.nexusId (some (f.sobre (t f.nexusId)))

def upsertModsBatch (t : Tabla) (filas : List Fila) : Tabla := filas.foldl upsert t

/-- The last row of a mod. -/
def ultima (k : Int) (filas : List Fila) : Option Fila := filas.findRev? fun f => f.nexusId = k

theorem ultima_append (k : Int) (filas otras : List Fila) :
    ultima k (filas ++ otras) = (ultima k otras).or (ultima k filas) := by
  simp [ultima, List.findRev?_eq_find?_reverse, List.find?_append]

theorem ultima_concat (k : Int) (filas : List Fila) (f : Fila) :
    ultima k (filas ++ [f]) = if f.nexusId = k then some f else ultima k filas := by
  rw [ultima_append]
  by_cases same : f.nexusId = k
  · simp [ultima, same]
  · simp [ultima, same]

/-- Only the last row of a mod counts. -/
theorem upsertModsBatch_apply (t : Tabla) (filas : List Fila) (k : Int) :
    upsertModsBatch t filas k =
      match ultima k filas with
      | some f => some (f.sobre (t k))
      | none => t k := by
  have kept : ∀ (f : Fila) (old : Option Mod) (g : Fila),
      f.sobre (some (g.sobre old)) = f.sobre old := fun _ _ _ => rfl
  induction filas using List.reverseRecOn with
  | nil => rfl
  | append_singleton filas f ih =>
    rw [upsertModsBatch, List.foldl_append, List.foldl_cons, List.foldl_nil, ← upsertModsBatch,
      ultima_concat, upsert]
    by_cases same : f.nexusId = k
    · subst same
      rw [Function.update_self, ih, if_pos rfl]
      cases ultima f.nexusId filas with
      | none => rfl
      | some g => exact congrArg some (kept f _ g)
    · rw [Function.update_of_ne (Ne.symm same), ih, if_neg same]

theorem upsertModsBatch_append (t : Tabla) (filas otras : List Fila) :
    upsertModsBatch t (filas ++ otras) = upsertModsBatch (upsertModsBatch t filas) otras :=
  List.foldl_append

theorem upsertModsBatch_congr {filas otras : List Fila} (t : Tabla)
    (same : ∀ k, ultima k filas = ultima k otras) :
    upsertModsBatch t filas = upsertModsBatch t otras := by
  funext k
  rw [upsertModsBatch_apply, upsertModsBatch_apply, same k]

theorem ultima_flatten {lotes : List (List Fila)} {k : Int} {f : Fila}
    (last : ultima k lotes.flatten = some f) : ∃ b ∈ lotes, ultima k b = some f := by
  induction lotes with
  | nil => cases last
  | cons a lotes ih =>
    rw [List.flatten_cons, ultima_append, Option.or_eq_some_iff] at last
    rcases last with later | ⟨_, first⟩
    · obtain ⟨b, mem, last⟩ := ih later
      exact ⟨b, List.mem_cons_of_mem _ mem, last⟩
    · exact ⟨a, List.mem_cons_self, first⟩

theorem ultima_of_mem {lotes : List (List Fila)} {k : Int} {b : List Fila} {f : Fila} (mem : b ∈ lotes)
    (last : ultima k b = some f) : ∃ g, ultima k lotes.flatten = some g := by
  induction lotes with
  | nil => cases mem
  | cons a lotes ih =>
    rw [List.flatten_cons, ultima_append]
    cases later : ultima k lotes.flatten with
    | some g => exact ⟨g, rfl⟩
    | none =>
      rcases List.mem_cons.mp mem with rfl | inside
      · exact ⟨f, last⟩
      · obtain ⟨g, found⟩ := ih inside
        rw [later] at found
        cases found

/-! The batches -/

/-- The batches that are still to come: `batch`, which is being filled, and the mods to read. -/
def lotesDesde (batchSize : Int) : List Entrada → List Entrada → List (List Entrada)
  | batch, [] => if batch = [] then [] else [batch]
  | batch, e :: resto =>
    if batchSize ≤ (batch ++ [e]).length then (batch ++ [e]) :: lotesDesde batchSize [] resto
    else lotesDesde batchSize (batch ++ [e]) resto

theorem lotesDesde_flatten (batchSize : Int) (batch resto : List Entrada) :
    (lotesDesde batchSize batch resto).flatten = batch ++ resto := by
  induction resto generalizing batch with
  | nil =>
    rw [lotesDesde]
    split
    · next empty => rw [empty]; rfl
    · simp
  | cons e resto ih =>
    rw [lotesDesde]
    split
    · rw [List.flatten_cons, ih]
      simp
    · rw [ih]
      simp

theorem filasDe_flatten (env : Entorno) (lotes : List (List Entrada)) :
    filasDe env lotes.flatten = (lotes.map (filasDe env)).flatten := by
  induction lotes with
  | nil => rfl
  | cons lote lotes ih =>
    rw [List.flatten_cons, List.map_cons, List.flatten_cons, ← ih]
    exact List.filterMap_append

end SyncEngine
