import Mathlib.Data.List.Dedup
import SkyClaw.Effects
import SkyClaw.FomodResolution
import SkyClaw.PathStores

set_option linter.all false

/-!
The installation of a FOMOD, `local/fomod/installer.py`: the files that the
resolver chose are copied over a copy of the installed folder, and the result takes
its place. The file system has folders and files and no links; the mods folder and
the folders above it exist.
-/
namespace FomodInstaller
open Effects PathStores FomodResolver

abbrev Texto := List Char

abbrev Ruta := List Texto

inductive Entrada (C : Type) where
  | carpeta
  | archivo (c : C)
  deriving DecidableEq

abbrev Disco (C : Type) := Store Texto (Entrada C)

/-- `is_dir()` -/
def esCarpeta {C : Type} : Option (Entrada C) → Bool
  | some .carpeta => true
  | _ => false

inductive Excepcion where
  | osError
  | cancelledError
  | pathViolationError
  | valueError
  deriving DecidableEq

/-! `path_validator.py` -/

/-- `assert_safe_component` -/
def assertSafeComponent (name : Texto) : Except Excepcion Texto :=
  if name = [] ∨ name = ['.'] ∨ name = ['.', '.'] ∨ name.any (fun c => c = '/' || c = '\\' || c.toNat < 0x20)
  then .error .pathViolationError else .ok name

/-- The parts of a path, as `pathlib` reads them. -/
def partes (t : Texto) : List Texto := (t.splitOn '/').filter fun p => p ≠ [] ∧ p ≠ ['.']

/-- `resolve()`, one part at a time. -/
def avanza (ruta : Ruta) (parte : Texto) : Ruta :=
  if parte = ['.', '.'] then ruta.dropLast else ruta ++ [parte]

/-- The candidate, when it stays inside. -/
def contenida (root candidate : Ruta) : Except Excepcion Ruta :=
  if root <+: candidate then .ok candidate else .error .pathViolationError

/-- `safe_join`; an absolute path takes the place of the root, and a NUL is refused by the system. -/
def safeJoin (root : Ruta) (untrusted : Texto) : Except Excepcion Ruta :=
  if '\x00' ∈ untrusted then .error .valueError
  else contenida root ((partes untrusted).foldl avanza (if untrusted.head? = some '/' then [] else root))

/-- `safe_join` with a path that a listing gave. -/
def safeJoinRel (root rel : Ruta) : Except Excepcion Ruta := contenida root (rel.foldl avanza root)

/-! What an installation meets -/

/-- What the FOMOD of the archive asks for. -/
inductive Configuracion where
  | ilegible (x : Excepcion)
  | errorDeParseo
  | pendiente
  | archivos (files : List FileInstall)

variable {C : Type}

/-- An installation and what happens to it: one operation at most fails, of which `resto` is what
it leaves in its folder, and any wait may be followed by a cancellation. The clean-ups may fail
besides, each with what it leaves. -/
structure Escena (C : Type) where
  disco : Disco C
  mods : Ruta
  /-- `config.module_name or fallback_name` -/
  nombre : Texto
  tmp : Ruta
  staging : Texto
  respaldo : Texto
  extraido : Disco C
  extraccion : Except Excepcion Unit
  /-- `fomod_xml_path.parent.parent`, below the extraction. -/
  raiz : Ruta
  configuracion : Configuracion
  falla : Option Nat
  resto : Disco C
  cancela : Nat → Bool
  cancelaPromocion : Bool
  cancelaLimpieza : Bool
  restoDeStaging : Option (Disco C)
  restoDeRespaldo : Option (Disco C)
  restoDeTmp : Option (Disco C)
  carpetas : ∀ r, r <+: mods → disco.find r = some .carpeta
  cerrado : disco.find (mods ++ [nombre]) = none → ∀ r, disco.find (mods ++ [nombre] ++ r) = none
  stagingLibre : ∀ r, disco.find (mods ++ [staging] ++ r) = none
  respaldoLibre : ∀ r, disco.find (mods ++ [respaldo] ++ r) = none
  otroStaging : staging ≠ nombre
  otroRespaldo : respaldo ≠ nombre
  distintos : staging ≠ respaldo
  aparte : ¬tmp <+: mods ∧ ¬mods <+: tmp

structure Mundo (C : Type) where
  disco : Disco C
  hechos : Nat
  esperas : Nat

abbrev Prog (C α : Type) := Effect (Mundo C) Excepcion α

namespace Escena
variable (e : Escena C)

def destino : Ruta := e.mods ++ [e.nombre]

def zonaStaging : Ruta := e.mods ++ [e.staging]

def zonaRespaldo : Ruta := e.mods ++ [e.respaldo]

def inicio : Mundo C := ⟨e.disco, 0, 0⟩

end Escena

section
variable {α : Type}

/-- One operation on the disk. -/
abbrev Operacion (C α : Type) := Disco C → Except Excepcion α × Disco C

/-- An operation, or its failure; a rename has no folder to leave half done. -/
def paso (e : Escena C) (zona : Option Ruta) (op : Operacion C α) : Prog C α := fun w =>
  if e.falla = some w.hechos then
    (.error .osError, ⟨match zona with
      | some z => w.disco.replace z e.resto
      | none => w.disco, w.hechos + 1, w.esperas⟩)
  else ((op w.disco).1, ⟨(op w.disco).2, w.hechos + 1, w.esperas⟩)

/-- `esperar_hilo_ininterrumpible`: the thread ends before the cancellation is raised. -/
def esperaSi (cancela : Bool) (m : Prog C α) : Prog C α := do
  let a ← m
  if cancela then stop .cancelledError else pure a

def espera (e : Escena C) (m : Prog C α) : Prog C α := fun w =>
  esperaSi (e.cancela w.esperas) m ⟨w.disco, w.hechos, w.esperas + 1⟩

end

/-! The operations -/

/-- Each of the folders is made, unless it is there. -/
def crea : List Ruta → Disco C → Except Excepcion Unit × Disco C
  | [], d => (.ok (), d)
  | r :: rs, d => match d.find r with
    | some .carpeta => crea rs d
    | none => crea rs (d.put r .carpeta)
    | some (.archivo _) => (.error .osError, d)

/-- `makedirs(ruta, exist_ok=True)` -/
def makedirs (ruta : Ruta) : Operacion C Unit := crea ruta.inits

/-- `shutil.copy2`; onto a folder it copies into it, under the name of the source. -/
def copy2 (src dst : Ruta) : Operacion C Unit := fun d =>
  match d.find src, d.find dst with
  | some (.archivo c), some .carpeta =>
    let dentro := dst ++ [src.getLastD []]
    if esCarpeta (d.find dentro) then (.error .osError, d) else (.ok (), d.put dentro (.archivo c))
  | some (.archivo c), _ => (.ok (), d.put dst (.archivo c))
  | _, _ => (.error .osError, d)

/-- `os.replace` of something to a place that is free. -/
def rename (src dst : Ruta) : Operacion C Unit := fun d =>
  if d.find src = none ∨ d.find dst ≠ none then (.error .osError, d) else (.ok (), d.move src dst)

def mkdtemp (ruta : Ruta) : Operacion C Unit := fun d => (.ok (), d.replace ruta [([], .carpeta)])

/-- `copytree(src, dst, dirs_exist_ok=True)` -/
def copytree (src dst : Ruta) : Operacion C Unit := fun d => (.ok (), d.copy src dst)

/-- `rmtree_link_aware` with its `OSError` suppressed. -/
def limpia (ruta : Ruta) (resto : Option (Disco C)) : Prog C Unit := fun w =>
  (.ok (), { w with disco := match resto with
    | none => w.disco.remove ruta
    | some r => w.disco.replace ruta r })

/-! `_copy_resolved_files` -/

/-- The files that `rglob` finds below a folder. -/
def hijos (d : Disco C) (src : Ruta) : List Ruta :=
  ((d.below src).map Prod.fst).dedup.filter fun rel => match d.find (src ++ rel) with
    | some (.archivo _) => rel ≠ []
    | _ => false

/-- What was copied: the destination of the entry, and the path below it. -/
abbrev Copiado := Texto × Ruta

def destRel (f : FileInstall) : Texto :=
  if f.destination.toList = [] then f.source.toList else f.destination.toList

section
variable (e : Escena C)

/-- A file at its destination, which is in the staging folder. A wait for the folders that is
cancelled may leave them to be made later; they are in the staging folder too. -/
def copiaUno (src dest : Ruta) : Prog C Unit := do
  espera e (paso e (some e.zonaStaging) (makedirs dest.dropLast))
  espera e (paso e (some e.zonaStaging) (copy2 src dest))

def copiaHijos (src dest : Ruta) (nombre : Texto) : List Ruta → Prog C (List Copiado)
  | [] => pure []
  | rel :: rels =>
    match safeJoinRel dest rel with
    | .error _ => copiaHijos src dest nombre rels
    | .ok childDest => do
      copiaUno e (src ++ rel) childDest
      let copiados ← copiaHijos src dest nombre rels
      return (nombre, rel) :: copiados

/-- What an entry copies, once both paths are known to stay inside. -/
def copiaDentro (src dest : Ruta) (nombre : Texto) : Prog C (List Copiado) := do
  let d ← look (·.disco)
  match d.find src with
  | some .carpeta => copiaHijos e src dest nombre (hijos d src)
  | some (.archivo _) => do
    copiaUno e src dest
    return [(nombre, [])]
  | none => return []

/-- One entry of the manifest; one whose paths leave their folders is skipped. -/
def copiaEntrada (contentRoot modDest : Ruta) (f : FileInstall) : Prog C (List Copiado) :=
  match safeJoin contentRoot f.source.toList with
  | .error .pathViolationError => pure []
  | .error x => stop x
  | .ok src => match safeJoin modDest (destRel f) with
    | .error .pathViolationError => pure []
    | .error x => stop x
    | .ok dest => copiaDentro e src dest (destRel f)

def copyResolvedFiles (contentRoot modDest : Ruta) : List FileInstall → Prog C (List Copiado)
  | [] => pure []
  | f :: files => do
    let primeros ← copiaEntrada e contentRoot modDest f
    let demas ← copyResolvedFiles contentRoot modDest files
    return primeros ++ demas

/-! `_promover_staging` -/

def cuando (b : Bool) (m : Prog C Unit) : Prog C Unit := if b then m else pure ()

/-- The end of the promotion, when the staging folder could be moved and when it could not. -/
def acabaPromocion (teniaDestino : Bool) : Except Excepcion Unit → Prog C Unit
  | .ok () => cuando teniaDestino (limpia e.zonaRespaldo e.restoDeRespaldo)
  | .error x => do
    let d ← look (·.disco)
    cuando (teniaDestino && (d.find e.zonaRespaldo).isSome) (paso e none (rename e.zonaRespaldo e.destino))
    stop x

def promoverStaging : Prog C Unit := do
  let d ← look (·.disco)
  let teniaDestino := (d.find e.destino).isSome
  cuando teniaDestino (paso e none (rename e.destino e.zonaRespaldo))
  let movido ← attempt (paso e none (rename e.zonaStaging e.destino))
  acabaPromocion e teniaDestino movido

/-! `_install_fomod` and `install` -/

structure InstallResult where
  filesCopied : List Copiado
  pendiente : Bool
  error : Bool
  installed : Bool
  deriving DecidableEq

def InstallResult.sinInstalar : InstallResult := ⟨[], false, false, false⟩

/-- The copy of the installed folder, the files over it, and the promotion. -/
def prepara (files : List FileInstall) : Prog C (List Copiado) := do
  let d ← look (·.disco)
  cuando (esCarpeta (d.find e.destino))
    (espera e (paso e (some e.zonaStaging) (copytree e.destino e.zonaStaging)))
  let copied ← copyResolvedFiles e (e.tmp ++ e.raiz) e.zonaStaging files
  cuando (copied ≠ []) (esperaSi e.cancelaPromocion (promoverStaging e))
  return copied

/-- The `finally` of the staging folder. -/
def limpiaStaging : Prog C Unit := do
  let d ← look (·.disco)
  cuando (d.find e.zonaStaging).isSome (espera e (limpia e.zonaStaging e.restoDeStaging))

def instalaArchivos (files : List FileInstall) : Prog C InstallResult := do
  let _modDest ← ofExcept (safeJoin e.mods e.nombre)
  paso e (some e.zonaStaging) (mkdtemp e.zonaStaging)
  let hecho ← attempt (prepara e files)
  limpiaStaging e
  let copied ← ofExcept hecho
  return { filesCopied := copied, pendiente := false, error := false, installed := copied ≠ [] }

def installFomod : Prog C InstallResult :=
  match e.configuracion with
  | .ilegible x => stop x
  | .errorDeParseo => pure { InstallResult.sinInstalar with error := true }
  | .pendiente => do
    let _ ← ofExcept (assertSafeComponent e.nombre)
    espera e (pure ())
    return { InstallResult.sinInstalar with pendiente := true }
  | .archivos files => do
    let _ ← ofExcept (assertSafeComponent e.nombre)
    espera e (pure ())
    instalaArchivos e files

/-- The extraction, in its own folder. -/
def extrae : Prog C Unit :=
  espera e (paso e (some e.tmp) fun d => (e.extraccion, d.replace e.tmp e.extraido))

def trasExtraer : Except Excepcion Unit → Prog C InstallResult
  | .error .pathViolationError => stop .pathViolationError
  | .error .cancelledError => stop .cancelledError
  | .error _ => pure { InstallResult.sinInstalar with error := true }
  | .ok () => installFomod e

def cuerpo : Prog C InstallResult := do
  let extraccion ← attempt (extrae e)
  trasExtraer e extraccion

def install : Prog C InstallResult := do
  paso e (some e.tmp) (mkdtemp e.tmp)
  let hecho ← attempt (cuerpo e)
  esperaSi e.cancelaLimpieza (limpia e.tmp e.restoDeTmp)
  ofExcept hecho

end

/-! What it is to be installed -/

/-- The copy `c` stands at `q`, and the folders above it are there. -/
def escribe (t : Ruta → Option (Entrada C)) (q : Ruta) (c : C) (r : Ruta) : Option (Entrada C) :=
  if r = q then some (.archivo c) else if r <+: q then some .carpeta else t r

/-- A tree with some copies over it: at each destination the last of its copies. -/
def superpuesto (base : Ruta → Option (Entrada C)) (copias : List (Ruta × C)) (r : Ruta) :
    Option (Entrada C) :=
  match copias.reverse.find? fun x => x.1 = r with
  | some x => some (.archivo x.2)
  | none => if copias.any fun x => r <+: x.1 then some .carpeta else base r

/-- No file is to be copied to a place that is or becomes a folder. -/
def SinChoque (base : Ruta → Option (Entrada C)) (copias : List (Ruta × C)) : Prop :=
  ∀ x ∈ copias, base x.1 ≠ some .carpeta ∧ ∀ y ∈ copias, x.1 <+: y.1 → x.1 = y.1

/-- The copies of the files below a folder, `s` in the archive and `dest` in the staging folder. -/
def copiasDeHijos (x : Disco C) (raiz s dest : Ruta) (rels : List Ruta) : List (Ruta × C) :=
  rels.filterMap fun rel => match safeJoinRel dest rel, x.find (s ++ rel) with
    | .ok childDest, some (.archivo c) => some (childDest.drop raiz.length, c)
    | _, _ => none

namespace Escena
variable (e : Escena C)

/-- The copies of an entry whose paths stay inside. -/
def copiasDentro (src dest : Ruta) : List (Ruta × C) :=
  let s := src.drop e.tmp.length
  match e.extraido.find s with
  | some (.archivo c) => [(dest.drop e.zonaStaging.length, c)]
  | some .carpeta => copiasDeHijos e.extraido e.zonaStaging s dest (hijos e.extraido s)
  | none => []

def copiasDe (f : FileInstall) : List (Ruta × C) :=
  match safeJoin (e.tmp ++ e.raiz) f.source.toList, safeJoin e.zonaStaging (destRel f) with
  | .ok src, .ok dest => e.copiasDentro src dest
  | _, _ => []

/-- What the resolved entries copy, in their order. -/
def copias : List (Ruta × C) := match e.configuracion with
  | .archivos files => files.flatMap e.copiasDe
  | _ => []

/-- The tree that the staging folder starts from. -/
def base (q : Ruta) : Option (Entrada C) :=
  if esCarpeta (e.disco.find e.destino) then e.disco.find (e.destino ++ q)
  else if q = [] then some .carpeta else none

/-- Outside of the folders that the installation makes for itself. -/
def Ajena (r : Ruta) : Prop := ¬e.zonaStaging <+: r ∧ ¬e.zonaRespaldo <+: r ∧ ¬e.tmp <+: r

def Intacto (d : Disco C) : Prop := ∀ r, e.Ajena r → d.find r = e.disco.find r

/-- The folder of the mod is the tree before with the copies over it, and nothing else changed. -/
def Nuevo (d : Disco C) : Prop :=
  (∀ r, e.Ajena r → ¬e.destino <+: r → d.find r = e.disco.find r) ∧
    (SinChoque e.base e.copias → ∀ q, d.find (e.destino ++ q) = superpuesto e.base e.copias q)

end Escena

theorem SinChoque.init {base : Ruta → Option (Entrada C)} {copias : List (Ruta × C)} {x : Ruta × C}
    (free : SinChoque base (copias ++ [x])) : SinChoque base copias := by
  intro y mem
  have here := free y (List.mem_append_left _ mem)
  exact ⟨here.1, fun z mem' => here.2 z (List.mem_append_left _ mem')⟩

/-- One copy more. -/
theorem superpuesto_snoc {base : Ruta → Option (Entrada C)} {copias : List (Ruta × C)} {q : Ruta} {c : C}
    (free : SinChoque base (copias ++ [(q, c)])) :
    superpuesto base copias q ≠ some .carpeta ∧
      superpuesto base (copias ++ [(q, c)]) = escribe (superpuesto base copias) q c := by
  have last := free (q, c) (by simp)
  constructor
  · unfold superpuesto
    split
    · exact nofun
    · next none_ =>
      split
      · next some_ =>
        obtain ⟨y, mem, below⟩ := List.any_eq_true.mp some_
        have same := last.2 y (List.mem_append_left _ mem) (by simpa using below)
        have absent := List.find?_eq_none.mp none_ y (List.mem_reverse.mpr mem)
        exact absurd (by simpa using same.symm) absent
      · exact last.1
  · funext r
    unfold escribe superpuesto
    rw [List.reverse_append, List.reverse_singleton, List.singleton_append, List.find?_cons]
    by_cases same : r = q
    · simp [same]
    · have other : decide (q = r) = false := by simpa using fun h : q = r => same h.symm
      rw [if_neg same]
      simp only [other]
      cases found : copias.reverse.find? fun x => x.1 = r with
      | some y =>
        have at_ : y.1 = r := by simpa using List.find?_some found
        have mem : y ∈ copias := List.mem_reverse.mp (List.mem_of_find?_eq_some found)
        have apart : ¬r <+: q := by
          intro below
          have equal := (free y (List.mem_append_left _ mem)).2 (q, c) (by simp) (by rwa [at_])
          exact same (at_ ▸ equal)
        rw [if_neg apart]
      | none =>
        by_cases below : r <+: q
        · simp [below]
        · have rest : ((copias ++ [(q, c)]).any fun x => decide (r <+: x.1)) =
              copias.any fun x => decide (r <+: x.1) := by
            rw [List.any_append, List.any_cons, decide_eq_false below]
            simp
          rw [if_neg below, rest]

end FomodInstaller
