import SkyClaw.OverlayWinners

set_option linter.all false

/-!
`verificar_artifact_efectivo`, in `mod_effectivity.py`: whether each file of the
artifact of a mod is what the overlay of the profile delivers at its path. It asks
layer by layer, from the highest down to the mod, and not the index of the winners.
-/
namespace ModEffectivity
open FileTrees Ganadores

/-- Why a file of the artifact is not effective. -/
inductive Conflicto where
  | porEnlace (ruta : List String) (capa : Capa) (enlace : List String)
  | sinArchivoRegular (ruta : List String) (capa : Capa)
  | bytesDistintos (ruta : List String) (capa : Capa)
  deriving DecidableEq

/-- The messages of `ModEffectivityError`, and the `OSError` of the first inspection,
which escapes as it is. -/
inductive ModEffectivityError where
  | sinArtifact
  | repetido (mod : String)
  | noHabilitado (mod : String)
  | perfil (causa : GanadoresError)
  | capaAusente (mod : String)
  | noRecorrible
  | osError
  | sinArchivos
  | noEfectivo (total : Nat) (detalle : List Conflicto)
  deriving DecidableEq

/-- `digest` is what `hashlib.sha256` gives. -/
structure Entorno (Digest : Type) where
  nombres : Nombres
  sha256 : List UInt8 → Digest

variable {Digest : Type} [DecidableEq Digest] (e : Entorno Digest)

/-- An inode number of zero identifies nothing. -/
def mismoArchivoFisico (origen espejo : Archivo) : Bool :=
  origen.stIno ≠ 0 && espejo.stIno ≠ 0 &&
    (origen.stDev, origen.stIno) = (espejo.stDev, espejo.stIno)

def mismosBytes (origen espejo : Archivo) : Bool :=
  if espejo.bytes.length ≠ origen.bytes.length then false
  else if mismoArchivoFisico origen espejo then true
  else e.sha256 origen.bytes = e.sha256 espejo.bytes

def comoErrorDeEfectividad {α : Type} :
    Except GanadoresError α → Except ModEffectivityError α
  | .ok a => .ok a
  | .error causa => .error (.perfil causa)

/-- The layer of a mod that is above the audited one. -/
def rootSuperior (modsDir : Nodo) (superior : String) :
    Except ModEffectivityError (Capa × Nodo) := do
  comoErrorDeEfectividad (exigirNombreDeMod superior)
  let raiz := modsDir.child? e.nombres.fold superior
  let propia ← comoErrorDeEfectividad (esCarpetaPropia (.mod superior) raiz)
  match propia, raiz with
  | true, some nodo => .ok (.mod superior, nodo)
  | _, _ => .error (.capaAusente superior)

def rootsEclipsantes (modName : String) (modsDir dataRoot : Nodo) (enabled : List String) :
    Except ModEffectivityError (List (Capa × Nodo)) := do
  if enabled.count modName > 1 then throw (.repetido modName)
  if modName ∉ enabled then throw (.noHabilitado modName)
  let overwrite ← comoErrorDeEfectividad (capaOverwrite e.nombres dataRoot)
  let superiores ← (enabled.drop (enabled.idxOf modName + 1)).reverse.mapM
    (rootSuperior e modsDir)
  return overwrite ++ superiores

/-- `(ocupa, enlace)`. `none` is the `OSError` of an inspection. A file where the
layer would need a folder leaves the path free. -/
def ocupanteDeLaCapa (actual : Nodo) (recorrido : List String) :
    List String → Option (Bool × Option (List String))
  | [] => some (true, none)
  | parte :: resto =>
    match actual.child? e.nombres.fold parte with
    | none => some (false, none)
    | some .unreadable => none
    | some (.link _ _) => some (true, some (recorrido ++ [parte]))
    | some (.dangling _) => some (true, some (recorrido ++ [parte]))
    | some (.file _) => if resto ≠ [] then some (false, none) else some (true, none)
    | some (.folder tag entries) =>
      ocupanteDeLaCapa (.folder tag entries) (recorrido ++ [parte]) resto

structure Eclipsante where
  capa : Capa
  root : Nodo
  enlace : Option (List String)

def ganadorEclipsante (dataRelativo : List String) :
    List (Capa × Nodo) → Option (Option Eclipsante)
  | [] => some none
  | (capa, root) :: resto =>
    match ocupanteDeLaCapa e root [] dataRelativo with
    | none => none
    | some (true, enlace) => some (some ⟨capa, root, enlace⟩)
    | some (false, _) => ganadorEclipsante dataRelativo resto

structure Balance where
  total : Nat
  eclipsados : List Conflicto
  incompatibles : List Conflicto
  deriving DecidableEq

/-- One file of the artifact, which `nombre` is the name of. -/
def revisar (nombre : String) (roots : List (Capa × Nodo)) (b : Balance) :
    Seen Archivo → Except ModEffectivityError Balance
  | .failed => .error .noRecorrible
  | .file rel archivo =>
    let b := { b with total := b.total + 1 }
    let dataRelativo := nombre :: rel
    match ganadorEclipsante e dataRelativo roots with
    | none => .error .noRecorrible
    | some none => .ok b
    | some (some ⟨capa, _, some enlace⟩) =>
      .ok { b with incompatibles := b.incompatibles ++ [.porEnlace dataRelativo capa enlace] }
    | some (some ⟨capa, root, none⟩) =>
      match root.descend e.nombres.fold dataRelativo with
      | some .unreadable => .error .noRecorrible
      | some (.file espejo) =>
        if ¬ espejo.regular then
          .ok { b with incompatibles := b.incompatibles ++ [.sinArchivoRegular dataRelativo capa] }
        else if mismosBytes e archivo espejo then .ok b
        else .ok { b with eclipsados := b.eclipsados ++ [.bytesDistintos dataRelativo capa] }
      | _ =>
        .ok { b with incompatibles := b.incompatibles ++ [.sinArchivoRegular dataRelativo capa] }

/-- The artifact is what is at `artifact_root`, and `nombre` the name of it. -/
def verificarArtifactEfectivo (artifactRoot : Option Nodo) (nombre modName : String)
    (modsDir dataRoot : Nodo) (enabled : List String) : Except ModEffectivityError Nat :=
  match artifactRoot with
  | some (.folder _ hijos) => do
    let roots ← rootsEclipsantes e modName modsDir dataRoot enabled
    let b ← hijos.walk.foldlM (revisar e nombre roots) ⟨0, [], []⟩
    if b.total = 0 then throw .sinArchivos
    if b.eclipsados ≠ [] ∨ b.incompatibles ≠ [] then
      throw (.noEfectivo b.total (b.eclipsados ++ b.incompatibles))
    return b.total
  | some .unreadable => .error .osError
  | _ => .error .sinArtifact

/-- Something stands at a path of a layer, or a link on the way to it. -/
def Ocupa (fold : String → String) (root : Nodo) (ruta : List String) (x : Nodo) : Prop :=
  ∃ camino resto, ruta = camino ++ resto ∧ root.own? fold camino = some x ∧
    (resto = [] ∨ x.isLink)

def Libre (fold : String → String) (root : Nodo) (ruta : List String) : Prop :=
  ∀ x, ¬ Ocupa fold root ruta x

/-- The layers above a mod, from the highest down. -/
def capasEncima (enabled : List String) (modName : String) : List Capa :=
  .overwrite :: (enabled.drop (enabled.idxOf modName + 1)).reverse.map .mod

/-- A file that some layer of the profile delivers. -/
def Entrega (nombres : Nombres) (modsDir dataRoot : Nodo) (a : Archivo) : Prop :=
  ∃ capa root ruta, carpetaDe nombres modsDir dataRoot capa = some root ∧
    root.target.own? nombres.fold ruta = some (.file a)

/-- `artifact_root` is the folder of that name of the mod. -/
def artifactDe (nombres : Nombres) (modsDir : Nodo) (modName nombre : String) : Option Nodo :=
  (modsDir.child? nombres.fold modName).bind fun raiz => raiz.child? nombres.fold nombre

/-- What the code relies on: a file system that does not tell letter case apart, as
`str.lower` does not, inode numbers that identify files, and a digest without
collisions among the files of the profile. -/
structure Fiable (e : Entorno Digest) (modsDir dataRoot : Nodo) : Prop where
  mods : modsDir.Distinct e.nombres.fold
  data : dataRoot.Distinct e.nombres.fold
  mayusculas : ∀ a b, e.nombres.fold a = e.nombres.fold b ↔ e.nombres.lower a = e.nombres.lower b
  fisico : ∀ a b, Entrega e.nombres modsDir dataRoot a → Entrega e.nombres modsDir dataRoot b →
    mismoArchivoFisico a b = true → a.bytes = b.bytes
  sha256 : ∀ a b, Entrega e.nombres modsDir dataRoot a → Entrega e.nombres modsDir dataRoot b →
    e.sha256 a.bytes = e.sha256 b.bytes → a.bytes = b.bytes

variable {e}

theorem Fiable.mismos {modsDir dataRoot : Nodo} (fiable : Fiable e modsDir dataRoot)
    {a b : Archivo} (fromA : Entrega e.nombres modsDir dataRoot a)
    (fromB : Entrega e.nombres modsDir dataRoot b) (same : mismosBytes e a b = true) :
    a.bytes = b.bytes := by
  simp only [mismosBytes] at same
  split at same
  · cases same
  split at same
  · rename_i physical
    exact fiable.fisico a b fromA fromB physical
  · exact fiable.sha256 a b fromA fromB (by simpa using same)

omit [DecidableEq Digest] in
theorem ocupante_libre {tag : Nat} {entries : Entries Archivo} {recorrido ruta : List String}
    {enlace : Option (List String)}
    (ran : ocupanteDeLaCapa e (.folder tag entries) recorrido ruta = some (false, enlace)) :
    Libre e.nombres.fold (.folder tag entries) ruta := by
  induction ruta generalizing tag entries recorrido with
  | nil => simp [ocupanteDeLaCapa] at ran
  | cons parte resto ih =>
    intro x ⟨camino, cola, eq, owned, last⟩
    cases camino with
    | nil =>
      simp only [List.nil_append] at eq
      simp only [Node.own?, Option.some.injEq] at owned
      subst owned
      simp [← eq, Node.isLink] at last
    | cons nombre camino =>
      simp only [List.cons_append, List.cons.injEq] at eq
      obtain ⟨rfl, rfl⟩ := eq
      simp only [Node.own?, Option.bind_eq_some_iff] at owned
      obtain ⟨child, found, below⟩ := owned
      simp only [ocupanteDeLaCapa, Node.child?, Node.target, found] at ran
      cases child with
      | folder tag' entries' => exact ih ran x ⟨camino, cola, rfl, below, last⟩
      | file a =>
        -- a file on the way has nothing below it, and at the end it occupies the path
        cases camino with
        | nil =>
          simp only [Node.own?, Option.some.injEq] at below
          subst below
          rcases last with rfl | link
          · simp at ran
          · cases link
        | cons _ _ => simp [Node.own?] at below
      | link kind target => simp at ran
      | dangling kind => simp at ran
      | unreadable => simp at ran

omit [DecidableEq Digest] in
theorem ocupante_nodo {tag : Nat} {entries : Entries Archivo} {recorrido ruta : List String}
    (ran : ocupanteDeLaCapa e (.folder tag entries) recorrido ruta = some (true, none)) :
    ∃ x, Node.own? e.nombres.fold (.folder tag entries) ruta = some x ∧
      Node.descend e.nombres.fold (.folder tag entries) ruta = some x ∧ x.isLink = false := by
  induction ruta generalizing tag entries recorrido with
  | nil => exact ⟨.folder tag entries, rfl, rfl, rfl⟩
  | cons parte resto ih =>
    simp only [ocupanteDeLaCapa, Node.child?, Node.target] at ran
    cases found : entries.find? e.nombres.fold parte with
    | none => simp [found] at ran
    | some child =>
      simp only [found] at ran
      simp only [Node.own?, Node.descend, Node.target, found, Option.bind_some]
      cases child with
      | folder tag' entries' => exact ih ran
      | file a =>
        by_cases last : resto = []
        · subst last
          exact ⟨.file a, rfl, rfl, rfl⟩
        · simp [last] at ran
      | link kind target => simp at ran
      | dangling kind => simp at ran
      | unreadable => simp at ran

omit [DecidableEq Digest] in
theorem ocupante_enlace {tag : Nat} {entries : Entries Archivo} {recorrido ruta enlace : List String}
    (ran : ocupanteDeLaCapa e (.folder tag entries) recorrido ruta = some (true, some enlace)) :
    ∃ x, Ocupa e.nombres.fold (.folder tag entries) ruta x ∧ x.isLink = true := by
  induction ruta generalizing tag entries recorrido with
  | nil => simp [ocupanteDeLaCapa] at ran
  | cons parte resto ih =>
    simp only [ocupanteDeLaCapa, Node.child?, Node.target] at ran
    cases found : entries.find? e.nombres.fold parte with
    | none => simp [found] at ran
    | some child =>
      simp only [found] at ran
      cases child with
      | folder tag' entries' =>
        obtain ⟨x, ⟨camino, cola, eq, owned, last⟩, link⟩ := ih ran
        exact ⟨x, ⟨parte :: camino, cola, by simp [eq], by simp [Node.own?, found, owned], last⟩,
          link⟩
      | file a => by_cases last : resto = [] <;> simp [last] at ran
      | link kind target =>
        exact ⟨.link kind target, ⟨[parte], resto, rfl, by simp [Node.own?, found], Or.inr rfl⟩,
          rfl⟩
      | dangling kind =>
        exact ⟨.dangling kind, ⟨[parte], resto, rfl, by simp [Node.own?, found], Or.inr rfl⟩, rfl⟩
      | unreadable => simp at ran

omit [DecidableEq Digest] in
/-- Without an eclipsing layer every layer leaves the path free, and an eclipsing one
is the highest that does not. -/
theorem ganadorEclipsante_ok {ruta : List String} {roots : List (Capa × Nodo)}
    {g : Option Eclipsante} (folders : ∀ c ∈ roots, ∃ entries, c.2 = .folder 0 entries)
    (ran : ganadorEclipsante e ruta roots = some g) :
    (g = none ∧ ∀ c ∈ roots, Libre e.nombres.fold c.2 ruta) ∨
    ∃ x antes despues, g = some x ∧ roots = antes ++ (x.capa, x.root) :: despues ∧
      (∀ c ∈ antes, Libre e.nombres.fold c.2 ruta) ∧
      ocupanteDeLaCapa e x.root [] ruta = some (true, x.enlace) := by
  induction roots with
  | nil =>
    simp only [ganadorEclipsante, Option.some.injEq] at ran
    exact Or.inl ⟨ran.symm, by simp⟩
  | cons capa roots ih =>
    obtain ⟨etiqueta, root⟩ := capa
    simp only [ganadorEclipsante] at ran
    split at ran
    · cases ran
    · rename_i enlace occupied
      obtain rfl := Option.some.inj ran
      exact Or.inr ⟨⟨etiqueta, root, enlace⟩, [], roots, rfl, rfl, by simp, occupied⟩
    · rename_i enlace free
      obtain ⟨entries, folder⟩ := folders (etiqueta, root) List.mem_cons_self
      simp only at folder
      subst folder
      have own := ocupante_libre free
      rcases ih (fun c member => folders c (List.mem_cons_of_mem _ member)) ran with
        ⟨rfl, all_free⟩ | ⟨x, antes, despues, rfl, rfl, above_free, occupied⟩
      · exact Or.inl ⟨rfl, List.forall_mem_cons.mpr ⟨own, all_free⟩⟩
      · refine Or.inr ⟨x, (etiqueta, .folder 0 entries) :: antes, despues, rfl, rfl, ?_, occupied⟩
        exact List.forall_mem_cons.mpr ⟨own, above_free⟩

def Balance.conflictos (b : Balance) : List Conflicto := b.eclipsados ++ b.incompatibles

/-- A file that no layer eclipses, or only with a regular file of the same bytes. -/
def Conforme (e : Entorno Digest) (nombre : String) (roots : List (Capa × Nodo)) :
    Seen Archivo → Prop
  | .failed => False
  | .file rel a => ∃ g, ganadorEclipsante e (nombre :: rel) roots = some g ∧
      ∀ x, g = some x → x.enlace = none ∧
        ∃ espejo, x.root.descend e.nombres.fold (nombre :: rel) = some (.file espejo) ∧
          espejo.regular = true ∧ mismosBytes e a espejo = true

theorem revisar_ok {nombre : String} {roots : List (Capa × Nodo)} {b b' : Balance}
    {visto : Seen Archivo} (ran : revisar e nombre roots b visto = .ok b')
    (clean : b'.conflictos = []) : b.conflictos = [] ∧ Conforme e nombre roots visto := by
  cases visto with
  | failed => cases ran
  | file rel a =>
    simp only [revisar] at ran
    split at ran
    · cases ran
    · rename_i free
      obtain rfl := Except.ok.inj ran
      exact ⟨clean, none, free, by simp⟩
    · obtain rfl := Except.ok.inj ran
      simp [Balance.conflictos] at clean
    · rename_i capa root won
      split at ran
      · cases ran
      · rename_i espejo found
        split at ran
        · obtain rfl := Except.ok.inj ran
          simp [Balance.conflictos] at clean
        rename_i regular
        split at ran
        · rename_i same
          obtain rfl := Except.ok.inj ran
          refine ⟨clean, _, won, ?_⟩
          intro x eq
          obtain rfl := Option.some.inj eq
          exact ⟨rfl, espejo, found, by simpa using regular, same⟩
        · obtain rfl := Except.ok.inj ran
          simp [Balance.conflictos] at clean
      · obtain rfl := Except.ok.inj ran
        simp [Balance.conflictos] at clean

theorem revisados {nombre : String} {roots : List (Capa × Nodo)} {vistos : List (Seen Archivo)}
    {b b' : Balance} (ran : vistos.foldlM (revisar e nombre roots) b = .ok b')
    (clean : b'.conflictos = []) :
    b.conflictos = [] ∧ ∀ visto ∈ vistos, Conforme e nombre roots visto := by
  induction vistos generalizing b with
  | nil =>
    simp only [List.foldlM_nil, pure, Except.pure, Except.ok.injEq] at ran
    subst ran
    exact ⟨clean, by simp⟩
  | cons visto vistos ih =>
    rw [List.foldlM_cons] at ran
    obtain ⟨mid, first, rest⟩ := bind_ok ran
    obtain ⟨mid_clean, later⟩ := ih rest
    obtain ⟨start_clean, here⟩ := revisar_ok first mid_clean
    exact ⟨start_clean, by simpa using ⟨here, later⟩⟩

theorem comoError_ok {α : Type} {x : Except GanadoresError α} {a : α}
    (ran : comoErrorDeEfectividad x = .ok a) : x = .ok a := by
  cases x with
  | ok b => simpa [comoErrorDeEfectividad] using ran
  | error causa => cases ran

omit [DecidableEq Digest] in
theorem rootSuperior_ok (dataRoot : Nodo) {modsDir : Nodo} {superior : String}
    {capa : Capa × Nodo} (ran : rootSuperior e modsDir superior = .ok capa) :
    ∃ entries,
      carpetaDe e.nombres modsDir dataRoot (.mod superior) = some (.folder 0 entries) ∧
      capa = (.mod superior, .folder 0 entries) := by
  simp only [rootSuperior] at ran
  obtain ⟨_, _, ran⟩ := bind_ok ran
  obtain ⟨propia, inspected, ran⟩ := bind_ok ran
  rcases esCarpetaPropia_ok (comoError_ok inspected) with ⟨absent, rfl⟩ | ⟨entries, found, rfl⟩
  · rw [absent] at ran
    cases ran
  · rw [found] at ran
    exact ⟨entries, found, (Except.ok.inj ran).symm⟩

omit [DecidableEq Digest] in
theorem superiores_ok (dataRoot : Nodo) {modsDir : Nodo} {mods : List String}
    {roots : List (Capa × Nodo)}
    (ran : List.Forall₂ (fun m capa => rootSuperior e modsDir m = .ok capa) mods roots) :
    roots = capasDe e.nombres modsDir dataRoot (mods.map .mod) ∧
      ∀ c ∈ roots, ∃ entries, c.2 = .folder 0 entries := by
  induction ran with
  | nil => simp [capasDe]
  | cons first _ ih =>
    obtain ⟨same, folders⟩ := ih
    obtain ⟨entries, found, rfl⟩ := rootSuperior_ok dataRoot first
    constructor
    · simp [capasDe, found, same]
    · simpa using folders

omit [DecidableEq Digest] in
theorem rootsEclipsantes_ok {modName : String} {modsDir dataRoot : Nodo} {enabled : List String}
    {roots : List (Capa × Nodo)}
    (ran : rootsEclipsantes e modName modsDir dataRoot enabled = .ok roots) :
    modName ∈ enabled ∧
      roots = capasDe e.nombres modsDir dataRoot (capasEncima enabled modName) ∧
      ∀ c ∈ roots, ∃ entries, c.2 = .folder 0 entries := by
  simp only [rootsEclipsantes] at ran
  split at ran
  · cases ran
  split at ran
  · cases ran
  rename_i enabled_mod
  obtain ⟨overwrite, onOverwrite, ran⟩ := bind_ok ran
  obtain ⟨superiores, onMods, ran⟩ := bind_ok ran
  obtain ⟨overwrite_eq, overwrite_folders⟩ :=
    capaOverwrite_ok modsDir (comoError_ok onOverwrite)
  obtain ⟨mods_eq, mods_folders⟩ := superiores_ok dataRoot (mapM_ok onMods)
  have final : overwrite ++ superiores = roots := Except.ok.inj ran
  refine ⟨by simpa using enabled_mod, ?_, ?_⟩
  · rw [← final, overwrite_eq, mods_eq, capasDe, capasDe, ← List.filterMap_append]
    rfl
  · intro c member
    rw [← final] at member
    rcases List.mem_append.mp member with first | second
    · exact overwrite_folders c first
    · exact mods_folders c second

theorem verificar_ok {artifactRoot : Option Nodo} {nombre modName : String}
    {modsDir dataRoot : Nodo} {enabled : List String} {n : Nat}
    (ran : verificarArtifactEfectivo e artifactRoot nombre modName modsDir dataRoot enabled
      = .ok n) :
    ∃ tag hijos roots, artifactRoot = some (.folder tag hijos) ∧
      rootsEclipsantes e modName modsDir dataRoot enabled = .ok roots ∧
      ∀ visto ∈ hijos.walk, Conforme e nombre roots visto := by
  simp only [verificarArtifactEfectivo] at ran
  split at ran
  · rename_i tag hijos
    obtain ⟨roots, onRoots, ran⟩ := bind_ok ran
    obtain ⟨b, walked, ran⟩ := bind_ok ran
    split at ran
    · cases ran
    split at ran
    · cases ran
    rename_i clean
    simp only [not_or, ne_eq, Decidable.not_not] at clean
    have no_conflict : b.conflictos = [] := by simp [Balance.conflictos, clean.1, clean.2]
    exact ⟨tag, hijos, roots, rfl, onRoots, (revisados walked no_conflict).2⟩
  · cases ran
  · cases ran

omit [DecidableEq Digest] in
theorem fold_iff_lower {modsDir dataRoot : Nodo} (fiable : Fiable e modsDir dataRoot)
    {p q : List String} :
    p.map e.nombres.fold = q.map e.nombres.fold ↔ p.map e.nombres.lower = q.map e.nombres.lower := by
  induction p generalizing q with
  | nil => simp
  | cons nombre p ih =>
    cases q with
    | nil => simp
    | cons otro q => simp [fiable.mayusculas nombre otro, ih]

theorem oculto_congr {nombres : Nombres} {p q : List String}
    (same : p.map nombres.lower = q.map nombres.lower) :
    p.any (esOculto nombres) = q.any (esOculto nombres) := by
  have through (l : List String) : l.any (esOculto nombres) =
      (l.map nombres.lower).any fun parte => sufijoOculto.toList.isSuffixOf parte.toList := by
    rw [List.any_map]
    rfl
  rw [through, through, same]

omit [DecidableEq Digest] in
theorem carpetaDe_distinct {modsDir dataRoot root : Nodo} {capa : Capa}
    (fiable : Fiable e modsDir dataRoot)
    (found : carpetaDe e.nombres modsDir dataRoot capa = some root) :
    root.Distinct e.nombres.fold := by
  cases capa with
  | mod nombre => exact child_distinct fiable.mods found
  | overwrite => exact child_distinct fiable.data found

omit [DecidableEq Digest] in
/-- What a layer gives to the index is what stands in it at the path. -/
theorem own_of_provee {modsDir dataRoot : Nodo} {nombre : String} {entries : Entries Archivo}
    {k : Clave} {a : Archivo} (fiable : Fiable e modsDir dataRoot)
    (distinct : Node.Distinct e.nombres.fold (.folder 0 entries))
    (gives : Provee e.nombres [nombre] k (.folder 0 entries) a) {ruta : List String}
    (same : clave e.nombres ruta = k) :
    Node.own? e.nombres.fold (.folder 0 entries) ruta = some (.file a) := by
  obtain ⟨rel, member, _, eq⟩ := gives
  simp only [archivosDe, Node.descend, Node.target] at member
  cases found : entries.find? e.nombres.fold nombre with
  | none => simp [found] at member
  | some child =>
    simp only [found, Option.bind_some] at member
    have below := own_of_walk (find_distinct distinct found) member
    have lower_same : (nombre :: rel).map e.nombres.lower = ruta.map e.nombres.lower :=
      eq.trans same.symm
    rw [← own_congr ((fold_iff_lower fiable).mpr lower_same)]
    simp [Node.own?, found, below]

omit [DecidableEq Digest] in
theorem provee_of_own {modsDir dataRoot : Nodo} {nombre : String} {entries : Entries Archivo}
    {ruta : List String} {a : Archivo} (fiable : Fiable e modsDir dataRoot)
    (owned : Node.own? e.nombres.fold (.folder 0 entries) (nombre :: ruta) = some (.file a))
    (visible : ruta.any (esOculto e.nombres) = false) :
    Provee e.nombres [nombre] (clave e.nombres (nombre :: ruta)) (.folder 0 entries) a := by
  simp only [Node.own?, Option.bind_eq_some_iff] at owned
  obtain ⟨child, found, below⟩ := owned
  obtain ⟨rel, same, member⟩ := walk_of_own below
  have lower_same := (fold_iff_lower fiable).mp same
  refine ⟨rel, ?_, ?_, ?_⟩
  · simpa [archivosDe, Node.descend, Node.target, found] using member
  · rw [oculto_congr lower_same]
    exact visible
  · simp [clave, lower_same]

omit [DecidableEq Digest] in
/-- A file of the artifact is at its virtual path in the layer of its mod. -/
theorem artifact_own {modsDir dataRoot artifact : Nodo} {modName nombre : String}
    {ruta : List String} {a : Archivo} (fiable : Fiable e modsDir dataRoot)
    (root : artifactDe e.nombres modsDir modName nombre = some artifact)
    (member : Seen.file ruta a ∈ artifact.walk) :
    ∃ raiz, carpetaDe e.nombres modsDir dataRoot (.mod modName) = some raiz ∧
      raiz.target.own? e.nombres.fold (nombre :: ruta) = some (.file a) := by
  simp only [artifactDe, Option.bind_eq_some_iff] at root
  obtain ⟨raiz, onMod, child⟩ := root
  have distinct := child_distinct (child_distinct fiable.mods onMod) child
  have below := own_of_walk distinct member
  refine ⟨raiz, onMod, ?_⟩
  simp only [Node.child?] at child
  split at child
  · rename_i tag entries behind
    simp [behind, Node.own?, child, below]
  · cases child
  · cases child
  · obtain rfl := Option.some.inj child
    cases ruta <;> simp [Node.own?] at below
  · obtain rfl := Option.some.inj child
    cases ruta <;> simp [Node.own?] at below

omit [DecidableEq Digest] in
/-- The layers in the order of the index: the mods below, the mod, and the layers above. -/
theorem capas_partidas {modsDir dataRoot raiz : Nodo} {enabled : List String} {modName : String}
    (member : modName ∈ enabled)
    (found : carpetaDe e.nombres modsDir dataRoot (.mod modName) = some raiz) :
    capasDe e.nombres modsDir dataRoot (enabled.map .mod ++ [.overwrite]) =
      capasDe e.nombres modsDir dataRoot ((enabled.take (enabled.idxOf modName)).map .mod) ++
        (.mod modName, raiz) ::
          (capasDe e.nombres modsDir dataRoot (capasEncima enabled modName)).reverse := by
  have position := List.idxOf_lt_length_of_mem member
  have split : enabled = enabled.take (enabled.idxOf modName) ++
      modName :: enabled.drop (enabled.idxOf modName + 1) := by
    conv_lhs => rw [← List.take_append_drop (enabled.idxOf modName) enabled]
    rw [List.drop_eq_getElem_cons position, List.getElem_idxOf]
  have above : (capasEncima enabled modName).reverse =
      (enabled.drop (enabled.idxOf modName + 1)).map .mod ++ [.overwrite] := by
    simp [capasEncima]
  conv_lhs => rw [split]
  rw [capasDe, capasDe, capasDe, ← List.filterMap_reverse, above]
  simp [found]

omit [DecidableEq Digest] in
theorem libre_no_provee {modsDir dataRoot : Nodo} {nombre : String} {ruta : List String}
    {roots : List (Capa × Nodo)} (fiable : Fiable e modsDir dataRoot)
    (exist : ∀ c ∈ roots, carpetaDe e.nombres modsDir dataRoot c.1 = some c.2)
    (folders : ∀ c ∈ roots, ∃ entries, c.2 = .folder 0 entries)
    (free : ∀ c ∈ roots, Libre e.nombres.fold c.2 (nombre :: ruta)) :
    ∀ c ∈ roots, ∀ a, ¬ Provee e.nombres [nombre] (clave e.nombres (nombre :: ruta)) c.2 a := by
  intro c member a gives
  have distinct := carpetaDe_distinct fiable (exist c member)
  obtain ⟨entries, folder⟩ := folders c member
  have is_free := free c member
  rw [folder] at gives distinct is_free
  have owned := own_of_provee fiable distinct gives rfl
  exact is_free (.file a) ⟨nombre :: ruta, [], by simp, owned, Or.inl rfl⟩

omit [DecidableEq Digest] in
theorem capasDe_exist {nombres : Nombres} {modsDir dataRoot : Nodo} {capas : List Capa} :
    ∀ c ∈ capasDe nombres modsDir dataRoot capas,
      carpetaDe nombres modsDir dataRoot c.1 = some c.2 := by
  intro c member
  obtain ⟨capa, _, eq⟩ := List.mem_filterMap.mp member
  obtain ⟨root, found, rfl⟩ := Option.map_eq_some_iff.mp eq
  exact found

/-- An effective file wins its path in the index, with its own bytes. -/
theorem gana_con_sus_bytes {modsDir dataRoot artifact : Nodo} {enabled : List String}
    {modName nombre prefijo : String} {maximo : Int} {g : GanadoresDelPerfil}
    {roots : List (Capa × Nodo)} {ruta : List String} {a : Archivo}
    (fiable : Fiable e modsDir dataRoot)
    (root : artifactDe e.nombres modsDir modName nombre = some artifact)
    (member : Seen.file ruta a ∈ artifact.walk)
    (onRoots : rootsEclipsantes e modName modsDir dataRoot enabled = .ok roots)
    (good : Conforme e nombre roots (.file ruta a))
    (onPrefix : exigirPrefijo prefijo = .ok [nombre])
    (indexed : indexarGanadores e.nombres modsDir dataRoot enabled prefijo maximo = .ok g)
    (visible : ruta.any (esOculto e.nombres) = false) :
    ∃ w, g.ganador e.nombres (nombre :: ruta) = some w ∧ w.archivo.bytes = a.bytes := by
  obtain ⟨isEnabled, roots_eq, folders⟩ := rootsEclipsantes_ok onRoots
  obtain ⟨tope, partes, r, samePrefix, walked, rfl, mods⟩ := indexar_ok indexed
  rw [onPrefix] at samePrefix
  cases samePrefix
  have exist : ∀ c ∈ roots, carpetaDe e.nombres modsDir dataRoot c.1 = some c.2 := by
    rw [roots_eq]
    exact capasDe_exist
  obtain ⟨raiz, onMod, owned⟩ := artifact_own fiable root member
  obtain ⟨entries, folder⟩ := mods modName isEnabled
  rw [onMod] at folder
  cases folder
  simp only [Node.target] at owned
  rw [capas_partidas isEnabled onMod, ← roots_eq] at walked
  obtain ⟨ganador, asked, fine⟩ := good
  rcases ganadorEclipsante_ok folders asked with ⟨_, all_free⟩ | ⟨x, antes, despues, rfl, split, free, occupied⟩
  · have silent := libre_no_provee fiable exist folders all_free
    obtain ⟨relativa, b, gives, won⟩ := gana_la_ultima walked (provee_of_own fiable owned visible)
      fun c inRoots => silent c (List.mem_reverse.mp inRoots)
    have same := own_of_provee fiable (carpetaDe_distinct fiable onMod) gives rfl
    rw [owned] at same
    cases same
    exact ⟨_, won, rfl⟩
  · obtain ⟨noLink, espejo, found, _, sameBytes⟩ := fine x rfl
    have here : (x.capa, x.root) ∈ roots := by simp [split]
    obtain ⟨tree, isFolder⟩ := folders _ here
    simp only at isFolder
    rw [isFolder, noLink] at occupied
    rw [isFolder] at found
    obtain ⟨y, ownedX, foundX, _⟩ := ocupante_nodo occupied
    rw [found] at foundX
    cases foundX
    have onX := exist _ here
    simp only [isFolder] at onX
    have above : ∀ c ∈ antes, c ∈ roots := fun c inAntes => by simp [split, inAntes]
    have silent := libre_no_provee fiable (fun c h => exist c (above c h))
      (fun c h => folders c (above c h)) free
    have order (debajo : List (Capa × Nodo)) (propia : Capa × Nodo) :
        debajo ++ propia :: roots.reverse =
          (debajo ++ propia :: despues.reverse) ++ (x.capa, x.root) :: antes.reverse := by
      simp [split]
    rw [order, isFolder] at walked
    obtain ⟨relativa, b, gives, won⟩ := gana_la_ultima walked (provee_of_own fiable ownedX visible)
      fun c inAntes => silent c (List.mem_reverse.mp inAntes)
    have same := own_of_provee fiable (carpetaDe_distinct fiable onX) gives rfl
    rw [ownedX] at same
    cases same
    refine ⟨_, won, ?_⟩
    have ofArtifact : Entrega e.nombres modsDir dataRoot a := ⟨_, _, _, onMod, owned⟩
    have ofMirror : Entrega e.nombres modsDir dataRoot espejo := ⟨_, _, _, onX, ownedX⟩
    exact (fiable.mismos ofArtifact ofMirror sameBytes).symm

omit [DecidableEq Digest] in
/-- The highest occupied layer is the eclipsing one. -/
theorem eclipsa_la_mas_alta {ruta : List String} {antes despues : List (Capa × Nodo)}
    {capa : Capa × Nodo} {g : Option Eclipsante} {y : Nodo}
    (folders : ∀ c ∈ antes ++ capa :: despues, ∃ entries, c.2 = .folder 0 entries)
    (free : ∀ c ∈ antes, Libre e.nombres.fold c.2 ruta)
    (occupied : Ocupa e.nombres.fold capa.2 ruta y)
    (ran : ganadorEclipsante e ruta (antes ++ capa :: despues) = some g) :
    ∃ enlace, g = some ⟨capa.1, capa.2, enlace⟩ ∧
      ocupanteDeLaCapa e capa.2 [] ruta = some (true, enlace) := by
  induction antes with
  | nil =>
    obtain ⟨entries, folder⟩ := folders capa (by simp)
    simp only [List.nil_append, ganadorEclipsante] at ran
    split at ran
    · cases ran
    · rename_i enlace here
      exact ⟨enlace, (Option.some.inj ran).symm, here⟩
    · rename_i enlace nothing
      rw [folder] at nothing occupied
      exact absurd occupied (ocupante_libre nothing y)
  | cons primera antes ih =>
    obtain ⟨etiqueta, root⟩ := primera
    obtain ⟨entries, folder⟩ := folders (etiqueta, root) (by simp)
    simp only at folder
    subst folder
    have own_free := free _ List.mem_cons_self
    simp only [List.cons_append, ganadorEclipsante] at ran
    split at ran
    · cases ran
    · rename_i enlace here
      exfalso
      cases enlace with
      | none =>
        obtain ⟨x, owned, _, _⟩ := ocupante_nodo here
        exact own_free x ⟨ruta, [], by simp, owned, Or.inl rfl⟩
      | some enlace =>
        obtain ⟨x, occ, _⟩ := ocupante_enlace here
        exact own_free x occ
    · exact ih (fun c member => folders c (List.mem_cons_of_mem _ member))
        (fun c member => free c (List.mem_cons_of_mem _ member)) ran

/-- A file that something else stands for in the highest occupied layer is not effective. -/
theorem eclipsado_no_conforme {modsDir dataRoot root y : Nodo} {nombre : String}
    {roots antes despues : List (Capa × Nodo)} {capa : Capa} {ruta : List String} {a : Archivo}
    (fiable : Fiable e modsDir dataRoot) (ofArtifact : Entrega e.nombres modsDir dataRoot a)
    (found : carpetaDe e.nombres modsDir dataRoot capa = some root)
    (split : roots = antes ++ (capa, root) :: despues)
    (folders : ∀ c ∈ roots, ∃ entries, c.2 = .folder 0 entries)
    (free : ∀ c ∈ antes, Libre e.nombres.fold c.2 (nombre :: ruta))
    (occupied : Ocupa e.nombres.fold root (nombre :: ruta) y)
    (other : ∀ espejo, y = .file espejo → espejo.regular = true → espejo.bytes ≠ a.bytes) :
    ¬ Conforme e nombre roots (.file ruta a) := by
  subst split
  intro ⟨g, asked, fine⟩
  obtain ⟨enlace, rfl, here⟩ := eclipsa_la_mas_alta folders free occupied asked
  obtain ⟨noLink, espejo, mirror, regular, sameBytes⟩ := fine _ rfl
  obtain ⟨entries, folder⟩ := folders (capa, root) (by simp)
  simp only at folder noLink mirror here
  subst folder noLink
  obtain ⟨x, owned, descended, _⟩ := ocupante_nodo here
  rw [mirror] at descended
  cases descended
  have ofMirror : Entrega e.nombres modsDir dataRoot espejo := ⟨_, _, _, found, owned⟩
  obtain ⟨camino, resto, eq, ownedY, last⟩ := occupied
  have through : Node.own? e.nombres.fold (.folder 0 entries) (camino ++ resto) = _ :=
    own_append camino resto _
  rw [← eq, owned, ownedY, Option.bind_some] at through
  by_cases ends : resto = []
  · subst ends
    cases through
    exact other espejo rfl regular (fiable.mismos ofArtifact ofMirror sameBytes).symm
  · -- the path goes on behind a link, so no file of the layer's own is at its end
    have link := last.resolve_left ends
    rw [own_of_link link ends] at through
    cases through

def minusculas (s : String) : String := String.ofList (s.toList.map Char.toLower)

/-- A digest without collisions and a file system like the one of Windows. -/
def windows : Entorno (List UInt8) := ⟨⟨minusculas, minusculas⟩, id⟩

def carpeta : List (String × Nodo) → Nodo := fun hijos =>
  .folder 0 (hijos.foldr (fun h resto => .cons h.1 h.2 resto) .nil)

def lod : Archivo := ⟨true, 1, 0, [7, 7]⟩

def artifactLod : Nodo := carpeta [("a.dds", .file lod)]

/-- `overwrite` holds the file of the artifact too, under a name of another letter case. -/
def modsLod : Nodo := carpeta [("TexGen", carpeta [("textures", artifactLod)])]

def dataLod (bytes : List UInt8) : Nodo :=
  carpeta [("overwrite", carpeta [("Textures", carpeta [("A.dds", .file ⟨true, 1, 0, bytes⟩)])])]

theorem entrega_sin_inodo {bytes : List UInt8} {a : Archivo}
    (gives : Entrega windows.nombres modsLod (dataLod bytes) a) : a.stIno = 0 := by
  obtain ⟨capa, root, ruta, found, owned⟩ := gives
  obtain ⟨q, _, member⟩ := walk_of_own owned
  cases capa with
  | mod nombre =>
    simp only [carpetaDe, Node.child?, modsLod, carpeta, Node.target, List.foldr,
      Entries.find?] at found
    split at found
    · cases found
      simp [Node.target, Node.walk, Entries.walk, Seen.under, artifactLod, carpeta] at member
      simp [member.2, lod]
    · cases found
  | overwrite =>
    simp only [carpetaDe, Node.child?, dataLod, carpeta, Node.target, List.foldr,
      Entries.find?] at found
    split at found
    · cases found
      simp [Node.target, Node.walk, Entries.walk, Seen.under] at member
      simp [member.2]
    · cases found

theorem fiable_lod (bytes : List UInt8) : Fiable windows modsLod (dataLod bytes) where
  mods := by simp [modsLod, artifactLod, carpeta, Node.Distinct, Entries.Distinct, Entries.find?]
  data := by simp [dataLod, carpeta, Node.Distinct, Entries.Distinct, Entries.find?]
  mayusculas := fun _ _ => Iff.rfl
  fisico := by
    intro a b fromA _ same
    simp [mismoArchivoFisico, entrega_sin_inodo fromA] at same
  sha256 := fun _ _ _ _ same => same

end ModEffectivity
