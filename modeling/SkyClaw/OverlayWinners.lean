import SkyClaw.FileTrees

set_option linter.all false

/-!
`indexar_ganadores`, in `ganadores.py`: which layer of a profile provides each
virtual path. The layers are read in increasing priority, so a later one replaces
what an earlier one gave.
-/
namespace Ganadores
open FileTrees

/-- What a `stat_result` and the content say of an entry that is neither a folder
nor a link. `regular` is `S_ISREG`. -/
structure Archivo where
  regular : Bool
  stDev : Nat
  stIno : Nat
  bytes : List UInt8
  deriving DecidableEq

abbrev Nodo := Node Archivo

inductive Capa where
  | mod (nombre : String)
  | overwrite
  deriving DecidableEq

/-- The messages of `GanadoresError`, with what each of them quotes. -/
inductive GanadoresError where
  | nombreInvalido (nombre : String)
  | prefijoInvalido (prefijo : String)
  | topeInvalido (valor : Int)
  | raizAusente (etiqueta : String)
  | repetido (nombre : String)
  | noInspeccionable (capa : Capa)
  | esEnlace (capa : Capa) (tipo : LinkKind)
  | noEsCarpeta (capa : Capa)
  | modAusente (nombre : String)
  | topeSuperado (prefijo : String) (tope : Int)
  | noRecorrible
  deriving DecidableEq

def exigirNombreDeMod (nombre : String) : Except GanadoresError Unit :=
  if nombre = "" ∨ nombre = "." ∨ nombre = ".." ∨
      nombre.toList.any fun c => c ∈ ['/', '\\', ':', '\x00'] then
    .error (.nombreInvalido nombre)
  else .ok ()

def exigirPrefijo (prefijo : String) : Except GanadoresError (List String) :=
  let normalizado := prefijo.toList.map fun c => if c = '\\' then '/' else c
  let partes := (normalizado.splitOn '/').map String.ofList
  if prefijo = "" ∨ (partes.any fun p => p = "" ∨ p = "." ∨ p = "..") ∨
      ':' ∈ prefijo.toList ∨ '\x00' ∈ prefijo.toList then
    .error (.prefijoInvalido prefijo)
  else .ok partes

def exigirTope (valor : Int) : Except GanadoresError Int :=
  if valor < 1 then .error (.topeInvalido valor) else .ok valor

def exigirRaiz (etiqueta : String) (raiz : Nodo) : Except GanadoresError Unit :=
  if raiz.isDir then .ok () else .error (.raizAusente etiqueta)

/-- How names are compared: `fold` by the file system and `lower` by `str.lower`. -/
structure Nombres where
  fold : String → String
  lower : String → String

variable (nombres : Nombres)

def exigirSinRepetir : List String → List String → Except GanadoresError Unit
  | _, [] => .ok ()
  | vistos, nombre :: resto => do
    exigirNombreDeMod nombre
    if nombres.lower nombre ∈ vistos then
      .error (.repetido nombre)
    else exigirSinRepetir (nombres.lower nombre :: vistos) resto

def exigirEnabled (enabled : List String) : Except GanadoresError (List String) := do
  exigirSinRepetir nombres [] enabled
  .ok enabled

/-- A folder with a reparse tag of its own is not a folder to be walked either. -/
def esCarpetaPropia (capa : Capa) : Option Nodo → Except GanadoresError Bool
  | none => .ok false
  | some .unreadable => .error (.noInspeccionable capa)
  | some (.link tipo _) => .error (.esEnlace capa tipo)
  | some (.dangling tipo) => .error (.esEnlace capa tipo)
  | some (.file _) => .error (.noEsCarpeta capa)
  | some (.folder tag _) => if tag ≠ 0 then .error (.noInspeccionable capa) else .ok true

structure GanadorDeRuta where
  rutaVirtual : List String
  capa : Capa
  archivo : Archivo
  deriving DecidableEq

/-- The path in lower case, by its components: no name contains a slash. -/
abbrev Clave := List String

/-- The dictionary of the winners. -/
structure GanadoresDelPerfil where
  ganadores : List (Clave × GanadorDeRuta)
  deriving DecidableEq

def clave (ruta : List String) : Clave := ruta.map nombres.lower

def GanadoresDelPerfil.ganador (g : GanadoresDelPerfil) (ruta : List String) :
    Option GanadorDeRuta := g.ganadores.lookup (clave nombres ruta)

def GanadoresDelPerfil.pisar (g : GanadoresDelPerfil) (k : Clave) (v : GanadorDeRuta) :
    GanadoresDelPerfil := ⟨(k, v) :: g.ganadores.filter fun e => e.1 ≠ k⟩

def sufijoOculto : String := ".mohidden"

def esOculto (parte : String) : Bool :=
  sufijoOculto.toList.isSuffixOf (nombres.lower parte).toList

structure Recorrido where
  indice : GanadoresDelPerfil
  visitados : Int

/-- One file of a layer. -/
def visitar (prefijo : String) (tope : Int) (partesDelPrefijo : List String) (capa : Capa)
    (r : Recorrido) : Seen Archivo → Except GanadoresError Recorrido
  | .failed => .error .noRecorrible
  | .file partes archivo =>
    let visitados := r.visitados + 1
    if visitados > tope then .error (.topeSuperado prefijo tope)
    else if partes.any (esOculto nombres) then .ok { r with visitados }
    else
      let relativa := partesDelPrefijo ++ partes
      .ok { indice := r.indice.pisar (clave nombres relativa) ⟨relativa, capa, archivo⟩, visitados }

/-- `iter_archivos_propios` of `raiz.joinpath(*partes)`. -/
def archivosDe (raiz : Nodo) (partesDelPrefijo : List String) : List (Seen Archivo) :=
  match raiz.descend nombres.fold partesDelPrefijo with
  | none => []
  | some base => base.walk

def recorrerCapa (prefijo : String) (tope : Int) (partesDelPrefijo : List String)
    (r : Recorrido) (capa : Capa × Nodo) : Except GanadoresError Recorrido :=
  (archivosDe nombres capa.2 partesDelPrefijo).foldlM
    (visitar nombres prefijo tope partesDelPrefijo capa.1) r

def capaDeMod (modsDir : Nodo) (nombre : String) : Except GanadoresError (Capa × Nodo) := do
  let raiz := modsDir.child? nombres.fold nombre
  let propia ← esCarpetaPropia (.mod nombre) raiz
  match propia, raiz with
  | true, some nodo => .ok (.mod nombre, nodo)
  | _, _ => .error (.modAusente nombre)

def capaOverwrite (dataRoot : Nodo) : Except GanadoresError (List (Capa × Nodo)) := do
  let raiz := dataRoot.child? nombres.fold "overwrite"
  let propia ← esCarpetaPropia .overwrite raiz
  match propia, raiz with
  | true, some nodo => .ok [(.overwrite, nodo)]
  | _, _ => .ok []

def topeDeArchivosPorDefecto : Int := 2000000

def indexarGanadores (modsDir dataRoot : Nodo) (enabled : List String) (prefijo : String)
    (maximoDeArchivos : Int) : Except GanadoresError GanadoresDelPerfil := do
  let tope ← exigirTope maximoDeArchivos
  let partesDelPrefijo ← exigirPrefijo prefijo
  exigirRaiz "mods_dir" modsDir
  exigirRaiz "data_root" dataRoot
  let mods ← exigirEnabled nombres enabled
  let capas ← mods.mapM (capaDeMod nombres modsDir)
  let overwrite ← capaOverwrite nombres dataRoot
  let final ← (capas ++ overwrite).foldlM
    (recorrerCapa nombres prefijo tope partesDelPrefijo) ⟨⟨[]⟩, 0⟩
  .ok final.indice

theorem bind_ok {ε α β : Type} {x : Except ε α} {f : α → Except ε β} {b : β}
    (ran : (x >>= f) = .ok b) : ∃ a, x = .ok a ∧ f a = .ok b := by
  cases x with
  | error err => cases ran
  | ok a => exact ⟨a, rfl, ran⟩

theorem mapM_ok {ε α β : Type} {f : α → Except ε β} {l : List α} {r : List β}
    (ran : l.mapM f = .ok r) : List.Forall₂ (fun a b => f a = .ok b) l r := by
  induction l generalizing r with
  | nil =>
    simp only [List.mapM_nil, pure, Except.pure, Except.ok.injEq] at ran
    subst ran
    exact .nil
  | cons a l ih =>
    rw [List.mapM_cons] at ran
    obtain ⟨b, first, ran⟩ := bind_ok ran
    obtain ⟨bs, rest, ran⟩ := bind_ok ran
    simp only [pure, Except.pure, Except.ok.injEq] at ran
    subst ran
    exact .cons first (ih rest)

variable {nombres : Nombres}

theorem lookup_filter {k k' : Clave} (other : k' ≠ k) (l : List (Clave × GanadorDeRuta)) :
    (l.filter fun entrada => entrada.1 ≠ k).lookup k' = l.lookup k' := by
  induction l with
  | nil => rfl
  | cons entrada l ih =>
    obtain ⟨propia, v⟩ := entrada
    by_cases same : propia = k
    · subst same
      have skip : (k' == propia) = false := by simpa using other
      simpa [List.lookup_cons, skip] using ih
    · simp only [ne_eq, same, not_false_eq_true, decide_true, List.filter_cons_of_pos,
        List.lookup_cons]
      rw [← ih]

theorem lookup_pisar (g : GanadoresDelPerfil) (k k' : Clave) (v : GanadorDeRuta) :
    (g.pisar k v).ganadores.lookup k' =
      if k' = k then some v else g.ganadores.lookup k' := by
  by_cases same : k' = k
  · simp [GanadoresDelPerfil.pisar, same]
  · have skip : (k' == k) = false := by simpa using same
    simp only [GanadoresDelPerfil.pisar, List.lookup_cons, skip, same, if_false]
    exact lookup_filter same g.ganadores

/-- A file that the walk meets and that no name on its way hides. -/
def Visto (nombres : Nombres) (prefijo : List String) (k : Clave) (vistos : List (Seen Archivo))
    (a : Archivo) : Prop :=
  ∃ ruta, Seen.file ruta a ∈ vistos ∧ ruta.any (esOculto nombres) = false ∧
    clave nombres (prefijo ++ ruta) = k

/-- A layer provides a path. -/
def Provee (nombres : Nombres) (prefijo : List String) (k : Clave) (raiz : Nodo) (a : Archivo) :
    Prop := Visto nombres prefijo k (archivosDe nombres raiz prefijo) a

theorem visitar_buscar {prefijo : String} {tope : Int} {partes ruta : List String} {capa : Capa}
    {r r' : Recorrido} {a : Archivo}
    (ran : visitar nombres prefijo tope partes capa r (.file ruta a) = .ok r') (k : Clave) :
    r'.indice.ganadores.lookup k =
      if ruta.any (esOculto nombres) = false ∧ k = clave nombres (partes ++ ruta) then
        some ⟨partes ++ ruta, capa, a⟩
      else r.indice.ganadores.lookup k := by
  simp only [visitar] at ran
  split at ran
  · cases ran
  split at ran
  · rename_i hidden
    obtain rfl := Except.ok.inj ran
    simp [hidden]
  · rename_i visible
    obtain rfl := Except.ok.inj ran
    simp [lookup_pisar, visible]

/-- After a layer, a path has a file of the layer as its winner or what it had before. -/
theorem recorrido_elige {prefijo : String} {tope : Int} {partes : List String} {capa : Capa}
    {vistos : List (Seen Archivo)} {r r' : Recorrido}
    (ran : vistos.foldlM (visitar nombres prefijo tope partes capa) r = .ok r') (k : Clave) :
    (∃ ruta a, (Seen.file ruta a ∈ vistos ∧ ruta.any (esOculto nombres) = false ∧
        clave nombres (partes ++ ruta) = k) ∧
      r'.indice.ganadores.lookup k = some ⟨partes ++ ruta, capa, a⟩) ∨
    ((∀ a, ¬ Visto nombres partes k vistos a) ∧
      r'.indice.ganadores.lookup k = r.indice.ganadores.lookup k) := by
  induction vistos generalizing r with
  | nil =>
    simp only [List.foldlM_nil, pure, Except.pure, Except.ok.injEq] at ran
    subst ran
    right
    refine ⟨?_, rfl⟩
    intro a ⟨ruta, member, _⟩
    cases member
  | cons visto vistos ih =>
    rw [List.foldlM_cons] at ran
    obtain ⟨mid, first, rest⟩ := bind_ok ran
    rcases ih rest with ⟨ruta, a, ⟨member, visible, same⟩, found⟩ | ⟨none_later, kept⟩
    · exact Or.inl ⟨ruta, a, ⟨List.mem_cons_of_mem _ member, visible, same⟩, found⟩
    cases visto with
    | failed => cases first
    | file ruta a =>
      have step := visitar_buscar first k
      by_cases here : ruta.any (esOculto nombres) = false ∧ k = clave nombres (partes ++ ruta)
      · left
        rw [if_pos here] at step
        exact ⟨ruta, a, ⟨List.mem_cons_self, here.1, here.2.symm⟩, kept.trans step⟩
      · right
        rw [if_neg here] at step
        refine ⟨?_, kept.trans step⟩
        intro b ⟨otra, member, visible, same⟩
        rcases List.mem_cons.mp member with head | later
        · cases head
          exact here ⟨visible, same.symm⟩
        · exact none_later b ⟨otra, later, visible, same⟩

theorem recorrido_buscar {prefijo : String} {tope : Int} {partes : List String} {capa : Capa}
    {vistos : List (Seen Archivo)} {r r' : Recorrido}
    (ran : vistos.foldlM (visitar nombres prefijo tope partes capa) r = .ok r') (k : Clave) :
    (∃ relativa a, Visto nombres partes k vistos a ∧
      r'.indice.ganadores.lookup k = some ⟨relativa, capa, a⟩) ∨
    ((∀ a, ¬ Visto nombres partes k vistos a) ∧
      r'.indice.ganadores.lookup k = r.indice.ganadores.lookup k) := by
  rcases recorrido_elige ran k with ⟨ruta, a, seen, found⟩ | kept
  · exact Or.inl ⟨partes ++ ruta, a, ⟨ruta, seen⟩, found⟩
  · exact Or.inr kept

/-- Layers that do not provide a path leave its winner alone. -/
theorem capas_sin_ruta {prefijo : String} {tope : Int} {partes : List String}
    {capas : List (Capa × Nodo)} {r r' : Recorrido} {k : Clave}
    (ran : capas.foldlM (recorrerCapa nombres prefijo tope partes) r = .ok r')
    (none_gives : ∀ capa ∈ capas, ∀ a, ¬ Provee nombres partes k capa.2 a) :
    r'.indice.ganadores.lookup k = r.indice.ganadores.lookup k := by
  induction capas generalizing r with
  | nil =>
    simp only [List.foldlM_nil, pure, Except.pure, Except.ok.injEq] at ran
    rw [ran]
  | cons capa capas ih =>
    rw [List.foldlM_cons] at ran
    obtain ⟨mid, first, rest⟩ := bind_ok ran
    have later := ih rest fun c member => none_gives c (List.mem_cons_of_mem _ member)
    rcases recorrido_buscar first k with ⟨_, a, seen, _⟩ | ⟨_, kept⟩
    · exact absurd seen (none_gives capa List.mem_cons_self a)
    · exact later.trans kept

/-- The winner of a path is of the last layer that provides it. -/
theorem gana_la_ultima {prefijo : String} {tope : Int} {partes : List String}
    {antes despues : List (Capa × Nodo)} {capa : Capa × Nodo} {r r' : Recorrido} {k : Clave}
    {a : Archivo}
    (ran : (antes ++ capa :: despues).foldlM (recorrerCapa nombres prefijo tope partes) r = .ok r')
    (gives : Provee nombres partes k capa.2 a)
    (none_later : ∀ c ∈ despues, ∀ b, ¬ Provee nombres partes k c.2 b) :
    ∃ relativa b, Provee nombres partes k capa.2 b ∧
      r'.indice.ganadores.lookup k = some ⟨relativa, capa.1, b⟩ := by
  rw [List.foldlM_append] at ran
  obtain ⟨r₁, _, ran⟩ := bind_ok ran
  rw [List.foldlM_cons] at ran
  obtain ⟨r₂, own, rest⟩ := bind_ok ran
  have kept := capas_sin_ruta rest none_later
  rcases recorrido_buscar own k with ⟨relativa, b, seen, found⟩ | ⟨absent, _⟩
  · exact ⟨relativa, b, seen, kept.trans found⟩
  · exact absurd gives (absent a)

/-- The folder of a layer. -/
def carpetaDe (nombres : Nombres) (modsDir dataRoot : Nodo) : Capa → Option Nodo
  | .mod nombre => modsDir.child? nombres.fold nombre
  | .overwrite => dataRoot.child? nombres.fold "overwrite"

/-- The layers of a profile that exist, with their folders. -/
def capasDe (nombres : Nombres) (modsDir dataRoot : Nodo) (capas : List Capa) :
    List (Capa × Nodo) :=
  capas.filterMap fun capa => (carpetaDe nombres modsDir dataRoot capa).map (capa, ·)

theorem esCarpetaPropia_ok {capa : Capa} {raiz : Option Nodo} {propia : Bool}
    (ran : esCarpetaPropia capa raiz = .ok propia) :
    (raiz = none ∧ propia = false) ∨
      ∃ entries, raiz = some (.folder 0 entries) ∧ propia = true := by
  fun_cases esCarpetaPropia capa raiz with
  | case1 => exact Or.inl ⟨rfl, by simpa [esCarpetaPropia] using ran.symm⟩
  | case7 tag entries zero =>
    simp only [esCarpetaPropia, zero, if_false, Except.ok.injEq] at ran
    have tag_zero : tag = 0 := by simpa using zero
    exact Or.inr ⟨entries, by rw [tag_zero], ran.symm⟩
  | case6 tag entries reparse => simp [esCarpetaPropia, reparse] at ran
  | _ => simp [esCarpetaPropia] at ran

theorem capaDeMod_ok (dataRoot : Nodo) {modsDir : Nodo} {nombre : String} {capa : Capa × Nodo}
    (ran : capaDeMod nombres modsDir nombre = .ok capa) :
    ∃ entries, carpetaDe nombres modsDir dataRoot (.mod nombre) = some (.folder 0 entries) ∧
      capa = (.mod nombre, .folder 0 entries) := by
  simp only [capaDeMod] at ran
  obtain ⟨propia, inspected, ran⟩ := bind_ok ran
  rcases esCarpetaPropia_ok inspected with ⟨absent, rfl⟩ | ⟨entries, found, rfl⟩
  · rw [absent] at ran
    cases ran
  · rw [found] at ran
    exact ⟨entries, found, (Except.ok.inj ran).symm⟩

theorem capaOverwrite_ok (modsDir : Nodo) {dataRoot : Nodo} {capas : List (Capa × Nodo)}
    (ran : capaOverwrite nombres dataRoot = .ok capas) :
    capas = capasDe nombres modsDir dataRoot [.overwrite] ∧
      ∀ capa ∈ capas, ∃ entries, capa.2 = .folder 0 entries := by
  simp only [capaOverwrite] at ran
  obtain ⟨propia, inspected, ran⟩ := bind_ok ran
  rcases esCarpetaPropia_ok inspected with ⟨absent, rfl⟩ | ⟨entries, found, rfl⟩
  · rw [absent] at ran
    obtain rfl := Except.ok.inj ran
    simp [capasDe, carpetaDe, absent]
  · rw [found] at ran
    obtain rfl := Except.ok.inj ran
    simp [capasDe, carpetaDe, found]

theorem capas_de_mods (dataRoot : Nodo) {modsDir : Nodo} {mods : List String} {capas : List (Capa × Nodo)}
    (ran : List.Forall₂ (fun m capa => capaDeMod nombres modsDir m = .ok capa) mods capas) :
    capas = capasDe nombres modsDir dataRoot (mods.map .mod) ∧
      ∀ m ∈ mods, ∃ entries,
        carpetaDe nombres modsDir dataRoot (.mod m) = some (.folder 0 entries) := by
  induction ran with
  | nil => simp [capasDe]
  | cons first _ ih =>
    obtain ⟨same, folders⟩ := ih
    obtain ⟨entries, found, rfl⟩ := capaDeMod_ok dataRoot first
    constructor
    · simp [capasDe, found, same]
    · intro m member
      rcases List.mem_cons.mp member with rfl | later
      · exact ⟨entries, found⟩
      · exact folders m later

theorem exigirEnabled_ok {enabled mods : List String}
    (ran : exigirEnabled nombres enabled = .ok mods) : mods = enabled := by
  simp only [exigirEnabled] at ran
  obtain ⟨_, _, ran⟩ := bind_ok ran
  exact (Except.ok.inj ran).symm

/-- The index is one walk over the layers, the mods first and `overwrite` last. -/
theorem indexar_ok {modsDir dataRoot : Nodo} {enabled : List String} {prefijo : String}
    {maximo : Int} {g : GanadoresDelPerfil}
    (ran : indexarGanadores nombres modsDir dataRoot enabled prefijo maximo = .ok g) :
    ∃ tope partes r, exigirPrefijo prefijo = .ok partes ∧
      (capasDe nombres modsDir dataRoot (enabled.map .mod ++ [.overwrite])).foldlM
        (recorrerCapa nombres prefijo tope partes) ⟨⟨[]⟩, 0⟩ = .ok r ∧ g = r.indice ∧
      ∀ m ∈ enabled, ∃ entries,
        carpetaDe nombres modsDir dataRoot (.mod m) = some (.folder 0 entries) := by
  simp only [indexarGanadores] at ran
  obtain ⟨tope, _, ran⟩ := bind_ok ran
  obtain ⟨partes, onPrefix, ran⟩ := bind_ok ran
  obtain ⟨_, _, ran⟩ := bind_ok ran
  obtain ⟨_, _, ran⟩ := bind_ok ran
  obtain ⟨mods, onEnabled, ran⟩ := bind_ok ran
  obtain ⟨capas, onMods, ran⟩ := bind_ok ran
  obtain ⟨overwrite, onOverwrite, ran⟩ := bind_ok ran
  obtain ⟨r, walked, ran⟩ := bind_ok ran
  have final := Except.ok.inj ran
  obtain rfl := exigirEnabled_ok onEnabled
  obtain ⟨capas_eq, folders⟩ := capas_de_mods dataRoot (mapM_ok onMods)
  have overwrite_eq := (capaOverwrite_ok modsDir onOverwrite).1
  refine ⟨tope, partes, r, onPrefix, ?_, final.symm, folders⟩
  rw [capasDe, List.filterMap_append, ← capasDe, ← capasDe, ← capas_eq, ← overwrite_eq]
  exact walked

end Ganadores
