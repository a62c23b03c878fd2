import Mathlib.Data.List.AList
import SkyClaw.TextLines
import SkyClaw.TransitionRuns

set_option linter.all false

/-!
`MO2PluginStateProvider`: the index of the files of the mods, rebuilt when a mark of
what it was built from has changed.
-/
namespace PluginStates
open TrimmedText TextLines

local instance lawfulBEq_nombre : LawfulBEq (List Char) := inferInstance

inductive FileState where
  | active
  | inactive
  | missing
  deriving DecidableEq

/-- `ValueError` of a path with a NUL in it. -/
inductive Fallo where
  | embeddedNull
  deriving DecidableEq

/-! The disk -/

/-- What stands at a path: its `st_mtime_ns`, and for a directory the files in it. -/
structure Entrada where
  mtime : Nat
  esDir : Bool
  archivos : List Texto
  deriving DecidableEq

structure Disco (Dir : Type) where
  modlist : Option Texto
  raiz : Option Nat
  entradas : Dir → Option Entrada

/-- Where paths lead: the directory of `mods/<name>`, and the directories strictly below
one with their relative paths, each with its slash. -/
structure Rutas (Dir : Type) where
  donde : Texto → Dir
  bajo : Dir → List (Texto × Dir)

variable {Dir : Type} (r : Rutas Dir) (casefold : Texto → Texto)

def dataPrefix : Texto := "data/".toList

def normalize (path : Texto) : Texto :=
  let normalized := casefold (path.map fun c => if c = '\\' then '/' else c)
  if dataPrefix.isPrefixOf normalized then normalized.drop dataPrefix.length else normalized

def mtimeNs (d : Disco Dir) (modName : Texto) : Except Fallo (Option Nat) :=
  if Char.ofNat 0 ∈ modName then .error .embeddedNull
  else .ok ((d.entradas (r.donde modName)).map Entrada.mtime)

def archivosDe (d : Disco Dir) (rel : Texto) (dir : Dir) : List Texto :=
  match d.entradas dir with
  | none => []
  | some e => if e.esDir then e.archivos.map fun f => normalize casefold (rel ++ f) else []

def scanMod (d : Disco Dir) (modName : Texto) : List Texto :=
  match d.entradas (r.donde modName) with
  | none => []
  | some e =>
    if e.esDir then
      (([], r.donde modName) :: r.bajo (r.donde modName)).flatMap fun k => archivosDe casefold d k.1 k.2
    else []

/-! `modlist.txt` -/

def agrega (vistos : List Texto) (n : Texto) : List Texto :=
  if n ∈ vistos then vistos else vistos ++ [n]

/-- The mods of a list: enabled and disabled. -/
structure Mods where
  enabled : List Texto
  disabled : List Texto
  deriving DecidableEq

def leeLinea (m : Mods) (rawLine : Texto) : Mods :=
  match strip isspace rawLine with
  | [] => m
  | c :: t =>
    if "==".toList.isPrefixOf (c :: t) then m
    else if c ≠ '+' ∧ c ≠ '-' then m
    else
      let name := strip isspace t
      if name = [] then m
      else if c = '+' then { m with enabled := agrega m.enabled name }
      else { m with disabled := agrega m.disabled name }

def readModlist (modlist : Option Texto) : Mods :=
  match modlist with
  | none => ⟨[], []⟩
  | some t => (splitlines t).foldl leeLinea ⟨[], []⟩

def leerModlistCrudo (modlist : Option Texto) : Texto := modlist.getD []

def Mods.conocidos (m : Mods) : List Texto := m.enabled ++ m.disabled.filter (· ∉ m.enabled)

/-! The provider -/

structure Proveedor where
  activeFiles : List Texto
  inactiveFiles : List Texto
  indexed : Bool
  modlistSnapshot : Option Texto
  modsRootMtime : Option Nat
  modPaths : AList fun _ : Texto => List Texto
  modMtimes : AList fun _ : Texto => Option Nat

def Proveedor.nuevo : Proveedor := ⟨[], [], false, none, none, ∅, ∅⟩

def Proveedor.paths (p : Proveedor) (modName : Texto) : List Texto := (p.modPaths.lookup modName).getD []

/-- `any` over the known mods, in the order of the set. -/
def algunoCambio (d : Disco Dir) (p : Proveedor) : List Texto → Except Fallo Bool
  | [] => .ok false
  | n :: ns =>
    match mtimeNs r d n with
    | .error e => .error e
    | .ok mtime => if p.modMtimes.lookup n ≠ some mtime then .ok true else algunoCambio d p ns

def estadoCambio (d : Disco Dir) (orden : List Texto) (p : Proveedor) : Except Fallo Bool :=
  if !p.indexed then .ok true
  else if p.modlistSnapshot ≠ some (leerModlistCrudo d.modlist) then .ok true
  else if p.modsRootMtime ≠ d.raiz then .ok true
  else
    let conocidos := (readModlist d.modlist).conocidos
    if ¬ (conocidos ⊆ p.modMtimes.keys ∧ p.modMtimes.keys ⊆ conocidos) then .ok true
    else algunoCambio r d p orden

/-- One turn of the loop of `_rebuild`. -/
def reindexa (d : Disco Dir) (p : Proveedor) (modName : Texto) : Except Fallo Proveedor :=
  match mtimeNs r d modName with
  | .error e => .error e
  | .ok none =>
    .ok { p with modPaths := p.modPaths.erase modName, modMtimes := p.modMtimes.insert modName none }
  | .ok (some mtime) =>
    if p.modMtimes.lookup modName ≠ some (some mtime) then
      .ok { p with
        modPaths := p.modPaths.insert modName (scanMod r casefold d modName)
        modMtimes := p.modMtimes.insert modName (some mtime) }
    else .ok p

/-- The loop: what an exception leaves of the provider comes with it. -/
def reindexaTodos (d : Disco Dir) : List Texto → Proveedor → Option Fallo × Proveedor
  | [], p => (none, p)
  | n :: ns, p =>
    match reindexa r casefold d p n with
    | .error e => (some e, p)
    | .ok q => reindexaTodos d ns q

def olvida (conocidos : List Texto) (p : Proveedor) : Proveedor :=
  (p.modMtimes.keys.filter (· ∉ conocidos)).foldl (fun p n =>
    { p with modMtimes := p.modMtimes.erase n, modPaths := p.modPaths.erase n }) p

def rebuild (d : Disco Dir) (orden : List Texto) (p : Proveedor) : Option Fallo × Proveedor :=
  let mods := readModlist d.modlist
  match reindexaTodos r casefold d orden p with
  | (some e, p) => (some e, p)
  | (none, p) =>
    let p := olvida mods.conocidos p
    (none, { p with
      activeFiles := mods.enabled.flatMap p.paths
      inactiveFiles := mods.disabled.flatMap p.paths
      modlistSnapshot := some (leerModlistCrudo d.modlist)
      modsRootMtime := d.raiz
      indexed := true })

def clasifica (p : Proveedor) (path : Texto) : FileState :=
  let key := normalize casefold path
  if key ∈ p.activeFiles then .active else if key ∈ p.inactiveFiles then .inactive else .missing

/-- `file_state`; `orden` is the order in which the set of the known mods is gone through. -/
def fileState (d : Disco Dir) (orden : List Texto) (p : Proveedor) (path : Texto) :
    Except Fallo FileState × Proveedor :=
  match estadoCambio r d orden p with
  | .error e => (.error e, p)
  | .ok false => (.ok (clasifica casefold p path), p)
  | .ok true =>
    match rebuild r casefold d orden p with
    | (some e, p) => (.error e, p)
    | (none, p) => (.ok (clasifica casefold p path), p)

/-! Runs -/

structure Estado (Dir : Type) where
  disco : Disco Dir
  /-- The modification times that each directory has had. -/
  mtimes : Dir → List Nat
  proveedor : Proveedor

inductive Evento (Dir : Type) where
  | escribeModlist (texto : Option Texto)
  | tocaRaiz (mtime : Option Nat)
  | cambia (dir : Dir) (nueva : Option Entrada)
  | llama (path : Texto) (orden : List Texto)

def Disco.cambia [DecidableEq Dir] (d : Disco Dir) (dir : Dir) (nueva : Option Entrada) : Disco Dir :=
  { d with entradas := fun k => if k = dir then nueva else d.entradas k }

/-- A change gives its directory a modification time it has not had. -/
def step [DecidableEq Dir] (s : Estado Dir) : Evento Dir → Option (Estado Dir)
  | .escribeModlist texto => some { s with disco := { s.disco with modlist := texto } }
  | .tocaRaiz mtime => some { s with disco := { s.disco with raiz := mtime } }
  | .cambia dir nueva =>
    match nueva with
    | none => some { s with disco := s.disco.cambia dir none }
    | some e =>
      if e.mtime ∈ s.mtimes dir then none
      else some { s with
        disco := s.disco.cambia dir (some e)
        mtimes := fun k => if k = dir then e.mtime :: s.mtimes k else s.mtimes k }
  | .llama path orden =>
    if orden.Perm (readModlist s.disco.modlist).conocidos then
      some { s with proveedor := (fileState r casefold s.disco orden s.proveedor path).2 }
    else none

/-- A provider just built over a disk whose modification times are known. -/
def Inicio (s : Estado Dir) : Prop :=
  s.proveedor = .nuevo ∧ ∀ dir e, s.disco.entradas dir = some e → e.mtime ∈ s.mtimes dir

/-- What keeps the cache sound: no change strictly below the directory of a mod that
the provider has scanned, and no call with a NUL in the name of a mod. -/
def Cuidado (s : Estado Dir) : Evento Dir → Prop
  | .cambia dir _ => ∀ n ∈ s.proveedor.modMtimes.keys, ∀ k ∈ r.bajo (r.donde n), k.2 ≠ dir
  | .llama _ _ => ∀ n ∈ (readModlist s.disco.modlist).conocidos, Char.ofNat 0 ∉ n
  | _ => True

/-! What the cache knows -/

variable {r casefold}

def mtimeDe (r : Rutas Dir) (d : Disco Dir) (n : Texto) : Option Nat := (d.entradas (r.donde n)).map Entrada.mtime

/-- The cache of a mod has the modification time of its directory. -/
def AlDia (r : Rutas Dir) (d : Disco Dir) (p : Proveedor) (n : Texto) : Prop :=
  p.modMtimes.lookup n = some (mtimeDe r d n)

/-- What is cached of a mod is its scan while its modification time is the one cached. -/
structure Fiel (r : Rutas Dir) (casefold : Texto → Texto) (d : Disco Dir) (mtimes : Dir → List Nat)
    (p : Proveedor) : Prop where
  vistos : ∀ n t, p.modMtimes.lookup n = some (some t) → t ∈ mtimes (r.donde n)
  actual : ∀ n, AlDia r d p n → p.paths n = scanMod r casefold d n
  ausente : ∀ n, p.modMtimes.lookup n = some none → p.paths n = []
  sinNulos : ∀ n ∈ p.modMtimes, Char.ofNat 0 ∉ n

/-- The index of a provider that has one. -/
def Indexado (p : Proveedor) : Prop :=
  p.indexed = true → ∃ t, p.modlistSnapshot = some t ∧
    (∀ n, n ∈ p.modMtimes ↔ n ∈ (readModlist (some t)).conocidos) ∧
    p.activeFiles = (readModlist (some t)).enabled.flatMap p.paths ∧
    p.inactiveFiles = (readModlist (some t)).disabled.flatMap p.paths

def Fechados (d : Disco Dir) (mtimes : Dir → List Nat) : Prop :=
  ∀ dir e, d.entradas dir = some e → e.mtime ∈ mtimes dir

theorem readModlist_crudo (modlist : Option Texto) :
    readModlist (some (leerModlistCrudo modlist)) = readModlist modlist := by
  cases modlist with
  | none => rfl
  | some t => rfl

theorem mem_conocidos {m : Mods} {n : Texto} : n ∈ m.conocidos ↔ n ∈ m.enabled ∨ n ∈ m.disabled := by
  simp only [Mods.conocidos, List.mem_append, List.mem_filter, decide_not, Bool.not_eq_true',
    decide_eq_false_iff_not]
  tauto

theorem mtimeNs_ok {d : Disco Dir} {n : Texto} (clean : Char.ofNat 0 ∉ n) :
    mtimeNs r d n = .ok (mtimeDe r d n) := by
  rw [mtimeNs, if_neg clean]
  rfl

theorem mtimeNs_error {d : Disco Dir} {n : Texto} (nul : Char.ofNat 0 ∈ n) :
    mtimeNs r d n = .error .embeddedNull := by
  rw [mtimeNs, if_pos nul]

theorem scanMod_ausente {d : Disco Dir} {n : Texto} (absent : mtimeDe r d n = none) :
    scanMod r casefold d n = [] := by
  rw [mtimeDe, Option.map_eq_none_iff] at absent
  rw [scanMod, absent]

theorem lookup_insert_si (m : AList fun _ : Texto => β) (n k : Texto) (v : β) :
    (m.insert n v).lookup k = if k = n then some v else m.lookup k := by
  split
  · next same =>
    subst same
    exact AList.lookup_insert m
  · next other => exact AList.lookup_insert_ne other

theorem lookup_erase_si (m : AList fun _ : Texto => β) (n k : Texto) :
    (m.erase n).lookup k = if k = n then none else m.lookup k := by
  split
  · next same =>
    rw [same, AList.lookup_erase]
  · next other => exact AList.lookup_erase_ne other

/-- What a turn of the loop does: the mod is up to date, the others stay. -/
structure Puesto (r : Rutas Dir) (casefold : Texto → Texto) (d : Disco Dir) (p q : Proveedor)
    (n : Texto) : Prop where
  mtime : ∀ k, q.modMtimes.lookup k = if k = n then some (mtimeDe r d n) else p.modMtimes.lookup k
  paths : ∀ k, q.paths k = if k = n then scanMod r casefold d n else p.paths k

theorem reindexa_puesto {d : Disco Dir} {mtimes : Dir → List Nat} {p : Proveedor} {n : Texto}
    (faithful : Fiel r casefold d mtimes p) (clean : Char.ofNat 0 ∉ n) :
    ∃ q, reindexa r casefold d p n = .ok q ∧ Puesto r casefold d p q n := by
  unfold reindexa
  rw [mtimeNs_ok clean]
  cases mark : mtimeDe r d n with
  | none =>
    refine ⟨_, rfl, ?_, ?_⟩
    · intro k
      rw [mark]
      exact lookup_insert_si _ _ _ _
    · intro k
      rw [Proveedor.paths, lookup_erase_si]
      split
      · rw [scanMod_ausente mark]
        rfl
      · rfl
  | some t =>
    dsimp only
    split
    · refine ⟨_, rfl, ?_, ?_⟩
      · intro k
        rw [mark]
        exact lookup_insert_si _ _ _ _
      · intro k
        rw [Proveedor.paths, lookup_insert_si]
        split
        · rfl
        · rfl
    · next same =>
      have cached : AlDia r d p n := by
        rw [AlDia, mark]
        exact not_not.mp same
      refine ⟨p, rfl, ?_, ?_⟩
      · intro k
        split
        · next here =>
          subst here
          exact cached
        · rfl
      · intro k
        split
        · next here =>
          subst here
          exact faithful.actual k cached
        · rfl

theorem mem_iff_lookup {m : AList fun _ : Texto => β} {n : Texto} : n ∈ m ↔ ∃ v, m.lookup n = some v := by
  rw [← AList.lookup_isSome, Option.isSome_iff_exists]

theorem Puesto.mem {d : Disco Dir} {p q : Proveedor} {n : Texto} (put : Puesto r casefold d p q n) (k : Texto) :
    k ∈ q.modMtimes ↔ k = n ∨ k ∈ p.modMtimes := by
  rw [mem_iff_lookup, mem_iff_lookup, put.mtime]
  split
  · next here => simp [here]
  · next other => simp [other]

theorem Puesto.fiel {d : Disco Dir} {mtimes : Dir → List Nat} {p q : Proveedor} {n : Texto}
    (put : Puesto r casefold d p q n) (faithful : Fiel r casefold d mtimes p) (dated : Fechados d mtimes)
    (clean : Char.ofNat 0 ∉ n) : Fiel r casefold d mtimes q := by
  constructor
  · intro k t cached
    rw [put.mtime] at cached
    split at cached
    · next here =>
      subst here
      rw [Option.some.injEq, mtimeDe, Option.map_eq_some_iff] at cached
      obtain ⟨e, present, rfl⟩ := cached
      exact dated _ e present
    · exact faithful.vistos k t cached
  · intro k cached
    rw [AlDia, put.mtime] at cached
    rw [put.paths]
    split
    · next here => rw [here]
    · next other =>
      rw [if_neg other] at cached
      exact faithful.actual k cached
  · intro k cached
    rw [put.mtime] at cached
    rw [put.paths]
    split
    · next here =>
      rw [if_pos here, Option.some.injEq] at cached
      exact scanMod_ausente cached
    · next other =>
      rw [if_neg other] at cached
      exact faithful.ausente k cached
  · intro k mem
    rw [put.mem] at mem
    cases mem with
    | inl here => rw [here]; exact clean
    | inr before => exact faithful.sinNulos k before

/-! A rebuild -/

theorem reindexaTodos_ok {d : Disco Dir} {mtimes : Dir → List Nat} (dated : Fechados d mtimes)
    {ns : List Texto} (clean : ∀ n ∈ ns, Char.ofNat 0 ∉ n) {p : Proveedor}
    (faithful : Fiel r casefold d mtimes p) :
    ∃ q, reindexaTodos r casefold d ns p = (none, q) ∧ Fiel r casefold d mtimes q ∧
      (∀ n, n ∈ ns ∨ AlDia r d p n → AlDia r d q n) ∧ ∀ n ∈ ns, n ∈ q.modMtimes := by
  induction ns generalizing p with
  | nil =>
    refine ⟨p, rfl, faithful, ?_, List.forall_mem_nil _⟩
    intro n either
    exact either.resolve_left List.not_mem_nil
  | cons n ns ih =>
    rw [List.forall_mem_cons] at clean
    obtain ⟨p', turned, put⟩ := reindexa_puesto faithful clean.1
    obtain ⟨q, rest, faithful', updated, inside⟩ := ih clean.2 (put.fiel faithful dated clean.1)
    have kept : ∀ k, k = n ∨ AlDia r d p k → AlDia r d p' k := by
      intro k either
      rw [AlDia, put.mtime]
      split
      · next here => rw [here]
      · next other => exact either.resolve_left other
    have first : AlDia r d q n := updated n (Or.inr (kept n (Or.inl rfl)))
    refine ⟨q, ?_, faithful', ?_, ?_⟩
    · rw [reindexaTodos, turned]
      exact rest
    · intro k either
      apply updated
      rw [List.mem_cons, or_assoc] at either
      cases either with
      | inl here => exact Or.inr (kept k (Or.inl here))
      | inr either => exact either.imp id fun before => kept k (Or.inr before)
    · rw [List.forall_mem_cons]
      exact ⟨mem_iff_lookup.mpr ⟨_, first⟩, inside⟩

theorem reindexaTodos_error {d : Disco Dir} {ns : List Texto} {n : Texto} (mem : n ∈ ns)
    (nul : Char.ofNat 0 ∈ n) (p : Proveedor) :
    (reindexaTodos r casefold d ns p).1 = some .embeddedNull := by
  induction ns generalizing p with
  | nil => cases mem
  | cons k ns ih =>
    rw [reindexaTodos]
    by_cases first : Char.ofNat 0 ∈ k
    · rw [reindexa, mtimeNs_error first]
    · have other : n ∈ ns := by
        cases mem with
        | head => exact absurd nul first
        | tail _ later => exact later
      obtain ⟨q, turned⟩ : ∃ q, reindexa r casefold d p k = .ok q := by
        unfold reindexa
        rw [mtimeNs_ok first]
        cases mtimeDe r d k with
        | none => exact ⟨_, rfl⟩
        | some t =>
          dsimp only
          split
          · exact ⟨_, rfl⟩
          · exact ⟨_, rfl⟩
      rw [turned]
      exact ih other q

/-- What `olvida` leaves: the known mods as they were, and no others. -/
structure Olvidado (conocidos : List Texto) (p q : Proveedor) : Prop where
  mtime : ∀ n, q.modMtimes.lookup n = if n ∈ conocidos then p.modMtimes.lookup n else none
  paths : ∀ n ∈ conocidos, q.paths n = p.paths n

theorem olvida_olvidado (conocidos : List Texto) (p : Proveedor) :
    Olvidado conocidos p (olvida conocidos p) := by
  have erased : ∀ (ns : List Texto) (p : Proveedor) (k : Texto),
      let q := ns.foldl (fun p n =>
        { p with modMtimes := p.modMtimes.erase n, modPaths := p.modPaths.erase n }) p
      (q.modMtimes.lookup k = if k ∈ ns then none else p.modMtimes.lookup k) ∧
        (k ∉ ns → q.paths k = p.paths k) := by
    intro ns
    induction ns with
    | nil =>
      intro p k
      exact ⟨rfl, fun _ => rfl⟩
    | cons n ns ih =>
      intro p k
      have rest := ih { p with modMtimes := p.modMtimes.erase n, modPaths := p.modPaths.erase n } k
      dsimp only at rest ⊢
      rw [List.foldl_cons]
      constructor
      · rw [rest.1, lookup_erase_si]
        by_cases here : k = n
        · simp [here]
        · simp [here]
      · intro outside
        rw [List.mem_cons, not_or] at outside
        rw [rest.2 outside.2, Proveedor.paths, lookup_erase_si, if_neg outside.1, Proveedor.paths]
  have all := erased (p.modMtimes.keys.filter (· ∉ conocidos)) p
  constructor
  · intro n
    rw [olvida, (all n).1]
    by_cases known : n ∈ conocidos
    · simp [known]
    · by_cases cached : n ∈ p.modMtimes.keys
      · simp [known, cached]
      · have nothing : p.modMtimes.lookup n = none := AList.lookup_eq_none.mpr cached
        simp [known, nothing]
  · intro n known
    exact (all n).2 (by simp [known])

/-- The files of some mods on the disk. -/
def archivosEn (r : Rutas Dir) (casefold : Texto → Texto) (d : Disco Dir) (mods : List Texto) : List Texto :=
  mods.flatMap (scanMod r casefold d)

/-- What the disk says of a path. -/
def estadoDe (r : Rutas Dir) (casefold : Texto → Texto) (d : Disco Dir) (path : Texto) : FileState :=
  let mods := readModlist d.modlist
  let key := normalize casefold path
  if key ∈ archivosEn r casefold d mods.enabled then .active
  else if key ∈ archivosEn r casefold d mods.disabled then .inactive
  else .missing

theorem clasifica_eq {d : Disco Dir} {p : Proveedor}
    (active : p.activeFiles = archivosEn r casefold d (readModlist d.modlist).enabled)
    (inactive : p.inactiveFiles = archivosEn r casefold d (readModlist d.modlist).disabled) (path : Texto) :
    clasifica casefold p path = estadoDe r casefold d path := by
  rw [clasifica, estadoDe, active, inactive]

theorem flatMap_paths {d : Disco Dir} {p : Proveedor} {mods : List Texto}
    (read : ∀ n ∈ mods, p.paths n = scanMod r casefold d n) :
    mods.flatMap p.paths = archivosEn r casefold d mods :=
  List.flatMap_congr read

/-- A rebuild without failure leaves the index of the disk. -/
theorem rebuild_ok {d : Disco Dir} {mtimes : Dir → List Nat} (dated : Fechados d mtimes)
    {orden : List Texto} (whole : orden.Perm (readModlist d.modlist).conocidos)
    (clean : ∀ n ∈ (readModlist d.modlist).conocidos, Char.ofNat 0 ∉ n) {p : Proveedor}
    (faithful : Fiel r casefold d mtimes p) :
    ∃ q, rebuild r casefold d orden p = (none, q) ∧ Fiel r casefold d mtimes q ∧ Indexado q ∧
      q.activeFiles = archivosEn r casefold d (readModlist d.modlist).enabled ∧
      q.inactiveFiles = archivosEn r casefold d (readModlist d.modlist).disabled := by
  obtain ⟨q, done, faithful', updated, inside⟩ :=
    reindexaTodos_ok dated (fun n mem => clean n (whole.subset mem)) faithful
  have forgot := olvida_olvidado (readModlist d.modlist).conocidos q
  have known : ∀ n, n ∈ (olvida (readModlist d.modlist).conocidos q).modMtimes ↔
      n ∈ (readModlist d.modlist).conocidos := by
    intro n
    rw [mem_iff_lookup, forgot.mtime]
    constructor
    · intro cached
      by_contra outside
      simp [outside] at cached
    · intro mem
      rw [if_pos mem, ← mem_iff_lookup]
      exact inside n (whole.symm.subset mem)
  have scanned : ∀ n ∈ (readModlist d.modlist).conocidos,
      (olvida (readModlist d.modlist).conocidos q).paths n = scanMod r casefold d n := by
    intro n mem
    rw [forgot.paths n mem]
    exact faithful'.actual n (updated n (Or.inl (whole.symm.subset mem)))
  have enabled := flatMap_paths fun n mem => scanned n (mem_conocidos.mpr (Or.inl mem))
  have disabled := flatMap_paths fun n mem => scanned n (mem_conocidos.mpr (Or.inr mem))
  have cached : ∀ {n v}, (olvida (readModlist d.modlist).conocidos q).modMtimes.lookup n = some v →
      n ∈ (readModlist d.modlist).conocidos ∧ q.modMtimes.lookup n = some v := by
    intro n v found
    have mem := (known n).mp (mem_iff_lookup.mpr ⟨v, found⟩)
    rw [forgot.mtime, if_pos mem] at found
    exact ⟨mem, found⟩
  have built : ∃ p', rebuild r casefold d orden p = (none, p') ∧
      p'.modMtimes = (olvida (readModlist d.modlist).conocidos q).modMtimes ∧
      p'.paths = (olvida (readModlist d.modlist).conocidos q).paths ∧
      p'.modlistSnapshot = some (leerModlistCrudo d.modlist) ∧
      p'.activeFiles = (readModlist d.modlist).enabled.flatMap (olvida (readModlist d.modlist).conocidos q).paths ∧
      p'.inactiveFiles = (readModlist d.modlist).disabled.flatMap (olvida (readModlist d.modlist).conocidos q).paths := by
    rw [rebuild, done]
    exact ⟨_, rfl, rfl, rfl, rfl, rfl, rfl⟩
  obtain ⟨p', result, mtime, paths, snapshot, active, inactive⟩ := built
  refine ⟨p', result, ?_, ?_, active.trans enabled, inactive.trans disabled⟩
  · constructor
    · intro n t found
      rw [mtime] at found
      exact faithful'.vistos n t (cached found).2
    · intro n found
      rw [AlDia, mtime] at found
      rw [paths]
      exact scanned n (cached found).1
    · intro n found
      rw [mtime] at found
      have both := cached found
      rw [paths]
      exact (forgot.paths n both.1).trans (faithful'.ausente n both.2)
    · intro n mem
      rw [mtime] at mem
      exact clean n ((known n).mp mem)
  · intro _
    refine ⟨_, snapshot, ?_, ?_, ?_⟩
    · intro n
      rw [readModlist_crudo, mtime]
      exact known n
    · rw [readModlist_crudo, paths]
      exact active
    · rw [readModlist_crudo, paths]
      exact inactive

/-! A call -/

theorem algunoCambio_spec {d : Disco Dir} {p : Proveedor} {ns : List Texto}
    (clean : ∀ n ∈ ns, Char.ofNat 0 ∉ n) :
    algunoCambio r d p ns = .ok true ∨
      algunoCambio r d p ns = .ok false ∧ ∀ n ∈ ns, AlDia r d p n := by
  induction ns with
  | nil => exact Or.inr ⟨rfl, List.forall_mem_nil _⟩
  | cons n ns ih =>
    rw [List.forall_mem_cons] at clean
    rw [algunoCambio, mtimeNs_ok clean.1]
    dsimp only
    split
    · exact Or.inl rfl
    · next same =>
      refine (ih clean.2).imp id ?_
      intro both
      exact ⟨both.1, List.forall_mem_cons.mpr ⟨not_not.mp same, both.2⟩⟩

/-- The mark stays only if the index is that of the disk. -/
theorem estadoCambio_spec {d : Disco Dir} {mtimes : Dir → List Nat} {orden : List Texto}
    (whole : orden.Perm (readModlist d.modlist).conocidos) {p : Proveedor}
    (faithful : Fiel r casefold d mtimes p) (index : Indexado p) :
    estadoCambio r d orden p = .ok true ∨
      estadoCambio r d orden p = .ok false ∧ (∀ n ∈ (readModlist d.modlist).conocidos, Char.ofNat 0 ∉ n) ∧
      p.activeFiles = archivosEn r casefold d (readModlist d.modlist).enabled ∧
      p.inactiveFiles = archivosEn r casefold d (readModlist d.modlist).disabled := by
  unfold estadoCambio
  split
  · exact Or.inl rfl
  · next indexed =>
    split
    · exact Or.inl rfl
    · next snapshot =>
      split
      · exact Or.inl rfl
      · dsimp only
        split
        · exact Or.inl rfl
        · obtain ⟨t, taken, keys, active, inactive⟩ := index (by simpa using indexed)
          have same : t = leerModlistCrudo d.modlist := by
            rw [taken, not_not, Option.some.injEq] at snapshot
            exact snapshot
          rw [same, readModlist_crudo] at keys active inactive
          have clean : ∀ n ∈ (readModlist d.modlist).conocidos, Char.ofNat 0 ∉ n :=
            fun n mem => faithful.sinNulos n ((keys n).mpr mem)
          refine (algunoCambio_spec fun n mem => clean n (whole.subset mem)).imp id ?_
          intro both
          have scanned : ∀ n ∈ (readModlist d.modlist).conocidos, p.paths n = scanMod r casefold d n :=
            fun n mem => faithful.actual n (both.2 n (whole.symm.subset mem))
          refine ⟨both.1, clean, ?_, ?_⟩
          · rw [active]
            exact flatMap_paths fun n mem => scanned n (mem_conocidos.mpr (Or.inl mem))
          · rw [inactive]
            exact flatMap_paths fun n mem => scanned n (mem_conocidos.mpr (Or.inr mem))

/-- What a call gives, and what it keeps, when no name has a NUL. -/
theorem fileState_ok {d : Disco Dir} {mtimes : Dir → List Nat} (dated : Fechados d mtimes)
    {orden : List Texto} (whole : orden.Perm (readModlist d.modlist).conocidos)
    (clean : ∀ n ∈ (readModlist d.modlist).conocidos, Char.ofNat 0 ∉ n) {p : Proveedor}
    (faithful : Fiel r casefold d mtimes p) (index : Indexado p) (path : Texto) :
    ∃ q, fileState r casefold d orden p path = (.ok (estadoDe r casefold d path), q) ∧
      Fiel r casefold d mtimes q ∧ Indexado q := by
  unfold fileState
  cases estadoCambio_spec whole faithful index with
  | inl changed =>
    obtain ⟨q, built, faithful', index', active, inactive⟩ := rebuild_ok dated whole clean faithful
    rw [changed]
    dsimp only
    rw [built]
    refine ⟨q, ?_, faithful', index'⟩
    rw [← clasifica_eq active inactive]
  | inr kept =>
    obtain ⟨unchanged, _, active, inactive⟩ := kept
    rw [unchanged]
    refine ⟨p, ?_, faithful, index⟩
    rw [← clasifica_eq active inactive]

/-- A call raises when the name of a mod has a NUL. -/
theorem fileState_error {d : Disco Dir} {mtimes : Dir → List Nat} {orden : List Texto}
    (whole : orden.Perm (readModlist d.modlist).conocidos) {n : Texto}
    (mem : n ∈ (readModlist d.modlist).conocidos) (nul : Char.ofNat 0 ∈ n) {p : Proveedor}
    (faithful : Fiel r casefold d mtimes p) (index : Indexado p) (path : Texto) :
    (fileState r casefold d orden p path).1 = .error .embeddedNull := by
  have failed : (reindexaTodos r casefold d orden p).1 = some .embeddedNull :=
    reindexaTodos_error (whole.symm.subset mem) nul p
  unfold fileState
  cases estadoCambio_spec whole faithful index with
  | inl changed =>
    rw [changed]
    dsimp only
    rw [rebuild]
    cases loop : reindexaTodos r casefold d orden p with
    | mk result q =>
      rw [loop] at failed
      dsimp only at failed
      subst failed
      rfl
  | inr kept => exact absurd nul (kept.2.1 n mem)

/-! The runs -/

structure Valido (r : Rutas Dir) (casefold : Texto → Texto) (s : Estado Dir) : Prop where
  fechados : Fechados s.disco s.mtimes
  fiel : Fiel r casefold s.disco s.mtimes s.proveedor
  indexado : Indexado s.proveedor

theorem fiel_nuevo (d : Disco Dir) (mtimes : Dir → List Nat) : Fiel r casefold d mtimes .nuevo := by
  constructor
  · intro n t found
    cases found
  · intro n found
    cases found
  · intro n found
    cases found
  · intro n mem
    cases mem

theorem indexado_nuevo : Indexado .nuevo := by
  intro indexed
  cases indexed

variable [DecidableEq Dir]

theorem archivosDe_cambia {d : Disco Dir} {dir k : Dir} {nueva : Option Entrada} (other : k ≠ dir) (rel : Texto) :
    archivosDe casefold (d.cambia dir nueva) rel k = archivosDe casefold d rel k := by
  rw [archivosDe, archivosDe, Disco.cambia]
  dsimp only
  rw [if_neg other]

theorem scanMod_cambia {d : Disco Dir} {dir : Dir} {nueva : Option Entrada} {n : Texto}
    (other : r.donde n ≠ dir) (outside : ∀ k ∈ r.bajo (r.donde n), k.2 ≠ dir) :
    scanMod r casefold (d.cambia dir nueva) n = scanMod r casefold d n := by
  have here : (d.cambia dir nueva).entradas (r.donde n) = d.entradas (r.donde n) := by
    rw [Disco.cambia]
    dsimp only
    rw [if_neg other]
  rw [scanMod, scanMod, here]
  cases d.entradas (r.donde n) with
  | none => rfl
  | some e =>
    dsimp only
    split
    · apply List.flatMap_congr
      rw [List.forall_mem_cons]
      exact ⟨archivosDe_cambia other [], fun k mem => archivosDe_cambia (outside k mem) k.1⟩
    · rfl

/-- A change leaves what is cached of each mod faithful: of the changed one, it is out of date. -/
theorem Fiel.cambia {d : Disco Dir} {mtimes mtimes' : Dir → List Nat} {p : Proveedor} {dir : Dir}
    {nueva : Option Entrada} (faithful : Fiel r casefold d mtimes p)
    (more : ∀ k, mtimes k ⊆ mtimes' k) (fresh : ∀ e, nueva = some e → e.mtime ∉ mtimes dir)
    (outside : ∀ n ∈ p.modMtimes.keys, ∀ k ∈ r.bajo (r.donde n), k.2 ≠ dir) :
    Fiel r casefold (d.cambia dir nueva) mtimes' p := by
  constructor
  · intro n t found
    exact more _ (faithful.vistos n t found)
  · intro n found
    by_cases here : r.donde n = dir
    · have mark : mtimeDe r (d.cambia dir nueva) n = nueva.map Entrada.mtime := by
        rw [mtimeDe, Disco.cambia]
        dsimp only
        rw [if_pos here]
      cases nueva with
      | none =>
        rw [scanMod_ausente mark]
        rw [AlDia, mark] at found
        exact faithful.ausente n found
      | some e =>
        rw [AlDia, mark] at found
        have seen := faithful.vistos n e.mtime found
        rw [here] at seen
        exact absurd seen (fresh e rfl)
    · have mem : n ∈ p.modMtimes.keys := mem_iff_lookup.mpr ⟨_, found⟩
      have same : mtimeDe r (d.cambia dir nueva) n = mtimeDe r d n := by
        rw [mtimeDe, mtimeDe, Disco.cambia]
        dsimp only
        rw [if_neg here]
      rw [AlDia, same] at found
      rw [scanMod_cambia here (outside n mem)]
      exact faithful.actual n found
  · exact faithful.ausente
  · exact faithful.sinNulos

theorem Fechados.cambia {d : Disco Dir} {mtimes mtimes' : Dir → List Nat} (dated : Fechados d mtimes)
    {dir : Dir} {nueva : Option Entrada} (more : ∀ k, mtimes k ⊆ mtimes' k)
    (new : ∀ e, nueva = some e → e.mtime ∈ mtimes' dir) : Fechados (d.cambia dir nueva) mtimes' := by
  intro k e present
  rw [Disco.cambia] at present
  dsimp only at present
  split at present
  · next here =>
    rw [here]
    exact new e present
  · exact more k (dated k e present)

theorem Valido.step {s t : Estado Dir} {e : Evento Dir} (valid : Valido r casefold s) (careful : Cuidado r s e)
    (moved : step r casefold s e = some t) : Valido r casefold t := by
  cases e with
  | escribeModlist texto =>
    cases moved
    exact ⟨valid.fechados, ⟨valid.fiel.vistos, valid.fiel.actual, valid.fiel.ausente, valid.fiel.sinNulos⟩,
      valid.indexado⟩
  | tocaRaiz mtime =>
    cases moved
    exact ⟨valid.fechados, ⟨valid.fiel.vistos, valid.fiel.actual, valid.fiel.ausente, valid.fiel.sinNulos⟩,
      valid.indexado⟩
  | cambia dir nueva =>
    have same : ∀ k, s.mtimes k ⊆ s.mtimes k := fun k => List.Subset.refl _
    cases nueva with
    | none =>
      cases moved
      have none_new : ∀ (P : Entrada → Prop) e, (none : Option Entrada) = some e → P e := by
        intro P e absurd_
        cases absurd_
      exact ⟨valid.fechados.cambia same (none_new _), valid.fiel.cambia same (none_new _) careful,
        valid.indexado⟩
    | some e =>
      simp only [PluginStates.step] at moved
      split at moved
      · cases moved
      · next fresh =>
        cases moved
        have more : ∀ k, s.mtimes k ⊆ if k = dir then e.mtime :: s.mtimes k else s.mtimes k := by
          intro k
          split
          · exact List.subset_cons_self _ _
          · exact List.Subset.refl _
        refine ⟨valid.fechados.cambia more ?_, valid.fiel.cambia more ?_ careful, valid.indexado⟩
        · intro e' new
          cases new
          dsimp only
          rw [if_pos rfl]
          exact List.mem_cons_self
        · intro e' new
          cases new
          exact fresh
  | llama path orden =>
    simp only [PluginStates.step] at moved
    split at moved
    · next whole =>
      cases moved
      obtain ⟨q, called, faithful, index⟩ :=
        fileState_ok valid.fechados whole careful valid.fiel valid.indexado path
      rw [called]
      exact ⟨valid.fechados, faithful, index⟩
    · cases moved

/-- Every call on a run without those steps gives what a provider just built would give. -/
theorem cache_transparente {r : Rutas Dir} {casefold : Texto → Texto} {s : Estado Dir}
    (reached : TransitionRuns.Reaches (step r casefold) Inicio (Cuidado r) s) (path : Texto)
    {orden orden' : List Texto} (whole : orden.Perm (readModlist s.disco.modlist).conocidos)
    (whole' : orden'.Perm (readModlist s.disco.modlist).conocidos) :
    (fileState r casefold s.disco orden s.proveedor path).1 =
      (fileState r casefold s.disco orden' .nuevo path).1 := by
  have valid : Valido r casefold s := by
    refine reached.invariant ?_ fun s e t valid careful moved => valid.step careful moved
    intro s first
    refine ⟨first.2, ?_, ?_⟩
    · rw [first.1]
      exact fiel_nuevo _ _
    · rw [first.1]
      exact indexado_nuevo
  by_cases clean : ∀ n ∈ (readModlist s.disco.modlist).conocidos, Char.ofNat 0 ∉ n
  · obtain ⟨q, called, _⟩ := fileState_ok valid.fechados whole clean valid.fiel valid.indexado path
    obtain ⟨q', built, _⟩ :=
      fileState_ok valid.fechados whole' clean (fiel_nuevo s.disco s.mtimes) indexado_nuevo path
    rw [called, built]
  · push Not at clean
    obtain ⟨n, mem, nul⟩ := clean
    rw [fileState_error whole mem nul valid.fiel valid.indexado path,
      fileState_error whole' mem nul (fiel_nuevo s.disco s.mtimes) indexado_nuevo path]

/-! Runs on a few mods -/

def sinSubcarpetas : Rutas Texto := ⟨id, fun _ => []⟩

def minusculas (t : Texto) : Texto := t.map Char.toLower

def unMod : Estado Texto where
  disco :=
    { modlist := some "+a".toList
      raiz := some 1
      entradas := fun k => if k = ['a'] then some ⟨1, true, []⟩ else none }
  mtimes := fun _ => [1]
  proveedor := .nuevo

theorem inicio_unMod : Inicio unMod := by
  refine ⟨rfl, ?_⟩
  intro dir e present
  simp only [unMod] at present ⊢
  split at present
  · cases present
    exact List.mem_cons_self
  · cases present

/-- A plugin put in a mod after a call is seen by the next one. -/
theorem cache_transparente_alta : ∃ s, TransitionRuns.run (step sinSubcarpetas minusculas) unMod
      [.llama "X.esp".toList [['a']], .cambia ['a'] (some ⟨2, true, ["X.esp".toList]⟩)] = some s ∧
    (fileState sinSubcarpetas minusculas s.disco [['a']] s.proveedor "X.esp".toList).1 =
      (fileState sinSubcarpetas minusculas s.disco [['a']] .nuevo "X.esp".toList).1 := by
  have called : step sinSubcarpetas minusculas unMod (.llama "X.esp".toList [['a']]) =
      some { unMod with
        proveedor := (fileState sinSubcarpetas minusculas unMod.disco [['a']] .nuevo "X.esp".toList).2 } := by
    simp only [step]
    exact if_pos (by decide)
  generalize (fileState sinSubcarpetas minusculas unMod.disco [['a']] .nuevo "X.esp".toList).2 = p at called
  have changed : step sinSubcarpetas minusculas { unMod with proveedor := p }
      (.cambia ['a'] (some ⟨2, true, ["X.esp".toList]⟩)) =
      some { disco := unMod.disco.cambia ['a'] (some ⟨2, true, ["X.esp".toList]⟩)
             mtimes := fun k => if k = ['a'] then [2, 1] else [1]
             proveedor := p } := by
    simp only [step]
    exact if_neg (by decide)
  have no_nul : Cuidado sinSubcarpetas unMod (.llama "X.esp".toList [['a']]) := by
    simp only [Cuidado]
    decide
  have no_subfolder : Cuidado sinSubcarpetas { unMod with proveedor := p }
      (.cambia ['a'] (some ⟨2, true, ["X.esp".toList]⟩)) := by
    intro n _ k inside
    cases inside
  have reached : TransitionRuns.Reaches (step sinSubcarpetas minusculas) Inicio (Cuidado sinSubcarpetas) _ :=
    .next (.next (.start inicio_unMod) no_nul called) no_subfolder changed
  have listed : [['a']].Perm (readModlist (unMod.disco.cambia ['a']
      (some ⟨2, true, ["X.esp".toList]⟩)).modlist).conocidos := by decide
  refine ⟨_, ?_, cache_transparente reached "X.esp".toList listed listed⟩
  rw [TransitionRuns.run, called, Option.bind_some, TransitionRuns.run, changed]
  rfl

/-- A call that raises leaves a mod marked as read whose files are not in the index. -/
theorem cache_tras_error : Inicio unMod ∧
    ∃ s, TransitionRuns.run (step sinSubcarpetas minusculas) unMod
        [.llama "x.esp".toList [['a']],
          .cambia ['a'] (some ⟨2, true, ["x.esp".toList]⟩),
          .escribeModlist (some ['+', 'a', '\n', '+', Char.ofNat 0]),
          .llama "x.esp".toList [['a'], [Char.ofNat 0]],
          .escribeModlist (some "+a".toList)] = some s ∧
      (fileState sinSubcarpetas minusculas s.disco [['a']] s.proveedor "x.esp".toList).1 = .ok .missing ∧
      (fileState sinSubcarpetas minusculas s.disco [['a']] .nuevo "x.esp".toList).1 = .ok .active := by
  refine ⟨inicio_unMod, _, rfl, ?_, ?_⟩
  · rfl
  · rfl

-- A line `+.` is scanned down into the directories of the other mods, but only the time of
-- `mods` itself is looked at.
example :
    let r : Rutas Texto := ⟨id, fun k => if k = ['.'] then [("a/".toList, ['a'])] else []⟩
    let d : Disco Texto := ⟨some "+.".toList, some 1, fun k =>
      if k = ['.'] then some ⟨1, true, []⟩ else if k = ['a'] then some ⟨1, true, []⟩ else none⟩
    let p := (fileState r minusculas d [['.']] .nuevo "a/x.esp".toList).2
    let d' := d.cambia ['a'] (some ⟨2, true, ["x.esp".toList]⟩)
    (fileState r minusculas d' [['.']] p "a/x.esp".toList).1 = .ok .missing ∧
      (fileState r minusculas d' [['.']] .nuevo "a/x.esp".toList).1 = .ok .active := ⟨rfl, rfl⟩

end PluginStates
