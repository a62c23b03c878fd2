import Mathlib

set_option linter.all false

/-!
`FileSnapshotManager.create_snapshot` and the size limit that it enforces, in
`snapshot_manager.py`. The store is a list of directories; the eviction takes
those whose name is a date, the oldest first, until 90 % of the limit is met.
-/
namespace SnapshotEviction

abbrev Bytes := List UInt8

structure Archivo where
  nombre : String
  bytes : Bytes
  deriving DecidableEq

/-- A directory of the store, or a link to one, which has no bytes of its own. -/
structure Directorio where
  nombre : String
  enlace : Bool
  archivos : List Archivo
  deriving DecidableEq

/-- `sueltos` is the size of the files outside the directories. -/
structure Almacen where
  dirs : List Directorio
  sueltos : Nat

def Directorio.tamano (d : Directorio) : Nat :=
  if d.enlace then 0 else (d.archivos.map fun a => a.bytes.length).sum

/-- `_calculate_total_size`. -/
def Almacen.total (s : Almacen) : Nat := (s.dirs.map Directorio.tamano).sum + s.sueltos

def Almacen.sin (s : Almacen) (nombre : String) : Almacen :=
  { s with dirs := s.dirs.filter fun d => decide (d.nombre ≠ nombre) }

/-- A removal that fails leaves some of the files. -/
def Almacen.deja (s : Almacen) (nombre : String) (quedan : Archivo → Bool) : Almacen :=
  { s with
    dirs := s.dirs.map fun d => if d.nombre = nombre then { d with archivos := d.archivos.filter quedan } else d }

def Directorio.guarda (d : Directorio) (archivos : List Archivo) : Directorio :=
  { d with
    archivos := (d.archivos.filter fun a => decide (a.nombre ∉ archivos.map Archivo.nombre)) ++ archivos }

/-- The files are written in the directory of that name, which is made where it is missing. -/
def Almacen.guarda (s : Almacen) (nombre : String) (archivos : List Archivo) : Almacen :=
  if s.dirs.any fun d => decide (d.nombre = nombre) then
    { s with dirs := s.dirs.map fun d => if d.nombre = nombre then d.guarda archivos else d }
  else { s with dirs := s.dirs ++ [⟨nombre, false, archivos⟩] }

def Almacen.Contiene (s : Almacen) (nombre : String) (a : Archivo) : Prop :=
  ∃ d ∈ s.dirs, d.nombre = nombre ∧ a ∈ d.archivos

inductive Borrado where
  | completo
  | falla (quedan : Archivo → Bool)

/-- What a snapshot is made of and what may go wrong: `fuente` is none if the file is missing or
cannot be read, `averia` is what a failed write leaves. -/
structure Pedido where
  hoy : String
  nombre : String
  fuente : Option Bytes
  averia : Option (List Archivo)
  mide : Bool
  borra : String → Borrado

structure SnapshotInfo where
  directorio : String
  nombre : String
  checksum : String
  sizeBytes : Nat

/-- The limit is `max_size_mb`, and `noventa` the whole bytes of `max_size_bytes * 0.9`. -/
structure Limite where
  maxSizeMb : Int
  noventa : Int → Int

def Limite.maxSizeBytes (l : Limite) : Int := l.maxSizeMb * 1024 * 1024

section
variable (strptime : String → Option Int) (sha256 : Bytes → String) (limite : Limite)

/-- The date directories, the oldest first; `strptime` is the date of a name. -/
def Almacen.dateDirs (s : Almacen) : List Directorio :=
  ((s.dirs.filterMap fun d => (strptime d.nombre).map fun fecha => (d, fecha)).mergeSort
    fun x y => decide (x.2 ≤ y.2)).map (·.1)

def desaloja (borra : String → Borrado) : List Directorio → Int → Almacen → Bool × Almacen
  | [], _, s => (true, s)
  | d :: ds, size, s =>
    if size ≤ limite.noventa limite.maxSizeBytes then (true, s)
    else
      match borra d.nombre with
      | .completo => desaloja borra ds (size - d.tamano) (s.sin d.nombre)
      | .falla quedan => (false, s.deja d.nombre quedan)

def enforceSizeLimit (borra : String → Borrado) (s : Almacen) : Bool × Almacen :=
  if s.total ≤ limite.maxSizeBytes then (true, s)
  else desaloja limite borra (s.dateDirs strptime) s.total s

/-- `json.dumps` of the checksum, in UTF-8. -/
def sidecar (nombre checksum : String) : Archivo :=
  ⟨nombre ++ ".meta.json", ("\x7b\"checksum\": \"" ++ checksum ++ "\"\x7d").toUTF8.toList⟩

/-- The store before the size limit is enforced. -/
def Pedido.previo (p : Pedido) (s : Almacen) : Almacen :=
  match p.fuente with
  | none => s
  | some bytes => s.guarda p.hoy (p.averia.getD [⟨p.nombre, bytes⟩, sidecar p.nombre (sha256 bytes)])

/-- An error is a `JournalSnapshotError`. -/
def createSnapshot (p : Pedido) (s : Almacen) : Option SnapshotInfo × Almacen :=
  let s := p.previo sha256 s
  match p.fuente with
  | none => (none, s)
  | some bytes =>
    if p.averia.isSome || p.mide then (none, s)
    else
      match enforceSizeLimit strptime limite p.borra s with
      | (false, s) => (none, s)
      | (true, s) => (some ⟨p.hoy, p.nombre, sha256 bytes, bytes.length⟩, s)

/-- The eviction comes to the directory: over the limit, the ones before it are removed and free too little. -/
def Alcanza (p : Pedido) (s : Almacen) (d : Directorio) : Prop :=
  p.fuente.isSome = true ∧ p.averia = none ∧ p.mide = false ∧ limite.maxSizeBytes < (p.previo sha256 s).total ∧
    ∃ antes resto, (p.previo sha256 s).dateDirs strptime = antes ++ d :: resto ∧
      limite.noventa limite.maxSizeBytes <
        (p.previo sha256 s).total - ((antes.map Directorio.tamano).sum : Nat) ∧
      ∀ e ∈ antes, p.borra e.nombre = .completo

/-- The snapshot that is created is there with its sidecar, and the size limit removes none of the
`abiertos`. -/
structure Dura (p : Pedido) (s : Almacen) (abiertos : List (String × Archivo)) : Prop where
  creado : ∀ bytes info, p.fuente = some bytes → (createSnapshot strptime sha256 limite p s).1 = some info →
    (createSnapshot strptime sha256 limite p s).2.Contiene info.directorio ⟨info.nombre, bytes⟩ ∧
      (createSnapshot strptime sha256 limite p s).2.Contiene info.directorio
        (sidecar info.nombre (sha256 bytes))
  abiertos : ∀ o ∈ abiertos, (p.previo sha256 s).Contiene o.1 o.2 →
    (createSnapshot strptime sha256 limite p s).2.Contiene o.1 o.2

/-- No directory of the new snapshot or of an open one is evicted, unless a removal fails (and leaves
the open ones). -/
structure Respetado (p : Pedido) (s : Almacen) (abiertos : List (String × Archivo)) : Prop where
  creado : ∀ d, Alcanza strptime sha256 limite p s d → d.nombre = p.hoy →
    ∃ e quedan, Alcanza strptime sha256 limite p s e ∧ p.borra e.nombre = .falla quedan
  abiertos : ∀ o ∈ abiertos, (p.previo sha256 s).Contiene o.1 o.2 →
    ∀ d, Alcanza strptime sha256 limite p s d → d.nombre = o.1 →
      ∃ quedan, p.borra d.nombre = .falla quedan ∧ quedan o.2 = true

end

/-! The eviction -/

section
variable {strptime : String → Option Int} {sha256 : Bytes → String} {limite : Limite} {borra : String → Borrado}

theorem contiene_sin {s : Almacen} {n nombre : String} {a : Archivo} :
    (s.sin n).Contiene nombre a ↔ s.Contiene nombre a ∧ nombre ≠ n := by
  simp only [Almacen.Contiene, Almacen.sin, List.mem_filter, decide_eq_true_iff]
  constructor
  · rintro ⟨d, ⟨mem, other⟩, rfl, inside⟩
    exact ⟨⟨d, mem, rfl, inside⟩, other⟩
  · rintro ⟨⟨d, mem, rfl, inside⟩, other⟩
    exact ⟨d, ⟨mem, other⟩, rfl, inside⟩

theorem contiene_deja {s : Almacen} {n nombre : String} {a : Archivo} {quedan : Archivo → Bool} :
    (s.deja n quedan).Contiene nombre a ↔ s.Contiene nombre a ∧ (n = nombre → quedan a = true) := by
  simp only [Almacen.Contiene, Almacen.deja, List.mem_map]
  constructor
  · rintro ⟨_, ⟨d, mem, rfl⟩, named, inside⟩
    split at named
    · rename_i same
      rw [if_pos same] at inside
      obtain ⟨inside, kept⟩ := List.mem_filter.mp inside
      exact ⟨⟨d, mem, named, inside⟩, fun _ => kept⟩
    · rename_i other
      rw [if_neg other] at inside
      exact ⟨⟨d, mem, named, inside⟩, fun same => absurd (named.trans same.symm) other⟩
  · rintro ⟨⟨d, mem, named, inside⟩, kept⟩
    refine ⟨_, ⟨d, mem, rfl⟩, ?_⟩
    by_cases same : d.nombre = n
    · rw [if_pos same]
      exact ⟨named, List.mem_filter.mpr ⟨inside, kept (same.symm.trans named)⟩⟩
    · rw [if_neg same]
      exact ⟨named, inside⟩

/-- The directories that the loop comes to. -/
def Llega (limite : Limite) (borra : String → Borrado) (ds : List Directorio) (size : Int) (d : Directorio) : Prop :=
  ∃ antes resto, ds = antes ++ d :: resto ∧
    limite.noventa limite.maxSizeBytes < size - ((antes.map Directorio.tamano).sum : Nat) ∧
    ∀ e ∈ antes, borra e.nombre = .completo

theorem no_llega_nil {size : Int} {d : Directorio} : ¬ Llega limite borra [] size d := by
  rintro ⟨antes, resto, split_, _⟩
  exact absurd split_.symm (List.append_ne_nil_of_right_ne_nil _ (List.cons_ne_nil _ _))

theorem llega_cons {ds : List Directorio} {size : Int} {d e : Directorio} :
    Llega limite borra (d :: ds) size e ↔ limite.noventa limite.maxSizeBytes < size ∧
      (e = d ∨ borra d.nombre = .completo ∧ Llega limite borra ds (size - d.tamano) e) := by
  constructor
  · rintro ⟨antes, resto, split_, big, removed⟩
    cases antes with
    | nil =>
      simp only [List.nil_append, List.cons.injEq] at split_
      exact ⟨by simpa using big, .inl split_.1.symm⟩
    | cons first antes =>
      simp only [List.cons_append, List.cons.injEq] at split_
      obtain ⟨rfl, rest⟩ := split_
      simp only [List.map_cons, List.sum_cons] at big
      refine ⟨by omega, .inr ⟨removed d List.mem_cons_self, antes, resto, rest, by omega, ?_⟩⟩
      exact fun f mem => removed f (List.mem_cons_of_mem _ mem)
  · rintro ⟨big, rfl | ⟨removed, antes, resto, rest, big', before⟩⟩
    · exact ⟨[], ds, rfl, by simpa using big, nofun⟩
    · refine ⟨d :: antes, resto, by rw [rest, List.cons_append], ?_, ?_⟩
      · simp only [List.map_cons, List.sum_cons]
        omega
      · intro f mem
        rcases List.mem_cons.mp mem with rfl | later
        · exact removed
        · exact before f later

/-- What the loop leaves. -/
theorem desaloja_contiene {ds : List Directorio} {size : Int} {s : Almacen} {nombre : String} {a : Archivo} :
    (desaloja limite borra ds size s).2.Contiene nombre a ↔ s.Contiene nombre a ∧
      ∀ d, Llega limite borra ds size d → d.nombre = nombre →
        ∃ quedan, borra d.nombre = .falla quedan ∧ quedan a = true := by
  induction ds generalizing size s with
  | nil =>
    simp only [desaloja]
    exact ⟨fun inside => ⟨inside, fun d comes => absurd comes no_llega_nil⟩, And.left⟩
  | cons d ds ih =>
    rw [desaloja]
    split
    · rename_i small
      refine ⟨fun inside => ⟨inside, fun e comes => ?_⟩, And.left⟩
      have big := (llega_cons.mp comes).1
      omega
    · rename_i big
      rw [Int.not_le] at big
      cases removal : borra d.nombre with
      | completo =>
        dsimp only
        rw [ih, contiene_sin]
        constructor
        · rintro ⟨⟨inside, other⟩, rest⟩
          refine ⟨inside, fun e comes named => ?_⟩
          rcases (llega_cons.mp comes).2 with rfl | ⟨_, later⟩
          · exact absurd named.symm other
          · exact rest e later named
        · rintro ⟨inside, kept⟩
          refine ⟨⟨inside, fun same => ?_⟩, fun e comes => ?_⟩
          · obtain ⟨quedan, failed, _⟩ := kept d (llega_cons.mpr ⟨big, .inl rfl⟩) same.symm
            rw [removal] at failed
            cases failed
          · exact kept e (llega_cons.mpr ⟨big, .inr ⟨removal, comes⟩⟩)
      | falla quedan =>
        dsimp only
        rw [contiene_deja]
        constructor
        · rintro ⟨inside, left⟩
          refine ⟨inside, fun e comes named => ?_⟩
          rcases (llega_cons.mp comes).2 with rfl | ⟨whole, _⟩
          · exact ⟨quedan, removal, left named⟩
          · rw [removal] at whole
            cases whole
        · rintro ⟨inside, kept⟩
          refine ⟨inside, fun same => ?_⟩
          obtain ⟨quedan', failed, left⟩ := kept d (llega_cons.mpr ⟨big, .inl rfl⟩) same
          rw [removal, Borrado.falla.injEq] at failed
          exact failed ▸ left

/-- The loop fails where a removal does. -/
theorem desaloja_falla {ds : List Directorio} {size : Int} {s : Almacen} :
    (desaloja limite borra ds size s).1 = false ↔
      ∃ d quedan, Llega limite borra ds size d ∧ borra d.nombre = .falla quedan := by
  induction ds generalizing size s with
  | nil =>
    constructor
    · nofun
    · rintro ⟨d, _, comes, _⟩
      exact absurd comes no_llega_nil
  | cons d ds ih =>
    rw [desaloja]
    split
    · rename_i small
      constructor
      · nofun
      · rintro ⟨e, _, comes, _⟩
        have big := (llega_cons.mp comes).1
        omega
    · rename_i big
      rw [Int.not_le] at big
      cases removal : borra d.nombre with
      | completo =>
        dsimp only
        rw [ih]
        constructor
        · rintro ⟨e, quedan, comes, failed⟩
          exact ⟨e, quedan, llega_cons.mpr ⟨big, .inr ⟨removal, comes⟩⟩, failed⟩
        · rintro ⟨e, quedan, comes, failed⟩
          rcases (llega_cons.mp comes).2 with rfl | ⟨_, later⟩
          · rw [removal] at failed
            cases failed
          · exact ⟨e, quedan, later, failed⟩
      | falla quedan =>
        exact ⟨fun _ => ⟨d, quedan, llega_cons.mpr ⟨big, .inl rfl⟩, removal⟩, fun _ => rfl⟩

variable {p : Pedido} {s : Almacen}

theorem contiene_guarda {s : Almacen} {nombre : String} {archivos : List Archivo} {a : Archivo}
    (mem : a ∈ archivos) : (s.guarda nombre archivos).Contiene nombre a := by
  rw [Almacen.guarda]
  split
  · rename_i there
    obtain ⟨d, inside, named⟩ := List.any_eq_true.mp there
    have named : d.nombre = nombre := of_decide_eq_true named
    refine ⟨_, List.mem_map.mpr ⟨d, inside, rfl⟩, ?_⟩
    rw [if_pos named]
    exact ⟨named, List.mem_append_right _ mem⟩
  · exact ⟨_, List.mem_append_right _ List.mem_cons_self, rfl, mem⟩

variable (strptime sha256 limite) in
/-- Where the size limit is not enforced the store is left as it was written. -/
theorem createSnapshot_sin (never : ¬ (p.fuente.isSome = true ∧ p.averia = none ∧ p.mide = false)) :
    createSnapshot strptime sha256 limite p s = (none, p.previo sha256 s) := by
  cases given : p.fuente with
  | none => simp [createSnapshot, given]
  | some bytes =>
    have stops : (p.averia.isSome || p.mide) = true := by
      cases failed : p.averia with
      | some quedan => rfl
      | none => simpa [given, failed] using never
    simp [createSnapshot, given, stops]

theorem enforce_contiene {s : Almacen} {nombre : String} {a : Archivo} :
    (enforceSizeLimit strptime limite borra s).2.Contiene nombre a ↔ s.Contiene nombre a ∧
      ∀ d, limite.maxSizeBytes < s.total → Llega limite borra (s.dateDirs strptime) s.total d → d.nombre = nombre →
        ∃ quedan, borra d.nombre = .falla quedan ∧ quedan a = true := by
  rw [enforceSizeLimit]
  split
  · rename_i small
    refine ⟨fun inside => ⟨inside, fun d big => ?_⟩, And.left⟩
    omega
  · rename_i big
    rw [Int.not_le] at big
    rw [desaloja_contiene]
    simp only [big, true_imp_iff]

theorem enforce_falla {s : Almacen} :
    (enforceSizeLimit strptime limite borra s).1 = false ↔
      ∃ d quedan, limite.maxSizeBytes < s.total ∧ Llega limite borra (s.dateDirs strptime) s.total d ∧
        borra d.nombre = .falla quedan := by
  rw [enforceSizeLimit]
  split
  · rename_i small
    constructor
    · nofun
    · rintro ⟨d, quedan, big, _⟩
      omega
  · rename_i big
    rw [Int.not_le] at big
    rw [desaloja_falla]
    simp only [big, true_and]

variable (strptime sha256 limite) in
/-- The size limit is enforced. -/
theorem createSnapshot_con {bytes : Bytes} (given : p.fuente = some bytes) (written : p.averia = none)
    (measured : p.mide = false) :
    (createSnapshot strptime sha256 limite p s).2 =
        (enforceSizeLimit strptime limite p.borra (p.previo sha256 s)).2 ∧
      (createSnapshot strptime sha256 limite p s).1 =
        if (enforceSizeLimit strptime limite p.borra (p.previo sha256 s)).1 then
          some ⟨p.hoy, p.nombre, sha256 bytes, bytes.length⟩ else none := by
  simp only [createSnapshot, given, written, measured, Option.isSome_none, Bool.or_self, Bool.false_eq_true,
    if_false]
  rcases enforceSizeLimit strptime limite p.borra (p.previo sha256 s) with ⟨ended, s'⟩
  cases ended with
  | true => exact ⟨rfl, rfl⟩
  | false => exact ⟨rfl, rfl⟩

theorem alcanza_iff {bytes : Bytes} (given : p.fuente = some bytes) (written : p.averia = none)
    (measured : p.mide = false) {d : Directorio} :
    Alcanza strptime sha256 limite p s d ↔ limite.maxSizeBytes < (p.previo sha256 s).total ∧
      Llega limite p.borra ((p.previo sha256 s).dateDirs strptime) (p.previo sha256 s).total d := by
  simp [Alcanza, Llega, given, written, measured]

variable (sha256) in
theorem previo_contiene {bytes : Bytes} (given : p.fuente = some bytes) (written : p.averia = none) :
    (p.previo sha256 s).Contiene p.hoy ⟨p.nombre, bytes⟩ ∧
      (p.previo sha256 s).Contiene p.hoy (sidecar p.nombre (sha256 bytes)) := by
  rw [Pedido.previo, given, written]
  exact ⟨contiene_guarda List.mem_cons_self, contiene_guarda (List.mem_cons_of_mem _ List.mem_cons_self)⟩

variable (strptime sha256 limite) in
/-- The new snapshot is left iff its directory is not reached, or the call raises. -/
theorem creado_iff {bytes : Bytes} (given : p.fuente = some bytes) (written : p.averia = none)
    (measured : p.mide = false) :
    (∀ bytes info, p.fuente = some bytes → (createSnapshot strptime sha256 limite p s).1 = some info →
      (createSnapshot strptime sha256 limite p s).2.Contiene info.directorio ⟨info.nombre, bytes⟩ ∧
        (createSnapshot strptime sha256 limite p s).2.Contiene info.directorio
          (sidecar info.nombre (sha256 bytes))) ↔
      ∀ d, Alcanza strptime sha256 limite p s d → d.nombre = p.hoy →
        ∃ e quedan, Alcanza strptime sha256 limite p s e ∧ p.borra e.nombre = .falla quedan := by
  obtain ⟨store, answer⟩ := createSnapshot_con strptime sha256 limite (s := s) given written measured
  rw [store, answer]
  simp only [alcanza_iff given written measured]
  have before := previo_contiene sha256 (s := s) given written
  constructor
  · intro made d comes named
    cases ended : (enforceSizeLimit strptime limite p.borra (p.previo sha256 s)).1 with
    | false =>
      obtain ⟨e, quedan, big, reached, failed⟩ := enforce_falla.mp ended
      exact ⟨e, quedan, ⟨big, reached⟩, failed⟩
    | true =>
      have there := (made bytes _ given (if_pos ended)).1
      obtain ⟨quedan, failed, _⟩ := (enforce_contiene.mp there).2 d comes.1 comes.2 named
      exact ⟨d, quedan, comes, failed⟩
  · intro respected bytes' info given' made
    rw [given, Option.some.injEq] at given'
    subst given'
    cases ended : (enforceSizeLimit strptime limite p.borra (p.previo sha256 s)).1 with
    | false =>
      rw [ended] at made
      cases made
    | true =>
      rw [ended, if_pos rfl, Option.some.injEq] at made
      subst made
      have clear : ∀ d, limite.maxSizeBytes < (p.previo sha256 s).total →
          Llega limite p.borra ((p.previo sha256 s).dateDirs strptime) (p.previo sha256 s).total d →
          d.nombre ≠ p.hoy := by
        intro d big reached named
        obtain ⟨e, quedan, comes, failed⟩ := respected d ⟨big, reached⟩ named
        have broken := enforce_falla.mpr ⟨e, quedan, comes.1, comes.2, failed⟩
        rw [ended] at broken
        cases broken
      exact ⟨enforce_contiene.mpr ⟨before.1, fun d big reached named => absurd named (clear d big reached)⟩,
        enforce_contiene.mpr ⟨before.2, fun d big reached named => absurd named (clear d big reached)⟩⟩

end

theorem snapshot_dura (strptime : String → Option Int) (sha256 : Bytes → String) (limite : Limite) (p : Pedido)
    (s : Almacen) (abiertos : List (String × Archivo)) :
    Dura strptime sha256 limite p s abiertos ↔ Respetado strptime sha256 limite p s abiertos := by
  by_cases enforced : p.fuente.isSome = true ∧ p.averia = none ∧ p.mide = false
  · obtain ⟨present, written, measured⟩ := enforced
    obtain ⟨bytes, given⟩ := Option.isSome_iff_exists.mp present
    have made := creado_iff strptime sha256 limite (s := s) given written
      measured
    have store := (createSnapshot_con strptime sha256 limite (s := s) given
      written measured).1
    constructor
    · intro lasts
      refine ⟨made.mp lasts.creado, fun o mem inside d comes => ?_⟩
      obtain ⟨big, reached⟩ := (alcanza_iff given written measured).mp comes
      have left := lasts.abiertos o mem inside
      rw [store] at left
      exact (enforce_contiene.mp left).2 d big reached
    · intro respected
      refine ⟨made.mpr respected.creado, fun o mem inside => ?_⟩
      rw [store]
      refine enforce_contiene.mpr ⟨inside, fun d big reached => ?_⟩
      exact respected.abiertos o mem inside d ((alcanza_iff given written measured).mpr ⟨big, reached⟩)
  · have none_ := createSnapshot_sin strptime sha256 limite (s := s) enforced
    refine iff_of_true ⟨fun bytes info _ made => ?_, fun o _ inside => ?_⟩
      ⟨fun d comes => ?_, fun o _ _ d comes => ?_⟩
    · rw [none_] at made
      cases made
    · rw [none_]
      exact inside
    · exact absurd ⟨comes.1, comes.2.1, comes.2.2.1⟩ enforced
    · exact absurd ⟨comes.1, comes.2.1, comes.2.2.1⟩ enforced

/-- Everything in the store is of today, and over the limit. -/
def deHoy : Almacen := ⟨[⟨"2026-10-06", false, [⟨"1_a.esp", [1]⟩]⟩], 0⟩

def pedidoDeHoy : Pedido := ⟨"2026-10-06", "2_b.esp", some [2], none, false, fun _ => .completo⟩

theorem snapshot_desalojado :
    ¬ Dura (fun _ => some 0) (fun _ => "") ⟨0, fun n => n * 9 / 10⟩ pedidoDeHoy deHoy
      [("2026-10-06", ⟨"1_a.esp", [1]⟩)] := by
  intro lasts
  have was : (pedidoDeHoy.previo (fun _ => "") deHoy).Contiene "2026-10-06" ⟨"1_a.esp", [1]⟩ :=
    ⟨_, List.mem_cons_self, rfl, List.mem_cons_self⟩
  obtain ⟨d, mem, _⟩ := lasts.abiertos _ List.mem_cons_self was
  have nothing : (createSnapshot (fun _ => some 0) (fun _ => "") ⟨0, fun n => n * 9 / 10⟩ pedidoDeHoy deHoy).2.dirs =
      [] := by
    decide +kernel
  rw [nothing] at mem
  cases mem

end SnapshotEviction
