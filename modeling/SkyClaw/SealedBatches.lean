import SkyClaw.PrefixSearch

set_option linter.all false

/-!
`_validar_coherencia_del_lote`: what a batch of sealed paths must not hold. A text
is the list of its code points, and `casefold` what Python's method gives.
-/
namespace SealedBatches
open PrefixSearch

abbrev Texto := List Nat

def barra : Nat := 0x2F

inductive Clase where
  | archivosDuplicados
  | directoriosDuplicados
  | colision
  | ancestroDeArchivo
  | ancestroDeDirectorio
  deriving DecidableEq

/-- `CandidateCopyError`, with the paths its text names. -/
structure Conflicto where
  clase : Clase
  rutas : List Texto
  deriving DecidableEq

def sorted (xs : List Texto) : List Texto := xs.insertionSort (· ≤ ·)

variable (casefold : Texto → Texto)

/-- The loop that fills a set of folded paths, stopped by the first that is in it. -/
def registra : List Texto → List Texto → Except Texto (List Texto)
  | vistos, [] => .ok vistos
  | vistos, a :: rest =>
    if casefold a ∈ vistos then .error a else registra (vistos ++ [casefold a]) rest

/-- `originales[cf]`. -/
def original (directorios archivos : List Texto) (cf : Texto) : Texto :=
  ((archivos ++ directorios).find? (casefold · = cf)).getD cf

/-- The loop over the files: below each one, first the files and then the
directories. -/
def revisaAncestros (original : Texto → Texto) (archivosOrdenados dirsOrdenados : List Texto) :
    List Texto → Except Conflicto Unit
  | [] => .ok ()
  | a :: rest =>
    match conPrefijo archivosOrdenados (casefold a ++ [barra]) with
    | some b => .error ⟨.ancestroDeArchivo, [a, original b]⟩
    | none =>
      match conPrefijo dirsOrdenados (casefold a ++ [barra]) with
      | some d => .error ⟨.ancestroDeDirectorio, [a, original d]⟩
      | none => revisaAncestros original archivosOrdenados dirsOrdenados rest

def validarCoherenciaDelLote (directorios archivos : List Texto) : Except Conflicto Unit :=
  match registra casefold [] archivos with
  | .error a => .error ⟨.archivosDuplicados, [a]⟩
  | .ok vistosArchivos =>
    match registra casefold [] directorios with
    | .error d => .error ⟨.directoriosDuplicados, [d]⟩
    | .ok vistosDirs =>
      let colisiones := vistosArchivos.filter (· ∈ vistosDirs)
      if colisiones ≠ [] then .error ⟨.colision, sorted colisiones⟩
      else revisaAncestros casefold (original casefold directorios archivos)
        (sorted vistosArchivos) (sorted vistosDirs) archivos

/-! The pairwise definition -/

/-- Two places of the list hold the same folded path. -/
def Duplicados (xs : List Texto) : Prop :=
  ∃ (i j : Nat) (x y : Texto), i < j ∧ xs[i]? = some x ∧ xs[j]? = some y ∧ casefold x = casefold y

/-- The folded path of the first is a proper ancestor of the second's, component by
component. -/
def Ancestro (x y : Texto) : Prop := Above barra (casefold x) (casefold y)

/-- No conflict between any two entries. -/
structure Coherente (directorios archivos : List Texto) : Prop where
  unArchivo : ¬ Duplicados casefold archivos
  unDirectorio : ¬ Duplicados casefold directorios
  sinColision : ∀ a ∈ archivos, ∀ d ∈ directorios, casefold a ≠ casefold d
  sinArchivoDebajo : ∀ a ∈ archivos, ∀ b ∈ archivos, ¬ Ancestro casefold a b
  sinDirectorioDebajo : ∀ a ∈ archivos, ∀ d ∈ directorios, ¬ Ancestro casefold a d

/-- The first file with something below it, and whether it is a file. -/
def PrimerAncestro (directorios archivos : List Texto) (clase : Clase) : Prop :=
  ∃ antes a despues, archivos = antes ++ a :: despues ∧
    (∀ x ∈ antes, (∀ b ∈ archivos, ¬ Ancestro casefold x b) ∧
      ∀ d ∈ directorios, ¬ Ancestro casefold x d) ∧
    ((clase = .ancestroDeArchivo ∧ ∃ b ∈ archivos, Ancestro casefold a b) ∨
      (clase = .ancestroDeDirectorio ∧ (∀ b ∈ archivos, ¬ Ancestro casefold a b) ∧
        ∃ d ∈ directorios, Ancestro casefold a d))

/-- The kind of conflict that the pairwise comparisons meet first, the two kinds of
ancestor file by file. -/
def PrimerConflicto (directorios archivos : List Texto) : Clase → Prop
  | .archivosDuplicados => Duplicados casefold archivos
  | .directoriosDuplicados => ¬ Duplicados casefold archivos ∧ Duplicados casefold directorios
  | .colision => ¬ Duplicados casefold archivos ∧ ¬ Duplicados casefold directorios ∧
      ∃ a ∈ archivos, ∃ d ∈ directorios, casefold a = casefold d
  | clase => ¬ Duplicados casefold archivos ∧ ¬ Duplicados casefold directorios ∧
      (∀ a ∈ archivos, ∀ d ∈ directorios, casefold a ≠ casefold d) ∧
      PrimerAncestro casefold directorios archivos clase

/-- The same with every file compared with all files before any is with the
directories. -/
def PrimeroEnOrden (directorios archivos : List Texto) : Clase → Prop
  | .ancestroDeArchivo => ¬ Duplicados casefold archivos ∧ ¬ Duplicados casefold directorios ∧
      (∀ a ∈ archivos, ∀ d ∈ directorios, casefold a ≠ casefold d) ∧
      ∃ a ∈ archivos, ∃ b ∈ archivos, Ancestro casefold a b
  | .ancestroDeDirectorio => ¬ Duplicados casefold archivos ∧ ¬ Duplicados casefold directorios ∧
      (∀ a ∈ archivos, ∀ d ∈ directorios, casefold a ≠ casefold d) ∧
      (∀ a ∈ archivos, ∀ b ∈ archivos, ¬ Ancestro casefold a b) ∧
      ∃ a ∈ archivos, ∃ d ∈ directorios, Ancestro casefold a d
  | clase => PrimerConflicto casefold directorios archivos clase

/-! The fast check -/

variable {casefold}

theorem duplicados_iff (xs : List Texto) : Duplicados casefold xs ↔ ¬ (xs.map casefold).Nodup := by
  rw [List.nodup_iff_pairwise_ne, List.pairwise_iff_getElem]
  constructor
  · intro twice all
    obtain ⟨i, j, x, y, before, atI, atJ, same⟩ := twice
    obtain ⟨insideI, rfl⟩ := List.getElem?_eq_some_iff.mp atI
    obtain ⟨insideJ, rfl⟩ := List.getElem?_eq_some_iff.mp atJ
    apply all i j (by simpa using insideI) (by simpa using insideJ) before
    simpa using same
  · intro some_pair
    push Not at some_pair
    obtain ⟨i, j, insideI, insideJ, before, same⟩ := some_pair
    rw [List.length_map] at insideI insideJ
    rw [List.getElem_map, List.getElem_map] at same
    exact ⟨i, j, _, _, before, List.getElem?_eq_getElem insideI, List.getElem?_eq_getElem insideJ, same⟩

theorem registra_ok {vistos xs r : List Texto} (once : vistos.Nodup)
    (done : registra casefold vistos xs = .ok r) :
    r = vistos ++ xs.map casefold ∧ r.Nodup := by
  induction xs generalizing vistos with
  | nil =>
    cases done
    exact ⟨(List.append_nil _).symm, once⟩
  | cons a xs ih =>
    unfold registra at done
    split at done
    · cases done
    · next new =>
      have more : (vistos ++ [casefold a]).Nodup := by
        rw [List.nodup_append]
        refine ⟨once, List.nodup_singleton _, ?_⟩
        intro x old y last same
        rw [List.mem_singleton.mp last] at same
        exact new (same ▸ old)
      obtain ⟨filled, nodup⟩ := ih more done
      refine ⟨?_, nodup⟩
      rw [filled, List.map_cons, List.append_assoc, List.singleton_append]

theorem registra_error {vistos xs : List Texto} {a : Texto}
    (stopped : registra casefold vistos xs = .error a) : ¬ (vistos ++ xs.map casefold).Nodup := by
  induction xs generalizing vistos with
  | nil => cases stopped
  | cons b xs ih =>
    unfold registra at stopped
    split at stopped
    · next seen =>
      intro once
      rw [List.nodup_append] at once
      exact once.2.2 _ seen _ (List.mem_map_of_mem List.mem_cons_self) rfl
    · have later := ih stopped
      rw [List.append_assoc, List.singleton_append] at later
      exact later

theorem sorted_pairwise (xs : List Texto) : (sorted xs).Pairwise (¬ · > ·) :=
  (List.pairwise_insertionSort (· ≤ ·) xs).imp not_lt_of_ge

theorem mem_sorted {xs : List Texto} {x : Texto} : x ∈ sorted xs ↔ x ∈ xs :=
  List.mem_insertionSort _

/-- The search finds something below the file exactly when there is. -/
theorem conPrefijo_ancestro {xs : List Texto} {a z : Texto}
    (found : conPrefijo (sorted (xs.map casefold)) (casefold a ++ [barra]) = some z) :
    ∃ b ∈ xs, Ancestro casefold a b := by
  obtain ⟨mem, starts⟩ := conPrefijo_some found
  obtain ⟨b, inside, rfl⟩ := List.mem_map.mp (mem_sorted.mp mem)
  exact ⟨b, inside, ( above_iff_prefix _ _ _).mpr starts⟩

theorem conPrefijo_sin_ancestro {xs : List Texto} {a : Texto}
    (missing : conPrefijo (sorted (xs.map casefold)) (casefold a ++ [barra]) = none) :
    ∀ b ∈ xs, ¬ Ancestro casefold a b := by
  intro b inside above
  apply conPrefijo_none (sorted_pairwise _) missing _ (mem_sorted.mpr (List.mem_map_of_mem inside))
  exact ( above_iff_prefix _ _ _).mp above

theorem revisaAncestros_ok {nombre : Texto → Texto} {directorios archivos resto : List Texto}
    (done : revisaAncestros casefold nombre (sorted (archivos.map casefold))
      (sorted (directorios.map casefold)) resto = .ok ()) :
    ∀ a ∈ resto, (∀ b ∈ archivos, ¬ Ancestro casefold a b) ∧
      ∀ d ∈ directorios, ¬ Ancestro casefold a d := by
  induction resto with
  | nil => exact List.forall_mem_nil _
  | cons a resto ih =>
    unfold revisaAncestros at done
    split at done
    · cases done
    · next no_file =>
      split at done
      · cases done
      · next no_dir =>
        rw [List.forall_mem_cons]
        exact ⟨⟨conPrefijo_sin_ancestro no_file, conPrefijo_sin_ancestro no_dir⟩, ih done⟩

theorem revisaAncestros_error {nombre : Texto → Texto} {directorios archivos antes resto : List Texto}
    {e : Conflicto} (all : archivos = antes ++ resto)
    (clean : ∀ x ∈ antes, (∀ b ∈ archivos, ¬ Ancestro casefold x b) ∧
      ∀ d ∈ directorios, ¬ Ancestro casefold x d)
    (stopped : revisaAncestros casefold nombre (sorted (archivos.map casefold))
      (sorted (directorios.map casefold)) resto = .error e) :
    PrimerAncestro casefold directorios archivos e.clase := by
  induction resto generalizing antes with
  | nil => cases stopped
  | cons a resto ih =>
    unfold revisaAncestros at stopped
    split at stopped
    · next found =>
      cases stopped
      exact ⟨antes, a, resto, all, clean, .inl ⟨rfl, conPrefijo_ancestro found⟩⟩
    · next no_file =>
      split at stopped
      · next found =>
        cases stopped
        exact ⟨antes, a, resto, all, clean,
          .inr ⟨rfl, conPrefijo_sin_ancestro no_file, conPrefijo_ancestro found⟩⟩
      · next no_dir =>
        have longer : archivos = (antes ++ [a]) ++ resto := by
          rw [all, List.append_assoc, List.singleton_append]
        apply ih longer _ stopped
        · intro x mem
          rw [List.mem_append, List.mem_singleton] at mem
          cases mem with
          | inl before => exact clean x before
          | inr here =>
            subst here
            exact ⟨conPrefijo_sin_ancestro no_file, conPrefijo_sin_ancestro no_dir⟩

theorem colisiones_iff (directorios archivos : List Texto) :
    (archivos.map casefold).filter (· ∈ directorios.map casefold) ≠ [] ↔
      ∃ a ∈ archivos, ∃ d ∈ directorios, casefold a = casefold d := by
  rw [ne_eq, List.filter_eq_nil_iff]
  push Not
  simp only [List.mem_map, decide_eq_true_eq]
  constructor
  · intro found
    obtain ⟨_, ⟨a, inFiles, rfl⟩, d, inDirs, same⟩ := found
    exact ⟨a, inFiles, d, inDirs, same.symm⟩
  · intro found
    obtain ⟨a, inFiles, d, inDirs, same⟩ := found
    exact ⟨_, ⟨a, inFiles, rfl⟩, d, inDirs, same.symm⟩

variable (casefold) (directorios archivos : List Texto)

/-- What the check says of a batch, and what it is then. -/
theorem validar_cases : match validarCoherenciaDelLote casefold directorios archivos with
    | .ok () => Coherente casefold directorios archivos
    | .error e => PrimerConflicto casefold directorios archivos e.clase := by
  unfold validarCoherenciaDelLote
  cases files : registra casefold [] archivos with
  | error a =>
    exact (duplicados_iff _).mpr (registra_error files)
  | ok vistosArchivos =>
    obtain ⟨rfl, once⟩ := registra_ok List.nodup_nil files
    have files_once : ¬ Duplicados casefold archivos := by
      rw [duplicados_iff, not_not]
      exact once
    cases dirs : registra casefold [] directorios with
    | error d =>
      exact ⟨files_once, (duplicados_iff _).mpr (registra_error dirs)⟩
    | ok vistosDirs =>
      obtain ⟨rfl, once_dirs⟩ := registra_ok List.nodup_nil dirs
      have dirs_once : ¬ Duplicados casefold directorios := by
        rw [duplicados_iff, not_not]
        exact once_dirs
      simp only [List.nil_append]
      by_cases collide : (archivos.map casefold).filter (· ∈ directorios.map casefold) ≠ []
      · rw [if_pos collide]
        exact ⟨files_once, dirs_once, (colisiones_iff _ _).mp collide⟩
      · rw [if_neg collide]
        rw [colisiones_iff] at collide
        push Not at collide
        cases ancestors : revisaAncestros casefold (original casefold directorios archivos)
            (sorted (archivos.map casefold)) (sorted (directorios.map casefold)) archivos with
        | ok _ =>
          have clean := revisaAncestros_ok ancestors
          exact ⟨files_once, dirs_once, collide, fun a mem => (clean a mem).1,
            fun a mem => (clean a mem).2⟩
        | error e =>
          have first := revisaAncestros_error rfl (List.forall_mem_nil _) ancestors
          obtain ⟨clase, rutas⟩ := e
          cases clase with
          | ancestroDeArchivo => exact ⟨files_once, dirs_once, collide, first⟩
          | ancestroDeDirectorio => exact ⟨files_once, dirs_once, collide, first⟩
          | _ =>
            obtain ⟨_, _, _, _, _, kind⟩ := first
            rcases kind with ⟨other, _⟩ | ⟨other, _⟩ <;> cases other

variable {directorios archivos}

theorem Coherente.sin_conflicto {casefold : Texto → Texto}
    (coherente : Coherente casefold directorios archivos) (clase : Clase) :
    ¬ PrimerConflicto casefold directorios archivos clase := by
  intro first
  cases clase with
  | archivosDuplicados => exact coherente.unArchivo first
  | directoriosDuplicados => exact coherente.unDirectorio first.2
  | colision =>
    obtain ⟨_, _, a, inFiles, d, inDirs, same⟩ := first
    exact coherente.sinColision a inFiles d inDirs same
  | ancestroDeArchivo | ancestroDeDirectorio =>
    obtain ⟨_, _, _, before, a, after, all, _, kind⟩ := first
    have inFiles : a ∈ archivos := by
      rw [all]
      exact List.mem_append_right _ List.mem_cons_self
    rcases kind with ⟨_, b, below, above⟩ | ⟨_, _, d, below, above⟩
    · exact coherente.sinArchivoDebajo a inFiles b below above
    · exact coherente.sinDirectorioDebajo a inFiles d below above

variable (directorios archivos)

/-- The sorted check accepts what the pairwise definition accepts, and reports the
kind of conflict that it meets first. -/
theorem coherencia_exacta :
    (validarCoherenciaDelLote casefold directorios archivos = .ok () ↔
      Coherente casefold directorios archivos) ∧
    ∀ e, validarCoherenciaDelLote casefold directorios archivos = .error e →
      PrimerConflicto casefold directorios archivos e.clase := by
  have verdict := validar_cases casefold directorios archivos
  constructor
  · constructor
    · intro accepted
      rw [accepted] at verdict
      exact verdict
    · intro coherente
      cases checked : validarCoherenciaDelLote casefold directorios archivos with
      | ok _ => rfl
      | error e =>
        rw [checked] at verdict
        exact absurd verdict (coherente.sin_conflicto e.clase)
  · intro e rejected
    rw [rejected] at verdict
    exact verdict

/-- Files `a`, `b` and `b/c` with the directory `a/x`: the directory under `a` is
reported, though there is a file under `b`. -/
theorem coherencia_archivo_por_archivo :
    (validarCoherenciaDelLote id [[97, barra, 120]] [[97], [98], [98, barra, 99]] =
      .error ⟨.ancestroDeDirectorio, [[97], [97, barra, 120]]⟩) ∧
    ¬ PrimeroEnOrden id [[97, barra, 120]] [[97], [98], [98, barra, 99]] .ancestroDeDirectorio := by
  constructor
  · decide
  · intro first
    obtain ⟨_, _, _, no_file, _⟩ := first
    apply no_file [98] (by decide) [98, barra, 99] (by decide)
    exact ⟨[[99]], by decide, by decide⟩

end SealedBatches
