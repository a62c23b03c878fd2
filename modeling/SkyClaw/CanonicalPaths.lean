import SkyClaw.SealedBatches

set_option linter.all false

/-!
`canonicalizar_relpath_de_scope`: the one canonical form of a relative path. A canonical
path is its own canonical form.
-/
namespace CanonicalPaths
open SealedBatches (Texto barra)

local instance lawfulBEq_parte : LawfulBEq (List Nat) := inferInstance

def contrabarra : Nat := 0x5C

def punto : Nat := 0x2E

def espacio : Nat := 0x20

def dosPuntos : Nat := 0x3A

inductive Tipo where
  | archivo
  | directorio
  deriving DecidableEq

/-- `DirectoryMembershipError`, by what its text says. -/
inductive Rechazo where
  | vacia
  | control
  | absoluta
  | unidad
  | noCanonico
  | sufijo
  | caracteres
  | reservado
  | degenerada
  | nombraDirectorio
  deriving DecidableEq

def texto (s : String) : Texto := s.toList.map Char.toNat

/-- `_CONTROL_O_DEL` -/
def controlODel (c : Nat) : Bool := c < 0x20 || c = 0x7F

/-- `_WINDOWS_INVALID_CHARS` -/
def windowsInvalidChars : List Nat := texto "<>\"|?*"

/-- `_WINDOWS_RESERVED_NAMES` -/
def windowsReservedNames : List Texto :=
  (["con", "prn", "aux", "nul", "clock$", "com1", "com2", "com3", "com4", "com5", "com6", "com7", "com8",
    "com9", "lpt1", "lpt2", "lpt3", "lpt4", "lpt5", "lpt6", "lpt7", "lpt8", "lpt9"]).map texto

variable (casefold : Texto → Texto)

/-- What is wrong with a component that names something. -/
def revisaParte (parte : Texto) : Option Rechazo :=
  if parte = [punto, punto] ∨ dosPuntos ∈ parte then some .noCanonico
  else if parte.getLast? = some espacio ∨ parte.getLast? = some punto then some .sufijo
  else if parte.any (· ∈ windowsInvalidChars) then some .caracteres
  else if casefold (parte.takeWhile (· ≠ punto)) ∈ windowsReservedNames then some .reservado
  else none

/-- The loop over the components. -/
def recorrePartes : List Texto → Except Rechazo (List Texto)
  | [] => .ok []
  | parte :: resto =>
    if parte = [] ∨ parte = [punto] then recorrePartes resto
    else match revisaParte casefold parte with
      | some e => .error e
      | none => (recorrePartes resto).map (parte :: ·)

def componentes (entrada : Texto) : List Texto :=
  (entrada.map fun c => if c = contrabarra then barra else c).splitOn barra

def canonicalizarRelpathDeScope (entrada : Texto) (tipo : Tipo) : Except Rechazo Texto :=
  if entrada = [] then .error .vacia
  else if entrada.any controlODel then .error .control
  else if entrada.head? = some barra ∨ entrada.head? = some contrabarra then .error .absoluta
  else if dosPuntos ∈ entrada then .error .unidad
  else match recorrePartes casefold (componentes entrada) with
    | .error e => .error e
    | .ok partes =>
      if partes = [] then .error .degenerada
      else if tipo = .archivo ∧ ((componentes entrada).getLast? = some [] ∨
          (componentes entrada).getLast? = some [punto]) then .error .nombraDirectorio
      else .ok ([barra].intercalate partes)

/-! What a canonical path is -/

/-- A component that names something and is its own name. -/
structure Nombre (parte : Texto) : Prop where
  noVacia : parte ≠ []
  noPunto : parte ≠ [punto]
  noSube : parte ≠ [punto, punto]
  sinSeparador : barra ∉ parte ∧ contrabarra ∉ parte
  sinUnidad : dosPuntos ∉ parte
  sinControl : parte.any controlODel = false
  aceptada : revisaParte casefold parte = none

variable {casefold}

theorem recorrePartes_ok {todas partes : List Texto} (done : recorrePartes casefold todas = .ok partes) :
    partes = todas.filter (fun p => p ≠ [] ∧ p ≠ [punto]) ∧
      ∀ p ∈ partes, revisaParte casefold p = none := by
  induction todas generalizing partes with
  | nil =>
    cases done
    exact ⟨rfl, List.forall_mem_nil _⟩
  | cons parte resto ih =>
    unfold recorrePartes at done
    split at done
    · next structural =>
      have rest := ih done
      refine ⟨?_, rest.2⟩
      rw [rest.1, List.filter_cons_of_neg]
      simp only [decide_eq_true_eq]
      tauto
    · next named =>
      split at done
      · cases done
      · next accepted =>
        cases later : recorrePartes casefold resto with
        | error e =>
          rw [later] at done
          cases done
        | ok partes' =>
          rw [later] at done
          cases done
          have rest := ih later
          refine ⟨?_, List.forall_mem_cons.mpr ⟨accepted, rest.2⟩⟩
          rw [rest.1, List.filter_cons_of_pos]
          simp only [decide_eq_true_eq]
          tauto

theorem recorrePartes_nombres {partes : List Texto} (names : ∀ p ∈ partes, Nombre casefold p) :
    recorrePartes casefold partes = .ok partes := by
  induction partes with
  | nil => rfl
  | cons parte resto ih =>
    rw [List.forall_mem_cons] at names
    have named : ¬ (parte = [] ∨ parte = [punto]) := not_or.mpr ⟨names.1.noVacia, names.1.noPunto⟩
    rw [recorrePartes, if_neg named, names.1.aceptada, ih names.2]
    rfl

theorem mem_of_mem_splitOn {t l : Texto} {sep c : Nat} (mem : l ∈ t.splitOn sep) (inside : c ∈ l) :
    c ∈ t ∧ c ≠ sep := by
  induction t generalizing l with
  | nil =>
    rw [List.splitOn_nil, List.mem_singleton] at mem
    rw [mem] at inside
    cases inside
  | cons a t ih =>
    rw [List.splitOn_cons_eq_if_modifyHead] at mem
    split at mem
    · cases List.mem_cons.mp mem with
      | inl empty =>
        rw [empty] at inside
        cases inside
      | inr later => exact ⟨List.mem_cons_of_mem _ (ih later inside).1, (ih later inside).2⟩
    · next other =>
      obtain ⟨first, rest, same⟩ := List.exists_cons_of_ne_nil (List.splitOn_ne_nil sep t)
      rw [same, List.modifyHead_cons] at mem
      cases List.mem_cons.mp mem with
      | inl first_one =>
        rw [first_one] at inside
        cases List.mem_cons.mp inside with
        | inl here =>
          rw [here]
          exact ⟨List.mem_cons_self, by simpa using other⟩
        | inr there =>
          have kept := ih (by rw [same]; exact List.mem_cons_self) there
          exact ⟨List.mem_cons_of_mem _ kept.1, kept.2⟩
      | inr later =>
        have kept := ih (by rw [same]; exact List.mem_cons_of_mem _ later) inside
        exact ⟨List.mem_cons_of_mem _ kept.1, kept.2⟩

theorem mem_intercalate {partes : List Texto} {c : Nat} (mem : c ∈ [barra].intercalate partes) :
    c = barra ∨ ∃ p ∈ partes, c ∈ p := by
  induction partes with
  | nil => cases mem
  | cons parte resto ih =>
    by_cases last : resto = []
    · rw [last, List.intercalate_singleton] at mem
      exact .inr ⟨parte, List.mem_cons_self, mem⟩
    · rw [List.intercalate_cons_of_ne_nil last, List.mem_append, List.mem_append] at mem
      rcases mem with (here | sep) | later
      · exact .inr ⟨parte, List.mem_cons_self, here⟩
      · exact .inl (List.mem_singleton.mp sep)
      · cases ih later with
        | inl sep => exact .inl sep
        | inr found =>
          obtain ⟨p, inside, mem⟩ := found
          exact .inr ⟨p, List.mem_cons_of_mem _ inside, mem⟩

/-- What is in a component is in the entry, and is no separator. -/
theorem mem_componentes {entrada p : Texto} {c : Nat} (mem : p ∈ componentes entrada) (inside : c ∈ p) :
    c ∈ entrada ∧ c ≠ barra ∧ c ≠ contrabarra := by
  obtain ⟨replaced, other⟩ := mem_of_mem_splitOn mem inside
  obtain ⟨a, written, same⟩ := List.mem_map.mp replaced
  split at same
  · exact absurd same.symm other
  · next kept =>
    rw [← same]
    exact ⟨written, same ▸ other, kept⟩

/-- The four checks over the whole entry. -/
structure Admisible (entrada : Texto) : Prop where
  noVacia : entrada ≠ []
  sinControl : entrada.any controlODel = false
  relativa : entrada.head? ≠ some barra ∧ entrada.head? ≠ some contrabarra
  sinUnidad : dosPuntos ∉ entrada

theorem canonicalizar_ok {entrada c : Texto} {tipo : Tipo}
    (done : canonicalizarRelpathDeScope casefold entrada tipo = .ok c) :
    Admisible entrada ∧ ∃ partes, recorrePartes casefold (componentes entrada) = .ok partes ∧ partes ≠ [] ∧
      c = [barra].intercalate partes := by
  unfold canonicalizarRelpathDeScope at done
  split at done
  · cases done
  · next some_ =>
    split at done
    · cases done
    · next printable =>
      split at done
      · cases done
      · next relative =>
        split at done
        · cases done
        · next no_unit =>
          split at done
          · cases done
          · next partes walked =>
            split at done
            · cases done
            · next named =>
              split at done
              · cases done
              · cases done
                exact ⟨⟨some_, by simpa using printable, not_or.mp relative, no_unit⟩, partes, walked, named, rfl⟩

/-- The components of a canonical path. -/
theorem canonicalizar_nombres {entrada c : Texto} {tipo : Tipo}
    (done : canonicalizarRelpathDeScope casefold entrada tipo = .ok c) :
    ∃ partes, partes ≠ [] ∧ (∀ p ∈ partes, Nombre casefold p) ∧ c = [barra].intercalate partes := by
  obtain ⟨admitted, partes, walked, some_, rfl⟩ := canonicalizar_ok done
  obtain ⟨kept, accepted⟩ := recorrePartes_ok walked
  refine ⟨partes, some_, ?_, rfl⟩
  intro p mem
  have listed : p ∈ componentes entrada ∧ (p ≠ [] ∧ p ≠ [punto]) := by
    rw [kept, List.mem_filter] at mem
    exact ⟨mem.1, by simpa using mem.2⟩
  have clean := accepted p mem
  have not_up : ¬ (p = [punto, punto] ∨ dosPuntos ∈ p) := by
    intro bad
    rw [revisaParte, if_pos bad] at clean
    cases clean
  constructor
  · exact listed.2.1
  · exact listed.2.2
  · exact fun up => not_up (.inl up)
  · exact ⟨fun sep => (mem_componentes listed.1 sep).2.1 rfl, fun sep => (mem_componentes listed.1 sep).2.2 rfl⟩
  · exact fun unit => not_up (.inr unit)
  · rw [List.any_eq_false]
    intro c inside
    exact List.any_eq_false.mp admitted.sinControl c (mem_componentes listed.1 inside).1
  · exact clean

/-! Names joined are read back as they are -/

section
variable {partes : List Texto} (names : ∀ p ∈ partes, Nombre casefold p)
include names

theorem contrabarra_notMem : contrabarra ∉ [barra].intercalate partes := by
  intro mem
  cases mem_intercalate mem with
  | inl sep => exact absurd sep (by decide)
  | inr found =>
    obtain ⟨p, listed, inside⟩ := found
    exact (names p listed).sinSeparador.2 inside

theorem componentes_intercalate (some_ : partes ≠ []) :
    componentes ([barra].intercalate partes) = partes := by
  have unchanged : ([barra].intercalate partes).map (fun c => if c = contrabarra then barra else c) =
      [barra].intercalate partes := by
    conv_rhs => rw [← List.map_id ([barra].intercalate partes)]
    apply List.map_congr_left
    intro c inside
    rw [if_neg, id]
    rintro rfl
    exact contrabarra_notMem names inside
  rw [componentes, unchanged]
  exact List.splitOn_intercalate barra (fun p mem => (names p mem).sinSeparador.1) some_

theorem admisible_intercalate (some_ : partes ≠ []) : Admisible ([barra].intercalate partes) := by
  obtain ⟨first, resto, rfl⟩ := List.exists_cons_of_ne_nil some_
  have solid := names first List.mem_cons_self
  obtain ⟨a, tail, rfl⟩ := List.exists_cons_of_ne_nil solid.noVacia
  have starts : ([barra].intercalate ((a :: tail) :: resto)).head? = some a := by
    rw [List.intercalate_cons_cons_left, List.head?_cons]
  constructor
  · intro empty
    rw [empty] at starts
    cases starts
  · rw [List.any_eq_false]
    intro c mem
    cases mem_intercalate mem with
    | inl sep =>
      subst sep
      decide
    | inr found =>
      obtain ⟨p, listed, inside⟩ := found
      exact List.any_eq_false.mp (names p listed).sinControl c inside
  · rw [starts]
    constructor
    · intro sep
      exact solid.sinSeparador.1 (Option.some.inj sep ▸ List.mem_cons_self)
    · intro sep
      exact solid.sinSeparador.2 (Option.some.inj sep ▸ List.mem_cons_self)
  · intro mem
    cases mem_intercalate mem with
    | inl sep => exact absurd sep (by decide)
    | inr found =>
      obtain ⟨p, listed, inside⟩ := found
      exact (names p listed).sinUnidad inside

theorem canonicalizar_intercalate (some_ : partes ≠ []) (tipo : Tipo) :
    canonicalizarRelpathDeScope casefold ([barra].intercalate partes) tipo = .ok ([barra].intercalate partes) := by
  have admitted := admisible_intercalate names some_
  have last_named : ¬ (tipo = .archivo ∧ (partes.getLast? = some [] ∨ partes.getLast? = some [punto])) := by
    intro bad
    cases bad.2 with
    | inl empty => exact (names _ (List.mem_of_getLast? empty)).noVacia rfl
    | inr dot => exact (names _ (List.mem_of_getLast? dot)).noPunto rfl
  unfold canonicalizarRelpathDeScope
  rw [if_neg admitted.noVacia, if_neg (by rw [admitted.sinControl]; decide), if_neg (not_or.mpr admitted.relativa),
    if_neg admitted.sinUnidad, componentes_intercalate names some_, recorrePartes_nombres names]
  simp only
  rw [if_neg some_, if_neg last_named]

end

/-- Not absolute, with no drive, and no component that is empty, `.` or `..`. -/
structure Segura (c : Texto) : Prop where
  relativa : c.head? ≠ some barra ∧ contrabarra ∉ c
  sinUnidad : dosPuntos ∉ c
  componentes : ∀ p ∈ c.splitOn barra, p ≠ [] ∧ p ≠ [punto] ∧ p ≠ [punto, punto]

/-- A canonical path is safe, and canonical as a file and as a directory. -/
theorem canonicalizar_idempotente {entrada c : Texto} {tipo : Tipo}
    (done : canonicalizarRelpathDeScope casefold entrada tipo = .ok c) :
    Segura c ∧ ∀ tipo', canonicalizarRelpathDeScope casefold c tipo' = .ok c := by
  obtain ⟨partes, some_, names, rfl⟩ := canonicalizar_nombres done
  have admitted := admisible_intercalate names some_
  refine ⟨⟨⟨admitted.relativa.1, contrabarra_notMem names⟩, admitted.sinUnidad, ?_⟩,
    canonicalizar_intercalate names some_⟩
  rw [List.splitOn_intercalate barra (fun p mem => (names p mem).sinSeparador.1) some_]
  intro p mem
  exact ⟨(names p mem).noVacia, (names p mem).noPunto, (names p mem).noSube⟩

end CanonicalPaths
