import Mathlib.Data.List.Basic

set_option linter.all false

/-!
Which member of an archive the FOMOD preview reads, and which one the installer
finds after it has extracted the archive. A listing is the member names in archive
order, a member its place in it.
-/
namespace FomodPreview

abbrev Texto := List Char

/-- Outermost name first, each as the file system tells names apart. -/
abbrev Ruta := List Texto

/-- What the operating system makes of names. `destino` is where a member lands below
the extraction directory, if it lands there, `drive` is `PureWindowsPath.drive`, and
`xml` and `esFomod` are how `ModuleConfig.xml` and a directory whose lower-case name
is `fomod` are known. -/
structure Plataforma where
  destino : Texto → Option Ruta
  drive : Texto → Bool
  xml : Texto
  esFomod : Texto → Bool

/-- `_is_safe_path`. -/
def isSafePath (memberPath : Texto) : Bool := !(memberPath.splitOn '/').contains ['.', '.']

def normalized (memberPath : Texto) : Texto :=
  memberPath.map fun c => if c = '\\' then '/' else c.toLower

/-- `_is_fomod_xml_name`. -/
def isFomodXmlName (P : Plataforma) (memberPath : Texto) : Bool :=
  "fomod/moduleconfig.xml".toList.isSuffixOf (normalized memberPath) && isSafePath memberPath &&
    (normalized memberPath).head? ≠ some '/' && !P.drive (normalized memberPath)

/-- The last member that meets the condition. -/
def ultimo (q : Texto → Bool) : Nat → List Texto → Option Nat
  | _, [] => none
  | i, n :: ns => (ultimo q (i + 1) ns).or (if q n then some i else none)

/-- `_read_from_zip`. A name stands for the last member that bears it. -/
def readFromZip (P : Plataforma) (nombres : List Texto) : Option Nat :=
  (nombres.find? (isFomodXmlName P)).bind fun n => ultimo (· = n) 0 nombres

/-! Extraction -/

/-- The files extracted so far, each with the member written to it last. -/
abbrev Arbol := List (Ruta × Nat)

def isDir (nombre : Texto) : Bool := nombre.getLast? = some '/'

/-- A file stands where a directory is needed, or a directory where the file goes. -/
def Arbol.estorba (t : Arbol) (p : Ruta) : Bool :=
  t.any fun f => f.1 ≠ p && (f.1.isPrefixOf p || p.isPrefixOf f.1)

/-- `_extract_zip`, from the member `i` on. -/
def extractFrom (P : Plataforma) : Nat → Arbol → List Texto → Option Arbol
  | _, t, [] => some t
  | i, t, n :: ns =>
    if isDir n then extractFrom P (i + 1) t ns
    else if !isSafePath n then none
    else match P.destino n with
      | none => none
      | some p =>
        if p = [] ∨ t.estorba p then none
        else extractFrom P (i + 1) ((p, i) :: t.filter (·.1 ≠ p)) ns

def extractZip (P : Plataforma) (nombres : List Texto) : Option Arbol := extractFrom P 0 [] nombres

/-- There is a file or a directory at the path. -/
def Arbol.existe (t : Arbol) (p : Ruta) : Bool := t.any fun f => p.isPrefixOf f.1

/-- The directory is called `fomod` and holds an entry `ModuleConfig.xml`. -/
def candidata (P : Plataforma) (t : Arbol) (d : Ruta) : Bool :=
  d.getLast?.any P.esFomod && t.existe (d ++ [P.xml])

/-- `_find_fomod_xml`, where `recorrido` is the order in which the walk comes to the
directories. What it finds is a directory itself when no member was written there. -/
def findFomodXml (P : Plataforma) (recorrido : List Ruta) (t : Arbol) : Option (Option Nat) :=
  (recorrido.find? (candidata P t)).map fun d => t.lookup (d ++ [P.xml])

/-- Both find none, or both the same member. -/
def Coinciden (P : Plataforma) (nombres : List Texto) (recorrido : List Ruta) (t : Arbol) : Prop :=
  findFomodXml P recorrido t = (readFromZip P nombres).map some

/-- The member of this name is written to the path. -/
def escribe (P : Plataforma) (p : Ruta) (nombre : Texto) : Bool :=
  !isDir nombre && P.destino nombre = some p

/-- No name is taken for the configuration and no directory offers one; or the first
name taken for it is written as `ModuleConfig.xml` in a directory called `fomod`, the
walk comes to no other such directory before, and whatever is written there is
followed by a member of that name. -/
def MismaConfiguracion (P : Plataforma) (nombres : List Texto) (recorrido : List Ruta) (t : Arbol) :
    Prop :=
  ((∀ n ∈ nombres, isFomodXmlName P n = false) ∧ ∀ d ∈ recorrido, candidata P t d = false) ∨
  ∃ n d, nombres.find? (isFomodXmlName P) = some n ∧ recorrido.find? (candidata P t) = some d ∧
    escribe P (d ++ [P.xml]) n = true ∧
    ∀ (i : Nat) (m : Texto), nombres[i]? = some m → escribe P (d ++ [P.xml]) m = true →
      ∃ j, i ≤ j ∧ nombres[j]? = some n

/-! The last member -/

theorem ultimo_none {q : Texto → Bool} {i : Nat} {ns : List Texto} :
    ultimo q i ns = none ↔ ∀ n ∈ ns, q n = false := by
  induction ns generalizing i with
  | nil => simp [ultimo]
  | cons n ns ih =>
    rw [ultimo, Option.or_eq_none_iff, ih, List.forall_mem_cons]
    cases q n <;> simp

theorem ultimo_some {q : Texto → Bool} {i k : Nat} {ns : List Texto} :
    ultimo q i ns = some k ↔ ∃ j n, k = i + j ∧ ns[j]? = some n ∧ q n = true ∧
      ∀ l m, j < l → ns[l]? = some m → q m = false := by
  induction ns generalizing i k with
  | nil => simp [ultimo]
  | cons n ns ih =>
    rw [ultimo]
    cases later : ultimo q (i + 1) ns with
    | some l =>
      rw [Option.some_or]
      obtain ⟨j, m, rfl, there, holds, last⟩ := ih.mp later
      constructor
      · intro same
        refine ⟨j + 1, m, by rw [← Option.some.inj same]; omega, there, holds, ?_⟩
        intro l m' after there'
        obtain ⟨l, rfl⟩ : ∃ l', l = l' + 1 := ⟨l - 1, by omega⟩
        exact last l m' (by omega) there'
      · intro found
        obtain ⟨j', m', rfl, there', holds', last'⟩ := found
        cases j' with
        | zero =>
          have not_last := last' (j + 1) m (by omega) there
          rw [holds] at not_last
          cases not_last
        | succ j' =>
          rw [← later, ih]
          refine ⟨j', m', by omega, there', holds', ?_⟩
          intro l m'' after there''
          exact last' (l + 1) m'' (by omega) there''
    | none =>
      rw [Option.none_or]
      rw [ultimo_none] at later
      constructor
      · intro here
        split at here
        · next holds =>
          cases here
          refine ⟨0, n, by omega, rfl, holds, ?_⟩
          intro l m after there
          obtain ⟨l, rfl⟩ : ∃ l', l = l' + 1 := ⟨l - 1, by omega⟩
          exact later m (List.mem_of_getElem? there)
        · cases here
      · intro found
        obtain ⟨j, m, rfl, there, holds, _⟩ := found
        cases j with
        | zero =>
          cases there
          rw [if_pos holds, Nat.add_zero]
        | succ j =>
          have not_there := later m (List.mem_of_getElem? there)
          rw [holds] at not_there
          cases not_there

/-- Two conditions, one narrower: their last members are the same when the wider one
is always followed by the narrower. -/
theorem ultimo_eq_iff {q r : Texto → Bool} {ns : List Texto} (narrower : ∀ n, q n = true → r n = true)
    (some_one : ∃ n ∈ ns, q n = true) :
    ultimo r 0 ns = ultimo q 0 ns ↔
      ∀ (i : Nat) (m : Texto), ns[i]? = some m → r m = true → ∃ (j : Nat) (n : Texto), i ≤ j ∧ ns[j]? = some n ∧ q n = true := by
  cases last : ultimo q 0 ns with
  | none =>
    obtain ⟨n, mem, holds⟩ := some_one
    rw [ultimo_none.mp last n mem] at holds
    cases holds
  | some k =>
    obtain ⟨j, n, rfl, there, holds, after⟩ := ultimo_some.mp last
    constructor
    · intro same
      obtain ⟨j', m', place, there', _, after'⟩ := ultimo_some.mp same
      intro i m at_i wide
      refine ⟨j, n, ?_, there, holds⟩
      by_contra late
      have not_wide := after' i m (by omega) at_i
      rw [wide] at not_wide
      cases not_wide
    · intro followed
      apply ultimo_some.mpr
      refine ⟨j, n, rfl, there, narrower n holds, ?_⟩
      intro l m later at_l
      by_contra wide
      obtain ⟨j', n', from_l, there', holds'⟩ := followed l m at_l (by simpa using wide)
      have not_holds := after j' n' (by omega) there'
      rw [holds'] at not_holds
      cases not_holds

/-! The extracted tree -/

theorem lookup_put (t : Arbol) (p o : Ruta) (i : Nat) :
    List.lookup o ((p, i) :: t.filter (·.1 ≠ p)) = if o = p then some i else t.lookup o := by
  rw [List.lookup_cons]
  by_cases same : o = p
  · subst same
    simp
  · rw [if_neg same]
    have other : (o == p) = false := by simpa using same
    rw [other]
    induction t with
    | nil => rfl
    | cons f t ih =>
      obtain ⟨r, k⟩ := f
      by_cases gone : r = p
      · subst gone
        rw [List.filter_cons_of_neg (by simp), List.lookup_cons, other]
        exact ih
      · rw [List.filter_cons_of_pos (by simpa using gone), List.lookup_cons, List.lookup_cons]
        cases o == r with
        | true => rfl
        | false => exact ih

theorem lookup_extractFrom {P : Plataforma} {i : Nat} {t t' : Arbol} {ns : List Texto}
    (done : extractFrom P i t ns = some t') (p : Ruta) :
    t'.lookup p = (ultimo (escribe P p) i ns).or (t.lookup p) := by
  induction ns generalizing i t with
  | nil =>
    cases done
    rfl
  | cons n ns ih =>
    rw [ultimo]
    unfold extractFrom at done
    split at done
    · next dir =>
      rw [ih done, if_neg (by simp [escribe, dir]), Option.or_none]
    · next file =>
      split at done
      · cases done
      · split at done
        · cases done
        · next o placed =>
          split at done
          · cases done
          · rw [ih done, lookup_put, Option.or_assoc]
            congr 1
            by_cases same : p = o
            · subst same
              rw [if_pos rfl, if_pos (by simp [escribe, placed, file]), Option.some_or]
            · rw [if_neg same, if_neg, Option.none_or]
              simp [escribe, placed, Ne.symm same]

theorem lookup_extractZip {P : Plataforma} {t : Arbol} {nombres : List Texto}
    (done : extractZip P nombres = some t) (p : Ruta) :
    t.lookup p = ultimo (escribe P p) 0 nombres := by
  rw [lookup_extractFrom done, List.lookup_nil, Option.or_none]

theorem narrower {P : Plataforma} {p : Ruta} {n : Texto} (here : escribe P p n = true) (m : Texto)
    (same : decide (m = n) = true) : escribe P p m = true := by
  rw [of_decide_eq_true same]
  exact here

/-- Preview and installation take the same member exactly when the condition holds. -/
theorem coinciden_iff (P : Plataforma) (nombres : List Texto) (recorrido : List Ruta) {t : Arbol}
    (done : extractZip P nombres = some t) :
    Coinciden P nombres recorrido t ↔ MismaConfiguracion P nombres recorrido t := by
  unfold Coinciden MismaConfiguracion findFomodXml readFromZip
  cases name : nombres.find? (isFomodXmlName P) with
  | none =>
    rw [List.find?_eq_none] at name
    simp only [Option.bind_none, Option.map_none, Option.map_eq_none_iff, List.find?_eq_none]
    constructor
    · intro none_offered
      left
      exact ⟨fun n mem => by simpa using name n mem, fun d mem => by simpa using none_offered d mem⟩
    · rintro (⟨_, none_offered⟩ | ⟨n, _, found, _⟩)
      · intro d mem
        simp [none_offered d mem]
      · cases found
  | some n =>
    have mem := List.mem_of_find?_eq_some name
    have taken := List.find?_some name
    rw [Option.bind_some]
    have last : ∃ k, ultimo (· = n) 0 nombres = some k := by
      rw [← Option.isSome_iff_exists, Option.isSome_iff_ne_none, ne_eq, ultimo_none]
      intro absent
      simpa using absent n mem
    obtain ⟨k, last⟩ := last
    rw [last, Option.map_some]
    cases place : recorrido.find? (candidata P t) with
    | none =>
      constructor
      · intro same
        cases same
      · rintro (⟨no_name, _⟩ | ⟨_, _, _, found, _⟩)
        · rw [no_name n mem] at taken
          cases taken
        · cases found
    | some d =>
      rw [Option.map_some, Option.some.injEq, lookup_extractZip done, ← last]
      constructor
      · intro same
        right
        have here : escribe P (d ++ [P.xml]) n = true := by
          obtain ⟨j, m, rfl, there, is_n, _⟩ := ultimo_some.mp last
          obtain ⟨j', m', place', there', written, _⟩ := ultimo_some.mp (same.trans last)
          have one : j' = j := by omega
          subst one
          rw [there] at there'
          cases there'
          rw [of_decide_eq_true is_n] at written
          exact written
        refine ⟨n, d, rfl, rfl, here, ?_⟩
        intro i m at_i written
        obtain ⟨j, m', after, there, is_n⟩ :=
          (ultimo_eq_iff (narrower here) ⟨n, mem, decide_eq_true rfl⟩).mp same i m at_i written
        rw [of_decide_eq_true is_n] at there
        exact ⟨j, after, there⟩
      · rintro (⟨no_name, _⟩ | ⟨_, _, first, found, here, followed⟩)
        · rw [no_name n mem] at taken
          cases taken
        · cases first
          cases found
          apply (ultimo_eq_iff (narrower here) ⟨n, mem, decide_eq_true rfl⟩).mpr
          intro i m at_i written
          obtain ⟨j, after, there⟩ := followed i m at_i written
          exact ⟨j, n, after, there, decide_eq_true rfl⟩

/-- POSIX, where a name is the text it is. -/
def posix : Plataforma where
  destino n := if n.head? = some '/' then none
    else some ((n.splitOn '/').filter fun c => c ≠ [] ∧ c ≠ ['.'])
  drive n := n.head?.any Char.isAlpha && n[1]? = some ':'
  xml := "ModuleConfig.xml".toList
  esFomod c := c.map Char.toLower = "fomod".toList

theorem coinciden_unico :
    Coinciden posix ["FOMOD/ModuleConfig.xml".toList] [[], ["FOMOD".toList]]
      [(["FOMOD".toList, "ModuleConfig.xml".toList], 0)] :=
  (coinciden_iff posix _ _ (by decide)).mpr (.inr ⟨"FOMOD/ModuleConfig.xml".toList, ["FOMOD".toList],
    by decide, by decide, by decide, by
      intro i m at_i _
      obtain rfl := List.mem_singleton.mp (List.mem_of_getElem? at_i)
      exact ⟨i, Nat.le_refl i, at_i⟩⟩)

/-- A directory whose name only ends in `fomod`. -/
theorem xfomod_no_coincide : ∃ t, extractZip posix ["xfomod/ModuleConfig.xml".toList] = some t ∧
    ¬ Coinciden posix ["xfomod/ModuleConfig.xml".toList] [[], ["xfomod".toList]] t := by
  refine ⟨[(["xfomod".toList, "ModuleConfig.xml".toList], 0)], by decide, ?_⟩
  unfold Coinciden
  decide

end FomodPreview
