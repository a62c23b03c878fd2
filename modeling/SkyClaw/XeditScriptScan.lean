import SkyClaw.XeditErrors

set_option linter.all false

/-!
The scan of `_parse_script_output` line by line: a head may end its line, and then its
message is the first line after it that is not blank.
-/
namespace XeditErrors
open TrimmedText TextLines LiteralPatterns

/-- What follows the first match of a head in a line. -/
def primera (h : Texto) : Texto → Option Texto
  | [] => none
  | c :: t => (trasLiteral h (c :: t)).or (primera h t)

/-- The message that a line gives: the whole line, if one is waited for. -/
def lee (h : Texto) (pend : Bool) (l : Texto) : Option Texto :=
  if pend then some (strip isspace l) else (primera h l).map (strip isspace)

/-- Whether a message is still waited for after some lines: a head with only blanks
    behind it has been met. -/
def espera (h : Texto) (pend : Bool) (ls : List Texto) : Bool :=
  ls.foldl (fun pend l => lee h pend l = some []) pend

/-- The messages of one head, line by line. -/
def porLineas (h : Texto) : Bool → List Texto → List Texto
  | _, [] => []
  | pend, l :: ls => (lee h pend l).toList.filter (· ≠ []) ++ porLineas h (lee h pend l = some []) ls

/-- What follows a line in a text. -/
def cola (ls : List Texto) : Texto := ls.flatMap ('\n' :: ·)

/-- A head starts at once and ends in its line. -/
structure Cabeza (h : Texto) : Prop where
  noVacia : h ≠ []
  enLinea : ∀ a ∈ h, minuscula '\n' ≠ minuscula a

theorem Cabeza.of_mem {h : Texto} (mem : h ∈ cabezasDeError) : Cabeza h := by
  have all : (cabezasDeError.all fun h => h ≠ [] && h.all fun a => minuscula '\n' ≠ minuscula a) = true := by
    decide
  simp only [List.all_eq_true, Bool.and_eq_true, decide_eq_true_eq] at all
  exact ⟨(all h mem).1, (all h mem).2⟩

@[simp] theorem cola_nil : cola [] = [] := rfl

@[simp] theorem cola_cons (l : Texto) (ls : List Texto) : cola (l :: ls) = '\n' :: (l ++ cola ls) := rfl

theorem trasLiteral_cola {h : Texto} (inside : ∀ a ∈ h, minuscula '\n' ≠ minuscula a) (l : Texto)
    (ls : List Texto) :
    trasLiteral h (l ++ cola ls) = (trasLiteral h l).map (· ++ cola ls) := by
  induction h generalizing l with
  | nil => rfl
  | cons a h ih =>
    rw [List.forall_mem_cons] at inside
    cases l with
    | nil =>
      cases ls with
      | nil => rfl
      | cons k ls =>
        simp only [List.nil_append, cola_cons, trasLiteral, if_neg inside.1]
        rfl
    | cons c l =>
      rw [List.cons_append, trasLiteral, trasLiteral, ih inside.2]
      split
      · rfl
      · rfl

theorem length_trasLiteral {h t r : Texto} (found : trasLiteral h t = some r) :
    t.length = h.length + r.length := by
  obtain ⟨w, rfl, long, _⟩ := trasLiteral_append found
  rw [List.length_append, long]

theorem mensaje_suffix (t : Texto) : (mensaje t).2 <:+ t :=
  (List.dropWhile_suffix _).trans (List.dropWhile_suffix _)

theorem finditer_falla {h : Texto} {c : Char} {t : Texto} (missed : trasLiteral h (c :: t) = none) :
    finditer (patron h) (c :: t) = finditer (patron h) t := by
  apply finditer_none
  rw [patron, missed]
  rfl

theorem finditer_acierta {h : Texto} (head : Cabeza h) {c : Char} {t r : Texto}
    (found : trasLiteral h (c :: t) = some r) :
    finditer (patron h) (c :: t) = (mensaje r).1 :: finditer (patron h) (mensaje r).2 := by
  have long := length_trasLiteral found
  have some_head := List.length_pos_of_ne_nil head.noVacia
  have short := (mensaje_suffix r).length_le
  have whole : (mensaje r).2 <:+ c :: t := by
    obtain ⟨w, shape, _⟩ := trasLiteral_append found
    exact (mensaje_suffix r).trans ⟨w, shape.symm⟩
  have matched : patron h (c :: t) = some ((mensaje r).1, (c :: t).length - (mensaje r).2.length) := by
    rw [patron, found]
    rfl
  rw [finditer_some matched (by omega), ← List.suffix_iff_eq_drop.mp whole]

/-- The scan inside one line. -/
theorem finditer_linea {h : Texto} (head : Cabeza h) (l : Texto) (ls : List Texto) :
    finditer (patron h) (l ++ cola ls) = match primera h l with
      | none => finditer (patron h) (cola ls)
      | some r => (mensaje (r ++ cola ls)).1 :: finditer (patron h) (mensaje (r ++ cola ls)).2 := by
  induction l with
  | nil => rfl
  | cons c l ih =>
    have here := trasLiteral_cola head.enLinea (c :: l) ls
    rw [primera]
    cases found : trasLiteral h (c :: l) with
    | none =>
      rw [found, List.cons_append] at here
      rw [List.cons_append, finditer_falla here, ih]
      rfl
    | some r =>
      rw [found, List.cons_append] at here
      rw [List.cons_append, finditer_acierta head here]
      rfl

theorem finditer_salto {h : Texto} (head : Cabeza h) (t : Texto) :
    finditer (patron h) ('\n' :: t) = finditer (patron h) t := by
  apply finditer_falla
  obtain ⟨a, k, rfl⟩ := List.exists_cons_of_ne_nil head.noVacia
  rw [trasLiteral, if_neg (head.enLinea a List.mem_cons_self)]

/-- The message of a line that is not blank. -/
theorem mensaje_linea {r : Texto} (solid : strip isspace r ≠ []) (inside : '\n' ∉ r) (ls : List Texto) :
    mensaje (r ++ cola ls) = (strip isspace r, cola ls) := by
  have front : r.dropWhile isspace ≠ [] := by
    intro blank
    apply solid
    rw [strip, blank, List.rdropWhile_nil]
  have dropped : (r ++ cola ls).dropWhile isspace = r.dropWhile isspace ++ cola ls := by
    rw [List.dropWhile_append, if_neg (by simpa using front)]
  have line : ∀ c ∈ r.dropWhile isspace, decide (c ≠ '\n') = true := by
    intro c mem
    rw [decide_eq_true_eq]
    intro same
    exact inside (same ▸ (List.dropWhile_suffix isspace).subset mem)
  have taken : (r.dropWhile isspace ++ cola ls).takeWhile (· ≠ '\n') = r.dropWhile isspace := by
    rw [List.takeWhile_append_of_pos line]
    cases ls with
    | nil => simp
    | cons l ls => simp
  have rest : (r.dropWhile isspace ++ cola ls).dropWhile (· ≠ '\n') = cola ls := by
    rw [List.dropWhile_append_of_pos line]
    cases ls with
    | nil => rfl
    | cons l ls => simp
  have twice : strip isspace (r.dropWhile isspace) = strip isspace r := by
    rw [strip, List.dropWhile_idempotent, strip]
  rw [mensaje, dropped, taken, rest, twice]

theorem mensaje_blank {r : Texto} (blank : strip isspace r = []) (t : Texto) :
    mensaje (r ++ t) = mensaje t := by
  rw [strip_eq_nil_iff] at blank
  rw [mensaje, List.dropWhile_append_of_pos blank]
  rfl

theorem primera_suffix {h l r : Texto} (found : primera h l = some r) : r <:+ l := by
  induction l with
  | nil => cases found
  | cons c l ih =>
    rw [primera] at found
    cases here : trasLiteral h (c :: l) with
    | some u =>
      rw [here] at found
      cases found
      obtain ⟨w, shape, _⟩ := trasLiteral_append here
      exact ⟨w, shape.symm⟩
    | none =>
      rw [here] at found
      exact (ih found).trans (List.suffix_cons c l)

/-- The messages of a text, from where none is waited for and from where one is. -/
def Leido (h : Texto) (ls : List Texto) : Prop :=
  (finditer (patron h) (cola ls)).filter (· ≠ []) = porLineas h false ls ∧
    ((mensaje (cola ls)).1 :: finditer (patron h) (mensaje (cola ls)).2).filter (· ≠ []) =
      porLineas h true ls

/-- What is read from a line with its message in it, or with a message after it. -/
theorem Leido.sigue {h : Texto} {ls : List Texto} (read : Leido h ls) {r : Texto} (inside : '\n' ∉ r) :
    ((mensaje (r ++ cola ls)).1 :: finditer (patron h) (mensaje (r ++ cola ls)).2).filter (· ≠ []) =
      [strip isspace r].filter (· ≠ []) ++ porLineas h (some (strip isspace r) = some []) ls := by
  by_cases blank : strip isspace r = []
  · rw [mensaje_blank blank, blank, read.2]
    simp
  · rw [mensaje_linea blank inside, List.filter_cons_of_pos (by simpa using blank), read.1]
    simp [blank]

theorem leido {h : Texto} (head : Cabeza h) {ls : List Texto} (inside : ∀ l ∈ ls, '\n' ∉ l) :
    Leido h ls := by
  induction ls with
  | nil => exact ⟨rfl, rfl⟩
  | cons l ls ih =>
    rw [List.forall_mem_cons] at inside
    have read := ih inside.2
    constructor
    · rw [cola_cons, finditer_salto head, finditer_linea head, porLineas, lee, if_neg Bool.false_ne_true]
      cases found : primera h l with
      | none =>
        simp only [Option.map_none, Option.toList_none, List.filter_nil, List.nil_append, reduceCtorEq,
          decide_false]
        exact read.1
      | some r =>
        have line : '\n' ∉ r := fun mem => inside.1 ((primera_suffix found).subset mem)
        simp only [Option.map_some, Option.toList_some]
        exact read.sigue line
    · have skip : mensaje (cola (l :: ls)) = mensaje (l ++ cola ls) :=
        mensaje_blank (r := ['\n']) (by decide) _
      rw [skip, porLineas, lee, if_pos rfl]
      exact read.sigue inside.1

/-- The messages of a text are those of its lines. -/
theorem mensajes_cola {h : Texto} (head : Cabeza h) {l : Texto} {ls : List Texto}
    (inside : ∀ k ∈ l :: ls, '\n' ∉ k) : mensajes h (l ++ cola ls) = porLineas h false (l :: ls) := by
  rw [mensajes, ← finditer_salto head, ← cola_cons]
  exact (leido head inside).1

theorem exists_cola (t : Texto) : ∃ (l : Texto) (ls : List Texto),
    t = l ++ cola ls ∧ ∀ k ∈ l :: ls, '\n' ∉ k := by
  induction t with
  | nil => exact ⟨[], [], rfl, by simp⟩
  | cons c t ih =>
    obtain ⟨l, ls, rfl, inside⟩ := ih
    by_cases feed : c = '\n'
    · subst feed
      exact ⟨[], l :: ls, rfl, List.forall_mem_cons.mpr ⟨by simp, inside⟩⟩
    · rw [List.forall_mem_cons] at inside
      refine ⟨c :: l, ls, rfl, List.forall_mem_cons.mpr ⟨?_, inside.2⟩⟩
      rw [List.mem_cons, not_or]
      exact ⟨fun same => feed same.symm, inside.1⟩

theorem intercalate_cola (l : Texto) (ls : List Texto) : ['\n'].intercalate (l :: ls) = l ++ cola ls := by
  induction ls generalizing l with
  | nil => simp [List.intercalate]
  | cons k ls ih =>
    have joined : ['\n'].intercalate (l :: k :: ls) = l ++ (['\n'] ++ ['\n'].intercalate (k :: ls)) := by
      simp [List.intercalate, List.intersperse]
    rw [joined, ih, cola_cons]
    rfl

end XeditErrors
