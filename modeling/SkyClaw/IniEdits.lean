import SkyClaw.IniLines

set_option linter.all false

/-!
Reading and setting a key of an INI file, `ini_editor.py`. `Minusculas` holds
`str.lower`, of which only this is used: surrogates, `[` and line breaks stay,
and no other character becomes one.
-/
namespace IniEditor
open Utf8Text TrimmedText

def blank : CodePoint → Bool
  | .scalar c => isspace c
  | .surrogate _ => false

def strip (t : Texto) : Texto := TrimmedText.strip blank t

def fijo : CodePoint → Bool
  | .scalar c => c = '[' ∨ c = '\r' ∨ c = '\n'
  | .surrogate _ => true

/-- What a code point becomes in lower case. -/
def Minuscula (p : CodePoint) (parte : Texto) : Prop :=
  if fijo p then parte = [p] else parte ≠ [] ∧ ∀ q ∈ parte, fijo q = false

structure Minusculas where
  lower : Texto → Texto
  partes : ∀ t, ∃ ps, List.Forall₂ Minuscula t ps ∧ lower t = ps.flatten

/-! Headers and keys -/

/-- `_section_of`: what the pattern `\[(.+)\]` finds at the start of the stripped line. -/
def sectionOf (body : Texto) : Option Texto :=
  match strip body with
  | [] => none
  | p :: rest =>
    if p = .scalar '[' then
      let hasta := (rest.takeWhile (· ≠ .scalar '\n')).rdropWhile (· ≠ .scalar ']')
      if hasta.dropLast = [] then none else some (strip hasta.dropLast)
    else none

structure KeyLine where
  before : Texto
  key : Texto
  value : Texto
  deriving DecidableEq

/-- `split("=", 1)`. -/
def partes (body : Texto) : Texto × Texto :=
  (body.takeWhile (· ≠ .scalar '='), (body.dropWhile (· ≠ .scalar '=')).tail)

/-- `_split_key_line`. -/
def splitKeyLine (body : Texto) : Option KeyLine :=
  if strip body = [] ∨ (strip body).head? = some (.scalar ';') ∨
      (strip body).head? = some (.scalar '#') ∨ .scalar '=' ∉ body then none
  else
    let (rawKey, rawValue) := partes body
    if strip rawKey = [] then none
    else some ⟨rawKey ++ .scalar '=' :: rawValue.takeWhile blank, strip rawKey, strip rawValue⟩

/-- `_KeyHit`. -/
structure KeyHit where
  index : Nat
  before : Texto
  value : Texto
  deriving DecidableEq

section
variable (m : Minusculas)

/-- The loop of `_find_key`, from a line on. -/
def findKeyFrom (wanted : Texto) (target : Option Texto) (index : Nat) (current : Option Texto)
    (lastHit : Option KeyHit) : List Line → Option KeyHit
  | [] => lastHit
  | line :: lines => match sectionOf line.body with
    | some header =>
      findKeyFrom wanted target (index + 1) (some (m.lower header)) lastHit lines
    | none =>
      if current ≠ target then findKeyFrom wanted target (index + 1) current lastHit lines
      else match splitKeyLine line.body with
        | none => findKeyFrom wanted target (index + 1) current lastHit lines
        | some parsed =>
          if m.lower parsed.key = wanted then
            findKeyFrom wanted target (index + 1) current
              (some ⟨index, parsed.before, parsed.value⟩) lines
          else findKeyFrom wanted target (index + 1) current lastHit lines

def findKey (lines : List Line) (key : Texto) (seccion : Option Texto) : Option KeyHit :=
  findKeyFrom m (m.lower key) (seccion.map m.lower) 0 none none lines

/-- `_detect_eol`. -/
def detectEol (lines : List Line) : Eol :=
  ((lines.find? fun line => line.eol ≠ .sin).map (·.eol)).getD .crlf

/-- The loop of `_scope_bounds` for a named section. -/
def scopeBoundsFrom (target : Texto) (i : Nat) (start : Option Nat) :
    List Line → Option (Nat × Nat)
  | [] => start.map fun s => (s, i)
  | line :: lines => match sectionOf line.body with
    | none => scopeBoundsFrom target (i + 1) start lines
    | some header => match start with
      | some s => some (s, i)
      | none =>
        scopeBoundsFrom target (i + 1) (if m.lower header = target then some (i + 1) else none)
          lines

def scopeBounds (lines : List Line) (seccion : Option Texto) : Option (Nat × Nat) :=
  match seccion with
  | none => some (0, lines.findIdx fun line => (sectionOf line.body).isSome)
  | some name => scopeBoundsFrom m (m.lower name) 0 none lines

/-- `_scope_separator`: that of the last key of the scope. -/
def scopeSeparator (lines : List Line) (start stop : Nat) (seccion : Option Texto) : Texto :=
  let imitado := ((lines.take stop).drop start).reverse.findSome? fun line =>
    (splitKeyLine line.body).map fun _ =>
      let (rawKey, rest) := partes line.body
      rawKey.rtakeWhile blank ++ .scalar '=' :: rest.takeWhile blank
  imitado.getD (if seccion = none then [.scalar ' ', .scalar '=', .scalar ' '] else [.scalar '='])

/-- Where a key goes: before the blank lines that end its scope. -/
def insertAt (lines : List Line) (start stop : Nat) : Nat :=
  start + (((lines.take stop).drop start).rdropWhile fun line => strip line.body = []).length

/-- The line ending that the last line lacks. -/
def completa (eol : Eol) (lines : List Line) : List Line :=
  match lines.getLast? with
  | some line => if line.eol = .sin then lines.dropLast ++ [⟨line.body, eol⟩] else lines
  | none => lines

/-- `_insert_key`. -/
def insertKey (lines : List Line) (key value : Texto) (seccion : Option Texto) : List Line :=
  let eol := detectEol lines
  match scopeBounds m lines seccion with
  | none =>
    completa eol lines ++ [⟨.scalar '[' :: (seccion.getD [] ++ [.scalar ']']), eol⟩,
      ⟨key ++ .scalar '=' :: value, eol⟩]
  | some (start, stop) =>
    let sep := scopeSeparator lines start stop seccion
    let at_ := insertAt lines start stop
    completa eol (lines.take at_) ++ ⟨key ++ (sep ++ value), eol⟩ :: lines.drop at_

structure IniEditResult where
  changed : Bool
  previousValue : Option Texto
  backup : Option Bytes
  deriving DecidableEq

/-- `_get_sync` of a file that exists. -/
def getSync (data : Bytes) (key : Texto) (seccion : Option Texto) : Option Texto :=
  (findKey m (readLines data).2 key seccion).map (·.value)

/-- `_set_sync`: the file afterwards and the result. Without a result the text could not be
encoded; the file is then as it was, and its backup is written. -/
def setSync (original : Option Bytes) (key value : Texto) (seccion : Option Texto) :
    Option Bytes × Option IniEditResult :=
  let (bom, lines) := readLines (original.getD [])
  match findKey m lines key seccion with
  | some hit =>
    if hit.value = value then (original, some ⟨false, some hit.value, none⟩)
    else match serialize bom (lines.modify hit.index fun line => ⟨hit.before ++ value, line.eol⟩) with
      | none => (original, none)
      | some data => (some data, some ⟨true, some hit.value, original⟩)
  | none => match serialize bom (insertKey m lines key value seccion) with
    | none => (original, none)
    | some data => (some data, some ⟨true, none, original⟩)

end

/-! Lower case -/

theorem forall₂_flatten {motive : Texto → Texto → Prop} (nil : motive [] [])
    (fixed : ∀ p t u, fijo p = true → motive t u → motive (p :: t) (p :: u))
    (moved : ∀ p q qs t u, fijo p = false → (∀ r ∈ q :: qs, fijo r = false) → motive t u →
      motive (p :: t) (q :: (qs ++ u)))
    {t : Texto} {ps : List Texto} (parts : List.Forall₂ Minuscula t ps) : motive t ps.flatten := by
  induction parts with
  | nil => exact nil
  | cons first _ ih =>
    rename_i p part t ps _
    unfold Minuscula at first
    split at first
    · next stays =>
      subst first
      exact fixed p t _ stays ih
    · next changes =>
      obtain ⟨nonempty, none_fixed⟩ := first
      obtain ⟨q, qs, rfl⟩ := List.exists_cons_of_ne_nil nonempty
      exact moved p q qs t _ (by simpa using changes) none_fixed ih

theorem Minusculas.mem_lower (m : Minusculas) {p : CodePoint} (stays : fijo p = true) (t : Texto) :
    p ∈ m.lower t ↔ p ∈ t := by
  obtain ⟨ps, parts, same⟩ := m.partes t
  rw [same]
  apply forall₂_flatten (motive := fun t u => p ∈ u ↔ p ∈ t) _ _ _ parts
  · simp
  · intro q t u _ ih
    simp [ih]
  · intro q r rs t u moves none_fixed ih
    have other : p ≠ q := by
      rintro rfl
      simp [stays] at moves
    have not_first : p ≠ r := by
      rintro rfl
      simp [none_fixed p List.mem_cons_self] at stays
    have not_later : p ∉ rs := by
      intro mem
      simp [none_fixed p (List.mem_cons_of_mem r mem)] at stays
    simp [ih, other, not_first, not_later]

theorem Minusculas.head_lower (m : Minusculas) {p : CodePoint} (stays : fijo p = true)
    (t : Texto) : (m.lower t).head? = some p ↔ t.head? = some p := by
  obtain ⟨ps, parts, same⟩ := m.partes t
  rw [same]
  apply forall₂_flatten (motive := fun t u => u.head? = some p ↔ t.head? = some p) _ _ _ parts
  · simp
  · intro q t u _ _
    simp
  · intro q r rs t u moves none_fixed _
    have other : q ≠ p := by
      rintro rfl
      simp [stays] at moves
    have not_first : r ≠ p := by
      rintro rfl
      simp [none_fixed r List.mem_cons_self] at stays
    simp [other, not_first]

theorem scalar_of_moves {p : CodePoint} (moves : fijo p = false) : ∃ c, p = .scalar c := by
  cases p with
  | scalar c => exact ⟨c, rfl⟩
  | surrogate n => cases moves

theorem survives_scalars_append {w : Texto} (scalars : ∀ p ∈ w, ∃ c, p = .scalar c) (u : Texto) :
    Survives (w ++ u) ↔ Survives u := by
  induction w with
  | nil => rfl
  | cons p w ih =>
    obtain ⟨c, rfl⟩ := scalars p List.mem_cons_self
    rw [List.cons_append, survives_cons_scalar, ih fun q mem => scalars q (List.mem_cons_of_mem _ mem)]

/-- What stands between two texts keeps their bytes apart. -/
theorem survives_apart {w : Texto} (scalars : ∀ p ∈ w, ∃ c, p = .scalar c) (nonempty : w ≠ [])
    (t u : Texto) : Survives (t ++ (w ++ u)) ↔ Survives t ∧ Survives u := by
  obtain ⟨p, w, rfl⟩ := List.exists_cons_of_ne_nil nonempty
  obtain ⟨c, rfl⟩ := scalars p List.mem_cons_self
  rw [List.cons_append, survives_append_scalar,
    survives_scalars_append fun q mem => scalars q (List.mem_cons_of_mem _ mem)]

theorem Minusculas.survives_lower (m : Minusculas) (t : Texto) :
    Survives (m.lower t) ↔ Survives t := by
  obtain ⟨ps, parts, same⟩ := m.partes t
  have before : ∀ r, Survives (r ++ ps.flatten) ↔ Survives (r ++ t) := by
    apply forall₂_flatten (motive := fun t u => ∀ r, Survives (r ++ u) ↔ Survives (r ++ t)) _ _ _ parts
    · exact fun r => Iff.rfl
    · intro p t u _ ih r
      have shifted := ih (r ++ [p])
      simpa using shifted
    · intro p q qs t u moves none_fixed ih r
      obtain ⟨c, rfl⟩ := scalar_of_moves moves
      have apart := survives_apart (fun s mem => scalar_of_moves (none_fixed s mem))
        (List.cons_ne_nil q qs) r u
      rw [List.cons_append] at apart
      rw [apart, survives_append_scalar]
      have rest := ih []
      simp only [List.nil_append] at rest
      rw [rest]
  rw [same]
  exact before []

/-- Two texts with the same lower case agree on what it keeps. -/
theorem Minusculas.survives_congr (m : Minusculas) {t u : Texto} (same : m.lower t = m.lower u) :
    Survives t ↔ Survives u := by
  rw [← m.survives_lower t, same, m.survives_lower]

/-! Stripped texts -/

theorem scalar_of_blank {p : CodePoint} (white : blank p = true) : ∃ c, p = .scalar c := by
  cases p with
  | scalar c => exact ⟨c, rfl⟩
  | surrogate n => cases white

theorem strip_parts (t : Texto) : ∃ w₁ w₂, t = w₁ ++ (strip t ++ w₂) ∧
    (∀ p ∈ w₁, blank p = true) ∧ ∀ p ∈ w₂, blank p = true := by
  refine ⟨t.takeWhile blank, (t.dropWhile blank).rtakeWhile blank, ?_, ?_, ?_⟩
  · rw [strip, TrimmedText.strip, List.rdropWhile_append_rtakeWhile, List.takeWhile_append_dropWhile]
  · exact fun p mem => List.mem_takeWhile_imp mem
  · exact fun p mem => List.mem_rtakeWhile_imp mem

theorem survives_strip {t : Texto} (survives : Survives t) : Survives (strip t) := by
  obtain ⟨w₁, w₂, split, front, back⟩ := strip_parts t
  rw [split, survives_scalars_append fun p mem => scalar_of_blank (front p mem)] at survives
  by_cases empty : w₂ = []
  · rwa [empty, List.append_nil] at survives
  · rw [← List.append_nil w₂, survives_apart (fun p mem => scalar_of_blank (back p mem)) empty]
      at survives
    exact survives.1

theorem mem_strip {t : Texto} {p : CodePoint} (mem : p ∈ strip t) : p ∈ t := mem_of_mem_strip mem

/-- The first character of a text does not depend on what comes behind it. -/
theorem head_strip_append {t : Texto} (solid : strip t ≠ []) (u : Texto) :
    (strip (t ++ u)).head? = (strip t).head? := by
  have some_left : t.dropWhile blank ≠ [] := by
    intro empty
    exact solid (by rw [strip, TrimmedText.strip, empty, List.rdropWhile_nil])
  obtain ⟨p, rest, same⟩ := List.exists_cons_of_ne_nil some_left
  have black : blank p = false := head_dropWhile (l := t) (by simp [same])
  have longer : (t ++ u).dropWhile blank = p :: (rest ++ u) := by
    rw [List.dropWhile_append, same]
    rfl
  rw [strip, TrimmedText.strip, longer, rdropWhile_cons_of_solid black, strip, TrimmedText.strip,
    same, rdropWhile_cons_of_solid black]
  rfl

theorem sectionOf_eq_none {body : Texto} (head : (strip body).head? ≠ some (.scalar '[')) :
    sectionOf body = none := by
  unfold sectionOf
  cases same : strip body with
  | nil => rfl
  | cons p rest =>
    have other : p ≠ .scalar '[' := fun bracket => head (by simp [same, bracket])
    exact if_neg other

/-- A header is a stripped piece of its line. -/
theorem sectionOf_eq_some {body header : Texto} (found : sectionOf body = some header) :
    ∃ inner rest, strip body = .scalar '[' :: (inner ++ CodePoint.scalar ']' :: rest) ∧
      inner ≠ [] ∧ header = strip inner := by
  unfold sectionOf at found
  cases same : strip body with
  | nil => simp [same] at found
  | cons p rest =>
    simp only [same] at found
    split at found
    · next bracket =>
      split at found
      · cases found
      · next nonempty =>
        obtain ⟨hasta, upTo⟩ :
            ∃ h, (rest.takeWhile (· ≠ .scalar '\n')).rdropWhile (· ≠ .scalar ']') = h := ⟨_, rfl⟩
        rw [upTo] at found nonempty
        have start := List.rdropWhile_prefix (fun q => decide (q ≠ CodePoint.scalar ']'))
          (rest.takeWhile (· ≠ .scalar '\n'))
        rw [upTo] at start
        obtain ⟨tail, front⟩ := start
        have some_left : hasta ≠ [] := by
          rintro rfl
          exact nonempty rfl
        have last : hasta.getLast some_left = .scalar ']' := by
          have stop := List.rdropWhile_last_not (fun q => decide (q ≠ CodePoint.scalar ']'))
            (rest.takeWhile (· ≠ .scalar '\n')) (by rw [upTo]; exact some_left)
          simp only [upTo] at stop
          simpa using stop
        have joined : rest = hasta.dropLast ++ CodePoint.scalar ']' ::
            (tail ++ rest.dropWhile (· ≠ .scalar '\n')) := by
          conv_lhs => rw [← List.takeWhile_append_dropWhile (p := (· ≠ .scalar '\n')) (l := rest),
            ← front, ← List.dropLast_append_getLast some_left, last]
          simp
        exact ⟨hasta.dropLast, _, by rw [bracket, ← joined], nonempty,
          (Option.some.inj found).symm⟩
    · cases found

theorem survives_header {body header : Texto} (survives : Survives body)
    (found : sectionOf body = some header) : Survives header := by
  obtain ⟨inner, rest, split, _, rfl⟩ := sectionOf_eq_some found
  have stripped := survives_strip survives
  rw [split, survives_cons_scalar, survives_append_scalar] at stripped
  exact survives_strip stripped.1

theorem limpio_header {body header : Texto} (limpio : Limpio body)
    (found : sectionOf body = some header) : Limpio header := by
  obtain ⟨inner, rest, split, _, rfl⟩ := sectionOf_eq_some found
  have piece : ∀ p ∈ strip inner, p ∈ body := by
    intro p mem
    apply mem_strip
    rw [split]
    exact List.mem_cons_of_mem _ (List.mem_append_left _ (mem_strip mem))
  exact ⟨fun mem => limpio.1 (piece _ mem), fun mem => limpio.2 (piece _ mem)⟩

theorem sectionOf_corchetes {name : Texto} (nonempty : name ≠ []) (recortado : strip name = name)
    (una_linea : .scalar '\n' ∉ name) :
    sectionOf (.scalar '[' :: (name ++ [CodePoint.scalar ']'])) = some name := by
  have open_bracket : blank (.scalar '[') = false := by decide
  have close_bracket : ¬ blank (.scalar ']') = true := by decide
  have whole : strip (.scalar '[' :: (name ++ [CodePoint.scalar ']'])) =
      .scalar '[' :: (name ++ [CodePoint.scalar ']']) := by
    rw [strip, strip_cons_of_solid open_bracket, List.rdropWhile_concat_neg _ _ _ close_bracket]
  have taken : (name ++ [CodePoint.scalar ']']).takeWhile (· ≠ .scalar '\n') =
      name ++ [CodePoint.scalar ']'] := by
    rw [List.takeWhile_eq_self_iff]
    intro p mem
    rcases List.mem_append.mp mem with inside | last
    · have other : p ≠ .scalar '\n' := fun same => una_linea (same ▸ inside)
      simpa using other
    · obtain rfl := List.mem_singleton.mp last
      decide
  have kept : (name ++ [CodePoint.scalar ']']).rdropWhile (· ≠ .scalar ']') =
      name ++ [CodePoint.scalar ']'] := List.rdropWhile_concat_neg _ _ _ (by simp)
  rw [sectionOf, whole]
  simp only [if_true, taken, kept, List.dropLast_concat, if_neg nonempty, recortado]

theorem partes_igual {raw value : Texto} (sin_igual : .scalar '=' ∉ raw) :
    partes (raw ++ CodePoint.scalar '=' :: value) = (raw, value) := by
  have other : ∀ p ∈ raw, decide (p ≠ CodePoint.scalar '=') = true := by
    intro p mem
    have different : p ≠ .scalar '=' := fun same => sin_igual (same ▸ mem)
    simpa using different
  rw [partes, List.takeWhile_append_of_pos other, List.dropWhile_append_of_pos other]
  simp

/-- A line is read as a key where its text before the first `=` is one. -/
theorem splitKeyLine_igual {raw value : Texto} (sin_igual : .scalar '=' ∉ raw)
    (solid : strip raw ≠ []) (not_semicolon : (strip raw).head? ≠ some (.scalar ';'))
    (not_hash : (strip raw).head? ≠ some (.scalar '#')) :
    splitKeyLine (raw ++ CodePoint.scalar '=' :: value) =
      some ⟨raw ++ CodePoint.scalar '=' :: value.takeWhile blank, strip raw, strip value⟩ := by
  have head := head_strip_append solid (.scalar '=' :: value)
  have some_left : strip (raw ++ CodePoint.scalar '=' :: value) ≠ [] := by
    intro empty
    rw [empty] at head
    exact solid (List.head?_eq_none_iff.mp head.symm)
  unfold splitKeyLine
  rw [head, partes_igual sin_igual]
  simp [some_left, not_semicolon, not_hash, solid]

theorem splitKeyLine_eq_some {body : Texto} {parsed : KeyLine}
    (found : splitKeyLine body = some parsed) :
    ∃ raw value, body = raw ++ CodePoint.scalar '=' :: value ∧ .scalar '=' ∉ raw ∧ strip raw ≠ [] ∧
      (strip raw).head? ≠ some (.scalar ';') ∧ (strip raw).head? ≠ some (.scalar '#') ∧
      parsed = ⟨raw ++ CodePoint.scalar '=' :: value.takeWhile blank, strip raw, strip value⟩ := by
  unfold splitKeyLine at found
  split at found
  · cases found
  · next readable =>
    simp only [not_or, not_not] at readable
    obtain ⟨_, not_semicolon, not_hash, igual⟩ := readable
    have split : body = (partes body).1 ++ CodePoint.scalar '=' :: (partes body).2 := by
      have tail : body.dropWhile (· ≠ .scalar '=') ≠ [] := by
        intro empty
        rw [List.dropWhile_eq_nil_iff] at empty
        simpa using empty _ igual
      obtain ⟨p, rest, same⟩ := List.exists_cons_of_ne_nil tail
      have first : p = .scalar '=' := by
        have stop := head_dropWhile (l := body) (a := p) (Option.mem_def.mpr (by rw [same]; rfl))
        simpa using stop
      have second : (partes body).2 = rest := by
        simp only [partes, same, List.tail_cons]
      conv_lhs => rw [← List.takeWhile_append_dropWhile (p := (· ≠ .scalar '=')) (l := body), same,
        first]
      rw [second]
      rfl
    have sin_igual : .scalar '=' ∉ (partes body).1 := by
      intro mem
      simpa using List.mem_takeWhile_imp mem
    dsimp only at found
    split at found
    · cases found
    · next solid =>
      have head := head_strip_append solid (.scalar '=' :: (partes body).2)
      rw [← split] at head
      rw [head] at not_semicolon not_hash
      exact ⟨_, _, split, sin_igual, solid, not_semicolon, not_hash, (Option.some.inj found).symm⟩

theorem survives_keyLine {body : Texto} (survives : Survives body) {parsed : KeyLine}
    (found : splitKeyLine body = some parsed) : Survives parsed.key ∧ Survives parsed.value := by
  obtain ⟨raw, value, rfl, _, _, _, _, rfl⟩ := splitKeyLine_eq_some found
  rw [survives_append_scalar] at survives
  exact ⟨survives_strip survives.1, survives_strip survives.2⟩

/-! The last hit -/

section
variable (m : Minusculas)

/-- The section after a line. -/
def seccionTras (current : Option Texto) (body : Texto) : Option Texto :=
  match sectionOf body with
  | some header => some (m.lower header)
  | none => current

def seccionFinal (current : Option Texto) (bodies : List Texto) : Option Texto :=
  bodies.foldl (seccionTras m) current

/-- The key that a line gives in its section. -/
def acierto (wanted : Texto) (target current : Option Texto) (body : Texto) : Option KeyLine :=
  if sectionOf body = none ∧ current = target then
    (splitKeyLine body).filter fun parsed => m.lower parsed.key = wanted
  else none

def ultimo (wanted : Texto) (target : Option Texto) : Option Texto → List Texto → Option Texto
  | _, [] => none
  | current, body :: bodies =>
    (ultimo wanted target (seccionTras m current body) bodies).or
      ((acierto m wanted target current body).map (·.value))

end

variable {m : Minusculas} {wanted : Texto} {target : Option Texto}

theorem acierto_eq_some {current : Option Texto} {body : Texto} {parsed : KeyLine} :
    acierto m wanted target current body = some parsed ↔
      sectionOf body = none ∧ current = target ∧ splitKeyLine body = some parsed ∧
        m.lower parsed.key = wanted := by
  unfold acierto
  split
  · next here => simp [Option.filter_eq_some_iff, here]
  · next elsewhere =>
    constructor
    · nofun
    · rintro ⟨no_header, same, _⟩
      exact absurd ⟨no_header, same⟩ elsewhere

theorem findKeyFrom_cons (i : Nat) (current : Option Texto) (last : Option KeyHit) (line : Line)
    (lines : List Line) :
    findKeyFrom m wanted target i current last (line :: lines) =
      findKeyFrom m wanted target (i + 1) (seccionTras m current line.body)
        (((acierto m wanted target current line.body).map fun parsed =>
          ⟨i, parsed.before, parsed.value⟩).or last) lines := by
  rw [findKeyFrom, seccionTras, acierto]
  cases sectionOf line.body with
  | some header => simp
  | none =>
    by_cases here : current = target
    · cases splitKeyLine line.body with
      | none => simp [here]
      | some parsed =>
        by_cases same : m.lower parsed.key = wanted
        · simp [here, same, Option.filter]
        · simp [here, same, Option.filter]
    · simp [here]

theorem findKeyFrom_value (i : Nat) (current : Option Texto) (last : Option KeyHit)
    (lines : List Line) :
    (findKeyFrom m wanted target i current last lines).map (·.value) =
      (ultimo m wanted target current (lines.map (·.body))).or (last.map (·.value)) := by
  induction lines generalizing i current last with
  | nil => rfl
  | cons line lines ih =>
    rw [findKeyFrom_cons, ih, List.map_cons, ultimo, Option.or_assoc]
    cases acierto m wanted target current line.body <;> rfl

theorem getSync_eq (data : Bytes) (key : Texto) (seccion : Option Texto) :
    getSync m data key seccion = ultimo m (m.lower key) (seccion.map m.lower) none
      ((readLines data).2.map (·.body)) := by
  rw [getSync, findKey, findKeyFrom_value, Option.map_none, Option.or_none]

theorem ultimo_append (current : Option Texto) (a b : List Texto) :
    ultimo m wanted target current (a ++ b) =
      (ultimo m wanted target (seccionFinal m current a) b).or
        (ultimo m wanted target current a) := by
  induction a generalizing current with
  | nil => simp [ultimo, seccionFinal]
  | cons body a ih =>
    rw [List.cons_append, ultimo, ih, ultimo, Option.or_assoc]
    rfl

/-- Where the last hit stands. -/
theorem findKeyFrom_parts {i : Nat} {current : Option Texto} {last : Option KeyHit}
    {lines : List Line} {hit : KeyHit}
    (found : findKeyFrom m wanted target i current last lines = some hit) :
    last = some hit ∧ ultimo m wanted target current (lines.map (·.body)) = none ∨
      ∃ (a : List Line) (w : Line) (b : List Line) (parsed : _), lines = a ++ w :: b ∧
        hit = ⟨i + a.length, parsed.before, parsed.value⟩ ∧
        acierto m wanted target (seccionFinal m current (a.map (·.body))) w.body = some parsed ∧
        ultimo m wanted target (seccionFinal m current (a.map (·.body))) (b.map (·.body)) = none := by
  induction lines generalizing i current last with
  | nil => exact .inl ⟨found, rfl⟩
  | cons line lines ih =>
    rw [findKeyFrom_cons] at found
    rcases ih found with ⟨same, none_left⟩ | ⟨a, w, b, parsed, rfl, rfl, hits, none_left⟩
    · cases here : acierto m wanted target current line.body with
      | none =>
        rw [here] at same
        exact .inl ⟨same, by rw [List.map_cons, ultimo, none_left, here]; rfl⟩
      | some parsed =>
        rw [here] at same
        obtain ⟨no_header, _⟩ := acierto_eq_some.mp here
        have still : seccionTras m current line.body = current := by rw [seccionTras, no_header]
        rw [still] at none_left
        exact .inr ⟨[], line, lines, parsed, rfl, (Option.some.inj same).symm, here, none_left⟩
    · right
      refine ⟨line :: a, w, b, parsed, rfl, ?_, hits, none_left⟩
      rw [List.length_cons]
      congr 1
      omega

/-- A line that gives a key, after lines that end in its section. -/
theorem ultimo_escrito {current : Option Texto} {a : List Texto} {body : Texto} {parsed : KeyLine}
    (hits : acierto m wanted target (seccionFinal m current a) body = some parsed) (b : List Texto) :
    ultimo m wanted target current (a ++ body :: b) =
      (ultimo m wanted target (seccionFinal m current a) b).or (some parsed.value) := by
  obtain ⟨no_header, _⟩ := acierto_eq_some.mp hits
  have still : seccionTras m (seccionFinal m current a) body = seccionFinal m current a := by
    rw [seccionTras, no_header]
  rw [ultimo_append, ultimo, still, hits, Option.or_assoc]
  rfl

/-- For any other key the line might as well not be there. -/
theorem ultimo_ajeno {wanted' : Texto} {target' current : Option Texto} {a : List Texto}
    {body : Texto} {parsed : KeyLine}
    (hits : acierto m wanted target (seccionFinal m current a) body = some parsed)
    (other : ¬ (wanted' = wanted ∧ target' = target)) (b : List Texto) :
    ultimo m wanted' target' current (a ++ body :: b) = ultimo m wanted' target' current (a ++ b) := by
  obtain ⟨no_header, here, found, same⟩ := acierto_eq_some.mp hits
  have still : seccionTras m (seccionFinal m current a) body = seccionFinal m current a := by
    rw [seccionTras, no_header]
  have misses : acierto m wanted' target' (seccionFinal m current a) body = none := by
    by_contra some_hit
    obtain ⟨again, hits'⟩ := Option.ne_none_iff_exists'.mp some_hit
    obtain ⟨_, here', found', same'⟩ := acierto_eq_some.mp hits'
    obtain rfl := Option.some.inj (found.symm.trans found')
    exact other ⟨same'.symm.trans same, here'.symm.trans here⟩
  rw [ultimo_append, ultimo, still, misses, ultimo_append]
  simp

/-- A section that is current comes from a header. -/
theorem header_de_seccionFinal {bodies : List Texto} {name : Texto}
    (current : seccionFinal m none bodies = some name) :
    ∃ body ∈ bodies, ∃ header, sectionOf body = some header ∧ m.lower header = name := by
  induction bodies using List.reverseRecOn with
  | nil => cases current
  | append_singleton bodies body ih =>
    rw [seccionFinal, List.foldl_append] at current
    simp only [List.foldl_cons, List.foldl_nil] at current
    cases found : sectionOf body with
    | some header =>
      simp only [seccionTras, found, Option.some.injEq] at current
      exact ⟨body, by simp, header, found, current⟩
    | none =>
      simp only [seccionTras, found] at current
      obtain ⟨other, mem, rest⟩ := ih current
      exact ⟨other, List.mem_append_left _ mem, rest⟩

theorem seccionFinal_append (current : Option Texto) (a b : List Texto) :
    seccionFinal m current (a ++ b) = seccionFinal m (seccionFinal m current a) b :=
  List.foldl_append

theorem seccionFinal_sin_header {bodies : List Texto}
    (plain : ∀ body ∈ bodies, sectionOf body = none) (current : Option Texto) :
    seccionFinal m current bodies = current := by
  induction bodies generalizing current with
  | nil => rfl
  | cons body bodies ih =>
    have still : seccionTras m current body = current := by
      rw [seccionTras, plain body List.mem_cons_self]
    rw [seccionFinal, List.foldl_cons, still]
    exact ih (fun other mem => plain other (List.mem_cons_of_mem _ mem)) current

/-- What a read value comes from. -/
theorem linea_de_ultimo {bodies : List Texto} {value : Texto}
    (read : ultimo m wanted target none bodies = some value) :
    ∃ a body b parsed, bodies = a ++ body :: b ∧
      acierto m wanted target (seccionFinal m none a) body = some parsed ∧ parsed.value = value := by
  have general : ∀ current, ultimo m wanted target current bodies = some value →
      ∃ a body b parsed, bodies = a ++ body :: b ∧
        acierto m wanted target (seccionFinal m current a) body = some parsed ∧
        parsed.value = value := by
    clear read
    induction bodies with
    | nil => nofun
    | cons body bodies ih =>
      intro current read
      rw [ultimo, Option.or_eq_some_iff] at read
      rcases read with later | ⟨_, here⟩
      · obtain ⟨a, other, b, parsed, rfl, hits, same⟩ := ih _ later
        exact ⟨body :: a, other, b, parsed, rfl, hits, same⟩
      · obtain ⟨parsed, hits, same⟩ := Option.map_eq_some_iff.mp here
        exact ⟨[], body, bodies, parsed, rfl, hits, same⟩
  exact general none read

/-! Scopes -/

/-- The lines before a scope, the scope, and the rest. -/
structure Ambito (m : Minusculas) (lines : List Line) (target : Option Texto)
    (start stop : Nat) : Prop where
  partes : ∃ a b c, lines = a ++ (b ++ c) ∧ start = a.length ∧ stop = a.length + b.length ∧
    (∀ line ∈ b, sectionOf line.body = none) ∧ seccionFinal m none (a.map (·.body)) = target

theorem scopeBoundsFrom_abierto {name : Texto} {i s : Nat} {lines : List Line} {bounds : Nat × Nat}
    (found : scopeBoundsFrom m name i (some s) lines = some bounds) :
    ∃ b c, lines = b ++ c ∧ bounds = (s, i + b.length) ∧ ∀ line ∈ b, sectionOf line.body = none := by
  induction lines generalizing i with
  | nil => exact ⟨[], [], rfl, (Option.some.inj found).symm, nofun⟩
  | cons line lines ih =>
    rw [scopeBoundsFrom] at found
    cases header : sectionOf line.body with
    | some name =>
      rw [header] at found
      exact ⟨[], line :: lines, rfl, (Option.some.inj found).symm, nofun⟩
    | none =>
      rw [header] at found
      obtain ⟨b, c, rfl, rfl, plain⟩ := ih found
      refine ⟨line :: b, c, rfl, ?_, List.forall_mem_cons.mpr ⟨header, plain⟩⟩
      rw [List.length_cons]
      congr 1
      omega

theorem scopeBoundsFrom_cerrado {name : Texto} {i : Nat} {lines : List Line} {bounds : Nat × Nat}
    (found : scopeBoundsFrom m name i none lines = some bounds) :
    ∃ a line b c header, lines = a ++ line :: (b ++ c) ∧ sectionOf line.body = some header ∧
      m.lower header = name ∧ bounds = (i + a.length + 1, i + a.length + 1 + b.length) ∧
      ∀ other ∈ b, sectionOf other.body = none := by
  induction lines generalizing i with
  | nil => cases found
  | cons line lines ih =>
    have skip : scopeBoundsFrom m name (i + 1) none lines = some bounds →
        ∃ a other b c header, line :: lines = a ++ other :: (b ++ c) ∧
          sectionOf other.body = some header ∧ m.lower header = name ∧
          bounds = (i + a.length + 1, i + a.length + 1 + b.length) ∧
          ∀ other ∈ b, sectionOf other.body = none := by
      intro later
      obtain ⟨a, other, b, c, header, rfl, named, same, rfl, plain⟩ := ih later
      refine ⟨line :: a, other, b, c, header, rfl, named, same, ?_, plain⟩
      rw [List.length_cons]
      congr 1 <;> omega
    rw [scopeBoundsFrom] at found
    cases named : sectionOf line.body with
    | none =>
      rw [named] at found
      exact skip found
    | some header =>
      rw [named] at found
      by_cases same : m.lower header = name
      · simp only [if_pos same] at found
        obtain ⟨b, c, rfl, rfl, plain⟩ := scopeBoundsFrom_abierto found
        exact ⟨[], line, b, c, header, rfl, named, same, rfl, plain⟩
      · simp only [if_neg same] at found
        exact skip found

theorem scopeBoundsFrom_ausente {name : Texto} {i : Nat} {lines : List Line}
    (absent : scopeBoundsFrom m name i none lines = none) :
    ∀ line ∈ lines, ∀ header, sectionOf line.body = some header → m.lower header ≠ name := by
  induction lines generalizing i with
  | nil => nofun
  | cons line lines ih =>
    rw [scopeBoundsFrom] at absent
    cases named : sectionOf line.body with
    | none =>
      rw [named] at absent
      exact List.forall_mem_cons.mpr ⟨by simp [named], ih absent⟩
    | some header =>
      rw [named] at absent
      by_cases same : m.lower header = name
      · exfalso
        simp only [if_pos same] at absent
        have opened : ∀ j s, scopeBoundsFrom m name j (some s) lines ≠ none := by
          clear ih absent
          induction lines with
          | nil => simp [scopeBoundsFrom]
          | cons other lines ih =>
            intro j s
            rw [scopeBoundsFrom]
            cases sectionOf other.body with
            | some _ => simp
            | none => exact ih _ _
        exact opened _ _ absent
      · simp only [if_neg same] at absent
        refine List.forall_mem_cons.mpr ⟨?_, ih absent⟩
        intro other found
        obtain rfl := Option.some.inj (named.symm.trans found)
        exact same

theorem ambito_de_scopeBounds {lines : List Line} {seccion : Option Texto} {start stop : Nat}
    (found : scopeBounds m lines seccion = some (start, stop)) :
    Ambito m lines (seccion.map m.lower) start stop := by
  cases seccion with
  | none =>
    obtain ⟨rfl, rfl⟩ := Prod.mk.inj (Option.some.inj found)
    have front : lines.takeWhile (fun line => !(sectionOf line.body).isSome) = lines.take _ :=
      List.takeWhile_eq_take_findIdx_not
    simp only [Bool.not_not] at front
    have inside : lines.findIdx (fun line => (sectionOf line.body).isSome) ≤ lines.length :=
      List.findIdx_le_length
    generalize lines.findIdx (fun line => (sectionOf line.body).isSome) = n at front inside ⊢
    refine ⟨[], lines.take n, lines.drop n, (List.take_append_drop n lines).symm, rfl, ?_, ?_, rfl⟩
    · rw [List.length_take, Nat.min_eq_left inside, List.length_nil, Nat.zero_add]
    · intro line mem
      rw [← front] at mem
      simpa using List.mem_takeWhile_imp mem
  | some name =>
    obtain ⟨a, line, b, c, header, rfl, named, same, bounds, plain⟩ := scopeBoundsFrom_cerrado found
    obtain ⟨rfl, rfl⟩ := Prod.mk.inj bounds
    refine ⟨a ++ [line], b, c, by simp, by simp, by simp, plain, ?_⟩
    rw [List.map_append, seccionFinal_append]
    simp [seccionFinal, seccionTras, named, same]

/-- The lines before the new key, those after it, and the section where it stands. -/
theorem lugar {lines : List Line} {seccion : Option Texto} {start stop : Nat}
    (found : scopeBounds m lines seccion = some (start, stop)) :
    ∃ a b, lines = a ++ b ∧ insertAt lines start stop = a.length ∧
      seccionFinal m none (a.map (·.body)) = seccion.map m.lower := by
  obtain ⟨a, b, c, rfl, rfl, rfl, plain, current⟩ := (ambito_de_scopeBounds found).partes
  have scope : ((a ++ (b ++ c)).take (a.length + b.length)).drop a.length = b := by
    rw [List.take_length_add_append, List.take_left, List.drop_left]
  have split : b.rdropWhile (fun line => strip line.body = []) ++
      b.rtakeWhile (fun line => strip line.body = []) = b := List.rdropWhile_append_rtakeWhile
  refine ⟨a ++ b.rdropWhile fun line => strip line.body = [],
    b.rtakeWhile (fun line => strip line.body = []) ++ c, ?_, ?_, ?_⟩
  · rw [List.append_assoc a, ← List.append_assoc (b.rdropWhile _), split]
  · rw [insertAt, scope, List.length_append]
  · rw [List.map_append, seccionFinal_append, current]
    apply seccionFinal_sin_header
    intro body mem
    obtain ⟨line, kept, rfl⟩ := List.mem_map.mp mem
    exact plain line ((List.rdropWhile_prefix _ b).subset kept)

/-- A separator is an `=` between blanks that break no line. -/
theorem separador {lines : List Line} (leidas : Leidas lines) (start stop : Nat)
    (seccion : Option Texto) :
    ∃ w₁ w₂, scopeSeparator lines start stop seccion = w₁ ++ CodePoint.scalar '=' :: w₂ ∧
      (∀ p ∈ w₁, blank p = true) ∧ (∀ p ∈ w₂, blank p = true) ∧ Limpio w₁ ∧ Limpio w₂ := by
  unfold scopeSeparator
  dsimp only
  cases found : ((lines.take stop).drop start).reverse.findSome? fun line =>
      (splitKeyLine line.body).map fun _ =>
        (partes line.body).1.rtakeWhile blank ++ CodePoint.scalar '=' :: (partes line.body).2.takeWhile blank with
  | none =>
    have space : ∀ p ∈ [CodePoint.scalar ' '], blank p = true := by decide
    have clean : Limpio [.scalar ' '] := ⟨by decide, by decide⟩
    rw [Option.getD_none]
    split
    · exact ⟨[.scalar ' '], [.scalar ' '], rfl, space, space, clean, clean⟩
    · exact ⟨[], [], rfl, nofun, nofun, limpio_nil, limpio_nil⟩
  | some sep =>
    obtain ⟨line, mem, here⟩ := List.exists_of_findSome?_eq_some found
    obtain ⟨parsed, _, rfl⟩ := Option.map_eq_some_iff.mp here
    have limpio : Limpio line.body := by
      apply leidas.limpias
      exact List.mem_of_mem_take (List.mem_of_mem_drop (List.mem_reverse.mp mem))
    have first : ∀ p ∈ (partes line.body).1.rtakeWhile blank, p ∈ line.body := fun p inside =>
      (List.takeWhile_prefix _).subset ((List.rtakeWhile_suffix _ _).subset inside)
    have second : ∀ p ∈ (partes line.body).2.takeWhile blank, p ∈ line.body := fun p inside =>
      (List.dropWhile_suffix _).subset
        (List.mem_of_mem_tail ((List.takeWhile_prefix _).subset inside))
    exact ⟨_, _, rfl, fun p inside => List.mem_rtakeWhile_imp inside,
      fun p inside => List.mem_takeWhile_imp inside,
      ⟨fun cr => limpio.1 (first _ cr), fun lf => limpio.2 (first _ lf)⟩,
      ⟨fun cr => limpio.1 (second _ cr), fun lf => limpio.2 (second _ lf)⟩⟩

/-! Lines with a new one among them -/

theorem completa_cases (eol : Eol) (lines : List Line) :
    (completa eol lines = lines ∧ ∀ line ∈ lines.getLast?, line.eol ≠ .sin) ∨
      ∃ before body, lines = before ++ [⟨body, .sin⟩] ∧
        completa eol lines = before ++ [⟨body, eol⟩] := by
  induction lines using List.reverseRecOn with
  | nil => exact .inl ⟨rfl, nofun⟩
  | append_singleton before line _ =>
    obtain ⟨body, ending⟩ := line
    unfold completa
    rw [List.getLast?_concat]
    dsimp only
    by_cases open_ended : ending = .sin
    · subst open_ended
      exact .inr ⟨before, body, rfl, by rw [if_pos rfl, List.dropLast_concat]⟩
    · exact .inl ⟨if_neg open_ended, by rintro _ ⟨⟩; exact open_ended⟩

theorem map_body_completa (eol : Eol) (lines : List Line) :
    (completa eol lines).map (·.body) = lines.map (·.body) := by
  rcases completa_cases eol lines with ⟨same, _⟩ | ⟨before, body, rfl, same⟩
  · rw [same]
  · simp [same]

theorem leidas_append {a b : List Line} (first : Leidas a) (second : Leidas b)
    (sigue : ∀ x ∈ a.getLast?, ∀ y ∈ b.head?, Sigue x y) : Leidas (a ++ b) :=
  ⟨List.forall_mem_append.mpr ⟨first.limpias, second.limpias⟩,
    List.forall_mem_append.mpr ⟨first.llenas, second.llenas⟩,
    first.seguidas.append second.seguidas sigue⟩

theorem Leidas.left {a b : List Line} (leidas : Leidas (a ++ b)) : Leidas a :=
  ⟨fun x mem => leidas.limpias x (List.mem_append_left b mem),
    fun x mem => leidas.llenas x (List.mem_append_left b mem), leidas.seguidas.left_of_append⟩

/-- The last line is given its ending, and then a line with a body may follow. -/
theorem leidas_completa {eol : Eol} (ends : eol ≠ .sin) {a b : List Line} (first : Leidas a)
    (second : Leidas b) (lleno : ∀ line ∈ b.head?, line.body ≠ []) :
    Leidas (completa eol a ++ b) := by
  rcases completa_cases eol a with ⟨same, ended⟩ | ⟨before, body, rfl, same⟩
  · rw [same]
    refine leidas_append first second fun x last y head => ⟨ended x last, ?_⟩
    exact fun merged => lleno y head merged.2.1
  · rw [same]
    have limpio : Limpio body := first.limpias ⟨body, .sin⟩ (by simp)
    have body_lleno : body ≠ [] := first.llenas ⟨body, .sin⟩ (by simp) rfl
    have last : Leidas [⟨body, eol⟩] :=
      leidas_cons limpio (fun _ => body_lleno) nofun leidas_nil
    refine leidas_append (leidas_append first.left last ?_) second ?_
    · rintro x before_last y ⟨⟩
      have old : Sigue x ⟨body, .sin⟩ := by
        have chained := (List.isChain_append.mp first.seguidas).2.2
        exact chained x before_last _ rfl
      exact ⟨old.1, fun merged => body_lleno merged.2.1⟩
    · intro x at_end y head
      rw [List.getLast?_concat] at at_end
      obtain rfl := Option.some.inj at_end
      exact ⟨ends, fun merged => lleno y head merged.2.1⟩

end IniEditor
