import Mathlib.Data.List.Chain
import SkyClaw.TrimmedText
import SkyClaw.Utf8Text

set_option linter.all false

/-!
The lines of an INI file, `ini_editor.py`: the bytes are read as UTF-8 with
`surrogateescape`, and a line ends with CR LF, LF or CR.
-/
namespace IniEditor
open Utf8Text

abbrev Bytes := List UInt8

abbrev Texto := List CodePoint

inductive Eol where
  | sin
  | lf
  | cr
  | crlf
  deriving DecidableEq

def Eol.texto : Eol → Texto
  | sin => []
  | lf => [.scalar '\n']
  | cr => [.scalar '\r']
  | crlf => [.scalar '\r', .scalar '\n']

/-- `_Line`: the body and the ending that it has. -/
structure Line where
  body : Texto
  eol : Eol
  deriving DecidableEq

/-- The loop of `_read_lines`. -/
def lineas : Texto → List Line
  | [] => []
  | p :: t =>
    if p = .scalar '\r' then
      match t with
      | [] => [⟨[], .cr⟩]
      | q :: u => if q = .scalar '\n' then ⟨[], .crlf⟩ :: lineas u else ⟨[], .cr⟩ :: lineas (q :: u)
    else if p = .scalar '\n' then ⟨[], .lf⟩ :: lineas t
    else match lineas t with
      | [] => [⟨[p], .sin⟩]
      | l :: ls => ⟨p :: l.body, l.eol⟩ :: ls

def Line.texto (l : Line) : Texto := l.body ++ l.eol.texto

def texto (lines : List Line) : Texto := lines.flatMap Line.texto

def BOM : Bytes := [0xEF, 0xBB, 0xBF]

def readLines (data : Bytes) : Bool × List Line :=
  if BOM.isPrefixOf data then (true, lineas (decode (data.drop BOM.length)))
  else (false, lineas (decode data))

/-- `_serialize`; there is no answer where the text has a surrogate that is no byte. -/
def serialize (bom : Bool) (lines : List Line) : Option Bytes :=
  (encode (texto lines)).map fun data => if bom then BOM ++ data else data

/-! Lines and their text -/

def Limpio (t : Texto) : Prop := .scalar '\r' ∉ t ∧ .scalar '\n' ∉ t

/-- What may follow a line: nothing merges with its ending. -/
def Sigue (a b : Line) : Prop :=
  a.eol ≠ .sin ∧ ¬ (a.eol = .cr ∧ b.body = [] ∧ b.eol = .lf)

/-- Lines as a text is read. -/
structure Leidas (lines : List Line) : Prop where
  limpias : ∀ l ∈ lines, Limpio l.body
  llenas : ∀ l ∈ lines, l.eol = .sin → l.body ≠ []
  seguidas : lines.IsChain Sigue

theorem lineas_cr_lf (t : Texto) :
    lineas (.scalar '\r' :: .scalar '\n' :: t) = ⟨[], .crlf⟩ :: lineas t := by
  simp [lineas]

theorem lineas_cr {t : Texto} (other : t.head? ≠ some (.scalar '\n')) :
    lineas (.scalar '\r' :: t) = ⟨[], .cr⟩ :: lineas t := by
  cases t with
  | nil => simp [lineas]
  | cons q u =>
    have not_lf : q ≠ .scalar '\n' := fun same => other (by simp [same])
    rw [lineas]
    simp [not_lf]

theorem lineas_lf (t : Texto) : lineas (.scalar '\n' :: t) = ⟨[], .lf⟩ :: lineas t := by
  rw [lineas.eq_def]
  simp

theorem texto_cons (l : Line) (lines : List Line) :
    texto (l :: lines) = l.body ++ (l.eol.texto ++ texto lines) := by
  simp [texto, Line.texto]

theorem texto_append (a b : List Line) : texto (a ++ b) = texto a ++ texto b := by
  simp [texto]

theorem texto_lineas (t : Texto) : texto (lineas t) = t := by
  fun_induction lineas t with
  | case1 => rfl
  | case2 => rfl
  | case3 u ih => simp [texto_cons, Eol.texto, ih]
  | case4 q u _ ih => simp [texto_cons, Eol.texto, ih]
  | case5 t _ ih => simp [texto_cons, Eol.texto, ih]
  | case6 p t _ _ none_left ih =>
    rw [none_left] at ih
    simp [texto_cons, Eol.texto, ← ih]
  | case7 p t _ _ l ls same ih =>
    rw [same, texto_cons] at ih
    rw [texto_cons, List.cons_append, ih]

/-- A first character that ends no line goes before what follows it. -/
theorem lineas_cons {p : CodePoint} (not_cr : p ≠ .scalar '\r') (not_lf : p ≠ .scalar '\n')
    {t : Texto} {l : Line} {ls : List Line} (rest : lineas t = l :: ls) :
    lineas (p :: t) = ⟨p :: l.body, l.eol⟩ :: ls := by
  rw [lineas.eq_def]
  simp only [if_neg not_cr, if_neg not_lf, rest]

theorem head_texto {lines : List Line} {l : Line} :
    (texto (l :: lines)).head? = some (.scalar '\n') →
      l.body = [] ∧ (l.eol = .lf ∨ l.eol = .sin) ∨ l.body.head? = some (.scalar '\n') := by
  intro head
  cases same : l.body with
  | nil =>
    rw [texto_cons, same] at head
    cases ending : l.eol with
    | cr => simp [ending, Eol.texto] at head
    | crlf => simp [ending, Eol.texto] at head
    | lf => exact .inl ⟨rfl, .inl rfl⟩
    | sin => exact .inl ⟨rfl, .inr rfl⟩
  | cons q u =>
    rw [texto_cons, same] at head
    exact .inr (by simpa using head)

theorem Leidas.de_cons {l : Line} {lines : List Line} (leidas : Leidas (l :: lines)) :
    Leidas lines :=
  ⟨fun m mem => leidas.limpias m (List.mem_cons_of_mem l mem),
    fun m mem => leidas.llenas m (List.mem_cons_of_mem l mem), leidas.seguidas.tail⟩

theorem lineas_una {body : Texto} (limpio : Limpio body) {rest : Texto} {eol : Eol}
    {ls : List Line} (ending : lineas rest = ⟨[], eol⟩ :: ls) :
    lineas (body ++ rest) = ⟨body, eol⟩ :: ls := by
  induction body with
  | nil => exact ending
  | cons p body ih =>
    have clean : Limpio body := ⟨fun mem => limpio.1 (List.mem_cons_of_mem p mem),
      fun mem => limpio.2 (List.mem_cons_of_mem p mem)⟩
    have not_cr : p ≠ .scalar '\r' := fun same => limpio.1 (by simp [same])
    have not_lf : p ≠ .scalar '\n' := fun same => limpio.2 (by simp [same])
    rw [List.cons_append, lineas_cons not_cr not_lf (ih clean)]

theorem lineas_sin {body : Texto} (limpio : Limpio body) (lleno : body ≠ []) :
    lineas body = [⟨body, .sin⟩] := by
  induction body with
  | nil => exact absurd rfl lleno
  | cons p body ih =>
    have clean : Limpio body := ⟨fun mem => limpio.1 (List.mem_cons_of_mem p mem),
      fun mem => limpio.2 (List.mem_cons_of_mem p mem)⟩
    have not_cr : p ≠ .scalar '\r' := fun same => limpio.1 (by simp [same])
    have not_lf : p ≠ .scalar '\n' := fun same => limpio.2 (by simp [same])
    by_cases empty : body = []
    · rw [empty, lineas, if_neg not_cr, if_neg not_lf]
      rfl
    · exact lineas_cons not_cr not_lf (ih clean empty)

/-- Lines that a text was read as are read again from their text. -/
theorem Leidas.lineas_texto {lines : List Line} (leidas : Leidas lines) :
    lineas (texto lines) = lines := by
  induction lines with
  | nil => rfl
  | cons l lines ih =>
    have rest := ih leidas.de_cons
    have limpio := leidas.limpias l List.mem_cons_self
    rw [texto_cons]
    cases ending : l.eol with
    | sin =>
      cases lines with
      | nil =>
        have lleno := leidas.llenas l List.mem_cons_self ending
        rw [show texto [] = [] from rfl, Eol.texto, List.append_nil, List.append_nil,
          lineas_sin limpio lleno, ← ending]
      | cons m lines => exact absurd ending (List.isChain_cons_cons.mp leidas.seguidas).1.1
    | lf =>
      simp only [Eol.texto, List.cons_append, List.nil_append]
      rw [lineas_una limpio ((lineas_lf _).trans (by rw [rest])), ← ending]
    | crlf =>
      simp only [Eol.texto, List.cons_append, List.nil_append]
      rw [lineas_una limpio ((lineas_cr_lf _).trans (by rw [rest])), ← ending]
    | cr =>
      have apart : (texto lines).head? ≠ some (.scalar '\n') := by
        intro head
        cases lines with
        | nil => cases head
        | cons m lines =>
          have follows := (List.isChain_cons_cons.mp leidas.seguidas).1.2
          have second : m ∈ l :: m :: lines := by simp
          rcases head_texto head with ⟨empty, lf | sin⟩ | first
          · exact follows ⟨ending, empty, lf⟩
          · exact leidas.llenas m second sin empty
          · exact (leidas.limpias m second).2 (List.mem_of_mem_head? first)
      simp only [Eol.texto, List.cons_append, List.nil_append]
      rw [lineas_una limpio ((lineas_cr apart).trans (by rw [rest])), ← ending]

theorem leidas_cons {l : Line} {lines : List Line} (limpio : Limpio l.body)
    (lleno : l.eol = .sin → l.body ≠ []) (sigue : ∀ m ∈ lines.head?, Sigue l m)
    (leidas : Leidas lines) : Leidas (l :: lines) := by
  constructor
  · exact List.forall_mem_cons.mpr ⟨limpio, leidas.limpias⟩
  · exact List.forall_mem_cons.mpr ⟨lleno, leidas.llenas⟩
  · exact List.isChain_cons.mpr ⟨sigue, leidas.seguidas⟩

theorem leidas_nil : Leidas [] := ⟨nofun, nofun, List.isChain_nil⟩

theorem limpio_nil : Limpio [] := ⟨nofun, nofun⟩

theorem leidas_lineas (t : Texto) : Leidas (lineas t) := by
  fun_induction lineas t with
  | case1 => exact leidas_nil
  | case2 => exact leidas_cons limpio_nil nofun nofun leidas_nil
  | case3 u ih => exact leidas_cons limpio_nil nofun (fun _ _ => ⟨nofun, nofun⟩) ih
  | case4 q u other ih =>
    refine leidas_cons limpio_nil nofun ?_ ih
    intro m first
    constructor
    · nofun
    · rintro ⟨_, empty, lf⟩
      have joined := texto_lineas (q :: u)
      obtain ⟨ls, same⟩ := List.head?_eq_some_iff.mp first
      rw [same, texto_cons, empty, lf] at joined
      exact other (List.cons.inj joined).1.symm
  | case5 t _ ih => exact leidas_cons limpio_nil nofun (fun _ _ => ⟨nofun, nofun⟩) ih
  | case6 p t not_cr not_lf none_left ih =>
    refine leidas_cons ?_ (fun _ => List.cons_ne_nil p []) nofun leidas_nil
    exact ⟨fun mem => not_cr (List.mem_singleton.mp mem).symm,
      fun mem => not_lf (List.mem_singleton.mp mem).symm⟩
  | case7 p t not_cr not_lf l ls same ih =>
    rw [same] at ih
    have limpio := ih.limpias l List.mem_cons_self
    refine leidas_cons ?_ (fun _ => List.cons_ne_nil p l.body) ?_ ih.de_cons
    · constructor
      · intro mem
        rcases List.mem_cons.mp mem with first | later
        · exact not_cr first.symm
        · exact limpio.1 later
      · intro mem
        rcases List.mem_cons.mp mem with first | later
        · exact not_lf first.symm
        · exact limpio.2 later
    · exact (List.isChain_cons.mp ih.seguidas).1

theorem Leidas.de_append {a b : List Line} (leidas : Leidas (a ++ b)) : Leidas b :=
  ⟨fun m mem => leidas.limpias m (List.mem_append_right a mem),
    fun m mem => leidas.llenas m (List.mem_append_right a mem), leidas.seguidas.right_of_append⟩

/-- A text survives line by line. -/
theorem survives_texto {lines : List Line} (leidas : Leidas lines) :
    Survives (texto lines) ↔ ∀ l ∈ lines, Survives l.body := by
  induction lines with
  | nil => simp [texto, survives_nil]
  | cons l lines ih =>
    rw [texto_cons, List.forall_mem_cons, ← ih leidas.de_cons]
    cases ending : l.eol with
    | sin =>
      cases lines with
      | nil => simp [Eol.texto, texto, survives_nil]
      | cons m lines => exact absurd ending (List.isChain_cons_cons.mp leidas.seguidas).1.1
    | lf => exact survives_append_scalar
    | cr => exact survives_append_scalar
    | crlf =>
      have second : Survives (.scalar '\n' :: texto lines) ↔ Survives (texto lines) :=
        survives_cons_scalar
      rw [← second]
      exact survives_append_scalar

/-! Bytes -/

theorem utf8_bom : String.utf8EncodeChar '\uFEFF' = BOM := by decide

theorem decode_bom (data : Bytes) : decode (BOM ++ data) = .scalar '\uFEFF' :: decode data := by
  rw [← utf8_bom, decode_encodeChar]

theorem bom_iff {data : Bytes} :
    BOM.isPrefixOf data = true ↔ (decode data).head? = some (.scalar '\uFEFF') := by
  rw [List.isPrefixOf_iff_prefix]
  constructor
  · rintro ⟨rest, rfl⟩
    rw [decode_bom]
    rfl
  · intro head
    rcases decode_cases data with rfl | ⟨c, rest, rfl, read, _⟩ | ⟨b, rest, rfl, _, read⟩
    · cases head
    · rw [read] at head
      obtain rfl : c = '\uFEFF' := by simpa using head
      exact ⟨rest, by rw [utf8_bom]⟩
    · rw [read] at head
      cases head

/-- Every file is written back as it was read. -/
theorem serialize_readLines (data : Bytes) :
    serialize (readLines data).1 (readLines data).2 = some data := by
  unfold readLines
  split
  · next marked =>
    obtain ⟨rest, rfl⟩ := List.isPrefixOf_iff_prefix.mp marked
    rw [serialize, texto_lineas, List.drop_left, encode_decode]
    rfl
  · rw [serialize, texto_lineas, encode_decode]
    rfl

/-- The lines of a file: they can be written, and then they are read back. -/
structure Legible (bom : Bool) (lines : List Line) : Prop where
  leidas : Leidas lines
  cuerpos : ∀ l ∈ lines, Survives l.body
  sinMarca : bom = false → (texto lines).head? ≠ some (.scalar '\uFEFF')

theorem legible_readLines (data : Bytes) : Legible (readLines data).1 (readLines data).2 := by
  have survives : ∀ bytes, ∀ l ∈ lineas (decode bytes), Survives l.body := by
    intro bytes
    rw [← survives_texto (leidas_lineas _), texto_lineas]
    exact survives_decode bytes
  unfold readLines
  split
  · exact ⟨leidas_lineas _, survives _, nofun⟩
  · next unmarked =>
    refine ⟨leidas_lineas _, survives _, fun _ => ?_⟩
    rw [texto_lineas]
    exact fun head => unmarked (bom_iff.mpr head)

theorem Legible.escritas {bom : Bool} {lines : List Line} (legible : Legible bom lines) :
    ∃ data, serialize bom lines = some data ∧ readLines data = (bom, lines) := by
  have survives := (survives_texto legible.leidas).mpr legible.cuerpos
  obtain ⟨bytes, written, read⟩ := Option.map_eq_some_iff.mp survives
  cases bom with
  | true =>
    refine ⟨BOM ++ bytes, by rw [serialize, written]; rfl, ?_⟩
    have marked : BOM.isPrefixOf (BOM ++ bytes) = true :=
      List.isPrefixOf_iff_prefix.mpr (List.prefix_append _ _)
    rw [readLines, if_pos marked, List.drop_left, read, legible.leidas.lineas_texto]
  | false =>
    refine ⟨bytes, by rw [serialize, written]; rfl, ?_⟩
    have unmarked : ¬ BOM.isPrefixOf bytes = true := by
      rw [bom_iff, read]
      exact legible.sinMarca rfl
    rw [readLines, if_neg unmarked, read, legible.leidas.lineas_texto]

end IniEditor
