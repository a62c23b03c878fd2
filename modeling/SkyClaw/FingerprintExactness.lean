import SkyClaw.Checks
import SkyClaw.ProfileFingerprint

set_option linter.all false

/-!
The canonical state of `plugins.txt` is its active plugins and nothing else, and the
fingerprint is the hash of all that it binds.
-/
namespace VfsAttestation
open LittleEndian TrimmedText Utf8Text

local instance lawfulBEq_activo : LawfulBEq (List UInt8) := inferInstance

/-! The active plugins -/

/-- What a line activates: its name, trimmed and with its case ignored. -/
def activado (alwaysActive : List Bytes) (rawLine : Bytes) : Option Bytes :=
  let linea := strip blanco rawLine
  let clave := caseInsensitiveKey (nombreDe linea)
  if linea.head? = some estrella ∧ clave ∉ alwaysActive then some clave else none

/-- The starred plugins that are not always active, in their order. -/
def habilitados (alwaysActive : List Bytes) (data : Bytes) : List Bytes :=
  (iterPluginsLines (sinBom data)).filterMap (activado alwaysActive)

theorem minuscula_nul {b : UInt8} (nul : minuscula b = 0) : b = 0 := by
  unfold minuscula at nul
  split at nul
  · next upper =>
    have number := congrArg UInt8.toNat nul
    rw [UInt8.toNat_ofNat'] at number
    simp only [UInt8.toNat_zero] at number
    omega
  · exact nul

/-- A name that is accepted gives a key without NUL. -/
theorem clave_limpia {raw nombre : Bytes} (valid : validatedPluginName raw = .ok nombre) :
    nombre = raw ∧ caseInsensitiveKey raw ≠ [] ∧ 0 ∉ caseInsensitiveKey raw := by
  unfold validatedPluginName at valid
  split at valid
  · cases valid
  next some_ =>
  split at valid
  · cases valid
  next clean =>
  split at valid
  · cases valid
    refine ⟨rfl, by simpa [caseInsensitiveKey] using some_, fun mem => ?_⟩
    obtain ⟨b, mem, nul⟩ := List.mem_map.mp mem
    rw [minuscula_nul nul] at mem
    exact clean (List.any_eq_true.mpr ⟨0, mem, by decide⟩)
  · cases valid

theorem leeLineas_ok {alwaysActive vistos : List Bytes} {lineas claves : List Bytes}
    (read : leeLineas alwaysActive vistos lineas = .ok claves) :
    claves = lineas.filterMap (activado alwaysActive) ∧ ∀ k ∈ claves, k ≠ [] ∧ 0 ∉ k := by
  induction lineas generalizing vistos claves with
  | nil =>
    cases read
    exact ⟨rfl, nofun⟩
  | cons rawLine resto ih =>
    rw [leeLineas] at read
    simp only at read
    split at read
    · next inert =>
      have none_ : activado alwaysActive rawLine = none := by
        unfold activado
        rw [if_neg]
        intro starred
        cases inert with
        | inl empty => simp [empty] at starred
        | inr comment =>
          rw [comment] at starred
          exact absurd starred.1 (by decide)
      rw [List.filterMap_cons_none none_]
      exact ih read
    · obtain ⟨nombre, valid, read⟩ := Checks.bind_ok.mp read
      obtain ⟨same, some_, clean⟩ := clave_limpia valid
      subst same
      split at read
      · cases read
      · obtain ⟨demas, later, read⟩ := Checks.bind_ok.mp read
        obtain ⟨rest, cleans⟩ := ih later
        cases read
        by_cases active : (strip blanco rawLine).head? = some estrella ∧
            caseInsensitiveKey (nombreDe (strip blanco rawLine)) ∉ alwaysActive
        · rw [if_pos active, List.filterMap_cons_some (by unfold activado; rw [if_pos active]), ← rest]
          exact ⟨rfl, List.forall_mem_cons.mpr ⟨⟨some_, clean⟩, cleans⟩⟩
        · rw [if_neg active, List.filterMap_cons_none (by unfold activado; rw [if_neg active]), ← rest]
          exact ⟨rfl, cleans⟩

/-- The parts of a text that are not empty and do not hold the separator. -/
theorem intercalate_unica {partes otras : List Bytes} (clean : ∀ k ∈ partes, k ≠ [] ∧ 0 ∉ k)
    (cleans : ∀ k ∈ otras, k ≠ [] ∧ 0 ∉ k) :
    ([0] : Bytes).intercalate partes = [0].intercalate otras ↔ partes = otras := by
  have empty {ks : List Bytes} (each : ∀ k ∈ ks, k ≠ [] ∧ 0 ∉ k)
      (nil : ([0] : Bytes).intercalate ks = []) : ks = [] := by
    cases ks with
    | nil => rfl
    | cons k rest =>
      have gone : k = [] := by
        cases rest with
        | nil => simpa using nil
        | cons l rest => simp at nil
      exact absurd gone (each k List.mem_cons_self).1
  constructor
  · intro same
    by_cases none_ : partes = []
    · subst none_
      exact (empty cleans same.symm).symm
    · by_cases none' : otras = []
      · subst none'
        exact empty clean same
      · have split := List.splitOn_intercalate 0 (fun k mem => (clean k mem).2) none_
        rw [same, List.splitOn_intercalate 0 (fun k mem => (cleans k mem).2) none'] at split
        exact split.symm
  · intro same
    rw [same]

theorem canonical_ok {alwaysActive : List Bytes} {data estado : Bytes}
    (accepted : canonicalPluginsState alwaysActive (some data) = .ok estado) :
    estado = [0].intercalate (habilitados alwaysActive data) ∧
      ∀ k ∈ habilitados alwaysActive data, k ≠ [] ∧ 0 ∉ k := by
  simp only [canonicalPluginsState] at accepted
  cases read : leeLineas alwaysActive [] (iterPluginsLines (sinBom data)) with
  | error x =>
    rw [read] at accepted
    cases accepted
  | ok claves =>
    rw [read] at accepted
    cases accepted
    obtain ⟨rfl, clean⟩ := leeLineas_ok read
    exact ⟨rfl, clean⟩

/-- Two contents have the same state when they activate the same plugins in the same order. -/
theorem canonical_eq_iff {alwaysActive : List Bytes} {data data' estado estado' : Bytes}
    (accepted : canonicalPluginsState alwaysActive (some data) = .ok estado)
    (accepted' : canonicalPluginsState alwaysActive (some data') = .ok estado') :
    estado = estado' ↔ habilitados alwaysActive data = habilitados alwaysActive data' := by
  obtain ⟨same, clean⟩ := canonical_ok accepted
  obtain ⟨same', clean'⟩ := canonical_ok accepted'
  rw [same, same']
  exact intercalate_unica clean clean'

/-! The ways to write the same plugins -/

/-- Blanks around a name. -/
structure Blancos where
  bytes : Bytes
  todos : ∀ b ∈ bytes, blanco b = true

/-- A piece of a line. -/
structure Trozo where
  bytes : Bytes
  sinSaltos : ∀ b ∈ bytes, b ≠ 0x0D ∧ b ≠ 0x0A

/-- A name without blanks around it. -/
structure Nombre extends Trozo where
  recortado : Trimmed blanco bytes
  alguno : bytes ≠ []

inductive Linea where
  | vacia (w : Blancos)
  | comentario (w : Blancos) (texto : Trozo)
  | listada (w w' : Blancos) (n : Nombre) (sinMarca : n.bytes.head? ≠ some estrella ∧ n.bytes.head? ≠ some almohadilla)
  | activa (w w' w'' : Blancos) (n : Nombre)

inductive Salto where
  | lf
  | crlf
  | cr
  deriving DecidableEq

def Salto.bytes : Salto → Bytes
  | .lf => [0x0A]
  | .crlf => [0x0D, 0x0A]
  | .cr => [0x0D]

def Linea.bytes : Linea → Bytes
  | .vacia w => w.bytes
  | .comentario w texto => w.bytes ++ almohadilla :: texto.bytes
  | .listada w w' n _ => w.bytes ++ (n.bytes ++ w'.bytes)
  | .activa w w' w'' n => w.bytes ++ estrella :: (w'.bytes ++ (n.bytes ++ w''.bytes))

def Linea.activa? : Linea → Option Bytes
  | .activa _ _ _ n => some n.bytes
  | _ => none

/-- A content of `plugins.txt`: a mark or none, and lines with any ends. -/
structure Escrito where
  bom : Bool
  lineas : List (Linea × Salto)
  ultima : Linea
  marca : bom = false → ¬utf8Bom <+: (lineas.flatMap fun l => l.1.bytes ++ l.2.bytes) ++ ultima.bytes

def Escrito.cuerpo (e : Escrito) : Bytes := (e.lineas.flatMap fun l => l.1.bytes ++ l.2.bytes) ++ e.ultima.bytes

def Escrito.bytes (e : Escrito) : Bytes := (if e.bom then utf8Bom else []) ++ e.cuerpo

/-- The names of the starred lines. -/
def Escrito.activas (e : Escrito) : List Bytes := (e.lineas.map Prod.fst ++ [e.ultima]).filterMap Linea.activa?

theorem Blancos.sinSaltos (w : Blancos) : ∀ b ∈ w.bytes, b ≠ 0x0D ∧ b ≠ 0x0A := by
  intro b mem
  have white := w.todos b mem
  constructor
  · intro same
    rw [same] at white
    cases white
  · intro same
    rw [same] at white
    cases white

theorem Linea.sinSaltos (l : Linea) : ∀ b ∈ l.bytes, b ≠ 0x0D ∧ b ≠ 0x0A := by
  intro b mem
  cases l with
  | vacia w => exact w.sinSaltos b mem
  | comentario w texto =>
    simp only [Linea.bytes, List.mem_append, List.mem_cons] at mem
    rcases mem with before | rfl | after
    · exact w.sinSaltos b before
    · decide
    · exact texto.sinSaltos b after
  | listada w w' n _ =>
    simp only [Linea.bytes, List.mem_append] at mem
    rcases mem with before | name | after
    · exact w.sinSaltos b before
    · exact n.sinSaltos b name
    · exact w'.sinSaltos b after
  | activa w w' w'' n =>
    simp only [Linea.bytes, List.mem_append, List.mem_cons] at mem
    rcases mem with before | rfl | between | name | after
    · exact w.sinSaltos b before
    · decide
    · exact w'.sinSaltos b between
    · exact n.sinSaltos b name
    · exact w''.sinSaltos b after

theorem Nombre.strip_entre (w w' : Blancos) (n : Nombre) :
    strip blanco (w.bytes ++ (n.bytes ++ w'.bytes)) = n.bytes := by
  rw [strip_blank_append w.todos, strip_append_blank w'.todos]
  exact n.recortado

/-- Of a line only the name that it activates counts. -/
theorem activado_linea (alwaysActive : List Bytes) (l : Linea) :
    activado alwaysActive l.bytes = (l.activa?.map caseInsensitiveKey).filter (· ∉ alwaysActive) := by
  have solid {b : UInt8} (mark : b = estrella ∨ b = almohadilla) : blanco b = false := by
    rcases mark with rfl | rfl <;> decide
  unfold activado
  cases l with
  | vacia w =>
    have empty : strip blanco w.bytes = [] := strip_eq_nil_iff.mpr w.todos
    simp [Linea.bytes, Linea.activa?, empty]
  | comentario w texto =>
    have shape : strip blanco (w.bytes ++ almohadilla :: texto.bytes) =
        almohadilla :: texto.bytes.rdropWhile blanco := by
      rw [strip_blank_append w.todos, strip_cons_of_solid (solid (.inr rfl))]
    have other : some almohadilla ≠ some estrella := by decide
    simp [Linea.bytes, Linea.activa?, shape, other]
  | listada w w' n plain =>
    simp only [Linea.bytes, Linea.activa?, n.strip_entre]
    rw [if_neg fun both => plain.1 both.1]
    rfl
  | activa w w' w'' n =>
    have shape : strip blanco (w.bytes ++ estrella :: (w'.bytes ++ (n.bytes ++ w''.bytes))) =
        estrella :: (w'.bytes ++ (n.bytes ++ w''.bytes)).rdropWhile blanco := by
      rw [strip_blank_append w.todos, strip_cons_of_solid (solid (.inl rfl))]
    have name : nombreDe (estrella :: (w'.bytes ++ (n.bytes ++ w''.bytes)).rdropWhile blanco) = n.bytes := by
      rw [nombreDe, List.head?_cons, if_pos rfl, List.drop_one, List.tail_cons, strip_rdropWhile,
        n.strip_entre]
    simp only [Linea.bytes, Linea.activa?, shape, name, List.head?_cons, true_and, Option.map_some,
      Option.filter_some, decide_eq_true_eq]

/-! The ends of the lines -/

theorem sinCrlf_limpio {l : Bytes} (clean : ∀ b ∈ l, b ≠ 0x0D ∧ b ≠ 0x0A) (r : Bytes) :
    sinCrlf (l ++ r) = l ++ sinCrlf r := by
  induction l with
  | nil => rfl
  | cons b l ih =>
    obtain ⟨first, rest⟩ := List.forall_mem_cons.mp clean
    rw [List.cons_append, sinCrlf, ih rest, List.cons_append]
    intro t same
    exact absurd same first.1

theorem sinCr_limpio {l : Bytes} (clean : ∀ b ∈ l, b ≠ 0x0D ∧ b ≠ 0x0A) : sinCr l = l := by
  rw [sinCr]
  refine (List.map_congr_left fun b mem => ?_).trans (List.map_id l)
  exact if_neg (clean b mem).1

theorem iterPluginsLines_limpio {l : Bytes} (clean : ∀ b ∈ l, b ≠ 0x0D ∧ b ≠ 0x0A) :
    iterPluginsLines l = [l] := by
  have whole := sinCrlf_limpio clean []
  rw [List.append_nil, sinCrlf, List.append_nil] at whole
  rw [iterPluginsLines, whole, sinCr_limpio clean, List.splitOn_eq_splitOnP, List.splitOnP_eq_singleton]
  intro b mem
  simpa using (clean b mem).2

/-- The line that a CR or an LF ends, once the CR LFs are gone. -/
theorem splitOn_linea {l : Bytes} (clean : ∀ b ∈ l, b ≠ 0x0D ∧ b ≠ 0x0A) {c : UInt8} (brk : c = 0x0D ∨ c = 0x0A)
    (r : Bytes) : (sinCr (l ++ c :: r)).splitOn 0x0A = l :: (sinCr r).splitOn 0x0A := by
  have mark : (if c = 0x0D then 0x0A else c) = (0x0A : UInt8) := by
    cases brk with
    | inl cr => rw [if_pos cr]
    | inr lf => subst lf; rfl
  have split : sinCr (l ++ c :: r) = l ++ 0x0A :: sinCr r := by
    have front := sinCr_limpio clean
    simp only [sinCr, List.map_append, List.map_cons, mark] at front ⊢
    rw [front]
  rw [split, List.splitOn_eq_splitOnP, List.splitOnP_append_cons_of_forall_mem _ _ rfl, List.splitOn_eq_splitOnP]
  intro b mem
  simpa using (clean b mem).2

theorem iterPluginsLines_lf {l : Bytes} (clean : ∀ b ∈ l, b ≠ 0x0D ∧ b ≠ 0x0A) (r : Bytes) :
    iterPluginsLines (l ++ 0x0A :: r) = l :: iterPluginsLines r := by
  have plain : sinCrlf (0x0A :: r) = 0x0A :: sinCrlf r := by
    rw [sinCrlf]
    intro t same
    cases same
  rw [iterPluginsLines, sinCrlf_limpio clean, plain, splitOn_linea clean (.inr rfl), iterPluginsLines]

/-- What the lines activate, when an empty line activates nothing. -/
theorem filterMap_linea {β : Type} {f : Bytes → Option β} (none_ : f [] = none) {l : Bytes}
    (clean : ∀ b ∈ l, b ≠ 0x0D ∧ b ≠ 0x0A) (s : Salto) (r : Bytes) :
    (iterPluginsLines (l ++ (s.bytes ++ r))).filterMap f = (f l).toList ++ (iterPluginsLines r).filterMap f := by
  have first (rest : List Bytes) : (l :: rest).filterMap f = (f l).toList ++ rest.filterMap f := by
    cases found : f l with
    | none => rw [List.filterMap_cons_none found]; rfl
    | some k => rw [List.filterMap_cons_some found]; rfl
  cases s with
  | lf =>
    rw [Salto.bytes, List.singleton_append, iterPluginsLines_lf clean, first]
  | crlf =>
    have plain : sinCrlf (0x0D :: 0x0A :: r) = 0x0A :: sinCrlf r := by rw [sinCrlf]
    rw [Salto.bytes, List.cons_append, List.singleton_append, iterPluginsLines, sinCrlf_limpio clean, plain,
      splitOn_linea clean (.inr rfl), first, iterPluginsLines]
  | cr =>
    rw [Salto.bytes, List.singleton_append]
    by_cases feed : ∃ t, r = 0x0A :: t
    · -- the LF of the line that follows ends this one too
      obtain ⟨t, rfl⟩ := feed
      have plain : sinCrlf (0x0D :: 0x0A :: t) = 0x0A :: sinCrlf t := by rw [sinCrlf]
      have next := iterPluginsLines_lf (l := []) nofun t
      rw [List.nil_append] at next
      rw [next, List.filterMap_cons_none none_, iterPluginsLines, sinCrlf_limpio clean, plain,
        splitOn_linea clean (.inr rfl), first, iterPluginsLines]
    · have plain : sinCrlf (0x0D :: r) = 0x0D :: sinCrlf r := by
        rw [sinCrlf]
        intro t _ same
        exact feed ⟨t, same⟩
      rw [iterPluginsLines, sinCrlf_limpio clean, plain, splitOn_linea clean (.inl rfl), first, iterPluginsLines]

theorem sinBom_bytes (e : Escrito) : sinBom e.bytes = e.cuerpo := by
  unfold sinBom Escrito.bytes
  cases mark : e.bom with
  | true =>
    rw [if_pos rfl, if_pos (List.prefix_append _ _), List.drop_left]
  | false =>
    have plain : ¬utf8Bom <+: e.cuerpo := e.marca mark
    rw [if_neg Bool.false_ne_true, List.nil_append, if_neg plain]

theorem filterMap_cuerpo {f : Bytes → Option Bytes} (none_ : f [] = none) (lineas : List (Linea × Salto))
    (ultima : Linea) :
    (iterPluginsLines ((lineas.flatMap fun l => l.1.bytes ++ l.2.bytes) ++ ultima.bytes)).filterMap f =
      (lineas.map Prod.fst ++ [ultima]).filterMap fun l => f l.bytes := by
  induction lineas with
  | nil =>
    rw [List.flatMap_nil, List.nil_append, iterPluginsLines_limpio ultima.sinSaltos]
    rfl
  | cons l lineas ih =>
    rw [List.flatMap_cons, List.append_assoc, List.append_assoc, filterMap_linea none_ l.1.sinSaltos, ih,
      List.map_cons, List.cons_append, List.filterMap_cons]
    cases f l.1.bytes with
    | none => rfl
    | some k => rfl

/-- The mark, the ends of the lines, the comments, the blanks, the lines without a star and those of
always active plugins do not count. -/
theorem habilitados_bytes (alwaysActive : List Bytes) (e : Escrito) :
    habilitados alwaysActive e.bytes = (e.activas.map caseInsensitiveKey).filter (· ∉ alwaysActive) := by
  have none_ : activado alwaysActive [] = none := rfl
  rw [habilitados, sinBom_bytes, Escrito.cuerpo, filterMap_cuerpo none_, Escrito.activas, List.map_filterMap,
    List.filter_filterMap]
  simp only [activado_linea]

/-! The sections -/

/-- A section tells its payload from what follows it. -/
theorem stateSection_unica {label p p' s s' r r' : Bytes} (done : stateSection label p = .ok s)
    (done' : stateSection label p' = .ok s') (same : s ++ r = s' ++ r') : p = p' ∧ r = r' := by
  have sized {q t : Bytes} (made : stateSection label q = .ok t) :
      q.length < 256 ^ 8 ∧ t = ascii "\x00state\x00" ++ label ++ [0] ++ ((toBytes 8 q.length).reverse ++ q) := by
    obtain ⟨largo, fits, made⟩ := Checks.bind_ok.mp made
    unfold ochoBytes at fits
    split at fits
    · next bound =>
      cases fits
      cases made
      exact ⟨bound, by simp only [List.append_assoc]⟩
    · cases fits
  obtain ⟨bound, shape⟩ := sized done
  obtain ⟨bound', shape'⟩ := sized done'
  simp only [shape, shape', List.append_assoc] at same
  have rest := List.append_cancel_left (List.append_cancel_left (List.append_cancel_left same))
  obtain ⟨sizes, tail⟩ := List.append_inj rest (by simp)
  have number := congrArg (fun b => fromBytes b.reverse) sizes
  simp only [List.reverse_reverse, fromBytes_toBytes bound, fromBytes_toBytes bound'] at number
  exact List.append_inj tail number

theorem rawFilePayload_unica {a b : Option Bytes} (same : rawFilePayload a = rawFilePayload b) : a = b := by
  cases a with
  | none =>
    cases b with
    | none => rfl
    | some y => simp [rawFilePayload] at same
  | some x =>
    cases b with
    | none => simp [rawFilePayload] at same
    | some y => simpa [rawFilePayload] using same

/-- The sections of the same files, one after the other. -/
theorem secciones_unicas {as bs : List (String × Option Bytes)} {xs ys : List Bytes} {r r' : Bytes}
    (labels : as.map Prod.fst = bs.map Prod.fst)
    (done : (as.mapM fun a => stateSection (ascii ("file:" ++ a.1)) (rawFilePayload a.2)) = .ok xs)
    (done' : (bs.mapM fun a => stateSection (ascii ("file:" ++ a.1)) (rawFilePayload a.2)) = .ok ys)
    (same : xs.flatten ++ r = ys.flatten ++ r') : as = bs ∧ r = r' := by
  induction as generalizing bs xs ys with
  | nil =>
    cases bs with
    | nil =>
      cases done
      cases done'
      exact ⟨rfl, by simpa using same⟩
    | cons b bs => simp at labels
  | cons a as ih =>
    cases bs with
    | nil => simp at labels
    | cons b bs =>
      rw [List.map_cons, List.map_cons] at labels
      obtain ⟨label, labels⟩ := List.cons.inj labels
      rw [List.mapM_cons] at done done'
      obtain ⟨x, first, done⟩ := Checks.bind_ok.mp done
      obtain ⟨xs, others, done⟩ := Checks.bind_ok.mp done
      obtain ⟨y, first', done'⟩ := Checks.bind_ok.mp done'
      obtain ⟨ys, others', done'⟩ := Checks.bind_ok.mp done'
      cases done
      cases done'
      rw [List.flatten_cons, List.flatten_cons, List.append_assoc, List.append_assoc] at same
      rw [← label] at first'
      obtain ⟨payload, same⟩ := stateSection_unica first first' same
      obtain ⟨rest, tail⟩ := ih labels others others' same
      have equal : a = b := Prod.ext label (rawFilePayload_unica payload)
      exact ⟨by rw [equal, rest], tail⟩

/-! The texts -/

theorem decode_utf8 {t : Texto} {b : Bytes} (written : utf8 t = .ok b) : decode b = t := by
  induction t generalizing b with
  | nil =>
    cases written
    rfl
  | cons p t ih =>
    cases p with
    | surrogate n => cases written
    | scalar c =>
      rw [utf8] at written
      cases rest : utf8 t with
      | error x =>
        rw [rest] at written
        cases written
      | ok b' =>
        rw [rest] at written
        cases written
        rw [decode_encodeChar, ih rest]

theorem utf8_unica {t u : Texto} {b : Bytes} (written : utf8 t = .ok b) (written' : utf8 u = .ok b) : t = u :=
  (decode_utf8 written).symm.trans (decode_utf8 written')

/-- Only a NUL is written with a NUL. -/
theorem nul_utf8 {t : Texto} {b : Bytes} (written : utf8 t = .ok b) (clean : .scalar (Char.ofNat 0) ∉ t) :
    0 ∉ b := by
  induction t generalizing b with
  | nil =>
    cases written
    exact List.not_mem_nil
  | cons p t ih =>
    have first : .scalar (Char.ofNat 0) ≠ p := fun same => clean (same ▸ List.mem_cons_self)
    have others : .scalar (Char.ofNat 0) ∉ t := fun mem => clean (List.mem_cons_of_mem _ mem)
    cases p with
    | surrogate n => cases written
    | scalar c =>
      rw [utf8] at written
      cases rest : utf8 t with
      | error x =>
        rw [rest] at written
        cases written
      | ok b' =>
        rw [rest] at written
        cases written
        intro mem
        cases List.mem_append.mp mem with
        | inl here =>
          have nul := ascii_mem_encodeChar (by decide) here
          exact first (by rw [nul]; rfl)
        | inr later => exact ih rest others later

/-! The canary -/

theorem toNat_hex {c : Char} (hex : esHex c = true) :
    c.toNat ≠ 0 ∧ (UInt8.ofNat c.toNat).toNat = c.toNat := by
  simp only [esHex, Bool.or_eq_true, Bool.and_eq_true, decide_eq_true_eq] at hex
  rw [UInt8.toNat_ofNat']
  omega

theorem hex_limpio {t : List Char} (hex : t.all esHex = true) :
    (0 : UInt8) ∉ t.map fun c => UInt8.ofNat c.toNat := by
  intro mem
  obtain ⟨c, mem, nul⟩ := List.mem_map.mp mem
  obtain ⟨some_, same⟩ := toNat_hex (List.all_eq_true.mp hex c mem)
  rw [nul] at same
  exact some_ same.symm

theorem hex_unico {t u : List Char} (hex : t.all esHex = true) (hex' : u.all esHex = true)
    (same : (t.map fun c => UInt8.ofNat c.toNat) = u.map fun c => UInt8.ofNat c.toNat) : t = u := by
  induction t generalizing u with
  | nil =>
    cases u with
    | nil => rfl
    | cons d u => simp at same
  | cons c t ih =>
    cases u with
    | nil => simp at same
    | cons d u =>
      rw [List.all_cons, Bool.and_eq_true] at hex hex'
      obtain ⟨first, rest⟩ := List.cons.inj same
      have number := congrArg UInt8.toNat first
      rw [(toNat_hex hex.1).2, (toNat_hex hex'.1).2] at number
      rw [Char.ext (UInt32.toNat_inj.mp number), ih hex.2 hex'.2 rest]

/-- What stands before and after the last NUL. -/
theorem ultimo_nul {x y u v : Bytes} (clean : 0 ∉ y) (clean' : 0 ∉ v) (same : x ++ 0 :: y = u ++ 0 :: v) :
    x = u ∧ y = v := by
  have turned := congrArg List.reverse same
  simp only [List.reverse_append, List.reverse_cons, List.append_assoc, List.singleton_append] at turned
  have splits (b c : Bytes) (free : 0 ∉ b) : (b ++ 0 :: c).splitOnP (· == 0) = b :: c.splitOnP (· == 0) := by
    rw [List.splitOnP_append_cons_of_forall_mem _ _ rfl]
    intro z mem
    simpa using fun nul : z = 0 => free (nul ▸ mem)
  have parts := congrArg (List.splitOnP (· == 0)) turned
  rw [splits _ _ (by simpa using clean), splits _ _ (by simpa using clean')] at parts
  have last : y = v := List.reverse_injective (List.cons.inj parts).1
  subst last
  exact ⟨List.append_cancel_right same, rfl⟩

theorem canaryPayload_unico {a b : Canary} {p : Bytes} (done : canaryPayload a = .ok p)
    (done' : canaryPayload b = .ok p) : a = b := by
  obtain ⟨mod, mods, done⟩ := Checks.bind_ok.mp done
  obtain ⟨ruta, rutas, done⟩ := Checks.bind_ok.mp done
  obtain ⟨mod', mods', done'⟩ := Checks.bind_ok.mp done'
  obtain ⟨ruta', rutas', done'⟩ := Checks.bind_ok.mp done'
  have same := (Checks.pure_ok.mp done).trans (Checks.pure_ok.mp done').symm
  simp only [List.append_assoc, List.singleton_append] at same
  rw [← List.append_assoc, ← List.append_assoc] at same
  obtain ⟨front, hash⟩ := ultimo_nul (hex_limpio a.hex) (hex_limpio b.hex) same
  obtain ⟨first, path⟩ := ultimo_nul (nul_utf8 rutas a.sinNul) (nul_utf8 rutas' b.sinNul) front
  subst first
  subst path
  obtain ⟨aMod, aRuta, aHash, _, aHex⟩ := a
  obtain ⟨bMod, bRuta, bHash, _, bHex⟩ := b
  obtain rfl : aMod = bMod := utf8_unica mods mods'
  obtain rfl : aRuta = bRuta := utf8_unica rutas rutas'
  obtain rfl : aHash = bHash := hex_unico aHex bHex hash
  rfl

theorem archivos_unicos {c d : Crudos} (same : c.archivos = d.archivos) : c = d := by
  obtain ⟨a, b, c, e⟩ := c
  simp only [Crudos.archivos, List.cons.injEq, Prod.mk.injEq, true_and, and_true] at same
  obtain ⟨rfl, rfl, rfl, rfl⟩ := same
  rfl

/-- One preimage, one profile, state, files and canary. -/
theorem preimagen_unica {p p' : Texto} {e e' : Bytes} {c c' : Crudos} {k k' : Canary} {x : Bytes}
    (done : preimagen p e c k = .ok x) (done' : preimagen p' e' c' k' = .ok x) :
    p = p' ∧ e = e' ∧ c = c' ∧ k = k' := by
  obtain ⟨perfil, texts, done⟩ := Checks.bind_ok.mp done
  obtain ⟨primera, one, done⟩ := Checks.bind_ok.mp done
  obtain ⟨segunda, two, done⟩ := Checks.bind_ok.mp done
  obtain ⟨archivos, files, done⟩ := Checks.bind_ok.mp done
  obtain ⟨payload, canary, done⟩ := Checks.bind_ok.mp done
  obtain ⟨ultima, last, done⟩ := Checks.bind_ok.mp done
  obtain ⟨perfil', texts', done'⟩ := Checks.bind_ok.mp done'
  obtain ⟨primera', one', done'⟩ := Checks.bind_ok.mp done'
  obtain ⟨segunda', two', done'⟩ := Checks.bind_ok.mp done'
  obtain ⟨archivos', files', done'⟩ := Checks.bind_ok.mp done'
  obtain ⟨payload', canary', done'⟩ := Checks.bind_ok.mp done'
  obtain ⟨ultima', last', done'⟩ := Checks.bind_ok.mp done'
  have same := (Checks.pure_ok.mp done).trans (Checks.pure_ok.mp done').symm
  simp only [List.append_assoc] at same
  obtain ⟨profiles, same⟩ := stateSection_unica one one' (List.append_cancel_left same)
  obtain ⟨states, same⟩ := stateSection_unica two two' same
  have labels : c.archivos.map Prod.fst = c'.archivos.map Prod.fst := rfl
  obtain ⟨raw, same⟩ := secciones_unicas labels files files' same
  rw [← List.append_nil ultima, ← List.append_nil ultima'] at same
  obtain ⟨canaries, _⟩ := stateSection_unica last last' same
  subst profiles
  subst canaries
  exact ⟨utf8_unica texts texts', states, archivos_unicos raw, canaryPayload_unico canary canary'⟩

/-- The state is that of the starred plugins, however they are written, and the preimage tells all
that it is made of. -/
theorem huella_fiel :
    (∀ (alwaysActive : List Bytes) (data data' estado estado' : Bytes),
      canonicalPluginsState alwaysActive (some data) = .ok estado →
      canonicalPluginsState alwaysActive (some data') = .ok estado' →
      (estado = estado' ↔ habilitados alwaysActive data = habilitados alwaysActive data')) ∧
    (∀ (alwaysActive : List Bytes) (e : Escrito), habilitados alwaysActive e.bytes =
      (e.activas.map caseInsensitiveKey).filter (· ∉ alwaysActive)) ∧
    ∀ (p p' : Texto) (e e' : Bytes) (c c' : Crudos) (k k' : Canary) (x : Bytes),
      preimagen p e c k = .ok x → preimagen p' e' c' k' = .ok x → p = p' ∧ e = e' ∧ c = c' ∧ k = k' :=
  ⟨fun _ _ _ _ _ => canonical_eq_iff, habilitados_bytes, fun _ _ _ _ _ _ _ _ _ => preimagen_unica⟩

theorem huella_fiel_dos :
    (ascii "a.esp" = ascii "a.esp" ↔ habilitados [ascii "skyrim.esm"] (ascii "*A.esp\nB.esp\n") =
      habilitados [ascii "skyrim.esm"] (ascii "# x\r\n *a.esp\r*Skyrim.esm")) ∧
    habilitados [] (Escrito.bytes ⟨true, [], .vacia ⟨[], nofun⟩, nofun⟩) = [] :=
  ⟨huella_fiel.1 [ascii "skyrim.esm"] (ascii "*A.esp\nB.esp\n") (ascii "# x\r\n *a.esp\r*Skyrim.esm")
    (ascii "a.esp") (ascii "a.esp") (by decide +kernel) (by decide +kernel),
    huella_fiel.2.1 [] ⟨true, [], .vacia ⟨[], nofun⟩, nofun⟩⟩

end VfsAttestation
