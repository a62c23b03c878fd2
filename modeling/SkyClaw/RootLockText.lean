import SkyClaw.JsonText
import SkyClaw.RootLockRecord

set_option linter.all false

/-!
The text of owner records: flat objects of texts, integers and times, which are written
with all of their seven decimals.
-/
namespace FrozenRootLock
open Utf8Text FlatJson JsonText

def cifra (r k : Nat) : Char := Nat.digitChar (r / 10 ^ k % 10)

/-- Seven decimals. -/
def decimales (r : Nat) : List Char :=
  [cifra r 6, cifra r 5, cifra r 4, cifra r 3, cifra r 2, cifra r 1, cifra r 0]

def escribirInstante (t : Nat) : List Char :=
  Nat.toDigits 10 (t / 10 ^ 7) ++ '.' :: decimales (t % 10 ^ 7)

def escribirValor : Valor → List Char
  | .texto s => writeText s.toList
  | .entero n => writeNumber n
  | .real (.ofNat t) => escribirInstante t
  | .real (.negSucc t) => '-' :: escribirInstante (t + 1)
  | .otro => ['n', 'u', 'l', 'l']

/-- The decimals that follow a point, of which seven count. -/
def leerDecimales (cs : List Char) : Nat × List Char :=
  (Nat.ofDigitChars 10 ((cs.takeWhile Char.isDigit ++ List.replicate 7 '0').take 7) 0,
    cs.dropWhile Char.isDigit)

def leerNumero (signo : Int) (cs : List Char) : Option (Valor × List Char) :=
  (readDigits cs).map fun whole =>
    match whole.2 with
    | '.' :: rest =>
      (.real (signo * (whole.1 * 10 ^ 7 + (leerDecimales rest).1 : Nat)), (leerDecimales rest).2)
    | rest => (.entero (signo * whole.1), rest)

def leerValor : List Char → Option (Valor × List Char)
  | '"' :: cs => (readText cs.length cs).map fun found => (.texto (String.ofList found.1), found.2)
  | '-' :: cs => leerNumero (-1) cs
  | cs => leerNumero 1 cs

def escribirPar (p : String × Valor) : List Char :=
  writeText p.1.toList ++ ':' :: escribirValor p.2

def leerPar : List Char → Option ((String × Valor) × List Char)
  | '"' :: cs => (readText cs.length cs).bind fun clave =>
    match clave.2 with
    | ':' :: rest => (leerValor rest).map fun valor => ((String.ofList clave.1, valor.1), valor.2)
    | _ => none
  | _ => none

def escribirObjeto : List (String × Valor) → List Char
  | [] => ['{', '}']
  | p :: ps => '{' :: (escribirPar p ++ more escribirPar [] ps ++ ['}'])

def leerObjeto : List Char → Option (List (String × Valor))
  | '{' :: '}' :: rest => if skip rest = [] then some [] else none
  | '{' :: cs => (readSeq leerPar '}' cs.length cs).bind fun found =>
    if skip found.2 = [] then some found.1 else none
  | _ => none

/-! Read back -/

theorem isDigit_cifra (r k : Nat) : (cifra r k).isDigit = true := by
  have all : ∀ d ∈ List.range 10, (Nat.digitChar d).isDigit = true := by decide
  exact all _ (List.mem_range.mpr (Nat.mod_lt _ (by decide)))

theorem cifra_value (r k : Nat) : (cifra r k).toNat - '0'.toNat = r / 10 ^ k % 10 := by
  have all : ∀ d ∈ List.range 10, (Nat.digitChar d).toNat - '0'.toNat = d := by decide
  exact all _ (List.mem_range.mpr (Nat.mod_lt _ (by decide)))

theorem isDigit_decimales (r : Nat) : ∀ c ∈ decimales r, c.isDigit = true := by
  simp [decimales, isDigit_cifra]

theorem decimales_value {r : Nat} (small : r < 10 ^ 7) : Nat.ofDigitChars 10 (decimales r) 0 = r := by
  simp only [decimales, Nat.ofDigitChars, List.foldl_cons, List.foldl_nil, cifra_value]
  omega

theorem leerDecimales_decimales {r : Nat} (small : r < 10 ^ 7) {rest : List Char}
    (stops : Stops rest) : leerDecimales (decimales r ++ rest) = (r, rest) := by
  have taken : rest.takeWhile Char.isDigit = [] := by
    cases rest with
    | nil => rfl
    | cons c rest => exact List.takeWhile_cons_of_neg (by simp [(stops c rfl).1])
  have dropped : rest.dropWhile Char.isDigit = rest := by
    cases rest with
    | nil => rfl
    | cons c rest => exact List.dropWhile_cons_of_neg (by simp [(stops c rfl).1])
  have seven : (decimales r ++ List.replicate 7 '0').take 7 = decimales r := rfl
  rw [leerDecimales, List.takeWhile_append_of_pos (isDigit_decimales r),
    List.dropWhile_append_of_pos (isDigit_decimales r), taken, dropped, List.append_nil, seven,
    decimales_value small]

theorem leerNumero_instante (signo : Int) (t : Nat) {rest : List Char} (stops : Stops rest) :
    leerNumero signo (escribirInstante t ++ rest) = some (.real (signo * t), rest) := by
  have small : t % 10 ^ 7 < 10 ^ 7 := Nat.mod_lt _ (by decide)
  have whole : t / 10 ^ 7 * 10 ^ 7 + t % 10 ^ 7 = t := Nat.div_add_mod' _ _
  rw [escribirInstante, List.append_assoc, List.cons_append, leerNumero,
    readDigits_toDigits _ _ (by decide), Option.map_some]
  simp only [leerDecimales_decimales small stops, whole]

theorem readDigits_stops (n : Nat) {rest : List Char} (stops : Stops rest) :
    readDigits (Nat.toDigits 10 n ++ rest) = some (n, rest) := by
  cases rest with
  | nil =>
    have digits : ∀ c ∈ Nat.toDigits 10 n, c.isDigit = true :=
      fun c mem => Nat.isDigit_of_mem_toDigits (by decide) (by decide) mem
    rw [readDigits, List.takeWhile_append_of_pos digits, List.dropWhile_append_of_pos digits,
      List.takeWhile_nil, List.append_nil, if_neg Nat.toDigits_ne_nil,
      Nat.ofDigitChars_ten_toDigits, List.dropWhile_nil]
  | cons c rest => exact readDigits_toDigits n rest (stops c rfl).1

theorem leerNumero_entero (signo : Int) (n : Nat) {rest : List Char} (stops : Stops rest) :
    leerNumero signo (Nat.toDigits 10 n ++ rest) = some (.entero (signo * n), rest) := by
  rw [leerNumero, readDigits_stops n stops, Option.map_some]
  dsimp only
  split
  · next after => exact absurd rfl (stops '.' rfl).2.1
  · rfl

theorem leerValor_digits {n : Nat} {cs : List Char} :
    leerValor (Nat.toDigits 10 n ++ cs) = leerNumero 1 (Nat.toDigits 10 n ++ cs) := by
  obtain ⟨c, rest, same, digit⟩ := toDigits_cons n
  rw [same, List.cons_append, leerValor]
  · rintro _ ⟨rfl, _⟩
    cases digit
  · rintro _ ⟨rfl, _⟩
    cases digit

theorem leerValor_escribirValor {v : Valor} (writable : v ≠ .otro) {rest : List Char}
    (stops : Stops rest) :
    leerValor (escribirValor v ++ rest) = some (v, rest) := by
  cases v with
  | texto s =>
    rw [escribirValor, writeText_append, leerValor, readText_of_length, Option.map_some,
      String.ofList_toList]
  | entero n =>
    cases n with
    | ofNat n =>
      rw [escribirValor, writeNumber, leerValor_digits, leerNumero_entero 1 n stops]
      simp
    | negSucc n =>
      rw [escribirValor, writeNumber, List.cons_append, leerValor,
        leerNumero_entero (-1) (n + 1) stops]
      congr
      omega
  | real t =>
    cases t with
    | ofNat t =>
      have read := leerNumero_instante 1 t stops
      rw [escribirInstante, List.append_assoc] at read
      rw [escribirValor, escribirInstante, List.append_assoc, leerValor_digits, read]
      simp
    | negSucc t =>
      rw [escribirValor, List.cons_append, leerValor, leerNumero_instante (-1) (t + 1) stops]
      congr
      omega
  | otro => exact absurd rfl writable

theorem leerPar_escribirPar {p : String × Valor} (writable : p.2 ≠ .otro) {rest : List Char}
    (stops : Stops rest) :
    leerPar (escribirPar p ++ rest) = some (p, rest) := by
  rw [escribirPar, List.append_assoc, writeText_append, leerPar, readText_of_length,
    Option.bind_some]
  simp only [List.cons_append, leerValor_escribirValor writable stops, Option.map_some,
    String.ofList_toList]

theorem escribirPar_head (p : String × Valor) : ∃ cs, escribirPar p = '"' :: cs := by
  rw [escribirPar, writeText]
  exact ⟨_, rfl⟩

theorem leerObjeto_escribirObjeto {ps : List (String × Valor)} (writable : ∀ p ∈ ps, p.2 ≠ .otro)
    (spaces : Nat) :
    leerObjeto (escribirObjeto ps ++ List.replicate spaces ' ') = some ps := by
  have blanks : skip (List.replicate spaces ' ') = [] := by
    induction spaces with
    | zero => rfl
    | succ n ih => exact ih
  cases ps with
  | nil =>
    rw [escribirObjeto]
    simp only [List.cons_append, List.nil_append, leerObjeto, if_pos blanks]
  | cons p ps =>
    have heads : ∀ q ∈ ps, ∀ c ∈ (escribirPar q).head?, blank c = false := by
      intro q _ c first
      obtain ⟨cs, same⟩ := escribirPar_head q
      rw [same] at first
      cases first
      decide
    have nonempty : ∀ q ∈ ps, escribirPar q ≠ [] := by
      intro q _ empty
      obtain ⟨cs, same⟩ := escribirPar_head q
      rw [same] at empty
      cases empty
    have fewer := (more_length escribirPar [] ps).1
    have read := @readSeq_more _ leerPar escribirPar [] [] '}' (by simp) (by simp) (by decide)
      (by decide) (by decide) p ps heads nonempty
      (fun q mem rest stops => leerPar_escribirPar (writable q mem) stops)
      (escribirPar p ++ (more escribirPar [] ps ++ '}' :: List.replicate spaces ' ')).length
      (by simp only [List.length_append, List.length_cons]; omega) (List.replicate spaces ' ')
    obtain ⟨cs, same⟩ := escribirPar_head p
    have text : escribirObjeto (p :: ps) ++ List.replicate spaces ' ' = '{' ::
        (escribirPar p ++ (more escribirPar [] ps ++ '}' :: List.replicate spaces ' ')) := by
      simp [escribirObjeto]
    rw [text]
    rw [List.nil_append, same, List.cons_append] at read
    rw [same, List.cons_append, leerObjeto, read, Option.bind_some]
    · exact if_pos blanks
    · intro rest closed
      cases (List.cons.inj closed).1

/-- The module `json` on these records. -/
def jsonRegistro : Json where
  dumps pares := (escribirObjeto pares).flatMap String.utf8EncodeChar
  loads raw := ((scalars (decode raw)).bind leerObjeto).map .objeto
  loads_dumps := by
    intro pares spaces _ writable
    have space : List.replicate spaces 32 =
        (List.replicate spaces ' ').flatMap String.utf8EncodeChar := by
      induction spaces with
      | zero => rfl
      | succ n ih =>
        rw [List.replicate_succ, List.replicate_succ, List.flatMap_cons, ← ih]
        rfl
    rw [space, ← List.flatMap_append, decode_scalars, scalars_map, Option.bind_some,
      leerObjeto_escribirObjeto writable, Option.map_some]
  dumps_ne_nil pares := by
    cases pares with
    | nil => decide
    | cons p ps => simp [escribirObjeto, String.utf8EncodeChar_ne_nil]

end FrozenRootLock
