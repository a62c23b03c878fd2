import Mathlib.Data.List.Basic
import SkyClaw.Utf8Text

set_option linter.all false

/-!
JSON objects whose values are texts and integers, on one line of UTF-8 without
spaces: only quotes, backslashes and control characters are escaped. What is
written is read back.
-/
namespace FlatJson
open Utf8Text

inductive Value where
  | text (t : List Char)
  | number (n : Int)
  deriving DecidableEq

/-! Texts -/

def escape (c : Char) : List Char :=
  if c = '"' then ['\\', '"']
  else if c = '\\' then ['\\', '\\']
  else if c = '\n' then ['\\', 'n']
  else if c = '\r' then ['\\', 'r']
  else if c = '\t' then ['\\', 't']
  else if c = '\x08' then ['\\', 'b']
  else if c = '\x0c' then ['\\', 'f']
  else if c.toNat < 32 then
    ['\\', 'u', '0', '0', Nat.digitChar (c.toNat / 16), Nat.digitChar (c.toNat % 16)]
  else [c]

def hexValue (c : Char) : Option Nat := (List.range 16).find? fun n => n.digitChar = c

/-- What a backslash and the characters after it stand for. -/
def unescape : List Char → Option (Char × List Char)
  | '"' :: rest => some ('"', rest)
  | '\\' :: rest => some ('\\', rest)
  | '/' :: rest => some ('/', rest)
  | 'n' :: rest => some ('\n', rest)
  | 'r' :: rest => some ('\r', rest)
  | 't' :: rest => some ('\t', rest)
  | 'b' :: rest => some ('\x08', rest)
  | 'f' :: rest => some ('\x0c', rest)
  | 'u' :: a :: b :: c :: d :: rest => do
    let n := (← hexValue a) * 4096 + (← hexValue b) * 256 + (← hexValue c) * 16 + (← hexValue d)
    return (.ofNat n, rest)
  | _ => none

/-- The text up to the closing quote, with at most `fuel` characters. -/
def readText : Nat → List Char → Option (List Char × List Char)
  | 0, _ => none
  | _, [] => none
  | fuel + 1, c :: rest =>
    if c = '"' then some ([], rest)
    else if c = '\\' then
      (unescape rest).bind fun found =>
        (readText fuel found.2).map fun tail => (found.1 :: tail.1, tail.2)
    else if c.toNat < 32 then none
    else (readText fuel rest).map fun found => (c :: found.1, found.2)

def writeText (t : List Char) : List Char := '"' :: (t.flatMap escape ++ ['"'])

theorem hexValue_digitChar {n : Nat} (digit : n < 16) : hexValue n.digitChar = some n := by
  have all : ∀ n ∈ List.range 16, hexValue n.digitChar = some n := by decide
  exact all n (List.mem_range.mpr digit)

theorem readText_backslash {cs rest : List Char} {c : Char} (read : unescape cs = some (c, rest))
    (fuel : Nat) :
    readText (fuel + 1) ('\\' :: cs) =
      (readText fuel rest).map fun found => (c :: found.1, found.2) := by
  rw [readText, if_neg (by decide), if_pos rfl, read]
  rfl

theorem unescape_control {c : Char} (control : c.toNat < 32) (rest : List Char) :
    unescape ('u' :: '0' :: '0' :: Nat.digitChar (c.toNat / 16) ::
      Nat.digitChar (c.toNat % 16) :: rest) = some (c, rest) := by
  have zero : hexValue '0' = some 0 := rfl
  have high := hexValue_digitChar (n := c.toNat / 16) (by omega)
  have low := hexValue_digitChar (n := c.toNat % 16) (by omega)
  have digits : c.toNat / 16 * 16 + c.toNat % 16 = c.toNat := Nat.div_add_mod' _ _
  simp only [unescape, zero, high, low, bind, Option.bind, pure, Nat.zero_mul, Nat.zero_add,
    digits, Char.ofNat_toNat]

theorem readText_escape (c : Char) (fuel : Nat) (rest : List Char) :
    readText (fuel + 1) (escape c ++ rest) =
      (readText fuel rest).map fun found => (c :: found.1, found.2) := by
  fun_cases escape c with
  | case1 same => exact readText_backslash (by subst same; rfl) fuel
  | case2 _ same => exact readText_backslash (by subst same; rfl) fuel
  | case3 _ _ same => exact readText_backslash (by subst same; rfl) fuel
  | case4 _ _ _ same => exact readText_backslash (by subst same; rfl) fuel
  | case5 _ _ _ _ same => exact readText_backslash (by subst same; rfl) fuel
  | case6 _ _ _ _ _ same => exact readText_backslash (by subst same; rfl) fuel
  | case7 _ _ _ _ _ _ same => exact readText_backslash (by subst same; rfl) fuel
  | case8 _ _ _ _ _ _ _ control => exact readText_backslash (unescape_control control rest) fuel
  | case9 not_quote not_backslash _ _ _ _ _ printed =>
    rw [List.singleton_append, readText, if_neg not_quote, if_neg not_backslash, if_neg printed]

theorem readText_writeText {t rest : List Char} {fuel : Nat} (enough : t.length < fuel) :
    readText fuel (t.flatMap escape ++ '"' :: rest) = some (t, rest) := by
  induction t generalizing fuel with
  | nil =>
    obtain ⟨fuel, rfl⟩ := Nat.exists_eq_add_one_of_ne_zero (Nat.ne_of_gt enough)
    rfl
  | cons c t ih =>
    obtain ⟨fuel, rfl⟩ := Nat.exists_eq_add_one_of_ne_zero (Nat.ne_zero_of_lt enough)
    rw [List.flatMap_cons, List.append_assoc, readText_escape,
      ih (by simpa using enough), Option.map_some]

/-! Numbers -/

def writeNumber : Int → List Char
  | .ofNat n => Nat.toDigits 10 n
  | .negSucc n => '-' :: Nat.toDigits 10 (n + 1)

def readDigits (cs : List Char) : Option (Nat × List Char) :=
  if cs.takeWhile Char.isDigit = [] then none
  else some (Nat.ofDigitChars 10 (cs.takeWhile Char.isDigit) 0, cs.dropWhile Char.isDigit)

def readNumber : List Char → Option (Int × List Char)
  | '-' :: cs => (readDigits cs).map fun found => (-(found.1 : Int), found.2)
  | cs => (readDigits cs).map fun found => ((found.1 : Int), found.2)

theorem readDigits_toDigits (n : Nat) {d : Char} (rest : List Char) (stop : d.isDigit = false) :
    readDigits (Nat.toDigits 10 n ++ d :: rest) = some (n, d :: rest) := by
  have digits : ∀ c ∈ Nat.toDigits 10 n, c.isDigit = true :=
    fun c mem => Nat.isDigit_of_mem_toDigits (by decide) (by decide) mem
  have taken : (Nat.toDigits 10 n ++ d :: rest).takeWhile Char.isDigit = Nat.toDigits 10 n := by
    rw [List.takeWhile_append_of_pos digits, List.takeWhile_cons_of_neg (by simp [stop]),
      List.append_nil]
  have dropped : (Nat.toDigits 10 n ++ d :: rest).dropWhile Char.isDigit = d :: rest := by
    rw [List.dropWhile_append_of_pos digits, List.dropWhile_cons_of_neg (by simp [stop])]
  rw [readDigits, taken, dropped, if_neg Nat.toDigits_ne_nil, Nat.ofDigitChars_ten_toDigits]

theorem readNumber_writeNumber (n : Int) {d : Char} (rest : List Char)
    (stop : d.isDigit = false) :
    readNumber (writeNumber n ++ d :: rest) = some (n, d :: rest) := by
  cases n with
  | ofNat n =>
    obtain ⟨c, cs, same⟩ := List.exists_cons_of_ne_nil (Nat.toDigits_ne_nil (n := n) (b := 10))
    have digit : c.isDigit = true :=
      Nat.isDigit_of_mem_toDigits (n := n) (b := 10) (by decide) (by decide) (by simp [same])
    have sign : c ≠ '-' := by
      rintro rfl
      cases digit
    have read := readDigits_toDigits n rest stop
    rw [writeNumber, same, List.cons_append] at *
    rw [readNumber, read]
    · rfl
    · exact fun _ other => sign (List.cons.inj other).1
  | negSucc n =>
    rw [writeNumber, List.cons_append, readNumber, readDigits_toDigits (n + 1) rest stop]
    rfl

/-! Objects -/

def writeValue : Value → List Char
  | .text t => writeText t
  | .number n => writeNumber n

def readValue : List Char → Option (Value × List Char)
  | '"' :: cs => (readText cs.length cs).map fun found => (.text found.1, found.2)
  | cs => (readNumber cs).map fun found => (.number found.1, found.2)

def writePair (p : List Char × Value) : List Char :=
  writeText p.1 ++ ':' :: writeValue p.2

def readPair : List Char → Option ((List Char × Value) × List Char)
  | '"' :: cs => do
    match ← readText cs.length cs with
    | (key, ':' :: rest) =>
      let (value, rest) ← readValue rest
      return ((key, value), rest)
    | _ => none
  | _ => none

def writePairs : List (List Char × Value) → List Char
  | [] => ['}']
  | [p] => writePair p ++ ['}']
  | p :: ps => writePair p ++ ',' :: writePairs ps

/-- At most `fuel` pairs, up to the end. -/
def readPairs : Nat → List Char → Option (List (List Char × Value))
  | 0, _ => none
  | fuel + 1, cs => do
    match ← readPair cs with
    | (p, ',' :: rest) => return p :: (← readPairs fuel rest)
    | (p, ['}']) => return [p]
    | _ => none

def writeObject (pairs : List (List Char × Value)) : List Char := '{' :: writePairs pairs

def readObject : List Char → Option (List (List Char × Value))
  | ['{', '}'] => some []
  | '{' :: cs => readPairs cs.length cs
  | _ => none

/-- The line of an object, in bytes. -/
def dumps (pairs : List (List Char × Value)) : List UInt8 :=
  (writeObject pairs).flatMap String.utf8EncodeChar

/-- The characters of a text without surrogates. -/
def scalars : List CodePoint → Option (List Char)
  | [] => some []
  | .scalar c :: t => (scalars t).map (c :: ·)
  | .surrogate _ :: _ => none

def loads (line : List UInt8) : Option (List (List Char × Value)) :=
  (scalars (decode line)).bind readObject

theorem length_le_escape (t : List Char) : t.length ≤ (t.flatMap escape).length := by
  induction t with
  | nil => exact Nat.le_refl _
  | cons c t ih =>
    have positive : 0 < (escape c).length := by fun_cases escape c <;> simp
    rw [List.flatMap_cons, List.length_append, List.length_cons]
    omega

theorem writeText_append (t rest : List Char) :
    writeText t ++ rest = '"' :: (t.flatMap escape ++ '"' :: rest) := by
  simp [writeText]

theorem readText_of_length {t rest : List Char} :
    readText (t.flatMap escape ++ '"' :: rest).length (t.flatMap escape ++ '"' :: rest) =
      some (t, rest) := by
  apply readText_writeText
  have longer := length_le_escape t
  simp only [List.length_append, List.length_cons]
  omega

theorem writeNumber_head (n : Int) : ∃ c cs, writeNumber n = c :: cs ∧ c ≠ '"' := by
  cases n with
  | ofNat n =>
    obtain ⟨c, cs, same⟩ := List.exists_cons_of_ne_nil (Nat.toDigits_ne_nil (n := n) (b := 10))
    have digit : c.isDigit = true :=
      Nat.isDigit_of_mem_toDigits (n := n) (b := 10) (by decide) (by decide) (by simp [same])
    refine ⟨c, cs, same, ?_⟩
    rintro rfl
    cases digit
  | negSucc n => exact ⟨'-', _, rfl, by decide⟩

theorem readValue_writeValue (v : Value) {d : Char} {rest : List Char}
    (stop : d.isDigit = false) :
    readValue (writeValue v ++ d :: rest) = some (v, d :: rest) := by
  cases v with
  | text t =>
    rw [writeValue, writeText_append, readValue, readText_of_length]
    rfl
  | number n =>
    obtain ⟨c, cs, same, other⟩ := writeNumber_head n
    have read := readNumber_writeNumber n rest stop
    rw [writeValue]
    rw [same, List.cons_append] at read ⊢
    rw [readValue, read]
    · rfl
    · exact fun _ quote => other (List.cons.inj quote).1

theorem readPair_writePair (p : List Char × Value) {d : Char} {rest : List Char}
    (stop : d.isDigit = false) :
    readPair (writePair p ++ d :: rest) = some (p, d :: rest) := by
  rw [writePair, List.append_assoc, writeText_append, readPair, readText_of_length]
  simp only [bind, Option.bind, List.cons_append, readValue_writeValue p.2 stop, pure]

theorem readPairs_writePairs {ps : List (List Char × Value)} (some_pair : ps ≠ []) {fuel : Nat}
    (enough : ps.length ≤ fuel) : readPairs fuel (writePairs ps) = some ps := by
  induction ps generalizing fuel with
  | nil => exact absurd rfl some_pair
  | cons p ps ih =>
    obtain ⟨fuel, rfl⟩ := Nat.exists_eq_add_one_of_ne_zero (Nat.ne_zero_of_lt enough)
    cases ps with
    | nil =>
      rw [writePairs, readPairs, readPair_writePair p (by decide)]
      rfl
    | cons q ps =>
      have rest := ih (List.cons_ne_nil q ps) (Nat.le_of_succ_le_succ enough)
      rw [writePairs, readPairs, readPair_writePair p (by decide)]
      simp only [bind, Option.bind, rest, pure]
      exact fun absent => nomatch absent

theorem length_le_writePairs (ps : List (List Char × Value)) :
    ps.length ≤ (writePairs ps).length := by
  induction ps with
  | nil => exact Nat.zero_le _
  | cons p ps ih =>
    cases ps with
    | nil => simp [writePairs]
    | cons q ps =>
      rw [writePairs]
      · simp only [List.length_append, List.length_cons] at ih ⊢
        omega
      · exact fun absent => nomatch absent

theorem readObject_writeObject (ps : List (List Char × Value)) :
    readObject (writeObject ps) = some ps := by
  cases ps with
  | nil => rfl
  | cons p ps =>
    have open_quote : ∃ rest, writePairs (p :: ps) = '"' :: rest := by
      cases ps <;> exact ⟨_, by simp [writePairs, writePair, writeText]; rfl⟩
    obtain ⟨rest, same⟩ := open_quote
    have read := readPairs_writePairs (List.cons_ne_nil p ps) (length_le_writePairs (p :: ps))
    rw [writeObject]
    rw [same] at read ⊢
    rw [readObject, read]
    exact fun closed => by cases (List.cons.inj closed).1

theorem decode_scalars (cs : List Char) :
    decode (cs.flatMap String.utf8EncodeChar) = cs.map .scalar := by
  induction cs with
  | nil => rfl
  | cons c cs ih => rw [List.flatMap_cons, decode_encodeChar, ih, List.map_cons]

theorem scalars_map (cs : List Char) : scalars (cs.map .scalar) = some cs := by
  induction cs with
  | nil => rfl
  | cons c cs ih => rw [List.map_cons, scalars, ih, Option.map_some]

theorem loads_dumps (ps : List (List Char × Value)) : loads (dumps ps) = some ps := by
  rw [loads, dumps, decode_scalars, scalars_map, Option.bind_some, readObject_writeObject]

theorem dumps_ne_nil (ps : List (List Char × Value)) : dumps ps ≠ [] := by
  have brace : String.utf8EncodeChar '{' = [123] := by decide
  simp [dumps, writeObject, brace]

/-! One line -/

theorem newline_not_mem_escape (c : Char) : '\n' ∉ escape c := by
  have digits : ∀ n ∈ List.range 16, Nat.digitChar n ≠ '\n' := by decide
  fun_cases escape c with
  | case8 _ _ _ _ _ _ _ control =>
    have high := digits (c.toNat / 16) (List.mem_range.mpr (by omega))
    have low := digits (c.toNat % 16) (List.mem_range.mpr (by omega))
    simp [high.symm, low.symm]
  | case9 _ _ newline => simpa using Ne.symm newline
  | _ => decide

theorem newline_not_mem_writeText (t : List Char) : '\n' ∉ writeText t := by
  simp [writeText, newline_not_mem_escape]

theorem newline_not_mem_toDigits (n : Nat) : '\n' ∉ Nat.toDigits 10 n := by
  intro mem
  cases Nat.isDigit_of_mem_toDigits (by decide) (by decide) mem

theorem newline_not_mem_writePair (p : List Char × Value) : '\n' ∉ writePair p := by
  have value : '\n' ∉ writeValue p.2 := by
    cases p.2 with
    | text t => exact newline_not_mem_writeText t
    | number n =>
      cases n with
      | ofNat n => exact newline_not_mem_toDigits n
      | negSucc n => simp [writeValue, writeNumber, newline_not_mem_toDigits]
  simp [writePair, newline_not_mem_writeText, value]

theorem newline_not_mem_writePairs (ps : List (List Char × Value)) : '\n' ∉ writePairs ps := by
  fun_induction writePairs ps with
  | case1 => decide
  | case2 p => simp [newline_not_mem_writePair]
  | case3 p ps _ ih => simp [newline_not_mem_writePair, ih]

theorem dumps_one_line (ps : List (List Char × Value)) : 10 ∉ dumps ps := by
  intro mem
  obtain ⟨c, written, byte⟩ := List.mem_flatMap.mp mem
  obtain rfl : c = '\n' := ascii_mem_encodeChar (by decide) byte
  simp [writeObject, newline_not_mem_writePairs] at written

end FlatJson
