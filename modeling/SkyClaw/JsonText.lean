import Mathlib.Data.List.Lex
import Mathlib.Data.List.Nodup
import SkyClaw.FlatJson
import SkyClaw.SortedEntries

set_option linter.all false

/-!
JSON documents as Python's `json` writes and reads them. An object is kept in the
order of its keys, which is how `sort_keys` writes it; between the tokens stands
whatever space the `Layout` puts. What is written is read back.
-/
namespace JsonText
open Utf8Text FlatJson SortedEntries

/-- A text of Python. -/
abbrev Text := List CodePoint

def toCodePoints (cs : List Char) : Text := cs.map .scalar

/-- The text of a literal. -/
def lit (s : String) : Text := toCodePoints s.toList

theorem toCodePoints_inj {cs ds : List Char} : toCodePoints cs = toCodePoints ds ↔ cs = ds :=
  List.map_inj_right fun _ _ same => CodePoint.scalar.inj same

@[simp] theorem lit_inj {s t : String} : lit s = lit t ↔ s = t := by
  rw [lit, lit, toCodePoints_inj, String.toList_inj]

/-! The order of texts -/

def position : CodePoint → Nat
  | .scalar c => c.toNat
  | .surrogate n => 0xD800 + n.val

theorem position_injective : Function.Injective position := by
  intro p q same
  cases p with
  | scalar c =>
    cases q with
    | scalar d => exact congrArg _ (Char.toNat_inj.mp same)
    | surrogate n =>
      have valid := c.valid
      simp only [position, Char.toNat, UInt32.isValidChar, Nat.isValidChar] at same valid
      omega
  | surrogate n =>
    cases q with
    | scalar d =>
      have valid := d.valid
      simp only [position, Char.toNat, UInt32.isValidChar, Nat.isValidChar] at same valid
      omega
    | surrogate m =>
      simp only [position] at same
      congr 1
      omega

instance : LinearOrder CodePoint := LinearOrder.lift' position position_injective

inductive Json where
  | null
  | bool (b : Bool)
  | int (n : Int)
  | real (literal : List Char)
  | str (t : Text)
  | arr (items : List Json)
  | obj (members : List (Text × Json))

/-- A dictionary with these entries. -/
def dict (entries : List (Text × Json)) : Json := .obj (ofList entries)

theorem sizeOf_value {p : Text × Json} {members : List (Text × Json)} (mem : p ∈ members) :
    sizeOf p.2 < sizeOf members := by
  have inside := List.sizeOf_lt_of_mem mem
  have value : sizeOf p.2 < sizeOf p := by
    obtain ⟨k, v⟩ := p
    simp only [Prod.mk.sizeOf_spec]
    omega
  omega

@[elab_as_elim, induction_eliminator]
theorem Json.induction {motive : Json → Prop} (null : motive .null) (bool : ∀ b, motive (.bool b))
    (int : ∀ n, motive (.int n)) (real : ∀ literal, motive (.real literal))
    (str : ∀ t, motive (.str t))
    (arr : ∀ items, (∀ v ∈ items, motive v) → motive (.arr items))
    (obj : ∀ members, (∀ p ∈ members, motive p.2) → motive (.obj members)) : ∀ v, motive v
  | .null => null
  | .bool b => bool b
  | .int n => int n
  | .real literal => real literal
  | .str t => str t
  | .arr items => arr items fun v _ => Json.induction null bool int real str arr obj v
  | .obj members => obj members fun p _ => Json.induction null bool int real str arr obj p.2
termination_by v => sizeOf v
decreasing_by
  · have inside := List.sizeOf_lt_of_mem ‹_ ∈ items›
    simp only [Json.arr.sizeOf_spec]
    omega
  · have inside := sizeOf_value ‹_ ∈ members›
    simp only [Json.obj.sizeOf_spec]
    omega

/-! What can be written -/

/-- The most digits that an integer is converted with. -/
def maxDigits : Nat := 4300

def isScalar : CodePoint → Bool
  | .scalar _ => true
  | .surrogate _ => false

mutual
/-- No text has a surrogate and no integer is too long. -/
def writable : Json → Bool
  | .null => true
  | .bool _ => true
  | .int n => (Nat.toDigits 10 n.natAbs).length ≤ maxDigits
  | .real _ => false
  | .str t => t.all isScalar
  | .arr items => writableItems items
  | .obj members => writableMembers members

def writableItems : List Json → Bool
  | [] => true
  | v :: items => writable v && writableItems items

def writableMembers : List (Text × Json) → Bool
  | [] => true
  | (k, v) :: members => k.all isScalar && writable v && writableMembers members
end

mutual
/-- As `writable`, with the floats whose text `real` admits. -/
def writableWith (real : List Char → Bool) : Json → Bool
  | .null => true
  | .bool _ => true
  | .int n => (Nat.toDigits 10 n.natAbs).length ≤ maxDigits
  | .real literal => real literal
  | .str t => t.all isScalar
  | .arr items => writableItemsWith real items
  | .obj members => writableMembersWith real members

def writableItemsWith (real : List Char → Bool) : List Json → Bool
  | [] => true
  | v :: items => writableWith real v && writableItemsWith real items

def writableMembersWith (real : List Char → Bool) : List (Text × Json) → Bool
  | [] => true
  | (k, v) :: members => k.all isScalar && writableWith real v && writableMembersWith real members
end

theorem writableItemsWith_iff {real : List Char → Bool} {items : List Json} :
    writableItemsWith real items = true ↔ ∀ v ∈ items, writableWith real v = true := by
  induction items with
  | nil => simp [writableItemsWith]
  | cons v items ih => simp [writableItemsWith, ih]

theorem writableMembersWith_iff {real : List Char → Bool} {members : List (Text × Json)} :
    writableMembersWith real members = true ↔
      ∀ p ∈ members, p.1.all isScalar = true ∧ writableWith real p.2 = true := by
  induction members with
  | nil => simp [writableMembersWith]
  | cons p members ih => simp [writableMembersWith, ih]

theorem writableItems_iff {items : List Json} :
    writableItems items = true ↔ ∀ v ∈ items, writable v = true := by
  induction items with
  | nil => simp [writableItems]
  | cons v items ih => simp [writableItems, ih]

theorem writableMembers_iff {members : List (Text × Json)} :
    writableMembers members = true ↔
      ∀ p ∈ members, p.1.all isScalar = true ∧ writable p.2 = true := by
  induction members with
  | nil => simp [writableMembers]
  | cons p members ih => simp [writableMembers, ih]

theorem writableWith_of_writable {real : List Char → Bool} (v : Json) :
    writable v = true → writableWith real v = true := by
  induction v with
  | null => intro; rfl
  | bool b => intro; rfl
  | int n => intro ok; exact ok
  | real literal => intro ok; simp [writable] at ok
  | str t => intro ok; exact ok
  | arr items ih =>
    intro ok
    have each := writableItems_iff.mp ok
    exact writableItemsWith_iff.mpr fun w mem => ih w mem (each w mem)
  | obj members ih =>
    intro ok
    have each := writableMembers_iff.mp ok
    exact writableMembersWith_iff.mpr fun q mem => ⟨(each q mem).1, ih q mem (each q mem).2⟩

mutual
/-- The members of every object are in order. -/
def Ordered : Json → Prop
  | .arr items => OrderedItems items
  | .obj members => Ascending members ∧ OrderedMembers members
  | _ => True

def OrderedItems : List Json → Prop
  | [] => True
  | v :: items => Ordered v ∧ OrderedItems items

def OrderedMembers : List (Text × Json) → Prop
  | [] => True
  | (_, v) :: members => Ordered v ∧ OrderedMembers members
end

theorem orderedItems_iff {items : List Json} : OrderedItems items ↔ ∀ v ∈ items, Ordered v := by
  induction items with
  | nil => simp [OrderedItems]
  | cons v items ih => simp [OrderedItems, ih]

theorem orderedMembers_iff {members : List (Text × Json)} :
    OrderedMembers members ↔ ∀ p ∈ members, Ordered p.2 := by
  induction members with
  | nil => simp [OrderedMembers]
  | cons p members ih => simp [OrderedMembers, ih]

theorem ordered_arr {items : List Json} : Ordered (.arr items) ↔ ∀ v ∈ items, Ordered v := by
  rw [Ordered, orderedItems_iff]

theorem ordered_obj {members : List (Text × Json)} :
    Ordered (.obj members) ↔ Ascending members ∧ ∀ p ∈ members, Ordered p.2 := by
  rw [Ordered, orderedMembers_iff]

theorem ordered_dict {entries : List (Text × Json)} (values : ∀ p ∈ entries, Ordered p.2) :
    Ordered (dict entries) :=
  ordered_obj.mpr ⟨ascending_ofList entries, fun p mem => values p (mem_ofList mem)⟩

/-! Writing -/

/-- The spaces of a document: after a colon, and where an item or the end of a list
begins at some depth. -/
structure Layout where
  colon : List Char
  line : Nat → List Char
  colon_blank : ∀ c ∈ colon, c ∈ [' ', '\t', '\n', '\r']
  line_blank : ∀ depth, ∀ c ∈ line depth, c ∈ [' ', '\t', '\n', '\r']

/-- `separators=(",", ":")` -/
def compact : Layout := ⟨[], fun _ => [], by simp, by simp⟩

/-- `indent=n` -/
def indented (n : Nat) : Layout where
  colon := [' ']
  line depth := '\n' :: List.replicate (n * depth) ' '
  colon_blank := by simp
  line_blank depth c mem := by
    rcases List.mem_cons.mp mem with rfl | mem
    · simp
    · simp [List.eq_of_mem_replicate mem]

def chars (t : Text) : List Char := t.filterMap fun
  | .scalar c => some c
  | .surrogate _ => none

mutual
def write (l : Layout) (depth : Nat) : Json → List Char
  | .null => ['n', 'u', 'l', 'l']
  | .bool true => ['t', 'r', 'u', 'e']
  | .bool false => ['f', 'a', 'l', 's', 'e']
  | .int n => writeNumber n
  | .real literal => literal
  | .str t => writeText (chars t)
  | .arr [] => ['[', ']']
  | .arr (v :: items) => '[' :: (l.line (depth + 1) ++ write l (depth + 1) v ++
      writeItems l (depth + 1) items ++ l.line depth ++ [']'])
  | .obj [] => ['{', '}']
  | .obj ((k, v) :: members) => '{' :: (l.line (depth + 1) ++ writeText (chars k) ++ ':' :: l.colon ++
      write l (depth + 1) v ++ writeMembers l (depth + 1) members ++ l.line depth ++ ['}'])

def writeItems (l : Layout) (depth : Nat) : List Json → List Char
  | [] => []
  | v :: items => ',' :: (l.line depth ++ write l depth v ++ writeItems l depth items)

def writeMembers (l : Layout) (depth : Nat) : List (Text × Json) → List Char
  | [] => []
  | (k, v) :: members => ',' :: (l.line depth ++ writeText (chars k) ++ ':' :: l.colon ++
      write l depth v ++ writeMembers l depth members)
end

/-- `json.dumps(v, ensure_ascii=False, sort_keys=True).encode("utf-8")` -/
def dumps (l : Layout) (v : Json) : Option (List UInt8) :=
  if writable v then some ((write l 0 v).flatMap String.utf8EncodeChar) else none

/-- As `dumps`, with the floats whose text `real` admits. -/
def dumpsWith (real : List Char → Bool) (l : Layout) (v : Json) : Option (List UInt8) :=
  if writableWith real v then some ((write l 0 v).flatMap String.utf8EncodeChar) else none

/-! Reading -/

def blank (c : Char) : Bool := decide (c ∈ [' ', '\t', '\n', '\r'])

def skip (cs : List Char) : List Char := cs.dropWhile blank

def hexDigit (c : Char) : Option Nat := (List.range 16).find? fun n => n.digitChar = c.toLower

def hex4 : List Char → Option (Nat × List Char)
  | a :: b :: c :: d :: rest => do
    let n := (← hexDigit a) * 4096 + (← hexDigit b) * 256 + (← hexDigit c) * 16 + (← hexDigit d)
    return (n, rest)
  | _ => none

def point (n : Nat) : CodePoint :=
  if h : 0xD800 ≤ n ∧ n < 0xE000 then .surrogate ⟨n - 0xD800, by omega⟩ else .scalar (.ofNat n)

/-- What follows `\u`. A high surrogate takes the low one that is escaped next to it. -/
def unescapeUnicode (cs : List Char) : Option (CodePoint × List Char) := do
  let (n, rest) ← hex4 cs
  match rest with
  | '\\' :: 'u' :: after =>
    if 0xD800 ≤ n ∧ n < 0xDC00 then
      let (m, rest') ← hex4 after
      if 0xDC00 ≤ m ∧ m < 0xE000 then
        return (.scalar (.ofNat (0x10000 + (n - 0xD800) * 1024 + (m - 0xDC00))), rest')
      else return (point n, rest)
    else return (point n, rest)
  | _ => return (point n, rest)

/-- What a backslash and the characters after it stand for. -/
def unescapePoint : List Char → Option (CodePoint × List Char)
  | 'u' :: rest => unescapeUnicode rest
  | '"' :: rest => some (.scalar '"', rest)
  | '\\' :: rest => some (.scalar '\\', rest)
  | '/' :: rest => some (.scalar '/', rest)
  | 'n' :: rest => some (.scalar '\n', rest)
  | 'r' :: rest => some (.scalar '\r', rest)
  | 't' :: rest => some (.scalar '\t', rest)
  | 'b' :: rest => some (.scalar '\x08', rest)
  | 'f' :: rest => some (.scalar '\x0c', rest)
  | _ => none

/-- The text up to the closing quote, with at most `fuel` characters. -/
def readString : Nat → List Char → Option (Text × List Char)
  | 0, _ => none
  | _, [] => none
  | fuel + 1, c :: rest =>
    if c = '"' then some ([], rest)
    else if c = '\\' then
      (unescapePoint rest).bind fun found =>
        (readString fuel found.2).map fun tail => (found.1 :: tail.1, tail.2)
    else if c.toNat < 32 then none
    else (readString fuel rest).map fun found => (.scalar c :: found.1, found.2)

def readWhole : List Char → Option (List Char × List Char)
  | '0' :: rest => some (['0'], rest)
  | cs =>
    if cs.takeWhile Char.isDigit = [] then none
    else some (cs.takeWhile Char.isDigit, cs.dropWhile Char.isDigit)

def readFraction : List Char → List Char × List Char
  | '.' :: rest =>
    if rest.takeWhile Char.isDigit = [] then ([], '.' :: rest)
    else ('.' :: rest.takeWhile Char.isDigit, rest.dropWhile Char.isDigit)
  | rest => ([], rest)

def readSign : List Char → List Char × List Char
  | '+' :: rest => (['+'], rest)
  | '-' :: rest => (['-'], rest)
  | rest => ([], rest)

def readExponent : List Char → List Char × List Char
  | c :: rest =>
    if c = 'e' ∨ c = 'E' then
      let (sign, after) := readSign rest
      if after.takeWhile Char.isDigit = [] then ([], c :: rest)
      else (c :: sign ++ after.takeWhile Char.isDigit, after.dropWhile Char.isDigit)
    else ([], c :: rest)
  | [] => ([], [])

def numberValue (sign whole fraction exponent : List Char) : Option Json :=
  if fraction = [] ∧ exponent = [] then
    if maxDigits < whole.length then none
    else if sign = [] then some (.int (Nat.ofDigitChars 10 whole 0))
    else some (.int (-(Nat.ofDigitChars 10 whole 0 : Int)))
  else some (.real (sign ++ whole ++ fraction ++ exponent))

def readNumeral (cs : List Char) : Option (Json × List Char) :=
  let (sign, unsigned) := match cs with
    | '-' :: rest => (['-'], rest)
    | _ => ([], cs)
  (readWhole unsigned).bind fun whole =>
    let fraction := readFraction whole.2
    let exponent := readExponent fraction.2
    (numberValue sign whole.1 fraction.1 exponent.1).map fun v => (v, exponent.2)

def infinity : List Char := ['I', 'n', 'f', 'i', 'n', 'i', 't', 'y']

/-- The words of JSON and the numbers that Python has words for. -/
def words : List (List Char × Json) :=
  [(['n', 'u', 'l', 'l'], .null), (['t', 'r', 'u', 'e'], .bool true),
    (['f', 'a', 'l', 's', 'e'], .bool false), (['N', 'a', 'N'], .real ['N', 'a', 'N']),
    (infinity, .real infinity), ('-' :: infinity, .real ('-' :: infinity))]

def readWord (cs : List Char) : Option (Json × List Char) :=
  words.findSome? fun w => if w.1.isPrefixOf cs then some (w.2, cs.drop w.1.length) else none

/-- Items after each other, a comma between two of them and `close` after the last. -/
def readSeq {α : Type} (item : List Char → Option (α × List Char)) (close : Char) :
    Nat → List Char → Option (List α × List Char)
  | 0, _ => none
  | fuel + 1, cs => (item cs).bind fun first =>
    match skip first.2 with
    | [] => none
    | c :: rest =>
      if c = close then some ([first.1], rest)
      else if c = ',' then
        (readSeq item close fuel (skip rest)).map fun found => (first.1 :: found.1, found.2)
      else none

def readMember (value : List Char → Option (Json × List Char)) :
    List Char → Option ((Text × Json) × List Char)
  | '"' :: cs => (readString cs.length cs).bind fun key =>
    match skip key.2 with
    | ':' :: rest => (value (skip rest)).map fun found => ((key.1, found.1), found.2)
    | _ => none
  | _ => none

/-- At most `fuel` objects and lists inside each other. `hook` makes the object of the
members in the order in which they stand. -/
def readValue (hook : List (Text × Json) → Option Json) :
    Nat → List Char → Option (Json × List Char)
  | 0, _ => none
  | fuel + 1, cs =>
    match cs with
    | '"' :: rest => (readString rest.length rest).map fun found => (.str found.1, found.2)
    | '{' :: rest =>
      match skip rest with
      | '}' :: after => (hook []).map fun v => (v, after)
      | inside => (readSeq (readMember (readValue hook fuel)) '}' inside.length inside).bind
          fun found => (hook found.1).map fun v => (v, found.2)
    | '[' :: rest =>
      match skip rest with
      | ']' :: after => some (.arr [], after)
      | inside => (readSeq (readValue hook fuel) ']' inside.length inside).map
          fun found => (.arr found.1, found.2)
    | _ => (readWord cs).or (readNumeral cs)

def readDocument (hook : List (Text × Json) → Option Json) (cs : List Char) : Option Json :=
  (readValue hook cs.length (skip cs)).bind fun found =>
    if skip found.2 = [] then some found.1 else none

/-- `json.loads(raw.decode("utf-8"), object_pairs_hook=hook)` -/
def loadsWith (hook : List (Text × Json) → Option Json) (raw : List UInt8) : Option Json :=
  (scalars (decode raw)).bind (readDocument hook)

/-- `json.loads(raw.decode("utf-8"))` -/
def loads (raw : List UInt8) : Option Json := loadsWith (fun members => some (dict members)) raw

/-- A hook that admits no key twice. -/
def distinctKeys (members : List (Text × Json)) : Option Json :=
  if (members.map (·.1)).Nodup then some (dict members) else none

/-! Texts read back -/

theorem hexDigit_digitChar {n : Nat} (digit : n < 16) : hexDigit n.digitChar = some n := by
  have all : ∀ n ∈ List.range 16, hexDigit n.digitChar = some n := by decide
  exact all n (List.mem_range.mpr digit)

theorem point_toNat (c : Char) : point c.toNat = .scalar c := by
  have valid := c.valid
  have outside : ¬(0xD800 ≤ c.toNat ∧ c.toNat < 0xE000) := by
    simp only [Char.toNat, UInt32.isValidChar, Nat.isValidChar] at valid ⊢
    omega
  rw [point, dif_neg outside, Char.ofNat_toNat]

theorem unescapeUnicode_control {c : Char} (control : c.toNat < 32) (rest : List Char) :
    unescapeUnicode ('0' :: '0' :: Nat.digitChar (c.toNat / 16) ::
      Nat.digitChar (c.toNat % 16) :: rest) = some (.scalar c, rest) := by
  have zero : hexDigit '0' = some 0 := rfl
  have high := hexDigit_digitChar (n := c.toNat / 16) (by omega)
  have low := hexDigit_digitChar (n := c.toNat % 16) (by omega)
  have digits : c.toNat / 16 * 16 + c.toNat % 16 = c.toNat := Nat.div_add_mod' _ _
  have read : hex4 ('0' :: '0' :: Nat.digitChar (c.toNat / 16) :: Nat.digitChar (c.toNat % 16) ::
      rest) = some (c.toNat, rest) := by
    simp only [hex4, zero, high, low, bind, Option.bind, pure, Nat.zero_mul, Nat.zero_add, digits]
  have single : ¬(0xD800 ≤ c.toNat ∧ c.toNat < 0xDC00) := by omega
  rw [unescapeUnicode, read]
  simp only [bind, Option.bind, pure, point_toNat, if_neg single]
  split <;> rfl

theorem readString_backslash {cs rest : List Char} {c : Char}
    (read : unescapePoint cs = some (.scalar c, rest)) (fuel : Nat) :
    readString (fuel + 1) ('\\' :: cs) =
      (readString fuel rest).map fun found => (.scalar c :: found.1, found.2) := by
  rw [readString, if_neg (by decide), if_pos rfl, read]
  rfl

theorem readString_escape (c : Char) (fuel : Nat) (rest : List Char) :
    readString (fuel + 1) (escape c ++ rest) =
      (readString fuel rest).map fun found => (.scalar c :: found.1, found.2) := by
  fun_cases escape c with
  | case1 same => exact readString_backslash (by subst same; rfl) fuel
  | case2 _ same => exact readString_backslash (by subst same; rfl) fuel
  | case3 _ _ same => exact readString_backslash (by subst same; rfl) fuel
  | case4 _ _ _ same => exact readString_backslash (by subst same; rfl) fuel
  | case5 _ _ _ _ same => exact readString_backslash (by subst same; rfl) fuel
  | case6 _ _ _ _ _ same => exact readString_backslash (by subst same; rfl) fuel
  | case7 _ _ _ _ _ _ same => exact readString_backslash (by subst same; rfl) fuel
  | case8 _ _ _ _ _ _ _ control =>
    have read : unescapePoint ('u' :: '0' :: '0' :: Nat.digitChar (c.toNat / 16) ::
        Nat.digitChar (c.toNat % 16) :: rest) = some (.scalar c, rest) :=
      unescapeUnicode_control control rest
    exact readString_backslash read fuel
  | case9 not_quote not_backslash _ _ _ _ _ printed =>
    rw [List.singleton_append, readString, if_neg not_quote, if_neg not_backslash, if_neg printed]

theorem readString_flatMap_escape {cs rest : List Char} {fuel : Nat} (enough : cs.length < fuel) :
    readString fuel (cs.flatMap escape ++ '"' :: rest) = some (toCodePoints cs, rest) := by
  induction cs generalizing fuel with
  | nil =>
    obtain ⟨fuel, rfl⟩ := Nat.exists_eq_add_one_of_ne_zero (Nat.ne_of_gt enough)
    rfl
  | cons c cs ih =>
    obtain ⟨fuel, rfl⟩ := Nat.exists_eq_add_one_of_ne_zero (Nat.ne_zero_of_lt enough)
    rw [List.flatMap_cons, List.append_assoc, readString_escape, ih (by simpa using enough)]
    rfl

theorem toCodePoints_chars {t : Text} (scalar : t.all isScalar = true) :
    toCodePoints (chars t) = t := by
  induction t with
  | nil => rfl
  | cons p t ih =>
    rw [List.all_cons, Bool.and_eq_true] at scalar
    cases p with
    | scalar c => exact congrArg (CodePoint.scalar c :: ·) (ih scalar.2)
    | surrogate n => cases scalar.1

/-- After the opening quote, whatever follows the text. -/
theorem readString_text {t : Text} (scalar : t.all isScalar = true) (rest : List Char) :
    readString ((chars t).flatMap escape ++ '"' :: rest).length
      ((chars t).flatMap escape ++ '"' :: rest) = some (t, rest) := by
  have longer := length_le_escape (chars t)
  rw [readString_flatMap_escape, toCodePoints_chars scalar]
  simp only [List.length_append, List.length_cons]
  omega

/-! Spaces and numbers read back -/

theorem skip_append {spaces cs : List Char} (all : ∀ c ∈ spaces, c ∈ [' ', '\t', '\n', '\r'])
    (solid : ∀ c ∈ cs.head?, blank c = false) : skip (spaces ++ cs) = cs := by
  have blanks : ∀ c ∈ spaces, blank c = true := fun c mem => decide_eq_true (all c mem)
  rw [skip, List.dropWhile_append_of_pos blanks]
  cases cs with
  | nil => rfl
  | cons c cs => rw [List.dropWhile_cons_of_neg (by simp [solid c rfl])]

/-- What follows a number does not belong to it. -/
def Stops (rest : List Char) : Prop :=
  ∀ c ∈ rest.head?, c.isDigit = false ∧ c ≠ '.' ∧ c ≠ 'e' ∧ c ≠ 'E'

theorem stops_nil : Stops [] := nofun

theorem stops_cons {c : Char} {rest : List Char}
    (other : c.isDigit = false ∧ c ≠ '.' ∧ c ≠ 'e' ∧ c ≠ 'E') : Stops (c :: rest) := by
  intro d head
  cases head
  exact other

theorem readFraction_stops {rest : List Char} (stops : Stops rest) :
    readFraction rest = ([], rest) := by
  cases rest with
  | nil => rfl
  | cons c rest =>
    have other := (stops c rfl).2.1
    rw [readFraction]
    exact fun _ same => other (List.cons.inj same).1

theorem readExponent_stops {rest : List Char} (stops : Stops rest) :
    readExponent rest = ([], rest) := by
  cases rest with
  | nil => rfl
  | cons c rest =>
    obtain ⟨-, -, lower, upper⟩ := stops c rfl
    rw [readExponent, if_neg (by simp [lower, upper])]

theorem toDigits_head {n : Nat} (positive : 0 < n) : (Nat.toDigits 10 n).head? ≠ some '0' := by
  induction n using Nat.strongRecOn with
  | ind n ih =>
    rw [Nat.toDigits_eq_if (by decide)]
    split
    · next small =>
      have digit : ∀ m ∈ List.range 10, 0 < m → Nat.digitChar m ≠ '0' := by decide
      simpa using digit n (List.mem_range.mpr small) positive
    · next large =>
      have shorter := ih (n / 10) (by omega) (by omega)
      rwa [List.head?_append_of_ne_nil _ Nat.toDigits_ne_nil]

theorem readWhole_toDigits (n : Nat) {rest : List Char} (stops : Stops rest) :
    readWhole (Nat.toDigits 10 n ++ rest) = some (Nat.toDigits 10 n, rest) := by
  have digits : ∀ c ∈ Nat.toDigits 10 n, c.isDigit = true :=
    fun c mem => Nat.isDigit_of_mem_toDigits (by decide) (by decide) mem
  have stop : rest.takeWhile Char.isDigit = [] ∧ rest.dropWhile Char.isDigit = rest := by
    cases rest with
    | nil => exact ⟨rfl, rfl⟩
    | cons c rest =>
      have other := (stops c rfl).1
      simp [other]
  rcases Nat.eq_zero_or_pos n with rfl | positive
  · rw [Nat.toDigits_zero]
    rfl
  · have head := toDigits_head positive
    have taken : (Nat.toDigits 10 n ++ rest).takeWhile Char.isDigit = Nat.toDigits 10 n := by
      rw [List.takeWhile_append_of_pos digits, stop.1, List.append_nil]
    have dropped : (Nat.toDigits 10 n ++ rest).dropWhile Char.isDigit = rest := by
      rw [List.dropWhile_append_of_pos digits, stop.2]
    rw [readWhole, taken, dropped, if_neg Nat.toDigits_ne_nil]
    intro tail same
    rw [← List.head?_append_of_ne_nil _ Nat.toDigits_ne_nil, same] at head
    exact head rfl

theorem readNumeral_writeNumber {n : Int} (short : (Nat.toDigits 10 n.natAbs).length ≤ maxDigits)
    {rest : List Char} (stops : Stops rest) :
    readNumeral (writeNumber n ++ rest) = some (.int n, rest) := by
  have signless : ∀ m : Nat, ∀ tail, Nat.toDigits 10 m ++ rest ≠ '-' :: tail := by
    intro m tail same
    obtain ⟨c, cs, first⟩ := List.exists_cons_of_ne_nil (Nat.toDigits_ne_nil (n := m) (b := 10))
    have digit : c.isDigit = true :=
      Nat.isDigit_of_mem_toDigits (n := m) (b := 10) (by decide) (by decide) (by simp [first])
    rw [first, List.cons_append] at same
    rw [(List.cons.inj same).1] at digit
    cases digit
  cases n with
  | ofNat n =>
    have whole : ¬maxDigits < (Nat.toDigits 10 n).length := Nat.not_lt.mpr short
    rw [writeNumber, readNumeral]
    · simp only [readWhole_toDigits n stops, Option.bind_some, readFraction_stops stops,
        readExponent_stops stops, numberValue, and_self, if_true, if_neg whole, Option.map_some,
        Nat.ofDigitChars_ten_toDigits, Int.ofNat_eq_natCast]
    · exact fun tail => signless n tail
  | negSucc n =>
    have whole : ¬maxDigits < (Nat.toDigits 10 (n + 1)).length := Nat.not_lt.mpr short
    rw [writeNumber, List.cons_append, readNumeral]
    simp only [readWhole_toDigits (n + 1) stops, Option.bind_some, readFraction_stops stops,
      readExponent_stops stops, numberValue, and_self, if_true, if_neg whole, Option.map_some,
      Nat.ofDigitChars_ten_toDigits, reduceCtorEq, if_false]
    rfl

theorem readWord_null (rest : List Char) : readWord (['n', 'u', 'l', 'l'] ++ rest) = some (.null, rest) :=
  rfl

theorem readWord_bool (b : Bool) (l : Layout) (depth : Nat) (rest : List Char) :
    readWord (write l depth (.bool b) ++ rest) = some (.bool b, rest) := by
  cases b with
  | true =>
    rw [write]
    rfl
  | false =>
    rw [write]
    rfl

theorem readWord_of_head {c : Char} (rest : List Char)
    (other : c ≠ 'n' ∧ c ≠ 't' ∧ c ≠ 'f' ∧ c ≠ 'N' ∧ c ≠ 'I' ∧ c ≠ '-') :
    readWord (c :: rest) = none := by
  obtain ⟨n, t, f, bigN, bigI, minus⟩ := other
  simp [readWord, words, infinity, n.symm, t.symm, f.symm, bigN.symm, bigI.symm, minus.symm]

theorem readWord_minus {c : Char} (rest : List Char) (other : c ≠ 'I') :
    readWord ('-' :: c :: rest) = none := by
  simp [readWord, words, infinity, other.symm]

theorem toDigits_cons (n : Nat) :
    ∃ c cs, Nat.toDigits 10 n = c :: cs ∧ c.isDigit = true := by
  obtain ⟨c, cs, same⟩ := List.exists_cons_of_ne_nil (Nat.toDigits_ne_nil (n := n) (b := 10))
  exact ⟨c, cs, same, Nat.isDigit_of_mem_toDigits (n := n) (b := 10) (by decide) (by decide)
    (by simp [same])⟩

theorem isDigit_ne {c d : Char} (digit : c.isDigit = true) (other : d.isDigit = false) : c ≠ d := by
  rintro rfl
  rw [digit] at other
  cases other

theorem readWord_writeNumber (n : Int) (rest : List Char) :
    readWord (writeNumber n ++ rest) = none := by
  cases n with
  | ofNat n =>
    obtain ⟨c, cs, same, digit⟩ := toDigits_cons n
    rw [writeNumber, same, List.cons_append]
    apply readWord_of_head
    exact ⟨isDigit_ne digit (by decide), isDigit_ne digit (by decide), isDigit_ne digit (by decide),
      isDigit_ne digit (by decide), isDigit_ne digit (by decide), isDigit_ne digit (by decide)⟩
  | negSucc n =>
    obtain ⟨c, cs, same, digit⟩ := toDigits_cons (n + 1)
    rw [writeNumber, same, List.cons_append, List.cons_append]
    exact readWord_minus _ (isDigit_ne digit (by decide))

/-! Lists and objects read back -/

section
variable {α : Type} {item : List Char → Option (α × List Char)} {text : α → List Char}
  {spaces ending : List Char} {close : Char}

/-- The items after the first, each after a comma and the spaces. -/
def more (text : α → List Char) (spaces : List Char) (items : List α) : List Char :=
  items.flatMap fun x => ',' :: (spaces ++ text x)

theorem readSeq_more (all : ∀ c ∈ spaces, c ∈ [' ', '\t', '\n', '\r'])
    (last : ∀ c ∈ ending, c ∈ [' ', '\t', '\n', '\r'])
    (closing : close.isDigit = false ∧ close ≠ '.' ∧ close ≠ 'e' ∧ close ≠ 'E')
    (solid : blank close = false) (other : close ≠ ',')
    {x : α} {items : List α}
    (head : ∀ y ∈ items, ∀ c ∈ (text y).head?, blank c = false)
    (nonempty : ∀ y ∈ items, text y ≠ [])
    (each : ∀ y ∈ x :: items, ∀ rest, Stops rest → item (text y ++ rest) = some (y, rest))
    {fuel : Nat} (enough : items.length < fuel) (rest : List Char) :
    readSeq item close fuel (text x ++ (more text spaces items ++ (ending ++ close :: rest))) =
      some (x :: items, rest) := by
  have space_stops : ∀ c ∈ [' ', '\t', '\n', '\r'],
      c.isDigit = false ∧ c ≠ '.' ∧ c ≠ 'e' ∧ c ≠ 'E' := by
    simp only [List.forall_mem_cons]
    exact ⟨by decide, by decide, by decide, by decide, nofun⟩
  have end_stops : Stops (ending ++ close :: rest) := by
    cases ending with
    | nil => exact stops_cons closing
    | cons c ending => exact stops_cons (space_stops c (last c List.mem_cons_self))
  induction items generalizing x fuel with
  | nil =>
    obtain ⟨fuel, rfl⟩ := Nat.exists_eq_add_one_of_ne_zero (Nat.ne_of_gt enough)
    have skipped : skip (ending ++ close :: rest) = close :: rest :=
      skip_append last (by simpa using solid)
    rw [more, List.flatMap_nil, List.nil_append, readSeq,
      each x List.mem_cons_self _ end_stops, Option.bind_some]
    simp only [skipped, if_true]
  | cons y items ih =>
    obtain ⟨fuel, rfl⟩ := Nat.exists_eq_add_one_of_ne_zero (Nat.ne_zero_of_lt enough)
    have fewer : items.length < fuel := by simpa using enough
    have tail := ih (fun z mem => head z (List.mem_cons_of_mem _ mem))
      (fun z mem => nonempty z (List.mem_cons_of_mem _ mem))
      (fun z mem => each z (List.mem_cons_of_mem _ mem)) fewer
    have comma : skip (',' :: (spaces ++ (text y ++ (more text spaces items ++
        (ending ++ close :: rest))))) = ',' :: (spaces ++ (text y ++ (more text spaces items ++
        (ending ++ close :: rest)))) := List.dropWhile_cons_of_neg (by decide)
    have next : skip (spaces ++ (text y ++ (more text spaces items ++ (ending ++ close :: rest)))) =
        text y ++ (more text spaces items ++ (ending ++ close :: rest)) := by
      apply skip_append all
      intro c mem
      rw [List.head?_append_of_ne_nil _ (nonempty y List.mem_cons_self)] at mem
      exact head y List.mem_cons_self c mem
    have unfolded : more text spaces (y :: items) ++ (ending ++ close :: rest) =
        ',' :: (spaces ++ (text y ++ (more text spaces items ++ (ending ++ close :: rest)))) := by
      simp [more]
    rw [unfolded, readSeq, each x List.mem_cons_self _ (stops_cons (by decide)), Option.bind_some]
    simp only [comma, if_neg (Ne.symm other), if_true, next, tail, Option.map_some]

end

theorem writeItems_eq_more (l : Layout) (depth : Nat) (items : List Json) :
    writeItems l depth items = more (write l depth) (l.line depth) items := by
  induction items with
  | nil => rfl
  | cons v items ih => rw [writeItems, ih, more, more, List.flatMap_cons, List.cons_append,
      List.append_assoc]

def writeMember (l : Layout) (depth : Nat) (p : Text × Json) : List Char :=
  writeText (chars p.1) ++ ':' :: (l.colon ++ write l depth p.2)

theorem writeMembers_eq_more (l : Layout) (depth : Nat) (members : List (Text × Json)) :
    writeMembers l depth members = more (writeMember l depth) (l.line depth) members := by
  induction members with
  | nil => rfl
  | cons p members ih =>
    rw [writeMembers, ih, more, more, List.flatMap_cons, writeMember]
    simp

theorem write_arr_cons (l : Layout) (depth : Nat) (v : Json) (items : List Json)
    (rest : List Char) :
    write l depth (.arr (v :: items)) ++ rest =
      '[' :: (l.line (depth + 1) ++ (write l (depth + 1) v ++
        (more (write l (depth + 1)) (l.line (depth + 1)) items ++ (l.line depth ++ ']' :: rest)))) := by
  rw [write, writeItems_eq_more]
  simp

theorem write_obj_cons (l : Layout) (depth : Nat) (p : Text × Json) (members : List (Text × Json))
    (rest : List Char) :
    write l depth (.obj (p :: members)) ++ rest =
      '{' :: (l.line (depth + 1) ++ (writeMember l (depth + 1) p ++
        (more (writeMember l (depth + 1)) (l.line (depth + 1)) members ++
          (l.line depth ++ '}' :: rest)))) := by
  rw [write, writeMembers_eq_more, writeMember]
  simp

/-- The texts that stand for floats are read as such, whatever follows them. -/
structure Floats (real : List Char → Bool) : Prop where
  head : ∀ t, real t = true → ∃ c cs, t = c :: cs ∧ blank c = false ∧ c ∉ ['"', '{', '[', ']', '}']
  read : ∀ t, real t = true → ∀ rest, Stops rest →
    (readWord (t ++ rest)).or (readNumeral (t ++ rest)) = some (.real t, rest)

theorem floats_none : Floats fun _ => false := ⟨nofun, nofun⟩

variable {real : List Char → Bool}

theorem write_cons (floats : Floats real) (l : Layout) (depth : Nat) (v : Json) (ok : writableWith real v = true) :
    ∃ c cs, write l depth v = c :: cs ∧ blank c = false ∧ c ≠ ']' ∧ c ≠ '}' := by
  have digit_head : ∀ c : Char, c.isDigit = true → blank c = false ∧ c ≠ ']' ∧ c ≠ '}' := by
    intro c digit
    have spaces : ∀ d ∈ [' ', '\t', '\n', '\r', ']', '}'], d.isDigit = false := by
      simp only [List.forall_mem_cons]
      exact ⟨by decide, by decide, by decide, by decide, by decide, by decide, nofun⟩
    have other : c ∉ [' ', '\t', '\n', '\r', ']', '}'] := by
      intro mem
      rw [spaces c mem] at digit
      cases digit
    simp only [List.mem_cons, List.not_mem_nil, or_false, not_or] at other
    simp [blank, other]
  cases v with
  | null => exact ⟨'n', ['u', 'l', 'l'], by rw [write], by decide, by decide, by decide⟩
  | bool b =>
    cases b with
    | true => exact ⟨'t', ['r', 'u', 'e'], by rw [write], by decide, by decide, by decide⟩
    | false =>
      exact ⟨'f', ['a', 'l', 's', 'e'], by rw [write], by decide, by decide, by decide⟩
  | int n =>
    cases n with
    | ofNat n =>
      obtain ⟨c, cs, same, digit⟩ := toDigits_cons n
      exact ⟨c, cs, by rw [write, writeNumber, same], digit_head c digit⟩
    | negSucc n => exact ⟨'-', _, by rw [write, writeNumber], by decide, by decide, by decide⟩
  | real literal =>
    obtain ⟨c, cs, same, solid, other⟩ := floats.head literal ok
    simp only [List.mem_cons, List.not_mem_nil, or_false, not_or] at other
    exact ⟨c, cs, by rw [write, same], solid, other.2.2.2.1, other.2.2.2.2⟩
  | str t => exact ⟨'"', _, by rw [write, writeText], by decide, by decide, by decide⟩
  | arr items =>
    cases items with
    | nil => exact ⟨'[', _, by rw [write], by decide, by decide, by decide⟩
    | cons v items => exact ⟨'[', _, by rw [write], by decide, by decide, by decide⟩
  | obj members =>
    cases members with
    | nil => exact ⟨'{', _, by rw [write], by decide, by decide, by decide⟩
    | cons p members =>
      obtain ⟨k, v⟩ := p
      exact ⟨'{', _, by rw [write], by decide, by decide, by decide⟩

theorem skip_write (floats : Floats real) {spaces : List Char} (all : ∀ c ∈ spaces, c ∈ [' ', '\t', '\n', '\r'])
    (l : Layout) (depth : Nat) {v : Json} (ok : writableWith real v = true) (rest : List Char) :
    skip (spaces ++ (write l depth v ++ rest)) = write l depth v ++ rest := by
  obtain ⟨c, cs, same, solid, -⟩ := write_cons floats l depth v ok
  rw [same]
  exact skip_append all (by simpa using solid)

theorem readMember_write (floats : Floats real) {value : List Char → Option (Json × List Char)}
    {l : Layout} {depth : Nat}
    {p : Text × Json} (key : p.1.all isScalar = true) (ok : writableWith real p.2 = true) {rest : List Char}
    (read : value (write l depth p.2 ++ rest) = some (p.2, rest)) :
    readMember value (writeMember l depth p ++ rest) = some (p, rest) := by
  have colon : skip (':' :: (l.colon ++ (write l depth p.2 ++ rest))) =
      ':' :: (l.colon ++ (write l depth p.2 ++ rest)) := List.dropWhile_cons_of_neg (by decide)
  rw [writeMember, List.append_assoc, writeText_append, readMember, List.cons_append,
    List.append_assoc, readString_text key, Option.bind_some]
  simp only [colon, skip_write floats l.colon_blank l depth ok rest, read, Option.map_some]

theorem more_length {α : Type} (text : α → List Char) (spaces : List Char) (items : List α) :
    items.length ≤ (more text spaces items).length ∧
      ∀ x ∈ items, (text x).length ≤ (more text spaces items).length := by
  induction items with
  | nil => simp [more]
  | cons y items ih =>
    have length : (more text spaces (y :: items)).length =
        1 + spaces.length + (text y).length + (more text spaces items).length := by
      simp only [more, List.flatMap_cons, List.length_append, List.length_cons]
      omega
    rw [length, List.length_cons]
    refine ⟨by omega, fun x mem => ?_⟩
    rcases List.mem_cons.mp mem with rfl | mem
    · omega
    · have inside := ih.2 x mem
      omega

theorem write_length_member (l : Layout) (depth : Nat) (p : Text × Json) :
    (write l depth p.2).length ≤ (writeMember l depth p).length := by
  simp only [writeMember, List.length_append, List.length_cons]
  omega

variable {hook : List (Text × Json) → Option Json}

theorem readValue_literal (fuel : Nat) {c : Char} (cs : List Char)
    (other : c ≠ '"' ∧ c ≠ '{' ∧ c ≠ '[') :
    readValue hook (fuel + 1) (c :: cs) = (readWord (c :: cs)).or (readNumeral (c :: cs)) := by
  obtain ⟨quote, brace, bracket⟩ := other
  rw [readValue]
  · exact fun _ same => quote (List.cons.inj same).1
  · exact fun _ same => brace (List.cons.inj same).1
  · exact fun _ same => bracket (List.cons.inj same).1

theorem readValue_bracket (fuel : Nat) {cs tail : List Char} {c : Char}
    (skipped : skip cs = c :: tail) (other : c ≠ ']') :
    readValue hook (fuel + 1) ('[' :: cs) =
      (readSeq (readValue hook fuel) ']' (c :: tail).length (c :: tail)).map
        fun found => (.arr found.1, found.2) := by
  rw [readValue, skipped]
  split
  · next same => exact absurd (List.cons.inj same).1 other
  · rfl

theorem readValue_brace (fuel : Nat) {cs tail : List Char} {c : Char}
    (skipped : skip cs = c :: tail) (other : c ≠ '}') :
    readValue hook (fuel + 1) ('{' :: cs) =
      (readSeq (readMember (readValue hook fuel)) '}' (c :: tail).length (c :: tail)).bind
        fun found => (hook found.1).map fun v => (v, found.2) := by
  rw [readValue, skipped]
  split
  · next same => exact absurd (List.cons.inj same).1 other
  · rfl

theorem write_length_pos (floats : Floats real) (l : Layout) (depth : Nat) {v : Json} (ok : writableWith real v = true) :
    0 < (write l depth v).length := by
  obtain ⟨c, cs, same, -⟩ := write_cons floats l depth v ok
  simp [same]

theorem write_length_item {l : Layout} {depth : Nat} {v w : Json} {items : List Json}
    (mem : w ∈ v :: items) :
    (write l (depth + 1) w).length < (write l depth (.arr (v :: items))).length := by
  have whole := congrArg List.length (write_arr_cons l depth v items [])
  have inside := (more_length (write l (depth + 1)) (l.line (depth + 1)) items).2
  simp only [List.length_append, List.length_cons, List.length_nil, Nat.add_zero] at whole
  rcases List.mem_cons.mp mem with rfl | mem
  · omega
  · have item := inside w mem
    omega

theorem write_length_value {l : Layout} {depth : Nat} {p q : Text × Json}
    {members : List (Text × Json)} (mem : q ∈ p :: members) :
    (write l (depth + 1) q.2).length < (write l depth (.obj (p :: members))).length := by
  have whole := congrArg List.length (write_obj_cons l depth p members [])
  have inside := (more_length (writeMember l (depth + 1)) (l.line (depth + 1)) members).2
  have value := write_length_member l (depth + 1) q
  simp only [List.length_append, List.length_cons, List.length_nil, Nat.add_zero] at whole
  rcases List.mem_cons.mp mem with rfl | mem
  · omega
  · have member := inside q mem
    omega

theorem writeNumber_literal (n : Int) :
    ∃ c cs, writeNumber n = c :: cs ∧ c ≠ '"' ∧ c ≠ '{' ∧ c ≠ '[' := by
  cases n with
  | ofNat n =>
    obtain ⟨c, cs, same, digit⟩ := toDigits_cons n
    exact ⟨c, cs, by rw [writeNumber, same], isDigit_ne digit (by decide),
      isDigit_ne digit (by decide), isDigit_ne digit (by decide)⟩
  | negSucc n => exact ⟨'-', _, by rw [writeNumber], by decide, by decide, by decide⟩

/-- A value is read back from its text, whatever follows it. -/
theorem readValue_write (floats : Floats real)
    (keeps : ∀ members, Ascending members → hook members = some (.obj members)) (l : Layout)
    (v : Json) : Ordered v → writableWith real v = true → ∀ (depth fuel : Nat)
    (rest : List Char), (write l depth v).length ≤ fuel + 1 → Stops rest →
      readValue hook (fuel + 1) (write l depth v ++ rest) = some (v, rest) := by
  induction v with
  | null =>
    intro _ _ depth fuel rest _ _
    rw [write, List.cons_append, readValue_literal fuel _ (by decide), ← List.cons_append,
      readWord_null, Option.some_or]
  | bool b =>
    intro _ _ depth fuel rest _ _
    have word := readWord_bool b l depth rest
    cases b with
    | true =>
      rw [write] at word ⊢
      rw [List.cons_append] at word ⊢
      rw [readValue_literal fuel _ (by decide), word, Option.some_or]
    | false =>
      rw [write] at word ⊢
      rw [List.cons_append] at word ⊢
      rw [readValue_literal fuel _ (by decide), word, Option.some_or]
  | int n =>
    intro _ ok depth fuel rest _ stops
    have numeral := readNumeral_writeNumber (of_decide_eq_true ok) stops
    have word := readWord_writeNumber n rest
    obtain ⟨c, cs, same, other⟩ := writeNumber_literal n
    rw [write]
    rw [same, List.cons_append] at numeral word ⊢
    rw [readValue_literal fuel _ other, word, numeral, Option.none_or]
  | real literal =>
    intro _ ok depth fuel rest _ stops
    obtain ⟨c, cs, same, _, other⟩ := floats.head literal ok
    simp only [List.mem_cons, List.not_mem_nil, or_false, not_or] at other
    have read := floats.read literal ok rest stops
    rw [write]
    rw [same, List.cons_append] at read ⊢
    rw [readValue_literal fuel _ ⟨other.1, other.2.1, other.2.2.1⟩, read]
  | str t =>
    intro _ ok depth fuel rest _ _
    rw [write, writeText_append, readValue, readString_text ok, Option.map_some]
  | arr items ih =>
    intro ordered ok depth fuel rest enough stops
    cases items with
    | nil =>
      rw [write, List.cons_append, readValue]
      rfl
    | cons v items =>
      have oks := writableItemsWith_iff.mp ok
      have each : ∀ w ∈ v :: items, ∀ rest, Stops rest →
          readValue hook fuel (write l (depth + 1) w ++ rest) = some (w, rest) := by
        intro w mem rest stops
        have shorter := @write_length_item l depth v w items mem
        have positive := write_length_pos floats l (depth + 1) (oks w mem)
        obtain ⟨fuel, rfl⟩ := Nat.exists_eq_add_one_of_ne_zero (show fuel ≠ 0 by omega)
        exact ih w mem (ordered_arr.mp ordered w mem) (oks w mem) (depth + 1) fuel rest (by omega)
          stops
      obtain ⟨c, cs, head, solid, bracket, -⟩ :=
        write_cons floats l (depth + 1) v (oks v List.mem_cons_self)
      have heads : ∀ w ∈ items, ∀ d ∈ (write l (depth + 1) w).head?, blank d = false := by
        intro w mem d first
        obtain ⟨e, es, same, solid, -⟩ :=
          write_cons floats l (depth + 1) w (oks w (List.mem_cons_of_mem _ mem))
        rw [same] at first
        cases first
        exact solid
      have nonempty : ∀ w ∈ items, write l (depth + 1) w ≠ [] := by
        intro w mem
        exact List.ne_nil_of_length_pos
          (write_length_pos floats l (depth + 1) (oks w (List.mem_cons_of_mem _ mem)))
      have fewer := (more_length (write l (depth + 1)) (l.line (depth + 1)) items).1
      have skipped := skip_write floats (l.line_blank (depth + 1)) l (depth + 1) (oks v List.mem_cons_self)
        (more (write l (depth + 1)) (l.line (depth + 1)) items ++ (l.line depth ++ ']' :: rest))
      have read := @readSeq_more _ (readValue hook fuel) (write l (depth + 1)) (l.line (depth + 1))
        (l.line depth) ']' (l.line_blank (depth + 1)) (l.line_blank depth) (by decide) (by decide)
        (by decide) v items heads nonempty each _
        (show items.length < (write l (depth + 1) v ++ (more (write l (depth + 1))
          (l.line (depth + 1)) items ++ (l.line depth ++ ']' :: rest))).length by
            simp only [List.length_append, List.length_cons]
            omega) rest
      rw [head] at skipped read
      rw [List.cons_append] at skipped read
      rw [write_arr_cons, readValue_bracket fuel (by rw [head]; exact skipped) bracket, read,
        Option.map_some]
  | obj members ih =>
    intro ordered ok depth fuel rest enough stops
    obtain ⟨ascending, values⟩ := ordered_obj.mp ordered
    cases members with
    | nil =>
      rw [write, List.cons_append, readValue]
      simp [skip, blank, keeps [] ascending]
    | cons p members =>
      have oks := writableMembersWith_iff.mp ok
      have each : ∀ q ∈ p :: members, ∀ rest, Stops rest →
          readMember (readValue hook fuel) (writeMember l (depth + 1) q ++ rest) =
            some (q, rest) := by
        intro q mem rest stops
        have shorter := @write_length_value l depth p q members mem
        have positive := write_length_pos floats l (depth + 1) (oks q mem).2
        obtain ⟨fuel, rfl⟩ := Nat.exists_eq_add_one_of_ne_zero (show fuel ≠ 0 by omega)
        exact readMember_write floats (oks q mem).1 (oks q mem).2 (ih q mem (values q mem) (oks q mem).2
          (depth + 1) fuel rest (by omega) stops)
      have quote : ∀ q, ∃ cs, writeMember l (depth + 1) q = '"' :: cs := by
        intro q
        rw [writeMember, writeText]
        exact ⟨_, rfl⟩
      have heads : ∀ q ∈ members, ∀ d ∈ (writeMember l (depth + 1) q).head?, blank d = false := by
        intro q _ d first
        obtain ⟨cs, same⟩ := quote q
        rw [same] at first
        cases first
        decide
      have nonempty : ∀ q ∈ members, writeMember l (depth + 1) q ≠ [] := by
        intro q _ empty
        obtain ⟨cs, same⟩ := quote q
        rw [same] at empty
        cases empty
      have fewer := (more_length (writeMember l (depth + 1)) (l.line (depth + 1)) members).1
      obtain ⟨cs, head⟩ := quote p
      have read := @readSeq_more _ (readMember (readValue hook fuel)) (writeMember l (depth + 1))
        (l.line (depth + 1)) (l.line depth) '}' (l.line_blank (depth + 1)) (l.line_blank depth)
        (by decide) (by decide) (by decide) p members heads nonempty each _
        (show members.length < (writeMember l (depth + 1) p ++ (more (writeMember l (depth + 1))
          (l.line (depth + 1)) members ++ (l.line depth ++ '}' :: rest))).length by
            simp only [List.length_append, List.length_cons]
            omega) rest
      rw [write_obj_cons]
      rw [head, List.cons_append] at read ⊢
      rw [readValue_brace fuel (skip_append (l.line_blank (depth + 1)) (by simp [blank]))
        (by decide), read, Option.bind_some, keeps _ ascending, Option.map_some]

theorem readDocument_write (floats : Floats real)
    (keeps : ∀ members, Ascending members → hook members = some (.obj members)) (l : Layout)
    {v : Json} (ordered : Ordered v) (ok : writableWith real v = true) :
    readDocument hook (write l 0 v) = some v := by
  obtain ⟨c, cs, same, solid, -⟩ := write_cons floats l 0 v ok
  have start : skip (write l 0 v) = write l 0 v := by
    rw [same]
    exact List.dropWhile_cons_of_neg (by simp [solid])
  have read := readValue_write floats keeps l v ordered ok 0 ((write l 0 v).length - 1) []
    (by omega) stops_nil
  have length : (write l 0 v).length - 1 + 1 = (write l 0 v).length := by
    have positive := write_length_pos floats l 0 ok
    omega
  rw [length, List.append_nil] at read
  rw [readDocument, start, read, Option.bind_some]
  rfl

theorem loadsWith_dumpsWith (floats : Floats real)
    (keeps : ∀ members, Ascending members → hook members = some (.obj members)) {l : Layout}
    {v : Json} {raw : List UInt8} (ordered : Ordered v) (written : dumpsWith real l v = some raw) :
    loadsWith hook raw = some v := by
  unfold dumpsWith at written
  split at written
  · next ok =>
    obtain rfl := Option.some.inj written
    rw [loadsWith, decode_scalars, scalars_map, Option.bind_some,
      readDocument_write floats keeps l ordered ok]
  · cases written

theorem loads_dumpsWith (floats : Floats real) {l : Layout} {v : Json} {raw : List UInt8}
    (ordered : Ordered v) (written : dumpsWith real l v = some raw) : loads raw = some v :=
  loadsWith_dumpsWith floats (fun _ ascending => by rw [dict, ascending.ofList]) ordered written

theorem dumpsWith_of_dumps {l : Layout} {v : Json} {raw : List UInt8} (written : dumps l v = some raw) :
    dumpsWith real l v = some raw := by
  unfold dumps at written
  split at written
  · next ok => rw [dumpsWith, if_pos (writableWith_of_writable v ok), written]
  · cases written

theorem loadsWith_dumps
    (keeps : ∀ members, Ascending members → hook members = some (.obj members)) {l : Layout}
    {v : Json} {raw : List UInt8} (ordered : Ordered v) (written : dumps l v = some raw) :
    loadsWith hook raw = some v :=
  loadsWith_dumpsWith floats_none keeps ordered (dumpsWith_of_dumps written)

theorem loads_dumps {l : Layout} {v : Json} {raw : List UInt8} (ordered : Ordered v)
    (written : dumps l v = some raw) : loads raw = some v :=
  loads_dumpsWith floats_none ordered (dumpsWith_of_dumps written)

theorem distinctKeys_ascending {members : List (Text × Json)} (ascending : Ascending members) :
    distinctKeys members = some (.obj members) := by
  have nodup : (members.map (·.1)).Nodup :=
    List.pairwise_map.mpr (ascending.imp fun less => less.ne)
  rw [distinctKeys, if_pos nodup, dict, ascending.ofList]

theorem dumpsWith_ne_nil (floats : Floats real) {l : Layout} {v : Json} {raw : List UInt8}
    (written : dumpsWith real l v = some raw) : raw ≠ [] := by
  unfold dumpsWith at written
  split at written
  · next ok =>
    obtain rfl := Option.some.inj written
    obtain ⟨c, cs, same, -⟩ := write_cons floats l 0 v ok
    simp [same, String.utf8EncodeChar_ne_nil]
  · cases written

theorem dumps_ne_nil {l : Layout} {v : Json} {raw : List UInt8} (written : dumps l v = some raw) :
    raw ≠ [] := dumpsWith_ne_nil floats_none (dumpsWith_of_dumps written)

/-! Members -/

def members : Json → List (Text × Json)
  | .obj members => members
  | _ => []

/-- `payload[key]`, with nothing for a key that is missing. -/
def Json.get (payload : Json) (key : String) : Option Json := find (members payload) (lit key)

def keys (payload : Json) : List Text := (members payload).map (·.1)

/-- The dictionary of a display with these keys. -/
def record (fields : List (String × Json)) : Json := dict (fields.map fun p => (lit p.1, p.2))

theorem find_ofList_lit (fields : List (String × Json)) (key : String) :
    find (ofList (fields.map fun p => (lit p.1, p.2))) (lit key) =
      (fields.reverse.find? fun p => decide (p.1 = key)).map (·.2) := by
  induction fields using List.reverseRecOn with
  | nil => rfl
  | append_singleton fields p ih =>
    rw [List.map_append, List.map_singleton, ofList_concat, find_put, ih, List.reverse_append,
      List.reverse_singleton, List.singleton_append, List.find?_cons]
    by_cases same : p.1 = key <;> simp [same]

theorem get_record (fields : List (String × Json)) (key : String) :
    (record fields).get key = (fields.reverse.find? fun p => decide (p.1 = key)).map (·.2) :=
  find_ofList_lit fields key

theorem get_of_mem {fields : List (String × Json)} {key : String} {v : Json}
    (nodup : (fields.map (·.1)).Nodup) (mem : (key, v) ∈ fields) :
    (record fields).get key = some v := by
  rw [get_record]
  cases found : fields.reverse.find? fun p => decide (p.1 = key) with
  | none =>
    have absent := List.find?_eq_none.mp found (key, v) (List.mem_reverse.mpr mem)
    simp at absent
  | some p =>
    have same : p.1 = key := by simpa using List.find?_some found
    have inside := List.mem_reverse.mp (List.mem_of_find?_eq_some found)
    rw [List.inj_on_of_nodup_map nodup inside mem same]
    rfl

theorem mem_keys_record {fields : List (String × Json)} {key : Text}
    (mem : key ∈ keys (record fields)) : key ∈ (fields.map (·.1)).map lit := by
  obtain ⟨p, member, rfl⟩ := List.mem_map.mp mem
  obtain ⟨field, inside, rfl⟩ := List.mem_map.mp (mem_ofList member)
  exact List.mem_map_of_mem (List.mem_map_of_mem inside)

theorem ordered_record {fields : List (String × Json)} (values : ∀ p ∈ fields, Ordered p.2) :
    Ordered (record fields) := by
  apply ordered_dict
  intro p mem
  obtain ⟨field, inside, rfl⟩ := List.mem_map.mp mem
  exact values field inside

theorem writable_record {fields : List (String × Json)} (values : ∀ p ∈ fields, writable p.2 = true) :
    writable (record fields) = true := by
  rw [record, dict, writable, writableMembers_iff]
  intro p mem
  obtain ⟨field, inside, rfl⟩ := List.mem_map.mp (mem_ofList mem)
  refine ⟨List.all_eq_true.mpr fun c held => ?_, values field inside⟩
  obtain ⟨d, -, rfl⟩ := List.mem_map.mp held
  rfl

theorem writable_of_record {fields : List (String × Json)} (nodup : (fields.map (·.1)).Nodup)
    (ok : writable (record fields) = true) : ∀ p ∈ fields, writable p.2 = true := by
  intro p mem
  have got := get_of_mem nodup mem
  rw [record, dict, Json.get, members, find_eq_some (ascending_ofList _)] at got
  rw [record, dict, writable, writableMembers_iff] at ok
  exact (ok _ got).2

example : (loads "\x7b\"b\": [1, -2], \"a\": \"\\ud83d\\ude00\"\x7d".toUTF8.toList).bind
    (dumps compact) = some "\x7b\"a\":\"😀\",\"b\":[1,-2]\x7d".toUTF8.toList := by
  decide +kernel

-- a reader of the type of a theorem has no use for the document spelled out
attribute [irreducible] Ordered

end JsonText
