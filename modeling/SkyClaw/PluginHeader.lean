import Mathlib.Data.List.DropRight
import SkyClaw.Checks
import SkyClaw.LittleEndian

set_option linter.all false

/-!
The header of a plugin, `local/validators/plugin_header.py`: the masters and the
flags of the TES4 record at the start of the file.
-/
namespace PluginHeader
open LittleEndian Checks

abbrev Bytes := List UInt8

abbrev Texto := List Char

/-- The messages of `PluginHeaderError`. -/
inductive PluginHeaderError where
  | unreadable
  | noTes4
  | tooBig
  | truncated
  | subrecordTruncated
  | xxxxInvalid
  | xxxxTruncated
  | xxxxAlone
  deriving DecidableEq

structure Header where
  masters : List Texto
  isMaster : Bool
  isLight : Bool
  formVersion : Nat
  deriving DecidableEq

def TES4 : Bytes := [0x54, 0x45, 0x53, 0x34]

def XXXX : Bytes := [0x58, 0x58, 0x58, 0x58]

def MAST : Bytes := [0x4d, 0x41, 0x53, 0x54]

def tes4HeaderSize : Nat := 24

def maxTes4DataSize : Nat := 1024 * 1024

def flagMaster : Nat := 0x00000001

def flagLight : Nat := 0x00000200

/-- What windows-1252 has from 0x80 to 0x9f, the replacement character where it has nothing. -/
def cp1252High : List Nat :=
  [0x20ac, 0xfffd, 0x201a, 0x192, 0x201e, 0x2026, 0x2020, 0x2021, 0x2c6, 0x2030, 0x160, 0x2039, 0x152,
    0xfffd, 0x17d, 0xfffd, 0xfffd, 0x2018, 0x2019, 0x201c, 0x201d, 0x2022, 0x2013, 0x2014, 0x2dc, 0x2122,
    0x161, 0x203a, 0x153, 0xfffd, 0x17e, 0x178]

def decodeByte (b : UInt8) : Char :=
  if 0x80 ≤ b.toNat ∧ b.toNat < 0xa0 then Char.ofNat (cp1252High.getD (b.toNat - 0x80) 0xfffd)
  else Char.ofNat b.toNat

/-- `decode("cp1252", errors="replace")` -/
def decodeCp1252 (raw : Bytes) : Texto := raw.map decodeByte

/-- A text that ends at its trailing zeros. -/
def zstring (raw : Bytes) : Texto := decodeCp1252 (raw.rdropWhile (· == 0))

/-- `data[i:j]` -/
def slice (data : Bytes) (i j : Nat) : Bytes := (data.drop i).take (j - i)

def parseMasters (data : Bytes) (offset : Nat) (xxxxSize : Option Nat) (masters : List Texto) :
    Except PluginHeaderError (List Texto) :=
  if offset < data.length then
    if data.length < offset + 6 then .error .subrecordTruncated
    else
      let sig := slice data offset (offset + 4)
      let size := fromBytes (slice data (offset + 4) (offset + 6))
      if sig = XXXX then
        if size ≠ 4 then .error .xxxxInvalid
        else if data.length < offset + 6 + 4 then .error .xxxxTruncated
        else parseMasters data (offset + 6 + 4)
          (some (fromBytes (slice data (offset + 6) (offset + 6 + 4)))) masters
      else
        let realSize := xxxxSize.getD size
        if data.length < offset + 6 + realSize then .error .subrecordTruncated
        else
          let field := slice data (offset + 6) (offset + 6 + realSize)
          parseMasters data (offset + 6 + realSize) none
            (if sig = MAST then masters ++ [zstring field] else masters)
  else
    match xxxxSize with
    | some _ => .error .xxxxAlone
    | none => .ok masters
termination_by data.length - offset

/-- The bytes of the file, when it can be opened and read. -/
def readPluginHeader (file : Option Bytes) : Except PluginHeaderError Header := do
  let raw ← present .unreadable file
  let head := raw.take tes4HeaderSize
  require (¬(head.length < tes4HeaderSize ∨ slice head 0 4 ≠ TES4)) .noTes4
  let dataSize := fromBytes (slice head 4 8)
  let flags := fromBytes (slice head 8 12)
  require (¬maxTes4DataSize < dataSize) .tooBig
  let data := (raw.drop tes4HeaderSize).take dataSize
  require (¬data.length < dataSize) .truncated
  let masters ← parseMasters data 0 none []
  return {
    masters
    isMaster := flags &&& flagMaster ≠ 0
    isLight := flags &&& flagLight ≠ 0
    formVersion := fromBytes (slice head 20 22) }

/-! The record as it is written -/

structure Subrecord where
  sig : Bytes
  payload : Bytes
  /-- The size that stands after the signature when XXXX gives the real one. -/
  filler : UInt16
  sigLength : sig.length = 4
  sigOther : sig ≠ XXXX

structure Tes4 where
  flags : UInt32
  formId : UInt32
  versionControl : UInt32
  formVersion : UInt16
  versionControl2 : UInt16
  subrecords : List Subrecord

def Subrecord.encode (s : Subrecord) : Bytes :=
  if s.payload.length ≤ 65535 then s.sig ++ toBytes 2 s.payload.length ++ s.payload
  else XXXX ++ toBytes 2 4 ++ toBytes 4 s.payload.length ++
    (s.sig ++ toBytes 2 s.filler.toNat ++ s.payload)

def Tes4.data (t : Tes4) : Bytes := t.subrecords.flatMap Subrecord.encode

/-- The header of the record. -/
def Tes4.head (t : Tes4) : Bytes :=
  TES4 ++ toBytes 4 t.data.length ++ toBytes 4 t.flags.toNat ++ toBytes 4 t.formId.toNat ++
    toBytes 4 t.versionControl.toNat ++ toBytes 2 t.formVersion.toNat ++
    toBytes 2 t.versionControl2.toNat

def Tes4.encode (t : Tes4) : Bytes := t.head ++ t.data

/-- The payloads of the MAST subrecords, as texts. -/
def mastersOf (subrecords : List Subrecord) : List Texto :=
  (subrecords.filter (·.sig = MAST)).map fun s => zstring s.payload

def Tes4.header (t : Tes4) : Header where
  masters := mastersOf t.subrecords
  isMaster := t.flags.toNat &&& flagMaster ≠ 0
  isLight := t.flags.toNat &&& flagLight ≠ 0
  formVersion := t.formVersion.toNat

/-! Steps of the parser -/

variable {data rest : Bytes} {offset : Nat} {xxxxSize : Option Nat} {masters : List Texto}

/-- A piece of the data is where the piece before it ends. -/
theorem drop_after {first : Bytes} (here : data.drop offset = first ++ rest) :
    data.drop (offset + first.length) = rest := by
  rw [← List.drop_drop, here, List.drop_left]

theorem slice_here {first : Bytes} (here : data.drop offset = first ++ rest) {j : Nat}
    (ends : j = offset + first.length) : slice data offset j = first := by
  rw [slice, here, ends, Nat.add_sub_cancel_left, List.take_left]

theorem length_here {first : Bytes} (here : data.drop offset = first ++ rest) (some_ : first ≠ []) :
    offset + first.length + rest.length = data.length := by
  have positive := List.length_pos_iff.mpr some_
  have lengths := congrArg List.length here
  rw [List.length_drop, List.length_append] at lengths
  omega

theorem parse_end (here : data.drop offset = []) : parseMasters data offset none masters = .ok masters := by
  have past := List.drop_eq_nil_iff.mp here
  unfold parseMasters
  rw [if_neg (by omega)]

theorem parse_xxxx {size : Bytes} (length : size.length = 4)
    (here : data.drop offset = XXXX ++ toBytes 2 4 ++ size ++ rest) :
    parseMasters data offset xxxxSize masters =
      parseMasters data (offset + 6 + 4) (some (fromBytes size)) masters := by
  have sig : slice data offset (offset + 4) = XXXX := by
    have piece : data.drop offset = XXXX ++ (toBytes 2 4 ++ size ++ rest) := by simpa using here
    exact slice_here piece rfl
  have afterSig : data.drop (offset + 4) = toBytes 2 4 ++ (size ++ rest) := by
    have whole : data.drop offset = XXXX ++ (toBytes 2 4 ++ (size ++ rest)) := by simpa using here
    exact drop_after whole
  have declared : slice data (offset + 4) (offset + 6) = toBytes 2 4 := slice_here afterSig rfl
  have afterSize : data.drop (offset + 6) = size ++ rest := drop_after afterSig
  have real : slice data (offset + 6) (offset + 6 + 4) = size := slice_here afterSize (by rw [length])
  have total := length_here afterSize (by intro empty; rw [empty] at length; cases length)
  conv_lhs => rw [parseMasters.eq_def]
  rw [if_pos (by omega), if_neg (by omega)]
  simp only [sig, declared, real, if_true]
  rw [if_neg (by decide), if_neg (by omega)]

theorem parse_field {sig size payload : Bytes} (sigLength : sig.length = 4) (other : sig ≠ XXXX)
    (sizeLength : size.length = 2) (real : xxxxSize.getD (fromBytes size) = payload.length)
    (here : data.drop offset = sig ++ size ++ payload ++ rest) :
    parseMasters data offset xxxxSize masters =
      parseMasters data (offset + 6 + payload.length) none
        (if sig = MAST then masters ++ [zstring payload] else masters) := by
  have sigHere : slice data offset (offset + 4) = sig := by
    have piece : data.drop offset = sig ++ (size ++ payload ++ rest) := by simpa using here
    exact slice_here piece (by rw [sigLength])
  have afterSig : data.drop (offset + 4) = size ++ (payload ++ rest) := by
    rw [← sigLength]
    apply drop_after
    simpa using here
  have declared : slice data (offset + 4) (offset + 6) = size := slice_here afterSig (by rw [sizeLength])
  have afterSize : data.drop (offset + 6) = payload ++ rest := by
    have after := drop_after afterSig
    rwa [sizeLength] at after
  have field : slice data (offset + 6) (offset + 6 + payload.length) = payload :=
    slice_here afterSize rfl
  have total := length_here afterSig (by intro empty; rw [empty] at sizeLength; cases sizeLength)
  rw [List.length_append, sizeLength] at total
  conv_lhs => rw [parseMasters.eq_def]
  rw [if_pos (by omega), if_neg (by omega)]
  simp only [sigHere, declared, real, field]
  rw [if_neg other, if_neg (by omega)]

theorem parse_subrecord (s : Subrecord) (fits : s.payload.length < 256 ^ 4)
    (here : data.drop offset = s.encode ++ rest) :
    parseMasters data offset none masters =
      parseMasters data (offset + s.encode.length) none
        (masters ++ mastersOf [s]) := by
  have added : (if s.sig = MAST then masters ++ [zstring s.payload] else masters) =
      masters ++ mastersOf [s] := by
    by_cases mast : s.sig = MAST <;> simp [mastersOf, mast]
  have sigLength := s.sigLength
  by_cases short : s.payload.length ≤ 65535
  · have encoded : s.encode = s.sig ++ toBytes 2 s.payload.length ++ s.payload := by
      rw [Subrecord.encode, if_pos short]
    rw [encoded] at here ⊢
    have declared : (none : Option Nat).getD (fromBytes (toBytes 2 s.payload.length)) =
        s.payload.length := fromBytes_toBytes (by omega)
    rw [parse_field s.sigLength s.sigOther (length_toBytes _ _) declared here, added]
    congr 1
    simp only [List.length_append, length_toBytes, sigLength]
    omega
  · have encoded : s.encode = XXXX ++ toBytes 2 4 ++ toBytes 4 s.payload.length ++
        (s.sig ++ toBytes 2 s.filler.toNat ++ s.payload) := by
      rw [Subrecord.encode, if_neg short]
    have xxxxLength : XXXX.length = 4 := rfl
    rw [encoded] at here ⊢
    have first : data.drop offset = XXXX ++ toBytes 2 4 ++ toBytes 4 s.payload.length ++
        (s.sig ++ toBytes 2 s.filler.toNat ++ s.payload ++ rest) := by
      rw [here]
      simp only [List.append_assoc]
    have second : data.drop (offset + 6 + 4) =
        s.sig ++ toBytes 2 s.filler.toNat ++ s.payload ++ rest := drop_after first
    rw [parse_xxxx (length_toBytes _ _) first, fromBytes_toBytes fits,
      parse_field s.sigLength s.sigOther (length_toBytes _ _) rfl second, added]
    congr 1
    simp only [List.length_append, length_toBytes, sigLength, xxxxLength]
    omega

theorem mastersOf_cons (s : Subrecord) (subrecords : List Subrecord) :
    mastersOf (s :: subrecords) = mastersOf [s] ++ mastersOf subrecords := by
  rw [mastersOf, mastersOf, mastersOf, ← List.map_append, ← List.filter_append, List.singleton_append]

theorem length_payload (s : Subrecord) : s.payload.length ≤ s.encode.length := by
  unfold Subrecord.encode
  split <;> simp only [List.length_append] <;> omega

theorem parse_subrecords {subrecords : List Subrecord}
    (here : data.drop offset = subrecords.flatMap Subrecord.encode)
    (fits : data.length < 256 ^ 4) :
    parseMasters data offset none masters = .ok (masters ++ mastersOf subrecords) := by
  induction subrecords generalizing offset masters with
  | nil => rw [parse_end here, mastersOf, List.filter_nil, List.map_nil, List.append_nil]
  | cons s subrecords ih =>
    rw [List.flatMap_cons] at here
    have lengths := congrArg List.length here
    rw [List.length_drop, List.length_append] at lengths
    have payload := length_payload s
    rw [parse_subrecord s (by omega) here, ih (drop_after here), mastersOf_cons s subrecords,
      List.append_assoc]

/-! The whole record -/

theorem read_short {raw : Bytes} (short : raw.length < tes4HeaderSize) :
    readPluginHeader (some raw) = .error .noTes4 := by
  have head : (raw.take tes4HeaderSize).length < tes4HeaderSize := by
    rw [List.length_take]
    omega
  simp only [readPluginHeader, present, bind, Except.bind, require, head, true_or, not_true_eq_false,
    if_false]

/-- Behind the header of the record comes what its size declares. -/
theorem read_head (t : Tes4) (fits : t.data.length ≤ maxTes4DataSize) (raw : Bytes) :
    readPluginHeader (some (t.head ++ raw)) =
      if raw.length < t.data.length then .error .truncated
      else (parseMasters (raw.take t.data.length) 0 none []).map fun masters =>
        { t.header with masters := masters } := by
  have size : fromBytes (slice ((t.head ++ raw).take tes4HeaderSize) 4 8) = t.data.length := by
    have fits4 : t.data.length < 256 ^ 4 := Nat.lt_of_le_of_lt fits (by decide)
    exact fromBytes_toBytes fits4
  have flags : fromBytes (slice ((t.head ++ raw).take tes4HeaderSize) 8 12) = t.flags.toNat := by
    have fits4 : t.flags.toNat < 256 ^ 4 := t.flags.toNat_lt
    exact fromBytes_toBytes fits4
  have version : fromBytes (slice ((t.head ++ raw).take tes4HeaderSize) 20 22) =
      t.formVersion.toNat := by
    have fits2 : t.formVersion.toNat < 256 ^ 2 := t.formVersion.toNat_lt
    exact fromBytes_toBytes fits2
  have tes4 : slice ((t.head ++ raw).take tes4HeaderSize) 0 4 = TES4 := rfl
  have whole : ((t.head ++ raw).take tes4HeaderSize).length = tes4HeaderSize := rfl
  have behind : (t.head ++ raw).drop tes4HeaderSize = raw := rfl
  have small : ¬maxTes4DataSize < t.data.length := by omega
  have cut : (raw.take t.data.length).length < t.data.length ↔ raw.length < t.data.length := by
    rw [List.length_take]
    omega
  have head : ¬(tes4HeaderSize < tes4HeaderSize ∨ TES4 ≠ TES4) := by simp
  simp only [readPluginHeader, present, bind, Except.bind, size, flags, version, tes4, whole, behind,
    require, small, cut, head, not_false_eq_true, if_true]
  by_cases short : raw.length < t.data.length
  · simp only [short, not_true_eq_false, if_false, if_true]
  · simp only [short, not_false_eq_true, if_false, if_true]
    cases parseMasters (raw.take t.data.length) 0 none [] <;> rfl

/-- The bytes that the record at the start of the file declares as its own. -/
def declared (raw : Bytes) : Nat :=
  tes4HeaderSize + fromBytes (slice (raw.take tes4HeaderSize) 4 8)

/-- The parser returns what was written, takes no prefix of it and looks at nothing behind it. -/
theorem header_exact (t : Tes4) (fits : t.data.length ≤ maxTes4DataSize) (raw : Bytes) :
    readPluginHeader (some (t.encode ++ raw)) = .ok t.header ∧
      (∀ cut, cut <+: t.encode → cut ≠ t.encode →
        ∃ e, readPluginHeader (some cut) = .error e) ∧
      readPluginHeader (some raw) = readPluginHeader (some (raw.take (declared raw))) := by
  refine ⟨?_, ?_, ?_⟩
  · have small : t.data.length < 256 ^ 4 := Nat.lt_of_le_of_lt fits (by decide)
    have parsed : parseMasters t.data 0 none [] = .ok ([] ++ mastersOf t.subrecords) :=
      parse_subrecords (by rw [List.drop_zero]; rfl) small
    rw [Tes4.encode, List.append_assoc, read_head t fits, if_neg (by simp), List.take_left, parsed]
    rfl
  · intro cut starts other
    by_cases short : cut.length < tes4HeaderSize
    · exact ⟨_, read_short short⟩
    · have head : t.head <+: cut := by
        apply List.prefix_of_prefix_length_le (List.prefix_append _ _) starts
        have length : t.head.length = tes4HeaderSize := rfl
        omega
      obtain ⟨x, rfl⟩ := head
      have inside : x <+: t.data := by
        rw [Tes4.encode, List.prefix_append_right_inj] at starts
        exact starts
      have lost : x.length < t.data.length := by
        apply Nat.lt_of_le_of_ne inside.length_le
        intro same
        exact other (by rw [Tes4.encode, inside.eq_of_length same])
      exact ⟨.truncated, by rw [read_head t fits, if_pos lost]⟩
  · have head : (raw.take (declared raw)).take tes4HeaderSize = raw.take tes4HeaderSize := by
      rw [List.take_take, declared, Nat.min_eq_left (by omega)]
    have data : ((raw.take (declared raw)).drop tes4HeaderSize).take
        (fromBytes (slice (raw.take tes4HeaderSize) 4 8)) =
        (raw.drop tes4HeaderSize).take (fromBytes (slice (raw.take tes4HeaderSize) 4 8)) := by
      rw [List.drop_take, List.take_take, declared, Nat.add_sub_cancel_left, Nat.min_self]
    simp only [readPluginHeader, present, bind, Except.bind, head, data]

/-- A plugin that declares one master. -/
def oneMaster : Tes4 where
  flags := 0x201
  formId := 0
  versionControl := 0
  formVersion := 44
  versionControl2 := 0
  subrecords := [⟨MAST, [0x61, 0], 0, rfl, by decide⟩]

theorem header_exact_one :
    readPluginHeader (some (oneMaster.encode ++ [1])) = .ok ⟨[['a']], true, true, 44⟩ ∧
      (∀ cut, cut <+: oneMaster.encode → cut ≠ oneMaster.encode →
        ∃ e, readPluginHeader (some cut) = .error e) ∧
      readPluginHeader (some [1]) = readPluginHeader (some ([1].take (declared [1]))) :=
  ⟨(header_exact oneMaster (by decide) [1]).1, (header_exact oneMaster (by decide) [1]).2⟩

end PluginHeader
