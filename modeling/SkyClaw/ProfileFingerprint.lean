import SkyClaw.LittleEndian
import SkyClaw.TrimmedText
import SkyClaw.Utf8Text

set_option linter.all false

/-!
The state of a profile that an attestation binds, `mo2/vfs_attestation.py`: the
plugins that `plugins.txt` activates, in one form for all its spellings, and the
sections that the fingerprint is the hash of.
-/
namespace VfsAttestation
open LittleEndian TrimmedText Utf8Text

abbrev Bytes := List UInt8

abbrev Texto := List CodePoint

/-- `VfsAttestationError`, with what it names, and what else stops a fingerprint. -/
inductive Fallo where
  | entradaSinNombre
  | nombreInvalido (nombre : Bytes)
  | nombreSinExtension (nombre : Bytes)
  | repetido (nombre : Bytes)
  | noCodificable
  | demasiadoLargo
  deriving DecidableEq

/-- The bytes of an ASCII text. -/
def ascii (t : String) : Bytes := t.toList.map fun c => UInt8.ofNat c.toNat

def estrella : UInt8 := 0x2A

def almohadilla : UInt8 := 0x23

/-! The lines of `plugins.txt` -/

/-- `replace(b"\r\n", b"\n")` -/
def sinCrlf : Bytes → Bytes
  | 0x0D :: 0x0A :: t => 0x0A :: sinCrlf t
  | b :: t => b :: sinCrlf t
  | [] => []

/-- `replace(b"\r", b"\n")` -/
def sinCr (t : Bytes) : Bytes := t.map fun b => if b = 0x0D then 0x0A else b

def iterPluginsLines (data : Bytes) : List Bytes := (sinCr (sinCrlf data)).splitOn 0x0A

/-- The blanks of `strip(b" \t")`. -/
def blanco (b : UInt8) : Bool := b = 0x20 || b = 0x09

/-- `str.lower` on a character of latin-1. -/
def minuscula (b : UInt8) : UInt8 :=
  if (65 ≤ b.toNat ∧ b.toNat ≤ 90) ∨ (192 ≤ b.toNat ∧ b.toNat ≤ 222 ∧ b.toNat ≠ 215)
  then UInt8.ofNat (b.toNat + 32) else b

/-- `_case_insensitive_key`; latin-1 gives each byte its character, and the key is kept as bytes. -/
def caseInsensitiveKey (raw : Bytes) : Bytes := raw.map minuscula

/-- `bytes.lower`, of which only ASCII letters change. -/
def minusculaAscii (b : UInt8) : UInt8 :=
  if 65 ≤ b.toNat ∧ b.toNat ≤ 90 then UInt8.ofNat (b.toNat + 32) else b

def pluginNameForbiddenBytes : Bytes := ascii "*\"<>:|?/\\"

def pluginExtensions : List Bytes := [ascii ".esp", ascii ".esm", ascii ".esl"]

def prohibido (b : UInt8) : Bool := b.toNat < 0x20 || b ∈ pluginNameForbiddenBytes

/-- `_validated_plugin_name` -/
def validatedPluginName (raw : Bytes) : Except Fallo Bytes :=
  if raw = [] then .error .entradaSinNombre
  else if raw.any prohibido then .error (.nombreInvalido raw)
  else if pluginExtensions.any (·.isSuffixOf (raw.map minusculaAscii)) then .ok raw
  else .error (.nombreSinExtension raw)

/-- What follows the star of a line, and the line without one. -/
def nombreDe (linea : Bytes) : Bytes :=
  strip blanco (if linea.head? = some estrella then linea.drop 1 else linea)

/-- The loop of `_canonical_plugins_state` over the lines that are left. -/
def leeLineas (alwaysActive : List Bytes) (vistos : List Bytes) : List Bytes → Except Fallo (List Bytes)
  | [] => .ok []
  | rawLine :: resto =>
    let linea := strip blanco rawLine
    if linea = [] ∨ linea.head? = some almohadilla then leeLineas alwaysActive vistos resto
    else do
      let nombre ← validatedPluginName (nombreDe linea)
      let clave := caseInsensitiveKey nombre
      if clave ∈ vistos then .error (.repetido nombre)
      else
        let demas ← leeLineas alwaysActive (clave :: vistos) resto
        return if linea.head? = some estrella ∧ clave ∉ alwaysActive then clave :: demas else demas

def utf8Bom : Bytes := [0xEF, 0xBB, 0xBF]

def sinBom (data : Bytes) : Bytes := if utf8Bom <+: data then data.drop utf8Bom.length else data

/-- `_canonical_plugins_state` -/
def canonicalPluginsState (alwaysActive : List Bytes) : Option Bytes → Except Fallo Bytes
  | none => .ok []
  | some data => (leeLineas alwaysActive [] (iterPluginsLines (sinBom data))).map [0].intercalate

/-! The fingerprint -/

/-- `encode("utf-8")` -/
def utf8 : Texto → Except Fallo Bytes
  | [] => .ok []
  | .scalar c :: t => (utf8 t).map (String.utf8EncodeChar c ++ ·)
  | .surrogate _ :: _ => .error .noCodificable

/-- `to_bytes(8, "big")` -/
def ochoBytes (n : Nat) : Except Fallo Bytes :=
  if n < 256 ^ 8 then .ok (toBytes 8 n).reverse else .error .demasiadoLargo

/-- `_state_section` -/
def stateSection (label payload : Bytes) : Except Fallo Bytes := do
  let largo ← ochoBytes payload.length
  return ascii "\x00state\x00" ++ label ++ [0] ++ largo ++ payload

/-- `_raw_file_payload` of a file that is there or not. -/
def rawFilePayload : Option Bytes → Bytes
  | none => [0]
  | some data => 1 :: data

/-- The files of the profile that are hashed as they are. -/
structure Crudos where
  modlist : Option Bytes
  loadorder : Option Bytes
  settingsIni : Option Bytes
  settingsTxt : Option Bytes
  deriving DecidableEq

/-- In the order of `_RAW_PROFILE_STATE_FILES`. -/
def Crudos.archivos (c : Crudos) : List (String × Option Bytes) :=
  [("modlist.txt", c.modlist), ("loadorder.txt", c.loadorder), ("settings.ini", c.settingsIni),
    ("settings.txt", c.settingsTxt)]

def esHex (c : Char) : Bool :=
  (0x30 ≤ c.toNat && c.toNat ≤ 0x39) || (0x61 ≤ c.toNat && c.toNat ≤ 0x66)

/-- A file of a mod that was opened and hashed: its path, as POSIX, has no NUL, and its hash is
hexadecimal. -/
structure Canary where
  sourceMod : Texto
  relativePath : Texto
  sha256 : List Char
  sinNul : .scalar (Char.ofNat 0) ∉ relativePath
  hex : sha256.all esHex = true

def canaryPayload (canary : Canary) : Except Fallo Bytes := do
  let mod ← utf8 canary.sourceMod
  let ruta ← utf8 canary.relativePath
  return mod ++ [0] ++ ruta ++ [0] ++ canary.sha256.map fun c => UInt8.ofNat c.toNat

def dominio : Bytes := ascii "skyclaw-vfs-profile-v2"

/-- What `_profile_fingerprint` hashes. -/
def preimagen (profile : Texto) (estado : Bytes) (crudos : Crudos) (canary : Canary) : Except Fallo Bytes := do
  let perfil ← utf8 profile
  let primera ← stateSection (ascii "profile") perfil
  let segunda ← stateSection (ascii "file:plugins.txt") estado
  let archivos ← crudos.archivos.mapM fun a => stateSection (ascii ("file:" ++ a.1)) (rawFilePayload a.2)
  let payload ← canaryPayload canary
  let ultima ← stateSection (ascii "canary") payload
  return dominio ++ primera ++ segunda ++ archivos.flatten ++ ultima

/-- `_profile_fingerprint` -/
def profileFingerprint {D : Type} (sha256 : Bytes → D) (alwaysActive : List Bytes) (profile : Texto)
    (plugins : Option Bytes) (crudos : Crudos) (canary : Canary) : Except Fallo D := do
  let estado ← canonicalPluginsState alwaysActive plugins
  let entrada ← preimagen profile estado crudos canary
  return sha256 entrada

end VfsAttestation
