import Mathlib.Data.List.SplitBy
import SkyClaw.LiteralRemoval

set_option linter.all false

/-!
`sanitize_for_prompt`: external text on its way into a prompt. A text is the list of its code
points.
-/
namespace PromptSanitizer
open LiteralRemoval

abbrev Text := List Nat

def text (s : String) : Text := s.toList.map Char.toNat

/-- What `re` and `unicodedata` know: `\\w`, NFKC and the category `Cf`. -/
structure Unicode where
  word : Nat → Bool
  nfkc : Text → Text
  format : Nat → Bool

/-! Canonicalisation -/

def apostrophe : Char := Char.ofNat 0x27

/-- `_HOMOGLYPH_MAP` -/
def homoglyphMap : List (Nat × Char) :=
  [(0x0430, 'a'), (0x0435, 'e'), (0x043E, 'o'), (0x0440, 'p'), (0x0441, 'c'), (0x0445, 'x'), (0x0456, 'i'),
    (0x0458, 'j'), (0x043A, 'k'), (0x051B, 'q'), (0x0455, 's'), (0x051D, 'w'), (0x0443, 'y'), (0x044A, apostrophe),
    (0x044C, apostrophe), (0x0410, 'A'), (0x0415, 'E'), (0x041E, 'O'), (0x0420, 'P'), (0x0421, 'C'), (0x0425, 'X'),
    (0x0406, 'I'), (0x03BF, 'o'), (0x03C1, 'p'), (0x03C2, 's'), (0x03C5, 'u'), (0x03C7, 'x'), (0x039F, 'O'),
    (0x03A1, 'P'), (0x03A7, 'X')]

/-- `_ASCII_BASIC_RE` -/
def asciiBasic (c : Nat) : Bool :=
  (0x41 ≤ c && c ≤ 0x5A) || (0x61 ≤ c && c ≤ 0x7A) || (0x30 ≤ c && c ≤ 0x39)

/-- `_CONFUSABLE_SCRIPT_RE` -/
def confusable (c : Nat) : Bool := (0x0400 ≤ c && c ≤ 0x04FF) || (0x0370 ≤ c && c ≤ 0x03FF)

def replaceToken (token : Text) : Text :=
  if token.any asciiBasic && token.any confusable then
    token.map fun c => ((homoglyphMap.lookup c).map Char.toNat).getD c
  else token

variable (u : Unicode)

def canonicalizeHomoglyphs (t : Text) : Text :=
  (t.splitBy fun a b => u.word a == u.word b).flatMap fun run =>
    if run.any u.word then replaceToken run else run

def stripUnicodeFormatControls (t : Text) : Text := t.filter fun c => !u.format c

/-- `_CONTROL_CHAR_RE` -/
def controlChar (c : Nat) : Bool :=
  c ≤ 0x08 || c == 0x0B || c == 0x0C || (0x0E ≤ c && c ≤ 0x1F) || c == 0x7F

/-- The steps before the passes. -/
def canonicalize (stripControl : Bool) (t : Text) : Text :=
  let t := stripUnicodeFormatControls u (u.nfkc (canonicalizeHomoglyphs u t))
  if stripControl then t.filter fun c => !controlChar c else t

/-! The injection patterns -/

/-- The patterns of `security_policy.yaml`. -/
def policy : List String :=
  ["<\\|", "\\|>", "<<SYS>>", "<</SYS>>", "\\[INST\\]", "\\[/INST\\]", "\\[SYSTEM\\]",
    "\\\x7bsystem\\\x7d", "\\n\\nHuman:", "\\n\\nAssistant:", "<human>", "</human>", "<assistant>",
    "</assistant>", "<tool_use>", "</tool_use>", "<tool_call>", "</tool_call>", "<function_call>",
    "</function_call>", "<tool_result>", "</tool_result>", "<\\|endoftext\\|>", "<\\|im_start\\|>",
    "<\\|im_end\\|>", "<\\|pad\\|>", "<\\|diff_marker\\|>"]

/-- The text that such a pattern matches: `\n` is a line feed, and any other escape the
character itself. -/
def literal : Text → Text
  | 0x5C :: 0x6E :: t => 0x0A :: literal t
  | 0x5C :: c :: t => c :: literal t
  | c :: t => c :: literal t
  | [] => []

/-- `_INJECTION_PATTERNS`, in the order in which `re` tries them. -/
def injectionPatterns : List Text := policy.map fun pattern => literal (text pattern)

/-- What `IGNORECASE` takes a code point for: besides the capitals there are `İ`, `ı`, `ſ` and
the Kelvin sign. -/
def fold (c : Nat) : Nat :=
  if c = 0x130 ∨ c = 0x131 then 0x69
  else if c = 0x17F then 0x73
  else if c = 0x212A then 0x6B
  else if 0x41 ≤ c ∧ c ≤ 0x5A then c + 0x20
  else c

/-! The sanitizer -/

/-- `text[:n]` -/
def slice (t : Text) (n : Int) : Text := if 0 ≤ n then t.take n.toNat else t.take (t.length - n.natAbs)

def suffix : Text := text "... [truncated]"

def truncate (maxLength : Int) (t : Text) : Text :=
  if maxLength < t.length then
    if maxLength > suffix.length then slice t (maxLength - suffix.length) ++ suffix else slice t maxLength
  else t

def maxPasses : Nat := 10

def sanitizeForPrompt (t : Text) (maxLength : Int) (stripControl : Bool) : Text :=
  truncate maxLength (passes fold injectionPatterns maxPasses (canonicalize u stripControl t))

/-- No injection pattern anywhere. -/
def Clean (t : Text) : Prop := LiteralRemoval.Clean fold injectionPatterns t

/-! The passes -/

/-- The characters that end a marker, or split it. -/
def closer (c : Nat) : Bool := c = 0x7C || c = 0x3E || c = 0x5D || c = 0x7D || c = 0x3A

theorem patterns_solid : Solid injectionPatterns := by
  have all : injectionPatterns.all (fun h => h ≠ []) = true := by decide
  intro h mem
  simpa using List.all_eq_true.mp all h mem

/-- No other character counts as one that is no letter. -/
theorem fold_closer {a c : Nat} (is : closer a = true) (same : fold c = fold a) : c = a := by
  simp only [closer, Bool.or_eq_true, decide_eq_true_eq] at is
  unfold fold at same
  split_ifs at same <;> omega

theorem patterns_marked : Marked fold injectionPatterns closer := by
  have all : injectionPatterns.all (fun h => h.any closer) = true := by decide
  intro h mem w same
  obtain ⟨a, inside, is⟩ := List.any_eq_true.mp (List.all_eq_true.mp all h mem)
  have folded : fold a ∈ w.map fold := same ▸ List.mem_map_of_mem inside
  obtain ⟨c, mem', equal⟩ := List.mem_map.mp folded
  exact ⟨c, mem', fold_closer is equal ▸ is⟩

theorem suffix_clean : Clean suffix := by
  have all : suffix.tails.all (fun s => found fold injectionPatterns s = none) = true := by decide
  intro s tail
  simpa using List.all_eq_true.mp all s ((List.mem_tails s suffix).mpr tail)

theorem suffix_strange : ∀ h ∈ injectionPatterns, fold 0x2E ∉ h.map fold := by
  have all : injectionPatterns.all (fun h => fold 0x2E ∉ h.map fold) = true := by decide
  intro h mem
  simpa using List.all_eq_true.mp all h mem

theorem slice_prefix (t : Text) (n : Int) : slice t n <+: t := by
  unfold slice
  split
  · exact List.take_prefix _ _
  · exact List.take_prefix _ _

theorem Clean.slice {t : Text} (clean : Clean t) (n : Int) : Clean (slice t n) := by
  obtain ⟨rest, same⟩ := slice_prefix t n
  rw [← same] at clean
  exact clean.prefix

/-- Truncation makes no pattern. -/
theorem Clean.truncate {t : Text} (clean : Clean t) (maxLength : Int) : Clean (truncate maxLength t) := by
  unfold PromptSanitizer.truncate
  split
  · split
    · exact (clean.slice _).append suffix_clean suffix_strange
    · exact clean.slice _
  · exact clean

/-! What canonicalisation leaves alone -/

/-- Every text over these characters is canonical. -/
def Stable (stripControl : Bool) (S : Nat → Prop) : Prop :=
  ∀ t : Text, (∀ c ∈ t, S c) → canonicalize u stripControl t = t

/-- In ASCII, NFKC changes nothing and no character is a format control. -/
structure Unicode.Ascii : Prop where
  nfkc : ∀ t : Text, (∀ c ∈ t, c < 0x80) → u.nfkc t = t
  format : ∀ c, c < 0x80 → u.format c = false

variable {u}

theorem canonicalizeHomoglyphs_eq {t : Text} (plain : t.any confusable = false) :
    canonicalizeHomoglyphs u t = t := by
  have each : ∀ run ∈ t.splitBy (fun a b => u.word a == u.word b),
      (if run.any u.word then replaceToken run else run) = id run := by
    intro run mem
    have no_confusable : run.any confusable = false := by
      rw [List.any_eq_false] at plain ⊢
      intro c inside
      apply plain c
      rw [← List.flatten_splitBy (fun a b => u.word a == u.word b) t]
      exact List.mem_flatten.mpr ⟨run, mem, inside⟩
    split
    · rw [replaceToken, no_confusable, Bool.and_false]
      rfl
    · rfl
  unfold canonicalizeHomoglyphs
  rw [List.flatMap_congr each]
  simp

theorem stable_ascii (ascii : u.Ascii) (stripControl : Bool) :
    Stable u stripControl fun c => c < 0x80 ∧ (stripControl = true → controlChar c = false) := by
  intro t plain
  have no_confusable : t.any confusable = false := by
    rw [List.any_eq_false]
    intro c mem
    have small := (plain c mem).1
    simp only [confusable, Bool.or_eq_true, Bool.and_eq_true, decide_eq_true_eq, not_or, not_and]
    omega
  have formats : stripUnicodeFormatControls u t = t := by
    apply List.filter_eq_self.mpr
    intro c mem
    rw [ascii.format c (plain c mem).1]
    rfl
  simp only [canonicalize]
  rw [canonicalizeHomoglyphs_eq no_confusable, ascii.nfkc t fun c mem => (plain c mem).1, formats]
  split
  · next strip =>
    apply List.filter_eq_self.mpr
    intro c mem
    rw [(plain c mem).2 strip]
    rfl
  · rfl

/-- No control character is left where they are stripped. -/
theorem canonicalize_control {stripControl : Bool} {t : Text} (strip : stripControl = true) :
    ∀ c ∈ canonicalize u stripControl t, controlChar c = false := by
  intro c mem
  simp only [canonicalize, if_pos strip, List.mem_filter] at mem
  simpa using mem.2

theorem mem_truncate {maxLength : Int} {t : Text} {c : Nat} (mem : c ∈ truncate maxLength t) :
    c ∈ t ∨ c ∈ suffix := by
  unfold truncate at mem
  split at mem
  · split at mem
    · cases List.mem_append.mp mem with
      | inl kept => exact .inl (( slice_prefix _ _).subset kept)
      | inr added => exact .inr added
    · exact .inl (( slice_prefix _ _).subset mem)
  · exact .inl mem

/-! The result -/

variable (u) (t : Text) (maxLength : Int) (stripControl : Bool)

/-- The ten passes are enough for the canonicalised text. -/
def TenSuffice : Prop := Clean (passes fold injectionPatterns maxPasses (canonicalize u stripControl t))

/-- No pattern is left in the result or in its canonical form, and below the limit the result
is its own. -/
structure FixedPoint : Prop where
  clean : Clean (sanitizeForPrompt u t maxLength stripControl)
  canonical : Clean (canonicalize u stripControl (sanitizeForPrompt u t maxLength stripControl))
  again : (sanitizeForPrompt u t maxLength stripControl).length < maxLength →
    sanitizeForPrompt u (sanitizeForPrompt u t maxLength stripControl) maxLength stripControl =
      sanitizeForPrompt u t maxLength stripControl

structure Sanitized : Prop where
  clean : TenSuffice u t stripControl → Clean (sanitizeForPrompt u t maxLength stripControl)
  only : (passes fold injectionPatterns maxPasses (canonicalize u stripControl t)).length ≤ maxLength →
    Clean (sanitizeForPrompt u t maxLength stripControl) → TenSuffice u t stripControl
  ten : (canonicalize u stripControl t).countP closer ≤ maxPasses → TenSuffice u t stripControl
  fixed : TenSuffice u t stripControl →
    canonicalize u stripControl (sanitizeForPrompt u t maxLength stripControl) =
      sanitizeForPrompt u t maxLength stripControl → FixedPoint u t maxLength stripControl
  stable : ∀ S, Stable u stripControl S → (∀ c ∈ suffix, S c) → (∀ c ∈ canonicalize u stripControl t, S c) →
    canonicalize u stripControl (sanitizeForPrompt u t maxLength stripControl) =
      sanitizeForPrompt u t maxLength stripControl
  ascii : (∀ c ∈ canonicalize u stripControl t, c < 0x80) →
    canonicalize u stripControl (sanitizeForPrompt u t maxLength stripControl) =
      sanitizeForPrompt u t maxLength stripControl

variable {u t maxLength stripControl}

theorem canonical_of_stable {S : Nat → Prop} (stable : Stable u stripControl S) (added : ∀ c ∈ suffix, S c)
    (kept : ∀ c ∈ canonicalize u stripControl t, S c) :
    canonicalize u stripControl (sanitizeForPrompt u t maxLength stripControl) =
      sanitizeForPrompt u t maxLength stripControl := by
  apply stable
  intro c mem
  cases mem_truncate mem with
  | inl passed => exact kept c ((passes_sublist _ _).subset passed)
  | inr new => exact added c new

theorem suffix_ascii : ∀ c ∈ suffix, c < 0x80 ∧ (stripControl = true → controlChar c = false) := by
  have all : suffix.all (fun c => c < 0x80 && !controlChar c) = true := by decide
  intro c mem
  have both := List.all_eq_true.mp all c mem
  simp only [Bool.and_eq_true, decide_eq_true_eq, Bool.not_eq_true'] at both
  exact ⟨both.1, fun _ => both.2⟩

theorem fixedPoint (enough : TenSuffice u t stripControl)
    (canonical : canonicalize u stripControl (sanitizeForPrompt u t maxLength stripControl) =
      sanitizeForPrompt u t maxLength stripControl) : FixedPoint u t maxLength stripControl := by
  have clean : Clean (sanitizeForPrompt u t maxLength stripControl) := Clean.truncate enough maxLength
  refine ⟨clean, canonical.symm ▸ clean, ?_⟩
  intro short
  conv_lhs => rw [sanitizeForPrompt]
  rw [canonical, LiteralRemoval.Clean.passes clean, truncate, if_neg (by omega)]

/-- Where ten passes are enough nothing is left, and where canonicalisation leaves the result
alone that is a fixed point. -/
theorem sanitize_fixed_point (u : Unicode) (ascii : u.Ascii) (t : Text) (maxLength : Int)
    (stripControl : Bool) : Sanitized u t maxLength stripControl := by
  constructor
  · exact fun enough => Clean.truncate enough maxLength
  · intro short clean
    rw [sanitizeForPrompt, truncate, if_neg (by omega)] at clean
    exact clean
  · exact passes_clean patterns_solid patterns_marked
  · exact fixedPoint
  · exact fun S stable added kept => canonical_of_stable stable added kept
  · intro plain
    apply canonical_of_stable (stable_ascii ascii stripControl) suffix_ascii
    exact fun c mem => ⟨plain c mem, fun strip => canonicalize_control strip c mem⟩

/-- ASCII, the Greek and Cyrillic blocks and the zero-width space. -/
def sample : Unicode where
  word c := asciiBasic c || c == 0x5F || confusable c
  nfkc := id
  format c := c == 0x200B

theorem sample_ascii : sample.Ascii := by
  refine ⟨fun _ _ => rfl, ?_⟩
  intro c small
  change (c == 0x200B) = false
  rw [beq_eq_false_iff_ne]
  omega

/-- A marker inside a marker. -/
theorem sanitize_fixed_point_nested :
    sanitizeForPrompt sample (text "[IN[INST]ST]<|hi|>") 8192 true = text "hi" ∧
    Sanitized sample (text "[IN[INST]ST]<|hi|>") 8192 true :=
  ⟨by decide +kernel, sanitize_fixed_point sample sample_ascii _ _ _⟩

/-- Eleven markers, each inside the next. -/
def elevenNested : Text := List.replicate 11 0x3C ++ List.replicate 11 0x7C

/-- `<tool_use>` with two Cyrillic letters between zero-width spaces. -/
def hiddenToolUse : Text := text "<t" ++ [0x200B, 0x043E, 0x043E, 0x200B] ++ text "l_use>"

/-- Ten passes leave the eleventh marker, and the letters become Latin only the second time. -/
theorem sanitize_leaves_markers :
    ¬ FixedPoint sample elevenNested 8192 true ∧ ¬ FixedPoint sample hiddenToolUse 8192 true ∧
    sanitizeForPrompt sample elevenNested 8192 true = text "<|" ∧
    canonicalize sample true (sanitizeForPrompt sample hiddenToolUse 8192 true) = text "<tool_use>" := by
  have nested : sanitizeForPrompt sample elevenNested 8192 true = text "<|" := by decide +kernel
  have hidden : canonicalize sample true (sanitizeForPrompt sample hiddenToolUse 8192 true) =
      text "<tool_use>" := by decide +kernel
  refine ⟨?_, ?_, nested, hidden⟩
  · intro fixed
    have missed := fixed.clean _ List.suffix_rfl
    rw [nested] at missed
    revert missed
    decide
  · intro fixed
    have missed := fixed.canonical _ List.suffix_rfl
    rw [hidden] at missed
    revert missed
    decide

end PromptSanitizer
