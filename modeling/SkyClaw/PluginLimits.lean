import Mathlib.Data.List.Dedup
import Mathlib.Data.List.Perm.Subperm
import SkyClaw.PluginSensors

set_option linter.all false

/-!
The limits of the two pools of plugins (`validators/plugin_limits.py`) and
`ConflictAnalyzer.validate_load_order_limit`, which counts with the headers
only where they cover the whole list and by extension everywhere else.
-/
namespace PluginLimits
open PluginHeader PluginSensors

local instance lawfulBEq_nombre : LawfulBEq (List Char) := inferInstance

def fullPluginLimit : Nat := 254

def lightPluginLimit : Nat := 4096

def fullNearThreshold : Nat := fullPluginLimit - 4

inductive LimitKind where
  | fullExceeded
  | lightExceeded
  | fullNear
  | unreadable
  deriving DecidableEq

structure LimitIssue where
  kind : LimitKind
  severity : Severity
  detail : String
  deriving DecidableEq

structure LoadOrderLimits where
  fullCount : Nat
  lightCount : Nat
  unreadable : Nat
  issues : List LimitIssue
  deriving DecidableEq

def fullIssues (full : Nat) : List LimitIssue :=
  if fullPluginLimit < full then
    [⟨.fullExceeded, .critical, s!"Pool full excedido: {full}/{fullPluginLimit}. El juego no arranca. " ++
      "Convertí mods chicos (<2048 records nuevos) a ESL en xEdit o desactivá plugins."⟩]
  else if fullNearThreshold ≤ full then
    [⟨.fullNear, .warning,
      s!"Pool full cerca del límite: {full}/{fullPluginLimit}. Considerá ESL-ificar mods chicos."⟩]
  else []

def lightIssues (light : Nat) : List LimitIssue :=
  if lightPluginLimit < light then
    [⟨.lightExceeded, .critical,
      s!"Pool light excedido: {light}/{lightPluginLimit}. Desactivá plugins ligeros."⟩]
  else []

def unreadableIssues (unreadable : Nat) : List LimitIssue :=
  if unreadable = 0 then []
  else [⟨.unreadable, .warning, s!"{unreadable} header(s) ilegible(s): el conteo se estimó por extensión y " ++
    "puede ser aproximado (un .esp con flag ESL contaría distinto)."⟩]

/-- `_build_issues` -/
def buildIssues (full light unreadable : Nat) : List LimitIssue :=
  fullIssues full ++ lightIssues light ++ unreadableIssues unreadable

/-- What the loop of `check` carries. -/
structure Conteo where
  full : Nat
  light : Nat
  unreadable : Nat
  seen : List Texto
  deriving DecidableEq

section
variable (casefold lower : Texto → Texto)

/-- `name.lower().endswith(ext)` -/
def endsWith (ext : String) (name : Texto) : Bool := ext.toList.isSuffixOf (lower name)

/-- `_is_light`: nothing where the header cannot be read. -/
def isLight (pluginName : Texto) (e : Entry) : Option Bool :=
  match readPluginHeader e.content with
  | .ok header => some (endsWith lower ".esl" pluginName || header.isLight)
  | .error _ => none

variable (available : List (Texto × Entry))

def contar (s : Conteo) (pluginName : Texto) : Conteo :=
  let key := casefold pluginName
  if key ∈ s.seen then s
  else
    match available.lookup key with
    | none => { s with seen := key :: s.seen }
    | some e =>
      let unreadable := if isLight lower pluginName e = none then s.unreadable + 1 else s.unreadable
      if (isLight lower pluginName e).getD (endsWith lower ".esl" pluginName) then
        { s with light := s.light + 1, unreadable, seen := key :: s.seen }
      else { s with full := s.full + 1, unreadable, seen := key :: s.seen }

/-- `PluginLimitsChecker.check` -/
def check (enabledPlugins : List Texto) : LoadOrderLimits :=
  let s := enabledPlugins.foldl (contar casefold lower available) ⟨0, 0, 0, []⟩
  ⟨s.full, s.light, s.unreadable, buildIssues s.full s.light s.unreadable⟩

/-- The count of the entries as they are listed. -/
def countByExtension (plugins : List Texto) : Except String Unit :=
  let fullPlugins := plugins.filter fun p => endsWith lower ".esp" p || endsWith lower ".esm" p
  let lightPlugins := plugins.filter (endsWith lower ".esl")
  if fullPluginLimit < fullPlugins.length then
    .error (s!"Full plugin limit exceeded: {fullPlugins.length}/{fullPluginLimit}. " ++
      "Consider converting small mods (<2048 new records) to ESL format in xEdit.")
  else if lightPluginLimit < lightPlugins.length then
    .error s!"Light plugin limit exceeded: {lightPlugins.length}/{lightPluginLimit}."
  else .ok ()

variable (isSep : Char → Bool) (anchor : Texto → Nat)

/-- `PurePath(p).name`, for a platform with these separators and this length of drive and root. -/
def baseName (p : Texto) : Texto :=
  (((p.drop (anchor p)).splitOnP isSep).filter fun c => c ≠ [] ∧ c ≠ ['.']).getLastD []

/-- The error is the text of the `RuntimeError`. -/
def validateLoadOrderLimit (plugins : List Texto) (pluginDirs : Option (List Directory)) :
    Except String Unit :=
  match pluginDirs with
  | none => countByExtension lower plugins
  | some dirs =>
    let names := plugins.map (baseName isSep anchor)
    let limits := check casefold lower (indexPluginFiles casefold lower dirs) names
    let located := limits.fullCount + limits.lightCount
    let unique := (names.map casefold).dedup.length
    if unique ≤ located then
      let criticals := limits.issues.filter (·.severity = .critical)
      if criticals = [] then .ok () else .error ("; ".intercalate (criticals.map (·.detail)))
    else countByExtension lower plugins

/-! What is on disk -/

/-- Each name once, as it is spelled first, less the names already seen. -/
def firstSpellings (seen : List Texto) : List Texto → List Texto
  | [] => []
  | name :: names =>
    if casefold name ∈ seen then firstSpellings seen names
    else name :: firstSpellings (casefold name :: seen) names

/-- The distinct plugins of the list that are on disk. -/
def onDisk (names : List Texto) : List Texto :=
  (firstSpellings casefold [] names).filter fun name => (available.lookup (casefold name)).isSome

def IsLight (name : Texto) : Prop :=
  endsWith lower ".esl" name = true ∨ ∃ header ∈ headerAt available (casefold name), header.isLight = true

instance (name : Texto) : Decidable (IsLight casefold lower available name) := by
  unfold IsLight
  infer_instance

def lightOnDisk (names : List Texto) : Nat :=
  ((onDisk casefold available names).filter (IsLight casefold lower available ·)).length

def fullOnDisk (names : List Texto) : Nat :=
  ((onDisk casefold available names).filter (¬IsLight casefold lower available ·)).length

/-- The plugins on disk fit the two pools. -/
def Fits (names : List Texto) : Prop :=
  lightOnDisk casefold lower available names ≤ lightPluginLimit ∧
    fullOnDisk casefold lower available names ≤ fullPluginLimit

/-- The list, repetitions included, fits the two pools by its extensions. -/
def FitsByExtension (plugins : List Texto) : Prop :=
  (plugins.filter fun p => endsWith lower ".esp" p || endsWith lower ".esm" p).length ≤ fullPluginLimit ∧
    (plugins.filter (endsWith lower ".esl")).length ≤ lightPluginLimit

/-- The header of every plugin of the list that is on disk can be read. -/
def Readable (names : List Texto) : Prop :=
  ∀ name ∈ names, (available.lookup (casefold name)).isSome → (headerAt available (casefold name)).isSome

end

variable {casefold lower : Texto → Texto} {available : List (Texto × Entry)} {isSep : Char → Bool}
  {anchor : Texto → Nat} {names plugins : List Texto} {name : Texto}

theorem countByExtension_ok : countByExtension lower plugins = .ok () ↔ FitsByExtension lower plugins := by
  unfold countByExtension FitsByExtension
  dsimp only
  split
  · simp only [reduceCtorEq, false_iff]
    omega
  · split
    · simp only [reduceCtorEq, false_iff]
      omega
    · exact iff_of_true rfl ⟨by omega, by omega⟩

theorem criticals_eq_nil {full light unreadable : Nat} :
    (buildIssues full light unreadable).filter (·.severity = .critical) = [] ↔
      light ≤ lightPluginLimit ∧ full ≤ fullPluginLimit := by
  have ofFull : (fullIssues full).filter (·.severity = .critical) = [] ↔ full ≤ fullPluginLimit := by
    unfold fullIssues
    split
    · simp [*]
    · split <;> simp <;> omega
  have ofLight : (lightIssues light).filter (·.severity = .critical) = [] ↔ light ≤ lightPluginLimit := by
    unfold lightIssues
    split
    · simp [*]
    · simp
      omega
  have ofUnreadable : (unreadableIssues unreadable).filter (·.severity = .critical) = [] := by
    unfold unreadableIssues
    split <;> simp
  rw [buildIssues, List.filter_append, List.filter_append, ofUnreadable, List.append_nil,
    List.append_eq_nil_iff, ofFull, ofLight, and_comm]

/-! The distinct names -/

theorem mem_firstSpellings {seen : List Texto} (mem : name ∈ firstSpellings casefold seen names) :
    name ∈ names ∧ casefold name ∉ seen := by
  induction names generalizing seen with
  | nil => cases mem
  | cons first names ih =>
    unfold firstSpellings at mem
    split at mem
    · exact ⟨List.mem_cons_of_mem _ (ih mem).1, (ih mem).2⟩
    · next fresh =>
      rcases List.mem_cons.mp mem with rfl | later
      · exact ⟨List.mem_cons_self, fresh⟩
      · exact ⟨List.mem_cons_of_mem _ (ih later).1, fun old => (ih later).2 (List.mem_cons_of_mem _ old)⟩

theorem key_firstSpellings {seen : List Texto} (mem : name ∈ names) (fresh : casefold name ∉ seen) :
    casefold name ∈ (firstSpellings casefold seen names).map casefold := by
  induction names generalizing seen with
  | nil => cases mem
  | cons first names ih =>
    unfold firstSpellings
    split
    · next old =>
      rcases List.mem_cons.mp mem with rfl | later
      · exact absurd old fresh
      · exact ih later fresh
    · rw [List.map_cons]
      by_cases same : casefold name = casefold first
      · rw [same]
        exact List.mem_cons_self
      · rcases List.mem_cons.mp mem with rfl | later
        · exact absurd rfl same
        · exact List.mem_cons_of_mem _ (ih later fun old =>
            (List.mem_cons.mp old).elim same fresh)

theorem first_spelling (mem : name ∈ names) :
    ∃ first ∈ firstSpellings casefold [] names, casefold first = casefold name :=
  List.mem_map.mp (key_firstSpellings mem List.not_mem_nil)

theorem nodup_firstSpellings (seen names : List Texto) :
    ((firstSpellings casefold seen names).map casefold).Nodup := by
  induction names generalizing seen with
  | nil => exact List.nodup_nil
  | cons first names ih =>
    unfold firstSpellings
    split
    · exact ih seen
    · rw [List.map_cons, List.nodup_cons]
      refine ⟨?_, ih _⟩
      intro again
      obtain ⟨other, mem, same⟩ := List.mem_map.mp again
      exact (mem_firstSpellings mem).2 (same ▸ List.mem_cons_self)

theorem length_firstSpellings (names : List Texto) :
    (firstSpellings casefold [] names).length = (names.map casefold).dedup.length := by
  have perm : ((firstSpellings casefold [] names).map casefold).Perm (names.map casefold).dedup := by
    apply (List.perm_ext_iff_of_nodup (nodup_firstSpellings [] names) (List.nodup_dedup _)).mpr
    intro key
    rw [List.mem_dedup]
    constructor
    · intro mem
      obtain ⟨name, there, rfl⟩ := List.mem_map.mp mem
      exact List.mem_map_of_mem (mem_firstSpellings there).1
    · intro mem
      obtain ⟨name, there, rfl⟩ := List.mem_map.mp mem
      exact key_firstSpellings there List.not_mem_nil
  rw [← perm.length_eq, List.length_map]

/-! The count -/

/-- One name, and the names after it. -/
theorem contar_counts (readable : Readable casefold available names) (s : Conteo) :
    (names.foldl (contar casefold lower available) s).light = s.light +
        (((firstSpellings casefold s.seen names).filter fun n =>
          (available.lookup (casefold n)).isSome).filter (IsLight casefold lower available ·)).length ∧
      (names.foldl (contar casefold lower available) s).full = s.full +
        (((firstSpellings casefold s.seen names).filter fun n =>
          (available.lookup (casefold n)).isSome).filter (¬IsLight casefold lower available ·)).length := by
  induction names generalizing s with
  | nil => exact ⟨rfl, rfl⟩
  | cons first names ih =>
    have later : Readable casefold available names := fun n mem => readable n (List.mem_cons_of_mem _ mem)
    rw [List.foldl_cons, firstSpellings]
    by_cases old : casefold first ∈ s.seen
    · have skip : contar casefold lower available s first = s := if_pos old
      rw [skip, if_pos old]
      exact ih later s
    · rw [if_neg old, (ih later _).1, (ih later _).2]
      cases found : available.lookup (casefold first) with
      | none =>
        have next : contar casefold lower available s first = { s with seen := casefold first :: s.seen } := by
          simp only [contar, if_neg old, found]
        simp [next, found]
      | some e =>
        have there := readable first List.mem_cons_self (by simp [found])
        obtain ⟨header, read⟩ := Option.isSome_iff_exists.mp there
        obtain ⟨e', found', done⟩ := headerAt_isSome read
        have same : e' = e := Option.some.inj (found'.symm.trans found)
        rw [same] at done
        have light : isLight lower first e = some (endsWith lower ".esl" first || header.isLight) := by
          simp only [isLight, done]
        have spec : IsLight casefold lower available first ↔
            (endsWith lower ".esl" first || header.isLight) = true := by
          simp [IsLight, read]
        by_cases isIt : IsLight casefold lower available first
        · have next : contar casefold lower available s first =
              { s with light := s.light + 1, seen := casefold first :: s.seen } := by
            simp [contar, old, found, light, spec.mp isIt]
          simp only [next, List.filter_cons, found, Option.isSome_some, if_true, isIt, decide_true,
            decide_not, Bool.not_true, Bool.false_eq_true, if_false, List.length_cons, and_true]
          omega
        · have no : (endsWith lower ".esl" first || header.isLight) = false :=
            Bool.eq_false_iff.mpr fun yes => isIt (spec.mpr yes)
          have next : contar casefold lower available s first =
              { s with full := s.full + 1, seen := casefold first :: s.seen } := by
            simp [contar, old, found, light, no]
          simp only [next, List.filter_cons, found, Option.isSome_some, if_true, isIt, decide_false,
            decide_not, Bool.not_false, Bool.false_eq_true, if_false, List.length_cons, true_and]
          omega

theorem check_counts (readable : Readable casefold available names) :
    (check casefold lower available names).lightCount = lightOnDisk casefold lower available names ∧
      (check casefold lower available names).fullCount = fullOnDisk casefold lower available names := by
  obtain ⟨light, full⟩ := contar_counts readable ⟨0, 0, 0, []⟩
  constructor
  · rw [check, light, lightOnDisk, onDisk, Nat.zero_add]
  · rw [check, full, fullOnDisk, onDisk, Nat.zero_add]

/-- The headers cover the list when every name of it is on disk. -/
theorem located_iff :
    (names.map casefold).dedup.length ≤
        fullOnDisk casefold lower available names + lightOnDisk casefold lower available names ↔
      ∀ name ∈ names, (available.lookup (casefold name)).isSome := by
  have located : fullOnDisk casefold lower available names + lightOnDisk casefold lower available names =
      (onDisk casefold available names).length := by
    have parts := List.length_eq_length_filter_add (l := onDisk casefold available names)
      fun n => decide (IsLight casefold lower available n)
    simp only [fullOnDisk, lightOnDisk, decide_not]
    omega
  have bound : (onDisk casefold available names).length ≤ (firstSpellings casefold [] names).length :=
    List.length_filter_le _ _
  rw [located, ← length_firstSpellings]
  constructor
  · intro covered name mem
    have all := List.length_filter_eq_length_iff.mp (le_antisymm bound covered)
    obtain ⟨first, there, same⟩ : ∃ first ∈ firstSpellings casefold [] names,
        casefold first = casefold name := first_spelling mem
    rw [← same]
    exact all first there
  · intro all
    apply le_of_eq
    exact (List.length_filter_eq_length_iff.mpr fun name mem => all name (mem_firstSpellings mem).1).symm

theorem validate_ok {dirs : List Directory}
    (readable : Readable casefold (indexPluginFiles casefold lower dirs)
      (plugins.map (baseName isSep anchor))) :
    validateLoadOrderLimit casefold lower isSep anchor plugins (some dirs) = .ok () ↔
      if ∀ name ∈ plugins.map (baseName isSep anchor),
          ((indexPluginFiles casefold lower dirs).lookup (casefold name)).isSome then
        Fits casefold lower (indexPluginFiles casefold lower dirs) (plugins.map (baseName isSep anchor))
      else FitsByExtension lower plugins := by
  have counts : (check casefold lower (indexPluginFiles casefold lower dirs)
          (plugins.map (baseName isSep anchor))).lightCount = _ ∧
      (check casefold lower (indexPluginFiles casefold lower dirs)
          (plugins.map (baseName isSep anchor))).fullCount = _ := check_counts readable
  unfold validateLoadOrderLimit
  dsimp only
  rw [counts.1, counts.2]
  by_cases covered : ∀ name ∈ plugins.map (baseName isSep anchor),
      ((indexPluginFiles casefold lower dirs).lookup (casefold name)).isSome
  · rw [if_pos covered, if_pos (located_iff.mpr covered), Fits, ← counts.1, ← counts.2, check]
    dsimp only
    rw [← criticals_eq_nil]
    split
    · next none_ => exact iff_of_true rfl none_
    · next some_ => exact iff_of_false nofun some_
  · rw [if_neg covered, if_neg fun located => covered (located_iff.mp located), countByExtension_ok]

/-- Passing means fitting exactly when the fallback to the extensions, which a missing plugin
brings about, does not hide an overflow that is already on disk. -/
theorem overflow_stopped (plugins : List Texto) (pluginDirs : List Directory)
    (readable : Readable casefold (indexPluginFiles casefold lower pluginDirs)
      (plugins.map (baseName isSep anchor))) :
    (validateLoadOrderLimit casefold lower isSep anchor plugins (some pluginDirs) = .ok () →
        Fits casefold lower (indexPluginFiles casefold lower pluginDirs)
          (plugins.map (baseName isSep anchor))) ↔
      ((∃ name ∈ plugins.map (baseName isSep anchor),
          (indexPluginFiles casefold lower pluginDirs).lookup (casefold name) = none) →
        ¬Fits casefold lower (indexPluginFiles casefold lower pluginDirs)
          (plugins.map (baseName isSep anchor)) →
        ¬FitsByExtension lower plugins) := by
  have missing : (∃ name ∈ plugins.map (baseName isSep anchor),
      (indexPluginFiles casefold lower pluginDirs).lookup (casefold name) = none) ↔
      ¬∀ name ∈ plugins.map (baseName isSep anchor),
        ((indexPluginFiles casefold lower pluginDirs).lookup (casefold name)).isSome := by
    simp only [not_forall, Option.isSome_iff_ne_none, ne_eq, not_not, exists_prop]
  rw [validate_ok readable, missing]
  split
  · next covered => exact iff_of_true id fun absent => absurd covered absent
  · next absent =>
    constructor
    · intro sound _ over_ fits
      exact over_ (sound fits)
    · intro stopped fits
      by_contra over_
      exact stopped absent over_ fits

/-! A list that passes with one light plugin too many -/

def lowercase (t : Texto) : Texto := t.map Char.toLower

theorem length_le_light {keys : List Texto} (nodup : keys.Nodup)
    (each : ∀ key ∈ keys, key ∈ names.map casefold ∧
      ∃ header ∈ headerAt available key, header.isLight = true) :
    keys.length ≤ lightOnDisk casefold lower available names := by
  have inside : keys ⊆ ((onDisk casefold available names).filter
      (IsLight casefold lower available ·)).map casefold := by
    intro key mem
    obtain ⟨listed, header, found, light⟩ := each key mem
    obtain ⟨name, there, rfl⟩ := List.mem_map.mp listed
    obtain ⟨first, spelled, same⟩ : ∃ first ∈ firstSpellings casefold [] names,
        casefold first = casefold name := first_spelling there
    obtain ⟨e, onDisk, -⟩ := headerAt_isSome found
    rw [← same] at found onDisk ⊢
    apply List.mem_map_of_mem
    apply List.mem_filter.mpr
    exact ⟨List.mem_filter.mpr ⟨spelled, by rw [onDisk]; rfl⟩, decide_eq_true (Or.inr ⟨header, found, light⟩)⟩
  have length := (List.subperm_of_subset nodup inside).length_le
  rw [List.length_map] at length
  exact length

theorem baseName_plain (clean : ∀ c ∈ name, isSep c = false) (whole : anchor name = 0)
    (some_ : name ≠ []) (other : name ≠ ['.']) : baseName isSep anchor name = name := by
  have one : name.splitOnP isSep = [name] := List.splitOnP_eq_singleton clean
  simp [baseName, whole, one, some_, other]

/-- The header of a plugin with the light flag and nothing else. -/
def flagged : Bytes := TES4 ++ [0, 0, 0, 0, 0, 2] ++ List.replicate 14 0

theorem read_flagged : readPluginHeader (some flagged) = .ok ⟨[], false, true, 0⟩ := by
  have nothing : parseMasters [] 0 none [] = .ok [] := parse_end rfl
  change (do
    let masters ← parseMasters [] 0 none []
    return Header.mk masters false true 0) = _
  rw [nothing]
  rfl

def esl (i : Nat) : Texto := List.replicate (i + 1) 'a' ++ ".esl".toList

/-- Light plugins, of which the last one has the extension of the others. -/
def lightEntries (n : Nat) : List Entry :=
  (List.range n).map (fun i => ⟨esl i, some true, some flagged⟩) ++
    [⟨"b.esp".toList, some true, some flagged⟩]

/-- The same plugins and one that is not on disk. -/
def overlong (n : Nat) : List Texto := "b.esp".toList :: "gone.esm".toList :: (List.range n).map esl

theorem lookup_lightEntries (n : Nat) (key : Texto) :
    (indexPluginFiles lowercase lowercase [some (lightEntries n)]).lookup key =
      (lightEntries n).find? fun e =>
        isPlugin lowercase e && lowercase e.name = key := by
  rw [lookup_indexPluginFiles]
  simp

theorem lower_esl (i : Nat) : lowercase (esl i) = esl i := by
  rw [lowercase, esl, List.map_append, List.map_replicate]
  rfl

theorem isPlugin_esl (i : Nat) : isPlugin lowercase ⟨esl i, some true, some flagged⟩ = true := by
  have ext : suffix (esl i) = ".esl".toList := by
    simp [suffix, esl]
  simp [isPlugin, ext]
  decide

theorem esl_injective : Function.Injective esl := by
  intro i j same
  have lengths := congrArg List.length same
  simp [esl] at lengths
  exact lengths

theorem baseName_esl (i : Nat) : baseName (· == '/') (fun _ => 0) (esl i) = esl i := by
  apply baseName_plain _ rfl
  · simp [esl]
  · intro same
    have length := congrArg List.length same
    simp [esl] at length
  · intro c mem
    rcases List.mem_append.mp mem with a | ext
    · rw [List.eq_of_mem_replicate a]
      rfl
    · have plain : ".esl".toList.all (· != '/') = true := by decide
      have other := List.all_eq_true.mp plain c ext
      rwa [bne, Bool.not_eq_true'] at other

theorem names_overlong (n : Nat) :
    (overlong n).map (baseName (· == '/') fun _ => 0) = overlong n := by
  have each : ((List.range n).map esl).map (baseName (· == '/') fun _ => 0) = (List.range n).map esl := by
    rw [List.map_map]
    exact List.map_congr_left fun i _ => baseName_esl i
  rw [overlong, List.map_cons, List.map_cons, each]
  rfl

theorem headerAt_lightEntries {n : Nat} {key : Texto}
    (there : ∃ e ∈ lightEntries n, isPlugin lowercase e = true ∧ lowercase e.name = key) :
    headerAt (indexPluginFiles lowercase lowercase [some (lightEntries n)]) key =
      some ⟨[], false, true, 0⟩ := by
  have found : ((lightEntries n).find? fun e =>
      isPlugin lowercase e && lowercase e.name = key).isSome := by
    obtain ⟨e, mem, plugin, same⟩ := there
    exact List.find?_isSome.mpr ⟨e, mem, by simp [plugin, same]⟩
  obtain ⟨e, here⟩ := Option.isSome_iff_exists.mp found
  have content : e.content = some flagged := by
    rcases List.mem_append.mp (List.mem_of_find?_eq_some here) with old | last
    · obtain ⟨i, -, rfl⟩ := List.mem_map.mp old
      rfl
    · rw [List.mem_singleton.mp last]
  simp only [headerAt, lookup_lightEntries, here, content, read_flagged, Except.toOption]

theorem light_overlong {n : Nat} {name : Texto} (mem : name ∈ "b.esp".toList :: (List.range n).map esl) :
    lowercase name = name ∧
      headerAt (indexPluginFiles lowercase lowercase [some (lightEntries n)]) name =
        some ⟨[], false, true, 0⟩ := by
  rcases List.mem_cons.mp mem with rfl | listed
  · refine ⟨by decide, headerAt_lightEntries ⟨_, List.mem_append_right _ (List.mem_singleton_self _), ?_⟩⟩
    decide
  · obtain ⟨i, inside, rfl⟩ := List.mem_map.mp listed
    exact ⟨lower_esl i, headerAt_lightEntries ⟨_, List.mem_append_left _ (List.mem_map_of_mem inside),
      isPlugin_esl i, lower_esl i⟩⟩

theorem gone_overlong (n : Nat) :
    (indexPluginFiles lowercase lowercase [some (lightEntries n)]).lookup
      "gone.esm".toList = none := by
  rw [lookup_lightEntries, List.find?_eq_none]
  intro e mem same
  have length : lowercase e.name = "gone.esm".toList :=
    of_decide_eq_true (Bool.and_eq_true_iff.mp same).2
  rcases List.mem_append.mp mem with old | last
  · obtain ⟨i, -, rfl⟩ := List.mem_map.mp old
    rw [lower_esl, esl, List.replicate_succ] at length
    cases length
  · rw [List.mem_singleton.mp last] at length
    revert length
    decide

theorem readable_overlong (n : Nat) :
    Readable lowercase
      (indexPluginFiles lowercase lowercase [some (lightEntries n)]) (overlong n) := by
  intro name mem there
  have light (mem : name ∈ "b.esp".toList :: (List.range n).map esl) :
      (headerAt (indexPluginFiles lowercase lowercase [some (lightEntries n)]) (lowercase name)).isSome := by
    rw [(light_overlong mem).1, (light_overlong mem).2]
    rfl
  rcases List.mem_cons.mp mem with rfl | mem
  · exact light List.mem_cons_self
  · rcases List.mem_cons.mp mem with rfl | mem
    · have same : lowercase "gone.esm".toList = "gone.esm".toList := by decide
      rw [same, gone_overlong] at there
      cases there
    · exact light (List.mem_cons_of_mem _ mem)

theorem length_light_overlong (n : Nat) :
    n + 1 ≤ lightOnDisk lowercase lowercase
      (indexPluginFiles lowercase lowercase [some (lightEntries n)]) (overlong n) := by
  have nodup : ("b.esp".toList :: (List.range n).map esl).Nodup := by
    rw [List.nodup_cons]
    refine ⟨?_, (List.nodup_range).map esl_injective⟩
    intro mem
    obtain ⟨i, -, same⟩ := List.mem_map.mp mem
    rw [esl, List.replicate_succ] at same
    cases same
  have counted : ("b.esp".toList :: (List.range n).map esl).length ≤ lightOnDisk lowercase lowercase
      (indexPluginFiles lowercase lowercase [some (lightEntries n)]) (overlong n) :=
    length_le_light nodup fun key mem => by
      obtain ⟨small, light⟩ := light_overlong mem
      refine ⟨?_, _, light, rfl⟩
      rw [← small]
      apply List.mem_map_of_mem
      rcases List.mem_cons.mp mem with rfl | old
      · exact List.mem_cons_self
      · exact List.mem_cons_of_mem _ (List.mem_cons_of_mem _ old)
  rw [List.length_cons, List.length_map, List.length_range] at counted
  exact counted

theorem fits_overlong {n : Nat} (small : n ≤ lightPluginLimit) :
    FitsByExtension lowercase (overlong n) := by
  have notFull : ((List.range n).map esl).filter (fun p =>
      endsWith lowercase ".esp" p || endsWith lowercase ".esm" p) = [] := by
    rw [List.filter_eq_nil_iff]
    intro name mem
    obtain ⟨i, -, rfl⟩ := List.mem_map.mp mem
    simp [endsWith, lowercase, esl, List.isSuffixOf]
  constructor
  · rw [overlong, List.filter_cons, List.filter_cons, notFull]
    decide
  · rw [overlong, List.filter_cons, List.filter_cons]
    have length := List.length_filter_le (endsWith lowercase ".esl") ((List.range n).map esl)
    rw [List.length_map, List.length_range] at length
    exact le_trans length small

/-- The light plugins on disk, with extension .esl or by their flag, are one more than fit, and
the plugin that is missing turns the count by the headers into a count by the extensions. -/
theorem overflow_passes :
    Readable lowercase (indexPluginFiles lowercase lowercase [some (lightEntries 4096)])
        ((overlong 4096).map (baseName (· == '/') fun _ => 0)) ∧
      validateLoadOrderLimit lowercase lowercase (· == '/') (fun _ => 0) (overlong 4096)
        (some [some (lightEntries 4096)]) = .ok () ∧
      ¬Fits lowercase lowercase (indexPluginFiles lowercase lowercase [some (lightEntries 4096)])
        ((overlong 4096).map (baseName (· == '/') fun _ => 0)) := by
  have readable : Readable lowercase (indexPluginFiles lowercase lowercase [some (lightEntries 4096)])
      ((overlong 4096).map (baseName (· == '/') fun _ => 0)) := by
    rw [names_overlong]
    exact readable_overlong 4096
  refine ⟨readable, ?_, ?_⟩
  · rw [validate_ok readable, if_neg]
    · exact fits_overlong (le_refl _)
    · intro all
      rw [names_overlong] at all
      have gone := all "gone.esm".toList (List.mem_cons_of_mem _ List.mem_cons_self)
      have same : lowercase "gone.esm".toList = "gone.esm".toList := by decide
      rw [same, gone_overlong] at gone
      cases gone
  · intro fits
    rw [names_overlong] at fits
    exact absurd fits.1 (Nat.not_le.mpr (length_light_overlong 4096))

theorem overflow_stopped_missing :
    (overlong 1).length = 3 ∧
      ((validateLoadOrderLimit lowercase lowercase (· == '/') (fun _ => 0) (overlong 1)
          (some [some (lightEntries 1)]) = .ok () →
        Fits lowercase lowercase (indexPluginFiles lowercase lowercase [some (lightEntries 1)])
          ((overlong 1).map (baseName (· == '/') fun _ => 0))) ↔
      ((∃ name ∈ (overlong 1).map (baseName (· == '/') fun _ => 0),
          (indexPluginFiles lowercase lowercase [some (lightEntries 1)]).lookup (lowercase name) = none) →
        ¬Fits lowercase lowercase (indexPluginFiles lowercase lowercase [some (lightEntries 1)])
          ((overlong 1).map (baseName (· == '/') fun _ => 0)) →
        ¬FitsByExtension lowercase (overlong 1))) :=
  ⟨rfl, overflow_stopped (overlong 1) [some (lightEntries 1)]
    (by rw [names_overlong]; exact readable_overlong 1)⟩

end PluginLimits
