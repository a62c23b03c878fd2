import Mathlib
import SkyClaw.PluginHeader

set_option linter.all false

/-!
The two sensors of the masters of a load order: `validators/missing_masters.py`
asks whether each one is there, `validators/master_order.py` whether it loads
before the plugin that declares it. Each leaves cases to the other.
-/
namespace PluginSensors
open PluginHeader Checks

local instance lawfulBEq_nombre : LawfulBEq (List Char) := inferInstance

/-- An entry of a directory of plugins, in the order of `sorted`. -/
structure Entry where
  name : Texto
  /-- Nothing where `is_file` raises `OSError`. -/
  isFile : Option Bool
  content : Option Bytes
  deriving DecidableEq

/-- The entries of a directory, or nothing where it cannot be listed. -/
abbrev Directory := Option (List Entry)

/-- `PurePath(name).suffix` of a name without separators. -/
def suffix (name : Texto) : Texto :=
  let ext := (name.reverse.takeWhile (· ≠ '.')).reverse
  let stem := name.take (name.length - ext.length - 1)
  if '.' ∈ name ∧ stem ≠ [] ∧ ext ≠ [] then '.' :: ext else []

def pluginSuffixes : List Texto := [".esp".toList, ".esm".toList, ".esl".toList]

def masterBlockSuffixes : List Texto := [".esm".toList, ".esl".toList]

section
variable (casefold lower : Texto → Texto)

def isPlugin (e : Entry) : Bool := e.isFile = some true && lower (suffix e.name) ∈ pluginSuffixes

def setdefault (available : List (Texto × Entry)) (e : Entry) : List (Texto × Entry) :=
  match available.lookup (casefold e.name) with
  | some _ => available
  | none => available ++ [(casefold e.name, e)]

/-- The first directory that has the name wins. -/
def indexPluginFiles (pluginDirs : List Directory) : List (Texto × Entry) :=
  ((pluginDirs.flatMap (·.getD [])).filter (isPlugin lower)).foldl (setdefault casefold) []

/-! Missing masters -/

inductive IssueKind where
  | missing
  | disabled
  | unreadable
  | pluginNotFound
  deriving DecidableEq

inductive Severity where
  | critical
  | warning
  deriving DecidableEq

structure MasterIssue where
  plugin : Texto
  master : Option Texto
  kind : IssueKind
  severity : Severity
  deriving DecidableEq

inductive PreflightStatus where
  | green
  | yellow
  | red
  deriving DecidableEq

variable (available : List (Texto × Entry)) (enabled : List Texto)

def masterIssue (plugin master : Texto) : Option MasterIssue :=
  let key := casefold master
  if key ∈ enabled.map casefold ∧ (available.lookup key).isSome then none
  else if (available.lookup key).isSome then some ⟨plugin, some master, .disabled, .critical⟩
  else some ⟨plugin, some master, .missing, .critical⟩

def pluginIssues (plugin : Texto) : List MasterIssue :=
  match available.lookup (casefold plugin) with
  | none => [⟨plugin, none, .pluginNotFound, .warning⟩]
  | some e =>
    match readPluginHeader e.content with
    | .error _ => [⟨plugin, none, .unreadable, .warning⟩]
    | .ok header => header.masters.filterMap (masterIssue casefold available enabled plugin)

/-- `MissingMastersChecker.check` -/
def missingMasters : List MasterIssue := enabled.flatMap (pluginIssues casefold available enabled)

def mastersPreflightCheck (issues : List MasterIssue) : PreflightStatus :=
  if issues = [] then .green
  else if issues.any (·.severity = .critical) then .red
  else .yellow

/-! Order of the masters -/

structure OrderIssue where
  plugin : Texto
  master : Texto
  pluginIndex : Nat
  masterIndex : Nat
  deriving DecidableEq

def readHeader (headers : List (Texto × Header)) (name : Texto) : List (Texto × Header) :=
  let key := casefold name
  match headers.lookup key, available.lookup key with
  | none, some e =>
    match readPluginHeader e.content with
    | .ok header => headers ++ [(key, header)]
    | .error _ => headers
  | _, _ => headers

/-- The headers that can be read, each name once. -/
def readHeaders : List (Texto × Header) := enabled.foldl (readHeader casefold available) []

/-- The extension of a name of the load order. -/
def masterExtension (name : Texto) : Bool := casefold (suffix name) ∈ masterBlockSuffixes

/-- `is_master.get(key, False)`: by the extension, to which the flag of a header only adds. -/
def isMaster (headers : List (Texto × Header)) (key : Texto) : Bool :=
  match enabled.reverse.find? (casefold · = key) with
  | some name => masterExtension casefold name || ((headers.lookup key).map (·.isMaster)).getD false
  | none => false

def effectiveLoadOrder (isMaster : Texto → Bool) : List Texto :=
  enabled.filter (fun name => isMaster (casefold name)) ++
    enabled.filter fun name => !isMaster (casefold name)

/-- Where a name first stands in the order. -/
def posicion (efectivo : List Texto) (key : Texto) : Nat := (efectivo.map casefold).idxOf key

def orderIssue (headers : List (Texto × Header)) (efectivo : List Texto) (plugin master : Texto) :
    Option OrderIssue :=
  let indicePlugin := posicion casefold efectivo (casefold plugin)
  let indiceMaster := posicion casefold efectivo (casefold master)
  if (headers.lookup (casefold master)).isNone then none
  else if indiceMaster < indicePlugin then none
  else some ⟨plugin, master, indicePlugin, indiceMaster⟩

/-- `MasterOrderChecker.check` -/
def masterOrder : List OrderIssue :=
  let headers := readHeaders casefold available enabled
  let efectivo := effectiveLoadOrder casefold enabled (isMaster casefold enabled headers)
  efectivo.flatMap fun plugin =>
    match headers.lookup (casefold plugin) with
    | none => []
    | some header => header.masters.filterMap (orderIssue casefold headers efectivo plugin)

def orderPreflightCheck (issues : List OrderIssue) : PreflightStatus :=
  if issues = [] then .green else .red

/-! What the load order has to be -/

/-- The header of the file that a key stands for. -/
def headerAt (key : Texto) : Option Header :=
  match available.lookup key with
  | some e => (readPluginHeader e.content).toOption
  | none => none

/-- The engine loads the plugin with the masters. -/
def LoadsFirst (name : Texto) : Prop :=
  masterExtension casefold name = true ∨
    ∃ header ∈ headerAt available (casefold name), header.isMaster = true

instance (name : Texto) : Decidable (LoadsFirst casefold available name) := by
  unfold LoadsFirst
  infer_instance

def engineOrder : List Texto :=
  enabled.filter (LoadsFirst casefold available ·) ++
    enabled.filter (¬LoadsFirst casefold available ·)

/-- A name with this key stands before one with that key. -/
def Before (order : List Texto) (first second : Texto) : Prop :=
  ∃ front back, order.map casefold = front ++ second :: back ∧ first ∈ front

/-- The plugin is on disk with a header, and each of its masters is enabled, on disk and before it. -/
def Loadable (name : Texto) : Prop :=
  ∃ header ∈ headerAt available (casefold name), ∀ master ∈ header.masters,
    casefold master ∈ enabled.map casefold ∧ (available.lookup (casefold master)).isSome ∧
      Before casefold (engineOrder casefold available enabled) (casefold master) (casefold name)

end

/-! The index -/

variable {casefold lower : Texto → Texto} {available : List (Texto × Entry)} {enabled : List Texto}
  {name key : Texto} {header : Header}

theorem lookup_append_singleton {β : Type} (l : List (Texto × β)) (k : Texto) (v : β) (a : Texto) :
    (l ++ [(k, v)]).lookup a = (l.lookup a).or (if a = k then some v else none) := by
  rw [List.lookup_append]
  congr 1
  by_cases same : a = k
  · simp [List.lookup, same]
  · simp [List.lookup, same, beq_eq_false_iff_ne.mpr same]

theorem lookup_foldl_setdefault (entries : List Entry) (start : List (Texto × Entry)) :
    (entries.foldl (setdefault casefold) start).lookup key =
      (start.lookup key).or (entries.find? (casefold ·.name = key)) := by
  induction entries generalizing start with
  | nil => simp
  | cons e entries ih =>
    rw [List.foldl_cons, ih, List.find?_cons]
    unfold setdefault
    split
    · next found =>
      by_cases same : casefold e.name = key
      · rw [same] at found
        simp [found]
      · simp [same]
    · next absent =>
      rw [lookup_append_singleton]
      by_cases same : casefold e.name = key
      · rw [same] at absent
        simp [absent, same]
      · simp [same, Ne.symm same]

/-- A name stands for the first plugin that has it, directory by directory. -/
theorem lookup_indexPluginFiles (pluginDirs : List Directory) :
    (indexPluginFiles casefold lower pluginDirs).lookup key =
      (pluginDirs.flatMap (·.getD [])).find? fun e => isPlugin lower e && casefold e.name = key := by
  rw [indexPluginFiles, lookup_foldl_setdefault, List.lookup_nil, Option.none_or, List.find?_filter]
  simp

/-! The headers -/

theorem lookup_readHeader (headers : List (Texto × Header)) :
    (readHeader casefold available headers name).lookup key =
      (headers.lookup key).or (if key = casefold name then headerAt available key else none) := by
  unfold readHeader headerAt
  by_cases same : key = casefold name
  · subst same
    cases known : headers.lookup (casefold name) with
    | some header => simp [known]
    | none =>
      cases found : available.lookup (casefold name) with
      | none => simp [known, found]
      | some e =>
        cases done : readPluginHeader e.content with
        | error error => simp [known, found, done, Except.toOption]
        | ok header => simp [lookup_append_singleton, known, found, done, Except.toOption]
  · rw [if_neg same, Option.or_none]
    dsimp only
    split
    · split
      · rw [lookup_append_singleton, if_neg same, Option.or_none]
      · rfl
    · rfl

theorem lookup_readHeaders :
    (readHeaders casefold available enabled).lookup key =
      if key ∈ enabled.map casefold then headerAt available key else none := by
  have general : ∀ start : List (Texto × Header),
      (enabled.foldl (readHeader casefold available) start).lookup key =
        (start.lookup key).or (if key ∈ enabled.map casefold then headerAt available key else none) := by
    induction enabled with
    | nil => simp
    | cons name enabled ih =>
      intro start
      rw [List.foldl_cons, ih, lookup_readHeader, Option.or_assoc]
      congr 1
      simp only [List.map_cons, List.mem_cons]
      by_cases here : key = casefold name
      · simp only [here, true_or, if_true]
        split
        · exact Option.or_self
        · exact Option.or_none
      · simp only [here, if_false, Option.none_or, false_or]
  rw [readHeaders, general, List.lookup_nil, Option.none_or]

theorem headerAt_isSome (found : header ∈ headerAt available key) :
    ∃ e, available.lookup key = some e ∧ readPluginHeader e.content = .ok header := by
  unfold headerAt at found
  split at found
  · next e there =>
    cases done : readPluginHeader e.content with
    | error error => simp [done, Except.toOption] at found
    | ok h =>
      simp only [done, Except.toOption, Option.mem_def, Option.some.injEq] at found
      exact ⟨e, there, found ▸ done⟩
  · cases found

/-! Each sensor on its own -/

theorem masterIssue_eq_none {master : Texto} :
    masterIssue casefold available enabled name master = none ↔
      casefold master ∈ enabled.map casefold ∧ (available.lookup (casefold master)).isSome := by
  unfold masterIssue
  dsimp only
  split
  · next fine => exact iff_of_true rfl fine
  · next other => split <;> exact iff_of_false nofun other

theorem pluginIssues_eq_nil :
    pluginIssues casefold available enabled name = [] ↔
      ∃ header ∈ headerAt available (casefold name), ∀ master ∈ header.masters,
        casefold master ∈ enabled.map casefold ∧ (available.lookup (casefold master)).isSome := by
  unfold pluginIssues headerAt
  cases found : available.lookup (casefold name) with
  | none => simp
  | some e =>
    cases done : readPluginHeader e.content with
    | error error => simp [done, Except.toOption]
    | ok header =>
      simp only [done, Except.toOption, List.filterMap_eq_nil_iff, masterIssue_eq_none, Option.mem_def,
        Option.some.injEq, exists_eq_left']

theorem masters_green :
    mastersPreflightCheck (missingMasters casefold available enabled) = .green ↔
      ∀ name ∈ enabled, ∃ header ∈ headerAt available (casefold name), ∀ master ∈ header.masters,
        casefold master ∈ enabled.map casefold ∧ (available.lookup (casefold master)).isSome := by
  have empty : mastersPreflightCheck (missingMasters casefold available enabled) = .green ↔
      missingMasters casefold available enabled = [] := by
    unfold mastersPreflightCheck
    split
    · simp [*]
    · split <;> simp [*]
  rw [empty, missingMasters, List.flatMap_eq_nil_iff]
  simp only [pluginIssues_eq_nil]

theorem orderIssue_eq_none {headers : List (Texto × Header)} {efectivo : List Texto} {master : Texto} :
    orderIssue casefold headers efectivo name master = none ↔
      ((headers.lookup (casefold master)).isSome →
        posicion casefold efectivo (casefold master) < posicion casefold efectivo (casefold name)) := by
  unfold orderIssue
  cases headers.lookup (casefold master) with
  | none => simp
  | some header => simp

theorem order_green :
    orderPreflightCheck (masterOrder casefold available enabled) = .green ↔
      ∀ name ∈ effectiveLoadOrder casefold enabled
          (isMaster casefold enabled (readHeaders casefold available enabled)),
        ∀ header ∈ (readHeaders casefold available enabled).lookup (casefold name),
          ∀ master ∈ header.masters,
            ((readHeaders casefold available enabled).lookup (casefold master)).isSome →
            posicion casefold (effectiveLoadOrder casefold enabled
                (isMaster casefold enabled (readHeaders casefold available enabled)))
                (casefold master) <
              posicion casefold (effectiveLoadOrder casefold enabled
                (isMaster casefold enabled (readHeaders casefold available enabled)))
                (casefold name) := by
  have empty : orderPreflightCheck (masterOrder casefold available enabled) = .green ↔
      masterOrder casefold available enabled = [] := by
    unfold orderPreflightCheck
    split <;> simp [*]
  rw [empty, masterOrder, List.flatMap_eq_nil_iff]
  constructor
  · intro clear name mem header found master declared
    have none_ := clear name mem
    rw [Option.mem_def.mp found] at none_
    exact orderIssue_eq_none.mp (List.filterMap_eq_nil_iff.mp none_ master declared)
  · intro clear name mem
    split
    · rfl
    · next header found =>
      apply List.filterMap_eq_nil_iff.mpr
      intro master declared
      exact orderIssue_eq_none.mpr (clear name mem header found master declared)

/-! Both together -/

variable (nodup : (enabled.map casefold).Nodup)
include nodup

/-- Without repeated names the entry of a name is its own. -/
theorem isMaster_eq (mem : name ∈ enabled) :
    isMaster casefold enabled (readHeaders casefold available enabled) (casefold name) =
      decide (LoadsFirst casefold available name) := by
  have own : enabled.reverse.find? (casefold · = casefold name) = some name := by
    cases found : enabled.reverse.find? (casefold · = casefold name) with
    | none =>
      have absent := List.find?_eq_none.mp found name (List.mem_reverse.mpr mem)
      simp at absent
    | some other =>
      have same : casefold other = casefold name := by simpa using List.find?_some found
      have inside := List.mem_reverse.mp (List.mem_of_find?_eq_some found)
      rw [List.inj_on_of_nodup_map nodup inside mem same]
  have header : (readHeaders casefold available enabled).lookup (casefold name) =
      headerAt available (casefold name) := by
    rw [lookup_readHeaders, if_pos (List.mem_map_of_mem mem)]
  rw [isMaster, own, header, Bool.eq_iff_iff, decide_eq_true_iff, LoadsFirst, Bool.or_eq_true]
  cases headerAt available (casefold name) <;> simp

theorem effective_eq_engine :
    effectiveLoadOrder casefold enabled
        (isMaster casefold enabled (readHeaders casefold available enabled)) =
      engineOrder casefold available enabled := by
  unfold effectiveLoadOrder engineOrder
  congr 1
  · exact List.filter_congr fun name mem => isMaster_eq nodup mem
  · apply List.filter_congr
    intro name mem
    rw [isMaster_eq nodup mem, decide_not]

omit nodup in
theorem engineOrder_perm : ((engineOrder casefold available enabled).map casefold).Perm
    (enabled.map casefold) := by
  apply List.Perm.map
  unfold engineOrder
  have split_ := List.filter_append_perm (fun name => decide (LoadsFirst casefold available name)) enabled
  simpa using split_

omit nodup in
theorem before_iff {order : List Texto} {first second : Texto} (nodup : (order.map casefold).Nodup)
    (mem : second ∈ order.map casefold) :
    Before casefold order first second ↔
      posicion casefold order first < posicion casefold order second := by
  unfold posicion
  constructor
  · rintro ⟨front, back, split_, inside⟩
    rw [split_] at nodup ⊢
    have notInside : second ∉ front := by
      intro again
      exact (List.disjoint_of_nodup_append nodup) again List.mem_cons_self
    rw [List.idxOf_append_of_mem inside, List.idxOf_append_of_notMem notInside, List.idxOf_cons_self]
    exact Nat.lt_add_right _ (List.idxOf_lt_length_iff.mpr inside)
  · intro earlier
    have bound := List.idxOf_lt_length_iff.mpr mem
    refine ⟨(order.map casefold).take ((order.map casefold).idxOf second),
      (order.map casefold).drop ((order.map casefold).idxOf second + 1), ?_, ?_⟩
    · have here : (order.map casefold)[(order.map casefold).idxOf second] = second :=
        List.getElem_idxOf bound
      conv_lhs => rw [← List.take_append_drop ((order.map casefold).idxOf second) (order.map casefold),
        List.drop_eq_getElem_cons bound, here]
    · rw [List.mem_take_iff_getElem]
      refine ⟨(order.map casefold).idxOf first, by omega, ?_⟩
      exact List.getElem_idxOf (by omega)

/-- The two sensors are green together exactly on the load orders that load. -/
theorem sensors_green_iff :
    mastersPreflightCheck (missingMasters casefold available enabled) = .green ∧
        orderPreflightCheck (masterOrder casefold available enabled) = .green ↔
      ∀ name ∈ enabled, Loadable casefold available enabled name := by
  have perm : ((engineOrder casefold available enabled).map casefold).Perm (enabled.map casefold) :=
    engineOrder_perm
  have orderNodup := perm.nodup_iff.mpr nodup
  rw [masters_green, order_green, effective_eq_engine nodup]
  have members : ∀ name, name ∈ engineOrder casefold available enabled ↔ name ∈ enabled := by
    intro name
    unfold engineOrder
    by_cases first : LoadsFirst casefold available name <;> simp [first]
  constructor
  · rintro ⟨present_, ordered⟩ name mem
    obtain ⟨header, found, masters⟩ := present_ name mem
    refine ⟨header, found, fun master declared => ?_⟩
    obtain ⟨isEnabled, onDisk⟩ := masters master declared
    refine ⟨isEnabled, onDisk, ?_⟩
    have inOrder : casefold name ∈ (engineOrder casefold available enabled).map casefold :=
      perm.mem_iff.mpr (List.mem_map_of_mem mem)
    apply (before_iff orderNodup inOrder).mpr
    apply ordered name ((members name).mpr mem) header _ master declared
    · -- the master is enabled, so the first sensor has found its header readable
      obtain ⟨other, otherMem, same⟩ := List.mem_map.mp isEnabled
      obtain ⟨masterHeader, there, -⟩ := present_ other otherMem
      rw [lookup_readHeaders, if_pos isEnabled, ← same, Option.mem_def.mp there]
      rfl
    · rw [lookup_readHeaders, if_pos (List.mem_map_of_mem mem)]
      exact found
  · intro loadable
    constructor
    · intro name mem
      obtain ⟨header, found, masters⟩ := loadable name mem
      exact ⟨header, found, fun master declared =>
        ⟨(masters master declared).1, (masters master declared).2.1⟩⟩
    · intro name mem header found master declared there
      have mem := (members name).mp mem
      obtain ⟨own, ownFound, masters⟩ := loadable name mem
      rw [lookup_readHeaders, if_pos (List.mem_map_of_mem mem)] at found
      have same : header = own := Option.some.inj (found.symm.trans ownFound)
      have inOrder : casefold name ∈ (engineOrder casefold available enabled).map casefold :=
        perm.mem_iff.mpr (List.mem_map_of_mem mem)
      exact (before_iff orderNodup inOrder).mp (masters master (same ▸ declared)).2.2

/-- The same over the files of the directories, which both sensors index alike. -/
theorem sensors_complete (pluginDirs : List Directory) :
    mastersPreflightCheck
          (missingMasters casefold (indexPluginFiles casefold lower pluginDirs) enabled) = .green ∧
        orderPreflightCheck
          (masterOrder casefold (indexPluginFiles casefold lower pluginDirs) enabled) = .green ↔
      ∀ name ∈ enabled, Loadable casefold (indexPluginFiles casefold lower pluginDirs) enabled name :=
  sensors_green_iff nodup

omit nodup in
theorem sensors_complete_two :
    (["A.esm".toList, "b.esp".toList].map fun n => n.map Char.toLower).Nodup ∧
      (mastersPreflightCheck (missingMasters (·.map Char.toLower)
          (indexPluginFiles (·.map Char.toLower) (·.map Char.toLower)
            [some [⟨"a.esm".toList, some true, some oneMaster.encode⟩], none])
          ["A.esm".toList, "b.esp".toList]) = .green ∧
        orderPreflightCheck (masterOrder (·.map Char.toLower)
          (indexPluginFiles (·.map Char.toLower) (·.map Char.toLower)
            [some [⟨"a.esm".toList, some true, some oneMaster.encode⟩], none])
          ["A.esm".toList, "b.esp".toList]) = .green ↔
        ∀ name ∈ ["A.esm".toList, "b.esp".toList], Loadable (·.map Char.toLower)
          (indexPluginFiles (·.map Char.toLower) (·.map Char.toLower)
            [some [⟨"a.esm".toList, some true, some oneMaster.encode⟩], none])
          ["A.esm".toList, "b.esp".toList] name) :=
  ⟨by decide, sensors_complete (by decide) _⟩

end PluginSensors
