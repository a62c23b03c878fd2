import Mathlib.Data.Finset.Card
import Mathlib.Data.List.Sort
import Mathlib.Logic.Function.Basic

set_option linter.all false

/-!
`FomodResolver.resolve`, in `resolver.py`, over a parsed configuration. The
state of the installed plugins is any function, or none. What a group installs
is a `Visita`; the flags that a condition sees are those of the visits before it.
-/
namespace FomodResolver

inductive GroupType where
  | selectExactlyOne
  | selectAtMostOne
  | selectAtLeastOne
  | selectAll
  | selectAny
  deriving DecidableEq

inductive FileState where
  | active
  | inactive
  | missing
  deriving DecidableEq

inductive PluginType where
  | required
  | optional
  | recommended
  | couldBeUsable
  | notUsable
  deriving DecidableEq

inductive Operator where
  | and
  | or
  deriving DecidableEq

structure FlagDependency where
  flag : String
  value : String

structure FileDependency where
  file : String
  state : FileState

inductive CompositeDependency where
  | mk (operator : Operator) (flagDeps : List FlagDependency) (fileDeps : List FileDependency)
    (nested : List CompositeDependency)

structure FileInstall where
  source : String
  destination : String
  priority : Int
  deriving DecidableEq

structure ConditionFlag where
  name : String
  value : String

structure DependencyPattern where
  type : PluginType
  conditions : CompositeDependency

structure Plugin where
  name : String
  conditionFlags : List ConditionFlag
  files : List FileInstall
  typeDescriptor : PluginType
  dependency : Option CompositeDependency
  dependencyDefaultType : Option PluginType
  dependencyPatterns : List DependencyPattern

structure Group where
  name : String
  groupType : GroupType
  plugins : List Plugin

structure InstallStep where
  name : String
  visibility : Option CompositeDependency
  groups : List Group

structure ConditionalPattern where
  conditions : CompositeDependency
  files : List FileInstall

structure FomodConfig where
  requiredFiles : List FileInstall
  installSteps : List InstallStep
  conditionalInstalls : List ConditionalPattern

abbrev Flags := String → Option String

abbrev FileStateProvider := Option (String → FileState)

/-- The texts of `pending_decisions` after `step/group: `. -/
inductive Motivo where
  | noEligible
  | exactlyOne
  | atMostOne
  | atLeastOne
  deriving DecidableEq

structure Pendiente where
  step : String
  group : String
  motivo : Motivo
  deriving DecidableEq

structure ResolveResult where
  files : List FileInstall
  pendingDecisions : List Pendiente
  flags : Flags

/-! Conditions -/

section
variable (fileState : FileStateProvider)

def cumpleFlag (flags : Flags) (fd : FlagDependency) : Bool := (flags fd.flag).getD "" = fd.value

def cumpleFile (fileDep : FileDependency) : Bool :=
  match fileState with
  | none => false
  | some estado => estado fileDep.file = fileDep.state

def combina (operator : Operator) (results : List Bool) : Bool :=
  if results = [] then true
  else match operator with
    | .and => results.all id
    | .or => results.any id

mutual

def evaluateConditions (flags : Flags) : CompositeDependency → Bool
  | .mk operator flagDeps fileDeps nested =>
    combina operator (flagDeps.map (cumpleFlag flags) ++ fileDeps.map (cumpleFile fileState) ++
      evaluateNested flags nested)

def evaluateNested (flags : Flags) : List CompositeDependency → List Bool
  | [] => []
  | conditions :: others => evaluateConditions flags conditions :: evaluateNested flags others

end

def isStepVisible (flags : Flags) (step : InstallStep) : Bool :=
  match step.visibility with
  | none => true
  | some conditions => evaluateConditions fileState flags conditions

def normalizarTipo : Option PluginType → Option PluginType
  | some .notUsable => none
  | some .couldBeUsable => some .optional
  | other => other

/-- `_plugin_type_effective`: `none` where the plugin may not be installed. -/
def pluginTypeEffective (flags : Flags) (plugin : Plugin) : Option PluginType :=
  if plugin.dependencyPatterns ≠ [] then
    match plugin.dependencyPatterns.find?
        fun pattern => evaluateConditions fileState flags pattern.conditions with
    | some pattern => normalizarTipo (some pattern.type)
    | none => normalizarTipo plugin.dependencyDefaultType
  else
    match plugin.dependency with
    | some conditions =>
      if evaluateConditions fileState flags conditions then
        normalizarTipo (some plugin.typeDescriptor)
      else normalizarTipo plugin.dependencyDefaultType
    | none => normalizarTipo (some plugin.typeDescriptor)

/-! Groups -/

/-- `effective_types[name]`: of several plugins of one name the last one counts. -/
def effectiveTypes (flags : Flags) (plugins : List Plugin) (name : String) : Option PluginType :=
  (plugins.reverse.find? fun p => p.name = name).bind (pluginTypeEffective fileState flags)

def eligible (flags : Flags) (plugins : List Plugin) : List Plugin :=
  plugins.filter fun p => (effectiveTypes fileState flags plugins p.name).isSome

def nombres (plugins : List Plugin) : Finset String := (plugins.map (·.name)).toFinset

def eligibleDeTipo (flags : Flags) (plugins : List Plugin) (tipo : PluginType) : Finset String :=
  nombres ((eligible fileState flags plugins).filter fun p =>
    effectiveTypes fileState flags plugins p.name = some tipo)

def GroupType.esUnica (groupType : GroupType) : Bool :=
  groupType = .selectExactlyOne ∨ groupType = .selectAtMostOne

/-- `selected`, before the check of the group's type. -/
def preseleccion (flags : Flags) (group : Group) (stepSelections : List String) :
    Finset String :=
  let pluginNames := nombres (eligible fileState flags group.plugins)
  let pedidos := stepSelections.toFinset ∩ pluginNames
  let required := eligibleDeTipo fileState flags group.plugins .required
  let selected :=
    if required ≠ ∅ ∧ group.groupType.esUnica then required else pedidos ∪ required
  if selected = ∅ then eligibleDeTipo fileState flags group.plugins .recommended else selected

/-- The names to install and what stays pending. -/
def resolveGroup (flags : Flags) (stepName : String) (group : Group)
    (stepSelections : List String) : Finset String × List Pendiente :=
  let options := eligible fileState flags group.plugins
  let selected := preseleccion fileState flags group stepSelections
  let falta := fun motivo => [Pendiente.mk stepName group.name
    (if group.plugins ≠ [] ∧ options = [] then .noEligible else motivo)]
  match group.groupType with
  | .selectAll => (nombres options, [])
  | .selectExactlyOne => if selected.card ≠ 1 then (∅, falta .exactlyOne) else (selected, [])
  | .selectAtMostOne =>
    if 1 < selected.card then (∅, [⟨stepName, group.name, .atMostOne⟩]) else (selected, [])
  | .selectAtLeastOne => (selected, if selected = ∅ then falta .atLeastOne else [])
  | .selectAny => (selected, [])

/-! Resolution -/

def Flags.set (flags : Flags) (cf : ConditionFlag) : Flags :=
  Function.update flags cf.name (some cf.value)

def ResolveResult.instala (selected : Finset String) (r : ResolveResult) (plugin : Plugin) :
    ResolveResult :=
  if plugin.name ∈ selected then
    { r with
      files := r.files ++ plugin.files
      flags := plugin.conditionFlags.foldl Flags.set r.flags }
  else r

def ResolveResult.grupo (stepSelections : List String) (stepName : String) (r : ResolveResult)
    (group : Group) : ResolveResult :=
  let (selected, falta) := resolveGroup fileState r.flags stepName group stepSelections
  group.plugins.foldl (ResolveResult.instala selected)
    { r with pendingDecisions := r.pendingDecisions ++ falta }

/-- `selections` maps a step to the names that were chosen in it. -/
def ResolveResult.paso (selections : String → Option (List String)) (r : ResolveResult)
    (step : InstallStep) : ResolveResult :=
  if isStepVisible fileState r.flags step then
    step.groups.foldl (ResolveResult.grupo fileState ((selections step.name).getD []) step.name) r
  else r

def condicionales (flags : Flags) (patterns : List ConditionalPattern) : List FileInstall :=
  (patterns.filter fun p => evaluateConditions fileState flags p.conditions).flatMap (·.files)

def menorPrioridad (f g : FileInstall) : Prop := f.priority ≤ g.priority

instance : DecidableRel menorPrioridad := fun f g =>
  inferInstanceAs (Decidable (f.priority ≤ g.priority))

def resolve (config : FomodConfig) (selections : String → Option (List String)) : ResolveResult :=
  let r := config.installSteps.foldl (ResolveResult.paso fileState selections)
    ⟨config.requiredFiles, [], fun _ => none⟩
  { r with
    files := (r.files ++ condicionales fileState r.flags config.conditionalInstalls).insertionSort
      menorPrioridad }

end

/-! Visits -/

/-- A group of a visible step: the flags that its conditions see and the names that
`_resolve_group` gives for it. -/
structure Visita where
  step : InstallStep
  group : Group
  flags : Flags
  elegidos : Finset String

def Visita.instalados (v : Visita) : List Plugin :=
  v.group.plugins.filter fun p => p.name ∈ v.elegidos

def Visita.files (v : Visita) : List FileInstall := v.instalados.flatMap (·.files)

def Visita.banderas (v : Visita) : List ConditionFlag := v.instalados.flatMap (·.conditionFlags)

/-- The value of a flag is the last one that was set. -/
def valorDe (banderas : List ConditionFlag) : Flags :=
  fun name => (banderas.reverse.find? fun cf => cf.name = name).map (·.value)

def vistas (visitas : List Visita) : Flags := valorDe (visitas.flatMap (·.banderas))

def visita (fileState : FileStateProvider) (stepSelections : List String) (step : InstallStep)
    (group : Group) (flags : Flags) : Visita :=
  ⟨step, group, flags, (resolveGroup fileState flags step.name group stepSelections).1⟩

/-- The visits of the groups of one step, after those of `antes`. -/
inductive RecorreGrupos (fileState : FileStateProvider) (stepSelections : List String)
    (step : InstallStep) : List Visita → List Group → List Visita → Prop where
  | fin {antes : List Visita} : RecorreGrupos fileState stepSelections step antes [] []
  | grupo {antes visitas : List Visita} {group : Group} {groups : List Group}
      (siguen : RecorreGrupos fileState stepSelections step
        (antes ++ [visita fileState stepSelections step group (vistas antes)]) groups visitas) :
      RecorreGrupos fileState stepSelections step antes (group :: groups)
        (visita fileState stepSelections step group (vistas antes) :: visitas)

/-- The visits of the steps, in the order of the configuration: those that are visible
under the flags set before them. -/
inductive Recorre (fileState : FileStateProvider) (selections : String → Option (List String)) :
    List Visita → List InstallStep → List Visita → Prop where
  | fin {antes : List Visita} : Recorre fileState selections antes [] []
  | oculto {antes visitas : List Visita} {step : InstallStep} {steps : List InstallStep}
      (oculto : isStepVisible fileState (vistas antes) step = false)
      (siguen : Recorre fileState selections antes steps visitas) :
      Recorre fileState selections antes (step :: steps) visitas
  | visible {antes propias visitas : List Visita} {step : InstallStep} {steps : List InstallStep}
      (visible : isStepVisible fileState (vistas antes) step = true)
      (grupos : RecorreGrupos fileState ((selections step.name).getD []) step antes step.groups
        propias)
      (siguen : Recorre fileState selections (antes ++ propias) steps visitas) :
      Recorre fileState selections antes (step :: steps) (propias ++ visitas)

def Visita.falta (fileState : FileStateProvider) (selections : String → Option (List String))
    (v : Visita) : List Pendiente :=
  (resolveGroup fileState v.flags v.step.name v.group ((selections v.step.name).getD [])).2

/-! Flags and files of the loops -/

section
variable {fileState : FileStateProvider} {selections : String → Option (List String)}

theorem valorDe_append_singleton (banderas : List ConditionFlag) (cf : ConditionFlag) :
    (valorDe banderas).set cf = valorDe (banderas ++ [cf]) := by
  funext name
  unfold valorDe Flags.set
  rw [List.reverse_append, List.reverse_singleton, List.singleton_append, List.find?_cons]
  by_cases same : cf.name = name
  · subst same
    simp
  · rw [Function.update_of_ne (Ne.symm same)]
    simp [same]

theorem foldl_set (banderas propias : List ConditionFlag) :
    propias.foldl Flags.set (valorDe banderas) = valorDe (banderas ++ propias) := by
  induction propias generalizing banderas with
  | nil => simp
  | cons cf propias ih =>
    rw [List.foldl_cons, valorDe_append_singleton, ih, List.append_assoc, List.singleton_append]

/-- The loop over the plugins of a group. -/
theorem instala_todos (selected : Finset String) (plugins : List Plugin) (r : ResolveResult)
    (banderas : List ConditionFlag) (flags : r.flags = valorDe banderas) :
    plugins.foldl (ResolveResult.instala selected) r =
      { r with
        files := r.files ++ (plugins.filter fun p => p.name ∈ selected).flatMap (·.files)
        flags := valorDe (banderas ++
          (plugins.filter fun p => p.name ∈ selected).flatMap (·.conditionFlags)) } := by
  induction plugins generalizing r banderas with
  | nil =>
    obtain ⟨files, pending, seen⟩ := r
    dsimp only at flags
    simp [flags]
  | cons p plugins ih =>
    rw [List.foldl_cons]
    by_cases dentro : p.name ∈ selected
    · rw [ResolveResult.instala, if_pos dentro, List.filter_cons_of_pos (by simpa using dentro)]
      rw [ih _ (banderas ++ p.conditionFlags) (by rw [← foldl_set, flags])]
      simp
    · rw [ResolveResult.instala, if_neg dentro, List.filter_cons_of_neg (by simpa using dentro)]
      exact ih r banderas flags

/-- What the loops have gathered after some visits. -/
structure Reunido (fileState : FileStateProvider) (selections : String → Option (List String))
    (config : FomodConfig) (visitas : List Visita) (r : ResolveResult) : Prop where
  files : r.files = config.requiredFiles ++ visitas.flatMap (·.files)
  pendientes : r.pendingDecisions = visitas.flatMap (·.falta fileState selections)
  flags : r.flags = vistas visitas

theorem reunido_grupo {config : FomodConfig} {antes : List Visita} {r : ResolveResult}
    (reunido : Reunido fileState selections config antes r) (step : InstallStep) (group : Group) :
    Reunido fileState selections config
      (antes ++ [visita fileState ((selections step.name).getD []) step group (vistas antes)])
      (r.grupo fileState ((selections step.name).getD []) step.name group) := by
  have loop := fun selected falta => instala_todos selected group.plugins
    { r with pendingDecisions := r.pendingDecisions ++ falta } (antes.flatMap Visita.banderas)
    reunido.flags
  unfold ResolveResult.grupo
  dsimp only
  rw [loop, reunido.flags]
  constructor
  · rw [List.flatMap_append, List.flatMap_singleton, ← List.append_assoc, ← reunido.files]
    rfl
  · rw [List.flatMap_append, List.flatMap_singleton, ← reunido.pendientes]
    rfl
  · simp only [vistas, List.flatMap_append, List.flatMap_singleton]
    rfl

theorem reunido_grupos {config : FomodConfig} {antes : List Visita} {r : ResolveResult}
    (reunido : Reunido fileState selections config antes r) (step : InstallStep)
    (groups : List Group) :
    ∃ visitas, RecorreGrupos fileState ((selections step.name).getD []) step antes groups visitas ∧
      Reunido fileState selections config (antes ++ visitas)
        (groups.foldl
          (ResolveResult.grupo fileState ((selections step.name).getD []) step.name) r) := by
  induction groups generalizing antes r with
  | nil => exact ⟨[], .fin, by simpa using reunido⟩
  | cons group groups ih =>
    obtain ⟨visitas, siguen, gathered⟩ := ih (reunido_grupo reunido step group)
    refine ⟨_, .grupo siguen, ?_⟩
    rw [List.append_assoc, List.singleton_append] at gathered
    exact gathered

theorem reunido_pasos {config : FomodConfig} {antes : List Visita} {r : ResolveResult}
    (steps : List InstallStep) (reunido : Reunido fileState selections config antes r) :
    ∃ visitas, Recorre fileState selections antes steps visitas ∧
      Reunido fileState selections config (antes ++ visitas)
        (steps.foldl (ResolveResult.paso fileState selections) r) := by
  induction steps generalizing antes r with
  | nil => exact ⟨[], .fin, by simpa using reunido⟩
  | cons step steps ih =>
    rw [List.foldl_cons, ResolveResult.paso, reunido.flags]
    by_cases visible : isStepVisible fileState (vistas antes) step = true
    · rw [if_pos visible]
      obtain ⟨propias, grupos, gathered⟩ := reunido_grupos reunido step step.groups
      obtain ⟨visitas, siguen, all⟩ := ih gathered
      refine ⟨propias ++ visitas, .visible visible grupos siguen, ?_⟩
      rwa [← List.append_assoc]
    · rw [if_neg visible]
      obtain ⟨visitas, siguen, all⟩ := ih reunido
      exact ⟨visitas, .oculto (by simpa using visible) siguen, all⟩

/-! Rules of a group -/

def Visita.NombresDistintos (v : Visita) : Prop := (v.group.plugins.map (·.name)).Nodup

def Visita.usable (fileState : FileStateProvider) (v : Visita) (p : Plugin) : Bool :=
  (pluginTypeEffective fileState v.flags p).isSome

/-- How many plugins each type of group installs. -/
def Visita.Satisface (fileState : FileStateProvider) (v : Visita) : Prop :=
  match v.group.groupType with
  | .selectExactlyOne => v.NombresDistintos → v.instalados.length = 1
  | .selectAtMostOne => v.NombresDistintos → v.instalados.length ≤ 1
  | .selectAtLeastOne => 1 ≤ v.instalados.length
  | .selectAll => v.NombresDistintos → v.instalados = v.group.plugins.filter (v.usable fileState)
  | .selectAny => True

theorem mem_nombres {plugins : List Plugin} {name : String} :
    name ∈ nombres plugins ↔ ∃ p ∈ plugins, p.name = name := by
  simp [nombres]

theorem nombres_mono {plugins others : List Plugin} (sub : ∀ p ∈ plugins, p ∈ others) :
    nombres plugins ⊆ nombres others := by
  intro name mem
  obtain ⟨p, inside, same⟩ := mem_nombres.mp mem
  exact mem_nombres.mpr ⟨p, sub p inside, same⟩

theorem eligibleDeTipo_subset (flags : Flags) (plugins : List Plugin) (tipo : PluginType) :
    eligibleDeTipo fileState flags plugins tipo ⊆ nombres (eligible fileState flags plugins) :=
  nombres_mono fun _ mem => List.mem_of_mem_filter mem

theorem preseleccion_subset (fileState : FileStateProvider) (flags : Flags) (group : Group) (stepSelections : List String) :
    preseleccion fileState flags group stepSelections ⊆
      nombres (eligible fileState flags group.plugins) := by
  have pedidos : stepSelections.toFinset ∩ nombres (eligible fileState flags group.plugins) ∪
      eligibleDeTipo fileState flags group.plugins .required ⊆
        nombres (eligible fileState flags group.plugins) :=
    Finset.union_subset Finset.inter_subset_right (eligibleDeTipo_subset _ _ _)
  unfold preseleccion
  dsimp only
  split
  · split
    · exact eligibleDeTipo_subset _ _ _
    · exact eligibleDeTipo_subset _ _ _
  · split
    · exact eligibleDeTipo_subset _ _ _
    · exact pedidos

theorem elegidos_subset (fileState : FileStateProvider) (flags : Flags) (stepName : String) (group : Group)
    (stepSelections : List String) :
    (resolveGroup fileState flags stepName group stepSelections).1 ⊆
      nombres (eligible fileState flags group.plugins) := by
  have chosen := preseleccion_subset fileState flags group stepSelections
  unfold resolveGroup
  dsimp only
  split
  · exact Finset.Subset.refl _
  · split
    · exact Finset.empty_subset _
    · exact chosen
  · split
    · exact Finset.empty_subset _
    · exact chosen
  · exact chosen
  · exact chosen

/-- With distinct names, a set of names picks as many plugins as it has members. -/
theorem length_instalados {plugins : List Plugin} {elegidos : Finset String}
    (distintos : (plugins.map (·.name)).Nodup) (sub : elegidos ⊆ nombres plugins) :
    (plugins.filter fun p => p.name ∈ elegidos).length = elegidos.card := by
  have picked : ((plugins.filter fun p => p.name ∈ elegidos).map (·.name)).toFinset = elegidos := by
    ext name
    simp only [List.mem_toFinset, List.mem_map, List.mem_filter, decide_eq_true_eq]
    constructor
    · rintro ⟨p, ⟨_, mem⟩, rfl⟩
      exact mem
    · intro mem
      obtain ⟨p, inside, rfl⟩ := mem_nombres.mp (sub mem)
      exact ⟨p, ⟨inside, mem⟩, rfl⟩
  have unique : ((plugins.filter fun p => p.name ∈ elegidos).map (·.name)).Nodup :=
    distintos.sublist (List.filter_sublist.map _)
  rw [← List.length_map (f := (·.name)), ← List.toFinset_card_of_nodup unique, picked]

theorem effectiveTypes_de {flags : Flags} {plugins : List Plugin} {p : Plugin}
    (distintos : (plugins.map (·.name)).Nodup) (mem : p ∈ plugins) :
    effectiveTypes fileState flags plugins p.name = pluginTypeEffective fileState flags p := by
  have found : (plugins.reverse.find? fun q => q.name = p.name) = some p := by
    cases first : plugins.reverse.find? fun q => q.name = p.name with
    | none =>
      have missed := List.find?_eq_none.mp first p (List.mem_reverse.mpr mem)
      simp at missed
    | some q =>
      have same : q.name = p.name := by simpa using List.find?_some first
      have inside := List.mem_reverse.mp (List.mem_of_find?_eq_some first)
      rw [List.inj_on_of_nodup_map distintos inside mem same]
  rw [effectiveTypes, found, Option.bind_some]

theorem usable_de_elegido {v : Visita} (distintos : v.NombresDistintos)
    (sub : v.elegidos ⊆ nombres (eligible fileState v.flags v.group.plugins)) :
    ∀ p ∈ v.instalados, v.usable fileState p = true := by
  intro p mem
  obtain ⟨inside, chosen⟩ := List.mem_filter.mp mem
  obtain ⟨q, elegible, same⟩ := mem_nombres.mp (sub (by simpa using chosen))
  have ok := (List.mem_filter.mp elegible).2
  rw [same, effectiveTypes_de distintos inside] at ok
  exact ok

theorem regla_del_grupo {fileState : FileStateProvider}
    {selections : String → Option (List String)} {v : Visita}
    (elegidos : v.elegidos = (resolveGroup fileState v.flags v.step.name v.group
      ((selections v.step.name).getD [])).1) :
    (∃ d ∈ v.falta fileState selections, d.step = v.step.name ∧ d.group = v.group.name) ∨
      v.Satisface fileState := by
  have sub := elegidos_subset fileState v.flags v.step.name v.group
    ((selections v.step.name).getD [])
  rw [← elegidos] at sub
  have dentro : v.elegidos ⊆ nombres v.group.plugins :=
    sub.trans (nombres_mono fun _ mem => List.mem_of_mem_filter mem)
  unfold Visita.falta Visita.Satisface
  unfold resolveGroup at elegidos ⊢
  cases tipo : v.group.groupType with
  | selectAll =>
    simp only [tipo] at elegidos
    right
    intro distintos
    apply List.filter_congr
    intro p mem
    rw [elegidos, Visita.usable, ← effectiveTypes_de distintos mem, Bool.eq_iff_iff,
      decide_eq_true_eq, mem_nombres]
    constructor
    · rintro ⟨q, elegible, same⟩
      exact same ▸ (List.mem_filter.mp elegible).2
    · exact fun ok => ⟨p, List.mem_filter.mpr ⟨mem, ok⟩, rfl⟩
  | selectExactlyOne =>
    simp only [tipo] at elegidos ⊢
    by_cases una : (preseleccion fileState v.flags v.group
        ((selections v.step.name).getD [])).card = 1
    · right
      intro distintos
      rw [if_neg (not_not.mpr una)] at elegidos
      rw [Visita.instalados, length_instalados distintos dentro, elegidos, una]
    · left
      rw [if_pos una]
      exact ⟨_, List.mem_singleton.mpr rfl, rfl, rfl⟩
  | selectAtMostOne =>
    simp only [tipo] at elegidos ⊢
    by_cases varias : 1 < (preseleccion fileState v.flags v.group
        ((selections v.step.name).getD [])).card
    · left
      rw [if_pos varias]
      exact ⟨_, List.mem_singleton.mpr rfl, rfl, rfl⟩
    · right
      intro distintos
      rw [if_neg varias] at elegidos
      rw [Visita.instalados, length_instalados distintos dentro, elegidos]
      exact not_lt.mp varias
  | selectAtLeastOne =>
    simp only [tipo] at elegidos ⊢
    by_cases vacia : preseleccion fileState v.flags v.group
        ((selections v.step.name).getD []) = ∅
    · left
      rw [if_pos vacia]
      exact ⟨_, List.mem_singleton.mpr rfl, rfl, rfl⟩
    · right
      rw [← elegidos] at vacia
      obtain ⟨name, mem⟩ := Finset.nonempty_iff_ne_empty.mpr vacia
      obtain ⟨p, inside, rfl⟩ := mem_nombres.mp (dentro mem)
      exact List.length_pos_of_mem (List.mem_filter.mpr ⟨inside, by simpa using mem⟩)
  | selectAny => exact .inr trivial

end

/-! Order of the files -/

theorem insertionSort_filter {α : Type} (r : α → α → Prop) [DecidableRel r] [Std.Total r]
    [IsTrans α r] (p : α → Bool) (l : List α) (iguales : ∀ a b, p a → p b → r a b) :
    (l.insertionSort r).filter p = l.filter p := by
  have sorted : (l.filter p).Pairwise r := by
    apply List.pairwise_of_forall_mem_list
    intro a ha b hb
    exact iguales a b (List.mem_filter.mp ha).2 (List.mem_filter.mp hb).2
  have sub := (List.sublist_insertionSort sorted List.filter_sublist).filter p
  rw [List.filter_filter] at sub
  simp only [Bool.and_self] at sub
  exact (sub.eq_of_length (List.perm_insertionSort r l |>.filter p).length_eq.symm).symm

instance : Std.Total menorPrioridad := ⟨fun f g => le_total f.priority g.priority⟩

instance : IsTrans FileInstall menorPrioridad := ⟨fun _ _ _ first second => le_trans first second⟩

/-! Result -/

section
variable {fileState : FileStateProvider} {selections : String → Option (List String)}

theorem RecorreGrupos.visita {stepSelections : List String} {step : InstallStep}
    {antes visitas : List Visita} {groups : List Group}
    (recorre : RecorreGrupos fileState stepSelections step antes groups visitas) :
    ∀ (pre : List Visita) (v : Visita) (post : List Visita), visitas = pre ++ v :: post →
      v.flags = vistas (antes ++ pre) ∧ v.step = step ∧
      v.elegidos = (resolveGroup fileState v.flags step.name v.group stepSelections).1 := by
  induction recorre with
  | fin => simp
  | grupo siguen ih =>
    intro pre v post partes
    cases pre with
    | nil =>
      obtain ⟨rfl, _⟩ := List.cons.inj partes
      exact ⟨by rw [List.append_nil]; rfl, rfl, rfl⟩
    | cons w pre =>
      obtain ⟨rfl, resto⟩ := List.cons.inj partes
      obtain ⟨flags, rest⟩ := ih pre v post resto
      rw [List.append_assoc, List.singleton_append] at flags
      exact ⟨flags, rest⟩

theorem Recorre.visita {antes visitas : List Visita} {steps : List InstallStep}
    (recorre : Recorre fileState selections antes steps visitas) :
    ∀ (pre : List Visita) (v : Visita) (post : List Visita), visitas = pre ++ v :: post →
      v.flags = vistas (antes ++ pre) ∧
      v.elegidos = (resolveGroup fileState v.flags v.step.name v.group
        ((selections v.step.name).getD [])).1 := by
  induction recorre with
  | fin => simp
  | oculto _ _ ih => exact ih
  | @visible antes propias visitas step steps _ grupos _ ih =>
    intro pre v post partes
    rcases List.append_eq_append_iff.mp partes with ⟨rest, rfl, same⟩ | ⟨rest, split, same⟩
    · obtain ⟨flags, chosen⟩ := ih rest v post same
      rw [List.append_assoc] at flags
      exact ⟨flags, chosen⟩
    · cases rest with
      | nil =>
        rw [List.append_nil] at split
        obtain ⟨flags, chosen⟩ := ih [] v post same.symm
        rw [List.append_nil, split] at flags
        exact ⟨flags, chosen⟩
      | cons w rest =>
        obtain ⟨rfl, _⟩ := List.cons.inj same
        obtain ⟨flags, rfl, chosen⟩ := grupos.visita pre v rest split
        exact ⟨flags, chosen⟩

/-- All the files to install, in the order of the configuration. -/
def documento (fileState : FileStateProvider) (config : FomodConfig) (visitas : List Visita) :
    List FileInstall :=
  config.requiredFiles ++ visitas.flatMap (·.files) ++
    condicionales fileState (vistas visitas) config.conditionalInstalls

structure Resuelta (fileState : FileStateProvider) (selections : String → Option (List String))
    (config : FomodConfig) (visitas : List Visita) (r : ResolveResult) : Prop where
  recorrido : Recorre fileState selections [] config.installSteps visitas
  flags : ∀ antes v tras, visitas = antes ++ v :: tras → v.flags = vistas antes
  finales : r.flags = vistas visitas
  grupos : ∀ v ∈ visitas,
    (∃ d ∈ r.pendingDecisions, d.step = v.step.name ∧ d.group = v.group.name) ∨
      v.Satisface fileState
  usables : ∀ v ∈ visitas, v.NombresDistintos → ∀ p ∈ v.instalados, v.usable fileState p = true
  prioridades : r.files.Pairwise menorPrioridad
  orden : ∀ k, r.files.filter (fun f => f.priority = k) =
    (documento fileState config visitas).filter fun f => f.priority = k

end

/-! Where the installer's rules and the names differ -/

def archivo (source : String) : FileInstall := ⟨source, "", 0⟩

def opcion (name source : String) (tipo : PluginType) : Plugin :=
  ⟨name, [], [archivo source], tipo, none, none, []⟩

def unPaso (groups : List Group) : FomodConfig := ⟨[], [⟨"Paso", none, groups⟩], []⟩

/-- A plugin without a name gets the parser's default. -/
def sinNombre : FomodConfig :=
  unPaso [⟨"Variante", .selectExactlyOne,
    [opcion "Unnamed Plugin" "a.esp" .optional, opcion "Unnamed Plugin" "b.esp" .optional]⟩]

def noTodos : FomodConfig :=
  unPaso [⟨"Todo", .selectAll, [opcion "A" "a.esp" .optional, opcion "B" "b.esp" .notUsable]⟩]

def mismoPaso : FomodConfig :=
  unPaso [⟨"Modo", .selectAny, [⟨"A", [⟨"modo", "si"⟩], [], .required, none, none, []⟩]⟩,
    ⟨"Parche", .selectAll, [⟨"P", [], [archivo "p.esp"], .optional, none, none,
      [⟨.optional, .mk .and [⟨"modo", "si"⟩] [] []⟩]⟩]⟩]

end FomodResolver
