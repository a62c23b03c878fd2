import Mathlib
import SkyClaw.ConflictReports

set_option linter.all false

/-!
Patch plans: the orchestrator flattens the pairs of a report, so a conflict with
several losers comes several times, picks the strategy that handles most of that
list and plans for those the strategy is about.
-/
namespace XeditConflicts
open TextLines

inductive PatchStrategyType where
  | createMergedPatch
  | executeXeditScript
  | forwardDeclaration
  | delegateBashedPatch
  | aiAssisted
  deriving DecidableEq

structure PatchPlan where
  strategyType : PatchStrategyType
  targetPlugins : List Texto
  outputPlugin : Texto
  formIds : List Texto
  estimatedRecords : Nat
  requiresHitl : Bool
  scriptPath : Option Texto
  deriving DecidableEq

inductive PatchingError where
  | sinConflictos
  | sinListas
  | sinCriticos
  | sinScript (nombre : Texto)
  | listasSinEstrategia
  | nadieManeja (conflictos : Nat)
  deriving DecidableEq

inductive Aviso where
  | sinConflictos
  | requiereHitl
  | delegadoABash
  deriving DecidableEq

structure PatchResult where
  success : Bool
  outputPath : Option Texto
  recordsPatched : Nat
  conflictsResolved : Nat
  xeditExitCode : Int
  warnings : List Aviso := []
  error : Option PatchingError := none
  strategyType : Option PatchStrategyType := none
  plan : Option PatchPlan := none
  deriving DecidableEq

/-- `str.upper` and the script files of the bundle. -/
structure Entorno where
  upper : Texto → Texto
  existe : Texto → Bool

def leveledListTypes : List Texto := textos ["LVLI", "LVLN", "LVSP"]

variable (env : Entorno)

def esLista (c : RecordConflict) : Bool := leveledListTypes.contains (env.upper c.recordType)

def esCritico (c : RecordConflict) : Bool := c.severity = .critical

def selectScriptForConflicts (conflicts : List RecordConflict) : Texto :=
  let recordTypes := conflicts.map fun c => env.upper c.recordType
  if recordTypes.contains "NPC_".toList then "fix_npc_conflicts.pas".toList
  else if recordTypes.any fun t => (textos ["QUST", "SCEN", "INFO"]).contains t then
    "fix_quest_conflicts.pas".toList
  else "fix_critical_conflicts.pas".toList

/-- The default strategies, the highest priority first. -/
inductive PatchStrategy where
  | executeXEditScript
  | delegateToBashedPatch
  | aiAssistedPatch
  deriving DecidableEq

def PatchStrategy.getPriority : PatchStrategy → Nat
  | .executeXEditScript => 20
  | .delegateToBashedPatch => 10
  | .aiAssistedPatch => 1

def defaultStrategies : List PatchStrategy :=
  [.executeXEditScript, .delegateToBashedPatch, .aiAssistedPatch]

def PatchStrategy.canHandle : PatchStrategy → RecordConflict → Bool
  | .executeXEditScript, c => esCritico c && env.existe (selectScriptForConflicts env [c])
  | .delegateToBashedPatch, c => esLista env c
  | .aiAssistedPatch, c => esCritico c

/-- The conflicts that the plan of a strategy is about. -/
def PatchStrategy.filtra : PatchStrategy → RecordConflict → Bool
  | .executeXEditScript, c => esCritico c
  | .delegateToBashedPatch, c => esLista env c
  | .aiAssistedPatch, c => esCritico c

/-- `sorted` of the set of the plugins. -/
def pluginsDe (conflicts : List RecordConflict) : List Texto :=
  ((conflicts.flatMap fun c => c.winner :: c.losers).dedup).mergeSort fun a b => decide (a ≤ b)

def PatchStrategy.createPlan (self : PatchStrategy) (conflicts : List RecordConflict) :
    Except PatchingError PatchPlan :=
  let valid := conflicts.filter (self.filtra env)
  match self with
  | .executeXEditScript =>
    if conflicts = [] then .error .sinConflictos
    else if valid = [] then .error .sinCriticos
    else
      let script := selectScriptForConflicts env valid
      if !env.existe script then .error (.sinScript script)
      else .ok {
        strategyType := .executeXeditScript
        targetPlugins := pluginsDe valid
        outputPlugin := "SkyClaw_CriticalPatch.esp".toList
        formIds := valid.map (·.formId)
        estimatedRecords := valid.length
        requiresHitl := true
        scriptPath := some script }
  | .delegateToBashedPatch =>
    if valid = [] then .error .sinListas
    else .ok {
      strategyType := .delegateBashedPatch
      targetPlugins := pluginsDe valid
      outputPlugin := "Bashed Patch, 0.esp".toList
      formIds := valid.map (·.formId)
      estimatedRecords := valid.length
      requiresHitl := false
      scriptPath := none }
  | .aiAssistedPatch =>
    if valid = [] then .error .sinCriticos
    else .ok {
      strategyType := .aiAssisted
      targetPlugins := pluginsDe valid
      outputPlugin := []
      formIds := valid.map (·.formId)
      estimatedRecords := valid.length
      requiresHitl := true
      scriptPath := none }

def puntos (conflicts : List RecordConflict) (s : PatchStrategy) : Nat :=
  conflicts.countP (s.canHandle env)

/-- One turn of the choice: the strategy with the most points so far; a tie keeps
    the earlier one. -/
def elige (conflicts : List RecordConflict) (best : Option PatchStrategy × Nat) (s : PatchStrategy) :
    Option PatchStrategy × Nat :=
  if best.2 < puntos env conflicts s then (some s, puntos env conflicts s) else best

def mejor (conflicts : List RecordConflict) : Option PatchStrategy :=
  (defaultStrategies.foldl (elige env conflicts) (none, 0)).1

def selectBestStrategy (conflicts : List RecordConflict) : Except PatchingError PatchStrategy :=
  if conflicts = [] then .error .sinConflictos
  else
    match mejor env conflicts with
    | some s => .ok s
    | none =>
      if conflicts.any (esLista env) then .error .listasSinEstrategia
      else .error (.nadieManeja conflicts.length)

def fallido (e : PatchingError) : PatchResult :=
  { success := false, outputPath := none, recordsPatched := 0, conflictsResolved := 0
    xeditExitCode := -1, error := some e }

def todosLosConflictos (report : ConflictReport) : List RecordConflict :=
  report.pluginPairs.flatMap (·.conflicts)

def resolve (report : ConflictReport) : PatchResult :=
  if report.totalConflicts = 0 then
    { success := true, outputPath := none, recordsPatched := 0, conflictsResolved := 0
      xeditExitCode := 0, warnings := [.sinConflictos] }
  else
    let all := todosLosConflictos report
    match selectBestStrategy env all with
    | .error e => fallido e
    | .ok strategy =>
      match strategy.createPlan env all with
      | .error e => fallido e
      | .ok plan =>
        { success := true
          outputPath := if plan.outputPlugin = [] then none else some plan.outputPlugin
          recordsPatched := plan.estimatedRecords
          conflictsResolved := all.length
          xeditExitCode := 0
          warnings := (if plan.requiresHitl then [.requiereHitl] else []) ++
            if plan.strategyType = .delegateBashedPatch then [.delegadoABash] else []
          strategyType := some plan.strategyType
          plan := some plan }

/-! The claims of a plan -/

/-- The conflicts that a plan of a type is about. -/
def cubre : PatchStrategyType → RecordConflict → Bool
  | .delegateBashedPatch, c => esLista env c
  | _, c => esCritico c

/-- Every conflict is in a pair, and a plan tells each record it covers once and
    counts those records and nothing else. -/
structure PlanHonesto (conflicts : List RecordConflict) : Prop where
  enPareja : ∀ c ∈ conflicts, ∃ pair ∈ (construirReporte conflicts).pluginPairs, c ∈ pair.conflicts
  plan : ∀ plan, (resolve env (construirReporte conflicts)).success = true →
    (resolve env (construirReporte conflicts)).plan = some plan →
    plan.formIds.Nodup ∧
    (∀ id, id ∈ plan.formIds ↔ ∃ c ∈ conflicts, cubre env plan.strategyType c = true ∧ c.formId = id) ∧
    plan.estimatedRecords = plan.formIds.dedup.length ∧
    (resolve env (construirReporte conflicts)).recordsPatched = plan.formIds.dedup.length ∧
    (resolve env (construirReporte conflicts)).conflictsResolved = plan.formIds.dedup.length

/-- Every conflict has a loser; and none is of a kind that a strategy plans for, or
    all are of one kind, each with one loser and a form id of its own. -/
def UnoPorRegistro (conflicts : List RecordConflict) : Prop :=
  (∀ c ∈ conflicts, c.losers ≠ []) ∧
  ((∀ c ∈ conflicts, esCritico c = false ∧ esLista env c = false) ∨
    ((∀ c ∈ conflicts, c.losers.length = 1) ∧ (conflicts.map (·.formId)).Nodup ∧
      ((∀ c ∈ conflicts, esCritico c = true) ∨ (∀ c ∈ conflicts, esLista env c = true))))

/-! The pairs -/

theorem anota_perm (c : RecordConflict) (clave : Texto × Texto) (m : PairMap) :
    ((anota c clave m).flatMap (·.2)).Perm (c :: m.flatMap (·.2)) := by
  induction m with
  | nil => exact List.Perm.refl _
  | cons p m ih =>
    obtain ⟨otra, cs⟩ := p
    rw [anota]
    split
    · simp only [List.flatMap_cons, List.append_assoc, List.singleton_append]
      exact List.perm_middle
    · simp only [List.flatMap_cons]
      exact (ih.append_left cs).trans List.perm_middle

theorem anotaTodos_perm (m : PairMap) (conflicts : List RecordConflict) :
    ((anotaTodos m conflicts).flatMap (·.2)).Perm
      (conflicts.flatMap (fun c => List.replicate c.losers.length c) ++ m.flatMap (·.2)) := by
  have one : ∀ (c : RecordConflict) (losers : List Texto) (m : PairMap),
      ((losers.foldl (fun m loser => anota c (clavePar c.winner loser) m) m).flatMap (·.2)).Perm
        (List.replicate losers.length c ++ m.flatMap (·.2)) := by
    intro c losers
    induction losers with
    | nil => exact fun m => List.Perm.refl _
    | cons loser losers ih =>
      intro m
      refine (ih _).trans ?_
      refine ((anota_perm c _ m).append_left _).trans ?_
      rw [List.length_cons, List.replicate_succ, List.cons_append]
      exact List.perm_middle
  unfold anotaTodos
  induction conflicts generalizing m with
  | nil => exact List.Perm.refl _
  | cons c conflicts ih =>
    rw [List.foldl_cons, List.flatMap_cons]
    refine (ih _).trans ?_
    refine ((one c c.losers m).append_left _).trans ?_
    rw [← List.append_assoc]
    exact List.perm_append_comm.append_right _

/-- The flattened report: each conflict as many times as it has losers. -/
theorem todos_perm (conflicts : List RecordConflict) :
    (todosLosConflictos (construirReporte conflicts)).Perm
      (conflicts.flatMap fun c => List.replicate c.losers.length c) := by
  have flat : todosLosConflictos (construirReporte conflicts) =
      ((anotaTodos [] conflicts).mergeSort fun x y => y.2.length ≤ x.2.length).flatMap (·.2) := by
    simp only [todosLosConflictos, construirReporte, groupByPair, List.flatMap_map]
  rw [flat]
  refine ((List.mergeSort_perm _ _).flatMap_right _).trans ?_
  simpa using anotaTodos_perm [] conflicts

theorem mem_todos {conflicts : List RecordConflict} {c : RecordConflict} :
    c ∈ todosLosConflictos (construirReporte conflicts) ↔ c ∈ conflicts ∧ c.losers ≠ [] := by
  rw [(todos_perm conflicts).mem_iff, List.mem_flatMap]
  constructor
  · intro inside
    obtain ⟨c', mem, copy⟩ := inside
    obtain ⟨some_, rfl⟩ := List.mem_replicate.mp copy
    exact ⟨mem, fun none_ => some_ (by rw [none_]; rfl)⟩
  · intro inside
    exact ⟨c, inside.1, List.mem_replicate.mpr ⟨by simpa using inside.2, rfl⟩⟩

theorem enPareja_iff (conflicts : List RecordConflict) :
    (∀ c ∈ conflicts, ∃ pair ∈ (construirReporte conflicts).pluginPairs, c ∈ pair.conflicts) ↔
      ∀ c ∈ conflicts, c.losers ≠ [] := by
  refine forall₂_congr fun c mem => ?_
  rw [← List.mem_flatMap, ← todosLosConflictos, mem_todos]
  exact and_iff_right mem

/-! The choice -/

section Eleccion
variable {env} {all : List RecordConflict}

theorem canHandle_filtra {s : PatchStrategy} {c : RecordConflict} (handles : s.canHandle env c = true) :
    s.filtra env c = true := by
  cases s with
  | executeXEditScript =>
    simp only [PatchStrategy.canHandle, Bool.and_eq_true] at handles
    exact handles.1
  | delegateToBashedPatch => exact handles
  | aiAssistedPatch => exact handles

theorem foldl_elige (ss : List PatchStrategy) (best : Option PatchStrategy × Nat) :
    (ss.foldl (elige env all) best = best ∧ ∀ s ∈ ss, puntos env all s ≤ best.2) ∨
    ∃ s ∈ ss, ss.foldl (elige env all) best = (some s, puntos env all s) ∧ best.2 < puntos env all s ∧
      ∀ other ∈ ss, puntos env all other ≤ puntos env all s := by
  induction ss generalizing best with
  | nil => exact .inl ⟨rfl, List.forall_mem_nil _⟩
  | cons s ss ih =>
    rw [List.foldl_cons]
    by_cases better : best.2 < puntos env all s
    · have turn : elige env all best s = (some s, puntos env all s) := if_pos better
      right
      rw [turn]
      obtain ⟨same, less⟩ | ⟨winner, mem, same, beats, less⟩ := ih (some s, puntos env all s)
      · refine ⟨s, List.mem_cons_self, same, better, ?_⟩
        rw [List.forall_mem_cons]
        exact ⟨le_rfl, less⟩
      · simp only at beats
        refine ⟨winner, List.mem_cons_of_mem _ mem, same, by omega, ?_⟩
        rw [List.forall_mem_cons]
        exact ⟨by omega, less⟩
    · have turn : elige env all best s = best := if_neg better
      rw [turn]
      obtain ⟨same, less⟩ | ⟨winner, mem, same, beats, less⟩ := ih best
      · left
        rw [List.forall_mem_cons]
        exact ⟨same, by omega, less⟩
      · right
        refine ⟨winner, List.mem_cons_of_mem _ mem, same, beats, ?_⟩
        rw [List.forall_mem_cons]
        exact ⟨by omega, less⟩

/-- The chosen strategy has the most points; nobody is chosen when all have none. -/
theorem mejor_spec : (∃ s, mejor env all = some s ∧ 0 < puntos env all s ∧
      ∀ other, puntos env all other ≤ puntos env all s) ∨
    (mejor env all = none ∧ ∀ s, puntos env all s = 0) := by
  have everyone : ∀ s, s ∈ defaultStrategies := by
    intro s
    cases s <;> decide
  have fold : mejor env all = (defaultStrategies.foldl (elige env all) (none, 0)).1 := rfl
  obtain ⟨same, less⟩ | ⟨s, _, same, beats, less⟩ := @foldl_elige env all defaultStrategies (none, 0)
  · exact .inr ⟨by rw [fold, same], fun s => Nat.le_zero.mp (less s (everyone s))⟩
  · exact .inl ⟨s, by rw [fold, same], beats, fun other => less other (everyone other)⟩

theorem forall_of_countP_le {p q : RecordConflict → Bool} (weaker : ∀ c ∈ all, p c = true → q c = true)
    (enough : all.countP q ≤ all.countP p) : ∀ c ∈ all, q c = true → p c = true := by
  induction all with
  | nil => exact fun c mem => absurd mem (List.not_mem_nil)
  | cons a l ih =>
    rw [List.forall_mem_cons] at weaker
    rw [List.countP_cons, List.countP_cons] at enough
    have less : l.countP p ≤ l.countP q := List.countP_mono_left weaker.2
    rw [List.forall_mem_cons]
    cases pa : p a with
    | true =>
      simp only [pa, weaker.1 pa, if_true] at enough
      exact ⟨fun _ => rfl, ih weaker.2 (by omega)⟩
    | false =>
      cases qa : q a with
      | true =>
        simp only [pa, qa, if_true, Bool.false_eq_true, if_false] at enough
        omega
      | false =>
        simp only [pa, qa, Bool.false_eq_true, if_false] at enough
        refine ⟨fun no => ?_, ih weaker.2 (by omega)⟩
        cases no

/-- The script for a set is the script for one of its conflicts. -/
theorem selectScript_mem {cs : List RecordConflict} (some_ : cs ≠ []) :
    ∃ c ∈ cs, selectScriptForConflicts env cs = selectScriptForConflicts env [c] := by
  by_cases npc : (cs.map fun c => env.upper c.recordType).contains "NPC_".toList = true
  · obtain ⟨c, mem, same⟩ := List.mem_map.mp (List.contains_iff_mem.mp npc)
    refine ⟨c, mem, ?_⟩
    simp only [selectScriptForConflicts, npc, if_true]
    rw [if_pos (by simp [same])]
  · by_cases quest : (cs.map fun c => env.upper c.recordType).any
        (fun t => (textos ["QUST", "SCEN", "INFO"]).contains t) = true
    · obtain ⟨t, mem, is_quest⟩ := List.any_eq_true.mp quest
      obtain ⟨c, inside, rfl⟩ := List.mem_map.mp mem
      refine ⟨c, inside, ?_⟩
      have not_npc : ¬ ([c].map fun c => env.upper c.recordType).contains "NPC_".toList = true := by
        intro same
        apply npc
        rw [List.contains_iff_mem] at same ⊢
        rw [List.map_singleton, List.mem_singleton] at same
        exact same ▸ mem
      have quest_c : ([c].map fun c => env.upper c.recordType).any
          (fun t => (textos ["QUST", "SCEN", "INFO"]).contains t) = true := by
        simpa using is_quest
      simp only [selectScriptForConflicts, npc, quest, not_npc, quest_c, Bool.false_eq_true, if_true,
        if_false]
    · obtain ⟨c, rest, rfl⟩ := List.exists_cons_of_ne_nil some_
      refine ⟨c, List.mem_cons_self, ?_⟩
      have not_npc : ¬ ([c].map fun c => env.upper c.recordType).contains "NPC_".toList = true := by
        intro same
        apply npc
        simp only [List.map_cons, List.map_nil, List.contains_cons, List.contains_nil, Bool.or_false] at same
        simp only [List.map_cons, List.contains_cons, same, Bool.true_or]
      have not_quest : ¬ ([c].map fun c => env.upper c.recordType).any
          (fun t => (textos ["QUST", "SCEN", "INFO"]).contains t) = true := by
        intro same
        apply quest
        simp only [List.map_cons, List.map_nil, List.any_cons, List.any_nil, Bool.or_false] at same
        simp only [List.map_cons, List.any_cons, same, Bool.true_or]
      simp only [selectScriptForConflicts, npc, quest, not_npc, not_quest, Bool.false_eq_true, if_false]

/-- The chosen strategy always makes a plan, over the conflicts it is about. -/
theorem createPlan_spec {s : PatchStrategy} (positive : 0 < puntos env all s)
    (most : ∀ other, puntos env all other ≤ puntos env all s) :
    ∃ plan, s.createPlan env all = .ok plan ∧ cubre env plan.strategyType = s.filtra env ∧
      plan.formIds = (all.filter (s.filtra env)).map (·.formId) ∧
      plan.estimatedRecords = (all.filter (s.filtra env)).length := by
  obtain ⟨c, mem, handles⟩ := List.countP_pos_iff.mp positive
  have some_ : all ≠ [] := List.ne_nil_of_mem mem
  have valid : all.filter (s.filtra env) ≠ [] :=
    List.ne_nil_of_mem (List.mem_filter.mpr ⟨mem, canHandle_filtra handles⟩)
  cases s with
  | delegateToBashedPatch =>
    rw [PatchStrategy.createPlan]
    simp only [valid, if_false]
    exact ⟨_, rfl, rfl, rfl, rfl⟩
  | aiAssistedPatch =>
    rw [PatchStrategy.createPlan]
    simp only [valid, if_false]
    exact ⟨_, rfl, rfl, rfl, rfl⟩
  | executeXEditScript =>
    -- it beats the advisor only if it handles every critical conflict
    have handled : ∀ c ∈ all, esCritico c = true →
        PatchStrategy.executeXEditScript.canHandle env c = true :=
      forall_of_countP_le (fun c _ h => canHandle_filtra h) (most .aiAssistedPatch)
    obtain ⟨c', mem', script⟩ := @selectScript_mem env _ valid
    obtain ⟨inside, critical⟩ := List.mem_filter.mp mem'
    have exists_ : env.existe (selectScriptForConflicts env (all.filter
        (PatchStrategy.executeXEditScript.filtra env))) = true := by
      rw [script]
      have h := handled c' inside critical
      simp only [PatchStrategy.canHandle, Bool.and_eq_true] at h
      exact h.2
    rw [PatchStrategy.createPlan]
    simp only [some_, valid, exists_, if_false, Bool.not_true, Bool.false_eq_true]
    exact ⟨_, rfl, rfl, rfl, rfl⟩

/-- What `resolve` answers about a report that has conflicts in its pairs. -/
theorem resolve_spec {report : ConflictReport} (counted : report.totalConflicts ≠ 0)
    (all_ : todosLosConflictos report = all) :
    (∃ s, 0 < puntos env all s ∧ (∀ other, puntos env all other ≤ puntos env all s) ∧
      ∃ plan, (resolve env report).success = true ∧ (resolve env report).plan = some plan ∧
        cubre env plan.strategyType = s.filtra env ∧
        plan.formIds = (all.filter (s.filtra env)).map (·.formId) ∧
        plan.estimatedRecords = (all.filter (s.filtra env)).length ∧
        (resolve env report).recordsPatched = plan.estimatedRecords ∧
        (resolve env report).conflictsResolved = all.length) ∨
    ((resolve env report).success = false ∧ ∀ s, puntos env all s = 0) := by
  obtain ⟨s, chosen, positive, most⟩ | ⟨nobody, zero⟩ := @mejor_spec env all
  · left
    have some_ : all ≠ [] := by
      intro none_
      rw [none_] at positive
      simp [puntos] at positive
    obtain ⟨plan, made, covers, ids, estimated⟩ := createPlan_spec positive most
    refine ⟨s, positive, most, plan, ?_⟩
    simp only [resolve, counted, if_false, all_, selectBestStrategy, some_, chosen, made]
    exact ⟨trivial, trivial, covers, ids, estimated, trivial, trivial⟩
  · right
    refine ⟨?_, zero⟩
    by_cases none_ : all = []
    · simp [resolve, counted, all_, selectBestStrategy, none_, fallido]
    · simp only [resolve, counted, if_false, all_, selectBestStrategy, none_, nobody]
      split
      · next failed => rfl
      · next ok =>
        split at ok
        · cases ok
        · cases ok

end Eleccion

/-! When a plan is honest -/

section Honesto
variable {env} {conflicts : List RecordConflict}

theorem todos_uno (one : ∀ c ∈ conflicts, c.losers.length = 1) :
    (todosLosConflictos (construirReporte conflicts)).Perm conflicts := by
  refine (todos_perm conflicts).trans ?_
  have same : (conflicts.flatMap fun c => List.replicate c.losers.length c) = conflicts := by
    induction conflicts with
    | nil => rfl
    | cons c conflicts ih =>
      rw [List.forall_mem_cons] at one
      rw [List.flatMap_cons, ih one.2, one.1]
      rfl
  rw [same]

/-- A flattened report that names each record once has one loser for each conflict. -/
theorem uno_of_nodup (losers : ∀ c ∈ conflicts, c.losers ≠ [])
    (once : ((todosLosConflictos (construirReporte conflicts)).map (·.formId)).Nodup) :
    ∀ c ∈ conflicts, c.losers.length = 1 := by
  intro c mem
  have flat := ((todos_perm conflicts).map (·.formId)).nodup_iff.mp once
  have copies : (List.replicate c.losers.length c.formId).Sublist
      ((conflicts.flatMap fun c => List.replicate c.losers.length c).map (·.formId)) := by
    have part : (List.replicate c.losers.length c).Sublist
        (conflicts.flatMap fun c => List.replicate c.losers.length c) := by
      have single : [c].Sublist conflicts := List.singleton_sublist.mpr mem
      simpa using single.flatMap fun c => List.replicate c.losers.length c
    simpa using part.map (·.formId)
  have few := List.nodup_replicate.mp (flat.sublist copies)
  have some_ : c.losers.length ≠ 0 := by
    intro none_
    exact losers c mem (List.length_eq_zero_iff.mp none_)
  omega

/-- All conflicts of one kind: whoever is chosen is about all of them. -/
theorem filtra_todos {all : List RecordConflict} {s : PatchStrategy}
    (most : ∀ other, puntos env all other ≤ puntos env all s)
    (kind : (∀ c ∈ all, esCritico c = true) ∨ (∀ c ∈ all, esLista env c = true)) :
    ∀ c ∈ all, s.filtra env c = true := by
  have full : all.length ≤ puntos env all s := by
    cases kind with
    | inl critical =>
      have every : puntos env all .aiAssistedPatch = all.length := List.countP_eq_length.mpr critical
      exact every ▸ most .aiAssistedPatch
    | inr leveled =>
      have every : puntos env all .delegateToBashedPatch = all.length := List.countP_eq_length.mpr leveled
      exact every ▸ most .delegateToBashedPatch
  intro c mem
  exact canHandle_filtra (List.countP_eq_length.mp (Nat.le_antisymm List.countP_le_length full) c mem)

/-- A plan over conflicts each of its own record is honest. -/
theorem honesto_of_unoPorRegistro (uno : UnoPorRegistro env conflicts) : PlanHonesto env conflicts := by
  obtain ⟨losers, kinds⟩ := uno
  refine ⟨(enPareja_iff conflicts).mpr losers, ?_⟩
  intro plan success made
  have counted : (construirReporte conflicts).totalConflicts ≠ 0 := by
    intro none_
    simp [resolve, none_] at made
  obtain ⟨s, positive, most, plan', _, made', covers, ids, estimated, patched, resolved⟩ | failed :=
    @resolve_spec env _ _ counted rfl
  case inr =>
    rw [failed.1] at success
    cases success
  obtain rfl : plan' = plan := Option.some.inj (made'.symm.trans made)
  obtain neither | ⟨one, different, kind⟩ := kinds
  · obtain ⟨c, mem, handles⟩ := List.countP_pos_iff.mp positive
    have none_ := neither c (mem_todos.mp mem).1
    have about := canHandle_filtra handles
    cases s with
    | executeXEditScript => exact absurd (none_.1.symm.trans about) (by decide)
    | delegateToBashedPatch => exact absurd (none_.2.symm.trans about) (by decide)
    | aiAssistedPatch => exact absurd (none_.1.symm.trans about) (by decide)
  · have perm := todos_uno one
    have everything : ∀ c ∈ todosLosConflictos (construirReporte conflicts), s.filtra env c = true := by
      apply filtra_todos most
      cases kind with
      | inl critical => exact .inl fun c mem => critical c (mem_todos.mp mem).1
      | inr leveled => exact .inr fun c mem => leveled c (mem_todos.mp mem).1
    rw [List.filter_eq_self.mpr everything] at ids estimated
    have once : plan'.formIds.Nodup := by
      rw [ids]
      exact (perm.map (·.formId)).nodup_iff.mpr different
    have distinct : plan'.formIds.dedup.length =
        (todosLosConflictos (construirReporte conflicts)).length := by
      rw [List.Nodup.dedup once, ids, List.length_map]
    refine ⟨once, ?_, by rw [estimated, distinct], by rw [patched, estimated, distinct],
      by rw [resolved, distinct]⟩
    intro id
    rw [ids, covers, List.mem_map]
    refine exists_congr fun c => ?_
    rw [perm.mem_iff]
    constructor
    · intro inside
      exact ⟨inside.1, everything c (perm.mem_iff.mpr inside.1), inside.2⟩
    · intro inside
      exact ⟨inside.1, inside.2.2⟩

theorem unoPorRegistro_of_honesto (ok : PlanHonesto env conflicts) : UnoPorRegistro env conflicts := by
  have losers := (enPareja_iff conflicts).mp ok.enPareja
  refine ⟨losers, ?_⟩
  by_cases counted : (construirReporte conflicts).totalConflicts = 0
  · left
    have none_ : conflicts = [] := List.length_eq_zero_iff.mp counted
    rw [none_]
    exact List.forall_mem_nil _
  have every : ∀ c ∈ conflicts, c ∈ todosLosConflictos (construirReporte conflicts) :=
    fun c mem => mem_todos.mpr ⟨mem, losers c mem⟩
  obtain ⟨s, positive, most, plan, success, made, covers, ids, estimated, patched, resolved⟩ |
    ⟨_, zero⟩ := @resolve_spec env _ _ counted rfl
  · right
    obtain ⟨once, _, _, patched_count, resolved_count⟩ := ok.plan plan success made
    -- as many conflicts are resolved as the plan covers, so it covers all of them
    have sizes : (todosLosConflictos (construirReporte conflicts)).length =
        ((todosLosConflictos (construirReporte conflicts)).filter (s.filtra env)).length := by
      rw [← resolved, resolved_count, ← patched_count, patched, estimated]
    have everything : ∀ c ∈ todosLosConflictos (construirReporte conflicts), s.filtra env c = true :=
      List.filter_eq_self.mp
        (List.filter_sublist.eq_of_length sizes.symm)
    rw [List.filter_eq_self.mpr everything] at ids
    rw [ids] at once
    have one := uno_of_nodup losers once
    refine ⟨one, ((todos_uno one).map (·.formId)).nodup_iff.mp once, ?_⟩
    cases s with
    | executeXEditScript => exact .inl fun c mem => everything c (every c mem)
    | delegateToBashedPatch => exact .inr fun c mem => everything c (every c mem)
    | aiAssistedPatch => exact .inl fun c mem => everything c (every c mem)
  · left
    intro c mem
    have no_points : ∀ s : PatchStrategy, s.canHandle env c = false := by
      intro s
      have none_ := List.countP_eq_zero.mp (zero s) c (every c mem)
      simpa using none_
    exact ⟨no_points .aiAssistedPatch, no_points .delegateToBashedPatch⟩

end Honesto

/-- A plan claims only what it covers if and only if every conflict is a record of
    its own with one loser and one strategy is about them all, or nobody plans. -/
theorem plan_honesto (env : Entorno) (conflicts : List RecordConflict) :
    PlanHonesto env conflicts ↔ UnoPorRegistro env conflicts :=
  ⟨unoPorRegistro_of_honesto, honesto_of_unoPorRegistro⟩

/-- One leveled list with two losers. -/
def listaDosVeces : RecordConflict where
  formId := "0001A2B3".toList
  editorId := "LItemWeapon".toList
  recordType := "LVLI".toList
  winner := "C.esp".toList
  losers := textos ["A.esp", "B.esp"]
  severity := .warning

/-- The plan names the record twice and resolves two conflicts where there is one. -/
theorem registro_repetido : ¬ PlanHonesto ⟨id, fun _ => false⟩ [listaDosVeces] ∧
    (resolve ⟨id, fun _ => false⟩ (construirReporte [listaDosVeces])).conflictsResolved = 2 ∧
    (resolve ⟨id, fun _ => false⟩ (construirReporte [listaDosVeces])).plan.map (·.formIds) =
      some [listaDosVeces.formId, listaDosVeces.formId] := by
  have twice : todosLosConflictos (construirReporte [listaDosVeces]) = [listaDosVeces, listaDosVeces] := by
    have perm := todos_perm [listaDosVeces]
    have flat : ([listaDosVeces].flatMap fun c => List.replicate c.losers.length c) =
        List.replicate 2 listaDosVeces := rfl
    rw [flat] at perm
    exact List.perm_replicate.mp perm
  have counted : (construirReporte [listaDosVeces]).totalConflicts ≠ 0 := by
    simp [construirReporte]
  refine ⟨?_, ?_⟩
  case refine_2 =>
    simp only [resolve, counted, if_false, twice]
    decide +kernel
  intro ok
  have uno := unoPorRegistro_of_honesto ok
  obtain ⟨_, neither | ⟨one, _⟩⟩ := uno
  · have leveled := (neither listaDosVeces (by simp)).2
    revert leveled
    decide
  · have length := one listaDosVeces (by simp)
    revert length
    decide

end XeditConflicts
