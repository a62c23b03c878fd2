import Mathlib.Logic.Function.Basic
import SkyClaw.ToolPayloads
import SkyClaw.TransitionRuns

set_option linter.all false

/-!
The executions that the idempotency middleware lets through over one state
machine. What a dispatch does before the tool runs, and what it does after it,
has no await in it, so each is one step; the clock is read on the way.
-/
namespace ToolStateMachine
open TransitionRuns JsonText

inductive TaskState where
  | pending
  | running
  | completed
  | failed
  | awaitingApproval
  | awaitingOperator
  deriving DecidableEq

def validTransitions : TaskState → List TaskState
  | .pending => [.running, .awaitingApproval]
  | .awaitingApproval => [.running, .failed]
  | .running => [.completed, .failed, .awaitingOperator]
  | .completed | .failed | .awaitingOperator => []

def terminalStates : List TaskState := [.completed, .failed, .awaitingOperator]

/-- What the tool returned: a dict, or a value of another type. -/
inductive Resultado where
  | dict (members : List (Text × Payload))
  | otro (typeName : Text)

def Resultado.dict? : Resultado → Option (List (Text × Payload))
  | .dict members => some members
  | .otro _ => none

structure TaskRecord where
  toolName : String
  state : TaskState
  idempotencyKey : String
  createdAt : Int
  updatedAt : Int
  errorMessage : Option Text
  result : Option (List (Text × Payload))

/-- What is not code of the program: the hash, `str` of a value, and whether pydantic takes
the two fields of a record whose value comes from the tool. -/
structure Entorno where
  sha256 : List Char → String
  keyTtl : Int
  str : Payload → Text
  acepta : Option Text → Option (List (Text × Payload)) → Bool
  aceptaVacio : acepta none none = true

/-- A `task_id` is the text `task_` and a number, which is what stands for it here. -/
structure Maquina where
  tasks : Nat → Option TaskRecord
  active : String → Option (Nat × Int)
  taskCounter : Nat

def Maquina.nueva : Maquina := ⟨fun _ => none, fun _ => none, 0⟩

inductive Error where
  | keyError
  | invalidTransition
  | validationError
  deriving DecidableEq

variable (env : Entorno)

def makeKey (toolName : String) (payload : Payload) : String :=
  env.sha256 (canonical toolName payload)

/-! The guard -/

def isExpired (t ts : Int) : Bool := decide (0 < env.keyTtl ∧ env.keyTtl < t - ts)

def isActive (t : Int) (key : String) (m : Maquina) : Bool :=
  match m.active key with
  | none => false
  | some (_, ts) => !isExpired env t ts

def acquire (key : String) (id : Nat) (t taken : Int) (m : Maquina) : Bool × Maquina :=
  match m.active key with
  | none => (true, { m with active := Function.update m.active key (some (id, taken)) })
  | some (_, ts) =>
    if isExpired env t ts then
      (true, { m with active := Function.update m.active key (some (id, taken)) })
    else (false, m)

def release (key : String) (id : Nat) (m : Maquina) : Maquina :=
  match m.active key with
  | none => m
  | some (owner, _) =>
    if owner = id then { m with active := Function.update m.active key none } else m

/-! The state machine -/

/-- `create_task` with its default initial state. -/
def createTask (toolName : String) (payload : Payload) (t : Int) (m : Maquina) : Nat × Maquina :=
  let id := m.taskCounter + 1
  (id, { m with taskCounter := id, tasks := Function.update m.tasks id (some {
    toolName := toolName, state := .pending, idempotencyKey := makeKey env toolName payload,
    createdAt := t, updatedAt := t, errorMessage := none, result := none }) })

def acquireIdempotency (id : Nat) (t taken : Int) (m : Maquina) : Except Error Bool × Maquina :=
  match m.tasks id with
  | none => (.error .keyError, m)
  | some task =>
    let (taken, m) := acquire env task.idempotencyKey id t taken m
    (.ok taken, m)

/-- The key is given back before the new record is built, and building it can fail. -/
def transition (id : Nat) (newState : TaskState) (t : Int) (errorMessage : Option Text)
    (result : Option (List (Text × Payload))) (m : Maquina) : Except Error TaskRecord × Maquina :=
  match m.tasks id with
  | none => (.error .keyError, m)
  | some current =>
    if newState ∈ validTransitions current.state then
      let m := if newState ∈ terminalStates then release current.idempotencyKey id m else m
      if env.acepta errorMessage result then
        let updated := { current with
          state := newState, updatedAt := t, errorMessage := errorMessage, result := result }
        (.ok updated, { m with tasks := Function.update m.tasks id (some updated) })
      else (.error .validationError, m)
    else (.error .invalidTransition, m)

/-! What the middleware reads from a result -/

def get (members : List (Text × Payload)) (key : String) : Option Payload :=
  (members.find? fun p => p.1 = lit key).map (·.2)

/-- `bool(value)` -/
def cierto : Payload → Bool
  | .null => false
  | .bool b => b
  | .int n => n ≠ 0
  | .real literal => literal ≠ "0.0".toList ∧ literal ≠ "-0.0".toList
  | .text t => !t.isEmpty
  | .list items => !items.isEmpty
  | .dict members => !members.isEmpty

def esEtapaPendiente : Resultado → Bool
  | .otro _ => false
  | .dict members =>
    match get members "pendiente" with
    | some (.bool b) => b
    | _ => false

def isErrorResult : Resultado → Bool
  | .otro _ => true
  | .dict members =>
    (match get members "status" with
      | some (.text t) => t = lit "error"
      | _ => false) ||
    (match get members "success" with
      | some (.bool b) => !b
      | _ => false)

def extractErrorMessage : Resultado → Text
  | .otro typeName => lit "Invalid result type: " ++ typeName
  | .dict members =>
    match (["message", "details", "error", "reason"].filterMap (get members)).find? cierto with
    | some value => env.str value
    | none =>
      match get members "errors" with
      | some (.list (e :: es)) => (lit "; ").intercalate ((e :: es).map env.str)
      | _ => lit "Tool execution failed"

/-! The two halves of a dispatch -/

/-- The readings of the clock in the first half, in order. -/
structure Lecturas where
  precheck : Int
  created : Int
  expired : Int
  taken : Int
  running : Int

def Lecturas.Ordenadas (desde : Int) (r : Lecturas) : Prop :=
  desde ≤ r.precheck ∧ r.precheck ≤ r.created ∧ r.created ≤ r.expired ∧ r.expired ≤ r.taken ∧
    r.taken ≤ r.running

instance (desde : Int) (r : Lecturas) : Decidable (r.Ordenadas desde) := by
  unfold Lecturas.Ordenadas; infer_instance

inductive Respuesta where
  | duplicada
  | ejecuta (id : Nat)
  | fallo (e : Error)

/-- Up to the call of the tool. What `acquire_idempotency` answers is not looked at. -/
def despachar (toolName : String) (payload : Payload) (r : Lecturas) (m : Maquina) :
    Respuesta × Maquina :=
  if isActive env r.precheck (makeKey env toolName payload) m then (.duplicada, m)
  else
    let (id, m) := createTask env toolName payload r.created m
    match acquireIdempotency env id r.expired r.taken m with
    | (.error e, m) => (.fallo e, m)
    | (.ok _, m) =>
      match transition env id .running r.running none none m with
      | (.error e, m) => (.fallo e, m)
      | (.ok _, m) => (.ejecuta id, m)

/-- How the call of the tool ends. -/
inductive Fin where
  | devuelve (result : Resultado)
  | cancelada
  /-- An `Exception`, and its `str`, which may raise. -/
  | excepcion (mensaje : Option Text)
  /-- A `BaseException` that is neither an `Exception` nor a cancellation. -/
  | otra

/-- From the end of the tool on. -/
def terminar (id : Nat) (fin : Fin) (t : Int) (m : Maquina) : Maquina :=
  match fin with
  | .otra | .excepcion none => m
  | .cancelada => (transition env id .failed t (some (lit "cancelled")) none m).2
  | .excepcion (some mensaje) => (transition env id .failed t (some mensaje) none m).2
  | .devuelve result =>
    if esEtapaPendiente result then (transition env id .awaitingOperator t none result.dict? m).2
    else if isErrorResult result then
      (transition env id .failed t (some (extractErrorMessage env result)) result.dict? m).2
    else (transition env id .completed t none result.dict? m).2

/-! Interleaved dispatches -/

/-- A tool that is running, and when it took its key. -/
structure Ejecucion where
  task : Nat
  toolName : String
  payload : Payload
  inicio : Int

structure Estado where
  maquina : Maquina
  enCurso : List Ejecucion
  reloj : Int

inductive Evento where
  | despacha (toolName : String) (payload : Payload) (r : Lecturas)
  | termina (id : Nat) (fin : Fin) (t : Int)

def step (s : Estado) : Evento → Option Estado
  | .despacha toolName payload r =>
    if r.Ordenadas s.reloj then
      match despachar env toolName payload r s.maquina with
      | (.ejecuta id, m) => some ⟨m, s.enCurso ++ [⟨id, toolName, payload, r.taken⟩], r.running⟩
      | (_, m) => some { s with maquina := m, reloj := r.running }
    else none
  | .termina id fin t =>
    if (s.enCurso.any fun x => x.task = id) ∧ s.reloj ≤ t then
      some ⟨terminar env id fin t s.maquina, s.enCurso.filter fun x => x.task ≠ id, t⟩
    else none

def Inicial (s : Estado) : Prop := s.maquina = .nueva ∧ s.enCurso = []

/-! What is claimed -/

/-- The TTL of a key taken at `inicio` has passed at `t`. -/
def Vencida (inicio t : Int) : Prop := 0 < env.keyTtl ∧ env.keyTtl < t - inicio

structure Segura (s : Estado) : Prop where
  /-- The same tool runs twice with one value only where the first key had expired. -/
  exclusion : ∀ a ∈ s.enCurso, ∀ b ∈ s.enCurso, a.task < b.task → a.toolName = b.toolName →
    a.payload.Igual b.payload → Vencida env a.inicio b.inicio
  /-- A task runs while its tool does, and is in a final state afterwards. -/
  tareas : ∀ id r, s.maquina.tasks id = some r →
    (r.state = .running ∧ ∃ x ∈ s.enCurso, x.task = id) ∨
    (r.state ∈ terminalStates ∧ ∀ x ∈ s.enCurso, x.task ≠ id)
  /-- No key is held but by a tool that runs. -/
  claves : ∀ key id ts, s.maquina.active key = some (id, ts) →
    ∃ x ∈ s.enCurso, x.task = id ∧ x.inicio = ts ∧ makeKey env x.toolName x.payload = key

structure Correcto (s : Estado) (e : Evento) (t : Estado) : Prop where
  propia : ∀ id fin reading, e = .termina id fin reading → ∀ x ∈ s.enCurso, x.task = id →
    ∀ owner ts, t.maquina.active (makeKey env x.toolName x.payload) = some (owner, ts) → id < owner
  ajenas : ∀ id fin reading, e = .termina id fin reading → ∀ key owner ts,
    s.maquina.active key = some (owner, ts) → owner ≠ id → t.maquina.active key = some (owner, ts)
  llega : ∀ id fin reading, e = .termina id fin reading →
    ∃ r, t.maquina.tasks id = some r ∧ r.state ∈ terminalStates
  final : ∀ id r, s.maquina.tasks id = some r → r.state ∈ terminalStates →
    t.maquina.tasks id = some r
  rechazo : ∀ toolName payload r, e = .despacha toolName payload r →
    (despachar env toolName payload r s.maquina).1 = .duplicada → t.maquina = s.maquina

/-- The end leaves a record that pydantic takes. -/
def Registrable : Fin → Prop
  | .devuelve result =>
    if esEtapaPendiente result then env.acepta none result.dict? = true
    else if isErrorResult result then
      env.acepta (some (extractErrorMessage env result)) result.dict? = true
    else env.acepta none result.dict? = true
  | .cancelada => env.acepta (some (lit "cancelled")) none = true
  | .excepcion (some mensaje) => env.acepta (some mensaje) none = true
  | .excepcion none | .otra => False

def permitido : Evento → Prop
  | .despacha _ _ _ => True
  | .termina _ fin _ => Registrable env fin

/-! What each half does -/

variable {env}

theorem transition_ok {id : Nat} {newState : TaskState} {t : Int} {errorMessage : Option Text}
    {result : Option (List (Text × Payload))} {m : Maquina} {r : TaskRecord}
    (here : m.tasks id = some r) (valid : newState ∈ validTransitions r.state)
    (accepted : env.acepta errorMessage result = true) :
    ∃ u, u.state = newState ∧ u.idempotencyKey = r.idempotencyKey ∧
      transition env id newState t errorMessage result m = (.ok u,
        { (if newState ∈ terminalStates then release r.idempotencyKey id m else m) with
          tasks := Function.update m.tasks id (some u) }) := by
  refine ⟨{ r with state := newState, updatedAt := t, errorMessage := errorMessage, result := result },
    rfl, rfl, ?_⟩
  have kept : (if newState ∈ terminalStates then release r.idempotencyKey id m else m).tasks =
      m.tasks := by
    split
    · unfold release
      split
      · rfl
      · split <;> rfl
    · rfl
  simp only [transition, here, valid, accepted, if_true, kept]

/-- Every end that can be recorded takes the task to a final state and gives its key back. -/
theorem terminar_ok {id : Nat} {fin : Fin} {t : Int} {m : Maquina} {r : TaskRecord}
    (here : m.tasks id = some r) (running : r.state = .running) (recordable : Registrable env fin) :
    ∃ u, u.state ∈ terminalStates ∧ u.idempotencyKey = r.idempotencyKey ∧
      terminar env id fin t m =
        { release r.idempotencyKey id m with tasks := Function.update m.tasks id (some u) } := by
  have ends : ∀ newState errorMessage result, newState ∈ terminalStates →
      env.acepta errorMessage result = true → ∃ u, u.state ∈ terminalStates ∧
        u.idempotencyKey = r.idempotencyKey ∧ (transition env id newState t errorMessage result m).2 =
          { release r.idempotencyKey id m with tasks := Function.update m.tasks id (some u) } := by
    intro newState errorMessage result terminal accepted
    have valid : newState ∈ validTransitions r.state := by
      rw [running]
      exact (by decide : ∀ x ∈ terminalStates, x ∈ validTransitions .running) newState terminal
    obtain ⟨u, state, key, done⟩ := transition_ok (t := t) here valid accepted
    refine ⟨u, state ▸ terminal, key, ?_⟩
    rw [done, if_pos terminal]
  cases fin with
  | devuelve result =>
    simp only [Registrable] at recordable
    simp only [terminar]
    split
    · next pending =>
      rw [if_pos pending] at recordable
      exact ends _ _ _ (by decide) recordable
    · next settled =>
      rw [if_neg settled] at recordable
      split
      · next wrong =>
        rw [if_pos wrong] at recordable
        exact ends _ _ _ (by decide) recordable
      · next right =>
        rw [if_neg right] at recordable
        exact ends _ _ _ (by decide) recordable
  | cancelada => exact ends _ _ _ (by decide) recordable
  | excepcion mensaje =>
    cases mensaje with
    | none => exact recordable.elim
    | some mensaje => exact ends _ _ _ (by decide) recordable
  | otra => exact recordable.elim

theorem release_active (key : String) (id : Nat) (m : Maquina) (k : String) (owner : Nat)
    (ts : Int) : (release key id m).active k = some (owner, ts) ↔
      m.active k = some (owner, ts) ∧ ¬ (k = key ∧ owner = id) := by
  unfold release
  split
  · next absent =>
    constructor
    · intro held
      refine ⟨held, ?_⟩
      intro ⟨same, _⟩
      rw [same, absent] at held
      cases held
    · exact And.left
  · next holder ts' held =>
    by_cases same : k = key
    · subst same
      split
      · next mine =>
        simp only [Function.update_self, reduceCtorEq, held, Option.some.injEq, Prod.mk.injEq,
          true_and, false_iff]
        intro ⟨⟨same, _⟩, other⟩
        exact other (same.symm.trans mine)
      · next other =>
        simp only [held, Option.some.injEq, Prod.mk.injEq, true_and]
        constructor
        · intro ⟨same, at_⟩
          exact ⟨⟨same, at_⟩, fun mine => other (same.trans mine)⟩
        · exact And.left
    · split
      · simp [same]
      · simp [same]

/-- A dispatch that is not refused takes the key, whatever the guard held before. -/
theorem despachar_ejecuta {toolName : String} {payload : Payload} {r : Lecturas} {m : Maquina}
    {desde : Int} (order : r.Ordenadas desde)
    (free : isActive env r.precheck (makeKey env toolName payload) m = false) :
    ∃ u, u.state = .running ∧ u.idempotencyKey = makeKey env toolName payload ∧
      despachar env toolName payload r m = (.ejecuta (m.taskCounter + 1),
        { taskCounter := m.taskCounter + 1
          tasks := Function.update m.tasks (m.taskCounter + 1) (some u)
          active := Function.update m.active (makeKey env toolName payload)
            (some (m.taskCounter + 1, r.taken)) }) := by
  obtain ⟨_, le1, le2, _, _⟩ := order
  have takes : ∀ tasks, acquire env (makeKey env toolName payload) (m.taskCounter + 1) r.expired
      r.taken { m with taskCounter := m.taskCounter + 1, tasks := tasks } =
      (true, { taskCounter := m.taskCounter + 1, tasks := tasks
               active := Function.update m.active (makeKey env toolName payload)
                 (some (m.taskCounter + 1, r.taken)) }) := by
    intro tasks
    unfold acquire
    split
    · rfl
    · next owner ts held =>
      -- the pre-check found it expired, and the clock only goes on
      simp only at held
      have expired : isExpired env r.expired ts = true := by
        simp only [isActive, held, isExpired, Bool.not_eq_false', decide_eq_true_eq] at free ⊢
        omega
      rw [if_pos expired]
  refine ⟨{ toolName := toolName, state := .running, idempotencyKey := makeKey env toolName payload,
            createdAt := r.created, updatedAt := r.running, errorMessage := none, result := none },
    rfl, rfl, ?_⟩
  unfold despachar
  rw [free]
  simp [createTask, acquireIdempotency, takes, transition, validTransitions, terminalStates,
    env.aceptaVacio]

/-! The invariant -/

/-- What the guard knows of the tools that run: it holds the key of each for it, or that key
has expired and a later one may hold it. -/
structure Coherente (env : Entorno) (s : Estado) : Prop extends Segura env s where
  creadas : ∀ id r, s.maquina.tasks id = some r → id ≤ s.maquina.taskCounter
  vivas : ∀ x ∈ s.enCurso, ∃ r, s.maquina.tasks x.task = some r ∧ r.state = .running ∧
    r.idempotencyKey = makeKey env x.toolName x.payload
  guarda : ∀ x ∈ s.enCurso,
    s.maquina.active (makeKey env x.toolName x.payload) = some (x.task, x.inicio) ∨
      Vencida env x.inicio s.reloj
  anteriores : ∀ x ∈ s.enCurso, ∀ owner ts,
    s.maquina.active (makeKey env x.toolName x.payload) = some (owner, ts) → x.task ≤ owner

theorem Vencida.later {inicio t t' : Int} (expired : Vencida env inicio t) (later : t ≤ t') :
    Vencida env inicio t' := by
  obtain ⟨positive, over_⟩ := expired
  exact ⟨positive, by omega⟩

theorem Inicial.coherente {s : Estado} (first : Inicial s) : Coherente env s := by
  obtain ⟨machine, none_⟩ := first
  constructor
  · constructor <;> simp [machine, none_, Maquina.nueva]
  all_goals simp [machine, none_, Maquina.nueva]

theorem Coherente.avanza {s : Estado} (co : Coherente env s) {t : Int} (later : s.reloj ≤ t) :
    Coherente env { s with reloj := t } :=
  { co with guarda := fun x mem => (co.guarda x mem).imp id (·.later later) }

/-- A key that the pre-check found free is free for good of the tools that ran with it. -/
theorem Coherente.vencida {s : Estado} (co : Coherente env s) {x : Ejecucion} (mem : x ∈ s.enCurso)
    {t : Int} (later : s.reloj ≤ t)
    (free : isActive env t (makeKey env x.toolName x.payload) s.maquina = false) :
    Vencida env x.inicio t := by
  cases co.guarda x mem with
  | inl held =>
    simp only [isActive, held, isExpired, Bool.not_eq_false', decide_eq_true_eq] at free
    exact free
  | inr expired => exact expired.later later

theorem Coherente.ejecuta {s : Estado} (co : Coherente env s) {toolName : String} {payload : Payload}
    {r : Lecturas} (order : r.Ordenadas s.reloj) {u : TaskRecord} (running : u.state = .running)
    (itsKey : u.idempotencyKey = makeKey env toolName payload)
    (free : isActive env r.precheck (makeKey env toolName payload) s.maquina = false) :
    Coherente env
      ⟨{ taskCounter := s.maquina.taskCounter + 1
         tasks := Function.update s.maquina.tasks (s.maquina.taskCounter + 1) (some u)
         active := Function.update s.maquina.active (makeKey env toolName payload)
           (some (s.maquina.taskCounter + 1, r.taken)) },
        s.enCurso ++ [⟨s.maquina.taskCounter + 1, toolName, payload, r.taken⟩], r.running⟩ := by
  obtain ⟨le0, le1, le2, le3, le4⟩ := order
  have old : ∀ x ∈ s.enCurso, x.task ≤ s.maquina.taskCounter := by
    intro x mem
    obtain ⟨v, here, _⟩ := co.vivas x mem
    exact co.creadas _ _ here
  have expired : ∀ x ∈ s.enCurso, makeKey env x.toolName x.payload = makeKey env toolName payload →
      Vencida env x.inicio r.precheck := by
    intro x mem same
    exact co.vencida mem le0 (same ▸ free)
  have others : ∀ x ∈ s.enCurso, x.task ≠ s.maquina.taskCounter + 1 := by
    intro x mem
    have := old x mem
    omega
  constructor
  · constructor
    · intro a inA b inB less name value
      rcases List.mem_append.mp inA with inA | inA
      · rcases List.mem_append.mp inB with inB | inB
        · exact co.exclusion a inA b inB less name value
        · cases List.mem_singleton.mp inB
          have same : makeKey env a.toolName a.payload = makeKey env toolName payload := by
            simp only [makeKey, canonical, value.dumps_eq, name]
          have first : r.precheck ≤ r.taken := by omega
          exact (expired a inA same).later first
      · cases List.mem_singleton.mp inA
        simp only at less
        rcases List.mem_append.mp inB with inB | inB
        · have := old b inB
          omega
        · cases List.mem_singleton.mp inB
          simp only at less
          omega
    · intro id v here
      simp only [List.mem_append, List.mem_singleton] at here ⊢
      by_cases new : id = s.maquina.taskCounter + 1
      · subst new
        rw [Function.update_self] at here
        cases here
        exact .inl ⟨running, _, .inr rfl, rfl⟩
      · rw [Function.update_of_ne new] at here
        rcases co.tareas id v here with ⟨runs, x, mem, same⟩ | ⟨ended, gone⟩
        · exact .inl ⟨runs, x, .inl mem, same⟩
        · refine .inr ⟨ended, ?_⟩
          rintro x (mem | rfl)
          · exact gone x mem
          · exact Ne.symm new
    · intro key id ts held
      simp only [List.mem_append, List.mem_singleton] at held ⊢
      by_cases new : key = makeKey env toolName payload
      · subst new
        rw [Function.update_self] at held
        cases held
        exact ⟨_, .inr rfl, rfl, rfl, rfl⟩
      · rw [Function.update_of_ne new] at held
        obtain ⟨x, mem, rest⟩ := co.claves key id ts held
        exact ⟨x, .inl mem, rest⟩
  · intro id v here
    by_cases new : id = s.maquina.taskCounter + 1
    · exact Nat.le_of_eq new
    · simp only [Function.update_of_ne new] at here
      exact Nat.le_succ_of_le (co.creadas id v here)
  · intro x mem
    rcases List.mem_append.mp mem with mem | mem
    · simp only [Function.update_of_ne (others x mem)]
      exact co.vivas x mem
    · cases List.mem_singleton.mp mem
      exact ⟨u, Function.update_self .., running, itsKey⟩
  · intro x mem
    rcases List.mem_append.mp mem with mem | mem
    · by_cases same : makeKey env x.toolName x.payload = makeKey env toolName payload
      · have first : r.precheck ≤ r.running := by omega
        exact .inr ((expired x mem same).later first)
      · simp only [Function.update_of_ne same]
        exact (co.guarda x mem).imp_right (·.later (by omega))
    · cases List.mem_singleton.mp mem
      exact .inl (Function.update_self ..)
  · intro x mem owner ts held
    simp only at held
    rcases List.mem_append.mp mem with mem | mem
    · by_cases same : makeKey env x.toolName x.payload = makeKey env toolName payload
      · rw [same, Function.update_self] at held
        cases held
        exact Nat.le_succ_of_le (old x mem)
      · rw [Function.update_of_ne same] at held
        exact co.anteriores x mem owner ts held
    · cases List.mem_singleton.mp mem
      rw [Function.update_self] at held
      cases held
      exact Nat.le_refl _

theorem Coherente.termina {s : Estado} (co : Coherente env s) {id : Nat} {x : Ejecucion}
    (mem : x ∈ s.enCurso) (same : x.task = id) {u : TaskRecord} (ended : u.state ∈ terminalStates)
    {t : Int} (later : s.reloj ≤ t) :
    Coherente env
      ⟨{ release (makeKey env x.toolName x.payload) id s.maquina with
         tasks := Function.update s.maquina.tasks id (some u) },
        s.enCurso.filter fun y => y.task ≠ id, t⟩ := by
  have counter : (release (makeKey env x.toolName x.payload) id s.maquina).taskCounter =
      s.maquina.taskCounter := by
    unfold release
    split
    · rfl
    · split <;> rfl
  obtain ⟨v, here, _, _⟩ := co.vivas x mem
  constructor
  · constructor
    · intro a inA b inB
      exact co.exclusion a (List.mem_filter.mp inA).1 b (List.mem_filter.mp inB).1
    · intro i w found
      simp only [List.mem_filter, decide_eq_true_eq] at found ⊢
      by_cases mine : i = id
      · subst mine
        rw [Function.update_self] at found
        cases found
        exact .inr ⟨ended, fun y inY => inY.2⟩
      · rw [Function.update_of_ne mine] at found
        rcases co.tareas i w found with ⟨runs, y, inY, sameY⟩ | ⟨final, gone⟩
        · exact .inl ⟨runs, y, ⟨inY, fun other => mine (sameY.symm.trans other)⟩, sameY⟩
        · exact .inr ⟨final, fun y inY => gone y inY.1⟩
    · intro key owner ts held
      obtain ⟨held, other⟩ := (release_active ..).mp held
      obtain ⟨y, inY, sameY, start, keyY⟩ := co.claves key owner ts held
      refine ⟨y, List.mem_filter.mpr ⟨inY, ?_⟩, sameY, start, keyY⟩
      simp only [decide_eq_true_eq]
      intro mine
      -- the two run as one task, and so under the key of its record
      obtain ⟨w, hereY, _, itsKey⟩ := co.vivas y inY
      obtain ⟨v, hereX, _, keyX⟩ := co.vivas x mem
      rw [mine, ← same, hereX] at hereY
      cases hereY
      exact other ⟨by rw [← keyY, ← itsKey, keyX], sameY.symm.trans mine⟩
  · intro i w found
    simp only [counter] at found ⊢
    by_cases mine : i = id
    · rw [mine, ← same]
      exact co.creadas _ _ here
    · rw [Function.update_of_ne mine] at found
      exact co.creadas i w found
  · intro y inY
    obtain ⟨inY, other⟩ := List.mem_filter.mp inY
    simp only [decide_eq_true_eq] at other
    simp only [Function.update_of_ne other]
    exact co.vivas y inY
  · intro y inY
    obtain ⟨inY, other⟩ := List.mem_filter.mp inY
    simp only [decide_eq_true_eq] at other
    cases co.guarda y inY with
    | inl held => exact .inl ((release_active ..).mpr ⟨held, fun both => other both.2⟩)
    | inr expired => exact .inr (expired.later later)
  · intro y inY owner ts held
    exact co.anteriores y (List.mem_filter.mp inY).1 owner ts ((release_active ..).mp held).1

/-- What a step is: a refusal, a tool that starts or a tool that ends. -/
theorem step_cases {s t : Estado} {e : Evento} (co : Coherente env s) (allowed : permitido env e)
    (moved : step env s e = some t) :
    (∃ toolName payload r, e = .despacha toolName payload r ∧ r.Ordenadas s.reloj ∧
      (despachar env toolName payload r s.maquina).1 = .duplicada ∧
      t = { s with reloj := r.running }) ∨
    (∃ toolName payload r u, e = .despacha toolName payload r ∧ r.Ordenadas s.reloj ∧
      isActive env r.precheck (makeKey env toolName payload) s.maquina = false ∧
      (despachar env toolName payload r s.maquina).1 = .ejecuta (s.maquina.taskCounter + 1) ∧
      u.state = .running ∧ u.idempotencyKey = makeKey env toolName payload ∧
      t = ⟨{ taskCounter := s.maquina.taskCounter + 1
             tasks := Function.update s.maquina.tasks (s.maquina.taskCounter + 1) (some u)
             active := Function.update s.maquina.active (makeKey env toolName payload)
               (some (s.maquina.taskCounter + 1, r.taken)) },
            s.enCurso ++ [⟨s.maquina.taskCounter + 1, toolName, payload, r.taken⟩], r.running⟩) ∨
    ∃ id fin reading x u, e = .termina id fin reading ∧ x ∈ s.enCurso ∧ x.task = id ∧
      s.reloj ≤ reading ∧ u.state ∈ terminalStates ∧
      t = ⟨{ release (makeKey env x.toolName x.payload) id s.maquina with
             tasks := Function.update s.maquina.tasks id (some u) },
            s.enCurso.filter fun y => y.task ≠ id, reading⟩ := by
  cases e with
  | despacha toolName payload r =>
    simp only [step] at moved
    split at moved
    · next order =>
      cases free : isActive env r.precheck (makeKey env toolName payload) s.maquina with
      | true =>
        have refused : despachar env toolName payload r s.maquina = (.duplicada, s.maquina) := by
          rw [despachar, if_pos free]
        rw [refused] at moved
        cases moved
        exact .inl ⟨toolName, payload, r, rfl, order, by rw [refused], rfl⟩
      | false =>
        obtain ⟨u, running, itsKey, done⟩ := despachar_ejecuta order free
        rw [done] at moved
        cases moved
        exact .inr (.inl ⟨toolName, payload, r, u, rfl, order, free, by rw [done], running, itsKey, rfl⟩)
    · cases moved
  | termina id fin reading =>
    simp only [step, List.any_eq_true, decide_eq_true_eq] at moved
    split at moved
    · next enabled =>
      obtain ⟨⟨x, mem, same⟩, later⟩ := enabled
      obtain ⟨r, here, running, itsKey⟩ := co.vivas x mem
      rw [same] at here
      obtain ⟨u, ended, _, done⟩ := terminar_ok (t := reading) here running allowed
      rw [done, itsKey] at moved
      cases moved
      exact .inr (.inr ⟨id, fin, reading, x, u, rfl, mem, same, later, ended, rfl⟩)
    · cases moved

theorem Coherente.step {s t : Estado} {e : Evento} (co : Coherente env s) (allowed : permitido env e)
    (moved : step env s e = some t) : Coherente env t := by
  obtain ⟨_, _, r, _, order, _, rfl⟩ | ⟨_, _, r, u, _, order, free, _, running, itsKey, rfl⟩ |
    ⟨id, _, reading, x, u, _, mem, same, later, ended, rfl⟩ := step_cases co allowed moved
  · obtain ⟨le0, le1, le2, le3, le4⟩ := order
    exact co.avanza (by omega)
  · exact co.ejecuta order running itsKey free
  · exact co.termina mem same ended later

theorem Coherente.correcto {s t : Estado} {e : Evento} (co : Coherente env s) (allowed : permitido env e)
    (moved : ToolStateMachine.step env s e = some t) : Correcto env s e t := by
  obtain ⟨_, _, r, rfl, order, refused, rfl⟩ |
    ⟨toolName, payload, r, u, rfl, order, free, runs, running, itsKey, rfl⟩ |
    ⟨id, fin, reading, x, u, rfl, mem, same, later, ended, rfl⟩ := step_cases co allowed moved
  · exact ⟨nofun, nofun, nofun, fun _ _ here _ => here, fun _ _ _ _ _ => rfl⟩
  · refine ⟨nofun, nofun, nofun, ?_, ?_⟩
    · intro id v here _
      have old := co.creadas id v here
      simp only
      rw [Function.update_of_ne (by omega)]
      exact here
    · intro _ _ _ event refused
      cases event
      rw [runs] at refused
      cases refused
  · constructor
    · intro i _ _ event y inY sameY owner ts held
      cases event
      obtain ⟨held, other⟩ := (release_active ..).mp held
      have le := co.anteriores y inY owner ts held
      obtain ⟨v, hereX, _, keyX⟩ := co.vivas x mem
      obtain ⟨w, hereY, _, keyY⟩ := co.vivas y inY
      rw [sameY, ← same, hereX] at hereY
      cases hereY
      have apart : owner ≠ id := fun mine => other ⟨keyY.symm.trans keyX, mine⟩
      omega
    · intro i _ _ event key owner ts held other
      cases event
      exact (release_active ..).mpr ⟨held, fun both => other both.2⟩
    · intro i _ _ event
      cases event
      exact ⟨u, Function.update_self .., ended⟩
    · intro i v here final
      rcases co.tareas i v here with ⟨runs, _⟩ | ⟨_, gone⟩
      · rw [runs] at final
        exact absurd final (by decide)
      · have other : i ≠ id := fun mine => gone x mem (same.trans mine.symm)
        simp only
        rw [Function.update_of_ne other]
        exact here
    · nofun

/-- Texts with a lone surrogate are not taken. -/
def envFijo : Entorno where
  sha256 := String.ofList
  keyTtl := 3600
  str _ := []
  acepta mensaje result := (mensaje.getD []).all isScalar && (result.getD []).all fun p => p.1.all isScalar
  aceptaVacio := rfl

def vacio : Estado := ⟨.nueva, [], 0⟩

def despacho (t : Int) : Evento := .despacha "list_mods" (.dict [(lit "a", .int 1)]) ⟨t, t, t, t, t⟩

/-- The second one is refused, the third one comes after the end of the first. -/
def tresDespachos : List Evento :=
  [despacho 1, despacho 2, .termina 1 (.excepcion (some (lit "boom"))) 3, despacho 4]

instance (env : Entorno) (fin : Fin) : Decidable (Registrable env fin) := by
  cases fin with
  | excepcion mensaje => cases mensaje <;> unfold Registrable <;> infer_instance
  | _ => unfold Registrable; infer_instance

instance (env : Entorno) (e : Evento) : Decidable (permitido env e) := by
  cases e <;> unfold permitido <;> infer_instance

theorem no_correcto {fin : Fin}
    (looks : ((run (step envFijo) vacio [despacho 1]).bind fun s =>
      (step envFijo s (.termina 1 fin 2)).map fun t => (t.maquina.tasks 1).map TaskRecord.state) =
      some (some .running)) :
    ∃ s t, run (step envFijo) vacio [despacho 1] = some s ∧ step envFijo s (.termina 1 fin 2) = some t ∧
      ¬ Correcto envFijo s (.termina 1 fin 2) t := by
  obtain ⟨s, done, rest⟩ := Option.bind_eq_some_iff.mp looks
  obtain ⟨t, moved, stuck⟩ := Option.map_eq_some_iff.mp rest
  refine ⟨s, t, done, moved, fun right => ?_⟩
  obtain ⟨r, here, ended⟩ := right.llega 1 fin 2 rfl
  rw [here, Option.map_some, Option.some.injEq] at stuck
  rw [stuck] at ended
  exact absurd ended (by decide)

end ToolStateMachine
