import SkyClaw.TransitionRuns

set_option linter.all false

/-!
The chat loop with native tool calls, for one `chat_id`: the stored history, the
list of messages that each round hands to the provider and the places that cut
it. A stored content is what `json.loads` makes of it: a list of blocks, or a text.
-/
namespace ChatRouter
open TransitionRuns

inductive Role where
  | user
  | assistant
  | system
  deriving DecidableEq

inductive Block where
  | text (text : String)
  | toolUse (id name input : String)
  | toolResult (toolUseId content : String)
  | other (json : String)
  deriving DecidableEq

inductive Content where
  | text (s : String)
  | blocks (bs : List Block)
  deriving DecidableEq

structure Message where
  role : Role
  content : Content
  deriving DecidableEq

structure Config where
  maxContext : Int := 20
  messagesToPreserve : Int := 6
  enableAutoSummarization : Bool := true
  maxSummaryChars : Nat := 19200

/-- `sanitize_for_prompt`, whether the inspector blocks a text, `uuid4` by its calls. -/
structure Entorno where
  sanitize : String → String
  bloqueada : String → Bool
  uuid : Nat → String

/-! Slices and cuts -/

/-- `xs[-n:]`. -/
def ultimos {α : Type} (n : Int) (xs : List α) : List α :=
  if 0 < n then xs.drop (xs.length - n.toNat) else xs.drop n.natAbs

/-- `xs[:-n]`. -/
def anteriores {α : Type} (n : Int) (xs : List α) : List α :=
  if 0 < n then xs.take (xs.length - n.toNat) else xs.take n.natAbs

/-- `ORDER BY id DESC LIMIT n`, reversed. -/
def limita {α : Type} (n : Int) (xs : List α) : List α :=
  if n < 0 then xs else xs.drop (xs.length - n.toNat)

def Message.esSystem (m : Message) : Bool := m.role = .system

def Role.nombre : Role → String
  | .user => "user"
  | .assistant => "assistant"
  | .system => "system"

def preview (m : Message) : String :=
  match m.content with
  | .text s => if 200 < s.length then String.ofList (s.toList.take 200) ++ "..." else s
  | .blocks _ => "[multi-part content]"

def resumen (cfg : Config) (older : List Message) : Message :=
  let texto := "CONTEXT SUMMARY (auto-generated):\n" ++
    String.intercalate "\n" (older.map fun m => "[" ++ m.role.nombre ++ "]: " ++ preview m)
  let texto := if cfg.maxSummaryChars < texto.length then
    String.ofList (texto.toList.take cfg.maxSummaryChars) ++ "\n... [summary truncated]" else texto
  ⟨.system, .text texto⟩

variable (cfg : Config)

def summarizeOlderMessages (messages : List Message) : List Message :=
  let systemMsgs := messages.filter (·.esSystem)
  let convMsgs := messages.filter (!·.esSystem)
  if !cfg.enableAutoSummarization then messages
  else if (messages.length : Int) ≤ cfg.messagesToPreserve + 1 then messages
  else if (convMsgs.length : Int) ≤ cfg.messagesToPreserve then messages
  else systemMsgs ++ [resumen cfg (anteriores cfg.messagesToPreserve convMsgs)] ++
    ultimos cfg.messagesToPreserve convMsgs

def truncateOlderMessages (messages : List Message) : List Message :=
  let systemMsgs := messages.filter (·.esSystem)
  let convMsgs := messages.filter (!·.esSystem)
  systemMsgs ++ if cfg.messagesToPreserve < convMsgs.length then ultimos cfg.messagesToPreserve convMsgs
    else convMsgs

inductive Action where
  | allow
  | summarize
  | truncate
  | reject
  deriving DecidableEq

def presupuesta (messages : List Message) : Action → List Message
  | .allow | .reject => messages
  | .summarize => summarizeOlderMessages cfg messages
  | .truncate => truncateOlderMessages cfg messages

variable (py : Entorno)

/-- One row of the history; a user's text that the inspector blocks is left out. -/
def leeFila (row : Message) : Option Message :=
  match row.content with
  | .blocks _ => some row
  | .text s =>
    if row.role = .user ∧ py.bloqueada s = true then none
    else some { row with content := .text (py.sanitize s) }

def loadContext (rows : List Message) : List Message := (limita cfg.maxContext rows).filterMap (leeFila py)

/-! A round -/

/-- What happens to one named `tool_use`: a result, also of an error; the loop guard
    ends the chat; or an exception that nothing in the loop catches. -/
inductive Salida where
  | resultado (content : String)
  | bucle
  | excepcion
  deriving DecidableEq

/-- The loop over the blocks; `i` counts them. -/
def ejecuta (salidas : Nat → Salida) : Nat → List Block → Option (List Block)
  | _, [] => some []
  | i, .toolUse id name _ :: bs =>
    let toolId := if id = "" then py.uuid i else id
    if name = "" then
      (ejecuta salidas (i + 1) bs).map (.toolResult toolId "[Tool Error] tool_use block sin 'name'." :: ·)
    else
      match salidas i with
      | .resultado content => (ejecuta salidas (i + 1) bs).map (.toolResult toolId content :: ·)
      | .bucle | .excepcion => none
  | i, _ :: bs => ejecuta salidas (i + 1) bs

structure Respuesta where
  content : List Block
  esToolUse : Bool

/-- How far a round gets after the answer: an exception or a cancellation may come before
    the assistant's turn is stored, or before its results are. -/
inductive Alcance where
  | nada
  | asistente
  | todo
  deriving DecidableEq

/-- A running chat: its messages and the rounds it had. -/
structure Chat where
  messages : List Message
  rondas : Nat

/-- `filas` is the history; `entregadas` (a ghost) every list handed to the provider. -/
structure Estado where
  filas : List Message
  chat : Option Chat
  entregadas : List (List Message)

inductive Evento where
  /-- `chat`; the history may fail to be read. -/
  | chat (mensaje : Content) (leida : Bool)
  /-- A round; no answer is a rejection by the breaker, a failed call or no dict. -/
  | ronda (accion : Action) (llama : Bool) (respuesta : Option Respuesta) (salidas : Nat → Salida)
      (alcance : Alcance)
  | cancela

def maxToolRounds : Nat := 10

/-- The round after the answer: its rows and how the chat goes on. -/
def responde (messages filas : List Message) (rondas : Nat) (r : Respuesta) (salidas : Nat → Salida)
    (alcance : Alcance) : List Message × Option Chat :=
  let turno : Message := ⟨.assistant, .blocks r.content⟩
  if alcance = .nada then (filas, none)
  else if !r.esToolUse then (filas ++ [turno], none)
  else
    match ejecuta py salidas 0 r.content with
    | some resultados =>
      let fila : Message := ⟨.user, .blocks resultados⟩
      if alcance = .todo then
        (filas ++ [turno, fila], if rondas + 1 < maxToolRounds then
          some ⟨ultimos cfg.maxContext (messages ++ [turno, fila]), rondas + 1⟩ else none)
      else (filas ++ [turno], none)
    | none => (filas ++ [turno], none)

def step (s : Estado) : Evento → Option Estado
  | .chat mensaje leida =>
    match s.chat with
    | some _ => none
    | none =>
      let filas := s.filas ++ [⟨.user, mensaje⟩]
      some { s with
        filas := filas
        chat := if leida then some ⟨loadContext cfg py filas, 0⟩ else none }
  | .ronda accion llama respuesta salidas alcance =>
    match s.chat with
    | none => none
    | some c =>
      if accion = .reject ∨ llama = false then some { s with chat := none }
      else
        let messages := presupuesta cfg c.messages accion
        let s := { s with entregadas := messages :: s.entregadas }
        match respuesta with
        | none => some { s with chat := none }
        | some r =>
          let hecho := responde cfg py messages s.filas c.rondas r salidas alcance
          some { s with filas := hecho.1, chat := hecho.2 }
  | .cancela => some { s with chat := none }

/-! What is claimed -/

def Block.uso : Block → Option String
  | .toolUse id _ _ => some id
  | _ => none

def Block.resultadoDe : Block → Option String
  | .toolResult id _ => some id
  | _ => none

def Content.lista : Content → List Block
  | .text _ => []
  | .blocks bs => bs

/-- The ids of the `tool_use` blocks of an assistant message. -/
def Message.usos (m : Message) : List String :=
  if m.role = .assistant then m.content.lista.filterMap Block.uso else []

def Message.resultados (m : Message) : List String := m.content.lista.filterMap Block.resultadoDe

/-- From here on the results answer the calls of the message before, which made `usos`. -/
def EmparejadoDesde : List String → List Message → Prop
  | usos, [] => usos = []
  | usos, m :: ms => (∀ r ∈ m.resultados, r ∈ usos) ∧ (∀ u ∈ usos, m.resultados.count u = 1) ∧
      EmparejadoDesde m.usos ms

instance decidableEmparejado : (usos : List String) → (ms : List Message) → Decidable (EmparejadoDesde usos ms)
  | usos, [] => inferInstanceAs (Decidable (usos = []))
  | usos, m :: ms =>
    have := decidableEmparejado m.usos ms
    inferInstanceAs (Decidable ((∀ r ∈ m.resultados, r ∈ usos) ∧
      (∀ u ∈ usos, m.resultados.count u = 1) ∧ EmparejadoDesde m.usos ms))

/-- Every result refers to a call of the assistant message just before and every call is
    answered once in the next message; the first message has no result. -/
abbrev Emparejado (ms : List Message) : Prop := EmparejadoDesde [] ms

/-- A list that does not begin with results. -/
def cabezaLimpia (ms : List Message) : Prop := ∀ m ∈ ms.head?, m.resultados = []

/-- What the budget keeps of the conversation, when it cuts it. -/
def conservados (messages : List Message) (accion : Action) : List Message :=
  let convMsgs := messages.filter (!·.esSystem)
  let corta : Bool := match accion with
    | .allow | .reject => false
    | .summarize => cfg.enableAutoSummarization && decide (cfg.messagesToPreserve + 1 < messages.length) &&
        decide (cfg.messagesToPreserve < convMsgs.length)
    | .truncate => decide (cfg.messagesToPreserve < convMsgs.length)
  if corta then ultimos cfg.messagesToPreserve convMsgs else []

/-- An answer with calls whose round comes to its end. -/
structure Completa (r : Respuesta) (salidas : Nat → Salida) (alcance : Alcance) : Prop where
  parada : r.esToolUse = true
  alcance : alcance = .todo
  salidas : ∀ i id name input, r.content[i]? = some (.toolUse id name input) → name ≠ "" →
    ∃ content, salidas i = .resultado content

/-- The answer as the provider gives it: no results in it, ids that are not empty and
    not repeated. -/
structure Respuesta.Propia (r : Respuesta) : Prop where
  sinResultados : r.content.filterMap Block.resultadoDe = []
  distintos : (r.content.filterMap Block.uso).Nodup
  noVacios : "" ∉ r.content.filterMap Block.uso

/-- The row of results that answers every call. -/
def contestada (r : Respuesta) : Message :=
  ⟨.user, .blocks ((r.content.filterMap Block.uso).map (.toolResult · ""))⟩

/-- No cut that is handed over begins with results, a stored answer with calls has its
    results stored too, and no user's text is itself a list with results. -/
def permitido (s : Estado) : Evento → Prop
  | .chat mensaje leida => (Message.mk .user mensaje).resultados = [] ∧
      (leida = true → cabezaLimpia (limita cfg.maxContext (s.filas ++ [⟨.user, mensaje⟩])))
  | .ronda accion llama respuesta salidas alcance => ∀ c, s.chat = some c → accion ≠ .reject → llama = true →
      cabezaLimpia (conservados cfg c.messages accion) ∧
      ∀ r, respuesta = some r → r.Propia ∧
        (r.content.filterMap Block.uso = [] ∨ alcance = .nada ∨ Completa r salidas alcance) ∧
        (r.esToolUse = true → c.rondas + 1 < maxToolRounds → cabezaLimpia (ultimos cfg.maxContext
          (presupuesta cfg c.messages accion ++ [⟨.assistant, .blocks r.content⟩, contestada r])))
  | .cancela => True

/-! Pairing -/

section Listas
variable {usos : List String} {ms xs ys : List Message} {m : Message}

/-- A message without calls and results. -/
def Message.Neutro (m : Message) : Prop := m.usos = [] ∧ m.resultados = []

theorem sin_usos_of_sin_resultados (after : ∀ u ∈ usos, ([] : List String).count u = 1) : usos = [] := by
  cases usos with
  | nil => rfl
  | cons u usos => exact absurd (after u List.mem_cons_self) (by simp)

theorem EmparejadoDesde.sin_usos (paired : EmparejadoDesde usos ms) (clean : cabezaLimpia ms) : usos = [] := by
  cases ms with
  | nil => exact paired
  | cons m ms =>
    have none_ : m.resultados = [] := clean m rfl
    refine sin_usos_of_sin_resultados fun u inside => ?_
    rw [← none_]
    exact paired.2.1 u inside

theorem EmparejadoDesde.sufijo (paired : EmparejadoDesde usos (xs ++ ys)) : ∃ usos', EmparejadoDesde usos' ys := by
  induction xs generalizing usos with
  | nil => exact ⟨usos, paired⟩
  | cons x xs ih => exact ih paired.2.2

/-- A cut keeps the pairs exactly when it does not begin with results. -/
theorem emparejado_sufijo (paired : Emparejado ms) (suffix : ys <:+ ms) : Emparejado ys ↔ cabezaLimpia ys := by
  obtain ⟨xs, rfl⟩ := suffix
  obtain ⟨usos, rest⟩ := EmparejadoDesde.sufijo paired
  constructor
  · intro whole m first
    cases ys with
    | nil => cases first
    | cons y ys =>
      cases first
      exact List.eq_nil_iff_forall_not_mem.mpr fun r inside => List.not_mem_nil (whole.1 r inside)
  · intro clean
    cases rest.sin_usos clean
    exact rest

theorem EmparejadoDesde.filterMap {f : Message → Option Message} (paired : EmparejadoDesde usos ms)
    (keeps : ∀ m ∈ ms, ∀ m', f m = some m' → m'.usos = m.usos ∧ m'.resultados = m.resultados)
    (drops : ∀ m ∈ ms, f m = none → m.Neutro) : EmparejadoDesde usos (ms.filterMap f) := by
  induction ms generalizing usos with
  | nil => exact paired
  | cons m ms ih =>
    obtain ⟨refer, answered, rest⟩ := paired
    have later := ih rest (fun m inside => keeps m (List.mem_cons_of_mem _ inside))
      (fun m inside => drops m (List.mem_cons_of_mem _ inside))
    cases found : f m with
    | none =>
      obtain ⟨no_calls, no_results⟩ := drops m List.mem_cons_self found
      rw [no_results] at answered
      rw [List.filterMap_cons_none found, sin_usos_of_sin_resultados answered]
      exact no_calls ▸ later
    | some m' =>
      obtain ⟨same_calls, same_results⟩ := keeps m List.mem_cons_self m' found
      rw [List.filterMap_cons_some found]
      refine ⟨?_, ?_, same_calls ▸ later⟩
      · rw [same_results]
        exact refer
      · rw [same_results]
        exact answered

theorem EmparejadoDesde.filter {p : Message → Bool} (paired : EmparejadoDesde usos ms)
    (drops : ∀ m ∈ ms, p m = false → m.Neutro) : EmparejadoDesde usos (ms.filter p) := by
  rw [← List.filterMap_eq_filter]
  refine paired.filterMap ?_ ?_
  · intro m _ m' kept
    obtain ⟨rfl, _⟩ := Option.guard_eq_some_iff.mp kept
    exact ⟨rfl, rfl⟩
  · intro m inside dropped
    refine drops m inside ?_
    simpa [Option.guard] using dropped

theorem emparejado_prefijo (neutral : ∀ x ∈ xs, x.Neutro) (paired : Emparejado ms) : Emparejado (xs ++ ms) := by
  induction xs with
  | nil => exact paired
  | cons x xs ih =>
    obtain ⟨no_calls, no_results⟩ := neutral x List.mem_cons_self
    refine ⟨?_, nofun, no_calls ▸ ih fun y inside => neutral y (List.mem_cons_of_mem x inside)⟩
    rw [no_results]
    nofun

theorem EmparejadoDesde.append (first : EmparejadoDesde usos xs) (second : Emparejado ys) :
    EmparejadoDesde usos (xs ++ ys) := by
  induction xs generalizing usos with
  | nil => exact (show usos = [] from first) ▸ second
  | cons x xs ih => exact ⟨first.1, first.2.1, ih first.2.2⟩

theorem emparejado_uno (neutral : m.Neutro) : Emparejado [m] := by
  refine ⟨?_, nofun, neutral.1⟩
  rw [neutral.2]
  nofun

/-- An assistant's turn and the row that answers its calls. -/
theorem emparejado_ronda {turno fila : Message} (clean : turno.resultados = []) (plain : fila.usos = [])
    (answers : fila.resultados = turno.usos) (once : turno.usos.Nodup) : Emparejado [turno, fila] := by
  refine ⟨?_, nofun, ?_, ?_, plain⟩
  · rw [clean]
    nofun
  · rw [answers]
    exact fun r inside => inside
  · intro u inside
    rw [answers, once.count, if_pos inside]

theorem sufijo_ultimos {α : Type} (n : Int) (xs : List α) : ultimos n xs <:+ xs := by
  unfold ultimos
  split <;> exact List.drop_suffix _ _

theorem sufijo_limita {α : Type} (n : Int) (xs : List α) : limita n xs <:+ xs := by
  unfold limita
  split
  · exact List.suffix_rfl
  · exact List.drop_suffix _ _

/-- The head of a slice depends only on the results of the messages. -/
theorem cabezaLimpia_ultimos (n : Int) (same : xs.map Message.resultados = ys.map Message.resultados)
    (clean : cabezaLimpia (ultimos n xs)) : cabezaLimpia (ultimos n ys) := by
  have length : xs.length = ys.length := by
    simpa using congrArg List.length same
  have heads : ∀ k, ((xs.drop k).head?).map Message.resultados = ((ys.drop k).head?).map Message.resultados := by
    intro k
    rw [← List.head?_map, ← List.head?_map, List.map_drop, List.map_drop, same]
  have cut : ∃ k, ultimos n xs = xs.drop k ∧ ultimos n ys = ys.drop k := by
    unfold ultimos
    split
    · exact ⟨xs.length - n.toNat, rfl, by rw [length]⟩
    · exact ⟨n.natAbs, rfl, rfl⟩
  obtain ⟨k, first, second⟩ := cut
  rw [first] at clean
  rw [second]
  intro m inside
  have there := heads k
  rw [Option.mem_def.mp inside, Option.map_some] at there
  obtain ⟨m', head, results⟩ := Option.map_eq_some_iff.mp there
  rw [← results]
  exact clean m' head

end Listas

/-! What the code keeps -/

section Codigo
variable {cfg} {py} {messages rows : List Message}

theorem leeFila_some {row m : Message} (read : leeFila py row = some m) :
    m.role = row.role ∧ m.usos = row.usos ∧ m.resultados = row.resultados := by
  unfold leeFila at read
  split at read
  · cases read
    exact ⟨rfl, rfl, rfl⟩
  · next s text =>
    split at read
    · cases read
    · cases read
      simp [Message.usos, Message.resultados, text, Content.lista]

theorem leeFila_none {row : Message} (blocked : leeFila py row = none) : row.Neutro := by
  unfold leeFila at blocked
  split at blocked
  · cases blocked
  · next s text => simp [Message.Neutro, Message.usos, Message.resultados, text, Content.lista]

theorem loadContext_emparejado (paired : Emparejado rows) (clean : cabezaLimpia (limita cfg.maxContext rows)) :
    Emparejado (loadContext cfg py rows) := by
  have cut : Emparejado (limita cfg.maxContext rows) :=
    (emparejado_sufijo paired (sufijo_limita cfg.maxContext rows)).mpr clean
  exact cut.filterMap (fun m _ m' read => (leeFila_some read).2) (fun m _ blocked => leeFila_none blocked)

/-- The system messages of a chat are summaries. -/
def SistemaNeutro (messages : List Message) : Prop := ∀ m ∈ messages, m.role = .system → m.resultados = []

theorem SistemaNeutro.neutro (plain : SistemaNeutro messages) {m : Message} (inside : m ∈ messages)
    (system : m.esSystem = true) : m.Neutro := by
  have role : m.role = .system := of_decide_eq_true system
  exact ⟨by simp [Message.usos, role], plain m inside role⟩

theorem resumen_neutro (older : List Message) : (resumen cfg older).Neutro := ⟨rfl, rfl⟩

theorem presupuesta_emparejado (paired : Emparejado messages) (plain : SistemaNeutro messages)
    (accion : Action) (clean : cabezaLimpia (conservados cfg messages accion)) :
    Emparejado (presupuesta cfg messages accion) ∧ SistemaNeutro (presupuesta cfg messages accion) := by
  have conv : Emparejado (messages.filter (!·.esSystem)) := by
    refine paired.filter ?_
    intro m inside dropped
    exact plain.neutro inside (by simpa using dropped)
  have sys : ∀ m ∈ messages.filter (·.esSystem), m.Neutro := by
    intro m inside
    obtain ⟨there, system⟩ := List.mem_filter.mp inside
    exact plain.neutro there system
  have suffix := sufijo_ultimos cfg.messagesToPreserve (messages.filter (!·.esSystem))
  have no_system : ∀ m ∈ messages.filter (!·.esSystem), m.role ≠ .system := by
    intro m inside
    simpa [Message.esSystem] using (List.mem_filter.mp inside).2
  cases accion with
  | allow => exact ⟨paired, plain⟩
  | reject => exact ⟨paired, plain⟩
  | summarize =>
    simp only [presupuesta, summarizeOlderMessages]
    split
    · exact ⟨paired, plain⟩
    · next enabled =>
      split
      · exact ⟨paired, plain⟩
      · next long =>
        split
        · exact ⟨paired, plain⟩
        · next more =>
          have cut : conservados cfg messages .summarize =
              ultimos cfg.messagesToPreserve (messages.filter (!·.esSystem)) := by
            simp only [Bool.not_eq_true, Bool.not_eq_false'] at enabled
            simp only [conservados, enabled, Bool.true_and, Bool.and_eq_true, decide_eq_true_eq]
            rw [if_pos ⟨by omega, by omega⟩]
          rw [cut] at clean
          have kept := (emparejado_sufijo conv suffix).mpr clean
          have neutral : ∀ m ∈ messages.filter (·.esSystem) ++
              [resumen cfg (anteriores cfg.messagesToPreserve (messages.filter (!·.esSystem)))], m.Neutro := by
            intro m inside
            cases List.mem_append.mp inside with
            | inl old => exact sys m old
            | inr new => exact List.mem_singleton.mp new ▸ resumen_neutro _
          refine ⟨emparejado_prefijo neutral kept, ?_⟩
          intro m inside system
          cases List.mem_append.mp inside with
          | inl first => exact (neutral m first).2
          | inr last => exact absurd system (no_system m (suffix.subset last))
  | truncate =>
    simp only [presupuesta, truncateOlderMessages]
    split
    · next more =>
      have cut : conservados cfg messages .truncate =
          ultimos cfg.messagesToPreserve (messages.filter (!·.esSystem)) := by
        simp only [conservados, decide_eq_true_eq]
        rw [if_pos more]
      rw [cut] at clean
      refine ⟨emparejado_prefijo sys ((emparejado_sufijo conv suffix).mpr clean), ?_⟩
      intro m inside system
      cases List.mem_append.mp inside with
      | inl first => exact (sys m first).2
      | inr last => exact absurd system (no_system m (suffix.subset last))
    · refine ⟨emparejado_prefijo sys conv, ?_⟩
      intro m inside system
      cases List.mem_append.mp inside with
      | inl first => exact (sys m first).2
      | inr last => exact absurd system (no_system m last)

theorem uso_cons (id name input : String) (bs : List Block) :
    (Block.toolUse id name input :: bs).filterMap Block.uso = id :: bs.filterMap Block.uso := rfl

theorem resultadoDe_cons (id content : String) (bs : List Block) :
    (Block.toolResult id content :: bs).filterMap Block.resultadoDe = id :: bs.filterMap Block.resultadoDe := rfl

theorem resultadoDe_map (ids : List String) :
    (ids.map (Block.toolResult · "")).filterMap Block.resultadoDe = ids := by
  induction ids with
  | nil => rfl
  | cons id ids ih =>
    rw [List.map_cons, resultadoDe_cons, ih]

/-- The results of a loop that runs to its end name the calls in order. -/
theorem ejecuta_resultados {salidas : Nat → Salida} {bs rs : List Block} {i : Nat}
    (done : ejecuta py salidas i bs = some rs) (named : "" ∉ bs.filterMap Block.uso) :
    rs.filterMap Block.resultadoDe = bs.filterMap Block.uso := by
  induction bs generalizing i rs with
  | nil =>
    cases done
    rfl
  | cons b bs ih =>
    cases b with
    | toolUse id name input =>
      rw [uso_cons, List.mem_cons, not_or] at named
      obtain ⟨not_empty, rest⟩ := named
      have id_kept : (if id = "" then py.uuid i else id) = id := if_neg (Ne.symm not_empty)
      rw [uso_cons]
      simp only [ejecuta, id_kept] at done
      split at done
      · obtain ⟨rs', later, rfl⟩ := Option.map_eq_some_iff.mp done
        rw [resultadoDe_cons, ih later rest]
      · split at done
        · obtain ⟨rs', later, rfl⟩ := Option.map_eq_some_iff.mp done
          rw [resultadoDe_cons, ih later rest]
        · cases done
        · cases done
    | text t => exact ih done named
    | toolResult id content => exact ih done named
    | other json => exact ih done named

/-- The loop runs to its end when every named call has a result. -/
theorem ejecuta_completa (py : Entorno) {salidas : Nat → Salida} {bs : List Block} {i : Nat}
    (each : ∀ j id name input, bs[j]? = some (.toolUse id name input) → name ≠ "" →
      ∃ content, salidas (i + j) = .resultado content) : ∃ rs, ejecuta py salidas i bs = some rs := by
  induction bs generalizing i with
  | nil => exact ⟨[], rfl⟩
  | cons b bs ih =>
    have later : ∃ rs, ejecuta py salidas (i + 1) bs = some rs := by
      refine ih ?_
      intro j id name input there named
      obtain ⟨content, found⟩ := each (j + 1) id name input there named
      refine ⟨content, ?_⟩
      rw [show i + 1 + j = i + (j + 1) by omega]
      exact found
    obtain ⟨rs, later⟩ := later
    cases b with
    | toolUse id name input =>
      simp only [ejecuta, later, Option.map_some]
      split
      · exact ⟨_, rfl⟩
      · next named =>
        obtain ⟨content, found⟩ := each 0 id name input rfl named
        rw [Nat.add_zero] at found
        rw [found]
        exact ⟨_, rfl⟩
    | text t => exact ⟨rs, later⟩
    | toolResult id content => exact ⟨rs, later⟩
    | other json => exact ⟨rs, later⟩

/-- What the rows and the messages of a chat keep. -/
structure Ordenado (s : Estado) : Prop where
  filas : Emparejado s.filas
  roles : ∀ m ∈ s.filas, m.role ≠ .system
  chat : ∀ c, s.chat = some c → Emparejado c.messages ∧ SistemaNeutro c.messages
  entregadas : ∀ ms ∈ s.entregadas, Emparejado ms

theorem loadContext_sistema (roles : ∀ m ∈ rows, m.role ≠ .system) : SistemaNeutro (loadContext cfg py rows) := by
  intro m inside system
  obtain ⟨row, there, read⟩ := List.mem_filterMap.mp inside
  rw [(leeFila_some read).1] at system
  exact absurd system (roles row ((sufijo_limita cfg.maxContext rows).subset there))

theorem turno_usos (bs : List Block) : (Message.mk .assistant (.blocks bs)).usos = bs.filterMap Block.uso := rfl

theorem fila_resultados (bs : List Block) :
    (Message.mk .user (.blocks bs)).resultados = bs.filterMap Block.resultadoDe := rfl

/-- The end of a round keeps the rows in order, and the next list if its cut is clean. -/
theorem responde_ordenado (py : Entorno) {r : Respuesta} {salidas : Nat → Salida} {alcance : Alcance} {rondas : Nat}
    (filas : Emparejado rows) (roles : ∀ m ∈ rows, m.role ≠ .system) (paired : Emparejado messages)
    (plain : SistemaNeutro messages) (propia : r.Propia)
    (closed : r.content.filterMap Block.uso = [] ∨ alcance = .nada ∨ Completa r salidas alcance)
    (clean : r.esToolUse = true → rondas + 1 < maxToolRounds → cabezaLimpia (ultimos cfg.maxContext
      (messages ++ [⟨.assistant, .blocks r.content⟩, contestada r]))) :
    Emparejado (responde cfg py messages rows rondas r salidas alcance).1 ∧
    (∀ m ∈ (responde cfg py messages rows rondas r salidas alcance).1, m.role ≠ .system) ∧
    ∀ c, (responde cfg py messages rows rondas r salidas alcance).2 = some c →
      Emparejado c.messages ∧ SistemaNeutro c.messages := by
  have turn_clean : (Message.mk .assistant (.blocks r.content)).resultados = [] := propia.sinResultados
  -- a turn that is stored alone has no calls
  have alone : r.content.filterMap Block.uso = [] →
      Emparejado (rows ++ [⟨.assistant, .blocks r.content⟩]) ∧
      ∀ m ∈ rows ++ [⟨.assistant, .blocks r.content⟩], m.role ≠ .system := by
    intro no_calls
    refine ⟨filas.append (emparejado_uno ⟨no_calls, turn_clean⟩), ?_⟩
    intro m inside
    cases List.mem_append.mp inside with
    | inl old => exact roles m old
    | inr new =>
      obtain rfl := List.mem_singleton.mp new
      simp
  simp only [responde]
  split
  · exact ⟨filas, roles, by simp⟩
  · next stored =>
    split
    · next stops =>
      have no_calls : r.content.filterMap Block.uso = [] := by
        obtain none_ | no | whole := closed
        · exact none_
        · exact absurd no stored
        · rw [whole.parada] at stops
          cases stops
      exact ⟨(alone no_calls).1, (alone no_calls).2, by simp⟩
    · next goes_on =>
      have calls : r.esToolUse = true := by simpa using goes_on
      split
      · next resultados done =>
        have answers := ejecuta_resultados done propia.noVacios
        have pair : Emparejado [⟨.assistant, .blocks r.content⟩, ⟨.user, .blocks resultados⟩] :=
          emparejado_ronda turn_clean rfl answers propia.distintos
        split
        · refine ⟨filas.append pair, ?_, ?_⟩
          · intro m inside
            simp only [List.mem_append, List.mem_cons, List.not_mem_nil, or_false] at inside
            obtain old | rfl | rfl := inside
            · exact roles m old
            · simp
            · simp
          · intro c next_
            split at next_
            · next more =>
              cases next_
              have suffix := sufijo_ultimos cfg.maxContext
                (messages ++ [⟨.assistant, .blocks r.content⟩, ⟨.user, .blocks resultados⟩])
              refine ⟨(emparejado_sufijo (EmparejadoDesde.append paired pair) suffix).mpr ?_, ?_⟩
              · refine cabezaLimpia_ultimos cfg.maxContext ?_ (clean calls more)
                simp only [List.map_append, List.map_cons, List.map_nil, fila_resultados, answers]
                rw [contestada, fila_resultados, resultadoDe_map]
              · intro m inside system
                have there := suffix.subset inside
                simp only [List.mem_append, List.mem_cons, List.not_mem_nil, or_false] at there
                obtain old | rfl | rfl := there
                · exact plain m old system
                · cases system
                · cases system
            · cases next_
        · next not_all =>
          have no_calls : r.content.filterMap Block.uso = [] := by
            obtain none_ | no | whole := closed
            · exact none_
            · exact absurd no stored
            · exact absurd whole.alcance not_all
          exact ⟨(alone no_calls).1, (alone no_calls).2, by simp⟩
      · next broken =>
        have no_calls : r.content.filterMap Block.uso = [] := by
          obtain none_ | no | whole := closed
          · exact none_
          · exact absurd no stored
          · obtain ⟨rs, done⟩ := ejecuta_completa py (i := 0) (by simpa using whole.salidas)
            rw [done] at broken
            cases broken
        exact ⟨(alone no_calls).1, (alone no_calls).2, by simp⟩

theorem Ordenado.paso {s t : Estado} {e : Evento} (inv : Ordenado s) (ok : permitido cfg s e)
    (moved : step cfg py s e = some t) : Ordenado t := by
  cases e with
  | chat mensaje leida =>
    simp only [step] at moved
    split at moved
    · cases moved
    · cases moved
      obtain ⟨clean, cut⟩ := ok
      have rows : Emparejado (s.filas ++ [⟨.user, mensaje⟩]) := inv.filas.append (emparejado_uno ⟨rfl, clean⟩)
      have roles : ∀ m ∈ s.filas ++ ([⟨.user, mensaje⟩] : List Message), m.role ≠ .system := by
        intro m inside
        cases List.mem_append.mp inside with
        | inl old => exact inv.roles m old
        | inr new =>
          obtain rfl := List.mem_singleton.mp new
          simp
      refine ⟨rows, roles, ?_, inv.entregadas⟩
      intro c running
      simp only at running
      split at running
      · next read =>
        cases running
        exact ⟨loadContext_emparejado rows (cut read), loadContext_sistema roles⟩
      · cases running
  | ronda accion llama respuesta salidas alcance =>
    simp only [step] at moved
    split at moved
    · cases moved
    · next c running =>
      obtain ⟨paired, plain⟩ := inv.chat c running
      split at moved
      · cases moved
        exact ⟨inv.filas, inv.roles, nofun, inv.entregadas⟩
      · next called =>
        rw [not_or] at called
        obtain ⟨clean, answer⟩ := ok c running called.1 (by simpa using called.2)
        obtain ⟨cut, cut_plain⟩ := presupuesta_emparejado paired plain accion clean
        have handed : ∀ ms ∈ presupuesta cfg c.messages accion :: s.entregadas, Emparejado ms := by
          intro ms inside
          cases List.mem_cons.mp inside with
          | inl new => exact new ▸ cut
          | inr old => exact inv.entregadas ms old
        split at moved
        · cases moved
          exact ⟨inv.filas, inv.roles, nofun, handed⟩
        · next r =>
          cases moved
          obtain ⟨propia, closed, slice⟩ := answer r rfl
          obtain ⟨rows, roles, chat⟩ := responde_ordenado py inv.filas inv.roles cut cut_plain propia closed slice
          exact ⟨rows, roles, chat, handed⟩
  | cancela =>
    cases moved
    exact ⟨inv.filas, inv.roles, nofun, inv.entregadas⟩

end Codigo

def Estado.inicial : Estado := ⟨[], none, []⟩

def limpia (ms : List Message) : Bool := ms.head?.all (·.resultados.isEmpty)

theorem cabezaLimpia_of_limpia {ms : List Message} (check : limpia ms = true) : cabezaLimpia ms := by
  intro m inside
  simp only [limpia, Option.mem_def.mp inside, Option.all_some, List.isEmpty_iff] at check
  exact check

def Salida.esResultado : Salida → Bool
  | .resultado _ => true
  | _ => false

/-- Enough for `permitido`, computed. -/
def permite (cfg : Config) (s : Estado) : Evento → Bool
  | .chat mensaje _ => (Message.mk .user mensaje).resultados.isEmpty &&
      limpia (limita cfg.maxContext (s.filas ++ [⟨.user, mensaje⟩]))
  | .ronda accion _ respuesta salidas alcance => s.chat.all fun c =>
      limpia (conservados cfg c.messages accion) && respuesta.all fun r =>
        (r.content.filterMap Block.resultadoDe).isEmpty && decide (r.content.filterMap Block.uso).Nodup &&
        !(r.content.filterMap Block.uso).contains "" &&
        ((r.content.filterMap Block.uso).isEmpty ||
          r.esToolUse && decide (alcance = .todo) && (List.range r.content.length).all (salidas · |>.esResultado)) &&
        limpia (ultimos cfg.maxContext
          (presupuesta cfg c.messages accion ++ [⟨.assistant, .blocks r.content⟩, contestada r]))
  | .cancela => true

theorem permitido_of_permite (cfg : Config) (s : Estado) (e : Evento) (check : permite cfg s e = true) :
    permitido cfg s e := by
  cases e with
  | chat mensaje leida =>
    simp only [permite, Bool.and_eq_true, List.isEmpty_iff] at check
    exact ⟨check.1, fun _ => cabezaLimpia_of_limpia check.2⟩
  | ronda accion llama respuesta salidas alcance =>
    intro c running _ _
    simp only [permite, running, Option.all_some, Bool.and_eq_true] at check
    refine ⟨cabezaLimpia_of_limpia check.1, ?_⟩
    rintro r rfl
    simp only [Option.all_some, Bool.and_eq_true, Bool.or_eq_true, List.isEmpty_iff, decide_eq_true_eq,
      Bool.not_eq_true', List.all_eq_true, List.mem_range] at check
    obtain ⟨_, ⟨⟨⟨no_results, once⟩, named⟩, closed⟩, slice⟩ := check
    refine ⟨⟨no_results, once, by simpa using named⟩, ?_, fun _ _ => cabezaLimpia_of_limpia slice⟩
    obtain none_ | ⟨⟨stops, all⟩, each⟩ := closed
    · exact .inl none_
    · refine .inr (.inr ⟨stops, all, ?_⟩)
      intro i id name input there _
      have good := each i (List.getElem?_eq_some_iff.mp there).1
      cases found : salidas i with
      | resultado content => exact ⟨content, rfl⟩
      | bucle => rw [found] at good; cases good
      | excepcion => rw [found] at good; cases good
  | cancela => trivial

def entorno : Entorno := ⟨id, fun _ => false, fun _ => "uuid"⟩

def mensaje (s : String) : Evento := .chat (.text s) true

def conTool (id : String) (accion : Action) (salidas : Nat → Salida) : Evento :=
  .ronda accion true (some ⟨[.text "t", .toolUse id "f" "\x7b\x7d"], true⟩) salidas .todo

def final (accion : Action) : Evento := .ronda accion true (some ⟨[.text "t"], false⟩) (fun _ => .bucle) .todo

def bien : Nat → Salida := fun _ => .resultado "r"

/-- A loop guard that stops a round leaves its call in the history. -/
def bucleDetectado : List Evento := [mensaje "a", conTool "1" .allow fun _ => .bucle, mensaje "b", final .allow]

/-- A chat whose provider failed shifts the messages, and the truncation cuts a pair. -/
def parCortado : List Evento :=
  [mensaje "a", conTool "1" .allow bien, final .allow, mensaje "b", .ronda .allow true none bien .todo,
    mensaje "c", conTool "2" .allow bien, final .truncate]

end ChatRouter
