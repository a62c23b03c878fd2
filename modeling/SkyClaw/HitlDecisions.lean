import Mathlib.Data.List.Nodup
import SkyClaw.TransitionRuns

set_option linter.all false

/-!
`HITLGuard`, in `hitl.py`: the operator, the deadline, the notification and a
cancellation race for the decision of each request. A section under the lock
awaits nothing, so it is one step; the calls yield only where they await
`notify_fn`, the event of the request or an observer.
-/
namespace HITLGuard

inductive Decision where
  | approved
  | denied
  | timeout
  deriving DecidableEq

inductive Resultado where
  | devuelve (decision : Decision)
  | cancelada
  deriving DecidableEq

/-- What `request_approval` awaits. -/
inductive Fase where
  | notificando
  | esperando
  /-- `on_terminal`, after committing the timeout. -/
  | observando
  /-- `on_cancel`, in the `finally`. -/
  | cancelando (resultado : Resultado)
  | terminada (resultado : Resultado)
  deriving DecidableEq

/-- A call of `request_approval`, with its `HITLRequest`. -/
structure Solicitud where
  requestId : String
  decision : Decision
  resolved : Bool
  notifyFailed : Bool
  fase : Fase
  deriving DecidableEq

inductive FaseRespuesta where
  | observando
  | devuelve (cometida : Bool)
  | cancelada
  deriving DecidableEq

/-- A call of `respond`, with the request that it resolved. -/
structure Respuesta where
  requestId : String
  approved : Bool
  resolvio : Option Nat
  fase : FaseRespuesta
  deriving DecidableEq

/-- `pending` names the requests by their place in `solicitudes`; `commits` is
    every decision ever committed. -/
structure Guard where
  onTerminal : Bool
  onCancel : Bool
  pending : List (String × Nat)
  solicitudes : List Solicitud
  respuestas : List Respuesta
  commits : List (Nat × Decision)
  deriving DecidableEq

def decisionDe (approved : Bool) : Decision := if approved then .approved else .denied

def Guard.pon (s : Guard) (k : Nat) (sol : Solicitud) : Guard :=
  { s with solicitudes := s.solicitudes.set k sol }

/-- `_commit`, up to its observer: the request that was resolved, if any. -/
def Guard.commit (s : Guard) (requestId : String) (d : Decision) : Option Nat × Guard :=
  match s.pending.lookup requestId with
  | none => (none, s)
  | some k =>
    match s.solicitudes[k]? with
    | none => (none, s)
    | some sol =>
      if sol.resolved then (none, s)
      else (some k, { s.pon k { sol with decision := d, resolved := true } with
        commits := s.commits ++ [(k, d)] })

/-- The `finally` of `request_approval`. -/
def Guard.sale (s : Guard) (k : Nat) (sol : Solicitud) (resultado : Resultado) : Guard :=
  let fase : Fase :=
    if sol.notifyFailed = false ∧ sol.resolved = false ∧ s.onCancel = true then .cancelando resultado
    else .terminada resultado
  { s.pon k { sol with fase := fase } with
    pending := s.pending.filter fun entry => entry.1 ≠ sol.requestId }

inductive Evento where
  | pide (requestId : String) (timeoutValido : Bool)
  | notifica (k : Nat)
  | fallaNotificacion (k : Nat)
  | despierta (k : Nat)
  | vence (k : Nat)
  | observado (k : Nat)
  | cancela (k : Nat)
  | responde (requestId : String) (approved : Bool)
  | observadaRespuesta (i : Nat)
  | cancelaRespuesta (i : Nat)
  deriving DecidableEq

def Guard.pide (s : Guard) (requestId : String) : Guard :=
  if (s.pending.lookup requestId).isSome then
    { s with solicitudes := s.solicitudes ++
        [⟨requestId, .timeout, false, false, .terminada (.devuelve .denied)⟩] }
  else
    { s with
      pending := (requestId, s.solicitudes.length) :: s.pending
      solicitudes := s.solicitudes ++ [⟨requestId, .timeout, false, false, .notificando⟩] }

/-- `wait_for` raised `TimeoutError`; the event may have been set meanwhile. -/
def Guard.vence (s : Guard) (k : Nat) (sol : Solicitud) : Guard :=
  match s.commit sol.requestId .timeout with
  | (none, s') => s'.sale k sol (.devuelve sol.decision)
  | (some _, s') =>
    match s'.solicitudes[k]? with
    | none => s'
    | some sol' =>
      if s.onTerminal then s'.pon k { sol' with fase := .observando }
      else s'.sale k sol' (.devuelve sol'.decision)

def Guard.responde (s : Guard) (requestId : String) (approved : Bool) : Guard :=
  match s.commit requestId (decisionDe approved) with
  | (none, s') => { s' with respuestas := s.respuestas ++ [⟨requestId, approved, none, .devuelve false⟩] }
  | (some k, s') => { s' with respuestas := s.respuestas ++
      [⟨requestId, approved, some k, if s.onTerminal then .observando else .devuelve true⟩] }

def Guard.enSolicitud (s : Guard) (k : Nat) (f : Solicitud → Option Guard) : Option Guard :=
  (s.solicitudes[k]?).bind f

def Guard.enRespuesta (s : Guard) (i : Nat) (fase : FaseRespuesta) : Option Guard :=
  match s.respuestas[i]? with
  | some r =>
    if r.fase = .observando then
      some { s with respuestas := s.respuestas.set i { r with fase := fase } }
    else none
  | none => none

def paso (s : Guard) : Evento → Option Guard
  | .pide requestId timeoutValido => some (if timeoutValido then s.pide requestId else s)
  | .notifica k => s.enSolicitud k fun sol =>
    if sol.fase = .notificando then some (s.pon k { sol with fase := .esperando }) else none
  | .fallaNotificacion k => s.enSolicitud k fun sol =>
    if sol.fase = .notificando then
      some (s.sale k { sol with notifyFailed := true } (.devuelve .timeout))
    else none
  | .despierta k => s.enSolicitud k fun sol =>
    if sol.fase = .esperando ∧ sol.resolved = true then some (s.sale k sol (.devuelve sol.decision))
    else none
  | .vence k => s.enSolicitud k fun sol =>
    if sol.fase = .esperando then some (s.vence k sol) else none
  | .observado k => s.enSolicitud k fun sol =>
    match sol.fase with
    | .observando => some (s.sale k sol (.devuelve sol.decision))
    | .cancelando resultado => some (s.pon k { sol with fase := .terminada resultado })
    | _ => none
  | .cancela k => s.enSolicitud k fun sol =>
    match sol.fase with
    | .notificando | .esperando | .observando => some (s.sale k sol .cancelada)
    | .cancelando _ => some (s.pon k { sol with fase := .terminada .cancelada })
    | .terminada _ => none
  | .responde requestId approved => some (s.responde requestId approved)
  | .observadaRespuesta i => s.enRespuesta i (.devuelve true)
  | .cancelaRespuesta i => s.enRespuesta i .cancelada

def Inicial (s : Guard) : Prop :=
  s.pending = [] ∧ s.solicitudes = [] ∧ s.respuestas = [] ∧ s.commits = []

/-! Invariant -/

/-- The call is still in the table. -/
def Fase.activa : Fase → Bool
  | .notificando | .esperando | .observando => true
  | .cancelando _ | .terminada _ => false

/-- What a call has or will return, against the decision of its request. -/
def Solicitud.Conforme (sol : Solicitud) : Prop :=
  match sol.fase with
  | .notificando | .esperando => sol.notifyFailed = false
  | .observando => sol.notifyFailed = false ∧ sol.resolved = true
  | .cancelando resultado => resultado = .cancelada
  | .terminada .cancelada => True
  | .terminada (.devuelve d) =>
    if sol.notifyFailed then d = .timeout
    else if sol.resolved then d = sol.decision else d = .denied

structure Sana (commits : List (Nat × Decision)) (k : Nat) (sol : Solicitud) : Prop where
  resuelta : sol.resolved = true → (k, sol.decision) ∈ commits
  cometida : ∀ d, (k, d) ∈ commits → sol.resolved = true
  conforme : sol.Conforme

structure Coherente (s : Guard) : Prop where
  pendientes : ∀ id k, s.pending.lookup id = some k ↔
    ∃ sol, s.solicitudes[k]? = some sol ∧ sol.requestId = id ∧ sol.fase.activa = true
  sanas : ∀ k sol, s.solicitudes[k]? = some sol → Sana s.commits k sol
  existen : ∀ k d, (k, d) ∈ s.commits → k < s.solicitudes.length
  unicas : (s.commits.map Prod.fst).Nodup
  respondidas : ∀ r ∈ s.respuestas, ∀ k, r.resolvio = some k → (k, decisionDe r.approved) ∈ s.commits
  sinResolver : ∀ r ∈ s.respuestas, r.resolvio = none → r.fase = .devuelve false
  aprobadas : ∀ k, (k, .approved) ∈ s.commits →
    ∃ r ∈ s.respuestas, r.resolvio = some k ∧ r.approved = true

section
variable {s : Guard} {k : Nat} {sol sol' : Solicitud}

theorem lookup_filter (pending : List (String × Nat)) (id id' : String) :
    (pending.filter fun entry => entry.1 ≠ id).lookup id' =
      if id' = id then none else pending.lookup id' := by
  induction pending with
  | nil => simp
  | cons entry rest ih =>
    obtain ⟨name, k⟩ := entry
    by_cases here : name = id
    · rw [List.filter_cons_of_neg (by simp [here]), ih]
      by_cases same : id' = id
      · simp [same]
      · have other : (id' == name) = false := by
          rw [here]
          exact beq_false_of_ne same
        simp [same, List.lookup_cons, other]
    · rw [List.filter_cons_of_pos (by simp [here]), List.lookup_cons, List.lookup_cons, ih]
      by_cases same : id' = name
      · simp [same, here]
      · simp [beq_false_of_ne same]

theorem get_pon (here : s.solicitudes[k]? = some sol) (j : Nat) :
    (s.pon k sol').solicitudes[j]? = if k = j then some sol' else s.solicitudes[j]? := by
  obtain ⟨bound, -⟩ := List.getElem?_eq_some_iff.mp here
  simp only [Guard.pon, List.getElem?_set, bound, if_true]

theorem Coherente.pendiente (coherent : Coherente s) (here : s.solicitudes[k]? = some sol)
    (active : sol.fase.activa = true) : s.pending.lookup sol.requestId = some k :=
  (coherent.pendientes _ k).mpr ⟨sol, here, rfl, active⟩

/-- A call that moves on, and is in the table as before. -/
theorem coherente_pon (coherent : Coherente s) (here : s.solicitudes[k]? = some sol)
    (named : sol'.requestId = sol.requestId) (active : sol'.fase.activa = sol.fase.activa)
    (sound : Sana s.commits k sol') : Coherente (s.pon k sol') where
  pendientes := by
    intro id j
    show s.pending.lookup id = some j ↔ _
    rw [coherent.pendientes, get_pon here]
    split
    · rename_i same
      subst same
      simp [here, named, active]
    · rfl
  sanas := by
    intro j other found
    rw [get_pon here] at found
    split at found
    · rename_i same
      cases found
      exact same ▸ sound
    · exact coherent.sanas j other found
  existen := by
    intro j d committed
    simpa [Guard.pon] using coherent.existen j d committed
  unicas := coherent.unicas
  respondidas := coherent.respondidas
  sinResolver := coherent.sinResolver
  aprobadas := coherent.aprobadas

/-- A call that leaves the table. -/
theorem coherente_sale (coherent : Coherente s) (here : s.solicitudes[k]? = some sol)
    (active : sol.fase.activa = true) (named : sol'.requestId = sol.requestId)
    (resuelta : sol'.resolved = true → (k, sol'.decision) ∈ s.commits)
    (cometida : ∀ d, (k, d) ∈ s.commits → sol'.resolved = true) {resultado : Resultado}
    (conforme : ∀ fase, fase = .cancelando resultado ∧ sol'.notifyFailed = false ∧
        sol'.resolved = false ∨ fase = .terminada resultado →
      Solicitud.Conforme { sol' with fase := fase }) :
    Coherente (s.sale k sol' resultado) := by
  have mine := coherent.pendiente here active
  obtain ⟨fase, left, inactive, conformes⟩ : ∃ fase : Fase,
      s.sale k sol' resultado = { s.pon k { sol' with fase := fase } with
        pending := s.pending.filter fun entry => entry.1 ≠ sol'.requestId } ∧
      fase.activa = false ∧ Solicitud.Conforme { sol' with fase := fase } := by
    refine ⟨_, rfl, ?_, conforme _ ?_⟩
    · split <;> rfl
    · split
      · rename_i observed
        exact .inl ⟨rfl, observed.1, observed.2.1⟩
      · exact .inr rfl
  rw [left]
  refine ⟨fun id j => ?_, fun j other found => ?_, fun j d committed => ?_, coherent.unicas,
    coherent.respondidas, coherent.sinResolver, coherent.aprobadas⟩
  · show (s.pending.filter _).lookup id = some j ↔ ∃ other,
      (s.pon k { sol' with fase := fase }).solicitudes[j]? = some other ∧ _
    rw [lookup_filter, get_pon here]
    by_cases same : k = j
    · subst same
      simp only [if_true, Option.some.injEq, exists_eq_left', inactive, Bool.false_eq_true,
        and_false, iff_false]
      split
      · simp
      · rename_i other
        rw [coherent.pendientes]
        rintro ⟨found, at_k, name, -⟩
        rw [here, Option.some.injEq] at at_k
        exact other (by rw [← name, ← at_k, named])
    · simp only [same, if_false]
      rw [← coherent.pendientes]
      by_cases name : id = sol'.requestId
      · rw [if_pos name, name, named, mine]
        simp [same]
      · rw [if_neg name]
  · have found' : (s.pon k { sol' with fase := fase }).solicitudes[j]? = some other := found
    rw [get_pon here] at found'
    split at found'
    · rename_i same
      cases found'
      subst same
      exact ⟨resuelta, cometida, conformes⟩
    · exact coherent.sanas j other found'
  · simpa [Guard.pon] using coherent.existen j d committed

/-- The first decision of a request in the table, with the calls that committed it. -/
theorem coherente_comete (coherent : Coherente s) (here : s.solicitudes[k]? = some sol)
    (active : sol.fase.activa = true) (unresolved : sol.resolved = false) {d : Decision}
    {nuevas : List Respuesta} (own : ∀ r ∈ nuevas, r.resolvio = some k ∧ decisionDe r.approved = d)
    (approved : d = .approved → ∃ r ∈ nuevas, r.resolvio = some k ∧ r.approved = true) :
    Coherente { s.pon k { sol with decision := d, resolved := true } with
      commits := s.commits ++ [(k, d)]
      respuestas := s.respuestas ++ nuevas } := by
  have first : ∀ d', (k, d') ∉ s.commits := by
    intro d' committed
    have resolved := (coherent.sanas k sol here).cometida d' committed
    rw [unresolved] at resolved
    cases resolved
  have moved : ∀ j, (s.pon k { sol with decision := d, resolved := true }).solicitudes[j]? =
      if k = j then some { sol with decision := d, resolved := true } else s.solicitudes[j]? :=
    get_pon here
  refine ⟨fun id j => ?_, fun j other found => ?_, fun j d' committed => ?_, ?_, fun r member j own_j => ?_,
    fun r member none_j => ?_, fun j committed => ?_⟩
  · show s.pending.lookup id = some j ↔ ∃ other,
      (s.pon k { sol with decision := d, resolved := true }).solicitudes[j]? = some other ∧ _
    rw [coherent.pendientes, moved]
    split
    · rename_i same
      subst same
      simp [here]
    · rfl
  · have found' := (moved j).symm.trans found
    split at found'
    · rename_i same
      cases found'
      subst same
      refine ⟨fun _ => by simp, fun _ _ => rfl, ?_⟩
      have before := (coherent.sanas k sol here).conforme
      unfold Solicitud.Conforme at before ⊢
      cases phase : sol.fase with
      | notificando | esperando =>
        simp only [phase] at before ⊢
        exact before
      | observando =>
        simp only [phase] at before ⊢
        exact ⟨before.1, trivial⟩
      | cancelando | terminada => simp [phase, Fase.activa] at active
    · rename_i other_k
      have sound := coherent.sanas j other found'
      refine ⟨fun resolved => List.mem_append_left _ (sound.resuelta resolved),
        fun d' committed => ?_, sound.conforme⟩
      rcases List.mem_append.mp committed with before | now
      · exact sound.cometida d' before
      · simp only [List.mem_singleton, Prod.mk.injEq] at now
        exact absurd now.1.symm other_k
  · simp only [Guard.pon, List.length_set]
    rcases List.mem_append.mp committed with before | now
    · exact coherent.existen j d' before
    · simp only [List.mem_singleton, Prod.mk.injEq] at now
      rw [now.1]
      exact (List.getElem?_eq_some_iff.mp here).1
  · rw [List.map_append, List.nodup_append]
    refine ⟨coherent.unicas, by simp, fun j before j' now => ?_⟩
    simp only [List.map_cons, List.map_nil, List.mem_singleton] at now
    subst now
    obtain ⟨⟨j'', d'⟩, committed, rfl⟩ := List.mem_map.mp before
    rintro rfl
    exact first d' committed
  · rcases List.mem_append.mp member with before | new
    · exact List.mem_append_left _ (coherent.respondidas r before j own_j)
    · obtain ⟨resolved, decided⟩ := own r new
      rw [resolved, Option.some.injEq] at own_j
      rw [← own_j, decided]
      exact List.mem_append_right _ (.head _)
  · rcases List.mem_append.mp member with before | new
    · exact coherent.sinResolver r before none_j
    · rw [(own r new).1] at none_j
      cases none_j
  · rcases List.mem_append.mp committed with before | now
    · obtain ⟨r, member, resolved⟩ := coherent.aprobadas j before
      exact ⟨r, List.mem_append_left _ member, resolved⟩
    · simp only [List.mem_singleton, Prod.mk.injEq] at now
      obtain ⟨r, member, resolved⟩ := approved now.2.symm
      exact ⟨r, List.mem_append_right _ member, now.1 ▸ resolved⟩

/-- A commit takes the first decision, or finds one taken or nobody waiting. -/
theorem commit_cases (coherent : Coherente s) (requestId : String) (d : Decision) :
    (s.commit requestId d = (none, s) ∧ ∀ k sol, s.pending.lookup requestId = some k →
      s.solicitudes[k]? = some sol → sol.resolved = true) ∨
    ∃ k sol, s.pending.lookup requestId = some k ∧ s.solicitudes[k]? = some sol ∧
      sol.fase.activa = true ∧ sol.resolved = false ∧ s.commit requestId d =
        (some k, { s.pon k { sol with decision := d, resolved := true } with
          commits := s.commits ++ [(k, d)] }) := by
  simp only [Guard.commit]
  cases found : s.pending.lookup requestId with
  | none => exact .inl ⟨rfl, by simp⟩
  | some k =>
    obtain ⟨sol, here, -, active⟩ := (coherent.pendientes requestId k).mp found
    simp only [here]
    cases resolved : sol.resolved with
    | true =>
      refine .inl ⟨rfl, fun k' sol' same here' => ?_⟩
      cases same
      rw [here, Option.some.injEq] at here'
      exact here' ▸ resolved
    | false => exact .inr ⟨k, sol, rfl, here, active, resolved, by simp⟩

theorem coherente_pide (coherent : Coherente s) (requestId : String) :
    Coherente (s.pide requestId) := by
  have fresh : ∀ d, (s.solicitudes.length, d) ∉ s.commits := by
    intro d committed
    have bound := coherent.existen _ d committed
    omega
  have pushed {sol : Solicitud} (j : Nat) : (s.solicitudes ++ [sol])[j]? =
      if j = s.solicitudes.length then some sol else s.solicitudes[j]? := by
    rw [List.getElem?_append]
    split
    · rename_i bound
      rw [if_neg (by omega)]
    · split
      · rename_i last
        simp [last]
      · rw [List.getElem?_eq_none (by simp; omega), List.getElem?_eq_none (by omega)]
  unfold Guard.pide
  split
  · refine ⟨fun id j => ?_, fun j other found => ?_, fun j d committed => ?_, coherent.unicas,
      coherent.respondidas, coherent.sinResolver, coherent.aprobadas⟩
    · simp only [pushed]
      rw [coherent.pendientes]
      split
      · rename_i last
        subst last
        simp [Fase.activa]
      · rfl
    · rw [pushed] at found
      split at found
      · rename_i last
        cases found
        subst last
        exact ⟨nofun, fun d committed => absurd committed (fresh d), by simp [Solicitud.Conforme]⟩
      · exact coherent.sanas j other found
    · have bound := coherent.existen j d committed
      simp only [List.length_append, List.length_singleton]
      omega
  · rename_i absent
    rw [Option.not_isSome_iff_eq_none] at absent
    refine ⟨fun id j => ?_, fun j other found => ?_, fun j d committed => ?_, coherent.unicas,
      coherent.respondidas, coherent.sinResolver, coherent.aprobadas⟩
    · simp only [pushed, List.lookup_cons]
      by_cases same : id = requestId
      · subst same
        simp only [beq_self_eq_true, Option.some.injEq]
        split
        · rename_i last
          simp [last, Fase.activa]
        · rename_i old
          rw [← coherent.pendientes, absent]
          simp [Ne.symm old]
      · rw [beq_false_of_ne same]
        simp only
        rw [coherent.pendientes]
        split
        · rename_i last
          subst last
          simp [Ne.symm same]
        · rfl
    · rw [pushed] at found
      split at found
      · rename_i last
        cases found
        subst last
        exact ⟨nofun, fun d committed => absurd committed (fresh d), by simp [Solicitud.Conforme]⟩
      · exact coherent.sanas j other found
    · have bound := coherent.existen j d committed
      simp only [List.length_append, List.length_singleton]
      omega

/-! Steps -/

theorem coherente_responde (coherent : Coherente s) (requestId : String) (approved : Bool) :
    Coherente (s.responde requestId approved) := by
  unfold Guard.responde
  rcases commit_cases coherent requestId (decisionDe approved) with
    ⟨refused, -⟩ | ⟨k, sol, -, here, active, unresolved, committed⟩
  · rw [refused]
    refine ⟨coherent.pendientes, coherent.sanas, coherent.existen, coherent.unicas,
      fun r member j own => ?_, fun r member none_j => ?_, fun j committed => ?_⟩
    · rcases List.mem_append.mp member with before | new
      · exact coherent.respondidas r before j own
      · rw [List.mem_singleton.mp new] at own
        cases own
    · rcases List.mem_append.mp member with before | new
      · exact coherent.sinResolver r before none_j
      · rw [List.mem_singleton.mp new]
    · obtain ⟨r, member, resolved⟩ := coherent.aprobadas j committed
      exact ⟨r, List.mem_append_left _ member, resolved⟩
  · rw [committed]
    refine coherente_comete coherent here active unresolved (fun r new => ?_) fun granted => ?_
    · rw [List.mem_singleton.mp new]
      exact ⟨rfl, rfl⟩
    · refine ⟨_, .head _, rfl, ?_⟩
      cases approved with
      | true => rfl
      | false => cases granted

/-- A call that returns the decision of its resolved request. -/
theorem coherente_devuelve (coherent : Coherente s) (here : s.solicitudes[k]? = some sol)
    (active : sol.fase.activa = true) (resolved : sol.resolved = true)
    (notified : sol.notifyFailed = false) :
    Coherente (s.sale k sol (.devuelve sol.decision)) := by
  have sound := coherent.sanas k sol here
  refine coherente_sale coherent here active rfl sound.resuelta sound.cometida fun fase allowed => ?_
  rcases allowed with ⟨-, -, unresolved⟩ | rfl
  · rw [resolved] at unresolved
    cases unresolved
  · simp [Solicitud.Conforme, resolved, notified]

theorem coherente_vence (coherent : Coherente s) (here : s.solicitudes[k]? = some sol)
    (waiting : sol.fase = .esperando) : Coherente (s.vence k sol) := by
  have active : sol.fase.activa = true := by simp [waiting, Fase.activa]
  have notified : sol.notifyFailed = false := by
    have conforme := (coherent.sanas k sol here).conforme
    simpa [Solicitud.Conforme, waiting] using conforme
  have mine := coherent.pendiente here active
  unfold Guard.vence
  rcases commit_cases coherent sol.requestId .timeout with
    ⟨refused, resolved⟩ | ⟨k', sol', found, here', -, unresolved, committed⟩
  · rw [refused]
    exact coherente_devuelve coherent here active (resolved k sol mine here) notified
  · rw [mine, Option.some.injEq] at found
    subst found
    rw [here, Option.some.injEq] at here'
    subst here'
    have timed_out := @coherente_comete s k sol coherent here active unresolved .timeout []
      (by simp) nofun
    rw [List.append_nil] at timed_out
    rw [committed]
    have at_k : (s.pon k { sol with decision := .timeout, resolved := true }).solicitudes[k]? =
        some { sol with decision := .timeout, resolved := true } := by
      rw [get_pon here, if_pos rfl]
    simp only [at_k]
    split
    · refine coherente_pon timed_out at_k rfl (by simp [waiting, Fase.activa]) ⟨fun _ => by simp,
        fun _ _ => rfl, ?_⟩
      simp [Solicitud.Conforme, notified]
    · exact coherente_devuelve timed_out at_k (by simp [waiting, Fase.activa]) rfl notified

theorem coherente_cancela (coherent : Coherente s) (here : s.solicitudes[k]? = some sol)
    (active : sol.fase.activa = true) : Coherente (s.sale k sol .cancelada) := by
  have sound := coherent.sanas k sol here
  refine coherente_sale coherent here active rfl sound.resuelta sound.cometida fun fase allowed => ?_
  rcases allowed with ⟨rfl, -, -⟩ | rfl
  · rfl
  · trivial

theorem coherente_respuesta {i : Nat} {fase : FaseRespuesta} {t : Guard} (coherent : Coherente s)
    (moved : s.enRespuesta i fase = some t) : Coherente t := by
  unfold Guard.enRespuesta at moved
  split at moved
  · rename_i r found
    split at moved
    · rename_i observing
      cases moved
      have was : r ∈ s.respuestas := List.mem_of_getElem? found
      refine ⟨coherent.pendientes, coherent.sanas, coherent.existen, coherent.unicas,
        fun r' member j own => ?_, fun r' member none_j => ?_, fun j committed => ?_⟩
      · rcases List.mem_or_eq_of_mem_set member with before | rfl
        · exact coherent.respondidas r' before j own
        · exact coherent.respondidas r was j own
      · rcases List.mem_or_eq_of_mem_set member with before | rfl
        · exact coherent.sinResolver r' before none_j
        · rw [coherent.sinResolver r was none_j] at observing
          cases observing
      · obtain ⟨r', member, resolved, granted⟩ := coherent.aprobadas j committed
        obtain ⟨n, at_n⟩ := List.getElem?_of_mem member
        have bound := (List.getElem?_eq_some_iff.mp found).1
        by_cases same : i = n
        · subst same
          rw [found, Option.some.injEq] at at_n
          refine ⟨{ r with fase := fase }, List.mem_iff_getElem?.mpr ⟨i, ?_⟩, at_n ▸ resolved,
            at_n ▸ granted⟩
          rw [List.getElem?_set_self bound]
        · refine ⟨r', List.mem_iff_getElem?.mpr ⟨n, ?_⟩, resolved, granted⟩
          rw [List.getElem?_set_ne same]
          exact at_n
    · cases moved
  · cases moved

theorem coherente_paso {e : Evento} {t : Guard} (coherent : Coherente s)
    (moved : paso s e = some t) : Coherente t := by
  cases e with
  | pide requestId timeoutValido =>
    cases moved
    split
    · exact coherente_pide coherent requestId
    · exact coherent
  | responde requestId approved =>
    cases moved
    exact coherente_responde coherent requestId approved
  | observadaRespuesta i | cancelaRespuesta i => exact coherente_respuesta coherent moved
  | notifica k =>
    obtain ⟨sol, here, moved⟩ := Option.bind_eq_some_iff.mp moved
    split at moved
    · rename_i notifying
      cases moved
      have sound := coherent.sanas k sol here
      have conforme := sound.conforme
      simp only [Solicitud.Conforme, notifying] at conforme
      exact coherente_pon coherent here rfl (by simp [notifying, Fase.activa])
        ⟨sound.resuelta, sound.cometida, conforme⟩
    · cases moved
  | fallaNotificacion k =>
    obtain ⟨sol, here, moved⟩ := Option.bind_eq_some_iff.mp moved
    split at moved
    · rename_i notifying
      cases moved
      have sound := coherent.sanas k sol here
      refine @coherente_sale s k sol { sol with notifyFailed := true } coherent here
        (by simp [notifying, Fase.activa]) rfl sound.resuelta sound.cometida _
        fun fase allowed => ?_
      rcases allowed with ⟨-, notified, -⟩ | rfl
      · cases notified
      · simp [Solicitud.Conforme]
    · cases moved
  | despierta k =>
    obtain ⟨sol, here, moved⟩ := Option.bind_eq_some_iff.mp moved
    split at moved
    · rename_i woken
      cases moved
      have conforme := (coherent.sanas k sol here).conforme
      simp only [Solicitud.Conforme, woken.1] at conforme
      exact coherente_devuelve coherent here (by simp [woken.1, Fase.activa]) woken.2 conforme
    · cases moved
  | vence k =>
    obtain ⟨sol, here, moved⟩ := Option.bind_eq_some_iff.mp moved
    split at moved
    · rename_i waiting
      cases moved
      exact coherente_vence coherent here waiting
    · cases moved
  | observado k =>
    obtain ⟨sol, here, moved⟩ := Option.bind_eq_some_iff.mp moved
    have sound := coherent.sanas k sol here
    have conforme := sound.conforme
    split at moved
    · rename_i observing
      cases moved
      simp only [Solicitud.Conforme, observing] at conforme
      exact coherente_devuelve coherent here (by simp [observing, Fase.activa]) conforme.2 conforme.1
    · rename_i resultado cancelling
      cases moved
      simp only [Solicitud.Conforme, cancelling] at conforme
      subst conforme
      exact coherente_pon coherent here rfl (by simp [cancelling, Fase.activa])
        ⟨sound.resuelta, sound.cometida, trivial⟩
    · cases moved
  | cancela k =>
    obtain ⟨sol, here, moved⟩ := Option.bind_eq_some_iff.mp moved
    have sound := coherent.sanas k sol here
    split at moved
    · rename_i notifying
      cases moved
      exact coherente_cancela coherent here (by simp [notifying, Fase.activa])
    · rename_i waiting
      cases moved
      exact coherente_cancela coherent here (by simp [waiting, Fase.activa])
    · rename_i observing
      cases moved
      exact coherente_cancela coherent here (by simp [observing, Fase.activa])
    · rename_i resultado cancelling
      cases moved
      exact coherente_pon coherent here rfl (by simp [cancelling, Fase.activa])
        ⟨sound.resuelta, sound.cometida, trivial⟩
    · cases moved

theorem coherente_inicial (fresh : Inicial s) : Coherente s := by
  obtain ⟨pending, solicitudes, respuestas, commits⟩ := fresh
  constructor <;> simp [pending, solicitudes, respuestas, commits]

/-! Runs -/

/-- What the calls of a guard may have answered. -/
structure Garantias (s : Guard) : Prop where
  acuerdo : ∀ r ∈ s.respuestas, r.fase = .devuelve true →
    ∃ (k : Nat) (sol : Solicitud), r.resolvio = some k ∧ s.solicitudes[k]? = some sol ∧
      ∀ d, sol.fase = .terminada (.devuelve d) →
        (d = decisionDe r.approved ↔ sol.notifyFailed = false)
  aprobada : ∀ (k : Nat) (sol : Solicitud), s.solicitudes[k]? = some sol → sol.fase = .terminada (.devuelve .approved) →
    ∃ r ∈ s.respuestas, r.resolvio = some k ∧ r.approved = true
  unica : (s.commits.map Prod.fst).Nodup
  limpia : (∀ (k : Nat) (sol : Solicitud), s.solicitudes[k]? = some sol → ∃ resultado, sol.fase = .terminada resultado) →
    s.pending = []

theorem Coherente.garantias (coherent : Coherente s) : Garantias s where
  acuerdo := by
    intro r member returned
    cases resolved : r.resolvio with
    | none =>
      rw [coherent.sinResolver r member resolved] at returned
      cases returned
    | some k =>
      have committed := coherent.respondidas r member k resolved
      obtain ⟨sol, here⟩ : ∃ sol, s.solicitudes[k]? = some sol :=
        ⟨_, List.getElem?_eq_getElem (coherent.existen k _ committed)⟩
      refine ⟨k, sol, rfl, here, fun d finished => ?_⟩
      have sound := coherent.sanas k sol here
      have is_resolved := sound.cometida _ committed
      have same : sol.decision = decisionDe r.approved := by
        have both := sound.resuelta is_resolved
        exact (List.inj_on_of_nodup_map coherent.unicas both committed rfl) |> congrArg Prod.snd
      have conforme := sound.conforme
      simp only [Solicitud.Conforme, finished, is_resolved, if_true, same] at conforme
      cases failed : sol.notifyFailed with
      | true =>
        simp only [failed, if_true] at conforme
        subst conforme
        cases r.approved <;> simp [decisionDe]
      | false =>
        simp only [failed, Bool.false_eq_true, if_false] at conforme
        simp [conforme]
  aprobada := by
    intro k sol here finished
    have sound := coherent.sanas k sol here
    have conforme := sound.conforme
    simp only [Solicitud.Conforme, finished] at conforme
    split at conforme
    · cases conforme
    · split at conforme
      · rename_i resolved
        exact coherent.aprobadas k (conforme ▸ sound.resuelta resolved)
      · cases conforme
  unica := coherent.unicas
  limpia := by
    intro finished
    cases table : s.pending with
    | nil => rfl
    | cons entry rest =>
      obtain ⟨id, k⟩ := entry
      obtain ⟨sol, here, -, active⟩ := (coherent.pendientes id k).mp (by simp [table])
      obtain ⟨resultado, ended⟩ := finished k sol here
      rw [ended] at active
      cases active

end

theorem decisiones_finales {s : Guard}
    (reached : TransitionRuns.Reaches paso Inicial (fun _ _ => True) s) : Garantias s := by
  apply Coherente.garantias
  exact reached.invariant (fun _ fresh => coherente_inicial fresh)
    fun _ _ _ coherent _ moved => coherente_paso coherent moved

def guardNuevo : Guard := ⟨false, false, [], [], [], []⟩

/-- The operator approves while `notify_fn` runs, and `notify_fn` then fails. -/
theorem aprobada_y_vencida :
    ∃ s, TransitionRuns.run paso guardNuevo
        [.pide "download" true, .responde "download" true, .fallaNotificacion 0] = some s ∧
      s.respuestas = [⟨"download", true, some 0, .devuelve true⟩] ∧
      s.solicitudes = [⟨"download", .approved, true, true, .terminada (.devuelve .timeout)⟩] :=
  ⟨_, rfl, rfl, rfl⟩

theorem aprobada_y_devuelta :
    ∃ s, TransitionRuns.run paso guardNuevo
        [.pide "download" true, .responde "download" true, .notifica 0, .despierta 0] = some s ∧
      s.solicitudes = [⟨"download", .approved, true, false, .terminada (.devuelve .approved)⟩] ∧
      Garantias s := by
  refine ⟨_, rfl, rfl, decisiones_finales ?_⟩
  have ran : TransitionRuns.run paso guardNuevo
      [.pide "download" true, .responde "download" true, .notifica 0, .despierta 0] = some _ := rfl
  exact .of_run (.start ⟨rfl, rfl, rfl, rfl⟩) (fun _ _ => trivial) ran

end HITLGuard
