import SkyClaw.BrokerFenceSafety

set_option linter.all false

/-!
Every permitted step keeps the fence, and what that says of a run: what lets go
of the lock or delivers an outcome, and what may be launched.
-/
namespace BrokerFence
open TaskTables TransitionRuns

variable {p : Plazos} {s t : Estado} {i : Nat} {c d : Corrida}

theorem Inv.entorno {u : Estado} (inv : Inv p s) (corridas : u.corridas = s.corridas) (lock : u.lock = s.lock)
    (quarantine : u.quarantine = s.quarantine) (lost : u.lostAt ≤ u.ahora)
    (conexion : u.bridgeReady = true → u.bridgeLost = false)
    (caido : ∀ count, count ≤ s.connectCount → count ≤ u.connectCount ∧
      (count = u.connectCount → count = s.connectCount ∧
        (s.bridgeReady = false → u.bridgeReady = false ∧ u.lostAt = s.lostAt))) : Inv p u := by
  refine inv.avanza ?_ lost conexion
  intro j d at_
  rw [corridas] at at_
  have sana := inv.sana j d at_
  refine ⟨d, at_, { sana with lock := ?_, porLanzar := ?_, aislada := ?_, caido := ?_ }, id, .inl⟩
  · rw [lock]
    exact sana.lock
  · rw [quarantine]
    exact sana.porLanzar
  · rw [quarantine]
    exact sana.aislada
  · intro e mem count limit down
    obtain ⟨le, unready⟩ := sana.caido e mem count limit down
    obtain ⟨le', same⟩ := caido count le
    refine ⟨le', fun now => ?_⟩
    obtain ⟨was, stays⟩ := same now
    obtain ⟨down, loose⟩ := unready was
    obtain ⟨still, lost⟩ := stays down
    exact ⟨still, fun is => lost ▸ loose is⟩

theorem Inv.step {e : Evento} (inv : Inv p s) (ok : permitido p s e) (moved : step p s e = some t) : Inv p t := by
  cases e with
  | tick ticks =>
    cases moved
    have lost := inv.perdido
    exact inv.entorno rfl rfl rfl (by simp only; omega) inv.conexion fun _ le => ⟨le, fun is => ⟨is, fun down => ⟨down, rfl⟩⟩⟩
  | bridgeHello =>
    simp only [BrokerFence.step] at moved
    split at moved
    · cases moved
    · cases moved
      exact inv.entorno rfl rfl rfl inv.perdido inv.conexion fun _ le => ⟨le, fun is => ⟨is, fun down => ⟨down, rfl⟩⟩⟩
  | bridgeReady =>
    simp only [BrokerFence.step] at moved
    split at moved
    · cases moved
      refine inv.entorno rfl rfl rfl inv.perdido (fun _ => rfl) fun count le => ⟨Nat.le_succ_of_le le, fun is => ?_⟩
      simp only at is
      omega
    · cases moved
  | bridgeCloses =>
    simp only [BrokerFence.step] at moved
    split at moved
    · cases moved
      exact inv.entorno rfl rfl rfl inv.perdido inv.conexion fun _ le => ⟨le, fun is => ⟨is, fun down => ⟨down, rfl⟩⟩⟩
    · cases moved
  | bridgeLost =>
    simp only [BrokerFence.step] at moved
    split at moved
    · cases moved
      have lost := inv.perdido
      refine inv.entorno rfl rfl rfl ?_ (by simp) fun _ le => ⟨le, fun is => ⟨is, fun down => ⟨rfl, by simp [down]⟩⟩⟩
      simp only
      split <;> omega
    · cases moved
  | submit job =>
    simp only [BrokerFence.step] at moved
    split at moved
    · cases moved
      exact inv
    · cases moved
      exact inv.nueva
  | openSession job =>
    simp only [BrokerFence.step] at moved
    split at moved
    · cases moved
      exact inv
    · cases moved
      exact inv.nueva
  | adquiere i =>
    simp only [BrokerFence.step] at moved
    split at moved
    · rename_i c at_
      split at moved
      · rename_i waits
        obtain ⟨waits, free⟩ := waits
        have fresh := (inv.sana i c at_).sinLanzar (.inl waits)
        split at moved
        · cases moved
          refine inv.sigue at_ (Sigue.trans (d := { c with fase := .fin false }) ?_ (.datos _ _ _))
          exact .fase (fun inside => by cases inside) (fun soon => by cases soon) (by simp) fun _ _ => .inl fresh
        · rename_i clean
          cases moved
          exact inv.entra at_ waits free (by simpa using clean)
      · cases moved
    · cases moved
  | abandona i =>
    simp only [BrokerFence.step] at moved
    split at moved
    · rename_i c at_
      split at moved
      · rename_i phase
        have fresh := (inv.sana i c at_).sinLanzar (.inl phase)
        cases moved
        refine inv.sigue at_ (Sigue.trans (d := { c with fase := .fin false }) ?_ (.datos _ _ _))
        exact .fase (fun inside => by cases inside) (fun soon => by cases soon) (by simp) fun _ _ => .inl fresh
      · rename_i phase
        have fresh := (inv.sana i c at_).sinLanzar (.inr (by rw [Corrida.porLanzar, phase]))
        cases moved
        refine inv.sale at_ (by rw [Corrida.dentro, phase])
          (Sigue.trans (d := { c with fase := .fin false }) ?_ (.datos _ _ _)) rfl
        exact .fase (fun inside => by cases inside) (fun soon => by cases soon) (by simp) fun _ _ => .inl fresh
      · cases moved
    · cases moved
  | registra i =>
    simp only [BrokerFence.step] at moved
    split at moved
    · rename_i c at_
      split at moved
      · rename_i phase
        have soon : c.porLanzar = true := by rw [Corrida.porLanzar, phase]
        have fresh := (inv.sana i c at_).sinLanzar (.inr soon)
        cases moved
        refine inv.sigue at_ ?_
        split
        · exact .enviar (.inl phase) fresh
        · exact .fase (fun _ => by rw [Corrida.dentro, phase]) (fun _ => soon) (by simp) (by simp)
      · cases moved
    · cases moved
  | arranca i =>
    simp only [BrokerFence.step] at moved
    split at moved
    · rename_i c at_
      split at moved
      · rename_i phase
        have fresh := (inv.sana i c at_).sinLanzar (.inr (by rw [Corrida.porLanzar, phase]))
        cases moved
        exact inv.sigue at_ (.enviar (.inr phase) fresh)
      · cases moved
    · cases moved
  | lanza i =>
    simp only [BrokerFence.step] at moved
    split at moved
    · rename_i c at_
      split at moved
      · rename_i n phase
        split at moved
        · cases moved
          exact inv.lanza at_ phase
        · cases moved
      · cases moved
    · cases moved
  | noEnvia i =>
    simp only [BrokerFence.step] at moved
    split at moved
    · rename_i c at_
      split at moved
      · rename_i n phase
        have fresh := (inv.sana i c at_).sinLanzar (.inr (by rw [Corrida.porLanzar, phase]))
        cases moved
        refine inv.sigue at_ (.fase (fun _ => by rw [Corrida.dentro, phase]) (fun soon => by cases soon) (by simp) ?_)
        exact fun _ _ => .inl fresh
      · cases moved
    · cases moved
  | drenada i =>
    simp only [BrokerFence.step] at moved
    split at moved
    · rename_i c at_
      split at moved
      · rename_i phase
        cases moved
        exact inv.sigue at_ (.pasa (by rw [Corrida.dentro, phase]) (by simp) rfl (by simp))
      · cases moved
    · cases moved
  | noDrena i =>
    simp only [BrokerFence.step] at moved
    split at moved
    · rename_i c at_
      split at moved
      · rename_i phase
        simp only [permitido, permite, at_, decide_eq_true_eq] at ok
        cases moved
        refine inv.sigue at_ (.fase (fun _ => by rw [Corrida.dentro, phase]) (fun soon => by cases soon) (by simp) ?_)
        exact fun _ _ => .inr (.inl (ok phase))
      · cases moved
    · cases moved
  | jobResult i valido =>
    simp only [BrokerFence.step] at moved
    split at moved
    · rename_i c at_
      split at moved
      · cases moved
        exact inv.sigue at_ (.datos c.apertura _ c.terminando)
      · cases moved
    · cases moved
  | recibe i =>
    simp only [BrokerFence.step, Option.bind_eq_some_iff, Option.map_eq_some_iff] at moved
    obtain ⟨c, at_, d, turned, rfl⟩ := moved
    exact inv.sigue at_ (.recibir turned)
  | timeout i =>
    simp only [BrokerFence.step] at moved
    split at moved
    · rename_i c at_
      split at moved
      · rename_i phase
        cases moved
        exact inv.sigue at_ (.cancelar (by rw [Corrida.dentro, phase]))
      · cases moved
    · cases moved
  | interrumpe i =>
    simp only [BrokerFence.step, Option.bind_eq_some_iff, Option.map_eq_some_iff] at moved
    obtain ⟨c, at_, d, turned, rfl⟩ := moved
    simp only [permitido, permite, at_, decide_eq_true_eq] at ok
    exact inv.sigue at_ (.interrumpir turned (fun soon => (inv.sana i c at_).sinLanzar (.inr soon)) ok)
  | pideTermino i =>
    simp only [BrokerFence.step] at moved
    split at moved
    · rename_i c at_
      split at moved
      · cases moved
        exact inv.sigue at_ (.datos c.apertura c.resultado _)
      · cases moved
    · cases moved
  | termina i =>
    simp only [BrokerFence.step] at moved
    split at moved
    · rename_i c at_
      split at moved
      · rename_i listed
        cases moved
        refine inv.sigue at_ (.conEspera _ _ ⟨?_, ?_⟩) <;> intro phase <;> simp [Corrida.registrada, phase] at listed
      · cases moved
    · cases moved
  | itera i k =>
    simp only [BrokerFence.step] at moved
    split at moved
    · rename_i c at_
      split at moved
      · rename_i e wait
        split at moved
        · rename_i turn
          cases moved
          exact inv.itera at_ wait turn.1 turn.2 ok
        · cases moved
      · cases moved
    · cases moved
  | despierta i k =>
    simp only [BrokerFence.step, Option.map_eq_some_iff] at moved
    obtain ⟨c, at_, rfl⟩ := moved
    exact inv.vigila at_ fun _ _ _ _ down => by cases down
  | vence i k =>
    simp only [BrokerFence.step] at moved
    split at moved
    · rename_i c at_
      split at moved
      · rename_i e wait
        split at moved
        · rename_i pending
          exact inv.despierta at_ wait pending ok moved
        · cases moved
      · cases moved
    · cases moved
  | decide i =>
    simp only [BrokerFence.step, Option.bind_eq_some_iff, Option.map_eq_some_iff] at moved
    obtain ⟨c, at_, d, turned, rfl⟩ := moved
    exact inv.sigue at_ (.decidir turned)
  | libera i =>
    simp only [BrokerFence.step] at moved
    split at moved
    · rename_i c at_
      split at moved
      · rename_i veta phase
        cases moved
        refine inv.sale at_ (by rw [Corrida.dentro, phase]) ?_ rfl
        refine .fase (fun inside => by cases inside) (fun soon => by cases soon) (by simp) fun veta' gone => ?_
        have same : veta = veta' := by simpa using gone
        cases launched : c.lanzada with
        | false => exact .inl rfl
        | true => exact .inr (.inr (same ▸ (inv.sana i c at_).suelta veta (.inl phase) launched))
      · cases moved
    · cases moved
  | toolStarted i =>
    simp only [BrokerFence.step] at moved
    split at moved
    · rename_i c at_
      split at moved
      · cases moved
        exact inv.sigue at_ (.datos _ c.resultado c.terminando)
      · cases moved
    · cases moved
  | aperturaFalla i protocolo =>
    simp only [BrokerFence.step] at moved
    split at moved
    · rename_i c at_
      split at moved
      · cases moved
        exact inv.sigue at_ (.datos _ c.resultado c.terminando)
      · cases moved
    · cases moved
  | interrumpeApertura i =>
    simp only [BrokerFence.step, Option.bind_eq_some_iff, Option.map_eq_some_iff] at moved
    obtain ⟨c, at_, d, turned, rfl⟩ := moved
    exact inv.sigue at_ (.interrumpirApertura turned)
  | acabaApertura i =>
    simp only [BrokerFence.step] at moved
    split at moved
    · rename_i c at_
      split at moved
      · cases moved
        exact inv.sigue at_ (.datos _ c.resultado c.terminando)
      · cases moved
    · cases moved
  | workerExit job =>
    cases moved
    exact inv.workerExit ok
  | launchError job =>
    cases moved
    exact inv.launchError ok
  | cancelError job =>
    cases moved
    exact inv.cancelError ok

theorem permitida_inv (reached : Reaches (step p) Inicio (permitido p) s) : Inv p s := by
  refine reached.invariant ?_ fun s e t inv ok moved => inv.step ok moved
  intro s first
  obtain ⟨quarantine, rfl⟩ := first
  exact .inicial quarantine

/-! What lets go of a job -/

/-- Whether what is delivered of the job, at its release or at the end of `open_session`, forbids
rollback. -/
def Corrida.prohibe (c : Corrida) : Bool :=
  match c.apertura, c.fase with
  | .fence veta cancelada, .fin driver => vetaDeApertura veta cancelada driver
  | _, .limpia veta => veta
  | _, _ => false

structure Cercada (s : Estado) (e : Evento) (t : Estado) : Prop where
  libera : s.lock = true → t.lock = false → ∀ (i : Nat) (c : Corrida), s.corridas[i]? = some c →
    c.dentro = true → c.lanzada = true → c.segura = true ∨ c.prohibe = true ∧ s.quarantine.isSome = true
  entrega : ∀ i, e = .libera i ∨ e = .acabaApertura i → ∀ c : Corrida, s.corridas[i]? = some c →
    c.lanzada = true → c.segura = true ∨ c.prohibe = true ∧ s.quarantine.isSome = true
  lanza : ∀ i, e = .lanza i → s.quarantine = none
  una : ∀ (i j : Nat) (c d : Corrida), t.corridas[i]? = some c → t.corridas[j]? = some d →
    c.lanzada = true → c.dentro = true → d.lanzada = true → d.dentro = true → i = j

theorem iterar_lock {k : Nat} {e : Espera} : (iterar p i k c e s).lock = s.lock := by
  simp only [iterar]
  split <;> split <;> rfl

theorem despertar_lock {e : Espera} (moved : despertar p i c e s = some t) : t.lock = s.lock := by
  rw [despertar] at moved
  split at moved
  · split at moved
    · cases moved
      rfl
    · cases moved
  · split at moved
    · cases moved
      rfl
    · cases moved
  · cases moved

/-- The lock is let go of by a run whose launch was never tried, or that is cleaned up. -/
theorem step_lock {e : Evento} (moved : step p s e = some t) (held : s.lock = true) (free : t.lock = false) :
    ∃ (i : Nat) (c : Corrida), s.corridas[i]? = some c ∧ (c.fase = .prepara ∨ ∃ veta, c.fase = .limpia veta) := by
  by_contra stays
  have kept : t.lock = s.lock := by
    cases e with
    | abandona i =>
      simp only [BrokerFence.step] at moved
      split at moved
      · rename_i c at_
        split at moved
        · cases moved
          rfl
        · rename_i phase
          exact absurd ⟨i, c, at_, .inl phase⟩ stays
        · cases moved
      · cases moved
    | libera i =>
      simp only [BrokerFence.step] at moved
      split at moved
      · rename_i c at_
        split at moved
        · rename_i veta phase
          exact absurd ⟨i, c, at_, .inr ⟨veta, phase⟩⟩ stays
        · cases moved
      · cases moved
    | itera i k =>
      simp only [BrokerFence.step] at moved
      split at moved
      · split at moved
        · split at moved
          · cases moved
            exact iterar_lock
          · cases moved
        · cases moved
      · cases moved
    | vence i k =>
      simp only [BrokerFence.step] at moved
      split at moved
      · split at moved
        · split at moved
          · exact despertar_lock moved
          · cases moved
        · cases moved
      · cases moved
    | recibe i | interrumpe i | decide i | interrumpeApertura i =>
      simp only [BrokerFence.step, Option.bind_eq_some_iff, Option.map_eq_some_iff] at moved
      obtain ⟨c, at_, d, turned, rfl⟩ := moved
      rfl
    | _ => grind -ring -linarith [BrokerFence.step, Estado.cambia, workerExit, launchError, cancelError, alJob, vigilar]
  rw [kept, held] at free
  cases free

/-- A run that is let go of is over, or its outcome forbids rollback. -/
theorem Sana.libera (sana : Sana p s c) {veta : Bool} (phase : c.fase = .limpia veta) (launched : c.lanzada = true) :
    c.segura = true ∨ c.prohibe = true ∧ s.quarantine.isSome = true := by
  cases done : c.segura with
  | true => exact .inl rfl
  | false =>
    obtain ⟨rfl, failed⟩ := (sana.suelta veta (.inl phase) launched).resolve_left (by simp [done])
    have mark := sana.aislada ⟨launched, failed, done⟩
    refine .inr ⟨?_, by simp [mark]⟩
    rw [Corrida.prohibe]
    split
    · rename_i other
      rw [phase] at other
      cases other
    · rename_i same
      rw [phase] at same
      cases same
      rfl
    · rename_i other _
      exact absurd phase (other true)

theorem Sana.entrega (sana : Sana p s c) {veta cancelada driver : Bool} (opened : c.apertura = .fence veta cancelada)
    (phase : c.fase = .fin driver) (kept : (cancelada && !veta && driver) = false) (launched : c.lanzada = true) :
    c.segura = true ∨ c.prohibe = true ∧ s.quarantine.isSome = true := by
  cases done : c.segura with
  | true => exact .inl rfl
  | false =>
    obtain ⟨rfl, failed⟩ := (sana.suelta driver (.inr phase) launched).resolve_left (by simp [done])
    have mark := sana.aislada ⟨launched, failed, done⟩
    refine .inr ⟨?_, by simp [mark]⟩
    simp only [Corrida.prohibe, opened, phase, vetaDeApertura]
    cases cancelada <;> cases veta <;> simp_all

theorem instancia_cercada {e : Evento} (reached : Reaches (step p) Inicio (permitido p) s) (ok : permitido p s e)
    (moved : step p s e = some t) : Cercada s e t := by
  have inv := permitida_inv reached
  have after := inv.step ok moved
  constructor
  · intro held free i c at_ inside launched
    obtain ⟨j, d, at_d, phase⟩ := step_lock moved held free
    have inside_d : d.dentro = true := by
      rcases phase with phase | ⟨veta, phase⟩ <;> rw [Corrida.dentro, phase]
    have same := inv.unica i j c d at_ at_d inside inside_d
    rw [same, at_d] at at_
    cases at_
    rcases phase with phase | ⟨veta, phase⟩
    · have fresh := (inv.sana j c at_d).sinLanzar (.inr (by rw [Corrida.porLanzar, phase]))
      rw [launched] at fresh
      cases fresh
    · exact (inv.sana j c at_d).libera phase launched
  · intro i delivers c at_ launched
    rcases delivers with rfl | rfl
    · simp only [BrokerFence.step, at_] at moved
      split at moved
      · rename_i veta phase
        exact (inv.sana i c at_).libera phase launched
      · cases moved
    · simp only [BrokerFence.step, at_] at moved
      split at moved
      · rename_i veta cancelada driver opened phase
        simp only [permitido, permite, at_, opened, phase, Bool.not_eq_true'] at ok
        exact (inv.sana i c at_).entrega opened phase ok launched
      · cases moved
  · rintro i rfl
    simp only [BrokerFence.step] at moved
    split at moved
    · rename_i c at_
      split at moved
      · rename_i n phase
        exact ((inv.sana i c at_).porLanzar (by rw [Corrida.porLanzar, phase])).1
      · cases moved
    · cases moved
  · intro i j c d at_c at_d _ inside_c _ inside_d
    exact after.unica i j c d at_c at_d inside_c inside_d

def segundos : Plazos := ⟨30, 30, 2⟩

def sano : List Evento :=
  [.bridgeHello, .bridgeReady, .submit "J", .adquiere 0, .registra 0, .lanza 0, .drenada 0, .jobResult 0 true,
    .recibe 0, .itera 0 0, .workerExit "J", .decide 0]

theorem sano_cercado : ∃ s t, run (restricted (step segundos) (permite segundos)) (.inicial none) sano = some s ∧
    step segundos s (.libera 0) = some t ∧ t.lock = false ∧ Cercada s (.libera 0) t := by
  have looks : ((run (restricted (step segundos) (permite segundos)) (.inicial none) sano).bind fun s =>
      (step segundos s (.libera 0)).map fun t => (permite segundos s (.libera 0), t.lock)) = some (true, false) := by
    decide +kernel
  obtain ⟨s, done, rest⟩ := Option.bind_eq_some_iff.mp looks
  obtain ⟨t, moved, seen⟩ := Option.map_eq_some_iff.mp rest
  obtain ⟨ok, free⟩ := Prod.mk.injEq .. ▸ seen
  exact ⟨s, t, done, moved, free, instancia_cercada (.of_restricted_run (.start ⟨none, rfl⟩) done) ok moved⟩

/-- The bridge answers late to the cancellation of another job. -/
def cuarentenaTardia : List Evento :=
  [.bridgeHello, .bridgeReady, .submit "J", .adquiere 0, .cancelError "K", .registra 0]

/-- The caller of `submit` is cancelled while the frame drains. -/
def lanzamientoInterrumpido : List Evento :=
  [.bridgeHello, .bridgeReady, .submit "J", .adquiere 0, .registra 0, .lanza 0, .interrumpe 0]

/-- The bridge is lost one second before the limit that was fixed when the fence began. -/
def graciaCortada : List Evento :=
  [.bridgeHello, .bridgeReady, .submit "J", .adquiere 0, .registra 0, .lanza 0, .drenada 0, .timeout 0,
    .termina 0, .itera 0 0, .tick 29, .bridgeLost, .despierta 0 0, .itera 0 0, .tick 1, .vence 0 0, .decide 0]

/-- The caller of `open_session` is cancelled, and again while the teardown fails. -/
def aperturaCancelada : List Evento :=
  [.bridgeHello, .bridgeReady, .openSession "J", .adquiere 0, .registra 0, .arranca 0, .lanza 0, .drenada 0,
    .interrumpeApertura 0, .pideTermino 0, .termina 0, .itera 0 0, .cancelError "J", .recibe 0, .decide 0,
    .libera 0, .interrumpeApertura 0]

/-- A launch in quarantine, or an outcome without a veto and a worker that may still run. -/
def rota (s : Estado) : Evento → Bool
  | .lanza _ => s.quarantine.isSome
  | .libera i | .acabaApertura i => (s.corridas[i]?).any fun c => c.lanzada && !c.segura && !c.prohibe
  | _ => false

theorem Cercada.no_rota {e : Evento} (safe : Cercada s e t) : rota s e = false := by
  have kept : ∀ i, e = .libera i ∨ e = .acabaApertura i →
      (s.corridas[i]?).any (fun c => c.lanzada && !c.segura && !c.prohibe) = false := by
    intro i delivers
    cases at_ : s.corridas[i]? with
    | none => rfl
    | some c =>
      have outcome := safe.entrega i delivers c at_
      rw [Option.any_some]
      grind -ring -linarith
  cases e with
  | lanza i => rw [rota, safe.lanza i rfl, Option.isSome_none]
  | libera i => exact kept i (.inl rfl)
  | acabaApertura i => exact kept i (.inr rfl)
  | _ => rfl

theorem no_cercada {es : List Evento} {e : Evento}
    (looks : ((run (step segundos) (.inicial none) es).bind fun s =>
      (step segundos s e).map fun _ => rota s e) = some true) :
    ∃ s t, run (step segundos) (.inicial none) es = some s ∧ step segundos s e = some t ∧ ¬ Cercada s e t := by
  obtain ⟨s, done, rest⟩ := Option.bind_eq_some_iff.mp looks
  obtain ⟨t, moved, broken⟩ := Option.map_eq_some_iff.mp rest
  refine ⟨s, t, done, moved, fun safe => ?_⟩
  rw [safe.no_rota] at broken
  cases broken

theorem cerca_rota :
    (∃ s t, run (step segundos) (.inicial none) cuarentenaTardia = some s ∧
      step segundos s (.lanza 0) = some t ∧ ¬ Cercada s (.lanza 0) t) ∧
    (∃ s t, run (step segundos) (.inicial none) lanzamientoInterrumpido = some s ∧
      step segundos s (.libera 0) = some t ∧ ¬ Cercada s (.libera 0) t) ∧
    (∃ s t, run (step segundos) (.inicial none) graciaCortada = some s ∧
      step segundos s (.libera 0) = some t ∧ ¬ Cercada s (.libera 0) t) ∧
    (∃ s t, run (step segundos) (.inicial none) aperturaCancelada = some s ∧
      step segundos s (.acabaApertura 0) = some t ∧ ¬ Cercada s (.acabaApertura 0) t) := by
  refine ⟨no_cercada ?_, no_cercada ?_, no_cercada ?_, no_cercada ?_⟩ <;> decide +kernel

end BrokerFence
