import SkyClaw.TelegramSender

set_option linter.all false

/-!
What the concurrent calls of one `TelegramSender` may do to the Bot API: the shared
cooldown, the attempts, the time a `send` sleeps and the messages of a chat in a minute.
-/
namespace TelegramSender
open TransitionRuns

/-- The messages for a chat that the server accepted in the window that begins at `t`. -/
def Estado.enVentana (c : Ajustes) (s : Estado) (chatId t : Int) : Nat :=
  s.aceptados.countP fun p => decide (p.1 = chatId ∧ t ≤ p.2 ∧ p.2 < t + c.rateLimitWindow)

/-- A message that passed the check of its chat and that the server may still accept. -/
def Llamada.enVuelo (chatId : Int) (l : Llamada) : Bool :=
  l.esMensaje && decide (l.chatId = chatId) &&
    match l.fase with
    | .cooldown _ _ _ => true
    | .vuelo none => true
    | _ => false

def Estado.enVuelo (s : Estado) (chatId : Int) : Nat :=
  s.llamadas.countP (Llamada.enVuelo chatId) + s.sueltos.count chatId

/-- In flight, or accepted in the last minute. -/
def Estado.ocupados (c : Ajustes) (s : Estado) (chatId : Int) : Nat :=
  s.enVuelo chatId +
    s.aceptados.countP fun p => decide (p.1 = chatId ∧ s.ahora - c.rateLimitWindow < p.2)

def Llamada.dormidaA (ahora : Int) (l : Llamada) : Int :=
  match l.fase with
  | .cooldown antes _ _ => l.dormida + (ahora - antes)
  | _ => l.dormida

def Llamada.esSend (l : Llamada) : Bool :=
  match l.clase with
  | .send _ => true
  | _ => false

structure Honrados (c : Ajustes) (s : Estado) : Prop where
  sinRetroceso : ∀ e t, step c s e = some t → s.deadline ≤ t.deadline
  sinAdelantos : ∀ p ∈ s.intentos, p.2 ≤ p.1
  avisos : ∀ a ∈ s.avisos, a ≤ s.deadline
  intentos : ∀ l ∈ s.llamadas, ∀ n ∈ l.intento :: l.anteriores, n ≤ maxReintentos429 + 1
  presupuesto : ∀ l ∈ s.llamadas, l.esSend = true → l.dormidaA s.ahora ≤ c.maxCooldownTotalTexto
  ventana : ∀ chatId t, s.enVentana c chatId t ≤ c.rateLimit
  entregados : ∀ l ∈ s.llamadas, l.esSend = true → ∀ ms r agotado,
    l.fase = .fin (.limite ms r agotado) → ms = l.creados

/-- A message passes the check of its chat while fewer than `rate_limit` of the chat are in
flight or were accepted in the last minute, and `float` holds every `retry_after`. -/
def permite (c : Ajustes) (s : Estado) : Evento → Bool
  | .corre i =>
    match s.llamadas[i]? with
    | some l =>
      !l.esMensaje || l.quedan == 0 || s.revision c l.chatId != .pasa ||
        decide (s.ocupados c l.chatId < c.rateLimit)
    | none => true
  | .despierta i =>
    match s.llamadas[i]? with
    | some l =>
      match l.fase with
      | .local_ _ => decide (s.ocupados c l.chatId < c.rateLimit)
      | _ => true
    | none => true
  | .responde _ (.limitado .desborda _) => false
  | _ => true

/-- What is left of the budget of a `send` is enough for the sleep that may follow. -/
def Cubierta (c : Ajustes) (l : Llamada) (total : Int) : Prop :=
  l.esSend = true →
    l.creados = l.entregados ∧ l.dormida = l.cooldownAcumulado + total ∧
      l.cooldownAcumulado + total ≤ c.maxCooldownTotalTexto ∧
      ∃ p, l.presupuesto = some p ∧
        l.cooldownAcumulado - l.dormidoEnLlamada + p ≤ c.maxCooldownTotalTexto

/-- What each phase of a call has done so far. -/
def EnFase (c : Ajustes) (ahora : Int) (l : Llamada) : Prop :=
  match l.fase with
  | .porEmpezar => l.esSend = true → l.creados = l.entregados ∧ l.dormida = l.cooldownAcumulado ∧
      l.cooldownAcumulado ≤ c.maxCooldownTotalTexto
  | .local_ _ => l.esSend = true → l.creados = l.entregados ∧ l.dormida = l.cooldownAcumulado ∧
      l.cooldownAcumulado ≤ c.maxCooldownTotalTexto
  | .cooldown antes hasta total =>
    l.intento ≤ maxReintentos429 ∧ 0 ≤ total ∧ antes ≤ ahora ∧ ahora ≤ hasta ∧ Cubierta c l total ∧
      (l.esSend = true →
        l.cooldownAcumulado + total + (hasta - antes) ≤ c.maxCooldownTotalTexto)
  | .vuelo creado => l.esSend = true → l.creados = l.entregados ++ creado.toList ∧
      l.dormida = l.cooldownAcumulado ∧ l.cooldownAcumulado ≤ c.maxCooldownTotalTexto ∧
      ∃ p, l.presupuesto = some p ∧
        l.cooldownAcumulado - l.dormidoEnLlamada + p ≤ c.maxCooldownTotalTexto
  | .fin r => l.esSend = true → l.dormida ≤ c.maxCooldownTotalTexto ∧
      ∀ ms x agotado, r = .limite ms x agotado → ms = l.creados

structure Sana (c : Ajustes) (ahora : Int) (l : Llamada) : Prop where
  intento : l.intento ≤ maxReintentos429 + 1
  anteriores : ∀ n ∈ l.anteriores, n ≤ maxReintentos429 + 1
  fase : EnFase c ahora l

structure Inv (c : Ajustes) (s : Estado) : Prop where
  abiertas : ∀ chatId t, s.ahora < t + c.rateLimitWindow →
    s.enVentana c chatId t + s.enVuelo chatId ≤ c.rateLimit
  cerradas : ∀ chatId t, s.enVentana c chatId t ≤ c.rateLimit
  sinAdelantos : ∀ p ∈ s.intentos, p.2 ≤ p.1
  avisos : ∀ a ∈ s.avisos, a ≤ s.deadline
  llamadas : ∀ l ∈ s.llamadas, Sana c s.ahora l

/-- There is room for one more message of the chat. -/
def Hueco (c : Ajustes) (s : Estado) (chatId : Int) : Prop :=
  ∀ t, s.ahora < t + c.rateLimitWindow → s.enVentana c chatId t + s.enVuelo chatId < c.rateLimit

section
variable {c : Ajustes} {s : Estado} {i : Nat} {l before : Llamada}

theorem hueco_of_ocupados {chatId : Int} (few : s.ocupados c chatId < c.rateLimit) : Hueco c s chatId := by
  intro t open_
  have recent : s.enVentana c chatId t ≤
      s.aceptados.countP fun p => decide (p.1 = chatId ∧ s.ahora - c.rateLimitWindow < p.2) := by
    apply List.countP_mono_left
    intro p _ inside
    simp only [decide_eq_true_eq] at inside ⊢
    exact ⟨inside.1, by omega⟩
  simp only [Estado.ocupados] at few
  omega

theorem enVuelo_pone (here : s.llamadas[i]? = some before) (chatId : Int) :
    (s.pone i l).enVuelo chatId + (before.enVuelo chatId).toNat =
      s.enVuelo chatId + (l.enVuelo chatId).toNat := by
  obtain ⟨inside, is⟩ := List.getElem?_eq_some_iff.mp here
  have counted : before.enVuelo chatId = true → 0 < s.llamadas.countP (Llamada.enVuelo chatId) := by
    intro flying
    exact List.countP_pos_iff.mpr ⟨before, List.mem_of_getElem? here, flying⟩
  simp only [Estado.enVuelo, Estado.pone, List.countP_set inside, is]
  cases was : before.enVuelo chatId with
  | false =>
    cases l.enVuelo chatId with
    | false => simp
    | true => simp; omega
  | true =>
    have some_ := counted was
    cases l.enVuelo chatId with
    | false => simp; omega
    | true => simp; omega

theorem Inv.pone (inv : Inv c s) (here : s.llamadas[i]? = some before)
    (room : ∀ chatId, l.enVuelo chatId = true → before.enVuelo chatId = true ∨ Hueco c s chatId)
    (sana : Sana c s.ahora l) : Inv c (s.pone i l) := by
  constructor
  case abiertas =>
    intro chatId t open_
    have counted := enVuelo_pone (l := l) here chatId
    have limit := inv.abiertas chatId t open_
    have window : (s.pone i l).enVentana c chatId t = s.enVentana c chatId t := rfl
    rw [window]
    cases flies : l.enVuelo chatId with
    | false =>
      rw [flies] at counted
      simp only [Bool.toNat_false] at counted
      omega
    | true =>
      rw [flies] at counted
      rcases room chatId flies with was | free
      · rw [was] at counted
        omega
      · have fewer := free t open_
        simp only [Bool.toNat_true] at counted
        omega
  case cerradas => exact inv.cerradas
  case sinAdelantos => exact inv.sinAdelantos
  case avisos => exact inv.avisos
  case llamadas =>
    intro k mem
    rcases List.mem_or_eq_of_mem_set mem with old | same
    · exact inv.llamadas k old
    · rw [same]
      exact sana

theorem Inv.intenta (inv : Inv c s) (past : s.deadline ≤ s.ahora) :
    Inv c { s with intentos := (s.ahora, s.deadline) :: s.intentos } := by
  refine ⟨inv.abiertas, inv.cerradas, ?_, inv.avisos, inv.llamadas⟩
  intro p mem
  rcases List.mem_cons.mp mem with same | old
  · rw [same]
    exact past
  · exact inv.sinAdelantos p old

theorem Inv.avisa (inv : Inv c s) {a d : Int} (later : s.deadline ≤ d) (kept : a ≤ d) :
    Inv c { s with deadline := d, avisos := a :: s.avisos } := by
  refine ⟨inv.abiertas, inv.cerradas, inv.sinAdelantos, ?_, inv.llamadas⟩
  intro b mem
  rcases List.mem_cons.mp mem with same | old
  · rw [same]
    exact kept
  · exact Int.le_trans (inv.avisos b old) later

theorem Inv.anota (inv : Inv c s) (sendTimes : Int → List Int) : Inv c { s with sendTimes } :=
  ⟨inv.abiertas, inv.cerradas, inv.sinAdelantos, inv.avisos, inv.llamadas⟩

theorem enVuelo_fin {r : Resultado} (chatId : Int) : (l.va (.fin r)).enVuelo chatId = false := by
  simp [Llamada.enVuelo, Llamada.va]

/-- A call that ends takes no room. -/
theorem Inv.acaba (inv : Inv c s) (here : s.llamadas[i]? = some before) {r : Resultado}
    (sana : Sana c s.ahora (l.va (.fin r))) : Inv c (s.pone i (l.va (.fin r))) := by
  refine inv.pone here ?_ sana
  intro chatId flies
  rw [enVuelo_fin] at flies
  cases flies

/-- What a call that may still sleep or fail has behind it. -/
structure Lista (c : Ajustes) (l : Llamada) (total : Int) : Prop where
  intento : l.intento ≤ maxReintentos429
  anteriores : ∀ n ∈ l.anteriores, n ≤ maxReintentos429 + 1
  positivo : 0 ≤ total
  cubierta : Cubierta c l total

theorem esSend_of_clase {n : Nat} (clase : l.clase = .send n) : l.esSend = true := by
  rw [Llamada.esSend, clase]

theorem lanzaLimite_fin (c : Ajustes) (ahora : Int) (l : Llamada) (x : Int) (agotado : Bool) :
    ∃ r, l.lanzaLimite c ahora x agotado = l.va (.fin r) ∧
      (l.esSend = true → r = .limite l.entregados x agotado) := by
  cases clase : l.clase with
  | send n => exact ⟨_, by simp [Llamada.lanzaLimite, clase], fun _ => rfl⟩
  | document =>
    simp only [Llamada.lanzaLimite, clase, Llamada.esSend]
    split
    · exact ⟨_, rfl, nofun⟩
    · exact ⟨_, rfl, nofun⟩
  | control p => exact ⟨.limite [] x agotado, by simp [Llamada.lanzaLimite, clase], by simp [Llamada.esSend, clase]⟩

/-- `TelegramRateLimitError` names the messages that the call created. -/
theorem Inv.limita (inv : Inv c s) (here : s.llamadas[i]? = some before)
    (tried : l.intento ≤ maxReintentos429 + 1) (earlier : ∀ n ∈ l.anteriores, n ≤ maxReintentos429 + 1)
    (made : l.esSend = true → l.creados = l.entregados ∧ l.dormida ≤ c.maxCooldownTotalTexto)
    (x : Int) (agotado : Bool) : Inv c (s.pone i (l.lanzaLimite c s.ahora x agotado)) := by
  obtain ⟨r, is, names⟩ := lanzaLimite_fin c s.ahora l x agotado
  rw [is]
  refine inv.acaba here ⟨tried, earlier, ?_⟩
  intro send
  refine ⟨(made send).2, ?_⟩
  intro ms y spent same
  rw [names send] at same
  cases same
  exact (made send).1.symm

theorem inv_esperar (inv : Inv c s) (here : s.llamadas[i]? = some before) {total : Int}
    (lista : Lista c l total)
    (room : l.esMensaje = true → before.enVuelo l.chatId = true ∨ Hueco c s l.chatId) :
    Inv c (s.esperar c i l total) := by
  have fits : ∀ k : Llamada, k.esMensaje = l.esMensaje → k.chatId = l.chatId → ∀ chatId,
      k.enVuelo chatId = true → before.enVuelo chatId = true ∨ Hueco c s chatId := by
    intro k same chat chatId flies
    simp only [Llamada.enVuelo, Bool.and_eq_true, decide_eq_true_eq] at flies
    rw [← flies.1.2, chat]
    exact room (same.symm.trans flies.1.1)
  simp only [Estado.esperar]
  split
  · rename_i past
    have moved : Inv c (s.pone i { l with
        cooldownAcumulado := l.cooldownAcumulado + total
        dormidoEnLlamada := l.dormidoEnLlamada + total
        intento := l.intento + 1
        fase := .vuelo none }) := by
      refine inv.pone here ?_ ⟨by simpa using lista.intento, lista.anteriores, ?_⟩
      · exact fits _ rfl rfl
      · intro send
        obtain ⟨made, slept, within, p, budget, left⟩ := lista.cubierta send
        exact ⟨by simpa using made, slept, within, p, budget, by dsimp only; omega⟩
    exact moved.intenta (by simp only [Estado.pone]; omega)
  · rename_i pending
    split
    · refine inv.limita here (Nat.le_succ_of_le lista.intento) lista.anteriores ?_ _ _
      intro send
      obtain ⟨made, slept, within, _⟩ := lista.cubierta send
      exact ⟨made, by omega⟩
    · rename_i enough
      refine inv.pone here ?_ ⟨Nat.le_succ_of_le lista.intento, lista.anteriores, ?_⟩
      · exact fits _ rfl rfl
      · refine ⟨lista.intento, lista.positivo, Int.le_refl _, by omega, lista.cubierta, ?_⟩
        intro send
        obtain ⟨_, _, within, p, budget, left⟩ := lista.cubierta send
        simp only [Llamada.excede, budget, Option.any_some, decide_eq_true_eq] at enough
        have positive := lista.positivo
        simp only [Llamada.va]
        omega

/-- A call between two messages. -/
structure Libre (c : Ajustes) (l : Llamada) : Prop where
  intento : l.intento ≤ maxReintentos429 + 1
  anteriores : ∀ n ∈ l.anteriores, n ≤ maxReintentos429 + 1
  cuenta : l.esSend = true → l.creados = l.entregados ∧ l.dormida = l.cooldownAcumulado ∧
    l.cooldownAcumulado ≤ c.maxCooldownTotalTexto

theorem inv_entra (inv : Inv c s) (here : s.llamadas[i]? = some before) (libre : Libre c l)
    (room : l.esMensaje = true → Hueco c s l.chatId) : Inv c (s.entra c i l) := by
  simp only [Estado.entra]
  refine inv_esperar inv here ⟨Nat.zero_le _, ?_, Int.le_refl _, ?_⟩ fun message => .inr (room message)
  · intro n mem
    rcases List.mem_cons.mp mem with same | old
    · rw [same]
      exact libre.intento
    · exact libre.anteriores n old
  · intro send
    obtain ⟨made, slept, within⟩ := libre.cuenta send
    cases clase : l.clase with
    | send n =>
      refine ⟨made, by dsimp only; omega, by dsimp only; omega, _, rfl, ?_⟩
      dsimp only
      omega
    | document => simp [Llamada.esSend, clase] at send
    | control p => simp [Llamada.esSend, clase] at send

theorem inv_waitForRateLimit (inv : Inv c s) (here : s.llamadas[i]? = some before) (libre : Libre c l)
    (room : s.revision c l.chatId = .pasa → Hueco c s l.chatId) :
    Inv c (s.waitForRateLimit c i l) := by
  have pruned := inv.anota (Function.update s.sendTimes l.chatId (s.podada c l.chatId))
  simp only [Estado.waitForRateLimit]
  split
  · rename_i passes
    exact inv_entra pruned here libre fun _ => room passes
  · refine pruned.pone here ?_ ⟨libre.intento, libre.anteriores, libre.cuenta⟩
    intro chatId flies
    simp [Llamada.enVuelo, Llamada.va] at flies
  · refine pruned.acaba here ⟨libre.intento, libre.anteriores, ?_⟩
    intro send
    have within := libre.cuenta send
    exact ⟨by simp only [Llamada.va]; omega, nofun⟩

theorem inv_corre (inv : Inv c s) (here : s.llamadas[i]? = some l) (libre : Libre c l)
    (ok : permite c s (.corre i) = true) : Inv c (s.corre c i l) := by
  simp only [permite, here, Bool.or_eq_true, Bool.not_eq_true', beq_iff_eq, bne_iff_ne, ne_eq,
    decide_eq_true_eq] at ok
  have message : l.esMensaje = true → Inv c
      (if l.quedan = 0 then s.pone i (l.va (.fin .sendError)) else s.waitForRateLimit c i l) := by
    intro message
    split
    · refine inv.acaba here ⟨libre.intento, libre.anteriores, ?_⟩
      intro send
      have within := libre.cuenta send
      exact ⟨by simp only [Llamada.va]; omega, nofun⟩
    · rename_i more
      refine inv_waitForRateLimit inv here libre ?_
      intro passes
      rcases ok with ((control | none_) | sleeps) | few
      · rw [message] at control
        cases control
      · exact absurd none_ more
      · exact absurd passes sleeps
      · exact hueco_of_ocupados few
  simp only [Estado.corre]
  cases clase : l.clase with
  | control p =>
    refine inv_entra inv here libre ?_
    intro message
    simp [Llamada.esMensaje, clase] at message
  | send n => exact message (by simp [Llamada.esMensaje, clase])
  | document => exact message (by simp [Llamada.esMensaje, clase])

theorem Sana.libre {ahora : Int} (sana : Sana c ahora l)
    (idle : l.fase = .porEmpezar ∨ ∃ hasta, l.fase = .local_ hasta) : Libre c l := by
  refine ⟨sana.intento, sana.anteriores, ?_⟩
  have counted := sana.fase
  rcases idle with phase | ⟨hasta, phase⟩
  · simpa only [EnFase, phase] using counted
  · simpa only [EnFase, phase] using counted

theorem inv_despierta {antes hasta total : Int} (inv : Inv c s) (here : s.llamadas[i]? = some l)
    (phase : l.fase = .cooldown antes hasta total) (now : hasta = s.ahora) :
    Inv c (s.esperar c i { l with dormida := l.dormida + (hasta - antes) } (total + (hasta - antes))) := by
  have sana := inv.llamadas l (List.mem_of_getElem? here)
  have asleep := sana.fase
  simp only [EnFase, phase] at asleep
  obtain ⟨tried, positive, since, _, covered, within⟩ := asleep
  refine inv_esperar inv here ⟨tried, sana.anteriores, by omega, ?_⟩ ?_
  · intro send
    obtain ⟨made, slept, _, p, budget, left⟩ := covered send
    have fits := within send
    exact ⟨made, by dsimp only; omega, by dsimp only; omega, p, budget, left⟩
  · intro message
    left
    have message : l.esMensaje = true := message
    simp [Llamada.enVuelo, phase, message]

theorem publicar_deadline (c : Ajustes) (s : Estado) (r : Int) :
    s.deadline ≤ (s.publicar c r).deadline ∧
      s.ahora + min r c.sanidadMaxCooldown ≤ (s.publicar c r).deadline := by
  simp only [Estado.publicar]
  constructor
  · omega
  · omega

theorem inv_limitado {cuerpo : Lectura} {cabecera : Option Int} (inv : Inv c s)
    (here : s.llamadas[i]? = some l) (phase : l.fase = .vuelo none) (fits : cuerpo ≠ .desborda) :
    Inv c (s.limitado c i l cuerpo cabecera) := by
  have sana := inv.llamadas l (List.mem_of_getElem? here)
  have flown := sana.fase
  simp only [EnFase, phase, Option.toList_none, List.append_nil] at flown
  simp only [Estado.limitado]
  split
  · rename_i overflows
    cases cuerpo with
    | desborda => exact absurd rfl fits
    | _ => cases overflows
  · rename_i r read
    obtain ⟨later, kept⟩ := publicar_deadline c s r
    have told := inv.avisa later kept
    have again : Inv c (if l.intento = maxReintentos429 + 1 ∨ c.retryAfterMax < r then
        Estado.pone { s.publicar c r with avisos := (s.ahora + min r c.sanidadMaxCooldown) :: s.avisos } i
          (l.lanzaLimite c s.ahora r (l.excede r))
        else Estado.esperar c { s.publicar c r with
          avisos := (s.ahora + min r c.sanidadMaxCooldown) :: s.avisos } i l 0) := by
      split
      · refine told.limita here sana.intento sana.anteriores ?_ r (l.excede r)
        intro send
        obtain ⟨made, slept, within, _⟩ := flown send
        exact ⟨made, by omega⟩
      · rename_i goes
        have tried := sana.intento
        refine inv_esperar told here ⟨by omega, sana.anteriores, Int.le_refl _, ?_⟩ ?_
        · intro send
          obtain ⟨made, slept, within, left⟩ := flown send
          exact ⟨made, by omega, by omega, left⟩
        · intro message
          left
          simp [Llamada.enVuelo, phase, message]
    cases clase : l.clase with
    | control p =>
      refine told.acaba here ⟨sana.intento, sana.anteriores, ?_⟩
      intro send
      have send : l.esSend = true := send
      simp [Llamada.esSend, clase] at send
    | send n => exact again
    | document => exact again

theorem inv_recordSend {m : TelegramMessage} (inv : Inv c s) (here : s.llamadas[i]? = some l)
    (phase : l.fase = .vuelo (some m)) : Inv c (s.recordSend i l m) := by
  have sana := inv.llamadas l (List.mem_of_getElem? here)
  have flown := sana.fase
  simp only [EnFase, phase, Option.toList_some] at flown
  have noted := inv.anota (Function.update s.sendTimes l.chatId (s.sendTimes l.chatId ++ [s.ahora]))
  simp only [Estado.recordSend]
  cases clase : l.clase with
  | send n =>
    obtain ⟨made, slept, within, _⟩ := flown (esSend_of_clase clase)
    by_cases last : l.quedan = 1
    · simp only [if_pos last]
      refine noted.pone here ?_ ⟨sana.intento, sana.anteriores, ?_⟩
      · intro chatId flies
        simp [Llamada.enVuelo] at flies
      · intro _
        exact ⟨by dsimp only; omega, nofun⟩
    · simp only [if_neg last]
      refine noted.pone here ?_ ⟨sana.intento, sana.anteriores, ?_⟩
      · intro chatId flies
        simp [Llamada.enVuelo] at flies
      · intro _
        exact ⟨made, slept, within⟩
  | document =>
    refine noted.acaba here ⟨sana.intento, sana.anteriores, ?_⟩
    intro send
    have send : l.esSend = true := send
    simp [Llamada.esSend, clase] at send
  | control p =>
    refine noted.acaba here ⟨sana.intento, sana.anteriores, ?_⟩
    intro send
    have send : l.esSend = true := send
    simp [Llamada.esSend, clase] at send

/-- A call ends by something else than `TelegramRateLimitError`. -/
theorem Inv.termina (inv : Inv c s) (here : s.llamadas[i]? = some l) {creado : Option TelegramMessage}
    (phase : l.fase = .vuelo creado) {r : Resultado} (other : ∀ ms x agotado, r ≠ .limite ms x agotado) :
    Inv c (s.pone i (l.va (.fin r))) := by
  have sana := inv.llamadas l (List.mem_of_getElem? here)
  have flown := sana.fase
  simp only [EnFase, phase] at flown
  refine inv.acaba here ⟨sana.intento, sana.anteriores, ?_⟩
  intro send
  obtain ⟨_, slept, within, _⟩ := flown send
  refine ⟨by simp only [Llamada.va]; omega, ?_⟩
  intro ms x agotado same
  exact absurd same (other ms x agotado)

theorem responde_cases {r : Respuesta} {t : Estado} (moved : s.responde c i l r = some t) :
    (∃ fin, t = s.pone i (l.va (.fin fin)) ∧ (∃ creado, l.fase = .vuelo creado) ∧
        ∀ ms x agotado, fin ≠ .limite ms x agotado) ∨
      (∃ m, l.fase = .vuelo (some m) ∧ t = s.recordSend i l m) ∨
      ∃ cuerpo cabecera, r = .limitado cuerpo cabecera ∧ l.fase = .vuelo none ∧
        t = s.limitado c i l cuerpo cabecera := by
  cases phase : l.fase with
  | vuelo creado =>
    cases r with
    | limitado cuerpo cabecera =>
      cases creado with
      | none =>
        simp only [Estado.responde, phase] at moved
        cases moved
        exact .inr (.inr ⟨cuerpo, cabecera, rfl, rfl, rfl⟩)
      | some m => simp [Estado.responde, phase] at moved
    | ok =>
      cases message : l.esMensaje with
      | false =>
        simp only [Estado.responde, phase, message] at moved
        cases moved
        exact .inl ⟨_, rfl, ⟨_, rfl⟩, nofun⟩
      | true =>
        cases creado with
        | none => simp [Estado.responde, phase, message] at moved
        | some m =>
          simp only [Estado.responde, phase, message] at moved
          cases moved
          exact .inr (.inl ⟨m, rfl, rfl⟩)
    | _ =>
      left
      cases message : l.esMensaje with
      | false =>
        simp only [Estado.responde, phase, message] at moved
        cases moved
        exact ⟨_, rfl, ⟨_, rfl⟩, nofun⟩
      | true =>
        cases creado
        all_goals
          simp only [Estado.responde, phase, message] at moved
          cases moved
        all_goals exact ⟨_, rfl, ⟨_, rfl⟩, nofun⟩
  | _ =>
    cases r
    all_goals simp [Estado.responde, phase] at moved

theorem inv_responde {r : Respuesta} {t : Estado} (inv : Inv c s) (here : s.llamadas[i]? = some l)
    (ok : permite c s (.responde i r) = true) (moved : s.responde c i l r = some t) : Inv c t := by
  rcases responde_cases moved with
    ⟨fin, rfl, ⟨creado, phase⟩, other⟩ | ⟨m, phase, rfl⟩ | ⟨cuerpo, cabecera, rfl, phase, rfl⟩
  · exact inv.termina here phase other
  · exact inv_recordSend inv here phase
  · refine inv_limitado inv here phase ?_
    intro overflows
    rw [overflows] at ok
    cases ok

/-- The server accepts a message that was in flight. -/
theorem inv_acepta {u : Estado} {chatId : Int} (inv : Inv c s) (clock : u.ahora = s.ahora)
    (kept : u.aceptados = s.aceptados)
    (landed : ∀ k, u.enVuelo k + (if k = chatId then 1 else 0) = s.enVuelo k)
    (started : ∀ p ∈ u.intentos, p.2 ≤ p.1) (told : ∀ a ∈ u.avisos, a ≤ u.deadline)
    (sanas : ∀ l ∈ u.llamadas, Sana c u.ahora l) : Inv c (u.acepta chatId) := by
  have counted : ∀ k t, (u.acepta chatId).enVentana c k t = s.enVentana c k t +
      (if chatId = k ∧ t ≤ s.ahora ∧ s.ahora < t + c.rateLimitWindow then 1 else 0) := by
    intro k t
    simp only [Estado.enVentana, Estado.acepta, kept, clock, List.countP_cons, decide_eq_true_eq]
  have opened : ∀ k t, s.ahora < t + c.rateLimitWindow →
      (u.acepta chatId).enVentana c k t + u.enVuelo k ≤ c.rateLimit := by
    intro k t open_
    have limit := inv.abiertas k t open_
    have fewer := landed k
    rw [counted k t]
    by_cases same : k = chatId
    · rw [if_pos same] at fewer
      split
      · omega
      · omega
    · rw [if_neg same] at fewer
      rw [if_neg (fun h => same h.1.symm)]
      omega
  refine ⟨?_, ?_, started, told, sanas⟩
  · intro k t open_
    exact opened k t (clock ▸ open_)
  · intro k t
    by_cases open_ : s.ahora < t + c.rateLimitWindow
    · have limit := opened k t open_
      omega
    · rw [counted k t, if_neg (fun h => open_ h.2.2)]
      exact inv.cerradas k t

theorem inv_aceptaSuelto {chatId : Int} (inv : Inv c s) (loose : chatId ∈ s.sueltos) :
    Inv c (({ s with sueltos := s.sueltos.erase chatId } : Estado).acepta chatId) := by
  refine inv_acepta inv rfl rfl ?_ inv.sinAdelantos inv.avisos inv.llamadas
  intro k
  simp only [Estado.enVuelo, List.count_erase]
  by_cases same : k = chatId
  · subst same
    have some_ := List.count_pos_iff.mpr loose
    simp
    omega
  · have other : (chatId == k) = false := by simpa using fun h => same h.symm
    simp [same, other]

theorem inv_pierde {chatId : Int} (inv : Inv c s) :
    Inv c { s with sueltos := s.sueltos.erase chatId } := by
  refine ⟨?_, inv.cerradas, inv.sinAdelantos, inv.avisos, inv.llamadas⟩
  intro k t open_
  have limit := inv.abiertas k t open_
  have fewer : (s.sueltos.erase chatId).count k ≤ s.sueltos.count k :=
    List.erase_sublist.count_le k
  simp only [Estado.enVuelo, Estado.enVentana] at limit ⊢
  omega

theorem inv_crea {m : TelegramMessage} (inv : Inv c s) (here : s.llamadas[i]? = some l)
    (phase : l.fase = .vuelo none) (message : l.esMensaje = true) :
    Inv c ((s.pone i { l with creados := l.creados ++ [m], fase := .vuelo (some m) }).acepta
      l.chatId) := by
  have sana := inv.llamadas l (List.mem_of_getElem? here)
  have flown := sana.fase
  simp only [EnFase, phase, Option.toList_none, List.append_nil] at flown
  refine inv_acepta inv rfl rfl ?_ inv.sinAdelantos inv.avisos ?_
  · intro k
    have counted := enVuelo_pone
      (l := { l with creados := l.creados ++ [m], fase := .vuelo (some m) }) here k
    have was : (l.enVuelo k).toNat = if k = l.chatId then 1 else 0 := by
      simp only [Llamada.enVuelo, message, phase, Bool.true_and, Bool.and_true]
      by_cases same : k = l.chatId
      · simp [same]
      · have other : ¬ l.chatId = k := fun h => same h.symm
        simp [same, other]
    have is_ : Llamada.enVuelo k { l with creados := l.creados ++ [m], fase := .vuelo (some m) } =
        false := by
      simp [Llamada.enVuelo]
    rw [is_, was] at counted
    exact counted
  · intro k mem
    rcases List.mem_or_eq_of_mem_set mem with old | same
    · exact inv.llamadas k old
    · rw [same]
      refine ⟨sana.intento, sana.anteriores, ?_⟩
      intro send
      obtain ⟨made, slept, within, left⟩ := flown send
      exact ⟨by simp [made], slept, within, left⟩

theorem inv_corta {t : Estado} (inv : Inv c s) (here : s.llamadas[i]? = some l)
    (moved : s.corta i l = some t) : Inv c t := by
  have sana := inv.llamadas l (List.mem_of_getElem? here)
  have counted := sana.fase
  cases phase : l.fase with
  | porEmpezar =>
    simp only [EnFase, phase] at counted
    simp only [Estado.corta, phase] at moved
    cases moved
    refine inv.acaba here ⟨sana.intento, sana.anteriores, ?_⟩
    intro send
    obtain ⟨_, slept, within⟩ := counted send
    exact ⟨by simp only [Llamada.va]; omega, nofun⟩
  | local_ hasta =>
    simp only [EnFase, phase] at counted
    simp only [Estado.corta, phase] at moved
    cases moved
    refine inv.acaba here ⟨sana.intento, sana.anteriores, ?_⟩
    intro send
    obtain ⟨_, slept, within⟩ := counted send
    exact ⟨by simp only [Llamada.va]; omega, nofun⟩
  | cooldown antes hasta total =>
    simp only [EnFase, phase] at counted
    simp only [Estado.corta, phase] at moved
    cases moved
    obtain ⟨_, _, since, until_, covered, enough⟩ := counted
    refine inv.pone here ?_ ⟨sana.intento, sana.anteriores, ?_⟩
    · intro chatId flies
      simp [Llamada.enVuelo] at flies
    · intro send
      obtain ⟨_, slept, _, _⟩ := covered send
      have fits := enough send
      exact ⟨by dsimp only; omega, nofun⟩
  | vuelo creado =>
    cases creado with
    | some m =>
      simp only [Estado.corta, phase] at moved
      cases moved
      exact inv.termina here phase nofun
    | none =>
      have ended := inv.termina (r := .otro) here phase nofun
      simp only [Estado.corta, phase] at moved
      cases moved
      refine ⟨?_, ended.cerradas, ended.sinAdelantos, ended.avisos, ended.llamadas⟩
      intro k u open_
      have limit := inv.abiertas k u open_
      have counted := enVuelo_pone (l := l.va (.fin .otro)) here k
      rw [enVuelo_fin] at counted
      have loose : (if l.esMensaje then l.chatId :: s.sueltos else s.sueltos).count k ≤
          s.sueltos.count k + (l.enVuelo k).toNat := by
        cases message : l.esMensaje with
        | false => simp
        | true =>
          simp only [if_true, List.count_cons, Llamada.enVuelo, message, phase, Bool.true_and,
            Bool.and_true]
          by_cases same : l.chatId = k
          · simp [same]
          · simp [same]
      simp only [Estado.enVuelo, Estado.enVentana, Estado.pone, Bool.toNat_false] at limit counted ⊢
      omega
  | fin r => simp [Estado.corta, phase] at moved

theorem Sana.mientras {ahora : Int} {d : Nat} (sana : Sana c ahora l)
    (waits : l.aguarda (ahora + d) = true) : Sana c (ahora + d) l := by
  refine ⟨sana.intento, sana.anteriores, ?_⟩
  have counted := sana.fase
  cases phase : l.fase with
  | cooldown antes hasta total =>
    simp only [Llamada.aguarda, phase, decide_eq_true_eq] at waits
    simp only [EnFase, phase] at counted ⊢
    obtain ⟨tried, positive, since, _, rest⟩ := counted
    exact ⟨tried, positive, by omega, waits, rest⟩
  | _ =>
    simp only [EnFase, phase] at counted ⊢
    exact counted

theorem inv_pasa {d : Nat} (inv : Inv c s)
    (waits : s.llamadas.all (Llamada.aguarda (s.ahora + d)) = true) :
    Inv c { s with ahora := s.ahora + d } := by
  refine ⟨?_, inv.cerradas, inv.sinAdelantos, inv.avisos, ?_⟩
  · intro k t open_
    exact inv.abiertas k t (by dsimp only at open_; omega)
  · intro l mem
    exact (inv.llamadas l mem).mientras (List.all_eq_true.mp waits l mem)

theorem inv_nueva (inv : Inv c s) (clase : Clase) (chatId : Int) :
    Inv c { s with llamadas := s.llamadas ++ [.nueva clase chatId s.ahora] } := by
  refine ⟨?_, inv.cerradas, inv.sinAdelantos, inv.avisos, ?_⟩
  · intro k t open_
    have limit := inv.abiertas k t open_
    simpa [Estado.enVuelo, Estado.enVentana, Llamada.enVuelo, Llamada.nueva] using limit
  · intro l mem
    rcases List.mem_append.mp mem with old | new
    · exact inv.llamadas l old
    · rw [List.mem_singleton.mp new]
      refine ⟨Nat.zero_le _, nofun, ?_⟩
      intro _
      exact ⟨rfl, rfl, Int.natCast_nonneg _⟩

theorem inv_inicial (c : Ajustes) (ahora : Int) : Inv c (.inicial ahora) := by
  constructor
  case abiertas =>
    intro chatId t _
    simp [Estado.enVentana, Estado.enVuelo, Estado.inicial]
  case cerradas =>
    intro chatId t
    simp [Estado.enVentana, Estado.inicial]
  all_goals
    intro x mem
    cases mem

theorem inv_step {e : Evento} {t : Estado} (inv : Inv c s) (ok : permite c s e = true)
    (moved : step c s e = some t) : Inv c t := by
  cases e with
  | pasa d =>
    simp only [step] at moved
    split at moved
    · rename_i waits
      cases moved
      exact inv_pasa inv waits
    · cases moved
  | nueva clase chatId =>
    cases moved
    exact inv_nueva inv clase chatId
  | corre i =>
    obtain ⟨l, here, moved⟩ := Option.bind_eq_some_iff.mp moved
    split at moved
    · rename_i phase
      cases moved
      have libre := (inv.llamadas l (List.mem_of_getElem? here)).libre (.inl phase)
      exact inv_corre inv here libre ok
    · cases moved
  | despierta i =>
    obtain ⟨l, here, moved⟩ := Option.bind_eq_some_iff.mp moved
    split at moved
    · rename_i hasta phase
      split at moved
      · cases moved
        simp only [permite, here, phase, decide_eq_true_eq] at ok
        have libre := (inv.llamadas l (List.mem_of_getElem? here)).libre (.inr ⟨hasta, phase⟩)
        exact inv_entra inv here libre fun _ => hueco_of_ocupados ok
      · cases moved
    · rename_i antes hasta total phase
      split at moved
      · rename_i now
        cases moved
        exact inv_despierta inv here phase now
      · cases moved
    · cases moved
  | acepta i messageId =>
    obtain ⟨l, here, moved⟩ := Option.bind_eq_some_iff.mp moved
    split at moved
    · rename_i phase message
      cases moved
      exact inv_crea inv here phase message
    · cases moved
  | aceptaSuelto chatId =>
    simp only [step] at moved
    split at moved
    · rename_i loose
      cases moved
      exact inv_aceptaSuelto inv loose
    · cases moved
  | pierde chatId =>
    simp only [step] at moved
    split at moved
    · cases moved
      exact inv_pierde inv
    · cases moved
  | responde i r =>
    obtain ⟨l, here, moved⟩ := Option.bind_eq_some_iff.mp moved
    exact inv_responde inv here ok moved
  | corta i =>
    obtain ⟨l, here, moved⟩ := Option.bind_eq_some_iff.mp moved
    exact inv_corta inv here moved

theorem esperar_deadline (c : Ajustes) (s : Estado) (i : Nat) (l : Llamada) (total : Int) :
    (s.esperar c i l total).deadline = s.deadline := by
  simp only [Estado.esperar]
  split
  · rfl
  · split
    · rfl
    · rfl

theorem corre_deadline (c : Ajustes) (s : Estado) (i : Nat) (l : Llamada) :
    (s.corre c i l).deadline = s.deadline := by
  have message : (if l.quedan = 0 then s.pone i (l.va (.fin .sendError))
      else s.waitForRateLimit c i l).deadline = s.deadline := by
    split
    · rfl
    · simp only [Estado.waitForRateLimit]
      split
      · exact esperar_deadline ..
      · rfl
      · rfl
  simp only [Estado.corre]
  split
  · exact esperar_deadline ..
  · exact message

theorem limitado_deadline (c : Ajustes) (s : Estado) (i : Nat) (l : Llamada) (cuerpo : Lectura)
    (cabecera : Option Int) : s.deadline ≤ (s.limitado c i l cuerpo cabecera).deadline := by
  simp only [Estado.limitado]
  split
  · exact Int.le_refl _
  · rename_i r _
    have later := (publicar_deadline c s r).1
    split
    · exact later
    · split
      · exact later
      · rw [esperar_deadline]
        exact later

/-- The shared deadline never moves back, whatever the step. -/
theorem step_deadline {e : Evento} {t : Estado} (moved : step c s e = some t) :
    s.deadline ≤ t.deadline := by
  cases e with
  | pasa d =>
    simp only [step] at moved
    split at moved
    · cases moved
      exact Int.le_refl _
    · cases moved
  | nueva clase chatId =>
    cases moved
    exact Int.le_refl _
  | corre i =>
    obtain ⟨l, here, moved⟩ := Option.bind_eq_some_iff.mp moved
    split at moved
    · cases moved
      exact Int.le_of_eq (corre_deadline c s i l).symm
    · cases moved
  | despierta i =>
    obtain ⟨l, here, moved⟩ := Option.bind_eq_some_iff.mp moved
    split at moved
    · split at moved
      · cases moved
        exact Int.le_of_eq (esperar_deadline ..).symm
      · cases moved
    · split at moved
      · cases moved
        exact Int.le_of_eq (esperar_deadline ..).symm
      · cases moved
    · cases moved
  | acepta i messageId =>
    obtain ⟨l, here, moved⟩ := Option.bind_eq_some_iff.mp moved
    split at moved
    · cases moved
      exact Int.le_refl _
    · cases moved
  | aceptaSuelto chatId =>
    simp only [step] at moved
    split at moved
    · cases moved
      exact Int.le_refl _
    · cases moved
  | pierde chatId =>
    simp only [step] at moved
    split at moved
    · cases moved
      exact Int.le_refl _
    · cases moved
  | responde i r =>
    obtain ⟨l, here, moved⟩ := Option.bind_eq_some_iff.mp moved
    rcases responde_cases moved with ⟨fin, rfl, _⟩ | ⟨m, _, rfl⟩ | ⟨cuerpo, cabecera, _, _, rfl⟩
    · exact Int.le_refl _
    · simp only [Estado.recordSend]
      split
      · exact Int.le_refl _
      · exact Int.le_refl _
    · exact limitado_deadline c s i l cuerpo cabecera
  | corta i =>
    obtain ⟨l, here, moved⟩ := Option.bind_eq_some_iff.mp moved
    simp only [Estado.corta] at moved
    split at moved
    · cases moved
    all_goals
      cases moved
      exact Int.le_refl _

theorem Sana.presupuesto {ahora : Int} (sana : Sana c ahora l) (send : l.esSend = true) :
    l.dormidaA ahora ≤ c.maxCooldownTotalTexto := by
  have counted := sana.fase
  cases phase : l.fase with
  | cooldown antes hasta total =>
    simp only [EnFase, phase] at counted
    simp only [Llamada.dormidaA, phase]
    obtain ⟨_, _, _, until_, covered, enough⟩ := counted
    obtain ⟨_, slept, _, _⟩ := covered send
    have fits := enough send
    omega
  | fin r =>
    simp only [EnFase, phase] at counted
    simp only [Llamada.dormidaA, phase]
    exact (counted send).1
  | _ =>
    simp only [EnFase, phase] at counted
    simp only [Llamada.dormidaA, phase]
    obtain ⟨_, slept, within⟩ := counted send
    omega

end

/-- In every run in which a message passes the check of its chat only while fewer than
`rate_limit` of the chat are in flight or were accepted in the last minute. -/
theorem limites_honrados (c : Ajustes) {s : Estado}
    (reached : Reaches (step c) (fun s => ∃ ahora, s = .inicial ahora) (fun s e => permite c s e = true) s) :
    Honrados c s := by
  have inv : Inv c s := by
    refine reached.invariant ?_ fun s e t inv ok moved => inv_step inv ok moved
    intro s first
    obtain ⟨ahora, rfl⟩ := first
    exact inv_inicial c ahora
  constructor
  case sinRetroceso =>
    intro e t moved
    exact step_deadline moved
  case sinAdelantos => exact inv.sinAdelantos
  case avisos => exact inv.avisos
  case intentos =>
    intro l mem n some_
    have sana := inv.llamadas l mem
    rcases List.mem_cons.mp some_ with same | earlier
    · rw [same]
      exact sana.intento
    · exact sana.anteriores n earlier
  case presupuesto =>
    intro l mem send
    exact (inv.llamadas l mem).presupuesto send
  case ventana => exact inv.cerradas
  case entregados =>
    intro l mem send ms r agotado ended
    have counted := (inv.llamadas l mem).fase
    simp only [EnFase, ended] at counted
    exact (counted send).2 ms r agotado rfl

/-- The second chunk of a message meets a 429 of 40 seconds. A button is not answered, and
a third message waits for the cooldown that the first call published. -/
def avisoDeCuarenta : List Evento :=
  [.nueva (.send 2) 7, .nueva (Ajustes.answerCallbackQuery ⟨1, 2⟩) 7, .corre 0, .acepta 0 11,
    .responde 0 .ok, .corre 0, .responde 0 (.limitado (.valor 40) none), .corre 1,
    .nueva (.send 1) 7, .corre 2, .pasa 40, .despierta 2, .acepta 2 12, .responde 2 .ok]

theorem limites_honrados_cuarenta :
    ∃ s, run (restricted (step ⟨1, 2⟩) (permite ⟨1, 2⟩)) (.inicial 100) avisoDeCuarenta = some s ∧
      s.llamadas.map Llamada.fase = [.fin (.limite [⟨7, 11⟩] 40 false), .fin (.limite [] 40 true),
        .fin (.devuelve (some ⟨7, 12⟩))] ∧ Honrados ⟨1, 2⟩ s := by
  have looks : (run (restricted (step ⟨1, 2⟩) (permite ⟨1, 2⟩)) (.inicial 100) avisoDeCuarenta).map
      (fun s => s.llamadas.map Llamada.fase) = some [.fin (.limite [⟨7, 11⟩] 40 false),
        .fin (.limite [] 40 true), .fin (.devuelve (some ⟨7, 12⟩))] := by
    decide
  obtain ⟨s, done, seen⟩ := Option.map_eq_some_iff.mp looks
  have reached : Reaches (step ⟨1, 2⟩) (fun s => ∃ ahora, s = .inicial ahora)
      (fun s e => permite ⟨1, 2⟩ s e = true) s :=
    .of_restricted_run (.start ⟨100, rfl⟩) done
  exact ⟨s, done, seen, limites_honrados ⟨1, 2⟩ reached⟩

/-- Two messages pass the check before either is recorded, and the limit is one. A
`retry_after` of a thousand digits is never published. -/
theorem rafaga_sobre_el_limite :
    (∃ s, run (step ⟨1, 1⟩) (.inicial 100) [.nueva (.send 1) 7, .nueva (.send 1) 7, .corre 0,
        .corre 1, .acepta 0 11, .acepta 1 12] = some s ∧ ¬ Honrados ⟨1, 1⟩ s) ∧
      ∃ s, run (step ⟨1, 1⟩) (.inicial 100) [.nueva (.send 1) 7, .corre 0,
        .responde 0 (.limitado .desborda none)] = some s ∧ ¬ Honrados ⟨1, 1⟩ s := by
  have burst : (run (step ⟨1, 1⟩) (.inicial 100) [.nueva (.send 1) 7, .nueva (.send 1) 7, .corre 0,
      .corre 1, .acepta 0 11, .acepta 1 12]).map (fun s => s.enVentana ⟨1, 1⟩ 7 100) = some 2 := by
    decide
  have unread : (run (step ⟨1, 1⟩) (.inicial 100) [.nueva (.send 1) 7, .corre 0,
      .responde 0 (.limitado .desborda none)]).map (fun s => (s.avisos, s.deadline)) =
        some ([86500], 0) := by
    decide
  constructor
  · obtain ⟨s, done, seen⟩ := Option.map_eq_some_iff.mp burst
    refine ⟨s, done, fun honoured => ?_⟩
    have limit := honoured.ventana 7 100
    rw [seen] at limit
    exact absurd limit (by decide)
  · obtain ⟨s, done, seen⟩ := Option.map_eq_some_iff.mp unread
    refine ⟨s, done, fun honoured => ?_⟩
    simp only [Prod.mk.injEq] at seen
    have kept := honoured.avisos 86500 (by simp [seen.1])
    rw [seen.2] at kept
    exact absurd kept (by decide)

end TelegramSender
