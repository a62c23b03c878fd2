import SkyClaw.TransitionRuns
import Mathlib.Logic.Function.Basic

set_option linter.all false

/-!
`TelegramSender`, in `telegram_sender.py`: any number of calls that share a cooldown and a
record of what was sent to each chat. The clock is monotonic and counts ticks of any
length. What a call does between two of its awaits is one step, and the server accepts a
message at any moment before its answer is read.
-/
namespace TelegramSender

/-- `segundo` is the number of ticks in a second. -/
structure Ajustes where
  segundo : Nat
  rateLimit : Nat
  deriving DecidableEq

variable (c : Ajustes)

def Ajustes.segundos (n : Nat) : Int := n * c.segundo

def Ajustes.rateLimitWindow : Int := c.segundos 60

def maxReintentos429 : Nat := 3

def Ajustes.retryAfterMax : Int := c.segundos 30

def Ajustes.sanidadMaxCooldown : Int := c.segundos 86400

def Ajustes.maxCooldownTotalTexto : Int := c.segundos 90

def Ajustes.presupuestoCallback : Int := c.segundos 10

def Ajustes.retryAfterPorDefecto : Int := c.segundos 1

/-- The 45 seconds are the deadline of a hop in the gateway. -/
def Ajustes.maxUploadTotal : Int := c.segundos (60 + (1 + maxReintentos429) * (45 + 2 * 30))

/-- `parameters.retry_after` of the body of a 429. `desborda` is an integer that `float`
cannot hold, and `ilegible` anything that is absent, not a number or not finite. -/
inductive Lectura where
  | ilegible
  | desborda
  | valor (x : Int)
  deriving DecidableEq

/-- `limitado` is a 429, with its body and its header. `malformado` is a 200 without a
`message_id` one can read. -/
inductive Respuesta where
  | ok
  | malformado
  | limitado (cuerpo : Lectura) (cabecera : Option Int)
  | error
  deriving DecidableEq

structure TelegramMessage where
  chatId : Int
  messageId : Int
  deriving DecidableEq

/-- `control` is `edit_message` and `answer_callback_query`. -/
inductive Clase where
  | send (trozos : Nat)
  | document
  | control (presupuesto : Option Int)
  deriving DecidableEq

def Ajustes.editMessage : Clase := .control (some c.maxCooldownTotalTexto)

def Ajustes.answerCallbackQuery : Clase := .control (some c.presupuestoCallback)

/-- How a call ends. `limite` is `TelegramRateLimitError`, and `otro` any exception that is
not the module's, a cancellation among them. -/
inductive Resultado where
  | devuelve (m : Option TelegramMessage)
  | limite (mensajesEntregados : List TelegramMessage) (retryAfter : Int) (presupuestoAgotado : Bool)
  | uploadTimeout
  | sendError
  | otro
  deriving DecidableEq

/-- `local_` sleeps in `_wait_for_rate_limit`, `cooldown` in `esperar`, since `antes` and
after `total` asleep. `vuelo` has sent its request, and the server has created a message
for it or not. -/
inductive Fase where
  | porEmpezar
  | local_ (hasta : Int)
  | cooldown (antes hasta total : Int)
  | vuelo (creado : Option TelegramMessage)
  | fin (r : Resultado)
  deriving DecidableEq

/-- `intento` counts the attempts of the present message. The last three fields are ghost
state: the attempts of the earlier ones, the messages that the server created for the call,
and how long it slept on cooldowns. -/
structure Llamada where
  clase : Clase
  chatId : Int
  inicio : Int
  fase : Fase
  quedan : Nat
  entregados : List TelegramMessage
  cooldownAcumulado : Int
  presupuesto : Option Int
  dormidoEnLlamada : Int
  intento : Nat
  anteriores : List Nat
  creados : List TelegramMessage
  dormida : Int
  deriving DecidableEq

/-- `sueltos` are the chats of the requests whose call is gone. The last three fields are
ghost state: when the server accepted a message and for which chat, when each attempt
started and what the deadline was, and until when each 429 asked to wait. -/
structure Estado where
  ahora : Int
  deadline : Int
  sendTimes : Int → List Int
  llamadas : List Llamada
  sueltos : List Int
  aceptados : List (Int × Int)
  intentos : List (Int × Int)
  avisos : List Int

def Estado.inicial (ahora : Int) : Estado where
  ahora
  deadline := 0
  sendTimes := fun _ => []
  llamadas := []
  sueltos := []
  aceptados := []
  intentos := []
  avisos := []

inductive Evento where
  | pasa (d : Nat)
  | nueva (clase : Clase) (chatId : Int)
  | corre (i : Nat)
  | despierta (i : Nat)
  | acepta (i : Nat) (messageId : Int)
  | aceptaSuelto (chatId : Int)
  | pierde (chatId : Int)
  | responde (i : Nat) (r : Respuesta)
  | corta (i : Nat)
  deriving DecidableEq

def Llamada.nueva (clase : Clase) (chatId ahora : Int) : Llamada where
  clase
  chatId
  inicio := ahora
  fase := .porEmpezar
  quedan := match clase with
    | .send trozos => trozos
    | _ => 1
  entregados := []
  cooldownAcumulado := 0
  presupuesto := none
  dormidoEnLlamada := 0
  intento := 0
  anteriores := []
  creados := []
  dormida := 0

def Llamada.va (l : Llamada) (fase : Fase) : Llamada := { l with fase }

def Llamada.esMensaje (l : Llamada) : Bool :=
  match l.clase with
  | .control _ => false
  | _ => true

def Estado.pone (s : Estado) (i : Nat) (l : Llamada) : Estado :=
  { s with llamadas := s.llamadas.set i l }

def Estado.acepta (s : Estado) (chatId : Int) : Estado :=
  { s with aceptados := (chatId, s.ahora) :: s.aceptados }

/-- `_como_segundos`, on the body. `none` is the `OverflowError` of `float`. -/
def comoSegundos : Lectura → Option (Option Int)
  | .ilegible => some none
  | .desborda => none
  | .valor x => some (if x < 0 then none else some x)

/-- `_retry_after_de`. The header is a text, and `float` gives an infinity for a large one. -/
def retryAfterDe (cuerpo : Lectura) (cabecera : Option Int) : Option Int :=
  (comoSegundos cuerpo).map fun candidato =>
    match candidato, cabecera with
    | some x, _ => x
    | none, some x => if x < 0 then c.retryAfterPorDefecto else x
    | none, none => c.retryAfterPorDefecto

/-- `CooldownCompartido.publicar`. -/
def Estado.publicar (s : Estado) (espera : Int) : Estado :=
  { s with deadline := max (s.ahora + min (max espera 0) c.sanidadMaxCooldown) s.deadline }

/-- A `TelegramRateLimitError` as it leaves the call. `send_document` reports its own
deadline where the wait does not fit in it. -/
def Llamada.lanzaLimite (ahora : Int) (l : Llamada) (retryAfter : Int) (agotado : Bool) : Llamada :=
  match l.clase with
  | .send _ => l.va (.fin (.limite l.entregados retryAfter agotado))
  | .document =>
    if agotado || decide (max 0 (c.maxUploadTotal - (ahora - l.inicio)) < retryAfter) then
      l.va (.fin .uploadTimeout)
    else l.va (.fin (.limite [] retryAfter agotado))
  | .control _ => l.va (.fin (.limite [] retryAfter agotado))

/-- Whether `espera` is more than what is left of the budget of `_enviar`. -/
def Llamada.excede (l : Llamada) (espera : Int) : Bool :=
  l.presupuesto.any fun p => decide (max 0 (p - l.dormidoEnLlamada) < espera)

/-- The loop of `CooldownCompartido.esperar` after `total` asleep, and the attempt that
follows without yielding. -/
def Estado.esperar (s : Estado) (i : Nat) (l : Llamada) (total : Int) : Estado :=
  let restante := s.deadline - s.ahora
  if restante ≤ 0 then
    { s.pone i { l with
        cooldownAcumulado := l.cooldownAcumulado + total
        dormidoEnLlamada := l.dormidoEnLlamada + total
        intento := l.intento + 1
        fase := .vuelo none } with
      intentos := (s.ahora, s.deadline) :: s.intentos }
  else if l.excede (total + restante) then s.pone i (l.lanzaLimite c s.ahora restante true)
  else s.pone i (l.va (.cooldown s.ahora (s.ahora + restante) total))

/-- A call that is free to send its next message, or its request. -/
def Estado.entra (s : Estado) (i : Nat) (l : Llamada) : Estado :=
  let presupuesto := match l.clase with
    | .send _ => some (max 0 (c.maxCooldownTotalTexto - l.cooldownAcumulado))
    | .document => some (max 0 (c.maxUploadTotal - (s.ahora - l.inicio)))
    | .control p => p
  s.esperar c i { l with
    presupuesto
    dormidoEnLlamada := 0
    intento := 0
    anteriores := l.intento :: l.anteriores } 0

def Estado.podada (s : Estado) (chatId : Int) : List Int :=
  (s.sendTimes chatId).dropWhile fun t => decide (c.rateLimitWindow < s.ahora - t)

/-- What `_wait_for_rate_limit` does. It raises `IndexError` for a limit of zero. -/
inductive Revision where
  | pasa
  | duerme (espera : Int)
  | falla
  deriving DecidableEq

def Estado.revision (s : Estado) (chatId : Int) : Revision :=
  if (s.podada c chatId).length < c.rateLimit then .pasa
  else match s.podada c chatId with
    | [] => .falla
    | t :: _ =>
      if 0 < c.rateLimitWindow - (s.ahora - t) then .duerme (c.rateLimitWindow - (s.ahora - t))
      else .pasa

/-- `_wait_for_rate_limit`, which does not look again after its sleep. -/
def Estado.waitForRateLimit (s : Estado) (i : Nat) (l : Llamada) : Estado :=
  let podado := { s with sendTimes := Function.update s.sendTimes l.chatId (s.podada c l.chatId) }
  match s.revision c l.chatId with
  | .pasa => podado.entra c i l
  | .duerme espera => podado.pone i (l.va (.local_ (s.ahora + espera)))
  | .falla => podado.pone i (l.va (.fin .otro))

/-- The next turn of the loop of `send`, or the whole of another call. -/
def Estado.corre (s : Estado) (i : Nat) (l : Llamada) : Estado :=
  match l.clase with
  | .control _ => s.entra c i l
  | _ => if l.quedan = 0 then s.pone i (l.va (.fin .sendError)) else s.waitForRateLimit c i l

/-- A 429, for which `_enviar` tries again and `control` does not. -/
def Estado.limitado (s : Estado) (i : Nat) (l : Llamada) (cuerpo : Lectura) (cabecera : Option Int) :
    Estado :=
  match retryAfterDe c cuerpo cabecera with
  | none =>
    { s.pone i (l.va (.fin .otro)) with avisos := (s.ahora + c.sanidadMaxCooldown) :: s.avisos }
  | some r =>
    let s := { s.publicar c r with avisos := (s.ahora + min r c.sanidadMaxCooldown) :: s.avisos }
    match l.clase with
    | .control _ => s.pone i (l.va (.fin (.devuelve none)))
    | _ =>
      if l.intento = maxReintentos429 + 1 ∨ c.retryAfterMax < r then
        s.pone i (l.lanzaLimite c s.ahora r (l.excede r))
      else s.esperar c i l 0

/-- `_record_send`, and what the call does with its message. -/
def Estado.recordSend (s : Estado) (i : Nat) (l : Llamada) (m : TelegramMessage) : Estado :=
  let s := { s with
    sendTimes := Function.update s.sendTimes l.chatId (s.sendTimes l.chatId ++ [s.ahora]) }
  match l.clase with
  | .send _ =>
    s.pone i { l with
      entregados := l.entregados ++ [m]
      quedan := l.quedan - 1
      fase := if l.quedan = 1 then .fin (.devuelve (some m)) else .porEmpezar }
  | _ => s.pone i (l.va (.fin (.devuelve (some m))))

/-- The answer that the server gives agrees with what it did. -/
def Estado.responde (s : Estado) (i : Nat) (l : Llamada) : Respuesta → Option Estado
  | .limitado cuerpo cabecera =>
    match l.fase with
    | .vuelo none => some (s.limitado c i l cuerpo cabecera)
    | _ => none
  | r =>
    match l.fase, l.esMensaje, r with
    | .vuelo _, false, _ => some (s.pone i (l.va (.fin (.devuelve none))))
    | .vuelo (some m), true, .ok => some (s.recordSend i l m)
    | .vuelo (some _), true, .malformado => some (s.pone i (l.va (.fin .sendError)))
    | .vuelo none, true, .error => some (s.pone i (l.va (.fin .sendError)))
    | _, _, _ => none

/-- A cancellation, the deadline of an upload or an error of the gateway. The request that
was sent may still arrive. -/
def Estado.corta (s : Estado) (i : Nat) (l : Llamada) : Option Estado :=
  match l.fase with
  | .fin _ => none
  | .cooldown antes _ _ =>
    some (s.pone i { l with dormida := l.dormida + (s.ahora - antes), fase := .fin .otro })
  | .vuelo none =>
    let sueltos := if l.esMensaje then l.chatId :: s.sueltos else s.sueltos
    some { s.pone i (l.va (.fin .otro)) with sueltos }
  | _ => some (s.pone i (l.va (.fin .otro)))

/-- The sleep of the call, if it sleeps, is not over before `t`. -/
def Llamada.aguarda (t : Int) (l : Llamada) : Bool :=
  match l.fase with
  | .local_ hasta => decide (t ≤ hasta)
  | .cooldown _ hasta _ => decide (t ≤ hasta)
  | _ => true

def step (s : Estado) : Evento → Option Estado
  | .pasa d =>
    if s.llamadas.all (Llamada.aguarda (s.ahora + d)) then some { s with ahora := s.ahora + d }
    else none
  | .nueva clase chatId => some { s with llamadas := s.llamadas ++ [.nueva clase chatId s.ahora] }
  | .corre i => s.llamadas[i]?.bind fun l =>
    match l.fase with
    | .porEmpezar => some (s.corre c i l)
    | _ => none
  | .despierta i => s.llamadas[i]?.bind fun l =>
    match l.fase with
    | .local_ hasta => if hasta = s.ahora then some (s.entra c i l) else none
    | .cooldown antes hasta total =>
      if hasta = s.ahora then
        some (s.esperar c i { l with dormida := l.dormida + (hasta - antes) } (total + (hasta - antes)))
      else none
    | _ => none
  | .acepta i messageId => s.llamadas[i]?.bind fun l =>
    match l.fase, l.esMensaje with
    | .vuelo none, true =>
      let m : TelegramMessage := ⟨l.chatId, messageId⟩
      some ((s.pone i { l with creados := l.creados ++ [m], fase := .vuelo (some m) }).acepta l.chatId)
    | _, _ => none
  | .aceptaSuelto chatId =>
    if chatId ∈ s.sueltos then
      some (({ s with sueltos := s.sueltos.erase chatId } : Estado).acepta chatId)
    else none
  | .pierde chatId =>
    if chatId ∈ s.sueltos then some { s with sueltos := s.sueltos.erase chatId } else none
  | .responde i r => s.llamadas[i]?.bind fun l => s.responde c i l r
  | .corta i => s.llamadas[i]?.bind fun l => s.corta i l

end TelegramSender
