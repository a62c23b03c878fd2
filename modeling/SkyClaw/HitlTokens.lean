import Mathlib.Data.Finset.Basic
import Mathlib.Data.List.AList
import SkyClaw.TransitionRuns
import SkyClaw.Utf8Text

set_option linter.all false

/-!
`TelegramHITLMessageRegistry`, in `telegram.py`: the opaque tokens of the
buttons of the requests. What a call does under the lock has no await in it, so
each call is one step, and a press asks the guard in the step that resolves its
token.
-/
namespace HitlTokens
open TransitionRuns Utf8Text

abbrev Texto := List CodePoint

def texto (s : String) : Texto := s.toList.map .scalar

abbrev Mapa (α : Type) := AList fun _ : Texto => α

/-! Callback data -/

def hitlTokenAlphabet : List Char :=
  "ABCDEFGHIJKLMNOPQRSTUVWXYZabcdefghijklmnopqrstuvwxyz0123456789_-".toList

def hitlCallbackNamespace : Texto := texto "hitl"

def hitlCallbackActions : List Texto := [texto "approve", texto "deny"]

def isValidHitlToken (token : Texto) : Bool :=
  !token.isEmpty && token.all fun character => hitlTokenAlphabet.any fun c => decide (character = .scalar c)

inductive Error where
  -- `ValueError`
  | requestVacio
  | accion
  | tokenInvalido
  | largo
  -- `UnicodeEncodeError`
  | codificacion
  -- those of the registry
  | duplicate
  | full
  | collision
  | invalido
  | noReservado
  deriving DecidableEq

def dosPuntos : CodePoint := .scalar ':'

def buildHitlCallbackData (action token : Texto) : Except Error Texto :=
  if action ∉ hitlCallbackActions then .error .accion
  else if !isValidHitlToken token then .error .tokenInvalido
  else
    let data := hitlCallbackNamespace ++ dosPuntos :: action ++ dosPuntos :: token
    match encode data with
    | none => .error .codificacion
    | some bytes => if 1 ≤ bytes.length ∧ bytes.length ≤ 64 then .ok data else .error .largo

def parseHitlCallbackData (data : Texto) : Option (Texto × Texto) :=
  match data.splitOn dosPuntos with
  | [name, action, token] =>
    if name ≠ hitlCallbackNamespace ∨ action ∉ hitlCallbackActions ∨ isValidHitlToken token = false then none
    else
      match encode data with
      | none => none
      | some bytes => if 1 ≤ bytes.length ∧ bytes.length ≤ 64 then some (action, token) else none
  | _ => none

/-! The registry -/

structure TelegramHITLMessage where
  chatId : Int
  messageId : Int
  sender : Nat
  token : Texto
  deriving DecidableEq

structure Registry where
  maxEntries : Nat
  maxTokenAttempts : Nat
  entries : Mapa TelegramHITLMessage
  tokenToRequest : Mapa Texto
  registeredTokens : Mapa Texto
  requestToToken : Mapa Texto
  -- the oldest first
  retiredTokens : List Texto
  retiredTokenSet : Finset Texto

def Registry.nuevo (maxEntries maxTokenAttempts : Nat) : Registry where
  maxEntries := maxEntries
  maxTokenAttempts := maxTokenAttempts
  entries := ∅
  tokenToRequest := ∅
  registeredTokens := ∅
  requestToToken := ∅
  retiredTokens := []
  retiredTokenSet := ∅

/-- What one call of `token_factory` gives: a string, another object or an exception. -/
inductive Generado where
  | texto (token : Texto)
  | otro
  | falla

def Registry.libre (s : Registry) (token : Texto) : Bool :=
  (s.tokenToRequest.lookup token).isNone && (s.registeredTokens.lookup token).isNone &&
    decide (token ∉ s.retiredTokenSet)

/-- The attempts that are left, from the call number `k` of the generator. -/
def Registry.busca (s : Registry) (tokenFactory : Nat → Generado) : Nat → Nat → Except Error Texto
  | 0, _ => .error .collision
  | attempts + 1, k =>
    match tokenFactory k with
    | .falla => .error .collision
    | .otro => s.busca tokenFactory attempts (k + 1)
    | .texto token =>
      if isValidHitlToken token && s.libre token then .ok token else s.busca tokenFactory attempts (k + 1)

def reserveTokenLocked (tokenFactory : Nat → Generado) (requestId : Texto) (s : Registry) :
    Except Error Texto × Registry :=
  if (s.requestToToken.lookup requestId).isSome then (.error .duplicate, s)
  else if s.maxEntries ≤ s.requestToToken.entries.length then (.error .full, s)
  else
    match s.busca tokenFactory s.maxTokenAttempts 0 with
    | .error e => (.error e, s)
    | .ok token => (.ok token, { s with
        requestToToken := s.requestToToken.insert requestId token
        tokenToRequest := s.tokenToRequest.insert token requestId })

def reserveToken (tokenFactory : Nat → Generado) (requestId : Texto) (s : Registry) :
    Except Error Texto × Registry :=
  if requestId = [] then (.error .requestVacio, s) else reserveTokenLocked tokenFactory requestId s

def retireTokenLocked (token : Texto) (s : Registry) : Registry :=
  if token ∈ s.retiredTokenSet then s
  else
    let s := if s.retiredTokens.length = s.maxEntries then
        match s.retiredTokens with
        | oldest :: rest => { s with retiredTokens := rest, retiredTokenSet := s.retiredTokenSet.erase oldest }
        | [] => s
      else s
    { s with retiredTokens := s.retiredTokens ++ [token], retiredTokenSet := insert token s.retiredTokenSet }

def releaseToken (token : Texto) (s : Registry) : Bool × Registry :=
  match s.tokenToRequest.lookup token with
  | none => (false, s)
  | some requestId =>
    let s := { s with tokenToRequest := s.tokenToRequest.erase token }
    let s := if s.requestToToken.lookup requestId = some token then
        { s with requestToToken := s.requestToToken.erase requestId }
      else s
    (true, retireTokenLocked token s)

/-- An empty request is as good as none to `or`. -/
def resolveToken (token : Texto) (s : Registry) : Option Texto :=
  match s.tokenToRequest.lookup token with
  | some (r :: request) => some (r :: request)
  | _ => s.registeredTokens.lookup token

/-- The entry of a message whose token is reserved for its request. -/
def inscribe (requestId : Texto) (m : TelegramHITLMessage) (s : Registry) : Registry :=
  { s with
    tokenToRequest := s.tokenToRequest.erase m.token
    registeredTokens := s.registeredTokens.insert m.token requestId
    entries := s.entries.insert requestId m }

def register (tokenFactory : Nat → Generado) (requestId : Texto) (chatId messageId : Int) (sender : Nat)
    (token : Option Texto) (s : Registry) : Except Error Texto × Registry :=
  if requestId = [] then (.error .requestVacio, s)
  else if (s.entries.lookup requestId).isSome then (.error .duplicate, s)
  else
    match token with
    | none =>
      if (s.requestToToken.lookup requestId).isSome then (.error .duplicate, s)
      else
        match reserveTokenLocked tokenFactory requestId s with
        | (.error e, s) => (.error e, s)
        | (.ok token, s) => (.ok token, inscribe requestId ⟨chatId, messageId, sender, token⟩ s)
    | some token =>
      if !isValidHitlToken token then (.error .invalido, s)
      else if s.requestToToken.lookup requestId ≠ some token ∨ s.tokenToRequest.lookup token ≠ some requestId then
        (.error .noReservado, s)
      else (.ok token, inscribe requestId ⟨chatId, messageId, sender, token⟩ s)

def pop (requestId : Texto) (s : Registry) : Option TelegramHITLMessage × Registry :=
  let reference := s.entries.lookup requestId
  let s := { s with entries := s.entries.erase requestId }
  match s.requestToToken.lookup requestId with
  | none => (reference, s)
  | some token =>
    (reference, retireTokenLocked token { s with
      requestToToken := s.requestToToken.erase requestId
      tokenToRequest := s.tokenToRequest.erase token
      registeredTokens := s.registeredTokens.erase token })

def clear (s : Registry) : Registry := .nuevo s.maxEntries s.maxTokenAttempts

/-! Presses -/

/-- A callback query: whether its shape and its operator are accepted, and its data, if it is a string. -/
structure CallbackQuery where
  formaValida : Bool
  privateOperator : Bool
  conChatYMensaje : Bool
  data : Option Texto

/-- The call of `HITLGuard.respond` that a press makes, where there are a guard and a registry. -/
def handleCallbackQuery (query : CallbackQuery) (s : Registry) : Option (Texto × Bool) :=
  if !query.formaValida || !query.privateOperator || !query.conChatYMensaje then none
  else
    match query.data.bind parseHitlCallbackData with
    | none => none
    | some (action, token) => (resolveToken token s).map fun requestId => (requestId, decide (action = texto "approve"))

/-! Runs -/

inductive Suceso where
  | entrega (token requestId : Texto)
  | retira (token : Texto)
  | limpia
  deriving DecidableEq

/-- The registry with what has happened to its tokens, the last first. -/
structure Estado where
  registry : Registry
  historial : List Suceso

inductive Evento where
  | reserveToken (tokenFactory : Nat → Generado) (requestId : Texto)
  | register (tokenFactory : Nat → Generado) (requestId : Texto) (chatId messageId : Int) (sender : Nat)
      (token : Option Texto)
  | releaseToken (token : Texto)
  | resolveToken (token : Texto)
  | pop (requestId : Texto)
  | clear
  | presiona (query : CallbackQuery)

/-- The new state, and what it gives out: a token that was free before is given out now. -/
def Estado.entrega (s : Estado) (requestId : Texto) : Except Error Texto × Registry → Estado
  | (.ok token, r) =>
    ⟨r, if (s.registry.requestToToken.lookup requestId).isSome then s.historial
      else .entrega token requestId :: s.historial⟩
  | (.error _, r) => ⟨r, s.historial⟩

def step (s : Estado) : Evento → Option Estado
  | .reserveToken tokenFactory requestId => some (s.entrega requestId (reserveToken tokenFactory requestId s.registry))
  | .register tokenFactory requestId chatId messageId sender token =>
    some (s.entrega requestId (register tokenFactory requestId chatId messageId sender token s.registry))
  | .releaseToken token =>
    match releaseToken token s.registry with
    | (true, r) => some ⟨r, .retira token :: s.historial⟩
    | (false, r) => some ⟨r, s.historial⟩
  | .resolveToken _ => some s
  | .pop requestId =>
    some ⟨(pop requestId s.registry).2,
      match s.registry.requestToToken.lookup requestId with
      | some token => .retira token :: s.historial
      | none => s.historial⟩
  | .clear => some ⟨clear s.registry, .limpia :: s.historial⟩
  | .presiona _ => some s

def Inicio (s : Estado) : Prop :=
  ∃ maxEntries maxTokenAttempts, 0 < maxEntries ∧ 0 < maxTokenAttempts ∧
    s = ⟨.nuevo maxEntries maxTokenAttempts, []⟩

end HitlTokens
