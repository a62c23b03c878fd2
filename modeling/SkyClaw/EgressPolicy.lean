import Mathlib

set_option linter.all false

/-!
`NetworkGateway.request`, in `network_gateway.py`, follows the redirects of a
server hop by hop. What it needs of `urlparse`, of `ipaddress` and of `str` is
in `Stdlib` and may be anything.
-/
namespace NetworkGateway

/-- The parts of a URL that the gateway reads. -/
structure ParseResult where
  scheme : String
  netloc : String
  path : String
  hostname : Option String
  deriving DecidableEq

structure IpFlags where
  isPrivate : Bool
  isLoopback : Bool
  isLinkLocal : Bool
  isMulticast : Bool
  isReserved : Bool
  isUnspecified : Bool
  deriving DecidableEq

structure IpAddress where
  flags : IpFlags
  ipv4Mapped : Option IpFlags
  deriving DecidableEq

/-- `none` stands for the `ValueError` of a text that is not a URL or not an address. -/
structure Stdlib where
  urlparse : String → Option ParseResult
  ipAddress : String → Option IpAddress
  lower : String → String
  upper : String → String
  isspace : Char → Bool

/-- `allowedHosts` is the frozen set in the order in which it is iterated. -/
structure EgressPolicy where
  allowedHosts : List String
  allowedMethods : List (String × List String)
  telegramPathPrefix : String
  blockPrivateIps : Bool

/-- The messages of `EgressViolationError`, with what each of them quotes. -/
inductive EgressViolation where
  | whitespace
  | controlCharacters (url : String)
  | strictPrefix (url : String)
  | malformedAuthority (url : String)
  | noHostname (url : String)
  | literalAddress (host : String)
  | redirectTarget (host : String)
  | insecureScheme (scheme : String)
  | hostNotAllowed (host : String)
  | methodNotAllowed (method pattern : String)
  | telegramPath (path pathPrefix : String)
  | maximumRedirects (maxRedirects : Int) (url : String)
  deriving DecidableEq

def IpFlags.blocked (f : IpFlags) : Bool :=
  f.isPrivate || f.isLoopback || f.isLinkLocal || f.isMulticast || f.isReserved || f.isUnspecified

/-- `_is_blocked_ip`. -/
def IpAddress.isBlockedIp (addr : IpAddress) : Bool := (addr.ipv4Mapped.getD addr.flags).blocked

abbrev Headers := List (String × String)

/-- `_SENSITIVE_REDIRECT_HEADERS`. -/
def sensitiveRedirectHeaders : List String :=
  ["authorization", "proxy-authorization", "cookie", "apikey", "x-api-key", "x-subscription-token"]

def stripSensitiveHeaders (lib : Stdlib) (headers : Headers) : Headers :=
  headers.filter fun (k, _) => lib.lower k ∉ sensitiveRedirectHeaders

def ParseResult.host (lib : Stdlib) (parsed : ParseResult) : String :=
  lib.lower (parsed.hostname.getD "")

/-! Checks -/

section
variable (lib : Stdlib) (policy : EgressPolicy)

def isLoopbackHost (hostname : String) : Bool :=
  if hostname = "" then false
  else if lib.lower hostname ∈ ["localhost", "127.0.0.1", "::1"] then true
  else match lib.ipAddress (lib.lower hostname) with
    | some addr => addr.flags.isLoopback
    | none => false

def checkSchemeAllowed (parsed : ParseResult) : Except EgressViolation Unit :=
  if parsed.scheme = "https" then .ok ()
  else if parsed.scheme = "http" ∧ isLoopbackHost lib (parsed.hostname.getD "") then .ok ()
  else .error (.insecureScheme parsed.scheme)

/-- One pattern of the allow-list; both are in lower case. -/
def patternMatches (pattern hostname : String) : Bool :=
  if "*.".toList.isPrefixOf pattern.toList then
    ('.' :: pattern.toList.drop 2).isSuffixOf hostname.toList
  else hostname = pattern

def matchingPattern (hostname : String) : Option String :=
  policy.allowedHosts.find? fun pattern =>
    patternMatches (lib.lower pattern) (lib.lower hostname)

def checkHostAllowed (hostname : String) : Except EgressViolation Unit :=
  if (matchingPattern lib policy hostname).isNone then .error (.hostNotAllowed hostname) else .ok ()

def checkMethodAllowed (method hostname : String) : Except EgressViolation Unit :=
  match matchingPattern lib policy hostname with
  | none => .ok ()
  | some pattern =>
    match policy.allowedMethods.lookup pattern with
    | some allowed => if method ∈ allowed then .ok () else .error (.methodNotAllowed method pattern)
    | none => .ok ()

def checkTelegramPath (hostname path : String) : Except EgressViolation Unit :=
  if hostname = "api.telegram.org" ∧ ¬ policy.telegramPathPrefix.toList.isPrefixOf path.toList then
    .error (.telegramPath path policy.telegramPathPrefix)
  else .ok ()

/-- A host that is an address is not one of those that are blocked. -/
def checkLiteral (hostname : String) (violation : EgressViolation) : Except EgressViolation Unit :=
  match lib.ipAddress hostname with
  | some addr => if policy.blockPrivateIps ∧ addr.isBlockedIp then .error violation else .ok ()
  | none => .ok ()

/-- `_STRICT_PREFIX_RE`. -/
def strictPrefix (url : String) : Bool :=
  let despues (resto : List Char) : Bool :=
    match resto with
    | c :: _ => c.isAlphanum || c = '['
    | [] => false
  match url.toList with
  | 'h' :: 't' :: 't' :: 'p' :: ':' :: '/' :: '/' :: resto => despues resto
  | 'h' :: 't' :: 't' :: 'p' :: 's' :: ':' :: '/' :: '/' :: resto => despues resto
  | _ => false

def strip (url : String) : List Char :=
  ((url.toList.dropWhile lib.isspace).reverse.dropWhile lib.isspace).reverse

def authorize (method url : String) : Except EgressViolation Unit :=
  if strip lib url ≠ url.toList then .error .whitespace
  else if url.toList.any fun c => c.toNat ≤ 32 ∨ c.toNat ≥ 127 then .error (.controlCharacters url)
  else if ¬ strictPrefix url then .error (.strictPrefix url)
  else match lib.urlparse url with
    | none => .error (.malformedAuthority url)
    | some parsed =>
      let hostname := parsed.host lib
      if hostname = "" then .error (.noHostname url)
      else do
        checkLiteral lib policy hostname (.literalAddress hostname)
        checkSchemeAllowed lib parsed
        checkHostAllowed lib policy hostname
        checkMethodAllowed lib policy (lib.upper method) hostname
        checkTelegramPath policy hostname parsed.path

end

/-! Requests -/

/-- A call of `session.request`, always with `allow_redirects=False`. -/
structure Envio where
  hop : Nat
  method : String
  url : String
  headers : Option Headers
  sslOff : Bool
  deriving DecidableEq

inductive Respuesta where
  | timeout
  | error
  | http (status : Nat) (location : Option String)
  deriving DecidableEq

inductive Salida where
  | response (status : Nat) (location : Option String)
  | egress (violation : EgressViolation)
  | valueError
  | gatewayTimeout (url : String)
  | clientError
  deriving DecidableEq

/-- The arguments of a call, and what the server will answer to each hop. -/
structure Llamada where
  method : String
  url : String
  maxRedirects : Int
  allowedRedirectHosts : Option (List String)
  headers : Option Headers
  servidor : Nat → Respuesta

section
variable (lib : Stdlib) (policy : EgressPolicy) (l : Llamada)

def originalHost : String :=
  match lib.urlparse l.url with
  | some parsed => parsed.host lib
  | none => ""

/-- The check of a hop: redirect hosts skip the allow-list, not the scheme nor
    the address. -/
def autorizaSalto (hop : Nat) (currentUrl : String) : Except Salida Unit :=
  let completa := (authorize lib policy l.method currentUrl).mapError .egress
  match l.allowedRedirectHosts with
  | none => completa
  | some hosts =>
    if hop = 0 then completa
    else match lib.urlparse currentUrl with
      | none => .error .valueError
      | some parsed =>
        let redirHost := parsed.host lib
        if redirHost ∈ hosts then (do
          checkSchemeAllowed lib parsed
          checkLiteral lib policy redirHost (.redirectTarget redirHost)).mapError .egress
        else completa

def prepara (hop : Nat) (currentUrl : String) (parsed : ParseResult) : Envio where
  hop := hop
  method := l.method
  url := currentUrl
  headers :=
    if 0 < hop ∧ parsed.host lib ≠ originalHost lib l then
      l.headers.map (stripSensitiveHeaders lib)
    else l.headers
  sslOff := isLoopbackHost lib (parsed.hostname.getD "") ∧ parsed.scheme = "http"

/-- A `Location` without authority is appended to the origin of the current URL. -/
def resuelve (currentUrl redirectUrl : String) : Option String := do
  let redirect ← lib.urlparse redirectUrl
  if redirect.netloc = "" then
    let base ← lib.urlparse currentUrl
    pure (base.scheme ++ "://" ++ base.netloc ++ redirectUrl)
  else pure redirectUrl

def saltos : Nat → Nat → String → List Envio × Salida
  | 0, _, _ => ([], .egress (.maximumRedirects l.maxRedirects l.url))
  | quedan + 1, hop, currentUrl =>
    match autorizaSalto lib policy l hop currentUrl with
    | .error salida => ([], salida)
    | .ok () =>
      match lib.urlparse currentUrl with
      | none => ([], .valueError)
      | some parsed =>
        match checkSchemeAllowed lib parsed with
        | .error violation => ([], .egress violation)
        | .ok () =>
          let envio := prepara lib l hop currentUrl parsed
          match l.servidor hop with
          | .timeout => ([envio], .gatewayTimeout currentUrl)
          | .error => ([envio], .clientError)
          | .http status location =>
            if status ∈ [301, 302, 303, 307, 308] then
              match location with
              | none | some "" => ([envio], .response status location)
              | some redirectUrl =>
                match resuelve lib currentUrl redirectUrl with
                | none => ([envio], .valueError)
                | some next =>
                  let (envios, salida) := saltos quedan (hop + 1) next
                  (envio :: envios, salida)
            else ([envio], .response status location)

/-- `range(max_redirects + 1)` hops at most. -/
def request : List Envio × Salida := saltos lib policy l (l.maxRedirects + 1).toNat 0 l.url

end

/-! What is sent -/

section
variable {lib : Stdlib} {policy : EgressPolicy} {l : Llamada}

/-- An allow-list pattern, in lower case: a whole host name, or any name below a domain. -/
def Cubre (pattern hostname : String) : Prop :=
  hostname = pattern ∨ ∃ domain sub, pattern = "*." ++ domain ∧ hostname = sub ++ "." ++ domain

structure ListaBlanca (lib : Stdlib) (policy : EgressPolicy) (method hostname : String) : Prop where
  cubierto : ∃ pattern ∈ policy.allowedHosts,
    Cubre (lib.lower pattern) (lib.lower hostname) ∧
      ∀ allowed, policy.allowedMethods.lookup pattern = some allowed → lib.upper method ∈ allowed

/-- What the policy asks of a request to `parsed`. -/
structure Permitido (lib : Stdlib) (policy : EgressPolicy) (l : Llamada) (e : Envio)
    (parsed : ParseResult) : Prop where
  esquema : parsed.scheme = "https" ∨
    (parsed.scheme = "http" ∧ isLoopbackHost lib (parsed.hostname.getD "") = true)
  host : ListaBlanca lib policy l.method (parsed.host lib) ∨
    (0 < e.hop ∧ ∃ hosts, l.allowedRedirectHosts = some hosts ∧ parsed.host lib ∈ hosts)
  literal : policy.blockPrivateIps = true → ∀ addr, lib.ipAddress (parsed.host lib) = some addr →
    addr.isBlockedIp = false
  credenciales : parsed.host lib ≠ originalHost lib l → ∀ headers, e.headers = some headers →
    ∀ k v, (k, v) ∈ headers → lib.lower k ∉ sensitiveRedirectHeaders

theorem cubre_of_patternMatches {pattern hostname : String}
    (matched : patternMatches pattern hostname = true) : Cubre pattern hostname := by
  unfold patternMatches at matched
  split at matched
  · rename_i wildcard
    obtain ⟨domain, starred⟩ := List.isPrefixOf_iff_prefix.mp wildcard
    rw [← starred] at matched
    obtain ⟨sub, whole⟩ := List.isSuffixOf_iff_suffix.mp matched
    right
    refine ⟨String.ofList domain, String.ofList sub, ?_, ?_⟩
    · apply String.toList_injective
      simpa using starred.symm
    · apply String.toList_injective
      simpa using whole.symm
  · left
    exact of_decide_eq_true matched

theorem checkScheme_ok {parsed : ParseResult} (passed : checkSchemeAllowed lib parsed = .ok ()) :
    parsed.scheme = "https" ∨
      (parsed.scheme = "http" ∧ isLoopbackHost lib (parsed.hostname.getD "") = true) := by
  unfold checkSchemeAllowed at passed
  split at passed
  · rename_i secure
    exact .inl secure
  · split at passed
    · rename_i loopback
      exact .inr loopback
    · cases passed

theorem checkLiteral_ok {hostname : String} {violation : EgressViolation}
    (passed : checkLiteral lib policy hostname violation = .ok ())
    (blocks : policy.blockPrivateIps = true) {addr : IpAddress}
    (literal : lib.ipAddress hostname = some addr) : addr.isBlockedIp = false := by
  simp only [checkLiteral, literal, blocks, true_and] at passed
  split at passed
  · cases passed
  · rename_i free
    exact Bool.eq_false_iff.mpr free

theorem listaBlanca_of_checks {method hostname : String}
    (hosted : checkHostAllowed lib policy hostname = .ok ())
    (allowed : checkMethodAllowed lib policy (lib.upper method) hostname = .ok ()) :
    ListaBlanca lib policy method hostname := by
  simp only [checkHostAllowed] at hosted
  simp only [checkMethodAllowed] at allowed
  cases found : matchingPattern lib policy hostname with
  | none => simp [found] at hosted
  | some pattern =>
    refine ⟨pattern, List.mem_of_find?_eq_some found, ?_, fun methods listed => ?_⟩
    · apply cubre_of_patternMatches
      exact @List.find?_some _ (fun pattern => patternMatches (lib.lower pattern)
        (lib.lower hostname)) _ _ found
    · simp only [found, listed] at allowed
      split at allowed
      · assumption
      · cases allowed

/-- What the two ways to authorise a hop have in common. -/
structure Autorizado (lib : Stdlib) (policy : EgressPolicy) (l : Llamada) (hop : Nat)
    (parsed : ParseResult) : Prop where
  host : ListaBlanca lib policy l.method (parsed.host lib) ∨
    (0 < hop ∧ ∃ hosts, l.allowedRedirectHosts = some hosts ∧ parsed.host lib ∈ hosts)
  literal : policy.blockPrivateIps = true → ∀ addr, lib.ipAddress (parsed.host lib) = some addr →
    addr.isBlockedIp = false

theorem mapError_ok {ε ε' α : Type} {f : ε → ε'} {x : Except ε α} {a : α}
    (passed : x.mapError f = .ok a) : x = .ok a := by
  cases x with
  | error e => cases passed
  | ok b =>
    simp only [Except.mapError, Except.ok.injEq] at passed
    rw [passed]

theorem bind_unit_ok {ε α : Type} {x : Except ε Unit} {f : Unit → Except ε α} {a : α}
    (passed : (x >>= f) = .ok a) : x = .ok () ∧ f () = .ok a := by
  cases x with
  | error e => cases passed
  | ok u => exact ⟨rfl, passed⟩

theorem authorize_ok {hop : Nat} {url : String} {parsed : ParseResult}
    (passed : authorize lib policy l.method url = .ok ()) (read : lib.urlparse url = some parsed) :
    Autorizado lib policy l hop parsed := by
  unfold authorize at passed
  split at passed
  · cases passed
  split at passed
  · cases passed
  split at passed
  · cases passed
  simp only [read] at passed
  split at passed
  · cases passed
  obtain ⟨literal, passed⟩ := bind_unit_ok passed
  obtain ⟨-, passed⟩ := bind_unit_ok passed
  obtain ⟨hosted, passed⟩ := bind_unit_ok passed
  obtain ⟨allowed, -⟩ := bind_unit_ok passed
  exact ⟨.inl (listaBlanca_of_checks hosted allowed),
    fun blocks addr is_literal => checkLiteral_ok literal blocks is_literal⟩

theorem autorizaSalto_ok {hop : Nat} {url : String} {parsed : ParseResult}
    (passed : autorizaSalto lib policy l hop url = .ok ())
    (read : lib.urlparse url = some parsed) : Autorizado lib policy l hop parsed := by
  unfold autorizaSalto at passed
  cases redirect_hosts : l.allowedRedirectHosts with
  | none =>
    simp only [redirect_hosts] at passed
    exact authorize_ok (mapError_ok passed) read
  | some hosts =>
    simp only [redirect_hosts, read] at passed
    split at passed
    · exact authorize_ok (mapError_ok passed) read
    · rename_i later
      split at passed
      · rename_i listed
        obtain ⟨-, literal⟩ := bind_unit_ok (mapError_ok passed)
        have after_first : 0 < hop := by omega
        exact ⟨.inr ⟨after_first, hosts, redirect_hosts, listed⟩,
          fun blocks addr is_literal => checkLiteral_ok literal blocks is_literal⟩
      · exact authorize_ok (mapError_ok passed) read

theorem prepara_credenciales {hop : Nat} {url : String} {parsed : ParseResult}
    (later : 0 < hop) (other : parsed.host lib ≠ originalHost lib l) {headers : Headers}
    (sent : (prepara lib l hop url parsed).headers = some headers) {k v : String}
    (member : (k, v) ∈ headers) : lib.lower k ∉ sensitiveRedirectHeaders := by
  simp only [prepara, later, true_and, ne_eq, other, not_false_eq_true, if_true] at sent
  obtain ⟨given, -, rfl⟩ := Option.map_eq_some_iff.mp sent
  exact of_decide_eq_true (List.mem_filter.mp member).2

/-- One hop sends what the policy permits. -/
theorem prepara_permitido {hop : Nat} {url : String} {parsed : ParseResult}
    (first : hop = 0 → url = l.url) (read : lib.urlparse url = some parsed)
    (passed : autorizaSalto lib policy l hop url = .ok ())
    (secure : checkSchemeAllowed lib parsed = .ok ()) :
    Permitido lib policy l (prepara lib l hop url parsed) parsed := by
  obtain ⟨host, literal⟩ := autorizaSalto_ok passed read
  refine ⟨checkScheme_ok secure, host, literal, fun other headers sent k v member => ?_⟩
  have later : 0 < hop := by
    apply Nat.pos_of_ne_zero
    intro zero
    rw [first zero] at read
    simp [originalHost, read] at other
  exact prepara_credenciales later other sent member

theorem saltos_permitidos (quedan hop : Nat) (url : String) (first : hop = 0 → url = l.url) :
    (saltos lib policy l quedan hop url).1.length ≤ quedan ∧
      ∀ e ∈ (saltos lib policy l quedan hop url).1,
        ∃ parsed, lib.urlparse e.url = some parsed ∧ Permitido lib policy l e parsed := by
  induction quedan generalizing hop url with
  | zero => simp [saltos]
  | succ quedan ih =>
    unfold saltos
    split
    · simp
    · rename_i passed
      split
      · simp
      · rename_i parsed read
        split
        · simp
        · rename_i secure
          have here := prepara_permitido first read passed secure
          have alone : [prepara lib l hop url parsed].length ≤ quedan + 1 ∧
              ∀ e ∈ [prepara lib l hop url parsed], ∃ parsed, lib.urlparse e.url = some parsed ∧
                Permitido lib policy l e parsed := by
            refine ⟨by simp, fun e member => ?_⟩
            rw [List.mem_singleton] at member
            rw [member]
            exact ⟨parsed, read, here⟩
          dsimp only
          -- every ending of this hop has sent one request, and a redirect goes on
          split
          · exact alone
          · exact alone
          · split
            · split
              · exact alone
              · exact alone
              · split
                · exact alone
                · rename_i next _
                  obtain ⟨bounded, rest⟩ := ih (hop + 1) next (by omega)
                  refine ⟨by simpa using bounded, fun e member => ?_⟩
                  rcases List.mem_cons.mp member with rfl | member
                  · exact ⟨parsed, read, here⟩
                  · exact rest e member
            · exact alone

end

/-- Whatever the server answers, what is sent is permitted and bounded in number. -/
theorem politica_de_egreso (lib : Stdlib) (policy : EgressPolicy) (l : Llamada) :
    (request lib policy l).1.length ≤ (l.maxRedirects + 1).toNat ∧
      ∀ e ∈ (request lib policy l).1,
        ∃ parsed, lib.urlparse e.url = some parsed ∧ Permitido lib policy l e parsed :=
  saltos_permitidos _ 0 l.url fun _ => rfl

end NetworkGateway
