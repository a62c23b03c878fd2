import SkyClaw.Utf8Text

set_option linter.all false

/-!
`_vdf.py`: the tokenizer and the parser of Valve's text format. A token is a
string, and that of a brace is the string of that brace.
-/
namespace VdfText
open Utf8Text

local instance lawfulBEq_clave : LawfulBEq (List CodePoint) := inferInstance

abbrev Texto := List CodePoint

/-- The messages of `MalformedVdfError` and `DuplicateKeyVdfError`, each after the label
of the source. `recursion` is the `RecursionError` of the interpreter. -/
inductive VdfError where
  | escapeAlFinal
  | escapeDesconocido (siguiente : CodePoint) (posicion : Nat)
  | comillaSinCerrar
  | caracterInesperado (c : CodePoint) (posicion : Nat)
  | scopeSinCerrar
  | cierreEnRaiz
  | aperturaSinClave
  | claveSinValor (clave : Texto)
  | claveDuplicada (clave : Texto)
  | recursion
  deriving DecidableEq

mutual

inductive Valor where
  | escalar (texto : Texto)
  | anidado (scope : Scope)
  deriving DecidableEq

/-- A dictionary in the order of its insertions. -/
inductive Scope where
  | vacio
  | entrada (clave : Texto) (valor : Valor) (resto : Scope)
  deriving DecidableEq

end

def abre : CodePoint := .scalar '{'
def cierra : CodePoint := .scalar '}'
def comilla : CodePoint := .scalar '"'
def barra : CodePoint := .scalar '\\'

def esBlanco (c : CodePoint) : Bool :=
  c = .scalar ' ' || c = .scalar '\t' || c = .scalar '\r' || c = .scalar '\n'

/-- The first argument is the buffer of a string that is open. -/
def tokenize : Option Texto → Nat → Texto → Except VdfError (List Texto)
  | none, _, [] => .ok []
  | some _, _, [] => .error .comillaSinCerrar
  | none, i, ch :: resto =>
    if esBlanco ch then tokenize none (i + 1) resto
    else if ch = abre then (tokenize none (i + 1) resto).map ([abre] :: ·)
    else if ch = cierra then (tokenize none (i + 1) resto).map ([cierra] :: ·)
    else if ch = comilla then tokenize (some []) (i + 1) resto
    else .error (.caracterInesperado ch i)
  | some buf, i, c :: resto =>
    if c = barra then
      match resto with
      | [] => .error .escapeAlFinal
      | siguiente :: resto =>
        if siguiente = comilla ∨ siguiente = barra then
          tokenize (some (buf ++ [siguiente])) (i + 2) resto
        else .error (.escapeDesconocido siguiente i)
    else if c = comilla then (tokenize none (i + 1) resto).map (buf :: ·)
    else tokenize (some (buf ++ [c])) (i + 1) resto

def Scope.claves : Scope → List Texto
  | .vacio => []
  | .entrada clave _ resto => clave :: resto.claves

def Scope.junta : Scope → Scope → Scope
  | .vacio, s => s
  | .entrada clave valor resto, s => .entrada clave valor (resto.junta s)

/-- `scope[key] = value` for a key that is not there yet. -/
def Scope.agrega (s : Scope) (clave : Texto) (valor : Valor) : Scope :=
  s.junta (.entrada clave valor .vacio)

/-- `parse_scope`. The first list is the stack of its calls, each with the key whose
value it waits for and what its scope has so far. The interpreter takes `limite` of them. -/
def parseScope (limite : Nat) : List (Texto × Scope) → Scope → List Texto → Except VdfError Scope
  | [], scope, [] => .ok scope
  | _ :: _, _, [] => .error .scopeSinCerrar
  | pila, scope, token :: tokens =>
    if token = [cierra] then
      match pila with
      | [] => .error .cierreEnRaiz
      | (clave, fuera) :: pila => parseScope limite pila (fuera.agrega clave (.anidado scope)) tokens
    else if token = [abre] then .error .aperturaSinClave
    else
      match tokens with
      | [] => .error (.claveSinValor token)
      | valor :: tokens =>
        if token ∈ scope.claves then .error (.claveDuplicada token)
        else if valor = [abre] then
          if limite ≤ pila.length then .error .recursion
          else parseScope limite ((token, scope) :: pila) .vacio tokens
        else parseScope limite pila (scope.agrega token (.escalar valor)) tokens

def parseVdfText (limite : Nat) (text : Texto) : Except VdfError Scope := do
  let tokens ← tokenize none 0 text
  parseScope limite [] .vacio tokens

/- The format: what a tree is written as. -/

inductive Lexema where
  | texto (t : Texto)
  | abre
  | cierra
  deriving DecidableEq

def escapar (t : Texto) : Texto :=
  t.flatMap fun c => if c = comilla ∨ c = barra then [barra, c] else [c]

def Lexema.escrito : Lexema → Texto
  | .texto t => comilla :: (escapar t ++ [comilla])
  | .abre => [VdfText.abre]
  | .cierra => [VdfText.cierra]

/-- What is left of a lexeme in its token. -/
def Lexema.token : Lexema → Texto
  | .texto t => t
  | .abre => [VdfText.abre]
  | .cierra => [VdfText.cierra]

/-- The text is the lexemes with blanks between them and around them. -/
inductive Escrito : List Lexema → Texto → Prop where
  | fin (blancos : Texto) (only : blancos.all esBlanco = true) : Escrito [] blancos
  | mas (blancos : Texto) (only : blancos.all esBlanco = true) (l : Lexema) {ls : List Lexema}
      {resto : Texto} (rest : Escrito ls resto) : Escrito (l :: ls) (blancos ++ (l.escrito ++ resto))

mutual

def Valor.lexemas : Valor → List Lexema
  | .escalar t => [.texto t]
  | .anidado s => .abre :: (s.lexemas ++ [.cierra])

def Scope.lexemas : Scope → List Lexema
  | .vacio => []
  | .entrada clave valor resto => .texto clave :: (valor.lexemas ++ resto.lexemas)

end

mutual

def Valor.Distintas : Valor → Prop
  | .escalar _ => True
  | .anidado s => s.Distintas

/-- No scope has a key twice. -/
def Scope.Distintas : Scope → Prop
  | .vacio => True
  | .entrada clave valor resto => clave ∉ resto.claves ∧ valor.Distintas ∧ resto.Distintas

end

mutual

def Valor.SinLlaves : Valor → Prop
  | .escalar t => t ≠ [abre]
  | .anidado s => s.SinLlaves

/-- No key is a lone brace and no scalar a lone opening brace. -/
def Scope.SinLlaves : Scope → Prop
  | .vacio => True
  | .entrada clave valor resto =>
    clave ≠ [abre] ∧ clave ≠ [cierra] ∧ valor.SinLlaves ∧ resto.SinLlaves

end

mutual

def Valor.profundidad : Valor → Nat
  | .escalar _ => 0
  | .anidado s => s.profundidad + 1

def Scope.profundidad : Scope → Nat
  | .vacio => 0
  | .entrada _ valor resto => max valor.profundidad resto.profundidad

end

/-- The text is a rendering of the tree. -/
def EsRender (s : Scope) (text : Texto) : Prop := s.Distintas ∧ Escrito s.lexemas text

def Scope.tokens (s : Scope) : List Texto := s.lexemas.map Lexema.token

/-- Every brace that stands where the grammar asks for one is unquoted, and every other one
is quoted. The first argument tells that a value is due. -/
def Alterna : Bool → List Lexema → Prop
  | _, [] => True
  | false, .texto t :: ls => t ≠ [abre] ∧ t ≠ [cierra] ∧ Alterna true ls
  | false, .abre :: ls => Alterna false ls
  | false, .cierra :: ls => Alterna false ls
  | true, .texto t :: ls => t ≠ [abre] ∧ Alterna false ls
  | true, .abre :: ls => Alterna false ls
  | true, .cierra :: _ => False

def Separable (text : Texto) : Prop := ∃ ls, Escrito ls text ∧ Alterna false ls

/- The tokenizer reads exactly the written lexemes. -/

theorem escrito_blanco {c : CodePoint} (blanco : esBlanco c = true) {ls : List Lexema}
    {text : Texto} (h : Escrito ls text) : Escrito ls (c :: text) := by
  cases h with
  | fin _ only => exact .fin (c :: text) (by simp [blanco, only])
  | mas blancos only l rest => exact .mas (c :: blancos) (by simp [blanco, only]) l rest

theorem tokenize_blancos (i : Nat) (blancos text : Texto) (only : blancos.all esBlanco = true) :
    tokenize none i (blancos ++ text) = tokenize none (i + blancos.length) text := by
  induction blancos generalizing i with
  | nil => simp
  | cons c blancos ih =>
    simp only [List.all_cons, Bool.and_eq_true] at only
    simp only [List.cons_append, tokenize, only.1, if_true, List.length_cons]
    rw [ih (i + 1) only.2]
    congr 1
    omega

theorem tokenize_cierre (buf resto : Texto) (i : Nat) :
    tokenize (some buf) i (comilla :: resto) = (tokenize none (i + 1) resto).map (buf :: ·) := by
  have other : comilla ≠ barra := by decide
  rw [tokenize.eq_def]
  simp [other]

theorem tokenize_escape {c : CodePoint} (special : c = comilla ∨ c = barra) (buf resto : Texto)
    (i : Nat) :
    tokenize (some buf) i (barra :: c :: resto) =
      tokenize (some (buf ++ [c])) (i + 2) resto := by
  rw [tokenize.eq_def]
  simp [special]

theorem tokenize_corriente {c : CodePoint} (notQuote : c ≠ comilla) (notBar : c ≠ barra)
    (buf resto : Texto) (i : Nat) :
    tokenize (some buf) i (c :: resto) = tokenize (some (buf ++ [c])) (i + 1) resto := by
  rw [tokenize.eq_def]
  simp [notQuote, notBar]

theorem tokenize_texto (buf t resto : Texto) (i : Nat) :
    tokenize (some buf) i (escapar t ++ comilla :: resto) =
      (tokenize none (i + (escapar t).length + 1) resto).map ((buf ++ t) :: ·) := by
  induction t generalizing buf i with
  | nil => simpa [escapar] using tokenize_cierre buf resto i
  | cons c t ih =>
    by_cases special : c = comilla ∨ c = barra
    · have written : escapar (c :: t) = barra :: c :: escapar t := by
        simp [escapar, special]
      rw [written, List.cons_append, List.cons_append, tokenize_escape special, ih]
      simp only [List.append_assoc, List.singleton_append, List.length_cons]
      congr 2
      omega
    · have written : escapar (c :: t) = c :: escapar t := by
        simp [escapar, special]
      simp only [not_or] at special
      rw [written, List.cons_append, tokenize_corriente special.1 special.2, ih]
      simp only [List.append_assoc, List.singleton_append, List.length_cons]
      congr 2
      omega

theorem tokenize_lexema (l : Lexema) (resto : Texto) (i : Nat) :
    tokenize none i (l.escrito ++ resto) =
      (tokenize none (i + l.escrito.length) resto).map (l.token :: ·) := by
  cases l with
  | texto t =>
    have notBlank : esBlanco comilla = false := by decide
    have notOpen : comilla ≠ abre := by decide
    have notClose : comilla ≠ cierra := by decide
    simp only [Lexema.escrito, List.cons_append, tokenize, notBlank, notOpen, notClose, if_false,
      if_true, List.append_assoc, Bool.false_eq_true]
    rw [List.nil_append, tokenize_texto]
    simp only [List.nil_append, Lexema.token, List.length_cons, List.length_append, List.length_nil]
    congr 2
    omega
  | abre =>
    have notBlank : esBlanco abre = false := by decide
    simp [Lexema.escrito, Lexema.token, tokenize, notBlank]
  | cierra =>
    have notBlank : esBlanco cierra = false := by decide
    have notOpen : cierra ≠ abre := by decide
    simp [Lexema.escrito, Lexema.token, tokenize, notBlank, notOpen]

theorem tokenize_escrito {ls : List Lexema} {text : Texto} (h : Escrito ls text) (i : Nat) :
    tokenize none i text = .ok (ls.map Lexema.token) := by
  induction h generalizing i with
  | fin blancos only =>
    have all := tokenize_blancos i blancos [] only
    rw [List.append_nil] at all
    rw [all]
    rfl
  | mas blancos only l rest ih =>
    rw [tokenize_blancos i blancos _ only, tokenize_lexema, ih]
    rfl

theorem map_ok {α β ε : Type} {x : Except ε α} {f : α → β} {b : β} (h : x.map f = .ok b) :
    ∃ a, x = .ok a ∧ f a = b := by
  cases x with
  | error e => cases h
  | ok a => exact ⟨a, rfl, Except.ok.inj h⟩

theorem escapar_cons_especial {c : CodePoint} (special : c = comilla ∨ c = barra) (t : Texto) :
    escapar (c :: t) = barra :: c :: escapar t := by
  simp [escapar, special]

theorem escapar_cons {c : CodePoint} (notQuote : c ≠ comilla) (notBar : c ≠ barra) (t : Texto) :
    escapar (c :: t) = c :: escapar t := by
  simp [escapar, notQuote, notBar]

/-- What a text that the tokenizer accepts looks like, outside a string and inside one. -/
def Leido (tokens : List Texto) (text : Texto) : Option Texto → Prop
  | none => ∃ ls, Escrito ls text ∧ tokens = ls.map Lexema.token
  | some buf => ∃ t resto ls, text = escapar t ++ comilla :: resto ∧ Escrito ls resto ∧
      tokens = (buf ++ t) :: ls.map Lexema.token

theorem tokenize_leido {modo : Option Texto} {i : Nat} {text : Texto} {tokens : List Texto}
    (ran : tokenize modo i text = .ok tokens) : Leido tokens text modo := by
  fun_induction tokenize modo i text generalizing tokens with
  | case1 =>
    cases ran
    exact ⟨[], .fin [] rfl, rfl⟩
  | case2 => cases ran
  | case3 i ch resto blank ih =>
    obtain ⟨ls, written, eq⟩ := ih ran
    exact ⟨ls, escrito_blanco blank written, eq⟩
  | case4 i resto blank ih =>
    obtain ⟨rest, inner, rfl⟩ := map_ok ran
    obtain ⟨ls, written, rfl⟩ := ih inner
    exact ⟨.abre :: ls, .mas [] rfl .abre written, rfl⟩
  | case5 i resto blank notOpen ih =>
    obtain ⟨rest, inner, rfl⟩ := map_ok ran
    obtain ⟨ls, written, rfl⟩ := ih inner
    exact ⟨.cierra :: ls, .mas [] rfl .cierra written, rfl⟩
  | case6 i resto blank notOpen notClose ih =>
    obtain ⟨t, rest, ls, rfl, written, rfl⟩ := ih ran
    have whole := Escrito.mas [] rfl (.texto t) written
    exact ⟨.texto t :: ls, by simpa [Lexema.escrito] using whole, rfl⟩
  | case7 => cases ran
  | case8 => cases ran
  | case9 buf i siguiente resto special ih =>
    obtain ⟨t, rest, ls, rfl, written, rfl⟩ := ih ran
    exact ⟨siguiente :: t, rest, ls, by simp [escapar_cons_especial special], written, by simp⟩
  | case10 => cases ran
  | case11 buf i resto notBar ih =>
    obtain ⟨rest, inner, rfl⟩ := map_ok ran
    obtain ⟨ls, written, rfl⟩ := ih inner
    exact ⟨[], resto, ls, rfl, written, by simp⟩
  | case12 buf i c resto notBar notQuote ih =>
    obtain ⟨t, rest, ls, rfl, written, rfl⟩ := ih ran
    exact ⟨c :: t, rest, ls, by simp [escapar_cons notQuote notBar], written, by simp⟩

/- The parser reads exactly the tokens of a tree without braces for names. -/

theorem junta_vacio (s : Scope) : s.junta .vacio = s := by
  cases s with
  | vacio => rfl
  | entrada clave valor resto => simp [Scope.junta, junta_vacio resto]

theorem junta_junta (s t u : Scope) : (s.junta t).junta u = s.junta (t.junta u) := by
  cases s with
  | vacio => rfl
  | entrada clave valor resto => simp [Scope.junta, junta_junta resto t u]

theorem agrega_junta (s t : Scope) (clave : Texto) (valor : Valor) :
    (s.agrega clave valor).junta t = s.junta (.entrada clave valor t) := by
  rw [Scope.agrega, junta_junta]
  rfl

theorem claves_junta (s t : Scope) : (s.junta t).claves = s.claves ++ t.claves := by
  cases s with
  | vacio => rfl
  | entrada clave valor resto => simp [Scope.junta, Scope.claves, claves_junta resto t]

theorem tokens_entrada (clave : Texto) (valor : Valor) (resto : Scope) :
    (Scope.entrada clave valor resto).tokens =
      clave :: (valor.lexemas.map Lexema.token ++ resto.tokens) := by
  simp [Scope.tokens, Scope.lexemas, Lexema.token]

theorem distintas_junta {s t : Scope} :
    (s.junta t).Distintas ↔ s.Distintas ∧ t.Distintas ∧ ∀ k ∈ t.claves, k ∉ s.claves := by
  cases s with
  | vacio => simp [Scope.junta, Scope.Distintas, Scope.claves]
  | entrada clave valor resto =>
    simp only [Scope.junta, Scope.Distintas, distintas_junta (s := resto) (t := t), claves_junta,
      Scope.claves, List.mem_append, List.mem_cons, not_or]
    constructor
    · rintro ⟨⟨notHere, notThere⟩, ofValue, ofRest, ofTail, apart⟩
      refine ⟨⟨notHere, ofValue, ofRest⟩, ofTail, ?_⟩
      intro k inTail
      refine ⟨?_, apart k inTail⟩
      rintro rfl
      exact notThere inTail
    · rintro ⟨⟨notHere, ofValue, ofRest⟩, ofTail, apart⟩
      refine ⟨⟨notHere, ?_⟩, ofValue, ofRest, ofTail, fun k inTail => (apart k inTail).2⟩
      intro inTail
      exact (apart clave inTail).1 rfl

section
variable {limite : Nat} {pila : List (Texto × Scope)} {actual : Scope} {clave : Texto}
  {tokens : List Texto}

theorem parse_escalar {t : Texto} (notOpen : clave ≠ [abre]) (notClose : clave ≠ [cierra])
    (fresh : clave ∉ actual.claves) (clean : t ≠ [abre]) :
    parseScope limite pila actual (clave :: t :: tokens) =
      parseScope limite pila (actual.agrega clave (.escalar t)) tokens := by
  cases pila <;> rw [parseScope.eq_def] <;> simp [notOpen, notClose, fresh, clean]

theorem parse_abre (notOpen : clave ≠ [abre]) (notClose : clave ≠ [cierra])
    (fresh : clave ∉ actual.claves) (room : pila.length < limite) :
    parseScope limite pila actual (clave :: [abre] :: tokens) =
      parseScope limite ((clave, actual) :: pila) .vacio tokens := by
  cases pila <;> rw [parseScope.eq_def] <;> simp [notOpen, notClose, fresh] <;>
    simp only [List.length_nil, List.length_cons] at room <;> omega

theorem parse_cierra {fuera : Scope} :
    parseScope limite ((clave, fuera) :: pila) actual ([cierra] :: tokens) =
      parseScope limite pila (fuera.agrega clave (.anidado actual)) tokens := by
  rw [parseScope.eq_def]
  simp

end

mutual

theorem parse_valor (limite : Nat) (pila : List (Texto × Scope)) (actual : Scope) (clave : Texto)
    (valor : Valor) (tokens : List Texto) (notOpen : clave ≠ [abre]) (notClose : clave ≠ [cierra])
    (fresh : clave ∉ actual.claves) (clean : valor.SinLlaves) (distinct : valor.Distintas)
    (room : pila.length + valor.profundidad ≤ limite) :
    parseScope limite pila actual (clave :: (valor.lexemas.map Lexema.token ++ tokens)) =
      parseScope limite pila (actual.agrega clave valor) tokens := by
  cases valor with
  | escalar t =>
    simp only [Valor.SinLlaves] at clean
    exact parse_escalar notOpen notClose fresh clean
  | anidado s =>
    simp only [Valor.SinLlaves] at clean
    simp only [Valor.Distintas] at distinct
    simp only [Valor.profundidad] at room
    have inner := parse_tokens limite ((clave, actual) :: pila) .vacio s ([cierra] :: tokens) clean
      distinct (by simp [Scope.claves]) (by simp only [List.length_cons]; omega)
    simp only [Valor.lexemas, List.map_cons, List.map_append, Lexema.token, List.map_nil,
      List.cons_append, List.append_assoc, List.nil_append]
    rw [parse_abre notOpen notClose fresh (by omega), ← Scope.tokens, inner, Scope.junta,
      parse_cierra]

theorem parse_tokens (limite : Nat) (pila : List (Texto × Scope)) (actual s : Scope)
    (tokens : List Texto) (clean : s.SinLlaves) (distinct : s.Distintas)
    (fresh : ∀ k ∈ s.claves, k ∉ actual.claves) (room : pila.length + s.profundidad ≤ limite) :
    parseScope limite pila actual (s.tokens ++ tokens) =
      parseScope limite pila (actual.junta s) tokens := by
  cases s with
  | vacio => simp [Scope.tokens, Scope.lexemas, junta_vacio]
  | entrada clave valor resto =>
    simp only [Scope.SinLlaves] at clean
    simp only [Scope.Distintas] at distinct
    simp only [Scope.profundidad] at room
    simp only [Scope.claves, List.mem_cons, forall_eq_or_imp] at fresh
    rw [tokens_entrada, List.cons_append, List.append_assoc,
      parse_valor limite pila actual clave valor _ clean.1 clean.2.1 fresh.1 clean.2.2.1
        distinct.2.1 (by omega)]
    have still : ∀ k ∈ resto.claves, k ∉ (actual.agrega clave valor).claves := by
      intro k inRest
      rw [Scope.agrega, claves_junta]
      simp only [Scope.claves, List.mem_append, List.mem_singleton, not_or]
      refine ⟨fresh.2 k inRest, ?_⟩
      rintro rfl
      exact distinct.1 inRest
    rw [parse_tokens limite pila (actual.agrega clave valor) resto tokens clean.2.2.2 distinct.2.2
      still (by omega), agrega_junta]

end

/-- What the parser has read when it succeeds: the rest of the current scope, and then
what closes it. -/
def Parseado (limite : Nat) (actual final : Scope) (tokens : List Texto) :
    List (Texto × Scope) → Prop
  | [] => ∃ r : Scope, tokens = r.tokens ∧ final = actual.junta r ∧ r.SinLlaves ∧
      r.profundidad ≤ limite ∧ (actual.Distintas → (actual.junta r).Distintas)
  | (clave, fuera) :: pila => ∃ (r : Scope) (resto : List Texto),
      tokens = r.tokens ++ [cierra] :: resto ∧
      parseScope limite pila (fuera.agrega clave (.anidado (actual.junta r))) resto = .ok final ∧
      r.SinLlaves ∧ pila.length + 1 + r.profundidad ≤ limite ∧
      (actual.Distintas → (actual.junta r).Distintas)

theorem distintas_agrega {s : Scope} {clave : Texto} {valor : Valor} (fresh : clave ∉ s.claves)
    (ofScope : s.Distintas) (ofValue : valor.Distintas) : (s.agrega clave valor).Distintas := by
  refine distintas_junta.mpr ⟨ofScope, ⟨by simp [Scope.claves], ofValue, trivial⟩, ?_⟩
  intro k inNew
  obtain rfl : k = clave := by simpa [Scope.claves] using inNew
  exact fresh

/-- One more entry in front of what was read. -/
theorem Parseado.antepone {limite : Nat} {actual final : Scope} {clave : Texto} {valor : Valor}
    {tokens : List Texto} {pila : List (Texto × Scope)}
    (read : Parseado limite (actual.agrega clave valor) final tokens pila)
    (notOpen : clave ≠ [abre]) (notClose : clave ≠ [cierra]) (fresh : clave ∉ actual.claves)
    (clean : valor.SinLlaves) (distinct : valor.Distintas)
    (room : pila.length + valor.profundidad ≤ limite) :
    Parseado limite actual final (clave :: (valor.lexemas.map Lexema.token ++ tokens)) pila := by
  have apart {r : Scope} (keeps : (actual.agrega clave valor).Distintas →
      ((actual.agrega clave valor).junta r).Distintas) (ofActual : actual.Distintas) :
      (actual.junta (.entrada clave valor r)).Distintas := by
    rw [← agrega_junta]
    exact keeps (distintas_agrega fresh ofActual distinct)
  cases pila with
  | nil =>
    obtain ⟨r, rfl, rfl, ofRest, depth, keeps⟩ := read
    simp only [List.length_nil, Nat.zero_add] at room
    exact ⟨.entrada clave valor r, (tokens_entrada clave valor r).symm, agrega_junta _ _ _ _,
      ⟨notOpen, notClose, clean, ofRest⟩, Nat.max_le.mpr ⟨room, depth⟩, apart keeps⟩
  | cons marco pila =>
    obtain ⟨r, resto, rfl, rest, ofRest, depth, keeps⟩ := read
    simp only [List.length_cons] at room
    refine ⟨.entrada clave valor r, resto, ?_, ?_, ⟨notOpen, notClose, clean, ofRest⟩, ?_,
      apart keeps⟩
    · simp [tokens_entrada]
    · rw [← agrega_junta]
      exact rest
    · simp only [Scope.profundidad]
      omega

theorem llaves_distintas : abre ≠ cierra := by decide

theorem parseado_fin {limite : Nat} {pila : List (Texto × Scope)} {actual final : Scope}
    (ran : parseScope limite pila actual [] = .ok final) :
    Parseado limite actual final [] pila := by
  cases pila with
  | nil =>
    obtain rfl : actual = final := by simpa [parseScope] using ran
    refine ⟨.vacio, rfl, (junta_vacio actual).symm, trivial, Nat.zero_le _, ?_⟩
    rw [junta_vacio]
    exact id
  | cons marco pila => simp [parseScope] at ran

/-- The induction is on the number of tokens: after an inner scope the parser goes on with
the tokens behind its brace. -/
theorem parseado {limite n : Nat} {tokens : List Texto} (bound : tokens.length ≤ n)
    {pila : List (Texto × Scope)} (fits : pila.length ≤ limite) {actual final : Scope}
    (ran : parseScope limite pila actual tokens = .ok final) :
    Parseado limite actual final tokens pila := by
  induction n generalizing tokens pila actual with
  | zero =>
    obtain rfl : tokens = [] := List.length_eq_zero_iff.mp (Nat.le_zero.mp bound)
    exact parseado_fin ran
  | succ n ih =>
    cases tokens with
    | nil => exact parseado_fin ran
    | cons token tokens =>
      simp only [List.length_cons] at bound
      by_cases close : token = [cierra]
      · subst close
        cases pila with
        | nil =>
          rw [parseScope.eq_def] at ran
          simp at ran
        | cons marco pila =>
          rw [parse_cierra] at ran
          refine ⟨.vacio, tokens, rfl, ?_, trivial, fits, ?_⟩
          · rw [junta_vacio]
            exact ran
          · rw [junta_vacio]
            exact id
      by_cases opens : token = [abre]
      · cases pila <;> rw [parseScope.eq_def] at ran <;>
          simp [opens, llaves_distintas] at ran
      cases tokens with
      | nil => cases pila <;> rw [parseScope.eq_def] at ran <;> simp [close, opens] at ran
      | cons valor tokens =>
        simp only [List.length_cons] at bound
        by_cases repeated : token ∈ actual.claves
        · cases pila <;> rw [parseScope.eq_def] at ran <;> simp [close, opens, repeated] at ran
        by_cases nested : valor = [abre]
        · subst nested
          by_cases room : pila.length < limite
          · rw [parse_abre opens close repeated room] at ran
            obtain ⟨r, resto, rfl, rest, ofInner, depth, keeps⟩ := ih (by omega) (by simpa) ran
            simp only [List.length_append, List.length_cons] at bound
            have later := ih (by omega) fits rest
            have whole := later.antepone opens close repeated ofInner (keeps trivial) (by
              simp only [Valor.profundidad, Scope.junta]
              omega)
            simpa [Valor.lexemas, Lexema.token, Scope.tokens, Scope.junta] using whole
          · have full : limite ≤ pila.length := by omega
            cases pila <;> rw [parseScope.eq_def] at ran <;>
              simp only [close, opens, repeated, full, if_true, if_false] at ran <;> cases ran
        · rw [parse_escalar opens close repeated nested] at ran
          have later := ih (by omega) fits ran
          exact later.antepone opens close repeated nested trivial fits

theorem parseScope_ok {limite : Nat} {tokens : List Texto} {s : Scope} :
    parseScope limite [] .vacio tokens = .ok s ↔
      tokens = s.tokens ∧ s.SinLlaves ∧ s.Distintas ∧ s.profundidad ≤ limite := by
  constructor
  · intro ran
    obtain ⟨r, rfl, rfl, clean, depth, keeps⟩ := parseado (Nat.le_refl _) (Nat.zero_le _) ran
    exact ⟨rfl, clean, keeps trivial, depth⟩
  · intro ⟨eq, clean, distinct, depth⟩
    have read := parse_tokens limite [] .vacio s [] clean distinct (by simp [Scope.claves])
      (by simpa using depth)
    rw [List.append_nil] at read
    rw [eq, read]
    simp [parseScope, Scope.junta]

theorem parseVdfText_ok {limite : Nat} {text : Texto} {s : Scope} :
    parseVdfText limite text = .ok s ↔
      (∃ ls, Escrito ls text ∧ ls.map Lexema.token = s.tokens) ∧
        s.SinLlaves ∧ s.Distintas ∧ s.profundidad ≤ limite := by
  constructor
  · intro ran
    cases tokenized : tokenize none 0 text with
    | error e => simp [parseVdfText, tokenized, bind, Except.bind] at ran
    | ok tokens =>
      obtain ⟨ls, written, rfl⟩ := tokenize_leido tokenized
      simp only [parseVdfText, tokenized, bind, Except.bind] at ran
      obtain ⟨eq, rest⟩ := parseScope_ok.mp ran
      exact ⟨⟨ls, written, eq⟩, rest⟩
  · intro ⟨⟨ls, written, eq⟩, rest⟩
    simp only [parseVdfText, tokenize_escrito written, bind, Except.bind]
    exact parseScope_ok.mpr ⟨eq, rest⟩

/- Lexemes that alternate are told apart by their tokens. -/

mutual

theorem alterna_valor {valor : Valor} (clean : valor.SinLlaves) {ls : List Lexema}
    (rest : Alterna false ls) : Alterna true (valor.lexemas ++ ls) := by
  cases valor with
  | escalar t => exact ⟨clean, rest⟩
  | anidado s =>
    simp only [Valor.lexemas, List.cons_append, List.append_assoc]
    exact alterna_scope clean rest

theorem alterna_scope {s : Scope} (clean : s.SinLlaves) {ls : List Lexema}
    (rest : Alterna false ls) : Alterna false (s.lexemas ++ ls) := by
  cases s with
  | vacio => exact rest
  | entrada clave valor resto =>
    simp only [Scope.SinLlaves] at clean
    simp only [Scope.lexemas, List.cons_append, List.append_assoc]
    exact ⟨clean.1, clean.2.1, alterna_valor clean.2.2.1 (alterna_scope clean.2.2.2 rest)⟩

end

mutual

theorem lexemas_de_valor {valor : Valor} (clean : valor.SinLlaves) {ls : List Lexema}
    {resto : List Texto} (alternate : Alterna true ls)
    (same : ls.map Lexema.token = valor.lexemas.map Lexema.token ++ resto) :
    ∃ ls', ls = valor.lexemas ++ ls' ∧ ls'.map Lexema.token = resto ∧ Alterna false ls' := by
  cases valor with
  | escalar t =>
    cases ls with
    | nil => simp [Valor.lexemas] at same
    | cons l ls =>
      simp only [Valor.lexemas, List.map_cons, List.map_nil, List.cons_append, List.nil_append,
        List.cons.injEq, Lexema.token] at same
      obtain ⟨rfl, rfl⟩ := same
      cases l with
      | texto t => exact ⟨ls, rfl, rfl, alternate.2⟩
      | abre => exact absurd rfl clean
      | cierra => exact absurd alternate id
  | anidado s =>
    cases ls with
    | nil => simp [Valor.lexemas] at same
    | cons l ls =>
      simp only [Valor.lexemas, List.map_cons, List.map_append, List.map_nil, List.cons_append,
        List.append_assoc, List.nil_append, List.cons.injEq] at same
      obtain ⟨head, same⟩ := same
      cases l with
      | texto t => exact absurd head alternate.1
      | cierra => exact absurd alternate id
      | abre =>
        obtain ⟨ls', rfl, inner, after⟩ := lexemas_de_scope clean alternate same
        cases ls' with
        | nil => cases inner
        | cons l' ls' =>
          simp only [List.map_cons, List.cons.injEq] at inner
          cases l' with
          | texto t => exact absurd inner.1 after.2.1
          | abre => exact absurd (List.head_eq_of_cons_eq inner.1) llaves_distintas
          | cierra => exact ⟨ls', by simp [Valor.lexemas], inner.2, after⟩

theorem lexemas_de_scope {s : Scope} (clean : s.SinLlaves) {ls : List Lexema}
    {resto : List Texto} (alternate : Alterna false ls)
    (same : ls.map Lexema.token = s.lexemas.map Lexema.token ++ resto) :
    ∃ ls', ls = s.lexemas ++ ls' ∧ ls'.map Lexema.token = resto ∧ Alterna false ls' := by
  cases s with
  | vacio => exact ⟨ls, rfl, same, alternate⟩
  | entrada clave valor rest =>
    simp only [Scope.SinLlaves] at clean
    cases ls with
    | nil => simp [Scope.lexemas] at same
    | cons l ls =>
      simp only [Scope.lexemas, List.map_cons, List.map_append, List.cons_append,
        List.append_assoc, List.cons.injEq] at same
      obtain ⟨head, same⟩ := same
      cases l with
      | abre => exact absurd head.symm clean.1
      | cierra => exact absurd head.symm clean.2.1
      | texto t =>
        obtain rfl : t = clave := head
        obtain ⟨ls₁, rfl, same, after⟩ := lexemas_de_valor clean.2.2.1 alternate.2.2 same
        obtain ⟨ls₂, rfl, same, after⟩ := lexemas_de_scope clean.2.2.2 after same
        exact ⟨ls₂, by simp [Scope.lexemas], same, after⟩

end

/-- A rendering of a tree is read back as the tree exactly when no key is a lone brace, no
scalar a lone opening brace and the interpreter can take its nesting; and what is
accepted is a rendering of its tree exactly when each brace is unquoted where the
grammar asks for one and nowhere else. -/
theorem vdf_exacto (limite : Nat) :
    (∀ s text, EsRender s text →
      (parseVdfText limite text = .ok s ↔ s.SinLlaves ∧ s.profundidad ≤ limite)) ∧
    ∀ s text, parseVdfText limite text = .ok s → (EsRender s text ↔ Separable text) := by
  constructor
  · intro s text ⟨distinct, written⟩
    rw [parseVdfText_ok]
    constructor
    · intro ⟨_, clean, _, depth⟩
      exact ⟨clean, depth⟩
    · intro ⟨clean, depth⟩
      exact ⟨⟨s.lexemas, written, rfl⟩, clean, distinct, depth⟩
  · intro s text ran
    obtain ⟨_, clean, distinct, _⟩ := parseVdfText_ok.mp ran
    constructor
    · intro ⟨_, written⟩
      have alternate := @alterna_scope s clean [] trivial
      rw [List.append_nil] at alternate
      exact ⟨s.lexemas, written, alternate⟩
    · intro ⟨ls, written, alternate⟩
      have tokens : ls.map Lexema.token = s.lexemas.map Lexema.token ++ [] := by
        have tokenized := tokenize_escrito written 0
        simp only [parseVdfText, tokenized, bind, Except.bind] at ran
        rw [List.append_nil]
        exact (parseScope_ok.mp ran).1
      obtain ⟨ls', rfl, none_left, _⟩ := lexemas_de_scope clean alternate tokens
      obtain rfl : ls' = [] := List.map_eq_nil_iff.mp none_left
      rw [List.append_nil] at written
      exact ⟨distinct, written⟩

def texto (s : String) : Texto := s.toList.map .scalar

def anidado : Scope :=
  .entrada (texto "a") (.anidado (.entrada (texto "b") (.escalar (texto "1")) .vacio)) .vacio

theorem escrito_sin_blancos (ls : List Lexema) : Escrito ls (ls.flatMap Lexema.escrito) := by
  induction ls with
  | nil => exact .fin [] rfl
  | cons l ls ih => exact .mas [] rfl l ih

theorem anidado_leido :
    parseVdfText 1000 (texto "\"a\"\x7b\"b\"\"1\"\x7d") = .ok anidado ∧
      Separable (texto "\"a\"\x7b\"b\"\"1\"\x7d") := by
  have written : EsRender anidado (texto "\"a\"\x7b\"b\"\"1\"\x7d") :=
    ⟨by simp [Scope.Distintas, Valor.Distintas, anidado, Scope.claves],
      escrito_sin_blancos anidado.lexemas⟩
  have clean : anidado.SinLlaves ∧ anidado.profundidad ≤ 1000 := by
    simp [anidado, Scope.SinLlaves, Valor.SinLlaves, Scope.profundidad, Valor.profundidad, texto,
      abre, cierra]
  have ran := ((vdf_exacto 1000).1 _ _ written).mpr clean
  exact ⟨ran, ((vdf_exacto 1000).2 _ _ ran).mp written⟩

def llave : Scope := .entrada (texto "a") (.escalar (texto "\x7b")) .vacio

/-- A scalar that is an opening brace is not read back. -/
theorem llaves_confundidas :
    EsRender llave (texto "\"a\"\"\x7b\"") ∧
      parseVdfText 1000 (texto "\"a\"\"\x7b\"") = .error .scopeSinCerrar := by
  constructor
  · exact ⟨by simp [Scope.Distintas, Valor.Distintas, llave, Scope.claves],
      escrito_sin_blancos llave.lexemas⟩
  · decide +kernel

end VdfText
