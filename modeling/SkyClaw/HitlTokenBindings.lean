import SkyClaw.HitlTokens

set_option linter.all false

/-!
A live request has one token and a live token one request, whatever the
generator gives and in whatever order the calls come, so a button decides its
own request.
-/
namespace HitlTokens
open TransitionRuns Utf8Text

variable {s t : Registry} {requestId token : Texto} {α : Type}

/-! Callback data -/

theorem intercalate_three (name action token : Texto) :
    [dosPuntos].intercalate [name, action, token] = name ++ dosPuntos :: action ++ dosPuntos :: token := by
  simp [List.intercalate, List.intersperse]

theorem dosPuntos_notMem_token (valid : isValidHitlToken token = true) : dosPuntos ∉ token := by
  intro mem
  rw [isValidHitlToken, Bool.and_eq_true, List.all_eq_true] at valid
  have letter := valid.2 _ mem
  revert letter
  decide

theorem dosPuntos_notMem_action {action : Texto} (known : action ∈ hitlCallbackActions) : dosPuntos ∉ action := by
  simp only [hitlCallbackActions, List.mem_cons, List.not_mem_nil, or_false] at known
  rcases known with rfl | rfl <;> decide

theorem splitOn_build {action : Texto} (known : action ∈ hitlCallbackActions)
    (valid : isValidHitlToken token = true) :
    (hitlCallbackNamespace ++ dosPuntos :: action ++ dosPuntos :: token).splitOn dosPuntos =
      [hitlCallbackNamespace, action, token] := by
  rw [← intercalate_three]
  refine List.splitOn_intercalate dosPuntos ?_ (by simp)
  intro part mem
  simp only [List.mem_cons, List.not_mem_nil, or_false] at mem
  rcases mem with rfl | rfl | rfl
  · decide
  · exact dosPuntos_notMem_action known
  · exact dosPuntos_notMem_token valid

theorem parse_iff_build {data action token : Texto} :
    parseHitlCallbackData data = some (action, token) ↔ buildHitlCallbackData action token = .ok data := by
  constructor
  · intro parsed
    rw [parseHitlCallbackData] at parsed
    split at parsed
    · rename_i name action' token' split_
      split at parsed
      · cases parsed
      · rename_i accepted
        simp only [not_or, ne_eq, Classical.not_not, Bool.not_eq_false] at accepted
        obtain ⟨rfl, known, valid⟩ := accepted
        have whole : [dosPuntos].intercalate (data.splitOn dosPuntos) = data := List.intercalate_splitOn dosPuntos
        rw [split_, intercalate_three] at whole
        split at parsed
        · cases parsed
        · rename_i bytes encoded
          split at parsed
          · rename_i size
            cases parsed
            simp [buildHitlCallbackData, known, valid, whole, encoded, size]
          · cases parsed
    · cases parsed
  · intro built
    rw [buildHitlCallbackData] at built
    split at built
    · cases built
    · rename_i known
      rw [Classical.not_not] at known
      split at built
      · cases built
      · rename_i valid
        rw [Bool.not_eq_true', Bool.not_eq_false] at valid
        simp only at built
        split at built
        · cases built
        · rename_i bytes encoded
          split at built
          · rename_i size
            cases built
            rw [parseHitlCallbackData, splitOn_build known valid]
            simp only [encoded]
            simp [known, valid, size]
          · cases built

/-! Maps -/

theorem lookup_insert (m : Mapa α) (k key : Texto) (v : α) :
    (m.insert k v).lookup key = if key = k then some v else m.lookup key := by
  split
  · rename_i same
    subst same
    exact AList.lookup_insert m
  · rename_i other
    exact AList.lookup_insert_ne other

theorem lookup_erase (m : Mapa α) (k key : Texto) :
    (m.erase k).lookup key = if key = k then none else m.lookup key := by
  split
  · rename_i same
    subst same
    exact AList.lookup_erase key m
  · rename_i other
    exact AList.lookup_erase_ne other

theorem length_erase (m : Mapa α) (k : Texto) : (m.erase k).entries.length ≤ m.entries.length :=
  (List.kerase_sublist k m.entries).length_le

theorem length_insert {m : Mapa α} {k : Texto} {v : α} (fresh : m.lookup k = none) :
    (m.insert k v).entries.length = m.entries.length + 1 := by
  rw [AList.entries_insert_of_notMem (AList.lookup_eq_none.mp fresh)]
  rfl

/-! The registry -/

/-- The maps are one relation, and the window of retired tokens holds no live one. -/
structure Sano (s : Registry) : Prop where
  positivo : 0 < s.maxEntries
  biyeccion : ∀ r t, s.requestToToken.lookup r = some t ↔
    s.tokenToRequest.lookup t = some r ∨ s.registeredTokens.lookup t = some r
  separados : ∀ t r, s.tokenToRequest.lookup t = some r → s.registeredTokens.lookup t = none
  mensaje : ∀ r m, s.entries.lookup r = some m → s.registeredTokens.lookup m.token = some r
  registrado : ∀ t r, s.registeredTokens.lookup t = some r → ∃ m, s.entries.lookup r = some m ∧ m.token = t
  lleno : ∀ r t, s.requestToToken.lookup r = some t → r ≠ []
  tope : s.requestToToken.entries.length ≤ s.maxEntries
  retirados : ∀ t, t ∈ s.retiredTokenSet ↔ t ∈ s.retiredTokens
  ventana : s.retiredTokens.length ≤ s.maxEntries
  distintos : s.retiredTokens.Nodup
  libres : ∀ t ∈ s.retiredTokens, ∀ r, s.requestToToken.lookup r ≠ some t

theorem Sano.nuevo {maxEntries maxTokenAttempts : Nat} (positive : 0 < maxEntries) :
    Sano (.nuevo maxEntries maxTokenAttempts) := by
  constructor <;> simp [Registry.nuevo, positive]

theorem Sano.una (sano : Sano s) {r r' t : Texto} (first : s.requestToToken.lookup r = some t)
    (second : s.requestToToken.lookup r' = some t) : r = r' := by
  rcases (sano.biyeccion r t).mp first with a | a <;> rcases (sano.biyeccion r' t).mp second with b | b
  · exact Option.some.inj (a.symm.trans b)
  · rw [sano.separados t r a] at b
    cases b
  · rw [sano.separados t r' b] at a
    cases a
  · exact Option.some.inj (a.symm.trans b)

theorem busca_ok {tokenFactory : Nat → Generado} {attempts k : Nat}
    (found : s.busca tokenFactory attempts k = .ok token) : isValidHitlToken token = true ∧ s.libre token = true := by
  induction attempts generalizing k with
  | zero => cases found
  | succ attempts ih =>
    rw [Registry.busca] at found
    split at found
    · cases found
    · exact ih found
    · split at found
      · rename_i good
        cases found
        rwa [Bool.and_eq_true] at good
      · exact ih found

theorem Sano.fresco (sano : Sano s) (free : s.libre token = true) :
    (∀ r, s.requestToToken.lookup r ≠ some token) ∧ s.tokenToRequest.lookup token = none ∧
      s.registeredTokens.lookup token = none ∧ token ∉ s.retiredTokens := by
  simp only [Registry.libre, Bool.and_eq_true, Option.isNone_iff_eq_none, decide_eq_true_eq] at free
  obtain ⟨⟨reserved, registered⟩, retired⟩ := free
  refine ⟨fun r is => ?_, reserved, registered, fun mem => retired ((sano.retirados token).mpr mem)⟩
  rcases (sano.biyeccion r token).mp is with is | is
  · rw [reserved] at is
    cases is
  · rw [registered] at is
    cases is

/-- A free token is given to a request that has none. -/
theorem Sano.reserva (sano : Sano s) (request : requestId ≠ []) (none_ : s.requestToToken.lookup requestId = none)
    (room : s.requestToToken.entries.length < s.maxEntries) (free : s.libre token = true) :
    Sano { s with
      requestToToken := s.requestToToken.insert requestId token
      tokenToRequest := s.tokenToRequest.insert token requestId } := by
  obtain ⟨unused, reserved, registered, unretired⟩ := sano.fresco free
  constructor
  · exact sano.positivo
  · intro r t
    simp only [lookup_insert]
    have old := sano.biyeccion r t
    by_cases same : r = requestId <;> by_cases same' : t = token
    · simp [same, same']
    · subst same
      have none' : s.tokenToRequest.lookup t ≠ some r ∧ s.registeredTokens.lookup t ≠ some r := by
        rw [none_] at old
        simp only [reduceCtorEq, false_iff, not_or] at old
        exact old
      simp [same', Ne.symm same', none'.1, none'.2]
    · subst same'
      simp [same, Ne.symm same, unused r, registered]
    · simp [same, same', old]
  · intro t r
    simp only [lookup_insert]
    split
    · rename_i same
      intro _
      rw [same, registered]
    · exact sano.separados t r
  · exact sano.mensaje
  · exact sano.registrado
  · intro r t
    simp only [lookup_insert]
    split
    · rename_i same
      intro _
      rw [same]
      exact request
    · exact sano.lleno r t
  · simp only [length_insert none_]
    omega
  · exact sano.retirados
  · exact sano.ventana
  · exact sano.distintos
  · intro t mem r
    simp only [lookup_insert]
    split
    · intro is
      cases is
      exact unretired mem
    · exact sano.libres t mem r

/-- The message of a reserved token is noted. -/
theorem Sano.inscribe {m : TelegramHITLMessage} (sano : Sano s)
    (reserved : s.tokenToRequest.lookup m.token = some requestId) (free : s.entries.lookup requestId = none) :
    Sano (inscribe requestId m s) := by
  have unregistered := sano.separados _ _ reserved
  constructor
  · exact sano.positivo
  · intro r t
    simp only [HitlTokens.inscribe, lookup_insert, lookup_erase]
    rw [sano.biyeccion r t]
    split
    · rename_i same
      subst same
      simp [reserved, unregistered]
    · rfl
  · intro t r
    simp only [HitlTokens.inscribe, lookup_insert, lookup_erase]
    split
    · intro is
      cases is
    · exact sano.separados t r
  · intro r n
    simp only [HitlTokens.inscribe, lookup_insert]
    split
    · rename_i same
      intro is
      cases is
      simp [same]
    · intro is
      have old := sano.mensaje r n is
      split
      · rename_i same
        rw [same, unregistered] at old
        cases old
      · exact old
  · intro t r
    simp only [HitlTokens.inscribe, lookup_insert]
    split
    · rename_i same
      intro is
      cases is
      exact ⟨m, by simp, same.symm⟩
    · intro is
      obtain ⟨n, at_, named⟩ := sano.registrado t r is
      have other : r ≠ requestId := by
        intro same
        rw [same, free] at at_
        cases at_
      exact ⟨n, by rw [if_neg other, at_], named⟩
  · exact sano.lleno
  · exact sano.tope
  · exact sano.retirados
  · exact sano.ventana
  · exact sano.distintos
  · exact sano.libres

/-! Retirement -/

theorem retire_eq (sano : Sano s) (unretired : token ∉ s.retiredTokens) :
    retireTokenLocked token s = { s with
      retiredTokens := (if s.retiredTokens.length = s.maxEntries then s.retiredTokens.tail else s.retiredTokens) ++ [token]
      retiredTokenSet := insert token (if s.retiredTokens.length = s.maxEntries then
        s.retiredTokenSet.erase (s.retiredTokens.headD []) else s.retiredTokenSet) } := by
  rw [retireTokenLocked, if_neg (fun mem => unretired ((sano.retirados token).mp mem))]
  have positive := sano.positivo
  split
  · rename_i full
    cases window : s.retiredTokens with
    | nil =>
      rw [window] at full
      simp only [List.length_nil] at full
      omega
    | cons oldest rest => simp
  · rfl

theorem mem_tail_iff {l : List Texto} (nodup : l.Nodup) (t : Texto) :
    t ∈ l.tail ↔ t ∈ l ∧ t ≠ l.headD [] ∨ t ∈ l ∧ l = [] := by
  cases l with
  | nil => simp
  | cons oldest rest =>
    have fresh := (List.nodup_cons.mp nodup).1
    simp only [List.tail_cons, List.mem_cons, List.headD_cons]
    constructor
    · intro mem
      exact .inl ⟨.inr mem, fun same => fresh (same ▸ mem)⟩
    · rintro (⟨same | mem, other⟩ | ⟨_, empty⟩)
      · exact absurd same other
      · exact mem
      · cases empty

theorem Sano.retira (sano : Sano s) (dead : ∀ r, s.requestToToken.lookup r ≠ some token)
    (unretired : token ∉ s.retiredTokens) : Sano (retireTokenLocked token s) := by
  rw [retire_eq sano unretired]
  have positive := sano.positivo
  have window := sano.ventana
  have sub : ∀ t, t ∈ (if s.retiredTokens.length = s.maxEntries then s.retiredTokens.tail else s.retiredTokens) →
      t ∈ s.retiredTokens := by
    intro t mem
    split at mem
    · exact List.mem_of_mem_tail mem
    · exact mem
  refine { sano with retirados := ?_, ventana := ?_, distintos := ?_, libres := ?_ }
  · intro t
    simp only [Finset.mem_insert, List.mem_append, List.mem_singleton]
    rw [or_comm]
    refine or_congr ?_ Iff.rfl
    split
    · rename_i full
      rw [Finset.mem_erase, sano.retirados t, mem_tail_iff sano.distintos, and_comm]
      have some_ : s.retiredTokens ≠ [] := by
        intro empty
        rw [empty, List.length_nil] at full
        omega
      simp [some_]
    · exact sano.retirados t
  · simp only [List.length_append, List.length_singleton]
    split
    · rw [List.length_tail]
      omega
    · omega
  · simp only [List.nodup_append, List.nodup_singleton, List.mem_singleton, true_and]
    refine ⟨?_, fun t mem u same => ?_⟩
    · split
      · exact sano.distintos.tail
      · exact sano.distintos
    · subst same
      intro same
      exact unretired (same ▸ sub t mem)
  · intro t mem r
    simp only [List.mem_append, List.mem_singleton] at mem
    rcases mem with old | rfl
    · exact sano.libres t (sub t old) r
    · exact dead r

/-- A request loses its token, in all the maps. -/
theorem Sano.suelta (sano : Sano s) (at_ : s.requestToToken.lookup requestId = some token) :
    Sano { s with
      entries := s.entries.erase requestId
      requestToToken := s.requestToToken.erase requestId
      tokenToRequest := s.tokenToRequest.erase token
      registeredTokens := s.registeredTokens.erase token } := by
  constructor
  · exact sano.positivo
  · intro r t
    simp only [lookup_erase]
    have old := sano.biyeccion r t
    by_cases same : r = requestId
    · subst same
      by_cases same' : t = token
      · simp [same']
      · rw [at_] at old
        simp only [Option.some.injEq, Ne.symm same', false_iff, not_or] at old
        simp [same', old.1, old.2]
    · by_cases same' : t = token
      · subst same'
        have other : s.requestToToken.lookup r ≠ some t := fun is => same (sano.una is at_)
        simp [same, other]
      · simp [same, same', old]
  · intro t r
    simp only [lookup_erase]
    split
    · intro is
      cases is
    · exact sano.separados t r
  · intro r m
    simp only [lookup_erase]
    split
    · intro is
      cases is
    · rename_i other
      intro is
      have old := sano.mensaje r m is
      have bound := (sano.biyeccion r m.token).mpr (.inr old)
      rw [if_neg]
      · exact old
      · intro same
        rw [same] at bound
        exact other (sano.una bound at_)
  · intro t r
    simp only [lookup_erase]
    split
    · intro is
      cases is
    · rename_i other
      intro is
      obtain ⟨m, at_m, named⟩ := sano.registrado t r is
      have bound := (sano.biyeccion r t).mpr (.inr is)
      refine ⟨m, ?_, named⟩
      rw [if_neg]
      · exact at_m
      · intro same
        rw [same, at_] at bound
        exact other (Option.some.inj bound).symm
  · intro r t
    simp only [lookup_erase]
    split
    · intro is
      cases is
    · exact sano.lleno r t
  · exact Nat.le_trans (length_erase _ _) sano.tope
  · exact sano.retirados
  · exact sano.ventana
  · exact sano.distintos
  · intro t mem r
    simp only [lookup_erase]
    split
    · simp
    · exact sano.libres t mem r

theorem Sano.muerto (sano : Sano s) (at_ : s.requestToToken.lookup requestId = some token) (r : Texto) :
    (s.requestToToken.erase requestId).lookup r ≠ some token := by
  rw [lookup_erase]
  split
  · simp
  · rename_i other
    exact fun is => other (sano.una is at_)

theorem Sano.sinRetirar (sano : Sano s) (at_ : s.requestToToken.lookup requestId = some token) :
    token ∉ s.retiredTokens := fun mem => sano.libres token mem requestId at_

/-- A reserved token has no message yet. -/
theorem Sano.sinMensaje (sano : Sano s) (reserved : s.tokenToRequest.lookup token = some requestId) :
    s.entries.lookup requestId = none := by
  rw [Option.eq_none_iff_forall_not_mem]
  intro m at_
  have registered := sano.mensaje requestId m at_
  have bound := (sano.biyeccion requestId m.token).mpr (.inr registered)
  have reserved_ := (sano.biyeccion requestId token).mpr (.inl reserved)
  rw [bound] at reserved_
  rw [Option.some.inj reserved_, sano.separados token requestId reserved] at registered
  cases registered

theorem erase_of_lookup {m : Mapa α} {k : Texto} (free : m.lookup k = none) : m.erase k = m := by
  apply AList.ext
  exact List.kerase_of_notMem_keys (AList.lookup_eq_none.mp free)

theorem releaseToken_eq (sano : Sano s) (reserved : s.tokenToRequest.lookup token = some requestId) :
    releaseToken token s = (true, retireTokenLocked token { s with
      entries := s.entries.erase requestId
      requestToToken := s.requestToToken.erase requestId
      tokenToRequest := s.tokenToRequest.erase token
      registeredTokens := s.registeredTokens.erase token }) := by
  have bound := (sano.biyeccion requestId token).mpr (.inl reserved)
  rw [releaseToken, reserved]
  simp only [bound, if_true, erase_of_lookup (sano.sinMensaje reserved),
    erase_of_lookup (sano.separados token requestId reserved)]

theorem Sano.releaseToken (token : Texto) (sano : Sano s) : Sano (releaseToken token s).2 := by
  cases reserved : s.tokenToRequest.lookup token with
  | none =>
    rw [HitlTokens.releaseToken, reserved]
    exact sano
  | some requestId =>
    have bound := (sano.biyeccion requestId token).mpr (.inl reserved)
    rw [releaseToken_eq sano reserved]
    exact (sano.suelta bound).retira (sano.muerto bound) (sano.sinRetirar bound)

theorem Sano.pop (requestId : Texto) (sano : Sano s) : Sano (pop requestId s).2 := by
  rw [HitlTokens.pop]
  simp only
  cases bound : s.requestToToken.lookup requestId with
  | none =>
    have absent : s.entries.lookup requestId = none := by
      rw [Option.eq_none_iff_forall_not_mem]
      intro m at_
      have is := (sano.biyeccion requestId m.token).mpr (.inr (sano.mensaje requestId m at_))
      rw [bound] at is
      cases is
    simp only [erase_of_lookup absent]
    exact sano
  | some token => exact (sano.suelta bound).retira (sano.muerto bound) (sano.sinRetirar bound)

/-- What a reservation that succeeds leaves. -/
theorem reserveTokenLocked_ok {tokenFactory : Nat → Generado}
    (given : (reserveTokenLocked tokenFactory requestId s).1 = .ok token) :
    s.requestToToken.lookup requestId = none ∧ s.requestToToken.entries.length < s.maxEntries ∧
      isValidHitlToken token = true ∧ s.libre token = true ∧
      (reserveTokenLocked tokenFactory requestId s).2 = { s with
        requestToToken := s.requestToToken.insert requestId token
        tokenToRequest := s.tokenToRequest.insert token requestId } := by
  rw [reserveTokenLocked] at given ⊢
  split at given
  · cases given
  · rename_i none_
    rw [Bool.not_eq_true, Option.isSome_eq_false_iff, Option.isNone_iff_eq_none] at none_
    split at given
    · cases given
    · rename_i room
      split at given
      · cases given
      · rename_i found
        cases given
        obtain ⟨valid, free⟩ := busca_ok found
        refine ⟨none_, by omega, valid, free, ?_⟩
        simp [none_, room]

theorem reserveTokenLocked_error {tokenFactory : Nat → Generado} {e : Error}
    (refused : (reserveTokenLocked tokenFactory requestId s).1 = .error e) :
    (reserveTokenLocked tokenFactory requestId s).2 = s := by
  rw [reserveTokenLocked] at refused ⊢
  split
  · rfl
  · split
    · rfl
    · split
      · rfl
      · simp_all

/-- A reservation is refused and changes nothing, or gives a free token to a request that had none. -/
theorem reserveToken_cases (tokenFactory : Nat → Generado) (requestId : Texto) (s : Registry) :
    (∃ e, reserveToken tokenFactory requestId s = (.error e, s)) ∨
    ∃ token, requestId ≠ [] ∧ s.requestToToken.lookup requestId = none ∧
      s.requestToToken.entries.length < s.maxEntries ∧ s.libre token = true ∧
      reserveToken tokenFactory requestId s = (.ok token, { s with
        requestToToken := s.requestToToken.insert requestId token
        tokenToRequest := s.tokenToRequest.insert token requestId }) := by
  rw [reserveToken]
  split
  · exact .inl ⟨_, rfl⟩
  · rename_i request
    cases result : (reserveTokenLocked tokenFactory requestId s).1 with
    | error e => exact .inl ⟨e, Prod.ext result (reserveTokenLocked_error result)⟩
    | ok token =>
      obtain ⟨none_, room, _, free, left⟩ := reserveTokenLocked_ok result
      exact .inr ⟨token, request, none_, room, free, Prod.ext result left⟩

/-- A registration is refused and changes nothing, or notes the message of a reserved token, which it
may have to reserve first. -/
theorem register_cases (tokenFactory : Nat → Generado) (requestId : Texto) (chatId messageId : Int) (sender : Nat)
    (token : Option Texto) (s : Registry) :
    (∃ e, register tokenFactory requestId chatId messageId sender token s = (.error e, s)) ∨
    (∃ given m, m.token = given ∧ s.requestToToken.lookup requestId = some given ∧
      s.tokenToRequest.lookup given = some requestId ∧ s.entries.lookup requestId = none ∧
      register tokenFactory requestId chatId messageId sender token s = (.ok given, inscribe requestId m s)) ∨
    ∃ given m, m.token = given ∧ requestId ≠ [] ∧ s.requestToToken.lookup requestId = none ∧
      s.requestToToken.entries.length < s.maxEntries ∧ s.libre given = true ∧ s.entries.lookup requestId = none ∧
      register tokenFactory requestId chatId messageId sender token s = (.ok given, inscribe requestId m { s with
        requestToToken := s.requestToToken.insert requestId given
        tokenToRequest := s.tokenToRequest.insert given requestId }) := by
  rw [register.eq_def]
  split
  · exact .inl ⟨_, rfl⟩
  · rename_i request
    split
    · exact .inl ⟨_, rfl⟩
    · rename_i absent
      rw [Bool.not_eq_true, Option.isSome_eq_false_iff, Option.isNone_iff_eq_none] at absent
      cases token with
      | none =>
        simp only
        split
        · exact .inl ⟨_, rfl⟩
        · cases result : (reserveTokenLocked tokenFactory requestId s).1 with
          | error e =>
            have whole := Prod.ext (y := (.error e, s)) result (reserveTokenLocked_error result)
            rw [whole]
            exact .inl ⟨e, rfl⟩
          | ok given =>
            obtain ⟨none_, room, _, free, left⟩ := reserveTokenLocked_ok result
            have whole := Prod.ext (y := (.ok given, _)) result left
            rw [whole]
            exact .inr (.inr ⟨given, _, rfl, request, none_, room, free, absent, rfl⟩)
      | some given =>
        simp only
        split
        · exact .inl ⟨_, rfl⟩
        · split
          · exact .inl ⟨_, rfl⟩
          · rename_i bound
            simp only [ne_eq, not_or, Classical.not_not] at bound
            exact .inr (.inl ⟨given, _, rfl, bound.1, bound.2, absent, rfl⟩)

theorem Sano.reserveToken (tokenFactory : Nat → Generado) (requestId : Texto) (sano : Sano s) :
    Sano (reserveToken tokenFactory requestId s).2 := by
  rcases reserveToken_cases tokenFactory requestId s with ⟨e, refused⟩ | ⟨given, request, none_, room, free, left⟩
  · rw [refused]
    exact sano
  · rw [left]
    exact sano.reserva request none_ room free

theorem Sano.register (tokenFactory : Nat → Generado) (requestId : Texto) (chatId messageId : Int) (sender : Nat)
    (token : Option Texto) (sano : Sano s) :
    Sano (register tokenFactory requestId chatId messageId sender token s).2 := by
  rcases register_cases tokenFactory requestId chatId messageId sender token s with
    ⟨e, refused⟩ | ⟨given, m, rfl, _, reserved, absent, left⟩ |
      ⟨given, m, rfl, request, none_, room, free, absent, left⟩
  · rw [refused]
    exact sano
  · rw [left]
    exact sano.inscribe reserved absent
  · rw [left]
    refine (sano.reserva request none_ room free).inscribe ?_ absent
    simp

/-! What has happened to the tokens -/

/-- The retirements since the last `clear`, the last first. -/
def retiros : List Suceso → List Texto
  | [] | .limpia :: _ => []
  | .retira token :: sucesos => token :: retiros sucesos
  | .entrega _ _ :: sucesos => retiros sucesos

structure Historico (s : Estado) : Prop where
  ventana : s.registry.retiredTokens.reverse = (retiros s.historial).take s.registry.maxEntries
  entregas : ∀ antes despues token requestId, s.historial = antes ++ .entrega token requestId :: despues →
    token ∉ (retiros despues).take s.registry.maxEntries

theorem take_cons_full {l : List Texto} {n : Nat} (positive : 0 < n) :
    (token :: l).take n = token :: (l.take n).take (n - 1) := by
  cases n with
  | zero => omega
  | succ n => simp [List.take_take]

/-- The window moves on by one. -/
theorem retire_reverse (sano : Sano s) (unretired : token ∉ s.retiredTokens) :
    (retireTokenLocked token s).retiredTokens.reverse =
      token :: s.retiredTokens.reverse.take (s.maxEntries - 1) := by
  have window := sano.ventana
  rw [retire_eq sano unretired]
  simp only [List.reverse_append, List.reverse_cons, List.reverse_nil, List.nil_append, List.singleton_append,
    List.cons.injEq, true_and]
  split
  · rename_i full
    rw [← full, ← List.length_reverse, ← List.dropLast_eq_take, List.dropLast_reverse]
  · rw [List.take_of_length_le]
    rw [List.length_reverse]
    omega

theorem Historico.retira {u : Registry} {h : List Suceso} (old : Historico ⟨s, h⟩) (sano : Sano u)
    (window : u.retiredTokens = s.retiredTokens) (size : u.maxEntries = s.maxEntries)
    (unretired : token ∉ s.retiredTokens) : Historico ⟨retireTokenLocked token u, .retira token :: h⟩ := by
  have same : (retireTokenLocked token u).maxEntries = s.maxEntries := by
    rw [retire_eq sano (window ▸ unretired)]
    exact size
  constructor
  · simp only [same, retiros]
    rw [retire_reverse sano (window ▸ unretired), window, old.ventana, size,
      take_cons_full (size ▸ sano.positivo)]
  · intro antes despues t r split_
    simp only [same] at split_ ⊢
    cases antes with
    | nil => cases split_
    | cons first antes =>
      simp only [List.cons_append, List.cons.injEq] at split_
      exact old.entregas antes despues t r split_.2

theorem Historico.entrega {u : Registry} {h : List Suceso} (old : Historico ⟨s, h⟩)
    (window : u.retiredTokens = s.retiredTokens) (size : u.maxEntries = s.maxEntries)
    (unretired : token ∉ s.retiredTokens) : Historico ⟨u, .entrega token requestId :: h⟩ := by
  constructor
  · simp only [window, size, retiros]
    exact old.ventana
  · intro antes despues t r split_
    simp only [size] at split_ ⊢
    cases antes with
    | nil =>
      simp only [List.nil_append, List.cons.injEq, Suceso.entrega.injEq] at split_
      obtain ⟨⟨rfl, rfl⟩, rfl⟩ := split_
      rw [← old.ventana, List.mem_reverse]
      exact unretired
    | cons first antes =>
      simp only [List.cons_append, List.cons.injEq] at split_
      exact old.entregas antes despues t r split_.2

theorem Historico.mismo {u : Registry} {h : List Suceso} (old : Historico ⟨s, h⟩)
    (window : u.retiredTokens = s.retiredTokens) (size : u.maxEntries = s.maxEntries) : Historico ⟨u, h⟩ := by
  constructor
  · simp only [window, size]
    exact old.ventana
  · simp only [size]
    exact old.entregas

structure Inv (s : Estado) : Prop where
  sano : Sano s.registry
  historico : Historico s

theorem Inv.reserveToken {s t : Estado} {tokenFactory : Nat → Generado} (inv : Inv s)
    (moved : step s (.reserveToken tokenFactory requestId) = some t) : Inv t := by
  obtain ⟨sano, historico⟩ := inv
  simp only [step, Option.some.injEq] at moved
  subst moved
  have after := sano.reserveToken tokenFactory requestId
  rcases reserveToken_cases tokenFactory requestId s.registry with
    ⟨e, refused⟩ | ⟨given, request, none_, room, free, left⟩
  · rw [refused]
    exact ⟨sano, historico⟩
  · rw [left] at after ⊢
    refine ⟨after, ?_⟩
    simp only [Estado.entrega, none_, Option.isSome_none, Bool.false_eq_true, if_false]
    exact historico.entrega rfl rfl (sano.fresco free).2.2.2

theorem Inv.register {s t : Estado} {tokenFactory : Nat → Generado} {chatId messageId : Int} {sender : Nat}
    {token : Option Texto} (inv : Inv s)
    (moved : step s (.register tokenFactory requestId chatId messageId sender token) = some t) : Inv t := by
  obtain ⟨sano, historico⟩ := inv
  simp only [step, Option.some.injEq] at moved
  subst moved
  have after := sano.register tokenFactory requestId chatId messageId sender token
  rcases register_cases tokenFactory requestId chatId messageId sender token s.registry with
    ⟨e, refused⟩ | ⟨given, m, _, bound, _, _, left⟩ | ⟨given, m, _, _, none_, _, free, _, left⟩
  · rw [refused]
    exact ⟨sano, historico⟩
  · rw [left] at after ⊢
    refine ⟨after, ?_⟩
    simp only [Estado.entrega, bound, Option.isSome_some, if_true]
    exact historico.mismo rfl rfl
  · rw [left] at after ⊢
    refine ⟨after, ?_⟩
    simp only [Estado.entrega, none_, Option.isSome_none, Bool.false_eq_true, if_false]
    exact historico.entrega rfl rfl (sano.fresco free).2.2.2

theorem Inv.step {s t : Estado} {e : Evento} (inv : Inv s) (moved : step s e = some t) : Inv t := by
  cases e with
  | reserveToken tokenFactory requestId => exact inv.reserveToken moved
  | register tokenFactory requestId chatId messageId sender token => exact inv.register moved
  | resolveToken token | presiona query =>
    cases moved
    exact inv
  | releaseToken token =>
    obtain ⟨sano, historico⟩ := inv
    cases reserved : s.registry.tokenToRequest.lookup token with
    | none =>
      have whole : HitlTokens.releaseToken token s.registry = (false, s.registry) := by rw [HitlTokens.releaseToken, reserved]
      simp only [HitlTokens.step, whole, Option.some.injEq] at moved
      subst moved
      exact ⟨sano, historico⟩
    | some requestId =>
      have bound := (sano.biyeccion requestId token).mpr (.inl reserved)
      have after := sano.releaseToken token
      rw [releaseToken_eq sano reserved] at after
      simp only [HitlTokens.step, releaseToken_eq sano reserved, Option.some.injEq] at moved
      subst moved
      exact ⟨after, historico.retira (sano.suelta bound) rfl rfl (sano.sinRetirar bound)⟩
  | pop requestId =>
    obtain ⟨sano, historico⟩ := inv
    have after := sano.pop requestId
    simp only [HitlTokens.step, Option.some.injEq] at moved
    subst moved
    refine ⟨after, ?_⟩
    rw [HitlTokens.pop]
    simp only
    cases bound : s.registry.requestToToken.lookup requestId with
    | none => exact historico.mismo rfl rfl
    | some token => exact historico.retira (sano.suelta bound) rfl rfl (sano.sinRetirar bound)
  | clear =>
    obtain ⟨sano, historico⟩ := inv
    simp only [HitlTokens.step, Option.some.injEq] at moved
    subst moved
    refine ⟨.nuevo sano.positivo, ?_, ?_⟩
    · simp [HitlTokens.clear, Registry.nuevo, retiros]
    · intro antes despues t r split_
      cases antes with
      | nil => cases split_
      | cons first antes =>
        simp only [List.cons_append, List.cons.injEq] at split_
        exact historico.entregas antes despues t r split_.2

/-! Live requests and their buttons -/

/-- The token is reserved or registered for the request. -/
def Registry.Ata (s : Registry) (token requestId : Texto) : Prop :=
  s.tokenToRequest.lookup token = some requestId ∨ s.registeredTokens.lookup token = some requestId

/-- The request holds a place or has a message. -/
def Registry.Viva (s : Registry) (requestId : Texto) : Prop :=
  (s.requestToToken.lookup requestId).isSome = true ∨ (s.entries.lookup requestId).isSome = true

def Registry.VivoToken (s : Registry) (token : Texto) : Prop :=
  (s.tokenToRequest.lookup token).isSome = true ∨ (s.registeredTokens.lookup token).isSome = true

/-- The call says no. -/
def Rehusa (s : Registry) : Evento → Prop
  | .reserveToken tokenFactory requestId => ∃ e, (reserveToken tokenFactory requestId s).1 = .error e
  | .register tokenFactory requestId chatId messageId sender token =>
    ∃ e, (register tokenFactory requestId chatId messageId sender token s).1 = .error e
  | .releaseToken token => (releaseToken token s).1 = false
  | .pop requestId => ¬ s.Viva requestId
  | .resolveToken _ | .presiona _ => True
  | .clear => False

structure Propio (s : Estado) : Prop where
  unToken : ∀ r, s.registry.Viva r → ∃ t, s.registry.Ata t r ∧ ∀ u, s.registry.Ata u r → u = t
  unaSolicitud : ∀ t, s.registry.VivoToken t → ∃ r, s.registry.Ata t r ∧ ∀ q, s.registry.Ata t q → q = r
  tope : ∀ requests : List Texto, requests.Nodup → (∀ r ∈ requests, s.registry.Viva r) →
    requests.length ≤ s.registry.maxEntries
  resuelve : ∀ t r, resolveToken t s.registry = some r ↔ s.registry.Ata t r
  pulsa : ∀ query r approved, handleCallbackQuery query s.registry = some (r, approved) →
    ∃ action token data, query.data = some data ∧ buildHitlCallbackData action token = .ok data ∧
      s.registry.Ata token r ∧ approved = decide (action = texto "approve")
  retirados : ∀ antes despues token requestId, s.historial = antes ++ .entrega token requestId :: despues →
    token ∉ (retiros despues).take s.registry.maxEntries
  rehusa : ∀ e, Rehusa s.registry e → step s e = some s

theorem Sano.vivas (sano : Sano s) (alive : s.Viva requestId) :
    ∃ token, s.requestToToken.lookup requestId = some token := by
  rcases alive with bound | message
  · exact Option.isSome_iff_exists.mp bound
  · obtain ⟨m, at_⟩ := Option.isSome_iff_exists.mp message
    exact ⟨m.token, (sano.biyeccion _ _).mpr (.inr (sano.mensaje _ m at_))⟩

theorem Sano.resuelve (sano : Sano s) (t r : Texto) : resolveToken t s = some r ↔ s.Ata t r := by
  rw [resolveToken]
  have lleno := sano.lleno
  cases reserved : s.tokenToRequest.lookup t with
  | none => simp [Registry.Ata, reserved]
  | some q =>
    have unregistered := sano.separados t q reserved
    have bound := (sano.biyeccion q t).mpr (.inl reserved)
    cases q with
    | nil => exact absurd rfl (lleno [] t bound)
    | cons first rest => simp [Registry.Ata, reserved, unregistered]

theorem Sano.rehusa {s : Estado} {e : Evento} (sano : Sano s.registry) (refused : Rehusa s.registry e) :
    step s e = some s := by
  cases e with
  | reserveToken tokenFactory requestId =>
    obtain ⟨e, error⟩ := refused
    rcases reserveToken_cases tokenFactory requestId s.registry with ⟨e', no⟩ | ⟨given, _, _, _, _, left⟩
    · rw [step, no]
      rfl
    · rw [left] at error
      cases error
  | register tokenFactory requestId chatId messageId sender token =>
    obtain ⟨e, error⟩ := refused
    rcases register_cases tokenFactory requestId chatId messageId sender token s.registry with
      ⟨e', no⟩ | ⟨given, m, _, _, _, _, left⟩ | ⟨given, m, _, _, _, _, _, _, left⟩
    · rw [step, no]
      rfl
    · rw [left] at error
      cases error
    · rw [left] at error
      cases error
  | releaseToken token =>
    cases reserved : s.registry.tokenToRequest.lookup token with
    | none =>
      have whole : HitlTokens.releaseToken token s.registry = (false, s.registry) := by rw [HitlTokens.releaseToken, reserved]
      rw [step, whole]
    | some requestId =>
      rw [Rehusa, releaseToken_eq sano reserved] at refused
      cases refused
  | pop requestId =>
    rw [Rehusa, Registry.Viva, not_or, Bool.not_eq_true, Bool.not_eq_true, Option.isSome_eq_false_iff,
      Option.isSome_eq_false_iff, Option.isNone_iff_eq_none, Option.isNone_iff_eq_none] at refused
    simp only [step, HitlTokens.pop, refused.1, erase_of_lookup refused.2]
  | clear => cases refused
  | resolveToken token | presiona query => rfl

theorem Inv.propio {s : Estado} (inv : Inv s) : Propio s where
  unToken r alive := by
    obtain ⟨t, bound⟩ := inv.sano.vivas alive
    refine ⟨t, (inv.sano.biyeccion r t).mp bound, fun u also => ?_⟩
    have bound' := (inv.sano.biyeccion r u).mpr also
    exact Option.some.inj (bound'.symm.trans bound)
  unaSolicitud t alive := by
    have ties : ∃ r, s.registry.Ata t r := by
      rcases alive with reserved | registered
      · obtain ⟨r, is⟩ := Option.isSome_iff_exists.mp reserved
        exact ⟨r, .inl is⟩
      · obtain ⟨r, is⟩ := Option.isSome_iff_exists.mp registered
        exact ⟨r, .inr is⟩
    obtain ⟨r, tied⟩ := ties
    refine ⟨r, tied, fun q also => ?_⟩
    exact inv.sano.una ((inv.sano.biyeccion q t).mpr also) ((inv.sano.biyeccion r t).mpr tied)
  tope requests nodup alive := by
    have sub : requests ⊆ s.registry.requestToToken.keys := by
      intro r mem
      obtain ⟨t, bound⟩ := inv.sano.vivas (alive r mem)
      exact AList.mem_keys.mp (AList.lookup_isSome.mp (bound ▸ rfl))
    have short := (nodup.subperm sub).length_le
    rw [AList.keys, List.keys, List.length_map] at short
    exact Nat.le_trans short inv.sano.tope
  resuelve := inv.sano.resuelve
  pulsa query r approved pressed := by
    rw [handleCallbackQuery] at pressed
    split at pressed
    · cases pressed
    · split at pressed
      · cases pressed
      · rename_i action token parsed
        obtain ⟨data, given, parsed⟩ := Option.bind_eq_some_iff.mp parsed
        obtain ⟨q, resolved, same⟩ := Option.map_eq_some_iff.mp pressed
        obtain ⟨rfl, rfl⟩ := Prod.mk.injEq .. ▸ same
        exact ⟨action, token, data, given, parse_iff_build.mp parsed, (inv.sano.resuelve token q).mp resolved, rfl⟩
  retirados := inv.historico.entregas
  rehusa _ refused := inv.sano.rehusa refused

theorem boton_propio {s : Estado} (reached : Reaches step Inicio (fun _ _ => True) s) :
    Propio s ∧ ∀ data action token,
      parseHitlCallbackData data = some (action, token) ↔ buildHitlCallbackData action token = .ok data := by
  refine ⟨Inv.propio ?_, fun _ _ _ => parse_iff_build⟩
  refine reached.invariant ?_ fun s e t inv _ moved => inv.step moved
  intro s first
  obtain ⟨maxEntries, attempts, positive, _, rfl⟩ := first
  refine ⟨.nuevo positive, by simp [Registry.nuevo, retiros], ?_⟩
  intro antes despues t r split_
  exact absurd split_.symm (List.append_ne_nil_of_right_ne_nil _ (List.cons_ne_nil _ _))

/-- Two requests, one retired and its token refused when the generator gives it again. -/
theorem boton_propio_dos :
    ∃ s, Reaches step Inicio (fun _ _ => True) s ∧
      (resolveToken (texto "B") s.registry = some (texto "r2") ∧
        resolveToken (texto "A") s.registry = none) ∧
      Propio s ∧ ∀ data action token,
        parseHitlCallbackData data = some (action, token) ↔ buildHitlCallbackData action token = .ok data := by
  let generator : Nat → Generado := fun k => .texto (if k = 0 then texto "A" else texto "B")
  let first : Estado := ⟨.nuevo 2 8, []⟩
  let calls : List Evento := [.reserveToken generator (texto "r1"),
    .register generator (texto "r1") 7 1 0 (some (texto "A")), .pop (texto "r1"),
    .reserveToken generator (texto "r2")]
  have ran : ∃ s, run step first calls = some s ∧
      (resolveToken (texto "B") s.registry = some (texto "r2") ∧ resolveToken (texto "A") s.registry = none) := by
    have seen : ((run step first calls).map fun s =>
        (resolveToken (texto "B") s.registry, resolveToken (texto "A") s.registry)) =
        some (some (texto "r2"), none) := by decide
    obtain ⟨s, at_, pair⟩ := Option.map_eq_some_iff.mp seen
    exact ⟨s, at_, Prod.mk.injEq .. ▸ pair⟩
  obtain ⟨s, at_, resolved⟩ := ran
  have reached : Reaches step Inicio (fun _ _ => True) s :=
    Reaches.of_run (.start ⟨2, 8, by decide, by decide, rfl⟩) (fun _ _ => trivial) at_
  exact ⟨s, reached, resolved, boton_propio reached⟩

end HitlTokens
