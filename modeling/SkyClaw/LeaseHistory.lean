import SkyClaw.DistributedLocks

set_option linter.all false

/-!
What the history of a reachable state says about it: the row of each resource,
the row counts, the tokens and the values that calls returned.
-/
namespace DistributedLocks
open KeyedRows
variable {F : Type} [Reloj F]

/-- The row of `r` after the statements of a history, newest first. -/
def vigente (tabla : ResourceLocks F) (r : String) :
    List (Nat × Suceso F) → Option (ResourceLock F)
  | [] => tabla.find r
  | (_, .acquire info _ n) :: h =>
    if 0 < n ∧ info.resourceId = r then some info.fila else vigente tabla r h
  | (_, .renew r' a token e now _) :: h =>
    (vigente tabla r h).map fun f =>
      if esLaLeaseViva r' a token now f then { f with expiresAt := e } else f
  | (_, .release r' a token _) :: h =>
    (vigente tabla r h).filter fun f => !esLaLease r' a token f
  | (_, .releaseAny r' _) :: h =>
    (vigente tabla r h).filter fun f => !decide (f.resourceId = r')
  | (_, .cleanup now _) :: h => (vigente tabla r h).filter fun f => !decide (f.expiresAt < now)
  | (_, .token _) :: h | (_, .returns ..) :: h => vigente tabla r h

/-- What the row count of a statement says about the row it ran on. -/
def CuentaFiel (tabla : ResourceLocks F) (h : List (Nat × Suceso F)) : Suceso F → Prop
  | .acquire info ahora n =>
    0 < n ↔ ∀ f, vigente tabla info.resourceId h = some f → f.expiresAt < ahora
  | .renew r a token _ now n =>
    0 < n ↔ ∃ f, vigente tabla r h = some f ∧ esLaLeaseViva r a token now f = true
  | .release r a token n => 0 < n ↔ ∃ f, vigente tabla r h = some f ∧ esLaLease r a token f = true
  | _ => True

def Fiel (tabla : ResourceLocks F) : List (Nat × Suceso F) → Prop
  | [] => True
  | e :: h => CuentaFiel tabla h e.2 ∧ Fiel tabla h

/-- Tokens minted, newest first. -/
def acuniados : List (Nat × Suceso F) → List F
  | [] => []
  | (_, .token t) :: h => t :: acuniados h
  | _ :: h => acuniados h

/-- Tokens that an acquisition statement has carried, newest first. -/
def usados : List (Nat × Suceso F) → List F
  | [] => []
  | (_, .acquire info _ _) :: h => info.acquiredAt :: usados h
  | _ :: h => usados h

/-- Clock readings of the statements, newest first. -/
def relojes : List (Nat × Suceso F) → List F
  | [] => []
  | (_, .acquire _ ahora _) :: h => ahora :: relojes h
  | (_, .renew _ _ _ _ now _) :: h => now :: relojes h
  | (_, .cleanup now _) :: h => now :: relojes h
  | _ :: h => relojes h

/-- Successive statements read a clock that never goes back. -/
def RelojSinRetroceso (h : List (Nat × Suceso F)) : Prop := (relojes h).Pairwise (· ≥ ·)

/-! What one step can do -/

theorem esLaLease_resource {r a : String} {token : Option F} {f : ResourceLock F}
    (same : esLaLease r a token f = true) : f.resourceId = r := by
  simp only [esLaLease, decide_eq_true_eq] at same
  exact same.1

theorem esLaLeaseViva_lease {r a : String} {token : Option F} {now : F} {f : ResourceLock F}
    (alive : esLaLeaseViva r a token now f = true) : esLaLease r a token f = true := by
  simp only [esLaLeaseViva, decide_eq_true_eq] at alive
  exact alive.1

/-- The two conditions select rows of one resource. -/
theorem esLaLease_only (r a : String) (token : Option F) (f : ResourceLock F) :
    esLaLease r a token f = true → f.resourceId = r := esLaLease_resource

theorem esLaLeaseViva_only (r a : String) (token : Option F) (now : F) (f : ResourceLock F) :
    esLaLeaseViva r a token now f = true → f.resourceId = r := fun alive =>
  esLaLease_resource (esLaLeaseViva_lease alive)

theorem acquireSql_find (t : ResourceLocks F) (nueva : ResourceLock F) (ahora : F) (r : String) :
    (acquireSql t nueva ahora).1.find r =
      if 0 < (acquireSql t nueva ahora).2 ∧ nueva.resourceId = r then some nueva
      else t.find r := by
  unfold acquireSql
  split
  · rename_i free
    simp only [Table.find_insert, Nat.zero_lt_one, true_and]
  · rename_i vieja found
    split
    · rename_i expired
      simp only [Table.find_updateWhere, decide_eq_true_eq, Nat.zero_lt_one, true_and]
      by_cases same : nueva.resourceId = r
      · subst same
        have key := Table.key_of_find found
        cases nueva
        simp_all
      · rw [if_neg same]
        cases at_r : t.find r with
        | none => rfl
        | some f =>
          have key := Table.key_of_find at_r
          simp [key, Ne.symm same]
    · simp

theorem acquireSql_count (t : ResourceLocks F) (nueva : ResourceLock F) (ahora : F) :
    0 < (acquireSql t nueva ahora).2 ↔
      ∀ f, t.find nueva.resourceId = some f → f.expiresAt < ahora := by
  unfold acquireSql
  split
  · rename_i free
    simp [free]
  · rename_i vieja found
    split <;> simp_all

theorem renewSql_find (t : ResourceLocks F) (e : F) (r' a : String) (token : Option F) (now : F)
    (r : String) : (renewSql t e r' a token now).1.find r = (t.find r).map fun f =>
      if esLaLeaseViva r' a token now f then { f with expiresAt := e } else f := by
  simp only [renewSql, Table.find_updateWhere]

theorem renewSql_count (t : ResourceLocks F) (e : F) (r a : String) (token : Option F) (now : F) :
    0 < (renewSql t e r a token now).2 ↔
      ∃ f, t.find r = some f ∧ esLaLeaseViva r a token now f = true := by
  have zero := Table.count_key_eq_zero (t := t) (esLaLeaseViva_only r a token now)
  rw [Nat.pos_iff_ne_zero, ne_eq, renewSql, zero]
  simp

theorem releaseSql_find (t : ResourceLocks F) (r' a : String) (token : Option F) (r : String) :
    (releaseSql t r' a token).1.find r = (t.find r).filter fun f => !esLaLease r' a token f :=
  Table.find_deleteWhere ..

theorem releaseSql_count (t : ResourceLocks F) (r a : String) (token : Option F) :
    0 < (releaseSql t r a token).2 ↔
      ∃ f, t.find r = some f ∧ esLaLease r a token f = true := by
  have zero := Table.count_key_eq_zero (t := t) (esLaLease_only r a token)
  rw [Nat.pos_iff_ne_zero, ne_eq, releaseSql, zero]
  simp

inductive Sentencia (t : ResourceLocks F) : Suceso F → ResourceLocks F → Prop where
  | acquire (info : LockInfo F) (ahora : F) :
      Sentencia t (.acquire info ahora (acquireSql t info.fila ahora).2)
        (acquireSql t info.fila ahora).1
  | renew (r a : String) (token : Option F) (e now : F) :
      Sentencia t (.renew r a token e now (renewSql t e r a token now).2)
        (renewSql t e r a token now).1
  | release (r a : String) (token : Option F) :
      Sentencia t (.release r a token (releaseSql t r a token).2) (releaseSql t r a token).1
  | releaseAny (r : String) :
      Sentencia t (.releaseAny r (releaseAnySql t r).2) (releaseAnySql t r).1
  | cleanup (now : F) : Sentencia t (.cleanup now (cleanupSql t now).2) (cleanupSql t now).1

/-- The statement a call has already run, as its phase remembers it. -/
def sentenciaDe : Peticion F → Fase F → Option (Suceso F)
  | .acquireLock self r a ttl, .hecho _ ahora (some token) n =>
    some (.acquire (infoDeIntento self r a ttl ahora token) ahora n)
  | .renewLock self r a ttl acquiredAt, .hecho _ now none n =>
    some (.renew r a acquiredAt (now + self.ttlSeconds ttl) now n)
  | .releaseLock r a acquiredAt, .hechoSinReloj n => some (.release r a acquiredAt n)
  | .forceRelease r, .hechoSinReloj n => some (.releaseAny r n)
  | .cleanupExpired, .hecho _ now none n => some (.cleanup now n)
  | _, _ => none

/-- The token a call has minted and not yet used. -/
def tokenPendiente : Fase F → Option F
  | .listo _ _ token => token
  | _ => none

def tokenDe : Suceso F → Option F
  | .acquire info .. => some info.acquiredAt
  | _ => none

/-- A return value that reports success comes from a statement that touched a row. -/
def Respaldado : Resultado F → Option (Suceso F) → Prop
  | .lock info, sentencia => ∃ ahora n, 0 < n ∧ sentencia = some (.acquire info ahora n)
  | .ok true, sentencia =>
    (∃ r a token e now n, 0 < n ∧ sentencia = some (.renew r a token e now n)) ∨
      (∃ r a token n, 0 < n ∧ sentencia = some (.release r a token n)) ∨
        ∃ r n, 0 < n ∧ sentencia = some (.releaseAny r n)
  | _, _ => True

inductive Efecto (s : Estado F) (id : Nat) : Estado F → Prop where
  | sigue (p : Peticion F) (fase : Fase F) (unused : tokenPendiente fase = none)
      (nothing : sentenciaDe p fase = none) : Efecto s id (s.sigue id (some (p, fase)))
  | retorna (p : Peticion F) (fase : Fase F) (value : Resultado F)
      (at_id : s.llamadas id = some (p, fase)) (backed : Respaldado value (sentenciaDe p fase)) :
      Efecto s id (s.retorna id p value)
  | acunia (p : Peticion F) (n : Nat) (ahora : F) :
      Efecto s id (({ s with ultimoToken := some (acuniarToken s.ultimoToken ahora) }.sigue id
        (some (p, .listo n ahora (some (acuniarToken s.ultimoToken ahora))))).anota id
          (.token (acuniarToken s.ultimoToken ahora)))
  | ejecuta (p : Peticion F) (antes despues : Fase F) (sentencia : Suceso F)
      (tabla : ResourceLocks F) (at_id : s.llamadas id = some (p, antes))
      (same_token : tokenDe sentencia = tokenPendiente antes)
      (unused : tokenPendiente despues = none) (done : sentenciaDe p despues = some sentencia)
      (ran : Sentencia s.tabla sentencia tabla) :
      Efecto s id (({ s with tabla := tabla }.sigue id (some (p, despues))).anota id sentencia)

theorem reintenta_efecto {s : Estado F} {id n : Nat} {self : DistributedLockManager F}
    {p : Peticion F} {fase : Fase F} (at_id : s.llamadas id = some (p, fase)) :
    Efecto s id (s.reintenta id self p n) := by
  unfold Estado.reintenta
  split
  · exact .sigue p _ rfl (by cases p <;> rfl)
  · exact .retorna p fase _ at_id trivial

theorem leer_efecto {s t : Estado F} {id n : Nat} {ahora : F} {p : Peticion F}
    (moved : leer s id ahora p n = some t) : Efecto s id t := by
  cases p with
  | acquireLock self r a ttl =>
    simp only [leer] at moved
    split at moved
    · simp only [Option.some.injEq] at moved
      subst moved
      exact .acunia _ n ahora
    · simp at moved
  | renewLock self r a ttl acquiredAt =>
    simp only [leer, Option.some.injEq] at moved
    subst moved
    exact .sigue _ _ rfl rfl
  | releaseLock r a acquiredAt => simp [leer] at moved
  | forceRelease r => simp [leer] at moved
  | cleanupExpired =>
    simp only [leer, Option.some.injEq] at moved
    subst moved
    exact .sigue _ _ rfl rfl

theorem ejecutar_efecto {s t : Estado F} {id : Nat} {p : Peticion F} {fase : Fase F}
    (at_id : s.llamadas id = some (p, fase)) (moved : ejecutar s id p fase = some t) :
    Efecto s id t := by
  unfold ejecutar at moved
  split at moved
  · simp only [Option.some.injEq] at moved
    subst moved
    exact .ejecuta _ _ _ _ _ at_id rfl rfl rfl (.acquire ..)
  · simp only [Option.some.injEq] at moved
    subst moved
    exact .ejecuta _ _ _ _ _ at_id rfl rfl rfl (.renew ..)
  · simp only [Option.some.injEq] at moved
    subst moved
    exact .ejecuta _ _ _ _ _ at_id rfl rfl rfl (.release ..)
  · simp only [Option.some.injEq] at moved
    subst moved
    exact .ejecuta _ _ _ _ _ at_id rfl rfl rfl (.releaseAny ..)
  · simp only [Option.some.injEq] at moved
    subst moved
    exact .ejecuta _ _ _ _ _ at_id rfl rfl rfl (.cleanup ..)
  · simp at moved

theorem concluir_efecto {s t : Estado F} {id : Nat} {despues : F} {p : Peticion F}
    {fase : Fase F} (at_id : s.llamadas id = some (p, fase))
    (moved : concluir s id despues p fase = some t) : Efecto s id t := by
  unfold concluir at moved
  split at moved
  · rename_i self r a ttl n ahora token rowcount
    split at moved
    · rename_i touched
      dsimp only at moved
      split at moved <;> simp only [Option.some.injEq] at moved <;> subst moved
      · exact reintenta_efecto at_id
      · exact .retorna _ _ _ at_id ⟨ahora, rowcount, touched, rfl⟩
    · simp only [Option.some.injEq] at moved
      subst moved
      exact reintenta_efecto at_id
  · rename_i self r a ttl acquiredAt n now rowcount
    split at moved <;> simp only [Option.some.injEq] at moved <;> subst moved
    · exact .retorna _ _ _ at_id trivial
    · by_cases touched : 0 < rowcount
      · simp only [touched, decide_true]
        exact .retorna _ _ _ at_id (.inl ⟨_, _, _, _, _, _, touched, rfl⟩)
      · simp only [touched, decide_false]
        exact .retorna _ _ _ at_id trivial
  · rename_i r a acquiredAt rowcount
    simp only [Option.some.injEq] at moved
    subst moved
    by_cases touched : 0 < rowcount
    · simp only [touched, decide_true]
      exact .retorna _ _ _ at_id (.inr (.inl ⟨_, _, _, _, touched, rfl⟩))
    · simp only [touched, decide_false]
      exact .retorna _ _ _ at_id trivial
  · rename_i r rowcount
    simp only [Option.some.injEq] at moved
    subst moved
    by_cases touched : 0 < rowcount
    · simp only [touched, decide_true]
      exact .retorna _ _ _ at_id (.inr (.inr ⟨_, _, touched, rfl⟩))
    · simp only [touched, decide_false]
      exact .retorna _ _ _ at_id trivial
  · simp only [Option.some.injEq] at moved
    subst moved
    exact .retorna _ _ _ at_id trivial
  · simp at moved

theorem fallar_efecto {s : Estado F} {id : Nat} {p : Peticion F} {fase : Fase F}
    (at_id : s.llamadas id = some (p, fase)) : Efecto s id (fallar s id p fase) := by
  unfold fallar
  split
  · exact reintenta_efecto at_id
  · exact .retorna _ _ _ at_id trivial
  · exact .retorna _ _ _ at_id trivial

theorem paso_efecto {s t : Estado F} {e : Nat × Accion F} (moved : paso s e = some t) :
    Efecto s e.1 t := by
  obtain ⟨id, accion⟩ := e
  simp only [paso] at moved
  split at moved
  · rename_i p free
    simp only [Option.some.injEq] at moved
    subst moved
    exact .sigue p _ rfl (by cases p <;> rfl)
  · exact leer_efecto moved
  · rename_i at_id
    exact ejecutar_efecto at_id moved
  · rename_i at_id
    exact concluir_efecto at_id moved
  · rename_i at_id
    simp only [Option.some.injEq] at moved
    subst moved
    exact fallar_efecto at_id
  · rename_i at_id
    simp only [Option.some.injEq] at moved
    subst moved
    exact .retorna _ _ _ at_id trivial
  · simp at moved

/-! The table is what the history says -/

structure Refinado (tabla : ResourceLocks F) (s : Estado F) : Prop where
  fila : ∀ r, s.tabla.find r = vigente tabla r s.historia
  fiel : Fiel tabla s.historia

theorem sentencia_refinada {tabla t t' : ResourceLocks F} {h : List (Nat × Suceso F)} (id : Nat)
    {e : Suceso F} (fila : ∀ r, t.find r = vigente tabla r h) (fiel : Fiel tabla h)
    (ran : Sentencia t e t') :
    (∀ r, t'.find r = vigente tabla r ((id, e) :: h)) ∧ Fiel tabla ((id, e) :: h) := by
  cases ran with
  | acquire info ahora =>
    refine ⟨fun r => ?_, ?_, fiel⟩
    · rw [acquireSql_find]
      simp only [vigente, fila]
      rfl
    · simp only [CuentaFiel, ← fila]
      exact acquireSql_count ..
  | renew r' a token e now =>
    refine ⟨fun r => ?_, ?_, fiel⟩
    · rw [renewSql_find, fila, vigente]
    · simp only [CuentaFiel, ← fila]
      exact renewSql_count ..
  | release r' a token =>
    refine ⟨fun r => ?_, ?_, fiel⟩
    · rw [releaseSql_find, fila, vigente]
    · simp only [CuentaFiel, ← fila]
      exact releaseSql_count ..
  | releaseAny r' =>
    refine ⟨fun r => ?_, trivial, fiel⟩
    rw [releaseAnySql, Table.find_deleteWhere, fila, vigente]
  | cleanup now =>
    refine ⟨fun r => ?_, trivial, fiel⟩
    rw [cleanupSql, Table.find_deleteWhere, fila, vigente]

theorem refinado_efecto {tabla : ResourceLocks F} {s t : Estado F} {id : Nat}
    (inv : Refinado tabla s) (effect : Efecto s id t) : Refinado tabla t := by
  cases effect with
  | sigue p fase unused nothing => exact ⟨inv.fila, inv.fiel⟩
  | retorna p fase value at_id backed => exact ⟨inv.fila, trivial, inv.fiel⟩
  | acunia p n ahora => exact ⟨inv.fila, trivial, inv.fiel⟩
  | ejecuta p antes despues sentencia t' at_id same_token unused done ran =>
    have next := sentencia_refinada id inv.fila inv.fiel ran
    exact ⟨next.1, next.2⟩

theorem alcanzable_refinado {tabla : ResourceLocks F} {s : Estado F}
    (reached : Alcanzable tabla s) : Refinado tabla s := by
  refine TransitionRuns.Reaches.invariant ?_ ?_ reached
  · rintro _ rfl
    exact ⟨fun r => rfl, trivial⟩
  · intro s e t inv _ moved
    exact refinado_efecto inv (paso_efecto moved)

/-! Returned values -/

def RetornosRespaldados : List (Nat × Suceso F) → Prop
  | [] => True
  | (i, .returns p v) :: h =>
    (∃ fase, Respaldado v (sentenciaDe p fase) ∧ ∀ e, sentenciaDe p fase = some e → (i, e) ∈ h) ∧
      RetornosRespaldados h
  | _ :: h => RetornosRespaldados h

/-- A call past its statement has that statement in the history. -/
structure Registrado (s : Estado F) : Prop where
  hecha : ∀ i p f e, s.llamadas i = some (p, f) → sentenciaDe p f = some e →
    (i, e) ∈ s.historia
  retornos : RetornosRespaldados s.historia

theorem RetornosRespaldados.of_append {post ant : List (Nat × Suceso F)}
    (all : RetornosRespaldados (post ++ ant)) : RetornosRespaldados ant := by
  induction post with
  | nil => exact all
  | cons e post ih =>
    obtain ⟨j, e⟩ := e
    cases e with
    | returns p v => exact ih all.2
    | token t => exact ih all
    | acquire info a n => exact ih all
    | renew r a token e now n => exact ih all
    | release r a token n => exact ih all
    | releaseAny r n => exact ih all
    | cleanup now n => exact ih all

theorem hecha_sigue {llamadas : Nat → Option (Peticion F × Fase F)} {id : Nat}
    {llamada : Option (Peticion F × Fase F)} {h h' : List (Nat × Suceso F)}
    (before : ∀ i p f e, llamadas i = some (p, f) → sentenciaDe p f = some e → (i, e) ∈ h)
    (older : ∀ e ∈ h, e ∈ h')
    (mine : ∀ p f e, llamada = some (p, f) → sentenciaDe p f = some e → (id, e) ∈ h') :
    ∀ i p f e, (if i = id then llamada else llamadas i) = some (p, f) →
      sentenciaDe p f = some e → (i, e) ∈ h' := by
  intro i p f e at_i done
  split at at_i
  · rename_i same
    exact same ▸ mine p f e at_i done
  · exact older _ (before i p f e at_i done)

theorem registrado_efecto {s t : Estado F} {id : Nat} (inv : Registrado s)
    (effect : Efecto s id t) : Registrado t := by
  cases effect with
  | sigue p fase unused nothing =>
    refine ⟨hecha_sigue inv.hecha (fun _ member => member) ?_, inv.retornos⟩
    rintro q f e ⟨⟩ done
    rw [nothing] at done
    simp at done
  | retorna p fase value at_id backed =>
    refine ⟨hecha_sigue inv.hecha (fun _ member => List.mem_cons_of_mem _ member) ?_, ?_⟩
    · rintro q f e ⟨⟩
    · refine ⟨⟨fase, backed, ?_⟩, inv.retornos⟩
      intro e done
      exact inv.hecha id p fase e at_id done
  | acunia p n ahora =>
    refine ⟨hecha_sigue inv.hecha (fun _ member => List.mem_cons_of_mem _ member) ?_, inv.retornos⟩
    rintro q f e ⟨⟩ done
    cases p <;> simp [sentenciaDe] at done
  | ejecuta p antes despues sentencia t' at_id same_token unused done ran =>
    refine ⟨hecha_sigue inv.hecha (fun _ member => List.mem_cons_of_mem _ member) ?_, ?_⟩
    · rintro q f e ⟨⟩ mine
      rw [done, Option.some.injEq] at mine
      exact mine ▸ List.mem_cons_self
    · cases ran <;> exact inv.retornos

theorem alcanzable_registrado {tabla : ResourceLocks F} {s : Estado F}
    (reached : Alcanzable tabla s) : Registrado s := by
  refine TransitionRuns.Reaches.invariant ?_ ?_ reached
  · rintro _ rfl
    refine ⟨?_, trivial⟩
    intro i p f e at_i
    simp [Estado.inicial] at at_i
  · intro s e t inv _ moved
    exact registrado_efecto inv (paso_efecto moved)

/-! Tokens -/

theorem lt_acuniarToken {ultimo : Option F} {ahora u : F} (last : ultimo = some u) :
    u < acuniarToken ultimo ahora := by
  subst last
  simp only [acuniarToken]
  split
  · assumption
  · exact Reloj.lt_nextafter u

structure TokensUnicos (s : Estado F) : Prop where
  ordenados : (acuniados s.historia).Pairwise (· > ·)
  ultimo : ∀ t ∈ acuniados s.historia, ∃ u, s.ultimoToken = some u ∧ t ≤ u
  usado_acuniado : ∀ t ∈ usados s.historia, t ∈ acuniados s.historia
  usados_nodup : (usados s.historia).Nodup
  pendiente : ∀ i p f t, s.llamadas i = some (p, f) → tokenPendiente f = some t →
    t ∈ acuniados s.historia ∧ t ∉ usados s.historia
  pendiente_unico : ∀ i j p q f g t, s.llamadas i = some (p, f) → s.llamadas j = some (q, g) →
    tokenPendiente f = some t → tokenPendiente g = some t → i = j

theorem acuniarToken_new {s : Estado F} (inv : TokensUnicos s) (ahora : F) :
    ∀ t ∈ acuniados s.historia, t < acuniarToken s.ultimoToken ahora := by
  intro t member
  obtain ⟨u, last, le⟩ := inv.ultimo t member
  exact lt_of_le_of_lt le (lt_acuniarToken last)

theorem acuniados_sentencia {t t' : ResourceLocks F} (id : Nat) {e : Suceso F}
    (h : List (Nat × Suceso F)) (ran : Sentencia t e t') :
    acuniados ((id, e) :: h) = acuniados h := by
  cases ran <;> rfl

theorem usados_sentencia {t t' : ResourceLocks F} (id : Nat) {e : Suceso F}
    (h : List (Nat × Suceso F)) (ran : Sentencia t e t') :
    usados ((id, e) :: h) = (tokenDe e).toList ++ usados h := by
  cases ran <;> rfl

omit [Reloj F] in
/-- A call that moves to a phase without a token keeps every claim on tokens. -/
theorem pendiente_sigue {s : Estado F} {id i : Nat} {llamada : Option (Peticion F × Fase F)}
    {p : Peticion F} {f : Fase F} {t : F}
    (unused : ∀ p f, llamada = some (p, f) → tokenPendiente f = none)
    (at_i : (if i = id then llamada else s.llamadas i) = some (p, f))
    (holds : tokenPendiente f = some t) : i ≠ id ∧ s.llamadas i = some (p, f) := by
  split at at_i
  · rw [unused p f at_i] at holds
    simp at holds
  · exact ⟨by assumption, at_i⟩

theorem tokens_efecto {s t : Estado F} {id : Nat} (inv : TokensUnicos s)
    (effect : Efecto s id t) : TokensUnicos t := by
  cases effect with
  | sigue p fase unused nothing =>
    have quiet : ∀ q f, some (p, fase) = some (q, f) → tokenPendiente f = none := by
      rintro q f ⟨⟩
      exact unused
    refine ⟨inv.ordenados, inv.ultimo, inv.usado_acuniado, inv.usados_nodup, ?_, ?_⟩
    · intro i q f t at_i holds
      exact inv.pendiente i q f t (pendiente_sigue quiet at_i holds).2 holds
    · intro i j q q' f g t at_i at_j hi hj
      exact inv.pendiente_unico i j q q' f g t (pendiente_sigue quiet at_i hi).2
        (pendiente_sigue quiet at_j hj).2 hi hj
  | retorna p fase value at_id backed =>
    have quiet : ∀ q f, (none : Option (Peticion F × Fase F)) = some (q, f) →
      tokenPendiente f = none := by
      rintro q f ⟨⟩
    refine ⟨inv.ordenados, inv.ultimo, inv.usado_acuniado, inv.usados_nodup, ?_, ?_⟩
    · intro i q f t at_i holds
      exact inv.pendiente i q f t (pendiente_sigue quiet at_i holds).2 holds
    · intro i j q q' f g t at_i at_j hi hj
      exact inv.pendiente_unico i j q q' f g t (pendiente_sigue quiet at_i hi).2
        (pendiente_sigue quiet at_j hj).2 hi hj
  | acunia p n ahora =>
    have newest := acuniarToken_new inv ahora
    have unseen : acuniarToken s.ultimoToken ahora ∉ acuniados s.historia :=
      fun member => lt_irrefl _ (newest _ member)
    have others : ∀ i q f t, s.llamadas i = some (q, f) → tokenPendiente f = some t →
        t ≠ acuniarToken s.ultimoToken ahora := by
      rintro i q f _ at_i holds rfl
      exact unseen (inv.pendiente i q f _ at_i holds).1
    refine ⟨List.pairwise_cons.mpr ⟨newest, inv.ordenados⟩, ?_, ?_, inv.usados_nodup, ?_, ?_⟩
    · intro t member
      refine ⟨acuniarToken s.ultimoToken ahora, rfl, ?_⟩
      rcases List.mem_cons.mp member with same | older
      · exact le_of_eq same
      · exact le_of_lt (newest t older)
    · intro t member
      exact List.mem_cons_of_mem _ (inv.usado_acuniado t member)
    · intro i q f t at_i holds
      simp only [Estado.anota_llamadas, Estado.sigue_llamadas] at at_i
      split at at_i
      · simp only [Option.some.injEq, Prod.mk.injEq] at at_i
        obtain ⟨-, rfl⟩ := at_i
        simp only [tokenPendiente, Option.some.injEq] at holds
        subst holds
        exact ⟨List.mem_cons_self, fun used => unseen (inv.usado_acuniado _ used)⟩
      · have before := inv.pendiente i q f t at_i holds
        exact ⟨List.mem_cons_of_mem _ before.1, before.2⟩
    · intro i j q q' f g t at_i at_j hi hj
      simp only [Estado.anota_llamadas, Estado.sigue_llamadas] at at_i at_j
      split at at_i <;> split at at_j
      · rename_i ei ej
        exact ei.trans ej.symm
      · simp only [Option.some.injEq, Prod.mk.injEq] at at_i
        obtain ⟨-, rfl⟩ := at_i
        simp only [tokenPendiente, Option.some.injEq] at hi
        exact absurd hi.symm (others j q' g t at_j hj)
      · simp only [Option.some.injEq, Prod.mk.injEq] at at_j
        obtain ⟨-, rfl⟩ := at_j
        simp only [tokenPendiente, Option.some.injEq] at hj
        exact absurd hj.symm (others i q f t at_i hi)
      · exact inv.pendiente_unico i j q q' f g t at_i at_j hi hj
  | ejecuta p antes despues sentencia t' at_id same_token unused done ran =>
    have quiet : ∀ q f, some (p, despues) = some (q, f) → tokenPendiente f = none := by
      rintro q f ⟨⟩
      exact unused
    have minted := acuniados_sentencia id s.historia ran
    have used := usados_sentencia id s.historia ran
    have spent : ∀ t, tokenDe sentencia = some t →
        t ∈ acuniados s.historia ∧ t ∉ usados s.historia := by
      intro t carried
      exact inv.pendiente id p antes t at_id (same_token ▸ carried)
    refine ⟨?_, ?_, ?_, ?_, ?_, ?_⟩
    · exact minted ▸ inv.ordenados
    · intro t member
      exact inv.ultimo t (minted ▸ member)
    · intro t member
      simp only [Estado.anota_historia, Estado.sigue_historia] at member ⊢
      rw [minted]
      rw [used] at member
      rcases List.mem_append.mp member with carried | older
      · exact (spent t (by simpa using carried)).1
      · exact inv.usado_acuniado t older
    · simp only [Estado.anota_historia, Estado.sigue_historia, used]
      cases carried : tokenDe sentencia with
      | none => simpa using inv.usados_nodup
      | some t => exact List.nodup_cons.mpr ⟨(spent t carried).2, inv.usados_nodup⟩
    · intro i q f t at_i holds
      have still := pendiente_sigue quiet at_i holds
      have before := inv.pendiente i q f t still.2 holds
      simp only [Estado.anota_historia, Estado.sigue_historia]
      rw [minted, used]
      refine ⟨before.1, fun member => ?_⟩
      rcases List.mem_append.mp member with carried | older
      · have mine : tokenPendiente antes = some t := by
          rw [← same_token]
          simpa using carried
        exact still.1 (inv.pendiente_unico i id q p f antes t still.2 at_id holds mine)
      · exact before.2 older
    · intro i j q q' f g t at_i at_j hi hj
      exact inv.pendiente_unico i j q q' f g t (pendiente_sigue quiet at_i hi).2
        (pendiente_sigue quiet at_j hj).2 hi hj

theorem alcanzable_tokens {tabla : ResourceLocks F} {s : Estado F}
    (reached : Alcanzable tabla s) : TokensUnicos s := by
  refine TransitionRuns.Reaches.invariant ?_ ?_ reached
  · rintro _ rfl
    constructor <;> simp [Estado.inicial, acuniados, usados]
  · intro s e t inv _ moved
    exact tokens_efecto inv (paso_efecto moved)

end DistributedLocks
