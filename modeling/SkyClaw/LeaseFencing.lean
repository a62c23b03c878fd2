import SkyClaw.LeaseExclusion

set_option linter.all false

/-!
Fencing by the acquisition token. Nothing is assumed of the clock.
-/
namespace DistributedLocks
open KeyedRows
variable {F : Type} [Reloj F]

/-- A call of `release_lock` or `renew_lock` with the resource, agent and token of `A`. -/
def Peticion.NombraLease (A : LockInfo F) : Peticion F → Prop
  | .releaseLock r a token | .renewLock _ r a _ token =>
    r = A.resourceId ∧ a = A.agentId ∧ token = some A.acquiredAt
  | _ => False

/-- What a call that names `A` may do to the table: nothing, or delete or
    extend the row that `A` wrote. -/
inductive SoloPropia (A : LockInfo F) (t : ResourceLocks F) : ResourceLocks F → Prop where
  | nada : SoloPropia A t t
  | borra {t' : ResourceLocks F} {e : F} (own : t.find A.resourceId = some (A.filaConVencimiento e))
      (gone : t'.find A.resourceId = none)
      (rest : ∀ r, r ≠ A.resourceId → t'.find r = t.find r) : SoloPropia A t t'
  | extiende {t' : ResourceLocks F} {e e' : F}
      (own : t.find A.resourceId = some (A.filaConVencimiento e))
      (extended : t'.find A.resourceId = some (A.filaConVencimiento e'))
      (rest : ∀ r, r ≠ A.resourceId → t'.find r = t.find r) : SoloPropia A t t'

/-- Whatever the call does until it returns, it returns `False`. -/
def DevuelveFalse (p : Peticion F) (fase : Fase F) : Prop :=
  ∀ s t k despues, s.llamadas k = some (p, fase) → paso s (k, .concluye despues) = some t →
    t.historia = (k, .returns p (.ok false)) :: s.historia

section
variable {t : ResourceLocks F} {A : LockInfo F} {e : F}

omit [Reloj F] in
theorem otra_fila {r : String} {p : ResourceLock F → Bool}
    (only : ∀ f, p f = true → f.resourceId = A.resourceId) (other : r ≠ A.resourceId) :
    ∀ f, t.find r = some f → p f = false := by
  intro f found
  cases hit : p f with
  | false => rfl
  | true => exact absurd ((Table.key_of_find found).symm.trans (only f hit)) other

/-- With the row of `A` gone, the statement finds nothing. -/
theorem releaseSql_perdida (lost : ∀ f, t.find A.resourceId = some f → f.acquiredAt ≠ A.acquiredAt) :
    releaseSql t A.resourceId A.agentId (some A.acquiredAt) = (t, 0) := by
  have none : t.count (esLaLease A.resourceId A.agentId (some A.acquiredAt)) = 0 := by
    rw [Table.count_key_eq_zero (esLaLease_only _ _ _)]
    intro f found
    have other := lost f found
    simp [esLaLease, Ne.symm other]
  rw [releaseSql, none, Table.deleteWhere_none none]

theorem renewSql_perdida {now : F}
    (lost : ∀ f, t.find A.resourceId = some f → f.acquiredAt ≠ A.acquiredAt) :
    renewSql t e A.resourceId A.agentId (some A.acquiredAt) now = (t, 0) := by
  have none : t.count (esLaLeaseViva A.resourceId A.agentId (some A.acquiredAt) now) = 0 := by
    rw [Table.count_key_eq_zero (esLaLeaseViva_only _ _ _ _)]
    intro f found
    have other := lost f found
    simp [esLaLeaseViva, esLaLease, Ne.symm other]
  rw [renewSql, none, Table.updateWhere_none _ none]

theorem releaseSql_propia (own : t.find A.resourceId = some (A.filaConVencimiento e)) :
    SoloPropia A t (releaseSql t A.resourceId A.agentId (some A.acquiredAt)).1 := by
  refine .borra own ?_ ?_
  · rw [releaseSql_find, own]
    simp [Option.filter, (esLaLease_propia A e _ _ _).mpr ⟨rfl, rfl, rfl⟩]
  · intro r other
    rw [releaseSql_find]
    have kept := otra_fila (t := t) (A := A)
      (esLaLease_only A.resourceId A.agentId (some A.acquiredAt)) other
    cases found : t.find r with
    | none => rfl
    | some f => simp [Option.filter, kept f found]

theorem renewSql_propia {e' now : F} (own : t.find A.resourceId = some (A.filaConVencimiento e)) :
    SoloPropia A t (renewSql t e' A.resourceId A.agentId (some A.acquiredAt) now).1 := by
  have rest : ∀ r, r ≠ A.resourceId →
      (renewSql t e' A.resourceId A.agentId (some A.acquiredAt) now).1.find r = t.find r := by
    intro r other
    rw [renewSql_find]
    have kept := otra_fila (t := t) (A := A)
      (esLaLeaseViva_only A.resourceId A.agentId (some A.acquiredAt) now) other
    cases found : t.find r with
    | none => rfl
    | some f => simp [kept f found]
  by_cases alive : esLaLeaseViva A.resourceId A.agentId (some A.acquiredAt) now
      (A.filaConVencimiento e) = true
  · have extended : (renewSql t e' A.resourceId A.agentId (some A.acquiredAt) now).1.find
        A.resourceId = some (A.filaConVencimiento e') := by
      rw [renewSql_find, own, Option.map_some, if_pos alive]
      rfl
    exact .extiende own extended rest
  · have kept : (renewSql t e' A.resourceId A.agentId (some A.acquiredAt) now).1.find
        A.resourceId = some (A.filaConVencimiento e) := by
      rw [renewSql_find, own, Option.map_some, if_neg alive]
    exact .extiende own kept rest

end

theorem devuelveFalse_release {r a : String} {token : Option F} :
    DevuelveFalse (.releaseLock r a token) (.hechoSinReloj 0) := by
  intro s t k despues at_k moved
  simp only [paso, at_k, concluir, Option.some.injEq] at moved
  subst moved
  rfl

theorem devuelveFalse_renew {self : DistributedLockManager F} {r a : String} {ttl token : Option F}
    {n : Nat} {now : F} : DevuelveFalse (.renewLock self r a ttl token) (.hecho n now none 0) := by
  intro s t k despues at_k moved
  simp only [paso, at_k, concluir, Nat.lt_irrefl, false_and, and_false, if_false,
    Option.some.injEq] at moved
  subst moved
  rfl

/-- The execution of a statement that names `A`, whose row is `A`'s or lost. -/
theorem ejecuta_nombrada {s t : Estado F} {k : Nat} {p : Peticion F} {fase : Fase F}
    {A : LockInfo F} (at_k : s.llamadas k = some (p, fase)) (names : p.NombraLease A)
    (moved : paso s (k, .ejecuta) = some t) :
    ((∃ e, s.tabla.find A.resourceId = some (A.filaConVencimiento e)) → SoloPropia A s.tabla t.tabla) ∧
    ((∀ f, s.tabla.find A.resourceId = some f → f.acquiredAt ≠ A.acquiredAt) →
      t.tabla = s.tabla ∧ ∃ fase', t.llamadas k = some (p, fase') ∧ DevuelveFalse p fase') := by
  simp only [paso, at_k] at moved
  unfold ejecutar at moved
  split at moved
  · simp [Peticion.NombraLease] at names
  · obtain ⟨rfl, rfl, rfl⟩ := names
    simp only [Option.some.injEq] at moved
    subst moved
    refine ⟨?_, fun lost => ?_⟩
    · rintro ⟨e, own⟩
      exact renewSql_propia own
    · simp only [renewSql_perdida lost]
      exact ⟨rfl, _, if_pos rfl, devuelveFalse_renew⟩
  · obtain ⟨rfl, rfl, rfl⟩ := names
    simp only [Option.some.injEq] at moved
    subst moved
    refine ⟨?_, fun lost => ?_⟩
    · rintro ⟨e, own⟩
      exact releaseSql_propia own
    · simp only [releaseSql_perdida lost]
      exact ⟨rfl, _, if_pos rfl, devuelveFalse_release⟩
  · simp [Peticion.NombraLease] at names
  · simp [Peticion.NombraLease] at names
  · simp at moved

structure Fencing (s : Estado F) : Prop where
  distintos : (acuniados s.historia).Nodup
  soloPropia : ∀ A a antes despues k p fase t, Adquirida A a antes despues s.historia →
    p.NombraLease A → s.llamadas k = some (p, fase) → paso s (k, .ejecuta) = some t →
    SoloPropia A s.tabla t.tabla
  reemplazada : ∀ A a antes despues k p fase t, Adquirida A a antes despues s.historia →
    Reemplazada A despues → p.NombraLease A → s.llamadas k = some (p, fase) →
    paso s (k, .ejecuta) = some t →
    t.tabla = s.tabla ∧ ∃ fase', t.llamadas k = some (p, fase') ∧ DevuelveFalse p fase'
  caducidad : ∀ k self r a ttl n ahora token t,
    s.llamadas k = some (.acquireLock self r a ttl, .listo n ahora (some token)) →
    paso s (k, .ejecuta) = some t →
    ∃ A m, t.historia = (k, .acquire A ahora m) :: s.historia ∧ A.acquiredAt = token ∧
      A.expiresAt = ahora + self.ttlSeconds ttl ∧ (0 < m → t.tabla.find r = some A.fila)

theorem fila_de_la_lease {tabla : ResourceLocks F} {s : Estado F} {A : LockInfo F} {a : F}
    {antes despues : List (Nat × Suceso F)} (reached : Alcanzable tabla s)
    (acquired : Adquirida A a antes despues s.historia) :
    (s.tabla.find A.resourceId = some (A.filaConVencimiento (vencimiento A despues)) ∧
        ¬ Reemplazada A despues) ∨
      ∀ f, s.tabla.find A.resourceId = some f → f.acquiredAt ≠ A.acquiredAt := by
  have refined := alcanzable_refinado reached
  have fresh := (alcanzable_tokens reached).usados_nodup
  obtain ⟨i, n, written, split⟩ := acquired
  have fate : Destino tabla A (despues ++ (i, .acquire A a n) :: antes) despues :=
    destino_de_la_lease written despues (split ▸ refined.fiel) (split ▸ fresh)
  rw [← split] at fate
  simp only [refined.fila]
  rcases fate with own | ⟨lost, -⟩
  · exact .inl own
  · exact .inr lost

theorem fencing {tabla : ResourceLocks F} {s : Estado F} (reached : Alcanzable tabla s) :
    Fencing s := by
  constructor
  case distintos =>
    have ordered := (alcanzable_tokens reached).ordenados
    exact ordered.imp fun later => ne_of_gt later
  case soloPropia =>
    intro A a antes despues k p fase t acquired names at_k moved
    have ran := ejecuta_nombrada at_k names moved
    rcases fila_de_la_lease reached acquired with ⟨own, -⟩ | lost
    · exact ran.1 ⟨_, own⟩
    · rw [(ran.2 lost).1]
      exact .nada
  case reemplazada =>
    intro A a antes despues k p fase t acquired replaced names at_k moved
    rcases fila_de_la_lease reached acquired with ⟨-, free⟩ | lost
    · exact absurd replaced free
    · exact (ejecuta_nombrada at_k names moved).2 lost
  case caducidad =>
    intro k self r a ttl n ahora token t at_k moved
    simp only [paso, at_k, ejecutar, Option.some.injEq] at moved
    subst moved
    refine ⟨infoDeIntento self r a ttl ahora token, _, rfl, rfl, rfl, fun taken => ?_⟩
    have at_r := acquireSql_find s.tabla (infoDeIntento self r a ttl ahora token).fila ahora r
    rwa [if_pos ⟨taken, rfl⟩] at at_r

theorem fencing_renovada_por_menos :
    ∃ s : Estado Int, s.historia = historiaPorMenos ∧ Fencing s := by
  obtain ⟨s, reached, same⟩ := historiaDe_alcanzable _
    (show historiaDe renovadaPorMenos = some historiaPorMenos from rfl)
  exact ⟨s, same, fencing reached⟩

end DistributedLocks
