import SkyClaw.LeaseHistory

set_option linter.all false

/-!
The fate of one lease, and from it the mutual exclusion of the leases of a
resource. Leases are ordered by their statements, not by when calls return.
-/
namespace DistributedLocks
open KeyedRows
variable {F : Type} [Reloj F]

/-- The expiry last written for the lease `A` by the statements after its own. -/
def vencimiento (A : LockInfo F) : List (Nat × Suceso F) → F
  | [] => A.expiresAt
  | (_, .renew r a token e _ n) :: h =>
    if 0 < n ∧ r = A.resourceId ∧ a = A.agentId ∧ token = some A.acquiredAt then e
    else vencimiento A h
  | _ :: h => vencimiento A h

def Liberada (A : LockInfo F) (h : List (Nat × Suceso F)) : Prop :=
  ∃ i n, 0 < n ∧ (i, .release A.resourceId A.agentId (some A.acquiredAt) n) ∈ h

def Forzada (A : LockInfo F) (h : List (Nat × Suceso F)) : Prop :=
  ∃ i n, (i, .releaseAny A.resourceId n) ∈ h

def Reemplazada (A : LockInfo F) (h : List (Nat × Suceso F)) : Prop :=
  ∃ i B b n, 0 < n ∧ B.resourceId = A.resourceId ∧ (i, .acquire B b n) ∈ h

/-- The row that `A` wrote, with the expiry its renewals have given it. -/
def LockInfo.filaConVencimiento (A : LockInfo F) (e : F) : ResourceLock F :=
  { A.fila with expiresAt := e }

/-- Why `A` may have lost its row. -/
def Terminada (A : LockInfo F) (medio : List (Nat × Suceso F)) : Prop :=
  Liberada A medio ∨ Forzada A medio ∨ ∃ c ∈ relojes medio, vencimiento A medio < c

/-- Either the row of the resource is still the one `A` wrote and nobody has
    acquired since, or it is no longer `A`'s and something ended the lease. -/
def Destino (tabla : ResourceLocks F) (A : LockInfo F) (h medio : List (Nat × Suceso F)) : Prop :=
  (vigente tabla A.resourceId h = some (A.filaConVencimiento (vencimiento A medio)) ∧
      ¬ Reemplazada A medio) ∨
    ((∀ f, vigente tabla A.resourceId h = some f → f.acquiredAt ≠ A.acquiredAt) ∧
      Terminada A medio)

omit [Reloj F] in
theorem relojes_cons {e : Nat × Suceso F} {h : List (Nat × Suceso F)} {c : F}
    (member : c ∈ relojes h) : c ∈ relojes (e :: h) := by
  obtain ⟨i, e⟩ := e
  cases e <;> simp [relojes, member]

/-- A statement that leaves the expiry of `A` alone leaves it ended. -/
theorem Terminada.cons {A : LockInfo F} {e : Nat × Suceso F} {h : List (Nat × Suceso F)}
    (same : vencimiento A (e :: h) = vencimiento A h) (ended : Terminada A h) :
    Terminada A (e :: h) := by
  rcases ended with ⟨i, n, touched, member⟩ | ⟨i, n, member⟩ | ⟨c, member, past⟩
  · exact .inl ⟨i, n, touched, List.mem_cons_of_mem _ member⟩
  · exact .inr (.inl ⟨i, n, List.mem_cons_of_mem _ member⟩)
  · exact .inr (.inr ⟨c, relojes_cons member, same ▸ past⟩)

omit [Reloj F] in
theorem Reemplazada.of_cons {A : LockInfo F} {i : Nat} {e : Suceso F}
    {h : List (Nat × Suceso F)} (replaced : Reemplazada A ((i, e) :: h)) :
    (∃ B b n, 0 < n ∧ B.resourceId = A.resourceId ∧ e = .acquire B b n) ∨ Reemplazada A h := by
  obtain ⟨j, B, b, n, touched, same, member⟩ := replaced
  rcases List.mem_cons.mp member with first | older
  · exact .inl ⟨B, b, n, touched, same, (congrArg Prod.snd first).symm⟩
  · exact .inr ⟨j, B, b, n, touched, same, older⟩

theorem esLaLease_propia (A : LockInfo F) (e : F) (r a : String) (token : Option F) :
    esLaLease r a token (A.filaConVencimiento e) = true ↔
      r = A.resourceId ∧ a = A.agentId ∧ token = some A.acquiredAt := by
  unfold esLaLease
  rw [decide_eq_true_eq]
  constructor
  · rintro ⟨resource, agent, same⟩
    exact ⟨resource.symm, agent.symm, same⟩
  · rintro ⟨resource, agent, same⟩
    exact ⟨resource.symm, agent.symm, same⟩

section
variable {tabla : ResourceLocks F} {A : LockInfo F} {h medio : List (Nat × Suceso F)} {i : Nat}

/-- A filter takes `A`'s row away for a reason, or leaves it. -/
theorem destino_filter {e : Suceso F} {p : ResourceLock F → Bool}
    (filtered : vigente tabla A.resourceId ((i, e) :: h) =
      (vigente tabla A.resourceId h).filter fun f => !p f)
    (same : vencimiento A ((i, e) :: medio) = vencimiento A medio)
    (no_acquire : ∀ B b n, e ≠ .acquire B b n)
    (reason : vigente tabla A.resourceId h = some (A.filaConVencimiento (vencimiento A medio)) →
      p (A.filaConVencimiento (vencimiento A medio)) = true → Terminada A ((i, e) :: medio))
    (fate : Destino tabla A h medio) : Destino tabla A ((i, e) :: h) ((i, e) :: medio) := by
  rcases fate with ⟨own, free⟩ | ⟨lost, ended⟩
  · cases hit : p (A.filaConVencimiento (vencimiento A medio)) with
    | true =>
      refine .inr ⟨?_, reason own hit⟩
      intro f found
      rw [filtered, own, Option.filter_eq_some_iff, Option.some.injEq] at found
      obtain ⟨rfl, kept⟩ := found
      simp [hit] at kept
    | false =>
      refine .inl ⟨?_, fun replaced => ?_⟩
      · rw [filtered, own, same, Option.filter_eq_some_iff]
        exact ⟨rfl, by simp [hit]⟩
      · rcases replaced.of_cons with ⟨B, b, m, -, -, acquired⟩ | older
        · exact no_acquire B b m acquired
        · exact free older
  · refine .inr ⟨?_, ended.cons same⟩
    intro f found
    rw [filtered, Option.filter_eq_some_iff] at found
    exact lost f found.1

theorem destino_silencio {e : Suceso F}
    (still : vigente tabla A.resourceId ((i, e) :: h) = vigente tabla A.resourceId h)
    (same : vencimiento A ((i, e) :: medio) = vencimiento A medio)
    (no_acquire : ∀ B b n, e = .acquire B b n → ¬ (0 < n ∧ B.resourceId = A.resourceId))
    (fate : Destino tabla A h medio) : Destino tabla A ((i, e) :: h) ((i, e) :: medio) := by
  rcases fate with ⟨own, free⟩ | ⟨lost, ended⟩
  · refine .inl ⟨by rw [still, own, same], fun replaced => ?_⟩
    rcases replaced.of_cons with ⟨B, b, m, touched, resource, acquired⟩ | older
    · exact no_acquire B b m acquired ⟨touched, resource⟩
    · exact free older
  · exact .inr ⟨by rwa [still], ended.cons same⟩

theorem destino_acquire {B : LockInfo F} {b : F} {n : Nat}
    (counted : CuentaFiel tabla h (.acquire B b n)) (other_token : B.acquiredAt ≠ A.acquiredAt)
    (fate : Destino tabla A h medio) :
    Destino tabla A ((i, .acquire B b n) :: h) ((i, .acquire B b n) :: medio) := by
  by_cases takes : 0 < n ∧ B.resourceId = A.resourceId
  · refine .inr ⟨?_, ?_⟩
    · intro f found
      simp only [vigente, if_pos takes, Option.some.injEq] at found
      subst found
      exact other_token
    · rcases fate with ⟨own, -⟩ | ⟨-, ended⟩
      · have expired := counted.mp takes.1 _ (takes.2 ▸ own)
        exact .inr (.inr ⟨b, List.mem_cons_self, expired⟩)
      · exact ended.cons rfl
  · refine destino_silencio ?_ rfl ?_ fate
    · rw [vigente, if_neg takes]
    · rintro _ _ _ ⟨⟩
      exact takes

/-- A renewal of `A` that touches a row finds the row of `A`. -/
theorem renovacion_ajena {r a : String} {token : Option F} {e now : F} {n : Nat}
    (counted : CuentaFiel tabla h (.renew r a token e now n))
    (lost : ∀ f, vigente tabla A.resourceId h = some f → f.acquiredAt ≠ A.acquiredAt) :
    ¬ (0 < n ∧ r = A.resourceId ∧ a = A.agentId ∧ token = some A.acquiredAt) := by
  rintro ⟨touched, rfl, -, rfl⟩
  obtain ⟨f, found, test⟩ := counted.mp touched
  have same := esLaLeaseViva_lease test
  simp only [esLaLease, decide_eq_true_eq, Option.some.injEq] at same
  exact lost f found same.2.2.symm

theorem destino_renew {r a : String} {token : Option F} {e now : F} {n : Nat}
    (counted : CuentaFiel tabla h (.renew r a token e now n)) (fate : Destino tabla A h medio) :
    Destino tabla A ((i, .renew r a token e now n) :: h)
      ((i, .renew r a token e now n) :: medio) := by
  rcases fate with ⟨own, free⟩ | ⟨lost, ended⟩
  · refine .inl ⟨?_, fun replaced => ?_⟩
    · simp only [vigente, own, Option.map_some, Option.some.injEq, vencimiento]
      by_cases alive : esLaLeaseViva r a token now
          (A.filaConVencimiento (vencimiento A medio)) = true
      · have mine := (esLaLease_propia A _ r a token).mp (esLaLeaseViva_lease alive)
        have touched : 0 < n := counted.mpr ⟨_, mine.1 ▸ own, alive⟩
        rw [if_pos alive, if_pos ⟨touched, mine⟩]
        rfl
      · have not_mine : ¬ (0 < n ∧ r = A.resourceId ∧ a = A.agentId ∧
            token = some A.acquiredAt) := by
          rintro ⟨touched, rfl, -, -⟩
          obtain ⟨f, found, test⟩ := counted.mp touched
          rw [own, Option.some.injEq] at found
          exact alive (found ▸ test)
        rw [if_neg alive, if_neg not_mine]
    · rcases replaced.of_cons with ⟨B, b, m, -, -, ⟨⟩⟩ | older
      exact free older
  · refine .inr ⟨?_, ended.cons ?_⟩
    · intro f found
      simp only [vigente, Option.map_eq_some_iff] at found
      obtain ⟨g, before, rfl⟩ := found
      split
      · exact lost g before
      · exact lost g before
    · rw [vencimiento, if_neg (renovacion_ajena counted lost)]

theorem destino_release {r a : String} {token : Option F} {n : Nat}
    (counted : CuentaFiel tabla h (.release r a token n)) (fate : Destino tabla A h medio) :
    Destino tabla A ((i, .release r a token n) :: h) ((i, .release r a token n) :: medio) := by
  refine destino_filter rfl rfl (by rintro _ _ _ ⟨⟩) ?_ fate
  intro own hit
  obtain ⟨rfl, rfl, rfl⟩ := (esLaLease_propia A _ r a token).mp hit
  exact .inl ⟨i, n, counted.mpr ⟨_, own, hit⟩, List.mem_cons_self⟩

theorem destino_releaseAny {r : String} {n : Nat} (fate : Destino tabla A h medio) :
    Destino tabla A ((i, .releaseAny r n) :: h) ((i, .releaseAny r n) :: medio) := by
  refine destino_filter rfl rfl (by rintro _ _ _ ⟨⟩) ?_ fate
  intro own hit
  have same : A.resourceId = r := of_decide_eq_true hit
  exact .inr (.inl ⟨i, n, same ▸ List.mem_cons_self⟩)

theorem destino_cleanup {now : F} {n : Nat} (fate : Destino tabla A h medio) :
    Destino tabla A ((i, .cleanup now n) :: h) ((i, .cleanup now n) :: medio) := by
  refine destino_filter rfl rfl (by rintro _ _ _ ⟨⟩) ?_ fate
  intro own expired
  exact .inr (.inr ⟨now, List.mem_cons_self, of_decide_eq_true expired⟩)

end

omit [Reloj F] in
theorem usado_de_acquire {A : LockInfo F} {a : F} {i n : Nat} {ant : List (Nat × Suceso F)}
    (medio : List (Nat × Suceso F)) :
    A.acquiredAt ∈ usados (medio ++ (i, .acquire A a n) :: ant) := by
  induction medio with
  | nil => exact List.mem_cons_self
  | cons e medio ih =>
    obtain ⟨j, e⟩ := e
    cases e <;> simp_all [usados]

theorem destino_de_la_lease {tabla : ResourceLocks F} {A : LockInfo F} {a : F} {i n : Nat}
    {ant : List (Nat × Suceso F)} (written : 0 < n) (medio : List (Nat × Suceso F))
    (fiel : Fiel tabla (medio ++ (i, .acquire A a n) :: ant))
    (fresh : (usados (medio ++ (i, .acquire A a n) :: ant)).Nodup) :
    Destino tabla A (medio ++ (i, .acquire A a n) :: ant) medio := by
  induction medio with
  | nil =>
    refine .inl ⟨?_, ?_⟩
    · simp [vigente, written, vencimiento, LockInfo.filaConVencimiento, LockInfo.fila]
    · rintro ⟨j, B, b, m, -, -, member⟩
      simp at member
  | cons e medio ih =>
    obtain ⟨j, e⟩ := e
    obtain ⟨counted, older⟩ := fiel
    cases e with
    | acquire B b m =>
      simp only [List.cons_append, usados, List.nodup_cons] at fresh
      have other_token : B.acquiredAt ≠ A.acquiredAt := by
        intro same
        apply fresh.1
        rw [same]
        exact usado_de_acquire medio
      exact destino_acquire counted other_token (ih older fresh.2)
    | renew r a' token e now m => exact destino_renew counted (ih older fresh)
    | release r a' token m => exact destino_release counted (ih older fresh)
    | releaseAny r m => exact destino_releaseAny (ih older fresh)
    | cleanup now m => exact destino_cleanup (ih older fresh)
    | token t => exact destino_silencio rfl rfl (by rintro _ _ _ ⟨⟩) (ih older fresh)
    | returns p v => exact destino_silencio rfl rfl (by rintro _ _ _ ⟨⟩) (ih older fresh)

/-! Exclusion -/

/-- `A` was acquired by a statement that read `a`, between the statements
    `antes` and `despues` of the history. -/
def Adquirida (A : LockInfo F) (a : F) (antes despues h : List (Nat × Suceso F)) : Prop :=
  ∃ i n, 0 < n ∧ h = despues ++ (i, .acquire A a n) :: antes

/-- Neither released nor expired when the clock shows `c`. -/
def Viva (A : LockInfo F) (c : F) (h : List (Nat × Suceso F)) : Prop :=
  ∃ a antes despues, Adquirida A a antes despues h ∧ ¬ Liberada A despues ∧
    c ≤ vencimiento A despues

structure Exclusion (h : List (Nat × Suceso F)) : Prop where
  vencida : ∀ A B a b antes medio post despues, Adquirida A a antes despues h →
    Adquirida B b medio post despues → B.resourceId = A.resourceId →
    Liberada A medio ∨ vencimiento A medio < b
  unica : ∀ A B c, (∀ x ∈ relojes h, x ≤ c) → Viva A c h → Viva B c h →
    B.resourceId = A.resourceId → A = B
  renovada : ∀ A a antes despues post medio k e now n, Adquirida A a antes despues h →
    despues = post ++
      (k, .renew A.resourceId A.agentId (some A.acquiredAt) e now n) :: medio →
    Reemplazada A medio → n = 0
  concedida : ∀ A p i post ant, h = post ++ (i, .returns p (.lock A)) :: ant →
    ∃ a n, 0 < n ∧ (i, .acquire A a n) ∈ ant
  confirmada : ∀ self r a ttl token k post ant,
    h = post ++ (k, .returns (.renewLock self r a ttl token) (.ok true)) :: ant →
    ∃ e now n, 0 < n ∧ (k, .renew r a token e now n) ∈ ant

theorem Fiel.of_append {tabla : ResourceLocks F} {post ant : List (Nat × Suceso F)}
    (fiel : Fiel tabla (post ++ ant)) : Fiel tabla ant := by
  induction post with
  | nil => exact fiel
  | cons e post ih => exact ih fiel.2

omit [Reloj F] in
theorem usados_nodup_of_append (post : List (Nat × Suceso F)) {ant : List (Nat × Suceso F)}
    (fresh : (usados (post ++ ant)).Nodup) : (usados ant).Nodup := by
  induction post with
  | nil => exact fresh
  | cons e post ih =>
    obtain ⟨j, e⟩ := e
    cases e with
    | acquire B b m => exact ih (List.nodup_cons.mp fresh).2
    | token t => exact ih fresh
    | renew r a token e now n => exact ih fresh
    | release r a token n => exact ih fresh
    | releaseAny r n => exact ih fresh
    | cleanup now n => exact ih fresh
    | returns p v => exact ih fresh

omit [Reloj F] in
theorem relojes_append (post ant : List (Nat × Suceso F)) :
    relojes (post ++ ant) = relojes post ++ relojes ant := by
  induction post with
  | nil => rfl
  | cons e post ih =>
    obtain ⟨j, e⟩ := e
    cases e <;> simp [relojes, ih]

section
variable {tabla : ResourceLocks F} {A B : LockInfo F} {a b c : F} {i j n m : Nat}
  {ant medio post : List (Nat × Suceso F)}

omit [Reloj F] in
theorem Liberada.append (released : Liberada A medio) (post : List (Nat × Suceso F)) :
    Liberada A (post ++ medio) := by
  obtain ⟨i, n, touched, member⟩ := released
  exact ⟨i, n, touched, List.mem_append_right _ member⟩

omit [Reloj F] in
theorem Reemplazada.append (replaced : Reemplazada A medio) : Reemplazada A (post ++ medio) := by
  obtain ⟨i, B, b, n, touched, same, member⟩ := replaced
  exact ⟨i, B, b, n, touched, same, List.mem_append_right _ member⟩

/-- A replaced lease has lost its row. -/
theorem Destino.perdida {h : List (Nat × Suceso F)} (fate : Destino tabla A h medio)
    (replaced : Reemplazada A medio) :
    ∀ f, vigente tabla A.resourceId h = some f → f.acquiredAt ≠ A.acquiredAt := by
  rcases fate with ⟨-, free⟩ | ⟨lost, -⟩
  · exact absurd replaced free
  · exact lost

theorem vencimiento_reemplazada (written : 0 < n)
    (fiel : Fiel tabla (post ++ medio ++ (i, .acquire A a n) :: ant))
    (fresh : (usados (post ++ medio ++ (i, .acquire A a n) :: ant)).Nodup)
    (replaced : Reemplazada A medio) : vencimiento A (post ++ medio) = vencimiento A medio := by
  induction post with
  | nil => rfl
  | cons e post ih =>
    have older := ih fiel.2 (usados_nodup_of_append [e] fresh)
    obtain ⟨j, e⟩ := e
    cases e with
    | renew r a' token e now m =>
      have fate := destino_de_la_lease written (post ++ medio) fiel.2 fresh
      have lost := fate.perdida replaced.append
      simpa only [List.cons_append, vencimiento, if_neg (renovacion_ajena fiel.1 lost)] using older
    | acquire B b m => exact older
    | token t => exact older
    | release r a' token m => exact older
    | releaseAny r m => exact older
    | cleanup now m => exact older
    | returns p v => exact older

theorem vencida_al_adquirir (written : 0 < n) (taken : 0 < m)
    (fiel : Fiel tabla ((j, .acquire B b m) :: (medio ++ (i, .acquire A a n) :: ant)))
    (fresh : (usados (medio ++ (i, .acquire A a n) :: ant)).Nodup)
    (forward : ∀ c ∈ relojes medio, c ≤ b) (unforced : ¬ Forzada A medio)
    (same : B.resourceId = A.resourceId) : Liberada A medio ∨ vencimiento A medio < b := by
  have fate := destino_de_la_lease written medio fiel.2 fresh
  rcases fate with ⟨own, -⟩ | ⟨-, released | forced | ⟨c, member, past⟩⟩
  · exact .inr (fiel.1.mp taken _ (same ▸ own))
  · exact .inl released
  · exact absurd forced unforced
  · exact .inr (lt_of_lt_of_le past (forward c member))

omit [Reloj F] in
theorem adquiridas_en_orden {h antes antes' despues despues' : List (Nat × Suceso F)}
    (first : Adquirida A a antes despues h) (second : Adquirida B b antes' despues' h) :
    A = B ∨ (∃ medio, Adquirida B b medio despues' despues) ∨
      ∃ medio, Adquirida A a medio despues despues' := by
  obtain ⟨i, n, written, rfl⟩ := first
  obtain ⟨j, m, taken, same⟩ := second
  rcases List.append_eq_append_iff.mp same with ⟨rest, split, tail⟩ | ⟨rest, split, tail⟩
  · cases rest with
    | nil =>
      simp only [List.nil_append, List.cons.injEq, Prod.mk.injEq, Suceso.acquire.injEq] at tail
      exact .inl tail.1.2.1
    | cons e rest =>
      obtain ⟨rfl, rfl⟩ := List.cons.inj tail
      exact .inr (.inr ⟨rest, i, n, written, split⟩)
  · cases rest with
    | nil =>
      simp only [List.nil_append, List.cons.injEq, Prod.mk.injEq, Suceso.acquire.injEq] at tail
      exact .inl tail.1.2.1.symm
    | cons e rest =>
      obtain ⟨rfl, rfl⟩ := List.cons.inj tail
      exact .inr (.inl ⟨rest, j, m, taken, split⟩)

/-- The later of two acquisitions rules out that the earlier one is still alive. -/
theorem no_viva_reemplazada {h antes despues : List (Nat × Suceso F)} (fiel : Fiel tabla h)
    (fresh : (usados h).Nodup) (current : ∀ x ∈ relojes h, x ≤ c)
    (ended : Liberada A medio ∨ vencimiento A medio < b)
    (first : Adquirida A a antes despues h) (second : Adquirida B b medio post despues)
    (same : B.resourceId = A.resourceId) (held : ¬ Liberada A despues) :
    ¬ c ≤ vencimiento A despues := by
  intro unexpired
  obtain ⟨i, n, written, rfl⟩ := first
  obtain ⟨j, m, taken, rfl⟩ := second
  have replaced : Reemplazada A ((j, .acquire B b m) :: medio) :=
    ⟨j, B, b, m, taken, same, List.mem_cons_self⟩
  have last := vencimiento_reemplazada written fiel fresh replaced
  rcases ended with released | expired
  · apply held
    have older : Liberada A ((j, .acquire B b m) :: medio) := released.append [_]
    exact older.append post
  · have read : b ∈ relojes (post ++ (j, .acquire B b m) :: medio ++
        (i, .acquire A a n) :: antes) := by
      simp [relojes_append, relojes]
    have stays : vencimiento A ((j, .acquire B b m) :: medio) = vencimiento A medio := rfl
    rw [last, stays] at unexpired
    exact absurd (lt_of_le_of_lt unexpired expired) (not_lt.mpr (current b read))

end

theorem renovacion_respaldada {self : DistributedLockManager F} {r a : String}
    {ttl token : Option F} {fase : Fase F}
    (backed : Respaldado (.ok true) (sentenciaDe (.renewLock self r a ttl token) fase)) :
    ∃ e now n, 0 < n ∧
      sentenciaDe (.renewLock self r a ttl token) fase = some (.renew r a token e now n) := by
  have only : ∀ e, sentenciaDe (.renewLock self r a ttl token) fase = some e →
      ∃ e' now n, e = .renew r a token e' now n := by
    intro e ran
    unfold sentenciaDe at ran
    split at ran <;> simp_all
    exact ⟨_, _, _, ran.symm⟩
  rcases backed with ⟨r', a', token', e, now, n, touched, ran⟩ | ⟨r', a', token', n, -, ran⟩ |
    ⟨r', n, -, ran⟩
  · obtain ⟨e', now', n', same⟩ := only _ ran
    simp only [Suceso.renew.injEq] at same
    obtain ⟨rfl, rfl, rfl, rfl, rfl, rfl⟩ := same
    exact ⟨e, now, n, touched, ran⟩
  · obtain ⟨e', now', n', ⟨⟩⟩ := only _ ran
  · obtain ⟨e', now', n', ⟨⟩⟩ := only _ ran

theorem vencida_en_historia {tabla : ResourceLocks F} {A B : LockInfo F} {a b : F}
    {h antes medio post despues : List (Nat × Suceso F)} (fiel : Fiel tabla h)
    (fresh : (usados h).Nodup) (forward : RelojSinRetroceso h)
    (unforced : ∀ i r n, (i, .releaseAny r n) ∉ h) (first : Adquirida A a antes despues h)
    (second : Adquirida B b medio post despues) (same : B.resourceId = A.resourceId) :
    Liberada A medio ∨ vencimiento A medio < b := by
  obtain ⟨i, n, written, rfl⟩ := first
  obtain ⟨j, m, taken, rfl⟩ := second
  rw [List.append_assoc, List.cons_append] at fiel fresh
  have later : ∀ c ∈ relojes medio, c ≤ b := by
    intro c member
    simp only [RelojSinRetroceso, List.append_assoc, List.cons_append, relojes_append,
      relojes] at forward
    have tail := (List.pairwise_append.mp forward).2.1
    exact (List.pairwise_cons.mp tail).1 c (List.mem_append_left _ member)
  have free : ¬ Forzada A medio := by
    rintro ⟨k, q, member⟩
    exact unforced k A.resourceId q (by simp [member])
  exact vencida_al_adquirir written taken fiel.of_append
    (usados_nodup_of_append [_] (usados_nodup_of_append _ fresh)) later free same

theorem exclusion_de_leases {tabla : ResourceLocks F} {s : Estado F}
    (reached : Alcanzable tabla s) (forward : RelojSinRetroceso s.historia)
    (unforced : ∀ i r n, (i, .releaseAny r n) ∉ s.historia) : Exclusion s.historia := by
  have fiel := (alcanzable_refinado reached).fiel
  have fresh := (alcanzable_tokens reached).usados_nodup
  have returned := (alcanzable_registrado reached).retornos
  have expired {A B : LockInfo F} {a b : F} {antes medio post despues : List (Nat × Suceso F)}
      (first : Adquirida A a antes despues s.historia)
      (second : Adquirida B b medio post despues) (same : B.resourceId = A.resourceId) :=
    vencida_en_historia fiel fresh forward unforced first second same
  constructor
  case vencida =>
    intro A B a b antes medio post despues first second same
    exact expired first second same
  case unica =>
    rintro A B c current ⟨a, antes, despues, first, held, alive⟩
      ⟨b, antes', despues', second, held', alive'⟩ same
    rcases adquiridas_en_orden first second with equal | ⟨medio, later⟩ | ⟨medio, later⟩
    · exact equal
    · exact absurd alive (no_viva_reemplazada fiel fresh current (expired first later same)
        first later same held)
    · exact absurd alive' (no_viva_reemplazada fiel fresh current
        (expired second later same.symm) second later same.symm held')
  case renovada =>
    rintro A a antes _ post medio k e now n ⟨i, m, written, split⟩ rfl replaced
    rw [split, List.append_assoc, List.cons_append] at fiel fresh
    have counted := fiel.of_append
    have fate := destino_de_la_lease written medio counted.2
      (usados_nodup_of_append [_] (usados_nodup_of_append _ fresh))
    have untouched := renovacion_ajena counted.1 (fate.perdida replaced)
    exact Nat.eq_zero_of_not_pos fun touched => untouched ⟨touched, rfl, rfl, rfl⟩
  case concedida =>
    intro A p i post ant split
    rw [split] at returned
    obtain ⟨fase, ⟨ahora, n, touched, ran⟩, present⟩ := returned.of_append.1
    exact ⟨ahora, n, touched, present _ ran⟩
  case confirmada =>
    intro self r a ttl token k post ant split
    rw [split] at returned
    obtain ⟨fase, backed, present⟩ := returned.of_append.1
    obtain ⟨e, now, n, touched, ran⟩ := renovacion_respaldada backed
    exact ⟨e, now, n, touched, present _ ran⟩

/-! Returns do not come in the order of the statements, and a renewal may bring
    the expiry forward -/

/-- Exclusion by returned values and by every expiry a lease was ever given. -/
def ExclusionPorRetornos (h : List (Nat × Suceso F)) : Prop :=
  ∀ post medio ant i j p q A B b m,
    h = post ++ (j, .returns q (.lock B)) :: (medio ++ (i, .returns p (.lock A)) :: ant) →
    B.resourceId = A.resourceId → (j, .acquire B b m) ∈ medio ++ (i, .returns p (.lock A)) :: ant →
    Liberada A (medio ++ (i, .returns p (.lock A)) :: ant) ∨
      (A.expiresAt < b ∧ ∀ k self ttl e now n,
        (k, .renew A.resourceId A.agentId (some A.acquiredAt) e now n) ∈ medio →
        (k, .returns (.renewLock self A.resourceId A.agentId ttl (some A.acquiredAt)) (.ok true))
          ∈ medio → e < b)

/-- A lease that has been replaced is not renewed. -/
def RenovacionVigente (h : List (Nat × Suceso F)) : Prop :=
  ∀ post medio ant i k self A a n ttl,
    h = post ++ (k, .returns (.renewLock self A.resourceId A.agentId ttl (some A.acquiredAt))
      (.ok true)) :: (medio ++ (i, .acquire A a n) :: ant) → 0 < n → ¬ Reemplazada A medio

def gestor : DistributedLockManager Int := { defaultTtl := 600, maxRetries := 3, lifecycle := false }

def pide (agentId : String) (ttl : Option Int) : Peticion Int :=
  .acquireLock gestor "load_order" agentId ttl

def renueva (ttl : Int) : Peticion Int :=
  .renewLock gestor "load_order" "merge" (some ttl) (some 0)

def concesion (agentId : String) (ahora ttl : Int) : LockInfo Int :=
  ⟨"load_order", agentId, ahora, ahora + ttl, some ttl⟩

def historiaDe (traza : List (Nat × Accion Int)) : Option (List (Nat × Suceso Int)) :=
  (TransitionRuns.run paso (.inicial .empty) traza).map (·.historia)

theorem historiaDe_alcanzable (traza : List (Nat × Accion Int)) {h : List (Nat × Suceso Int)}
    (ran : historiaDe traza = some h) : ∃ s, Alcanzable .empty s ∧ s.historia = h := by
  obtain ⟨s, done, same⟩ := Option.map_eq_some_iff.mp ran
  exact ⟨s, .of_run (.start rfl) (fun _ _ => trivial) done, same⟩

/-- Renewed for one second only, the lease gives way long before `expires_at`. -/
def renovadaPorMenos : List (Nat × Accion Int) :=
  [(0, .llama (pide "merge" none)), (0, .lee 0), (0, .ejecuta), (0, .concluye 0),
    (1, .llama (renueva 1)), (1, .lee 1), (1, .ejecuta), (1, .concluye 1),
    (2, .llama (pide "merge" none)), (2, .lee 3), (2, .ejecuta), (2, .concluye 3)]

def historiaPorMenos : List (Nat × Suceso Int) :=
  [(2, .returns (pide "merge" none) (.lock (concesion "merge" 3 600))),
    (2, .acquire (concesion "merge" 3 600) 3 1), (2, .token 3),
    (1, .returns (renueva 1) (.ok true)), (1, .renew "load_order" "merge" (some 0) 2 1 1),
    (0, .returns (pide "merge" none) (.lock (concesion "merge" 0 600))),
    (0, .acquire (concesion "merge" 0 600) 0 1), (0, .token 0)]

/-- The acquisition that ran first returns last. -/
def adquiridaTarde : List (Nat × Accion Int) :=
  [(0, .llama (pide "merge" (some 1))), (0, .lee 0), (0, .ejecuta),
    (1, .llama (pide "sweep" none)), (1, .lee 3), (1, .ejecuta), (1, .concluye 3),
    (0, .concluye 3)]

def historiaAdquiridaTarde : List (Nat × Suceso Int) :=
  [(0, .returns (pide "merge" (some 1)) (.lock (concesion "merge" 0 1))),
    (1, .returns (pide "sweep" none) (.lock (concesion "sweep" 3 600))),
    (1, .acquire (concesion "sweep" 3 600) 3 1), (1, .token 3),
    (0, .acquire (concesion "merge" 0 1) 0 1), (0, .token 0)]

/-- The renewal runs in time and returns after another acquisition. -/
def renovadaTarde : List (Nat × Accion Int) :=
  [(0, .llama (pide "merge" (some 1))), (0, .lee 0), (0, .ejecuta), (0, .concluye 0),
    (1, .llama (renueva 1)), (1, .lee 0), (1, .ejecuta),
    (2, .llama (pide "sweep" none)), (2, .lee 3), (2, .ejecuta), (2, .concluye 3),
    (1, .concluye 3)]

def historiaRenovadaTarde : List (Nat × Suceso Int) :=
  [(1, .returns (renueva 1) (.ok true)),
    (2, .returns (pide "sweep" none) (.lock (concesion "sweep" 3 600))),
    (2, .acquire (concesion "sweep" 3 600) 3 1), (2, .token 3),
    (1, .renew "load_order" "merge" (some 0) 1 0 1),
    (0, .returns (pide "merge" (some 1)) (.lock (concesion "merge" 0 1))),
    (0, .acquire (concesion "merge" 0 1) 0 1), (0, .token 0)]

theorem exclusion_por_retornos_falla :
    (∀ h ∈ [historiaPorMenos, historiaAdquiridaTarde, historiaRenovadaTarde],
      (∃ s, Alcanzable .empty s ∧ s.historia = h) ∧ RelojSinRetroceso h ∧
        ∀ i r n, (i, .releaseAny r n) ∉ h) ∧
      ¬ ExclusionPorRetornos historiaPorMenos ∧ ¬ ExclusionPorRetornos historiaAdquiridaTarde ∧
      ¬ RenovacionVigente historiaRenovadaTarde := by
  refine ⟨?_, ?_, ?_, ?_⟩
  · intro h member
    simp only [List.mem_cons, List.not_mem_nil, or_false] at member
    rcases member with rfl | rfl | rfl
    · refine ⟨historiaDe_alcanzable renovadaPorMenos rfl, by
        unfold RelojSinRetroceso; decide, by simp [historiaPorMenos]⟩
    · refine ⟨historiaDe_alcanzable adquiridaTarde rfl, by
        unfold RelojSinRetroceso; decide, by simp [historiaAdquiridaTarde]⟩
    · refine ⟨historiaDe_alcanzable renovadaTarde rfl, by
        unfold RelojSinRetroceso; decide, by simp [historiaRenovadaTarde]⟩
  · intro claimed
    have conflict := claimed [] (historiaPorMenos.drop 1 |>.take 4) _ 0 2 _ _
      (concesion "merge" 0 600) (concesion "merge" 3 600) 3 1 rfl rfl List.mem_cons_self
    rcases conflict with ⟨i, n, -, member⟩ | ⟨expired, -⟩
    · simp [historiaPorMenos] at member
    · exact absurd expired (by decide)
  · intro claimed
    have conflict := claimed [] [] _ 1 0 _ _ (concesion "sweep" 3 600) (concesion "merge" 0 1) 0 1
      rfl rfl (by simp)
    rcases conflict with ⟨i, n, -, member⟩ | ⟨expired, -⟩
    · simp at member
    · exact absurd expired (by decide)
  · intro claimed
    refine claimed [] (historiaRenovadaTarde.drop 1 |>.take 5) _ 0 1 _ (concesion "merge" 0 1) 0 1 _
      rfl Nat.zero_lt_one ?_
    exact ⟨2, concesion "sweep" 3 600, 3, 1, Nat.zero_lt_one, rfl, by simp [historiaRenovadaTarde]⟩

theorem exclusion_renovada_por_menos : Exclusion historiaPorMenos := by
  obtain ⟨s, reached, same⟩ := historiaDe_alcanzable _
    (show historiaDe renovadaPorMenos = some historiaPorMenos from rfl)
  have forward : RelojSinRetroceso s.historia := by
    rw [same]
    unfold RelojSinRetroceso
    decide
  have unforced : ∀ i r n, (i, .releaseAny r n) ∉ s.historia := by
    simp [same, historiaPorMenos]
  exact same ▸ exclusion_de_leases reached forward unforced

end DistributedLocks
