import SkyClaw.WorkerSupervision

set_option linter.all false

/-!
No unsupervised worker runs, as long as nothing that an earlier registration of
a job left behind acts on its current one.
-/
namespace WorkerSupervision
open TaskTables TransitionRuns

variable {s t : Estado} {job : String}

/-! The registration of a job -/

def Activa (s : Estado) (job : String) (r : Registro) (i : Nat) (a : Autorizacion) : Prop :=
  s.autorizaciones[i]? = some a ∧ a.job = job ∧ a.registro = r.numero ∧ a.fase ≠ .terminada

structure Inv (s : Estado) : Prop where
  limpio : ∀ job, s.pending job = none →
    s.launchAcked job = false ∧ s.supervisedSent job = false ∧ s.terminando job = false
  numero : ∀ job r, s.pending job = some r → r.numero < s.contador
  conexion : ∀ (w : Nat) (c : Conexion), s.conexiones[w]? = some c → c.registro < s.contador ∧
    ∀ r, s.pending c.job = some r → c.registro ≤ r.numero ∧ (c.registro = r.numero → c.jobObject = r.jobObject)
  worker : ∀ job w, s.workerByJob job = some w → ∃ c : Conexion, s.conexiones[w]? = some c ∧ c.job = job
  acked : ∀ job r, s.pending job = some r → s.launchAcked job = true → some r.jobObject ∈ s.acks job
  autorizacion : ∀ (i : Nat) (a : Autorizacion), s.autorizaciones[i]? = some a → a.registro < s.contador ∧
    (∃ c : Conexion, s.conexiones[a.writer]? = some c ∧ c.job = a.job ∧ c.registro ≤ a.registro) ∧
    ∀ r, s.pending a.job = some r → a.registro ≤ r.numero ∧ (a.registro = r.numero → some r.jobObject ∈ s.acks a.job)
  terminacion : ∀ (k : Nat) (x : Terminacion), s.terminaciones[k]? = some x → x.registro < s.contador ∧
    ∀ r, s.pending x.job = some r → x.registro ≤ r.numero ∧ (x.registro = r.numero → s.terminando x.job = true)
  cancelado : ∀ job r, s.pending job = some r → s.cancelado job = true → s.terminando job = true
  ninguna : ∀ job r, s.pending job = some r → s.supervisedSent job = false → ∀ i a, ¬ Activa s job r i a
  unica : ∀ job r, s.pending job = some r → ∀ i j a b, Activa s job r i a → Activa s job r j b → i = j
  supervisado : ∀ w ∈ s.supervisados, ∃ c : Conexion, s.conexiones[w]? = some c ∧
    ∀ r, s.pending c.job = some r → c.registro = r.numero → c.closing = true ∨
      s.supervisedSent c.job = true ∧ ∀ i a, Activa s c.job r i a → a.fase = .escribe ∧ a.writer = w

theorem Inv.vacio : Inv Estado.vacio := by
  constructor <;> simp [Estado.vacio]

/-! Registrations and connections -/

theorem Inv.registra {jobObject : String} (inv : Inv s) (free : s.pending job = none) :
    Inv (registrarJob job jobObject s) := by
  -- the number of the new registration is above every number in use
  obtain ⟨limpio, numero, conexion, worker, acked, autorizacion, terminacion, cancelado, ninguna, unica,
    supervisado⟩ := inv
  constructor <;> simp only [registrarJob, Function.update_apply, Activa] at * <;> grind -ring -linarith

theorem Inv.resuelve {r : Registro} (inv : Inv s) (at_ : s.pending job = some r) : Inv (resolver job r s) := by
  obtain ⟨limpio, numero, conexion, worker, acked, autorizacion, terminacion, cancelado, ninguna, unica,
    supervisado⟩ := inv
  constructor <;> simp only [resolver, Function.update_apply, Activa] at * <;> grind -ring -linarith

theorem Inv.limpia (inv : Inv s) : Inv (limpiarRegistro job s) := by
  obtain ⟨limpio, numero, conexion, worker, acked, autorizacion, terminacion, cancelado, ninguna, unica,
    supervisado⟩ := inv
  constructor <;> simp only [limpiarRegistro, Function.update_apply, Activa] at * <;> grind -ring -linarith

theorem Inv.close (inv : Inv s) (w : Nat) : Inv (close w s) := by
  have kept : ∀ (v : Nat) (c : Conexion), s.conexiones[v]? = some c → ∃ d : Conexion,
      (WorkerSupervision.close w s).conexiones[v]? = some d ∧ d.job = c.job ∧ d.registro = c.registro ∧
        (c.closing = true → d.closing = true) := by
    intro v c at_
    obtain ⟨d, at_d, rfl | rfl⟩ := getElem?_modified (i := w)
      (f := fun c : Conexion => { c with closing := true }) at_
    · exact ⟨d, at_d, rfl, rfl, id⟩
    · exact ⟨_, at_d, rfl, rfl, fun _ => rfl⟩
  refine { inv with conexion := ?_, worker := ?_, autorizacion := ?_, supervisado := ?_ }
  · intro v c at_
    rcases getElem?_modify_cases at_ with ⟨_, old⟩ | ⟨_, d, old, rfl⟩
    · exact inv.conexion v c old
    · exact inv.conexion w d old
  · intro j v is
    obtain ⟨c, at_, rfl⟩ := inv.worker j v is
    obtain ⟨d, at_d, same, _⟩ := kept v c at_
    exact ⟨d, at_d, same⟩
  · intro i a at_
    obtain ⟨old, ⟨c, at_c, same, le⟩, rest⟩ := inv.autorizacion i a at_
    obtain ⟨d, at_d, job, registro, _⟩ := kept _ c at_c
    exact ⟨old, ⟨d, at_d, job.trans same, registro ▸ le⟩, rest⟩
  · intro v mem
    obtain ⟨c, at_, current⟩ := inv.supervisado v mem
    obtain ⟨d, at_d, job, registro, closing⟩ := kept v c at_
    refine ⟨d, at_d, ?_⟩
    rw [job, registro]
    exact fun r is number => (current r is number).imp_left closing

theorem Inv.deniega (inv : Inv s) : Inv (denegarSupervision job s) := by
  have denied : Inv { s with launchAcked := Function.update s.launchAcked job false } := by
    refine { inv with limpio := ?_, acked := ?_ } <;> simp only [Function.update_apply]
    · intro j free
      split
      · exact ⟨rfl, (inv.limpio j free).2⟩
      · exact inv.limpio j free
    · intro j r is acked
      split at acked
      · cases acked
      · exact inv.acked j r is acked
  rw [denegarSupervision]
  simp only
  split
  · exact denied.close _
  · exact denied

theorem Inv.hello {r : Registro} (inv : Inv s) (at_ : s.pending job = some r) :
    Inv { s with
      conexiones := s.conexiones ++ [⟨job, r.jobObject, r.numero, false⟩]
      workerByJob := Function.update s.workerByJob job (some s.conexiones.length) } := by
  refine { inv with conexion := ?_, worker := ?_, autorizacion := ?_, supervisado := ?_ }
  · intro w c new
    rcases getElem?_concat new with old | ⟨_, rfl⟩
    · exact inv.conexion w c old
    · refine ⟨inv.numero job r at_, fun q is => ?_⟩
      have same := Option.some.inj (at_.symm.trans is)
      exact ⟨same ▸ Nat.le_refl _, fun _ => same ▸ rfl⟩
  · intro j w is
    simp only [Function.update_apply] at is
    split at is
    · rename_i same
      cases is
      exact ⟨_, getElem?_new _ _, same.symm⟩
    · obtain ⟨c, at_c, same⟩ := inv.worker j w is
      exact ⟨c, getElem?_old at_c, same⟩
  · intro i a at_a
    obtain ⟨old, ⟨c, at_c, same, le⟩, rest⟩ := inv.autorizacion i a at_a
    exact ⟨old, ⟨c, getElem?_old at_c, same, le⟩, rest⟩
  · intro w mem
    obtain ⟨c, at_c, current⟩ := inv.supervisado w mem
    exact ⟨c, getElem?_old at_c, current⟩

/-! Authorisations -/

theorem supervisionVigente_iff {w : Nat} (live : supervisionVigente s job (some w) = true) :
    ∃ r, s.pending job = some r ∧ r.done = false ∧ s.terminando job = false ∧ s.workerByJob job = some w ∧
      isClosing s w = false := by
  cases at_ : s.pending job with
  | none => simp [supervisionVigente, at_] at live
  | some r =>
    simp only [supervisionVigente, at_, Bool.and_eq_true, Bool.not_eq_true', beq_iff_eq] at live
    exact ⟨r, rfl, live.1.1.1, live.1.1.2, live.1.2, live.2⟩

theorem Inv.autoriza (inv : Inv s) : Inv (autorizarWorkerSiCorresponde job s) := by
  rw [autorizarWorkerSiCorresponde]
  split
  · exact inv
  rename_i fresh
  simp only [Bool.or_eq_true, Bool.not_eq_true', not_or, Bool.not_eq_false, Bool.not_eq_true] at fresh
  obtain ⟨acked, unsent⟩ := fresh
  split
  · rename_i w r worker at_
    split
    · have born : ∀ {q : Registro} {i : Nat} {a : Autorizacion},
          Activa { s with
            supervisedSent := Function.update s.supervisedSent job true
            autorizaciones := s.autorizaciones ++ [⟨job, w, r.numero, .espera⟩] } job q i a →
          s.pending job = some q → i = s.autorizaciones.length ∧ a = ⟨job, w, r.numero, .espera⟩ := by
        rintro q i a ⟨new, is, number, live⟩ at_q
        rcases getElem?_concat new with old | last
        · exact absurd ⟨old, is, number, live⟩ (inv.ninguna job q at_q unsent i a)
        · exact last
      have other : ∀ {j : String} {q : Registro} {i : Nat} {a : Autorizacion}, j ≠ job →
          Activa { s with
            supervisedSent := Function.update s.supervisedSent job true
            autorizaciones := s.autorizaciones ++ [⟨job, w, r.numero, .espera⟩] } j q i a →
          Activa s j q i a := by
        rintro j q i a differ ⟨new, is, rest⟩
        rcases getElem?_concat new with old | ⟨_, rfl⟩
        · exact ⟨old, is, rest⟩
        · exact absurd is.symm differ
      refine { inv with limpio := ?_, autorizacion := ?_, ninguna := ?_, unica := ?_, supervisado := ?_ } <;>
        simp only [Function.update_apply]
      · intro j free
        split
        · rename_i same
          rw [same, at_] at free
          cases free
        · exact inv.limpio j free
      · intro i a new
        rcases getElem?_concat new with old | ⟨_, rfl⟩
        · exact inv.autorizacion i a old
        · obtain ⟨c, at_c, rfl⟩ := inv.worker job w worker
          refine ⟨inv.numero _ r at_, ⟨c, at_c, rfl, ((inv.conexion w c at_c).2 r at_).1⟩, fun q is => ?_⟩
          have same := Option.some.inj (at_.symm.trans is)
          exact ⟨same ▸ Nat.le_refl _, fun _ => same ▸ inv.acked _ r at_ acked⟩
      · intro j q is unset
        split at unset
        · cases unset
        · rename_i differ
          exact fun i a active => inv.ninguna j q is unset i a (other differ active)
      · intro j q is i k a b first second
        by_cases same : j = job
        · subst same
          exact (born first is).1.trans (born second is).1.symm
        · exact inv.unica j q is i k a b (other same first) (other same second)
      · intro v mem
        obtain ⟨c, at_c, current⟩ := inv.supervisado v mem
        refine ⟨c, at_c, fun q is number => ?_⟩
        rcases current q is number with closing | ⟨sent, writing⟩
        · exact .inl closing
        · have differ : c.job ≠ job := fun same => by
            rw [same, unsent] at sent
            cases sent
          rw [if_neg differ]
          exact .inr ⟨sent, fun i a active => writing i a (other differ active)⟩
    · exact inv
  · exact inv

theorem Inv.ack {jobObject : Option String} (inv : Inv s) : Inv (registrarLaunchAck job jobObject s) := by
  rw [registrarLaunchAck]
  cases at_ : s.pending job with
  | none => exact inv
  | some r =>
    simp only
    have noted : Inv { s with acks := Function.update s.acks job (jobObject :: s.acks job) } := by
      have more : ∀ {j : String} {n : Option String}, n ∈ s.acks j →
          n ∈ Function.update s.acks job (jobObject :: s.acks job) j := by
        intro j n mem
        rw [Function.update_apply]
        split
        · rename_i same
          exact .tail _ (same ▸ mem)
        · exact mem
      refine { inv with acked := ?_, autorizacion := ?_ }
      · exact fun j q is acked => more (inv.acked j q is acked)
      · intro i a at_a
        obtain ⟨old, conexion, rest⟩ := inv.autorizacion i a at_a
        exact ⟨old, conexion, fun q is => ⟨(rest q is).1, fun number => more ((rest q is).2 number)⟩⟩
    split
    · exact noted
    · split
      · exact noted.deniega
      · rename_i named
        refine Inv.autoriza { noted with limpio := ?_, acked := ?_ } <;> simp only [Function.update_apply]
        · intro j free
          have differ : j ≠ job := fun same => by
            rw [same, at_] at free
            cases free
          rw [if_neg differ]
          exact inv.limpio j free
        · intro j q is acked
          split
          · rename_i same
            subst same
            have : q = r := Option.some.inj (is.symm.trans at_)
            subst this
            rw [Classical.not_not.mp named]
            exact .head _
          · rename_i differ
            rw [if_neg differ] at acked
            exact inv.acked j q is acked

theorem activa_fase {fase : Fase} {r : Registro} {i k : Nat} {a : Autorizacion}
    (active : Activa (s.fase k fase) job r i a) :
    i ≠ k ∧ Activa s job r i a ∨ i = k ∧ fase ≠ .terminada ∧ ∃ b, s.autorizaciones[k]? = some b ∧ b.job = job ∧
      b.registro = r.numero ∧ a = { b with fase := fase } := by
  obtain ⟨at_, is, number, live⟩ := active
  rcases getElem?_modify_cases at_ with ⟨differ, old⟩ | ⟨same, b, old, rfl⟩
  · exact .inl ⟨differ, old, is, number, live⟩
  · exact .inr ⟨same, live, b, old, is, number, rfl⟩

theorem autorizacion_fase (s : Estado) (k : Nat) (fase : Fase) (i : Nat) (a : Autorizacion)
    (at_ : (s.fase k fase).autorizaciones[i]? = some a) : ∃ b, s.autorizaciones[i]? = some b ∧ b.job = a.job ∧
      b.writer = a.writer ∧ b.registro = a.registro := by
  rcases getElem?_modify_cases at_ with ⟨_, old⟩ | ⟨rfl, b, old, rfl⟩
  · exact ⟨a, old, rfl, rfl, rfl⟩
  · exact ⟨b, old, rfl, rfl, rfl⟩

/-- The end of an authorisation, or its way into the write. -/
theorem Inv.terminada (inv : Inv s) (k : Nat) : Inv (s.fase k .terminada) := by
  have old : ∀ {j : String} {r : Registro} {i : Nat} {a : Autorizacion}, Activa (s.fase k .terminada) j r i a →
      Activa s j r i a := by
    intro j r i a active
    rcases activa_fase active with ⟨_, before⟩ | ⟨_, bad, _⟩
    · exact before
    · exact absurd rfl bad
  refine { inv with autorizacion := ?_, ninguna := ?_, unica := ?_, supervisado := ?_ }
  · intro i a at_
    obtain ⟨b, at_b, job, writer, registro⟩ := autorizacion_fase s k .terminada i a at_
    exact job ▸ writer ▸ registro ▸ inv.autorizacion i b at_b
  · exact fun j r is unsent i a active => inv.ninguna j r is unsent i a (old active)
  · exact fun j r is i l a b first second => inv.unica j r is i l a b (old first) (old second)
  · intro w mem
    obtain ⟨c, at_c, current⟩ := inv.supervisado w mem
    refine ⟨c, at_c, fun r is number => (current r is number).imp_right ?_⟩
    exact fun ⟨sent, writing⟩ => ⟨sent, fun i a active => writing i a (old active)⟩

/-- A write on a connection that was accepted in the current registration. -/
theorem Inv.supervisable {k : Nat} {a : Autorizacion} (inv : Inv s) (at_ : s.autorizaciones[k]? = some a)
    (waits : a.fase = .espera) (live : supervisionVigente s a.job (some a.writer) = true)
    (fresh : (s.conexiones[a.writer]?).map Conexion.registro = (s.pending a.job).map Registro.numero) :
    Supervisable s a.job a.writer ∧ ∃ r, s.pending a.job = some r ∧ Activa s a.job r k a := by
  obtain ⟨r, is, undone, calm, worker, opened⟩ := supervisionVigente_iff live
  obtain ⟨_, ⟨c, at_c, same, le⟩, rest⟩ := inv.autorizacion k a at_
  rw [at_c, is, Option.map_some, Option.map_some, Option.some.injEq] at fresh
  -- begun on a connection of this registration, so in it
  have number : a.registro = r.numero := Nat.le_antisymm (rest r is).1 (fresh ▸ le)
  have active : Activa s a.job r k a := ⟨at_, rfl, number, by rw [waits]; nofun⟩
  have named := ((inv.conexion _ c at_c).2 r (same ▸ is)).2 fresh
  refine ⟨⟨⟨r, is, undone, (rest r is).2 number, c, at_c, same, named⟩, worker, ?_, fun written => ?_⟩, r, is, active⟩
  · cases flag : s.cancelado a.job with
    | false => rfl
    | true =>
      rw [inv.cancelado a.job r is flag] at calm
      cases calm
  · obtain ⟨d, at_d, current⟩ := inv.supervisado _ written
    have eq := Option.some.inj (at_c.symm.trans at_d)
    subst eq
    rcases current r (same ▸ is) fresh with closing | ⟨_, writing⟩
    · simp [isClosing, at_c, closing] at opened
    · have := (writing k a (same ▸ active)).1
      rw [waits] at this
      cases this

theorem Inv.escribe {k : Nat} {a : Autorizacion} {r : Registro} (inv : Inv s)
    (waits : a.fase = .espera) (is : s.pending a.job = some r) (active : Activa s a.job r k a)
    (fresh : (s.conexiones[a.writer]?).map Conexion.registro = (s.pending a.job).map Registro.numero) :
    Inv { s.fase k .escribe with supervisados := s.supervisados ++ [a.writer] } := by
  have at_ := active.1
  have old : ∀ {j : String} {q : Registro} {i : Nat} {b : Autorizacion}, Activa (s.fase k .escribe) j q i b →
      ∃ b', Activa s j q i b' ∧ b'.writer = b.writer ∧ (i = k → b.fase = .escribe ∧ b' = a) ∧ (i ≠ k → b' = b) := by
    intro j q i b now
    rcases activa_fase now with ⟨differ, before⟩ | ⟨rfl, _, b', before, job, registro, rfl⟩
    · exact ⟨b, before, rfl, fun same => absurd same differ, fun _ => rfl⟩
    · have same := Option.some.inj (before.symm.trans at_)
      subst same
      exact ⟨b', ⟨before, job, registro, by rw [waits]; nofun⟩, rfl, fun _ => ⟨rfl, rfl⟩, fun no => absurd rfl no⟩
  have sent : s.supervisedSent a.job = true := by
    cases flag : s.supervisedSent a.job with
    | true => rfl
    | false => exact absurd active (inv.ninguna a.job r is flag k a)
  refine { inv with autorizacion := ?_, ninguna := ?_, unica := ?_, supervisado := ?_ }
  · intro i b at_b
    obtain ⟨b', before, job, writer, registro⟩ := autorizacion_fase s k .escribe i b at_b
    exact job ▸ writer ▸ registro ▸ inv.autorizacion i b' before
  · intro j q at_q unsent i b now
    obtain ⟨b', before, _⟩ := old now
    exact inv.ninguna j q at_q unsent i b' before
  · intro j q at_q i l b d first second
    obtain ⟨b', before, _⟩ := old first
    obtain ⟨d', before', _⟩ := old second
    exact inv.unica j q at_q i l b' d' before before'
  · intro w mem
    -- the authorisation that writes is the only one of its job
    have alone : ∀ {i : Nat} {b : Autorizacion}, Activa (s.fase k .escribe) a.job r i b →
        b.fase = .escribe ∧ b.writer = a.writer := by
      intro i b now
      obtain ⟨b', before, writer, mine, _⟩ := old now
      have same := inv.unica a.job r is i k b' a before active
      obtain ⟨writes, rfl⟩ := mine same
      exact ⟨writes, writer.symm⟩
    rcases List.mem_append.mp mem with earlier | last
    · obtain ⟨c, at_c, current⟩ := inv.supervisado w earlier
      refine ⟨c, at_c, fun q at_q number => (current q at_q number).imp_right ?_⟩
      rintro ⟨flag, writing⟩
      refine ⟨flag, fun i b now => ?_⟩
      obtain ⟨b', before, writer, mine, others⟩ := old now
      obtain ⟨writes, on⟩ := writing i b' before
      by_cases same : i = k
      · exact ⟨(mine same).1, writer ▸ on⟩
      · exact ⟨others same ▸ writes, writer ▸ on⟩
    · rw [List.mem_singleton] at last
      subst last
      obtain ⟨_, ⟨c, at_c, same, _⟩, _⟩ := inv.autorizacion k a at_
      refine ⟨c, at_c, fun q at_q number => .inr ?_⟩
      have eq : q = r := Option.some.inj (at_q.symm.trans (same ▸ is))
      subst eq
      rw [same]
      exact ⟨sent, fun i b now => alone now⟩

theorem Inv.falla {k : Nat} {a : Autorizacion} (inv : Inv s) (at_ : s.autorizaciones[k]? = some a)
    (writes : a.fase = .escribe) (own : ∀ r, s.pending a.job = some r → r.numero = a.registro) :
    Inv (WorkerSupervision.close a.writer
      { s.fase k .terminada with supervisedSent := Function.update s.supervisedSent a.job false }) := by
  have ended := inv.terminada k
  have gone : ∀ {r : Registro} {i : Nat} {b : Autorizacion}, s.pending a.job = some r →
      ¬ Activa (s.fase k .terminada) a.job r i b := by
    intro r i b is now
    rcases activa_fase now with ⟨differ, before⟩ | ⟨_, bad, _⟩
    · have active : Activa s a.job r k a := ⟨at_, rfl, (own r is).symm, by rw [writes]; nofun⟩
      exact differ (inv.unica a.job r is i k b a before active)
    · exact bad rfl
  have lost := ended.close a.writer
  refine { lost with limpio := ?_, ninguna := ?_, supervisado := ?_ }
  · intro j free
    obtain ⟨acked, sent, calm⟩ := lost.limpio j free
    refine ⟨acked, ?_, calm⟩
    simp only [WorkerSupervision.close, Function.update_apply]
    split
    · rfl
    · exact sent
  · intro j r is unsent i b now
    by_cases same : j = a.job
    · subst same
      exact gone is now
    · simp only [WorkerSupervision.close, Function.update_apply, if_neg same] at unsent
      exact lost.ninguna j r is unsent i b now
  · intro w mem
    obtain ⟨c, at_c, current⟩ := inv.supervisado w mem
    obtain ⟨d, at_d, which⟩ := getElem?_modified (i := a.writer)
      (f := fun c : Conexion => { c with closing := true }) at_c
    have same : d.job = c.job ∧ d.registro = c.registro ∧ (c.closing = true → d.closing = true) := by
      rcases which with rfl | rfl
      · exact ⟨rfl, rfl, id⟩
      · exact ⟨rfl, rfl, fun _ => rfl⟩
    obtain ⟨job, registro, kept⟩ := same
    refine ⟨d, at_d, ?_⟩
    rw [job, registro]
    intro r is number
    rcases current r is number with closing | ⟨sent, writing⟩
    · exact .inl (kept closing)
    · by_cases mine : c.job = a.job
      · -- the connection of the write that was lost is closing now
        have active : Activa s c.job r k a :=
          ⟨at_, mine.symm, (own r (mine ▸ is)).symm, by rw [writes]; nofun⟩
        have here := (writing k a active).2
        subst here
        left
        have := List.getElem?_modify_eq (fun c : Conexion => { c with closing := true }) a.writer s.conexiones
        rw [at_c] at this
        have eq := Option.some.inj (at_d.symm.trans this)
        rw [eq]
      · right
        have kept_sent : Function.update s.supervisedSent a.job false c.job = true := by
          rw [Function.update_of_ne mine, sent]
        refine ⟨kept_sent, fun i b now => ?_⟩
        rcases activa_fase now with ⟨_, before⟩ | ⟨_, bad, _⟩
        · exact writing i b before
        · exact absurd rfl bad

/-! Cancellations -/

theorem Inv.cancela {r : Registro} (inv : Inv s) (at_ : s.pending job = some r) :
    Inv { s with
      terminando := Function.update s.terminando job true
      terminaciones := s.terminaciones ++ [⟨job, r.numero, true⟩] } := by
  have more : ∀ {j : String}, s.terminando j = true → Function.update s.terminando job true j = true := by
    intro j flag
    rw [Function.update_apply]
    split
    · rfl
    · exact flag
  refine { inv with limpio := ?_, terminacion := ?_, cancelado := ?_ }
  · intro j free
    have differ : j ≠ job := fun same => by
      rw [same, at_] at free
      cases free
    simp only [Function.update_of_ne differ]
    exact inv.limpio j free
  · intro k x new
    rcases getElem?_concat new with old | ⟨_, rfl⟩
    · obtain ⟨below, rest⟩ := inv.terminacion k x old
      exact ⟨below, fun q is => ⟨(rest q is).1, fun number => more ((rest q is).2 number)⟩⟩
    · refine ⟨inv.numero job r at_, fun q is => ?_⟩
      have same := Option.some.inj (at_.symm.trans is)
      exact ⟨same ▸ Nat.le_refl _, fun _ => Function.update_self ..⟩
  · exact fun j q is flag => more (inv.cancelado j q is flag)

theorem Inv.cancelFrame {k : Nat} {x : Terminacion} (inv : Inv s) (at_ : s.terminaciones[k]? = some x)
    (own : ∀ r, s.pending x.job = some r → r.numero = x.registro) :
    Inv { s with cancelado := Function.update s.cancelado x.job true } := by
  refine { inv with cancelado := fun j r is flag => ?_ }
  by_cases same : j = x.job
  · subst same
    exact ((inv.terminacion k x at_).2 r is).2 (own r is).symm
  · simp only [Function.update_of_ne same] at flag
    exact inv.cancelado j r is flag

theorem Inv.termina (inv : Inv s) (k : Nat) :
    Inv { s with terminaciones := s.terminaciones.modify k fun x => { x with viva := false } } := by
  refine { inv with terminacion := fun i x new => ?_ }
  rcases getElem?_modify_cases new with ⟨_, old⟩ | ⟨_, y, old, rfl⟩
  · exact inv.terminacion i x old
  · exact inv.terminacion k y old

/-! Runs -/

theorem own_of_permite {n : Nat} (ok : (s.pending job).all (·.numero == n) = true) :
    ∀ r, s.pending job = some r → r.numero = n := by
  intro r is
  simpa [is] using ok

theorem Inv.avanza {e : Evento} (inv : Inv s) (ok : permitido s e) (moved : step s e = some t) :
    Inv t ∧ Supervisada s e t := by
  cases e with
  | registra job jobObject =>
    rw [WorkerSupervision.step] at moved
    split at moved
    · rename_i free
      cases moved
      exact ⟨inv.registra free, .inl rfl⟩
    · cases moved
  | resuelve job =>
    rw [WorkerSupervision.step] at moved
    split at moved
    · rename_i r at_
      split at moved
      · cases moved
      · cases moved
        exact ⟨inv.resuelve at_, .inl rfl⟩
    · cases moved
  | launchError job =>
    rw [WorkerSupervision.step] at moved
    split at moved
    · rename_i r at_
      split at moved
      · cases moved
      · cases moved
        refine ⟨(inv.resuelve at_).deniega, .inl ?_⟩
        simp only [denegarSupervision]
        split <;> rfl
    · cases moved
  | limpia job =>
    rw [WorkerSupervision.step] at moved
    split at moved
    · cases moved
    · cases moved
      exact ⟨inv.limpia, .inl rfl⟩
  | hello job jobObject =>
    rw [WorkerSupervision.step] at moved
    split at moved
    · rename_i r at_
      split at moved
      · rename_i named
        subst named
        cases moved
        exact ⟨inv.hello at_, .inl rfl⟩
      · cases moved
        exact ⟨inv, .inl rfl⟩
    · cases moved
      exact ⟨inv, .inl rfl⟩
  | helloAck writer =>
    rw [WorkerSupervision.step, Option.map_eq_some_iff] at moved
    obtain ⟨c, _, rfl⟩ := moved
    refine ⟨inv.autoriza, .inl ?_⟩
    rw [autorizarWorkerSiCorresponde]
    repeat' split
    all_goals rfl
  | cierra writer =>
    rw [WorkerSupervision.step] at moved
    cases moved
    exact ⟨inv.close writer, .inl rfl⟩
  | desconecta writer =>
    rw [WorkerSupervision.step, Option.map_eq_some_iff] at moved
    obtain ⟨c, _, rfl⟩ := moved
    split
    · have removed : Inv { s with workerByJob := Function.update s.workerByJob c.job none } := by
        refine { inv with worker := fun j w is => ?_ }
        simp only [Function.update_apply] at is
        split at is
        · cases is
        · exact inv.worker j w is
      exact ⟨removed.close writer, .inl rfl⟩
    · exact ⟨inv.close writer, .inl rfl⟩
  | launchAck job jobObject =>
    rw [WorkerSupervision.step] at moved
    cases moved
    refine ⟨inv.ack, .inl ?_⟩
    rw [registrarLaunchAck]
    split
    · rfl
    · simp only [denegarSupervision, autorizarWorkerSiCorresponde]
      repeat' split
      all_goals rfl
  | escribe i =>
    rw [WorkerSupervision.step] at moved
    split at moved
    · rename_i job writer number at_
      split at moved
      · rename_i live
        cases moved
        simp only [permitido, permite, at_, live, Bool.not_true, Bool.false_or, beq_iff_eq] at ok
        obtain ⟨may, r, is, active⟩ := inv.supervisable at_ rfl live ok
        exact ⟨inv.escribe rfl is active ok, .inr ⟨i, _, rfl, at_, rfl, may⟩⟩
      · cases moved
        exact ⟨inv.terminada i, .inl rfl⟩
    · cases moved
  | drena i =>
    rw [WorkerSupervision.step] at moved
    split at moved
    · cases moved
      exact ⟨inv.terminada i, .inl rfl⟩
    · cases moved
  | falla i =>
    rw [WorkerSupervision.step] at moved
    split at moved
    · rename_i job writer number at_
      cases moved
      simp only [permitido, permite, at_] at ok
      exact ⟨inv.falla at_ rfl (own_of_permite ok), .inl rfl⟩
    · cases moved
  | cancela job =>
    rw [WorkerSupervision.step] at moved
    split at moved
    · rename_i r at_
      split at moved
      · cases moved
        exact ⟨inv, .inl rfl⟩
      · cases moved
        exact ⟨inv.cancela at_, .inl rfl⟩
    · cases moved
  | cancelFrame k =>
    rw [WorkerSupervision.step] at moved
    split at moved
    · rename_i job number at_
      cases moved
      simp only [permitido, permite, at_] at ok
      exact ⟨inv.cancelFrame at_ (own_of_permite ok), .inl rfl⟩
    · cases moved
  | terminada k =>
    rw [WorkerSupervision.step] at moved
    split at moved
    · cases moved
      exact ⟨inv.termina k, .inl rfl⟩
    · cases moved

theorem Inv.of_reaches (reached : Reaches step (· = Estado.vacio) permitido s) : Inv s := by
  refine reached.invariant ?_ fun _ _ _ inv ok moved => (inv.avanza ok moved).1
  rintro _ rfl
  exact .vacio

/-- Each `supervised` that a step writes is one the broker may write, the first on its connection. -/
theorem ninguno_sin_supervision {e : Evento} (reached : Reaches step (· = Estado.vacio) permitido s)
    (ok : permitido s e) (moved : step s e = some t) : Supervisada s e t :=
  ((Inv.of_reaches reached).avanza ok moved).2

def lanzado : List Evento :=
  [.registra "J" "Sky-a", .hello "J" "Sky-a", .helloAck 0, .launchAck "J" (some "Sky-a")]

theorem supervisado_una_vez : ∃ s t, run (restricted step permite) Estado.vacio lanzado = some s ∧
    step s (.escribe 0) = some t ∧ t.supervisados = [0] ∧ Supervisada s (.escribe 0) t := by
  have looks : ((run (restricted step permite) Estado.vacio lanzado).bind fun s =>
      (step s (.escribe 0)).map fun t => (permite s (.escribe 0), t.supervisados)) = some (true, [0]) := by
    decide +kernel
  obtain ⟨s, done, rest⟩ := Option.bind_eq_some_iff.mp looks
  obtain ⟨t, moved, seen⟩ := Option.map_eq_some_iff.mp rest
  obtain ⟨ok, written⟩ := Prod.mk.injEq .. ▸ seen
  exact ⟨s, t, done, moved, written, ninguno_sin_supervision (.of_restricted_run (.start rfl) done) ok moved⟩

/-- The worker of an earlier attempt is still connected when its job is registered again. -/
def conexionVieja : List Evento :=
  [.registra "J" "Sky-a", .hello "J" "Sky-a", .resuelve "J", .limpia "J", .registra "J" "Sky-b",
    .launchAck "J" (some "Sky-b")]

/-- The termination of an earlier attempt writes its cancel once the job is registered again. -/
def cancelacionVieja : List Evento :=
  [.registra "J" "Sky-a", .cancela "J", .resuelve "J", .limpia "J", .registra "J" "Sky-b",
    .hello "J" "Sky-b", .launchAck "J" (some "Sky-b"), .cancelFrame 0]

/-- What two of the conditions come to where the job and the connection are known. -/
def Estado.libre (s : Estado) (job : String) (writer : Nat) : Bool :=
  (s.conexiones[writer]?).map (·.jobObject) == (s.pending job).map (·.jobObject) && !s.cancelado job

theorem Supervisable.libre {writer : Nat} (may : Supervisable s job writer) : s.libre job writer = true := by
  obtain ⟨r, is, _, _, c, at_c, _, named⟩ := may.registro
  simp [Estado.libre, is, at_c, named, may.cancelado]

theorem no_supervisada {es : List Evento}
    (looks : ((run step Estado.vacio es).bind fun s => (step s (.escribe 0)).map fun t =>
      ((s.autorizaciones[0]?).map fun a : Autorizacion => (a.job, a.writer), s.libre "J" 0, s.supervisados, t.supervisados)) =
      some (some ("J", 0), false, [], [0])) :
    ∃ s t, run step Estado.vacio es = some s ∧ step s (.escribe 0) = some t ∧
      ¬ Supervisada s (.escribe 0) t := by
  obtain ⟨s, done, rest⟩ := Option.bind_eq_some_iff.mp looks
  obtain ⟨t, moved, seen⟩ := Option.map_eq_some_iff.mp rest
  simp only [Prod.mk.injEq] at seen
  obtain ⟨which, taken, before, after⟩ := seen
  refine ⟨s, t, done, moved, ?_⟩
  rintro (same | ⟨i, a, is, at_, _, may⟩)
  · rw [before, after] at same
    cases same
  · cases is
    rw [at_, Option.map_some, Option.some.injEq, Prod.mk.injEq] at which
    have free := may.libre
    rw [which.1, which.2, taken] at free
    cases free

theorem supervision_heredada :
    (∃ s t, run step Estado.vacio conexionVieja = some s ∧ step s (.escribe 0) = some t ∧
      ¬ Supervisada s (.escribe 0) t) ∧
    (∃ s t, run step Estado.vacio cancelacionVieja = some s ∧ step s (.escribe 0) = some t ∧
      ¬ Supervisada s (.escribe 0) t) := by
  refine ⟨no_supervisada ?_, no_supervisada ?_⟩ <;> decide +kernel

end WorkerSupervision
