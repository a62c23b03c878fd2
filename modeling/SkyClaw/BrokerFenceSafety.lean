import SkyClaw.BrokerFence

set_option linter.all false

/-!
A launched job is let go of when its worker is over, or with a veto and the
instance in quarantine, as long as no message and no deadline that ends a fence
or sets a quarantine comes while a job is still to be launched, and nobody lets
go of a launch whose frame is being drained.
-/
namespace BrokerFence
open TaskTables TransitionRuns

variable {p : Plazos} {s t : Estado} {i : Nat} {c d : Corrida}

/-! Which steps keep the fence -/

/-- A quarantine of this job comes neither between the check of another and its launch, nor over the
mark of another that has already been let go. -/
def Estado.puedeAislar (s : Estado) (job : String) : Bool :=
  s.corridas.all (fun c => !c.porLanzar) &&
    (decide (s.quarantine = none ∨ s.quarantine = some (some job)) ||
      s.corridas.any fun c => decide (c.job = job) && c.registrada)

/-- No run of the job waits to write its launch frame. -/
def Estado.sinLanzar (s : Estado) (job : String) : Bool :=
  s.corridas.all fun c => !(decide (c.job = job) && c.registrada && c.porLanzar)

/-- The turn, or the sleep, is over its limit. -/
def expira (p : Plazos) (s : Estado) (c : Corrida) (e : Espera) : Bool :=
  match e.vigilia with
  | .conectado _ limit | .caido _ limit => decide (limit ≤ s.ahora)
  | .itera =>
    if s.bridgeConnected then decide ((effectiveDeadline p s c e).1 ≤ s.ahora)
    else decide (lossDeadline p s e ≤ s.ahora)

/-- A fixed limit does not cut the grace of a bridge that was lost after it was fixed. -/
def puedeAsumir (p : Plazos) (s : Estado) (c : Corrida) (e : Espera) : Bool :=
  !c.porLanzar && (!c.lanzada || !e.limiteFijo || decide (s.lostAt + p.fenceGrace ≤ s.ahora))

def permite (p : Plazos) (s : Estado) : Evento → Bool
  | .itera i k | .vence i k =>
    match s.corridas[i]? with
    | some c =>
      match c.esperas[k]? with
      | some e =>
        !expira p s c e || (if s.bridgeConnected then s.puedeAislar c.job else puedeAsumir p s c e)
      | none => true
    | none => true
  | .noDrena i | .interrumpe i =>
    match s.corridas[i]? with
    | some c => decide (c.fase = .drena → c.salida = .resuelta)
    | none => true
  | .acabaApertura i =>
    match s.corridas[i]? with
    | some c =>
      match c.apertura, c.fase with
      -- cancelled in the teardown, with an error of its own that forbids nothing
      | .fence veta cancelada, .fin driver => !(cancelada && !veta && driver)
      | _, _ => true
    | none => true
  | .workerExit job | .launchError job => s.sinLanzar job
  | .cancelError job => s.puedeAislar job
  | _ => true

def permitido (p : Plazos) (s : Estado) (e : Evento) : Prop := permite p s e = true

def Inicio (s : Estado) : Prop := ∃ quarantine, s = .inicial quarantine

/-! The invariant -/

/-- The fence of a launched job failed, and nothing has shown since that its worker is over. -/
def Corrida.mala (c : Corrida) : Prop := c.lanzada = true ∧ c.salida = .fallida ∧ c.segura = false

structure Sana (p : Plazos) (s : Estado) (c : Corrida) : Prop where
  lock : c.dentro = true → s.lock = true
  temprana : c.fase = .esperaLock ∨ c.fase = .prepara → c.salida = .pendiente ∧ c.esperas = []
  porLanzar : c.porLanzar = true → s.quarantine = none ∧ c.salida = .pendiente
  sinLanzar : c.fase = .esperaLock ∨ c.porLanzar = true → c.lanzada = false
  resuelta : c.lanzada = true → c.salida = .resuelta → c.segura = true
  aislada : c.mala → s.quarantine = some (some c.job)
  suelta : ∀ veta, c.fase = .limpia veta ∨ c.fase = .fin veta → c.lanzada = true →
    c.segura = true ∨ veta = true ∧ c.salida = .fallida
  caido : ∀ e ∈ c.esperas, ∀ count limit, e.vigilia = .caido count limit →
    count ≤ s.connectCount ∧ (count = s.connectCount →
      s.bridgeReady = false ∧ (e.limiteFijo = false → s.lostAt + p.fenceGrace ≤ limit))

structure Inv (p : Plazos) (s : Estado) : Prop where
  sana : ∀ (i : Nat) (c : Corrida), s.corridas[i]? = some c → Sana p s c
  unica : ∀ (i j : Nat) (c d : Corrida), s.corridas[i]? = some c → s.corridas[j]? = some d →
    c.dentro = true → d.dentro = true → i = j
  sola : ∀ (i j : Nat) (c d : Corrida), s.corridas[i]? = some c → s.corridas[j]? = some d →
    c.mala → d.dentro = true → i = j
  perdido : s.lostAt ≤ s.ahora
  conexion : s.bridgeReady = true → s.bridgeLost = false

theorem Inv.inicial (quarantine : Option (Option String)) : Inv p (.inicial quarantine) := by
  constructor <;> simp [Estado.inicial]

/-- No run enters, and only one that is inside fails. -/
theorem Inv.avanza (inv : Inv p s)
    (runs : ∀ (j : Nat) (d : Corrida), t.corridas[j]? = some d → ∃ c : Corrida, s.corridas[j]? = some c ∧
      Sana p t d ∧ (d.dentro = true → c.dentro = true) ∧ (d.mala → c.mala ∨ c.dentro = true))
    (perdido : t.lostAt ≤ t.ahora) (conexion : t.bridgeReady = true → t.bridgeLost = false) : Inv p t where
  sana j d at_ := (runs j d at_).choose_spec.2.1
  unica i j c d at_c at_d inside_c inside_d := by
    obtain ⟨c', old_c, _, dentro_c, _⟩ := runs i c at_c
    obtain ⟨d', old_d, _, dentro_d, _⟩ := runs j d at_d
    exact inv.unica i j c' d' old_c old_d (dentro_c inside_c) (dentro_d inside_d)
  sola i j c d at_c at_d bad inside := by
    obtain ⟨c', old_c, _, _, mala⟩ := runs i c at_c
    obtain ⟨d', old_d, _, dentro, _⟩ := runs j d at_d
    rcases mala bad with was | was
    · exact inv.sola i j c' d' old_c old_d was (dentro inside)
    · exact inv.unica i j c' d' old_c old_d was (dentro inside)
  perdido := perdido
  conexion := conexion

/-- What `Sana` reads of the state. -/
theorem Sana.mismo (sana : Sana p s c) (lock : t.lock = s.lock) (quarantine : t.quarantine = s.quarantine)
    (count : t.connectCount = s.connectCount) (ready : t.bridgeReady = s.bridgeReady)
    (lost : t.lostAt = s.lostAt) : Sana p t c :=
  { sana with
    lock := lock ▸ sana.lock
    porLanzar := quarantine ▸ sana.porLanzar
    aislada := quarantine ▸ sana.aislada
    caido := by
      rw [count, ready, lost]
      exact sana.caido }

/-- A change of one run that keeps it sound. -/
theorem Inv.cambia {f : Corrida → Corrida} (inv : Inv p s) (at_ : s.corridas[i]? = some c)
    (sana : Sana p s (f c)) (dentro : (f c).dentro = true → c.dentro = true)
    (mala : (f c).mala → c.mala ∨ c.dentro = true) : Inv p (s.cambia i f) := by
  refine inv.avanza ?_ inv.perdido inv.conexion
  intro j d new
  rcases getElem?_modify_cases new with ⟨_, old⟩ | ⟨rfl, y, old, changed⟩
  · exact ⟨d, old, (inv.sana j d old).mismo rfl rfl rfl rfl rfl, id, .inl⟩
  · have same : y = c := Option.some.inj (old.symm.trans at_)
    subst same changed
    exact ⟨y, old, sana.mismo rfl rfl rfl rfl rfl, dentro, mala⟩

/-! A run takes its next step -/

/-- The future and the frame of the run stay, and a run that is let go of is over or vetoed. -/
structure Sigue (c d : Corrida) : Prop where
  job : d.job = c.job
  salida : d.salida = c.salida
  lanzada : d.lanzada = c.lanzada
  segura : d.segura = c.segura
  dentro : d.dentro = true → c.dentro = true
  porLanzar : d.porLanzar = true → c.porLanzar = true
  temprana : d.fase = .esperaLock ∨ d.fase = .prepara → d.fase = c.fase ∧ d.esperas = c.esperas
  suelta : ∀ veta, d.fase = .limpia veta ∨ d.fase = .fin veta →
    d.fase = c.fase ∨ c.lanzada = false ∨ c.salida = .resuelta ∨ c.segura = true ∨
      veta = true ∧ c.salida = .fallida
  caido : ∀ e ∈ d.esperas, e ∈ c.esperas ∨ e.vigilia = .itera

theorem Sana.sigue (sana : Sana p s c) (next : Sigue c d) : Sana p s d where
  lock inside := sana.lock (next.dentro inside)
  temprana early := by
    obtain ⟨same, esperas⟩ := next.temprana early
    rw [next.salida, esperas]
    exact sana.temprana (same ▸ early)
  porLanzar soon := by
    rw [next.salida]
    exact sana.porLanzar (next.porLanzar soon)
  sinLanzar soon := by
    rw [next.lanzada]
    refine sana.sinLanzar ?_
    rcases soon with waits | soon
    · exact .inl ((next.temprana (.inl waits)).1 ▸ waits)
    · exact .inr (next.porLanzar soon)
  resuelta := by
    rw [next.lanzada, next.salida, next.segura]
    exact sana.resuelta
  aislada bad := by
    rw [Corrida.mala, next.lanzada, next.salida, next.segura] at bad
    rw [next.job]
    exact sana.aislada bad
  suelta veta gone launched := by
    rw [next.lanzada] at launched
    rw [next.segura, next.salida]
    rcases next.suelta veta gone with same | fresh | done | done | vetoed
    · exact sana.suelta veta (same ▸ gone) launched
    · rw [fresh] at launched
      cases launched
    · exact .inl (sana.resuelta launched done)
    · exact .inl done
    · exact .inr vetoed
  caido e mem count limit down := by
    rcases next.caido e mem with old | new
    · exact sana.caido e old count limit down
    · rw [new] at down
      cases down

theorem Inv.sigue {f : Corrida → Corrida} (inv : Inv p s) (at_ : s.corridas[i]? = some c)
    (next : Sigue c (f c)) : Inv p (s.cambia i f) := by
  refine inv.cambia at_ ((inv.sana i c at_).sigue next) next.dentro fun bad => .inl ?_
  rw [Corrida.mala, next.salida, next.lanzada, next.segura] at bad
  exact bad

theorem Sigue.fase {fase : Fase} (dentro : ({ c with fase := fase } : Corrida).dentro = true → c.dentro = true)
    (porLanzar : ({ c with fase := fase } : Corrida).porLanzar = true → c.porLanzar = true)
    (late : fase ≠ .esperaLock ∧ fase ≠ .prepara)
    (suelta : ∀ veta, fase = .limpia veta ∨ fase = .fin veta →
      c.lanzada = false ∨ c.salida = .resuelta ∨ c.segura = true ∨ veta = true ∧ c.salida = .fallida) :
    Sigue c { c with fase := fase } where
  job := rfl
  salida := rfl
  lanzada := rfl
  segura := rfl
  dentro := dentro
  porLanzar := porLanzar
  temprana early := by
    rcases early with early | early
    · exact absurd early late.1
    · exact absurd early late.2
  suelta veta gone := .inr (suelta veta gone)
  caido e mem := .inl mem

theorem Sigue.trans {x : Corrida} (first : Sigue c d) (second : Sigue d x) : Sigue c x where
  job := second.job.trans first.job
  salida := second.salida.trans first.salida
  lanzada := second.lanzada.trans first.lanzada
  segura := second.segura.trans first.segura
  dentro inside := first.dentro (second.dentro inside)
  porLanzar soon := first.porLanzar (second.porLanzar soon)
  temprana early := by
    obtain ⟨same, esperas⟩ := second.temprana early
    obtain ⟨same', esperas'⟩ := first.temprana (same ▸ early)
    exact ⟨same.trans same', esperas.trans esperas'⟩
  suelta veta gone := by
    rcases second.suelta veta gone with same | rest
    · rw [same] at gone ⊢
      exact first.suelta veta gone
    · rw [first.lanzada, first.salida, first.segura] at rest
      exact .inr rest
  caido e mem := by
    rcases second.caido e mem with old | new
    · exact first.caido e old
    · exact .inr new

theorem Sigue.conEsperas {esperas : List Espera} (late : c.fase ≠ .esperaLock ∧ c.fase ≠ .prepara)
    (caido : ∀ e ∈ esperas, e ∈ c.esperas ∨ e.vigilia = .itera) : Sigue c { c with esperas := esperas } where
  job := rfl
  salida := rfl
  lanzada := rfl
  segura := rfl
  dentro := id
  porLanzar := id
  temprana early := by
    rcases early with early | early
    · exact absurd early late.1
    · exact absurd early late.2
  suelta _ _ := .inl rfl
  caido := caido

theorem Sigue.conEspera (ahora : Nat) (limiteFijo : Bool) (late : c.fase ≠ .esperaLock ∧ c.fase ≠ .prepara) :
    Sigue c (c.conEspera ahora limiteFijo) := by
  refine .conEsperas late fun e mem => ?_
  rcases List.mem_append.mp mem with old | new
  · exact .inl old
  · rw [List.mem_singleton.mp new]
    exact .inr rfl

theorem Sigue.enviar (before : c.fase = .prepara ∨ c.fase = .arranca) (fresh : c.lanzada = false) :
    Sigue c (c.enviar s) := by
  have inside : c.dentro = true := by rcases before with before | before <;> rw [Corrida.dentro, before]
  have soon : c.porLanzar = true := by rcases before with before | before <;> rw [Corrida.porLanzar, before]
  rw [Corrida.enviar]
  split
  · exact .fase (fun _ => inside) (fun _ => soon) (by simp) (by simp)
  · exact .fase (fun _ => inside) (fun _ => soon) (by simp) fun _ _ => .inl fresh

theorem Sigue.datos (apertura : Apertura) (resultado : Option Bool) (terminando : Bool) :
    Sigue c { c with apertura := apertura, resultado := resultado, terminando := terminando } where
  job := rfl
  salida := rfl
  lanzada := rfl
  segura := rfl
  dentro := id
  porLanzar := id
  temprana _ := ⟨rfl, rfl⟩
  suelta _ _ := .inl rfl
  caido _ mem := .inl mem

/-- A run that has written its frame, or takes its outcome, moves on. -/
theorem Sigue.pasa {fase : Fase} (inside : c.dentro = true)
    (late : fase ≠ .esperaLock ∧ fase ≠ .prepara) (launched : ({ c with fase := fase } : Corrida).porLanzar = false)
    (held : ∀ veta, fase ≠ .limpia veta ∧ fase ≠ .fin veta) : Sigue c { c with fase := fase } := by
  refine .fase (fun _ => inside) (fun soon => ?_) late fun veta gone => ?_
  · rw [launched] at soon
    cases soon
  · rcases gone with gone | gone
    · exact absurd gone (held veta).1
    · exact absurd gone (held veta).2

theorem Sigue.cancelar (inside : c.dentro = true) : Sigue c c.cancelar := by
  have next : Sigue c { c with fase := .cancela } := .pasa inside (by simp) rfl (by simp)
  refine (next.trans (Sigue.datos c.apertura c.resultado true)).trans (.conEsperas (by simp) fun e mem => ?_)
  exact .inl (List.mem_filter.mp mem).1

theorem Sigue.recibir {ahora : Nat} (moved : recibir ahora c = some d) : Sigue c d := by
  rw [BrokerFence.recibir] at moved
  split at moved
  · rename_i phase _
    cases moved
    exact (Sigue.pasa (by rw [Corrida.dentro, phase]) (by simp) rfl (by simp)).trans (.conEspera _ _ (by simp))
  · rename_i phase _
    cases moved
    exact (Sigue.pasa (by rw [Corrida.dentro, phase]) (by simp) rfl (by simp)).trans (.conEspera _ _ (by simp))
  · cases moved

theorem Sigue.decidir (moved : decidir c = some d) : Sigue c d := by
  rw [BrokerFence.decidir] at moved
  split at moved
  all_goals try cases moved
  all_goals
    rename_i phase exit
    have inside : c.dentro = true := by rw [Corrida.dentro, phase]
    refine .fase (fun _ => inside) (fun soon => by cases soon) (by simp) fun veta gone => ?_
    simp_all

theorem Sigue.interrumpir (moved : interrumpir c = some d) (fresh : c.porLanzar = true → c.lanzada = false)
    (drained : c.fase = .drena → c.salida = .resuelta) : Sigue c d := by
  rw [BrokerFence.interrumpir] at moved
  split at moved
  · rename_i phase
    cases moved
    exact .fase (fun _ => by rw [Corrida.dentro, phase]) (fun soon => by cases soon) (by simp)
      fun _ _ => .inl (fresh (by rw [Corrida.porLanzar, phase]))
  · rename_i phase
    cases moved
    exact .fase (fun _ => by rw [Corrida.dentro, phase]) (fun soon => by cases soon) (by simp)
      fun _ _ => .inr (.inl (drained phase))
  · rename_i phase
    cases moved
    exact .cancelar (by rw [Corrida.dentro, phase])
  · rename_i phase
    cases moved
    exact .cancelar (by rw [Corrida.dentro, phase])
  · cases moved

theorem Sigue.interrumpirApertura (moved : interrumpirApertura c = some d) : Sigue c d := by
  rw [BrokerFence.interrumpirApertura] at moved
  split at moved
  all_goals cases moved
  all_goals exact .datos _ c.resultado c.terminando

/-! The future is resolved -/

theorem Corrida.registrada_dentro (listed : c.registrada = true) : c.dentro = true := by
  rw [Corrida.registrada] at listed
  rw [Corrida.dentro]
  split at listed <;> simp_all

/-- A launched job whose future is pending is inside, or it is over already. -/
theorem Sana.dentro (sana : Sana p s c) (launched : c.lanzada = true) (pending : c.salida = .pendiente) :
    c.segura = true ∨ c.dentro = true := by
  cases phase : c.fase with
  | esperaLock =>
    rw [sana.sinLanzar (.inl phase)] at launched
    cases launched
  | fin veta =>
    refine (sana.suelta veta (.inr phase) launched).imp_right fun failed => ?_
    rw [pending] at failed
    cases failed.2
  | _ => exact .inr (by rw [Corrida.dentro, phase])

/-- The worker is over, or taken for dead. -/
theorem Inv.asume {e : Espera} (inv : Inv p s) (at_ : s.corridas[i]? = some c) (mem : e ∈ c.esperas)
    (pending : c.salida = .pendiente) (launched : c.porLanzar = false)
    (grace : c.lanzada = true → s.lostAt + p.fenceGrace ≤ s.ahora) : Inv p (asumir p i s) := by
  have sana := inv.sana i c at_
  have early : ¬ (c.fase = .esperaLock ∨ c.fase = .prepara) := by
    intro early
    rw [(sana.temprana early).2] at mem
    cases mem
  refine inv.cambia at_ ?_ id fun bad => by cases bad.2.1
  refine
    { sana with
      temprana := fun is => absurd is early
      porLanzar := fun soon => by
        rw [show c.porLanzar = true from soon] at launched
        cases launched
      resuelta := fun is _ => by simp [Corrida.segura, grace is]
      aislada := fun bad => by cases bad.2.1
      suelta := ?_ }
  intro veta gone is
  rcases sana.suelta veta gone is with done | failed
  · left
    simp only [Corrida.segura, Bool.or_eq_true] at done ⊢
    tauto
  · rw [pending] at failed
    cases failed.2

/-- A quarantine that may be set. -/
theorem Inv.aisla {job : String} (inv : Inv p s) (can : s.puedeAislar job = true) :
    Inv p { s with quarantine := some (some job) } := by
  simp only [Estado.puedeAislar, Bool.and_eq_true, Bool.or_eq_true, decide_eq_true_eq, List.all_eq_true,
    Bool.not_eq_true', List.any_eq_true] at can
  obtain ⟨none_soon, mark⟩ := can
  have sana : ∀ (j : Nat) (d : Corrida), s.corridas[j]? = some d →
      Sana p { s with quarantine := some (some job) } d := by
    intro j d at_
    have sana := inv.sana j d at_
    refine { sana with porLanzar := ?_, aislada := ?_ }
    · intro soon
      rw [none_soon d (List.mem_of_getElem? at_)] at soon
      cases soon
    · intro bad
      have named := sana.aislada bad
      rcases mark with (free | same) | ⟨r, mem, job_r, listed⟩
      · rw [free] at named
        cases named
      · rw [same] at named
        exact named
      · -- the run that is listed is inside, so the one that failed is this one
        obtain ⟨k, at_r⟩ := List.mem_iff_getElem?.mp mem
        have same := inv.sola j k d r at_ at_r bad (Corrida.registrada_dentro listed)
        rw [same, at_r] at at_
        rw [← Option.some.inj at_, job_r]
  exact { inv with sana := sana }

/-- A pending future fails, with the instance in quarantine. -/
theorem Sana.falla (resultado : Option Bool) (sana : Sana p s c) (mark : s.quarantine = some (some c.job))
    (early : ¬ (c.fase = .esperaLock ∨ c.fase = .prepara)) :
    Sana p s { c with salida := c.salida.falla, resultado := resultado } := by
  have launched : c.porLanzar = false := by
    rw [← Bool.not_eq_true]
    intro soon
    rw [(sana.porLanzar soon).1] at mark
    cases mark
  refine
    { sana with
      temprana := fun is => absurd is early
      porLanzar := fun soon => by
        rw [show c.porLanzar = true from soon] at launched
        cases launched
      resuelta := fun is exit => ?_
      aislada := fun _ => mark
      suelta := fun veta gone is => (sana.suelta veta gone is).imp_right fun failed => ?_ }
  · cases was : c.salida with
    | resuelta => exact sana.resuelta is was
    | _ => simp [was, Salida.falla] at exit
  · exact ⟨failed.1, by simp [failed.2, Salida.falla]⟩

theorem Corrida.mala_falla (resultado : Option Bool) (sana : Sana p s c)
    (bad : ({ c with salida := c.salida.falla, resultado := resultado } : Corrida).mala) :
    c.mala ∨ c.dentro = true := by
  obtain ⟨launched, failed, unsafe_⟩ := bad
  cases was : c.salida with
  | pendiente =>
    refine .inr ((sana.dentro launched was).resolve_left fun done => ?_)
    rw [show c.segura = false from unsafe_] at done
    cases done
  | resuelta => simp [was, Salida.falla] at failed
  | fallida => exact .inl ⟨launched, was, unsafe_⟩

theorem Inv.vence {e : Espera} (isolated : Inv p { s with quarantine := some (some c.job) })
    (at_ : s.corridas[i]? = some c) (mem : e ∈ c.esperas) (pending : c.salida = .pendiente) :
    Inv p (vencer i c s) := by
  have sana := isolated.sana i c at_
  have early : ¬ (c.fase = .esperaLock ∨ c.fase = .prepara) := by
    intro early
    rw [(sana.temprana early).2] at mem
    cases mem
  have failing : c.salida.falla = .fallida := by rw [pending, Salida.falla]
  have next := sana.falla c.resultado rfl early
  rw [failing] at next
  refine isolated.cambia at_ next id fun bad => ?_
  refine Corrida.mala_falla c.resultado sana ?_
  rw [failing]
  exact bad

/-! The turns of a fence -/

theorem Inv.vigila {k : Nat} {vigilia : Vigilia} (inv : Inv p s) (at_ : s.corridas[i]? = some c)
    (caido : ∀ e, c.esperas[k]? = some e → ∀ count limit, vigilia = .caido count limit →
      count ≤ s.connectCount ∧ (count = s.connectCount →
        s.bridgeReady = false ∧ (e.limiteFijo = false → s.lostAt + p.fenceGrace ≤ limit))) :
    Inv p (vigilar i k vigilia s) := by
  have sana := inv.sana i c at_
  refine inv.cambia at_ { sana with temprana := ?_, caido := ?_ } id .inl
  · intro early
    rw [(sana.temprana early).2]
    exact ⟨(sana.temprana early).1, by cases k <;> rfl⟩
  · intro e mem count limit down
    rcases mem_modify mem with old | ⟨old, at_old, rfl⟩
    · exact sana.caido e old count limit down
    · exact caido old at_old count limit down

/-- The replay window of a run is not read by the invariant. -/
theorem Inv.repite (replay : Option Nat) (inv : Inv p s) (at_ : s.corridas[i]? = some c) :
    Inv p (s.cambia i fun c => { c with replayDeadline := replay }) := by
  have sana := inv.sana i c at_
  exact inv.cambia at_ { sana with } id .inl

theorem Estado.repite_at (s : Estado) (replay : Option Nat) (at_ : s.corridas[i]? = some c) :
    (s.cambia i fun c => { c with replayDeadline := replay }).corridas[i]? =
      some { c with replayDeadline := replay } := by
  rw [Estado.cambia, List.getElem?_modify_eq, at_]
  rfl

theorem Inv.itera {k : Nat} {e : Espera} (inv : Inv p s) (at_ : s.corridas[i]? = some c)
    (wait : c.esperas[k]? = some e) (turn : e.vigilia = .itera) (pending : c.salida = .pendiente)
    (ok : permitido p s (.itera i k)) : Inv p (iterar p i k c e s) := by
  have mem := List.mem_of_getElem? wait
  simp only [permitido, permite, at_, wait, expira, turn] at ok
  rw [iterar]
  split at ok
  · rename_i connected
    simp only [connected, if_true]
    split
    · rename_i done
      simp only [done, decide_true, Bool.not_true, Bool.false_or] at ok
      have again := s.repite_at (effectiveDeadline p s c e).2 at_
      exact Inv.vence (c := { c with replayDeadline := (effectiveDeadline p s c e).2 })
        ((inv.aisla ok).repite _ at_) again mem pending
    · exact (inv.repite _ at_).vigila (s.repite_at _ at_) fun _ _ _ _ down => by cases down
  · rename_i down
    simp only [down, if_false, Bool.false_eq_true]
    have unready : s.bridgeReady = false := by
      rw [← Bool.not_eq_true]
      intro ready
      exact down (by rw [Estado.bridgeConnected, ready, inv.conexion ready]; rfl)
    have lost := inv.perdido
    split
    · rename_i done
      simp only [done, decide_true, Bool.not_true, Bool.false_or, puedeAsumir, Bool.and_eq_true,
        Bool.not_eq_true', Bool.or_eq_true, decide_eq_true_eq] at ok
      refine inv.asume at_ mem pending ok.1 fun launched => ?_
      rcases ok.2 with (free | loose) | late
      · rw [launched] at free
        cases free
      · rw [lossDeadline, loose] at done
        simp only [Bool.false_eq_true, if_false] at done
        omega
      · exact late
    · refine inv.vigila at_ fun e' wait' count limit is => ?_
      cases is
      cases wait.symm.trans wait'
      refine ⟨Nat.le_refl _, fun _ => ⟨unready, fun loose => ?_⟩⟩
      simp only [lossDeadline, loose, Bool.false_eq_true, if_false]
      omega

theorem Inv.despierta {k : Nat} {e : Espera} (inv : Inv p s) (at_ : s.corridas[i]? = some c)
    (wait : c.esperas[k]? = some e) (pending : c.salida = .pendiente) (ok : permitido p s (.vence i k))
    (moved : despertar p i c e s = some t) : Inv p t := by
  have mem := List.mem_of_getElem? wait
  simp only [permitido, permite, at_, wait, expira] at ok
  rw [despertar] at moved
  split at moved
  · rename_i count limit watch
    split at moved
    · rename_i done
      obtain ⟨done, connected, _⟩ := done
      simp only [watch, done, connected, decide_true, Bool.not_true, Bool.false_or, if_true] at ok
      cases moved
      exact (inv.aisla ok).vence at_ mem pending
    · cases moved
  · rename_i count limit watch
    split at moved
    · rename_i done
      obtain ⟨done, unready, same⟩ := done
      have down : s.bridgeConnected = false := by rw [Estado.bridgeConnected, unready]; rfl
      simp only [watch, done, down, decide_true, Bool.not_true, Bool.false_or, Bool.false_eq_true, if_false,
        puedeAsumir, Bool.and_eq_true, Bool.not_eq_true', Bool.or_eq_true, decide_eq_true_eq] at ok
      cases moved
      refine inv.asume at_ mem pending ok.1 fun launched => ?_
      rcases ok.2 with (free | loose) | late
      · rw [launched] at free
        cases free
      · have bound := (((inv.sana i c at_).caido e mem count limit watch).2 same.symm).2 loose
        omega
      · exact late
    · cases moved
  · cases moved

/-! What the bridge says -/

theorem alJob_at {job : String} {f : Corrida → Corrida} {j : Nat} (at_ : (alJob job f s).corridas[j]? = some d) :
    ∃ c : Corrida, s.corridas[j]? = some c ∧ (c.job = job ∧ d = f c ∨ c.job ≠ job ∧ d = c) := by
  simp only [alJob, List.getElem?_map, Option.map_eq_some_iff] at at_
  obtain ⟨c, old, rfl⟩ := at_
  refine ⟨c, old, ?_⟩
  split
  · rename_i named
    exact .inl ⟨named, rfl⟩
  · rename_i other
    exact .inr ⟨other, rfl⟩

theorem Inv.alJob (job : String) {f : Corrida → Corrida} (inv : Inv p s)
    (each : ∀ (j : Nat) (c : Corrida), s.corridas[j]? = some c → c.job = job →
      Sana p s (f c) ∧ ((f c).dentro = true → c.dentro = true) ∧ ((f c).mala → c.mala ∨ c.dentro = true)) :
    Inv p (alJob job f s) := by
  refine inv.avanza ?_ inv.perdido inv.conexion
  intro j d new
  obtain ⟨c, old, ⟨named, rfl⟩ | ⟨_, rfl⟩⟩ := alJob_at new
  · obtain ⟨sana, rest⟩ := each j c old named
    exact ⟨c, old, sana.mismo rfl rfl rfl rfl rfl, rest⟩
  · exact ⟨d, old, (inv.sana j d old).mismo rfl rfl rfl rfl rfl, id, .inl⟩

theorem Inv.cancelError {job : String} (inv : Inv p s) (ok : permitido p s (.cancelError job)) :
    Inv p (cancelError job s) := by
  have isolated := inv.aisla ok
  refine (isolated.alJob job fun j c at_ named => ?_ : Inv p (BrokerFence.alJob job _ _))
  have sana := isolated.sana j c at_
  split
  · rename_i listed
    refine ⟨sana.falla _ (by rw [named]) ?_, id, Corrida.mala_falla _ sana⟩
    intro early
    rcases early with early | early <;> simp [Corrida.registrada, early] at listed
  · exact ⟨sana, id, .inl⟩

/-- A pending future that is resolved, with its reason noted. -/
theorem Sana.resuelve {resultado : Option Bool} {exit refused : Bool} (sana : Sana p s c)
    (listed : c.registrada = true) (launched : c.porLanzar = false)
    (noted : c.lanzada = true → exit = true ∨ refused = true) :
    Sana p s { c with
      workerExit := exit, rechazada := refused, salida := c.salida.resuelve, resultado := resultado } where
  lock := sana.lock
  temprana := by
    intro early
    rcases early with early | early <;> simp [Corrida.registrada, show c.fase = _ from early] at listed
  porLanzar := by
    intro soon
    rw [show c.porLanzar = true from soon] at launched
    cases launched
  sinLanzar := sana.sinLanzar
  resuelta := by
    intro is _
    rcases noted is with is | is <;> simp [Corrida.segura, is]
  aislada := by
    intro bad
    obtain ⟨is, _, unsafe_⟩ := bad
    rcases noted is with is | is <;> simp [Corrida.segura, is] at unsafe_
  suelta := by
    intro veta _ is
    left
    rcases noted is with is | is <;> simp [Corrida.segura, is]
  caido := sana.caido

theorem Corrida.no_mala {exit refused : Bool} {salida : Salida} {resultado : Option Bool}
    (noted : c.lanzada = true → exit = true ∨ refused = true) :
    ¬ ({ c with workerExit := exit, rechazada := refused, salida := salida, resultado := resultado } : Corrida).mala := by
  intro bad
  obtain ⟨is, _, unsafe_⟩ := bad
  rcases noted is with is | is <;> simp [Corrida.segura, is] at unsafe_

theorem Inv.workerExit {job : String} (inv : Inv p s) (ok : permitido p s (.workerExit job)) :
    Inv p (workerExit job s) := by
  simp only [permitido, permite, Estado.sinLanzar, List.all_eq_true, Bool.not_eq_true', Bool.and_eq_false_iff,
    decide_eq_false_iff_not] at ok
  have exits : Inv p (BrokerFence.alJob job (fun c => { c with
      workerExit := c.workerExit || c.lanzada
      salida := if c.registrada then c.salida.resuelve else c.salida
      resultado := if c.registrada && !c.terminando then c.resultado.or (some false) else c.resultado }) s) := by
    refine inv.alJob job fun j c at_ named => ⟨?_, id, fun bad => ?_⟩
    · have sana := inv.sana j c at_
      have noted : c.lanzada = true → (c.workerExit || c.lanzada) = true ∨ c.rechazada = true := by
        intro is
        simp [is]
      by_cases listed : c.registrada = true
      · have launched : c.porLanzar = false := by
          rcases ok c (List.mem_of_getElem? at_) with (other | unlisted) | launched
          · exact absurd named other
          · rw [listed] at unlisted
            cases unlisted
          · exact launched
        simp only [listed, if_true]
        exact sana.resuelve listed launched noted
      · simp only [listed, if_false, Bool.false_eq_true, Bool.false_and]
        refine { sana with resuelta := ?_, aislada := ?_, suelta := ?_ }
        · intro is _
          rcases noted is with is | is <;> simp [Corrida.segura, is]
        · intro bad
          exact absurd bad (Corrida.no_mala noted)
        · intro veta _ is
          left
          rcases noted is with is | is <;> simp [Corrida.segura, is]
    · refine absurd bad (Corrida.no_mala fun is => ?_)
      simp [is]
  simp only [BrokerFence.workerExit]
  split
  · rename_i mark
    -- the jobs whose fence had failed are the ones that the mark names
    refine { exits with sana := fun j d at_ => ?_ }
    have sana := exits.sana j d at_
    refine { sana with porLanzar := fun soon => ⟨rfl, (sana.porLanzar soon).2⟩, aislada := fun bad => ?_ }
    have named := sana.aislada bad
    obtain ⟨c, _, ⟨_, rfl⟩ | ⟨other, rfl⟩⟩ := alJob_at at_
    · exact absurd bad (Corrida.no_mala fun is => by simp [show c.lanzada = true from is])
    · have same : s.quarantine = some (some d.job) := named
      rw [mark] at same
      cases same
      exact absurd rfl other
  · exact exits

theorem Inv.launchError {job : String} (inv : Inv p s) (ok : permitido p s (.launchError job)) :
    Inv p (launchError job s) := by
  simp only [permitido, permite, Estado.sinLanzar, List.all_eq_true, Bool.not_eq_true', Bool.and_eq_false_iff,
    decide_eq_false_iff_not] at ok
  refine inv.alJob job fun j c at_ named => ?_
  have sana := inv.sana j c at_
  have noted : c.lanzada = true → c.workerExit = true ∨ (c.rechazada || c.lanzada) = true := by
    intro is
    simp [is]
  split
  · rename_i pending
    rw [Bool.and_eq_true] at pending
    have launched : c.porLanzar = false := by
      rcases ok c (List.mem_of_getElem? at_) with (other | unlisted) | launched
      · exact absurd named other
      · rw [pending.1] at unlisted
        cases unlisted
      · exact launched
    exact ⟨sana.resuelve pending.1 launched noted, id, fun bad => absurd bad (Corrida.no_mala noted)⟩
  · exact ⟨sana, id, .inl⟩

/-! Every step keeps the invariant -/

theorem Inv.nueva {job : String} {apertura : Apertura} (inv : Inv p s) :
    Inv p { s with corridas := s.corridas ++ [.nueva job apertura] } where
  sana i c at_ := by
    rcases getElem?_concat at_ with old | ⟨_, rfl⟩
    · exact (inv.sana i c old).mismo rfl rfl rfl rfl rfl
    · constructor <;> simp [Corrida.nueva, Corrida.dentro, Corrida.porLanzar, Corrida.mala]
  unica i j c d at_c at_d inside_c inside_d := by
    rcases getElem?_concat at_c with old_c | ⟨_, rfl⟩
    · rcases getElem?_concat at_d with old_d | ⟨_, rfl⟩
      · exact inv.unica i j c d old_c old_d inside_c inside_d
      · cases inside_d
    · cases inside_c
  sola i j c d at_c at_d bad inside := by
    rcases getElem?_concat at_c with old_c | ⟨_, rfl⟩
    · rcases getElem?_concat at_d with old_d | ⟨_, rfl⟩
      · exact inv.sola i j c d old_c old_d bad inside
      · cases inside
    · cases bad.1
  perdido := inv.perdido
  conexion := inv.conexion

/-- The one run inside leaves. -/
theorem Inv.sale {f : Corrida → Corrida} (inv : Inv p s) (at_ : s.corridas[i]? = some c) (inside : c.dentro = true)
    (next : Sigue c (f c)) (outside : (f c).dentro = false) :
    Inv p { s.cambia i f with lock := false } := by
  refine inv.avanza ?_ inv.perdido inv.conexion
  intro j d new
  rcases getElem?_modify_cases new with ⟨other, old⟩ | ⟨rfl, y, old, changed⟩
  · have gone : d.dentro = false := by
      rw [← Bool.not_eq_true]
      intro also
      exact other (inv.unica j i d c old at_ also inside)
    refine ⟨d, old, { inv.sana j d old with lock := fun also => ?_ }, id, .inl⟩
    rw [gone] at also
    cases also
  · have same : y = c := Option.some.inj (old.symm.trans at_)
    subst same changed
    refine ⟨y, old, { (inv.sana j y at_).sigue next with lock := fun also => ?_ }, next.dentro, fun _ => .inr inside⟩
    rw [outside] at also
    cases also

/-- The lock is free, so nobody is inside. -/
theorem Inv.entra (inv : Inv p s) (at_ : s.corridas[i]? = some c) (waits : c.fase = .esperaLock)
    (free : s.lock = false) (clean : s.quarantine = none) :
    Inv p { s.cambia i fun c => { c with fase := .prepara } with lock := true } := by
  have empty : ∀ (j : Nat) (d : Corrida), s.corridas[j]? = some d → d.dentro = false := by
    intro j d old
    rw [← Bool.not_eq_true]
    intro inside
    have held := (inv.sana j d old).lock inside
    rw [free] at held
    cases held
  have good : ∀ (j : Nat) (d : Corrida), s.corridas[j]? = some d → ¬ d.mala := by
    intro j d old bad
    have mark := (inv.sana j d old).aislada bad
    rw [clean] at mark
    cases mark
  have sana := inv.sana i c at_
  have fresh := sana.sinLanzar (.inl waits)
  constructor
  · intro j d new
    rcases getElem?_modify_cases new with ⟨_, old⟩ | ⟨rfl, y, old, rfl⟩
    · exact { inv.sana j d old with lock := fun _ => rfl }
    · cases old.symm.trans at_
      exact
        { lock := fun _ => rfl
          temprana := fun _ => sana.temprana (.inl waits)
          porLanzar := fun _ => ⟨clean, (sana.temprana (.inl waits)).1⟩
          sinLanzar := fun _ => fresh
          resuelta := sana.resuelta
          aislada := sana.aislada
          suelta := by simp
          caido := sana.caido }
  · intro j k d x new_d new_x inside_d inside_x
    rcases getElem?_modify_cases new_d with ⟨_, old⟩ | ⟨rfl, _⟩
    · rw [empty j d old] at inside_d
      cases inside_d
    · rcases getElem?_modify_cases new_x with ⟨_, old⟩ | ⟨rfl, _⟩
      · rw [empty k x old] at inside_x
        cases inside_x
      · rfl
  · intro j k d x new_d _ bad _
    rcases getElem?_modify_cases new_d with ⟨_, old⟩ | ⟨rfl, y, old, rfl⟩
    · exact absurd bad (good j d old)
    · exact absurd (show y.mala from bad) (good _ y old)
  · exact inv.perdido
  · exact inv.conexion

/-- The launch frame is written. -/
theorem Inv.lanza {n : Nat} (inv : Inv p s) (at_ : s.corridas[i]? = some c) (sends : c.fase = .envia n) :
    Inv p (s.cambia i fun c => { c with fase := .drena, lanzada := true }) := by
  have sana := inv.sana i c at_
  have pending := (sana.porLanzar (by rw [Corrida.porLanzar, sends])).2
  refine inv.cambia at_ ?_ (fun _ => by rw [Corrida.dentro, sends]) fun bad => ?_
  · constructor
    · exact fun _ => sana.lock (by rw [Corrida.dentro, sends])
    · simp
    · exact fun soon => by cases soon
    · simp [Corrida.porLanzar]
    · simp [pending]
    · simp [Corrida.mala, pending]
    · simp
    · exact sana.caido
  · simp [Corrida.mala, pending] at bad

end BrokerFence
