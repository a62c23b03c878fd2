import SkyClaw.TaskTables
import SkyClaw.VfsSessionVetoes

set_option linter.all false

/-!
What a session says about its process. A confirmation is true as long as no
cancellation ends as confirmed when the driver has in hand a failure that
forbids rollback.
-/
namespace VfsSession
open ExceptionChains TaskTables TransitionRuns

variable {h k : Heap Datos} {i j : Nat} {s t : Estado}

/-! The end of a call of `result` or `wait` -/

structure Flujo (s : Estado) : Prop where
  leidos : s.protocolError = none → ∃ leidos, s.recibidos = leidos ++ s.eventos ∧ Leido s.pid s.exitCode leidos
  parado : ∀ d, s.driver.decidido = some d → s.colector = false
  cerrado : ∀ d, s.driver = .borra d ∨ s.driver = .hecho d → s.suscrito = false ∧ s.resultado ≠ .pendiente
  protocolo : ∀ p, s.protocolError = some p → ∃ x, s.heap[p]? = some x

theorem Flujo.abierta : Flujo Estado.abierta where
  leidos _ := ⟨[], rfl, .nada⟩
  parado := nofun
  cerrado d at_ := by cases at_ <;> contradiction
  protocolo := nofun

theorem Flujo.drenar (f : Flujo s) {handled : Option Nat} (calm : handled = none ∨ s.resultado ≠ .pendiente) :
    Flujo (drenarEventosPendientes handled s) ∧
      ((drenarEventosPendientes handled s).protocolError = none →
        (drenarEventosPendientes handled s).eventos = []) := by
  have c : Calmo s (drenarEventosPendientes handled s) := .drenar _ calm
  have read : (drenarEventosPendientes handled s).protocolError = none →
      (drenarEventosPendientes handled s).eventos = [] ∧
        Leido (drenarEventosPendientes handled s).pid (drenarEventosPendientes handled s).exitCode s.recibidos := by
    intro right
    have before : s.protocolError = none := by
      cases had : s.protocolError with
      | none => rfl
      | some p => exact absurd (c.protocolo p had) (by rw [right]; nofun)
    obtain ⟨leidos, all, leido⟩ := f.leidos before
    rcases drenar_leidos handled s.eventos before leido with ⟨p, wrong⟩ | ⟨_, empty, leido⟩
    · change (drenarEventosPendientes handled s).protocolError = some p at wrong
      rw [right] at wrong
      cases wrong
    · exact ⟨empty, all ▸ leido⟩
  refine ⟨⟨?_, ?_, ?_, c.existe f.protocolo⟩, fun right => (read right).1⟩
  · intro right
    obtain ⟨empty, leido⟩ := read right
    exact ⟨s.recibidos, by rw [c.recibidos, empty, List.append_nil], leido⟩
  · rw [c.driver, c.colector]
    exact f.parado
  · rw [c.driver, c.suscrito]
    intro d at_
    refine ⟨(f.cerrado d at_).1, ?_⟩
    rcases c.resultado with same | ⟨e, failed, _⟩
    · rw [same]
      exact (f.cerrado d at_).2
    · rw [failed]
      nofun

theorem Flujo.of_eq (f : Flujo s) (pid : t.pid = s.pid) (protocolo : t.protocolError = s.protocolError)
    (exit : t.exitCode = s.exitCode) (eventos : t.eventos = s.eventos) (recibidos : t.recibidos = s.recibidos)
    (heap : ∃ toca, Fuera toca s.heap t.heap) (parado : ∀ d, t.driver.decidido = some d → t.colector = false)
    (cerrado : ∀ d, t.driver = .borra d ∨ t.driver = .hecho d → t.suscrito = false ∧ t.resultado ≠ .pendiente) :
    Flujo t := by
  refine ⟨?_, parado, cerrado, ?_⟩
  · rw [pid, protocolo, exit, eventos, recibidos]
    exact f.leidos
  · rw [protocolo]
    intro p wrong
    obtain ⟨x, at_⟩ := f.protocolo p wrong
    obtain ⟨_, fuera⟩ := heap
    obtain ⟨y, at_y, _⟩ := fuera p x at_
    exact ⟨y, at_y⟩

theorem Flujo.conHeap {toca : Nat → Prop} (f : Flujo s) (heap : Fuera toca s.heap k) : Flujo { s with heap := k } :=
  f.of_eq rfl rfl rfl rfl rfl ⟨_, heap⟩ f.parado f.cerrado

/-- What the end of a call leaves in `t`, with its response. -/
structure Responde (s t : Estado) (r : Respuesta) : Prop where
  firme : Firme t
  flujo : Flujo t
  persiste : Persiste s t
  llamadas : t.llamadas = s.llamadas
  veta : s.desconocida = true → ∀ x, r = .lanza x ∨ r = .cancelada x → exceptionForbidsRollback t.heap x = true

theorem Responde.resultar {d : Desenlace} (f : Firme s) (g : Flujo s) (at_ : s.driver = .hecho d) :
    Responde s (resultar d s).1 (resultar d s).2 ∧ Acorde (resultar d s).1 (resultar d s).2 := by
  have done : s.resultado ≠ .pendiente := (g.cerrado d (.inr at_)).2
  cases d with
  | error e =>
    have calm : some e = none ∨ s.resultado ≠ .pendiente := .inr done
    have c : Calmo s (drenarEventosPendientes (some e) s) := .drenar _ calm
    have fu := f.calmo c
    obtain ⟨gu, empty⟩ := g.drenar calm
    have pu : Persiste s (drenarEventosPendientes (some e) s) := .drenar calm
    have at_u := pu.hecho _ at_
    have veta : s.desconocida = true → Vetada (drenarEventosPendientes (some e) s).heap e := by
      intro unknown
      obtain ⟨x, is, v⟩ := f.vetada_of_desconocida at_ unknown
      cases is
      exact v.mono c.heap
    rw [VfsSession.resultar]
    generalize drenarEventosPendientes (some e) s = u at *
    split
    · rename_i p wrong
      have heap := Fuera.relanza p e u.heap
      refine ⟨⟨fu.conHeap heap ?_, gu.conHeap heap, pu.trans (.conHeap heap), c.llamadas,
        fun unknown x raised => ?_⟩, ⟨_, at_u⟩, .inl wrong⟩
      · rintro q mem ⟨rfl, other⟩
        rcases mem with ⟨h, _⟩ | h | h
        · rw [at_u] at h
          cases h
        · rw [at_u] at h
          cases h
        · rw [at_u, Driver.decidido, Option.some.injEq, Desenlace.error.injEq] at h
          exact absurd h.symm other
      · have : p = x := by simpa using raised
        obtain ⟨y, at_y⟩ := gu.protocolo p wrong
        exact this ▸ forbids_of_relanza at_y (veta unknown)
    · rename_i wrong
      refine ⟨⟨fu, gu, pu, c.llamadas, fun unknown x raised => ?_⟩, ⟨_, at_u⟩, .inr ⟨wrong, empty wrong, .inl at_u⟩⟩
      have : e = x := by simpa using raised
      exact this ▸ forbids_of_vetada (veta unknown)
  | valor r =>
    have calm : (none : Option Nat) = none ∨ s.resultado ≠ .pendiente := .inl rfl
    have c : Calmo s (drenarEventosPendientes none s) := .drenar _ calm
    have fu := f.calmo c
    obtain ⟨gu, empty⟩ := g.drenar calm
    have pu : Persiste s (drenarEventosPendientes none s) := .drenar calm
    have at_u := pu.hecho _ at_
    have known : ¬ s.desconocida = true := by
      intro unknown
      obtain ⟨x, is, v⟩ := f.vetada_of_desconocida at_ unknown
      cases is
    rw [VfsSession.resultar]
    generalize drenarEventosPendientes none s = u at *
    have confirma : Responde s { u with confirmedTerminal := true } (.resultado r) := by
      refine ⟨?_, gu.of_eq rfl rfl rfl rfl rfl ⟨_, .refl (fun _ => False) _⟩ gu.parado gu.cerrado,
        pu.trans (.of_eq (.refl (fun _ => False) _) rfl rfl rfl rfl fun _ a => a), c.llamadas, fun un => absurd un known⟩
      exact fu.quieta (.refl (fun _ => False) _) (fun _ _ tocada => tocada.elim) rfl rfl rfl rfl (.inl rfl) (.inl rfl)
        (.inl ⟨rfl, rfl⟩) (fun _ => .inr ⟨r, at_u⟩) fu.llamadas
    split
    · rename_i p wrong
      exact ⟨⟨fu, gu, pu, c.llamadas, fun un => absurd un known⟩, ⟨_, at_u⟩, .inl wrong⟩
    · rename_i wrong
      split
      · rename_i a b exit code
        split
        · rename_i differ
          exact ⟨⟨fu.nace _ _, gu.conHeap (.append _ _), pu.trans (.nace _ _), c.llamadas,
            fun un => absurd un known⟩, ⟨_, at_u⟩, .inr ⟨wrong, empty wrong, .inr ⟨r, a, b, at_u, exit, code, differ,
              _, getElem?_nace _ _, rfl, rfl⟩⟩⟩
        · rename_i same
          refine ⟨confirma, wrong, empty wrong, at_u, fun x y hx hy => ?_⟩
          rw [Option.some.inj (hx.symm.trans exit), Option.some.inj (hy.symm.trans code)]
          exact Classical.not_not.mp same
      · rename_i absent
        exact ⟨confirma, wrong, empty wrong, at_u, fun a b hx hy => absurd hy (absent a b hx)⟩

theorem Responde.esperar {p : Estado × Respuesta} (r : Responde s p.1 p.2)
    (known : ∀ x, p.2 = .resultado x → ¬ s.desconocida = true) : Responde s (esperar p).1 (esperar p).2 := by
  obtain ⟨u, resp⟩ := p
  cases resp with
  | resultado x =>
    have no_veto := known x rfl
    rw [VfsSession.esperar]
    split
    · exact ⟨r.firme, r.flujo, r.persiste, r.llamadas, fun un => absurd un no_veto⟩
    · exact ⟨r.firme.nace _ _, r.flujo.conHeap (.append _ _), r.persiste.trans (.nace _ _), r.llamadas,
        fun un => absurd un no_veto⟩
  | _ => exact r

theorem Responde.entregar {m : Metodo} {d : Desenlace} (f : Firme s) (g : Flujo s) (at_ : s.driver = .hecho d) :
    Responde s (entregar m d s).1 (entregar m d s).2 ∧
      (m = .result → Acorde (entregar m d s).1 (entregar m d s).2) := by
  obtain ⟨r, a⟩ := Responde.resultar f g at_
  cases m with
  | result => exact ⟨r, fun _ => a⟩
  | cancel => exact ⟨r, nofun⟩
  | wait =>
    refine ⟨r.esperar fun x is unknown => ?_, nofun⟩
    obtain ⟨e, rfl, _⟩ := f.vetada_of_desconocida at_ unknown
    rw [is] at a
    have := r.persiste.hecho _ at_
    rw [a.2.2.1] at this
    cases this

/-! The fence -/

theorem veta_encadenada {e : Option Nat} {unknown : Bool} {x : Excepcion Datos} (at_ : h[i]? = some x)
    (flag : unknown = true ∨ e.isSome = true) : Vetada (marcarYEncadenar i unknown e h) i := by
  have marked : Vetada (marca (markUnknownTerminality e) i h) i :=
    ⟨{ x with carga := markUnknownTerminality e x.carga }, by simp [marca, at_], veta_mark e x.carga⟩
  have cond : (unknown || e.isSome) = true := by
    rw [Bool.or_eq_true]
    exact flag
  simp only [marcarYEncadenar, cond, if_true]
  split
  · exact marked.mono (.conCausa e i _)
  · exact marked

/-- Only a cancellation is marked by the calls. -/
theorem Firme.marcada {e : Option Nat} {unknown : Bool} (f : Firme s) (c : EsCancelacion s.heap i) :
    Firme { s with heap := marcarYEncadenar i unknown e s.heap } := by
  refine f.conHeap (.marcarYEncadenar i unknown e s.heap) ?_
  rintro q mem rfl
  exact absurd c (f.enMano q mem).not_cancelacion

theorem Firme.cerrar (f : Firme s) : Firme (cerrarFence s) := by
  have calm : Firme { s with teardownCompleto := true } :=
    f.quieta (.refl (fun _ => False) _) (fun _ _ tocada => tocada.elim) rfl rfl rfl rfl (.inl rfl) (.inl rfl)
      (.inl ⟨rfl, rfl⟩) .inl f.llamadas
  rw [VfsSession.cerrarFence]
  split
  · rename_i e failed
    split
    · rename_i forbids
      rw [Bool.and_eq_true] at forbids
      have limpia := f.enMano e (.inr (.inr (by rw [failed]; rfl)))
      exact f.quieta (.refl (fun _ => False) _) (fun _ _ tocada => tocada.elim) rfl rfl rfl rfl (.inl rfl) (.inl rfl)
        (.inr ⟨e, rfl, rfl, failed, (forbids_iff_vetada limpia).mp forbids.1⟩) nofun f.llamadas
    · exact calm
  · exact calm

/-- The fields of `cerrarFence s` that later steps read. -/
theorem cerrarFence_shape (s : Estado) : ∃ flags : Bool × Bool × Option Nat, cerrarFence s = { s with
    teardownCompleto := true, terminalityUnknown := flags.1, confirmedTerminal := flags.2.1,
    teardownError := flags.2.2 } := by
  rw [cerrarFence]
  split
  · split
    · exact ⟨(true, false, some _), rfl⟩
    · exact ⟨(s.terminalityUnknown, s.confirmedTerminal, s.teardownError), rfl⟩
  · exact ⟨(s.terminalityUnknown, s.confirmedTerminal, s.teardownError), rfl⟩

theorem Firme.teardown_of_desconocida {d : Desenlace} (f : Firme s) (at_ : s.driver = .hecho d)
    (unknown : s.desconocida = true) : (cerrarFence s).teardownError.isSome = true := by
  obtain ⟨e, rfl, veta⟩ := f.vetada_of_desconocida at_ unknown
  simp only [VfsSession.cerrarFence, at_, forbids_of_vetada veta, Bool.true_and]
  split
  · rfl
  · rename_i has
    cases had : s.teardownError with
    | none => simp [had] at has
    | some x => simp

theorem Persiste.cerrar : Persiste s (cerrarFence s) := by
  obtain ⟨flags, shape⟩ := cerrarFence_shape s
  rw [shape]
  exact .of_eq (.refl (fun _ => False) _) rfl rfl rfl rfl fun _ a => a

theorem Flujo.cerrar (g : Flujo s) : Flujo (cerrarFence s) := by
  obtain ⟨flags, shape⟩ := cerrarFence_shape s
  rw [shape]
  exact g.of_eq rfl rfl rfl rfl rfl ⟨_, .refl (fun _ => False) _⟩ g.parado g.cerrado

/-- The fence touches the heap alone, and what it raises forbids rollback after a teardown error. -/
structure Lanza (s t : Estado) (exc : Option Nat) : Prop where
  firme : Firme t
  flujo : Flujo t
  persiste : Persiste s t
  llamadas : t.llamadas = s.llamadas
  driver : t.driver = s.driver
  teardownError : t.teardownError = s.teardownError
  veta : s.teardownError.isSome = true → ∃ x, exc = some x ∧ Vetada t.heap x

theorem Lanza.fence (f : Firme s) (g : Flujo s) (handled : Option Nat) (cancelada : Bool) :
    Lanza s (lanzarDeFence handled cancelada s).1 (lanzarDeFence handled cancelada s).2 := by
  rw [lanzarDeFence]
  split
  · have born : EsCancelacion (s.nace (.de .cancelledError .vacio) handled).heap s.heap.length :=
      ⟨_, getElem?_nace _ _, rfl⟩
    have heap := Fuera.marcarYEncadenar s.heap.length s.terminalityUnknown s.teardownError
      (s.nace (.de .cancelledError .vacio) handled).heap
    refine ⟨(f.nace _ _).marcada born, (g.conHeap (.append _ _)).conHeap heap,
      (Persiste.nace _ _).trans (.conHeap heap), rfl, rfl, rfl, fun has => ⟨_, rfl, ?_⟩⟩
    obtain ⟨x, at_, _⟩ := born
    exact veta_encadenada at_ (.inr has)
  · split
    · rename_i e is
      have veta := (f.teardown e is).1
      have heap := Fuera.lanza e handled s.heap
      refine ⟨f.conHeap heap (by rintro q _ rfl; exact veta), g.conHeap heap, .conHeap heap, rfl, rfl, rfl,
        fun _ => ⟨e, rfl, veta.mono heap⟩⟩
    · rename_i absent
      refine ⟨f, g, .conHeap (.refl (fun _ => False) _), rfl, rfl, rfl, fun has => ?_⟩
      rw [absent] at has
      cases has

theorem propagarCancelacion_shape (c : Nat) (exc : Option Nat) (t : Estado) : ∃ unknown teardownError,
    propagarCancelacion c exc t = { t with heap := marcarYEncadenar c unknown teardownError t.heap } ∧
      (t.teardownError.isSome = true → teardownError.isSome = true) := by
  refine ⟨_, _, rfl, fun has => ?_⟩
  cases (exc.bind fun x => t.heap[x]?.map (·.carga)).bind (·.teardownError) with
  | some e => rfl
  | none =>
    cases had : t.teardownError with
    | some e => rfl
    | none => rw [had] at has; cases has

theorem Responde.fence {m : Metodo} {d : Desenlace} {callerCanc : Option Nat} {cancelada : Bool} (f : Firme s)
    (g : Flujo s) (at_ : s.driver = .hecho d) (mem : ⟨m, .fence callerCanc cancelada⟩ ∈ s.llamadas) :
    Responde s (acabarFence callerCanc cancelada s).1 (acabarFence callerCanc cancelada s).2 := by
  obtain ⟨flags, shape⟩ := cerrarFence_shape s
  have same : (cerrarFence s).llamadas = s.llamadas := by rw [shape]
  have l := Lanza.fence (f.cerrar) g.cerrar callerCanc cancelada
  have p : Persiste s (lanzarDeFence callerCanc cancelada (cerrarFence s)).1 := .trans .cerrar l.persiste
  have kept := l.llamadas.trans same
  have marked := fun unknown => l.veta (f.teardown_of_desconocida at_ unknown)
  have has := fun unknown => l.teardownError ▸ f.teardown_of_desconocida at_ unknown
  rw [acabarFence]
  generalize lanzarDeFence callerCanc cancelada (cerrarFence s) = result at *
  obtain ⟨t, exc⟩ := result
  simp only at *
  cases callerCanc with
  | some c =>
    have canc : EsCancelacion t.heap c := l.firme.llamadas m c cancelada (kept ▸ mem)
    obtain ⟨unknown, teardownError, propagated, some_of⟩ := propagarCancelacion_shape c exc t
    have heap := Fuera.marcarYEncadenar c unknown teardownError t.heap
    change Responde s (propagarCancelacion c exc t) (.cancelada c)
    rw [propagated]
    refine ⟨l.firme.marcada canc, l.flujo.conHeap heap, p.trans (.conHeap heap), kept, fun un x raised => ?_⟩
    have : c = x := by simpa using raised
    obtain ⟨y, at_y, _⟩ := canc
    exact this ▸ forbids_of_vetada (veta_encadenada at_y (.inr (some_of (has un))))
  | none =>
    cases exc with
    | none =>
      refine ⟨l.firme, l.flujo, p, kept, fun unknown => ?_⟩
      obtain ⟨x, none_of, _⟩ := marked unknown
      cases none_of
    | some e =>
      refine ⟨l.firme, l.flujo, p, kept, fun unknown x raised => ?_⟩
      obtain ⟨y, is, veta⟩ := marked unknown
      cases is
      have : e = x := by
        cases cancelada <;> simpa using raised
      exact this ▸ forbids_of_vetada veta

/-! Steps of the worker, the bridge and the clock -/

/-- A step that answers no call. -/
structure Tranquila (s t : Estado) : Prop where
  firme : Firme t
  flujo : Flujo t
  persiste : Persiste s t
  llamadas : t.llamadas = s.llamadas

theorem Futuro.resuelve_of_done {α : Type} {f : Futuro α} (a : α) (done : f ≠ .pendiente) : f.resuelve a = f := by
  cases f with
  | pendiente => exact absurd rfl done
  | _ => rfl

theorem Futuro.resuelve_error {α : Type} {f : Futuro α} {a : α} {e : Nat} (is : f.resuelve a = .error e) :
    f = .error e := by
  cases f with
  | pendiente => cases is
  | _ => exact is

theorem Futuro.falla_error {α : Type} {f : Futuro α} {e x : Nat} (is : f.falla e = .error x) :
    f = .error x ∨ x = e := by
  cases f with
  | pendiente => exact .inr (by simpa [Futuro.falla] using is.symm)
  | _ => exact .inl is

theorem vetada_nace {d : Datos} (h : Heap Datos) (veta : d.veta = true) :
    Vetada (h ++ [⟨d, none, none⟩]) h.length :=
  ⟨_, getElem?_nace h _, veta⟩

/-- A step on the two futures alone, with a new exception or none. -/
theorem Tranquila.of_futuros (f : Firme s) (g : Flujo s) {new : Heap Datos} {salida : Futuro (Option Int)}
    {resultado : Futuro VfsJobResult} (kept : s.salida ≠ .pendiente → salida = s.salida)
    (failed : ∀ e, salida = .error e →
      s.salida = .error e ∨ Vetada (s.heap ++ new) e ∧ Limpia (s.heap ++ new) e)
    (answer : resultado = s.resultado ∨
      resultado ≠ .pendiente ∧ ∀ e, resultado = .error e → Limpia (s.heap ++ new) e) :
    Tranquila s { s with heap := s.heap ++ new, salida := salida, resultado := resultado } where
  firme := f.futuros (.append _ _) (fun _ _ tocada => tocada.elim) kept failed rfl rfl rfl
    (answer.imp_right And.right) (.inl rfl) (.inl ⟨rfl, rfl⟩) .inl
    fun m c b mem => (f.llamadas m c b mem).mono (.append _ _)
  flujo := by
    refine g.of_eq rfl rfl rfl rfl rfl ⟨_, .append _ _⟩ g.parado fun d at_ => ⟨(g.cerrado d at_).1, ?_⟩
    rcases answer with same | ⟨done, _⟩
    · rw [same]
      exact (g.cerrado d at_).2
    · exact done
  persiste := .of_eq (.append _ _) rfl rfl rfl rfl fun _ a => a
  llamadas := rfl

theorem Tranquila.of_resultado (f : Firme s) (g : Flujo s) {resultado : Futuro VfsJobResult}
    (answer : resultado ≠ .pendiente ∧ ∀ e, resultado ≠ .error e) : Tranquila s { s with resultado := resultado } := by
  have step : Tranquila s { s with heap := s.heap ++ [], salida := s.salida, resultado := resultado } :=
    .of_futuros f g (fun _ => rfl) (fun _ bad => .inl bad) (.inr ⟨answer.1, fun e is => absurd is (answer.2 e)⟩)
  rwa [List.append_nil] at step

theorem Tranquila.of_salida (f : Firme s) (g : Flujo s) {salida : Futuro (Option Int)}
    (kept : s.salida ≠ .pendiente → salida = s.salida) (failed : ∀ e, salida = .error e → s.salida = .error e) :
    Tranquila s { s with salida := salida } := by
  have step : Tranquila s { s with heap := s.heap ++ [], salida := salida, resultado := s.resultado } :=
    .of_futuros f g kept (fun e bad => .inl (failed e bad)) (.inl rfl)
  rwa [List.append_nil] at step

theorem Tranquila.evento {e : VfsSessionEvent} (f : Firme s) (g : Flujo s) (open_ : s.suscrito = true) :
    Tranquila s { s with eventos := s.eventos ++ [e], recibidos := s.recibidos ++ [e] } where
  firme := f.quieta (.refl (fun _ => False) _) (fun _ _ tocada => tocada.elim) rfl rfl rfl rfl (.inl rfl) (.inl rfl)
    (.inl ⟨rfl, rfl⟩) .inl f.llamadas
  flujo := by
    refine ⟨fun right => ?_, g.parado, g.cerrado, g.protocolo⟩
    obtain ⟨leidos, all, read⟩ := g.leidos right
    exact ⟨leidos, by rw [all, List.append_assoc], read⟩
  persiste := by
    refine ⟨⟨_, .refl (fun _ => False) _⟩, fun _ p => p, fun _ p => p, fun _ a => a, fun d at_ => ?_⟩
    rw [(g.cerrado d (.inr at_)).1] at open_
    cases open_
  llamadas := rfl

theorem Tranquila.colector {e : VfsSessionEvent} {rest : List VfsSessionEvent} (f : Firme s) (g : Flujo s)
    (on : s.colector = true) (queue : s.eventos = e :: rest) :
    Tranquila s (recolectar e { s with eventos := rest }) := by
  have running : ∀ d, s.driver.decidido ≠ some d := by
    intro d decided
    rw [g.parado d decided] at on
    cases on
  have c₀ : Calmo s { s with eventos := rest } := .of_eventos
  have cerrado : ∀ {u : Estado}, Calmo s u → ∀ d, u.driver = .borra d ∨ u.driver = .hecho d →
      u.suscrito = false ∧ u.resultado ≠ .pendiente := by
    intro u c d at_
    rw [c.driver] at at_
    rcases at_ with h | h <;> exact absurd (by rw [h]; rfl) (running d)
  have persiste : ∀ {u : Estado}, Calmo s u → Persiste s u := by
    intro u c
    refine ⟨⟨_, c.heap⟩, c.pid, c.protocolo, fun d at_ => ?_, fun d at_ => ?_⟩ <;>
      exact absurd (by rw [at_]; rfl) (running d)
  rw [recolectar]
  cases applied : aplicarEvento e { s with eventos := rest } with
  | ok t =>
    have c := c₀.trans (.aplicar applied)
    refine ⟨f.calmo c, ⟨fun right => ?_, fun d decided => ?_, cerrado c, c.existe g.protocolo⟩, persiste c, c.llamadas⟩
    · have before : s.protocolError = none := by
        cases had : s.protocolError with
        | none => rfl
        | some p =>
          have := (c.protocolo p had).symm.trans right
          cases this
      obtain ⟨leidos, all, read⟩ := g.leidos before
      have empty : t.eventos = rest := by
        rcases aplicar_ok applied with ⟨_, _, _, rfl⟩ | ⟨_, _, _, _, rfl⟩ <;> rfl
      refine ⟨leidos ++ [e], ?_, Leido.aplicar applied read⟩
      rw [c.recibidos, all, queue, empty, List.append_assoc]
      rfl
    · rw [c.driver] at decided
      exact absurd decided (running d)
  | error m =>
    have c := c₀.trans (Calmo.registrar m (.inl rfl))
    have wrong := registrar_protocolo m none { s with eventos := rest }
    have fu := f.calmo c
    have pu := persiste c
    simp only
    generalize registrarErrorDeProtocolo m none { s with eventos := rest } = u at *
    obtain ⟨p, wrong⟩ := wrong
    refine ⟨fu.quieta (.refl (fun _ => False) _) (fun _ _ tocada => tocada.elim) rfl rfl rfl rfl (.inl rfl) (.inl rfl)
      (.inl ⟨rfl, rfl⟩) .inl fu.llamadas, ⟨fun right => ?_, fun _ _ => rfl, fun d at_ => cerrado (u := u) c d at_, c.existe g.protocolo⟩,
      pu.trans (.of_eq (.refl (fun _ => False) _) rfl rfl rfl rfl fun _ a => a), c.llamadas⟩
    have := wrong.symm.trans right
    cases this

/-! Steps of the tasks -/

/-- The end of the driver's coroutine with a failure in hand: it may be marked on the way. -/
theorem Tranquila.decidir {toca : Nat → Prop} {d : Desenlace} (f : Firme s) (g : Flujo s)
    (heap : Fuera toca s.heap k) (undecided : s.driver.decidido = none)
    (ended : (∃ c, s.salida = .valor c) ∨ ∃ t e, s.salida = .error t ∧ d = .error e ∧ Vetada k e)
    (limpia : ∀ e, d = .error e → Limpia k e)
    (honest : s.confirmedTerminal = true → ∀ e, d = .error e → ¬ Vetada k e) :
    Tranquila s (decidir d { s with heap := k }) where
  firme := by
    constructor
    · intro e bad
      obtain ⟨veta, limpia⟩ := f.salida e bad
      exact ⟨veta.mono heap, limpia.mono heap fun _ => veta.mono heap⟩
    · exact f.terminada
    · exact f.fallida
    · exact fun _ _ => rfl
    · exact fun _ => ⟨d, rfl⟩
    · intro x decided
      have same : d = x := by simpa [VfsSession.decidir, Driver.decidido] using decided
      exact same ▸ ended
    · rintro e (⟨h, _⟩ | h | h)
      · cases h
      · cases h
      · exact limpia e (by simpa [VfsSession.decidir, Driver.decidido] using h)
    · exact f.cancelada
    · exact fun e is => ⟨(f.teardown e is).1.mono heap, (f.teardown e is).2⟩
    · intro flag
      rcases f.unknown flag with bad | ⟨e, at_, _⟩
      · exact .inl bad
      · rw [at_] at undecided
        cases undecided
    · intro flag
      refine ⟨(f.confirmada flag).1, ?_⟩
      rintro e (h | h)
      · cases h
      · exact honest flag e (by simpa [VfsSession.decidir, Driver.decidido] using h)
    · exact fun m c b mem => (f.llamadas m c b mem).mono heap
  flujo := by
    refine g.of_eq rfl rfl rfl rfl rfl ⟨_, heap⟩ (fun _ _ => rfl) ?_
    rintro x (h | h) <;> cases h
  persiste := .of_eq heap rfl rfl rfl rfl fun x at_ => by rw [at_] at undecided; cases undecided
  llamadas := rfl

/-- A step of the driver that waits for something else. -/
theorem Tranquila.pasa {d : Driver} (f : Firme s) (g : Flujo s) (undecided : s.driver.decidido = none)
    (still : d.decidido = none) (limpia : ∀ e, d = .falla e → Limpia s.heap e)
    (registrado : s.registrado = true) (notYet : d ≠ .espera)
    (honest : s.confirmedTerminal = true → ∀ e, d = .falla e → ¬ Vetada s.heap e) :
    Tranquila s { s with driver := d } where
  firme := by
    constructor
    · exact f.salida
    · exact f.terminada
    · exact f.fallida
    · exact f.sinTracking
    · exact fun no => absurd (registrado.symm.trans no) nofun
    · exact fun x decided => absurd (still.symm.trans decided) nofun
    · rintro e (⟨h, _⟩ | h | h)
      · exact absurd h notYet
      · exact limpia e h
      · exact absurd (still.symm.trans h) nofun
    · exact f.cancelada
    · exact f.teardown
    · intro flag
      rcases f.unknown flag with bad | ⟨e, at_, _⟩
      · exact .inl bad
      · rw [at_] at undecided
        cases undecided
    · intro flag
      refine ⟨(f.confirmada flag).1, ?_⟩
      rintro e (h | h)
      · exact honest flag e h
      · exact absurd (still.symm.trans h) nofun
    · exact f.llamadas
  flujo := by
    refine g.of_eq rfl rfl rfl rfl rfl ⟨_, .refl (fun _ => False) _⟩ (fun x decided => ?_) fun x at_ => ?_
    · exact absurd (still.symm.trans decided) nofun
    · rcases at_ with h | h
      · exact absurd (still.symm.trans (congrArg Driver.decidido h)) nofun
      · exact absurd (still.symm.trans (congrArg Driver.decidido h)) nofun
  persiste := .of_eq (.refl (fun _ => False) _) rfl rfl rfl rfl fun x at_ => by rw [at_] at undecided; cases undecided
  llamadas := rfl

/-- A step of the clean-up. -/
theorem Tranquila.limpia {d : Desenlace} {driver : Driver} {suscrito : Bool} {resultado : Futuro VfsJobResult}
    (f : Firme s) (g : Flujo s) (before : s.driver.decidido = some d) (after : driver.decidido = some d)
    (notYet : ∀ x, s.driver ≠ .hecho x) (closed : suscrito = false) (done : resultado ≠ .pendiente) :
    Tranquila s { s with driver := driver, suscrito := suscrito, resultado := resultado } where
  firme := by
    constructor
    · exact f.salida
    · exact f.terminada
    · exact f.fallida
    · exact f.sinTracking
    · exact fun _ => ⟨d, after⟩
    · exact fun x decided => f.asentado x (before.trans (after.symm.trans decided))
    · rintro e (⟨h, _⟩ | h | h)
      · subst h
        cases after
      · subst h
        cases after
      · exact f.enMano e (.inr (.inr (before.trans (after.symm.trans h))))
    · exact f.cancelada
    · exact f.teardown
    · intro flag
      rcases f.unknown flag with bad | ⟨e, at_, _⟩
      · exact .inl bad
      · exact absurd at_ (notYet _)
    · intro flag
      refine ⟨(f.confirmada flag).1, ?_⟩
      rintro e (h | h)
      · subst h
        cases after
      · exact (f.confirmada flag).2 e (.inr (before.trans (after.symm.trans h)))
    · exact f.llamadas
  flujo := g.of_eq rfl rfl rfl rfl rfl ⟨_, .refl (fun _ => False) _⟩ (fun _ _ => g.parado d before)
    fun _ _ => ⟨closed, done⟩
  persiste := .of_eq (.refl (fun _ => False) _) rfl rfl rfl rfl fun x at_ => absurd at_ (notYet x)
  llamadas := rfl

theorem Firme.registrado_of_undecided (f : Firme s) (undecided : s.driver.decidido = none) : s.registrado = true := by
  cases on : s.registrado with
  | true => rfl
  | false =>
    obtain ⟨d, decided⟩ := f.registrado on
    exact absurd (undecided.symm.trans decided) nofun

/-- The steps a run may take for the property to hold: no cancellation ends as confirmed when the
driver has in hand a failure that forbids rollback, nor does the driver take one up afterwards. -/
def permite (s : Estado) : Evento → Bool
  | .cancelacion => !(s.confirmara && s.driverVetado)
  | .driver =>
    match s.driver, s.resultado with
    | .espera, .error e => !(s.confirmedTerminal && exceptionForbidsRollback s.heap e)
    | _, _ => true
  | _ => true

theorem Tranquila.conducir (f : Firme s) (g : Flujo s) (ok : permite s .driver = true)
    (moved : conducir s = some t) : Tranquila s t := by
  rw [VfsSession.conducir] at moved
  split at moved
  · rename_i at_
    have undecided : s.driver.decidido = none := by rw [at_]; rfl
    have on := f.registrado_of_undecided undecided
    split at moved
    · rename_i r got
      rw [Option.some.injEq] at moved
      exact moved ▸ .pasa f g undecided rfl nofun on nofun nofun
    · rename_i e got
      rw [Option.some.injEq] at moved
      have limpia := f.enMano e (.inl ⟨at_, got⟩)
      refine moved ▸ .pasa f g undecided rfl ?_ on nofun ?_
      · rintro x ⟨⟩
        exact limpia
      · rintro flag x ⟨⟩ veta
        simp only [permite, at_, got, flag, forbids_of_vetada veta] at ok
        cases ok
    · cases moved
  · rename_i r at_
    have undecided : s.driver.decidido = none := by rw [at_]; rfl
    split at moved
    · rename_i c exit
      rw [Option.some.injEq] at moved
      exact moved ▸ .decidir f g (.refl (fun _ => False) _) undecided (.inl ⟨c, exit⟩) nofun nofun
    · rename_i e exit
      rw [Option.some.injEq] at moved
      refine moved ▸ .pasa f g undecided rfl ?_ (f.registrado_of_undecided undecided) nofun ?_
      · rintro x ⟨⟩
        exact (f.salida e exit).2
      · intro flag
        obtain ⟨c, ok⟩ := (f.confirmada flag).1
        exact absurd (exit.symm.trans ok) nofun
    · cases moved
  · rename_i e at_
    have undecided : s.driver.decidido = none := by rw [at_]; rfl
    have limpia := f.enMano e (.inr (.inl at_))
    split at moved
    · rename_i c exit
      rw [Option.some.injEq] at moved
      refine moved ▸ .decidir f g (.refl (fun _ => False) _) undecided (.inl ⟨c, exit⟩) ?_ ?_
      · rintro x ⟨⟩
        exact limpia
      · rintro flag x ⟨⟩
        exact (f.confirmada flag).2 e (.inl at_)
    · rename_i x exit
      rw [Option.some.injEq] at moved
      have heap : Fuera (fun i => i = x ∨ i = e) s.heap
          (marca (markUnknownTerminality (some x)) e (lanza x (some e) s.heap)) :=
        (Fuera.lanza x (some e) s.heap).trans (.marca (some x) e _)
      have veta : Vetada (marca (markUnknownTerminality (some x)) e (lanza x (some e) s.heap)) e := by
        obtain ⟨y, at_y, _⟩ := limpia
        obtain ⟨z, at_z, _⟩ := Fuera.lanza x (some e) s.heap e y at_y
        exact ⟨{ z with carga := markUnknownTerminality (some x) z.carga }, by simp [marca, at_z],
          veta_mark (some x) z.carga⟩
      refine moved ▸ .decidir f g heap undecided (.inr ⟨x, e, exit, rfl, veta⟩) ?_ ?_
      · rintro y ⟨⟩
        exact limpia.mono heap fun _ => veta
      · intro flag
        obtain ⟨c, ok⟩ := (f.confirmada flag).1
        exact absurd (exit.symm.trans ok) nofun
    · cases moved
  · rename_i at_
    have undecided : s.driver.decidido = none := by rw [at_]; rfl
    split at moved
    · rename_i done
      obtain ⟨c, exit⟩ := f.terminada done
      rw [Option.some.injEq] at moved
      refine moved ▸ .decidir f g (.append _ _) undecided (.inl ⟨c, exit⟩) ?_ ?_
      · rintro x ⟨⟩
        exact limpia_nace _ nofun
      · rintro _ x ⟨⟩ ⟨y, at_y, veta⟩
        rw [getElem?_nace, Option.some.injEq] at at_y
        subst at_y
        cases veta
    · rename_i x done
      have exit := f.fallida x done
      rw [Option.some.injEq] at moved
      refine moved ▸ .decidir f g (.append _ _) undecided
        (.inr ⟨x, _, exit, rfl, vetada_nace _ (veta_mark (some x) _)⟩) ?_ ?_
      · rintro y ⟨⟩
        exact limpia_nace _ nofun
      · intro flag
        obtain ⟨c, ok⟩ := (f.confirmada flag).1
        exact absurd (exit.symm.trans ok) nofun
    · rename_i x lost
      have off := f.sinTracking x lost
      rw [f.registrado_of_undecided undecided] at off
      cases off
    · cases moved
  · rename_i d at_
    rw [Option.some.injEq] at moved
    refine moved ▸ .limpia f g (by rw [at_]; rfl) rfl (by rw [at_]; nofun) rfl ?_
    cases s.resultado <;> nofun
  · rename_i d at_
    rw [Option.some.injEq] at moved
    have closed := g.cerrado d (.inl at_)
    subst moved
    exact .limpia f g (by rw [at_]; rfl) rfl (by rw [at_]; nofun) closed.1 closed.2
  · cases moved

/-- A step of the termination alone. -/
theorem Tranquila.de_terminacion {terminacion : Terminacion} (f : Firme s) (g : Flujo s)
    (heap : Fuera (fun _ => False) s.heap k) (terminada : terminacion = .hecha → ∃ c, s.salida = .valor c)
    (fallida : ∀ e, terminacion = .fallida e → s.salida = .error e)
    (sinTracking : ∀ e, terminacion = .sinTracking e → s.registrado = false) :
    Tranquila s { s with heap := k, terminacion := terminacion } where
  firme := by
    have fk := f.conHeap heap fun _ _ tocada => tocada.elim
    exact { fk with terminada := terminada, fallida := fallida, sinTracking := sinTracking }
  flujo := g.of_eq rfl rfl rfl rfl rfl ⟨_, heap⟩ g.parado g.cerrado
  persiste := .of_eq heap rfl rfl rfl rfl fun _ a => a
  llamadas := rfl

theorem Tranquila.terminar (f : Firme s) (g : Flujo s) (moved : terminar s = some t) : Tranquila s t := by
  rw [VfsSession.terminar] at moved
  split at moved
  · split at moved
    · rw [Option.some.injEq] at moved
      exact moved ▸ .de_terminacion f g (.refl _ _) nofun nofun nofun
    · rename_i off
      rw [Option.some.injEq] at moved
      exact moved ▸ .de_terminacion f g (.append _ _) nofun nofun fun _ _ => by simpa using off
  · split at moved
    · rename_i c exit
      rw [Option.some.injEq] at moved
      exact moved ▸ .de_terminacion f g (.refl _ _) (fun _ => ⟨c, exit⟩) nofun nofun
    · rename_i e exit
      rw [Option.some.injEq] at moved
      refine moved ▸ .de_terminacion f g (.refl _ _) nofun ?_ nofun
      rintro x ⟨⟩
      exact exit
    · cases moved
  · cases moved

theorem Tranquila.trans {u : Estado} (a : Tranquila s t) (b : Tranquila t u) : Tranquila s u :=
  ⟨b.firme, b.flujo, a.persiste.trans b.persiste, b.llamadas.trans a.llamadas⟩

theorem Tranquila.pedir (f : Firme s) (g : Flujo s) : Tranquila s (pedirTerminacion s) := by
  rw [pedirTerminacion]
  split
  · exact .de_terminacion f g (.refl _ _) nofun nofun nofun
  · exact ⟨f, g, .conHeap (.refl (fun _ => False) _), rfl⟩

theorem Tranquila.timeout (f : Firme s) (g : Flujo s) (at_ : s.driver = .espera) :
    Tranquila s (pedirTerminacion { s with driver := .cancela }) := by
  have undecided : s.driver.decidido = none := by rw [at_]; rfl
  have first : Tranquila s { s with driver := .cancela } :=
    .pasa f g undecided rfl nofun (f.registrado_of_undecided undecided) nofun nofun
  exact first.trans (.pedir first.firme first.flujo)

/-- A confirmation with no vetoed failure in the driver's hand. -/
theorem Firme.salida_of_confirmara (f : Firme s) (ends : s.confirmara = true) (calm : s.driverVetado = false) :
    (∃ c, s.salida = .valor c) ∧
      ∀ e, s.driver = .falla e ∨ s.driver.decidido = some (.error e) → ¬ Vetada s.heap e := by
  have honest : ∀ e, s.driver = .falla e ∨ s.driver.decidido = some (.error e) → ¬ Vetada s.heap e := by
    intro e mem veta
    have forbids := forbids_of_vetada veta
    rw [Estado.driverVetado] at calm
    rcases mem with h | h
    · rw [h] at calm
      exact absurd (forbids.symm.trans calm) nofun
    · revert calm h
      cases s.driver with
      | limpia d | borra d | hecho d =>
        intro calm h
        have : d = .error e := by simpa [Driver.decidido] using h
        subst this
        exact absurd (forbids.symm.trans calm) nofun
      | _ => intro _ h; cases h
  refine ⟨?_, honest⟩
  have off : s.registrado = false → ∃ c, s.salida = .valor c := by
    intro off
    obtain ⟨d, decided⟩ := f.registrado off
    rcases f.asentado d decided with ok | ⟨_, e, _, rfl, veta⟩
    · exact ok
    · exact absurd veta (honest e (.inr decided))
  rw [Estado.confirmara] at ends
  split at ends
  · exact off (by simpa using ends)
  · split at ends
    · rename_i done
      exact f.terminada done
    · exact off (by simpa using ends)
    · cases ends
  · cases ends

theorem Tranquila.confirmar (f : Firme s) (g : Flujo s) (ends : s.confirmara = true) (calm : s.driverVetado = false) :
    Tranquila s (confirmar s) := by
  obtain ⟨ok, honest⟩ := f.salida_of_confirmara ends calm
  have first : Tranquila s { s with confirmedTerminal := true, cancelacion := .hecha none } := by
    refine ⟨{ f with cancelada := nofun, confirmada := fun _ => ⟨ok, honest⟩ },
      g.of_eq rfl rfl rfl rfl rfl ⟨_, .refl (fun _ => False) _⟩ g.parado g.cerrado,
      .of_eq (.refl (fun _ => False) _) rfl rfl rfl rfl fun _ a => a, rfl⟩
  rw [VfsSession.confirmar]
  simp only
  split
  · exact first
  · refine first.trans (.of_futuros first.firme first.flujo ?_ ?_ (.inr ⟨?_, ?_⟩))
    · exact fun _ => rfl
    · exact fun _ bad => .inl bad
    · nofun
    · rintro e ⟨⟩
      exact limpia_nace _ nofun

theorem Tranquila.noConfirmar {e x : Nat} (f : Firme s) (g : Flujo s) (exit : s.salida = .error x)
    (which : s.terminacion = .fallida e) : Tranquila s (noConfirmar e s) := by
  have failed := f.fallida e which
  obtain ⟨veta, limpia⟩ := f.salida e failed
  have answer : s.resultado.falla e = s.resultado ∨
      s.resultado.falla e ≠ .pendiente ∧ ∀ y, s.resultado.falla e = .error y → Limpia s.heap y := by
    by_cases pending : s.resultado = .pendiente
    · rw [pending]
      refine .inr ⟨nofun, ?_⟩
      rintro y ⟨⟩
      exact limpia
    · exact .inl (Futuro.falla_of_done _ pending)
  have first : Tranquila s { s with heap := s.heap ++ [], salida := s.salida, resultado := s.resultado.falla e } :=
    .of_futuros f g (fun _ => rfl) (fun _ bad => .inl bad) (by rw [List.append_nil]; exact answer)
  rw [List.append_nil] at first
  refine ⟨{ first.firme with
      cancelada := fun _ _ => ⟨⟨x, exit⟩, rfl⟩
      teardown := ?_
      unknown := fun _ => .inl ⟨x, exit⟩ },
    first.flujo.of_eq rfl rfl rfl rfl rfl ⟨_, .refl (fun _ => False) _⟩ first.flujo.parado first.flujo.cerrado,
    .of_eq (.refl (fun _ => False) _) rfl rfl rfl rfl fun _ a => a, rfl⟩
  rintro y ⟨⟩
  exact ⟨veta, rfl⟩

theorem Tranquila.cancelacion (f : Firme s) (g : Flujo s) (ok : permite s .cancelacion = true)
    (moved : cancelarYConfirmar s = some t) : Tranquila s t := by
  rw [cancelarYConfirmar] at moved
  split at moved
  · rename_i ends
    rw [Option.some.injEq] at moved
    refine moved ▸ .confirmar f g ends ?_
    simpa [permite, ends] using ok
  · rename_i not_yet
    split at moved
    · rw [Option.some.injEq] at moved
      have first : Tranquila s { s with cancelacion := .espera } := by
        refine ⟨{ f with cancelada := by simp },
          g.of_eq rfl rfl rfl rfl rfl ⟨_, .refl (fun _ => False) _⟩ g.parado g.cerrado,
          .of_eq (.refl (fun _ => False) _) rfl rfl rfl rfl fun _ a => a, rfl⟩
      exact moved ▸ first.trans (.pedir first.firme first.flujo)
    · rename_i waits
      split at moved
      · rename_i e failed
        rw [Option.some.injEq] at moved
        exact moved ▸ .noConfirmar f g (f.fallida e failed) failed
      · rename_i e lost
        have off := f.sinTracking e lost
        simp [Estado.confirmara, waits, lost, off] at not_yet
      · cases moved
    · cases moved

/-! The beginning of a call -/

theorem Tranquila.iniciar (f : Firme s) (g : Flujo s) : Tranquila s (iniciarCancelacion s) := by
  rw [iniciarCancelacion]
  split
  · exact ⟨{ f with cancelada := by simp },
      g.of_eq rfl rfl rfl rfl rfl ⟨_, .refl (fun _ => False) _⟩ g.parado g.cerrado,
      .of_eq (.refl (fun _ => False) _) rfl rfl rfl rfl fun _ a => a, rfl⟩
  · exact ⟨f, g, .conHeap (.refl (fun _ => False) _), rfl⟩

theorem Firme.responde_teardown (f : Firme s) : ∃ r, (match s.teardownError with
    | some e => Fase.acabada (.lanza e)
    | none => Fase.acabada .nada) = .acabada r ∧ (s.desconocida = true →
      ∀ x, r = .lanza x ∨ r = .cancelada x → exceptionForbidsRollback s.heap x = true) := by
  cases is : s.teardownError with
  | none => exact ⟨_, rfl, fun _ x raised => by simp at raised⟩
  | some e =>
    refine ⟨_, rfl, fun _ x raised => ?_⟩
    have : e = x := by simpa using raised
    exact this ▸ forbids_of_vetada (f.teardown e is).1

/-- `cancel` answers at once, or goes into the fence with no cancellation of its own. -/
theorem Tranquila.cancel (f : Firme s) (g : Flujo s) : Tranquila s (cancel s).1 ∧
    ((cancel s).2 = .fence none false ∨ ∃ r, (cancel s).2 = .acabada r ∧ (s.desconocida = true →
      ∀ x, r = .lanza x ∨ r = .cancelada x → exceptionForbidsRollback (cancel s).1.heap x = true)) := by
  have still : Tranquila s s := ⟨f, g, .conHeap (.refl (fun _ => False) _), rfl⟩
  have answer := f.responde_teardown
  rw [VfsSession.cancel]
  simp only
  split
  · exact ⟨still, .inr answer⟩
  · split
    · rename_i e at_
      split
      · rename_i forbids
        have limpia := f.enMano e (.inr (.inr (by rw [at_]; rfl)))
        have veta := (forbids_iff_vetada limpia).mp forbids
        refine ⟨⟨?_, g.of_eq rfl rfl rfl rfl rfl ⟨_, .refl (fun _ => False) _⟩ g.parado g.cerrado,
          .of_eq (.refl (fun _ => False) _) rfl rfl rfl rfl fun _ a => a, rfl⟩, .inr ⟨_, rfl, fun _ x raised => ?_⟩⟩
        · exact f.quieta (.refl (fun _ => False) _) (fun _ _ tocada => tocada.elim) rfl rfl rfl rfl (.inl rfl)
            (.inl rfl) (.inr ⟨e, rfl, rfl, at_, veta⟩) (by simp) f.llamadas
        · have : e = x := by simpa using raised
          exact this ▸ forbids
      · split
        · exact ⟨still, .inr answer⟩
        · exact ⟨.iniciar f g, .inl rfl⟩
    · split
      · exact ⟨still, .inr answer⟩
      · exact ⟨.iniciar f g, .inl rfl⟩
    · exact ⟨.iniciar f g, .inl rfl⟩

/-! Runs -/

structure Inv (s : Estado) : Prop where
  firme : Firme s
  flujo : Flujo s
  acordes : ∀ r, ⟨.result, .acabada r⟩ ∈ s.llamadas → Acorde s r
  fences : ∀ b, ⟨.result, .fence none b⟩ ∉ s.llamadas

theorem Inv.abierta : Inv Estado.abierta := ⟨.abierta, .abierta, nofun, nofun⟩

/-- The call `i` ends in the step from `s` to `t` with this response. -/
def Acaba (s t : Estado) (i : Nat) (r : Respuesta) : Prop :=
  ∃ m, t.llamadas[i]? = some ⟨m, .acabada r⟩ ∧ s.llamadas[i]? ≠ some ⟨m, .acabada r⟩

/-- What a step keeps, and what the exceptions it raises say after an unknown terminality. -/
structure Avanza (s t : Estado) : Prop where
  inv : Inv t
  persiste : Persiste s t
  veta : s.desconocida = true → ∀ i r x, Acaba s t i r → r = .lanza x ∨ r = .cancelada x →
    exceptionForbidsRollback t.heap x = true

theorem Tranquila.avanza (inv : Inv s) (q : Tranquila s t) : Avanza s t where
  inv := by
    refine ⟨q.firme, q.flujo, ?_, q.llamadas ▸ inv.fences⟩
    rw [q.llamadas]
    exact fun r mem => (inv.acordes r mem).persiste q.persiste
  persiste := q.persiste
  veta := by
    rintro _ i r x ⟨m, after, before⟩
    exact absurd (q.llamadas ▸ after) before

theorem Responde.avanza {r : Respuesta} {m : Metodo} {fase : Fase} (inv : Inv s) (q : Responde s t r)
    (call : s.llamadas[i]? = some ⟨m, fase⟩) (acorde : m = .result → Acorde t r) :
    Avanza s (t.responde i (.acabada r)) where
  inv := by
    refine ⟨?_, q.flujo.of_eq rfl rfl rfl rfl rfl ⟨_, .refl (fun _ => False) _⟩ q.flujo.parado q.flujo.cerrado,
      ?_, fun b mem => ?_⟩
    · refine { q.firme with llamadas := fun n c b mem => ?_ }
      rcases mem_modify mem with old | ⟨y, _, is⟩
      · exact q.firme.llamadas n c b old
      · cases is
    · intro x mem
      have ended : Acorde t x := by
        rcases mem_modify mem with old | ⟨y, at_y, is⟩
        · exact (inv.acordes x (q.llamadas ▸ old)).persiste q.persiste
        · rw [q.llamadas, call, Option.some.injEq] at at_y
          subst at_y
          simp only [Llamada.mk.injEq, Fase.acabada.injEq] at is
          exact is.2 ▸ acorde is.1.symm
      exact ended.persiste (.of_eq (.refl (fun _ => False) _) rfl rfl rfl rfl fun _ a => a)
    · rcases mem_modify mem with old | ⟨y, _, is⟩
      · exact inv.fences b (q.llamadas ▸ old)
      · simp at is
  persiste := q.persiste.trans (.of_eq (.refl (fun _ => False) _) rfl rfl rfl rfl fun _ a => a)
  veta := by
    rintro unknown j x e ⟨n, after, before⟩ raised
    simp only [Estado.responde, q.llamadas] at after
    by_cases same : i = j
    · subst same
      simp only [List.getElem?_modify_eq, call, Option.map_eq_map, Option.map_some, Option.some.injEq,
        Llamada.mk.injEq, Fase.acabada.injEq] at after
      exact q.veta unknown e (after.2 ▸ raised)
    · rw [List.getElem?_modify_ne _ _ same] at after
      exact absurd after before

/-- A call begins, and may have its response at once. -/
theorem Avanza.llama {m : Metodo} {fase : Fase} (inv : Inv s) (q : Tranquila s t)
    (kind : fase = .espera ∨ m ≠ .result ∧ (fase = .fence none false ∨ ∃ r, fase = .acabada r ∧
      (s.desconocida = true → ∀ x, r = .lanza x ∨ r = .cancelada x → exceptionForbidsRollback t.heap x = true))) :
    Avanza s { t with llamadas := t.llamadas ++ [⟨m, fase⟩] } where
  inv := by
    refine ⟨{ q.firme with llamadas := fun n c b mem => ?_ },
      q.flujo.of_eq rfl rfl rfl rfl rfl ⟨_, .refl (fun _ => False) _⟩ q.flujo.parado q.flujo.cerrado,
      fun r mem => ?_, fun b mem => ?_⟩
    · rcases List.mem_append.mp mem with old | new
      · exact q.firme.llamadas n c b old
      · simp only [List.mem_singleton, Llamada.mk.injEq] at new
        rcases kind with h | ⟨_, h | ⟨r, h, _⟩⟩ <;> rw [h] at new <;> cases new.2
    · rcases List.mem_append.mp mem with old | new
      · have := (inv.acordes r (q.llamadas ▸ old)).persiste q.persiste
        exact this.persiste (.of_eq (.refl (fun _ => False) _) rfl rfl rfl rfl fun _ a => a)
      · simp only [List.mem_singleton, Llamada.mk.injEq] at new
        rcases kind with h | ⟨other, _⟩
        · rw [h] at new
          cases new.2
        · exact absurd new.1.symm other
    · rcases List.mem_append.mp mem with old | new
      · exact inv.fences b (q.llamadas ▸ old)
      · simp only [List.mem_singleton, Llamada.mk.injEq] at new
        rcases kind with h | ⟨other, _⟩
        · rw [h] at new
          cases new.2
        · exact absurd new.1.symm other
  persiste := q.persiste.trans (.of_eq (.refl (fun _ => False) _) rfl rfl rfl rfl fun _ a => a)
  veta := by
    rintro unknown j r x ⟨n, after, before⟩ raised
    simp only [q.llamadas] at after
    rcases getElem?_concat after with old | ⟨_, new⟩
    · exact absurd old before
    · simp only [Llamada.mk.injEq] at new
      rcases kind with h | ⟨_, h | ⟨r', h, veta⟩⟩
      · rw [h] at new
        cases new.2
      · rw [h] at new
        cases new.2
      · rw [h, Fase.acabada.injEq] at new
        exact veta unknown x (new.2 ▸ raised)

theorem Avanza.interrumpe (inv : Inv s) (moved : interrumpir i s = some t) : Avanza s t := by
  have fence : ∀ {u : Estado} {c : Option Nat} {b : Bool}, Firme u → Flujo u → Persiste s u →
      u.llamadas = s.llamadas → (∀ x, c = some x → EsCancelacion u.heap x) →
      (c = none → ∃ b', ∃ m, m ≠ .result ∧ s.llamadas[i]? = some ⟨m, .fence none b'⟩) →
      Avanza s (u.responde i (.fence c b)) := by
    intro u c b f g p same born own
    have last : Persiste u (u.responde i (.fence c b)) :=
      .of_eq (.refl (fun _ => False) _) rfl rfl rfl rfl fun _ a => a
    refine ⟨⟨{ f with llamadas := fun n x b' mem => ?_ },
      g.of_eq rfl rfl rfl rfl rfl ⟨_, .refl (fun _ => False) _⟩ g.parado g.cerrado, fun r mem => ?_, fun b' mem => ?_⟩,
      p.trans last, ?_⟩
    · rcases mem_modify mem with old | ⟨y, _, is⟩
      · exact f.llamadas n x b' old
      · simp only [Llamada.mk.injEq, Fase.fence.injEq] at is
        exact born x is.2.1.symm
    · rcases mem_modify mem with old | ⟨y, _, is⟩
      · exact ((inv.acordes r (same ▸ old)).persiste p).persiste last
      · simp at is
    · rcases mem_modify mem with old | ⟨y, at_y, is⟩
      · exact inv.fences b' (same ▸ old)
      · simp only [Llamada.mk.injEq, Fase.fence.injEq] at is
        obtain ⟨_, m, other, call⟩ := own is.2.1.symm
        rw [same, call, Option.some.injEq] at at_y
        subst at_y
        exact other is.1.symm
    · rintro _ j r x ⟨n, after, before⟩
      simp only [Estado.responde, same] at after
      by_cases eq : i = j
      · subst eq
        rw [List.getElem?_modify_eq] at after
        cases had : s.llamadas[i]? with
        | none => simp [had] at after
        | some y => simp [had] at after
      · rw [List.getElem?_modify_ne _ _ eq] at after
        exact absurd after before
  rw [interrumpir] at moved
  split at moved
  · rw [Option.some.injEq] at moved
    have fu := inv.firme.nace (.de .cancelledError .vacio) none
    have gu : Flujo (s.nace (.de .cancelledError .vacio) none) := inv.flujo.conHeap (.append _ _)
    have q := Tranquila.iniciar fu gu
    obtain ⟨_, heap⟩ := q.persiste.heap
    refine moved ▸ fence q.firme q.flujo ((Persiste.nace _ _).trans q.persiste) q.llamadas ?_ nofun
    rintro x ⟨⟩
    exact EsCancelacion.mono ⟨_, getElem?_nace _ _, rfl⟩ heap
  · rename_i m c b call
    rw [Option.some.injEq] at moved
    have mem := List.mem_iff_getElem?.mpr ⟨i, call⟩
    refine moved ▸ fence inv.firme inv.flujo (.conHeap (.refl (fun _ => False) _)) rfl ?_ ?_
    · rintro x rfl
      exact inv.firme.llamadas m x b mem
    · rintro rfl
      exact ⟨b, m, fun is => inv.fences b (is ▸ mem), call⟩
  · cases moved

def permitido (s : Estado) (e : Evento) : Prop := permite s e = true

theorem Avanza.step {e : Evento} (inv : Inv s) (ok : permitido s e) (moved : step s e = some t) : Avanza s t := by
  obtain ⟨f, g, _, _⟩ := id inv
  cases e with
  | evento e =>
    rw [VfsSession.step] at moved
    split at moved
    · rename_i cond
      rw [Option.some.injEq] at moved
      exact moved ▸ (Tranquila.evento f g cond.1).avanza inv
    · cases moved
  | jobResult r =>
    rw [VfsSession.step] at moved
    split at moved
    · rw [Option.some.injEq] at moved
      subst moved
      refine Tranquila.avanza inv (.of_resultado f g ⟨?_, ?_⟩) <;> nofun
    · cases moved
  | resultadoInvalido =>
    rw [VfsSession.step] at moved
    split at moved
    · rw [Option.some.injEq] at moved
      subst moved
      refine Tranquila.avanza inv (.of_futuros f g ?_ ?_ (.inr ⟨?_, ?_⟩))
      · exact fun _ => rfl
      · exact fun _ bad => .inl bad
      · nofun
      · rintro x ⟨⟩
        exact limpia_nace _ nofun
    · cases moved
  | workerExit code =>
    rw [VfsSession.step] at moved
    split at moved
    · simp only at moved
      split at moved
      · rw [Option.some.injEq] at moved
        subst moved
        refine Tranquila.avanza inv (.of_futuros f g ?_ ?_ (.inr ⟨?_, ?_⟩))
        · exact Futuro.resuelve_of_done code
        · exact fun _ bad => .inl (Futuro.resuelve_error bad)
        · nofun
        · rintro x ⟨⟩
          exact limpia_nace _ nofun
      · rw [Option.some.injEq] at moved
        subst moved
        refine Tranquila.avanza inv (.of_salida f g ?_ ?_)
        · exact Futuro.resuelve_of_done code
        · exact fun _ bad => Futuro.resuelve_error bad
    · cases moved
  | launchError =>
    rw [VfsSession.step] at moved
    split at moved
    · rw [Option.some.injEq] at moved
      subst moved
      refine Tranquila.avanza inv (.of_futuros f g ?_ ?_ (.inr ⟨?_, ?_⟩))
      · exact Futuro.resuelve_of_done none
      · exact fun _ bad => .inl (Futuro.resuelve_error bad)
      · nofun
      · rintro x ⟨⟩
        exact limpia_nace _ nofun
    · cases moved
  | cancelError =>
    rw [VfsSession.step] at moved
    split at moved
    · rw [Option.some.injEq] at moved
      subst moved
      have born : Vetada (s.heap ++ [⟨.de .teardownError .terminacionRechazada, none, none⟩]) s.heap.length ∧
          Limpia (s.heap ++ [⟨.de .teardownError .terminacionRechazada, none, none⟩]) s.heap.length :=
        ⟨vetada_nace _ rfl, limpia_nace _ nofun⟩
      refine Tranquila.avanza inv (.of_futuros f g ?_ ?_ ?_)
      · exact Futuro.falla_of_done _
      · intro x bad
        rcases Futuro.falla_error bad with before | rfl
        · exact .inl before
        · exact .inr born
      · by_cases pending : s.resultado = .pendiente
        · rw [pending]
          refine .inr ⟨nofun, ?_⟩
          rintro x ⟨⟩
          exact born.2
        · exact .inl (Futuro.falla_of_done _ pending)
    · cases moved
  | plazo =>
    rw [VfsSession.step] at moved
    split at moved
    · rename_i cond
      rw [Option.some.injEq] at moved
      subst moved
      refine Tranquila.avanza inv (.of_futuros f g ?_ ?_ (.inl rfl))
      · exact fun done => absurd cond.2 done
      · rintro x ⟨⟩
        exact .inr ⟨vetada_nace _ rfl, limpia_nace _ nofun⟩
    · cases moved
  | bridgePerdido =>
    rw [VfsSession.step] at moved
    split at moved
    · rename_i cond
      rw [Option.some.injEq] at moved
      subst moved
      refine Tranquila.avanza inv (.of_salida f g ?_ ?_)
      · exact fun done => absurd cond.2 done
      · nofun
    · cases moved
  | timeout =>
    rw [VfsSession.step] at moved
    split at moved
    · rename_i waits
      rw [Option.some.injEq] at moved
      exact moved ▸ (Tranquila.timeout f g waits).avanza inv
    · cases moved
  | colector =>
    rw [VfsSession.step] at moved
    split at moved
    · rename_i on queue
      rw [Option.some.injEq] at moved
      exact moved ▸ (Tranquila.colector f g on queue).avanza inv
    · cases moved
  | driver => exact (Tranquila.conducir f g ok moved).avanza inv
  | terminacion => exact (Tranquila.terminar f g moved).avanza inv
  | cancelacion => exact (Tranquila.cancelacion f g ok moved).avanza inv
  | llama m =>
    have still : Tranquila s s := ⟨f, g, .conHeap (.refl (fun _ => False) _), rfl⟩
    cases m with
    | cancel =>
      rw [VfsSession.step, Option.some.injEq] at moved
      obtain ⟨q, fase⟩ := Tranquila.cancel f g
      exact moved ▸ .llama inv q (.inr ⟨nofun, fase⟩)
    | result =>
      simp only [VfsSession.step, Option.some.injEq] at moved
      exact moved ▸ .llama inv still (.inl rfl)
    | wait =>
      simp only [VfsSession.step, Option.some.injEq] at moved
      exact moved ▸ .llama inv still (.inl rfl)
  | interrumpe i => exact .interrumpe inv moved
  | entrega i =>
    rw [VfsSession.step] at moved
    split at moved
    · rename_i m d call at_
      rw [Option.some.injEq] at moved
      obtain ⟨q, acorde⟩ := Responde.entregar (m := m) f g at_
      exact moved ▸ q.avanza inv call acorde
    · cases moved
  | fence i =>
    rw [VfsSession.step] at moved
    split at moved
    · rename_i m c b d x call at_ _
      rw [Option.some.injEq] at moved
      have mem := List.mem_iff_getElem?.mpr ⟨i, call⟩
      refine moved ▸ (Responde.fence f g at_ mem).avanza inv call ?_
      rintro rfl
      cases c with
      | none => exact absurd mem (inv.fences b)
      | some c => exact trivial
    · cases moved

theorem Inv.of_reaches (reached : Reaches step (· = Estado.abierta) permitido s) : Inv s := by
  refine reached.invariant ?_ fun _ _ _ inv ok moved => (Avanza.step inv ok moved).inv
  rintro _ rfl
  exact .abierta

/-! The property -/

/-- At most one `tool_started`, after it at most one `tool_exit`, and no other exit code declared. -/
def Concuerda (recibidos : List VfsSessionEvent) (r : VfsJobResult) : Prop :=
  recibidos = [] ∨ (∃ pid, recibidos = [.toolStarted pid]) ∨
    ∃ pid code, recibidos = [.toolStarted pid, .toolExit code] ∧ ∀ c, r.exitCode = some c → code = c

structure Veraz (s : Estado) : Prop where
  pid : ∀ e t p, step s e = some t → s.pid = some p → t.pid = some p
  resultado : ∀ r, ⟨.result, .acabada (.resultado r)⟩ ∈ s.llamadas → Concuerda s.recibidos r
  mismo : ∀ r q, ⟨.result, .acabada r⟩ ∈ s.llamadas → ⟨.result, .acabada q⟩ ∈ s.llamadas →
    (∀ e, r ≠ .cancelada e) → (∀ e, q ≠ .cancelada e) → Mismo s.heap r q
  unaDeDos : ¬ (s.confirmedTerminal = true ∧ s.terminalityUnknown = true)
  desconocida : s.desconocida = true → s.confirmedTerminal = false
  veta : s.desconocida = true → ∀ e t i r x, step s e = some t → Acaba s t i r →
    r = .lanza x ∨ r = .cancelada x → exceptionForbidsRollback t.heap x = true

/-- The two tasks that a run may have to hold back touch neither the pid nor the calls. -/
theorem conducir_fields (moved : conducir s = some t) : t.pid = s.pid ∧ t.llamadas = s.llamadas := by
  rw [conducir] at moved
  repeat' split at moved
  all_goals cases moved
  all_goals exact ⟨rfl, rfl⟩

theorem cancelarYConfirmar_fields (moved : cancelarYConfirmar s = some t) :
    t.pid = s.pid ∧ t.llamadas = s.llamadas := by
  rw [cancelarYConfirmar] at moved
  repeat' split at moved
  all_goals try rw [Option.some.injEq] at moved
  · subst moved
    rw [confirmar]
    simp only
    split <;> exact ⟨rfl, rfl⟩
  · subst moved
    rw [pedirTerminacion]
    split <;> exact ⟨rfl, rfl⟩
  · subst moved
    exact ⟨rfl, rfl⟩
  · subst moved
    exact ⟨rfl, rfl⟩
  · cases moved
  · cases moved

theorem Inv.veraz (inv : Inv s) : Veraz s := by
  have steps : ∀ e t, step s e = some t → (∀ p, s.pid = some p → t.pid = some p) ∧
      (s.desconocida = true → ∀ i r x, Acaba s t i r → r = .lanza x ∨ r = .cancelada x →
        exceptionForbidsRollback t.heap x = true) := by
    intro e t moved
    have still : t.pid = s.pid ∧ t.llamadas = s.llamadas → (∀ p, s.pid = some p → t.pid = some p) ∧
        (s.desconocida = true → ∀ i r x, Acaba s t i r → r = .lanza x ∨ r = .cancelada x →
          exceptionForbidsRollback t.heap x = true) := by
      rintro ⟨pid, llamadas⟩
      refine ⟨fun p set => pid.trans set, ?_⟩
      rintro _ i r x ⟨m, after, before⟩
      exact absurd (llamadas ▸ after) before
    by_cases ok : permitido s e
    · have next := Avanza.step inv ok moved
      exact ⟨next.persiste.pid, next.veta⟩
    · cases e with
      | driver => exact still (conducir_fields moved)
      | cancelacion => exact still (cancelarYConfirmar_fields moved)
      | _ => exact absurd rfl ok
  have honest : s.confirmedTerminal = true → ∀ d, s.driver = .hecho d → ¬ ∃ e, d = .error e ∧ Vetada s.heap e := by
    rintro flag d at_ ⟨e, rfl, veta⟩
    exact (inv.firme.confirmada flag).2 e (.inr (by rw [at_]; rfl)) veta
  refine ⟨fun e t p moved => (steps e t moved).1 p, ?_, ?_, ?_, ?_, ?_⟩
  · intro r mem
    obtain ⟨right, empty, _, codes⟩ := inv.acordes _ mem
    obtain ⟨leidos, all, read⟩ := inv.flujo.leidos right
    rw [empty, List.append_nil] at all
    rw [all]
    generalize s.pid = pid, s.exitCode = exit at read codes
    cases read with
    | nada => exact .inl rfl
    | empezado p => exact .inr (.inl ⟨p, rfl⟩)
    | terminado p c => exact .inr (.inr ⟨p, c, rfl, fun b code => codes c b rfl code⟩)
  · intro r q hr hq not_r not_q
    exact (inv.acordes r hr).mismo (inv.acordes q hq) not_r not_q
  · rintro ⟨flag, unknown⟩
    obtain ⟨⟨c, ok⟩, _⟩ := inv.firme.confirmada flag
    rcases inv.firme.unknown unknown with ⟨x, bad⟩ | ⟨e, at_, veta⟩
    · exact absurd (bad.symm.trans ok) (by simp)
    · exact honest flag _ at_ ⟨e, rfl, veta⟩
  · intro unknown
    cases flag : s.confirmedTerminal with
    | false => rfl
    | true =>
      obtain ⟨c, ok⟩ := (inv.firme.confirmada flag).1
      cases at_ : s.driver with
      | hecho d => exact absurd (inv.firme.vetada_of_desconocida at_ unknown) (honest flag d at_)
      | _ =>
        rw [Estado.desconocida, at_, Bool.false_or] at unknown
        revert unknown
        cases ended : s.cancelacion with
        | hecha fallo =>
          cases fallo with
          | none => simp
          | some e =>
            obtain ⟨⟨x, bad⟩, _⟩ := inv.firme.cancelada e ended
            exact absurd (bad.symm.trans ok) (by simp)
        | _ => simp
  · intro unknown e t i r x moved
    exact (steps e t moved).2 unknown i r x

/-- A session tells the truth as long as its cancellation is not confirmed over a vetoed failure. -/
theorem sesion_veraz (reached : Reaches step (· = Estado.abierta) permitido s) : Veraz s :=
  (Inv.of_reaches reached).veraz

/-- A tool that outlives its deadline: the call waiting for the result and one of `cancel` end
with the veto. -/
def sinConfirmar : List Evento :=
  ([.evento (.toolStarted 7), .colector, .llama .result, .timeout, .terminacion, .plazo] : List Evento) ++
  [.terminacion, .llama .cancel, .cancelacion, .driver, .driver, .cancelacion, .driver] ++
  [.entrega 0, .fence 1]

theorem sin_confirmar_veraz : ∃ s, run (restricted step permite) Estado.abierta sinConfirmar = some s ∧
    s.desconocida = true ∧ s.llamadas.map Llamada.fase = [.acabada (.lanza 1), .acabada (.lanza 0)] ∧
    Veraz s := by
  have looks : (run (restricted step permite) Estado.abierta sinConfirmar).map
      (fun s => (s.desconocida, s.llamadas.map Llamada.fase)) =
      some (true, [.acabada (.lanza 1), .acabada (.lanza 0)]) := by
    decide +kernel
  obtain ⟨s, done, seen⟩ := Option.map_eq_some_iff.mp looks
  obtain ⟨unknown, calls⟩ := Prod.mk.injEq .. ▸ seen
  exact ⟨s, done, unknown, calls, sesion_veraz (.of_restricted_run (.start rfl) done)⟩

/-- The job is over, its terminality unknown, when the queue gives a second `tool_started`: the
cancellation it starts finds no job to cancel and confirms. -/
def confirmadaTarde : List Evento :=
  ([.evento (.toolStarted 7), .colector, .timeout, .terminacion, .plazo, .terminacion] : List Evento) ++
  [.evento (.toolStarted 9), .driver, .driver, .driver, .llama .result, .entrega 0, .cancelacion]

theorem confirmada_sin_saber : ∃ s, run step Estado.abierta confirmadaTarde = some s ∧ ¬ Veraz s := by
  have looks : (run step Estado.abierta confirmadaTarde).map
      (fun s => (s.desconocida, s.confirmedTerminal)) = some (true, true) := by
    decide +kernel
  obtain ⟨s, done, seen⟩ := Option.map_eq_some_iff.mp looks
  obtain ⟨unknown, flag⟩ := Prod.mk.injEq .. ▸ seen
  refine ⟨s, done, fun veraz => ?_⟩
  rw [veraz.desconocida unknown] at flag
  cases flag

end VfsSession
