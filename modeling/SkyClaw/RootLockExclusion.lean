import SkyClaw.HeldLocks
import SkyClaw.RootLockCalls
import SkyClaw.RootLockText

set_option linter.all false

/-!
What holds in every run of the calls on one root lock: one live handle, records taken over
only as they may be, and every acquisition that failed and every `release` that ended has
given back the thread lock, the file lock and the file.
-/
namespace FrozenRootLock
open TransitionRuns HeldLocks

section
variable (json : Json) (uuid : String → Option String) (root : CanonicalRoot)

/-- A write that fails leaves a file that reads as before, or as the new record. -/
def dejaLegible (archivo : Option Bytes) (nuevo : RootLockMetadata) : Escritura → Bool
  | .ok => true
  | .falla queda _ =>
    leerArchivo json uuid root (some queda) = leerArchivo json uuid root archivo ∨
      leerArchivo json uuid root (some queda) = .ok (some nuevo)

def sesionPermitida (s : Estado) (x : Sesion) (a : Accion) : Bool :=
  match x.fase, a with
  | .admitida _ _, .escribe sessionId now escritura =>
    dejaLegible json uuid root s.archivo (fresca root x.proceso sessionId now) escritura
  | .deshace _ _ .cierra, .cierra tardio => tardio = none
  | _, _ => true

def llamadaPermitida (s : Estado) (c : Llamada) (a : Accion) : Bool :=
  match c.tarea, a with
  | .consulta, .falla => false
  | .escribe, .libera now escritura =>
    match s.sesiones c.sesion with
    | some ⟨_, _, .viva m _⟩ => dejaLegible json uuid root s.archivo (m.liberada now) escritura
    | _ => true
  | .limpia _ .cierra, .cierra tardio => tardio = none
  | _, _ => true

/-- A `release` is the only one of its handle and learns that its process is the owner, a
write that fails leaves a record, and no file writes after its lock is given back. -/
def permitido (s : Estado) : Evento → Bool
  | .release _ sesion => sesion ∉ s.soltando
  | .sesion id a => (s.sesiones id).all fun x => sesionPermitida json uuid root s x a
  | .llamada id a => (s.llamadas id).all fun c => llamadaPermitida json uuid root s c a
  | _ => true

/-! The property -/

/-- What was written over was nobody's, or that of the process itself, which knew that it
is alive, or that of a dead process, and then it was asked for. -/
def Toma.Licita (t : Toma) : Prop :=
  ∃ previo, leerArchivo json uuid root t.previo = .ok previo ∧
    ∀ m, previo = some m → m.phase = .held →
      (m.esDe t.proceso = true ∧ t.liveness = some .alive) ∨
        (t.reclaimOrphaned = true ∧ t.liveness = some .dead ∧ t.duenoVivo = false)

/-- What an acquisition reads of the owner when all queries are answered. -/
def examen (p : Proceso) : Option RootLockMetadata → Accion
  | none => .sigue
  | some m => if m.phase = .held then .consulta (.visto p.createTime true false) else .sigue

/-- An acquisition in which nothing fails. -/
def adquisicion (id : Nat) (p : Proceso) (reclaimOrphaned : Bool) (previo : Option RootLockMetadata)
    (sessionId : String) (now : Int) : List Evento :=
  .acquire id p reclaimOrphaned ::
    [.sigue, .sigue, .sigue, .sigue, .sigue, examen p previo, .escribe sessionId now .ok, .sigue].map
      (.sesion id)

/-- A process with nothing in progress acquires, where nobody else has the file lock and
the record is of nobody else. -/
def NoSeBloquea (s : Estado) : Prop :=
  ∀ p ∈ s.vivos, (∀ i x, s.sesiones i = some x → x.proceso = p → i ∈ s.terminadas) →
    s.candado = none → ∃ previo, leerArchivo json uuid root s.archivo = .ok previo ∧
      ((∀ m, previo = some m → m.phase = .held → m.esDe p = true) →
        ∀ id reclaimOrphaned sessionId now, s.sesiones id = none → id ∉ s.terminadas →
          uuid sessionId = some sessionId → 0 < now →
            ∃ t, run (step json uuid root) s
                (adquisicion id p reclaimOrphaned previo sessionId now) = some t ∧
              t.sesiones id = some ⟨p, reclaimOrphaned, .viva (fresca root p sessionId now) true⟩)

/-- It has neither the file nor the file lock, and is no live handle. -/
structure Devuelta (s : Estado) (id : Nat) : Prop where
  descriptor : s.descriptores (.sesion id) = none
  candado : s.candado ≠ some (.sesion id)
  viva : ∀ p r m a, s.sesiones id ≠ some ⟨p, r, .viva m a⟩

structure Segura (s : Estado) : Prop where
  unico : ∀ i j p q r u m n a b, s.sesiones i = some ⟨p, r, .viva m a⟩ →
    s.sesiones j = some ⟨q, u, .viva n b⟩ → i = j
  tomas : ∀ t ∈ s.tomas, t.Licita json uuid root
  registro : ∀ i p r m, s.sesiones i = some ⟨p, r, .viva m true⟩ →
    leerArchivo json uuid root s.archivo = .ok (some m) ∧ m.phase = .held ∧ m.esDe p = true
  devueltas : ∀ i ∈ s.terminadas, Devuelta s i
  hilos : ∀ p, s.hilos p = true →
    ∃ i x, s.sesiones i = some x ∧ x.proceso = p ∧ x.fase ≠ .pide ∧ i ∉ s.terminadas
  progresa : NoSeBloquea json uuid root s

end

/-! What each call has -/

def Fase.tieneHilo : Fase → Bool
  | pide => false
  | soltada _ none => false
  | _ => true

def Fase.tieneFichero : Fase → Bool
  | pide => false
  | conHilo => false
  | identificada => false
  | deshace _ _ .hilo => false
  | soltada _ none => false
  | soltada _ (some .hilo) => false
  | _ => true

def Fase.tieneCandado : Fase → Bool
  | bloqueada => true
  | leida _ => true
  | admitida _ _ => true
  | escrita _ => true
  | viva _ _ => true
  | soltada _ (some .desbloquea) => true
  | _ => false

/-- The clean-up of an acquisition unlocks without knowing whether it has the lock. -/
def Fase.puedeCandado : Fase → Bool
  | deshace _ _ .desbloquea => true
  | fase => fase.tieneCandado

def Sesion.hilo (x : Sesion) : Option Proceso := if x.fase.tieneHilo then some x.proceso else none

def Sesion.fichero (x : Sesion) : Option Proceso :=
  if x.fase.tieneFichero then some x.proceso else none

def Llamada.sondea (c : Llamada) : Bool :=
  match c.tarea with
  | .valida _ .sondeado => true
  | _ => false

def Llamada.fichero (c : Llamada) : Option Proceso := if c.sondea then some c.proceso else none

/-- The call is a `release`. -/
def Llamada.esRelease (c : Llamada) : Bool :=
  match c.tarea with
  | .valida .assertOwned _ => false
  | _ => true

namespace Estado

def hilo (s : Estado) (i : Nat) : Option Proceso := (s.sesiones i).bind Sesion.hilo

def fichero (s : Estado) : Origen → Option Proceso
  | .sesion i => (s.sesiones i).bind Sesion.fichero
  | .sonda i => (s.llamadas i).bind Llamada.fichero

def debe (s : Estado) : Origen → Bool
  | .sesion i => (s.sesiones i).any fun x => x.fase.tieneCandado
  | .sonda i => (s.llamadas i).any Llamada.sondea

def puede (s : Estado) : Origen → Bool
  | .sesion i => (s.sesiones i).any fun x => x.fase.puedeCandado
  | .sonda i => (s.llamadas i).any Llamada.sondea

end Estado

section
variable (json : Json) (uuid : String → Option String) (root : CanonicalRoot)

/-- The record of a handle of this process. -/
structure Propia (p : Proceso) (m : RootLockMetadata) : Prop where
  valida : m.Valida uuid root
  held : m.phase = .held
  suya : m.esDe p = true

/-- What a session in this phase knows of the file. -/
def FaseSana (archivo : Option Bytes) (x : Sesion) : Prop :=
  match x.fase with
  | .leida previo => leerArchivo json uuid root archivo = .ok previo
  | .admitida liveness duenoVivo =>
    (⟨x.proceso, x.reclaimOrphaned, archivo, liveness, duenoVivo⟩ : Toma).Licita json uuid root
  | .escrita m => Propia uuid root x.proceso m ∧ leerArchivo json uuid root archivo = .ok (some m)
  | .viva m intacto => Propia uuid root x.proceso m ∧
      (intacto = true → leerArchivo json uuid root archivo = .ok (some m))
  | _ => True

structure SesionSana (s : Estado) (i : Nat) (x : Sesion) : Prop where
  vive : x.proceso ∈ s.vivos
  terminada : i ∈ s.terminadas → ∃ m, x.fase = .soltada m none
  fase : FaseSana json uuid root s.archivo x

/-- The handle of the call is in one of these phases. -/
def EnFase (s : Estado) (c : Llamada) (fases : Fase → Prop) : Prop :=
  ∃ x, s.sesiones c.sesion = some x ∧ x.proceso = c.proceso ∧ fases x.fase

def TareaSana (s : Estado) (c : Llamada) : Prop :=
  match c.tarea with
  | .consulta => EnFase s c fun f => f.esHandle = true
  | .valida .assertOwned _ => True
  | .valida .releaseAjeno _ => False
  | .valida .release _ => EnFase s c fun f => ∃ m a, f = .viva m a
  | .escribe => EnFase s c fun f => ∃ m a, f = .viva m a
  | .finaliza _ => EnFase s c fun f => ∃ m a, f = .viva m a
  | .limpia _ queda => EnFase s c fun f => ∃ m, f = .soltada m (some queda)

structure LlamadaSana (s : Estado) (c : Llamada) : Prop where
  vive : c.proceso ∈ s.vivos
  tarea : TareaSana s c
  soltando : c.esRelease = true → c.sesion ∈ s.soltando

structure Procesos (s : Estado) : Prop where
  usados : ∀ p ∈ s.vivos, p ∈ s.usados ∧ 0 < p.pid ∧ 0 < p.createTime
  pids : ∀ p ∈ s.vivos, ∀ q ∈ s.vivos, p.pid = q.pid → p = q
  distintos : ∀ p ∈ s.usados, ∀ q ∈ s.usados, p.pid = q.pid →
    cerca p.createTime q.createTime = true → p = q

structure Coherente (s : Estado) : Prop where
  procesos : Procesos s
  hilos : Held s.hilos s.hilo
  ficheros : s.descriptores = s.fichero
  candado : ∀ o, s.debe o = true → s.candado = some o
  titular : ∀ o, s.candado = some o → s.puede o = true
  activos : ∀ p i, s.activos p = some i → ∃ r m a, s.sesiones i = some ⟨p, r, .viva m a⟩
  sesiones : ∀ i x, s.sesiones i = some x → SesionSana json uuid root s i x
  llamadas : ∀ i c, s.llamadas i = some c → LlamadaSana s c
  unica : ∀ i j c d, s.llamadas i = some c → s.llamadas j = some d → c.esRelease = true →
    d.esRelease = true → c.sesion = d.sesion → i = j
  deudor : ∀ i x m q, s.sesiones i = some x → x.fase = .soltada m (some q) →
    ∃ j c sucio, s.llamadas j = some c ∧ c.sesion = i ∧ c.tarea = .limpia sucio q
  legible : ∃ previo, leerArchivo json uuid root s.archivo = .ok previo
  tomas : ∀ t ∈ s.tomas, t.Licita json uuid root

end

/-! What a step changes -/

namespace Estado

/-- A session is replaced, or ends. -/
def pone (s : Estado) (i : Nat) (x : Option Sesion) : Estado :=
  { s with sesiones := Function.update s.sesiones i x }

variable (s : Estado) (i : Nat)

@[simp] theorem hilo_pone (x : Option Sesion) :
    (s.pone i x).hilo = Function.update s.hilo i (x.bind Sesion.hilo) := by
  funext j
  by_cases same : j = i
  · subst same
    simp [hilo, pone]
  · simp [hilo, pone, same]

@[simp] theorem fichero_pone (x : Option Sesion) :
    (s.pone i x).fichero = Function.update s.fichero (.sesion i) (x.bind Sesion.fichero) := by
  funext o
  cases o with
  | sesion j =>
    by_cases same : j = i
    · subst same
      simp [fichero, pone]
    · simp [fichero, pone, same]
  | sonda j => simp [fichero, pone]

@[simp] theorem debe_pone (x : Option Sesion) : (s.pone i x).debe =
    Function.update s.debe (.sesion i) (x.any fun y => y.fase.tieneCandado) := by
  funext o
  cases o with
  | sesion j =>
    by_cases same : j = i
    · subst same
      simp [debe, pone]
    · simp [debe, pone, same]
  | sonda j => simp [debe, pone]

@[simp] theorem puede_pone (x : Option Sesion) : (s.pone i x).puede =
    Function.update s.puede (.sesion i) (x.any fun y => y.fase.puedeCandado) := by
  funext o
  cases o with
  | sesion j =>
    by_cases same : j = i
    · subst same
      simp [puede, pone]
    · simp [puede, pone, same]
  | sonda j => simp [puede, pone]

/-- A call is replaced, or ends. -/
def responde (s : Estado) (i : Nat) (c : Option Llamada) : Estado :=
  { s with llamadas := Function.update s.llamadas i c }

@[simp] theorem fichero_responde (c : Option Llamada) :
    (s.responde i c).fichero = Function.update s.fichero (.sonda i) (c.bind Llamada.fichero) := by
  funext o
  cases o with
  | sesion j => simp [fichero, responde]
  | sonda j =>
    by_cases same : j = i
    · subst same
      simp [fichero, responde]
    · simp [fichero, responde, same]

@[simp] theorem debe_responde (c : Option Llamada) :
    (s.responde i c).debe = Function.update s.debe (.sonda i) (c.any Llamada.sondea) := by
  funext o
  cases o with
  | sesion j => simp [debe, responde]
  | sonda j =>
    by_cases same : j = i
    · subst same
      simp [debe, responde]
    · simp [debe, responde, same]

@[simp] theorem puede_responde (c : Option Llamada) :
    (s.responde i c).puede = Function.update s.puede (.sonda i) (c.any Llamada.sondea) := by
  funext o
  cases o with
  | sesion j => simp [puede, responde]
  | sonda j =>
    by_cases same : j = i
    · subst same
      simp [puede, responde]
    · simp [puede, responde, same]

end Estado

/-- The same calls and processes. The resources and the file may differ. -/
structure Marco (s r : Estado) : Prop where
  sesiones : r.sesiones = s.sesiones
  llamadas : r.llamadas = s.llamadas
  vivos : r.vivos = s.vivos
  usados : r.usados = s.usados
  soltando : r.soltando = s.soltando
  terminadas : r.terminadas = s.terminadas

theorem Marco.vistas {s r : Estado} (marco : Marco s r) :
    r.hilo = s.hilo ∧ r.fichero = s.fichero ∧ r.debe = s.debe ∧ r.puede = s.puede := by
  refine ⟨?_, ?_, ?_, ?_⟩
  · unfold Estado.hilo
    rw [marco.sesiones]
  · unfold Estado.fichero
    rw [marco.sesiones, marco.llamadas]
  · unfold Estado.debe
    rw [marco.sesiones, marco.llamadas]
  · unfold Estado.puede
    rw [marco.sesiones, marco.llamadas]

theorem Procesos.mismos {s t : Estado} (procesos : Procesos s) (vivos : t.vivos = s.vivos)
    (usados : t.usados = s.usados) : Procesos t := by
  constructor
  · rw [vivos, usados]
    exact procesos.usados
  · rw [vivos]
    exact procesos.pids
  · rw [usados]
    exact procesos.distintos

section
variable {json : Json} {uuid : String → Option String} {root : CanonicalRoot}

theorem FaseSana.lee {x : Sesion} {antes despues : Option Bytes}
    (same : leerArchivo json uuid root despues = leerArchivo json uuid root antes)
    (sana : FaseSana json uuid root antes x) : FaseSana json uuid root despues x := by
  obtain ⟨p, r, fase⟩ := x
  cases fase with
  | leida previo => exact same.trans sana
  | admitida liveness vivo =>
    obtain ⟨previo, read, allowed⟩ := sana
    exact ⟨previo, same.trans read, allowed⟩
  | escrita m => exact ⟨sana.1, same.trans sana.2⟩
  | viva m intacto => exact ⟨sana.1, fun whole => same.trans (sana.2 whole)⟩
  | _ => trivial

/-- Without the file lock nothing is known of the file. -/
theorem FaseSana.sinCandado {x : Sesion} {archivo : Option Bytes}
    (free : x.fase.tieneCandado = false) : FaseSana json uuid root archivo x := by
  obtain ⟨p, r, fase⟩ := x
  cases fase with
  | leida previo => cases free
  | admitida liveness vivo => cases free
  | escrita m => cases free
  | viva m intacto => cases free
  | _ => trivial

/-- No two sessions have the file lock. -/
theorem Coherente.solo {s : Estado} (co : Coherente json uuid root s) {i j : Nat} {x y : Sesion}
    (here : s.sesiones i = some x) (has : x.fase.tieneCandado = true)
    (there : s.sesiones j = some y) (other : j ≠ i) : y.fase.tieneCandado = false := by
  cases also : y.fase.tieneCandado with
  | false => rfl
  | true =>
    have first := co.candado (.sesion i) (by simp [Estado.debe, here, has])
    have second := co.candado (.sesion j) (by simp [Estado.debe, there, also])
    rw [first] at second
    exact absurd (Origen.sesion.inj (Option.some.inj second)).symm other

theorem EnFase.mueve {s t : Estado} {c : Llamada} {fases : Fase → Prop}
    (handles : ∀ f, fases f → f.esHandle = true)
    (handle : ∀ y, s.sesiones c.sesion = some y → y.fase.esHandle = true →
      t.sesiones c.sesion = some y) (inside : EnFase s c fases) : EnFase t c fases := by
  obtain ⟨y, there, process, phase⟩ := inside
  exact ⟨y, handle y there (handles y.fase phase), process, phase⟩

/-- A call is sound while its handle stays as it is. -/
theorem LlamadaSana.mueve {s t : Estado} {c : Llamada} (sana : LlamadaSana s c)
    (vive : c.proceso ∈ t.vivos) (soltando : c.esRelease = true → c.sesion ∈ t.soltando)
    (handle : c.esRelease = true → ∀ y, s.sesiones c.sesion = some y → y.fase.esHandle = true →
      t.sesiones c.sesion = some y) : LlamadaSana t c := by
  refine ⟨vive, ?_, soltando⟩
  have vivas : ∀ f : Fase, (∃ m a, f = .viva m a) → f.esHandle = true := by
    rintro f ⟨m, a, rfl⟩
    rfl
  obtain ⟨_, tarea, _⟩ := sana
  obtain ⟨i, p, task⟩ := c
  cases task with
  | consulta => exact EnFase.mueve (fun _ is_handle => is_handle) (handle rfl) tarea
  | valida quien v =>
    cases quien with
    | assertOwned => trivial
    | releaseAjeno => exact tarea.elim
    | release => exact EnFase.mueve vivas (handle rfl) tarea
  | escribe => exact EnFase.mueve vivas (handle rfl) tarea
  | finaliza sucio => exact EnFase.mueve vivas (handle rfl) tarea
  | limpia sucio queda =>
    refine @EnFase.mueve s t _ (fun f => ∃ m, f = .soltada m (some queda)) ?_ (handle rfl) tarea
    rintro f ⟨m, rfl⟩
    rfl

theorem LlamadaSana.handle {s : Estado} {c : Llamada} (sana : LlamadaSana s c)
    (is_release : c.esRelease = true) :
    ∃ x, s.sesiones c.sesion = some x ∧ x.proceso = c.proceso := by
  obtain ⟨_, tarea, _⟩ := sana
  obtain ⟨i, p, task⟩ := c
  cases task with
  | valida quien v =>
    cases quien with
    | assertOwned => cases is_release
    | releaseAjeno => exact tarea.elim
    | release =>
      obtain ⟨x, there, process, _⟩ := tarea
      exact ⟨x, there, process⟩
  | _ =>
    obtain ⟨x, there, process, _⟩ := tarea
    exact ⟨x, there, process⟩

/-- An acquisition goes on. What it may change is said resource by resource. -/
theorem Coherente.sigue {s r : Estado} (co : Coherente json uuid root s) {i : Nat} {x x' : Sesion}
    (here : s.sesiones i = some x) (marco : Marco s r) (acquiring : x.fase.esHandle = false)
    (own : x'.proceso = x.proceso) (held : ∀ m q, x'.fase ≠ .soltada m q)
    (hilos : Held r.hilos (Function.update s.hilo i x'.hilo))
    (ficheros : r.descriptores = Function.update s.descriptores (.sesion i) x'.fichero)
    (candado : ∀ o, Function.update s.debe (.sesion i) x'.fase.tieneCandado o = true →
      r.candado = some o)
    (titular : ∀ o, r.candado = some o →
      Function.update s.puede (.sesion i) x'.fase.puedeCandado o = true)
    (activos : ∀ p j, r.activos p = some j → s.activos p = some j ∨
      (j = i ∧ ∃ q m a, x' = ⟨p, q, .viva m a⟩))
    (sana : FaseSana json uuid root r.archivo x')
    (otras : ∀ j y, j ≠ i → s.sesiones j = some y → FaseSana json uuid root s.archivo y →
      FaseSana json uuid root r.archivo y)
    (legible : ∃ previo, leerArchivo json uuid root r.archivo = .ok previo)
    (tomas : ∀ t ∈ r.tomas, t.Licita json uuid root) :
    Coherente json uuid root (r.sigue i x') := by
  obtain ⟨hilo, fichero, debe, puede⟩ := marco.vistas
  have sound := co.sesiones i x here
  have unfinished : i ∉ s.terminadas := by
    intro done
    obtain ⟨m, finished⟩ := sound.terminada done
    rw [finished] at acquiring
    cases acquiring
  have handle : ∀ j y, s.sesiones j = some y → y.fase.esHandle = true →
      (r.sigue i x').sesiones j = some y := by
    intro j y there is_handle
    have other : j ≠ i := by
      rintro rfl
      obtain rfl := Option.some.inj (here.symm.trans there)
      rw [acquiring] at is_handle
      cases is_handle
    simp [Estado.sigue, other, marco.sesiones, there]
  constructor
  · exact co.procesos.mismos marco.vivos marco.usados
  · exact Estado.hilo_pone r i (some x') ▸ hilo ▸ hilos
  · exact Estado.fichero_pone r i (some x') ▸ fichero ▸ co.ficheros ▸ ficheros
  · exact Estado.debe_pone r i (some x') ▸ debe ▸ candado
  · exact Estado.puede_pone r i (some x') ▸ puede ▸ titular
  · intro p j active
    rcases activos p j active with before | ⟨rfl, q, m, a, rfl⟩
    · obtain ⟨q, m, a, there⟩ := co.activos p j before
      exact ⟨q, m, a, handle j _ there rfl⟩
    · exact ⟨q, m, a, by simp [Estado.sigue]⟩
  · intro j y there
    by_cases same : j = i
    · subst same
      obtain rfl : x' = y := by simpa [Estado.sigue] using there
      constructor
      · exact marco.vivos ▸ own ▸ sound.vive
      · intro done
        exact absurd (marco.terminadas ▸ done) unfinished
      · exact sana
    · have before : s.sesiones j = some y := by
        simpa [Estado.sigue, same, marco.sesiones] using there
      obtain ⟨alive, finished, fase⟩ := co.sesiones j y before
      constructor
      · exact marco.vivos ▸ alive
      · intro done
        exact finished (marco.terminadas ▸ done)
      · exact otras j y same before fase
  · intro j c there
    have sana := co.llamadas j c (marco.llamadas ▸ there)
    exact sana.mueve (marco.vivos ▸ sana.vive) (fun soltar => marco.soltando ▸ sana.soltando soltar)
      fun _ => handle c.sesion
  · intro j k c d first second
    exact co.unica j k c d (marco.llamadas ▸ first) (marco.llamadas ▸ second)
  · intro j y m q there owes
    by_cases same : j = i
    · subst same
      obtain rfl : x' = y := by simpa [Estado.sigue] using there
      exact absurd owes (held m (some q))
    · have before : s.sesiones j = some y := by
        simpa [Estado.sigue, same, marco.sesiones] using there
      obtain ⟨k, c, sucio, at_k, of_j, task⟩ := co.deudor j y m q before owes
      exact ⟨k, c, sucio, by rw [← at_k]; exact congrFun marco.llamadas k, of_j, task⟩
  · exact legible
  · exact tomas

theorem Estado.vistas_sesion {s : Estado} {i : Nat} {x : Sesion} (here : s.sesiones i = some x) :
    s.hilo i = x.hilo ∧ s.fichero (.sesion i) = x.fichero ∧
      s.debe (.sesion i) = x.fase.tieneCandado ∧ s.puede (.sesion i) = x.fase.puedeCandado := by
  simp [Estado.hilo, Estado.fichero, Estado.debe, Estado.puede, here]

/-- The file lock stays where it is. -/
theorem Coherente.candado_igual {s : Estado} (co : Coherente json uuid root s) {i : Nat}
    {x x' : Sesion} (here : s.sesiones i = some x)
    (fewer : x'.fase.tieneCandado = true → x.fase.tieneCandado = true)
    (more : x.fase.puedeCandado = true → x'.fase.puedeCandado = true) :
    (∀ o, Function.update s.debe (.sesion i) x'.fase.tieneCandado o = true → s.candado = some o) ∧
      ∀ o, s.candado = some o →
        Function.update s.puede (.sesion i) x'.fase.puedeCandado o = true := by
  obtain ⟨_, _, debe, puede⟩ := Estado.vistas_sesion here
  constructor
  · intro o has
    by_cases same : o = .sesion i
    · subst same
      rw [Function.update_self] at has
      exact co.candado _ (debe.trans (fewer has))
    · rw [Function.update_of_ne same] at has
      exact co.candado o has
  · intro o has
    by_cases same : o = .sesion i
    · subst same
      rw [Function.update_self]
      exact more (puede ▸ co.titular _ has)
    · rw [Function.update_of_ne same]
      exact co.titular o has

/-- An acquisition goes on with what it has. -/
theorem Coherente.igual {s : Estado} (co : Coherente json uuid root s) {i : Nat} {x x' : Sesion}
    (here : s.sesiones i = some x) (acquiring : x.fase.esHandle = false)
    (own : x'.proceso = x.proceso) (new : x'.fase.esHandle = false) (hilo : x'.hilo = x.hilo)
    (fichero : x'.fichero = x.fichero)
    (fewer : x'.fase.tieneCandado = true → x.fase.tieneCandado = true)
    (more : x.fase.puedeCandado = true → x'.fase.puedeCandado = true)
    (sana : FaseSana json uuid root s.archivo x') : Coherente json uuid root (s.sigue i x') := by
  obtain ⟨at_hilo, at_fichero, _, _⟩ := Estado.vistas_sesion here
  obtain ⟨candado, titular⟩ := co.candado_igual here fewer more
  refine co.sigue here ⟨rfl, rfl, rfl, rfl, rfl, rfl⟩ acquiring own ?_ ?_ ?_ candado titular
    (fun _ _ before => .inl before) sana (fun _ _ _ _ same => same) co.legible co.tomas
  · intro m q other
    rw [other] at new
    cases new
  · exact co.hilos.same (hilo.trans at_hilo.symm)
  · rw [fichero, ← at_fichero, co.ficheros, Function.update_eq_self]

theorem Coherente.tomaHilo {s : Estado} (co : Coherente json uuid root s) {i : Nat} {p : Proceso}
    {r : Bool} (here : s.sesiones i = some ⟨p, r, .pide⟩) (free : s.hilos p = false) :
    Coherente json uuid root
      ({ s with hilos := Function.update s.hilos p true }.sigue i ⟨p, r, .conHilo⟩) := by
  obtain ⟨hilo, fichero, _, _⟩ := Estado.vistas_sesion here
  obtain ⟨candado, titular⟩ := @Coherente.candado_igual _ _ _ s co i _ ⟨p, r, .conHilo⟩ here nofun nofun
  refine co.sigue here ⟨rfl, rfl, rfl, rfl, rfl, rfl⟩ rfl rfl nofun (co.hilos.take free hilo) ?_
    candado titular (fun _ _ before => .inl before) trivial (fun _ _ _ _ same => same) co.legible
    co.tomas
  have same : Sesion.fichero ⟨p, r, .conHilo⟩ = s.descriptores (.sesion i) := by
    rw [co.ficheros, fichero]
    rfl
  rw [same, Function.update_eq_self]

theorem leerArchivo_creado (archivo : Option Bytes) :
    leerArchivo json uuid root (some (archivo.getD [])) = leerArchivo json uuid root archivo := by
  cases archivo with
  | none => rfl
  | some raw => rfl

theorem Coherente.abre {s : Estado} (co : Coherente json uuid root s) {i : Nat} {p : Proceso}
    {r : Bool} (here : s.sesiones i = some ⟨p, r, .identificada⟩) :
    Coherente json uuid root
      (({ s with archivo := some (s.archivo.getD []) }.abre (.sesion i) p).sigue i
        ⟨p, r, .abierta⟩) := by
  obtain ⟨hilo, _, _, _⟩ := Estado.vistas_sesion here
  obtain ⟨candado, titular⟩ := @Coherente.candado_igual _ _ _ s co i _ ⟨p, r, .abierta⟩ here nofun nofun
  obtain ⟨previo, read⟩ := co.legible
  exact co.sigue here ⟨rfl, rfl, rfl, rfl, rfl, rfl⟩ rfl rfl nofun (co.hilos.same hilo.symm) rfl
    candado titular (fun _ _ before => .inl before) trivial
    (fun _ _ _ _ sana => sana.lee (leerArchivo_creado _))
    ⟨previo, (leerArchivo_creado _).trans read⟩ co.tomas

theorem Coherente.bloquea {s : Estado} (co : Coherente json uuid root s) {i : Nat} {p : Proceso}
    {r : Bool} (here : s.sesiones i = some ⟨p, r, .abierta⟩) (free : s.candado = none) :
    Coherente json uuid root
      ({ s with candado := some (.sesion i) }.sigue i ⟨p, r, .bloqueada⟩) := by
  obtain ⟨hilo, fichero, _, _⟩ := Estado.vistas_sesion here
  refine co.sigue here ⟨rfl, rfl, rfl, rfl, rfl, rfl⟩ rfl rfl nofun (co.hilos.same hilo.symm) ?_ ?_ ?_
    (fun _ _ before => .inl before) trivial (fun _ _ _ _ same => same) co.legible co.tomas
  · have same : Sesion.fichero ⟨p, r, .bloqueada⟩ = s.descriptores (.sesion i) := by
      rw [co.ficheros, fichero]
      rfl
    rw [same, Function.update_eq_self]
  · intro o has
    by_cases same : o = .sesion i
    · rw [same]
    · rw [Function.update_of_ne same] at has
      rw [co.candado o has] at free
      cases free
  · intro o same
    obtain rfl := Option.some.inj same
    exact Function.update_self ..

theorem Coherente.clasifica {s : Estado} (co : Coherente json uuid root s) {i : Nat} {p : Proceso}
    {r : Bool} {m : RootLockMetadata} (here : s.sesiones i = some ⟨p, r, .leida (some m)⟩)
    {consulta : Consulta} (truthful : consulta.veraz s.vivos m.pid = true) :
    Coherente json uuid root (s.clasifica root i ⟨p, r, .leida (some m)⟩ m consulta) := by
  have read : leerArchivo json uuid root s.archivo = .ok (some m) := (co.sesiones i _ here).fase
  have known := @checkProcessLiveness_veraz s.vivos m.pid m.processCreateTime consulta
    (leerArchivo_ok read).pid truthful co.procesos.pids
  unfold Estado.clasifica
  dsimp only
  split
  · exact co.igual here rfl rfl rfl rfl rfl nofun (fun _ => rfl) trivial
  · next admitted =>
    refine co.igual here rfl rfl rfl rfl rfl (fun _ => rfl) (fun _ => rfl) ⟨some m, read, ?_⟩
    intro n same _
    obtain rfl := Option.some.inj same
    rcases admiteHeld_ok admitted with ⟨alive, residuo⟩ | ⟨dead, reclaim⟩
    · simp only [isSameProcessStaleRecord, Bool.and_eq_true] at residuo
      exact .inl ⟨residuo.1.2, congrArg some alive⟩
    · exact .inr ⟨reclaim, congrArg some dead, known.2 dead⟩

theorem Procesos.fresca {s : Estado} (procesos : Procesos s) {p : Proceso} (alive : p ∈ s.vivos)
    {sessionId : String} {now : Int} (known : uuid sessionId = some sessionId) (after : 0 < now) :
    Propia uuid root p (fresca root p sessionId now) := by
  obtain ⟨_, pid, createTime⟩ := procesos.usados p alive
  constructor
  · exact ⟨rfl, rfl, known, pid, createTime, after, by simp [FrozenRootLock.fresca], nofun⟩
  · rfl
  · simp [RootLockMetadata.esDe, FrozenRootLock.fresca, cerca_refl]

theorem Coherente.escribe {s : Estado} (co : Coherente json uuid root s) {i : Nat} {p : Proceso}
    {r : Bool} {liveness : Option OwnerLiveness} {duenoVivo : Bool}
    (here : s.sesiones i = some ⟨p, r, .admitida liveness duenoVivo⟩) {m : RootLockMetadata}
    (propia : Propia uuid root p m) {escritura : Escritura}
    (readable : dejaLegible json uuid root s.archivo m escritura = true) :
    Coherente json uuid root
      (s.escribe json i ⟨p, r, .admitida liveness duenoVivo⟩ liveness duenoVivo m escritura) := by
  obtain ⟨hilo, fichero, _, _⟩ := Estado.vistas_sesion here
  have sana : (⟨p, r, s.archivo, liveness, duenoVivo⟩ : Toma).Licita json uuid root :=
    (co.sesiones i _ here).fase
  have tomas : ∀ t ∈ (⟨p, r, s.archivo, liveness, duenoVivo⟩ : Toma) :: s.tomas,
      t.Licita json uuid root := by
    intro t mem
    rcases List.mem_cons.mp mem with rfl | old
    · exact sana
    · exact co.tomas t old
  have otras : ∀ archivo j y, j ≠ i → s.sesiones j = some y → FaseSana json uuid root s.archivo y →
      FaseSana json uuid root archivo y :=
    fun _ _ _ other there _ => .sinCandado (co.solo here rfl there other)
  have abierto : ∀ fase : Fase, fase.tieneFichero = true →
      s.descriptores = Function.update s.descriptores (.sesion i) (Sesion.fichero ⟨p, r, fase⟩) := by
    intro fase open_file
    have same : Sesion.fichero ⟨p, r, fase⟩ = s.descriptores (.sesion i) := by
      rw [co.ficheros, fichero, Sesion.fichero, if_pos open_file]
      rfl
    rw [same, Function.update_eq_self]
  cases escritura with
  | ok =>
    obtain ⟨candado, titular⟩ := @Coherente.candado_igual _ _ _ s co i _ ⟨p, r, .escrita m⟩ here
      (fun _ => rfl) (fun _ => rfl)
    have written : leerArchivo json uuid root (some (serializa json m)) = .ok (some m) :=
      leerArchivo_serializa propia.valida
    exact co.sigue here ⟨rfl, rfl, rfl, rfl, rfl, rfl⟩ rfl rfl nofun (co.hilos.same hilo.symm)
      (abierto _ rfl) candado titular (fun _ _ before => .inl before) ⟨propia, written⟩ (otras _)
      ⟨_, written⟩ tomas
  | falla queda sucio =>
    obtain ⟨candado, titular⟩ := @Coherente.candado_igual _ _ _ s co i _
      ⟨p, r, .deshace .persistencia sucio .desbloquea⟩ here nofun (fun _ => rfl)
    have left : ∃ previo, leerArchivo json uuid root (some queda) = .ok previo := by
      rcases of_decide_eq_true readable with before | new
      · obtain ⟨previo, read⟩ := co.legible
        exact ⟨previo, before.trans read⟩
      · exact ⟨_, new⟩
    exact co.sigue here ⟨rfl, rfl, rfl, rfl, rfl, rfl⟩ rfl rfl nofun (co.hilos.same hilo.symm)
      (abierto _ rfl) candado titular (fun _ _ before => .inl before) trivial (otras _) left tomas

theorem Coherente.acuna {s : Estado} (co : Coherente json uuid root s) {i : Nat} {p : Proceso}
    {r : Bool} {m : RootLockMetadata} (here : s.sesiones i = some ⟨p, r, .escrita m⟩) :
    Coherente json uuid root
      ({ s with activos := Function.update s.activos p (some i) }.sigue i ⟨p, r, .viva m true⟩) := by
  obtain ⟨hilo, fichero, _, _⟩ := Estado.vistas_sesion here
  obtain ⟨candado, titular⟩ := @Coherente.candado_igual _ _ _ s co i _ ⟨p, r, .viva m true⟩ here
    (fun _ => rfl) (fun _ => rfl)
  obtain ⟨propia, read⟩ := (co.sesiones i _ here).fase
  refine co.sigue here ⟨rfl, rfl, rfl, rfl, rfl, rfl⟩ rfl rfl nofun (co.hilos.same hilo.symm) ?_
    candado titular ?_ ⟨propia, fun _ => read⟩ (fun _ _ _ _ same => same) co.legible co.tomas
  · have same : Sesion.fichero ⟨p, r, .viva m true⟩ = s.descriptores (.sesion i) := by
      rw [co.ficheros, fichero]
      rfl
    rw [same, Function.update_eq_self]
  · intro q j active
    rcases update_eq_some.mp active with ⟨rfl, same⟩ | ⟨_, before⟩
    · exact .inr ⟨(Option.some.inj same).symm, r, m, true, rfl⟩
    · exact .inl before

theorem desbloquea_iff {s : Estado} {o o' : Origen} :
    (s.desbloquea o).candado = some o' ↔ o' ≠ o ∧ s.candado = some o' := by
  unfold Estado.desbloquea
  dsimp only
  split
  · next own =>
    simp only [own, Option.some.injEq, reduceCtorEq, false_iff, not_and, ne_eq]
    exact fun other same => other same.symm
  · next other =>
    refine ⟨fun has => ⟨?_, has⟩, And.right⟩
    rintro rfl
    exact other has

/-- Who gives the file lock back does not have it, and the others keep it. -/
theorem Coherente.candado_devuelto {s : Estado} (co : Coherente json uuid root s) (o : Origen) :
    (∀ o', Function.update s.debe o false o' = true → (s.desbloquea o).candado = some o') ∧
      ∀ o', (s.desbloquea o).candado = some o' → Function.update s.puede o false o' = true := by
  constructor
  · intro o' has
    by_cases same : o' = o
    · subst same
      rw [Function.update_self] at has
      cases has
    · rw [Function.update_of_ne same] at has
      exact desbloquea_iff.mpr ⟨same, co.candado o' has⟩
  · intro o' has
    obtain ⟨other, before⟩ := desbloquea_iff.mp has
    rw [Function.update_of_ne other]
    exact co.titular o' before

theorem Coherente.desbloquea {s : Estado} (co : Coherente json uuid root s) {i : Nat} {p : Proceso}
    {r sucio : Bool} {e : LockError}
    (here : s.sesiones i = some ⟨p, r, .deshace e sucio .desbloquea⟩) :
    Coherente json uuid root
      ((s.desbloquea (.sesion i)).sigue i ⟨p, r, .deshace e sucio .cierra⟩) := by
  obtain ⟨hilo, fichero, _, _⟩ := Estado.vistas_sesion here
  obtain ⟨candado, titular⟩ := co.candado_devuelto (.sesion i)
  refine co.sigue here ⟨rfl, rfl, rfl, rfl, rfl, rfl⟩ rfl rfl nofun (co.hilos.same hilo.symm) ?_
    candado titular (fun _ _ before => .inl before) trivial (fun _ _ _ _ same => same) co.legible
    co.tomas
  have same : Sesion.fichero ⟨p, r, .deshace e sucio .cierra⟩ = s.descriptores (.sesion i) := by
    rw [co.ficheros, fichero]
    rfl
  rw [same]
  exact (Function.update_eq_self ..).symm

theorem Coherente.cierra {s : Estado} (co : Coherente json uuid root s) {i : Nat} {p : Proceso}
    {r sucio : Bool} {e : LockError}
    (here : s.sesiones i = some ⟨p, r, .deshace e sucio .cierra⟩) :
    Coherente json uuid root
      ((s.cierra (.sesion i) none).sigue i ⟨p, r, .deshace e sucio .hilo⟩) := by
  obtain ⟨hilo, _, _, _⟩ := Estado.vistas_sesion here
  obtain ⟨candado, titular⟩ := @Coherente.candado_igual _ _ _ s co i _
    ⟨p, r, .deshace e sucio .hilo⟩ here nofun nofun
  exact co.sigue here ⟨rfl, rfl, rfl, rfl, rfl, rfl⟩ rfl rfl nofun (co.hilos.same hilo.symm) rfl
    candado titular (fun _ _ before => .inl before) trivial (fun _ _ _ _ same => same) co.legible
    co.tomas

/-- An acquisition raises with nothing left but perhaps the thread lock, which it gives back. -/
theorem Coherente.fracasa {s : Estado} (co : Coherente json uuid root s) {i : Nat} {x : Sesion}
    (here : s.sesiones i = some x) (acquiring : x.fase.esHandle = false) (closed : x.fichero = none)
    (free : x.fase.puedeCandado = false) {hilos : Proceso → Bool}
    (held : Held hilos (Function.update s.hilo i none)) (e : LockError) :
    Coherente json uuid root ({ s with hilos }.fracasa i e) := by
  obtain ⟨_, fichero, debe, puede⟩ := Estado.vistas_sesion here
  have unlocked : x.fase.tieneCandado = false := by
    obtain ⟨p, r, fase⟩ := x
    cases fase with
    | deshace e sucio queda => rfl
    | _ => exact free
  have other : ∀ j y, s.sesiones j = some y → y.fase.esHandle = true → j ≠ i := by
    rintro j y there is_handle rfl
    obtain rfl := Option.some.inj (here.symm.trans there)
    rw [acquiring] at is_handle
    cases is_handle
  have handle : ∀ j y, s.sesiones j = some y → y.fase.esHandle = true →
      ({ s with hilos }.fracasa i e).sesiones j = some y := by
    intro j y there is_handle
    simp [Estado.fracasa, other j y there is_handle, there]
  constructor
  · exact co.procesos.mismos rfl rfl
  · exact Estado.hilo_pone s i none ▸ held
  · show s.descriptores = (s.pone i none).fichero
    rw [Estado.fichero_pone, Option.bind_none, ← closed, ← fichero, Function.update_eq_self,
      co.ficheros]
  · show ∀ o, (s.pone i none).debe o = true → s.candado = some o
    rw [Estado.debe_pone, Option.any_none, ← unlocked, ← debe, Function.update_eq_self]
    exact co.candado
  · show ∀ o, s.candado = some o → (s.pone i none).puede o = true
    rw [Estado.puede_pone, Option.any_none, ← free, ← puede, Function.update_eq_self]
    exact co.titular
  · intro p j active
    obtain ⟨r, m, a, there⟩ := co.activos p j active
    exact ⟨r, m, a, handle j _ there rfl⟩
  · intro j y there
    obtain ⟨not_here, before⟩ : j ≠ i ∧ s.sesiones j = some y := by
      by_cases same : j = i
      · subst same
        simp [Estado.fracasa] at there
      · exact ⟨same, by simpa [Estado.fracasa, same] using there⟩
    obtain ⟨alive, finished, fase⟩ := co.sesiones j y before
    refine ⟨alive, ?_, fase⟩
    intro done
    exact finished ((List.mem_cons.mp done).resolve_left not_here)
  · intro j c there
    have sana := co.llamadas j c there
    exact sana.mueve sana.vive sana.soltando fun _ => handle c.sesion
  · exact co.unica
  · intro j y m q there owes
    have before : s.sesiones j = some y := by
      by_cases same : j = i
      · subst same
        simp [Estado.fracasa] at there
      · simpa [Estado.fracasa, same] using there
    exact co.deudor j y m q before owes
  · exact co.legible
  · exact co.tomas

/-- Each step of an acquisition. -/
theorem Coherente.pasoSesion {s t : Estado} (co : Coherente json uuid root s) {i : Nat} {x : Sesion}
    (here : s.sesiones i = some x) {a : Accion}
    (allowed : sesionPermitida json uuid root s x a = true)
    (moved : s.pasoSesion json uuid root i x a = some t) : Coherente json uuid root t := by
  have hilo := (Estado.vistas_sesion here).1
  obtain ⟨p, r, fase⟩ := x
  simp only [Estado.pasoSesion] at moved
  split at moved
  · split at moved
    · cases moved
    · next free =>
      obtain rfl := Option.some.inj moved
      exact co.tomaHilo here (Bool.eq_false_iff.mpr free)
  · split at moved
    · obtain rfl := Option.some.inj moved
      exact co.fracasa here rfl rfl rfl (co.hilos.same hilo.symm) _
    · cases moved
  · obtain rfl := Option.some.inj moved
    exact co.igual here rfl rfl rfl rfl rfl nofun nofun trivial
  · obtain rfl := Option.some.inj moved
    exact co.igual here rfl rfl rfl rfl rfl nofun nofun trivial
  · obtain rfl := Option.some.inj moved
    exact co.abre here
  · obtain rfl := Option.some.inj moved
    exact co.igual here rfl rfl rfl rfl rfl nofun nofun trivial
  · split at moved
    · next free =>
      obtain rfl := Option.some.inj moved
      exact co.bloquea here free
    · cases moved
  · obtain rfl := Option.some.inj moved
    exact co.igual here rfl rfl rfl rfl rfl nofun nofun trivial
  · split at moved
    · obtain rfl := Option.some.inj moved
      exact co.igual here rfl rfl rfl rfl rfl nofun (fun _ => rfl) trivial
    · next previo read =>
      obtain rfl := Option.some.inj moved
      exact co.igual here rfl rfl rfl rfl rfl (fun _ => rfl) (fun _ => rfl) read
  · obtain rfl := Option.some.inj moved
    have read : leerArchivo json uuid root s.archivo = .ok none := (co.sesiones i _ here).fase
    exact co.igual here rfl rfl rfl rfl rfl (fun _ => rfl) (fun _ => rfl) ⟨none, read, nofun⟩
  · next m =>
    split at moved
    · next released =>
      obtain rfl := Option.some.inj moved
      have read : leerArchivo json uuid root s.archivo = .ok (some m) := (co.sesiones i _ here).fase
      refine co.igual here rfl rfl rfl rfl rfl (fun _ => rfl) (fun _ => rfl) ⟨some m, read, ?_⟩
      intro n same held
      obtain rfl := Option.some.inj same
      rw [released] at held
      cases held
    · cases moved
  · split at moved
    · next truthful =>
      obtain rfl := Option.some.inj moved
      exact co.clasifica here truthful.2
    · cases moved
  · split at moved
    · next minted =>
      obtain rfl := Option.some.inj moved
      exact co.escribe here (co.procesos.fresca (co.sesiones i _ here).vive minted.1 minted.2) allowed
    · cases moved
  · obtain rfl := Option.some.inj moved
    exact co.acuna here
  · obtain rfl := Option.some.inj moved
    exact co.igual here rfl rfl rfl rfl rfl nofun (fun _ => rfl) trivial
  · obtain rfl := Option.some.inj moved
    exact co.igual here rfl rfl rfl rfl rfl nofun (fun _ => rfl) trivial
  · obtain rfl := Option.some.inj moved
    exact co.igual here rfl rfl rfl rfl rfl nofun (fun _ => rfl) trivial
  · obtain rfl := Option.some.inj moved
    exact co.igual here rfl rfl rfl rfl rfl nofun (fun _ => rfl) trivial
  · obtain rfl := Option.some.inj moved
    exact co.desbloquea here
  · split at moved
    · obtain rfl := Option.some.inj moved
      obtain rfl := of_decide_eq_true allowed
      exact co.cierra here
    · cases moved
  · obtain rfl := Option.some.inj moved
    exact co.fracasa here rfl rfl rfl (co.hilos.give hilo) _
  · cases moved

/-! The calls on a handle -/

/-- What a call that leaves its handle alone does not touch. -/
structure MarcoLlamada (s r : Estado) : Prop where
  sesiones : r.sesiones = s.sesiones
  llamadas : r.llamadas = s.llamadas
  vivos : r.vivos = s.vivos
  usados : r.usados = s.usados
  hilos : r.hilos = s.hilos
  activos : r.activos = s.activos
  archivo : r.archivo = s.archivo
  tomas : r.tomas = s.tomas

theorem MarcoLlamada.rfl {s : Estado} : MarcoLlamada s s :=
  ⟨.refl _, .refl _, .refl _, .refl _, .refl _, .refl _, .refl _, .refl _⟩

/-- A call goes on, or ends, and its handle stays as it is. -/
theorem Coherente.responde {s r : Estado} (co : Coherente json uuid root s) {i : Nat} {c : Llamada}
    (here : s.llamadas i = some c) (marco : MarcoLlamada s r)
    (quiet : ∀ sucio q, c.tarea ≠ .limpia sucio q) (c' : Option Llamada)
    (same : ∀ d, c' = some d → d.sesion = c.sesion ∧ (d.esRelease = true → c.esRelease = true) ∧
      LlamadaSana r d)
    (ficheros : r.descriptores = Function.update s.descriptores (.sonda i)
      (c'.bind Llamada.fichero))
    (candado : ∀ o, Function.update s.debe (.sonda i) (c'.any Llamada.sondea) o = true →
      r.candado = some o)
    (titular : ∀ o, r.candado = some o →
      Function.update s.puede (.sonda i) (c'.any Llamada.sondea) o = true)
    (soltando : ∀ j d, j ≠ i → s.llamadas j = some d → d.esRelease = true → d.sesion ∈ r.soltando)
    (terminadas : ∀ j x, s.sesiones j = some x → j ∈ r.terminadas → j ∈ s.terminadas ∨
      ∃ m, x.fase = .soltada m none) :
    Coherente json uuid root (r.responde i c') := by
  have vistas : r.hilo = s.hilo ∧ r.fichero = s.fichero ∧ r.debe = s.debe ∧ r.puede = s.puede := by
    unfold Estado.hilo Estado.fichero Estado.debe Estado.puede
    rw [marco.sesiones, marco.llamadas]
    exact ⟨.refl _, .refl _, .refl _, .refl _⟩
  obtain ⟨hilo, fichero, debe, puede⟩ := vistas
  have before : ∀ j d, (r.responde i c').llamadas j = some d →
      (j = i ∧ c' = some d) ∨ (j ≠ i ∧ s.llamadas j = some d) := by
    intro j d there
    by_cases at_i : j = i
    · subst at_i
      exact .inl ⟨.refl _, by simpa [Estado.responde] using there⟩
    · exact .inr ⟨at_i, by simpa [Estado.responde, at_i, marco.llamadas] using there⟩
  have release : ∀ j d, (r.responde i c').llamadas j = some d → d.esRelease = true →
      ∃ d', s.llamadas j = some d' ∧ d'.esRelease = true ∧ d'.sesion = d.sesion := by
    intro j d there is_release
    rcases before j d there with ⟨rfl, new⟩ | ⟨_, old⟩
    · obtain ⟨sesion, more, _⟩ := same d new
      exact ⟨c, here, more is_release, sesion.symm⟩
    · exact ⟨d, old, is_release, .refl _⟩
  constructor
  · exact co.procesos.mismos marco.vivos marco.usados
  · exact hilo ▸ marco.hilos ▸ co.hilos
  · exact Estado.fichero_responde r i c' ▸ fichero ▸ co.ficheros ▸ ficheros
  · exact Estado.debe_responde r i c' ▸ debe ▸ candado
  · exact Estado.puede_responde r i c' ▸ puede ▸ titular
  · exact marco.sesiones ▸ marco.activos ▸ co.activos
  · intro j x there
    have at_j : s.sesiones j = some x := marco.sesiones ▸ there
    obtain ⟨alive, finished, fase⟩ := co.sesiones j x at_j
    refine ⟨marco.vivos ▸ alive, ?_, marco.archivo ▸ fase⟩
    intro done
    rcases terminadas j x at_j done with old | new
    · exact finished old
    · exact new
  · intro j d there
    rcases before j d there with ⟨rfl, new⟩ | ⟨other, old⟩
    · have sana := (same d new).2.2
      exact sana.mueve sana.vive sana.soltando fun _ _ at_y _ => at_y
    · have sana := co.llamadas j d old
      refine sana.mueve (marco.vivos ▸ sana.vive) (soltando j d other old) fun _ y at_y _ => ?_
      exact marco.sesiones ▸ at_y
  · intro j k d e first second release_d release_e to_one
    obtain ⟨d', at_j, is_release, sesion⟩ := release j d first release_d
    obtain ⟨e', at_k, is_release', sesion'⟩ := release k e second release_e
    exact co.unica j k d' e' at_j at_k is_release is_release' (by rw [sesion, sesion', to_one])
  · intro j x m q there owes
    obtain ⟨k, d, sucio, at_k, of_j, task⟩ := co.deudor j x m q (marco.sesiones ▸ there) owes
    have other : k ≠ i := by
      rintro rfl
      obtain rfl := Option.some.inj (here.symm.trans at_k)
      exact quiet sucio q task
    exact ⟨k, d, sucio, by simp [Estado.responde, other, marco.llamadas, at_k], of_j, task⟩
  · exact marco.archivo ▸ co.legible
  · exact marco.tomas ▸ co.tomas

theorem Estado.vistas_llamada {s : Estado} {i : Nat} {c : Llamada} (here : s.llamadas i = some c) :
    s.fichero (.sonda i) = c.fichero ∧ s.debe (.sonda i) = c.sondea ∧
      s.puede (.sonda i) = c.sondea := by
  simp [Estado.fichero, Estado.debe, Estado.puede, here]

/-- Between a call without a probe and another one, or none, no resource moves. -/
theorem Coherente.quieta {s : Estado} (co : Coherente json uuid root s) {i : Nat} {c : Llamada}
    (here : s.llamadas i = some c) (quiet : c.sondea = false) (c' : Option Llamada)
    (quiet' : c'.any Llamada.sondea = false) :
    s.descriptores = Function.update s.descriptores (.sonda i) (c'.bind Llamada.fichero) ∧
    (∀ o, Function.update s.debe (.sonda i) (c'.any Llamada.sondea) o = true →
      s.candado = some o) ∧
    ∀ o, s.candado = some o →
      Function.update s.puede (.sonda i) (c'.any Llamada.sondea) o = true := by
  obtain ⟨fichero, debe, puede⟩ := Estado.vistas_llamada here
  have closed : c'.bind Llamada.fichero = c.fichero := by
    cases c' with
    | none => simp [Llamada.fichero, quiet]
    | some d =>
      rw [Option.any_some] at quiet'
      simp [Llamada.fichero, quiet, quiet']
  refine ⟨?_, ?_, ?_⟩
  · rw [closed, ← fichero, co.ficheros, Function.update_eq_self]
  · rw [quiet', ← quiet, ← debe, Function.update_eq_self]
    exact co.candado
  · rw [quiet', ← quiet, ← puede, Function.update_eq_self]
    exact co.titular

/-- A call goes on to another task with what it has. -/
theorem Coherente.avanza {s : Estado} (co : Coherente json uuid root s) {i : Nat} {c : Llamada}
    (here : s.llamadas i = some c) (quiet : c.sondea = false)
    (other : ∀ sucio q, c.tarea ≠ .limpia sucio q) {tarea : Tarea}
    (quiet' : ({ c with tarea } : Llamada).sondea = false)
    (release : ({ c with tarea } : Llamada).esRelease = true → c.esRelease = true)
    (sana : TareaSana s { c with tarea }) :
    Coherente json uuid root (s.avanza i { c with tarea }) := by
  have old := co.llamadas i c here
  obtain ⟨ficheros, candado, titular⟩ := co.quieta here quiet (some { c with tarea })
    (by simpa using quiet')
  refine co.responde here .rfl other _ ?_ ficheros candado titular
    (fun j d _ at_j => (co.llamadas j d at_j).soltando) (fun _ _ _ done => .inl done)
  intro d same
  obtain rfl := Option.some.inj same
  exact ⟨rfl, release, old.vive, sana, fun is_release => old.soltando (release is_release)⟩

/-- A `release` that does not move its handle ends. -/
theorem Coherente.termina {s : Estado} (co : Coherente json uuid root s) {i : Nat} {c : Llamada}
    (here : s.llamadas i = some c) (quiet : c.sondea = false) (release : c.esRelease = true)
    (other : ∀ sucio q, c.tarea ≠ .limpia sucio q) {x : Sesion} {m : RootLockMetadata}
    (there : s.sesiones c.sesion = some x) (done : x.fase = .soltada m none) :
    Coherente json uuid root (s.termina i c) := by
  obtain ⟨ficheros, candado, titular⟩ := co.quieta here quiet none rfl
  refine @Coherente.responde _ _ _ s { s with
    soltando := s.soltando.erase c.sesion
    terminadas := c.sesion :: s.terminadas } co i c here
    ⟨rfl, rfl, rfl, rfl, rfl, rfl, rfl, rfl⟩ other none nofun ficheros candado titular ?_ ?_
  · intro j d not_here at_j is_release
    have distinct : d.sesion ≠ c.sesion := by
      intro to_one
      exact not_here (co.unica j i d c at_j here is_release release to_one)
    exact (List.mem_erase_of_ne distinct).mpr ((co.llamadas j d at_j).soltando is_release)
  · intro j y at_j finished
    rcases List.mem_cons.mp finished with rfl | old
    · obtain rfl := Option.some.inj (there.symm.trans at_j)
      exact .inr ⟨m, done⟩
    · exact .inl old

theorem Coherente.empieza {s : Estado} (co : Coherente json uuid root s) {i : Nat} {k : Nat}
    {p : Proceso} (here : s.llamadas i = some ⟨k, p, .consulta⟩) :
    Coherente json uuid root (s.empieza i ⟨k, p, .consulta⟩) := by
  obtain ⟨x, there, process, handle⟩ := (co.llamadas i _ here).tarea
  obtain ⟨q, r, fase⟩ := x
  unfold Estado.empieza
  rw [there]
  cases fase with
  | viva m a =>
    exact co.avanza here rfl nofun rfl (fun _ => rfl) ⟨_, there, process, m, a, rfl⟩
  | soltada m queda =>
    cases queda with
    | none => exact co.termina here rfl rfl nofun there rfl
    | some queda =>
      -- what is owed is owed by another `release`, and there is none
      obtain ⟨j, d, sucio, at_j, of_k, task⟩ := co.deudor k _ m queda there rfl
      have is_release : d.esRelease = true := by simp [Llamada.esRelease, task]
      obtain rfl := co.unica j i d _ at_j here is_release rfl of_k
      obtain rfl := Option.some.inj (here.symm.trans at_j)
      cases task
  | _ => cases handle

/-- A validation ends, where its probe, if it made one, has given back what it took. -/
theorem Coherente.contesta {s r : Estado} (co : Coherente json uuid root s) {i k : Nat}
    {p : Proceso} {quien : Quien} {v : Validacion}
    (here : s.llamadas i = some ⟨k, p, .valida quien v⟩) (marco : MarcoLlamada s r)
    (soltando : r.soltando = s.soltando) (terminadas : r.terminadas = s.terminadas)
    (ficheros : r.descriptores = Function.update s.descriptores (.sonda i) none)
    (candado : ∀ o, Function.update s.debe (.sonda i) false o = true → r.candado = some o)
    (titular : ∀ o, r.candado = some o → Function.update s.puede (.sonda i) false o = true)
    {tarea : Tarea} (quiet : (⟨k, p, tarea⟩ : Llamada).sondea = false)
    (sana : (EnFase r ⟨k, p, tarea⟩ fun f => ∃ m a, f = .viva m a) → TareaSana r ⟨k, p, tarea⟩) :
    Coherente json uuid root (r.contesta i ⟨k, p, .valida quien v⟩ tarea quien) := by
  have old := co.llamadas i _ here
  have soltar : ∀ j d, j ≠ i → s.llamadas j = some d → d.esRelease = true →
      d.sesion ∈ r.soltando := by
    intro j d _ at_j
    exact soltando ▸ (co.llamadas j d at_j).soltando
  cases quien with
  | assertOwned =>
    exact co.responde here marco nofun none nofun ficheros candado titular soltar
      fun _ _ _ done => .inl (terminadas ▸ done)
  | releaseAjeno => exact old.tarea.elim
  | release =>
    have closed : (some (⟨k, p, tarea⟩ : Llamada)).bind Llamada.fichero = none := by
      simp [Llamada.fichero, quiet]
    have unlocked : (some (⟨k, p, tarea⟩ : Llamada)).any Llamada.sondea = false := by
      simpa using quiet
    refine co.responde here marco nofun (some ⟨k, p, tarea⟩) ?_ (closed ▸ ficheros)
      (unlocked ▸ candado) (unlocked ▸ titular) soltar fun _ _ _ done => .inl (terminadas ▸ done)
    intro d same
    obtain rfl := Option.some.inj same
    obtain ⟨x, there, process, phase⟩ := old.tarea
    refine ⟨rfl, fun _ => rfl, marco.vivos ▸ old.vive, sana ?_, fun _ => soltando ▸ old.soltando rfl⟩
    exact ⟨x, marco.sesiones ▸ there, process, phase⟩

/-- The probe finds the file lock free and takes it. -/
theorem Coherente.sondea {s : Estado} (co : Coherente json uuid root s) {i k : Nat} {p : Proceso}
    {quien : Quien} (here : s.llamadas i = some ⟨k, p, .valida quien .sondea⟩)
    (free : s.candado = none) :
    Coherente json uuid root (({ s with candado := some (.sonda i) }.abre (.sonda i) p).avanza i
      ⟨k, p, .valida quien .sondeado⟩) := by
  have old := co.llamadas i _ here
  refine @Coherente.responde _ _ _ s ({ s with candado := some (.sonda i) }.abre (.sonda i) p) co i
    _ here ⟨rfl, rfl, rfl, rfl, rfl, rfl, rfl, rfl⟩ nofun (some ⟨k, p, .valida quien .sondeado⟩) ?_
    rfl ?_ ?_ (fun j d _ at_j => (co.llamadas j d at_j).soltando) (fun _ _ _ done => .inl done)
  · intro d same
    obtain rfl := Option.some.inj same
    refine ⟨rfl, ?_, old.vive, ?_, ?_⟩
    · cases quien <;> exact fun more => more
    · cases quien with
      | assertOwned => trivial
      | releaseAjeno => exact old.tarea.elim
      | release => exact old.tarea
    · cases quien with
      | assertOwned => exact nofun
      | releaseAjeno => exact old.tarea.elim
      | release => exact fun _ => old.soltando rfl
  · intro o has
    by_cases same : o = .sonda i
    · rw [same]
      rfl
    · rw [Function.update_of_ne same] at has
      rw [co.candado o has] at free
      cases free
  · intro o same
    obtain rfl := Option.some.inj same
    exact Function.update_self ..

/-- A `release` moves its handle, and what it gives back is said resource by resource. -/
theorem Coherente.suelta {s r : Estado} (co : Coherente json uuid root s) {i k : Nat}
    {c : Llamada} {x : Sesion} (x' : Sesion) (c' : Option Llamada) (here : s.llamadas i = some c)
    (to_k : c.sesion = k) (there : s.sesiones k = some x) (is_release : c.esRelease = true) (quiet : c.sondea = false)
    (handle : x.fase.esHandle = true) (own : x'.proceso = x.proceso)
    (sesiones : r.sesiones = s.sesiones) (llamadas : r.llamadas = s.llamadas)
    (vivos : r.vivos = s.vivos) (usados : r.usados = s.usados)
    (hilos : Held r.hilos (Function.update s.hilo k x'.hilo))
    (ficheros : r.descriptores = Function.update s.descriptores (.sesion k) x'.fichero)
    (candado : ∀ o, Function.update s.debe (.sesion k) x'.fase.tieneCandado o = true →
      r.candado = some o)
    (titular : ∀ o, r.candado = some o →
      Function.update s.puede (.sesion k) x'.fase.puedeCandado o = true)
    (activos : ∀ p j, r.activos p = some j → s.activos p = some j ∧
      (j = k → ∃ m a, x'.fase = .viva m a))
    (sana : SesionSana json uuid root r k x')
    (otras : ∀ j y, j ≠ k → s.sesiones j = some y → FaseSana json uuid root s.archivo y →
      FaseSana json uuid root r.archivo y)
    (terminadas : ∀ j, j ≠ k → j ∈ r.terminadas → j ∈ s.terminadas)
    (sigue : ∀ d, c' = some d → d.sesion = k ∧ d.sondea = false ∧
      LlamadaSana (r.pone k (some x')) d)
    (soltando : ∀ j d, j ≠ i → s.llamadas j = some d → d.esRelease = true → d.sesion ∈ r.soltando)
    (deudor : ∀ m q, x'.fase = .soltada m (some q) → ∃ d sucio, c' = some d ∧
      d.tarea = .limpia sucio q)
    (legible : ∃ previo, leerArchivo json uuid root r.archivo = .ok previo)
    (tomas : r.tomas = s.tomas) :
    Coherente json uuid root ((r.pone k (some x')).responde i c') := by
  obtain ⟨at_fichero, at_debe, at_puede⟩ := Estado.vistas_llamada here
  have vistas : r.hilo = s.hilo ∧ r.fichero = s.fichero ∧ r.debe = s.debe ∧ r.puede = s.puede := by
    unfold Estado.hilo Estado.fichero Estado.debe Estado.puede
    rw [sesiones, llamadas]
    exact ⟨rfl, rfl, rfl, rfl⟩
  obtain ⟨hilo, fichero, debe, puede⟩ := vistas
  have closed : c'.bind Llamada.fichero = none := by
    cases c' with
    | none => rfl
    | some d => simp [Llamada.fichero, (sigue d rfl).2.1]
  have unlocked : c'.any Llamada.sondea = false := by
    cases c' with
    | none => rfl
    | some d => simp [(sigue d rfl).2.1]
  have origin : Origen.sesion k ≠ Origen.sonda i := nofun
  have before : ∀ j d, ((r.pone k (some x')).responde i c').llamadas j = some d →
      (j = i ∧ c' = some d) ∨ (j ≠ i ∧ s.llamadas j = some d) := by
    intro j d at_j
    by_cases at_i : j = i
    · subst at_i
      exact .inl ⟨rfl, by simpa [Estado.responde] using at_j⟩
    · exact .inr ⟨at_i, by simpa [Estado.responde, Estado.pone, at_i, llamadas] using at_j⟩
  have release : ∀ j d, ((r.pone k (some x')).responde i c').llamadas j = some d →
      d.esRelease = true → ∃ d', s.llamadas j = some d' ∧ d'.esRelease = true ∧
        d'.sesion = d.sesion := by
    intro j d at_j more
    rcases before j d at_j with ⟨rfl, new⟩ | ⟨_, old⟩
    · exact ⟨c, here, is_release, to_k.trans (sigue d new).1.symm⟩
    · exact ⟨d, old, more, rfl⟩
  have elsewhere : ∀ j y, j ≠ k → s.sesiones j = some y →
      ((r.pone k (some x')).responde i c').sesiones j = some y := by
    intro j y other at_j
    simp [Estado.responde, Estado.pone, other, sesiones, at_j]
  have came : ∀ j y, ((r.pone k (some x')).responde i c').sesiones j = some y →
      (j = k ∧ x' = y) ∨ (j ≠ k ∧ s.sesiones j = some y) := by
    intro j y at_j
    by_cases same : j = k
    · subst same
      exact .inl ⟨rfl, by simpa [Estado.responde, Estado.pone] using at_j⟩
    · exact .inr ⟨same, by simpa [Estado.responde, Estado.pone, same, sesiones] using at_j⟩
  constructor
  · exact co.procesos.mismos vivos usados
  · exact Estado.hilo_pone r k (some x') ▸ hilo ▸ hilos
  · show r.descriptores = ((r.pone k (some x')).responde i c').fichero
    rw [Estado.fichero_responde, Estado.fichero_pone, fichero, closed, ficheros, ← co.ficheros]
    have nothing : s.descriptores (.sonda i) = none := by
      rw [co.ficheros, at_fichero, Llamada.fichero, quiet]
      rfl
    rw [Function.update_comm origin, ← nothing, Function.update_eq_self, Option.bind_some]
  · show ∀ o, ((r.pone k (some x')).responde i c').debe o = true → r.candado = some o
    rw [Estado.debe_responde, Estado.debe_pone, debe, unlocked, ← quiet, ← at_debe,
      Function.update_comm origin, Function.update_eq_self]
    exact candado
  · show ∀ o, r.candado = some o → ((r.pone k (some x')).responde i c').puede o = true
    rw [Estado.puede_responde, Estado.puede_pone, puede, unlocked, ← quiet, ← at_puede,
      Function.update_comm origin, Function.update_eq_self]
    exact titular
  · intro p j active
    obtain ⟨old, still⟩ := activos p j active
    obtain ⟨q, m, a, at_j⟩ := co.activos p j old
    by_cases same : j = k
    · subst same
      obtain ⟨n, b, live⟩ := still rfl
      obtain rfl := Option.some.inj (there.symm.trans at_j)
      obtain ⟨p', q', fase⟩ := x'
      obtain rfl : fase = .viva n b := live
      obtain rfl : p' = p := own
      exact ⟨q', n, b, by simp [Estado.responde, Estado.pone]⟩
    · exact ⟨q, m, a, elsewhere j _ same at_j⟩
  · intro j y at_j
    rcases came j y at_j with ⟨rfl, rfl⟩ | ⟨other, old⟩
    · exact ⟨sana.vive, sana.terminada, sana.fase⟩
    · obtain ⟨alive, finished, fase⟩ := co.sesiones j y old
      exact ⟨vivos ▸ alive, fun done => finished (terminadas j other done),
        otras j y other old fase⟩
  · intro j d at_j
    rcases before j d at_j with ⟨rfl, new⟩ | ⟨other, old⟩
    · have sana := (sigue d new).2.2
      exact sana.mueve sana.vive sana.soltando fun _ _ at_d _ => at_d
    · have sana := co.llamadas j d old
      refine sana.mueve (vivos ▸ sana.vive) (soltando j d other old) ?_
      intro more y at_d _
      refine elsewhere d.sesion y ?_ at_d
      intro same
      exact other (co.unica j i d c old here more is_release (same.trans to_k.symm))
  · intro j l d e first second release_d release_e to_one
    obtain ⟨d', at_j, more, sesion⟩ := release j d first release_d
    obtain ⟨e', at_l, more', sesion'⟩ := release l e second release_e
    exact co.unica j l d' e' at_j at_l more more' (by rw [sesion, sesion', to_one])
  · intro j y m q at_j owes
    rcases came j y at_j with ⟨rfl, rfl⟩ | ⟨other, old⟩
    · obtain ⟨d, sucio, new, task⟩ := deudor m q owes
      exact ⟨i, d, sucio, by simp [Estado.responde, new], (sigue d new).1, task⟩
    · obtain ⟨l, d, sucio, at_l, of_j, task⟩ := co.deudor j y m q old owes
      have not_i : l ≠ i := by
        rintro rfl
        obtain rfl := Option.some.inj (here.symm.trans at_l)
        exact other (of_j.symm.trans to_k)
      exact ⟨l, d, sucio, by simp [Estado.responde, Estado.pone, not_i, llamadas, at_l], of_j, task⟩
  · exact legible
  · exact tomas ▸ co.tomas

theorem Estado.marca_de {s : Estado} {k : Nat} {x : Sesion} (there : s.sesiones k = some x)
    (queda : Option Limpieza) :
    s.marca k queda = s.pone k (some { x with fase := x.fase.suelta queda }) := by
  unfold Estado.marca
  rw [there]
  rfl

/-- The file of a handle stays as it is. -/
theorem Coherente.fichero_igual {s : Estado} (co : Coherente json uuid root s) {k : Nat}
    {x x' : Sesion} (there : s.sesiones k = some x) (same : x'.fichero = x.fichero) :
    s.descriptores = Function.update s.descriptores (.sesion k) x'.fichero := by
  rw [same, ← (Estado.vistas_sesion there).2.1, co.ficheros, Function.update_eq_self]

theorem Coherente.hilo_igual {s : Estado} (co : Coherente json uuid root s) {k : Nat}
    {x x' : Sesion} (there : s.sesiones k = some x) (same : x'.hilo = x.hilo) :
    Held s.hilos (Function.update s.hilo k x'.hilo) :=
  co.hilos.same (same.trans (Estado.vistas_sesion there).1.symm)

theorem Coherente.libera {s : Estado} (co : Coherente json uuid root s) {i k : Nat} {p : Proceso}
    (here : s.llamadas i = some ⟨k, p, .escribe⟩) {now : Int} {escritura : Escritura}
    (allowed : llamadaPermitida json uuid root s ⟨k, p, .escribe⟩ (.libera now escritura) = true) :
    Coherente json uuid root (s.libera json i ⟨k, p, .escribe⟩ now escritura) := by
  have old := co.llamadas i _ here
  obtain ⟨x, there, process, m, a, live⟩ := old.tarea
  obtain ⟨q, r, fase⟩ := x
  obtain rfl : fase = .viva m a := live
  obtain rfl : q = p := process
  have at_k : s.sesiones k = some ⟨q, r, .viva m a⟩ := there
  have sound := co.sesiones k _ at_k
  have propia : Propia uuid root q m := sound.fase.1
  have readable : dejaLegible json uuid root s.archivo (m.liberada now) escritura = true := by
    simpa [llamadaPermitida, at_k] using allowed
  have left : ∃ previo,
      leerArchivo json uuid root (some (escritura.deja json (m.liberada now))) = .ok previo := by
    cases escritura with
    | ok => exact ⟨_, leerArchivo_serializa (propia.valida.liberada now)⟩
    | falla queda sucio =>
      rcases of_decide_eq_true readable with before | new
      · obtain ⟨previo, read⟩ := co.legible
        exact ⟨previo, before.trans read⟩
      · exact ⟨_, new⟩
  obtain ⟨candado, titular⟩ := @Coherente.candado_igual _ _ _ s co k _ ⟨q, r, .viva m false⟩ at_k
    (fun _ => rfl) (fun _ => rfl)
  unfold Estado.libera
  rw [there]
  refine @Coherente.suelta _ _ _ s { s with
    archivo := some (escritura.deja json (m.liberada now)) } co i k _ _ ⟨q, r, .viva m false⟩ _ here
    rfl at_k rfl rfl rfl rfl rfl rfl rfl rfl (co.hilo_igual at_k rfl) (co.fichero_igual at_k rfl)
    candado titular (fun _ _ before => ⟨before, fun _ => ⟨m, false, rfl⟩⟩) ?_
    (fun j y other at_j _ => .sinCandado (co.solo at_k rfl at_j other)) (fun _ _ done => done) ?_
    (fun j d _ at_j => (co.llamadas j d at_j).soltando) nofun left rfl
  · constructor
    · exact sound.vive
    · intro done
      obtain ⟨n, finished⟩ := sound.terminada done
      cases finished
    · exact ⟨propia, nofun⟩
  · intro d same
    obtain rfl := Option.some.inj same
    refine ⟨rfl, rfl, old.vive, ?_, fun _ => old.soltando rfl⟩
    exact ⟨⟨q, r, .viva m false⟩, by simp [Estado.pone], rfl, m, false, rfl⟩

theorem Coherente.finaliza {s : Estado} (co : Coherente json uuid root s) {i k : Nat} {p : Proceso}
    {sucio : Bool} (here : s.llamadas i = some ⟨k, p, .finaliza sucio⟩) :
    Coherente json uuid root (s.finaliza i ⟨k, p, .finaliza sucio⟩ sucio) := by
  have old := co.llamadas i _ here
  obtain ⟨x, there, process, m, a, live⟩ := old.tarea
  obtain ⟨q, r, fase⟩ := x
  obtain rfl : fase = .viva m a := live
  obtain rfl : q = p := process
  have at_k : s.sesiones k = some ⟨q, r, .viva m a⟩ := there
  have sound := co.sesiones k _ at_k
  have open_file : s.descriptores (.sesion k) = some q := by
    rw [co.ficheros, (Estado.vistas_sesion at_k).2.1]
    rfl
  obtain ⟨candado, titular⟩ := @Coherente.candado_igual _ _ _ s co k _
    ⟨q, r, .soltada m (some .desbloquea)⟩ at_k (fun _ => rfl) (fun _ => rfl)
  -- the entry of `_ACTIVE_HANDLES` goes, if it is that of this handle
  obtain ⟨activos, forgets, same⟩ : ∃ activos : Proceso → Option Nat,
      (∀ p' j, activos p' = some j → s.activos p' = some j ∧ j ≠ k) ∧
        (if s.activos q = some k then { s with activos := Function.update s.activos q none } else s)
          = { s with activos } := by
    have owner : ∀ p', s.activos p' = some k → p' = q := by
      intro p' active
      obtain ⟨r', n, b, again⟩ := co.activos p' k active
      have same := Option.some.inj (at_k.symm.trans again)
      exact (congrArg Sesion.proceso same).symm
    by_cases active : s.activos q = some k
    · refine ⟨Function.update s.activos q none, ?_, if_pos active⟩
      intro p' j before
      rcases update_eq_some.mp before with ⟨_, never⟩ | ⟨other, before⟩
      · cases never
      · refine ⟨before, ?_⟩
        rintro rfl
        exact other (owner p' before)
    · refine ⟨s.activos, ?_, if_neg active⟩
      intro p' j before
      refine ⟨before, ?_⟩
      rintro rfl
      obtain rfl := owner p' before
      exact active before
  unfold Estado.finaliza
  dsimp only
  rw [same, open_file, Option.isSome_some, if_pos rfl, @Estado.marca_de { s with activos } k _ at_k]
  refine @Coherente.suelta _ _ _ s { s with activos } co i k _ _
    ⟨q, r, .soltada m (some .desbloquea)⟩ _ here rfl at_k rfl rfl rfl rfl rfl rfl rfl rfl
    (co.hilo_igual at_k rfl) (co.fichero_igual at_k rfl) candado titular ?_ ?_
    (fun _ _ _ _ same => same) (fun _ _ done => done) ?_
    (fun j d _ at_j => (co.llamadas j d at_j).soltando) ?_ co.legible rfl
  · intro p' j active
    obtain ⟨before, other⟩ := forgets p' j active
    exact ⟨before, fun same => absurd same other⟩
  · constructor
    · exact sound.vive
    · intro done
      obtain ⟨n, finished⟩ := sound.terminada done
      cases finished
    · trivial
  · intro d same
    obtain rfl := Option.some.inj same
    refine ⟨rfl, rfl, old.vive, ?_, fun _ => old.soltando rfl⟩
    exact ⟨⟨q, r, .soltada m (some .desbloquea)⟩, by simp [Estado.pone], rfl, m, rfl⟩
  · intro n l owes
    cases owes
    exact ⟨_, sucio, rfl, rfl⟩

/-- The handle that a clean-up is at. -/
theorem Coherente.limpiando {s : Estado} (co : Coherente json uuid root s) {i k : Nat} {p : Proceso}
    {sucio : Bool} {queda : Limpieza} (here : s.llamadas i = some ⟨k, p, .limpia sucio queda⟩) :
    ∃ r m, s.sesiones k = some ⟨p, r, .soltada m (some queda)⟩ ∧ k ∉ s.terminadas := by
  obtain ⟨x, there, process, m, released⟩ := (co.llamadas i _ here).tarea
  obtain ⟨q, r, fase⟩ := x
  obtain rfl : fase = .soltada m (some queda) := released
  obtain rfl : q = p := process
  refine ⟨r, m, there, ?_⟩
  intro done
  obtain ⟨n, finished⟩ := (co.sesiones k _ there).terminada done
  cases finished

theorem Coherente.limpia {s r : Estado} (co : Coherente json uuid root s) {i k : Nat} {p : Proceso}
    {sucio reclaim : Bool} {m : RootLockMetadata} {queda sigue : Limpieza}
    (here : s.llamadas i = some ⟨k, p, .limpia sucio queda⟩)
    (at_k : s.sesiones k = some ⟨p, reclaim, .soltada m (some queda)⟩) (marco : Marco s r)
    (hilos : r.hilos = s.hilos) (activos : r.activos = s.activos) (archivo : r.archivo = s.archivo)
    (tomas : r.tomas = s.tomas)
    (ficheros : r.descriptores = Function.update s.descriptores (.sesion k)
      (Sesion.fichero ⟨p, reclaim, .soltada m (some sigue)⟩))
    (candado : ∀ o, Function.update s.debe (.sesion k)
      (Fase.soltada m (some sigue)).tieneCandado o = true → r.candado = some o)
    (titular : ∀ o, r.candado = some o →
      Function.update s.puede (.sesion k) (Fase.soltada m (some sigue)).puedeCandado o = true) :
    Coherente json uuid root ((r.marca k (some sigue)).avanza i ⟨k, p, .limpia sucio sigue⟩) := by
  have old := co.llamadas i _ here
  have sound := co.sesiones k _ at_k
  rw [@Estado.marca_de r k _ (marco.sesiones ▸ at_k)]
  refine co.suelta ⟨p, reclaim, .soltada m (some sigue)⟩ (some ⟨k, p, .limpia sucio sigue⟩) here rfl
    at_k rfl rfl rfl rfl marco.sesiones marco.llamadas marco.vivos marco.usados ?_ ficheros candado
    titular ?_ ?_ ?_ ?_ ?_ ?_ ?_ ?_ tomas
  · rw [hilos]
    exact co.hilo_igual at_k rfl
  · intro p' j active
    rw [activos] at active
    refine ⟨active, ?_⟩
    rintro rfl
    obtain ⟨r', n, b, again⟩ := co.activos p' j active
    cases at_k.symm.trans again
  · constructor
    · exact marco.vivos ▸ sound.vive
    · intro done
      obtain ⟨n, finished⟩ := sound.terminada (marco.terminadas ▸ done)
      cases finished
    · trivial
  · intro j y _ _ fase
    exact archivo ▸ fase
  · intro j _ done
    exact marco.terminadas ▸ done
  · intro d same
    obtain rfl := Option.some.inj same
    refine ⟨rfl, rfl, marco.vivos ▸ old.vive, ?_, fun _ => marco.soltando ▸ old.soltando rfl⟩
    exact ⟨⟨p, reclaim, .soltada m (some sigue)⟩, by simp [Estado.pone], rfl, m, rfl⟩
  · intro j d _ at_j more
    exact marco.soltando ▸ (co.llamadas j d at_j).soltando more
  · intro n l owes
    cases owes
    exact ⟨_, sucio, rfl, rfl⟩
  · exact archivo ▸ co.legible

/-- The thread lock is the last that a `release` gives back. -/
theorem Coherente.sueltaHilo {s : Estado} (co : Coherente json uuid root s) {i k : Nat} {p : Proceso}
    {sucio : Bool} (here : s.llamadas i = some ⟨k, p, .limpia sucio .hilo⟩) :
    Coherente json uuid root
      (((s.sueltaHilo p).marca k none).termina i ⟨k, p, .limpia sucio .hilo⟩) := by
  obtain ⟨reclaim, m, at_k, _⟩ := co.limpiando here
  have sound := co.sesiones k _ at_k
  obtain ⟨candado, titular⟩ := @Coherente.candado_igual _ _ _ s co k _
    ⟨p, reclaim, .soltada m none⟩ at_k nofun nofun
  have hilo : s.hilo k = some p := (Estado.vistas_sesion at_k).1
  rw [@Estado.marca_de (s.sueltaHilo p) k _ at_k]
  refine @Coherente.suelta _ _ _ s { s.sueltaHilo p with
    soltando := s.soltando.erase k
    terminadas := k :: s.terminadas } co i k _ _ ⟨p, reclaim, .soltada m none⟩ none here rfl at_k rfl
    rfl rfl rfl rfl rfl rfl rfl (co.hilos.give hilo) (co.fichero_igual at_k rfl) candado titular ?_ ?_
    (fun _ _ _ _ same => same) ?_ nofun ?_ nofun co.legible rfl
  · intro p' j active
    refine ⟨active, ?_⟩
    rintro rfl
    obtain ⟨r', n, b, again⟩ := co.activos p' j active
    cases at_k.symm.trans again
  · exact ⟨sound.vive, fun _ => ⟨m, rfl⟩, trivial⟩
  · intro j other done
    exact (List.mem_cons.mp done).resolve_left other
  · intro j d not_i at_j more
    have distinct : d.sesion ≠ k := by
      intro to_k
      exact not_i (co.unica j i d _ at_j here more rfl to_k)
    exact (List.mem_erase_of_ne distinct).mpr ((co.llamadas j d at_j).soltando more)

/-- Each step of a call on a handle. -/
theorem Coherente.pasoLlamada {s t : Estado} (co : Coherente json uuid root s) {i : Nat}
    {c : Llamada} (here : s.llamadas i = some c) {a : Accion}
    (allowed : llamadaPermitida json uuid root s c a = true)
    (moved : s.pasoLlamada json uuid root i c a = some t) : Coherente json uuid root t := by
  have sound := co.llamadas i c here
  obtain ⟨k, p, tarea⟩ := c
  have still : ∀ quien v, tarea = .valida quien v → v ≠ .sondeado →
      (s.descriptores = Function.update s.descriptores (.sonda i) none ∧
      (∀ o, Function.update s.debe (.sonda i) false o = true → s.candado = some o) ∧
      ∀ o, s.candado = some o → Function.update s.puede (.sonda i) false o = true) := by
    rintro quien v rfl none_taken
    refine co.quieta here ?_ none rfl
    cases v with
    | sondeado => exact absurd rfl none_taken
    | _ => rfl
  simp only [Estado.pasoLlamada] at moved
  split at moved
  · obtain rfl := Option.some.inj moved
    exact co.empieza here
  · cases allowed
  · next quien =>
    obtain ⟨ficheros, candado, titular⟩ := still quien .valida rfl nofun
    split at moved
    · obtain rfl := Option.some.inj moved
      refine co.avanza here rfl nofun rfl ?_ ?_
      · cases quien <;> exact fun more => more
      · cases quien with
        | assertOwned => trivial
        | releaseAjeno => exact sound.tarea.elim
        | release => exact sound.tarea
    · obtain rfl := Option.some.inj moved
      exact co.contesta here .rfl rfl rfl ficheros candado titular rfl fun viva => viva
  · next quien =>
    obtain ⟨ficheros, candado, titular⟩ := still quien .valida rfl nofun
    obtain rfl := Option.some.inj moved
    exact co.contesta here .rfl rfl rfl ficheros candado titular rfl fun viva => viva
  · next quien =>
    obtain ⟨ficheros, candado, titular⟩ := still quien .sondea rfl nofun
    split at moved
    · next free =>
      obtain rfl := Option.some.inj moved
      exact co.sondea here free
    · obtain rfl := Option.some.inj moved
      exact co.contesta here .rfl rfl rfl ficheros candado titular rfl fun viva => viva
  · next quien =>
    obtain ⟨ficheros, candado, titular⟩ := still quien .sondea rfl nofun
    obtain rfl := Option.some.inj moved
    exact co.contesta here .rfl rfl rfl ficheros candado titular rfl fun viva => viva
  · next quien =>
    obtain rfl := Option.some.inj moved
    obtain ⟨candado, titular⟩ := co.candado_devuelto (.sonda i)
    exact @Coherente.contesta _ _ _ s ((s.desbloquea (.sonda i)).cierra (.sonda i) none) co i k p
      quien .sondeado here ⟨rfl, rfl, rfl, rfl, rfl, rfl, rfl, rfl⟩ rfl rfl rfl candado titular _ rfl
      fun viva => viva
  · obtain rfl := Option.some.inj moved
    exact co.libera here allowed
  · obtain rfl := Option.some.inj moved
    exact co.finaliza here
  · obtain rfl := Option.some.inj moved
    obtain ⟨reclaim, m, at_k, _⟩ := co.limpiando here
    obtain ⟨candado, titular⟩ := co.candado_devuelto (.sesion k)
    exact co.limpia here at_k ⟨rfl, rfl, rfl, rfl, rfl, rfl⟩ rfl rfl rfl rfl
      (co.fichero_igual at_k rfl) candado titular
  · split at moved
    · obtain rfl := Option.some.inj moved
      obtain rfl := of_decide_eq_true allowed
      obtain ⟨reclaim, m, at_k, _⟩ := co.limpiando here
      obtain ⟨candado, titular⟩ := @Coherente.candado_igual _ _ _ s co k _
        ⟨p, reclaim, .soltada m (some .hilo)⟩ at_k nofun nofun
      exact co.limpia here at_k ⟨rfl, rfl, rfl, rfl, rfl, rfl⟩ rfl rfl rfl rfl rfl candado titular
    · cases moved
  · obtain rfl := Option.some.inj moved
    exact co.sueltaHilo here
  · cases moved

/-! Calls that begin, and processes -/

theorem Coherente.acquire {s : Estado} (co : Coherente json uuid root s) {i : Nat} {p : Proceso}
    (alive : p ∈ s.vivos) (new : s.sesiones i = none) (unused : i ∉ s.terminadas) (r : Bool) :
    Coherente json uuid root (s.sigue i ⟨p, r, .pide⟩) := by
  have vistas : s.hilo i = none ∧ s.fichero (.sesion i) = none ∧ s.debe (.sesion i) = false ∧
      s.puede (.sesion i) = false := by
    simp [Estado.hilo, Estado.fichero, Estado.debe, Estado.puede, new]
  obtain ⟨hilo, fichero, debe, puede⟩ := vistas
  have came : ∀ j y, (s.sigue i ⟨p, r, .pide⟩).sesiones j = some y →
      (j = i ∧ y = ⟨p, r, .pide⟩) ∨ s.sesiones j = some y := by
    intro j y there
    rcases update_eq_some.mp there with ⟨same, at_i⟩ | ⟨_, old⟩
    · exact .inl ⟨same, (Option.some.inj at_i).symm⟩
    · exact .inr old
  have kept : ∀ j y, s.sesiones j = some y → (s.sigue i ⟨p, r, .pide⟩).sesiones j = some y := by
    intro j y there
    refine update_eq_some.mpr (.inr ⟨?_, there⟩)
    rintro rfl
    rw [new] at there
    cases there
  constructor
  · exact co.procesos.mismos rfl rfl
  · exact Estado.hilo_pone s i (some ⟨p, r, .pide⟩) ▸ co.hilos.same hilo.symm
  · show s.descriptores = (s.pone i (some ⟨p, r, .pide⟩)).fichero
    have nothing : (some (⟨p, r, .pide⟩ : Sesion)).bind Sesion.fichero = s.fichero (.sesion i) := by
      rw [fichero]
      rfl
    rw [Estado.fichero_pone, nothing, Function.update_eq_self, co.ficheros]
  · show ∀ o, (s.pone i (some ⟨p, r, .pide⟩)).debe o = true → s.candado = some o
    have nothing : (some (⟨p, r, .pide⟩ : Sesion)).any (fun y => y.fase.tieneCandado) =
        s.debe (.sesion i) := by
      rw [debe]
      rfl
    rw [Estado.debe_pone, nothing, Function.update_eq_self]
    exact co.candado
  · show ∀ o, s.candado = some o → (s.pone i (some ⟨p, r, .pide⟩)).puede o = true
    have nothing : (some (⟨p, r, .pide⟩ : Sesion)).any (fun y => y.fase.puedeCandado) =
        s.puede (.sesion i) := by
      rw [puede]
      rfl
    rw [Estado.puede_pone, nothing, Function.update_eq_self]
    exact co.titular
  · intro q j active
    obtain ⟨u, m, a, there⟩ := co.activos q j active
    exact ⟨u, m, a, kept j _ there⟩
  · intro j y there
    rcases came j y there with ⟨rfl, rfl⟩ | old
    · exact ⟨alive, fun done => absurd done unused, trivial⟩
    · exact ⟨(co.sesiones j y old).vive, (co.sesiones j y old).terminada, (co.sesiones j y old).fase⟩
  · intro j c there
    have sana := co.llamadas j c there
    exact sana.mueve sana.vive sana.soltando fun _ y at_y _ => kept c.sesion y at_y
  · exact co.unica
  · intro j y m q there owes
    rcases came j y there with ⟨rfl, rfl⟩ | old
    · cases owes
    · exact co.deudor j y m q old owes
  · exact co.legible
  · exact co.tomas

/-- A call on a handle begins. If it is a `release`, it is the only one. -/
theorem Coherente.llama {s t : Estado} (co : Coherente json uuid root s) {i k : Nat} {tarea : Tarea}
    {soltando : List Nat} (called : s.llama i k tarea = some t)
    (begins : tarea = .consulta ∧ k ∉ s.soltando ∧ soltando = k :: s.soltando ∨
      tarea = .valida .assertOwned .valida ∧ soltando = s.soltando) :
    Coherente json uuid root { t with soltando } := by
  have quiet : ∀ p, (⟨k, p, tarea⟩ : Llamada).sondea = false := by
    intro p
    rcases begins with ⟨rfl, _⟩ | ⟨rfl, _⟩ <;> rfl
  have more : ∀ j ∈ s.soltando, j ∈ soltando := by
    rcases begins with ⟨_, _, rfl⟩ | ⟨_, rfl⟩
    · exact fun j mem => List.mem_cons_of_mem k mem
    · exact fun j mem => mem
  unfold Estado.llama at called
  split at called
  · next x free there =>
    split at called
    · next handle =>
      obtain rfl := Option.some.inj called
      have at_i : s.fichero (.sonda i) = none ∧ s.debe (.sonda i) = false ∧
          s.puede (.sonda i) = false := by
        simp [Estado.fichero, Estado.debe, Estado.puede, free]
      obtain ⟨fichero, debe, puede⟩ := at_i
      have came : ∀ j c, Function.update s.llamadas i (some ⟨k, x.proceso, tarea⟩) j = some c →
          (j = i ∧ c = ⟨k, x.proceso, tarea⟩) ∨ s.llamadas j = some c := by
        intro j c at_j
        rcases update_eq_some.mp at_j with ⟨same, new⟩ | ⟨_, old⟩
        · exact .inl ⟨same, (Option.some.inj new).symm⟩
        · exact .inr old
      have alone : ∀ j c, s.llamadas j = some c → c.esRelease = true →
          (⟨k, x.proceso, tarea⟩ : Llamada).esRelease = true → c.sesion ≠ k := by
        intro j c at_j more is_release to_k
        rcases begins with ⟨_, nobody, _⟩ | ⟨rfl, _⟩
        · exact nobody (to_k ▸ (co.llamadas j c at_j).soltando more)
        · cases is_release
      constructor
      · exact co.procesos.mismos rfl rfl
      · exact co.hilos
      · show s.descriptores = (s.responde i (some ⟨k, x.proceso, tarea⟩)).fichero
        have nothing : (some (⟨k, x.proceso, tarea⟩ : Llamada)).bind Llamada.fichero =
            s.fichero (.sonda i) := by
          simp [Llamada.fichero, quiet, fichero]
        rw [Estado.fichero_responde, nothing, Function.update_eq_self, co.ficheros]
      · show ∀ o, (s.responde i (some ⟨k, x.proceso, tarea⟩)).debe o = true → s.candado = some o
        rw [Estado.debe_responde, Option.any_some, quiet, ← debe, Function.update_eq_self]
        exact co.candado
      · show ∀ o, s.candado = some o → (s.responde i (some ⟨k, x.proceso, tarea⟩)).puede o = true
        rw [Estado.puede_responde, Option.any_some, quiet, ← puede, Function.update_eq_self]
        exact co.titular
      · exact co.activos
      · intro j y at_j
        exact ⟨(co.sesiones j y at_j).vive, (co.sesiones j y at_j).terminada,
          (co.sesiones j y at_j).fase⟩
      · intro j c at_j
        rcases came j c at_j with ⟨rfl, rfl⟩ | old
        · refine ⟨(co.sesiones k x there).vive, ?_, ?_⟩
          · rcases begins with ⟨rfl, _⟩ | ⟨rfl, _⟩
            · exact ⟨x, there, rfl, handle⟩
            · trivial
          · rcases begins with ⟨rfl, _, rfl⟩ | ⟨rfl, _⟩
            · exact fun _ => List.mem_cons_self
            · exact nofun
        · have sana := co.llamadas j c old
          exact sana.mueve sana.vive (fun is_release => more _ (sana.soltando is_release))
            fun _ _ at_y _ => at_y
      · intro j l c d first second release_c release_d to_one
        rcases came j c first with ⟨rfl, rfl⟩ | old
        · rcases came l d second with ⟨rfl, _⟩ | old'
          · rfl
          · exact absurd to_one.symm (alone l d old' release_d release_c)
        · rcases came l d second with ⟨rfl, rfl⟩ | old'
          · exact absurd to_one (alone j c old release_c release_d)
          · exact co.unica j l c d old old' release_c release_d to_one
      · intro j y m q at_j owes
        obtain ⟨l, c, sucio, at_l, of_j, task⟩ := co.deudor j y m q at_j owes
        refine ⟨l, c, sucio, ?_, of_j, task⟩
        refine update_eq_some.mpr (.inr ⟨?_, at_l⟩)
        rintro rfl
        rw [free] at at_l
        cases at_l
      · exact co.legible
      · exact co.tomas
    · cases called
  · cases called

theorem Coherente.nace {s t : Estado} (co : Coherente json uuid root s) {p : Proceso}
    (born : s.nace p = some t) : Coherente json uuid root t := by
  unfold Estado.nace at born
  split at born
  · next new =>
    obtain ⟨pid, created, free, distinct⟩ := new
    obtain rfl := Option.some.inj born
    have another : ∀ q ∈ s.vivos, q.pid ≠ p.pid := by
      simpa using free
    have other : ∀ q ∈ s.usados, q.pid = p.pid → cerca q.createTime p.createTime ≠ true := by
      intro q mem same near
      exact of_decide_eq_true (List.all_eq_true.mp distinct q mem) ⟨same, near⟩
    constructor
    · constructor
      · intro q mem
        rcases List.mem_cons.mp mem with rfl | old
        · exact ⟨List.mem_cons_self, pid, created⟩
        · obtain ⟨used, rest⟩ := co.procesos.usados q old
          exact ⟨List.mem_cons_of_mem p used, rest⟩
      · intro q mem q' mem' same
        rcases List.mem_cons.mp mem with rfl | old
        · rcases List.mem_cons.mp mem' with rfl | old'
          · rfl
          · exact absurd same.symm (another q' old')
        · rcases List.mem_cons.mp mem' with rfl | old'
          · exact absurd same (another q old)
          · exact co.procesos.pids q old q' old' same
      · intro q mem q' mem' same near
        rcases List.mem_cons.mp mem with rfl | old
        · rcases List.mem_cons.mp mem' with rfl | old'
          · rfl
          · rw [cerca_comm] at near
            exact absurd near (other q' old' same.symm)
        · rcases List.mem_cons.mp mem' with rfl | old'
          · exact absurd near (other q old same)
          · exact co.procesos.distintos q old q' old' same near
    · exact co.hilos
    · exact co.ficheros
    · exact co.candado
    · exact co.titular
    · exact co.activos
    · intro j y there
      obtain ⟨alive, finished, fase⟩ := co.sesiones j y there
      exact ⟨List.mem_cons_of_mem p alive, finished, fase⟩
    · intro j c there
      have sana := co.llamadas j c there
      exact sana.mueve (List.mem_cons_of_mem p sana.vive) sana.soltando fun _ _ at_y _ => at_y
    · exact co.unica
    · exact co.deudor
    · exact co.legible
    · exact co.tomas
  · cases born

theorem tieneFichero_de_candado {fase : Fase} (may : fase.puedeCandado = true) :
    fase.tieneFichero = true := by
  fun_cases Fase.tieneFichero fase <;> first | rfl | cases may

theorem puede_de_tiene {fase : Fase} (has : fase.tieneCandado = true) : fase.puedeCandado = true := by
  fun_cases Fase.puedeCandado fase
  · rfl
  · exact has

theorem filter_bind {α : Type} (proceso : α → Proceso) (f : α → Bool) (p : Proceso) (x : Option α) :
    ((x.filter fun y => proceso y ≠ p).bind fun y => if f y then some (proceso y) else none) =
      (x.bind fun y => if f y then some (proceso y) else none).filter fun q => q ≠ p := by
  cases x with
  | none => rfl
  | some y => by_cases own : proceso y = p <;> cases has : f y <;> simp [Option.filter, own, has]

/-- Who may have the file lock has a file open, and it stays if that of its process does. -/
theorem Coherente.puede_abierto {s : Estado} (co : Coherente json uuid root s) (p : Proceso)
    {o : Origen} (may : s.puede o = true) :
    ∃ q, s.descriptores o = some q ∧ ((s.muere p).puede o = true ↔ q ≠ p) := by
  cases o with
  | sesion j =>
    obtain ⟨y, there, has⟩ := (Option.any_eq_true _ _).mp may
    refine ⟨y.proceso, ?_, ?_⟩
    · rw [co.ficheros, (Estado.vistas_sesion there).2.1, Sesion.fichero,
        if_pos (tieneFichero_de_candado has)]
    · by_cases own : y.proceso = p <;>
        simp [Estado.puede, Estado.muere, there, Option.filter, own, has]
  | sonda j =>
    obtain ⟨c, there, probes⟩ := (Option.any_eq_true _ _).mp may
    refine ⟨c.proceso, ?_, ?_⟩
    · rw [co.ficheros, (Estado.vistas_llamada there).1, Llamada.fichero, if_pos probes]
    · by_cases own : c.proceso = p <;>
        simp [Estado.puede, Estado.muere, there, Option.filter, own, probes]

theorem muere_debe {s : Estado} {p : Proceso} {o : Origen} (has : (s.muere p).debe o = true) :
    s.debe o = true ∧ s.puede o = true ∧ (s.muere p).puede o = true := by
  have still : (s.muere p).puede o = true := by
    cases o with
    | sesion j =>
      obtain ⟨y, there, holds⟩ := (Option.any_eq_true _ _).mp has
      exact (Option.any_eq_true _ _).mpr ⟨y, there, puede_de_tiene holds⟩
    | sonda j => exact has
  cases o with
  | sesion j =>
    obtain ⟨y, there, holds⟩ := (Option.any_eq_true _ _).mp has
    have old := (Option.filter_eq_some_iff.mp there).1
    exact ⟨(Option.any_eq_true _ _).mpr ⟨y, old, holds⟩,
      (Option.any_eq_true _ _).mpr ⟨y, old, puede_de_tiene holds⟩, still⟩
  | sonda j =>
    obtain ⟨c, there, probes⟩ := (Option.any_eq_true _ _).mp has
    have old := (Option.filter_eq_some_iff.mp there).1
    exact ⟨(Option.any_eq_true _ _).mpr ⟨c, old, probes⟩,
      (Option.any_eq_true _ _).mpr ⟨c, old, probes⟩, still⟩

theorem Coherente.muere {s : Estado} (co : Coherente json uuid root s) (p : Proceso) :
    Coherente json uuid root (s.muere p) := by
  have sesion : ∀ j y, (s.muere p).sesiones j = some y ↔ s.sesiones j = some y ∧ y.proceso ≠ p := by
    intro j y
    simp [Estado.muere, Option.filter_eq_some_iff]
  have llamada : ∀ j c, (s.muere p).llamadas j = some c ↔
      s.llamadas j = some c ∧ c.proceso ≠ p := by
    intro j c
    simp [Estado.muere, Option.filter_eq_some_iff]
  have hilo : (s.muere p).hilo = fun i => (s.hilo i).filter fun q => q ≠ p := by
    funext j
    exact filter_bind Sesion.proceso (fun y => y.fase.tieneHilo) p _
  have fichero : (s.muere p).fichero = fun o => (s.fichero o).filter fun q => q ≠ p := by
    funext o
    cases o with
    | sesion j => exact filter_bind Sesion.proceso (fun y => y.fase.tieneFichero) p _
    | sonda j => exact filter_bind Llamada.proceso Llamada.sondea p _
  have lock : ∀ o q, s.descriptores o = some q → ((s.muere p).candado = some o ↔
      s.candado = some o ∧ q ≠ p) := by
    intro o q open_file
    simp [Estado.muere, Option.filter_eq_some_iff, open_file]
  constructor
  · constructor
    · intro q mem
      exact co.procesos.usados q (List.mem_filter.mp mem).1
    · intro q mem q' mem'
      exact co.procesos.pids q (List.mem_filter.mp mem).1 q' (List.mem_filter.mp mem').1
    · exact co.procesos.distintos
  · rw [hilo]
    exact co.hilos.clear p
  · rw [fichero]
    show (fun o => (s.descriptores o).filter fun q => q ≠ p) = _
    rw [co.ficheros]
  · intro o has
    obtain ⟨before, may, still⟩ := muere_debe has
    obtain ⟨q, open_file, stays⟩ := co.puede_abierto p may
    exact (lock o q open_file).mpr ⟨co.candado o before, stays.mp still⟩
  · intro o holds
    have before : s.candado = some o := (Option.filter_eq_some_iff.mp holds).1
    obtain ⟨q, open_file, stays⟩ := co.puede_abierto p (co.titular o before)
    exact stays.mpr ((lock o q open_file).mp holds).2
  · intro q j active
    rcases update_eq_some.mp active with ⟨_, never⟩ | ⟨other, before⟩
    · cases never
    · obtain ⟨r, m, a, there⟩ := co.activos q j before
      exact ⟨r, m, a, (sesion j _).mpr ⟨there, other⟩⟩
  · intro j y there
    obtain ⟨old, other⟩ := (sesion j y).mp there
    obtain ⟨alive, finished, fase⟩ := co.sesiones j y old
    exact ⟨List.mem_filter.mpr ⟨alive, by simpa using other⟩, finished, fase⟩
  · intro j c there
    obtain ⟨old, other⟩ := (llamada j c).mp there
    have sana := co.llamadas j c old
    have kept : c.esRelease = true → ∀ y, s.sesiones c.sesion = some y → y.proceso ≠ p := by
      intro is_release y at_y
      obtain ⟨x, at_x, process⟩ := sana.handle is_release
      obtain rfl := Option.some.inj (at_x.symm.trans at_y)
      exact process ▸ other
    refine sana.mueve (List.mem_filter.mpr ⟨sana.vive, by simpa using other⟩) ?_
      fun is_release y at_y _ => (sesion c.sesion y).mpr ⟨at_y, kept is_release y at_y⟩
    intro is_release
    refine List.mem_filter.mpr ⟨sana.soltando is_release, ?_⟩
    obtain ⟨x, at_x, process⟩ := sana.handle is_release
    simp [at_x, process, other]
  · intro j l c d first second
    exact co.unica j l c d ((llamada j c).mp first).1 ((llamada l d).mp second).1
  · intro j y m q there owes
    obtain ⟨old, other⟩ := (sesion j y).mp there
    obtain ⟨l, c, sucio, at_l, of_j, task⟩ := co.deudor j y m q old owes
    refine ⟨l, c, sucio, (llamada l c).mpr ⟨at_l, ?_⟩, of_j, task⟩
    obtain ⟨x, at_x, process⟩ := (co.llamadas l c at_l).handle (by simp [Llamada.esRelease, task])
    rw [of_j] at at_x
    obtain rfl := Option.some.inj (old.symm.trans at_x)
    exact process ▸ other
  · exact co.legible
  · exact co.tomas

theorem llama_soltando {s t : Estado} {i k : Nat} {tarea : Tarea}
    (called : s.llama i k tarea = some t) : t.soltando = s.soltando := by
  unfold Estado.llama at called
  split at called
  · split at called
    · obtain rfl := Option.some.inj called
      rfl
    · cases called
  · cases called

theorem Coherente.step {s t : Estado} (co : Coherente json uuid root s) {e : Evento}
    (allowed : permitido json uuid root s e = true)
    (moved : FrozenRootLock.step json uuid root s e = some t) : Coherente json uuid root t := by
  cases e with
  | nace p => exact co.nace moved
  | muere p =>
    obtain rfl := Option.some.inj moved
    exact co.muere p
  | acquire i p r =>
    simp only [FrozenRootLock.step] at moved
    split at moved
    · next new =>
      obtain rfl := Option.some.inj moved
      exact co.acquire new.1 new.2.1 new.2.2 r
    · cases moved
  | release i k =>
    obtain ⟨u, called, rfl⟩ := Option.map_eq_some_iff.mp moved
    rw [llama_soltando called]
    exact co.llama called (.inl ⟨rfl, of_decide_eq_true allowed, rfl⟩)
  | assertOwned i k =>
    exact co.llama moved (.inr ⟨rfl, llama_soltando moved⟩)
  | sesion i a =>
    obtain ⟨x, here, moved⟩ := Option.bind_eq_some_iff.mp moved
    exact co.pasoSesion here (by simpa [permitido, here] using allowed) moved
  | llamada i a =>
    obtain ⟨c, here, moved⟩ := Option.bind_eq_some_iff.mp moved
    exact co.pasoLlamada here (by simpa [permitido, here] using allowed) moved

theorem Coherente.inicial : Coherente json uuid root .inicial := by
  constructor
  · exact ⟨nofun, nofun, nofun⟩
  · exact .none
  · funext o
    cases o <;> rfl
  · intro o has
    cases o <;> cases has
  · intro o has
    cases has
  · intro p i active
    cases active
  · intro i x there
    cases there
  · intro i c there
    cases there
  · intro i j c d there
    cases there
  · intro i x m q there
    cases there
  · exact ⟨none, rfl⟩
  · intro t mem
    cases mem

/-! An acquisition that nothing stops -/

theorem run_sesion {s t : Estado} {i : Nat} {x : Sesion} {a : Accion} {es : List Evento}
    (here : s.sesiones i = some x) (moved : s.pasoSesion json uuid root i x a = some t) :
    run (FrozenRootLock.step json uuid root) s (.sesion i a :: es) =
      run (FrozenRootLock.step json uuid root) t es := by
  simp only [run, FrozenRootLock.step, here, Option.bind_some, moved]

/-- The record is of nobody, or of a process without an active handle that is alive. -/
theorem examina {s : Estado} {i : Nat} {p : Proceso} {r : Bool} {previo : Option RootLockMetadata}
    (alive : p ∈ s.vivos) (idle : s.activos p = none)
    (read : leerArchivo json uuid root s.archivo = .ok previo)
    (own : ∀ m, previo = some m → m.phase = .held → m.esDe p = true) :
    ∃ liveness vivo, s.pasoSesion json uuid root i ⟨p, r, .leida previo⟩ (examen p previo) =
      some (s.sigue i ⟨p, r, .admitida liveness vivo⟩) := by
  cases previo with
  | none => exact ⟨none, false, rfl⟩
  | some m =>
    cases phase : m.phase with
    | released =>
      refine ⟨none, false, ?_⟩
      simp [examen, phase, Estado.pasoSesion]
    | held =>
      have suya := own m rfl phase
      simp only [RootLockMetadata.esDe, Bool.and_eq_true, decide_eq_true_eq] at suya
      obtain ⟨pid, near⟩ := suya
      have positive : ¬ m.pid ≤ 0 := by
        have valid := (leerArchivo_ok read).pid
        omega
      have seen : checkProcessLiveness m.pid m.processCreateTime (.visto p.createTime true false) =
          .alive := by
        rw [cerca_comm] at near
        simp [checkProcessLiveness, positive, near]
      have residuo : isSameProcessStaleRecord m root p (s.activos p).isSome = true := by
        simp [isSameProcessStaleRecord, phase, (leerArchivo_ok read).canonical,
          RootLockMetadata.esDe, pid, near, idle]
      have truthful : (Consulta.visto p.createTime true false).veraz s.vivos m.pid = true := by
        simp only [Consulta.veraz, Bool.not_false, Bool.and_true, if_true]
        exact List.any_eq_true.mpr ⟨p, alive, by simp [pid]⟩
      refine ⟨some .alive, estaVivo s.vivos m.pid m.processCreateTime, ?_⟩
      simp only [examen, phase, if_true, Estado.pasoSesion, truthful, and_self, Estado.clasifica,
        seen, residuo]
      rfl

theorem Coherente.noSeBloquea {s : Estado} (co : Coherente json uuid root s) :
    NoSeBloquea json uuid root s := by
  intro p alive done free
  obtain ⟨previo, read⟩ := co.legible
  refine ⟨previo, read, ?_⟩
  intro own i r sessionId now new unused known after
  have no_handle : ∀ j x, s.sesiones j = some x → x.proceso = p → x.fase.tieneHilo = false := by
    intro j x there process
    obtain ⟨m, finished⟩ := (co.sesiones j x there).terminada (done j x there process)
    rw [finished]
    rfl
  have unlocked : s.hilos p = false := by
    refine Bool.eq_false_iff.mpr ?_
    intro taken
    obtain ⟨j, holds⟩ := (co.hilos.taken p).mp taken
    obtain ⟨x, there, mine⟩ := Option.bind_eq_some_iff.mp holds
    unfold Sesion.hilo at mine
    split at mine
    · next has =>
      rw [no_handle j x there (Option.some.inj mine)] at has
      cases has
    · cases mine
  have idle : s.activos p = none := by
    cases active : s.activos p with
    | none => rfl
    | some j =>
      obtain ⟨u, m, a, there⟩ := co.activos p j active
      cases no_handle j _ there rfl
  have here : ∀ (t : Estado) (x : Sesion), (t.sigue i x).sesiones i = some x :=
    fun t x => Function.update_self ..
  have again : leerArchivo json uuid root (some (s.archivo.getD [])) = .ok previo :=
    (leerArchivo_creado _).trans read
  let pide := s.sigue i ⟨p, r, .pide⟩
  let conHilo := { pide with hilos := Function.update s.hilos p true }.sigue i ⟨p, r, .conHilo⟩
  let identificada := conHilo.sigue i ⟨p, r, .identificada⟩
  let abierta := ({ identificada with archivo := some (s.archivo.getD []) }.abre (.sesion i) p).sigue i
    ⟨p, r, .abierta⟩
  let bloqueada := { abierta with candado := some (.sesion i) }.sigue i ⟨p, r, .bloqueada⟩
  let leida := bloqueada.sigue i ⟨p, r, .leida previo⟩
  have called : FrozenRootLock.step json uuid root s (.acquire i p r) = some pide :=
    if_pos ⟨alive, new, unused⟩
  have step1 : pide.pasoSesion json uuid root i ⟨p, r, .pide⟩ .sigue = some conHilo :=
    if_neg (Bool.eq_false_iff.mp unlocked)
  have step2 : conHilo.pasoSesion json uuid root i ⟨p, r, .conHilo⟩ .sigue = some identificada := rfl
  have step3 : identificada.pasoSesion json uuid root i ⟨p, r, .identificada⟩ .sigue =
      some abierta := rfl
  have step4 : abierta.pasoSesion json uuid root i ⟨p, r, .abierta⟩ .sigue = some bloqueada :=
    if_pos free
  have step5 : bloqueada.pasoSesion json uuid root i ⟨p, r, .bloqueada⟩ .sigue = some leida := by
    have known : leerArchivo json uuid root bloqueada.archivo = .ok previo := again
    simp only [Estado.pasoSesion, known]
    rfl
  obtain ⟨liveness, vivo, step6⟩ := @examina json uuid root leida i p r previo alive idle again own
  let m := fresca root p sessionId now
  let admitida := leida.sigue i ⟨p, r, .admitida liveness vivo⟩
  let escrita := ({ admitida with
    archivo := some (serializa json m)
    tomas := ⟨p, r, some (s.archivo.getD []), liveness, vivo⟩ :: s.tomas } : Estado).sigue i
      ⟨p, r, .escrita m⟩
  let viva := { escrita with activos := Function.update s.activos p (some i) }.sigue i
    ⟨p, r, .viva m true⟩
  have step7 : admitida.pasoSesion json uuid root i ⟨p, r, .admitida liveness vivo⟩
      (.escribe sessionId now .ok) = some escrita := if_pos ⟨known, after⟩
  have step8 : escrita.pasoSesion json uuid root i ⟨p, r, .escrita m⟩ .sigue = some viva := rfl
  refine ⟨viva, ?_, here _ _⟩
  rw [adquisicion, run, called, Option.bind_some]
  simp only [List.map_cons, List.map_nil]
  rw [run_sesion (here _ _) step1, run_sesion (here _ _) step2, run_sesion (here _ _) step3,
    run_sesion (here _ _) step4, run_sesion (here _ _) step5, run_sesion (here _ _) step6,
    run_sesion (here _ _) step7, run_sesion (here _ _) step8, run]

/-! Every reachable state -/

theorem Coherente.segura {s : Estado} (co : Coherente json uuid root s) :
    Segura json uuid root s := by
  have gone : ∀ i x, s.sesiones i = some x → i ∈ s.terminadas → ∃ m, x.fase = .soltada m none :=
    fun i x there => (co.sesiones i x there).terminada
  constructor
  · intro i j p q r u m n a b first second
    have held := co.candado (.sesion i) (by simp [Estado.debe, first, Fase.tieneCandado])
    have also := co.candado (.sesion j) (by simp [Estado.debe, second, Fase.tieneCandado])
    rw [held] at also
    exact Origen.sesion.inj (Option.some.inj also)
  · exact co.tomas
  · intro i p r m live
    obtain ⟨propia, read⟩ := (co.sesiones i _ live).fase
    exact ⟨read rfl, propia.held, propia.suya⟩
  · intro i done
    constructor
    · rw [co.ficheros]
      cases there : s.sesiones i with
      | none => simp [Estado.fichero, there]
      | some x =>
        obtain ⟨m, finished⟩ := gone i x there done
        simp [Estado.fichero, there, Sesion.fichero, finished, Fase.tieneFichero]
    · intro holds
      obtain ⟨x, there, may⟩ := (Option.any_eq_true _ _).mp (co.titular _ holds)
      obtain ⟨m, finished⟩ := gone i x there done
      rw [finished] at may
      cases may
    · intro p r m a live
      obtain ⟨n, finished⟩ := gone i _ live done
      cases finished
  · intro p taken
    obtain ⟨i, holds⟩ := (co.hilos.taken p).mp taken
    obtain ⟨x, there, mine⟩ := Option.bind_eq_some_iff.mp holds
    unfold Sesion.hilo at mine
    split at mine
    · next has =>
      refine ⟨i, x, there, Option.some.inj mine, ?_, ?_⟩
      · intro waits
        rw [waits] at has
        cases has
      · intro done
        obtain ⟨m, finished⟩ := gone i x there done
        rw [finished] at has
        cases has
    · cases mine
  · exact co.noSeBloquea

end

/-- The root lock in every run whose steps are all permitted. -/
theorem exclusion_segura (json : Json) (uuid : String → Option String) (root : CanonicalRoot)
    {s : Estado} (reached : Reaches (step json uuid root) (· = .inicial)
      (permitido json uuid root · ·) s) : Segura json uuid root s := by
  have co : Coherente json uuid root s := reached.invariant (fun _ first => first ▸ .inicial)
    fun _ _ _ sound allowed moved => sound.step allowed moved
  exact co.segura

/-! An owner that dies, and a `release` that does not learn that its process is the owner -/

def rootMods : CanonicalRoot := ⟨"/mods/frozen", by decide⟩

def primero : Proceso := ⟨10, 170000001⟩

def segundo : Proceso := ⟨20, 180000001⟩

/-- The first process acquires. -/
def comienzo : List Evento :=
  .nace primero :: .nace segundo :: adquisicion 0 primero false none "a" 200000001

/-- It dies, the second one takes its record over, and cannot write in its `release`. Then
it acquires again. -/
def herencia : List Evento :=
  comienzo ++ ([.muere primero, .acquire 1 segundo true] : List Evento) ++
    ([.sigue, .sigue, .sigue, .sigue, .sigue, .consulta .noSuchProcess,
      .escribe "b" 210000001 .ok, .sigue] : List Accion).map (Evento.sesion 1) ++
    Evento.release 0 1 :: ([.sigue, .sigue, .sigue, .libera 220000001 (.falla (serializa jsonRegistro
      (fresca rootMods segundo "b" 210000001)) false), .sigue, .sigue, .cierra none, .sigue] :
        List Accion).map (Evento.llamada 0) ++
    adquisicion 2 segundo false (some (fresca rootMods segundo "b" 210000001)) "c" 230000001

/-- The handles that are live, those that were given back and how many records were taken. -/
def Estado.resumen (s : Estado) : List Nat × List Nat × Nat :=
  ((List.range 3).filter fun i => (s.sesiones i).any fun x => x.fase.esHandle && x.fase.tieneHilo,
    s.terminadas, s.tomas.length)

theorem lock_heredado : ∃ s, s.resumen = ([2], [1], 3) ∧ Segura jsonRegistro some rootMods s := by
  have done : (run (restricted (step jsonRegistro some rootMods)
      (permitido jsonRegistro some rootMods)) .inicial herencia).map Estado.resumen =
        some ([2], [1], 3) := by
    decide +kernel
  obtain ⟨s, ran, same⟩ := Option.map_eq_some_iff.mp done
  exact ⟨s, same, exclusion_segura jsonRegistro some rootMods (.of_restricted_run (.start rfl) ran)⟩

/-- The handle stays live with all that it has, and a `release` of it has ended. -/
theorem lock_retenido : ¬ ∀ s,
    Reaches (step jsonRegistro some rootMods) (· = .inicial) (fun _ _ => True) s →
      Segura jsonRegistro some rootMods s := by
  intro claim
  have done : (run (step jsonRegistro some rootMods) .inicial
      (comienzo ++ ([.release 0 0, .llamada 0 .falla, .llamada 0 .falla] : List Evento))).map
        (fun s => (s.terminadas, s.candado)) = some ([0], some (.sesion 0)) := by
    decide +kernel
  obtain ⟨s, ran, same⟩ := Option.map_eq_some_iff.mp done
  obtain ⟨finished, locked⟩ := Prod.mk.inj same
  have sound := claim s (.of_run (.start rfl) (fun _ _ => trivial) ran)
  exact (sound.devueltas 0 (by simp [finished])).candado locked

end FrozenRootLock
