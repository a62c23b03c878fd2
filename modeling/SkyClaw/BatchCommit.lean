import SkyClaw.DirectoryRollback
import SkyClaw.TransitionRuns
import Mathlib.Logic.Function.Basic

set_option linter.all false

/-!
`_commit_directory_rollbacks`, in `_dir_rollback.py`: the protectors of a batch are sealed
without yielding, and one tracked task discards their backups, each as `commit` discards
its own. The contexts of all the protectors exit at any moment, and a protector that was
not sealed cleans up as it does alone.
-/
namespace DirectoryRollback
open TransitionRuns

variable {E : Type}

/-- The call to `_commit_directory_rollbacks`. `descarta` is its task at protector `i`,
and `devuelta true` that the call raised `CancelledError`. -/
inductive FaseLote where
  | libre
  | descarta (i : Nat) (resto : List Nat)
  | acabada (interrumpida : Bool)
  | devuelta (cancelada : Bool)
  deriving DecidableEq

/-- `deja` is what anything but a protector does to a target. `ciega` is a presence check
whose `stat` fails in a way that `Path.exists` and `link_kind` take for absence. `cancela`
is a cancellation of the caller, and `cancelaTarea` one of the tracked task itself. -/
inductive EventoLote (E : Type) where
  | deja (i : Nat) (x : Option (Cosa E))
  | sale (i : Nat) (excepcion : Option Bool)
  | sigue (i : Nat) (e : Evento E)
  | confirma (lote : List Nat)
  | descarte (e : Evento E)
  | ciega
  | cancela
  | cancelaTarea
  | hilo (b : Borrado E)
  | despierta
  deriving DecidableEq

/-- A protector is known by its number, so that a batch can name it twice. `hilo` is a
deletion whose task was cancelled. The last four fields are ghost state: what was last
left at each target, the protectors of every batch, those whose discard ended, and how
many cancellations the present call received. -/
structure Lote (E : Type) where
  prot : Nat → Estado E
  fase : FaseLote
  cancelado : Bool
  hilo : Option Nat
  mundo : Nat → Option (Cosa E)
  confirmados : List Nat
  atendidos : List Nat
  recibidas : Nat

/-- Nothing of the protector is running: it is inside its block, or it has exited. -/
def Fase.quieta : Fase → Bool
  | .cuerpo => true
  | .terminado => true
  | _ => false

/-- `_discard_backup` is running for a commit. -/
def Fase.descartando : Fase → Bool
  | .commitMira => true
  | .commitInspecciona _ => true
  | .commitBorra _ => true
  | _ => false

def Lote.pone (s : Lote E) (i : Nat) (p : Estado E) : Lote E :=
  { s with prot := Function.update s.prot i p }

/-- What `_seal_for_commit` does to a protector that is enabled. -/
def Estado.sella (p : Estado E) : Estado E :=
  { p with enabled := false, finalizationCompleted := false, confirmado := true }

/-- The comprehension `sealed`, with the protectors it leaves. -/
def sellaLote (prot : Nat → Estado E) : List Nat → (Nat → Estado E) × List Nat
  | [] => (prot, [])
  | i :: lote =>
    if (prot i).enabled then
      let (despues, sellados) := sellaLote (Function.update prot i (prot i).sella) lote
      (despues, i :: sellados)
    else sellaLote prot lote

/-- The loop of `_discard_all`, from its next protector on. -/
def Lote.siguiente (s : Lote E) : List Nat → Lote E
  | [] => { s with fase := .acabada false }
  | i :: resto => { s.pone i ((s.prot i).va .commitMira) with fase := .descarta i resto }

/-- The state between the seals and the first discard. -/
def Lote.sella (s : Lote E) (lote : List Nat) : Lote E :=
  { s with
    prot := (sellaLote s.prot lote).1
    cancelado := false
    mundo := fun i => if i ∈ (sellaLote s.prot lote).2 then (s.prot i).target else s.mundo i
    confirmados := lote ++ s.confirmados
    recibidas := 0 }

/-- `_commit_directory_rollbacks` up to its first `await`. With nothing sealed it returns. -/
def Lote.confirma (s : Lote E) (lote : List Nat) : Lote E :=
  let sellados := (sellaLote s.prot lote).2
  if sellados = [] then { s.sella lote with fase := .devuelta false }
  else (s.sella lote).siguiente sellados

/-- The protector after one step of its discard, which ends when it is back in `cuerpo`. -/
def Lote.avanza (s : Lote E) (i : Nat) (resto : List Nat) (p : Estado E) : Lote E :=
  let s := s.pone i p
  if p.fase = .cuerpo then { s with atendidos := i :: s.atendidos }.siguiente resto else s

/-- What no step of a discard is: it is shielded, and without a backup path the presence
check asks the file system nothing. -/
def Estado.ajeno (p : Estado E) : Evento E → Bool
  | .cancela => true
  | .falla => p.fase == .commitMira && !p.tieneBackup
  | _ => false

/-- A presence check that took the backup for absent. -/
def Estado.noVe (p : Estado E) : Estado E :=
  { p with finalizationCompleted := true, tieneBackup := false, fase := .cuerpo }

/-- The tracked task is cancelled where it waits. The thread of a deletion goes on. -/
def Lote.cancelaTarea (s : Lote E) (i : Nat) : Lote E :=
  { s.pone i ((s.prot i).va .cuerpo) with
    fase := .acabada true
    hilo := match (s.prot i).fase with
      | .commitBorra _ => some i
      | _ => s.hilo }

def Lote.cancela (s : Lote E) : Lote E :=
  { s with cancelado := true, recibidas := s.recibidas + 1 }

/-- An `__aexit__`. It returns at once where the protector is not enabled. -/
def Lote.sale (s : Lote E) (i : Nat) (excepcion : Option Bool) : Option (Lote E) :=
  if ¬ (s.prot i).enabled then some s
  else if (s.prot i).fase.quieta then (cuerpo (s.prot i) (.acaba excepcion)).map (s.pone i)
  else none

/-- One more step of an `__aexit__` that is cleaning up. -/
def Lote.sigue (s : Lote E) (i : Nat) (e : Evento E) : Option (Lote E) :=
  if (s.prot i).fase.quieta || (s.prot i).fase.descartando then none
  else (paso (s.prot i) e).map (s.pone i)

/-- A commit is called where no context of its batch is entering or exiting. -/
def Lote.admite (s : Lote E) (lote : List Nat) : Bool :=
  (match s.fase with
    | .libre => true
    | .devuelta _ => true
    | _ => false) && lote.all fun i => (s.prot i).fase.quieta

def pasoLote (s : Lote E) : EventoLote E → Option (Lote E)
  | .deja i x => some { s.pone i { s.prot i with target := x } with
      mundo := Function.update s.mundo i x }
  | .sale i excepcion => s.sale i excepcion
  | .sigue i e => s.sigue i e
  | .confirma lote => if s.admite lote then some (s.confirma lote) else none
  | .descarte e =>
    match s.fase with
    | .descarta i resto =>
      if (s.prot i).ajeno e then none else (paso (s.prot i) e).map (s.avanza i resto)
    | _ => none
  | .ciega =>
    match s.fase with
    | .descarta i resto =>
      if (s.prot i).fase = .commitMira ∧ (s.prot i).tieneBackup then
        some (s.avanza i resto (s.prot i).noVe)
      else none
    | _ => none
  | .cancela =>
    match s.fase with
    | .descarta _ _ => some s.cancela
    | .acabada _ => some s.cancela
    | _ => none
  | .cancelaTarea =>
    match s.fase with
    | .descarta i _ => some (s.cancelaTarea i)
    | _ => none
  | .hilo b =>
    match s.hilo, b with
    | some i, .ok => some { s.pone i { s.prot i with backup := none } with hilo := none }
    | some i, .falla queda => some { s.pone i { s.prot i with backup := queda } with hilo := none }
    | none, _ => none
  | .despierta =>
    match s.fase with
    | .acabada interrumpida => some { s with fase := .devuelta (s.cancelado || interrumpida) }
    | _ => none

/-- The phases that only a protector with a backup path goes through. -/
def Fase.conBackup : Fase → Bool
  | .preflight _ => false
  | .cuerpo => false
  | .commitMira => false
  | .salidaVeto => false
  | .restauraMira => false
  | .restauraBorra _ => false
  | .restauraMiraBackup => false
  | .salidaValida => false
  | .descarteMira => false
  | .terminado => false
  | _ => true

/-- A protector without a backup path left no backup behind. -/
def SinReferencia (p : Estado E) : Prop :=
  p.tieneBackup = false → p.backup = none ∧ p.fase.conBackup = false

/-- Protectors that are inside their block, disabled or not, and no commit yet. -/
structure InicioLote (s : Lote E) : Prop where
  quietas : ∀ i, (s.prot i).fase.quieta = true
  referencias : ∀ i, SinReferencia (s.prot i)
  sinConfirmar : ∀ i, (s.prot i).confirmado = false
  mundo : ∀ i, (s.prot i).target = s.mundo i
  libre : s.fase = .libre
  hilo : s.hilo = none
  confirmados : s.confirmados = []

/-- What a commit promises, at any moment from its call on. -/
structure SinRetorno (s : Lote E) : Prop where
  sellados : ∀ i ∈ s.confirmados, (s.prot i).enabled = false
  sinLimpieza : ∀ i ∈ s.confirmados,
    (s.prot i).fase.quieta = true ∨ (s.prot i).fase.descartando = true
  intactos : ∀ i ∈ s.confirmados, (s.prot i).target = s.mundo i
  referencias : ∀ i ∈ s.confirmados, (s.prot i).tieneBackup = false → (s.prot i).backup = none
  atendidos : ∀ c, s.fase = .devuelta c →
    s.hilo = none ∧ ∀ i ∈ s.confirmados, (s.prot i).confirmado = true → i ∈ s.atendidos
  cancelacion : ∀ c, s.fase = .devuelta c → (c = true ↔ 0 < s.recibidas)

/-- The check of a backup that is there sees it, and nobody cancels the tracked task. -/
def permiteLote (s : Lote E) : EventoLote E → Bool
  | .ciega =>
    match s.fase with
    | .descarta i _ => (s.prot i).backup.isNone
    | _ => true
  | .cancelaTarea => false
  | _ => true

theorem sellaLote_prot (prot : Nat → Estado E) (lote : List Nat) (j : Nat) :
    (sellaLote prot lote).1 j =
      if j ∈ lote ∧ (prot j).enabled = true then (prot j).sella else prot j := by
  induction lote generalizing prot with
  | nil => simp [sellaLote]
  | cons i lote ih =>
    by_cases same : j = i
    · subst same
      by_cases open_ : (prot j).enabled = true
      · simp [sellaLote, open_, ih, Estado.sella]
      · simp [sellaLote, open_, ih]
    · by_cases open_ : (prot i).enabled = true
      · simp [sellaLote, open_, ih, same]
      · simp [sellaLote, open_, ih, same]

theorem mem_sellados (prot : Nat → Estado E) (lote : List Nat) (j : Nat) :
    j ∈ (sellaLote prot lote).2 ↔ j ∈ lote ∧ (prot j).enabled = true := by
  induction lote generalizing prot with
  | nil => simp [sellaLote]
  | cons i lote ih =>
    by_cases same : j = i
    · subst same
      by_cases open_ : (prot j).enabled = true
      · simp [sellaLote, open_]
      · simp [sellaLote, open_, ih]
    · by_cases open_ : (prot i).enabled = true
      · simp [sellaLote, open_, ih, same]
      · simp [sellaLote, open_, ih, same]

section
variable {p q : Estado E} {e : Evento E}

theorem reintenta_marcas {rendido : Estado E} {i : Nat} {otra : Nat → Fase}
    (same : rendido.tieneBackup = p.tieneBackup ∧ rendido.enabled = p.enabled ∧
      rendido.confirmado = p.confirmado) :
    ((p.reintenta i otra rendido).tieneBackup = true ∨
        (p.reintenta i otra rendido).tieneBackup = p.tieneBackup) ∧
      (p.reintenta i otra rendido).enabled = p.enabled ∧
      (p.reintenta i otra rendido).confirmado = p.confirmado := by
  simp only [Estado.reintenta]
  split
  · exact ⟨.inr rfl, rfl, rfl⟩
  · exact ⟨.inr same.1, same.2⟩

theorem cancelaDeshacer_marcas {protegido : Bool} :
    ((p.cancelaDeshacer protegido).tieneBackup = true ∨
        (p.cancelaDeshacer protegido).tieneBackup = p.tieneBackup) ∧
      (p.cancelaDeshacer protegido).enabled = p.enabled ∧
      (p.cancelaDeshacer protegido).confirmado = p.confirmado := by
  cases protegido <;> exact ⟨.inr rfl, rfl, rfl⟩

/-- Only a commit seals a protector or drops its backup path. -/
theorem paso_marcas (outside : p.fase ≠ .cuerpo) (other : p.fase.descartando = false)
    (ran : paso p e = some q) :
    (q.tieneBackup = true ∨ q.tieneBackup = p.tieneBackup) ∧ q.enabled = p.enabled ∧
      q.confirmado = p.confirmado := by
  cases phase : p.fase <;> cases e <;>
    simp only [paso, phase,
      preflight, moviendo, movido, deshacerMiraBackup, deshacerMiraTarget, deshacerRenombra,
      deshacerVuelveABackup, deshacerVuelveATarget, hiloSuelto, cuerpo, commitMira,
      commitInspecciona, commitBorra, salidaVeto, restauraMira, restauraBorra,
      restauraMiraBackup, restauraRenombra, salidaValida, descarteMira, descarteInspecciona,
      descarteSinRegenerar, vacioEnlace, vacioVeto, vacioRmdir, vacioRenombra, descarteVeto,
      descarteBorra, Fase.descartando, reduceCtorEq, not_true_eq_false, ne_eq] at ran outside other <;>
    (try split at ran) <;> (try split at ran) <;> cases ran <;>
    first
      | exact ⟨.inr rfl, rfl, rfl⟩
      | exact ⟨.inl rfl, rfl, rfl⟩
      | exact reintenta_marcas ⟨rfl, rfl, rfl⟩
      | exact cancelaDeshacer_marcas

theorem reintenta_sin {rendido : Estado E} {i : Nat} {otra : Nat → Fase}
    (gone : p.backup = none) (phase : (otra (i + 1)).conBackup = false)
    (given : rendido.backup = none ∧ rendido.fase.conBackup = false) :
    (p.reintenta i otra rendido).backup = none ∧
      (p.reintenta i otra rendido).fase.conBackup = false := by
  simp only [Estado.reintenta]
  split
  · exact ⟨gone, phase⟩
  · exact given

/-- A context without a backup path neither moves its target aside nor finds a backup. -/
theorem paso_sin (outside : p.fase ≠ .cuerpo) (other : p.fase.descartando = false)
    (without : p.tieneBackup = false) (gone : p.backup = none) (phase : p.fase.conBackup = false)
    (ran : paso p e = some q) : q.tieneBackup = true ∨ q.backup = none ∧ q.fase.conBackup = false := by
  obtain ⟨target, backup, tieneBackup, enabled, rollback, finalization, error, fase, previo,
    confirmado, limpia, validada, concedida⟩ := p
  simp only at without gone
  subst without gone
  cases fase <;> cases e <;>
    simp only [paso, Fase.conBackup, Fase.descartando, preflight, cuerpo, salidaVeto, restauraMira,
      restauraBorra, restauraMiraBackup, salidaValida, descarteMira, Bool.false_and,
      Bool.false_eq_true, ↓reduceIte, reduceCtorEq, not_true_eq_false, ne_eq] at ran outside other phase <;>
    (try split at ran) <;> cases ran <;>
    first
      | exact .inl rfl
      | exact .inr ⟨rfl, rfl⟩
      | exact .inr (reintenta_sin rfl rfl ⟨rfl, rfl⟩)

theorem SinReferencia.sigue (h : SinReferencia p) (outside : p.fase ≠ .cuerpo)
    (other : p.fase.descartando = false) (ran : paso p e = some q) : SinReferencia q := by
  intro without
  rcases (paso_marcas outside other ran).1 with had | same
  · rw [without] at had
    cases had
  · rw [without] at same
    obtain ⟨gone, phase⟩ := h same.symm
    rcases paso_sin outside other same.symm gone phase ran with had | left
    · rw [without] at had
      cases had
    · exact left

/-- What a step of a discard leaves of a sealed protector. -/
structure Descartado (p q : Estado E) : Prop where
  target : q.target = p.target
  enabled : q.enabled = p.enabled
  confirmado : q.confirmado = p.confirmado
  referencia : SinReferencia q
  fase : q.fase.descartando = true ∨ q.fase = .cuerpo

theorem descartado_reintenta {i : Nat} {otra : Nat → Fase} (had : p.tieneBackup = true)
    (phase : (otra (i + 1)).descartando = true) :
    Descartado p (p.reintenta i otra (p.va .cuerpo)) := by
  have kept : (p.reintenta i otra (p.va .cuerpo)).tieneBackup = true := by
    simp only [Estado.reintenta]
    split
    · exact had
    · exact had
  constructor
  case referencia =>
    intro without
    rw [kept] at without
    cases without
  all_goals
    simp only [Estado.reintenta]
    split
  case fase.isTrue => exact .inl phase
  case fase.isFalse => exact .inr rfl
  all_goals rfl

theorem descarte_paso (h : SinReferencia p) (busy : p.fase.descartando = true)
    (own : p.ajeno e = false) (ran : paso p e = some q) : Descartado p q := by
  have had : ∀ i, p.fase = .commitInspecciona i ∨ p.fase = .commitBorra i → p.tieneBackup = true := by
    intro i phase
    by_contra without
    have idle := (h (by simpa using without)).2
    rcases phase with phase | phase
    · rw [phase] at idle
      cases idle
    · rw [phase] at idle
      cases idle
  cases phase : p.fase with
  | commitMira =>
    simp only [paso, phase] at ran
    cases e with
    | mira =>
      simp only [commitMira] at ran
      split at ran
      · rename_i there
        cases ran
        refine ⟨rfl, rfl, rfl, ?_, .inl rfl⟩
        intro without
        simp only [Bool.and_eq_true] at there
        rw [Estado.va, there.1] at without
        cases without
      · rename_i absent
        cases ran
        refine ⟨rfl, rfl, rfl, ?_, .inr rfl⟩
        intro _
        refine ⟨?_, rfl⟩
        cases known : p.tieneBackup with
        | false => exact (h known).1
        | true => simpa [known] using absent
    | falla =>
      cases ran
      refine ⟨rfl, rfl, rfl, ?_, .inr rfl⟩
      intro without
      exact ⟨(h without).1, rfl⟩
    | cancela => cases own
    | _ => cases ran
  | commitInspecciona i =>
    simp only [paso, phase] at ran
    have known := had i (.inl phase)
    cases e with
    | mira =>
      cases ran
      refine ⟨rfl, rfl, rfl, ?_, .inl rfl⟩
      intro without
      rw [Estado.va, known] at without
      cases without
    | falla =>
      cases ran
      exact descartado_reintenta known rfl
    | cancela => cases own
    | _ => cases ran
  | commitBorra i =>
    simp only [paso, phase] at ran
    have known := had i (.inr phase)
    cases e with
    | borra b =>
      cases b with
      | ok =>
        cases ran
        exact ⟨rfl, rfl, rfl, fun _ => ⟨rfl, rfl⟩, .inr rfl⟩
      | falla queda =>
        cases ran
        let borrado : Estado E := { p with backup := queda }
        have left : Descartado borrado (borrado.reintenta i .commitBorra (borrado.va .cuerpo)) :=
          descartado_reintenta known rfl
        exact ⟨left.target, left.enabled, left.confirmado, left.referencia, left.fase⟩
    | cancela => cases own
    | _ => cases ran
  | _ =>
    rw [phase] at busy
    cases busy

theorem SinReferencia.paso (h : SinReferencia p) (ran : paso p e = some q) : SinReferencia q := by
  cases busy : p.fase.descartando with
  | true =>
    cases own : p.ajeno e with
    | false => exact (descarte_paso h busy own ran).referencia
    | true =>
      cases phase : p.fase with
      | commitMira =>
        simp only [DirectoryRollback.paso, phase] at ran
        cases e with
        | cancela =>
          cases ran
          exact h
        | falla =>
          cases ran
          exact fun without => ⟨(h without).1, rfl⟩
        | _ => cases own
      | commitInspecciona i =>
        cases e with
        | cancela =>
          simp only [DirectoryRollback.paso, phase] at ran
          cases ran
          exact h
        | _ => simp [Estado.ajeno, phase] at own
      | commitBorra i =>
        cases e with
        | cancela =>
          simp only [DirectoryRollback.paso, phase] at ran
          cases ran
          exact h
        | _ => simp [Estado.ajeno, phase] at own
      | _ =>
        rw [phase] at busy
        cases busy
  | false =>
    by_cases inside : p.fase = .cuerpo
    · simp only [DirectoryRollback.paso, inside] at ran
      have gone : p.tieneBackup = false → p.backup = none := fun without => (h without).1
      cases e with
      | deja x =>
        cases ran
        exact fun without => ⟨gone without, (h without).2⟩
      | commit =>
        simp only [cuerpo] at ran
        split at ran
        · cases ran
          exact fun without => ⟨gone without, rfl⟩
        · cases ran
          exact h
      | acaba excepcion =>
        simp only [cuerpo] at ran
        split at ran
        · cases ran
          exact fun without => ⟨gone without, rfl⟩
        · split at ran
          all_goals
            cases ran
            exact fun without => ⟨gone without, rfl⟩
      | _ => cases ran
    · exact h.sigue inside busy ran

/-- `__aenter__` and the block leave what a batch starts from. -/
theorem referencia_reached {inicial : Option (Cosa E)} {allowed : Estado E → Evento E → Prop}
    (reached : Reaches paso (· = Estado.inicial inicial) allowed p) : SinReferencia p := by
  refine reached.invariant ?_ fun p e q h _ ran => h.paso ran
  intro p first
  subst first
  exact fun _ => ⟨rfl, rfl⟩

end

/-- What holds of each protector, whatever the call is doing. -/
structure Base (s : Lote E) : Prop where
  referencias : ∀ i, SinReferencia (s.prot i)
  quietas : ∀ i, (s.prot i).enabled = false →
    (s.prot i).fase.quieta = true ∨ (s.prot i).fase.descartando = true
  sellados : ∀ i ∈ s.confirmados, (s.prot i).enabled = false
  intactos : ∀ i, (s.prot i).enabled = false → (s.prot i).target = s.mundo i
  cerrados : ∀ i, (s.prot i).confirmado = true → (s.prot i).enabled = false
  hilo : s.hilo = none

/-- Each sealed protector was attended or waits for its turn. -/
def EnCurso (s : Lote E) : Prop :=
  match s.fase with
  | .libre => ∀ j, (s.prot j).confirmado = true → j ∈ s.atendidos
  | .descarta i resto =>
    (s.prot i).fase.descartando = true ∧
      (∀ j ∈ i :: resto, (s.prot j).enabled = false) ∧
      (∀ j, (s.prot j).confirmado = true → j ∈ s.atendidos ∨ j ∈ i :: resto) ∧
      (s.cancelado = true ↔ 0 < s.recibidas)
  | .acabada interrumpida =>
    interrumpida = false ∧ (∀ j, (s.prot j).confirmado = true → j ∈ s.atendidos) ∧
      (s.cancelado = true ↔ 0 < s.recibidas)
  | .devuelta c =>
    (∀ j, (s.prot j).confirmado = true → j ∈ s.atendidos) ∧ (c = true ↔ 0 < s.recibidas)

section
variable {s t : Lote E} {i : Nat} {p : Estado E}

theorem pone_otro {P : Estado E → Prop} (here : P p) (others : ∀ j, P (s.prot j)) (j : Nat) :
    P ((s.pone i p).prot j) := by
  simp only [Lote.pone]
  by_cases same : j = i
  · subst same
    rw [Function.update_self]
    exact here
  · rw [Function.update_of_ne same]
    exact others j

theorem pone_igual {A : Type} (f : Estado E → A) (same : f p = f (s.prot i)) (j : Nat) :
    f ((s.pone i p).prot j) = f (s.prot j) := by
  simp only [Lote.pone]
  by_cases at_ : j = i
  · subst at_
    rw [Function.update_self, same]
  · rw [Function.update_of_ne at_]

theorem Base.pone (h : Base s) (referencia : SinReferencia p)
    (quieta : p.enabled = false → p.fase.quieta = true ∨ p.fase.descartando = true)
    (sellado : (s.prot i).enabled = false → p.enabled = false)
    (intacto : p.enabled = false → p.target = s.mundo i)
    (cerrado : p.confirmado = true → p.enabled = false) : Base (s.pone i p) := by
  refine ⟨pone_otro referencia h.referencias,
    pone_otro (P := fun p => p.enabled = false → p.fase.quieta = true ∨ p.fase.descartando = true)
      quieta h.quietas, ?_, ?_,
    pone_otro (P := fun p => p.confirmado = true → p.enabled = false) cerrado h.cerrados, h.hilo⟩
  · intro j mem
    simp only [Lote.pone]
    by_cases same : j = i
    · subst same
      rw [Function.update_self]
      exact sellado (h.sellados j mem)
    · rw [Function.update_of_ne same]
      exact h.sellados j mem
  · intro j
    simp only [Lote.pone]
    by_cases same : j = i
    · subst same
      rw [Function.update_self]
      exact intacto
    · rw [Function.update_of_ne same]
      exact h.intactos j

/-- A protector may change as it likes while the call has nothing to do with it. -/
theorem EnCurso.pone (h : EnCurso s) (sello : p.enabled = (s.prot i).enabled)
    (marca : p.confirmado = (s.prot i).confirmado)
    (fase : (s.prot i).enabled = false → p.fase = (s.prot i).fase) : EnCurso (s.pone i p) := by
  have marks := pone_igual Estado.confirmado marca
  have seals := pone_igual Estado.enabled sello
  have phases : ∀ j, (s.prot j).enabled = false →
      ((s.pone i p).prot j).fase = (s.prot j).fase := by
    intro j sealed
    simp only [Lote.pone]
    by_cases same : j = i
    · subst same
      rw [Function.update_self, fase sealed]
    · rw [Function.update_of_ne same]
  have at_ : (s.pone i p).fase = s.fase := rfl
  unfold EnCurso at h ⊢
  rw [at_]
  cases phase : s.fase with
  | libre =>
    simp only [phase] at h ⊢
    intro j
    rw [marks j]
    exact h j
  | descarta k resto =>
    simp only [phase] at h ⊢
    obtain ⟨busy, sealed, queue, flag⟩ := h
    refine ⟨?_, ?_, ?_, flag⟩
    · rw [phases k (sealed k (List.mem_cons_self ..))]
      exact busy
    · intro j mem
      rw [seals j]
      exact sealed j mem
    · intro j
      rw [marks j]
      exact queue j
  | acabada x =>
    simp only [phase] at h ⊢
    refine ⟨h.1, ?_, h.2.2⟩
    intro j
    rw [marks j]
    exact h.2.1 j
  | devuelta c =>
    simp only [phase] at h ⊢
    refine ⟨?_, h.2⟩
    intro j
    rw [marks j]
    exact h.1 j

theorem enCurso_siguiente (h : Base s) (resto : List Nat)
    (sealed : ∀ j ∈ resto, (s.prot j).enabled = false)
    (queue : ∀ j, (s.prot j).confirmado = true → j ∈ s.atendidos ∨ j ∈ resto)
    (flag : s.cancelado = true ↔ 0 < s.recibidas) :
    Base (s.siguiente resto) ∧ EnCurso (s.siguiente resto) := by
  cases resto with
  | nil =>
    constructor
    · exact ⟨h.referencias, h.quietas, h.sellados, h.intactos, h.cerrados, h.hilo⟩
    · refine ⟨rfl, ?_, flag⟩
      intro j marked
      rcases queue j marked with done | waiting
      · exact done
      · cases waiting
  | cons i resto =>
    have first := sealed i (List.mem_cons_self ..)
    have moved : Base (s.pone i ((s.prot i).va .commitMira)) :=
      h.pone (fun without => ⟨(h.referencias i without).1, rfl⟩) (fun _ => .inr rfl)
        (fun _ => first) (fun _ => h.intactos i first) (fun _ => first)
    have seals := pone_igual (s := s) (i := i) (p := (s.prot i).va .commitMira) Estado.enabled rfl
    have marks := pone_igual (s := s) (i := i) (p := (s.prot i).va .commitMira) Estado.confirmado rfl
    constructor
    · exact ⟨moved.referencias, moved.quietas, moved.sellados, moved.intactos, moved.cerrados,
        moved.hilo⟩
    · refine ⟨?_, ?_, ?_, flag⟩
      · simp [Lote.siguiente, Lote.pone, Estado.va, Fase.descartando]
      · intro j mem
        exact (seals j).trans (sealed j mem)
      · intro j marked
        exact queue j ((marks j).symm.trans marked)

theorem inv_avanza {resto : List Nat} (h : Base s) (run_ : EnCurso s)
    (at_ : s.fase = .descarta i resto) (left : Descartado (s.prot i) p) :
    Base (s.avanza i resto p) ∧ EnCurso (s.avanza i resto p) := by
  have running := run_
  simp only [EnCurso, at_] at running
  obtain ⟨busy, sealed, queue, flag⟩ := running
  have first := sealed i (List.mem_cons_self ..)
  have closed : p.enabled = false := left.enabled.trans first
  have moved : Base (s.pone i p) := by
    refine h.pone left.referencia ?_ (fun _ => closed) ?_ (fun _ => closed)
    · intro _
      rcases left.fase with more | done
      · exact .inr more
      · rw [done]
        exact .inl rfl
    · intro _
      exact left.target.trans (h.intactos i first)
  have seals := pone_igual Estado.enabled left.enabled
  have marks := pone_igual Estado.confirmado left.confirmado
  simp only [Lote.avanza]
  split
  · refine enCurso_siguiente ?_ resto ?_ ?_ flag
    · exact ⟨moved.referencias, moved.quietas, moved.sellados, moved.intactos, moved.cerrados,
        moved.hilo⟩
    · intro j mem
      exact (seals j).trans (sealed j (List.mem_cons_of_mem _ mem))
    · intro j marked
      rcases queue j ((marks j).symm.trans marked) with done | waiting
      · exact .inl (List.mem_cons_of_mem _ done)
      · rcases List.mem_cons.mp waiting with same | later
        · rw [same]
          exact .inl (List.mem_cons_self ..)
        · exact .inr later
  · rename_i more
    refine ⟨moved, ?_⟩
    have still : (s.pone i p).fase = .descarta i resto := at_
    simp only [EnCurso, still]
    refine ⟨?_, ?_, ?_, flag⟩
    · simp only [Lote.pone, Function.update_self]
      exact left.fase.resolve_right more
    · intro j mem
      exact (seals j).trans (sealed j mem)
    · intro j marked
      exact queue j ((marks j).symm.trans marked)

theorem confirmados_atendidos (run_ : EnCurso s)
    (idle : s.fase = .libre ∨ ∃ c, s.fase = .devuelta c) :
    ∀ j, (s.prot j).confirmado = true → j ∈ s.atendidos := by
  unfold EnCurso at run_
  rcases idle with at_ | ⟨c, at_⟩
  · simp only [at_] at run_
    exact run_
  · simp only [at_] at run_
    exact run_.1

theorem Base.sella {lote : List Nat} (h : Base s)
    (calm : ∀ i ∈ lote, (s.prot i).fase.quieta = true) : Base (s.sella lote) := by
  have sealed := sellaLote_prot s.prot lote
  constructor
  case referencias =>
    intro j
    simp only [Lote.sella, sealed]
    split
    · exact h.referencias j
    · exact h.referencias j
  case quietas =>
    intro j closed
    simp only [Lote.sella, sealed] at closed ⊢
    split
    · rename_i now
      exact .inl (calm j now.1)
    · rename_i before
      rw [if_neg before] at closed
      exact h.quietas j closed
  case sellados =>
    intro j mem
    simp only [Lote.sella, sealed]
    split
    · rfl
    · rename_i before
      rcases List.mem_append.mp mem with here | earlier
      · simpa [here] using before
      · exact h.sellados j earlier
  case intactos =>
    intro j closed
    simp only [Lote.sella, sealed, mem_sellados] at closed ⊢
    split
    · rfl
    · rename_i before
      rw [if_neg before] at closed
      exact h.intactos j closed
  case cerrados =>
    intro j marked
    simp only [Lote.sella, sealed] at marked ⊢
    split
    · rfl
    · rename_i before
      rw [if_neg before] at marked
      exact h.cerrados j marked
  case hilo => exact h.hilo

theorem inv_confirma {lote : List Nat} (h : Base s) (run_ : EnCurso s)
    (admitted : s.admite lote = true) : Base (s.confirma lote) ∧ EnCurso (s.confirma lote) := by
  simp only [Lote.admite, Bool.and_eq_true, List.all_eq_true] at admitted
  have idle : s.fase = .libre ∨ ∃ c, s.fase = .devuelta c := by
    cases phase : s.fase with
    | libre => exact .inl rfl
    | devuelta c => exact .inr ⟨c, rfl⟩
    | _ => simp [phase] at admitted
  have earlier := confirmados_atendidos run_ idle
  have sealed := h.sella admitted.2
  have prot_ := sellaLote_prot s.prot lote
  have queue : ∀ j, ((s.sella lote).prot j).confirmado = true →
      j ∈ s.atendidos ∨ j ∈ (sellaLote s.prot lote).2 := by
    intro j marked
    rw [mem_sellados]
    simp only [Lote.sella, prot_] at marked
    split at marked
    · rename_i now
      exact .inr now
    · exact .inl (earlier j marked)
  simp only [Lote.confirma]
  split
  · rename_i none_
    constructor
    · exact ⟨sealed.referencias, sealed.quietas, sealed.sellados, sealed.intactos, sealed.cerrados,
        sealed.hilo⟩
    · refine ⟨?_, ⟨nofun, nofun⟩⟩
      intro j marked
      rcases queue j marked with done | waiting
      · exact done
      · rw [none_] at waiting
        cases waiting
  · refine enCurso_siguiente sealed _ ?_ queue ⟨nofun, nofun⟩
    intro j mem
    rw [mem_sellados] at mem
    simp only [Lote.sella, prot_, if_pos mem]
    rfl

/-- An exit that is not sealed concerns no commit. -/
theorem inv_propio (h : Base s) (run_ : EnCurso s) (open_ : (s.prot i).enabled = true)
    (same : p.enabled = (s.prot i).enabled) (mark : p.confirmado = (s.prot i).confirmado)
    (referencia : SinReferencia p) : Base (s.pone i p) ∧ EnCurso (s.pone i p) := by
  have still : p.enabled = true := same.trans open_
  constructor
  · refine h.pone referencia ?_ ?_ ?_ ?_
    · intro closed
      rw [still] at closed
      cases closed
    · intro closed
      rw [open_] at closed
      cases closed
    · intro closed
      rw [still] at closed
      cases closed
    · intro marked
      exact same.trans (h.cerrados i (mark.symm.trans marked))
  · refine run_.pone same mark ?_
    intro closed
    rw [open_] at closed
    cases closed

theorem inv_sale {excepcion : Option Bool} (h : Base s) (run_ : EnCurso s)
    (moved : s.sale i excepcion = some t) : Base t ∧ EnCurso t := by
  simp only [Lote.sale] at moved
  split at moved
  · cases moved
    exact ⟨h, run_⟩
  · rename_i open_
    have open_ : (s.prot i).enabled = true := by simpa using open_
    split at moved
    · obtain ⟨p, exits, rfl⟩ := Option.map_eq_some_iff.mp moved
      simp only [cuerpo, open_, not_true_eq_false, ↓reduceIte] at exits
      cases excepcion with
      | none =>
        cases exits
        exact inv_propio h run_ open_ open_.symm rfl fun without => ⟨(h.referencias i without).1, rfl⟩
      | some prohibe =>
        cases prohibe with
        | true =>
          cases exits
          exact inv_propio h run_ open_ rfl rfl fun without => ⟨(h.referencias i without).1, rfl⟩
        | false =>
          cases exits
          exact inv_propio h run_ open_ rfl rfl fun without => ⟨(h.referencias i without).1, rfl⟩
    · cases moved

theorem inv_sigue {e : Evento E} (h : Base s) (run_ : EnCurso s)
    (moved : s.sigue i e = some t) : Base t ∧ EnCurso t := by
  simp only [Lote.sigue] at moved
  split at moved
  · cases moved
  · rename_i apart
    simp only [Bool.or_eq_true, not_or, Bool.not_eq_true] at apart
    obtain ⟨p, ran, rfl⟩ := Option.map_eq_some_iff.mp moved
    have outside : (s.prot i).fase ≠ .cuerpo := by
      intro at_
      rw [at_] at apart
      cases apart.1
    have open_ : (s.prot i).enabled = true := by
      by_contra closed
      rcases h.quietas i (by simpa using closed) with idle | busy
      · rw [apart.1] at idle
        cases idle
      · rw [apart.2] at busy
        cases busy
    obtain ⟨_, same, mark⟩ := paso_marcas outside apart.2 ran
    exact inv_propio h run_ open_ same mark ((h.referencias i).sigue outside apart.2 ran)

theorem inv_deja (h : Base s) (run_ : EnCurso s) (i : Nat) (x : Option (Cosa E)) :
    Base { s.pone i { s.prot i with target := x } with mundo := Function.update s.mundo i x } ∧
      EnCurso { s.pone i { s.prot i with target := x } with mundo := Function.update s.mundo i x } := by
  have seals := pone_igual (s := s) (i := i) (p := { s.prot i with target := x }) Estado.enabled rfl
  have changed : EnCurso (s.pone i { s.prot i with target := x }) :=
    run_.pone rfl rfl fun _ => rfl
  refine ⟨⟨?_, ?_, ?_, ?_, ?_, h.hilo⟩, changed⟩
  · exact pone_otro (h.referencias i) h.referencias
  · exact pone_otro (P := fun p => p.enabled = false → p.fase.quieta = true ∨ p.fase.descartando = true)
      (h.quietas i) h.quietas
  · intro j mem
    exact (seals j).trans (h.sellados j mem)
  · intro j closed
    have before := h.intactos j ((seals j).symm.trans closed)
    simp only [Lote.pone]
    by_cases same : j = i
    · subst same
      simp
    · simp [Function.update_of_ne same, before]
  · exact pone_otro (P := fun p => p.confirmado = true → p.enabled = false) (h.cerrados i) h.cerrados

theorem inv_cancela (h : Base s) (run_ : EnCurso s)
    (waits : (∃ i resto, s.fase = .descarta i resto) ∨ ∃ x, s.fase = .acabada x) :
    Base s.cancela ∧ EnCurso s.cancela := by
  refine ⟨⟨h.referencias, h.quietas, h.sellados, h.intactos, h.cerrados, h.hilo⟩, ?_⟩
  unfold EnCurso at run_ ⊢
  rcases waits with ⟨i, resto, at_⟩ | ⟨x, at_⟩
  · simp only [at_] at run_
    simp only [Lote.cancela, at_]
    exact ⟨run_.1, run_.2.1, run_.2.2.1, fun _ => Nat.succ_pos _, fun _ => trivial⟩
  · simp only [at_] at run_
    simp only [Lote.cancela, at_]
    exact ⟨run_.1, run_.2.1, fun _ => Nat.succ_pos _, fun _ => trivial⟩

theorem descartado_noVe (gone : p.backup = none) : Descartado p p.noVe :=
  ⟨rfl, rfl, rfl, fun _ => ⟨gone, rfl⟩, .inr rfl⟩

theorem inv_pasoLote {e : EventoLote E} (h : Base s) (run_ : EnCurso s)
    (ok : permiteLote s e = true) (moved : pasoLote s e = some t) : Base t ∧ EnCurso t := by
  cases e with
  | deja i x =>
    cases moved
    exact inv_deja h run_ i x
  | sale i excepcion => exact inv_sale h run_ moved
  | sigue i e => exact inv_sigue h run_ moved
  | confirma lote =>
    simp only [pasoLote] at moved
    split at moved
    · rename_i admitted
      cases moved
      exact inv_confirma h run_ admitted
    · cases moved
  | descarte e =>
    simp only [pasoLote] at moved
    split at moved
    · rename_i i resto at_
      split at moved
      · cases moved
      · rename_i own
        obtain ⟨p, ran, rfl⟩ := Option.map_eq_some_iff.mp moved
        have running := run_
        simp only [EnCurso, at_] at running
        exact inv_avanza h run_ at_ (descarte_paso (h.referencias i) running.1 (by simpa using own) ran)
    · cases moved
  | ciega =>
    simp only [pasoLote] at moved
    split at moved
    · rename_i i resto at_
      split at moved
      · cases moved
        simp only [permiteLote, at_, Option.isNone_iff_eq_none] at ok
        exact inv_avanza h run_ at_ (descartado_noVe ok)
      · cases moved
    · cases moved
  | cancela =>
    simp only [pasoLote] at moved
    split at moved
    · rename_i i resto at_
      cases moved
      exact inv_cancela h run_ (.inl ⟨i, resto, at_⟩)
    · rename_i x at_
      cases moved
      exact inv_cancela h run_ (.inr ⟨x, at_⟩)
    · cases moved
  | cancelaTarea => cases ok
  | hilo b =>
    simp only [pasoLote, h.hilo] at moved
    cases moved
  | despierta =>
    simp only [pasoLote] at moved
    split at moved
    · rename_i x at_
      cases moved
      simp only [EnCurso, at_] at run_
      refine ⟨⟨h.referencias, h.quietas, h.sellados, h.intactos, h.cerrados, h.hilo⟩, run_.2.1, ?_⟩
      rw [run_.1, Bool.or_false]
      exact run_.2.2
    · cases moved

end

/-- Once a commit is entered no protector of its batch restores anything or touches its
target, and the call ends when all the discards have, in every run whose presence checks
see the backups that are there and whose tracked task nobody cancels. -/
theorem lote_sinRetorno {s : Lote E}
    (reached : Reaches pasoLote InicioLote (fun s e => permiteLote s e = true) s) : SinRetorno s := by
  have inv : Base s ∧ EnCurso s := by
    refine reached.invariant ?_ fun s e t inv ok moved => inv_pasoLote inv.1 inv.2 ok moved
    intro s first
    constructor
    · refine ⟨first.referencias, fun i _ => .inl (first.quietas i), ?_, fun i _ => first.mundo i, ?_,
        first.hilo⟩
      · intro i mem
        rw [first.confirmados] at mem
        cases mem
      · intro i marked
        rw [first.sinConfirmar i] at marked
        cases marked
    · simp only [EnCurso, first.libre]
      intro i marked
      rw [first.sinConfirmar i] at marked
      cases marked
  obtain ⟨base, run_⟩ := inv
  constructor
  case sellados => exact base.sellados
  case sinLimpieza =>
    intro i mem
    exact base.quietas i (base.sellados i mem)
  case intactos =>
    intro i mem
    exact base.intactos i (base.sellados i mem)
  case referencias =>
    intro i _ without
    exact (base.referencias i without).1
  case atendidos =>
    intro c at_
    simp only [EnCurso, at_] at run_
    exact ⟨base.hilo, fun i _ marked => run_.1 i marked⟩
  case cancelacion =>
    intro c at_
    simp only [EnCurso, at_] at run_
    exact run_.2

/-- A context inside its block, with its old tree set aside. -/
def apartado (viejo nuevo : Cosa E) : Estado E :=
  { Estado.inicial (some nuevo) with
    backup := some viejo
    tieneBackup := true
    rollbackCompleted := false
    finalizationCompleted := false
    fase := .cuerpo
    previo := some viejo }

/-- The run of a tool with as many outputs as one likes, none of them disabled. -/
def Lote.inicial (prot : Nat → Estado E) : Lote E where
  prot
  fase := .libre
  cancelado := false
  hilo := none
  mundo := fun i => (prot i).target
  confirmados := []
  atendidos := []
  recibidas := 0

def salidas : Lote Nat := .inicial fun i => apartado (.arbol [i]) (.arbol [i + 10])

theorem salidas_inicio : InicioLote salidas := by
  constructor
  case referencias =>
    intro i without
    cases without
  all_goals intros; rfl

/-- The first backup cannot be deleted, the caller is cancelled twice, and the block of
every context then ends with an exception. The third context is in no batch. -/
def confirmaDos : List (EventoLote Nat) :=
  [.confirma [0, 1, 0], .descarte .mira, .descarte .mira, .cancela,
    .descarte (.borra (.falla (some (.arbol [0])))), .descarte (.borra (.falla (some (.arbol [0])))),
    .descarte (.borra (.falla (some (.arbol [])))), .descarte (.borra (.falla (some (.arbol [])))),
    .descarte (.borra (.falla (some (.arbol [])))), .descarte .mira, .sale 0 (some false),
    .descarte .mira, .cancela, .descarte (.borra .ok), .despierta, .sale 0 (some false),
    .sale 1 (some false), .sale 2 (some false), .sigue 2 (.responde .si), .sigue 2 .mira,
    .sigue 2 (.borra .ok), .sigue 2 .mira, .sigue 2 (.rename .ok)]

def Lote.discos (s : Lote Nat) : List (Option (Cosa Nat)) :=
  [(s.prot 0).backup, (s.prot 0).target, (s.prot 1).backup, (s.prot 1).target,
    (s.prot 2).backup, (s.prot 2).target]

theorem lote_sinRetorno_dos :
    ∃ s, run (restricted pasoLote permiteLote) salidas confirmaDos = some s ∧
      (s.fase, s.atendidos, s.discos) = (.devuelta true, [1, 0],
        [some (.arbol []), some (.arbol [10]), none, some (.arbol [11]), none, some (.arbol [2])]) ∧
      SinRetorno s := by
  have looks : (run (restricted pasoLote permiteLote) salidas confirmaDos).map
      (fun s => (s.fase, s.atendidos, s.discos)) = some (.devuelta true, [1, 0],
        [some (.arbol []), some (.arbol [10]), none, some (.arbol [11]), none, some (.arbol [2])]) := by
    decide
  obtain ⟨s, done, seen⟩ := Option.map_eq_some_iff.mp looks
  exact ⟨s, done, seen, lote_sinRetorno (.of_restricted_run (.start salidas_inicio) done)⟩

/-- The drive is not ready when the presence of the backup is asked, and the protector drops
its reference to a backup that is there. The loop is shut down while the task waits, and the
call raises with neither discard attempted. -/
theorem lote_a_medias :
    (∃ s, run pasoLote salidas [.confirma [0], .ciega, .despierta] = some s ∧ ¬ SinRetorno s) ∧
      ∃ s, run pasoLote salidas [.confirma [0, 1], .cancelaTarea, .despierta] = some s ∧
        ¬ SinRetorno s := by
  have blind : (run pasoLote salidas [.confirma [0], .ciega, .despierta]).map
      (fun s => (s.confirmados, (s.prot 0).tieneBackup, (s.prot 0).backup)) =
        some ([0], false, some (.arbol [0])) := by
    decide
  have cut : (run pasoLote salidas [.confirma [0, 1], .cancelaTarea, .despierta]).map
      (fun s => (s.confirmados, (s.prot 0).confirmado, s.fase, s.atendidos)) =
        some ([0, 1], true, .devuelta true, []) := by
    decide
  constructor
  · obtain ⟨s, done, seen⟩ := Option.map_eq_some_iff.mp blind
    refine ⟨s, done, fun promised => ?_⟩
    simp only [Prod.mk.injEq] at seen
    have gone := promised.referencias 0 (by simp [seen.1]) seen.2.1
    rw [seen.2.2] at gone
    cases gone
  · obtain ⟨s, done, seen⟩ := Option.map_eq_some_iff.mp cut
    refine ⟨s, done, fun promised => ?_⟩
    simp only [Prod.mk.injEq] at seen
    have attended := (promised.atendidos true seen.2.2.1).2 0 (by simp [seen.1]) seen.2.1
    rw [seen.2.2.2] at attended
    cases attended

end DirectoryRollback
