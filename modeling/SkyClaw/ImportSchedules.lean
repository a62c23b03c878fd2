import Mathlib
import SkyClaw.ModImports
import SkyClaw.TransitionRuns

set_option linter.all false

/-!
The import of the load order: a producer that reads the modlist and puts batches in
a bounded queue, the workers that take them, and the task group that cancels all of
them when one fails. A worker that fails, a timeout and a cancellation from outside may
come at any await; what is put in the queue without waiting is lost where it is full.
-/
namespace SyncEngine
open TransitionRuns

structure SyncConfig where
  workerCount : Int
  batchSize : Int
  queueMaxsize : Int

/-- How many times `range(worker_count)` goes round. -/
def SyncConfig.workers (cfg : SyncConfig) : Nat := cfg.workerCount.toNat

structure SyncResult where
  processed : Nat
  failed : Nat
  skipped : Nat
  errors : List Texto

structure LogFila where
  status : Texto
  detail : Texto

/-- A batch and its place among the batches of the modlist, which the program does not keep. -/
abbrev Lote := List Entrada × Nat

inductive Productor where
  | lee (puestos : Nat) (batch resto : List Entrada)
  | pone (puestos : Nat) (batch resto : List Entrada)
  /-- In the `finally`, with these pills to deliver; `fallo` if an exception is in flight. -/
  | veneno (quedan : Nat) (fallo : Bool)
  | listo
  | caido
  deriving DecidableEq

inductive Obrero where
  | espera
  | procesa (lote : Lote) (resto : List Entrada) (modRows : List Fila) (logRows : List LogFila)
  | guarda (lote : Lote) (modRows : List Fila) (logRows : List LogFila)
  | anota (logRows : List LogFila)
  | listo
  | caido

structure Estado where
  productor : Productor
  queue : List (Option Lote)
  obreros : List Obrero
  /-- The task group has cancelled its tasks. -/
  aborta : Bool
  result : SyncResult
  mods : Tabla
  taskLog : List LogFila
  /-- The batches whose rows were committed, in that order. -/
  confirmados : List Lote

inductive Evento where
  | lee
  | leeFalla
  | pone
  | expira
  | acaba
  | toma (i : Nat)
  | avanza (i : Nat)
  | guarda (i : Nat) (ok : Bool)
  | anota (i : Nat) (ok : Bool)
  | cancela
  | cortaProductor
  | cortaObrero (i : Nat) (ok : Bool)

def inicio (cfg : SyncConfig) (modlist : List Entrada) (mods : Tabla) : Estado :=
  ⟨.lee 0 [] modlist, [], List.replicate cfg.workers .espera, false, ⟨0, 0, 0, []⟩, mods, [], []⟩

variable (cfg : SyncConfig) (env : Entorno)

def cabe (queue : List (Option Lote)) : Bool :=
  decide (cfg.queueMaxsize ≤ 0 ∨ (queue.length : Int) < cfg.queueMaxsize)

/-- `put_nowait` of so many pills. -/
def pildoras : Nat → List (Option Lote) → List (Option Lote)
  | 0, queue => queue
  | n + 1, queue => pildoras n (if cabe cfg queue then queue ++ [none] else queue)

def Estado.pasa (s : Estado) (i : Nat) (o : Obrero) : Estado := { s with obreros := s.obreros.set i o }

/-- A worker that raises: the group cancels the rest. -/
def Estado.cae (s : Estado) (i : Nat) : Estado :=
  { s with obreros := s.obreros.set i .caido, aborta := true }

def Estado.commit (s : Estado) (lote : Lote) (modRows : List Fila) : Estado :=
  { s with mods := upsertModsBatch s.mods modRows, confirmados := s.confirmados ++ [lote] }

def step (s : Estado) : Evento → Option Estado
  | .lee =>
    match s.productor with
    | .lee puestos batch [] =>
      if batch = [] then some { s with productor := .veneno cfg.workers false }
      else some { s with productor := .pone puestos batch [] }
    | .lee puestos batch (e :: resto) =>
      if cfg.batchSize ≤ (batch ++ [e]).length then
        some { s with productor := .pone puestos (batch ++ [e]) resto }
      else some { s with productor := .lee puestos (batch ++ [e]) resto }
    | _ => none
  | .leeFalla =>
    match s.productor with
    | .lee _ _ _ => some { s with productor := .veneno cfg.workers true }
    | _ => none
  | .pone =>
    if cabe cfg s.queue then
      match s.productor with
      | .pone puestos batch resto => some { s with
          queue := s.queue ++ [some (batch, puestos)], productor := .lee (puestos + 1) [] resto }
      | .veneno (quedan + 1) fallo => some { s with
          queue := s.queue ++ [none], productor := .veneno quedan fallo }
      | _ => none
    else none
  | .expira =>
    match s.productor with
    | .pone _ _ _ => some { s with productor := .veneno cfg.workers true }
    | .veneno (_ + 1) _ => some { s with productor := .caido, aborta := true }
    | _ => none
  | .acaba =>
    match s.productor with
    | .veneno 0 false => some { s with productor := .listo }
    | .veneno 0 true => some { s with productor := .caido, aborta := true }
    | _ => none
  | .toma i =>
    match s.obreros[i]?, s.queue with
    | some .espera, some lote :: queue =>
      some ({ s with queue := queue }.pasa i (.procesa lote lote.1 [] []))
    | some .espera, none :: queue => some ({ s with queue := queue }.pasa i .listo)
    | _, _ => none
  | .avanza i =>
    match s.obreros[i]? with
    | some (.procesa lote [] modRows logRows) => some (s.pasa i (.guarda lote modRows logRows))
    | some (.procesa lote (e :: resto) modRows logRows) =>
      match procesarMod env e with
      | .salta => some ({ s with result := { s.result with skipped := s.result.skipped + 1 } }.pasa i
          (.procesa lote resto modRows logRows))
      | .falla error => some ({ s with result := { s.result with
            failed := s.result.failed + 1, errors := s.result.errors ++ [error] } }.pasa i
          (.procesa lote resto modRows (logRows ++ [LogFila.mk "error".toList error])))
      | .importa fila syncStatus syncDetail => some ({ s with result := { s.result with
            processed := s.result.processed + 1 } }.pasa i
          (.procesa lote resto (modRows ++ [fila]) (logRows ++ [LogFila.mk syncStatus syncDetail])))
      | .excepcion => some (s.cae i)
    | _ => none
  | .guarda i ok =>
    match s.obreros[i]? with
    | some (.guarda lote modRows logRows) =>
      if ok then some ((s.commit lote modRows).pasa i (.anota logRows))
      else if modRows = [] then none
      else some (s.cae i)
    | _ => none
  | .anota i ok =>
    match s.obreros[i]? with
    | some (.anota logRows) =>
      if ok then some ({ s with taskLog := s.taskLog ++ logRows }.pasa i .espera)
      else if logRows.isEmpty then none
      else some (s.cae i)
    | _ => none
  | .cancela => if s.aborta then none else some { s with aborta := true }
  | .cortaProductor =>
    if s.aborta then
      match s.productor with
      | .lee _ _ _ | .pone _ _ _ =>
        some { s with productor := .caido, queue := pildoras cfg cfg.workers s.queue }
      | .veneno _ _ => some { s with productor := .caido }
      | .listo | .caido => none
    else none
  | .cortaObrero i ok =>
    if s.aborta then
      match s.obreros[i]? with
      | some .listo | some .caido | none => none
      | some (.guarda lote modRows _) =>
        if ok then some ((s.commit lote modRows).cae i) else some (s.cae i)
      | some _ => some (s.cae i)
    else none

def Obrero.acabado : Obrero → Bool
  | .listo | .caido => true
  | _ => false

def Estado.acabado (s : Estado) : Prop :=
  (s.productor = .listo ∨ s.productor = .caido) ∧ ∀ o ∈ s.obreros, o.acabado = true

def Obrero.esListo : Obrero → Bool
  | .listo => true
  | _ => false

/-- `run` returns: all its tasks ended without an exception. -/
def Estado.devuelve (s : Estado) : Prop :=
  s.productor = .listo ∧ (∀ o ∈ s.obreros, o.esListo = true) ∧ s.aborta = false

/-! How much is left to do -/

def Productor.medida (workers : Nat) : Productor → Nat
  | .lee _ batch resto => 8 * resto.length + 7 * batch.length + workers + 2
  | .pone _ batch resto => batch.length + 5 + 8 * resto.length + workers + 2
  | .veneno quedan _ => quedan + 1
  | .listo | .caido => 0

def Obrero.medida : Obrero → Nat
  | .espera => 1
  | .procesa _ resto _ _ => resto.length + 4
  | .guarda _ _ _ => 3
  | .anota _ => 2
  | .listo | .caido => 0

def medidaCola (queue : List (Option Lote)) : Nat :=
  (queue.map fun | some lote => lote.1.length + 4 | none => 0).sum

def Estado.medida (s : Estado) : Nat :=
  s.productor.medida cfg.workers + medidaCola s.queue + (s.obreros.map Obrero.medida).sum +
    (!s.aborta).toNat

/-! What is claimed -/

def SyncResult.cuenta (r : SyncResult) : Salida → SyncResult
  | .salta => { r with skipped := r.skipped + 1 }
  | .falla error => { r with failed := r.failed + 1, errors := r.errors ++ [error] }
  | .importa _ _ _ => { r with processed := r.processed + 1 }
  | .excepcion => r

/-- The result of these entries, each counted once. -/
def resultado (vistos : List Entrada) : SyncResult :=
  vistos.foldl (fun r e => r.cuenta (procesarMod env e)) ⟨0, 0, 0, []⟩

structure Importado (modlist : List Entrada) (mods : Tabla) (s : Estado) : Prop where
  cuenta : s.devuelve → (∃ vistos, vistos.Perm modlist ∧ s.result = resultado env vistos) ∧
    s.result.processed + s.result.failed + s.result.skipped = modlist.length
  tabla : s.devuelve → s.mods = upsertModsBatch mods (filasDe env modlist)
  sigue : s.acabado ∨ ∃ e t, step cfg env s e = some t
  avanza : ∀ e t, step cfg env s e = some t → t.medida cfg < s.medida cfg

/-- Two batches end with different rows for some mod. -/
def Choca (a b : Lote) : Prop :=
  ∃ k f g, ultima k (filasDe env a.1) = some f ∧ ultima k (filasDe env b.1) = some g ∧ f ≠ g

/-- No batch is committed after a later one that it overwrites with another row, and the producer
does not end over batches that nobody takes. -/
def permitido (s : Estado) : Evento → Prop
  | .guarda i true => ∀ lote modRows logRows, s.obreros[i]? = some (.guarda lote modRows logRows) →
      ∀ otro ∈ s.confirmados, lote.2 < otro.2 → ¬ Choca env lote otro
  | .acaba => 0 < cfg.workers ∨ s.queue = []
  | _ => True

/-! The cases of a step -/

/-- A step, unless it makes the group cancel its tasks or follows that. -/
inductive Paso (s : Estado) : Evento → Estado → Prop where
  | lee {p b e r} (at_ : s.productor = .lee p b (e :: r))
      (short : ¬ cfg.batchSize ≤ (b ++ [e]).length) :
      Paso s .lee { s with productor := .lee p (b ++ [e]) r }
  | llena {p b e r} (at_ : s.productor = .lee p b (e :: r))
      (full : cfg.batchSize ≤ (b ++ [e]).length) :
      Paso s .lee { s with productor := .pone p (b ++ [e]) r }
  | ultimo {p b} (at_ : s.productor = .lee p b []) (some_ : b ≠ []) :
      Paso s .lee { s with productor := .pone p b [] }
  | leido {p} (at_ : s.productor = .lee p [] []) :
      Paso s .lee { s with productor := .veneno cfg.workers false }
  | falla {e p b r} (at_ : s.productor = .lee p b r ∨ s.productor = .pone p b r) :
      Paso s e { s with productor := .veneno cfg.workers true }
  | pone {p b r} (at_ : s.productor = .pone p b r) :
      Paso s .pone { s with queue := s.queue ++ [some (b, p)], productor := .lee (p + 1) [] r }
  | pildora {n fallo} (at_ : s.productor = .veneno (n + 1) fallo) :
      Paso s .pone { s with queue := s.queue ++ [none], productor := .veneno n fallo }
  | acaba (at_ : s.productor = .veneno 0 false) : Paso s .acaba { s with productor := .listo }
  | toma {i lote queue} (at_ : s.obreros[i]? = some .espera) (head : s.queue = some lote :: queue) :
      Paso s (.toma i) ({ s with queue := queue }.pasa i (.procesa lote lote.1 [] []))
  | tomaPildora {i queue} (at_ : s.obreros[i]? = some .espera) (head : s.queue = none :: queue) :
      Paso s (.toma i) ({ s with queue := queue }.pasa i .listo)
  | procesa {i lote e resto modRows logRows logRows'}
      (at_ : s.obreros[i]? = some (.procesa lote (e :: resto) modRows logRows))
      (going : procesarMod env e ≠ .excepcion) :
      Paso s (.avanza i) ({ s with result := s.result.cuenta (procesarMod env e) }.pasa i
        (.procesa lote resto (modRows ++ filasDe env [e]) logRows'))
  | hecho {i lote modRows logRows} (at_ : s.obreros[i]? = some (.procesa lote [] modRows logRows)) :
      Paso s (.avanza i) (s.pasa i (.guarda lote modRows logRows))
  | guarda {i lote modRows logRows} (at_ : s.obreros[i]? = some (.guarda lote modRows logRows)) :
      Paso s (.guarda i true) ((s.commit lote modRows).pasa i (.anota logRows))
  | anota {i logRows} (at_ : s.obreros[i]? = some (.anota logRows)) :
      Paso s (.anota i true) ({ s with taskLog := s.taskLog ++ logRows }.pasa i .espera)
  | aborta {e t} (stops : t.aborta = true) (less : t.medida cfg < s.medida cfg) : Paso s e t

variable {cfg env}

theorem parte_obreros {os : List Obrero} {i : Nat} {o : Obrero} (here : os[i]? = some o) :
    ∃ pre post, os = pre ++ o :: post ∧ ∀ o', os.set i o' = pre ++ o' :: post := by
  obtain ⟨inside, rfl⟩ := List.getElem?_eq_some_iff.mp here
  refine ⟨os.take i, os.drop (i + 1), ?_, fun o' => ?_⟩
  · rw [← List.drop_eq_getElem_cons inside, List.take_append_drop]
  · rw [List.set_eq_take_append_cons_drop, if_pos inside]

theorem medidaCola_append (queue otra : List (Option Lote)) :
    medidaCola (queue ++ otra) = medidaCola queue + medidaCola otra := by
  simp [medidaCola]

theorem medidaCola_pildoras (n : Nat) (queue : List (Option Lote)) :
    medidaCola (pildoras cfg n queue) = medidaCola queue := by
  induction n generalizing queue with
  | zero => rfl
  | succ n ih =>
    rw [pildoras, ih]
    split
    · rw [medidaCola_append]
      rfl
    · rfl

theorem suma_set {os : List Obrero} {i : Nat} {o : Obrero} (here : os[i]? = some o) (o' : Obrero)
    (f : Obrero → Nat) : ((os.set i o').map f).sum + f o = (os.map f).sum + f o' := by
  obtain ⟨pre, post, same, set_⟩ := parte_obreros here
  rw [set_, same]
  simp only [List.map_append, List.map_cons, List.sum_append, List.sum_cons]
  omega

theorem medida_cae {s : Estado} {i : Nat} {o : Obrero} (here : s.obreros[i]? = some o)
    (going : 0 < o.medida) : (s.cae i).medida cfg < s.medida cfg := by
  have less := suma_set here .caido Obrero.medida
  have none_ : Obrero.caido.medida = 0 := rfl
  simp only [Estado.medida, Estado.cae, Bool.not_true, Bool.toNat_false]
  omega

theorem medida_pasa {s : Estado} {i : Nat} {o : Obrero} (here : s.obreros[i]? = some o) (o' : Obrero) :
    (s.pasa i o').medida cfg + o.medida = s.medida cfg + o'.medida := by
  have moved := suma_set here o' Obrero.medida
  simp only [Estado.medida, Estado.pasa]
  omega

theorem Paso.medida {s t : Estado} {e : Evento} (paso : Paso cfg env s e t) :
    t.medida cfg < s.medida cfg := by
  cases paso with
  | lee at_ | llena at_ | leido at_ =>
    simp only [Estado.medida, at_, Productor.medida, List.length_append, List.length_cons,
      List.length_nil]
    omega
  | ultimo at_ some_ =>
    have := List.length_pos_iff.mpr some_
    simp only [Estado.medida, at_, Productor.medida, List.length_nil]
    omega
  | falla at_ =>
    rcases at_ with at_ | at_
    · simp only [Estado.medida, at_, Productor.medida]
      omega
    · simp only [Estado.medida, at_, Productor.medida]
      omega
  | pone at_ | pildora at_ =>
    simp only [Estado.medida, at_, Productor.medida, medidaCola_append]
    simp only [medidaCola, List.map_cons, List.map_nil, List.sum_cons, List.sum_nil, List.length_nil]
    omega
  | acaba at_ =>
    simp only [Estado.medida, at_, Productor.medida]
    omega
  | @toma i lote queue at_ head =>
    have moved := @medida_pasa cfg { s with queue := queue } i _ at_ (.procesa lote lote.1 [] [])
    simp only [Obrero.medida] at moved
    simp only [Estado.medida, head, medidaCola, List.map_cons, List.sum_cons] at moved ⊢
    omega
  | @tomaPildora i queue at_ head =>
    have moved := @medida_pasa cfg { s with queue := queue } i _ at_ .listo
    simp only [Obrero.medida] at moved
    simp only [Estado.medida, head, medidaCola, List.map_cons, List.sum_cons] at moved ⊢
    omega
  | @procesa i lote e resto modRows _ logRows' at_ =>
    have moved := @medida_pasa cfg { s with result := s.result.cuenta (procesarMod env e) } i _ at_
      (.procesa lote resto (modRows ++ filasDe env [e]) logRows')
    simp only [Obrero.medida, List.length_cons] at moved
    simp only [Estado.medida] at moved ⊢
    omega
  | @hecho i lote modRows logRows at_ =>
    have moved := @medida_pasa cfg s i _ at_ (.guarda lote modRows logRows)
    simp only [Obrero.medida, List.length_nil] at moved
    omega
  | @guarda i lote modRows logRows at_ =>
    have moved := @medida_pasa cfg (s.commit lote modRows) i _ at_ (.anota logRows)
    simp only [Obrero.medida] at moved
    simp only [Estado.medida, Estado.commit] at moved ⊢
    omega
  | @anota i logRows at_ =>
    have moved := @medida_pasa cfg { s with taskLog := s.taskLog ++ logRows } i _ at_ .espera
    simp only [Obrero.medida] at moved
    simp only [Estado.medida] at moved ⊢
    omega
  | aborta _ less => exact less

/-- What a worker that is not done has still to do. -/
theorem Obrero.medida_pos {o : Obrero} (going : o.acabado = false) : 0 < o.medida := by
  cases o with
  | listo | caido => cases going
  | procesa => exact Nat.succ_pos _
  | espera | guarda | anota => simp only [Obrero.medida]; omega

theorem step_paso {s t : Estado} {e : Evento} (moved : step cfg env s e = some t) :
    Paso cfg env s e t := by
  cases e with
  | lee =>
    simp only [step] at moved
    split at moved
    · next p batch at_ =>
      split at moved
      · next empty =>
        cases moved
        exact .leido (empty ▸ at_)
      · next some_ =>
        cases moved
        exact .ultimo at_ some_
    · next p batch e resto at_ =>
      split at moved
      · next full =>
        cases moved
        exact .llena at_ full
      · next short =>
        cases moved
        exact .lee at_ short
    · cases moved
  | leeFalla =>
    simp only [step] at moved
    split at moved
    · next at_ =>
      cases moved
      exact .falla (.inl at_)
    · cases moved
  | pone =>
    simp only [step] at moved
    split at moved
    · split at moved
      · next at_ =>
        cases moved
        exact .pone at_
      · next at_ =>
        cases moved
        exact .pildora at_
      · cases moved
    · cases moved
  | expira =>
    simp only [step] at moved
    split at moved
    · next at_ =>
      cases moved
      exact .falla (.inr at_)
    · next at_ =>
      cases moved
      refine .aborta rfl ?_
      simp only [Estado.medida, at_, Productor.medida, Bool.not_true, Bool.toNat_false]
      omega
    · cases moved
  | acaba =>
    simp only [step] at moved
    split at moved
    · next at_ =>
      cases moved
      exact .acaba at_
    · next at_ =>
      cases moved
      refine .aborta rfl ?_
      simp only [Estado.medida, at_, Productor.medida, Bool.not_true, Bool.toNat_false]
      omega
    · cases moved
  | toma i =>
    simp only [step] at moved
    split at moved
    · next at_ head =>
      cases moved
      exact .toma at_ head
    · next at_ head =>
      cases moved
      exact .tomaPildora at_ head
    · cases moved
  | avanza i =>
    simp only [step] at moved
    split at moved
    · next at_ =>
      cases moved
      exact .hecho at_
    · next lote e resto modRows logRows at_ =>
      have one : filasDe env [e] = (fila? env e).toList := by
        cases here : fila? env e <;> simp [filasDe, here]
      split at moved
      · next out =>
        have none_ : filasDe env [e] = [] := by rw [one, fila?, out]; rfl
        cases moved
        have paso := @Paso.procesa cfg env s i lote e resto modRows logRows logRows at_ (by rw [out]; nofun)
        rwa [none_, List.append_nil, out] at paso
      · next error out =>
        have none_ : filasDe env [e] = [] := by rw [one, fila?, out]; rfl
        cases moved
        have paso := @Paso.procesa cfg env s i lote e resto modRows logRows
          (logRows ++ [LogFila.mk "error".toList error]) at_ (by rw [out]; nofun)
        rwa [none_, List.append_nil, out] at paso
      · next fila status detail out =>
        have one_ : filasDe env [e] = [fila] := by rw [one, fila?, out]; rfl
        cases moved
        have paso := @Paso.procesa cfg env s i lote e resto modRows logRows
          (logRows ++ [LogFila.mk status detail]) at_ (by rw [out]; nofun)
        rwa [one_, out] at paso
      · next out =>
        cases moved
        exact .aborta rfl (medida_cae at_ (Obrero.medida_pos rfl))
    · cases moved
  | guarda i ok =>
    simp only [step] at moved
    split at moved
    · next lote modRows logRows at_ =>
      split at moved
      · next yes =>
        cases moved
        rw [yes]
        exact .guarda at_
      · split at moved
        · cases moved
        · cases moved
          exact .aborta rfl (medida_cae at_ (Obrero.medida_pos rfl))
    · cases moved
  | anota i ok =>
    simp only [step] at moved
    split at moved
    · next logRows at_ =>
      split at moved
      · next yes =>
        cases moved
        rw [yes]
        exact .anota at_
      · split at moved
        · cases moved
        · cases moved
          exact .aborta rfl (medida_cae at_ (Obrero.medida_pos rfl))
    · cases moved
  | cancela =>
    simp only [step] at moved
    split at moved
    · cases moved
    · next going =>
      cases moved
      refine .aborta rfl ?_
      have before : s.aborta = false := Bool.eq_false_iff.mpr going
      simp only [Estado.medida, before, Bool.not_true, Bool.not_false, Bool.toNat_false,
        Bool.toNat_true]
      omega
  | cortaProductor =>
    simp only [step] at moved
    split at moved
    · next stopped =>
      split at moved
      · next at_ =>
        cases moved
        refine .aborta stopped ?_
        simp only [Estado.medida, at_, Productor.medida, medidaCola_pildoras]
        omega
      · next at_ =>
        cases moved
        refine .aborta stopped ?_
        simp only [Estado.medida, at_, Productor.medida, medidaCola_pildoras]
        omega
      · next at_ =>
        cases moved
        refine .aborta stopped ?_
        simp only [Estado.medida, at_, Productor.medida]
        omega
      · cases moved
      · cases moved
    · cases moved
  | cortaObrero i ok =>
    simp only [step] at moved
    split at moved
    · split at moved
      · cases moved
      · cases moved
      · cases moved
      · next lote modRows logRows at_ =>
        split at moved
        · cases moved
          exact .aborta rfl (medida_cae at_ (Obrero.medida_pos rfl))
        · cases moved
          exact .aborta rfl (medida_cae at_ (Obrero.medida_pos rfl))
      · next o notListo notCaido _ at_ =>
        cases moved
        refine .aborta rfl (medida_cae at_ (Obrero.medida_pos ?_))
        cases o with
        | listo => exact absurd rfl notListo
        | caido => exact absurd rfl notCaido
        | _ => rfl
    · cases moved

/-! The invariant -/

def Productor.lotes (batchSize : Int) : Productor → List Lote
  | .lee puestos batch resto => (lotesDesde batchSize batch resto).zipIdx puestos
  | .pone puestos batch resto => (batch, puestos) :: (lotesDesde batchSize [] resto).zipIdx (puestos + 1)
  | _ => []

def Productor.porContar : Productor → List Entrada
  | .lee _ batch resto | .pone _ batch resto => batch ++ resto
  | _ => []

/-- The pills that are still to be delivered. -/
def Productor.faltan (workers : Nat) : Productor → Nat
  | .lee _ _ _ | .pone _ _ _ => workers
  | .veneno quedan _ => quedan
  | .listo | .caido => 0

def Obrero.lotes : Obrero → List Lote
  | .procesa lote _ _ _ | .guarda lote _ _ => [lote]
  | _ => []

def Obrero.porContar : Obrero → List Entrada
  | .procesa _ resto _ _ => resto
  | _ => []

/-- The rows that a worker keeps are those of the mods it has gone through. -/
def Obrero.Fiel (env : Entorno) : Obrero → Prop
  | .procesa lote resto modRows _ => ∃ hechas, lote.1 = hechas ++ resto ∧ modRows = filasDe env hechas
  | .guarda lote modRows _ => modRows = filasDe env lote.1
  | .caido => False
  | _ => True

/-- An exception of the producer is in flight. -/
def Productor.falla : Productor → Bool
  | .veneno _ fallo => fallo
  | _ => false

def listos (os : List Obrero) : Nat := (os.map fun o => o.esListo.toNat).sum

/-- How many workers have a batch, and how often a mod is still to be counted by them. -/
def enObreros (os : List Obrero) (l : Lote) : Nat := (os.map fun o => o.lotes.count l).sum

def porContarEn (os : List Obrero) (e : Entrada) : Nat := (os.map fun o => o.porContar.count e).sum

/-- Each worker that is not done will have one pill, and the pills come after the batches. -/
structure Vivo (cfg : SyncConfig) (s : Estado) : Prop where
  largo : s.obreros.length = cfg.workers
  pildoras : s.productor.faltan cfg.workers + s.queue.countP Option.isNone + listos s.obreros =
    cfg.workers
  forma : ∃ (ls : List Lote) (n : Nat), s.queue = ls.map some ++ List.replicate n none
  detras : 0 < listos s.obreros → s.queue.filterMap id = []
  vivo : s.productor ≠ .caido

/-- Each batch is in one place, and each mod is counted once or is still to be counted. -/
structure Coherente (cfg : SyncConfig) (env : Entorno) (modlist : List Entrada) (mods : Tabla)
    (s : Estado) : Prop where
  lotes : ∀ l, s.confirmados.count l + enObreros s.obreros l +
    (s.queue.filterMap id).count l + (s.productor.lotes cfg.batchSize).count l =
      ((lotesDesde cfg.batchSize [] modlist).zipIdx).count l
  vistos : ∃ vistos, s.result = resultado env vistos ∧
    (∀ e ∈ vistos, procesarMod env e ≠ .excepcion) ∧
    ∀ e, vistos.count e + porContarEn s.obreros e +
      ((s.queue.filterMap id).flatMap (·.1)).count e + s.productor.porContar.count e = modlist.count e
  fiel : ∀ o ∈ s.obreros, o.Fiel env
  tabla : s.mods = upsertModsBatch mods (s.confirmados.map fun l => filasDe env l.1).flatten
  orden : s.confirmados.Pairwise fun a b => b.2 < a.2 → ¬ Choca env b a
  vacia : s.productor = .listo → 0 < cfg.workers ∨ s.queue = []

variable {modlist : List Entrada} {mods : Tabla}

theorem vivo_inicio : Vivo cfg (inicio cfg modlist mods) where
  largo := List.length_replicate
  pildoras := by simp [inicio, listos, Obrero.esListo, Productor.faltan]
  forma := ⟨[], 0, rfl⟩
  detras _ := rfl
  vivo := nofun

theorem coherente_inicio : Coherente cfg env modlist mods (inicio cfg modlist mods) where
  lotes l := by simp [inicio, enObreros, Obrero.lotes, Productor.lotes]
  vistos := ⟨[], rfl, by simp, fun e => by
    simp [inicio, porContarEn, Obrero.porContar, Productor.porContar]⟩
  fiel o mem := by
    rw [(List.mem_replicate.mp mem).2]
    trivial
  tabla := rfl
  orden := List.Pairwise.nil
  vacia := nofun

theorem listos_set {os : List Obrero} {i : Nat} {o : Obrero} (here : os[i]? = some o) (o' : Obrero) :
    listos (os.set i o') + o.esListo.toNat = listos os + o'.esListo.toNat :=
  suma_set here o' fun o => o.esListo.toNat

theorem enObreros_set {os : List Obrero} {i : Nat} {o : Obrero} (here : os[i]? = some o) (o' : Obrero)
    (l : Lote) : enObreros (os.set i o') l + o.lotes.count l = enObreros os l + o'.lotes.count l :=
  suma_set here o' fun o => o.lotes.count l

theorem porContarEn_set {os : List Obrero} {i : Nat} {o : Obrero} (here : os[i]? = some o) (o' : Obrero)
    (e : Entrada) :
    porContarEn (os.set i o') e + o.porContar.count e = porContarEn os e + o'.porContar.count e :=
  suma_set here o' fun o => o.porContar.count e

theorem listos_le (os : List Obrero) : listos os ≤ os.length := by
  induction os with
  | nil => exact Nat.le_refl 0
  | cons o os ih =>
    have one : o.esListo.toNat ≤ 1 := Bool.toNat_le _
    simp only [listos, List.map_cons, List.sum_cons, List.length_cons] at ih ⊢
    omega

/-- A worker that goes from one state that is not the last to another one. -/
theorem Vivo.pasa {s : Estado} (vivo : Vivo cfg s) {i : Nat} {o : Obrero} (here : s.obreros[i]? = some o)
    {o' : Obrero} (same : o'.esListo = o.esListo) : Vivo cfg (s.pasa i o') := by
  have kept : listos (s.obreros.set i o') = listos s.obreros := by
    have moved := listos_set here o'
    rw [same] at moved
    omega
  constructor
  · exact List.length_set.trans vivo.largo
  · simp only [Estado.pasa, kept]
    exact vivo.pildoras
  · exact vivo.forma
  · simp only [Estado.pasa, kept]
    exact vivo.detras
  · exact vivo.vivo

theorem Vivo.step {s t : Estado} {e : Evento} (vivo : Vivo cfg s) (paso : Paso cfg env s e t)
    (going : t.aborta = false) : Vivo cfg t := by
  have pills := vivo.pildoras
  cases paso with
  | lee at_ | llena at_ | ultimo at_ =>
    rw [at_] at pills
    exact { vivo with pildoras := pills, vivo := nofun }
  | leido at_ =>
    rw [at_] at pills
    exact { vivo with pildoras := pills, vivo := nofun }
  | falla at_ =>
    rcases at_ with at_ | at_
    · rw [at_] at pills
      exact { vivo with pildoras := pills, vivo := nofun }
    · rw [at_] at pills
      exact { vivo with pildoras := pills, vivo := nofun }
  | @pone p b r at_ =>
    -- no pill has been put yet, and so no worker is done
    rw [at_] at pills
    simp only [Productor.faltan] at pills
    have none_ : listos s.obreros = 0 := by omega
    have batches : s.queue.countP Option.isNone = 0 := by omega
    constructor
    · exact vivo.largo
    · simp only [Productor.faltan, List.countP_append, List.countP_cons, List.countP_nil,
        Option.isNone_some]
      simpa using pills
    · obtain ⟨ls, n, same⟩ := vivo.forma
      have short : n = 0 := by
        rw [same, List.countP_append, List.countP_replicate] at batches
        simp at batches
        omega
      refine ⟨ls ++ [(b, p)], 0, ?_⟩
      simp [same, short]
    · intro some_
      simp only at some_
      omega
    · nofun
  | @pildora n fallo at_ =>
    rw [at_] at pills
    simp only [Productor.faltan] at pills
    constructor
    · exact vivo.largo
    · simp only [Productor.faltan, List.countP_append, List.countP_cons, List.countP_nil,
        Option.isNone_none, if_true]
      omega
    · obtain ⟨ls, k, same⟩ := vivo.forma
      refine ⟨ls, k + 1, ?_⟩
      rw [same, List.append_assoc, List.replicate_succ']
    · intro some_
      simpa using vivo.detras some_
    · nofun
  | acaba at_ =>
    rw [at_] at pills
    exact { vivo with pildoras := pills, vivo := nofun }
  | @toma i lote queue at_ head =>
    obtain ⟨ls, n, same⟩ := vivo.forma
    have mid : Vivo cfg { s with queue := queue } := by
      refine { vivo with pildoras := ?_, forma := ?_, detras := ?_ }
      · simpa [head] using pills
      · cases ls with
        | nil =>
          rw [head] at same
          cases n <;> simp [List.replicate_succ] at same
        | cons l ls =>
          rw [head] at same
          exact ⟨ls, n, (List.cons.inj same).2⟩
      · intro some_
        have gone := vivo.detras some_
        simp [head] at gone
    exact mid.pasa at_ rfl
  | @tomaPildora i queue at_ head =>
    have moved := listos_set at_ .listo
    simp only [Obrero.esListo, Bool.toNat_false, Bool.toNat_true] at moved
    obtain ⟨ls, n, same⟩ := vivo.forma
    have pillsOnly : ∃ m, queue = List.replicate m none := by
      rw [head] at same
      cases ls with
      | nil =>
        cases n with
        | zero => cases same
        | succ n => exact ⟨n, (List.cons.inj same).2⟩
      | cons l ls => cases (List.cons.inj same).1
    obtain ⟨m, rest⟩ := pillsOnly
    constructor
    · exact List.length_set.trans vivo.largo
    · simp only [head, List.countP_cons, Option.isNone_none, if_true] at pills
      simp only [Estado.pasa]
      omega
    · exact ⟨[], m, rest⟩
    · intro _
      simp [Estado.pasa, rest]
    · exact vivo.vivo
  | @procesa i lote e _ _ _ _ at_ =>
    have mid : Vivo cfg { s with result := s.result.cuenta (procesarMod env e) } := { vivo with }
    exact mid.pasa at_ rfl
  | hecho at_ => exact vivo.pasa at_ rfl
  | @guarda i lote modRows logRows at_ =>
    have mid : Vivo cfg (s.commit lote modRows) := { vivo with }
    exact mid.pasa at_ rfl
  | @anota i logRows at_ =>
    have mid : Vivo cfg { s with taskLog := s.taskLog ++ logRows } := { vivo with }
    exact mid.pasa at_ rfl
  | aborta stops => rw [stops] at going; cases going

/-- Something can always happen: what waits for room in the queue times out, what waits for a pill
will have one, and the rest of the tasks wait for calls that end. -/
theorem sigue {s : Estado} (vivo : s.aborta = false → Vivo cfg s) :
    s.acabado ∨ ∃ e t, step cfg env s e = some t := by
  by_cases done : s.acabado
  · exact .inl done
  refine .inr ?_
  have worker : (s.productor = .listo ∨ s.productor = .caido) →
      ∃ (i : Nat) (o : Obrero), s.obreros[i]? = some o ∧ o.acabado = false := by
    intro ended
    by_contra none_
    refine done ⟨ended, fun o mem => ?_⟩
    obtain ⟨i, here⟩ := List.getElem?_of_mem mem
    by_contra going
    exact none_ ⟨i, o, here, Bool.eq_false_iff.mpr going⟩
  cases stopped : s.aborta with
  | true =>
    cases at_ : s.productor with
    | lee => exact ⟨.cortaProductor, _, by simp only [step, stopped, at_, if_true]; rfl⟩
    | pone => exact ⟨.cortaProductor, _, by simp only [step, stopped, at_, if_true]; rfl⟩
    | veneno => exact ⟨.cortaProductor, _, by simp only [step, stopped, at_, if_true]; rfl⟩
    | listo | caido =>
      obtain ⟨i, o, here, going⟩ := worker (by simp [at_])
      cases o with
      | listo | caido => cases going
      | espera => exact ⟨.cortaObrero i false, _, by simp only [step, stopped, here, if_true]; rfl⟩
      | procesa => exact ⟨.cortaObrero i false, _, by simp only [step, stopped, here, if_true]; rfl⟩
      | guarda =>
        exact ⟨.cortaObrero i true, _, by simp only [step, stopped, here, if_true]; rfl⟩
      | anota => exact ⟨.cortaObrero i false, _, by simp only [step, stopped, here, if_true]; rfl⟩
  | false =>
    have vivo := vivo stopped
    cases at_ : s.productor with
    | lee puestos batch resto =>
      refine ⟨.lee, ?_⟩
      cases resto with
      | nil => simp only [step, at_]; split <;> exact ⟨_, rfl⟩
      | cons e resto => simp only [step, at_]; split <;> exact ⟨_, rfl⟩
    | pone => exact ⟨.expira, _, by simp only [step, at_]; rfl⟩
    | veneno quedan fallo =>
      cases quedan with
      | zero =>
        cases fallo with
        | false => exact ⟨.acaba, _, by simp only [step, at_]; rfl⟩
        | true => exact ⟨.acaba, _, by simp only [step, at_]; rfl⟩
      | succ quedan => exact ⟨.expira, _, by simp only [step, at_]; rfl⟩
    | caido => exact absurd at_ vivo.vivo
    | listo =>
      obtain ⟨i, o, here, going⟩ := worker (.inl at_)
      cases o with
      | listo | caido => cases going
      | espera =>
        -- it is not done, so a pill is still in the queue
        have room := listos_le (s.obreros.set i .listo)
        have moved := listos_set here .listo
        have pills := vivo.pildoras
        rw [List.length_set, vivo.largo] at room
        simp only [Obrero.esListo, Bool.toNat_false, Bool.toNat_true] at moved
        simp only [at_, Productor.faltan] at pills
        refine ⟨.toma i, ?_⟩
        cases head : s.queue with
        | nil =>
          rw [head, List.countP_nil] at pills
          omega
        | cons x queue =>
          cases x with
          | none => exact ⟨_, by simp only [step, here, head]; rfl⟩
          | some lote => exact ⟨_, by simp only [step, here, head]; rfl⟩
      | procesa lote resto modRows logRows =>
        refine ⟨.avanza i, ?_⟩
        cases resto with
        | nil => exact ⟨_, by simp only [step, here]; rfl⟩
        | cons e resto => simp only [step, here]; split <;> exact ⟨_, rfl⟩
      | guarda => exact ⟨.guarda i true, _, by simp only [step, here, if_true]; rfl⟩
      | anota => exact ⟨.anota i true, _, by simp only [step, here, if_true]; rfl⟩

/-! The accounting -/

theorem resultado_concat (vistos : List Entrada) (e : Entrada) :
    resultado env (vistos ++ [e]) = (resultado env vistos).cuenta (procesarMod env e) := by
  simp [resultado]

theorem suma_resultado {vistos : List Entrada} (going : ∀ e ∈ vistos, procesarMod env e ≠ .excepcion) :
    (resultado env vistos).processed + (resultado env vistos).failed + (resultado env vistos).skipped =
      vistos.length := by
  induction vistos using List.reverseRecOn with
  | nil => rfl
  | append_singleton vistos e ih =>
    have before := ih fun x mem => going x (List.mem_append_left _ mem)
    have one := going e (by simp)
    rw [resultado_concat, List.length_append, List.length_singleton]
    cases out : procesarMod env e with
    | excepcion => exact absurd out one
    | salta | falla | importa => simp only [SyncResult.cuenta]; omega

/-- The producer goes on without touching what is still to come. -/
theorem Coherente.produce {s : Estado} (co : Coherente cfg env modlist mods s) {p : Productor}
    (same : p.lotes cfg.batchSize = s.productor.lotes cfg.batchSize)
    (left : p.porContar = s.productor.porContar) (empty : p = .listo → 0 < cfg.workers ∨ s.queue = []) :
    Coherente cfg env modlist mods { s with productor := p } := by
  refine { co with lotes := ?_, vistos := ?_, vacia := empty }
  · simp only [same]
    exact co.lotes
  · simp only [left]
    exact co.vistos

/-- A worker goes on with the batch that it has and the mods that it has still to count. -/
theorem Coherente.pasa {s : Estado} (co : Coherente cfg env modlist mods s) {i : Nat} {o o' : Obrero}
    (here : s.obreros[i]? = some o) (same : o'.lotes = o.lotes) (left : o'.porContar = o.porContar)
    (fiel : o'.Fiel env) : Coherente cfg env modlist mods (s.pasa i o') := by
  refine { co with lotes := ?_, vistos := ?_, fiel := ?_ }
  · intro l
    have moved := enObreros_set here o' l
    simp only [same] at moved
    have before := co.lotes l
    simp only [Estado.pasa]
    omega
  · obtain ⟨vistos, counted, going, all⟩ := co.vistos
    refine ⟨vistos, counted, going, fun e => ?_⟩
    have moved := porContarEn_set here o' e
    simp only [left] at moved
    have before := all e
    simp only [Estado.pasa]
    omega
  · intro x mem
    rcases List.mem_or_eq_of_mem_set mem with old | rfl
    · exact co.fiel x old
    · exact fiel

theorem Coherente.obrero {s : Estado} (co : Coherente cfg env modlist mods s) {i : Nat} {o : Obrero}
    (here : s.obreros[i]? = some o) : o.Fiel env :=
  co.fiel o (List.mem_of_getElem? here)

theorem lotesDesde_lleno {batchSize : Int} {batch resto : List Entrada} {e : Entrada}
    (full : batchSize ≤ (batch ++ [e]).length) : lotesDesde batchSize batch (e :: resto) =
      (batch ++ [e]) :: lotesDesde batchSize [] resto := by
  rw [lotesDesde, if_pos full]

theorem lotesDesde_corto {batchSize : Int} {batch resto : List Entrada} {e : Entrada}
    (short : ¬ batchSize ≤ (batch ++ [e]).length) : lotesDesde batchSize batch (e :: resto) =
      lotesDesde batchSize (batch ++ [e]) resto := by
  rw [lotesDesde, if_neg short]

theorem lotesEn_concat (queue : List (Option Lote)) (l : Lote) :
    (queue ++ [some l]).filterMap id = queue.filterMap id ++ [l] := by
  rw [List.filterMap_append]
  rfl

theorem lotesEn_cons (queue : List (Option Lote)) (l : Lote) :
    (some l :: queue).filterMap id = l :: queue.filterMap id := rfl

theorem Coherente.step {s t : Estado} {e : Evento} (co : Coherente cfg env modlist mods s)
    (paso : Paso cfg env s e t) (allowed : permitido cfg env s e) (going : t.aborta = false)
    (right : t.productor.falla = false) : Coherente cfg env modlist mods t := by
  cases paso with
  | lee at_ short =>
    exact co.produce (by simp [at_, Productor.lotes, lotesDesde_corto short])
      (by simp [at_, Productor.porContar]) (by simp)
  | llena at_ full =>
    exact co.produce (by simp [at_, Productor.lotes, lotesDesde_lleno full])
      (by simp [at_, Productor.porContar]) (by simp)
  | ultimo at_ some_ =>
    exact co.produce (by simp [at_, Productor.lotes, lotesDesde, some_])
      (by simp [at_, Productor.porContar]) (by simp)
  | leido at_ =>
    exact co.produce (by simp [at_, Productor.lotes, lotesDesde])
      (by simp [at_, Productor.porContar]) (by simp)
  | falla => cases right
  | @pone p b r at_ =>
    refine { co with lotes := ?_, vistos := ?_, vacia := by simp }
    · intro l
      have before := co.lotes l
      simp only [at_, Productor.lotes, List.count_cons] at before
      simp only [Productor.lotes, lotesEn_concat, List.count_append, List.count_cons, List.count_nil]
      omega
    · obtain ⟨vistos, counted, going, all⟩ := co.vistos
      refine ⟨vistos, counted, going, fun x => ?_⟩
      have before := all x
      simp only [at_, Productor.porContar, List.count_append] at before
      simp only [Productor.porContar, lotesEn_concat, List.flatMap_append, List.count_append]
      simp only [List.flatMap_cons, List.flatMap_nil, List.append_nil, List.count_nil]
      omega
  | @pildora n fallo at_ =>
    refine { co with lotes := ?_, vistos := ?_, vacia := by simp }
    · intro l
      have before := co.lotes l
      simp only [at_, Productor.lotes] at before
      simpa [Productor.lotes] using before
    · obtain ⟨vistos, counted, going, all⟩ := co.vistos
      refine ⟨vistos, counted, going, fun x => ?_⟩
      have before := all x
      simp only [at_, Productor.porContar] at before
      simpa [Productor.porContar] using before
  | acaba at_ =>
    exact co.produce (by simp [at_, Productor.lotes]) (by simp [at_, Productor.porContar])
      fun _ => allowed
  | @toma i lote queue at_ head =>
    refine { co with lotes := ?_, vistos := ?_, fiel := ?_, vacia := ?_ }
    · intro l
      have moved := enObreros_set at_ (.procesa lote lote.1 [] []) l
      have before := co.lotes l
      simp only [Obrero.lotes, List.count_cons, List.count_nil] at moved
      simp only [head, lotesEn_cons, List.count_cons] at before
      simp only [Estado.pasa]
      omega
    · obtain ⟨vistos, counted, going, all⟩ := co.vistos
      refine ⟨vistos, counted, going, fun x => ?_⟩
      have moved := porContarEn_set at_ (.procesa lote lote.1 [] []) x
      have before := all x
      simp only [Obrero.porContar, List.count_nil] at moved
      simp only [head, lotesEn_cons, List.flatMap_cons, List.count_append] at before
      simp only [Estado.pasa]
      omega
    · intro x mem
      rcases List.mem_or_eq_of_mem_set mem with old | rfl
      · exact co.fiel x old
      · exact ⟨[], rfl, rfl⟩
    · intro done
      refine .inl ((co.vacia done).resolve_right ?_)
      rw [head]
      exact List.cons_ne_nil _ _
  | @tomaPildora i queue at_ head =>
    have mid : Coherente cfg env modlist mods { s with queue := queue } := by
      have same : s.queue.filterMap id = queue.filterMap id := by rw [head]; rfl
      refine { co with lotes := ?_, vistos := ?_, vacia := ?_ }
      · simp only [← same]
        exact co.lotes
      · simp only [← same]
        exact co.vistos
      · intro done
        refine .inl ((co.vacia done).resolve_right ?_)
        rw [head]
        exact List.cons_ne_nil _ _
    exact mid.pasa at_ rfl rfl trivial
  | @procesa i lote x resto modRows logRows logRows' at_ counted =>
    refine { co with lotes := ?_, vistos := ?_, fiel := ?_ }
    · intro l
      have moved := enObreros_set at_ (.procesa lote resto (modRows ++ filasDe env [x]) logRows') l
      have before := co.lotes l
      simp only [Obrero.lotes] at moved
      simp only [Estado.pasa]
      omega
    · obtain ⟨vistos, result, going, all⟩ := co.vistos
      refine ⟨vistos ++ [x], by rw [resultado_concat, ← result]; rfl, ?_, fun y => ?_⟩
      · intro y mem
        rcases List.mem_append.mp mem with old | new
        · exact going y old
        · cases List.mem_singleton.mp new
          exact counted
      · have moved := porContarEn_set at_ (.procesa lote resto (modRows ++ filasDe env [x]) logRows') y
        have before := all y
        simp only [Obrero.porContar, List.count_cons] at moved
        simp only [Estado.pasa, List.count_append, List.count_cons, List.count_nil]
        omega
    · intro y mem
      rcases List.mem_or_eq_of_mem_set mem with old | rfl
      · exact co.fiel y old
      · obtain ⟨hechas, whole, rows⟩ := co.obrero at_
        refine ⟨hechas ++ [x], ?_, ?_⟩
        · rw [whole]
          simp
        · rw [rows, filasDe, filasDe, filasDe, List.filterMap_append]
  | hecho at_ =>
    obtain ⟨hechas, whole, rows⟩ := co.obrero at_
    refine co.pasa at_ rfl rfl ?_
    rw [List.append_nil] at whole
    rw [Obrero.Fiel, rows, whole]
  | @guarda i lote modRows logRows at_ =>
    have rows : modRows = filasDe env lote.1 := co.obrero at_
    refine { co with lotes := ?_, vistos := ?_, fiel := ?_, tabla := ?_, orden := ?_ }
    · intro l
      have moved := enObreros_set at_ (.anota logRows) l
      have before := co.lotes l
      simp only [Obrero.lotes, List.count_cons, List.count_nil] at moved
      simp only [Estado.pasa, Estado.commit, List.count_append, List.count_cons, List.count_nil]
      omega
    · obtain ⟨vistos, counted, going, all⟩ := co.vistos
      refine ⟨vistos, counted, going, fun x => ?_⟩
      have moved := porContarEn_set at_ (.anota logRows) x
      have before := all x
      simp only [Obrero.porContar, List.count_nil] at moved
      simp only [Estado.pasa, Estado.commit]
      omega
    · intro x mem
      rcases List.mem_or_eq_of_mem_set mem with old | rfl
      · exact co.fiel x old
      · trivial
    · simp only [Estado.pasa, Estado.commit, List.map_append, List.flatten_append]
      rw [upsertModsBatch_append, ← co.tabla, rows]
      simp
    · refine List.pairwise_append.mpr ⟨co.orden, List.pairwise_singleton _ _, fun a inside b mem => ?_⟩
      cases List.mem_singleton.mp mem
      exact allowed _ _ _ at_ a inside
  | @anota i logRows at_ =>
    have mid : Coherente cfg env modlist mods { s with taskLog := s.taskLog ++ logRows } := { co with }
    exact mid.pasa at_ rfl rfl trivial
  | aborta stops => rw [stops] at going; cases going

/-! The end -/

theorem Paso.sin_abortar {s t : Estado} {e : Evento} (paso : Paso cfg env s e t)
    (going : t.aborta = false) : s.aborta = false := by
  cases paso with
  | aborta stops => rw [stops] at going; cases going
  | _ => exact going

theorem Paso.sin_fallo {s t : Estado} {e : Evento} (paso : Paso cfg env s e t)
    (going : t.aborta = false) (right : t.productor.falla = false) : s.productor.falla = false := by
  cases paso with
  | aborta stops => rw [stops] at going; cases going
  | falla => cases right
  | lee at_ | llena at_ | ultimo at_ | leido at_ | pone at_ | acaba at_ => rw [at_]; rfl
  | pildora at_ =>
    rw [at_]
    exact right
  | _ => exact right

/-- The batch that has the last row of a mod. -/
theorem ultima_split {bs : List (List Fila)} {k : Int} {f : Fila} :
    ultima k bs.flatten = some f ↔ ∃ pre b post, bs = pre ++ b :: post ∧ ultima k b = some f ∧
      ∀ c ∈ post, ultima k c = none := by
  induction bs with
  | nil => simp [ultima]
  | cons a bs ih =>
    rw [List.flatten_cons, ultima_append, Option.or_eq_some_iff, ih]
    constructor
    · rintro (⟨pre, b, post, rfl, last, none_⟩ | ⟨none_, last⟩)
      · exact ⟨a :: pre, b, post, rfl, last, none_⟩
      · refine ⟨[], a, bs, rfl, last, fun c mem => ?_⟩
        cases found : ultima k c with
        | none => rfl
        | some g =>
          obtain ⟨h, other⟩ := ultima_of_mem mem found
          rw [none_] at other
          cases other
    · rintro ⟨pre, b, post, same, last, none_⟩
      cases pre with
      | nil =>
        cases same
        refine .inr ⟨?_, last⟩
        cases found : ultima k bs.flatten with
        | none => rfl
        | some g =>
          obtain ⟨c, mem, other⟩ := ultima_flatten found
          rw [none_ c mem] at other
          cases other
      | cons x pre =>
        cases same
        exact .inl ⟨pre, b, post, rfl, last, none_⟩

/-- Committed in any order in which no batch overwrites another row of a later one. -/
theorem upsert_ordenado {cs ls : List Lote} (perm : cs.Perm ls) (numbered : ls.Pairwise (·.2 < ·.2))
    (orden : cs.Pairwise fun a b => b.2 < a.2 → ¬ Choca env b a) (t : Tabla) :
    upsertModsBatch t (cs.map fun l => filasDe env l.1).flatten =
      upsertModsBatch t (ls.map fun l => filasDe env l.1).flatten := by
  apply upsertModsBatch_congr
  intro k
  have last : ∀ f, ultima k (ls.map fun l => filasDe env l.1).flatten = some f →
      ultima k (cs.map fun l => filasDe env l.1).flatten = some f := by
    intro f found
    obtain ⟨_, _, _, split_, lastB, noneAfter⟩ := ultima_split.mp found
    obtain ⟨pre, rest, rfl, rfl, same⟩ := List.map_eq_append_iff.mp split_
    obtain ⟨b, post, rfl, rfl, rfl⟩ := List.map_eq_cons_iff.mp same
    have inside : b ∈ cs := perm.mem_iff.mpr (by simp)
    have row : filasDe env b.1 ∈ cs.map fun l => filasDe env l.1 := List.mem_map_of_mem inside
    obtain ⟨g, other⟩ := ultima_of_mem row lastB
    obtain ⟨_, _, _, splitC, lastD, noneC⟩ := ultima_split.mp other
    obtain ⟨preC, restC, rfl, rfl, sameC⟩ := List.map_eq_append_iff.mp splitC
    obtain ⟨d, postC, rfl, rfl, rfl⟩ := List.map_eq_cons_iff.mp sameC
    rw [other]
    have equal : b = d → g = f := by
      intro same
      rw [same, lastD] at lastB
      exact Option.some.inj lastB
    have insideL : d ∈ pre ++ b :: post := perm.mem_iff.mp (by simp)
    have where_ : d.2 < b.2 ∨ b = d := by
      rcases List.mem_append.mp insideL with before | after
      · exact .inl ((List.pairwise_append.mp numbered).2.2 d before b List.mem_cons_self)
      · rcases List.mem_cons.mp after with same | after
        · exact .inr same.symm
        · rw [noneAfter _ (List.mem_map_of_mem after)] at lastD
          cases lastD
    rcases where_ with less | same
    · rcases List.mem_append.mp inside with before | after
      · have apart := (List.pairwise_append.mp orden).2.2 b before d List.mem_cons_self less
        by_contra different
        exact apart ⟨k, g, f, lastD, lastB, fun eq => different (congrArg some eq)⟩
      · rcases List.mem_cons.mp after with same | after
        · exact congrArg some (equal same)
        · rw [noneC _ (List.mem_map_of_mem after)] at lastB
          cases lastB
    · exact congrArg some (equal same)
  cases found : ultima k (ls.map fun l => filasDe env l.1).flatten with
  | some f => exact last f found
  | none =>
    cases other : ultima k (cs.map fun l => filasDe env l.1).flatten with
    | none => rfl
    | some g =>
      obtain ⟨_, mem, lastB⟩ := ultima_flatten other
      have inside := (perm.map fun l => filasDe env l.1).mem_iff.mp mem
      obtain ⟨h, found'⟩ := ultima_of_mem inside lastB
      rw [found] at found'
      cases found'

theorem zipIdx_numbered {α : Type} (ls : List α) (n : Nat) : (ls.zipIdx n).Pairwise (·.2 < ·.2) := by
  induction ls generalizing n with
  | nil => exact List.Pairwise.nil
  | cons l ls ih =>
    rw [List.zipIdx_cons]
    refine List.pairwise_cons.mpr ⟨fun x mem => ?_, ih (n + 1)⟩
    have := (List.mem_zipIdx mem).1
    omega

/-- A run that has returned has nothing left to count or to commit. -/
theorem Coherente.devuelto {s : Estado} (co : Coherente cfg env modlist mods s) (vivo : Vivo cfg s)
    (done : s.devuelve) :
    (∃ vistos, vistos.Perm modlist ∧ s.result = resultado env vistos ∧
      ∀ e ∈ vistos, procesarMod env e ≠ .excepcion) ∧
    s.confirmados.Perm (lotesDesde cfg.batchSize [] modlist).zipIdx := by
  obtain ⟨producer, workers, _⟩ := done
  have allDone : ∀ o ∈ s.obreros, o = .listo := by
    intro o mem
    have := workers o mem
    cases o <;> first | rfl | cases this
  have same : s.obreros = List.replicate cfg.workers .listo :=
    List.eq_replicate_iff.mpr ⟨vivo.largo, allDone⟩
  have empty : s.queue.filterMap id = [] := by
    rcases co.vacia producer with some_ | none_
    · apply vivo.detras
      rw [same]
      simpa [listos, Obrero.esListo] using some_
    · rw [none_]
      rfl
  constructor
  · obtain ⟨vistos, result, going, all⟩ := co.vistos
    refine ⟨vistos, List.perm_iff_count.mpr fun e => ?_, result, going⟩
    have := all e
    rw [empty, producer, same] at this
    simpa [porContarEn, Obrero.porContar, Productor.porContar] using this
  · refine List.perm_iff_count.mpr fun l => ?_
    have := co.lotes l
    rw [empty, producer, same] at this
    simpa [enObreros, Obrero.lotes, Productor.lotes] using this

def pythonFijo : Python where
  strip t := t
  isdigit t := !t.isEmpty && t.all Char.isDigit
  int t := some (t.foldl (fun n c => 10 * n + (c.toNat - 48)) (0 : Nat))

def sinNexus : Entorno := ⟨pythonFijo, fun _ => none, fun _ => .vacia, false⟩

def dosEntradas : List Entrada := [("A-12".toList, true), ("B-12".toList, false)]

def dosObreros : SyncConfig := ⟨2, 1, 50⟩

def sinFilas : Tabla := fun _ => none

/-- Both workers have a batch, up to its upsert. -/
def repartidos : List Evento :=
  [.lee, .pone, .lee, .pone, .lee, .toma 0, .toma 1, .avanza 0, .avanza 0, .avanza 1, .avanza 1]

def final : List Evento := [.anota 0 true, .anota 1 true, .pone, .pone, .acaba, .toma 0, .toma 1]

def enOrden : List Evento := repartidos ++ (.guarda 0 true :: .guarda 1 true :: final)

def invertido : List Evento := repartidos ++ (.guarda 1 true :: .guarda 0 true :: final)

instance (s : Estado) : Decidable s.devuelve := by
  unfold Estado.devuelve; infer_instance

def permite (cfg : SyncConfig) (s : Estado) : Evento → Bool
  | .guarda i true =>
    match s.obreros[i]? with
    | some (.guarda lote _ _) => s.confirmados.all fun otro => decide (otro.2 ≤ lote.2)
    | _ => true
  | .acaba => decide (0 < cfg.workers)
  | _ => true

theorem permitido_of_permite {s : Estado} {e : Evento} (check : permite cfg s e = true) :
    permitido cfg env s e := by
  cases e with
  | guarda i ok =>
    cases ok with
    | false => trivial
    | true =>
      intro lote modRows logRows here otro mem less
      simp only [permite, here, List.all_eq_true, decide_eq_true_eq] at check
      have := check otro mem
      omega
  | acaba => exact .inl (of_decide_eq_true check)
  | _ => trivial

end SyncEngine
