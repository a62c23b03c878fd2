import SkyClaw.DirectoryRollback

set_option linter.all false

/-!
The previous generation through a whole run of `DirectoryRollback`: where it is in
each phase, and that only a commit or a granted discard gives it up.
-/
namespace DirectoryRollback
open TransitionRuns

variable {E : Type}

def Respaldada (s : Estado E) : Prop :=
  (∃ h, s.previo = some (.arbol h)) ∧ s.tieneBackup = true ∧ s.backup = s.previo

/-- During the block: the previous tree is aside, or there was nothing. -/
def Aparte (s : Estado E) : Prop :=
  (s.previo = none ∧ s.tieneBackup = false ∧ s.backup = none) ∨ Respaldada s

/-- During the restore of a target that was not generated. -/
def Vacia (s : Estado E) : Prop :=
  (∃ h, s.previo = some (.arbol h)) ∧
    ((s.target = s.previo ∧ s.backup = none) ∨ s.backup = s.previo)

/-- The previous tree is at one of the two paths and the other one is free. -/
def Desplazada (s : Estado E) : Prop :=
  (∃ h, s.previo = some (.arbol h)) ∧
    ((s.target = s.previo ∧ s.backup = none) ∨ (s.target = none ∧ s.backup = s.previo))

/-- A clean exit that the validator accepts, with the authority to delete and a target
that is a real directory with something in it. -/
def Regenerada (s : Estado E) : Prop :=
  s.limpia = true ∧ s.validada = true ∧ s.concedida = true ∧
    ∃ x h, s.target = some (.arbol (x :: h))

/-- The previous tree is intact at the target or at the backup path. -/
def Guardada (s : Estado E) : Prop :=
  ∀ h, s.previo = some (.arbol h) → s.target = s.previo ∨ s.backup = s.previo

def Veraz (s : Estado E) : Prop := s.rollbackCompleted = true → s.target = s.previo

def Final (s : Estado E) : Prop :=
  (Guardada s ∨ s.confirmado = true ∨ Regenerada s) ∧ Veraz s

/-- What holds while the outcome is open, besides where the previous tree is. -/
def Pendiente (s : Estado E) : Prop := s.rollbackCompleted = false ∧ s.enabled = true

/-- What holds in each phase. -/
def Coherente (s : Estado E) : Prop :=
  match s.fase with
  | .preflight _ => s.target = s.previo ∧ s.backup = none ∧ s.tieneBackup = false ∧ s.enabled = true
  | .moviendo _ _ => Pendiente s ∧ s.tieneBackup = true ∧ Desplazada s
  | .movido exito =>
    Pendiente s ∧ s.tieneBackup = true ∧ Desplazada s ∧ (exito = true → s.backup = s.previo)
  | .deshacerMiraBackup _ => Pendiente s ∧ Desplazada s
  | .deshacerMiraTarget _ b => Pendiente s ∧ Desplazada s ∧ b = s.backup.isSome
  | .deshacerRenombra _ _ => Pendiente s ∧ Desplazada s
  | .deshacerVuelveABackup _ => Pendiente s ∧ Desplazada s
  | .deshacerVuelveATarget _ b => Pendiente s ∧ Desplazada s ∧ b = s.backup.isSome
  | .hiloSuelto => Pendiente s ∧ Desplazada s
  | .cuerpo => s.rollbackCompleted = false ∧
      ((s.confirmado = true ∧ s.enabled = false) ∨ (s.enabled = true ∧ Aparte s))
  | .commitMira => s.rollbackCompleted = false ∧ s.confirmado = true ∧ s.enabled = false
  | .commitInspecciona _ => s.rollbackCompleted = false ∧ s.confirmado = true ∧ s.enabled = false
  | .commitBorra _ => s.rollbackCompleted = false ∧ s.confirmado = true ∧ s.enabled = false
  | .salidaVeto => Pendiente s ∧ Aparte s
  | .restauraMira => Pendiente s ∧ Aparte s
  | .restauraBorra _ => Pendiente s ∧ Aparte s
  | .restauraMiraBackup => Pendiente s ∧ Aparte s ∧ s.target = none
  | .restauraRenombra _ => Pendiente s ∧ Desplazada s
  | .salidaValida => Pendiente s ∧ Aparte s ∧ s.limpia = true
  | .descarteMira => Pendiente s ∧ Aparte s ∧ s.limpia = true ∧ s.validada = true
  | .descarteInspecciona _ => Pendiente s ∧ Respaldada s ∧ s.limpia = true ∧ s.validada = true
  | .descarteSinRegenerar => Pendiente s ∧ Respaldada s ∧ s.limpia = true ∧ s.validada = true
  | .vacioEnlace _ => Pendiente s ∧ Vacia s
  | .vacioVeto _ => Pendiente s ∧ Vacia s
  | .vacioRmdir _ => Pendiente s ∧ Vacia s
  | .vacioRenombra _ => Pendiente s ∧ Desplazada s
  | .descarteVeto => Pendiente s ∧ Respaldada s ∧ s.limpia = true ∧ s.validada = true ∧
      ∃ x h, s.target = some (.arbol (x :: h))
  | .descarteBorra _ => Pendiente s ∧ Regenerada s
  | .terminado => Final s

/-- The step that loses a generation: the target is an empty directory that an earlier
attempt put back, and `rmdir` removes it. -/
def Permitido (s : Estado E) (e : Evento E) : Prop :=
  ∀ i, s.fase = .vacioRmdir i → s.backup = none → e ≠ .rmdir .ok ∧ e ≠ .rmdir .mutaYFalla

section
variable {s t : Estado E} {e : Evento E}

theorem Desplazada.guardada (h : Desplazada s) : Guardada s := by
  intro hijos _
  rcases h.2 with ⟨here, _⟩ | ⟨_, aside⟩
  · exact Or.inl here
  · exact Or.inr aside

theorem Aparte.guardada (h : Aparte s) : Guardada s := by
  intro hijos previo
  rcases h with ⟨nada, _, _⟩ | ⟨_, _, aside⟩
  · rw [nada] at previo
    cases previo
  · exact Or.inr aside

theorem Respaldada.guardada (h : Respaldada s) : Guardada s := fun _ _ => Or.inr h.2.2

theorem Vacia.guardada (h : Vacia s) : Guardada s := by
  intro hijos _
  rcases h.2 with ⟨here, _⟩ | aside
  · exact Or.inl here
  · exact Or.inr aside

theorem Respaldada.vacia (h : Respaldada s) : Vacia s := ⟨h.1, Or.inr h.2.2⟩

theorem Desplazada.vacia (h : Desplazada s) : Vacia s :=
  ⟨h.1, h.2.imp id fun aside => aside.2⟩

/-- With the target free a tree that is not lost is at the backup path. -/
theorem Vacia.desplazada (h : Vacia s) (free : s.target = none) : Desplazada s := by
  obtain ⟨⟨hijos, previo⟩, ⟨here, _⟩ | aside⟩ := h
  · rw [free, previo] at here
    cases here
  · exact ⟨⟨hijos, previo⟩, Or.inr ⟨free, aside⟩⟩

theorem final_pendiente (pending : s.rollbackCompleted = false)
    (kept : Guardada s ∨ s.confirmado = true ∨ Regenerada s) : Final s := by
  refine ⟨kept, ?_⟩
  intro done
  rw [pending] at done
  cases done

theorem final_de (pending : s.rollbackCompleted = false) (kept : Guardada s) : Final s :=
  final_pendiente pending (Or.inl kept)

theorem Desplazada.aparta (h : Desplazada s) (d : Desenlace) :
    let (target, backup, exito) := renombrar s.target s.backup d
    Desplazada { s with target, backup } ∧ (exito = true → backup = s.previo) := by
  obtain ⟨⟨hijos, previo⟩, ⟨here, free⟩ | ⟨free, aside⟩⟩ := h
  · cases d <;> simp [renombrar, Desplazada, here, free, previo]
  · simp [renombrar, Desplazada, aside, free, previo]

theorem Desplazada.devuelve (h : Desplazada s) (d : Desenlace) :
    let (backup, target, exito) := renombrar s.backup s.target d
    Desplazada { s with target, backup } ∧ (exito = true → target = s.previo) := by
  obtain ⟨⟨hijos, previo⟩, ⟨here, free⟩ | ⟨free, aside⟩⟩ := h
  · simp [renombrar, Desplazada, here, free, previo]
  · cases d <;> simp [renombrar, Desplazada, aside, free, previo]

/-- With the target there and no backup the previous tree is back. -/
theorem Desplazada.vuelta (h : Desplazada s) (there : s.target.isSome = true) :
    s.target = s.previo := by
  obtain ⟨_, ⟨here, _⟩ | ⟨free, _⟩⟩ := h
  · exact here
  · simp [free] at there

theorem coherente_reintenta {intento : Nat} {otra : Nat → Fase} {rendido : Estado E}
    (again : Coherente (s.va (otra (intento + 1)))) (gives_up : Coherente rendido) :
    Coherente (s.reintenta intento otra rendido) := by
  simp only [Estado.reintenta]
  split
  · exact again
  · exact gives_up

theorem preflight_coherente {i : Nat}
    (h : s.target = s.previo ∧ s.backup = none ∧ s.tieneBackup = false ∧ s.enabled = true)
    (ran : preflight s i e = some t) : Coherente t := by
  obtain ⟨here, noBackup, noName, on⟩ := h
  have done : Final s := ⟨Or.inl fun _ _ => Or.inl here, fun _ => here⟩
  cases e with
  | cancela =>
    obtain rfl := Option.some.inj ran
    exact done
  | falla =>
    obtain rfl := Option.some.inj ran
    exact coherente_reintenta ⟨here, noBackup, noName, on⟩ done
  | mira =>
    simp only [preflight] at ran
    split at ran
    · obtain rfl := Option.some.inj ran
      exact done
    · obtain rfl := Option.some.inj ran
      exact done
    · rename_i absent
      obtain rfl := Option.some.inj ran
      exact ⟨rfl, Or.inr ⟨on, Or.inl ⟨by rw [← here, absent], noName, noBackup⟩⟩⟩
    · rename_i hijos found
      obtain rfl := Option.some.inj ran
      exact ⟨⟨rfl, on⟩, rfl, ⟨hijos, by rw [← here, found]⟩, Or.inl ⟨here, noBackup⟩⟩
  | _ => cases ran

theorem moviendo_coherente {i : Nat} {c : Bool}
    (h : Pendiente s ∧ s.tieneBackup = true ∧ Desplazada s)
    (ran : moviendo s i c e = some t) : Coherente t := by
  obtain ⟨pendiente, name, moved⟩ := h
  cases e with
  | cancela =>
    obtain rfl := Option.some.inj ran
    exact ⟨pendiente, name, moved⟩
  | rename d =>
    have after := moved.aparta d
    simp only [moviendo] at ran
    split at ran
    · rename_i exito
      obtain rfl := Option.some.inj ran
      cases c with
      | true => exact ⟨pendiente, after.1⟩
      | false => exact ⟨pendiente, name, after.1, fun _ => after.2 exito⟩
    · rename_i fallo
      obtain rfl := Option.some.inj ran
      refine coherente_reintenta ⟨pendiente, name, after.1⟩ ?_
      cases c with
      | true => exact ⟨pendiente, after.1⟩
      | false => exact ⟨pendiente, name, after.1, fun exito => absurd exito fallo⟩
  | _ => cases ran

theorem movido_coherente {exito : Bool}
    (h : Pendiente s ∧ s.tieneBackup = true ∧ Desplazada s ∧ (exito = true → s.backup = s.previo))
    (ran : movido s exito e = some t) : Coherente t := by
  obtain ⟨pendiente, name, moved, aside⟩ := h
  cases e with
  | cancela =>
    obtain rfl := Option.some.inj ran
    exact ⟨pendiente, moved⟩
  | sigue =>
    obtain rfl := Option.some.inj ran
    cases exito with
    | true => exact ⟨pendiente.1, Or.inr ⟨pendiente.2, Or.inr ⟨moved.1, name, aside rfl⟩⟩⟩
    | false => exact ⟨pendiente, moved⟩
  | _ => cases ran

theorem cancelaDeshacer_coherente {p : Bool} (h : Pendiente s ∧ Desplazada s)
    (here : Coherente s) : Coherente (s.cancelaDeshacer p) := by
  cases p with
  | true => exact here
  | false => exact final_de h.1.1 h.2.guardada

theorem deshecho_coherente {confirmado : Bool} (moved : Desplazada s)
    (back : confirmado = true → s.target = s.previo) : Coherente (s.deshecho confirmado) :=
  ⟨Or.inl moved.guardada, back⟩

theorem deshacerMiraBackup_coherente {p : Bool} (phase : s.fase = .deshacerMiraBackup p)
    (h : Pendiente s ∧ Desplazada s) (ran : deshacerMiraBackup s p e = some t) :
    Coherente t := by
  cases e with
  | mira =>
    obtain rfl := Option.some.inj ran
    exact ⟨h.1, h.2, rfl⟩
  | falla =>
    obtain rfl := Option.some.inj ran
    exact final_de h.1.1 h.2.guardada
  | cancela =>
    obtain rfl := Option.some.inj ran
    exact cancelaDeshacer_coherente h (by simpa [Coherente, phase] using h)
  | _ => cases ran

theorem deshacerMiraTarget_coherente {p b : Bool} (phase : s.fase = .deshacerMiraTarget p b)
    (h : Pendiente s ∧ Desplazada s ∧ b = s.backup.isSome)
    (ran : deshacerMiraTarget s p b e = some t) : Coherente t := by
  obtain ⟨pendiente, moved, seen⟩ := h
  cases e with
  | mira =>
    simp only [deshacerMiraTarget] at ran
    split at ran
    · rename_i there
      obtain rfl := Option.some.inj ran
      simp only [Bool.and_eq_true] at there
      exact deshecho_coherente moved fun _ => moved.vuelta there.1
    split at ran
    · obtain rfl := Option.some.inj ran
      exact ⟨pendiente, moved⟩
    · obtain rfl := Option.some.inj ran
      exact deshecho_coherente moved nofun
  | falla =>
    obtain rfl := Option.some.inj ran
    exact final_de pendiente.1 moved.guardada
  | cancela =>
    obtain rfl := Option.some.inj ran
    exact cancelaDeshacer_coherente ⟨pendiente, moved⟩
      (by simpa [Coherente, phase] using ⟨pendiente, moved, seen⟩)
  | _ => cases ran

theorem deshacerRenombra_coherente {p : Bool} {i : Nat} (phase : s.fase = .deshacerRenombra p i)
    (h : Pendiente s ∧ Desplazada s) (ran : deshacerRenombra s p i e = some t) :
    Coherente t := by
  obtain ⟨pendiente, moved⟩ := h
  cases e with
  | rename d =>
    have after := moved.devuelve d
    simp only [deshacerRenombra] at ran
    split at ran
    · obtain rfl := Option.some.inj ran
      exact ⟨pendiente, after.1⟩
    · obtain rfl := Option.some.inj ran
      exact coherente_reintenta ⟨pendiente, after.1⟩ (deshecho_coherente after.1 nofun)
  | cancela =>
    obtain rfl := Option.some.inj ran
    cases p with
    | true => simpa [Coherente, phase] using ⟨pendiente, moved⟩
    | false => exact ⟨pendiente, moved⟩
  | _ => cases ran

theorem deshacerVuelveABackup_coherente {p : Bool} (phase : s.fase = .deshacerVuelveABackup p)
    (h : Pendiente s ∧ Desplazada s) (ran : deshacerVuelveABackup s p e = some t) :
    Coherente t := by
  cases e with
  | mira =>
    obtain rfl := Option.some.inj ran
    exact ⟨h.1, h.2, rfl⟩
  | falla =>
    obtain rfl := Option.some.inj ran
    exact final_de h.1.1 h.2.guardada
  | cancela =>
    obtain rfl := Option.some.inj ran
    exact cancelaDeshacer_coherente h (by simpa [Coherente, phase] using h)
  | _ => cases ran

theorem deshacerVuelveATarget_coherente {p b : Bool} (phase : s.fase = .deshacerVuelveATarget p b)
    (h : Pendiente s ∧ Desplazada s ∧ b = s.backup.isSome)
    (ran : deshacerVuelveATarget s p b e = some t) : Coherente t := by
  obtain ⟨pendiente, moved, seen⟩ := h
  cases e with
  | mira =>
    obtain rfl := Option.some.inj ran
    refine deshecho_coherente moved ?_
    intro there
    simp only [Bool.and_eq_true] at there
    exact moved.vuelta there.1
  | falla =>
    obtain rfl := Option.some.inj ran
    exact final_de pendiente.1 moved.guardada
  | cancela =>
    obtain rfl := Option.some.inj ran
    exact cancelaDeshacer_coherente ⟨pendiente, moved⟩
      (by simpa [Coherente, phase] using ⟨pendiente, moved, seen⟩)
  | _ => cases ran

theorem hiloSuelto_coherente (h : Pendiente s ∧ Desplazada s) (ran : hiloSuelto s e = some t) :
    Coherente t := by
  cases e with
  | rename d =>
    obtain rfl := Option.some.inj ran
    exact final_de h.1.1 (h.2.devuelve d).1.guardada
  | sigue =>
    obtain rfl := Option.some.inj ran
    exact final_de h.1.1 h.2.guardada
  | _ => cases ran

theorem cuerpo_coherente (phase : s.fase = .cuerpo)
    (h : s.rollbackCompleted = false ∧
      ((s.confirmado = true ∧ s.enabled = false) ∨ (s.enabled = true ∧ Aparte s)))
    (ran : cuerpo s e = some t) : Coherente t := by
  obtain ⟨pending, state⟩ := h
  have committed (yes : s.confirmado = true) : Final s :=
    final_pendiente pending (Or.inr (Or.inl yes))
  cases e with
  | deja x =>
    obtain rfl := Option.some.inj ran
    simpa [Coherente, phase, Aparte] using ⟨pending, state⟩
  | commit =>
    simp only [cuerpo] at ran
    split at ran
    · obtain rfl := Option.some.inj ran
      exact ⟨pending, rfl, rfl⟩
    · obtain rfl := Option.some.inj ran
      simpa [Coherente, phase] using ⟨pending, state⟩
  | acaba exc =>
    simp only [cuerpo] at ran
    split at ran
    · rename_i off
      obtain rfl := Option.some.inj ran
      rcases state with ⟨yes, _⟩ | ⟨on, _⟩
      · exact committed yes
      · exact absurd on off
    rename_i on
    have aside : Aparte s := by
      rcases state with ⟨_, off⟩ | ⟨_, aside⟩
      · exact absurd off (by simpa using on)
      · exact aside
    have pendiente : Pendiente s := ⟨pending, by simpa using on⟩
    split at ran
    · obtain rfl := Option.some.inj ran
      exact ⟨pendiente, aside, rfl⟩
    · obtain rfl := Option.some.inj ran
      exact final_de pending aside.guardada
    · obtain rfl := Option.some.inj ran
      exact ⟨pendiente, aside⟩
  | _ => cases ran

theorem commitMira_coherente (phase : s.fase = .commitMira)
    (h : s.rollbackCompleted = false ∧ s.confirmado = true ∧ s.enabled = false)
    (ran : commitMira s e = some t) : Coherente t := by
  obtain ⟨pending, yes, off⟩ := h
  cases e with
  | mira =>
    simp only [commitMira] at ran
    split at ran
    · obtain rfl := Option.some.inj ran
      exact ⟨pending, yes, off⟩
    · obtain rfl := Option.some.inj ran
      exact ⟨pending, Or.inl ⟨yes, off⟩⟩
  | falla =>
    obtain rfl := Option.some.inj ran
    exact ⟨pending, Or.inl ⟨yes, off⟩⟩
  | cancela =>
    obtain rfl := Option.some.inj ran
    simpa [Coherente, phase] using ⟨pending, yes, off⟩
  | _ => cases ran

theorem commitInspecciona_coherente {i : Nat} (phase : s.fase = .commitInspecciona i)
    (h : s.rollbackCompleted = false ∧ s.confirmado = true ∧ s.enabled = false)
    (ran : commitInspecciona s i e = some t) : Coherente t := by
  cases e with
  | mira =>
    obtain rfl := Option.some.inj ran
    exact h
  | falla =>
    obtain rfl := Option.some.inj ran
    exact coherente_reintenta h ⟨h.1, Or.inl h.2⟩
  | cancela =>
    obtain rfl := Option.some.inj ran
    simpa [Coherente, phase] using h
  | _ => cases ran

theorem commitBorra_coherente {i : Nat} (phase : s.fase = .commitBorra i)
    (h : s.rollbackCompleted = false ∧ s.confirmado = true ∧ s.enabled = false)
    (ran : commitBorra s i e = some t) : Coherente t := by
  cases e with
  | borra b =>
    cases b with
    | ok =>
      obtain rfl := Option.some.inj ran
      exact ⟨h.1, Or.inl h.2⟩
    | falla queda =>
      obtain rfl := Option.some.inj ran
      exact coherente_reintenta h ⟨h.1, Or.inl h.2⟩
  | cancela =>
    obtain rfl := Option.some.inj ran
    simpa [Coherente, phase] using h
  | _ => cases ran

theorem salidaVeto_coherente (phase : s.fase = .salidaVeto) (h : Pendiente s ∧ Aparte s)
    (ran : salidaVeto s e = some t) : Coherente t := by
  cases e with
  | responde r =>
    cases r with
    | si =>
      obtain rfl := Option.some.inj ran
      exact h
    | _ =>
      obtain rfl := Option.some.inj ran
      exact final_de h.1.1 h.2.guardada
  | cancela =>
    obtain rfl := Option.some.inj ran
    simpa [Coherente, phase] using h
  | _ => cases ran

theorem error_coherente (pending : s.rollbackCompleted = false) (kept : Guardada s) :
    Coherente s.error := final_de pending kept

theorem restauraMira_coherente (phase : s.fase = .restauraMira) (h : Pendiente s ∧ Aparte s)
    (ran : restauraMira s e = some t) : Coherente t := by
  cases e with
  | mira =>
    obtain rfl := Option.some.inj ran
    by_cases there : s.target.isSome = true
    · rw [if_pos there]
      exact h
    · rw [if_neg there]
      have free : s.target = none := by simpa using there
      exact ⟨h.1, h.2, free⟩
  | falla =>
    obtain rfl := Option.some.inj ran
    exact error_coherente h.1.1 h.2.guardada
  | cancela =>
    obtain rfl := Option.some.inj ran
    simpa [Coherente, phase] using h
  | _ => cases ran

theorem restauraBorra_coherente {i : Nat} (phase : s.fase = .restauraBorra i)
    (h : Pendiente s ∧ Aparte s) (ran : restauraBorra s i e = some t) : Coherente t := by
  cases e with
  | borra b =>
    cases b with
    | ok =>
      obtain rfl := Option.some.inj ran
      exact ⟨h.1, h.2, rfl⟩
    | falla queda =>
      obtain rfl := Option.some.inj ran
      have aside : Aparte { s with target := queda } := h.2
      exact coherente_reintenta ⟨h.1, aside⟩ (error_coherente h.1.1 aside.guardada)
  | cancela =>
    obtain rfl := Option.some.inj ran
    simpa [Coherente, phase] using h
  | _ => cases ran

theorem restauraMiraBackup_coherente (phase : s.fase = .restauraMiraBackup)
    (h : Pendiente s ∧ Aparte s ∧ s.target = none) (ran : restauraMiraBackup s e = some t) :
    Coherente t := by
  obtain ⟨pendiente, aside, free⟩ := h
  cases e with
  | mira =>
    simp only [restauraMiraBackup] at ran
    split at ran
    · rename_i there
      obtain rfl := Option.some.inj ran
      rcases aside with ⟨_, noName, _⟩ | ⟨previo, _, backup⟩
      · simp [noName] at there
      · exact ⟨pendiente, previo, Or.inr ⟨free, backup⟩⟩
    · rename_i gone
      obtain rfl := Option.some.inj ran
      refine ⟨Or.inl aside.guardada, fun _ => ?_⟩
      rcases aside with ⟨nothing, _, _⟩ | ⟨⟨hijos, previo⟩, name, backup⟩
      · exact free.trans nothing.symm
      · simp [name, backup, previo] at gone
  | falla =>
    obtain rfl := Option.some.inj ran
    exact error_coherente pendiente.1 aside.guardada
  | cancela =>
    obtain rfl := Option.some.inj ran
    simpa [Coherente, phase] using ⟨pendiente, aside, free⟩
  | _ => cases ran

theorem restauraRenombra_coherente {i : Nat} (phase : s.fase = .restauraRenombra i)
    (h : Pendiente s ∧ Desplazada s) (ran : restauraRenombra s i e = some t) : Coherente t := by
  cases e with
  | rename d =>
    have after := h.2.devuelve d
    simp only [restauraRenombra] at ran
    split at ran
    · rename_i exito
      obtain rfl := Option.some.inj ran
      exact ⟨Or.inl after.1.guardada, fun _ => after.2 exito⟩
    · obtain rfl := Option.some.inj ran
      exact coherente_reintenta ⟨h.1, after.1⟩ (error_coherente h.1.1 after.1.guardada)
  | cancela =>
    obtain rfl := Option.some.inj ran
    simpa [Coherente, phase] using h
  | _ => cases ran

theorem salidaValida_coherente (phase : s.fase = .salidaValida)
    (h : Pendiente s ∧ Aparte s ∧ s.limpia = true) (ran : salidaValida s e = some t) :
    Coherente t := by
  cases e with
  | responde r =>
    cases r with
    | si =>
      obtain rfl := Option.some.inj ran
      exact ⟨h.1, h.2.1, h.2.2, rfl⟩
    | _ =>
      obtain rfl := Option.some.inj ran
      exact final_de h.1.1 h.2.1.guardada
  | cancela =>
    obtain rfl := Option.some.inj ran
    simpa [Coherente, phase] using h
  | _ => cases ran

theorem descarteMira_coherente (phase : s.fase = .descarteMira)
    (h : Pendiente s ∧ Aparte s ∧ s.limpia = true ∧ s.validada = true)
    (ran : descarteMira s e = some t) : Coherente t := by
  cases e with
  | mira =>
    simp only [descarteMira] at ran
    split at ran
    · rename_i there
      obtain rfl := Option.some.inj ran
      rcases h.2.1 with ⟨_, noName, _⟩ | aside
      · simp [noName] at there
      · exact ⟨h.1, aside, h.2.2⟩
    · obtain rfl := Option.some.inj ran
      exact final_de h.1.1 h.2.1.guardada
  | falla =>
    obtain rfl := Option.some.inj ran
    exact error_coherente h.1.1 h.2.1.guardada
  | cancela =>
    obtain rfl := Option.some.inj ran
    simpa [Coherente, phase] using h
  | _ => cases ran

theorem descarteInspecciona_coherente {i : Nat} (phase : s.fase = .descarteInspecciona i)
    (h : Pendiente s ∧ Respaldada s ∧ s.limpia = true ∧ s.validada = true)
    (ran : descarteInspecciona s i e = some t) : Coherente t := by
  cases e with
  | mira =>
    obtain rfl := Option.some.inj ran
    exact h
  | falla =>
    obtain rfl := Option.some.inj ran
    exact coherente_reintenta h (error_coherente h.1.1 h.2.1.guardada)
  | cancela =>
    obtain rfl := Option.some.inj ran
    simpa [Coherente, phase] using h
  | _ => cases ran

theorem descarteSinRegenerar_coherente (phase : s.fase = .descarteSinRegenerar)
    (h : Pendiente s ∧ Respaldada s ∧ s.limpia = true ∧ s.validada = true)
    (ran : descarteSinRegenerar s e = some t) : Coherente t := by
  cases e with
  | mira =>
    simp only [descarteSinRegenerar] at ran
    split at ran
    · obtain rfl := Option.some.inj ran
      exact ⟨h.1, h.2.1.vacia⟩
    · obtain rfl := Option.some.inj ran
      exact ⟨h.1, h.2.1.vacia⟩
    · obtain rfl := Option.some.inj ran
      exact ⟨h.1, h.2.1.vacia⟩
    · rename_i x hijos found
      obtain rfl := Option.some.inj ran
      exact ⟨h.1, h.2.1, h.2.2.1, h.2.2.2, x, hijos, found⟩
    · obtain rfl := Option.some.inj ran
      exact error_coherente h.1.1 h.2.1.guardada
  | falla =>
    obtain rfl := Option.some.inj ran
    exact error_coherente h.1.1 h.2.1.guardada
  | cancela =>
    obtain rfl := Option.some.inj ran
    simpa [Coherente, phase] using h
  | _ => cases ran

theorem vacioEnlace_coherente {i : Nat} (phase : s.fase = .vacioEnlace i)
    (h : Pendiente s ∧ Vacia s) (ran : vacioEnlace s i e = some t) : Coherente t := by
  cases e with
  | mira =>
    simp only [vacioEnlace] at ran
    split at ran
    · obtain rfl := Option.some.inj ran
      exact final_de h.1.1 h.2.guardada
    · obtain rfl := Option.some.inj ran
      exact h
  | falla =>
    obtain rfl := Option.some.inj ran
    exact coherente_reintenta h (error_coherente h.1.1 h.2.guardada)
  | cancela =>
    obtain rfl := Option.some.inj ran
    simpa [Coherente, phase] using h
  | _ => cases ran

theorem vacioVeto_coherente {i : Nat} (phase : s.fase = .vacioVeto i)
    (h : Pendiente s ∧ Vacia s) (ran : vacioVeto s i e = some t) : Coherente t := by
  cases e with
  | responde r =>
    cases r with
    | si =>
      obtain rfl := Option.some.inj ran
      by_cases there : s.target.isSome = true
      · rw [if_pos there]
        exact h
      · rw [if_neg there]
        have free : s.target = none := by simpa using there
        exact ⟨h.1, h.2.desplazada free⟩
    | _ =>
      obtain rfl := Option.some.inj ran
      exact final_de h.1.1 h.2.guardada
  | cancela =>
    obtain rfl := Option.some.inj ran
    simpa [Coherente, phase] using h
  | _ => cases ran

theorem quitarVacio_cases (x : Option (Cosa E)) (d : Desenlace) :
    ((quitarVacio x d).1 = none ∧ (d = .ok ∨ d = .mutaYFalla)) ∨ quitarVacio x d = (x, false) := by
  fun_cases quitarVacio x d with
  | case1 => exact Or.inl ⟨rfl, Or.inl rfl⟩
  | case2 => exact Or.inl ⟨rfl, Or.inr rfl⟩
  | case3 => exact Or.inr rfl

/-- The empty target is only removed while the previous tree is at the backup path. -/
theorem quitar_guarda {d : Desenlace} {i : Nat} (phase : s.fase = .vacioRmdir i)
    (kept : Vacia s) (allowed : Permitido s (.rmdir d)) :
    let (target, exito) := quitarVacio s.target d
    Vacia { s with target } ∧ (exito = true → target = none) := by
  obtain ⟨previo, state⟩ := kept
  rcases quitarVacio_cases s.target d with ⟨removed, how⟩ | untouched
  · refine ⟨⟨previo, Or.inr ?_⟩, fun _ => removed⟩
    rcases state with ⟨_, gone⟩ | aside
    · -- the tree is already back, so a permitted `rmdir` does not remove it
      have safe := allowed i phase gone
      rcases how with rfl | rfl
      · exact absurd rfl safe.1
      · exact absurd rfl safe.2
    · exact aside
  · rw [untouched]
    exact ⟨⟨previo, state⟩, nofun⟩

theorem vacioRmdir_coherente {i : Nat} (phase : s.fase = .vacioRmdir i)
    (h : Pendiente s ∧ Vacia s) (allowed : Permitido s e)
    (ran : vacioRmdir s i e = some t) : Coherente t := by
  cases e with
  | rmdir d =>
    have after := quitar_guarda phase h.2 allowed
    simp only [vacioRmdir] at ran
    split at ran
    · rename_i exito
      obtain rfl := Option.some.inj ran
      exact ⟨h.1, after.1.desplazada (after.2 exito)⟩
    · obtain rfl := Option.some.inj ran
      exact coherente_reintenta ⟨h.1, after.1⟩ (error_coherente h.1.1 after.1.guardada)
  | falla =>
    obtain rfl := Option.some.inj ran
    exact coherente_reintenta h (error_coherente h.1.1 h.2.guardada)
  | cancela =>
    obtain rfl := Option.some.inj ran
    simpa [Coherente, phase] using h
  | _ => cases ran

theorem vacioRenombra_coherente {i : Nat} (phase : s.fase = .vacioRenombra i)
    (h : Pendiente s ∧ Desplazada s) (ran : vacioRenombra s i e = some t) : Coherente t := by
  cases e with
  | rename d =>
    have after := h.2.devuelve d
    simp only [vacioRenombra] at ran
    split at ran
    · obtain rfl := Option.some.inj ran
      exact final_de h.1.1 after.1.guardada
    · obtain rfl := Option.some.inj ran
      exact coherente_reintenta ⟨h.1, after.1.vacia⟩ (error_coherente h.1.1 after.1.guardada)
  | cancela =>
    obtain rfl := Option.some.inj ran
    simpa [Coherente, phase] using h
  | _ => cases ran

theorem descarteVeto_coherente (phase : s.fase = .descarteVeto)
    (h : Pendiente s ∧ Respaldada s ∧ s.limpia = true ∧ s.validada = true ∧
      ∃ x h, s.target = some (.arbol (x :: h)))
    (ran : descarteVeto s e = some t) : Coherente t := by
  cases e with
  | responde r =>
    cases r with
    | si =>
      obtain rfl := Option.some.inj ran
      exact ⟨h.1, h.2.2.1, h.2.2.2.1, rfl, h.2.2.2.2⟩
    | _ =>
      obtain rfl := Option.some.inj ran
      exact final_de h.1.1 h.2.1.guardada
  | cancela =>
    obtain rfl := Option.some.inj ran
    simpa [Coherente, phase] using h
  | _ => cases ran

/-- A granted discard can lose the backup at any of its attempts. -/
theorem descarteBorra_coherente {i : Nat} (phase : s.fase = .descarteBorra i)
    (h : Pendiente s ∧ Regenerada s) (ran : descarteBorra s i e = some t) : Coherente t := by
  have final {u : Estado E} (pending : u.rollbackCompleted = false) (made : Regenerada u) :
      Final u := final_pendiente pending (Or.inr (Or.inr made))
  cases e with
  | borra b =>
    cases b with
    | ok =>
      obtain rfl := Option.some.inj ran
      exact final h.1.1 h.2
    | falla queda =>
      obtain rfl := Option.some.inj ran
      exact coherente_reintenta h (final h.1.1 h.2)
  | cancela =>
    obtain rfl := Option.some.inj ran
    simpa [Coherente, phase] using h
  | _ => cases ran

theorem paso_coherente (h : Coherente s) (allowed : Permitido s e) (ran : paso s e = some t) :
    Coherente t := by
  rw [Coherente.eq_def] at h
  rw [paso.eq_def] at ran
  cases phase : s.fase with
  | preflight i =>
    simp only [phase] at h ran
    exact preflight_coherente h ran
  | moviendo i c =>
    simp only [phase] at h ran
    exact moviendo_coherente h ran
  | movido x =>
    simp only [phase] at h ran
    exact movido_coherente h ran
  | deshacerMiraBackup p =>
    simp only [phase] at h ran
    exact deshacerMiraBackup_coherente phase h ran
  | deshacerMiraTarget p b =>
    simp only [phase] at h ran
    exact deshacerMiraTarget_coherente phase h ran
  | deshacerRenombra p i =>
    simp only [phase] at h ran
    exact deshacerRenombra_coherente phase h ran
  | deshacerVuelveABackup p =>
    simp only [phase] at h ran
    exact deshacerVuelveABackup_coherente phase h ran
  | deshacerVuelveATarget p b =>
    simp only [phase] at h ran
    exact deshacerVuelveATarget_coherente phase h ran
  | hiloSuelto =>
    simp only [phase] at h ran
    exact hiloSuelto_coherente h ran
  | cuerpo =>
    simp only [phase] at h ran
    exact cuerpo_coherente phase h ran
  | commitMira =>
    simp only [phase] at h ran
    exact commitMira_coherente phase h ran
  | commitInspecciona i =>
    simp only [phase] at h ran
    exact commitInspecciona_coherente phase h ran
  | commitBorra i =>
    simp only [phase] at h ran
    exact commitBorra_coherente phase h ran
  | salidaVeto =>
    simp only [phase] at h ran
    exact salidaVeto_coherente phase h ran
  | restauraMira =>
    simp only [phase] at h ran
    exact restauraMira_coherente phase h ran
  | restauraBorra i =>
    simp only [phase] at h ran
    exact restauraBorra_coherente phase h ran
  | restauraMiraBackup =>
    simp only [phase] at h ran
    exact restauraMiraBackup_coherente phase h ran
  | restauraRenombra i =>
    simp only [phase] at h ran
    exact restauraRenombra_coherente phase h ran
  | salidaValida =>
    simp only [phase] at h ran
    exact salidaValida_coherente phase h ran
  | descarteMira =>
    simp only [phase] at h ran
    exact descarteMira_coherente phase h ran
  | descarteInspecciona i =>
    simp only [phase] at h ran
    exact descarteInspecciona_coherente phase h ran
  | descarteSinRegenerar =>
    simp only [phase] at h ran
    exact descarteSinRegenerar_coherente phase h ran
  | vacioEnlace i =>
    simp only [phase] at h ran
    exact vacioEnlace_coherente phase h ran
  | vacioVeto i =>
    simp only [phase] at h ran
    exact vacioVeto_coherente phase h ran
  | vacioRmdir i =>
    simp only [phase] at h ran
    exact vacioRmdir_coherente phase h allowed ran
  | vacioRenombra i =>
    simp only [phase] at h ran
    exact vacioRenombra_coherente phase h ran
  | descarteVeto =>
    simp only [phase] at h ran
    exact descarteVeto_coherente phase h ran
  | descarteBorra i =>
    simp only [phase] at h ran
    exact descarteBorra_coherente phase h ran
  | terminado =>
    simp only [phase] at ran
    cases ran

/-- Every phase keeps the previous tree, and none reports more than it did. -/
theorem Coherente.final (h : Coherente s) : Final s := by
  rw [Coherente.eq_def] at h
  cases phase : s.fase with
  | preflight i =>
    simp only [phase] at h
    exact ⟨Or.inl fun _ _ => Or.inl h.1, fun _ => h.1⟩
  | moviendo i c =>
    simp only [phase] at h
    exact final_de h.1.1 h.2.2.guardada
  | movido x =>
    simp only [phase] at h
    exact final_de h.1.1 h.2.2.1.guardada
  | deshacerMiraBackup p =>
    simp only [phase] at h
    exact final_de h.1.1 h.2.guardada
  | deshacerMiraTarget p b =>
    simp only [phase] at h
    exact final_de h.1.1 h.2.1.guardada
  | deshacerRenombra p i =>
    simp only [phase] at h
    exact final_de h.1.1 h.2.guardada
  | deshacerVuelveABackup p =>
    simp only [phase] at h
    exact final_de h.1.1 h.2.guardada
  | deshacerVuelveATarget p b =>
    simp only [phase] at h
    exact final_de h.1.1 h.2.1.guardada
  | hiloSuelto =>
    simp only [phase] at h
    exact final_de h.1.1 h.2.guardada
  | cuerpo =>
    simp only [phase] at h
    obtain ⟨pending, ⟨yes, _⟩ | ⟨_, aside⟩⟩ := h
    · exact final_pendiente pending (Or.inr (Or.inl yes))
    · exact final_de pending aside.guardada
  | commitMira =>
    simp only [phase] at h
    exact final_pendiente h.1 (Or.inr (Or.inl h.2.1))
  | commitInspecciona i =>
    simp only [phase] at h
    exact final_pendiente h.1 (Or.inr (Or.inl h.2.1))
  | commitBorra i =>
    simp only [phase] at h
    exact final_pendiente h.1 (Or.inr (Or.inl h.2.1))
  | salidaVeto =>
    simp only [phase] at h
    exact final_de h.1.1 h.2.guardada
  | restauraMira =>
    simp only [phase] at h
    exact final_de h.1.1 h.2.guardada
  | restauraBorra i =>
    simp only [phase] at h
    exact final_de h.1.1 h.2.guardada
  | restauraMiraBackup =>
    simp only [phase] at h
    exact final_de h.1.1 h.2.1.guardada
  | restauraRenombra i =>
    simp only [phase] at h
    exact final_de h.1.1 h.2.guardada
  | salidaValida =>
    simp only [phase] at h
    exact final_de h.1.1 h.2.1.guardada
  | descarteMira =>
    simp only [phase] at h
    exact final_de h.1.1 h.2.1.guardada
  | descarteInspecciona i =>
    simp only [phase] at h
    exact final_de h.1.1 h.2.1.guardada
  | descarteSinRegenerar =>
    simp only [phase] at h
    exact final_de h.1.1 h.2.1.guardada
  | vacioEnlace i =>
    simp only [phase] at h
    exact final_de h.1.1 h.2.guardada
  | vacioVeto i =>
    simp only [phase] at h
    exact final_de h.1.1 h.2.guardada
  | vacioRmdir i =>
    simp only [phase] at h
    exact final_de h.1.1 h.2.guardada
  | vacioRenombra i =>
    simp only [phase] at h
    exact final_de h.1.1 h.2.guardada
  | descarteVeto =>
    simp only [phase] at h
    exact final_de h.1.1 h.2.1.guardada
  | descarteBorra i =>
    simp only [phase] at h
    exact final_pendiente h.1.1 (Or.inr (Or.inr h.2))
  | terminado =>
    simp only [phase] at h
    exact h

end

theorem reintenta_previo {s rendido : Estado E} {i : Nat} {otra : Nat → Fase}
    (same : rendido.previo = s.previo) : (s.reintenta i otra rendido).previo = s.previo := by
  simp only [Estado.reintenta]
  split
  · rfl
  · exact same

theorem cancelaDeshacer_previo {s : Estado E} {p : Bool} :
    (s.cancelaDeshacer p).previo = s.previo := by
  cases p <;> rfl

theorem paso_previo {s t : Estado E} {e : Evento E} (ran : paso s e = some t) :
    t.previo = s.previo := by
  cases phase : s.fase <;> cases e <;>
    simp only [paso, phase,
      preflight, moviendo, movido, deshacerMiraBackup, deshacerMiraTarget, deshacerRenombra,
      deshacerVuelveABackup, deshacerVuelveATarget, hiloSuelto, cuerpo, commitMira,
      commitInspecciona, commitBorra, salidaVeto, restauraMira, restauraBorra,
      restauraMiraBackup, restauraRenombra, salidaValida, descarteMira, descarteInspecciona,
      descarteSinRegenerar, vacioEnlace, vacioVeto, vacioRmdir, vacioRenombra, descarteVeto,
      descarteBorra, reduceCtorEq] at ran <;>
    (try split at ran) <;> (try split at ran) <;> cases ran <;>
    first
      | rfl
      | exact reintenta_previo rfl
      | exact cancelaDeshacer_previo

end DirectoryRollback
