import Mathlib.Data.List.Perm.Basic
import SkyClaw.Checks
import SkyClaw.IndependentCopySteps

set_option linter.all false

/-!
What the copy leaves on the disk: a rejected batch leaves it as it was, and a copy that
returns has made the sealed tree and nothing else.
-/
namespace IndependentCopy
open SealedBatches (Texto barra Coherente Duplicados Ancestro validarCoherenciaDelLote)
open CanonicalPaths (Tipo Nombre Segura canonicalizarRelpathDeScope)
open Effects

variable {K : Type} {d : Plano K} {normcase : Texto → Texto}

/-! The loops -/

section
variable {antes : List K → Option Nodo} {destino contenedor origen : Ruta} {carpetas archivos : List K → Prop}
  (direct : d.Directo antes)

include direct

variable [DecidableEq K] (normcase)

theorem asegurarDirectorio_meets {cs : List Texto} {c : Texto} (plain : sube ∉ cs ++ [c]) :
    Meets (fun s => Armado d antes destino carpetas archivos s.nodos)
      (asegurarDirectorio d (destino.une (cs ++ [c])))
      (fun _ t => Armado d antes destino (fun k => carpetas k ∨ k = claves d (cs ++ [c])) archivos t.nodos)
      fun _ t => Crece (Dentro d destino) antes t.nodos := by
  apply ((isDir_meets _).mono (fun _ h => h) (fun _ _ h => h) fun _ _ h => h.crece).bind
  intro directorio
  split
  · next there =>
    apply Meets.pure
    intro s built
    have listed := built.2 there
    rw [built.1.real_une direct plain, built.1.dir] at listed
    refine built.1.congr (fun k => ⟨.inl, ?_⟩) fun _ => Iff.rfl
    intro either
    cases either with
    | inl old => exact old
    | inr here =>
      rw [here]
      exact listed
  · apply siPuede_meets
    apply (mkdir_meets (d := d) (I := fun n => Armado d antes destino carpetas archivos n) _).mono
    · exact fun _ h => h.1
    · intro _ t put
      obtain ⟨before, built, free, now⟩ := put
      rw [now, built.lugar_une direct plain]
      have empty := free.2.2.1
      rw [built.lugar_une direct plain] at empty
      exact (built.pon empty (by simp)).congr (by simp) (by simp)
    · exact fun _ _ built => built.crece

theorem materializa_meets {pre cs : List Texto} (plain : sube ∉ pre ++ cs)
    (above : ∀ k, k <+: claves d pre → carpetas k) :
    Meets (fun s => Armado d antes destino carpetas archivos s.nodos)
      (materializa d normcase contenedor (destino.une pre) cs)
      (fun _ t => Armado d antes destino (fun k => carpetas k ∨ k <+: claves d (pre ++ cs)) archivos t.nodos)
      fun _ t => Crece (Dentro d destino) antes t.nodos := by
  induction cs generalizing pre carpetas with
  | nil =>
    apply Meets.pure
    intro s built
    rw [List.append_nil]
    exact built.congr (fun k => ⟨.inl, fun either => either.elim id (above k)⟩) fun _ => Iff.rfl
  | cons c cs ih =>
    have plain_here : sube ∉ pre ++ [c] := by
      intro mem
      apply plain
      rw [List.mem_append, List.mem_singleton] at mem
      rw [List.mem_append, List.mem_cons]
      cases mem with
      | inl old => exact .inl old
      | inr here => exact .inr (.inl here)
    have later : pre ++ c :: cs = (pre ++ [c]) ++ cs := by rw [List.append_assoc, List.singleton_append]
    apply (quiet_exigirContencionDestino d normcase contenedor (destino.une pre)).then fun _ _ h => h.crece
    intro _
    rw [← une_concat]
    apply (asegurarDirectorio_meets direct plain_here).bind
    intro _
    apply (quiet_exigirContencionDestino d normcase contenedor (destino.une (pre ++ [c]))).then
      (I := Armado d antes destino (fun k => carpetas k ∨ k = claves d (pre ++ [c])) archivos)
      fun _ _ h => h.crece
    intro _
    rw [later] at plain ⊢
    have above_here : ∀ k, k <+: claves d (pre ++ [c]) → carpetas k ∨ k = claves d (pre ++ [c]) := by
      intro k short
      rw [claves, List.map_append, List.map_singleton, List.prefix_concat_iff] at short
      cases short with
      | inl whole =>
        right
        rw [whole, claves, List.map_append, List.map_singleton]
      | inr shorter => exact .inl (above k shorter)
    apply (ih plain above_here).mono (fun _ h => h) _ (fun _ _ h => h)
    intro _ t built
    refine built.congr (fun k => ?_) fun _ => Iff.rfl
    constructor
    · intro some_
      rcases some_ with (old | here) | below
      · exact .inl old
      · rw [here]
        exact .inr ((List.prefix_append _ _).map d.clave)
      · exact .inr below
    · intro some_
      cases some_ with
      | inl old => exact .inl (.inl old)
      | inr below => exact .inr below

variable (carpetas) in
theorem materializarDirectorio_meets {cs : List Texto} (plain : sube ∉ cs) (root : carpetas []) :
    Meets (fun s => Armado d antes destino carpetas archivos s.nodos)
      (materializarDirectorioDelDestino d normcase contenedor destino cs)
      (fun _ t => Armado d antes destino (fun k => carpetas k ∨ k <+: claves d cs) archivos t.nodos)
      fun _ t => Crece (Dentro d destino) antes t.nodos := by
  apply (quiet_exigirContencionDestino d normcase contenedor destino).then fun _ _ h => h.crece
  intro _
  suffices from_root : Meets (fun s => Armado d antes destino carpetas archivos s.nodos)
      (materializa d normcase contenedor (destino.une []) cs)
      (fun _ t => Armado d antes destino (fun k => carpetas k ∨ k <+: claves d cs) archivos t.nodos)
      fun _ t => Crece (Dentro d destino) antes t.nodos by rwa [une_nil] at from_root
  apply materializa_meets normcase direct (by rwa [List.nil_append])
  intro k short
  rw [List.prefix_nil.mp short]
  exact root

/-- The directories there must be once these are made. -/
def Carpetas (d : Plano K) (directorios archivos : List Texto) (k : List K) : Prop :=
  k = [] ∨ (∃ c ∈ directorios, k <+: claves d (partes c)) ∨
    ∃ c ∈ archivos, k <+: claves d (partes c) ∧ k ≠ claves d (partes c)

theorem copiaDirectorios_meets (hechos : List Texto) {resto : List Texto} (plain : ∀ c ∈ resto, Canonica c) :
    Meets (fun s => Armado d antes destino (Carpetas d hechos []) archivos s.nodos)
      (copiaDirectorios d normcase contenedor destino resto)
      (fun _ t => Armado d antes destino (Carpetas d (hechos ++ resto) []) archivos t.nodos)
      fun _ t => Crece (Dentro d destino) antes t.nodos := by
  induction resto generalizing hechos with
  | nil =>
    rw [List.append_nil]
    exact Meets.pure _ fun _ h => h
  | cons c resto ih =>
    rw [List.forall_mem_cons] at plain
    apply (materializarDirectorio_meets normcase (Carpetas d hechos []) direct plain.1.2 (.inl rfl)).bind
    intro _
    have rest := ih (hechos ++ [c]) plain.2
    rw [List.append_assoc, List.singleton_append] at rest
    apply rest.mono _ (fun _ _ h => h) (fun _ _ h => h)
    intro s built
    apply built.congr _ fun _ => Iff.rfl
    intro k
    simp only [Carpetas, List.mem_append, List.mem_singleton, List.not_mem_nil, false_and, exists_false, or_false]
    constructor
    · intro some_
      rcases some_ with (root | old) | here
      · exact .inl root
      · obtain ⟨x, mem, short⟩ := old
        exact .inr ⟨x, .inl mem, short⟩
      · exact .inr ⟨c, .inr rfl, here⟩
    · intro some_
      rcases some_ with root | ⟨x, old | here, short⟩
      · exact .inl (.inl root)
      · exact .inl (.inr ⟨x, old, short⟩)
      · exact .inr (here ▸ short)

omit direct [DecidableEq K] in
/-- A program may be followed from the very disk that it starts with. -/
theorem meets_desde {α : Type} {I : (List K → Option Nodo) → Prop} {m : Efecto K α} {Q : α → Estado K → Prop}
    {E : Fallo → Estado K → Prop} (each : ∀ n, I n → Meets (fun s => s.nodos = n) m Q E) :
    Meets (fun s => I s.nodos) m Q E := fun s held => each s.nodos held s rfl

omit direct [DecidableEq K] in
theorem prefix_dropLast_iff {k l : List K} (some_ : l ≠ []) : k <+: l.dropLast ↔ k <+: l ∧ k ≠ l := by
  conv_rhs => rw [← List.dropLast_concat_getLast some_, List.prefix_concat_iff]
  constructor
  · intro short
    refine ⟨.inr short, ?_⟩
    intro whole
    have fits := short.length_le
    have longer := congrArg List.length whole
    rw [List.length_append, List.length_singleton] at longer
    omega
  · intro either
    exact either.1.resolve_left either.2

/-- The files copied so far, over the directories. -/
structure Copiados (d : Plano K) (antes : List K → Option Nodo) (origen destino : Ruta)
    (directorios hechos : List Texto) (nodos : List K → Option Nodo) : Prop where
  armado : Armado d antes destino (Carpetas d directorios hechos)
    (fun k => ∃ c ∈ hechos, k = claves d (partes c)) nodos
  distintos : (hechos.map fun c => claves d (partes c)).Nodup
  copias : ∀ c ∈ hechos, ∃ b, nodos (d.real (origen.une (partes c))) = some (.archivo b) ∧
    nodos (d.lugar destino ++ claves d (partes c)) = some (.archivo b)

/-- The directories above the next file are made too. -/
structure ConPadre (d : Plano K) (antes : List K → Option Nodo) (destino : Ruta) (directorios hechos : List Texto)
    (c : Texto) (n nodos : List K → Option Nodo) : Prop where
  crece : Crece (Dentro d destino) n nodos
  armado : Armado d antes destino (Carpetas d directorios (hechos ++ [c]))
    (fun k => ∃ c ∈ hechos, k = claves d (partes c)) nodos

omit direct [DecidableEq K] in
theorem Copiados.padre {directorios hechos : List Texto} {c : Texto} {n m : List K → Option Nodo}
    (plain : Canonica c) (done : Copiados d antes origen destino directorios hechos n)
    (built : Armado d n destino (fun k => Carpetas d directorios hechos k ∨ k <+: claves d (partes c).dropLast)
      (fun k => ∃ c ∈ hechos, k = claves d (partes c)) m) :
    ConPadre d antes destino directorios hechos c n m := by
  have whole : claves d (partes c) ≠ [] := fun empty => plain.1 (List.map_eq_nil_iff.mp empty)
  refine ⟨built.crece, ?_⟩
  refine Armado.congr { built with crece := done.armado.crece.trans built.crece } (fun k => ?_) fun _ => Iff.rfl
  have shorter : k <+: claves d (partes c).dropLast ↔ k <+: claves d (partes c) ∧ k ≠ claves d (partes c) := by
    rw [← prefix_dropLast_iff whole, claves, claves, List.map_dropLast]
  simp only [shorter, Carpetas, List.mem_append, List.mem_singleton]
  constructor
  · intro some_
    rcases some_ with (root | dir | ⟨x, mem, below⟩) | below
    · exact .inl root
    · exact .inr (.inl dir)
    · exact .inr (.inr ⟨x, .inl mem, below⟩)
    · exact .inr (.inr ⟨c, .inr rfl, below⟩)
  · intro some_
    rcases some_ with root | dir | ⟨x, mem | rfl, below⟩
    · exact .inl (.inl root)
    · exact .inl (.inr (.inl dir))
    · exact .inl (.inr (.inr ⟨x, mem, below⟩))
    · exact .inr below

theorem Copiados.archivo {directorios hechos : List Texto} {c : Texto} {bytes : List UInt8}
    {n m nodos : List K → Option Nodo} (plain : Canonica c)
    (done : Copiados d antes origen destino directorios hechos n)
    (parent : ConPadre d antes destino directorios hechos c n m)
    (copied : Copiado d (· = m) (origen.une (partes c)) (destino.une (partes c)) bytes nodos) :
    Copiados d antes origen destino directorios (hechos ++ [c]) nodos := by
  obtain ⟨m', ⟨rfl, read⟩, free, rfl⟩ := copied
  have built := parent.armado
  have place := built.lugar_de direct plain
  rw [place]
  have empty := free.2.2.1
  rw [place] at empty
  have put := built.pon empty (by simp : Nodo.archivo bytes ≠ .enlace)
  have kept : Crece (Dentro d destino) m'
      (Function.update m' (d.lugar destino ++ claves d (partes c)) (some (.archivo bytes))) :=
    Crece.pon empty (.inr ⟨built.nueva, List.prefix_append _ _⟩) (by simp)
  have new : ¬ ∃ x ∈ hechos, claves d (partes c) = claves d (partes x) := by
    intro old
    obtain ⟨b, there⟩ := (built.archivo _).mpr old
    rw [empty] at there
    cases there
  constructor
  · apply put.congr
    · simp
    · intro k
      simp only [List.mem_append, List.mem_singleton]
      constructor
      · intro some_
        rcases some_ with ⟨x, mem, rfl⟩ | ⟨rfl, -⟩
        · exact ⟨x, .inl mem, rfl⟩
        · exact ⟨c, .inr rfl, rfl⟩
      · intro some_
        obtain ⟨x, mem | rfl, rfl⟩ := some_
        · exact .inl ⟨x, mem, rfl⟩
        · exact .inr ⟨rfl, by simp⟩
  · rw [List.map_append, List.nodup_append]
    refine ⟨done.distintos, List.nodup_singleton _, ?_⟩
    intro k old j here same
    obtain ⟨x, mem, rfl⟩ := List.mem_map.mp old
    rw [List.map_singleton, List.mem_singleton] at here
    exact new ⟨x, mem, (same.trans here).symm⟩
  · intro x mem
    rw [List.mem_append, List.mem_singleton] at mem
    cases mem with
    | inl old =>
      obtain ⟨b, source, target⟩ := done.copias x old
      exact ⟨b, kept.viejo (parent.crece.viejo source), kept.viejo (parent.crece.viejo target)⟩
    | inr here =>
      subst here
      exact ⟨bytes, kept.viejo read, Function.update_self _ _ _⟩

theorem copiaArchivos_meets (hechos : List Texto) {directorios resto : List Texto} (plain : ∀ c ∈ resto, Canonica c) :
    Meets (fun s => Copiados d antes origen destino directorios hechos s.nodos)
      (copiaArchivos d normcase contenedor origen destino hechos.length resto)
      (fun n t => n = (hechos ++ resto).length ∧
        Copiados d antes origen destino directorios (hechos ++ resto) t.nodos)
      fun _ t => Crece (Dentro d destino) antes t.nodos := by
  induction resto generalizing hechos with
  | nil =>
    rw [List.append_nil]
    exact Meets.pure _ fun _ h => ⟨rfl, h⟩
  | cons c resto ih =>
    rw [List.forall_mem_cons] at plain
    apply meets_desde
    intro n done
    have short : sube ∉ (partes c).dropLast := fun mem => plain.1.2 (List.dropLast_subset _ mem)
    have here : Armado d n destino (Carpetas d directorios hechos)
        (fun k => ∃ c ∈ hechos, k = claves d (partes c)) n :=
      { done.armado with crece := Crece.refl }
    apply ((materializarDirectorio_meets normcase (Carpetas d directorios hechos)
      (done.armado.crece.directo direct) short (.inl rfl)).mono (fun s (same : s.nodos = n) => by rwa [same])
      (fun _ _ built => done.padre plain.1 built) fun _ _ grows => done.armado.crece.trans grows).bind
    intro _
    apply (quiet_exigirAncestrosDelSource d normcase origen _).then
      (I := ConPadre d antes destino directorios hechos c n) fun _ _ h => h.armado.crece
    intro _
    apply meets_desde
    intro m parent
    apply ((copiarArchivo_meets (I := (· = m)) _ _).mono (fun _ h => h) (fun _ _ h => h) _).bind
    · intro size
      have rest := ih (hechos ++ [c]) plain.2
      rw [List.append_assoc, List.singleton_append, List.length_append] at rest
      apply rest.mono _ (fun _ _ h => h) (fun _ _ h => h)
      intro t copied
      obtain ⟨bytes, _, copied⟩ := copied
      exact done.archivo direct plain.1 parent copied
    · intro _ t left
      cases left with
      | inl same =>
        rw [same]
        exact parent.armado.crece
      | inr part =>
        obtain ⟨b, m', rfl, free, now⟩ := part
        rw [now]
        have inside : Dentro d destino (d.lugar (destino.une (partes c))) := by
          rw [parent.armado.lugar_de direct plain.1]
          exact .inr ⟨parent.armado.nueva, List.prefix_append _ _⟩
        exact parent.armado.crece.trans (Crece.pon free.2.2.1 inside (by simp))

end

/-! The whole copy -/

section
variable {antes : List K → Option Nodo} {contenedor origen destino : Ruta} [DecidableEq K]

omit [DecidableEq K] in
theorem Libre.nueva {nodos : List K → Option Nodo} {r : Ruta} (free : Libre d nodos r) : Nueva r := by
  obtain ⟨some_, no_up, _⟩ := free
  refine ⟨r.partes.getLast some_, ?_, ?_⟩
  · exact congrArg (Ruta.mk r.ancla) (List.dropLast_concat_getLast some_).symm
  · intro up
    rw [List.getLast?_eq_some_getLast some_, up] at no_up
    exact no_up rfl

/-- At most the parent of the destination was created. -/
def Padre (d : Plano K) (antes : List K → Option Nodo) (padre : Ruta) (nodos : List K → Option Nodo) : Prop :=
  nodos = antes ∨ antes (d.lugar padre) = none ∧ nodos = Function.update antes (d.lugar padre) (some .dir)

theorem Padre.crece {nodos : List K → Option Nodo} (direct : d.Directo antes)
    (made : Padre d antes destino.parent nodos) : Crece (Dentro d destino) antes nodos := by
  cases made with
  | inl same =>
    rw [same]
    exact Crece.refl
  | inr new =>
    rw [new.2]
    have here := direct destino.parent (by rw [new.1]; exact nofun)
    exact Crece.pon new.1 (.inl here.symm) (by simp)

theorem crearPadre_meets (padre : Ruta) :
    Meets (fun s => s.nodos = antes) (crearPadre d normcase contenedor padre)
      (fun _ t => Padre d antes padre t.nodos) fun _ t => Padre d antes padre t.nodos := by
  apply (quiet_existe d padre).then (I := (· = antes)) fun _ _ same => .inl same
  intro ya
  split
  · exact Meets.pure _ fun _ same => .inl same
  · apply (quiet_exigirNamespaceEscribible d padre.parent).then (I := (· = antes)) fun _ _ same => .inl same
    intro _
    apply (siPuede_meets ((mkdir_meets (I := (· = antes)) padre).mono (fun _ h => h) _
      fun _ _ same => Or.inl same)).bind
    · exact fun _ => (quiet_siCuelga (quiet_exigirContencionFisica d normcase _ _ _ _)).meets (Padre d antes padre)
    · intro _ t put
      obtain ⟨_, rfl, free, now⟩ := put
      exact .inr ⟨free.2.2.1, now⟩

/-- There is nothing at the destination or below it, and there never was. -/
theorem Padre.vacio {nodos : List K → Option Nodo} (fiel : d.Fiel antes)
    (made : Padre d antes destino.parent nodos) (free : Libre d nodos destino) (k : List K) :
    antes (d.lugar destino ++ k) = none ∧ nodos (d.lugar destino ++ k) = none := by
  obtain ⟨c, name, plain⟩ := free.nueva
  have here := free.2.2.1
  cases made with
  | inl same =>
    rw [same] at here ⊢
    exact ⟨fiel.vacio here k, fiel.vacio here k⟩
  | inr new =>
    have parent := fiel.directo destino.parent (by rw [new.1]; exact nofun)
    have place : d.lugar destino = d.lugar destino.parent ++ [d.clave c] := by
      rw [← parent]
      conv_lhs => rw [name]
      exact d.lugar_une _ _ plain
    have below : ∀ j, antes (d.lugar destino ++ j) = none := by
      intro j
      rw [place, List.append_assoc]
      exact fiel.vacio new.1 _
    have other : d.lugar destino ++ k ≠ d.lugar destino.parent := by
      intro same
      rw [place] at same
      have lengths := congrArg List.length same
      simp only [List.length_append, List.length_singleton] at lengths
      omega
    rw [new.2, Function.update_of_ne other]
    exact ⟨below k, below k⟩

/-- The new payload is empty. -/
theorem Padre.payload {nodos : List K → Option Nodo} (fiel : d.Fiel antes)
    (made : Padre d antes destino.parent nodos) (free : Libre d nodos destino) :
    Armado d antes destino (· = []) (fun _ => False)
      (Function.update nodos (d.lugar destino) (some .dir)) := by
  have empty : ∀ k, nodos (d.lugar destino ++ k) = none := fun k => (made.vacio fiel free k).2
  have none_yet : Armado d antes destino (fun _ => False) (fun _ => False) nodos := by
    constructor
    · exact made.crece fiel.directo
    · exact free.nueva
    · exact free.2.2.2
    all_goals intro k
    all_goals simp [empty k]
  have root := none_yet.pon (empty []) (by simp : Nodo.dir ≠ .enlace)
  rw [List.append_nil] at root
  exact root.congr (by simp) (by simp)

theorem crearPayload_meets (fiel : d.Fiel antes) :
    Meets (fun s => s.nodos = antes) (crearPayload d normcase contenedor origen destino)
      (fun _ t => (∀ k, antes (d.lugar destino ++ k) = none) ∧
        Armado d antes destino (· = []) (fun _ => False) t.nodos)
      fun _ t => Crece (Dentro d destino) antes t.nodos := by
  have unchanged : ∀ n, n = antes → Crece (Dentro d destino) antes n := by
    intro n same
    rw [same]
    exact Crece.refl
  have grown : ∀ n, Padre d antes destino.parent n → Crece (Dentro d destino) antes n :=
    fun n made => made.crece fiel.directo
  apply (quiet_existe d _).then (I := (· = antes)) fun _ _ same => unchanged _ same
  intro exige
  apply (quiet_siCuelga (quiet_exigirContencionFisica d normcase _ _ _ _)).then (I := (· = antes))
    fun _ _ same => unchanged _ same
  intro _
  apply ((crearPadre_meets _).mono (fun _ h => h) (fun _ _ h => h) fun _ _ made => grown _ made).bind
  intro _
  apply (quiet_exigirNamespaceEscribible d _).then (I := Padre d antes destino.parent) fun _ _ made => grown _ made
  intro _
  apply (quiet_exigirPayloadVacio d _).then (I := Padre d antes destino.parent) fun _ _ made => grown _ made
  intro _
  apply (quiet_rechazarSiEsEnlace d _).then (I := Padre d antes destino.parent) fun _ _ made => grown _ made
  intro _
  apply (siPuede_meets ((mkdir_meets (I := Padre d antes destino.parent) destino).mono (fun _ h => h) _
    fun _ _ made => grown _ made)).bind
  · intro _
    apply ((quiet_siCuelga (quiet_exigirContencionFisica d normcase _ _ _ _)).meets
      fun n => (∀ k, antes (d.lugar destino ++ k) = none) ∧
        Armado d antes destino (· = []) (fun _ => False) n).mono (fun _ h => h) (fun _ _ h => h)
    exact fun _ _ built => built.2.crece
  · intro _ t put
    obtain ⟨n, made, free, now⟩ := put
    rw [now]
    exact ⟨fun k => (made.vacio fiel free k).1, made.payload fiel free⟩

variable (normcase contenedor origen destino) in
/-- What a copy that returns leaves, and what it may leave when it raises. -/
theorem copiarArbol_meets (fiel : d.Fiel antes) {casefold : Texto → Texto} {files : List FileIdentity}
    {directories : List Texto}
    (plain : ∀ lote, validarLote casefold files directories = .ok lote →
      (∀ c ∈ lote.1, Canonica c) ∧ ∀ c ∈ lote.2, Canonica c) :
    Meets (fun s => s.nodos = antes)
      (copiarArbolIndependiente d normcase casefold contenedor origen destino files directories)
      (fun n t => ∃ lote, validarLote casefold files directories = .ok lote ∧ n = lote.2.length ∧
        (∀ k, antes (d.lugar destino ++ k) = none) ∧ Copiados d antes origen destino lote.1 lote.2 t.nodos)
      fun _ t => Crece (Dentro d destino) antes t.nodos := by
  have unchanged : ∀ n, n = antes → Crece (Dentro d destino) antes n := by
    intro n same
    rw [same]
    exact Crece.refl
  apply (quiet_rechazarSolapamiento d normcase _ _).then (I := (· = antes)) fun _ _ same => unchanged _ same
  intro _
  cases valid : validarLote casefold files directories with
  | error e => exact Meets.stop _ fun _ same => unchanged _ same
  | ok lote =>
    obtain ⟨dirs, archs⟩ := plain lote valid
    have started : Meets (fun s => Armado d antes destino (· = []) (fun _ => False) s.nodos)
        (copiaDirectorios d normcase contenedor destino lote.1)
        (fun _ t => Copiados d antes origen destino lote.1 [] t.nodos)
        fun _ t => Crece (Dentro d destino) antes t.nodos := by
      apply (copiaDirectorios_meets normcase fiel.directo [] dirs).mono
      · intro s built
        exact built.congr (by simp [Carpetas]) fun _ => Iff.rfl
      · intro _ t built
        exact ⟨built.congr (fun _ => Iff.rfl) (by simp), List.nodup_nil, List.forall_mem_nil _⟩
      · exact fun _ _ grows => grows
    apply (crearPayload_meets fiel).bind
    intro _
    apply Meets.given
    intro empty
    apply siPuede_meets
    apply started.bind
    intro _
    apply (copiaArchivos_meets normcase fiel.directo [] archs).mono (fun _ h => h) _ fun _ _ h => h
    intro n t done
    exact ⟨lote, rfl, done.1, empty, done.2⟩

end

/-! The batch -/

/-- Each entry and its canonical path. -/
def Canonicos (casefold : Texto → Texto) (tipo : Tipo) : List Texto → List Texto → Prop :=
  List.Forall₂ fun entrada c => canonicalizarRelpathDeScope casefold entrada tipo = .ok c

/-- An entry is not canonicalisable, or the canonical batch is incoherent. -/
def Rechazado (casefold : Texto → Texto) (files : List FileIdentity) (directories : List Texto) : Prop :=
  (∃ e ∈ directories, ∀ c, canonicalizarRelpathDeScope casefold e .directorio ≠ .ok c) ∨
    (∃ f ∈ files, ∀ c, canonicalizarRelpathDeScope casefold f.relPath .archivo ≠ .ok c) ∨
    ∃ directorios archivos, Canonicos casefold .directorio directories directorios ∧
      Canonicos casefold .archivo (files.map (·.relPath)) archivos ∧ ¬ Coherente casefold directorios archivos

section
variable {casefold : Texto → Texto} {tipo : Tipo}

theorem canonicalizarLote_ok {entradas cs : List Texto} :
    canonicalizarLote casefold tipo entradas = .ok cs → Canonicos casefold tipo entradas cs := by
  intro done
  induction entradas generalizing cs with
  | nil =>
    cases done
    exact .nil
  | cons entrada resto ih =>
    unfold canonicalizarLote at done
    split at done
    · cases done
    · next c canonical =>
      cases rest : canonicalizarLote casefold tipo resto with
      | error e =>
        rw [rest] at done
        cases done
      | ok cs' =>
        rw [rest] at done
        cases done
        exact .cons canonical (ih rest)

/-- An entry has one canonical path. -/
theorem Canonicos.unicos {entradas cs cs' : List Texto} (first : Canonicos casefold tipo entradas cs)
    (second : Canonicos casefold tipo entradas cs') : cs = cs' := by
  induction first generalizing cs' with
  | nil =>
    cases second
    rfl
  | cons canonical _ ih =>
    cases second with
    | cons canonical' rest' =>
      rw [canonical] at canonical'
      rw [Except.ok.inj canonical', ih rest']

theorem Canonicos.de {entradas cs : List Texto} (all : Canonicos casefold tipo entradas cs) {e : Texto}
    (mem : e ∈ entradas) : ∃ c, canonicalizarRelpathDeScope casefold e tipo = .ok c := by
  induction all with
  | nil => cases mem
  | cons canonical _ ih =>
    cases List.mem_cons.mp mem with
    | inl here => exact ⟨_, here ▸ canonical⟩
    | inr later => exact ih later

theorem canonica_of_ok {entrada c : Texto} (done : canonicalizarRelpathDeScope casefold entrada tipo = .ok c) :
    Canonica c := by
  obtain ⟨names, some_, solid, rfl⟩ := CanonicalPaths.canonicalizar_nombres done
  rw [Canonica, partes, List.splitOn_intercalate barra (fun p mem => (solid p mem).sinSeparador.1) some_]
  exact ⟨some_, fun up => (solid _ up).noSube rfl⟩

theorem Canonicos.canonicas {entradas cs : List Texto} (all : Canonicos casefold tipo entradas cs) :
    ∀ c ∈ cs, Canonica c := by
  induction all with
  | nil => exact List.forall_mem_nil _
  | cons canonical _ ih => exact List.forall_mem_cons.mpr ⟨canonica_of_ok canonical, ih⟩

theorem coherente_perm {directorios archivos archivos' : List Texto} (perm : archivos.Perm archivos')
    (coherent : Coherente casefold directorios archivos') : Coherente casefold directorios archivos := by
  constructor
  · have once := coherent.unArchivo
    rw [SealedBatches.duplicados_iff] at once ⊢
    rwa [(perm.map casefold).nodup_iff]
  · exact coherent.unDirectorio
  · exact fun a mem => coherent.sinColision a (perm.mem_iff.mp mem)
  · exact fun a mem b mem' => coherent.sinArchivoDebajo a (perm.mem_iff.mp mem) b (perm.mem_iff.mp mem')
  · exact fun a mem => coherent.sinDirectorioDebajo a (perm.mem_iff.mp mem)

/-- An accepted batch is canonical and coherent, and the copy follows it in the order
of the paths. -/
theorem validarLote_ok {files : List FileIdentity} {directories : List Texto} {lote : List Texto × List Texto}
    (valid : validarLote casefold files directories = .ok lote) :
    Canonicos casefold .directorio directories lote.1 ∧ ∃ archivos,
      Canonicos casefold .archivo (files.map (·.relPath)) archivos ∧ archivos.Perm lote.2 ∧
      Coherente casefold lote.1 archivos := by
  obtain ⟨dirs, dirs_ok, valid⟩ := Checks.bind_ok.mp valid
  obtain ⟨archs, archs_ok, valid⟩ := Checks.bind_ok.mp valid
  have verdict := SealedBatches.validar_cases casefold dirs archs
  split at valid
  · cases valid
  · next coherent =>
    cases valid
    rw [coherent] at verdict
    have perm : (files.map (·.relPath)).Perm ((archivosOrdenados files).map (·.relPath)) :=
      ((List.perm_insertionSort _ files).map _).symm
    obtain ⟨archivos, canonical, perm⟩ := List.perm_comp_forall₂ perm (canonicalizarLote_ok archs_ok)
    exact ⟨canonicalizarLote_ok dirs_ok, archivos, canonical, perm, coherente_perm perm verdict⟩

theorem validarLote_rechazado {files : List FileIdentity} {directories : List Texto}
    (bad : Rechazado casefold files directories) : ∃ e, validarLote casefold files directories = .error e := by
  cases valid : validarLote casefold files directories with
  | error e => exact ⟨e, rfl⟩
  | ok lote =>
    obtain ⟨dirs, archivos, archs, _, coherent⟩ := validarLote_ok valid
    exfalso
    rcases bad with ⟨e, mem, never⟩ | ⟨f, mem, never⟩ | ⟨directorios', archivos', dirs', archs', incoherent⟩
    · obtain ⟨c, canonical⟩ := dirs.de mem
      exact never c canonical
    · obtain ⟨c, canonical⟩ := archs.de (List.mem_map_of_mem mem)
      exact never c canonical
    · rw [dirs'.unicos dirs, archs'.unicos archs] at incoherent
      exact incoherent coherent

end

/-! Exactness -/

/-- The payload was not there, and now it holds the directories, the ancestors of the
entries and the files, each with the bytes that the origin has at the same path. -/
structure Copiada (d : Plano K) (antes despues : List K → Option Nodo) (origen destino : Ruta)
    (directorios archivos : List Texto) : Prop where
  nueva : ∀ k, antes (d.lugar destino ++ k) = none
  carpetas : ∀ k, despues (d.lugar destino ++ k) = some .dir ↔ Carpetas d directorios archivos k
  ficheros : ∀ k, (∃ b, despues (d.lugar destino ++ k) = some (.archivo b)) ↔
    ∃ c ∈ archivos, k = claves d (partes c)
  sinEnlaces : ∀ k, despues (d.lugar destino ++ k) ≠ some .enlace
  distintos : (archivos.map fun c => claves d (partes c)).Nodup
  copias : ∀ c ∈ archivos, ∃ b, despues (d.lugar destino ++ claves d (partes c)) = some (.archivo b) ∧
    despues (d.real (origen.une (partes c))) = some (.archivo b) ∧
    (¬ d.lugar destino <+: d.real (origen.une (partes c)) →
      antes (d.real (origen.une (partes c))) = some (.archivo b))

structure CopiaExacta (d : Plano K) (casefold : Texto → Texto) (antes : List K → Option Nodo) (origen destino : Ruta)
    (files : List FileIdentity) (directories : List Texto) (salida : Except Fallo Nat × Estado K) : Prop where
  rechaza : Rechazado casefold files directories → (∃ e, salida.1 = .error e) ∧ salida.2.nodos = antes
  exacta : ∀ n, salida.1 = .ok n → n = files.length ∧ ∃ directorios archivos,
    Canonicos casefold .directorio directories directorios ∧
    Canonicos casefold .archivo (files.map (·.relPath)) archivos ∧
    Copiada d antes salida.2.nodos origen destino directorios archivos
  contenida : ∀ k, salida.2.nodos k ≠ antes k → antes k = none ∧ d.real destino.parent <+: k ∧
    (k = d.real destino.parent ∨ d.lugar destino <+: k)

theorem Copiados.copiada {antes nodos : List K → Option Nodo} {origen destino : Ruta}
    {directorios hechos archivos : List Texto} (empty : ∀ k, antes (d.lugar destino ++ k) = none)
    (done : Copiados d antes origen destino directorios hechos nodos) (perm : archivos.Perm hechos) :
    Copiada d antes nodos origen destino directorios archivos := by
  constructor
  · exact empty
  · intro k
    rw [done.armado.dir]
    simp only [Carpetas, perm.mem_iff]
  · intro k
    rw [done.armado.archivo]
    simp only [perm.mem_iff]
  · exact done.armado.propio
  · rw [(perm.map _).nodup_iff]
    exact done.distintos
  · intro c mem
    obtain ⟨b, source, target⟩ := done.copias c (perm.mem_iff.mp mem)
    refine ⟨b, target, source, ?_⟩
    intro apart
    cases done.armado.crece (d.real (origen.une (partes c))) with
    | inl same => rw [← same, source]
    | inr new =>
      cases new.2.1 with
      | inl parent =>
        rw [parent, done.armado.padre] at source
        cases source
      | inr below => exact absurd below.2 apart

variable [DecidableEq K]

variable (d normcase) in
theorem rechazado_meets {casefold : Texto → Texto} (antes : List K → Option Nodo) (contenedor origen destino : Ruta)
    {files : List FileIdentity} {directories : List Texto} (bad : Rechazado casefold files directories) :
    Meets (fun s => s.nodos = antes)
      (copiarArbolIndependiente d normcase casefold contenedor origen destino files directories)
      (fun _ _ => False) fun _ t => t.nodos = antes := by
  apply (quiet_rechazarSolapamiento d normcase _ _).then (I := (· = antes)) fun _ _ same => same
  intro _
  obtain ⟨e, rejected⟩ := validarLote_rechazado bad
  rw [rejected]
  exact Meets.stop _ fun _ same => same

omit [DecidableEq K] in
theorem Crece.contenida {antes nodos : List K → Option Nodo} {destino : Ruta}
    (grows : Crece (Dentro d destino) antes nodos) {k : List K} (changed : nodos k ≠ antes k) :
    antes k = none ∧ d.real destino.parent <+: k ∧ (k = d.real destino.parent ∨ d.lugar destino <+: k) := by
  obtain ⟨was, inside, _⟩ := (grows k).resolve_left changed
  cases inside with
  | inl parent => exact ⟨was, parent ▸ List.prefix_rfl, .inl parent⟩
  | inr below =>
    obtain ⟨⟨c, name, plain⟩, short⟩ := below
    refine ⟨was, ?_, .inr short⟩
    have place : d.lugar destino = d.real destino.parent ++ [d.clave c] := by
      conv_lhs => rw [name]
      exact d.lugar_une _ _ plain
    exact (place ▸ List.prefix_append _ _ : d.real destino.parent <+: d.lugar destino).trans short

/-- A rejected batch creates nothing, a copy that returns is the sealed tree, nothing
outside the parent of the destination changes, and a canonical path is safe and its own
canonical form. -/
theorem copia_exacta (d : Plano K) (normcase casefold : Texto → Texto) (contenedor origen destino : Ruta)
    (files : List FileIdentity) (directories : List Texto) (s : Estado K) (fiel : d.Fiel s.nodos) :
    CopiaExacta d casefold s.nodos origen destino files directories
      (copiarArbolIndependiente d normcase casefold contenedor origen destino files directories s) ∧
    ∀ entrada tipo c, canonicalizarRelpathDeScope casefold entrada tipo = .ok c →
      Segura c ∧ ∀ tipo', canonicalizarRelpathDeScope casefold c tipo' = .ok c := by
  refine ⟨?_, fun _ _ _ => CanonicalPaths.canonicalizar_idempotente⟩
  have plain : ∀ lote, validarLote casefold files directories = .ok lote →
      (∀ c ∈ lote.1, Canonica c) ∧ ∀ c ∈ lote.2, Canonica c := by
    intro lote valid
    obtain ⟨dirs, archivos, archs, perm, _⟩ := validarLote_ok valid
    exact ⟨dirs.canonicas, fun c mem => archs.canonicas c (perm.mem_iff.mpr mem)⟩
  have copied := (copiarArbol_meets normcase contenedor origen destino fiel plain).outcome rfl
  constructor
  · intro bad
    have rejected := (rechazado_meets d normcase s.nodos contenedor origen destino bad).outcome rfl
    cases ended : (copiarArbolIndependiente d normcase casefold contenedor origen destino files directories s).1 with
    | ok n => exact absurd ended (fun returned => rejected.1 n returned)
    | error e => exact ⟨⟨e, rfl⟩, rejected.2 e ended⟩
  · intro n returned
    obtain ⟨lote, valid, count, empty, done⟩ := copied.1 n returned
    obtain ⟨dirs, archivos, archs, perm, _⟩ := validarLote_ok valid
    refine ⟨?_, lote.1, archivos, dirs, archs, done.copiada empty perm⟩
    rw [count, ← perm.length_eq, ← archs.length_eq, List.length_map]
  · intro k changed
    cases ended : (copiarArbolIndependiente d normcase casefold contenedor origen destino files directories s).1 with
    | ok n =>
      obtain ⟨_, _, _, _, done⟩ := copied.1 n ended
      exact done.armado.crece.contenida changed
    | error e => exact (copied.2 e ended).contenida changed

/-- A machine without links, where a name is its own key. -/
def planoLlano : Plano Texto := ⟨id, Ruta.partes, Ruta.partes, fun _ _ _ => rfl⟩

def ruta (nombres : List String) : Ruta := ⟨[barra], nombres.map CanonicalPaths.texto⟩

/-- `/o/a` with two bytes, and the empty directory `/c`. -/
def discoInicial : List Texto → Option Nodo
  | [] => some .dir
  | [x] => if x = CanonicalPaths.texto "o" ∨ x = CanonicalPaths.texto "c" then some .dir else none
  | [x, y] => if x = CanonicalPaths.texto "o" ∧ y = CanonicalPaths.texto "a" then some (.archivo [1, 2]) else none
  | _ => none

theorem discoInicial_fiel : planoLlano.Fiel discoInicial := by
  refine ⟨fun _ _ => rfl, ?_⟩
  intro k x there
  match k with
  | [] => rfl
  | [y] =>
    simp only [List.singleton_append, discoInicial] at there ⊢
    split at there
    · next here => rw [if_pos (.inl here.1)]
    · exact absurd rfl there
  | [_, _] => exact absurd rfl there
  | _ :: _ :: _ :: _ => exact absurd rfl there

/-- `/o` into `/c/k/p`, with the directory `D\E`. -/
def copiaDe (files : List String) : Except Fallo Nat × Estado Texto :=
  copiarArbolIndependiente planoLlano id id (ruta ["c"]) (ruta ["o"]) (ruta ["c", "k", "p"])
    (files.map fun f => ⟨CanonicalPaths.texto f⟩) [CanonicalPaths.texto "D\\E"] ⟨discoInicial, []⟩

theorem copia_exacta_nueva : (copiaDe ["./a"]).1 = .ok 1 ∧
    CopiaExacta planoLlano id discoInicial (ruta ["o"]) (ruta ["c", "k", "p"])
      [⟨CanonicalPaths.texto "./a"⟩] [CanonicalPaths.texto "D\\E"] (copiaDe ["./a"]) :=
  ⟨by decide +kernel, (copia_exacta planoLlano id id _ _ _ _ _ ⟨discoInicial, []⟩ discoInicial_fiel).1⟩

end IndependentCopy
