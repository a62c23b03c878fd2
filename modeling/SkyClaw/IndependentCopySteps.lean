import Mathlib.Data.List.Induction
import SkyClaw.IndependentCopy

set_option linter.all false

/-!
What each step of the copy does to the disk: the checks only look, and a new entry is
made only where there is none.
-/
namespace IndependentCopy
open SealedBatches (Texto barra Coherente validarCoherenciaDelLote)
open CanonicalPaths (Tipo Nombre canonicalizarRelpathDeScope)
open Effects

variable {K : Type} (d : Plano K) (normcase : Texto → Texto)

/-! Calls that only look -/

theorem quiet_siguiente : Quiet Estado.nodos (siguiente : Efecto K Suerte) := fun _ => rfl

theorem quiet_lstat (r : Ruta) : Quiet Estado.nodos (lstat d r) := by
  refine quiet_siguiente.bind ?_
  intro suerte
  split
  · exact quiet_stop _
  · exact quiet_look _

theorem quiet_existe (r : Ruta) : Quiet Estado.nodos (existe d r) := by
  refine quiet_siguiente.bind ?_
  intro suerte
  split
  · exact quiet_stop _
  · exact quiet_pure _
  · exact quiet_look _

theorem quiet_isDir (r : Ruta) : Quiet Estado.nodos (isDir d r) := by
  refine quiet_siguiente.bind ?_
  intro suerte
  split
  · exact quiet_stop _
  · exact quiet_pure _
  · exact quiet_look _

theorem quiet_sameFileIdentity : Quiet Estado.nodos (sameFileIdentity : Efecto K Bool) := by
  refine quiet_siguiente.bind ?_
  intro suerte
  split
  · exact quiet_pure _
  · exact quiet_pure _

theorem quiet_recorreCadena (exige esRaiz : Bool) (rutas : List Ruta) :
    Quiet Estado.nodos (recorreCadena d exige esRaiz rutas) := by
  induction rutas generalizing esRaiz with
  | nil => exact quiet_pure _
  | cons actual resto ih =>
    refine (quiet_lstat d actual).bind ?_
    intro nodo
    split
    · split
      · exact quiet_stop _
      · exact quiet_pure _
    · exact (ih false).bind fun _ => quiet_pure _
    · exact quiet_stop _

theorem quiet_revalida (rutas : List Ruta) : Quiet Estado.nodos (revalida d rutas) := by
  induction rutas with
  | nil => exact quiet_pure _
  | cons ruta resto ih =>
    refine (quiet_lstat d ruta).bind fun _ => quiet_sameFileIdentity.bind ?_
    intro misma
    split
    · exact ih
    · exact quiet_stop _

theorem quiet_exigirContencionFisica (raiz candidato : Ruta) (permitir exige : Bool) :
    Quiet Estado.nodos (exigirContencionFisica d normcase raiz candidato permitir exige) := by
  unfold exigirContencionFisica
  simp only
  split
  · exact quiet_stop _
  split
  · exact quiet_stop _
  split
  · exact quiet_stop _
  split
  · exact quiet_stop _
  split
  · split
    · exact quiet_pure _
    · exact quiet_stop _
  · exact (quiet_recorreCadena d _ _ _).bind fun _ => (quiet_revalida d _).bind fun _ => quiet_pure _

theorem quiet_descripcionDeEnlace (rutas : List Ruta) : Quiet Estado.nodos (descripcionDeEnlace d rutas) := by
  induction rutas with
  | nil => exact quiet_pure _
  | cons actual resto ih =>
    refine (quiet_lstat d actual).attempt.bind ?_
    intro visto
    split
    · exact quiet_pure _
    · exact quiet_pure _
    · exact ih

theorem quiet_exigirNamespaceEscribible (path : Ruta) :
    Quiet Estado.nodos (exigirNamespaceEscribible d path) := by
  refine (quiet_descripcionDeEnlace d _).bind ?_
  intro enlazada
  split
  · exact quiet_stop _
  · refine (quiet_isDir d path).bind ?_
    intro directorio
    split
    · exact quiet_pure _
    · exact quiet_stop _

theorem quiet_rechazarSiEsEnlace (ruta : Ruta) : Quiet Estado.nodos (rechazarSiEsEnlace d ruta) := by
  refine (quiet_lstat d ruta).attempt.bind ?_
  intro visto
  split
  · exact quiet_stop _
  · exact quiet_stop _
  · exact quiet_pure _

theorem quiet_siCuelga {m : Efecto K Ruta} (quiet : Quiet Estado.nodos m) : Quiet Estado.nodos (siCuelga m) := by
  refine quiet.attempt.bind ?_
  intro resultado
  split
  · exact quiet_pure _
  · exact quiet_stop _
  · exact quiet_stop _

theorem quiet_exigirPayloadVacio (destino : Ruta) : Quiet Estado.nodos (exigirPayloadVacio d destino) := by
  refine (quiet_existe d destino).bind ?_
  intro ya
  split
  · exact quiet_stop _
  · refine (quiet_isDir d _).bind ?_
    intro directorio
    split
    · exact quiet_pure _
    · exact quiet_stop _

theorem quiet_rechazarSolapamiento (origen destino : Ruta) :
    Quiet Estado.nodos (rechazarSolapamientoOrigenDestino d normcase origen destino) := by
  refine (quiet_exigirContencionFisica d normcase _ _ _ _).attempt.bind ?_
  intro resultado
  split
  · exact quiet_stop _
  · refine (quiet_exigirContencionFisica d normcase _ _ _ _).attempt.bind ?_
    intro otro
    split
    · exact quiet_stop _
    · exact quiet_pure _
    · exact quiet_stop _
  · exact quiet_stop _

theorem quiet_exigirContencionDestino (contenedor ruta : Ruta) :
    Quiet Estado.nodos (exigirContencionDestino d normcase contenedor ruta) :=
  quiet_siCuelga (quiet_exigirContencionFisica d normcase _ _ _ _)

theorem quiet_exigirAncestrosDelSource (origen archivo : Ruta) :
    Quiet Estado.nodos (exigirAncestrosDelSource d normcase origen archivo) :=
  (quiet_rechazarSiEsEnlace d _).bind fun _ => quiet_siCuelga (quiet_exigirContencionFisica d normcase _ _ _ _)

/-! What the disk promises and what a run may change -/

/-- A path whose entry is no link leads to that entry. -/
def Plano.Directo (nodos : List K → Option Nodo) : Prop :=
  ∀ r, nodos (d.lugar r) ≠ some .enlace → d.real r = d.lugar r

/-- And what exists is in a directory. -/
structure Plano.Fiel (nodos : List K → Option Nodo) : Prop where
  directo : d.Directo nodos
  arbol : ∀ k x, nodos (k ++ [x]) ≠ none → nodos k = some .dir

/-- The last component of the path can name a new entry. -/
def Nueva (r : Ruta) : Prop := ∃ c, r = r.parent.une [c] ∧ c ≠ sube

/-- The parent of the destination, and what is at the destination or below it. -/
def Dentro (destino : Ruta) (k : List K) : Prop :=
  k = d.real destino.parent ∨ Nueva destino ∧ d.lugar destino <+: k

/-- Files and directories were created in the zone, and nothing else happened. -/
def Crece (zona : List K → Prop) (antes despues : List K → Option Nodo) : Prop :=
  ∀ k, despues k = antes k ∨ antes k = none ∧ zona k ∧ ∃ nodo, despues k = some nodo ∧ nodo ≠ .enlace

variable {d normcase}

theorem Plano.Fiel.vacio {a : List K → Option Nodo} (fiel : d.Fiel a) {k : List K} (empty : a k = none)
    (j : List K) : a (k ++ j) = none := by
  induction j using List.reverseRecOn with
  | nil => rwa [List.append_nil]
  | append_singleton j x ih =>
    by_contra there
    rw [← List.append_assoc] at there
    rw [fiel.arbol _ _ there] at ih
    cases ih

section
variable {zona : List K → Prop} {a b c : List K → Option Nodo}

theorem Crece.refl : Crece zona a a := fun _ => .inl rfl

theorem Crece.viejo (grows : Crece zona a b) {k : List K} {nodo : Nodo} (there : a k = some nodo) :
    b k = some nodo := by
  cases grows k with
  | inl same => rw [same, there]
  | inr new =>
    rw [new.1] at there
    cases there

theorem Crece.trans (first : Crece zona a b) (second : Crece zona b c) : Crece zona a c := by
  intro k
  cases second k with
  | inl same =>
    rw [same]
    exact first k
  | inr new =>
    cases first k with
    | inl same =>
      rw [same] at new
      exact .inr new
    | inr older =>
      obtain ⟨_, there, _⟩ := older.2.2
      rw [new.1] at there
      cases there

/-- A path leads to its entry also on the disk that grew. -/
theorem Crece.directo (grows : Crece zona a b) (direct : d.Directo a) : d.Directo b := by
  intro r own
  apply direct
  intro link
  exact own (grows.viejo link)

theorem Crece.pon [DecidableEq K] {k : List K} {nodo : Nodo} (empty : a k = none) (inside : zona k)
    (own : nodo ≠ .enlace) : Crece zona a (Function.update a k (some nodo)) := by
  intro j
  by_cases same : j = k
  · rw [same, Function.update_self]
    exact .inr ⟨empty, inside, nodo, rfl, own⟩
  · rw [Function.update_of_ne same]
    exact .inl rfl

end

/-! Calls that write -/

/-- The outcome as a value and the state it leaves. -/
def Salida {α : Type} (Q : α → Estado K → Prop) (E : Estado K → Prop) :
    Except Fallo α → Estado K → Prop
  | .ok a => Q a
  | .error _ => E

section
variable {α : Type} {P E : Estado K → Prop} {m : Efecto K α} {Q : α → Estado K → Prop}

theorem attempt_meets (meets : Meets P m Q fun _ => E) :
    Meets P (attempt m : Efecto K (Except Fallo α)) (Salida Q E) fun _ => E :=
  meets.attempt (fun _ _ => id) (fun _ _ => id)

theorem siPuede_meets {motivo : Motivo} (meets : Meets P m Q fun _ => E) :
    Meets P (siPuede motivo m) Q fun _ => E := by
  apply (attempt_meets meets).bind
  intro resultado
  split
  · exact Meets.pure _ fun _ holds => holds
  · exact Meets.stop _ fun _ holds => holds
  · exact Meets.stop _ fun _ holds => holds
  · exact Meets.stop _ fun _ holds => holds

end

section
variable {I : (List K → Option Nodo) → Prop}

theorem isDir_meets (r : Ruta) :
    Meets (fun s => I s.nodos) (isDir d r)
      (fun directorio t => I t.nodos ∧ (directorio = true → t.nodos (d.real r) = some .dir))
      fun _ t => I t.nodos := by
  apply quiet_siguiente.then fun _ _ h => h
  intro suerte
  split
  · exact Meets.stop _ fun _ h => h
  · exact Meets.pure _ fun _ h => ⟨h, nofun⟩
  · apply Meets.look
    intro s h
    exact ⟨h, of_decide_eq_true⟩

theorem lee_meets (r : Ruta) :
    Meets (fun s => I s.nodos) (lee d r)
      (fun bytes t => I t.nodos ∧ t.nodos (d.real r) = some (.archivo bytes))
      fun _ t => I t.nodos := by
  apply quiet_siguiente.then fun _ _ h => h
  intro suerte
  split
  · apply Meets.bind (Meets.look (Q := fun nodo t => I t.nodos ∧ t.nodos (d.real r) = nodo) _ _)
    · intro nodo
      split
      · exact Meets.pure _ fun _ h => h
      · exact Meets.stop _ fun _ h => h.1
    · exact fun s h => ⟨h, rfl⟩
  · exact Meets.stop _ fun _ h => h

variable [DecidableEq K]

/-- The entry of the path was free on a disk that the condition I of, and now the
object is there. -/
def Puesto (d : Plano K) (I : (List K → Option Nodo) → Prop) (r : Ruta) (nodo : Nodo)
    (nodos : List K → Option Nodo) : Prop :=
  ∃ antes, I antes ∧ Libre d antes r ∧ nodos = Function.update antes (d.lugar r) (some nodo)

/-- A new entry is made only where it is free. -/
theorem pon_meets {α : Type} {r : Ruta} {nodo : Nodo} {despues : Efecto K α} {R : α → Estado K → Prop}
    {E : Estado K → Prop} (stays : ∀ s, I s.nodos → E s)
    (next : Meets (fun s => Puesto d I r nodo s.nodos) despues R fun _ => E) :
    Meets (fun s => I s.nodos)
      (do if ← look fun s => decide (Libre d s.nodos r) then
            pon d r nodo
            despues
          else stop .sistema)
      R fun _ => E := by
  apply Meets.bind (Meets.look
    (Q := fun libre t => I t.nodos ∧ (libre = true → Libre d t.nodos r)) _ _)
  · intro libre
    split
    · next free =>
      apply Meets.bind (Q := fun _ t => Puesto d I r nodo t.nodos)
      · intro s h
        exact ⟨s.nodos, h.1, h.2 free, rfl⟩
      · exact fun _ => next
    · exact Meets.stop _ fun _ h => stays _ h.1
  · exact fun s h => ⟨h, of_decide_eq_true⟩

theorem mkdir_meets (r : Ruta) :
    Meets (fun s => I s.nodos) (mkdir d r) (fun _ t => Puesto d I r .dir t.nodos)
      fun _ t => I t.nodos := by
  apply quiet_siguiente.then fun _ _ h => h
  intro suerte
  split
  · exact pon_meets (fun _ h => h) (Meets.pure _ fun _ h => h)
  · exact Meets.stop _ fun _ h => h

theorem escribe_meets (r : Ruta) (bytes : List UInt8) :
    Meets (fun s => I s.nodos) (escribe d r bytes) (fun _ t => Puesto d I r (.archivo bytes) t.nodos)
      fun _ t => I t.nodos ∨ ∃ b, Puesto d I r (.archivo b) t.nodos := by
  apply quiet_siguiente.then fun _ _ h => .inl h
  intro suerte
  split
  · exact pon_meets (fun _ h => .inl h) (Meets.pure _ fun _ h => h)
  · exact pon_meets (fun _ h => .inl h) (Meets.stop _ fun _ h => .inr ⟨_, h⟩)
  · exact Meets.stop _ fun _ h => .inl h

/-- Copied: the source is a file, and the destination was free. -/
def Copiado (d : Plano K) (I : (List K → Option Nodo) → Prop) (origen destino : Ruta) (bytes : List UInt8)
    (nodos : List K → Option Nodo) : Prop :=
  Puesto d (fun antes => I antes ∧ antes (d.real origen) = some (.archivo bytes)) destino (.archivo bytes) nodos

theorem copiarArchivo_meets (origen destino : Ruta) :
    Meets (fun s => I s.nodos) (copiarArchivo d origen destino)
      (fun n t => ∃ bytes, n = bytes.length ∧ Copiado d I origen destino bytes t.nodos)
      fun _ t => I t.nodos ∨ ∃ b, Puesto d I destino (.archivo b) t.nodos := by
  apply (quiet_lstat d origen).attempt.then fun _ _ h => .inl h
  intro visto
  split
  · exact Meets.stop _ fun _ h => .inl h
  · exact Meets.stop _ fun _ h => .inl h
  · exact Meets.stop _ fun _ h => .inl h
  · apply siPuede_meets
    apply ((lee_meets origen).mono (fun _ h => h) (fun _ _ h => h) fun _ _ h => Or.inl h).bind
    intro bytes
    apply (quiet_sameFileIdentity (K := K)).then
      (I := fun nodos => I nodos ∧ nodos (d.real origen) = some (.archivo bytes))
    · exact fun _ _ h => .inl h.1
    · intro misma
      split
      · have wrote := escribe_meets (d := d)
          (I := fun nodos => I nodos ∧ nodos (d.real origen) = some (.archivo bytes)) destino bytes
        apply (wrote.mono (fun _ h => h) (fun _ _ h => h) _).bind
        · exact fun _ => Meets.pure _ fun _ h => ⟨bytes, rfl, h⟩
        · intro _ t left
          cases left with
          | inl same => exact .inl same.1
          | inr part =>
            obtain ⟨b, antes, P, free, now⟩ := part
            exact .inr ⟨b, antes, P.1, free, now⟩
      · exact Meets.stop _ fun _ h => .inl h.1

end

/-! The tree below the destination -/

def claves (d : Plano K) (cs : List Texto) : List K := cs.map d.clave

theorem une_concat (r : Ruta) (cs : List Texto) (c : Texto) : r.une (cs ++ [c]) = (r.une cs).une [c] :=
  congrArg (Ruta.mk r.ancla) (List.append_assoc _ _ _).symm

theorem une_nil (r : Ruta) : r.une [] = r := congrArg (Ruta.mk r.ancla) (List.append_nil _)

theorem lugar_concat {r : Ruta} {cs : List Texto} {c : Texto} {k : List K}
    (prior : d.real (r.une cs) = k ++ claves d cs) (plain : c ≠ sube) :
    d.lugar (r.une (cs ++ [c])) = k ++ claves d (cs ++ [c]) := by
  rw [une_concat, d.lugar_une _ _ plain, prior, claves, claves, List.map_append, List.append_assoc]
  rfl

/-- Since `antes` only the zone of the destination grew, and below it there are these
directories and these files. -/
structure Armado (d : Plano K) (antes : List K → Option Nodo) (destino : Ruta) (carpetas archivos : List K → Prop)
    (nodos : List K → Option Nodo) : Prop where
  crece : Crece (Dentro d destino) antes nodos
  nueva : Nueva destino
  padre : nodos (d.real destino.parent) = some .dir
  dir : ∀ k, nodos (d.lugar destino ++ k) = some .dir ↔ carpetas k
  archivo : ∀ k, (∃ b, nodos (d.lugar destino ++ k) = some (.archivo b)) ↔ archivos k
  propio : ∀ k, nodos (d.lugar destino ++ k) ≠ some .enlace

section
variable {antes nodos : List K → Option Nodo} {destino : Ruta} {carpetas archivos : List K → Prop}

theorem Armado.congr {carpetas' archivos' : List K → Prop} (built : Armado d antes destino carpetas archivos nodos)
    (dirs : ∀ k, carpetas k ↔ carpetas' k) (files : ∀ k, archivos k ↔ archivos' k) :
    Armado d antes destino carpetas' archivos' nodos :=
  { built with
    dir := fun k => (built.dir k).trans (dirs k)
    archivo := fun k => (built.archivo k).trans (files k) }

/-- No path below the destination meets a link. -/
theorem Armado.real_une (built : Armado d antes destino carpetas archivos nodos) (direct : d.Directo antes)
    {cs : List Texto} (plain : sube ∉ cs) : d.real (destino.une cs) = d.lugar destino ++ claves d cs := by
  induction cs using List.reverseRecOn with
  | nil =>
    have own := built.propio []
    rw [List.append_nil] at own
    have here := built.crece.directo direct _ own
    rw [claves, List.map_nil, List.append_nil, ← here]
    rw [une_nil]
  | append_singleton cs c ih =>
    rw [List.mem_append, not_or, List.mem_singleton] at plain
    have place := lugar_concat (ih plain.1) (Ne.symm plain.2)
    rw [← place]
    apply built.crece.directo direct
    rw [place]
    exact built.propio _

theorem Armado.lugar_une (built : Armado d antes destino carpetas archivos nodos) (direct : d.Directo antes)
    {cs : List Texto} {c : Texto} (plain : sube ∉ cs ++ [c]) :
    d.lugar (destino.une (cs ++ [c])) = d.lugar destino ++ claves d (cs ++ [c]) := by
  rw [List.mem_append, not_or, List.mem_singleton] at plain
  exact lugar_concat (built.real_une direct plain.1) (Ne.symm plain.2)

/-- The canonical paths can be followed below a directory. -/
def Canonica (c : Texto) : Prop := partes c ≠ [] ∧ sube ∉ partes c

theorem Armado.lugar_de (built : Armado d antes destino carpetas archivos nodos) (direct : d.Directo antes)
    {c : Texto} (plain : Canonica c) :
    d.lugar (destino.une (partes c)) = d.lugar destino ++ claves d (partes c) := by
  have split : (partes c).dropLast ++ [(partes c).getLast plain.1] = partes c :=
    List.dropLast_concat_getLast plain.1
  have one := built.lugar_une direct (split.symm ▸ plain.2)
  rwa [split] at one

variable [DecidableEq K]

theorem Armado.pon (built : Armado d antes destino carpetas archivos nodos) {k : List K} {nodo : Nodo}
    (free : nodos (d.lugar destino ++ k) = none) (own : nodo ≠ .enlace) :
    Armado d antes destino (fun j => carpetas j ∨ j = k ∧ nodo = .dir)
      (fun j => archivos j ∨ j = k ∧ nodo ≠ .dir)
      (Function.update nodos (d.lugar destino ++ k) (some nodo)) := by
  have grows : Crece (Dentro d destino) nodos (Function.update nodos (d.lugar destino ++ k) (some nodo)) :=
    Crece.pon free (.inr ⟨built.nueva, List.prefix_append _ _⟩) own
  refine ⟨built.crece.trans grows, built.nueva, grows.viejo built.padre, ?_, ?_, ?_⟩
  all_goals intro j
  all_goals by_cases same : j = k
  · rw [same, Function.update_self, ← built.dir, free]
    simp
  · rw [Function.update_of_ne (by simpa using same), built.dir]
    simp [same]
  · rw [same, Function.update_self, ← built.archivo, free]
    cases nodo with
    | dir => simp
    | archivo b => simp
    | enlace => exact absurd rfl own
  · rw [Function.update_of_ne (by simpa using same), built.archivo]
    simp [same]
  · rw [same, Function.update_self]
    exact fun link => own (Option.some.inj link)
  · rw [Function.update_of_ne (by simpa using same)]
    exact built.propio j

end

end IndependentCopy
