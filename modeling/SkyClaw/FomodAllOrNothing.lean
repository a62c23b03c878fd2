import SkyClaw.FomodInstall

set_option linter.all false

/-!
An installation that stops before the promotion leaves the mods folder as it was; from
the promotion on, the folder of the mod is the new one, whatever is raised.
-/
namespace FomodInstaller
open Effects PathStores FomodResolver

variable {C α β : Type}

/-! The places -/

theorem hijo_unico {mods : Ruta} {a b : Texto} {r : Ruta} (first : mods ++ [a] <+: r)
    (second : mods ++ [b] <+: r) : a = b := by
  obtain ⟨s, same⟩ := first
  obtain ⟨t, same'⟩ := second
  rw [← same', List.append_assoc, List.append_assoc] at same
  exact (List.cons.inj (List.append_cancel_left same)).1

namespace Escena
variable (e : Escena C)

/-- Nothing below the mods folder is in the folder of the extraction. -/
theorem hijo_aparte {n : Texto} {r : Ruta} (below : e.mods ++ [n] <+: r) : ¬e.tmp <+: r := by
  intro inTmp
  cases List.prefix_or_prefix_of_prefix below inTmp with
  | inl above => exact e.aparte.2 ((List.prefix_append e.mods [n]).trans above)
  | inr inside =>
    cases List.prefix_concat_iff.mp inside with
    | inl same => exact e.aparte.2 (same ▸ List.prefix_append e.mods [n])
    | inr above => exact e.aparte.1 above

theorem mods_ajena {n : Texto} {r : Ruta} (above : r <+: e.mods) : ¬e.mods ++ [n] <+: r := by
  intro below
  have size := (below.trans above).length_le
  rw [List.length_append, List.length_singleton] at size
  omega

theorem mods_sin_tmp {r : Ruta} (above : r <+: e.mods) : ¬e.tmp <+: r :=
  fun below => e.aparte.1 (below.trans above)

theorem destino_ajeno {r : Ruta} (below : e.destino <+: r) : e.Ajena r :=
  ⟨fun other => e.otroStaging (hijo_unico other below), fun other => e.otroRespaldo (hijo_unico other below),
    e.hijo_aparte below⟩

theorem respaldo_sin_staging {r : Ruta} (below : e.zonaRespaldo <+: r) : ¬e.zonaStaging <+: r :=
  fun other => e.distintos (hijo_unico other below)

/-- Only the staging folder and that of the extraction have changed. -/
def Antes (d : Disco C) : Prop :=
  ∀ r, ¬e.zonaStaging <+: r → ¬e.tmp <+: r → d.find r = e.disco.find r

theorem Antes.intacto {e : Escena C} {d : Disco C} (early : e.Antes d) : e.Intacto d :=
  fun r other => early r other.1 other.2.2

theorem Antes.destino {e : Escena C} {d : Disco C} (early : e.Antes d) (q : Ruta) :
    d.find (e.destino ++ q) = e.disco.find (e.destino ++ q) := by
  have other := e.destino_ajeno (List.prefix_append e.destino q)
  exact early _ other.1 other.2.2

theorem Antes.respaldo {e : Escena C} {d : Disco C} (early : e.Antes d) (q : Ruta) :
    d.find (e.zonaRespaldo ++ q) = none := by
  have below := List.prefix_append e.zonaRespaldo q
  rw [early _ (e.respaldo_sin_staging below) (e.hijo_aparte below)]
  exact e.respaldoLibre q

theorem Antes.mods {e : Escena C} {d : Disco C} (early : e.Antes d) {r : Ruta} (above : r <+: e.mods) :
    d.find r = some .carpeta := by
  rw [early r (e.mods_ajena above) (e.mods_sin_tmp above)]
  exact e.carpetas r above

/-- The staging folder holds the tree `g`, and the archive is extracted. -/
structure Preparado (g : Ruta → Option (Entrada C)) (d : Disco C) : Prop where
  antes : e.Antes d
  arbol : ∀ q, d.find (e.zonaStaging ++ q) = g q
  raiz : g [] = some .carpeta
  tmp : d.below e.tmp = e.extraido

end Escena

/-! Programs that are known by what they do to the disk -/

abbrev En (P : Disco C → Prop) : Mundo C → Prop := fun w => P w.disco

/-- An operation that ends so leaves a disk with `Q`, or with `E`. -/
def Deja (Q : α → Disco C → Prop) (E : Excepcion → Disco C → Prop) : Except Excepcion α × Disco C → Prop
  | (.ok a, d) => Q a d
  | (.error x, d) => E x d

section
variable {e : Escena C} {P : Disco C → Prop} {Q : α → Disco C → Prop} {E : Excepcion → Disco C → Prop}

theorem meets_paso {z : Ruta} {op : Operacion C α}
    (fails : ∀ d, P d → E .osError (d.replace z e.resto))
    (works : ∀ d, P d → Deja Q E (op d)) :
    Meets (En P) (paso e (some z) op) (fun a => En (Q a)) (fun x => En (E x)) := by
  intro w holds
  unfold paso
  by_cases bad : e.falla = some w.hechos
  · rw [if_pos bad]
    exact fails w.disco holds
  · rw [if_neg bad]
    have done := works w.disco holds
    cases ran : op w.disco with
    | mk r d' =>
      rw [ran] at done
      cases r with
      | ok a => exact done
      | error x => exact done

theorem meets_esperaSi {m : Prog C α} {c : Bool} (meets : Meets (En P) m (fun a => En (Q a)) (fun x => En (E x)))
    (cancelled : c = true → ∀ a d, Q a d → E .cancelledError d) :
    Meets (En P) (esperaSi c m) (fun a => En (Q a)) (fun x => En (E x)) := by
  refine meets.bind fun a => ?_
  cases c with
  | true => exact Meets.stop _ fun w holds => cancelled rfl a w.disco holds
  | false => exact Meets.pure a fun w holds => holds

theorem meets_espera {m : Prog C α} (meets : Meets (En P) m (fun a => En (Q a)) (fun x => En (E x)))
    (cancelled : ∀ a d, Q a d → E .cancelledError d) :
    Meets (En P) (espera e m) (fun a => En (Q a)) (fun x => En (E x)) :=
  fun w holds => meets_esperaSi meets (fun _ => cancelled) ⟨w.disco, w.hechos, w.esperas + 1⟩ holds

theorem meets_cuando {b : Bool} {m : Prog C Unit} {R : Disco C → Prop}
    (yes : b = true → Meets (En P) m (fun _ => En R) (fun x => En (E x)))
    (no : b = false → ∀ d, P d → R d) : Meets (En P) (cuando b m) (fun _ => En R) (fun x => En (E x)) := by
  cases b with
  | true => exact yes rfl
  | false => exact Meets.pure () fun w holds => no rfl w.disco holds

end

/-! The operations on the staging folder -/

theorem find_crea {rs : List Ruta} {d d' : Disco C} (done : crea rs d = (.ok (), d')) (r : Ruta) :
    d'.find r = if r ∈ rs then some .carpeta else d.find r := by
  induction rs generalizing d with
  | nil =>
    cases done
    simp
  | cons s rs ih =>
    rw [crea] at done
    split at done
    · next there =>
      rw [ih done]
      by_cases same : r = s
      · simp [same, there]
      · simp [same]
    · next absent =>
      rw [ih done, Store.find_put]
      by_cases same : r = s
      · simp [same]
      · simp [same]
    · cases done

/-- What each new folder keeps is kept. -/
theorem crea_keeps {P : Disco C → Prop} {rs : List Ruta}
    (each : ∀ d r, r ∈ rs → d.find r = none → P d → P (d.put r .carpeta)) {d : Disco C} (holds : P d) :
    P (crea rs d).2 := by
  induction rs generalizing d with
  | nil => exact holds
  | cons s rs ih =>
    have later := fun d r mem => each d r (List.mem_cons_of_mem _ mem)
    rw [crea]
    split
    · exact ih later holds
    · next absent => exact ih later (each d s List.mem_cons_self absent holds)
    · exact holds

theorem below_put {p q : Ruta} (apart : ¬p <+: q) (x : Entrada C) (d : Disco C) :
    (d.put q x).below p = d.below p := by
  rw [Store.below, Store.put, List.filter_cons_of_neg (by simpa using apart)]
  rfl

section
variable {e : Escena C}

theorem Escena.Antes.put {d : Disco C} (early : e.Antes d) {q : Ruta} (below : e.zonaStaging <+: q)
    (x : Entrada C) : e.Antes (d.put q x) := by
  intro r notStaging notTmp
  have other : r ≠ q := by
    intro same
    exact notStaging (same ▸ below)
  rw [Store.find_put, if_neg other]
  exact early r notStaging notTmp

theorem Escena.Antes.replace {d : Disco C} (early : e.Antes d) (piece : Disco C) :
    e.Antes (d.replace e.zonaStaging piece) ∧ e.Antes (d.replace e.tmp piece) := by
  constructor
  · intro r notStaging notTmp
    rw [Store.find_replace_other notStaging]
    exact early r notStaging notTmp
  · intro r notStaging notTmp
    rw [Store.find_replace_other notTmp]
    exact early r notStaging notTmp

/-- A path above one in the staging folder is in it, or one of the folders that are there. -/
theorem nueva_en_staging {d : Disco C} (early : e.Antes d) {r dest : Ruta} (inside : e.zonaStaging <+: dest)
    (above : r <+: dest) (absent : d.find r = none) : e.zonaStaging <+: r := by
  cases List.prefix_or_prefix_of_prefix above inside with
  | inl higher =>
    cases List.prefix_concat_iff.mp higher with
    | inl same => exact same ▸ List.prefix_rfl
    | inr inMods =>
      rw [early.mods inMods] at absent
      cases absent
  | inr lower => exact lower

/-- The folders above a destination are made, and nothing else changes. -/
theorem makedirs_preparado {g : Ruta → Option (Entrada C)} {d : Disco C} (ready : e.Preparado g d) (q : Ruta) :
    Deja (fun _ => e.Preparado fun r => if r <+: q ∧ r ≠ q then some .carpeta else g r)
      (fun _ => e.Antes) (makedirs (e.zonaStaging ++ q).dropLast d) := by
  have inside : e.zonaStaging <+: e.zonaStaging ++ q := List.prefix_append _ _
  have each : ∀ d' r, r ∈ (e.zonaStaging ++ q).dropLast.inits → d'.find r = none →
      e.Antes d' ∧ d'.below e.tmp = e.extraido →
      e.Antes (d'.put r .carpeta) ∧ (d'.put r .carpeta).below e.tmp = e.extraido := by
    intro d' r mem absent holds
    have above := (List.mem_inits _ _).mp mem
    have place := nueva_en_staging holds.1 inside (above.trans (List.dropLast_prefix _)) absent
    exact ⟨holds.1.put place _, by rw [below_put (fun inTmp => e.hijo_aparte place inTmp), holds.2]⟩
  have kept := crea_keeps (P := fun d' => e.Antes d' ∧ d'.below e.tmp = e.extraido) each
    ⟨ready.antes, ready.tmp⟩
  unfold makedirs
  cases ran : crea (e.zonaStaging ++ q).dropLast.inits d with
  | mk result d' =>
    rw [ran] at kept
    cases result with
    | error x => exact kept.1
    | ok u =>
      refine ⟨kept.1, fun r => ?_, ?_, kept.2⟩
      · have made := find_crea ran (e.zonaStaging ++ r)
        simp only [List.mem_inits] at made
        rw [made, ready.arbol]
        cases List.eq_nil_or_concat' q with
        | inl root =>
          subst root
          have above : ¬e.zonaStaging ++ r <+: (e.zonaStaging ++ []).dropLast := by
            rw [List.append_nil, Escena.zonaStaging, List.dropLast_concat]
            exact fun higher => e.mods_ajena higher (List.prefix_append _ r)
          have self : ¬(r <+: [] ∧ r ≠ []) := fun both => both.2 (List.prefix_nil.mp both.1)
          rw [if_neg above, if_neg self]
        | inr under =>
          obtain ⟨t, n, same⟩ := under
          subst same
          have same : e.zonaStaging ++ r <+: (e.zonaStaging ++ (t ++ [n])).dropLast ↔
              r <+: t ++ [n] ∧ r ≠ t ++ [n] := by
            rw [← List.append_assoc, List.dropLast_concat, List.prefix_append_right_inj,
              List.prefix_concat_iff]
            constructor
            · intro above
              refine ⟨.inr above, fun whole => ?_⟩
              have size := (whole ▸ above).length_le
              rw [List.length_append, List.length_singleton] at size
              omega
            · intro both
              exact both.1.resolve_left both.2
          by_cases above : e.zonaStaging ++ r <+: (e.zonaStaging ++ (t ++ [n])).dropLast
          · rw [if_pos above, if_pos (same.mp above)]
          · rw [if_neg above, if_neg (fun both => above (same.mpr both))]
      · show (if _ then _ else _) = _
        split
        · rfl
        · exact ready.raiz

/-- A file over the staged tree. Onto a folder it is copied some other way. -/
theorem copy2_preparado {g : Ruta → Option (Entrada C)} {d : Disco C} (ready : e.Preparado g d) {s q : Ruta}
    {c : C} (source : e.extraido.find s = some (.archivo c)) :
    Deja (fun _ d' => ∃ g', e.Preparado g' d' ∧
        (g q ≠ some .carpeta → g' = fun r => if r = q then some (.archivo c) else g r))
      (fun _ => e.Antes) (copy2 (e.tmp ++ s) (e.zonaStaging ++ q) d) := by
  have from_ : d.find (e.tmp ++ s) = some (.archivo c) := by
    rw [← Store.find_below, ready.tmp, source]
  have written {p : Ruta} (other : p ≠ []) : e.Preparado
      (fun r => if r = p then some (.archivo c) else g r) (d.put (e.zonaStaging ++ p) (.archivo c)) := by
    refine ⟨ready.antes.put (List.prefix_append _ _) _, fun r => ?_, ?_, ?_⟩
    · rw [Store.find_put, ready.arbol]
      simp
    · simp only [if_neg (fun same : [] = p => other same.symm)]
      exact ready.raiz
    · have apart : ¬e.tmp <+: e.zonaStaging ++ p := e.hijo_aparte (List.prefix_append e.zonaStaging p)
      rw [below_put apart, ready.tmp]
  unfold copy2
  rw [from_, ready.arbol]
  cases at_ : g q with
  | none =>
    have other : q ≠ [] := by
      intro root
      rw [root, ready.raiz] at at_
      cases at_
    exact ⟨_, written other, fun _ => rfl⟩
  | some x =>
    cases x with
    | archivo c' =>
      have other : q ≠ [] := by
        intro root
        rw [root, ready.raiz] at at_
        cases at_
      exact ⟨_, written other, fun _ => rfl⟩
    | carpeta =>
      simp only
      split
      · exact ready.antes
      · rw [List.append_assoc]
        exact ⟨_, written (by simp), fun plain => absurd rfl plain⟩

/-! The copies -/

/-- The staging folder holds the copies of `l`, if these meet no folder. -/
def Escena.Hasta (e : Escena C) (l : List (Ruta × C)) (d : Disco C) : Prop :=
  ∃ g, e.Preparado g d ∧ (SinChoque e.base l → g = superpuesto e.base l)

abbrev EnAntes (e : Escena C) : Excepcion → Mundo C → Prop := fun _ => En e.Antes

/-- An operation on the staging folder, and the wait for it. -/
theorem meets_operacion {P : Disco C → Prop} {Q : α → Disco C → Prop} (op : Operacion C α)
    (early : ∀ d, P d → e.Antes d) (early' : ∀ a d, Q a d → e.Antes d)
    (works : ∀ d, P d → Deja Q (fun _ => e.Antes) (op d)) :
    Meets (En P) (espera e (paso e (some e.zonaStaging) op)) (fun a => En (Q a)) (EnAntes e) :=
  meets_espera (meets_paso (fun d holds => ((early d holds).replace e.resto).1) works) early'

theorem meets_copiaUno {l : List (Ruta × C)} {s q : Ruta} {c : C}
    (source : e.extraido.find s = some (.archivo c)) :
    Meets (En (e.Hasta l)) (copiaUno e (e.tmp ++ s) (e.zonaStaging ++ q))
      (fun _ => En (e.Hasta (l ++ [(q, c)]))) (EnAntes e) := by
  intro w holds
  obtain ⟨g, ready, known⟩ := holds
  have folders := meets_operacion (e := e) (P := e.Preparado g)
    (Q := fun _ => e.Preparado fun r => if r <+: q ∧ r ≠ q then some .carpeta else g r)
    (makedirs (e.zonaStaging ++ q).dropLast) (fun d here => here.antes) (fun _ d here => here.antes)
    fun d here => makedirs_preparado here q
  have file (g' : Ruta → Option (Entrada C)) := meets_operacion (e := e) (P := e.Preparado g')
    (Q := fun _ d => ∃ g'', e.Preparado g'' d ∧
      (g' q ≠ some .carpeta → g'' = fun r => if r = q then some (.archivo c) else g' r))
    (copy2 (e.tmp ++ s) (e.zonaStaging ++ q)) (fun d here => here.antes)
    (fun _ d here => here.choose_spec.1.antes) fun d here => copy2_preparado here source
  have both : Meets (En (e.Preparado g)) (copiaUno e (e.tmp ++ s) (e.zonaStaging ++ q))
      (fun _ => En (e.Hasta (l ++ [(q, c)]))) (EnAntes e) := by
    refine (folders.bind fun _ => file _).mono (fun _ => id) (fun _ d here => ?_) fun _ _ => id
    obtain ⟨g'', ready', written⟩ := here
    refine ⟨g'', ready', fun free => ?_⟩
    obtain ⟨plain, snoc⟩ := superpuesto_snoc free
    have tree := known free.init
    have self : ¬(q <+: q ∧ q ≠ q) := fun absurd => absurd.2 rfl
    rw [if_neg self, tree] at written
    rw [written plain, snoc]
    funext r
    unfold escribe
    by_cases same : r = q
    · rw [if_pos same, if_pos same]
    · rw [if_neg same, if_neg same]
      by_cases above : r <+: q
      · rw [if_pos ⟨above, same⟩, if_pos above]
      · rw [if_neg (fun both => above both.1), if_neg above]
  exact both w ready

theorem contenida_ok {root candidate r : Ruta} (done : contenida root candidate = .ok r) : root <+: r := by
  unfold contenida at done
  split at done
  · next inside =>
    cases done
    exact inside
  · cases done

theorem safeJoin_ok {root r : Ruta} {t : Texto} (done : safeJoin root t = .ok r) : root <+: r := by
  unfold safeJoin at done
  split at done
  · cases done
  · exact contenida_ok done

/-- The folder of the mod is the one that `safe_join` gives for its name. -/
theorem safeJoin_componente {root : Ruta} {name n : Texto} (safe : assertSafeComponent name = .ok n) :
    safeJoin root name = .ok (root ++ [name]) := by
  unfold assertSafeComponent at safe
  split at safe
  · cases safe
  · next plain =>
    rw [not_or, not_or, not_or] at plain
    obtain ⟨some_, notDot, notDots, clean⟩ := plain
    have each : ∀ c ∈ name, c ≠ '/' ∧ 0x20 ≤ c.toNat := by
      intro c mem
      have fine := fun bad => clean (List.any_eq_true.mpr ⟨c, mem, bad⟩)
      constructor
      · intro slash
        exact fine (by simp [slash])
      · by_contra low
        exact fine (by simp [Nat.lt_of_not_le low])
    have noSlash : '/' ∉ name := fun mem => (each _ mem).1 rfl
    have noNul : '\x00' ∉ name := fun mem => absurd (each _ mem).2 (by decide)
    have relative : name.head? ≠ some '/' := fun slash => noSlash (List.mem_of_head? slash)
    have one : partes name = [name] := by
      have whole : name.splitOn '/' = [name] := by
        rw [List.splitOn_eq_splitOnP, List.splitOnP_eq_singleton]
        intro c mem
        simpa using (each c mem).1
      simp [partes, whole, some_, notDot]
    rw [safeJoin, if_neg noNul, if_neg relative, one, List.foldl_cons, List.foldl_nil, avanza, if_neg notDots,
      contenida, if_pos (List.prefix_append root [name])]

theorem prefix_drop {root r : Ruta} (inside : root <+: r) : root ++ r.drop root.length = r := by
  obtain ⟨rest, rfl⟩ := inside
  rw [List.drop_left]

theorem meets_copiaHijos {s dest : Ruta} (inside : e.zonaStaging <+: dest) (nombre : Texto) {rels : List Ruta}
    (files : ∀ rel ∈ rels, ∃ c, e.extraido.find (s ++ rel) = some (.archivo c)) (l : List (Ruta × C)) :
    Meets (En (e.Hasta l)) (copiaHijos e (e.tmp ++ s) dest nombre rels)
      (fun _ => En (e.Hasta (l ++ copiasDeHijos e.extraido e.zonaStaging s dest rels))) (EnAntes e) := by
  induction rels generalizing l with
  | nil =>
    refine Meets.pure _ fun w holds => ?_
    rw [copiasDeHijos, List.filterMap_nil, List.append_nil]
    exact holds
  | cons rel rels ih =>
    have later := ih fun r mem => files r (List.mem_cons_of_mem _ mem)
    obtain ⟨c, file⟩ := files rel List.mem_cons_self
    unfold copiaHijos copiasDeHijos
    cases joined : safeJoinRel dest rel with
    | error x =>
      rw [List.filterMap_cons_none (by simp [joined])]
      exact later l
    | ok childDest =>
      have below : e.zonaStaging <+: childDest := inside.trans (contenida_ok joined)
      rw [List.filterMap_cons_some (b := (childDest.drop e.zonaStaging.length, c)) (by simp [joined, file])]
      have one := meets_copiaUno (l := l) (q := childDest.drop e.zonaStaging.length) file
      rw [prefix_drop below, ← List.append_assoc] at one
      refine one.bind fun _ => ?_
      have rest := later (l ++ [(childDest.drop e.zonaStaging.length, c)])
      rw [List.append_assoc, List.singleton_append] at rest
      exact rest.bind fun _ => Meets.pure _ fun w holds => holds

theorem hijos_extraido {d : Disco C} (archive : d.below e.tmp = e.extraido) (s : Ruta) :
    hijos d (e.tmp ++ s) = hijos e.extraido s := by
  have files (rel : Ruta) : d.find (e.tmp ++ s ++ rel) = e.extraido.find (s ++ rel) := by
    rw [List.append_assoc, ← Store.find_below, archive]
  simp only [hijos, ← Store.below_append, archive, files]

theorem hijos_archivos {x : Disco C} {s rel : Ruta} (mem : rel ∈ hijos x s) :
    ∃ c, x.find (s ++ rel) = some (.archivo c) := by
  have file := (List.mem_filter.mp mem).2
  split at file
  · next c found => exact ⟨c, found⟩
  · cases file

theorem copiaDentro_corre (e : Escena C) (src dest : Ruta) (nombre : Texto) (w : Mundo C) :
    copiaDentro e src dest nombre w = (match w.disco.find src with
    | some .carpeta => copiaHijos e src dest nombre (hijos w.disco src)
    | some (.archivo _) => do
      copiaUno e src dest
      return [(nombre, [])]
    | none => return []) w := rfl

theorem meets_copiaDentro {src dest : Ruta} (inside : e.zonaStaging <+: dest) (inTmp : e.tmp <+: src)
    (nombre : Texto) (l : List (Ruta × C)) :
    Meets (En (e.Hasta l)) (copiaDentro e src dest nombre)
      (fun _ => En (e.Hasta (l ++ e.copiasDentro src dest))) (EnAntes e) := by
  intro w holds
  obtain ⟨g, ready, known⟩ := id holds
  have source : w.disco.find src = e.extraido.find (src.drop e.tmp.length) := by
    rw [← ready.tmp, Store.find_below, prefix_drop inTmp]
  have listed : hijos w.disco src = hijos e.extraido (src.drop e.tmp.length) := by
    rw [← hijos_extraido ready.tmp, prefix_drop inTmp]
  rw [copiaDentro_corre]
  cases found : e.extraido.find (src.drop e.tmp.length) with
  | none =>
    have nothing : e.copiasDentro src dest = [] := by simp only [Escena.copiasDentro, found]
    rw [nothing, List.append_nil, source, found]
    exact holds
  | some x =>
    cases x with
    | carpeta =>
      have all := meets_copiaHijos (s := src.drop e.tmp.length) inside nombre
        (fun rel mem => hijos_archivos (s := src.drop e.tmp.length) mem) l
      have many : e.copiasDentro src dest = copiasDeHijos e.extraido e.zonaStaging
          (src.drop e.tmp.length) dest (hijos e.extraido (src.drop e.tmp.length)) := by
        simp only [Escena.copiasDentro, found]
      rw [prefix_drop inTmp] at all
      rw [many, source, found, listed]
      exact all w holds
    | archivo c =>
      have one := meets_copiaUno (l := l) (q := dest.drop e.zonaStaging.length) found
      have single : e.copiasDentro src dest = [(dest.drop e.zonaStaging.length, c)] := by
        simp only [Escena.copiasDentro, found]
      rw [prefix_drop inside, prefix_drop inTmp] at one
      rw [single, source, found]
      exact (one.bind fun _ => Meets.pure [(nombre, [])] fun w holds => holds) w holds

/-- A path that leaves its folder is skipped; another error ends the copies. -/
theorem meets_copiaEntrada (f : FileInstall) (l : List (Ruta × C)) :
    Meets (En (e.Hasta l)) (copiaEntrada e (e.tmp ++ e.raiz) e.zonaStaging f)
      (fun _ => En (e.Hasta (l ++ e.copiasDe f))) (EnAntes e) := by
  have early : ∀ w : Mundo C, En (e.Hasta l) w → e.Antes w.disco := fun w holds => holds.choose_spec.1.antes
  unfold copiaEntrada Escena.copiasDe
  cases source : safeJoin (e.tmp ++ e.raiz) f.source.toList with
  | error x =>
    simp only [List.append_nil]
    split
    · exact Meets.pure _ fun w holds => holds
    · exact Meets.stop _ early
    · next joined => cases joined
  | ok src =>
    simp only
    cases target : safeJoin e.zonaStaging (destRel f) with
    | error x =>
      simp only [List.append_nil]
      split
      · exact Meets.pure _ fun w holds => holds
      · exact Meets.stop _ early
      · next joined => cases joined
    | ok dest =>
      exact meets_copiaDentro (safeJoin_ok target)
        ((List.prefix_append e.tmp e.raiz).trans (safeJoin_ok source)) _ l

theorem meets_copyResolvedFiles (files : List FileInstall) (l : List (Ruta × C)) :
    Meets (En (e.Hasta l)) (copyResolvedFiles e (e.tmp ++ e.raiz) e.zonaStaging files)
      (fun _ => En (e.Hasta (l ++ files.flatMap e.copiasDe))) (EnAntes e) := by
  induction files generalizing l with
  | nil =>
    refine Meets.pure _ fun w holds => ?_
    rw [List.flatMap_nil, List.append_nil]
    exact holds
  | cons f files ih =>
    refine (meets_copiaEntrada f l).bind fun _ => ?_
    have rest := ih (l ++ e.copiasDe f)
    rw [List.append_assoc, ← List.flatMap_cons] at rest
    exact rest.bind fun _ => Meets.pure _ fun w holds => holds

end

/-! The promotion -/

section
variable {e : Escena C}

theorem Escena.zonaStaging_ajena (e : Escena C) (q : Ruta) :
    ¬e.destino <+: e.zonaStaging ++ q ∧ ¬e.zonaRespaldo <+: e.zonaStaging ++ q :=
  ⟨fun other => e.otroStaging (hijo_unico (List.prefix_append _ q) other),
    fun other => e.distintos (hijo_unico (List.prefix_append _ q) other)⟩

/-- The old folder is out of the way, and the tree with the copies is staged. -/
structure Escena.Apartado (e : Escena C) (d : Disco C) : Prop where
  carpeta : d.find e.zonaStaging = some .carpeta
  arbol : SinChoque e.base e.copias → ∀ q, d.find (e.zonaStaging ++ q) = superpuesto e.base e.copias q
  libre : ∀ q, d.find (e.destino ++ q) = none
  respaldo : ∀ q, d.find (e.zonaRespaldo ++ q) = e.disco.find (e.destino ++ q)
  resto : ∀ r, e.Ajena r → ¬e.destino <+: r → d.find r = e.disco.find r

/-- The new folder is in its place, and nothing is staged. -/
def Escena.Promovido (e : Escena C) (d : Disco C) : Prop := e.Nuevo d ∧ d.find e.zonaStaging = none

/-- The staged tree of a `Hasta`. -/
theorem Escena.Hasta.staging {d : Disco C} (staged : e.Hasta e.copias d) :
    d.find e.zonaStaging = some .carpeta ∧
      (SinChoque e.base e.copias → ∀ q, d.find (e.zonaStaging ++ q) = superpuesto e.base e.copias q) := by
  obtain ⟨g, ready, known⟩ := staged
  constructor
  · have root := ready.arbol []
    rw [List.append_nil, ready.raiz] at root
    exact root
  · intro free q
    rw [ready.arbol, known free]

theorem Escena.Hasta.antes {l : List (Ruta × C)} {d : Disco C} (staged : e.Hasta l d) : e.Antes d :=
  staged.choose_spec.1.antes

/-- There was nothing to move out of the way. -/
theorem apartado_sin_mover {d : Disco C} (staged : e.Hasta e.copias d)
    (absent : e.disco.find e.destino = none) : e.Apartado d := by
  obtain ⟨folder, tree⟩ := staged.staging
  have closed := e.cerrado absent
  refine ⟨folder, tree, fun q => ?_, fun q => ?_, fun r other _ => staged.antes.intacto r other⟩
  · rw [staged.antes.destino]
    exact closed q
  · rw [staged.antes.respaldo]
    exact (closed q).symm

/-- The old folder is moved out of the way. -/
theorem apartado_mover {d : Disco C} (staged : e.Hasta e.copias d) :
    e.Apartado (d.move e.destino e.zonaRespaldo) := by
  obtain ⟨folder, tree⟩ := staged.staging
  have kept (q : Ruta) : (d.move e.destino e.zonaRespaldo).find (e.zonaStaging ++ q) =
      d.find (e.zonaStaging ++ q) := by
    have other := e.zonaStaging_ajena q
    rw [Store.find_move_other other.2, if_neg other.1]
  have root := kept []
  rw [List.append_nil, folder] at root
  refine ⟨root, fun free q => (kept q).trans (tree free q), fun q => ?_, fun q => ?_, fun r other apart => ?_⟩
  · have below := List.prefix_append e.destino q
    rw [Store.find_move_other (e.destino_ajeno below).2.1, if_pos below]
  · rw [Store.find_move staged.antes.respaldo, staged.antes.destino]
  · rw [Store.find_move_other other.2.1, if_neg apart]
    exact staged.antes.intacto r other

/-- The staged folder takes the free place. -/
theorem Escena.Apartado.promovido {d : Disco C} (ready : e.Apartado d) :
    e.Promovido (d.move e.zonaStaging e.destino) := by
  have self := (e.zonaStaging_ajena []).1
  rw [List.append_nil] at self
  refine ⟨⟨fun r other apart => ?_, fun free q => ?_⟩, ?_⟩
  · rw [Store.find_move_other apart, if_neg other.1]
    exact ready.resto r other apart
  · rw [Store.find_move ready.libre]
    exact ready.arbol free q
  · rw [Store.find_move_other self, if_pos List.prefix_rfl]

/-- The old folder is moved back. -/
theorem Escena.Apartado.devuelto {d : Disco C} (ready : e.Apartado d) :
    e.Intacto (d.move e.zonaRespaldo e.destino) := by
  intro r other
  by_cases inside : e.destino <+: r
  · obtain ⟨q, rfl⟩ := inside
    rw [Store.find_move ready.libre]
    exact ready.respaldo q
  · rw [Store.find_move_other inside, if_neg other.2.1]
    exact ready.resto r other inside

/-- Nothing had been moved, and nothing is to be moved back. -/
theorem Escena.Apartado.intacto {d : Disco C} (ready : e.Apartado d)
    (absent : e.disco.find e.destino = none) : e.Intacto d := by
  intro r other
  by_cases inside : e.destino <+: r
  · obtain ⟨q, rfl⟩ := inside
    rw [ready.libre]
    exact (e.cerrado absent q).symm
  · exact ready.resto r other inside

/-- What a clean-up leaves in one of the folders of the installation. -/
theorem limpia_fuera {z r : Ruta} (apart : ¬z <+: r) (resto : Option (Disco C)) (w : Mundo C) :
    (limpia z resto w).2.disco.find r = w.disco.find r := by
  unfold limpia
  cases resto with
  | none => exact (Store.find_remove z w.disco r).trans (if_neg apart)
  | some piece => exact Store.find_replace_other apart w.disco piece

theorem rename_mueve {src dst : Ruta} {d : Disco C} (there : d.find src ≠ none) (free : d.find dst = none) :
    rename src dst d = (.ok (), d.move src dst) := by
  have fine : ¬(d.find src = none ∨ d.find dst ≠ none) := by
    intro bad
    cases bad with
    | inl absent => exact there absent
    | inr taken => exact taken free
  rw [rename, if_neg fine]

/-- A rename that the disk allows. When it fails, no later operation does. -/
theorem meets_rename {P Q E : Disco C → Prop} {src dst : Ruta} (fails : ∀ d, P d → E d)
    (works : ∀ d, P d → d.find src ≠ none ∧ d.find dst = none ∧ Q (d.move src dst)) :
    Meets (En P) (paso e none (rename src dst)) (fun _ => En Q)
      (fun _ w => E w.disco ∧ e.falla ≠ some w.hechos) := by
  intro w holds
  obtain ⟨there, free, moved⟩ := works w.disco holds
  unfold paso
  by_cases bad : e.falla = some w.hechos
  · rw [if_pos bad]
    refine ⟨fails w.disco holds, fun again => ?_⟩
    have twice := Option.some.inj (bad.symm.trans again)
    simp only at twice
    omega
  · rw [if_neg bad, rename_mueve there free]
    exact moved

theorem meets_devuelve (existed : (e.disco.find e.destino).isSome) :
    Meets (fun w => e.Apartado w.disco ∧ e.falla ≠ some w.hechos)
      (paso e none (rename e.zonaRespaldo e.destino)) (fun _ => En e.Intacto) (fun _ => En e.Intacto) := by
  intro w holds
  have there : w.disco.find e.zonaRespaldo ≠ none := by
    have same := holds.1.respaldo []
    rw [List.append_nil, List.append_nil] at same
    rw [same]
    exact Option.isSome_iff_ne_none.mp existed
  have free : w.disco.find e.destino = none := by
    have absent := holds.1.libre []
    rw [List.append_nil] at absent
    exact absent
  unfold paso
  rw [if_neg holds.2, rename_mueve there free]
  exact holds.1.devuelto

theorem limpia_respaldo_promovido (w : Mundo C) (done : e.Promovido w.disco) :
    e.Promovido (limpia e.zonaRespaldo e.restoDeRespaldo w).2.disco := by
  have staging := (e.zonaStaging_ajena []).2
  rw [List.append_nil] at staging
  refine ⟨⟨fun r other apart => ?_, fun free q => ?_⟩, ?_⟩
  · rw [limpia_fuera other.2.1]
    exact done.1.1 r other apart
  · rw [limpia_fuera (e.destino_ajeno (List.prefix_append _ q)).2.1]
    exact done.1.2 free q
  · rw [limpia_fuera staging]
    exact done.2

/-- What the promotion leaves when the second rename was made, and when it was not. -/
def Escena.TrasMover (e : Escena C) : Except Excepcion Unit → Mundo C → Prop
  | .ok () => En e.Promovido
  | .error _ => fun w => e.Apartado w.disco ∧ e.falla ≠ some w.hechos

theorem meets_acabaPromocion (movido : Except Excepcion Unit) :
    Meets (e.TrasMover movido) (acabaPromocion e (e.disco.find e.destino).isSome movido)
      (fun _ => En e.Promovido) (fun _ => En e.Intacto) := by
  cases movido with
  | ok u =>
    refine meets_cuando (P := e.Promovido) (fun _ => ?_) fun _ d done => done
    exact limpia_respaldo_promovido
  | error x =>
    intro w holds
    have same := holds.1.respaldo []
    rw [List.append_nil, List.append_nil] at same
    have ran : acabaPromocion e (e.disco.find e.destino).isSome (.error x) w =
        ((cuando ((e.disco.find e.destino).isSome && (w.disco.find e.zonaRespaldo).isSome)
          (paso e none (rename e.zonaRespaldo e.destino))) >>= fun _ => stop x) w := rfl
    rw [ran, same, Bool.and_self]
    cases existed : (e.disco.find e.destino).isSome with
    | false => exact holds.1.intacto (Option.isNone_iff_eq_none.mp (by simpa using existed))
    | true =>
      have restored := (meets_devuelve existed).bind (f := fun _ => stop (α := Unit) x)
        (R := fun _ => En e.Promovido) fun _ => Meets.stop x fun w done => done
      exact restored w holds

theorem meets_promoverStaging : Meets (En (e.Hasta e.copias)) (promoverStaging e)
    (fun _ => En e.Promovido) (fun _ => En e.Intacto) := by
  intro w holds
  have same := holds.antes.destino []
  rw [List.append_nil] at same
  have apart : Meets (En (e.Hasta e.copias))
      (cuando (e.disco.find e.destino).isSome (paso e none (rename e.destino e.zonaRespaldo)))
      (fun _ => En e.Apartado) (fun _ => En e.Intacto) := by
    refine meets_cuando (fun existed => ?_) fun absent d staged => ?_
    · refine (meets_rename (Q := e.Apartado) (E := e.Antes) (fun d staged => staged.antes)
        fun d staged => ⟨?_, ?_, apartado_mover staged⟩).mono (fun _ => id) (fun _ _ => id)
          fun _ _ left => left.1.intacto
      · have here := staged.antes.destino []
        rw [List.append_nil] at here
        rw [here]
        exact Option.isSome_iff_ne_none.mp existed
      · have free := staged.antes.respaldo []
        rw [List.append_nil] at free
        exact free
    · exact apartado_sin_mover staged (Option.isNone_iff_eq_none.mp (by simpa using absent))
  have moved : Meets (En e.Apartado)
      (attempt (paso e none (rename e.zonaStaging e.destino)) : Prog C (Except Excepcion Unit))
      e.TrasMover (fun _ => En e.Intacto) := by
    refine (meets_rename (P := e.Apartado) (Q := e.Promovido) (E := e.Apartado) (fun d ready => ready)
      fun d ready => ⟨?_, ?_, ready.promovido⟩).attempt (fun _ _ => id) fun _ _ => id
    · rw [ready.carpeta]
      simp
    · have free := ready.libre []
      rw [List.append_nil] at free
      exact free
  have whole := (apart.bind fun _ => moved.bind meets_acabaPromocion) w holds
  have ran : promoverStaging e w = (cuando (w.disco.find e.destino).isSome
      (paso e none (rename e.destino e.zonaRespaldo)) >>= fun _ =>
        attempt (paso e none (rename e.zonaStaging e.destino)) >>=
          acabaPromocion e (w.disco.find e.destino).isSome) w := rfl
  rw [ran, same]
  exact whole

/-! The installation in the staging folder -/

/-- Only an error after the promotion is raised over the new folder. -/
def Escena.Fallo (e : Escena C) (cancelado : Prop) (x : Excepcion) (d : Disco C) : Prop :=
  e.Intacto d ∨ (x = .cancelledError ∧ cancelado ∧ e.Promovido d)

/-- What the copies and the promotion leave. -/
def Escena.Hecho (e : Escena C) (copied : List Copiado) (d : Disco C) : Prop :=
  if copied = [] then e.Intacto d else e.Promovido d

/-- The staging folder before the copies. -/
def Escena.Vacio (e : Escena C) (d : Disco C) : Prop :=
  e.Preparado (fun q => if q = [] then some .carpeta else none) d

theorem vacio_hasta {d : Disco C} (empty : e.Vacio d) (absent : esCarpeta (e.disco.find e.destino) = false) :
    e.Hasta [] d := by
  refine ⟨_, empty, fun _ => ?_⟩
  funext q
  simp [superpuesto, Escena.base, absent]

/-- The folder of the mod is copied to the staging folder. -/
theorem copytree_hasta {d : Disco C} (empty : e.Vacio d) (there : esCarpeta (e.disco.find e.destino) = true) :
    e.Hasta [] (d.copy e.destino e.zonaStaging) := by
  have root : e.disco.find (e.destino ++ []) = some .carpeta := by
    rw [List.append_nil]
    unfold esCarpeta at there
    split at there
    · next found => exact found
    · cases there
  refine ⟨fun q => e.disco.find (e.destino ++ q), ⟨fun r notStaging notTmp => ?_, fun q => ?_, root, ?_⟩,
    fun _ => ?_⟩
  · rw [Store.find_copy_other notStaging]
    exact empty.antes r notStaging notTmp
  · rw [Store.find_copy, empty.antes.destino, empty.arbol]
    by_cases top : q = []
    · rw [top, root]
      rfl
    · rw [if_neg top, Option.or_none]
  · have apart : ∀ x ∈ Store.under e.zonaStaging (d.below e.destino), ¬e.tmp <+: x.1 := by
      intro x mem
      obtain ⟨y, _, rfl⟩ := List.mem_map.mp mem
      exact e.hijo_aparte (List.prefix_append _ y.1)
    rw [Store.copy, Store.below, List.filter_append, List.filter_eq_nil_iff.mpr (by simpa using apart),
      List.nil_append]
    exact empty.tmp
  · funext q
    simp [superpuesto, Escena.base, there]

/-- The promotion of some copies; without copies nothing is promoted. -/
theorem meets_publica (copied : List Copiado) :
    Meets (En (e.Hasta e.copias)) (cuando (decide (copied ≠ [])) (esperaSi e.cancelaPromocion (promoverStaging e)))
      (fun _ => En (e.Hecho copied)) (fun x => En (e.Fallo (e.cancelaPromocion = true) x)) := by
  have promoted : Meets (En (e.Hasta e.copias)) (esperaSi e.cancelaPromocion (promoverStaging e))
      (fun _ => En e.Promovido) (fun x => En (e.Fallo (e.cancelaPromocion = true) x)) :=
    meets_esperaSi (meets_promoverStaging.mono (fun _ => id) (fun _ _ => id) fun _ _ old => .inl old)
      fun cancelled _ d new => .inr ⟨rfl, cancelled, new⟩
  by_cases none_ : copied = []
  · subst none_
    exact fun w staged => staged.antes.intacto
  · have some_ : decide (copied ≠ []) = true := by simpa using none_
    have done : e.Hecho copied = e.Promovido := by
      funext d
      exact if_neg none_
    rw [some_, done]
    exact promoted

theorem meets_prepara {files : List FileInstall} (asked : e.configuracion = .archivos files) :
    Meets (En e.Vacio) (prepara e files) (fun copied => En (e.Hecho copied))
      (fun x => En (e.Fallo (e.cancelaPromocion = true) x)) := by
  intro w holds
  have same := holds.antes.destino []
  rw [List.append_nil] at same
  have base : Meets (En e.Vacio) (cuando (esCarpeta (e.disco.find e.destino))
      (espera e (paso e (some e.zonaStaging) (copytree e.destino e.zonaStaging))))
      (fun _ => En (e.Hasta [])) (EnAntes e) := by
    refine meets_cuando (fun there => ?_) fun absent d empty => vacio_hasta empty absent
    exact meets_operacion (P := e.Vacio) (Q := fun _ => e.Hasta []) _ (fun d empty => empty.antes)
      (fun _ d staged => staged.antes) fun d empty => copytree_hasta empty there
  have copies := meets_copyResolvedFiles (e := e) files []
  have all : [] ++ files.flatMap e.copiasDe = e.copias := by rw [Escena.copias, asked, List.nil_append]
  rw [all] at copies
  have early (x : Excepcion) (w : Mundo C) (left : e.Antes w.disco) :
      e.Fallo (e.cancelaPromocion = true) x w.disco := .inl left.intacto
  have whole := (base.mono (fun _ => id) (fun _ _ => id) early).bind fun _ =>
    (copies.mono (fun _ => id) (fun _ _ => id) early).bind fun copied => (meets_publica copied).bind fun _ =>
      Meets.pure (Q := fun l : List Copiado => En (e.Hecho l)) copied fun w done => done
  have ran : prepara e files w = (cuando (esCarpeta (w.disco.find e.destino))
      (espera e (paso e (some e.zonaStaging) (copytree e.destino e.zonaStaging))) >>= fun _ =>
        copyResolvedFiles e (e.tmp ++ e.raiz) e.zonaStaging files >>= fun copied =>
          cuando (decide (copied ≠ [])) (esperaSi e.cancelaPromocion (promoverStaging e)) >>= fun _ =>
            pure copied) w := rfl
  rw [ran, same]
  exact whole w holds

/-- The clean-up of the staging folder, when it is still there. -/
theorem meets_limpiaStaging_intacto :
    Meets (En e.Intacto) (limpiaStaging e) (fun _ => En e.Intacto) (fun _ => En e.Intacto) := by
  have cleaned : Meets (En e.Intacto) (limpia e.zonaStaging e.restoDeStaging) (fun _ => En e.Intacto)
      (fun _ => En e.Intacto) := by
    intro w holds r other
    exact (limpia_fuera other.1 _ w).trans (holds r other)
  intro w holds
  exact meets_cuando (b := (w.disco.find e.zonaStaging).isSome) (R := e.Intacto)
    (fun _ => meets_espera cleaned fun _ _ old => old) (fun _ _ old => old) w holds

/-- After the promotion there is nothing to clean up, nor to wait for. -/
theorem meets_limpiaStaging_promovido :
    Meets (En e.Promovido) (limpiaStaging e) (fun _ => En e.Promovido) (fun _ _ => False) := by
  intro w done
  have ran : limpiaStaging e w = cuando (w.disco.find e.zonaStaging).isSome
      (espera e (limpia e.zonaStaging e.restoDeStaging)) w := rfl
  rw [ran, done.2]
  exact done

/-- What an installation has left when it answers. -/
def Escena.Fin (e : Escena C) (r : InstallResult) (d : Disco C) : Prop :=
  if r.installed then e.Promovido d else e.Intacto d

/-- What is left when the copies and the promotion end one way or the other. -/
def Escena.TrasPreparar (e : Escena C) : Except Excepcion (List Copiado) → Mundo C → Prop
  | .ok copied => En (e.Hecho copied)
  | .error x => En (e.Fallo (e.cancelaPromocion = true) x)

/-- The end of an installation, after the copies and the promotion. -/
theorem meets_trasPreparar (hecho : Except Excepcion (List Copiado)) : Meets (e.TrasPreparar hecho)
      (limpiaStaging e >>= fun _ => ofExcept hecho >>= fun copied =>
        pure ⟨copied, false, false, decide (copied ≠ [])⟩)
      (fun r => En (e.Fin r)) (fun x => En (e.Fallo (e.cancelaPromocion = true) x)) := by
  have old : Meets (En e.Intacto) (limpiaStaging e) (fun _ => En e.Intacto)
      (fun x => En (e.Fallo (e.cancelaPromocion = true) x)) :=
    meets_limpiaStaging_intacto.mono (fun _ => id) (fun _ _ => id) fun _ _ left => .inl left
  have new : Meets (En e.Promovido) (limpiaStaging e) (fun _ => En e.Promovido)
      (fun x => En (e.Fallo (e.cancelaPromocion = true) x)) :=
    meets_limpiaStaging_promovido.mono (fun _ => id) (fun _ _ => id) fun _ _ never => never.elim
  cases hecho with
  | ok copied =>
    by_cases none_ : copied = []
    · subst none_
      exact old.bind fun _ => Meets.pure _ fun w left => left
    · have done : e.Hecho copied = e.Promovido := by
        funext d
        exact if_neg none_
      have installed : e.Fin ⟨copied, false, false, decide (copied ≠ [])⟩ = e.Promovido := by
        funext d
        exact if_pos (by simpa using none_)
      rw [Escena.TrasPreparar, done]
      exact new.bind fun _ => Meets.pure _ fun w left => by rw [installed]; exact left
  | error x =>
    intro w left
    cases left with
    | inl intact => exact (old.bind fun _ => Meets.stop x fun w left => .inl left) w intact
    | inr done =>
      obtain ⟨cancelled, asked, stands⟩ := done
      exact (new.bind fun _ => Meets.stop x fun w left => .inr ⟨cancelled, asked, left⟩) w stands

theorem meets_instalaArchivos {files : List FileInstall} (asked : e.configuracion = .archivos files) :
    Meets (fun w => e.Antes w.disco ∧ w.disco.below e.tmp = e.extraido) (instalaArchivos e files)
      (fun r => En (e.Fin r)) (fun x => En (e.Fallo (e.cancelaPromocion = true) x)) := by
  unfold instalaArchivos
  cases safeJoin e.mods e.nombre with
  | error x => exact Meets.stop x fun w early => .inl early.1.intacto
  | ok modDest =>
    have made : Meets (fun w => e.Antes w.disco ∧ w.disco.below e.tmp = e.extraido)
        (paso e (some e.zonaStaging) (mkdtemp e.zonaStaging)) (fun _ => En e.Vacio)
        (fun x => En (e.Fallo (e.cancelaPromocion = true) x)) := by
      refine meets_paso (P := fun d => e.Antes d ∧ d.below e.tmp = e.extraido) (Q := fun _ => e.Vacio)
        (E := e.Fallo (e.cancelaPromocion = true)) (fun d early => ?_) fun d early => ?_
      · exact .inl (early.1.replace e.resto).1.intacto
      · refine ⟨(early.1.replace _).1, fun q => ?_, rfl, ?_⟩
        · rw [Store.find_replace, Store.find_cons]
          rfl
        · rw [Store.below_replace_apart (p := e.zonaStaging) fun r staged => e.hijo_aparte staged, early.2]
    have prepared : Meets (En e.Vacio) (attempt (prepara e files)) e.TrasPreparar
        (fun x => En (e.Fallo (e.cancelaPromocion = true) x)) :=
      (meets_prepara asked).attempt (fun _ _ => id) fun _ _ => id
    exact made.bind fun _ => prepared.bind meets_trasPreparar

theorem meets_installFomod : Meets (fun w => e.Antes w.disco ∧ w.disco.below e.tmp = e.extraido)
    (installFomod e) (fun r => En (e.Fin r)) (fun x => En (e.Fallo (e.cancelaPromocion = true) x)) := by
  have waited : Meets (fun w => e.Antes w.disco ∧ w.disco.below e.tmp = e.extraido)
      (espera e (pure ())) (fun _ w => e.Antes w.disco ∧ w.disco.below e.tmp = e.extraido)
      (fun x => En (e.Fallo (e.cancelaPromocion = true) x)) :=
    meets_espera (P := fun d => e.Antes d ∧ d.below e.tmp = e.extraido)
      (Q := fun _ d => e.Antes d ∧ d.below e.tmp = e.extraido) (E := e.Fallo (e.cancelaPromocion = true))
      (Meets.pure () fun w early => early) fun _ _ early => .inl early.1.intacto
  unfold installFomod
  cases asked : e.configuracion with
  | ilegible x => exact Meets.stop x fun w early => .inl early.1.intacto
  | errorDeParseo => exact Meets.pure _ fun w early => early.1.intacto
  | pendiente =>
    cases assertSafeComponent e.nombre with
    | error x => exact Meets.stop x fun w early => .inl early.1.intacto
    | ok nombre => exact waited.bind fun _ => Meets.pure _ fun w early => early.1.intacto
  | archivos files =>
    cases assertSafeComponent e.nombre with
    | error x => exact Meets.stop x fun w early => .inl early.1.intacto
    | ok nombre => exact waited.bind fun _ => meets_instalaArchivos asked

/-- What is left when the extraction ends one way or the other. -/
def Escena.TrasExtraer (e : Escena C) : Except Excepcion Unit → Mundo C → Prop
  | .ok () => fun w => e.Antes w.disco ∧ w.disco.below e.tmp = e.extraido
  | .error _ => En e.Antes

theorem meets_cuerpo : Meets (En e.Antes) (cuerpo e) (fun r => En (e.Fin r))
    (fun x => En (e.Fallo (e.cancelaPromocion = true) x)) := by
  have extracted : Meets (En e.Antes) (extrae e)
      (fun _ w => e.Antes w.disco ∧ w.disco.below e.tmp = e.extraido) (EnAntes e) := by
    refine meets_espera (Q := fun _ d => e.Antes d ∧ d.below e.tmp = e.extraido) (E := fun _ => e.Antes)
      (meets_paso (fun d early => (early.replace e.resto).2) fun d early => ?_) fun _ _ left => left.1
    have placed := (early.replace e.extraido).2
    cases e.extraccion with
    | ok u => exact ⟨placed, Store.below_replace e.tmp d e.extraido⟩
    | error x => exact placed
  have tried : Meets (En e.Antes) (attempt (extrae e)) e.TrasExtraer
      (fun x => En (e.Fallo (e.cancelaPromocion = true) x)) :=
    extracted.attempt (fun _ _ => id) fun _ _ => id
  refine tried.bind fun extraccion => ?_
  cases extraccion with
  | ok u => exact meets_installFomod
  | error x =>
    have raised : ∀ w : Mundo C, e.Antes w.disco → e.Fallo (e.cancelaPromocion = true) x w.disco :=
      fun w early => .inl early.intacto
    cases x with
    | pathViolationError => exact Meets.stop _ raised
    | cancelledError => exact Meets.stop _ raised
    | osError => exact Meets.pure _ fun w early => early.intacto
    | valueError => exact Meets.pure _ fun w early => early.intacto

/-! The clean-up of the extraction -/

theorem limpia_tmp {w : Mundo C} {d : Disco C} (same : d = (limpia e.tmp e.restoDeTmp w).2.disco) :
    (e.Intacto w.disco → e.Intacto d) ∧ (e.Promovido w.disco → e.Nuevo d) := by
  subst same
  constructor
  · intro old r other
    exact (limpia_fuera other.2.2 _ w).trans (old r other)
  · intro new
    refine ⟨fun r other apart => ?_, fun free q => ?_⟩
    · rw [limpia_fuera other.2.2]
      exact new.1.1 r other apart
    · rw [limpia_fuera (e.destino_ajeno (List.prefix_append _ q)).2.2]
      exact new.1.2 free q

/-- What is left when the body ends one way or the other. -/
def Escena.TrasCuerpo (e : Escena C) : Except Excepcion InstallResult → Mundo C → Prop
  | .ok r => En (e.Fin r)
  | .error x => En (e.Fallo (e.cancelaPromocion = true) x)

/-- The end of `install`, whatever the body did. -/
theorem meets_trasCuerpo (hecho : Except Excepcion InstallResult) : Meets (e.TrasCuerpo hecho)
      (esperaSi e.cancelaLimpieza (limpia e.tmp e.restoDeTmp) >>= fun _ => ofExcept hecho)
      (fun r w => if r.installed then e.Nuevo w.disco else e.Intacto w.disco)
      (fun x w => e.Intacto w.disco ∨ (x = .cancelledError ∧
        (e.cancelaPromocion = true ∨ e.cancelaLimpieza = true) ∧ e.Nuevo w.disco)) := by
  intro w left
  have kept := limpia_tmp (e := e) (w := w) rfl
  have ran : (esperaSi e.cancelaLimpieza (limpia e.tmp e.restoDeTmp) >>= fun _ => ofExcept hecho) w =
      ((if e.cancelaLimpieza then stop .cancelledError else pure ()) >>= fun _ => ofExcept hecho)
        (limpia e.tmp e.restoDeTmp w).2 := rfl
  rw [ran]
  cases cancelled : e.cancelaLimpieza with
  | true =>
    show e.Intacto (limpia e.tmp e.restoDeTmp w).2.disco ∨ (_ ∧ _ ∧ e.Nuevo (limpia e.tmp e.restoDeTmp w).2.disco)
    cases hecho with
    | ok r =>
      cases done : r.installed with
      | true => exact .inr ⟨rfl, .inr rfl, kept.2 (by simpa [Escena.TrasCuerpo, Escena.Fin, done] using left)⟩
      | false => exact .inl (kept.1 (by simpa [Escena.TrasCuerpo, Escena.Fin, done] using left))
    | error x =>
      cases left with
      | inl old => exact .inl (kept.1 old)
      | inr new => exact .inr ⟨rfl, .inr rfl, kept.2 new.2.2⟩
  | false =>
    cases hecho with
    | ok r =>
      show if r.installed = true then e.Nuevo (limpia e.tmp e.restoDeTmp w).2.disco
        else e.Intacto (limpia e.tmp e.restoDeTmp w).2.disco
      cases done : r.installed with
      | true => exact kept.2 (by simpa [Escena.TrasCuerpo, Escena.Fin, done] using left)
      | false => exact kept.1 (by simpa [Escena.TrasCuerpo, Escena.Fin, done] using left)
    | error x =>
      cases left with
      | inl old => exact .inl (kept.1 old)
      | inr new => exact .inr ⟨new.1, .inl new.2.1, kept.2 new.2.2⟩

end

/-! A cancellation that is raised over the new folder -/

def discoConMods : Disco Nat := [([], .carpeta), ([['m']], .carpeta)]

theorem discoConMods_libre (n : Texto) (r : Ruta) : discoConMods.find ([['m']] ++ [n] ++ r) = none := by
  simp [discoConMods, Store.find_cons]

/-- A new mod of one file; the cancellation comes while the thread of the promotion runs. -/
def escenaCancelada : Escena Nat where
  disco := discoConMods
  mods := [['m']]
  nombre := ['N']
  tmp := [['t']]
  staging := ['s']
  respaldo := ['b']
  extraido := [([['a']], .archivo 1)]
  extraccion := .ok ()
  raiz := []
  configuracion := .archivos [⟨"a", "a", 0⟩]
  falla := none
  resto := []
  cancela := fun _ => false
  cancelaPromocion := true
  cancelaLimpieza := false
  restoDeStaging := none
  restoDeRespaldo := none
  restoDeTmp := none
  carpetas := by
    intro r above
    have below : r <+: [] ++ [['m']] := above
    have either := List.prefix_concat_iff.mp below
    cases either with
    | inl whole => subst whole; decide
    | inr root => rw [List.prefix_nil.mp root]; decide
  cerrado := fun _ r => discoConMods_libre _ r
  stagingLibre := discoConMods_libre _
  respaldoLibre := discoConMods_libre _
  otroStaging := by decide
  otroRespaldo := by decide
  distintos := by decide
  aparte := by decide

end FomodInstaller
