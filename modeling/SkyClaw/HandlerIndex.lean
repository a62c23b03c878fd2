import Mathlib.Data.List.AList
import SkyClaw.TransitionRuns

set_option linter.all false

/-!
The subscriptions of `CoreEventBus`, `app/core/event_bus.py`, and its index of
handlers by name, where the DLQ looks for the handler of an event that it retries.
-/
namespace EventBus
open TransitionRuns

abbrev Texto := List Char

/-- What `getattr` gives for `__module__`. -/
inductive Modulo where
  | missing
  | null
  | name (t : Texto)
  deriving DecidableEq

/-- The attributes of a callable that name it. No `__qualname__` stands for `None` too. -/
structure Callable where
  module : Modulo
  qualname : Option Texto
  repr : Texto
  deriving DecidableEq

def Modulo.shown : Modulo → Texto
  | .missing => "unknown".toList
  | .null => "None".toList
  | .name t => t

def handlerName (cb : Callable) : Texto :=
  match cb.qualname with
  | some (c :: cs) => cb.module.shown ++ '.' :: c :: cs
  | _ => cb.repr

/-- The module's namespace is another one and the rest of the name is the same. -/
def matchesNamespaceRename (handlerName : Texto) (cb : Callable) : Bool :=
  match cb.module, cb.qualname with
  | .name (m :: ms), some (c :: cs) =>
    let suffix := '.' :: c :: cs
    let persistedModule := handlerName.take (handlerName.length - suffix.length)
    let currentParts := (m :: ms).splitOn '.'
    let persistedParts := persistedModule.splitOn '.'
    handlerName.drop (handlerName.length - suffix.length) = suffix &&
      (2 ≤ currentParts.length &&
        currentParts.take 2 = ["sky_claw".toList, "app".toList] &&
        persistedParts.length = currentParts.length &&
        persistedParts[0]? = currentParts[0]? &&
        persistedParts[1]? ≠ currentParts[1]? &&
        persistedParts.drop 2 = currentParts.drop 2)
  | _, _ => false

variable {C : Type} (callable : C → Callable)

structure Bus (C : Type) where
  subscriptions : List (Texto × C)
  handlerIndex : AList fun _ : Texto => C

def Bus.new : Bus C := ⟨[], ∅⟩

def nameOf (c : C) : Texto := handlerName (callable c)

def subscribe (b : Bus C) (pattern : Texto) (callback : C) : Bus C where
  subscriptions := b.subscriptions ++ [(pattern, callback)]
  handlerIndex := b.handlerIndex.insert (nameOf callable callback) callback

def unsubscribe [DecidableEq C] (b : Bus C) (pattern : Texto) (callback : C) : Bus C where
  subscriptions := b.subscriptions.erase (pattern, callback)
  handlerIndex := b.handlerIndex.erase (nameOf callable callback)

def candidates (b : Bus C) (name : Texto) : List C :=
  (b.handlerIndex.entries.map (·.2)).filter fun c => matchesNamespaceRename name (callable c)

def resolveHandler (b : Bus C) (name : Texto) : Option C :=
  match b.handlerIndex.lookup name with
  | some exact_ => some exact_
  | none =>
    match candidates callable b name with
    | [c] => some c
    | _ => none

inductive Call (C : Type) where
  | subscribe (pattern : Texto) (callback : C)
  | unsubscribe (pattern : Texto) (callback : C)
  deriving DecidableEq

def step [DecidableEq C] (b : Bus C) : Call C → Option (Bus C)
  | .subscribe pattern callback => some (subscribe callable b pattern callback)
  | .unsubscribe pattern callback => some (unsubscribe callable b pattern callback)

/-- Some subscription has this name. -/
def Named (b : Bus C) (name : Texto) : Prop :=
  ∃ s ∈ b.subscriptions, nameOf callable s.2 = name

/-- What the DLQ relies on. -/
structure Resolvable (b : Bus C) : Prop where
  found : ∀ s ∈ b.subscriptions, ∃ t ∈ b.subscriptions,
    nameOf callable t.2 = nameOf callable s.2 ∧
      resolveHandler callable b (nameOf callable s.2) = some t.2
  nothing : ∀ c, ¬Named callable b (nameOf callable c) →
    resolveHandler callable b (nameOf callable c) = none

/-- No handler has a name that would be taken for this callback in an older namespace. -/
def Unaliased (c : C) : Prop :=
  ∀ d, matchesNamespaceRename (nameOf callable d) (callable c) = false

/-- The last subscription with its name goes, or a callback comes that stands for no other. -/
def Safe [DecidableEq C] (b : Bus C) : Call C → Prop
  | .subscribe _ callback => Unaliased callable callback
  | .unsubscribe pattern callback =>
    ¬Named callable (unsubscribe callable b pattern callback) (nameOf callable callback)

/-- The pairs and the index say the same. -/
structure Agrees (b : Bus C) : Prop where
  indexed : ∀ s ∈ b.subscriptions, (b.handlerIndex.lookup (nameOf callable s.2)).isSome
  subscribed : ∀ name c, b.handlerIndex.lookup name = some c →
    nameOf callable c = name ∧ ∃ s ∈ b.subscriptions, s.2 = c
  unaliased : ∀ s ∈ b.subscriptions, Unaliased callable s.2

variable {callable} {b : Bus C}

theorem Agrees.candidates_nil (agrees : Agrees callable b) (c : C) :
    candidates callable b (nameOf callable c) = [] := by
  apply List.filter_eq_nil_iff.mpr
  intro d mem
  obtain ⟨e, inside, rfl⟩ := List.mem_map.mp mem
  obtain ⟨-, s, subscribed, same⟩ := agrees.subscribed e.1 e.2 (AList.mem_lookup_iff.mpr inside)
  have unaliased := agrees.unaliased s subscribed c
  rw [same] at unaliased
  simp [unaliased]

theorem Agrees.resolve (agrees : Agrees callable b) (c : C) :
    resolveHandler callable b (nameOf callable c) = b.handlerIndex.lookup (nameOf callable c) := by
  rw [resolveHandler, agrees.candidates_nil c]
  cases b.handlerIndex.lookup (nameOf callable c) <;> rfl

theorem Agrees.resolvable (agrees : Agrees callable b) : Resolvable callable b := by
  constructor
  · intro s mem
    obtain ⟨c, found⟩ := Option.isSome_iff_exists.mp (agrees.indexed s mem)
    obtain ⟨same, t, subscribed, rfl⟩ := agrees.subscribed _ _ found
    exact ⟨t, subscribed, same, by rw [agrees.resolve, found]⟩
  · intro c unnamed
    rw [agrees.resolve]
    cases found : b.handlerIndex.lookup (nameOf callable c) with
    | none => rfl
    | some d =>
      obtain ⟨same, t, subscribed, rfl⟩ := agrees.subscribed _ _ found
      exact absurd ⟨t, subscribed, same⟩ unnamed

theorem agrees_new : Agrees callable Bus.new where
  indexed := nofun
  subscribed := by
    intro name c found
    simp [Bus.new] at found
  unaliased := nofun

theorem Agrees.subscribe (agrees : Agrees callable b) {pattern : Texto} {callback : C}
    (unaliased : Unaliased callable callback) :
    Agrees callable (subscribe callable b pattern callback) := by
  constructor
  · intro s mem
    by_cases same : nameOf callable s.2 = nameOf callable callback
    · rw [same, EventBus.subscribe, AList.lookup_insert]
      rfl
    · rw [EventBus.subscribe, AList.lookup_insert_ne same]
      rcases List.mem_append.mp mem with old | new
      · exact agrees.indexed s old
      · exact absurd (by rw [List.mem_singleton.mp new]) same
  · intro name c found
    by_cases same : name = nameOf callable callback
    · subst same
      rw [EventBus.subscribe, AList.lookup_insert] at found
      obtain rfl := Option.some.inj found
      exact ⟨rfl, (pattern, callback), by simp [EventBus.subscribe], rfl⟩
    · rw [EventBus.subscribe, AList.lookup_insert_ne same] at found
      obtain ⟨named, s, mem, rfl⟩ := agrees.subscribed name c found
      exact ⟨named, s, List.mem_append_left _ mem, rfl⟩
  · intro s mem
    rcases List.mem_append.mp mem with old | new
    · exact agrees.unaliased s old
    · rw [List.mem_singleton.mp new]
      exact unaliased

variable [DecidableEq C]

theorem Agrees.unsubscribe (agrees : Agrees callable b) {pattern : Texto} {callback : C}
    (last : ¬Named callable (EventBus.unsubscribe callable b pattern callback) (nameOf callable callback)) :
    Agrees callable (EventBus.unsubscribe callable b pattern callback) := by
  constructor
  · intro s mem
    have other : nameOf callable s.2 ≠ nameOf callable callback := fun same => last ⟨s, mem, same⟩
    rw [EventBus.unsubscribe, AList.lookup_erase_ne other]
    exact agrees.indexed s (List.mem_of_mem_erase mem)
  · intro name c found
    by_cases same : name = nameOf callable callback
    · subst same
      rw [EventBus.unsubscribe, AList.lookup_erase] at found
      cases found
    · rw [EventBus.unsubscribe, AList.lookup_erase_ne same] at found
      obtain ⟨named, s, mem, rfl⟩ := agrees.subscribed name c found
      refine ⟨named, s, (List.mem_erase_of_ne ?_).mpr mem, rfl⟩
      -- the pair that goes has the name that goes
      intro gone
      rw [gone] at named
      exact same named.symm
  · intro s mem
    exact agrees.unaliased s (List.mem_of_mem_erase mem)

theorem Agrees.step {c : Call C} {t : Bus C} (agrees : Agrees callable b) (safe : Safe callable b c)
    (moved : step callable b c = some t) : Agrees callable t := by
  cases c with
  | subscribe pattern callback =>
    obtain rfl := Option.some.inj moved
    exact agrees.subscribe safe
  | unsubscribe pattern callback =>
    obtain rfl := Option.some.inj moved
    exact agrees.unsubscribe safe

/-- The name goes from the index whatever is left with it. -/
theorem Agrees.unsubscribe_lost (agrees : Agrees callable b) {pattern : Texto} {callback : C}
    (named : Named callable (EventBus.unsubscribe callable b pattern callback) (nameOf callable callback)) :
    ¬Resolvable callable (EventBus.unsubscribe callable b pattern callback) := by
  intro resolvable
  obtain ⟨s, mem, same⟩ := named
  obtain ⟨t, -, -, found⟩ := resolvable.found s mem
  have gone : (EventBus.unsubscribe callable b pattern callback).handlerIndex.lookup
      (nameOf callable callback) = none := AList.lookup_erase _ _
  have none_ : candidates callable (EventBus.unsubscribe callable b pattern callback)
      (nameOf callable callback) = [] := by
    have before := agrees.candidates_nil callback
    rw [candidates, List.filter_eq_nil_iff] at before ⊢
    intro d mem
    obtain ⟨e, inside, rfl⟩ := List.mem_map.mp mem
    exact before e.2 (List.mem_map_of_mem ((List.kerase_sublist _ _).subset inside))
  rw [same, resolveHandler, gone, none_] at found
  cases found

/-- In every run of calls that are safe a handler that is subscribed is resolved and a name without
subscriptions is not, and any other removal loses a handler. -/
theorem handler_resolvable (reached : Reaches (step callable) (· = Bus.new) (Safe callable) b) :
    Resolvable callable b ∧ ∀ pattern callback, ¬Safe callable b (.unsubscribe pattern callback) →
      ¬Resolvable callable (EventBus.unsubscribe callable b pattern callback) := by
  have agrees : Agrees callable b := by
    induction reached with
    | start first =>
      subst first
      exact agrees_new
    | next before safe moved ih => exact ih.step safe moved
  refine ⟨agrees.resolvable, fun pattern callback unsafe_ => ?_⟩
  exact agrees.unsubscribe_lost (not_not.mp unsafe_)

/-- A single callable, of a module of its own. -/
def onlyHandler : Unit → Callable := fun _ => ⟨.name "m".toList, some "h".toList, []⟩

def subscribedOnce : Bus Unit := subscribe onlyHandler Bus.new "a.*".toList ()

theorem handler_resolvable_once :
    Resolvable onlyHandler subscribedOnce ∧
      ∀ pattern callback, ¬Safe onlyHandler subscribedOnce (.unsubscribe pattern callback) →
        ¬Resolvable onlyHandler (unsubscribe onlyHandler subscribedOnce pattern callback) :=
  handler_resolvable (.next (e := .subscribe "a.*".toList ()) (.start rfl) (fun () => by decide) rfl)

/-- One callback under two patterns: the first removal takes its name away. -/
theorem handler_lost :
    ∃ b, run (step onlyHandler) Bus.new [.subscribe "a.*".toList (), .subscribe "b.*".toList (),
        .unsubscribe "a.*".toList ()] = some b ∧
      ("b.*".toList, ()) ∈ b.subscriptions ∧
      resolveHandler onlyHandler b (nameOf onlyHandler ()) = none ∧
      ¬Resolvable onlyHandler b := by
  refine ⟨_, rfl, by decide, rfl, fun resolvable => ?_⟩
  obtain ⟨t, -, -, found⟩ := resolvable.found ("b.*".toList, ()) (by decide)
  cases found

end EventBus
