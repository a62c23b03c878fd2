import Mathlib.Data.List.Basic
import Mathlib.Data.List.Nodup
import Mathlib.Data.List.Range
import Mathlib.Logic.Relation

set_option linter.all false

/-!
A chain of numbered records that is extended one at a time. A pending document is
closed in three steps that may be far apart: its number is reserved, its record
is published, and only then the document stops being pending.
-/
namespace ReservedChain

/-- `chain` has the newest record first. -/
structure State (Doc Rec : Type) where
  chain : List Rec
  pending : Option Doc
  reserved : Bool

structure Protocol (Doc Rec Id : Type) where
  subject : Doc → Id
  name : Rec → Id
  number : Rec → Int
  previous : Rec → Option Id
  closes : Doc → Rec → Prop

variable {Doc Rec Id : Type} (P : Protocol Doc Rec Id)

inductive Closing : State Doc Rec → State Doc Rec → Prop where
  | reserve {s : State Doc Rec} {d : Doc} (waiting : s.pending = some d)
      (fresh : P.subject d ∉ s.chain.map P.name) : Closing s { s with reserved := true }
  | publish {s : State Doc Rec} {d : Doc} {r : Rec} (waiting : s.pending = some d)
      (reserved : s.reserved = true) (fresh : P.subject d ∉ s.chain.map P.name)
      (closes : P.closes d r) (name : P.name r = P.subject d)
      (number : P.number r = s.chain.length + 1)
      (previous : P.previous r = s.chain.head?.map P.name) :
      Closing s { s with chain := r :: s.chain, reserved := false }
  | rotate {s : State Doc Rec} {d : Doc} (waiting : s.pending = some d)
      (published : s.chain.head?.map P.name = some (P.subject d)) (free : s.reserved = false) :
      Closing s { s with pending := none }

inductive Step : State Doc Rec → State Doc Rec → Prop where
  | create {s : State Doc Rec} {d : Doc} (idle : s.pending = none) (free : s.reserved = false)
      (fresh : P.subject d ∉ s.chain.map P.name) : Step s { s with pending := some d }
  | revise {s : State Doc Rec} {d d' : Doc} (waiting : s.pending = some d)
      (same : P.subject d' = P.subject d) : Step s { s with pending := some d' }
  | close {s t : State Doc Rec} (closing : Closing P s t) : Step s t

abbrev Closings := Relation.ReflTransGen (Closing P)

abbrev Steps := Relation.ReflTransGen (Step P)

/-- Each record has the number after the one before it, and names it. -/
def Numbered : List Rec → Prop
  | [] => True
  | r :: older => P.number r = older.length + 1 ∧ P.previous r = older.head?.map P.name ∧
    Numbered older

structure Sound (s : State Doc Rec) : Prop where
  numbered : Numbered P s.chain
  names : (s.chain.map P.name).Nodup
  /-- A reservation without a record is the one of the pending document. -/
  reserved : s.reserved = true → ∃ d, s.pending = some d ∧ P.subject d ∉ s.chain.map P.name

variable {P}

theorem Closing.sound {s t : State Doc Rec} (moved : Closing P s t) (before : Sound P s) :
    Sound P t := by
  cases moved with
  | reserve waiting fresh =>
    exact ⟨before.numbered, before.names, fun _ => ⟨_, waiting, fresh⟩⟩
  | publish waiting reserved fresh closes name number previous =>
    refine ⟨⟨number, previous, before.numbered⟩, ?_, nofun⟩
    rw [List.map_cons, List.nodup_cons, name]
    exact ⟨fresh, before.names⟩
  | rotate waiting published free =>
    refine ⟨before.numbered, before.names, fun reserved => ?_⟩
    rw [free] at reserved
    cases reserved

theorem Step.sound {s t : State Doc Rec} (moved : Step P s t) (before : Sound P s) :
    Sound P t := by
  cases moved with
  | create idle free fresh =>
    refine ⟨before.numbered, before.names, fun reserved => ?_⟩
    rw [free] at reserved
    cases reserved
  | revise waiting same =>
    refine ⟨before.numbered, before.names, fun reserved => ?_⟩
    obtain ⟨d, pending, fresh⟩ := before.reserved reserved
    rw [waiting] at pending
    cases pending
    exact ⟨_, rfl, same ▸ fresh⟩
  | close closing => exact closing.sound before

theorem Steps.sound {s t : State Doc Rec} (run : Steps P s t) (before : Sound P s) :
    Sound P t := by
  induction run with
  | refl => exact before
  | tail _ moved ih => exact moved.sound ih

theorem Closings.steps {s t : State Doc Rec} (run : Closings P s t) : Steps P s t :=
  Relation.ReflTransGen.mono (fun _ _ => Step.close) _ _ run

/-- What a chain has stays in it. -/
theorem Step.chain_suffix {s t : State Doc Rec} (moved : Step P s t) : s.chain <:+ t.chain := by
  cases moved with
  | create => exact List.suffix_rfl
  | revise => exact List.suffix_rfl
  | close closing =>
    cases closing with
    | reserve => exact List.suffix_rfl
    | publish => exact List.suffix_cons _ _
    | rotate => exact List.suffix_rfl

theorem Steps.chain_suffix {s t : State Doc Rec} (run : Steps P s t) : s.chain <:+ t.chain := by
  induction run with
  | refl => exact List.suffix_rfl
  | tail _ moved ih => exact ih.trans moved.chain_suffix

/-- Closing publishes only for the document that was pending. -/
theorem Closings.published {s t : State Doc Rec} (run : Closings P s t) :
    (t.pending = s.pending ∨ t.pending = none) ∧
      ∀ r ∈ t.chain, r ∈ s.chain ∨ ∃ d, s.pending = some d ∧ P.closes d r ∧
        P.name r = P.subject d := by
  induction run with
  | refl => exact ⟨.inl rfl, fun r mem => .inl mem⟩
  | tail _ moved ih =>
    obtain ⟨pending, origin⟩ := ih
    cases moved with
    | reserve => exact ⟨pending, origin⟩
    | publish waiting _ _ closes name =>
      refine ⟨pending, fun r mem => ?_⟩
      rcases List.mem_cons.mp mem with rfl | mem
      · rcases pending with same | none
        · exact .inr ⟨_, same ▸ waiting, closes, name⟩
        · rw [none] at waiting
          cases waiting
      · exact origin r mem
    | rotate => exact ⟨.inr rfl, origin⟩

/-- A document stops being pending only when the last record is its own. -/
theorem Step.pending_until {s t : State Doc Rec} (moved : Step P s t) {d : Doc}
    (waiting : s.pending = some d) :
    (∃ d', t.pending = some d' ∧ P.subject d' = P.subject d) ∨
      t.chain.head?.map P.name = some (P.subject d) := by
  cases moved with
  | create idle =>
    rw [idle] at waiting
    cases waiting
  | revise pending same =>
    rw [pending] at waiting
    cases waiting
    exact .inl ⟨_, rfl, same⟩
  | close closing =>
    cases closing with
    | reserve => exact .inl ⟨d, waiting, rfl⟩
    | publish => exact .inl ⟨d, waiting, rfl⟩
    | rotate pending published =>
      rw [pending] at waiting
      cases waiting
      exact .inr published

theorem Steps.pending_until {s t : State Doc Rec} (run : Steps P s t) {d : Doc}
    (waiting : s.pending = some d) :
    (∃ d', t.pending = some d' ∧ P.subject d' = P.subject d) ∨
      P.subject d ∈ t.chain.map P.name := by
  induction run with
  | refl => exact .inl ⟨d, waiting, rfl⟩
  | tail _ moved ih =>
    rcases ih with ⟨d', pending, same⟩ | closed
    · rcases moved.pending_until pending with ⟨d'', next, again⟩ | published
      · exact .inl ⟨d'', next, again.trans same⟩
      · rw [same] at published
        exact .inr (List.mem_of_mem_head? (List.head?_map ▸ published))
    · exact .inr ((moved.chain_suffix.map P.name).subset closed)

/-- What is pending with its record in the chain was pending before. -/
def Settled (P : Protocol Doc Rec Id) (s t : State Doc Rec) : Prop :=
  ∀ d, t.pending = some d → P.subject d ∈ t.chain.map P.name → s.pending = some d

theorem Closings.settled {s t : State Doc Rec} (run : Closings P s t) : Settled P s t := by
  intro d pending _
  rcases run.published.1 with same | none
  · rw [← same, pending]
  · rw [none] at pending
    cases pending

/-- A record of the pending document is the last one and closes it. -/
def Kept (P : Protocol Doc Rec Id) (s : State Doc Rec) : Prop :=
  ∀ d r, s.pending = some d → r ∈ s.chain → P.name r = P.subject d →
    P.closes d r ∧ s.chain.head? = some r

theorem Kept.next {s t : State Doc Rec} (kept : Kept P s) (run : Steps P s t) (sound : Sound P t)
    (origin : ∀ r ∈ t.chain, r ∈ s.chain ∨
      ∃ d, s.pending = some d ∧ P.closes d r ∧ P.name r = P.subject d)
    (settled : Settled P s t) : Kept P t := by
  intro d r pending mem name
  have before : s.pending = some d := settled d pending (name ▸ List.mem_map_of_mem mem)
  have closes : P.closes d r := by
    rcases origin r mem with old | ⟨d', pending', closes, -⟩
    · exact (kept d r before old name).1
    · rw [before] at pending'
      exact Option.some.inj pending' ▸ closes
  refine ⟨closes, ?_⟩
  obtain ⟨front, same⟩ := run.chain_suffix
  cases front with
  | nil =>
    rw [List.nil_append] at same
    rw [← same] at mem ⊢
    exact (kept d r before mem name).2
  | cons q front =>
    -- what was put in front of the old chain closes the same document
    have q_mem : q ∈ t.chain := same ▸ List.mem_append_left _ List.mem_cons_self
    have fresh : q ∉ s.chain := by
      intro old
      have names := sound.names.of_map
      rw [← same, List.cons_append, List.nodup_cons] at names
      exact names.1 (List.mem_append_right _ old)
    rcases origin q q_mem with old | ⟨d', pending', -, own⟩
    · exact absurd old fresh
    · rw [before] at pending'
      rw [← Option.some.inj pending'] at own
      rw [← same, List.cons_append, List.head?_cons,
        List.inj_on_of_nodup_map sound.names q_mem mem (own.trans name.symm)]

/-- A document with its record in the chain is the only one of its subject that is pending. -/
def Bound (P : Protocol Doc Rec Id) (d : Doc) (s : State Doc Rec) : Prop :=
  P.subject d ∈ s.chain.map P.name ∧
    ∀ d', s.pending = some d' → P.subject d' = P.subject d → d' = d

theorem Bound.next {s t : State Doc Rec} {d : Doc} (bound : Bound P d s) (run : Steps P s t)
    (settled : Settled P s t) : Bound P d t := by
  have inside : P.subject d ∈ t.chain.map P.name :=
    (run.chain_suffix.map P.name).subset bound.1
  refine ⟨inside, fun d' pending same => ?_⟩
  exact bound.2 d' (settled d' pending (same ▸ inside)) same

theorem Numbered.numbers {chain : List Rec} (numbered : Numbered P chain) :
    (chain.map P.number).reverse = (List.range chain.length).map fun n : Nat => (n : Int) + 1 := by
  induction chain with
  | nil => rfl
  | cons r older ih =>
    obtain ⟨number, -, rest⟩ := numbered
    rw [List.map_cons, List.reverse_cons, ih rest, List.length_cons, List.range_succ,
      List.map_append, List.map_singleton, number]

theorem Numbered.number_pos {chain : List Rec} (numbered : Numbered P chain) {r : Rec}
    (mem : r ∈ chain) : 1 ≤ P.number r ∧ P.number r ≤ chain.length := by
  induction chain with
  | nil => cases mem
  | cons q older ih =>
    obtain ⟨number, -, rest⟩ := numbered
    rw [List.length_cons]
    rcases List.mem_cons.mp mem with rfl | mem
    · omega
    · have inside := ih rest mem
      omega

/-- Only the first record has no predecessor; any other names the one before it. -/
theorem Numbered.predecessor {chain : List Rec} (numbered : Numbered P chain) {r : Rec}
    (mem : r ∈ chain) :
    (P.number r = 1 ∧ P.previous r = none) ∨
      ∃ q ∈ chain, P.number r = P.number q + 1 ∧ P.previous r = some (P.name q) := by
  induction chain with
  | nil => cases mem
  | cons q older ih =>
    obtain ⟨number, previous, rest⟩ := numbered
    rcases List.mem_cons.mp mem with rfl | mem
    · cases older with
      | nil => exact .inl ⟨by simpa using number, previous⟩
      | cons p older =>
        refine .inr ⟨p, by simp, ?_, previous⟩
        rw [number, rest.1, List.length_cons]
        push_cast
        omega
    · rcases ih rest mem with first | ⟨p, inside, next⟩
      · exact .inl first
      · exact .inr ⟨p, List.mem_cons_of_mem _ inside, next⟩

end ReservedChain
