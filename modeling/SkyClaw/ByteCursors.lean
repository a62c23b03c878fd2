import Mathlib.Data.List.Basic
import Mathlib.Data.List.Infix
import SkyClaw.LittleEndian

set_option linter.all false

/-!
Readers that stand in a zone of some bytes. What a reader takes depends on its
zone alone, and one that reads a text stops short on every piece of it.
-/
namespace ByteCursors
open LittleEndian

abbrev Bytes := List UInt8

/-- An error that the readers declare, or an exception of what they are made of. -/
inductive Fault (ε : Type) where
  | declared (e : ε)
  | foreign
  deriving DecidableEq

/-- A place in some bytes; the zone ends at `stop`. -/
structure Cursor where
  data : Bytes
  position : Nat
  stop : Nat

abbrev Reader (ε α : Type) := StateT Cursor (Except (Fault ε)) α

namespace Cursor

def Inside (c : Cursor) : Prop := c.position ≤ c.stop ∧ c.stop ≤ c.data.length

/-- What is left of the zone. -/
def zone (c : Cursor) : Bytes := (c.data.take c.stop).drop c.position

def skip (c : Cursor) (n : Nat) : Cursor := { c with position := c.position + n }

theorem length_zone {c : Cursor} (inside : c.Inside) : c.zone.length = c.stop - c.position := by
  rw [zone, List.length_drop, List.length_take_of_le inside.2]

theorem zone_skip (c : Cursor) (n : Nat) : (c.skip n).zone = c.zone.drop n := by
  rw [zone, zone, List.drop_drop]
  rfl

theorem Inside.skip {c : Cursor} (inside : c.Inside) {n : Nat} (room : n ≤ c.zone.length) :
    (c.skip n).Inside := by
  have size := c.length_zone inside
  have first := inside.1
  constructor
  · show c.position + n ≤ c.stop
    omega
  · exact inside.2

@[simp] theorem skip_skip (c : Cursor) (n m : Nat) : (c.skip n).skip m = c.skip (n + m) := by
  simp [skip, Nat.add_assoc]

/-- The bytes that come next are those of the zone. -/
theorem take_data {c : Cursor} (inside : c.Inside) {n : Nat} (room : n ≤ c.zone.length) :
    (c.data.drop c.position).take n = c.zone.take n := by
  have size := c.length_zone inside
  rw [zone, List.drop_take, List.take_take, Nat.min_eq_left (by omega)]

end Cursor

variable {ε α β : Type}

def fail (e : ε) : Reader ε α := fun _ => .error (.declared e)

def check (p : Prop) [Decidable p] (e : ε) : Reader ε Unit := if p then pure () else fail e

/-- A number of `width` bytes. Bytes that are not there at all are no declared error. -/
def number (width : Nat) (short : ε) : Reader ε Nat := fun c =>
  if c.stop < c.position + width then .error (.declared short)
  else if c.data.length < c.position + width then .error .foreign
  else .ok (fromBytes ((c.data.drop c.position).take width), c.skip width)

def pass (n : Nat) (short : ε) : Reader ε Unit := fun c =>
  if c.stop < c.position + n then .error (.declared short) else .ok ((), c.skip n)

/-- The next `n` bytes, when there are so many and no more than `most`. -/
def piece (n most : Nat) (bad : ε) : Reader ε Bytes := fun c =>
  if c.stop < c.position + n ∨ most < n then .error (.declared bad)
  else .ok ((c.data.drop c.position).take n, c.skip n)

def times : Nat → Reader ε α → Reader ε (List α)
  | 0, _ => pure []
  | n + 1, r => do
    let a ← r
    let l ← times n r
    return a :: l

/-- The reader gives `g` of the next `n` bytes, unless there are less or it refuses. -/
def Takes (r : Reader ε α) (n : Nat) (refuses : Prop) [Decidable refuses] (e : ε) (g : Bytes → α) : Prop :=
  ∀ c : Cursor, c.Inside → r c = if c.zone.length < n ∨ refuses then .error (.declared e)
    else .ok (g (c.zone.take n), c.skip n)

theorem takes_number (width : Nat) (short : ε) :
    Takes (number width short) width False short fromBytes := by
  intro c inside
  have size := c.length_zone inside
  obtain ⟨first, last⟩ := inside
  by_cases room : c.zone.length < width
  · rw [number, if_pos (by omega), if_pos (.inl room)]
  · rw [number, if_neg (by omega), if_neg (by omega), if_neg (not_or.mpr ⟨room, not_false⟩),
      c.take_data ⟨first, last⟩ (by omega)]

theorem takes_pass (n : Nat) (short : ε) : Takes (pass n short) n False short fun _ => () := by
  intro c inside
  have size := c.length_zone inside
  have first := inside.1
  by_cases room : c.zone.length < n
  · rw [pass, if_pos (by omega), if_pos (.inl room)]
  · rw [pass, if_neg (by omega), if_neg (not_or.mpr ⟨room, not_false⟩)]

theorem takes_piece (n most : Nat) (bad : ε) : Takes (piece n most bad) n (most < n) bad id := by
  intro c inside
  have size := c.length_zone inside
  have first := inside.1
  by_cases room : c.zone.length < n ∨ most < n
  · rw [piece, if_pos (by omega), if_pos room]
  · rw [piece, if_neg (by omega), if_neg room, c.take_data inside (by omega)]
    rfl

/-! What a reader gives depends on its zone -/

/-- The cursor after a reading of the zone. -/
def Cursor.resume (c : Cursor) : Except ε (α × Nat) → Except (Fault ε) (α × Cursor)
  | .ok (a, n) => .ok (a, c.skip n)
  | .error e => .error (.declared e)

/-- The reader is a function of its zone, stays in it and fails as declared. -/
def Local (r : Reader ε α) : Prop :=
  ∃ p : Bytes → Except ε (α × Nat), (∀ z a n, p z = .ok (a, n) → n ≤ z.length) ∧
    ∀ c : Cursor, c.Inside → r c = c.resume (p c.zone)

namespace Local

theorem pure (a : α) : Local (pure a : Reader ε α) :=
  ⟨fun _ => .ok (a, 0), fun _ _ _ done => by cases done; exact Nat.zero_le _, fun _ _ => rfl⟩

theorem fail (e : ε) : Local (fail e : Reader ε α) := ⟨fun _ => .error e, nofun, fun _ _ => rfl⟩

theorem bind {r : Reader ε α} {f : α → Reader ε β} (first : Local r) (later : ∀ a, Local (f a)) :
    Local (r >>= f) := by
  obtain ⟨p, bound, same⟩ := first
  choose q bounds sames using later
  refine ⟨fun z => match p z with
    | .ok (a, n) => match q a (z.drop n) with
      | .ok (b, m) => .ok (b, n + m)
      | .error e => .error e
    | .error e => .error e, ?_, ?_⟩
  · intro z b n done
    cases read : p z with
    | error e => simp [read] at done
    | ok r =>
      obtain ⟨a, k⟩ := r
      cases more : q a (z.drop k) with
      | error e => simp [read, more] at done
      | ok r' =>
        obtain ⟨b', m⟩ := r'
        simp only [read, more, Except.ok.injEq, Prod.mk.injEq] at done
        have low := bound z a k read
        have high := bounds a (z.drop k) b' m more
        rw [List.length_drop] at high
        omega
  · intro c inside
    show (r c).bind (fun s => f s.1 s.2) = _
    rw [same c inside]
    cases read : p c.zone with
    | error e =>
      simp only [read]
      rfl
    | ok r =>
      obtain ⟨a, n⟩ := r
      show f a (c.skip n) = _
      rw [sames a _ (inside.skip (bound _ _ _ read)), Cursor.zone_skip]
      simp only [read]
      cases q a (c.zone.drop n) with
      | error e => rfl
      | ok r' => simp [Cursor.resume]

theorem check (p : Prop) [Decidable p] (e : ε) : Local (check p e) := by
  unfold ByteCursors.check
  split
  · exact pure ()
  · exact fail e

theorem of_takes {r : Reader ε α} {n : Nat} {refuses : Prop} [Decidable refuses] {e : ε}
    {g : Bytes → α} (takes : Takes r n refuses e g) : Local r := by
  refine ⟨fun z => if z.length < n ∨ refuses then .error e else .ok (g (z.take n), n), ?_, ?_⟩
  · intro z a m done
    simp only at done
    split at done
    · cases done
    · cases done
      omega
  · intro c inside
    rw [takes c inside]
    by_cases bad : c.zone.length < n ∨ refuses
    · simp only [if_pos bad]
      rfl
    · simp only [if_neg bad]
      rfl

theorem number (width : Nat) (short : ε) : Local (number width short) :=
  of_takes (takes_number width short)

theorem pass (n : Nat) (short : ε) : Local (pass n short) := of_takes (takes_pass n short)

theorem piece (n most : Nat) (bad : ε) : Local (piece n most bad) := of_takes (takes_piece n most bad)

theorem times {r : Reader ε α} (each : Local r) (n : Nat) : Local (times n r) := by
  induction n with
  | zero => exact pure []
  | succ n ih => exact bind each fun a => bind ih fun l => pure (a :: l)

/-- Two zones with the same bytes are read alike. -/
theorem congr {r : Reader ε α} (readsZone : Local r) {c d : Cursor} (inside : c.Inside)
    (inside' : d.Inside) (same : c.zone = d.zone) : (r c).map Prod.fst = (r d).map Prod.fst := by
  obtain ⟨p, -, reads⟩ := readsZone
  rw [reads c inside, reads d inside', same]
  cases p d.zone with
  | error e => rfl
  | ok r => rfl

theorem not_foreign {r : Reader ε α} (readsZone : Local r) {c : Cursor} (inside : c.Inside) :
    r c ≠ .error .foreign := by
  obtain ⟨p, -, reads⟩ := readsZone
  rw [reads c inside]
  cases p c.zone with
  | error e => exact nofun
  | ok r => exact nofun

end Local

/-! What a reader gives -/

/-- Whatever the reader gives has the property. -/
def Gives (r : Reader ε α) (P : α → Prop) : Prop := ∀ c a d, r c = .ok (a, d) → P a

theorem Gives.pure {P : α → Prop} {a : α} (holds : P a) : Gives (pure a : Reader ε α) P := by
  intro c b d done
  cases done
  exact holds

theorem Gives.bind {r : Reader ε α} {f : α → Reader ε β} {Q : α → Prop} {P : β → Prop}
    (first : Gives r Q) (later : ∀ a, Q a → Gives (f a) P) : Gives (r >>= f) P := by
  intro c b d done
  change (r c).bind (fun s => f s.1 s.2) = _ at done
  cases read : r c with
  | error e =>
    rw [read] at done
    cases done
  | ok s =>
    rw [read] at done
    exact later s.1 (first c s.1 s.2 read) s.2 b d done

/-- Nothing is asked of what the first reader gives. -/
theorem Gives.after {r : Reader ε α} {f : α → Reader ε β} {P : β → Prop}
    (later : ∀ a, Gives (f a) P) : Gives (r >>= f) P :=
  bind (Q := fun _ => True) (fun _ _ _ _ => trivial) fun a _ => later a

theorem gives_times (n : Nat) (r : Reader ε α) : Gives (times n r) (·.length = n) := by
  induction n with
  | zero => exact .pure rfl
  | succ n ih =>
    refine .after fun a => ih.bind fun l size => .pure ?_
    rw [List.length_cons, size]

/-! What a reader takes -/

/-- The reader takes exactly the bytes `w` and gives `a`; on less than them it fails as
    declared. -/
structure Reads (r : Reader ε α) (w : Bytes) (a : α) : Prop where
  whole : ∀ (c : Cursor) (rest : Bytes), c.Inside → c.zone = w ++ rest → r c = .ok (a, c.skip w.length)
  short : ∀ c : Cursor, c.Inside → c.zone <+: w → c.zone ≠ w → ∃ e, r c = .error (.declared e)

namespace Reads

theorem pure (a : α) : Reads (pure a : Reader ε α) [] a where
  whole _ _ _ _ := rfl
  short _ _ part proper := absurd (List.prefix_nil.mp part) proper

theorem bind {r : Reader ε α} {f : α → Reader ε β} {w v : Bytes} {a : α} {b : β}
    (first : Reads r w a) (later : Reads (f a) v b) : Reads (r >>= f) (w ++ v) b where
  whole c rest inside split := by
    rw [List.append_assoc] at split
    have room : w.length ≤ c.zone.length := by simp [split]
    show (r c).bind (fun s => f s.1 s.2) = _
    rw [first.whole c _ inside split]
    show f a (c.skip w.length) = _
    rw [later.whole _ rest (inside.skip room) (by rw [Cursor.zone_skip, split, List.drop_left]),
      Cursor.skip_skip, List.length_append]
  short c inside part proper := by
    show ∃ e, (r c).bind (fun s => f s.1 s.2) = _
    cases List.prefix_or_prefix_of_prefix part (List.prefix_append w v) with
    | inl before =>
      by_cases all : c.zone = w
      · -- the first reader takes the whole zone, and nothing is left for the second
        rw [first.whole c [] inside (by rw [all, List.append_nil])]
        have room : w.length ≤ c.zone.length := by rw [all]
        have left : (c.skip w.length).zone = [] := by
          rw [Cursor.zone_skip, all, List.drop_length]
        refine later.short _ (inside.skip room) ?_ ?_
        · rw [left]
          exact List.nil_prefix
        · rw [left]
          intro empty
          exact proper (by rw [all, ← empty, List.append_nil])
      · obtain ⟨e, failed⟩ := first.short c inside before all
        exact ⟨e, by rw [failed]; rfl⟩
    | inr after =>
      obtain ⟨rest, split⟩ := after
      rw [first.whole c rest inside split.symm]
      have room : w.length ≤ c.zone.length := by simp [← split]
      have left : (c.skip w.length).zone = rest := by
        rw [Cursor.zone_skip, ← split, List.drop_left]
      refine later.short _ (inside.skip room) ?_ ?_
      · rw [left]
        rw [← split] at part
        exact (List.prefix_append_right_inj w).mp part
      · rw [left]
        intro same
        exact proper (by rw [← split, same])

/-- The last reader of a chain, and what is made of its value. -/
theorem last {r : Reader ε α} {w : Bytes} {a : α} (reads : Reads r w a) (f : α → β) :
    Reads (r >>= fun x => Pure.pure (f x)) w (f a) := by
  have both := reads.bind (f := fun x => (Pure.pure (f x) : Reader ε β)) (pure (f a))
  rwa [List.append_nil] at both

theorem checked {p : Prop} [Decidable p] (holds : p) {e : ε} {f : Unit → Reader ε β} {v : Bytes} {b : β}
    (later : Reads (f ()) v b) : Reads (check p e >>= f) v b := by
  rw [check, if_pos holds]
  exact later

theorem of_takes {r : Reader ε α} {w : Bytes} {refuses : Prop} [Decidable refuses] {e : ε}
    {g : Bytes → α} (takes : Takes r w.length refuses e g) (accepts : ¬refuses) : Reads r w (g w) where
  whole c rest inside split := by
    have room : ¬(c.zone.length < w.length ∨ refuses) := by simp [split, accepts]
    rw [takes c inside, if_neg room, split, List.take_left]
  short c inside part proper := by
    have less : c.zone.length < w.length :=
      Nat.lt_of_le_of_ne part.length_le fun same => proper (part.eq_of_length same)
    exact ⟨e, by rw [takes c inside, if_pos (.inl less)]⟩

theorem number {width n : Nat} (fits : n < 256 ^ width) (short : ε) :
    Reads (number width short) (toBytes width n) n := by
  have takes := takes_number width short
  rw [← length_toBytes width n] at takes
  have reads := of_takes (w := toBytes width n) takes not_false
  rwa [fromBytes_toBytes fits, length_toBytes] at reads

theorem pass (w : Bytes) (short : ε) : Reads (pass w.length short) w () :=
  of_takes (takes_pass w.length short) not_false

theorem piece {w : Bytes} {most : Nat} (fits : w.length ≤ most) (bad : ε) :
    Reads (piece w.length most bad) w w :=
  of_takes (takes_piece w.length most bad) (Nat.not_lt_of_le fits)

/-- A table, one entry after the other. -/
theorem times {γ : Type} {r : Reader ε α} {encode : γ → Bytes} {value : γ → α} {l : List γ}
    (each : ∀ x ∈ l, Reads r (encode x) (value x)) :
    Reads (times l.length r) (l.flatMap encode) (l.map value) := by
  induction l with
  | nil => exact pure []
  | cons x l ih =>
    have rest := ih fun y mem => each y (List.mem_cons_of_mem _ mem)
    exact (each x List.mem_cons_self).bind (rest.last (value x :: ·))

end Reads

end ByteCursors
