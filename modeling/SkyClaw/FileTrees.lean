import Mathlib.Data.List.Basic

set_option linter.all false

/-!
Directory trees as `lstat` and `scandir` show them. `fold` is how the file
system compares names: the identity where letter case counts, and otherwise a
function that forgets it.
-/
namespace FileTrees

inductive LinkKind where
  | symlink
  | junction
  deriving DecidableEq

mutual

/-- `tag` is the reparse tag of a folder that is no link. `unreadable` is an entry
whose inspection fails, and `dangling` a link to nothing. -/
inductive Node (α : Type) where
  | file (a : α)
  | folder (tag : Nat) (entries : Entries α)
  | link (kind : LinkKind) (target : Node α)
  | dangling (kind : LinkKind)
  | unreadable
  deriving DecidableEq

inductive Entries (α : Type) where
  | nil
  | cons (name : String) (node : Node α) (rest : Entries α)
  deriving DecidableEq

end

variable {α : Type} (fold : String → String)

def Entries.find? : Entries α → String → Option (Node α)
  | .nil, _ => none
  | .cons name node rest, wanted =>
    if fold name = fold wanted then some node else rest.find? wanted

/-- The node behind the links. -/
def Node.target : Node α → Node α
  | .link _ target => target.target
  | .file a => .file a
  | .folder tag entries => .folder tag entries
  | .dangling kind => .dangling kind
  | .unreadable => .unreadable

def Node.isDir (node : Node α) : Bool :=
  match node.target with
  | .folder _ _ => true
  | _ => false

def Node.isLink : Node α → Bool
  | .link _ _ => true
  | .dangling _ => true
  | _ => false

/-- `lstat` of an entry. Below a file it fails with `NotADirectoryError`. -/
def Node.child? (node : Node α) (name : String) : Option (Node α) :=
  match node.target with
  | .folder _ entries => entries.find? fold name
  | .link _ _ | .dangling _ => none
  | .file _ | .unreadable => some .unreadable

/-- What is at the end of a path, for who asks first whether it exists. -/
def Node.descend : Node α → List String → Option (Node α)
  | node, [] => some node
  | node, name :: path =>
    match node.target with
    | .folder _ entries => (entries.find? fold name).bind fun child => child.descend path
    | .unreadable => some .unreadable
    | _ => none

/-- What is at the end of a path that runs through folders and no links. -/
def Node.own? : Node α → List String → Option (Node α)
  | node, [] => some node
  | .folder _ entries, name :: path =>
    (entries.find? fold name).bind fun child => child.own? path
  | _, _ :: _ => none

inductive Seen (α : Type) where
  | file (path : List String) (a : α)
  | failed

def Seen.under (name : String) : Seen α → Seen α
  | .file path a => .file (name :: path) a
  | .failed => .failed

mutual

/-- The walk that enters no link. The entries wait on a stack, so the last one is
walked first. -/
def Node.walk : Node α → List (Seen α)
  | .file a => [.file [] a]
  | .folder _ entries => entries.walk
  | .link _ _ => []
  | .dangling _ => []
  | .unreadable => [.failed]

def Entries.walk : Entries α → List (Seen α)
  | .nil => []
  | .cons name node rest => rest.walk ++ node.walk.map (Seen.under name)

end

mutual

/-- No folder has two entries that the file system takes for one. -/
def Node.Distinct : Node α → Prop
  | .folder _ entries => entries.Distinct
  | .link _ target => target.Distinct
  | .file _ => True
  | .dangling _ => True
  | .unreadable => True

def Entries.Distinct : Entries α → Prop
  | .nil => True
  | .cons name node rest => rest.find? fold name = none ∧ node.Distinct ∧ rest.Distinct

end

variable {fold}

theorem find_congr {name wanted : String} (same : fold name = fold wanted)
    (entries : Entries α) : entries.find? fold name = entries.find? fold wanted := by
  cases entries with
  | nil => rfl
  | cons first node rest =>
    simp only [Entries.find?, same]
    rw [find_congr same rest]

theorem own_congr {p q : List String} (same : p.map fold = q.map fold) (node : Node α) :
    node.own? fold p = node.own? fold q := by
  induction p generalizing q node with
  | nil =>
    have empty : q = [] := by simpa using same.symm
    rw [empty]
  | cons name path ih =>
    cases q with
    | nil => simp at same
    | cons wanted rest =>
      simp only [List.map_cons, List.cons.injEq] at same
      cases node with
      | folder tag entries =>
        simp only [Node.own?, find_congr same.1]
        congr 1
        funext child
        exact ih same.2 child
      | _ => rfl

theorem own_append (p q : List String) (node : Node α) :
    node.own? fold (p ++ q) = (node.own? fold p).bind fun child => child.own? fold q := by
  induction p generalizing node with
  | nil => rfl
  | cons name path ih =>
    cases node with
    | folder tag entries =>
      simp only [List.cons_append, Node.own?, Option.bind_assoc]
      congr 1
      funext child
      exact ih child
    | _ => rfl

/-- Nothing of a folder's own is behind a link. -/
theorem own_of_link {node : Node α} (link : node.isLink = true) {path : List String}
    (below : path ≠ []) : node.own? fold path = none := by
  cases path with
  | nil => exact absurd rfl below
  | cons name path =>
    cases node with
    | folder tag entries => cases link
    | _ => rfl

theorem file_under {name : String} {p : List String} {a : α} {seen : List (Seen α)} :
    Seen.file p a ∈ seen.map (Seen.under name) ↔ ∃ q, p = name :: q ∧ Seen.file q a ∈ seen := by
  constructor
  · intro member
    obtain ⟨s, hs, eq⟩ := List.mem_map.mp member
    cases s with
    | failed => simp [Seen.under] at eq
    | file q b =>
      simp only [Seen.under, Seen.file.injEq] at eq
      obtain ⟨rfl, rfl⟩ := eq
      exact ⟨q, rfl, hs⟩
  · intro ⟨q, eq, hs⟩
    exact List.mem_map.mpr ⟨.file q a, hs, by simp [Seen.under, eq]⟩

/-- Every file of the first entry found is a file of the folder. -/
theorem walk_of_find {entries : Entries α} {name : String} {child : Node α}
    (found : entries.find? fold name = some child) :
    ∃ actual, fold actual = fold name ∧
      ∀ q a, Seen.file q a ∈ child.walk → Seen.file (actual :: q) a ∈ entries.walk := by
  cases entries with
  | nil => simp [Entries.find?] at found
  | cons first node rest =>
    simp only [Entries.find?] at found
    split at found
    · rename_i same
      obtain rfl := Option.some.inj found
      refine ⟨first, same, ?_⟩
      intro q a member
      simp only [Entries.walk, List.mem_append]
      exact Or.inr (file_under.mpr ⟨q, rfl, member⟩)
    · obtain ⟨actual, same, files⟩ := walk_of_find found
      refine ⟨actual, same, ?_⟩
      intro q a member
      simp only [Entries.walk, List.mem_append]
      exact Or.inl (files q a member)

theorem walk_of_own {node : Node α} {p : List String} {a : α}
    (owned : node.own? fold p = some (.file a)) :
    ∃ q, q.map fold = p.map fold ∧ Seen.file q a ∈ node.walk := by
  induction p generalizing node with
  | nil =>
    simp only [Node.own?, Option.some.injEq] at owned
    exact ⟨[], rfl, by simp [owned, Node.walk]⟩
  | cons name path ih =>
    cases node with
    | folder tag entries =>
      simp only [Node.own?, Option.bind_eq_some_iff] at owned
      obtain ⟨child, found, below⟩ := owned
      obtain ⟨q, same, member⟩ := ih below
      obtain ⟨actual, sameName, files⟩ := walk_of_find found
      exact ⟨actual :: q, by simp [same, sameName], by simpa [Node.walk] using files q a member⟩
    | _ => simp [Node.own?] at owned

mutual

theorem own_of_walk {node : Node α} (distinct : node.Distinct fold) {p : List String} {a : α}
    (member : Seen.file p a ∈ node.walk) : node.own? fold p = some (.file a) := by
  cases node with
  | file b =>
    simp only [Node.walk, List.mem_singleton, Seen.file.injEq] at member
    simp [member.1, member.2, Node.own?]
  | folder tag entries =>
    simp only [Node.walk] at member
    simp only [Node.Distinct] at distinct
    obtain ⟨name, q, rfl, child, found, below⟩ := find_of_walk distinct member
    simp [Node.own?, found, below]
  | link kind target => simp [Node.walk] at member
  | dangling kind => simp [Node.walk] at member
  | unreadable => simp [Node.walk] at member

theorem find_of_walk {entries : Entries α} (distinct : entries.Distinct fold)
    {p : List String} {a : α} (member : Seen.file p a ∈ entries.walk) :
    ∃ name q, p = name :: q ∧ ∃ child, entries.find? fold name = some child ∧
      child.own? fold q = some (.file a) := by
  cases entries with
  | nil => simp [Entries.walk] at member
  | cons first node rest =>
    simp only [Entries.Distinct] at distinct
    obtain ⟨fresh, ofNode, ofRest⟩ := distinct
    simp only [Entries.walk, List.mem_append] at member
    cases member with
    | inl later =>
      obtain ⟨name, q, eq, child, found, below⟩ := find_of_walk ofRest later
      refine ⟨name, q, eq, child, ?_, below⟩
      -- the first entry has another name, or the rest would have none like it
      have other : fold first ≠ fold name := by
        intro same
        rw [find_congr same, found] at fresh
        cases fresh
      simp [Entries.find?, other, found]
    | inr here =>
      obtain ⟨q, eq, inNode⟩ := file_under.mp here
      exact ⟨first, q, eq, node, by simp [Entries.find?], own_of_walk ofNode inNode⟩

end

theorem find_distinct {entries : Entries α} (distinct : entries.Distinct fold) {name : String}
    {child : Node α} (found : entries.find? fold name = some child) : child.Distinct fold := by
  cases entries with
  | nil => simp [Entries.find?] at found
  | cons first node rest =>
    simp only [Entries.Distinct] at distinct
    simp only [Entries.find?] at found
    split at found
    · obtain rfl := Option.some.inj found
      exact distinct.2.1
    · exact find_distinct distinct.2.2 found

theorem target_distinct {node : Node α} (distinct : node.Distinct fold) :
    node.target.Distinct fold := by
  cases node with
  | link kind target =>
    simp only [Node.Distinct] at distinct
    simpa [Node.target] using target_distinct distinct
  | file a => simp [Node.target, Node.Distinct]
  | folder tag entries => simpa [Node.target] using distinct
  | dangling kind => simp [Node.target, Node.Distinct]
  | unreadable => simp [Node.target, Node.Distinct]

theorem child_distinct {node child : Node α} {name : String} (distinct : node.Distinct fold)
    (found : node.child? fold name = some child) : child.Distinct fold := by
  have below := target_distinct distinct
  cases behind : node.target with
  | folder tag entries =>
    simp only [Node.child?, behind] at found
    simp only [behind, Node.Distinct] at below
    exact find_distinct below found
  | file a =>
    simp only [Node.child?, behind, Option.some.injEq] at found
    simp [← found, Node.Distinct]
  | unreadable =>
    simp only [Node.child?, behind, Option.some.injEq] at found
    simp [← found, Node.Distinct]
  | link kind target => simp [Node.child?, behind] at found
  | dangling kind => simp [Node.child?, behind] at found

end FileTrees
