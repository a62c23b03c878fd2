/-!
Statements over one database connection. A statement that runs outside a
transaction opens an implicit one, which stays open until a commit or a
rollback; any statement and any commit may raise.
-/
namespace ImplicitTransaction

variable {DB Err α β : Type}

/-- `durable` is what a crash leaves, `working` what the connection sees. -/
structure Connection (DB : Type) where
  durable : DB
  working : DB
  deriving DecidableEq

def Connection.Clean (c : Connection DB) : Prop := c.working = c.durable

def Connection.rollback (c : Connection DB) : Connection DB := ⟨c.durable, c.durable⟩

def Connection.commit (c : Connection DB) : Connection DB := ⟨c.working, c.working⟩

/-- The error that SQLite will raise, after that many statements and commits. -/
abbrev Fault (Err : Type) := Option (Nat × Err)

def tick : Fault Err → Except Err (Fault Err)
  | none => .ok none
  | some (0, e) => .error e
  | some (n + 1, e) => .ok (some (n, e))

/-- Code that runs statements on the working copy and leaves it as it is when
    it raises. A fault that has been raised does not come back. -/
def Body (DB Err α : Type) := DB × Fault Err → Except Err α × (DB × Fault Err)

namespace Body

def ret (a : α) : Body DB Err α := fun s => (.ok a, s)

def andThen (x : Body DB Err α) (f : α → Body DB Err β) : Body DB Err β := fun s =>
  match x s with
  | (.ok a, t) => f a t
  | (.error e, t) => (.error e, t)

instance : Monad (Body DB Err) where
  pure := ret
  bind := andThen

def raise (e : Err) : Body DB Err α := fun s => (.error e, s)

def statement (sql : DB → Except Err (α × DB)) : Body DB Err α := fun (db, fault) =>
  match tick fault with
  | .error e => (.error e, (db, none))
  | .ok rest =>
    match sql db with
    | .ok (a, db') => (.ok a, (db', rest))
    | .error e => (.error e, (db, rest))

def query (sql : DB → α) : Body DB Err α := statement fun db => .ok (sql db, db)

/-- A body whose value nobody looks at. -/
def void (x : Body DB Err α) : Body DB Err Unit := x >>= fun _ => pure ()

def each (items : List α) (body : α → Body DB Err Unit) : Body DB Err Unit :=
  match items with
  | [] => ret ()
  | item :: rest => andThen (body item) fun _ => each rest body

theorem each_cons (item : α) (rest : List α) (body : α → Body DB Err Unit) :
    each (item :: rest) body = body item >>= fun _ => each rest body := rfl

end Body

/-- A body followed by a commit. When either raises, the connection is rolled
    back or, with `revert` false, left in its open transaction. -/
def boundary (revert : Bool) (body : Body DB Err α) (c : Connection DB) (fault : Fault Err) :
    Except Err α × Connection DB :=
  match body (c.working, fault) with
  | (.error e, (db, _)) =>
    (.error e, if revert then c.rollback else { c with working := db })
  | (.ok a, (db, rest)) =>
    match tick rest with
    | .error e => (.error e, if revert then c.rollback else { c with working := db })
    | .ok _ => (.ok a, ⟨db, db⟩)

theorem boundary_void (revert : Bool) (body : Body DB Err α) (c : Connection DB)
    (fault : Fault Err) :
    boundary revert body.void c fault =
      ((boundary revert body c fault).1.map fun _ => (), (boundary revert body c fault).2) := by
  simp only [boundary, Body.void, bind, Body.andThen, pure, Body.ret]
  split
  · rename_i ran
    split at ran
    · simp at ran
    · rename_i first
      simp only [Prod.mk.injEq, Except.error.injEq] at ran
      obtain ⟨rfl, rfl⟩ := ran
      simp [first, Except.map]
  · rename_i ran
    split at ran
    · rename_i first
      simp only [Prod.mk.injEq, true_and] at ran
      subst ran
      rw [first]
      dsimp only
      split <;> simp [Except.map]
    · simp at ran

/-! What a body keeps, whether or not it raises -/

/-- `R` relates the working copy before a body to the one it leaves. -/
def Preserves (R : DB → DB → Prop) (body : Body DB Err α) : Prop :=
  ∀ s, R s.1 (body s).2.1

section
variable {R : DB → DB → Prop}

theorem preserves_pure (refl : ∀ db, R db db) (a : α) :
    Preserves R (pure a : Body DB Err α) := fun s => refl s.1

theorem preserves_raise (refl : ∀ db, R db db) (e : Err) :
    Preserves R (Body.raise e : Body DB Err α) := fun s => refl s.1

theorem preserves_bind (trans : ∀ a b c, R a b → R b c → R a c) {x : Body DB Err α}
    {f : α → Body DB Err β} (first : Preserves R x) (second : ∀ a, Preserves R (f a)) :
    Preserves R (x >>= f) := by
  intro s
  have before := first s
  simp only [bind, Body.andThen]
  split
  · rename_i a t ran
    rw [ran] at before
    exact trans _ _ _ before (second a t)
  · rename_i e t ran
    rwa [ran] at before

theorem preserves_statement (refl : ∀ db, R db db) {sql : DB → Except Err (α × DB)}
    (effect : ∀ db a db', sql db = .ok (a, db') → R db db') :
    Preserves R (Body.statement sql) := by
  rintro ⟨db, fault⟩
  simp only [Body.statement]
  split
  · exact refl db
  · split
    · rename_i a db' ran
      exact effect db a db' ran
    · exact refl db

theorem preserves_query (refl : ∀ db, R db db) (sql : DB → α) :
    Preserves R (Body.query sql : Body DB Err α) := by
  refine preserves_statement refl ?_
  rintro db a _ ⟨⟩
  exact refl db

/-- What was read is a fact about the copy that the rest starts from. -/
theorem preserves_query_bind (refl : ∀ db, R db db) {sql : DB → α} {f : α → Body DB Err β}
    (next : ∀ db rest, R db (f (sql db) (db, rest)).2.1) : Preserves R (Body.query sql >>= f) := by
  rintro ⟨db, fault⟩
  simp only [bind, Body.andThen, Body.query, Body.statement]
  cases ticked : tick fault with
  | error e => exact refl db
  | ok rest => exact next db rest

theorem preserves_each (refl : ∀ db, R db db) (trans : ∀ a b c, R a b → R b c → R a c)
    {body : α → Body DB Err Unit} (items : List α) (one : ∀ a, Preserves R (body a)) :
    Preserves R (Body.each items body) := by
  induction items with
  | nil => exact preserves_pure refl ()
  | cons item rest ih => exact preserves_bind trans (one item) fun _ => ih

/-- What a boundary may leave: the durable copy as it was or what the body made
    of the working copy, and on the connection one of the two or the rollback. -/
theorem preserves_boundary {body : Body DB Err α} (kept : Preserves R body) (revert : Bool)
    (c : Connection DB) (fault : Fault Err) :
    let c' := (boundary revert body c fault).2
    (c'.durable = c.durable ∧ (c'.working = c.durable ∨ R c.working c'.working)) ∨
      (c'.durable = c'.working ∧ R c.working c'.working) := by
  have effect := kept (c.working, fault)
  simp only [boundary]
  split
  · rename_i e db rest ran
    rw [ran] at effect
    cases revert with
    | true => exact .inl ⟨rfl, .inl rfl⟩
    | false => exact .inl ⟨rfl, .inr effect⟩
  · rename_i a db rest ran
    rw [ran] at effect
    split
    · cases revert with
      | true => exact .inl ⟨rfl, .inl rfl⟩
      | false => exact .inl ⟨rfl, .inr effect⟩
    · exact .inr ⟨rfl, effect⟩

end

theorem boundary_revert_error {body : Body DB Err α} {c : Connection DB} {fault : Fault Err}
    {e : Err} (raised : (boundary true body c fault).1 = .error e) :
    (boundary true body c fault).2 = c.rollback := by
  simp only [boundary] at raised ⊢
  split
  · rfl
  · rename_i ran
    rw [ran] at raised
    split
    · rfl
    · rename_i quiet
      simp [quiet] at raised

/-- Nothing is durable before the commit. -/
theorem boundary_error_durable {body : Body DB Err α} {revert : Bool} {c : Connection DB}
    {fault : Fault Err} {e : Err} (raised : (boundary revert body c fault).1 = .error e) :
    (boundary revert body c fault).2.durable = c.durable := by
  simp only [boundary] at raised ⊢
  split
  · cases revert <;> rfl
  · rename_i ran
    rw [ran] at raised
    split
    · cases revert <;> rfl
    · rename_i quiet
      simp [quiet] at raised

theorem boundary_ok {body : Body DB Err α} {revert : Bool} {c : Connection DB}
    {fault : Fault Err} {a : α} (returned : (boundary revert body c fault).1 = .ok a) :
    ∃ rest, body (c.working, fault) =
        (.ok a, ((boundary revert body c fault).2.working, rest)) ∧
      (boundary revert body c fault).2.Clean := by
  simp only [boundary] at returned ⊢
  split
  · rename_i ran
    simp [ran] at returned
  · rename_i b db rest ran
    rw [ran] at returned
    split
    · rename_i raised
      simp [raised] at returned
    · rename_i quiet
      simp only [quiet, Except.ok.injEq] at returned
      subst returned
      exact ⟨rest, ran, rfl⟩

theorem bind_ok {x : Body DB Err α} {f : α → Body DB Err β} {s t : DB × Fault Err} {b : β}
    (ran : (x >>= f) s = (.ok b, t)) : ∃ a u, x s = (.ok a, u) ∧ f a u = (.ok b, t) := by
  simp only [bind, Body.andThen] at ran
  split at ran
  · rename_i a u first
    exact ⟨a, u, first, ran⟩
  · simp at ran

theorem query_ok {sql : DB → α} {s t : DB × Fault Err} {a : α}
    (ran : Body.query sql s = (.ok a, t)) : a = sql s.1 ∧ t.1 = s.1 := by
  simp only [Body.query, Body.statement] at ran
  split at ran
  · simp at ran
  · simp only [Prod.mk.injEq, Except.ok.injEq] at ran
    obtain ⟨rfl, rfl⟩ := ran
    exact ⟨rfl, rfl⟩

theorem statement_ok {sql : DB → Except Err (α × DB)} {s t : DB × Fault Err} {a : α}
    (ran : Body.statement sql s = (.ok a, t)) : sql s.1 = .ok (a, t.1) := by
  simp only [Body.statement] at ran
  split at ran
  · simp at ran
  · split at ran
    · rename_i returned
      simp only [Prod.mk.injEq, Except.ok.injEq] at ran
      obtain ⟨rfl, rfl⟩ := ran
      exact returned
    · simp at ran

/-! What a body answers -/

/-- Every error that SQLite may raise is one of `errors`. -/
def Fault.Within (errors : Err → Prop) (fault : Fault Err) : Prop :=
  ∀ n e, fault = some (n, e) → errors e

/-- From `db` the body returns with `post` or raises one of `errors`. -/
structure Meets (errors : Err → Prop) (body : Body DB Err α) (db : DB) (post : α → DB → Prop) :
    Prop where
  returns : ∀ {fault a t}, Fault.Within errors fault → body (db, fault) = (.ok a, t) →
    post a t.1 ∧ Fault.Within errors t.2
  raises : ∀ {fault e t}, Fault.Within errors fault → body (db, fault) = (.error e, t) → errors e

section
variable {errors : Err → Prop} {db : DB} {post : α → DB → Prop}

theorem tick_within {fault rest : Fault Err} (within : Fault.Within errors fault)
    (ticked : tick fault = .ok rest) : Fault.Within errors rest := by
  match fault, ticked with
  | none, ticked =>
    cases ticked
    exact within
  | some (0, e), ticked => cases ticked
  | some (n + 1, e), ticked =>
    cases ticked
    rintro m e' ⟨⟩
    exact within (n + 1) e rfl

theorem tick_error {fault : Fault Err} {e : Err} (within : Fault.Within errors fault)
    (ticked : tick fault = .error e) : errors e := by
  match fault, ticked with
  | none, ticked => cases ticked
  | some (0, e), ticked =>
    cases ticked
    exact within 0 e rfl
  | some (n + 1, e), ticked => cases ticked

theorem meets_pure {a : α} (here : post a db) : Meets errors (pure a : Body DB Err α) db post where
  returns := by
    rintro fault _ _ within ⟨⟩
    exact ⟨here, within⟩
  raises := by rintro fault _ _ within ⟨⟩

theorem meets_raise {e : Err} (known : errors e) :
    Meets errors (Body.raise e : Body DB Err α) db post where
  returns := by rintro fault _ _ within ⟨⟩
  raises := by
    rintro fault _ _ within ⟨⟩
    exact known

theorem meets_bind {middle : α → DB → Prop} {post : β → DB → Prop} {x : Body DB Err α}
    {f : α → Body DB Err β} (first : Meets errors x db middle)
    (second : ∀ a db', middle a db' → Meets errors (f a) db' post) :
    Meets errors (x >>= f) db post where
  returns := by
    intro fault b t within ran
    obtain ⟨a, u, first_ran, second_ran⟩ := bind_ok ran
    obtain ⟨here, within'⟩ := first.returns within first_ran
    exact (second a u.1 here).returns within' second_ran
  raises := by
    intro fault e t within ran
    simp only [bind, Body.andThen] at ran
    split at ran
    · rename_i a u first_ran
      obtain ⟨here, within'⟩ := first.returns within first_ran
      exact (second a u.1 here).raises within' ran
    · rename_i e' u first_ran
      cases ran
      exact first.raises within first_ran

theorem meets_statement {sql : DB → Except Err (α × DB)}
    (returned : ∀ a db', sql db = .ok (a, db') → post a db')
    (raised : ∀ e, sql db = .error e → errors e) : Meets errors (Body.statement sql) db post where
  returns := by
    intro fault a t within ran
    simp only [Body.statement] at ran
    split at ran
    · cases ran
    · rename_i rest ticked
      split at ran
      · rename_i a' db' done
        cases ran
        exact ⟨returned a db' done, tick_within within ticked⟩
      · cases ran
  raises := by
    intro fault e t within ran
    simp only [Body.statement] at ran
    split at ran
    · rename_i e' ticked
      cases ran
      exact tick_error within ticked
    · split at ran
      · cases ran
      · rename_i e' failed
        cases ran
        exact raised e failed

theorem meets_query {sql : DB → α} {Q : α → DB → Prop} (here : Q (sql db) db) :
    Meets errors (Body.query sql) db Q := by
  refine meets_statement ?_ fun e ran => by cases ran
  rintro a _ ⟨⟩
  exact here

theorem Meets.mono {weaker : α → DB → Prop} {body : Body DB Err α} (met : Meets errors body db post)
    (implies : ∀ a db', post a db' → weaker a db') : Meets errors body db weaker where
  returns := by
    intro fault a t within ran
    obtain ⟨here, within'⟩ := met.returns within ran
    exact ⟨implies a t.1 here, within'⟩
  raises := met.raises

end

/-- One statement that is not rolled back: when the commit raises, its effect
    stays in the open transaction. -/
theorem boundary_statement_error {sql : DB → Except Err (α × DB)} {c : Connection DB}
    {fault : Fault Err} {e : Err}
    (raised : (boundary false (Body.statement sql) c fault).1 = .error e) :
    (boundary false (Body.statement sql) c fault).2.durable = c.durable ∧
      ((∃ e a db, fault = some (1, e) ∧ sql c.working = .ok (a, db) ∧
          (boundary false (Body.statement sql) c fault).2.working = db) ∨
        ((∀ e a db, fault = some (1, e) → sql c.working ≠ .ok (a, db)) ∧
          (boundary false (Body.statement sql) c fault).2.working = c.working)) := by
  match fault, ran : sql c.working with
  | none, .ok (a, db) => simp [boundary, Body.statement, tick, ran] at raised
  | none, .error e' => simp [boundary, Body.statement, tick, ran]
  | some (0, e'), _ => simp [boundary, Body.statement, tick]
  | some (1, e'), .ok (a, db) => simp [boundary, Body.statement, tick, ran]
  | some (1, e'), .error e'' => simp [boundary, Body.statement, tick, ran]
  | some (n + 2, e'), .ok (a, db) => simp [boundary, Body.statement, tick, ran] at raised
  | some (n + 2, e'), .error e'' => simp [boundary, Body.statement, tick, ran]

end ImplicitTransaction
