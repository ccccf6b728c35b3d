import Mathlib.Tactic

/-!
Transactions with rollback, over arbitrary tables.

A transaction runs on a connection: the tables as the transaction sees them,
the tables a rollback returns to, the sequences that hand out row numbers and
the time at which the transaction began. `connect` runs one to its end: when it
returns, what it wrote is kept; when it raises, the tables go back to the last
commit. The sequences never go back.

* `Tx`: the programs, a state and error monad over connections.
* `bind_eq_ok` and `connect_eq_ok` take a transaction that returned apart into
  the steps that returned, `bind_eq_error` one that raised into the step that
  did.
* `Within R`: whatever a program does to its connection, the relation `R`
  allows, with the rules that carry this through `bind` and case distinctions.
* `SameCommit`: the relation of a program that never commits in the middle;
  `connect_raise` is the consequence: when such a program raises, no table has
  changed.
-/

/-- A database: its tables and its sequences. -/
structure Database (T Q : Type) where
  tables : T
  seq : Q

/-- A connection inside a transaction. -/
structure Conn (T Q τ : Type) where
  tables : T
  committed : T
  seq : Q
  now : τ

/-- A program on a connection: it returns a value or raises an error. -/
def Tx (T Q τ E α : Type) : Type := Conn T Q τ → Except E α × Conn T Q τ

namespace Tx

variable {T Q τ E α β : Type}

/-- The program that returns a value. -/
def ret (a : α) : Tx T Q τ E α := fun c => (.ok a, c)

/-- Run a program, then the one its value selects; an error ends both. -/
def andThen (x : Tx T Q τ E α) (f : α → Tx T Q τ E β) : Tx T Q τ E β := fun c =>
  match x c with
  | (.ok a, c') => f a c'
  | (.error e, c') => (.error e, c')

instance : Monad (Tx T Q τ E) where
  pure := ret
  bind := andThen

/-- Raise an error. -/
def raise (e : E) : Tx T Q τ E α := fun c => (.error e, c)

/-- Read the tables. -/
def read (f : T → α) : Tx T Q τ E α := fun c => (.ok (f c.tables), c)

/-- Write the tables. -/
def write (f : T → T) : Tx T Q τ E Unit := fun c => (.ok (), { c with tables := f c.tables })

/-- Draw from a sequence. -/
def draw (f : Q → α × Q) : Tx T Q τ E α := fun c =>
  (.ok (f c.seq).1, { c with seq := (f c.seq).2 })

/-- The time at which the transaction began. -/
def now : Tx T Q τ E τ := fun c => (.ok c.now, c)

/-- Make the writes so far permanent. -/
def commit : Tx T Q τ E Unit := fun c => (.ok (), { c with committed := c.tables })

/-- Run a program for each value of a list, in order. -/
def forEach (f : α → Tx T Q τ E Unit) : List α → Tx T Q τ E Unit
  | [] => ret ()
  | a :: as => andThen (f a) fun _ => forEach f as

/-- Run a transaction to its end: a return keeps its writes, an error rolls
back to the last commit, and the sequences stay where they are. -/
def connect (x : Tx T Q τ E α) (t : τ) (db : Database T Q) : Except E α × Database T Q :=
  match x ⟨db.tables, db.tables, db.seq, t⟩ with
  | (.ok a, c) => (.ok a, ⟨c.tables, c.seq⟩)
  | (.error e, c) => (.error e, ⟨c.committed, c.seq⟩)

/-! ### Running the programs -/

variable (c : Conn T Q τ)

@[simp] lemma pure_apply (a : α) : (pure a : Tx T Q τ E α) c = (.ok a, c) := rfl

lemma bind_apply (x : Tx T Q τ E α) (f : α → Tx T Q τ E β) :
    (x >>= f) c = match x c with
      | (.ok a, c') => f a c'
      | (.error e, c') => (.error e, c') := rfl

@[simp] lemma raise_apply (e : E) : (raise e : Tx T Q τ E α) c = (.error e, c) := rfl

@[simp] lemma read_apply (f : T → α) : (read f : Tx T Q τ E α) c = (.ok (f c.tables), c) := rfl

@[simp] lemma write_apply (f : T → T) :
    (write f : Tx T Q τ E Unit) c = (.ok (), { c with tables := f c.tables }) := rfl

@[simp] lemma draw_apply (f : Q → α × Q) :
    (draw f : Tx T Q τ E α) c = (.ok (f c.seq).1, { c with seq := (f c.seq).2 }) := rfl

@[simp] lemma now_apply : (now : Tx T Q τ E τ) c = (.ok c.now, c) := rfl

@[simp] lemma commit_apply :
    (commit : Tx T Q τ E Unit) c = (.ok (), { c with committed := c.tables }) := rfl

variable {c}

/-- Running on after a program that returned. -/
lemma bind_ok {x : Tx T Q τ E α} {f : α → Tx T Q τ E β} {a : α} {c' : Conn T Q τ}
    (h : x c = (.ok a, c')) : (x >>= f) c = f a c' := by
  rw [bind_apply, h]

/-- Nothing runs after a program that raised. -/
lemma bind_error {x : Tx T Q τ E α} {f : α → Tx T Q τ E β} {e : E} {c' : Conn T Q τ}
    (h : x c = (.error e, c')) : (x >>= f) c = (.error e, c') := by
  rw [bind_apply, h]

lemma connect_ok {x : Tx T Q τ E α} {t : τ} {db : Database T Q} {a : α} {c' : Conn T Q τ}
    (h : x ⟨db.tables, db.tables, db.seq, t⟩ = (.ok a, c')) :
    x.connect t db = (.ok a, ⟨c'.tables, c'.seq⟩) := by
  rw [connect, h]

lemma connect_error {x : Tx T Q τ E α} {t : τ} {db : Database T Q} {e : E} {c' : Conn T Q τ}
    (h : x ⟨db.tables, db.tables, db.seq, t⟩ = (.error e, c')) :
    x.connect t db = (.error e, ⟨c'.committed, c'.seq⟩) := by
  rw [connect, h]

lemma bind_eq_ok {x : Tx T Q τ E α} {f : α → Tx T Q τ E β} {b : β} {c'' : Conn T Q τ} :
    (x >>= f) c = (.ok b, c'') ↔ ∃ a c', x c = (.ok a, c') ∧ f a c' = (.ok b, c'') := by
  rw [bind_apply]
  constructor
  · intro h
    rcases hx : x c with ⟨_ | a, c'⟩ <;> rw [hx] at h
    · exact absurd (Prod.mk.inj h).1 (by simp)
    · exact ⟨a, c', rfl, h⟩
  · rintro ⟨a, c', hx, hf⟩
    rw [hx]
    exact hf

lemma bind_eq_error {x : Tx T Q τ E α} {f : α → Tx T Q τ E β} {e : E} {c'' : Conn T Q τ} :
    (x >>= f) c = (.error e, c'') ↔ x c = (.error e, c'') ∨
      ∃ a c', x c = (.ok a, c') ∧ f a c' = (.error e, c'') := by
  rw [bind_apply]
  rcases hx : x c with ⟨e' | a, c'⟩
  · simp
  · simp

@[simp] lemma forEach_nil (f : α → Tx T Q τ E Unit) :
    forEach f [] c = (.ok (), c) := rfl

lemma forEach_cons (f : α → Tx T Q τ E Unit) (a : α) (as : List α) :
    forEach f (a :: as) = f a >>= fun _ => forEach f as := rfl

lemma connect_eq_ok {x : Tx T Q τ E α} {t : τ} {db db' : Database T Q} {a : α} :
    x.connect t db = (.ok a, db')
      ↔ ∃ c', x ⟨db.tables, db.tables, db.seq, t⟩ = (.ok a, c') ∧ ⟨c'.tables, c'.seq⟩ = db' := by
  rw [connect]
  constructor
  · intro h
    rcases hx : x ⟨db.tables, db.tables, db.seq, t⟩ with ⟨_ | a', c'⟩ <;> rw [hx] at h
    · exact absurd (Prod.mk.inj h).1 (by simp)
    · obtain ⟨ha, hdb⟩ := Prod.mk.inj h
      obtain rfl := Except.ok.inj ha
      exact ⟨c', rfl, hdb⟩
  · rintro ⟨c', hx, rfl⟩
    rw [hx]

/-- The error of a transaction is that of its program. -/
lemma connect_eq_error {x : Tx T Q τ E α} {t : τ} {db : Database T Q} {e : E}
    (h : (x.connect t db).1 = .error e) :
    ∃ c', x ⟨db.tables, db.tables, db.seq, t⟩ = (.error e, c') := by
  rw [connect] at h
  rcases hx : x ⟨db.tables, db.tables, db.seq, t⟩ with ⟨e' | a, c'⟩ <;> rw [hx] at h
  · obtain rfl := Except.error.inj h
    exact ⟨c', rfl⟩
  · exact absurd h (by simp)

/-- The sequences stay where the program left them, whether it returned or
raised. -/
lemma connect_seq (x : Tx T Q τ E α) (t : τ) (db : Database T Q) :
    (x.connect t db).2.seq = (x ⟨db.tables, db.tables, db.seq, t⟩).2.seq := by
  rw [connect]
  rcases x ⟨db.tables, db.tables, db.seq, t⟩ with ⟨_ | a, c'⟩ <;> rfl

/-! ### What a program may do to its connection -/

/-- Whatever the program does to its connection, the relation `R` allows. -/
def Within (R : Conn T Q τ → Conn T Q τ → Prop) (x : Tx T Q τ E α) : Prop := ∀ c, R c (x c).2

namespace Within

variable {R : Conn T Q τ → Conn T Q τ → Prop} {x y : Tx T Q τ E α}

lemma pure [Std.Refl R] (a : α) : Within R (Pure.pure a : Tx T Q τ E α) := fun c => refl_of R c

lemma raise [Std.Refl R] (e : E) : Within R (Tx.raise e : Tx T Q τ E α) := fun c => refl_of R c

lemma read [Std.Refl R] (f : T → α) : Within R (Tx.read f : Tx T Q τ E α) := fun c => refl_of R c

lemma now [Std.Refl R] : Within R (Tx.now : Tx T Q τ E τ) := fun c => refl_of R c

lemma bind [IsTrans (Conn T Q τ) R] {f : α → Tx T Q τ E β} (hx : Within R x)
    (hf : ∀ a, Within R (f a)) : Within R (x >>= f) := by
  intro c
  have h := hx c
  rw [bind_apply]
  rcases hr : x c with ⟨_ | a, c'⟩ <;> rw [hr] at h
  · exact h
  · exact trans_of R h (hf a c')

lemma ite {p : Prop} [Decidable p] (hx : Within R x) (hy : Within R y) :
    Within R (if p then x else y) := by
  split
  · exact hx
  · exact hy

lemma forEach [Std.Refl R] [IsTrans (Conn T Q τ) R] {f : α → Tx T Q τ E Unit}
    (hf : ∀ a, Within R (f a)) (as : List α) : Within R (Tx.forEach f as) := by
  induction as with
  | nil => exact Within.pure ()
  | cons a as ih => exact Within.bind (hf a) fun _ => ih

/-- The connection that a run leaves. -/
lemma of_run (hx : Within R x) {c c' : Conn T Q τ} {r : Except E α} (h : x c = (r, c')) :
    R c c' := by
  have hc := hx c
  rw [h] at hc
  exact hc

/-- What the relation allows of the connection, the relation between the
databases before and after the transaction inherits, whether it kept its
writes or rolled back. -/
lemma connect {P : T → Q → Prop} (hx : Within R x)
    (hR : ∀ c c', R c c' → P c.tables c.seq → P c.committed c.seq →
      P c'.tables c'.seq ∧ P c'.committed c'.seq)
    {t : τ} {db : Database T Q} (h : P db.tables db.seq) :
    P (x.connect t db).2.tables (x.connect t db).2.seq := by
  have hc := hR _ _ (hx ⟨db.tables, db.tables, db.seq, t⟩) h h
  rw [Tx.connect]
  rcases hr : x ⟨db.tables, db.tables, db.seq, t⟩ with ⟨_ | a, c'⟩ <;> rw [hr] at hc
  · exact hc.2
  · exact hc.1

end Within

/-! ### Programs that never commit in the middle -/

/-- The two connections roll back to the same tables. -/
def SameCommit (c c' : Conn T Q τ) : Prop := c'.committed = c.committed

instance : Std.Refl (SameCommit : Conn T Q τ → Conn T Q τ → Prop) := ⟨fun _ => rfl⟩

instance : IsTrans (Conn T Q τ) SameCommit := ⟨fun _ _ _ h h' => h'.trans h⟩

lemma committed_eq {x : Tx T Q τ E α} (hx : Within SameCommit x) {c c' : Conn T Q τ}
    {r : Except E α} (h : x c = (r, c')) : c'.committed = c.committed := hx.of_run h

/-- **Rollback**: when a program that never commits in the middle raises, the
tables are what they were. -/
theorem connect_raise {x : Tx T Q τ E α} (hx : Within SameCommit x) {t : τ}
    {db db' : Database T Q} {e : E} (h : x.connect t db = (.error e, db')) :
    db'.tables = db.tables := by
  rw [connect] at h
  rcases hr : x ⟨db.tables, db.tables, db.seq, t⟩ with ⟨e' | a, c'⟩ <;> rw [hr] at h
  · obtain ⟨-, rfl⟩ := Prod.mk.inj h
    exact committed_eq hx hr
  · exact absurd (Prod.mk.inj h).1 (by simp)

end Tx
