import ControlHarness.General.Table

/-!
What a transaction wrote to a table, laid over the table as it stands when the
transaction commits.

A transaction that began on the table `base` and leaves the table `new` wrote
the rows `new.changed base`. When it commits, others may have committed in
between: `cur.overlay (new.changed base)` is the current table with the written
rows in place of the ones with the same key.

* `put`: one row in place of the row with its key.
* `get?_overlay`: a lookup finds the written row, and where there is none the
  current one.
* `get?_changed`: the written rows are those that the two tables have differently.
-/

namespace Table

variable {α κ : Type*} {key : α → κ} [DecidableEq κ]

/-- Put a row in place of the row with its key, or at the end. -/
def put (t : Table key) (r : α) : Table key :=
  t.upsert r (fun q => if key q = key r then r else q) fun q => by
    by_cases h : key q = key r
    · rw [if_pos h, h]
    · rw [if_neg h]

/-- No row of one table has the key of a row of the other. -/
def Disjoint (t u : Table key) : Prop := ∀ r ∈ t.rows, ∀ q ∈ u.rows, key r ≠ key q

instance (t u : Table key) : Decidable (t.Disjoint u) :=
  inferInstanceAs (Decidable (∀ r ∈ t.rows, ∀ q ∈ u.rows, key r ≠ key q))

omit [DecidableEq κ] in
lemma Disjoint.symm {t u : Table key} (h : t.Disjoint u) : u.Disjoint t :=
  fun r hr q hq => (h q hq r hr).symm

/-- A key of one of two disjoint tables is not a key of the other. -/
lemma Disjoint.get?_eq_none {t u : Table key} (h : t.Disjoint u) {k : κ} {r : α}
    (hr : t.get? k = some r) : u.get? k = none := by
  cases hq : u.get? k with
  | none => rfl
  | some q =>
      have hkeys : key r = key q := (key_of_get? hr).trans (key_of_get? hq).symm
      exact absurd hkeys (h r (mem_of_get? hr) q (mem_of_get? hq))

/-- What a lookup returns after a row is put. -/
lemma get?_put (t : Table key) (r : α) (k : κ) :
    (t.put r).get? k = if k = key r then some r else t.get? k := by
  rw [put, get?_upsert]
  by_cases hk : k = key r
  · rw [if_pos hk, if_pos hk]
    cases hget : t.get? k with
    | none => rfl
    | some q =>
        have hq : key q = key r := (key_of_get? hget).trans hk
        rw [Option.elim_some, if_pos hq]
  · rw [if_neg hk, if_neg hk]

/-- The rows of one table laid over another. -/
def overlay (t u : Table key) : Table key := u.rows.foldl put t

lemma get?_foldl_put {rows : List α} (hnodup : (rows.map key).Nodup) (t : Table key) (k : κ) :
    (rows.foldl put t).get? k = (rows.find? fun r => decide (key r = k)).or (t.get? k) := by
  induction rows generalizing t with
  | nil => rfl
  | cons r rows ih =>
      rw [List.map_cons, List.nodup_cons] at hnodup
      rw [List.foldl_cons, ih hnodup.2, get?_put]
      by_cases hk : key r = k
      · have hnone : rows.find? (fun q => decide (key q = k)) = none := by
          rw [List.find?_eq_none]
          intro q hq hqk
          refine hnodup.1 (List.mem_map.mpr ⟨q, hq, ?_⟩)
          exact (of_decide_eq_true hqk).trans hk.symm
        rw [hnone, Option.none_or, if_pos hk.symm, List.find?_cons_of_pos (by simp [hk]),
          Option.some_or]
      · rw [if_neg (Ne.symm hk), List.find?_cons_of_neg (by simp [hk])]

/-- **What a lookup returns after an overlay**: the row laid over, or else the
row below. -/
lemma get?_overlay (t u : Table key) (k : κ) :
    (t.overlay u).get? k = (u.get? k).or (t.get? k) := get?_foldl_put u.nodup t k

variable [DecidableEq α]

/-- The rows of a table that another does not hold as they are. -/
def changed (new base : Table key) : Table key :=
  ⟨new.rows.filter fun r => base.get? (key r) ≠ some r,
    new.nodup.sublist (List.filter_sublist.map key)⟩

/-- A lookup finds a written row where the tables differ. -/
lemma get?_changed (new base : Table key) (k : κ) :
    (new.changed base).get? k = if new.get? k = base.get? k then none else new.get? k := by
  cases hget : new.get? k with
  | none =>
      rw [ite_self, get?_eq_none_iff]
      intro hmem
      refine get?_eq_none_iff.mp hget ?_
      exact (List.filter_sublist.map key).subset hmem
  | some r =>
      have hkey : key r = k := key_of_get? hget
      by_cases hbase : some r = base.get? k
      · rw [if_pos hbase, get?_eq_none_iff]
        intro hmem
        obtain ⟨q, hq, hqk⟩ := List.mem_map.mp hmem
        obtain ⟨hqnew, hne⟩ := List.mem_filter.mp hq
        obtain rfl : q = r := new.eq_of_key_eq hqnew (mem_of_get? hget) (hqk.trans hkey.symm)
        exact of_decide_eq_true hne (hkey ▸ hbase.symm)
      · rw [if_neg hbase]
        have hmem : r ∈ (new.changed base).rows := by
          refine List.mem_filter.mpr ⟨mem_of_get? hget, decide_eq_true ?_⟩
          rw [hkey]
          exact Ne.symm hbase
        rw [← hkey]
        exact get?_of_mem hmem

end Table
