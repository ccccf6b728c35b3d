import Mathlib.Tactic

/-!
Tables with a primary key.

A `Table key` is the list of its rows in storage order together with the proof
that no two rows share a key, so a table with a duplicate key cannot be built.
Lookups go through `get?`; every update has a lemma that says what `get?`
returns afterwards.

* `insert`: a row with a fresh key is appended.
* `updateWhere`: the rows meeting a condition are rewritten in place, the key
  staying as it is; `updateKey` is the case of one key.
* `upsert`: a row with a known key is rewritten, a row with a fresh key is
  appended.
-/

/-- Rows of type `α` in storage order, no two of them with the same key. -/
structure Table {α κ : Type*} (key : α → κ) where
  rows : List α
  nodup : (rows.map key).Nodup

namespace Table

variable {α κ : Type*} {key : α → κ}

/-- The table without rows. -/
def empty : Table key := ⟨[], by simp⟩

@[ext] lemma ext {t u : Table key} (h : t.rows = u.rows) : t = u := by
  cases t; cases u; cases h; rfl

/-- Two rows with the same key are the same row. -/
lemma eq_of_key_eq (t : Table key) {r r' : α} (hr : r ∈ t.rows) (hr' : r' ∈ t.rows)
    (h : key r = key r') : r = r' :=
  List.inj_on_of_nodup_map t.nodup hr hr' h

/-- An update that keeps the key keeps the column of keys. -/
lemma map_key_updated {p : α → Bool} {f : α → α} (hf : ∀ r, key (f r) = key r) (l : List α) :
    (l.map fun r => if p r then f r else r).map key = l.map key := by
  rw [List.map_map]
  refine List.map_congr_left fun r _ => ?_
  by_cases hp : p r <;> simp [hp, hf]

/-- Rewrite the rows meeting `p`; the rewriting keeps the key. -/
def updateWhere (t : Table key) (p : α → Bool) (f : α → α)
    (hf : ∀ r, key (f r) = key r) : Table key :=
  ⟨t.rows.map fun r => if p r then f r else r, by rw [map_key_updated hf]; exact t.nodup⟩

@[simp] lemma rows_updateWhere (t : Table key) (p : α → Bool) (f : α → α)
    (hf : ∀ r, key (f r) = key r) :
    (t.updateWhere p f hf).rows = t.rows.map fun r => if p r then f r else r := rfl

/-- A bulk update whose condition no row meets changes nothing. -/
lemma updateWhere_eq_self {t : Table key} {p : α → Bool} {f : α → α}
    {hf : ∀ r, key (f r) = key r} (h : ∀ r ∈ t.rows, p r = false) : t.updateWhere p f hf = t := by
  refine Table.ext ?_
  rw [rows_updateWhere]
  conv_rhs => rw [← List.map_id t.rows]
  exact List.map_congr_left fun r hr => by simp [h r hr]

variable [DecidableEq κ]

/-- The row with the given key. -/
def get? (t : Table key) (k : κ) : Option α := t.rows.find? fun r => decide (key r = k)

/-- Append a row with a fresh key; a row whose key is taken changes nothing. -/
def insert (t : Table key) (r : α) : Table key :=
  if h : key r ∈ t.rows.map key then t
  else ⟨t.rows ++ [r], by
    rw [List.map_append, List.nodup_append]
    refine ⟨t.nodup, by simp, fun a ha b hb => ?_⟩
    rintro rfl
    rw [List.map_cons, List.map_nil, List.mem_singleton] at hb
    exact h (hb ▸ ha)⟩

/-- Rewrite the row with the given key. -/
def updateKey (t : Table key) (k : κ) (f : α → α)
    (hf : ∀ r, key (f r) = key r) : Table key :=
  t.updateWhere (fun r => decide (key r = k)) f hf

/-- Rewrite the row with the key of `r`, or append `r` where there is none. -/
def upsert (t : Table key) (r : α) (f : α → α)
    (hf : ∀ r, key (f r) = key r) : Table key :=
  if (t.get? (key r)).isSome then t.updateKey (key r) f hf else t.insert r

/-! ### Lookups -/

lemma key_of_get? {t : Table key} {k : κ} {r : α} (h : t.get? k = some r) : key r = k := by
  simpa using List.find?_some h

lemma mem_of_get? {t : Table key} {k : κ} {r : α} (h : t.get? k = some r) : r ∈ t.rows :=
  List.mem_of_find?_eq_some h

lemma get?_eq_none_iff {t : Table key} {k : κ} : t.get? k = none ↔ k ∉ t.rows.map key := by
  rw [get?, List.find?_eq_none, List.mem_map]
  simp

lemma get?_of_mem {t : Table key} {r : α} (h : r ∈ t.rows) : t.get? (key r) = some r := by
  cases hg : t.get? (key r) with
  | none =>
      rw [get?_eq_none_iff] at hg
      exact absurd (List.mem_map_of_mem h) hg
  | some r' => rw [t.eq_of_key_eq (mem_of_get? hg) h (key_of_get? hg)]

@[simp] lemma get?_empty (k : κ) : (empty : Table key).get? k = none := rfl

lemma rows_insert {t : Table key} {r : α} (h : t.get? (key r) = none) :
    (t.insert r).rows = t.rows ++ [r] := by
  rw [insert, dif_neg (get?_eq_none_iff.mp h)]

/-- What a lookup returns after a row with a fresh key is inserted. -/
lemma get?_insert {t : Table key} {r : α} (h : t.get? (key r) = none) (k : κ) :
    (t.insert r).get? k = if key r = k then some r else t.get? k := by
  rw [get?, rows_insert h, List.find?_append]
  by_cases hk : key r = k
  · subst hk
    rw [get?] at h
    simp [h]
  · simp [hk, get?]

/-- What a lookup returns after the rows meeting a condition are rewritten. -/
lemma get?_updateWhere (t : Table key) (p : α → Bool) (f : α → α)
    (hf : ∀ r, key (f r) = key r) (k : κ) :
    (t.updateWhere p f hf).get? k = (t.get? k).map fun r => if p r then f r else r := by
  rw [get?, rows_updateWhere, get?, List.find?_map]
  congr 2
  funext r
  by_cases hp : p r <;> simp [hp, hf]

/-- What a lookup returns after one row is rewritten. -/
lemma get?_updateKey (t : Table key) (k : κ) (f : α → α) (hf : ∀ r, key (f r) = key r) (k' : κ) :
    (t.updateKey k f hf).get? k' = if k' = k then (t.get? k').map f else t.get? k' := by
  rw [updateKey, get?_updateWhere]
  cases hg : t.get? k' with
  | none => simp
  | some r =>
      have hk := key_of_get? hg
      by_cases h : k' = k
      · simp [h, hk]
      · simp [h, hk]

lemma upsert_of_none {t : Table key} {r : α} {f : α → α} {hf : ∀ r, key (f r) = key r}
    (h : t.get? (key r) = none) : t.upsert r f hf = t.insert r := by
  rw [upsert, h, Option.isSome_none, if_neg Bool.false_ne_true]

lemma upsert_of_some {t : Table key} {r q : α} {f : α → α} {hf : ∀ r, key (f r) = key r}
    (h : t.get? (key r) = some q) : t.upsert r f hf = t.updateKey (key r) f hf := by
  rw [upsert, h, Option.isSome_some, if_pos rfl]

/-- What a lookup returns after an upsert. -/
lemma get?_upsert (t : Table key) (r : α) (f : α → α) (hf : ∀ r, key (f r) = key r) (k : κ) :
    (t.upsert r f hf).get? k
      = if k = key r then some ((t.get? k).elim r f) else t.get? k := by
  cases hg : t.get? (key r) with
  | none =>
      rw [upsert_of_none hg, get?_insert hg]
      by_cases h : k = key r
      · subst h; simp [hg]
      · rw [if_neg (Ne.symm h), if_neg h]
  | some r' =>
      rw [upsert_of_some hg, get?_updateKey]
      by_cases h : k = key r
      · subst h; simp [hg]
      · rw [if_neg h, if_neg h]

/-- A conditional update of one row is the update of that row when the row
meets the condition. -/
lemma updateWhere_key {t : Table key} {k : κ} {r : α} {p : α → Bool} {f : α → α}
    {hf : ∀ r, key (f r) = key r} (hr : t.get? k = some r) (hp : p r = true) :
    t.updateWhere (fun r => decide (key r = k) && p r) f hf = t.updateKey k f hf := by
  refine Table.ext ?_
  rw [updateKey, rows_updateWhere, rows_updateWhere]
  refine List.map_congr_left fun r' hr' => ?_
  by_cases hk : key r' = k
  · have : r' = r := t.eq_of_key_eq hr' (mem_of_get? hr) (hk.trans (key_of_get? hr).symm)
    simp [this, hp]
  · simp [hk]

/-- A conditional update of one row changes nothing when there is no such row
or it does not meet the condition. -/
lemma updateWhere_key_none {t : Table key} {k : κ} {p : α → Bool} {f : α → α}
    {hf : ∀ r, key (f r) = key r} (h : (t.get? k).filter p = none) :
    t.updateWhere (fun r => decide (key r = k) && p r) f hf = t := by
  refine updateWhere_eq_self fun r hr => ?_
  by_cases hk : key r = k
  · rw [← hk, get?_of_mem hr, Option.filter_eq_none_iff] at h
    simpa [hk] using h r rfl
  · simp [hk]

/-- Two updates of one row are one. -/
lemma updateKey_updateKey (t : Table key) (k : κ) (f g : α → α)
    (hf : ∀ r, key (f r) = key r) (hg : ∀ r, key (g r) = key r) :
    (t.updateKey k f hf).updateKey k g hg
      = t.updateKey k (fun r => g (f r)) (fun r => (hg _).trans (hf r)) := by
  refine Table.ext ?_
  rw [updateKey, updateKey, updateKey, rows_updateWhere, rows_updateWhere, rows_updateWhere,
    List.map_map]
  refine List.map_congr_left fun r _ => ?_
  by_cases hk : key r = k <;> simp [hk, hf]

/-- The rows with a given key that meet a condition: at most the one that the
lookup returns. -/
lemma filter_key_filter (t : Table key) (p : α → Bool) (k : κ) :
    (t.rows.filter p).filter (fun r => decide (key r = k)) = ((t.get? k).filter p).toList := by
  obtain ⟨rows, nodup⟩ := t
  induction rows with
  | nil => rfl
  | cons r rows ih =>
      rw [List.map_cons, List.nodup_cons] at nodup
      specialize ih nodup.2
      by_cases hk : key r = k
      · have hnone : (⟨rows, nodup.2⟩ : Table key).get? k = none :=
          get?_eq_none_iff.mpr (hk ▸ nodup.1)
        rw [hnone] at ih
        have hget : (⟨r :: rows, by rw [List.map_cons]; exact List.nodup_cons.mpr nodup⟩ :
            Table key).get? k = some r := by simp [get?, hk]
        rw [hget]
        by_cases hp : p r
        · simp only [List.filter_cons, hp, if_true, hk, decide_true, Option.filter_some]
          exact congrArg (r :: ·) ih
        · simp only [List.filter_cons, hp, Option.filter_some]
          exact ih
      · have hget : (⟨r :: rows, by rw [List.map_cons]; exact List.nodup_cons.mpr nodup⟩ :
            Table key).get? k = (⟨rows, nodup.2⟩ : Table key).get? k := by simp [get?, hk]
        rw [hget, ← ih]
        by_cases hp : p r <;> simp [hp, hk]

/-- An update of one row depends only on what it does to that row. -/
lemma updateKey_congr {t : Table key} {k : κ} {f g : α → α} {hf : ∀ r, key (f r) = key r}
    {hg : ∀ r, key (g r) = key r} (h : ∀ r, t.get? k = some r → f r = g r) :
    t.updateKey k f hf = t.updateKey k g hg := by
  refine Table.ext (List.map_congr_left fun r hr => ?_)
  by_cases hk : key r = k
  · simp [hk, h r (hk ▸ get?_of_mem hr)]
  · simp [hk]

end Table
