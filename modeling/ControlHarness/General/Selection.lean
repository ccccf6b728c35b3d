import ControlHarness.General.Table

/-!
The rows of a table that meet a condition, and how selecting them commutes with
the operations on tables.

* `select`: the table of the selected rows.
* `get?_select`: a lookup after a selection.
* `select_updateWhere`, `select_insert`, `select_upsert`: an operation on the
  whole table is the operation on the selected rows, or nothing where it only
  touches rows outside.
* `append?`: append rows with fresh, distinct keys, or nothing.
-/

namespace Table

variable {α κ : Type*} {key : α → κ}

/-- The table of the rows meeting a condition. -/
def select (p : α → Bool) (t : Table key) : Table key :=
  ⟨t.rows.filter p, t.nodup.sublist (List.filter_sublist.map key)⟩

@[simp] lemma rows_select (p : α → Bool) (t : Table key) :
    (t.select p).rows = t.rows.filter p := rfl

/-- A bulk update that keeps the condition. -/
lemma select_updateWhere {p : α → Bool} {t : Table key} {q : α → Bool} {f : α → α}
    {hf : ∀ r, key (f r) = key r} (hp : ∀ r, p (f r) = p r) :
    (t.updateWhere q f hf).select p = (t.select p).updateWhere q f hf := by
  refine Table.ext ?_
  rw [rows_select, rows_updateWhere, rows_updateWhere, rows_select, List.filter_map]
  congr 1
  refine List.filter_congr fun r _ => ?_
  by_cases hq : q r <;> simp [hq, hp]

/-- A bulk update of rows outside the selection. -/
lemma select_updateWhere_outside {p : α → Bool} {t : Table key} {q : α → Bool} {f : α → α}
    {hf : ∀ r, key (f r) = key r} (hp : ∀ r, p (f r) = p r)
    (hout : ∀ r ∈ t.rows, q r = true → p r = false) :
    (t.updateWhere q f hf).select p = t.select p := by
  rw [select_updateWhere hp]
  refine updateWhere_eq_self fun r hr => ?_
  obtain ⟨hmem, hpr⟩ := List.mem_filter.mp hr
  cases hq : q r with
  | false => rfl
  | true =>
      have := hout r hmem hq
      rw [hpr] at this
      exact Bool.noConfusion this

/-- A bulk update depends on its condition at the rows only. -/
lemma updateWhere_congr {t : Table key} {q q' : α → Bool} {f : α → α}
    {hf : ∀ r, key (f r) = key r} (h : ∀ r ∈ t.rows, q r = q' r) :
    t.updateWhere q f hf = t.updateWhere q' f hf := by
  refine Table.ext (List.map_congr_left fun r hr => ?_)
  rw [h r hr]

variable [DecidableEq κ]

lemma get?_select (p : α → Bool) (t : Table key) (k : κ) :
    (t.select p).get? k = (t.get? k).filter p := by
  cases hr : t.get? k with
  | none =>
      rw [Option.filter_none, get?_eq_none_iff]
      intro hk
      obtain ⟨r, hmem, rfl⟩ := List.mem_map.mp hk
      rw [get?_of_mem (List.mem_filter.mp hmem).1] at hr
      exact absurd hr (by simp)
  | some r =>
      obtain rfl := key_of_get? hr
      cases hp : p r with
      | true =>
          rw [Option.filter_some, if_pos hp]
          exact get?_of_mem (List.mem_filter.mpr ⟨mem_of_get? hr, hp⟩)
      | false =>
          rw [Option.filter_some, if_neg (by simp [hp]), get?_eq_none_iff]
          intro hk
          obtain ⟨q, hmem, hkey⟩ := List.mem_map.mp hk
          obtain ⟨hq, hpq⟩ := List.mem_filter.mp hmem
          obtain rfl : q = r := t.eq_of_key_eq hq (mem_of_get? hr) hkey
          rw [hp] at hpq
          exact Bool.noConfusion hpq

/-- An update of one row that keeps the condition. -/
lemma select_updateKey {p : α → Bool} {t : Table key} {k : κ} {f : α → α}
    {hf : ∀ r, key (f r) = key r} (hp : ∀ r, p (f r) = p r) :
    (t.updateKey k f hf).select p = (t.select p).updateKey k f hf :=
  select_updateWhere hp

/-- An update of a row outside the selection. -/
lemma select_updateKey_outside {p : α → Bool} {t : Table key} {k : κ} {f : α → α}
    {hf : ∀ r, key (f r) = key r} (hp : ∀ r, p (f r) = p r)
    (hout : (t.get? k).all (fun r => !p r) = true) :
    (t.updateKey k f hf).select p = t.select p := by
  refine select_updateWhere_outside hp fun r hr hk => ?_
  obtain rfl : key r = k := by simpa using hk
  rw [get?_of_mem hr] at hout
  simpa using hout

/-- The insertion of a row of the selection. -/
lemma select_insert {p : α → Bool} {t : Table key} {r : α} (hfresh : t.get? (key r) = none)
    (hp : p r = true) : (t.insert r).select p = (t.select p).insert r := by
  have hfresh' : (t.select p).get? (key r) = none := by rw [get?_select, hfresh]; rfl
  refine Table.ext ?_
  rw [rows_select, rows_insert hfresh, rows_insert hfresh', List.filter_append, rows_select]
  simp [hp]

/-- The insertion of a row outside the selection. -/
lemma select_insert_outside {p : α → Bool} {t : Table key} {r : α}
    (hfresh : t.get? (key r) = none) (hp : p r = false) :
    (t.insert r).select p = t.select p := by
  refine Table.ext ?_
  rw [rows_select, rows_insert hfresh, List.filter_append, rows_select]
  simp [hp]

section

variable {p : κ → Bool} {t : Table key} {r : α} {f : α → α} {hf : ∀ r, key (f r) = key r}

/-- An upsert under a key of the selection, which the keys decide. -/
lemma select_upsert (hp : p (key r) = true) :
    (t.upsert r f hf).select (p ∘ key) = (t.select (p ∘ key)).upsert r f hf := by
  have hget : (t.select (p ∘ key)).get? (key r) = t.get? (key r) := by
    rw [get?_select]
    cases hr : t.get? (key r) with
    | none => rfl
    | some q =>
        have hkey : key q = key r := key_of_get? hr
        rw [Option.filter_some, if_pos]
        rw [Function.comp_apply, hkey, hp]
  rw [upsert, upsert, hget]
  split
  · exact select_updateKey fun q => by rw [Function.comp_apply, Function.comp_apply, hf]
  · rename_i hnone
    refine select_insert ?_ hp
    simpa using hnone

/-- An upsert under a key outside the selection. -/
lemma select_upsert_outside (hp : p (key r) = false) :
    (t.upsert r f hf).select (p ∘ key) = t.select (p ∘ key) := by
  rw [upsert]
  split
  · refine select_updateKey_outside (fun q => by rw [Function.comp_apply, Function.comp_apply, hf])
      ?_
    cases hr : t.get? (key r) with
    | none => rfl
    | some q =>
        have hkey : key q = key r := key_of_get? hr
        rw [Option.all_some, Function.comp_apply, hkey, hp]
        rfl
  · rename_i hnone
    exact select_insert_outside (by simpa using hnone) hp

end

/-! ### Several rows at once -/

/-- Append rows whose keys are fresh and distinct. -/
def append? (t : Table key) (rows : List α) : Option (Table key) :=
  if h : ((t.rows ++ rows).map key).Nodup then some ⟨t.rows ++ rows, h⟩ else none

lemma append?_eq_some {t u : Table key} {rows : List α} :
    t.append? rows = some u ↔ u.rows = t.rows ++ rows := by
  rw [append?]
  split
  · rw [Option.some.injEq]
    exact ⟨fun h => h ▸ rfl, fun h => Table.ext h.symm⟩
  · rename_i hdup
    exact ⟨fun h => absurd h (by simp), fun h => absurd (h ▸ u.nodup) hdup⟩

/-- Rows with fresh and distinct keys can be appended. -/
lemma append?_isSome {t : Table key} {rows : List α} (hdistinct : (rows.map key).Nodup)
    (hfresh : ∀ r ∈ rows, t.get? (key r) = none) : (t.append? rows).isSome = true := by
  have hnodup : ((t.rows ++ rows).map key).Nodup := by
    rw [List.map_append, List.nodup_append]
    refine ⟨t.nodup, hdistinct, fun a ha b hb hab => ?_⟩
    obtain ⟨r, hr, rfl⟩ := List.mem_map.mp hb
    exact get?_eq_none_iff.mp (hfresh r hr) (hab ▸ ha)
  rw [append?, dif_pos hnodup]
  rfl

/-- The first of several rows to append has a fresh key, and the others can be
appended after it. -/
lemma append?_cons {t u : Table key} {r : α} {rows : List α}
    (h : t.append? (r :: rows) = some u) :
    t.get? (key r) = none ∧ (t.insert r).append? rows = some u := by
  rw [append?_eq_some] at h
  have hnodup := u.nodup
  rw [h, List.map_append, List.map_cons, List.nodup_append] at hnodup
  have hfresh : t.get? (key r) = none := by
    rw [get?_eq_none_iff]
    intro hmem
    exact hnodup.2.2 _ hmem _ List.mem_cons_self rfl
  refine ⟨hfresh, ?_⟩
  rw [append?_eq_some, h, rows_insert hfresh, List.append_assoc, List.singleton_append]

/-- The selection of appended rows. -/
lemma select_append? {p : α → Bool} {t u : Table key} {rows : List α}
    (h : t.append? rows = some u) : (t.select p).append? (rows.filter p) = some (u.select p) := by
  rw [append?_eq_some] at h ⊢
  rw [rows_select, rows_select, h, List.filter_append]

end Table
