import Mathlib.Data.List.Sort
import Mathlib.Tactic

/-!
Totals by key.

A loop reads entries and keeps one total for each key, in the order in which the
keys appear; an entry without a key is skipped. What the loop ends with does not
depend on how it got there: one total for each key that occurs, the fold of the
entries with that key (`perm_totals`).

* `Tally`: how an entry is counted; `step` is the body of the loop, `totals` its
  result and `total` the fold for one key.
* `perm_of_perm`: the order of the entries does not matter up to the order of the
  totals, if it does not matter for a single total.
* `sum_totals`: a count of the entries in every total adds up to the number of the
  entries with a key.
-/

/-- How entries are counted by key. -/
structure Tally (α κ τ : Type*) where
  /-- The key of an entry, if it is counted. -/
  keyOf : α → Option κ
  /-- The key of a total. -/
  key : τ → κ
  /-- The total of no entries. -/
  new : κ → τ
  /-- Count an entry. -/
  add : τ → α → τ
  key_new : ∀ k, key (new k) = k
  key_add : ∀ t a, key (add t a) = key t

namespace Tally

variable {α κ τ : Type*} [DecidableEq κ] (T : Tally α κ τ)

/-- The body of the loop. -/
def step (totals : List τ) (a : α) : List τ :=
  match T.keyOf a with
  | none => totals
  | some k =>
    if totals.any fun t => T.key t = k then
      totals.map fun t => if T.key t = k then T.add t a else t
    else totals ++ [T.add (T.new k) a]

/-- The totals of the entries. -/
def totals (entries : List α) : List τ := entries.foldl T.step []

/-- The keys of the entries. -/
def keys (entries : List α) : List κ := entries.filterMap T.keyOf

/-- The total of one key. -/
def total (entries : List α) (k : κ) : τ :=
  (entries.filter fun a => T.keyOf a = some k).foldl T.add (T.new k)

variable {T} {entries : List α} {a : α} {k : κ} {t : τ}

@[simp] lemma key_total : T.key (T.total entries k) = k := by
  rw [total]
  induction entries.filter fun a => T.keyOf a = some k using List.reverseRecOn with
  | nil => exact T.key_new k
  | append_singleton l a ih => rw [List.foldl_concat, T.key_add, ih]

omit [DecidableEq κ] in
lemma mem_keys_of_keyOf (ha : a ∈ entries) (hk : T.keyOf a = some k) : k ∈ T.keys entries :=
  List.mem_filterMap.mpr ⟨a, ha, hk⟩

omit [DecidableEq κ] in
lemma keys_concat_some (h : T.keyOf a = some k) :
    T.keys (entries ++ [a]) = T.keys entries ++ [k] := by
  rw [keys, List.filterMap_append, List.filterMap_cons_some h, List.filterMap_nil, ← keys]

omit [DecidableEq κ] in
lemma keys_concat_none (h : T.keyOf a = none) : T.keys (entries ++ [a]) = T.keys entries := by
  rw [keys, List.filterMap_append, List.filterMap_cons_none h, List.filterMap_nil,
    List.append_nil, ← keys]

/-- The total of the key of a new entry. -/
lemma total_concat_self (h : T.keyOf a = some k) :
    T.total (entries ++ [a]) k = T.add (T.total entries k) a := by
  rw [total, List.filter_append, List.filter_singleton, h, decide_eq_true rfl, cond_true,
    List.foldl_concat, total]

/-- The total of another key. -/
lemma total_concat_of_ne (h : T.keyOf a ≠ some k) :
    T.total (entries ++ [a]) k = T.total entries k := by
  rw [total, List.filter_append, List.filter_singleton, decide_eq_false h, cond_false,
    List.append_nil, total]

/-- A key that does not occur has the empty total. -/
lemma total_of_notMem (h : k ∉ T.keys entries) : T.total entries k = T.new k := by
  have hnone : (entries.filter fun a => T.keyOf a = some k) = [] := by
    rw [List.filter_eq_nil_iff]
    intro a ha hk
    exact h (mem_keys_of_keyOf ha (of_decide_eq_true hk))
  rw [total, hnone, List.foldl_nil]

/-- **What the loop keeps**: the totals are those of the keys that occurred, each
once. -/
structure Counted (T : Tally α κ τ) (entries : List α) (totals : List τ) : Prop where
  nodup : (totals.map T.key).Nodup
  mem_iff : ∀ t, t ∈ totals ↔ T.key t ∈ T.keys entries ∧ t = T.total entries (T.key t)

/-- A total is at hand for a key exactly when the key occurred. -/
lemma Counted.any_iff {totals : List τ} (h : T.Counted entries totals) :
    (totals.any fun t => T.key t = k) = true ↔ k ∈ T.keys entries := by
  rw [List.any_eq_true]
  constructor
  · rintro ⟨t, ht, hk⟩
    obtain rfl := of_decide_eq_true hk
    exact ((h.mem_iff t).mp ht).1
  · intro hk
    have hmem : T.total entries k ∈ totals := (h.mem_iff _).mpr (by simpa using hk)
    exact ⟨_, hmem, decide_eq_true key_total⟩

/-- A key that occurred before: its total counts the entry. -/
lemma Counted.update {totals : List τ} (h : T.Counted entries totals)
    (ha : T.keyOf a = some k) (hk : k ∈ T.keys entries) :
    T.Counted (entries ++ [a]) (totals.map fun t => if T.key t = k then T.add t a else t) := by
  have hkeys : ∀ k', k' ∈ T.keys (entries ++ [a]) ↔ k' ∈ T.keys entries := by
    intro k'
    rw [keys_concat_some ha, List.mem_append, List.mem_singleton]
    exact or_iff_left_of_imp fun hk' => hk' ▸ hk
  have hkey : ∀ t, T.key (if T.key t = k then T.add t a else t) = T.key t := by
    intro t
    split
    · exact T.key_add t a
    · rfl
  constructor
  · have hsame : (totals.map fun t => if T.key t = k then T.add t a else t).map T.key
        = totals.map T.key := by
      rw [List.map_map]
      exact List.map_congr_left fun t _ => hkey t
    rw [hsame]
    exact h.nodup
  · -- an old total is counted further when its key is that of the entry
    have hnext : ∀ k', (if k' = k then T.add (T.total entries k') a else T.total entries k')
        = T.total (entries ++ [a]) k' := by
      intro k'
      split
      · rename_i heq
        obtain rfl := heq
        exact (total_concat_self ha).symm
      · rename_i hne
        refine (total_concat_of_ne fun heq => hne ?_).symm
        exact Option.some.inj (heq.symm.trans ha)
    intro t
    rw [List.mem_map, hkeys]
    constructor
    · rintro ⟨t, ht, rfl⟩
      obtain ⟨hmem, htotal⟩ := (h.mem_iff t).mp ht
      rw [hkey]
      refine ⟨hmem, ?_⟩
      rw [← hnext, ← htotal]
    · rintro ⟨hmem, htotal⟩
      refine ⟨T.total entries (T.key t), (h.mem_iff _).mpr (by simpa using hmem), ?_⟩
      rw [key_total, hnext, ← htotal]

/-- A key that occurs for the first time: it gets a total of its own. -/
lemma Counted.insert {totals : List τ} (h : T.Counted entries totals)
    (ha : T.keyOf a = some k) (hk : k ∉ T.keys entries) :
    T.Counted (entries ++ [a]) (totals ++ [T.add (T.new k) a]) := by
  have hkey : T.key (T.add (T.new k) a) = k := (T.key_add _ a).trans (T.key_new k)
  have hself : T.total (entries ++ [a]) k = T.add (T.new k) a := by
    rw [total_concat_self ha, total_of_notMem hk]
  have hother : ∀ k' ∈ T.keys entries, T.total (entries ++ [a]) k' = T.total entries k' := by
    intro k' hk'
    refine total_concat_of_ne fun heq => hk ?_
    rwa [← Option.some.inj (heq.symm.trans ha)]
  constructor
  · rw [List.map_append, List.map_singleton, hkey, List.nodup_append]
    refine ⟨h.nodup, List.nodup_singleton k, ?_⟩
    intro k' hk' _ hlast heq
    obtain rfl := List.mem_singleton.mp hlast
    obtain ⟨t, ht, rfl⟩ := List.mem_map.mp hk'
    exact hk (heq ▸ ((h.mem_iff t).mp ht).1)
  · intro t
    rw [List.mem_append, List.mem_singleton, keys_concat_some ha, List.mem_append,
      List.mem_singleton, h.mem_iff]
    constructor
    · rintro (⟨hmem, htotal⟩ | rfl)
      · exact ⟨Or.inl hmem, by rw [hother _ hmem, ← htotal]⟩
      · exact ⟨Or.inr hkey, by rw [hkey, hself]⟩
    · rintro ⟨hmem | hlast, htotal⟩
      · rw [hother _ hmem] at htotal
        exact Or.inl ⟨hmem, htotal⟩
      · rw [hlast, hself] at htotal
        exact Or.inr htotal

/-- One round of the loop. -/
lemma Counted.step {totals : List τ} (h : T.Counted entries totals) (a : α) :
    T.Counted (entries ++ [a]) (T.step totals a) := by
  rw [Tally.step]
  split
  · rename_i hnone
    refine ⟨h.nodup, fun t => ?_⟩
    rw [keys_concat_none hnone, total_concat_of_ne (by simp [hnone])]
    exact h.mem_iff t
  · rename_i k hsome
    split
    · rename_i hany
      exact h.update hsome (h.any_iff.mp hany)
    · rename_i hany
      exact h.insert hsome fun hk => hany (h.any_iff.mpr hk)

/-- **What the loop ends with.** -/
lemma counted_totals (entries : List α) : T.Counted entries (T.totals entries) := by
  induction entries using List.reverseRecOn with
  | nil => exact ⟨List.nodup_nil, by simp [totals, keys]⟩
  | append_singleton l a ih =>
      rw [totals, List.foldl_concat]
      exact ih.step a

/-- The totals are those of the keys that occur. -/
lemma perm_totals (entries : List α) :
    (T.totals entries).Perm ((T.keys entries).dedup.map (T.total entries)) := by
  have hcounted := counted_totals (T := T) entries
  have hinj : Function.Injective (T.total entries) :=
    fun k k' h => by simpa using congrArg T.key h
  rw [List.perm_ext_iff_of_nodup hcounted.nodup.of_map ((List.nodup_dedup _).map hinj)]
  intro t
  rw [hcounted.mem_iff, List.mem_map]
  constructor
  · rintro ⟨hkey, htotal⟩
    exact ⟨T.key t, List.mem_dedup.mpr hkey, htotal.symm⟩
  · rintro ⟨k, hk, rfl⟩
    rw [key_total]
    exact ⟨List.mem_dedup.mp hk, rfl⟩

/-- The order of the entries matters for the order of the totals at most. -/
lemma perm_of_perm [RightCommutative T.add] {entries' : List α} (h : entries.Perm entries') :
    (T.totals entries).Perm (T.totals entries') := by
  have htotal : T.total entries = T.total entries' := funext fun k => (h.filter _).foldl_eq _
  calc T.totals entries
      |>.Perm ((T.keys entries).dedup.map (T.total entries)) := perm_totals entries
    _ |>.Perm ((T.keys entries').dedup.map (T.total entries')) := by
        rw [htotal]
        exact ((h.filterMap _).dedup).map _
    _ |>.Perm (T.totals entries') := (perm_totals entries').symm

/-- A property that counting keeps holds of every total. -/
lemma forall_totals {P : τ → Prop} (hnew : ∀ k, P (T.new k)) (hadd : ∀ t a, P t → P (T.add t a)) :
    ∀ t ∈ T.totals entries, P t := by
  intro t ht
  rw [((counted_totals entries).mem_iff t).mp ht |>.2, total]
  induction entries.filter fun a => T.keyOf a = some (T.key t) using List.reverseRecOn with
  | nil => exact hnew _
  | append_singleton l a ih =>
      rw [List.foldl_concat]
      exact hadd _ a ih

/-- A count of the entries in a total is the number of the entries with its key. -/
lemma count_total {count : τ → ℕ} (hnew : ∀ k, count (T.new k) = 0)
    (hadd : ∀ t a, count (T.add t a) = count t + 1) (entries : List α) (k : κ) :
    count (T.total entries k) = (T.keys entries).count k := by
  induction entries using List.reverseRecOn with
  | nil => exact hnew k
  | append_singleton l a ih =>
      by_cases ha : T.keyOf a = some k
      · rw [total_concat_self ha, hadd, ih, keys_concat_some ha, List.count_append,
          List.count_singleton_self]
      · rw [total_concat_of_ne ha, ih]
        cases hkey : T.keyOf a with
        | none => rw [keys_concat_none hkey]
        | some k' =>
            have hne : k' ≠ k := fun heq => ha (hkey.trans (congrArg some heq))
            rw [keys_concat_some hkey, List.count_append, List.count_singleton,
              beq_false_of_ne hne, if_neg Bool.false_ne_true, Nat.add_zero]

/-- **No entry is lost or counted twice.** -/
lemma sum_totals {count : τ → ℕ} (hnew : ∀ k, count (T.new k) = 0)
    (hadd : ∀ t a, count (T.add t a) = count t + 1) (entries : List α) :
    ((T.totals entries).map count).sum = (T.keys entries).length := by
  calc ((T.totals entries).map count).sum
      = (((T.keys entries).dedup.map (T.total entries)).map count).sum :=
        ((perm_totals entries).map count).sum_eq
    _ = ((T.keys entries).dedup.map fun k => (T.keys entries).count k).sum := by
        rw [List.map_map]
        exact congrArg List.sum (List.map_congr_left fun k _ => count_total hnew hadd entries k)
    _ = (T.keys entries).length := List.sum_map_count_dedup_eq_length _

end Tally
