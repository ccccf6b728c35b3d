import Mathlib.Data.List.Sort
import Mathlib.Tactic

/-!
Sorted lists, and lists whose elements have keys.

* `insertionSort_eq_of_perm`: the sorted list depends on the elements and not on their
  order; `map_insertionSort_eq_of_keys` says so of rows that are sorted by a key and then
  read.
* `eq_of_perm_of_keys`: keys in the same places decide between permutations.
* `forall₂_of_map_eq`, `exists_perm_of_map`: lists with equal images, and with images that
  permute each other.
-/

namespace List

/-- **Sorting forgets the order** of a list in which no two elements go both ways. -/
lemma insertionSort_eq_of_perm {α : Type*} {r : α → α → Prop} [DecidableRel r] [Std.Total r]
    [IsTrans α r] {l l' : List α} (hanti : ∀ a ∈ l, ∀ b ∈ l, r a b → r b a → a = b)
    (h : l.Perm l') : l.insertionSort r = l'.insertionSort r := by
  refine Perm.eq_of_pairwise (fun a b ha hb => ?_) (pairwise_insertionSort r l)
    (pairwise_insertionSort r l')
    ((perm_insertionSort r l).trans (h.trans (perm_insertionSort r l').symm))
  rw [mem_insertionSort] at ha hb
  exact hanti a ha b (h.mem_iff.mpr hb)

/-- Lists with the same keys, each once, are equal when one permutes the other. -/
lemma eq_of_perm_of_keys {α β : Type*} {l l' : List (α × β)}
    (hkeys : l.map Prod.fst = l'.map Prod.fst) (hnodup : (l.map Prod.fst).Nodup)
    (h : l.Perm l') : l = l' := by
  induction l generalizing l' with
  | nil => exact h.nil_eq
  | cons a l ih =>
      cases l' with
      | nil => exact absurd h.symm.nil_eq (cons_ne_nil a l).symm
      | cons b l' =>
          rw [map_cons, map_cons] at hkeys
          obtain ⟨hab, hrest⟩ := cons.inj hkeys
          rw [map_cons, nodup_cons] at hnodup
          have hmem : a ∈ b :: l' := h.subset mem_cons_self
          rcases mem_cons.mp hmem with rfl | ha
          · rw [ih hrest hnodup.2 h.cons_inv]
          · exact absurd (hrest ▸ mem_map_of_mem ha) hnodup.1

/-- Lists with equal images, element by element. -/
lemma forall₂_of_map_eq {α β : Type*} {g : α → β} {R : α → α → Prop} {l l' : List α}
    (hR : ∀ a ∈ l, ∀ b, g a = g b → R a b) (h : l.map g = l'.map g) : Forall₂ R l l' := by
  induction l generalizing l' with
  | nil => rw [map_eq_nil_iff.mp h.symm]; exact Forall₂.nil
  | cons a l ih =>
      cases l' with
      | nil => exact absurd h (cons_ne_nil _ _)
      | cons b l' =>
          obtain ⟨hab, hrest⟩ := cons.inj h
          exact Forall₂.cons (hR a mem_cons_self b hab)
            (ih (fun c hc => hR c (mem_cons_of_mem a hc)) hrest)

/-- A permutation of images is one of the elements up to equal images. -/
lemma exists_perm_of_map {α β : Type*} {g : α → β} {l l' : List α}
    (h : (l.map g).Perm (l'.map g)) : ∃ m : List α, l.map g = m.map g ∧ m.Perm l' :=
  (congrFun (congrFun (eq_map_comp_perm g) (l.map g)) l').mpr h

/-- **Rows sorted by a key** read the same when they are the same rows as far as their
keys and what is read of them go. -/
lemma map_insertionSort_eq_of_keys {α κ γ : Type*} {key : α → κ} {N : α → γ}
    (le : κ → κ → Prop) [DecidableRel le] [Std.Total le] [IsTrans κ le] [Std.Antisymm le]
    {l l' : List α} (hl : (l.map key).Nodup) (hl' : (l'.map key).Nodup)
    (h : ∀ x, x ∈ l.map (fun a => (key a, N a)) ↔ x ∈ l'.map fun a => (key a, N a)) :
    (l.insertionSort fun a b => le (key a) (key b)).map N =
      (l'.insertionSort fun a b => le (key a) (key b)).map N := by
  let pairLe (x y : κ × γ) : Prop := le x.1 y.1
  have : DecidableRel pairLe := fun x y => inferInstanceAs (Decidable (le x.1 y.1))
  have : Std.Total pairLe := ⟨fun x y => Std.Total.total x.1 y.1⟩
  have : IsTrans (κ × γ) pairLe := ⟨fun x y z => IsTrans.trans x.1 y.1 z.1⟩
  have hnodup : ∀ {m : List α}, (m.map key).Nodup →
      ((m.map fun a => (key a, N a)).map Prod.fst).Nodup := fun hm => by
    rw [map_map]
    exact hm
  have hperm : (l.map fun a => (key a, N a)).Perm (l'.map fun a => (key a, N a)) :=
    (perm_ext_iff_of_nodup (hnodup hl).of_map (hnodup hl').of_map).mpr h
  have hanti : ∀ x ∈ l.map (fun a => (key a, N a)), ∀ y ∈ l.map (fun a => (key a, N a)),
      pairLe x y → pairLe y x → x = y := fun x hx y hy hxy hyx =>
    inj_on_of_nodup_map (hnodup hl) hx hy (Std.Antisymm.antisymm _ _ hxy hyx)
  have hsort := insertionSort_eq_of_perm hanti hperm
  have hread : ∀ m : List α,
      (m.insertionSort fun a b => le (key a) (key b)).map N =
        ((m.map fun a => (key a, N a)).insertionSort pairLe).map Prod.snd := by
    intro m
    rw [← map_insertionSort (fun a b => le (key a) (key b)) pairLe _ m fun _ _ _ _ => Iff.rfl,
      map_map]
    rfl
  rw [hread, hread, hsort]

end List
