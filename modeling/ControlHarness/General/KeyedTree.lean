import ControlHarness.General.Sorting

/-!
Trees of lists and of keyed members, such as the values of JSON.

Two trees are the same when they differ only in the order of members. Sorting the
members by their keys, everywhere in a tree, is a normal form for that relation.

* `KeyedTree`, `KeyedTree.ind`: the trees and their induction.
* `KeyedTree.Unique`: no key occurs twice in one place.
* `map`, `mapSorted`: a function on the leaves, without and with the sorting.
* `Same`: the equivalence that the reordering of members generates.
* `mapSorted_eq_iff`: sorted images under an injective function are equal for the same
  trees and for no others.
-/

/-- A leaf, a list of trees, or trees under keys. -/
inductive KeyedTree (K L : Type) where
  | leaf (value : L)
  | list (items : List (KeyedTree K L))
  | dict (members : List (K × KeyedTree K L))

namespace KeyedTree

variable {K L M N : Type}

/-- Induction over the items and the members. -/
@[elab_as_elim]
theorem ind {motive : KeyedTree K L → Prop} (leaf : ∀ l, motive (.leaf l))
    (list : ∀ items, (∀ t ∈ items, motive t) → motive (.list items))
    (dict : ∀ members, (∀ m ∈ members, motive m.2) → motive (.dict members)) :
    ∀ t, motive t
  | .leaf l => leaf l
  | .list items => list items fun t ht =>
      have hlt : sizeOf t < sizeOf (KeyedTree.list (K := K) items) :=
        (List.sizeOf_lt_of_mem ht).trans (by simp)
      ind leaf list dict t
  | .dict members => dict members fun m hm =>
      have hlt : sizeOf m.2 < 1 + sizeOf members := by
        have hmem := List.sizeOf_lt_of_mem hm
        cases m
        simp only [Prod.mk.sizeOf_spec] at hmem ⊢
        omega
      ind leaf list dict m.2
termination_by t => sizeOf t

/-- No key occurs twice in one place. -/
inductive Unique : KeyedTree K L → Prop
  | leaf (l : L) : Unique (leaf l)
  | list {items : List (KeyedTree K L)} : (∀ t ∈ items, Unique t) → Unique (list items)
  | dict {members : List (K × KeyedTree K L)} :
      (members.map Prod.fst).Nodup → (∀ m ∈ members, Unique m.2) → Unique (dict members)

/-- The equivalence of reordered members, anywhere in a tree. -/
inductive Same : KeyedTree K L → KeyedTree K L → Prop
  | refl (t : KeyedTree K L) : Same t t
  | symm {t u : KeyedTree K L} : Same t u → Same u t
  | trans {t u v : KeyedTree K L} : Same t u → Same u v → Same t v
  | item {t u : KeyedTree K L} (pre post : List (KeyedTree K L)) :
      Same t u → Same (list (pre ++ t :: post)) (list (pre ++ u :: post))
  | member {t u : KeyedTree K L} (pre post : List (K × KeyedTree K L)) (k : K) :
      Same t u → Same (dict (pre ++ (k, t) :: post)) (dict (pre ++ (k, u) :: post))
  | reorder {m m' : List (K × KeyedTree K L)} : m.Perm m' → Same (dict m) (dict m')

mutual

/-- A function on the leaves. -/
def map (f : L → M) : KeyedTree K L → KeyedTree K M
  | leaf l => leaf (f l)
  | list items => list (mapItems f items)
  | dict members => dict (mapMembers f members)

/-- `map` on items. -/
def mapItems (f : L → M) : List (KeyedTree K L) → List (KeyedTree K M)
  | [] => []
  | t :: items => map f t :: mapItems f items

/-- `map` on members. -/
def mapMembers (f : L → M) : List (K × KeyedTree K L) → List (K × KeyedTree K M)
  | [] => []
  | (k, t) :: members => (k, map f t) :: mapMembers f members

end

lemma mapItems_eq_map (f : L → M) (items : List (KeyedTree K L)) :
    mapItems f items = items.map (map f) := by
  induction items with
  | nil => rfl
  | cons t items ih => rw [mapItems, ih, List.map_cons]

lemma mapMembers_eq_map (f : L → M) (members : List (K × KeyedTree K L)) :
    mapMembers f members = members.map fun m => (m.1, map f m.2) := by
  induction members with
  | nil => rfl
  | cons m members ih => rw [mapMembers, ih, List.map_cons]

/-! ### Reordering -/

lemma unique_list {items : List (KeyedTree K L)} :
    Unique (list items) ↔ ∀ t ∈ items, Unique t := by
  constructor
  · rintro (_ | hitems)
    exact hitems
  · exact Unique.list

lemma unique_dict {members : List (K × KeyedTree K L)} :
    Unique (dict members) ↔ (members.map Prod.fst).Nodup ∧ ∀ m ∈ members, Unique m.2 := by
  constructor
  · rintro (_ | _ | ⟨hkeys, hmembers⟩)
    exact ⟨hkeys, hmembers⟩
  · exact fun h => Unique.dict h.1 h.2

/-- Reordering keeps the keys unique. -/
lemma Same.unique_iff {t u : KeyedTree K L} (h : Same t u) : Unique t ↔ Unique u := by
  induction h with
  | refl t => exact Iff.rfl
  | symm _ ih => exact ih.symm
  | trans _ _ ih ih' => exact ih.trans ih'
  | item pre post _ ih =>
      simp only [unique_list, List.forall_mem_append, List.forall_mem_cons, ih]
  | member pre post k _ ih =>
      simp only [unique_dict, List.map_append, List.map_cons, List.forall_mem_append,
        List.forall_mem_cons, ih]
  | reorder hperm =>
      rw [unique_dict, unique_dict, (hperm.map Prod.fst).nodup_iff]
      exact and_congr_right fun _ => forall_congr' fun m => by rw [hperm.mem_iff]

/-- Lists with the same items, one by one. -/
lemma Same.list_of_forall₂ {items items' : List (KeyedTree K L)}
    (h : List.Forall₂ Same items items') (pre : List (KeyedTree K L)) :
    Same (list (pre ++ items)) (list (pre ++ items')) := by
  induction h generalizing pre with
  | nil => exact Same.refl _
  | @cons t u items items' htu _ ih =>
      have hrest := ih (pre ++ [u])
      rw [List.append_assoc, List.append_assoc] at hrest
      exact (Same.item pre items htu).trans hrest

/-- Members with the same keys and trees, one by one. -/
lemma Same.dict_of_forall₂ {members members' : List (K × KeyedTree K L)}
    (h : List.Forall₂ (fun m m' => m.1 = m'.1 ∧ Same m.2 m'.2) members members')
    (pre : List (K × KeyedTree K L)) :
    Same (dict (pre ++ members)) (dict (pre ++ members')) := by
  induction h generalizing pre with
  | nil => exact Same.refl _
  | @cons m m' members members' hm _ ih =>
      obtain ⟨k, t⟩ := m
      obtain ⟨k', u⟩ := m'
      obtain ⟨rfl, htu⟩ := hm
      have hrest := ih (pre ++ [(k, u)])
      rw [List.append_assoc, List.append_assoc] at hrest
      exact (Same.member pre members k htu).trans hrest

section Sorted

variable [LinearOrder K]

/-- The order of the keys. -/
def keyLe (m m' : K × KeyedTree K L) : Prop := m.1 ≤ m'.1

instance : DecidableRel (keyLe (K := K) (L := L)) := fun m m' =>
  inferInstanceAs (Decidable (m.1 ≤ m'.1))

instance : Std.Total (keyLe (K := K) (L := L)) := ⟨fun m m' => le_total m.1 m'.1⟩

instance : IsTrans (K × KeyedTree K L) keyLe := ⟨fun _ _ _ => le_trans⟩

/-- The members in the order of their keys. -/
def sortMembers (members : List (K × KeyedTree K L)) : List (K × KeyedTree K L) :=
  members.insertionSort keyLe

mutual

/-- A function on the leaves, with all members in the order of their keys. -/
def mapSorted (f : L → M) : KeyedTree K L → KeyedTree K M
  | leaf l => leaf (f l)
  | list items => list (sortedItems f items)
  | dict members => dict (sortMembers (sortedMembers f members))

/-- `mapSorted` on items. -/
def sortedItems (f : L → M) : List (KeyedTree K L) → List (KeyedTree K M)
  | [] => []
  | t :: items => mapSorted f t :: sortedItems f items

/-- `mapSorted` on members, in the order they have. -/
def sortedMembers (f : L → M) : List (K × KeyedTree K L) → List (K × KeyedTree K M)
  | [] => []
  | (k, t) :: members => (k, mapSorted f t) :: sortedMembers f members

end

lemma sortedItems_eq_map (f : L → M) (items : List (KeyedTree K L)) :
    sortedItems f items = items.map (mapSorted f) := by
  induction items with
  | nil => rfl
  | cons t items ih => rw [sortedItems, ih, List.map_cons]

lemma sortedMembers_eq_map (f : L → M) (members : List (K × KeyedTree K L)) :
    sortedMembers f members = members.map fun m => (m.1, mapSorted f m.2) := by
  induction members with
  | nil => rfl
  | cons m members ih => rw [sortedMembers, ih, List.map_cons]

@[simp] lemma mapSorted_leaf (f : L → M) (l : L) :
    mapSorted f (leaf l : KeyedTree K L) = leaf (f l) := by
  rw [mapSorted]

@[simp] lemma mapSorted_list (f : L → M) (items : List (KeyedTree K L)) :
    mapSorted f (list items) = list (items.map (mapSorted f)) := by
  rw [mapSorted, sortedItems_eq_map]

@[simp] lemma mapSorted_dict (f : L → M) (members : List (K × KeyedTree K L)) :
    mapSorted f (dict members) =
      dict (sortMembers (members.map fun m => (m.1, mapSorted f m.2))) := by
  rw [mapSorted, sortedMembers_eq_map]

lemma sortMembers_map (g : KeyedTree K L → KeyedTree K M) (members : List (K × KeyedTree K L)) :
    (sortMembers members).map (fun m => (m.1, g m.2)) =
      sortMembers (members.map fun m => (m.1, g m.2)) :=
  List.map_insertionSort _ _ _ members fun _ _ _ _ => Iff.rfl

lemma sortMembers_perm (members : List (K × KeyedTree K L)) :
    (sortMembers members).Perm members :=
  List.perm_insertionSort keyLe members

lemma sortMembers_sortMembers (members : List (K × KeyedTree K L)) :
    sortMembers (sortMembers members) = sortMembers members :=
  (List.pairwise_insertionSort keyLe members).insertionSort_eq

/-- A sorted image of an image. -/
lemma mapSorted_map (f : L → M) (g : M → N) (t : KeyedTree K L) :
    mapSorted g (map f t) = mapSorted (g ∘ f) t := by
  induction t using ind with
  | leaf l => simp [map]
  | list items ih =>
      rw [map, mapItems_eq_map, mapSorted_list, mapSorted_list, List.map_map]
      exact congrArg list (List.map_congr_left ih)
  | dict members ih =>
      rw [map, mapMembers_eq_map, mapSorted_dict, mapSorted_dict, List.map_map]
      have hmembers : ∀ m ∈ members,
          ((m.1, mapSorted g (map f m.2)) : K × KeyedTree K N) =
            (m.1, mapSorted (g ∘ f) m.2) := fun m hm => by rw [ih m hm]
      exact congrArg (dict ∘ sortMembers) (List.map_congr_left hmembers)

/-- Sorting again changes nothing. -/
lemma mapSorted_mapSorted (f : L → M) (g : M → N) (t : KeyedTree K L) :
    mapSorted g (mapSorted f t) = mapSorted (g ∘ f) t := by
  induction t using ind with
  | leaf l => simp
  | list items ih =>
      simp only [mapSorted_list, List.map_map]
      exact congrArg list (List.map_congr_left ih)
  | dict members ih =>
      simp only [mapSorted_dict]
      rw [sortMembers_map, sortMembers_sortMembers, List.map_map]
      have hmembers : ∀ m ∈ members,
          ((m.1, mapSorted g (mapSorted f m.2)) : K × KeyedTree K N) =
            (m.1, mapSorted (g ∘ f) m.2) := fun m hm => by rw [ih m hm]
      exact congrArg (dict ∘ sortMembers) (List.map_congr_left hmembers)

/-! ### The normal form -/

/-- The same trees have one sorted image. -/
lemma Same.mapSorted_eq {t u : KeyedTree K L} (f : L → M) (h : Same t u) (ht : Unique t) :
    mapSorted f t = mapSorted f u := by
  induction h with
  | refl t => rfl
  | symm h ih => exact (ih (h.unique_iff.mpr ht)).symm
  | trans h _ ih ih' => exact (ih ht).trans (ih' (h.unique_iff.mp ht))
  | item pre post _ ih =>
      simp only [unique_list, List.forall_mem_append, List.forall_mem_cons] at ht
      simp only [mapSorted_list, List.map_append, List.map_cons, ih ht.2.1]
  | member pre post k _ ih =>
      simp only [unique_dict, List.forall_mem_append, List.forall_mem_cons] at ht
      simp only [mapSorted_dict, List.map_append, List.map_cons, ih ht.2.2.1]
  | @reorder m m' hperm =>
      obtain ⟨hkeys, -⟩ := unique_dict.mp ht
      rw [mapSorted_dict, mapSorted_dict]
      have hnodup : ((m.map fun e => (e.1, mapSorted f e.2)).map Prod.fst).Nodup := by
        rw [List.map_map]
        exact hkeys
      have hanti := fun a ha b hb hab hba =>
        List.inj_on_of_nodup_map hnodup (x := a) ha (y := b) hb (le_antisymm hab hba)
      exact congrArg dict (List.insertionSort_eq_of_perm hanti (hperm.map _))

/-- The images of the members permute each other. -/
lemma perm_of_mapSorted_dict_eq {f : L → M} {members members' : List (K × KeyedTree K L)}
    (h : mapSorted f (dict members) = mapSorted f (dict members')) :
    (members.map fun m => (m.1, mapSorted f m.2)).Perm
      (members'.map fun m => (m.1, mapSorted f m.2)) := by
  simp only [mapSorted_dict, dict.injEq] at h
  exact (sortMembers_perm _).symm.trans (h ▸ sortMembers_perm _)

/-- Trees with one sorted image are the same. -/
lemma same_of_mapSorted_eq {f : L → M} (hf : Function.Injective f) {t u : KeyedTree K L}
    (h : mapSorted f t = mapSorted f u) : Same t u := by
  induction t using ind generalizing u with
  | leaf l =>
      cases u with
      | leaf l' =>
          simp only [mapSorted_leaf, leaf.injEq] at h
          rw [hf h]
          exact Same.refl _
      | list items => simp at h
      | dict members => simp at h
  | list items ih =>
      cases u with
      | leaf l' => simp at h
      | list items' =>
          simp only [mapSorted_list, list.injEq] at h
          exact Same.list_of_forall₂ (List.forall₂_of_map_eq (fun t ht u => ih t ht) h) []
      | dict members => simp at h
  | dict members ih =>
      cases u with
      | leaf l' => simp at h
      | list items => simp at h
      | dict members' =>
          -- the images permute each other, so the members do up to equal images
          obtain ⟨members'', himage, hperm'⟩ :=
            List.exists_perm_of_map (perm_of_mapSorted_dict_eq h)
          have hsame : List.Forall₂ (fun m m' => m.1 = m'.1 ∧ Same m.2 m'.2) members members'' := by
            refine List.forall₂_of_map_eq (fun m hm m' hm' => ?_) himage
            obtain ⟨hkey, htree⟩ := Prod.mk.inj hm'
            exact ⟨hkey, ih m hm htree⟩
          exact (Same.dict_of_forall₂ hsame []).trans (Same.reorder hperm')

/-- Objects with the same keys in the same places have equal sorted images only when
the images of their members are equal one by one. -/
lemma map_eq_of_mapSorted_dict_eq {f : L → M} {members members' : List (K × KeyedTree K L)}
    (hkeys : members.map Prod.fst = members'.map Prod.fst)
    (hnodup : (members.map Prod.fst).Nodup)
    (h : mapSorted f (dict members) = mapSorted f (dict members')) :
    members.map (fun m => (m.1, mapSorted f m.2)) =
      members'.map fun m => (m.1, mapSorted f m.2) := by
  have hperm := perm_of_mapSorted_dict_eq h
  have hfst : ∀ m : List (K × KeyedTree K L),
      (m.map fun e => (e.1, mapSorted f e.2)).map Prod.fst = m.map Prod.fst := fun m => by
    rw [List.map_map]
    rfl
  refine List.eq_of_perm_of_keys ?_ ?_ hperm
  · rw [hfst, hfst, hkeys]
  · rwa [hfst]

/-- **The sorted image is a normal form**: it is equal for the same trees and for no
others. -/
theorem mapSorted_eq_iff {f : L → M} (hf : Function.Injective f) {t u : KeyedTree K L}
    (ht : Unique t) : mapSorted f t = mapSorted f u ↔ Same t u :=
  ⟨same_of_mapSorted_eq hf, fun h => h.mapSorted_eq f ht⟩

end Sorted

end KeyedTree
