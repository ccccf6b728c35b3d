import ControlHarness.General.Fallible
import ControlHarness.General.Text

/-!
Parsed YAML values and what Python does with them.

A document loaded with `safe_load` is a value of `Yaml`: a scalar, a list or a
mapping with scalar keys. The operations raise what Python raises when the
value has another type than the code expects.

* `Scalar.same`: equality of scalars, where `True`, `1` and `1.0` are one key.
* `get`, `isIn`, `toSet`, `sorted`: `d.get(key, default)`, `x in y`, `set(x)` and
  `sorted(x)`.
* `lists`: a text is an element of a list or a key of a mapping; `mem_toSet` and
  `lists_of_isIn_list` say how far the tests of Python agree with it.
-/

/-- A scalar. A number comes with the text that Python prints for it. -/
inductive Scalar where
  | null
  | bool (b : Bool)
  | num (value : ℚ) (text : String)
  | str (s : String)
  deriving DecidableEq, Repr

/-- A parsed value. -/
inductive Yaml where
  | scalar (s : Scalar)
  | list (items : List Yaml)
  | map (keys : List Scalar) (values : List Yaml)

/-- What an operation on a value raises. -/
inductive YamlError where
  | attributeError
  | typeError
  | keyError
  deriving DecidableEq, Repr

namespace Scalar

/-- The value of a scalar up to the equality of Python. -/
def val : Scalar → Option (ℚ ⊕ String)
  | null => none
  | bool b => some (.inl (if b then 1 else 0))
  | num value _ => some (.inl value)
  | str s => some (.inr s)

/-- `a == b`. -/
def same (a b : Scalar) : Bool := a.val = b.val

/-- `a < b`. -/
def lt (a b : Scalar) : Except YamlError Bool :=
  match a.val, b.val with
  | some (.inl x), some (.inl y) => .ok (x < y)
  | some (.inr s), some (.inr t) => .ok (s < t)
  | _, _ => .error .typeError

/-- `str(a)`. -/
def text : Scalar → String
  | null => "None"
  | bool b => if b then "True" else "False"
  | num _ text => text
  | str s => s

end Scalar

namespace Yaml

/-- The value under a key of a mapping. -/
def find (key : Scalar) : List Scalar → List Yaml → Option Yaml
  | k :: ks, v :: vs => if k.same key then some v else find key ks vs
  | _, _ => none

mutual

/-- `a == b`. -/
def eq : Yaml → Yaml → Bool
  | scalar a, scalar b => a.same b
  | list as, list bs => eqList as bs
  | map ks vs, map ks' vs' => ks.length = ks'.length && eqEntries ks vs ks' vs'
  | _, _ => false

/-- Equality of lists. -/
def eqList : List Yaml → List Yaml → Bool
  | [], [] => true
  | a :: as, b :: bs => eq a b && eqList as bs
  | _, _ => false

/-- Every entry of the first mapping is one of the second. -/
def eqEntries (ks : List Scalar) : List Yaml → List Scalar → List Yaml → Bool
  | [], _, _ => true
  | v :: vs, ks', vs' =>
    match ks with
    | [] => true
    | k :: ks =>
      (match find k ks' vs' with
        | some v' => eq v v'
        | none => false) && eqEntries ks vs ks' vs'

end

/-- A text. -/
def ofString (s : String) : Yaml := scalar (.str s)

/-- `d.get(key)`. -/
def get (d : Yaml) (key : Scalar) : Except YamlError (Option Yaml) :=
  match d with
  | map ks vs => .ok (find key ks vs)
  | _ => .error .attributeError

/-- `d.get(key, default)`, the key a text. -/
def getD (d : Yaml) (key : String) (default : Yaml) : Except YamlError Yaml := do
  let v ← d.get (.str key)
  pure (v.getD default)

/-- `d.get(key)`, the key a text and `None` where it is missing. -/
def getText (d : Yaml) (key : String) : Except YamlError Yaml := d.getD key (scalar .null)

/-- `d[key]`, the key a text. -/
def index (d : Yaml) (key : String) : Except YamlError Yaml :=
  match d with
  | map ks vs =>
    match find (.str key) ks vs with
    | some v => .ok v
    | none => .error .keyError
  | _ => .error .typeError

/-- `isinstance(x, dict)`. -/
def isMap : Yaml → Bool
  | map _ _ => true
  | _ => false

/-- `isinstance(x, list)`. -/
def isList : Yaml → Bool
  | list _ => true
  | _ => false

/-- `x is None`. -/
def isNull : Yaml → Bool
  | scalar .null => true
  | _ => false

/-- The text of a value that is one. -/
def asText : Yaml → Option String
  | scalar (.str s) => some s
  | _ => none

/-- `d.items()`. -/
def items : Yaml → Except YamlError (List (Scalar × Yaml))
  | map ks vs => .ok (ks.zip vs)
  | _ => .error .attributeError

/-- The value as a key of a mapping or an element of a set. -/
def hash : Yaml → Except YamlError Scalar
  | scalar s => .ok s
  | _ => .error .typeError

/-- `x in y`. -/
def isIn (x y : Yaml) : Except YamlError Bool :=
  match y with
  | list ys => .ok (ys.any x.eq)
  | map ks _ => do
    let k ← x.hash
    pure (ks.any k.same)
  | scalar (.str s) =>
    match x with
    | scalar (.str t) => .ok (Text.contains s t)
    | _ => .error .typeError
  | scalar _ => .error .typeError

/-- `set(x)`, as the list of its elements. -/
def toSet : Yaml → Except YamlError (List Scalar)
  | list xs => xs.mapM hash
  | map ks _ => .ok ks
  | scalar (.str s) => .ok (s.toList.map fun c => .str (String.singleton c))
  | scalar _ => .error .typeError

/-- `a == b` on sets. -/
def sameSet (a b : List Scalar) : Bool :=
  a.all (fun x => b.any x.same) && b.all fun x => a.any x.same

/-- `a.issubset(b)`. -/
def subset (a b : List Scalar) : Bool := a.all fun x => b.any x.same

/-- The elements of a set, each once. -/
def distinct (xs : List Scalar) : List Scalar :=
  xs.foldl (fun seen x => if seen.any x.same then seen else seen ++ [x]) []

mutual

/-- `a < b`. -/
def lt : Yaml → Yaml → Except YamlError Bool
  | scalar a, scalar b => a.lt b
  | list as, list bs => ltList as bs
  | _, _ => .error .typeError

/-- The order of lists: by the first elements that differ. -/
def ltList : List Yaml → List Yaml → Except YamlError Bool
  | [], bs => .ok (!bs.isEmpty)
  | _ :: _, [] => .ok false
  | a :: as, b :: bs => if eq a b then ltList as bs else lt a b

end

/-- Insert a value into a sorted list, after its equals. -/
def insertSorted (x : Yaml) : List Yaml → Except YamlError (List Yaml)
  | [] => .ok [x]
  | y :: ys => do
    let before ← lt x y
    if before then pure (x :: y :: ys)
    else do
      let ys ← insertSorted x ys
      pure (y :: ys)

/-- `sorted(xs)` on the elements. Two that do not compare raise in any order of
the comparisons. -/
def sortedList (xs : List Yaml) : Except YamlError (List Yaml) :=
  xs.foldlM (fun ys x => insertSorted x ys) []

/-- The elements that a loop over the value goes through. -/
def iter : Yaml → Except YamlError (List Yaml)
  | list xs => .ok xs
  | map ks _ => .ok (ks.map scalar)
  | scalar (.str s) => .ok (s.toList.map fun c => ofString (String.singleton c))
  | scalar _ => .error .typeError

/-- `sorted(x)`. -/
def sorted (x : Yaml) : Except YamlError (List Yaml) := do
  let xs ← x.iter
  sortedList xs

/-- `bool(x)`. -/
def truthy : Yaml → Bool
  | scalar .null => false
  | scalar (.bool b) => b
  | scalar (.num value _) => value ≠ 0
  | scalar (.str s) => s ≠ ""
  | list xs => !xs.isEmpty
  | map ks _ => !ks.isEmpty

end Yaml

/-! ### Rules -/

namespace Scalar

@[simp] lemma same_str {s : String} {a : Scalar} : (str s).same a = true ↔ a = str s := by
  cases a <;> simp [same, val, eq_comm]

end Scalar

namespace Yaml

variable {s : String} {y v : Yaml} {ks : List Scalar} {vs : List Yaml} {xs : List Scalar}

/-- The text is an element of the list, or a key of the mapping. -/
def lists : Yaml → String → Bool
  | list ys, s => ys.any (ofString s).eq
  | map ks _, s => ks.any (Scalar.str s).same
  | scalar _, _ => false

lemma ofString_eq : (ofString s).eq y = true ↔ y = ofString s := by
  cases y with
  | scalar a => rw [ofString, eq, Scalar.same_str, Yaml.scalar.injEq]
  | list ys => simp [ofString, eq]
  | map ks vs => simp [ofString, eq]

lemma asText_eq_some : y.asText = some s ↔ y = ofString s := by
  cases y with
  | scalar a => cases a <;> simp [asText, ofString]
  | list ys => simp [asText, ofString]
  | map ks vs => simp [asText, ofString]

lemma eqList_ofString {ss : List String} {ys : List Yaml} :
    eqList (ss.map ofString) ys = true ↔ ys = ss.map ofString := by
  induction ss generalizing ys with
  | nil => cases ys <;> simp [eqList]
  | cons s ss ih =>
      cases ys with
      | nil => simp [eqList]
      | cons y ys =>
          rw [List.map_cons, eqList, Bool.and_eq_true, ofString_eq, ih, List.cons.injEq]

/-- A list of texts equals itself only. -/
lemma list_ofString_eq {ss : List String} :
    (list (ss.map ofString)).eq y = true ↔ y = list (ss.map ofString) := by
  cases y with
  | scalar a => simp [eq]
  | list ys => rw [eq, eqList_ofString, Yaml.list.injEq]
  | map ks vs => simp [eq]

/-- A value found under a key is an entry of the mapping. -/
lemma mem_zip_of_find {key : Scalar} (h : find key ks vs = some v) :
    ∃ k, (k, v) ∈ ks.zip vs ∧ k.same key = true := by
  induction ks generalizing vs with
  | nil => simp [find] at h
  | cons k ks ih =>
      cases vs with
      | nil => simp [find] at h
      | cons w vs =>
          rw [find] at h
          split at h
          · rename_i hkey
            obtain rfl := Option.some.inj h
            exact ⟨k, List.mem_cons_self, hkey⟩
          · obtain ⟨k', hmem, hkey⟩ := ih h
            exact ⟨k', List.mem_cons_of_mem _ hmem, hkey⟩

lemma getText_eq_ok {d : Yaml} {key : String} :
    d.getText key = .ok v ↔
      ∃ ks vs, d = map ks vs ∧ v = (find (.str key) ks vs).getD (scalar .null) := by
  cases d with
  | scalar a => simp [getText, getD, get, bind, Except.bind]
  | list ys => simp [getText, getD, get, bind, Except.bind]
  | map ks vs => simp [getText, getD, get, bind, Except.bind, pure, Except.pure, eq_comm]

/-- `d[key]` is `d.get(key)` where it does not raise. -/
lemma getText_of_index {d : Yaml} {key : String} (h : d.index key = .ok v) :
    d.getText key = .ok v := by
  cases d with
  | scalar a => simp [index] at h
  | list ys => simp [index] at h
  | map ks vs =>
      rw [getText_eq_ok]
      refine ⟨ks, vs, rfl, ?_⟩
      rw [index] at h
      split at h
      · rename_i w hw
        obtain rfl := Except.ok.inj h
        rw [hw, Option.getD_some]
      · exact absurd h (by simp)

/-- `d.get(key, default)` and `d.get(key)` agree on a value other than `None`. -/
lemma getD_of_getText {d default w : Yaml} {key : String} (h : d.getD key default = .ok w)
    (h' : d.getText key = .ok v) (hnull : v ≠ scalar .null) : w = v := by
  cases d with
  | scalar a => simp [getD, get, bind, Except.bind] at h
  | list ys => simp [getD, get, bind, Except.bind] at h
  | map ks vs =>
      obtain ⟨ks', vs', hmap, rfl⟩ := getText_eq_ok.mp h'
      obtain ⟨rfl, rfl⟩ := Yaml.map.inj hmap
      cases hfind : find (.str key) ks vs with
      | none => exact absurd (by rw [hfind]; rfl) hnull
      | some u =>
          simp only [getD, get, hfind, bind, Except.bind, pure, Except.pure] at h
          exact (Except.ok.inj h).symm

/-- A value that `d.get(key)` finds is one of `d.items()`. -/
lemma mem_items_of_getText {d : Yaml} {key : String} {items : List (Scalar × Yaml)}
    (h : d.getText key = .ok v) (hnull : v.isNull = false) (hitems : d.items = .ok items) :
    ∃ k, (k, v) ∈ items := by
  obtain ⟨ks, vs, rfl, rfl⟩ := getText_eq_ok.mp h
  obtain rfl := Except.ok.inj hitems
  cases hfind : find (.str key) ks vs with
  | none => simp [hfind, isNull] at hnull
  | some w =>
      obtain ⟨k, hmem, -⟩ := mem_zip_of_find hfind
      exact ⟨k, hmem⟩

lemma isList_iff : y.isList = true ↔ ∃ ys, y = list ys := by
  cases y <;> simp [isList]

/-! ### Membership -/

/-- A text of more than one character is in the set of a value exactly when the
value lists it. -/
lemma mem_toSet (hlen : s.length ≠ 1) (h : y.toSet = .ok xs) :
    .str s ∈ xs ↔ y.lists s = true := by
  cases y with
  | list ys =>
      rw [List.mapM_eq_ok h, lists, List.any_eq_true]
      constructor
      · rintro ⟨y, hy, hs⟩
        refine ⟨y, hy, ofString_eq.mpr ?_⟩
        cases y with
        | scalar a => rw [ofString, Except.ok.inj hs]
        | list zs => simp [hash] at hs
        | map ks vs => simp [hash] at hs
      · rintro ⟨y, hy, hs⟩
        obtain rfl := ofString_eq.mp hs
        exact ⟨_, hy, rfl⟩
  | map ks vs =>
      obtain rfl := Except.ok.inj h
      simp [lists]
  | scalar a =>
      cases a with
      | str t =>
          obtain rfl := Except.ok.inj h
          simp only [lists, Bool.false_eq_true, iff_false, List.mem_map, not_exists, not_and]
          rintro c - hc
          obtain rfl := Scalar.str.inj hc
          exact hlen String.length_singleton
      | null | bool b | num q t => simp [toSet] at h

/-- What one of two equal sets lists, the other lists. -/
lemma lists_of_sameSet {y' : Yaml} {xs' : List Scalar} (hlen : s.length ≠ 1)
    (h : y.toSet = .ok xs) (h' : y'.toSet = .ok xs') (hsame : sameSet xs xs' = true)
    (hlists : y.lists s = true) : y'.lists s = true := by
  rw [sameSet, Bool.and_eq_true, List.all_eq_true] at hsame
  have hany := hsame.1 _ ((mem_toSet hlen h).mpr hlists)
  obtain ⟨x, hx, hsx⟩ := List.any_eq_true.mp hany
  obtain rfl := Scalar.same_str.mp hsx
  exact (mem_toSet hlen h').mp hx

/-- A membership test that returns is on a list, a text or a mapping. -/
lemma list_of_isIn {x : Yaml} {b : Bool} (h : x.isIn y = .ok b)
    (hplain : y.asText = none ∧ y.isMap = false) : ∃ ys, y = list ys := by
  cases y with
  | list ys => exact ⟨ys, rfl⟩
  | map ks vs => exact absurd hplain.2 (by simp [isMap])
  | scalar a =>
      cases a with
      | str t => exact absurd hplain.1 (by simp [asText])
      | null | bool b | num q t => simp [isIn] at h

/-- In a list `x in y` admits the elements only. -/
lemma lists_of_isIn_list {ys : List Yaml} (h : (ofString s).isIn (list ys) = .ok true) :
    ofString s ∈ ys := by
  obtain ⟨y, hy, hs⟩ := List.any_eq_true.mp (Except.ok.inj h)
  exact ofString_eq.mp hs ▸ hy

end Yaml
