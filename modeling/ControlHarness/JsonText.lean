import ControlHarness.General.KeyedTree
import ControlHarness.General.PrefixCode
import ControlHarness.Projection

/-!
The texts that `json.dumps` writes are read from the front.

* `Spelling`: how `jsonChar` spells a character: as it is, by a short escape, or by one
  or two escaped UTF-16 units.
* `reads_jsonChar`: a spelling determines its character and what follows it.
* `reads_jsonString`: so does a string, up to its closing quote.
* `Json`, `jsonText`: the values and their texts. The text of a floating-point number is
  taken from a `FloatText`.
* `exists_head`: the first character tells a string, a list, an object and an atom apart;
  `atom_injective` tells the atoms apart.
* `reads_jsonText`: a text determines the value and what follows it, and
  `jsonText_injective` is the case where nothing does.
-/

namespace ControlHarness

open PrefixCode

/-! ### Characters -/

/-- The short escapes and their characters. -/
def shortEscapes : List (Char × Char) :=
  [('"', '"'), ('\\', '\\'), ('\n', 'n'), ('\r', 'r'), ('\t', 't'), ('\x08', 'b'), ('\x0c', 'f')]

/-- How a character is spelled in a string. -/
inductive Spelling (c : Char) : List Char → Prop
  | plain : c ≠ '"' → c ≠ '\\' → Spelling c [c]
  | short {e : Char} : (c, e) ∈ shortEscapes → Spelling c ['\\', e]
  | unit : c.toNat < 0x10000 → Spelling c ('\\' :: 'u' :: UUID.hexDigits 4 c.toNat)
  | pair : 0x10000 ≤ c.toNat →
      Spelling c ('\\' :: 'u' :: UUID.hexDigits 4 (0xd800 + (c.toNat - 0x10000) / 0x400) ++
        '\\' :: 'u' :: UUID.hexDigits 4 (0xdc00 + (c.toNat - 0x10000) % 0x400))

lemma toList_unicodeEscape (n : ℕ) :
    (unicodeEscape n).toList = '\\' :: 'u' :: UUID.hexDigits 4 n := by
  simp [unicodeEscape]

lemma spelling_jsonChar (c : Char) : Spelling c (jsonChar c).toList := by
  have hchar : ∀ d : Char, c.toNat = d.toNat → c = d := fun d h => Char.toNat_inj.mp h
  have hnat : ∀ d : Char, c.toNat ≠ d.toNat → c ≠ d := fun d h heq => h (congrArg _ heq)
  rw [jsonChar]
  split
  case h_1 h => obtain rfl := hchar '"' h; exact Spelling.short (by decide)
  case h_2 h => obtain rfl := hchar '\\' h; exact Spelling.short (by decide)
  case h_3 h => obtain rfl := hchar '\n' h; exact Spelling.short (by decide)
  case h_4 h => obtain rfl := hchar '\r' h; exact Spelling.short (by decide)
  case h_5 h => obtain rfl := hchar '\t' h; exact Spelling.short (by decide)
  case h_6 h => obtain rfl := hchar '\x08' h; exact Spelling.short (by decide)
  case h_7 h => obtain rfl := hchar '\x0c' h; exact Spelling.short (by decide)
  case h_8 hquote hbackslash _ _ _ _ _ =>
    split
    · rw [String.toList_singleton]
      exact Spelling.plain (hnat '"' hquote) (hnat '\\' hbackslash)
    split
    · rename_i hunit
      rw [toList_unicodeEscape]
      exact Spelling.unit hunit
    · rename_i hunit
      rw [String.toList_append, toList_unicodeEscape, toList_unicodeEscape]
      exact Spelling.pair (by omega)

/-- An escaped unit determines the unit and what follows it. -/
lemma unit_append_inj {n m : ℕ} {s t : List Char} (hn : n < 0x10000) (hm : m < 0x10000)
    (h : '\\' :: 'u' :: (UUID.hexDigits 4 n ++ s) = '\\' :: 'u' :: (UUID.hexDigits 4 m ++ t)) :
    n = m ∧ s = t := by
  have hdigits : UUID.hexDigits 4 n ++ s = UUID.hexDigits 4 m ++ t :=
    (List.cons.inj (List.cons.inj h).2).2
  obtain ⟨heq, hst⟩ := List.append_inj hdigits (by simp)
  have hmod := UUID.mod_eq_of_hexDigits_eq heq
  norm_num at hmod
  exact ⟨by omega, hst⟩

/-- The short escapes differ, and none is `u`. -/
lemma shortEscapes_inj {c d e : Char} (hc : (c, e) ∈ shortEscapes) (hd : (d, e) ∈ shortEscapes) :
    c = d := by
  have hinj : ∀ p ∈ shortEscapes, ∀ q ∈ shortEscapes, p.2 = q.2 → p.1 = q.1 := by decide
  exact hinj _ hc _ hd rfl

lemma short_ne_unit {c e : Char} (h : (c, e) ∈ shortEscapes) : e ≠ 'u' := by
  have hne : ∀ p ∈ shortEscapes, p.2 ≠ 'u' := by decide
  exact hne _ h

/-- A character is no surrogate, so one unit is not the first of a pair. -/
lemma scalar (c : Char) : c.toNat < 0xd800 ∨ 0xdfff < c.toNat ∧ c.toNat < 0x110000 := c.valid

/-- **A spelling determines its character** and what follows it. -/
lemma Spelling.append_inj {c d : Char} {l m s t : List Char} (hc : Spelling c l)
    (hd : Spelling d m) (h : l ++ s = m ++ t) : c = d ∧ s = t := by
  have hscalar := scalar c
  have hscalar' := scalar d
  cases hc with
  | plain _ hback =>
      cases hd with
      | plain => exact List.cons.inj h
      | short => exact absurd (List.cons.inj h).1 hback
      | unit => exact absurd (List.cons.inj h).1 hback
      | pair => exact absurd (List.cons.inj h).1 hback
  | short hshort =>
      cases hd with
      | plain _ hback => exact absurd (List.cons.inj h).1.symm hback
      | short hshort' =>
          obtain ⟨rfl, hst⟩ := List.cons.inj (List.cons.inj h).2
          exact ⟨shortEscapes_inj hshort hshort', hst⟩
      | unit => exact absurd (List.cons.inj (List.cons.inj h).2).1 (short_ne_unit hshort)
      | pair => exact absurd (List.cons.inj (List.cons.inj h).2).1 (short_ne_unit hshort)
  | unit hunit =>
      cases hd with
      | plain _ hback => exact absurd (List.cons.inj h).1.symm hback
      | short hshort =>
          exact absurd (List.cons.inj (List.cons.inj h).2).1.symm (short_ne_unit hshort)
      | unit hunit' =>
          obtain ⟨hn, hst⟩ := unit_append_inj hunit hunit' h
          exact ⟨Char.toNat_inj.mp hn, hst⟩
      | pair hpair =>
          rw [List.append_assoc] at h
          obtain ⟨hn, -⟩ := unit_append_inj hunit (by omega) h
          omega
  | pair hpair =>
      rw [List.append_assoc] at h
      cases hd with
      | plain _ hback => exact absurd (List.cons.inj h).1.symm hback
      | short hshort =>
          exact absurd (List.cons.inj (List.cons.inj h).2).1.symm (short_ne_unit hshort)
      | unit hunit =>
          obtain ⟨hn, -⟩ := unit_append_inj (by omega) hunit h
          omega
      | pair hpair' =>
          rw [List.append_assoc] at h
          obtain ⟨hhigh, hrest⟩ := unit_append_inj (by omega) (by omega) h
          obtain ⟨hlow, hst⟩ := unit_append_inj (by omega) (by omega) hrest
          exact ⟨Char.toNat_inj.mp (by omega), hst⟩

lemma reads_jsonChar : Reads anyRest fun c => (jsonChar c).toList :=
  fun c d _ _ _ _ h => (spelling_jsonChar c).append_inj (spelling_jsonChar d) h

/-- No character is spelled with a quote first. -/
lemma jsonChar_avoids : Avoids (fun c => (jsonChar c).toList) '"' := by
  intro c
  generalize hl : (jsonChar c).toList = l
  have hspelling := hl ▸ spelling_jsonChar c
  cases hspelling with
  | plain hquote => exact ⟨c, [], hl, hquote⟩
  | short => exact ⟨'\\', _, hl, by decide⟩
  | unit => exact ⟨'\\', _, hl, by decide⟩
  | pair => exact ⟨'\\', _, hl, by decide⟩

/-! ### Strings -/

/-- A string: the opening quote, and the characters up to the closing one. -/
lemma toList_jsonString (s : String) :
    (jsonString s).toList = '"' :: closed (fun c => (jsonChar c).toList) '"' s.toList := by
  have hjoin : ∀ l : List Char,
      (String.join (l.map jsonChar)).toList = l.flatMap fun c => (jsonChar c).toList := by
    intro l
    induction l with
    | nil => rfl
    | cons c l ih =>
        rw [List.map_cons, String.join_cons, String.toList_append, ih, List.flatMap_cons]
  rw [jsonString, String.toList_append, String.toList_append, hjoin]
  rfl

/-- **A string is read from the front.** -/
theorem reads_jsonString : Reads anyRest fun s => (jsonString s).toList := by
  intro s s' r r' _ _ h
  simp only [toList_jsonString, List.cons_append] at h
  have hclosed : ReadsAt anyRest (closed (fun c => (jsonChar c).toList) '"') s.toList :=
    readsAt_closed (fun c _ => reads_jsonChar c) jsonChar_avoids (fun _ => trivial)
      fun _ _ => trivial
  obtain ⟨hs, hr⟩ := hclosed trivial trivial (List.cons.inj h).2
  exact ⟨String.toList_inj.mp hs, hr⟩

/-! ### Values -/

/-- The leaves of a JSON value, with floating-point numbers of the type `F`. -/
inductive Scalar (F : Type) where
  | null
  | bool (b : Bool)
  | int (n : ℤ)
  | float (x : F)
  | str (s : String)

/-- A JSON value. -/
abbrev Json (F : Type) := KeyedTree String (Scalar F)

/-- `str(n)` of an integer. -/
def intText (n : ℤ) : List Char :=
  if n < 0 then '-' :: Nat.toDigits 10 n.natAbs else Nat.toDigits 10 n.natAbs

/-- The characters of the numbers, with the infinities. -/
def isNumberChar (c : Char) : Bool := c.isDigit || "+-.eInfity".toList.contains c

/-- The text of a floating-point number (`float.__repr__`): it tells the number, and is
never that of an integer. -/
structure FloatText (F : Type) where
  repr : F → List Char
  repr_injective : Function.Injective repr
  repr_chars : ∀ x, ∀ c ∈ repr x, isNumberChar c = true
  repr_ne_nil : ∀ x, repr x ≠ []
  repr_ne_int : ∀ x n, repr x ≠ intText n

variable {F : Type} (T : FloatText F)

/-- The text of a leaf. -/
def scalarText : Scalar F → List Char
  | .null => "null".toList
  | .bool true => "true".toList
  | .bool false => "false".toList
  | .int n => intText n
  | .float x => T.repr x
  | .str s => (jsonString s).toList

mutual

/-- `json.dumps` with the separators `,` and `:`. -/
def jsonText : Json F → List Char
  | .leaf l => scalarText T l
  | .list items => '[' :: separated id ',' ']' (itemTexts items)
  | .dict members => '\x7b' :: separated id ',' '\x7d' (memberTexts members)

/-- The texts of the items. -/
def itemTexts : List (Json F) → List (List Char)
  | [] => []
  | t :: items => jsonText t :: itemTexts items

/-- The texts of the members. -/
def memberTexts : List (String × Json F) → List (List Char)
  | [] => []
  | (k, t) :: members => ((jsonString k).toList ++ ':' :: jsonText t) :: memberTexts members

end

/-! ### Numbers and the other atoms -/

lemma intText_chars (n : ℤ) : ∀ c ∈ intText n, isNumberChar c = true := by
  have hdigit : ∀ c ∈ Nat.toDigits 10 n.natAbs, isNumberChar c = true := by
    intro c hc
    rw [isNumberChar, Nat.isDigit_of_mem_toDigits (by omega) (by omega) hc]
    rfl
  rw [intText]
  split
  · rintro c (_ | ⟨_, hc⟩)
    · decide
    · exact hdigit c hc
  · exact hdigit

lemma intText_ne_nil (n : ℤ) : intText n ≠ [] := by
  rw [intText]
  split
  · exact List.cons_ne_nil _ _
  · exact Nat.toDigits_ne_nil

lemma intText_injective : Function.Injective intText := by
  intro n m h
  have hdigits : ∀ a b : ℕ, Nat.toDigits 10 a = Nat.toDigits 10 b → a = b := by
    intro a b hab
    rw [← Nat.ofDigitChars_ten_toDigits (n := a), hab, Nat.ofDigitChars_ten_toDigits]
  have hminus : ∀ a : ℕ, '-' ∉ Nat.toDigits 10 a := fun a ha =>
    absurd (Nat.isDigit_of_mem_toDigits (by omega) (by omega) ha) (by decide)
  rw [intText, intText] at h
  split at h <;> split at h
  · have habs := hdigits _ _ (List.cons.inj h).2
    omega
  · exact absurd (h ▸ List.mem_cons_self) (hminus m.natAbs)
  · exact absurd (h ▸ List.mem_cons_self) (hminus n.natAbs)
  · have habs := hdigits _ _ h
    omega

/-- The characters that may follow a value. -/
def closers : List Char := [',', ']', '\x7d']

/-- The characters that open the values other than atoms. -/
def openers : List Char := ['"', '[', '\x7b']

/-- The leaf is no string. -/
def Scalar.IsAtom (l : Scalar F) : Prop := ∀ s, l ≠ .str s

lemma not_mem_of_isNumberChar {c : Char} (h : isNumberChar c = true) : c ∉ closers ++ openers := by
  intro hc
  have hno : ((closers ++ openers).all fun d => !isNumberChar d) = true := by decide
  have hc' := List.all_eq_true.mp hno c hc
  rw [h] at hc'
  exact Bool.false_ne_true hc'

/-- No character of an atom closes or opens a value. -/
lemma atom_chars {l : Scalar F} (h : l.IsAtom) : ∀ c ∈ scalarText T l, c ∉ closers ++ openers := by
  have hword : ∀ w : List Char, (w.all fun c => decide (c ∉ closers ++ openers)) = true →
      ∀ c ∈ w, c ∉ closers ++ openers := fun w hw c hc =>
    of_decide_eq_true (List.all_eq_true.mp hw c hc)
  cases l with
  | null =>
      rw [scalarText]
      exact hword _ (by decide)
  | bool b => cases b <;> rw [scalarText] <;> exact hword _ (by decide)
  | int n => exact fun c hc => not_mem_of_isNumberChar (intText_chars n c hc)
  | float x => exact fun c hc => not_mem_of_isNumberChar (T.repr_chars x c hc)
  | str s => exact absurd rfl (h s)

lemma ne_of_isNumberChar {v w : List Char} (hv : ∃ c ∈ v, isNumberChar c = false)
    (hw : ∀ c ∈ w, isNumberChar c = true) : v ≠ w := by
  rintro rfl
  obtain ⟨c, hc, hno⟩ := hv
  rw [hw c hc] at hno
  exact Bool.false_ne_true hno.symm

/-- **Different atoms have different texts**: `null`, `true` and `false` have letters that
no number has. -/
lemma atom_injective {l l' : Scalar F} (hl : l.IsAtom) (hl' : l'.IsAtom)
    (h : scalarText T l = scalarText T l') : l = l' := by
  have hnull : ∃ c ∈ "null".toList, isNumberChar c = false := ⟨'u', by decide, by decide⟩
  have hbool : ∀ b : Bool, ∃ c ∈ scalarText T (.bool b), isNumberChar c = false := by
    rintro (_ | _)
    · exact ⟨'a', by rw [scalarText]; decide, by decide⟩
    · exact ⟨'r', by rw [scalarText]; decide, by decide⟩
  cases l with
  | null =>
      cases l' with
      | null => rfl
      | bool b => cases b <;> exact absurd h (by simp [scalarText])
      | int n => exact absurd h (ne_of_isNumberChar hnull (intText_chars n))
      | float x => exact absurd h (ne_of_isNumberChar hnull (T.repr_chars x))
      | str s => exact absurd rfl (hl' s)
  | bool b =>
      cases l' with
      | null => cases b <;> exact absurd h (by simp [scalarText])
      | bool b' => cases b <;> cases b' <;> first | rfl | exact absurd h (by simp [scalarText])
      | int n => exact absurd h (ne_of_isNumberChar (hbool b) (intText_chars n))
      | float x => exact absurd h (ne_of_isNumberChar (hbool b) (T.repr_chars x))
      | str s => exact absurd rfl (hl' s)
  | int n =>
      cases l' with
      | null => exact absurd h.symm (ne_of_isNumberChar hnull (intText_chars n))
      | bool b => exact absurd h.symm (ne_of_isNumberChar (hbool b) (intText_chars n))
      | int m => rw [intText_injective h]
      | float x => exact absurd h.symm (T.repr_ne_int x n)
      | str s => exact absurd rfl (hl' s)
  | float x =>
      cases l' with
      | null => exact absurd h.symm (ne_of_isNumberChar hnull (T.repr_chars x))
      | bool b => exact absurd h.symm (ne_of_isNumberChar (hbool b) (T.repr_chars x))
      | int n => exact absurd h (T.repr_ne_int x n)
      | float y => rw [T.repr_injective h]
      | str s => exact absurd rfl (hl' s)
  | str s => exact absurd rfl (hl s)

/-! ### Reading a value -/

/-- The kinds of values, told by the first character. -/
inductive Opening where
  | string | list | dict | atom
  deriving DecidableEq

/-- The kind of value that the character opens. -/
def opening (c : Char) : Opening :=
  if c = '"' then .string else if c = '[' then .list else if c = '\x7b' then .dict else .atom

/-- The kind of a value. -/
def kind : Json F → Opening
  | .leaf (.str _) => .string
  | .leaf _ => .atom
  | .list _ => .list
  | .dict _ => .dict

lemma kind_leaf {l : Scalar F} (h : l.IsAtom) : kind (.leaf l : Json F) = .atom := by
  cases l with
  | str s => exact absurd rfl (h s)
  | _ => rfl

lemma scalarText_ne_nil (l : Scalar F) : scalarText T l ≠ [] := by
  cases l with
  | null => rw [scalarText]; decide
  | bool b => cases b <;> rw [scalarText] <;> decide
  | int n => exact intText_ne_nil n
  | float x => exact T.repr_ne_nil x
  | str s =>
      rw [scalarText, toList_jsonString]
      exact List.cons_ne_nil _ _

/-- **The first character tells the kind** of a value and closes none. -/
lemma exists_head (t : Json F) :
    ∃ c w, jsonText T t = c :: w ∧ opening c = kind t ∧ c ∉ closers := by
  cases t with
  | leaf l =>
      by_cases hatom : l.IsAtom
      · obtain ⟨c, w, hw⟩ := List.exists_cons_of_ne_nil (scalarText_ne_nil T l)
        have hc := atom_chars T hatom c (hw ▸ List.mem_cons_self)
        rw [List.mem_append, not_or] at hc
        obtain ⟨hcloser, hopener⟩ := hc
        refine ⟨c, w, by rw [jsonText, hw], ?_, hcloser⟩
        simp only [openers, List.mem_cons, not_or] at hopener
        rw [kind_leaf hatom, opening, if_neg hopener.1, if_neg hopener.2.1, if_neg hopener.2.2.1]
      · rw [Scalar.IsAtom, not_forall] at hatom
        obtain ⟨s, hs⟩ := hatom
        rw [not_not] at hs
        subst hs
        exact ⟨'"', _, by rw [jsonText, scalarText, toList_jsonString], rfl, by decide⟩
  | list items => exact ⟨'[', _, by rw [jsonText], rfl, by decide⟩
  | dict members => exact ⟨'\x7b', _, by rw [jsonText], rfl, by decide⟩

/-- Values of different kinds are told apart. -/
lemma kind_eq_of_append_eq {t u : Json F} {r s : List Char}
    (h : jsonText T t ++ r = jsonText T u ++ s) : kind t = kind u := by
  obtain ⟨c, w, hc, hkind, -⟩ := exists_head T t
  obtain ⟨d, v, hd, hkind', -⟩ := exists_head T u
  rw [hc, hd] at h
  rw [← hkind, ← hkind', (List.cons.inj h).1]

/-- The text of a member. -/
def memberText (m : String × Json F) : List Char := (jsonString m.1).toList ++ ':' :: jsonText T m.2

lemma itemTexts_eq_map (items : List (Json F)) : itemTexts T items = items.map (jsonText T) := by
  induction items with
  | nil => rfl
  | cons t items ih => rw [itemTexts, ih, List.map_cons]

lemma memberTexts_eq_map (members : List (String × Json F)) :
    memberTexts T members = members.map (memberText T) := by
  induction members with
  | nil => rfl
  | cons m members ih => rw [memberTexts, ih, List.map_cons, memberText]

lemma jsonText_list (items : List (Json F)) :
    jsonText T (.list items) = '[' :: separated (jsonText T) ',' ']' items := by
  rw [jsonText, itemTexts_eq_map, separated_map, Function.id_comp]

lemma jsonText_dict (members : List (String × Json F)) :
    jsonText T (.dict members) = '\x7b' :: separated (memberText T) ',' '\x7d' members := by
  rw [jsonText, memberTexts_eq_map, separated_map, Function.id_comp]

lemma jsonText_avoids {c : Char} (hc : c ∈ closers) : Avoids (jsonText T) c := by
  intro t
  obtain ⟨d, w, hw, -, hd⟩ := exists_head T t
  exact ⟨d, w, hw, fun heq => hd (heq ▸ hc)⟩

lemma memberText_avoids : Avoids (memberText T) '\x7d' := by
  intro m
  rw [memberText, toList_jsonString, List.cons_append]
  exact ⟨'"', _, rfl, by decide⟩

/-- A closing character, or nothing, may follow a value. -/
def Closes (s : List Char) : Prop := Follows (· ∈ closers) s

lemma closes_cons {c : Char} (hc : c ∈ closers) (s : List Char) : Closes (c :: s) :=
  Or.inr ⟨c, s, rfl, hc⟩

lemma eq_of_kind (u : Json F) :
    match kind u with
    | .string => ∃ s, u = .leaf (.str s)
    | .list => ∃ items, u = .list items
    | .dict => ∃ members, u = .dict members
    | .atom => ∃ l : Scalar F, l.IsAtom ∧ u = .leaf l := by
  cases u with
  | leaf l =>
      cases l with
      | str s => exact ⟨s, rfl⟩
      | _ => exact ⟨_, by rintro s ⟨⟩, rfl⟩
  | list items => exact ⟨items, rfl⟩
  | dict members => exact ⟨members, rfl⟩

lemma readsAt_atom {l : Scalar F} (hatom : l.IsAtom) : ReadsAt Closes (jsonText T) (.leaf l) := by
  intro u r s hr hs h
  have hu := eq_of_kind u
  rw [← kind_eq_of_append_eq T h, kind_leaf hatom] at hu
  obtain ⟨l', hatom', rfl⟩ := hu
  rw [jsonText, jsonText] at h
  have hno : ∀ l : Scalar F, l.IsAtom → ∀ c ∈ scalarText T l, c ∉ closers :=
    fun l hl c hc hcloser => atom_chars T hl c hc (List.mem_append_left _ hcloser)
  obtain ⟨htext, hrs⟩ := append_inj_of_follows (hno l hatom) (hno l' hatom') hr hs h
  rw [atom_injective T hatom hatom' htext]
  exact ⟨rfl, hrs⟩

lemma readsAt_string (x : String) : ReadsAt Closes (jsonText T) (.leaf (.str x)) := by
  intro u r s _ _ h
  have hu := eq_of_kind u
  rw [← kind_eq_of_append_eq T h, kind] at hu
  obtain ⟨y, rfl⟩ := hu
  rw [jsonText, jsonText, scalarText, scalarText] at h
  obtain ⟨rfl, hrs⟩ := reads_jsonString x trivial trivial h
  exact ⟨rfl, hrs⟩

lemma readsAt_list {items : List (Json F)}
    (hitems : ∀ t ∈ items, ReadsAt Closes (jsonText T) t) :
    ReadsAt Closes (jsonText T) (.list items) := by
  intro u r s _ _ h
  have hu := eq_of_kind u
  rw [← kind_eq_of_append_eq T h, kind] at hu
  obtain ⟨items', rfl⟩ := hu
  rw [jsonText_list, jsonText_list] at h
  have hread : ReadsAt anyRest (separated (jsonText T) ',' ']') items :=
    readsAt_separated hitems (jsonText_avoids T (by decide)) (by decide)
      (closes_cons (by decide)) (closes_cons (by decide))
  obtain ⟨rfl, hrs⟩ := hread trivial trivial (List.cons.inj h).2
  exact ⟨rfl, hrs⟩

/-- A member is its key, a colon and its value. -/
lemma readsAt_member {m : String × Json F} (h : ReadsAt Closes (jsonText T) m.2) :
    ReadsAt Closes (memberText T) m := by
  intro m' r s hr hs heq
  rw [memberText, memberText, List.append_assoc, List.append_assoc] at heq
  obtain ⟨hkey, hrest⟩ := reads_jsonString m.1 trivial trivial heq
  obtain ⟨hvalue, hrs⟩ := h hr hs (List.cons.inj hrest).2
  exact ⟨Prod.ext hkey hvalue, hrs⟩

lemma readsAt_dict {members : List (String × Json F)}
    (hmembers : ∀ m ∈ members, ReadsAt Closes (jsonText T) m.2) :
    ReadsAt Closes (jsonText T) (.dict members) := by
  intro u r s _ _ h
  have hu := eq_of_kind u
  rw [← kind_eq_of_append_eq T h, kind] at hu
  obtain ⟨members', rfl⟩ := hu
  rw [jsonText_dict, jsonText_dict] at h
  have hread : ReadsAt anyRest (separated (memberText T) ',' '\x7d') members :=
    readsAt_separated (fun m hm => readsAt_member T (hmembers m hm)) (memberText_avoids T)
      (by decide) (closes_cons (by decide)) (closes_cons (by decide))
  obtain ⟨rfl, hrs⟩ := hread trivial trivial (List.cons.inj h).2
  exact ⟨rfl, hrs⟩

/-- **A value is read from the front** before a closing character. -/
theorem reads_jsonText : Reads Closes (jsonText T) := by
  intro t
  induction t using KeyedTree.ind with
  | leaf l =>
      by_cases hatom : l.IsAtom
      · exact readsAt_atom T hatom
      · rw [Scalar.IsAtom, not_forall] at hatom
        obtain ⟨x, hx⟩ := hatom
        rw [not_not.mp hx]
        exact readsAt_string T x
  | list items ih => exact readsAt_list T ih
  | dict members ih => exact readsAt_dict T ih

/-- **Different values have different texts.** -/
theorem jsonText_injective : Function.Injective (jsonText T) :=
  (reads_jsonText T).injective (Or.inl rfl)

end ControlHarness
