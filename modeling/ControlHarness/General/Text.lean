import Mathlib.Data.List.DropRight
import Mathlib.Tactic

/-!
The operations of Python on texts that the checks of a web surface use, over
the characters of the text.

* `startsWith`, `endsWith`, `contains`: the prefix, suffix and substring tests;
  `endsWith_append` decides a suffix test on a text whose end is known,
  `startsWith_around` and `endsWith_around` the tests on a text whose middle is
  unknown.
* `strip`, `isPySpace`, `isWhiteSpace`: removal of white space, as `str.strip`
  and as a validator that trims.
-/

namespace Text

/-- `s.startswith(p)`. -/
def startsWith (s p : String) : Bool := p.toList.isPrefixOf s.toList

/-- `s.endswith(p)`. -/
def endsWith (s p : String) : Bool := p.toList.isSuffixOf s.toList

/-- `p in s`. -/
def contains (s p : String) : Bool := s.toList.tails.any fun t => p.toList.isPrefixOf t

/-- `s.removeprefix(p)`. -/
def removePrefix (s p : String) : String :=
  if startsWith s p then String.ofList (s.toList.drop p.length) else s

/-- A character with the property `White_Space`. -/
def isWhiteSpace (c : Char) : Bool :=
  let n := c.toNat
  (0x09 ≤ n && n ≤ 0x0d) || n = 0x20 || n = 0x85 || n = 0xa0 || n = 0x1680 ||
    (0x2000 ≤ n && n ≤ 0x200a) || n = 0x2028 || n = 0x2029 || n = 0x202f || n = 0x205f ||
    n = 0x3000

/-- `c.isspace()`. -/
def isPySpace (c : Char) : Bool := isWhiteSpace c || (0x1c ≤ c.toNat && c.toNat ≤ 0x1f)

/-- The text without white space at its ends. -/
def strip (isSpace : Char → Bool) (s : String) : String :=
  String.ofList (((s.toList.dropWhile isSpace).reverse.dropWhile isSpace).reverse)

/-- Two suffixes of one text: the shorter is a suffix of the longer. -/
lemma endsWith_append {a b : String} {s : String} (h : endsWith (s ++ a) b = true) :
    endsWith a b = true ∨ endsWith b a = true := by
  rw [endsWith, List.isSuffixOf_iff_suffix, String.toList_append] at h
  have ha : a.toList <:+ s.toList ++ a.toList := List.suffix_append _ _
  rcases List.suffix_or_suffix_of_suffix h ha with hba | hab
  · exact Or.inl (List.isSuffixOf_iff_suffix.mpr hba)
  · exact Or.inr (List.isSuffixOf_iff_suffix.mpr hab)

/-- Two prefixes of one text: the shorter is a prefix of the longer. -/
lemma startsWith_append {a b : String} {s : String} (h : startsWith (a ++ s) b = true) :
    startsWith a b = true ∨ startsWith b a = true := by
  rw [startsWith, List.isPrefixOf_iff_prefix, String.toList_append] at h
  have ha : a.toList <+: a.toList ++ s.toList := List.prefix_append _ _
  rcases List.prefix_or_prefix_of_prefix h ha with hba | hab
  · exact Or.inl (List.isPrefixOf_iff_prefix.mpr hba)
  · exact Or.inr (List.isPrefixOf_iff_prefix.mpr hab)

/-! ### Texts around an unknown middle -/

/-- A prefix test is decided by the known beginning, unless the prefix goes beyond
it. -/
lemma startsWith_around {a b c s : String}
    (h : startsWith b a = true → startsWith a b = true) :
    startsWith (a ++ s ++ c) b = startsWith a b := by
  rw [String.append_assoc, Bool.eq_iff_iff]
  constructor
  · intro hb
    rcases startsWith_append hb with hab | hba
    · exact hab
    · exact h hba
  · intro hab
    rw [startsWith, List.isPrefixOf_iff_prefix] at hab ⊢
    rw [String.toList_append]
    exact hab.trans (List.prefix_append _ _)

/-- A suffix test is decided by the known end, unless the suffix goes beyond it. -/
lemma endsWith_around {a b c s : String} (h : endsWith b c = true → endsWith c b = true) :
    endsWith (a ++ s ++ c) b = endsWith c b := by
  rw [Bool.eq_iff_iff]
  constructor
  · intro hb
    rcases endsWith_append hb with hcb | hbc
    · exact hcb
    · exact h hbc
  · intro hcb
    rw [endsWith, List.isSuffixOf_iff_suffix] at hcb ⊢
    rw [String.toList_append]
    exact hcb.trans (List.suffix_append _ _)

lemma startsWith_append_self (a s : String) : startsWith (a ++ s) a = true := by
  rw [startsWith, List.isPrefixOf_iff_prefix, String.toList_append]
  exact List.prefix_append _ _

/-- A text that does not begin as this one. -/
lemma around_ne {a b c s : String} (h : startsWith b a = false) : a ++ s ++ c ≠ b := by
  rintro rfl
  rw [String.append_assoc, startsWith_append_self] at h
  exact Bool.noConfusion h

lemma contains_of_startsWith {s p : String} (h : startsWith s p = true) : contains s p = true :=
  List.any_eq_true.mpr ⟨s.toList, (List.mem_tails _ _).mpr List.suffix_rfl, h⟩

@[simp] lemma removePrefix_append (a s : String) : removePrefix (a ++ s) a = s := by
  rw [removePrefix, if_pos (startsWith_append_self a s), String.toList_append,
    ← String.length_toList, List.drop_left, String.ofList_toList]

/-! ### Stripping -/

lemma toList_strip (isSpace : Char → Bool) (s : String) :
    (strip isSpace s).toList = (s.toList.dropWhile isSpace).rdropWhile isSpace := by
  rw [strip, String.toList_ofList]
  rfl

/-- A text that is stripped has no white space at its beginning. -/
lemma dropWhile_strip (isSpace : Char → Bool) (s : String) :
    (strip isSpace s).toList.dropWhile isSpace = (strip isSpace s).toList := by
  rw [List.dropWhile_eq_self_iff]
  intro hpos
  have hprefix : (strip isSpace s).toList <+: s.toList.dropWhile isSpace := by
    rw [toList_strip]
    exact List.rdropWhile_prefix _ _
  have hpos' : 0 < (s.toList.dropWhile isSpace).length := hpos.trans_le hprefix.length_le
  have hhead := List.dropWhile_get_zero_not isSpace s.toList hpos'
  rw [List.IsPrefix.getElem hprefix hpos]
  exact hhead

lemma strip_strip (isSpace : Char → Bool) (s : String) :
    strip isSpace (strip isSpace s) = strip isSpace s := by
  apply String.toList_inj.mp
  rw [toList_strip, dropWhile_strip, toList_strip, List.rdropWhile_idempotent]

/-- What a text begins with stays, unless it has white space at an end. -/
lemma startsWith_strip {isSpace : Char → Bool} {s p : String}
    (hhead : p.toList.head?.any isSpace = false) (hlast : p.toList.getLast?.any isSpace = false)
    (h : startsWith s p = true) : startsWith (strip isSpace s) p = true := by
  rw [startsWith, List.isPrefixOf_iff_prefix] at h ⊢
  obtain ⟨rest, hrest⟩ := h
  rw [toList_strip, ← hrest]
  cases hp : p.toList with
  | nil => exact List.nil_prefix
  | cons c cs =>
      have hstart : (c :: cs ++ rest).dropWhile isSpace = c :: cs ++ rest := by
        rw [hp, List.head?_cons, Option.any_some] at hhead
        rw [List.cons_append, List.dropWhile_cons, hhead]
        rfl
      have hend : (c :: cs).reverse.dropWhile isSpace = (c :: cs).reverse := by
        rw [List.dropWhile_eq_self_iff]
        intro hpos
        rw [hp, ← List.head?_reverse, List.head?_eq_getElem?, List.getElem?_eq_getElem hpos,
          Option.any_some] at hlast
        rw [hlast]
        exact Bool.false_ne_true
      rw [hstart, List.rdropWhile, List.reverse_append, List.dropWhile_append, hend]
      split
      · rw [List.reverse_reverse]
      · rw [List.reverse_append, List.reverse_reverse]
        exact List.prefix_append _ _

end Text
