import Mathlib.Tactic

/-!
Points in time by calendar and clock, with an offset from UTC, and their texts.

* `CivilTime`: the fields of a date and time of the proleptic Gregorian calendar.
* `instant`: the microseconds since 1970-01-01 in UTC.
* `str`: the text `YYYY-MM-DD HH:MM:SS[.ffffff]+HH:MM[:SS[.ffffff]]`, fixed in width
  but for the fractions and the seconds of the offset.
* `str_injective`: the text tells the fields, so it tells the instant.
-/

/-! ### The calendar -/

namespace Calendar

/-- A leap year. -/
def isLeap (year : ℕ) : Bool := year % 4 = 0 && (year % 100 ≠ 0 || year % 400 = 0)

/-- The days of a month. -/
def daysInMonth (year month : ℕ) : ℕ :=
  if month = 2 then if isLeap year then 29 else 28
  else if month = 4 ∨ month = 6 ∨ month = 9 ∨ month = 11 then 30 else 31

/-- The days before January 1st of a year, from the year 1. -/
def daysBeforeYear (year : ℕ) : ℕ :=
  let y := year - 1
  y * 365 + y / 4 - y / 100 + y / 400

/-- The days before the first day of a month in its year. -/
def daysBeforeMonth (year month : ℕ) : ℕ :=
  ((List.range (month - 1)).map fun m => daysInMonth year (m + 1)).sum

/-- The number of a day, 1 for the first day of the year 1. -/
def ordinal (year month day : ℕ) : ℕ := daysBeforeYear year + daysBeforeMonth year month + day

end Calendar

/-- A date and time with its offset from UTC in microseconds. -/
@[ext]
structure CivilTime where
  year : ℕ
  month : ℕ
  day : ℕ
  hour : ℕ := 0
  minute : ℕ := 0
  second : ℕ := 0
  microsecond : ℕ := 0
  utcoffset : ℤ := 0
  year_range : 1 ≤ year ∧ year ≤ 9999 := by decide
  month_range : 1 ≤ month ∧ month ≤ 12 := by decide
  day_range : 1 ≤ day ∧ day ≤ Calendar.daysInMonth year month := by decide
  hour_lt : hour < 24 := by decide
  minute_lt : minute < 60 := by decide
  second_lt : second < 60 := by decide
  microsecond_lt : microsecond < 1000000 := by decide
  utcoffset_lt : utcoffset.natAbs < 86400000000 := by decide

namespace CivilTime

/-- The microseconds since 1970-01-01 in UTC. -/
def instant (d : CivilTime) : ℤ :=
  let days : ℤ := Calendar.ordinal d.year d.month d.day - Calendar.ordinal 1970 1 1
  let seconds : ℤ := days * 86400 + d.hour * 3600 + d.minute * 60 + d.second
  seconds * 1000000 + d.microsecond - d.utcoffset

/-- 1970-01-01 in UTC. -/
def epoch : CivilTime where
  year := 1970
  month := 1
  day := 1

lemma hour_lt_of_day {n : ℕ} (h : n < 86400000000) : n / 3600000000 < 24 := by omega

lemma minute_lt_of_day (n : ℕ) : n / 60000000 % 60 < 60 := by omega

lemma second_lt_of_day (n : ℕ) : n / 1000000 % 60 < 60 := by omega

lemma microsecond_lt_of_day (n : ℕ) : n % 1000000 < 1000000 := by omega

/-- The time of 1970-01-01 in UTC that many microseconds after midnight. -/
def ofEpochDay (n : ℕ) (h : n < 86400000000) : CivilTime :=
  { epoch with
    hour := n / 3600000000
    minute := n / 60000000 % 60
    second := n / 1000000 % 60
    microsecond := n % 1000000
    hour_lt := hour_lt_of_day h
    minute_lt := minute_lt_of_day n
    second_lt := second_lt_of_day n
    microsecond_lt := microsecond_lt_of_day n }

lemma instant_ofEpochDay {n : ℕ} (h : n < 86400000000) : (ofEpochDay n h).instant = n := by
  simp only [instant, ofEpochDay, epoch]
  omega

/-! ### The text -/

/-- The number with `n` decimal digits. -/
def digits (n v : ℕ) : List Char :=
  (List.range n).reverse.map fun i => Nat.digitChar (v / 10 ^ i % 10)

/-- The microseconds, where there are any. -/
def fraction (microsecond : ℕ) : List Char :=
  if microsecond = 0 then [] else '.' :: digits 6 microsecond

/-- The seconds and microseconds of an offset, where there are any. -/
def offsetSeconds (r : ℕ) : List Char :=
  if r = 0 then [] else ':' :: (digits 2 (r / 1000000) ++ fraction (r % 1000000))

/-- The offset from UTC. -/
def offsetText (utcoffset : ℤ) : List Char :=
  let a := utcoffset.natAbs
  (if utcoffset < 0 then '-' else '+') :: (digits 2 (a / 3600000000) ++
    ':' :: (digits 2 (a / 60000000 % 60) ++ offsetSeconds (a % 60000000)))

/-- `str(datetime)`. -/
def str (d : CivilTime) : String :=
  String.ofList (digits 4 d.year ++ '-' :: (digits 2 d.month ++ '-' :: (digits 2 d.day ++
    ' ' :: (digits 2 d.hour ++ ':' :: (digits 2 d.minute ++ ':' :: (digits 2 d.second ++
      (fraction d.microsecond ++ offsetText d.utcoffset)))))))

/-- A winter day in a zone one hour ahead of UTC. -/
example : (CivilTime.mk 2024 2 29 12 30 5 60 3600000000).str =
    "2024-02-29 12:30:05.000060+01:00" := by decide

/-! ### Reading the text -/

lemma length_digits (n v : ℕ) : (digits n v).length = n := by
  rw [digits, List.length_map, List.length_reverse, List.length_range]

/-- The digits tell the number up to the power that they cover. -/
lemma mod_eq_of_digits_eq {n v w : ℕ} (h : digits n v = digits n w) : v % 10 ^ n = w % 10 ^ n := by
  have hdigit : ∀ a < 10, ∀ b < 10, Nat.digitChar a = Nat.digitChar b → a = b := by decide
  induction n with
  | zero => rw [Nat.pow_zero, Nat.mod_one, Nat.mod_one]
  | succ n ih =>
      rw [digits, digits, List.range_succ, List.reverse_concat, List.map_cons, List.map_cons,
        List.cons.injEq] at h
      have hlast := hdigit _ (Nat.mod_lt _ (by omega)) _ (Nat.mod_lt _ (by omega)) h.1
      rw [Nat.mod_pow_succ, Nat.mod_pow_succ, ih h.2, hlast]

/-- A field of fixed width tells its number and what follows. -/
lemma digits_append_inj {n v w : ℕ} {s t : List Char} (hv : v < 10 ^ n) (hw : w < 10 ^ n)
    (h : digits n v ++ s = digits n w ++ t) : v = w ∧ s = t := by
  obtain ⟨hdigits, hst⟩ := List.append_inj h (by rw [length_digits, length_digits])
  have hmod := mod_eq_of_digits_eq hdigits
  rw [Nat.mod_eq_of_lt hv, Nat.mod_eq_of_lt hw] at hmod
  exact ⟨hmod, hst⟩

/-- A field and a separator. -/
lemma field_inj {n v w : ℕ} {c : Char} {s t : List Char} (hv : v < 10 ^ n) (hw : w < 10 ^ n)
    (h : digits n v ++ c :: s = digits n w ++ c :: t) : v = w ∧ s = t := by
  obtain ⟨hvw, hst⟩ := digits_append_inj hv hw h
  exact ⟨hvw, (List.cons.inj hst).2⟩

/-- The fraction is read where no point follows it. -/
lemma fraction_inj {v w : ℕ} {s t : List Char} (hv : v < 1000000) (hw : w < 1000000)
    (hs : s.head? ≠ some '.') (ht : t.head? ≠ some '.') (h : fraction v ++ s = fraction w ++ t) :
    v = w ∧ s = t := by
  rw [fraction, fraction] at h
  split at h <;> split at h
  · rename_i hv0 hw0
    exact ⟨hv0.trans hw0.symm, h⟩
  · exact absurd (congrArg List.head? h) hs
  · exact absurd (congrArg List.head? h).symm ht
  · exact digits_append_inj (by omega) (by omega) (List.cons.inj h).2

lemma offsetSeconds_inj {r r' : ℕ} (hr : r < 60000000) (hr' : r' < 60000000)
    (h : offsetSeconds r = offsetSeconds r') : r = r' := by
  rw [offsetSeconds, offsetSeconds] at h
  split at h <;> split at h
  · rename_i h0 h0'
    exact h0.trans h0'.symm
  · exact absurd h (List.cons_ne_nil _ _).symm
  · exact absurd h (List.cons_ne_nil _ _)
  · obtain ⟨hsecond, hrest⟩ := digits_append_inj (by omega) (by omega) (List.cons.inj h).2
    have hfraction : fraction (r % 1000000) ++ [] = fraction (r' % 1000000) ++ [] := by
      rw [hrest]
    obtain ⟨hmicro, -⟩ := fraction_inj (by omega) (by omega) (by simp) (by simp) hfraction
    omega

lemma offsetText_head (o : ℤ) : (offsetText o).head? ≠ some '.' := by
  rw [offsetText]
  split <;> simp

/-- The text of an offset tells the offset. -/
lemma offsetText_inj {o o' : ℤ} (ho : o.natAbs < 86400000000) (ho' : o'.natAbs < 86400000000)
    (h : offsetText o = offsetText o') : o = o' := by
  rw [offsetText, offsetText] at h
  obtain ⟨hsign, hrest⟩ := List.cons.inj h
  obtain ⟨hhour, hrest'⟩ := field_inj (by omega) (by omega) hrest
  obtain ⟨hminute, hseconds⟩ := digits_append_inj (by omega) (by omega) hrest'
  have hsecond := offsetSeconds_inj (by omega) (by omega) hseconds
  have hnegative : o < 0 ↔ o' < 0 := by
    split at hsign <;> split at hsign
    · omega
    · exact absurd hsign (by decide)
    · exact absurd hsign (by decide)
    · omega
  omega

lemma daysInMonth_le (year month : ℕ) : Calendar.daysInMonth year month ≤ 31 := by
  rw [Calendar.daysInMonth]
  split
  · split <;> omega
  · split <;> omega

/-- **The text tells the fields.** -/
theorem str_injective : Function.Injective str := by
  intro d d' h
  have htext := String.ofList_injective h
  obtain ⟨hyear, hyear'⟩ := And.intro d.year_range d'.year_range
  obtain ⟨hmonth, hmonth'⟩ := And.intro d.month_range d'.month_range
  obtain ⟨hday, hday'⟩ := And.intro d.day_range d'.day_range
  have hmax := daysInMonth_le d.year d.month
  have hmax' := daysInMonth_le d'.year d'.month
  have hhour := d.hour_lt
  have hhour' := d'.hour_lt
  have hminute := d.minute_lt
  have hminute' := d'.minute_lt
  have hsecond := d.second_lt
  have hsecond' := d'.second_lt
  obtain ⟨eyear, h₁⟩ := field_inj (by omega) (by omega) htext
  obtain ⟨emonth, h₂⟩ := field_inj (by omega) (by omega) h₁
  obtain ⟨eday, h₃⟩ := field_inj (by omega) (by omega) h₂
  obtain ⟨ehour, h₄⟩ := field_inj (by omega) (by omega) h₃
  obtain ⟨eminute, h₅⟩ := field_inj (by omega) (by omega) h₄
  obtain ⟨esecond, h₆⟩ := digits_append_inj (by omega) (by omega) h₅
  obtain ⟨emicro, h₇⟩ := fraction_inj d.microsecond_lt d'.microsecond_lt
    (offsetText_head _) (offsetText_head _) h₆
  have eoffset := offsetText_inj d.utcoffset_lt d'.utcoffset_lt h₇
  exact CivilTime.ext eyear emonth eday ehour eminute esecond emicro eoffset

end CivilTime
