import Mathlib.Tactic

/-!
Paths and their lexical normal form.

A path is a text; its segments are what stands between the slashes. The normal
form drops empty segments and `.`, so repeated and trailing slashes disappear, and
lets `..` take the segment before it back.

* `segments`, `plain`: the segments, and those that the normal form keeps.
* `normpath`: the normal form; `segments_normpath_absolute` and
  `segments_normpath_relative` give its segments where no segment is `..`.
* `Within`: a directory and everything below it, as texts; `within_iff` is the same
  over segments.
* `Slack`: the texts that spell no segment; `eq_of_plain_eq_cons` splits a text at its
  first kept segment.
* `within_root_iff`, `head_normpath_iff`, `not_within_dotdot`: where a normal form lies.
-/

namespace PosixPath

/-- The segments of a path. -/
def segments (p : List Char) : List (List Char) := p.splitOn '/'

/-- The segment `..`. -/
def dotdot : List Char := ['.', '.']

/-- The segments that are neither empty nor `.`. -/
def plain (segs : List (List Char)) : List (List Char) :=
  segs.filter fun s => s ≠ [] ∧ s ≠ ['.']

/-- One segment of the normalisation. An empty segment and `.` are dropped; `..` takes
a segment back, stays at the root, and is kept where it leads out of a relative
path. -/
def push (absolute : Bool) (done : List (List Char)) (s : List Char) : List (List Char) :=
  if s = [] ∨ s = ['.'] then done
  else if s ≠ dotdot ∨ (absolute = false ∧ done = []) ∨ done.getLast? = some dotdot then done ++ [s]
  else done.dropLast

/-- The segments of the normal form. -/
def resolve (absolute : Bool) (segs : List (List Char)) : List (List Char) :=
  segs.foldl (push absolute) []

/-- The path starts at the root. -/
def isAbsolute (p : List Char) : Bool := p.head? = some '/'

/-- The text of a path with the segments. -/
def render (absolute : Bool) (segs : List (List Char)) : List Char :=
  (if absolute then ['/'] else []) ++ ['/'].intercalate segs

/-- The lexical normal form. -/
def normpath (p : List Char) : List Char :=
  let path := render (isAbsolute p) (resolve (isAbsolute p) (segments p))
  if path = [] then ['.'] else path

/-- The directory or something below it. -/
def Within (dir p : List Char) : Prop := p = dir ∨ dir ++ ['/'] <+: p

/-- The texts of slashes and of `.` segments. -/
inductive Slack : List Char → Prop
  | nil : Slack []
  | slash {a : List Char} : Slack a → Slack ('/' :: a)
  | dot {a : List Char} : Slack a → Slack ('.' :: '/' :: a)

/-- What may follow a segment: nothing, or a slash and a text. -/
def Ended (r : List Char) : Prop := r = [] ∨ ∃ t, r = '/' :: t

/-! ### Segments -/

lemma segments_of_notMem {s : List Char} (h : '/' ∉ s) : segments s = [s] :=
  List.splitOn_eq_singleton h

lemma segments_cons {s : List Char} (h : '/' ∉ s) (r : List Char) :
    segments (s ++ '/' :: r) = s :: segments r :=
  List.splitOn_append_cons_self_of_not_mem h r

@[simp] lemma segments_slash (r : List Char) : segments ('/' :: r) = [] :: segments r :=
  segments_cons List.not_mem_nil r

lemma intercalate_segments (p : List Char) : ['/'].intercalate (segments p) = p :=
  List.intercalate_splitOn '/'

lemma segments_intercalate {segs : List (List Char)} (hslash : ∀ s ∈ segs, '/' ∉ s)
    (hne : segs ≠ []) : segments (['/'].intercalate segs) = segs :=
  List.splitOn_intercalate '/' hslash hne

/-- A text is a segment, or a segment, a slash and a text. -/
lemma cases_segment (p : List Char) :
    '/' ∉ p ∨ ∃ s r, '/' ∉ s ∧ p = s ++ '/' :: r := by
  by_cases h : '/' ∈ p
  · obtain ⟨s, r, hp, hs⟩ := List.eq_append_cons_of_mem h
    exact Or.inr ⟨s, r, hs, hp⟩
  · exact Or.inl h

/-- Induction over the segments. -/
@[elab_as_elim]
lemma segment_induction {motive : List Char → Prop} (last : ∀ s, '/' ∉ s → motive s)
    (slash : ∀ s r, '/' ∉ s → motive r → motive (s ++ '/' :: r)) (p : List Char) : motive p := by
  induction hn : p.length using Nat.strong_induction_on generalizing p with
  | _ n ih =>
    rcases cases_segment p with hp | ⟨s, r, hs, rfl⟩
    · exact last p hp
    · have hlt : r.length < n := by
        rw [← hn, List.length_append, List.length_cons]
        omega
      exact slash s r hs (ih r.length hlt r rfl)

/-- No segment has a slash. -/
lemma slash_notMem {p s : List Char} (h : s ∈ segments p) : '/' ∉ s := by
  induction p using segment_induction with
  | last p hp =>
      rw [segments_of_notMem hp, List.mem_singleton] at h
      exact h ▸ hp
  | slash s' r hs' ih =>
      rw [segments_cons hs', List.mem_cons] at h
      rcases h with rfl | h
      · exact hs'
      · exact ih h

/-- A segment is a part of the text. -/
lemma infix_of_mem {p s : List Char} (h : s ∈ segments p) : s <:+: p := by
  induction p using segment_induction with
  | last p hp =>
      rw [segments_of_notMem hp, List.mem_singleton] at h
      exact h ▸ List.infix_refl p
  | slash s' r hs' ih =>
      rw [segments_cons hs', List.mem_cons] at h
      rcases h with rfl | h
      · exact (List.prefix_append _ _).isInfix
      · exact (ih h).trans ((List.suffix_cons _ r).trans (List.suffix_append _ _)).isInfix

lemma intercalate_append {sep : List Char} {l m : List (List Char)} (hl : l ≠ []) (hm : m ≠ []) :
    sep.intercalate (l ++ m) = sep.intercalate l ++ sep ++ sep.intercalate m := by
  induction l with
  | nil => exact absurd rfl hl
  | cons x l ih =>
      cases l with
      | nil =>
          rw [List.singleton_append, List.intercalate_cons_of_ne_nil hm, List.intercalate_singleton]
      | cons y l =>
          have ih' := ih (List.cons_ne_nil y l)
          rw [List.cons_append, List.intercalate_cons_of_ne_nil (by simp), ih',
            List.intercalate_cons_cons]
          simp only [List.append_assoc]

/-- **A directory and what is below it**, segment by segment. -/
lemma within_iff {dir p : List Char} : Within dir p ↔ segments dir <+: segments p := by
  constructor
  · rintro (rfl | ⟨r, rfl⟩)
    · exact List.prefix_refl _
    · rw [List.append_assoc, List.singleton_append]
      exact ⟨segments r, (List.splitOn_append_cons_self dir r).symm⟩
  · rintro ⟨rest, hrest⟩
    have hp : p = ['/'].intercalate (segments dir ++ rest) := by
      rw [hrest, intercalate_segments]
    cases rest with
    | nil =>
        rw [List.append_nil, intercalate_segments] at hp
        exact Or.inl hp
    | cons s rest =>
        have hne : segments dir ≠ [] := List.splitOn_ne_nil _ _
        refine Or.inr ⟨['/'].intercalate (s :: rest), ?_⟩
        rw [hp, intercalate_append hne (List.cons_ne_nil _ _), intercalate_segments]

/-! ### The kept segments -/

lemma plain_cons_of_keep {s : List Char} (hnil : s ≠ []) (hdot : s ≠ ['.'])
    (segs : List (List Char)) : plain (s :: segs) = s :: plain segs :=
  List.filter_cons_of_pos (by simp [hnil, hdot])

@[simp] lemma plain_cons_nil (segs : List (List Char)) : plain ([] :: segs) = plain segs := by
  simp [plain]

@[simp] lemma plain_cons_dot (segs : List (List Char)) : plain (['.'] :: segs) = plain segs := by
  simp [plain]

lemma mem_plain {s : List Char} {segs : List (List Char)} :
    s ∈ plain segs ↔ s ∈ segs ∧ s ≠ [] ∧ s ≠ ['.'] := by
  simp [plain]

/-- Without `..` a normalisation keeps what is plain and nothing else. -/
lemma foldl_push {absolute : Bool} {segs : List (List Char)} (h : dotdot ∉ segs)
    (done : List (List Char)) : segs.foldl (push absolute) done = done ++ plain segs := by
  induction segs generalizing done with
  | nil => simp [plain]
  | cons s segs ih =>
      obtain ⟨hs, hrest⟩ := List.ne_and_not_mem_of_not_mem_cons h
      rw [List.foldl_cons, ih hrest]
      by_cases hdrop : s = [] ∨ s = ['.']
      · rw [push, if_pos hdrop]
        rcases hdrop with rfl | rfl <;> simp
      · rw [push, if_neg hdrop, if_pos (Or.inl (Ne.symm hs))]
        obtain ⟨hnil, hdot⟩ := not_or.mp hdrop
        rw [plain_cons_of_keep hnil hdot, List.append_assoc, List.singleton_append]

lemma resolve_eq_plain {absolute : Bool} {segs : List (List Char)} (h : dotdot ∉ segs) :
    resolve absolute segs = plain segs := foldl_push h []

/-! ### The segments of a normal form -/

@[simp] lemma isAbsolute_nil : isAbsolute [] = false := rfl

@[simp] lemma isAbsolute_cons (c : Char) (p : List Char) :
    isAbsolute (c :: p) = decide (c = '/') := by
  simp [isAbsolute]

lemma slash_notMem_plain {p s : List Char} (h : s ∈ plain (segments p)) : '/' ∉ s :=
  slash_notMem (mem_plain.mp h).1

lemma intercalate_plain_ne_nil {s : List Char} {segs : List (List Char)} (hs : s ≠ []) :
    ['/'].intercalate (s :: segs) ≠ [] := by
  cases segs with
  | nil => rwa [List.intercalate_singleton]
  | cons t segs =>
      rw [List.intercalate_cons_cons, List.append_assoc]
      exact List.append_ne_nil_of_left_ne_nil hs _

/-- The normal form of a path from the root: the root and the kept segments. -/
lemma segments_normpath_absolute {p s : List Char} {segs : List (List Char)}
    (ha : isAbsolute p = true) (hup : dotdot ∉ segments p)
    (hplain : plain (segments p) = s :: segs) : segments (normpath p) = [] :: s :: segs := by
  have hslash : ∀ t ∈ s :: segs, '/' ∉ t := fun t ht => slash_notMem_plain (hplain ▸ ht)
  have hnorm : normpath p = '/' :: ['/'].intercalate (s :: segs) := by
    rw [normpath, resolve_eq_plain hup, hplain, ha]
    rfl
  rw [hnorm, segments_slash, segments_intercalate hslash (List.cons_ne_nil _ _)]

/-- The normal form of the other paths: the kept segments. -/
lemma segments_normpath_relative {p s : List Char} {segs : List (List Char)}
    (ha : isAbsolute p = false) (hup : dotdot ∉ segments p)
    (hplain : plain (segments p) = s :: segs) : segments (normpath p) = s :: segs := by
  have hslash : ∀ t ∈ s :: segs, '/' ∉ t := fun t ht => slash_notMem_plain (hplain ▸ ht)
  have hs : s ≠ [] := (mem_plain.mp (hplain ▸ List.mem_cons_self)).2.1
  have hnorm : normpath p = ['/'].intercalate (s :: segs) := by
    rw [normpath, resolve_eq_plain hup, hplain, ha]
    exact if_neg (intercalate_plain_ne_nil hs)
  rw [hnorm, segments_intercalate hslash (List.cons_ne_nil _ _)]

/-- A path that keeps no segment is the root or the directory itself. -/
lemma normpath_of_plain_nil {p : List Char} (hup : dotdot ∉ segments p)
    (hplain : plain (segments p) = []) :
    normpath p = if isAbsolute p then ['/'] else ['.'] := by
  rw [normpath, resolve_eq_plain hup, hplain]
  cases isAbsolute p <;> rfl

/-! ### Slack -/

lemma Slack.plain_append {a : List Char} (h : Slack a) (t : List Char) :
    plain (segments (a ++ t)) = plain (segments t) := by
  induction h with
  | nil => rfl
  | slash _ ih => rw [List.cons_append, segments_slash, plain_cons_nil, ih]
  | @dot a _ ih =>
      have hdot : segments ('.' :: '/' :: (a ++ t)) = ['.'] :: segments (a ++ t) :=
        segments_cons (show '/' ∉ ['.'] by decide) _
      rw [List.cons_append, List.cons_append, hdot, plain_cons_dot, ih]

lemma plain_segment {x : List Char} (hx : '/' ∉ x) (hnil : x ≠ []) (hdot : x ≠ ['.']) :
    plain (segments x) = [x] := by
  rw [segments_of_notMem hx, plain_cons_of_keep hnil hdot]
  rfl

lemma plain_segment_cons {x : List Char} (hx : '/' ∉ x) (hnil : x ≠ []) (hdot : x ≠ ['.'])
    (r : List Char) : plain (segments (x ++ '/' :: r)) = x :: plain (segments r) := by
  rw [segments_cons hx, plain_cons_of_keep hnil hdot]

/-- **The first kept segment** of a text comes after slack, and ends the text or is
followed by a slash. -/
lemma eq_of_plain_eq_cons {t x : List Char} {xs : List (List Char)}
    (h : plain (segments t) = x :: xs) :
    ∃ a, Slack a ∧
      (t = a ++ x ∧ xs = [] ∨ ∃ r, t = a ++ x ++ '/' :: r ∧ plain (segments r) = xs) := by
  induction t using segment_induction with
  | last t ht =>
      rw [segments_of_notMem ht] at h
      by_cases hdrop : t = [] ∨ t = ['.']
      · rcases hdrop with rfl | rfl <;> exact absurd h (by simp [plain])
      · obtain ⟨hnil, hdot⟩ := not_or.mp hdrop
        rw [plain_cons_of_keep hnil hdot] at h
        obtain ⟨rfl, hxs⟩ := List.cons.inj h
        exact ⟨[], Slack.nil, Or.inl ⟨rfl, hxs.symm⟩⟩
  | slash s r hs ih =>
      rw [segments_cons hs] at h
      by_cases hdrop : s = [] ∨ s = ['.']
      · -- a dropped segment joins the slack of what follows
        have hr : plain (segments r) = x :: xs := by
          rcases hdrop with rfl | rfl <;> simpa using h
        obtain ⟨a, ha, hsplit⟩ := ih hr
        have hslack : Slack (s ++ '/' :: a) := by
          rcases hdrop with rfl | rfl
          · exact Slack.slash ha
          · exact Slack.dot ha
        refine ⟨s ++ '/' :: a, hslack, ?_⟩
        rcases hsplit with ⟨rfl, hxs⟩ | ⟨r', rfl, hxs⟩
        · exact Or.inl ⟨by simp, hxs⟩
        · exact Or.inr ⟨r', by simp, hxs⟩
      · obtain ⟨hnil, hdot⟩ := not_or.mp hdrop
        rw [plain_cons_of_keep hnil hdot] at h
        obtain ⟨rfl, hxs⟩ := List.cons.inj h
        exact ⟨[], Slack.nil, Or.inr ⟨r, rfl, hxs⟩⟩

/-- A text whose first kept segment is `x`. -/
lemma singleton_prefix_iff {t x : List Char} (hx : '/' ∉ x) (hnil : x ≠ []) (hdot : x ≠ ['.']) :
    [x] <+: plain (segments t) ↔ ∃ a r, Slack a ∧ Ended r ∧ t = a ++ x ++ r := by
  constructor
  · rintro ⟨xs, hxs⟩
    obtain ⟨a, ha, ⟨rfl, -⟩ | ⟨r, rfl, -⟩⟩ := eq_of_plain_eq_cons hxs.symm
    · exact ⟨a, [], ha, Or.inl rfl, (List.append_nil _).symm⟩
    · exact ⟨a, '/' :: r, ha, Or.inr ⟨r, rfl⟩, rfl⟩
  · rintro ⟨a, r, ha, rfl | ⟨r, rfl⟩, rfl⟩
    · rw [List.append_nil, ha.plain_append, plain_segment hx hnil hdot]
    · rw [List.append_assoc, ha.plain_append, plain_segment_cons hx hnil hdot]
      exact ⟨plain (segments r), rfl⟩

/-- A text whose first kept segments are `x` and others. -/
lemma cons_prefix_iff {t x y : List Char} {ys : List (List Char)} (hx : '/' ∉ x) (hnil : x ≠ [])
    (hdot : x ≠ ['.']) :
    x :: y :: ys <+: plain (segments t) ↔
      ∃ a r, Slack a ∧ t = a ++ x ++ '/' :: r ∧ y :: ys <+: plain (segments r) := by
  constructor
  · rintro ⟨xs, hxs⟩
    obtain ⟨a, ha, ⟨-, hlast⟩ | ⟨r, rfl, hr⟩⟩ := eq_of_plain_eq_cons hxs.symm
    · exact absurd hlast (List.cons_ne_nil _ _)
    · exact ⟨a, r, ha, rfl, ⟨xs, hr.symm⟩⟩
  · rintro ⟨a, r, ha, rfl, hr⟩
    rw [List.append_assoc, ha.plain_append, plain_segment_cons hx hnil hdot]
    exact List.cons_prefix_cons.mpr ⟨rfl, hr⟩

/-- A text whose first kept segment starts with `c`. -/
lemma head_plain_iff {t : List Char} {c : Char} (hslash : c ≠ '/') (hdot : c ≠ '.') :
    (∃ s segs, plain (segments t) = (c :: s) :: segs) ↔ ∃ a r, Slack a ∧ t = a ++ c :: r := by
  constructor
  · rintro ⟨s, segs, hplain⟩
    obtain ⟨a, ha, ⟨rfl, -⟩ | ⟨r, rfl, -⟩⟩ := eq_of_plain_eq_cons hplain
    · exact ⟨a, s, ha, rfl⟩
    · exact ⟨a, s ++ '/' :: r, ha, by simp⟩
  · rintro ⟨a, r, ha, rfl⟩
    rw [ha.plain_append]
    have hkeep : ∀ s : List Char, c :: s ≠ ['.'] := fun s heq => hdot (List.cons.inj heq).1
    rcases cases_segment (c :: r) with hr | ⟨s, r', hs, hsplit⟩
    · exact ⟨r, [], plain_segment hr (List.cons_ne_nil _ _) (hkeep r)⟩
    · cases s with
      | nil => exact absurd (List.cons.inj hsplit).1 hslash
      | cons d s =>
          obtain ⟨rfl, hr⟩ := List.cons.inj hsplit
          rw [hsplit]
          exact ⟨s, _, plain_segment_cons hs (List.cons_ne_nil _ _) (hkeep s) r'⟩

/-! ### Where a normal form lies -/

/-- A path lies in a directory of the root when it starts at the root and its kept
segments start with the directory's. -/
lemma within_root_iff {p dir d : List Char} {ds : List (List Char)} (hup : dotdot ∉ segments p)
    (hdir : segments dir = [] :: d :: ds) (hd : d ≠ []) :
    Within dir (normpath p) ↔ isAbsolute p = true ∧ d :: ds <+: plain (segments p) := by
  rw [within_iff, hdir]
  cases hplain : plain (segments p) with
  | nil =>
      have hroot : segments ['/'] = [[], []] := rfl
      have hself : segments ['.'] = [['.']] := rfl
      rw [normpath_of_plain_nil hup hplain]
      cases isAbsolute p <;> simp [hroot, hself, hd]
  | cons s segs =>
      have hs : s ≠ [] := (mem_plain.mp (hplain ▸ List.mem_cons_self)).2.1
      cases ha : isAbsolute p with
      | true => rw [segments_normpath_absolute ha hup hplain, List.cons_prefix_cons]; simp
      | false =>
          rw [segments_normpath_relative ha hup hplain, List.cons_prefix_cons]
          simp [hs.symm]

/-- The first character of a normal form, other than a slash and a dot. -/
lemma head_normpath_iff {p : List Char} {c : Char} (hup : dotdot ∉ segments p) (hslash : c ≠ '/')
    (hdot : c ≠ '.') :
    (normpath p).head? = some c ↔
      isAbsolute p = false ∧ ∃ s segs, plain (segments p) = (c :: s) :: segs := by
  cases hplain : plain (segments p) with
  | nil =>
      rw [normpath_of_plain_nil hup hplain]
      cases isAbsolute p <;> simp [hslash.symm, hdot.symm]
  | cons s segs =>
      have hs : s ≠ [] := (mem_plain.mp (hplain ▸ List.mem_cons_self)).2.1
      obtain ⟨d, s, rfl⟩ := List.exists_cons_of_ne_nil hs
      rw [normpath, resolve_eq_plain hup, hplain]
      cases ha : isAbsolute p with
      | true => simp [render, hslash.symm]
      | false =>
          have hrender :
              render false ((d :: s) :: segs) = ['/'].intercalate ((d :: s) :: segs) := rfl
          rw [hrender, if_neg (intercalate_plain_ne_nil hs)]
          cases segs <;> simp [List.intercalate_cons_cons]

/-- Without a segment `..` no normal form climbs. -/
lemma not_within_dotdot {p : List Char} (hup : dotdot ∉ segments p) :
    ¬ Within dotdot (normpath p) := by
  have hdir : segments dotdot = [dotdot] := rfl
  rw [within_iff, hdir]
  cases hplain : plain (segments p) with
  | nil =>
      rw [normpath_of_plain_nil hup hplain]
      cases isAbsolute p <;> decide
  | cons s segs =>
      have hs : dotdot ≠ s := by
        rintro rfl
        exact hup (mem_plain.mp (hplain ▸ List.mem_cons_self)).1
      cases ha : isAbsolute p with
      | true =>
          rw [segments_normpath_absolute ha hup hplain, List.cons_prefix_cons]
          exact fun h => absurd h.1 (by decide)
      | false =>
          rw [segments_normpath_relative ha hup hplain, List.cons_prefix_cons]
          exact fun h => hs h.1

end PosixPath
