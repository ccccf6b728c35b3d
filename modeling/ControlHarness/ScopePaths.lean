import ControlHarness.Contracts.Models
import ControlHarness.General.Fallible
import ControlHarness.General.PosixPath

/-!
The paths of a scope: `Scope.reject_unsafe_paths` of `contracts.py`.

* `rejectUnsafePaths`: the validator; `rejectUnsafePaths_eq_ok` says which lists it
  accepts.
* `Confined`: the normal form of a path lies outside the two protected directories and
  the home directories, and does not climb.
* `Missed`: the spellings of a protected path that no forbidden prefix matches. The
  prefixes end in a slash and are compared with the path as it is written, so the
  directories themselves, repeated slashes and `.` segments pass.
* `confined_iff`: the accepted paths are confined except in those spellings.
-/

namespace ControlHarness

open PosixPath

/-- The check of one path. -/
def rejectUnsafePath (path : String) : Except String Unit :=
  if isSafePath path then .ok () else .error ("unsafe path reference: " ++ path)

/-- `Scope.reject_unsafe_paths`; the error is the message of the `ValueError`. -/
def rejectUnsafePaths (paths : List String) : Except String (List String) := do
  paths.forM rejectUnsafePath
  return paths

/-- **A confined path**: where its normal form does not lie. -/
structure Confined (path : String) : Prop where
  not_etc : ¬ Within "/etc".toList (normpath path.toList)
  not_var_run : ¬ Within "/var/run".toList (normpath path.toList)
  not_home : (normpath path.toList).head? ≠ some '~'
  no_climb : ¬ Within dotdot (normpath path.toList)

/-- **The spellings that the validator misses**: a protected directory or home, with
slashes and `.` segments before its names. -/
inductive Missed : List Char → Prop
  | etc {a r : List Char} : Slack a → Ended r → Missed ('/' :: a ++ "etc".toList ++ r)
  | varRun {a b r : List Char} :
      Slack a → Slack b → Ended r → Missed ('/' :: a ++ "var/".toList ++ b ++ "run".toList ++ r)
  | home {a r : List Char} : Slack a → Missed ("./".toList ++ a ++ '~' :: r)

variable {path : String} {paths accepted : List String}

/-! ### What the validator accepts -/

lemma rejectUnsafePath_eq_ok : rejectUnsafePath path = .ok () ↔ isSafePath path = true := by
  rw [rejectUnsafePath]
  split <;> simp_all

lemma rejectUnsafePaths_eq_ok :
    rejectUnsafePaths paths = .ok accepted ↔
      accepted = paths ∧ ∀ p ∈ paths, isSafePath p = true := by
  have hloop : paths.forM rejectUnsafePath = .ok () ↔ ∀ p ∈ paths, isSafePath p = true := by
    rw [List.forM_eq_ok]
    exact forall₂_congr fun p _ => rejectUnsafePath_eq_ok
  rw [rejectUnsafePaths, Except.bind_eq_ok]
  constructor
  · rintro ⟨⟨⟩, hchecks, hreturn⟩
    exact ⟨(Except.ok.inj hreturn).symm, hloop.mp hchecks⟩
  · rintro ⟨rfl, hsafe⟩
    exact ⟨(), hloop.mpr hsafe, rfl⟩

/-- Both lists of a scope pass the validator. -/
lemma Scope.rejectUnsafePaths_eq_ok (s : Scope) :
    rejectUnsafePaths s.includePaths = .ok s.includePaths ∧
      rejectUnsafePaths s.excludePaths = .ok s.excludePaths := by
  have hinclude : ∀ p ∈ s.includePaths, isSafePath p = true := fun p hp =>
    s.path_safe p (List.mem_append_left _ hp)
  have hexclude : ∀ p ∈ s.excludePaths, isSafePath p = true := fun p hp =>
    s.path_safe p (List.mem_append_right _ hp)
  exact ⟨ControlHarness.rejectUnsafePaths_eq_ok.mpr ⟨rfl, hinclude⟩,
    ControlHarness.rejectUnsafePaths_eq_ok.mpr ⟨rfl, hexclude⟩⟩

/-- No segment of an accepted path is `..`, which would be a part of its text. -/
lemma dotdot_notMem (h : isSafePath path = true) : dotdot ∉ segments path.toList := by
  intro hmem
  obtain ⟨s, t, hpath⟩ := infix_of_mem hmem
  have htail : dotdot ++ t ∈ path.toList.tails := by
    rw [List.mem_tails, ← hpath, List.append_assoc]
    exact List.suffix_append s _
  have hsome : (path.toList.tails.any fun u => "..".toList.isPrefixOf u) = true :=
    List.any_eq_true.mpr ⟨_, htail, List.isPrefixOf_iff_prefix.mpr (List.prefix_append _ t)⟩
  rw [isSafePath, hsome, Bool.not_true, Bool.and_false] at h
  exact Bool.false_ne_true h

/-- No accepted path starts with `~`. -/
lemma head_ne_home (h : isSafePath path = true) : path.toList.head? ≠ some '~' := by
  intro hhead
  obtain ⟨t, ht⟩ : ∃ t, path.toList = '~' :: t := List.head?_eq_some_iff.mp hhead
  rw [isSafePath, ht] at h
  simp at h

/-! ### The spellings of a protected path -/

lemma isAbsolute_eq_true {p : List Char} : isAbsolute p = true ↔ ∃ t, p = '/' :: t := by
  rw [isAbsolute, decide_eq_true_iff, List.head?_eq_some_iff]

lemma plain_slash (t : List Char) : plain (segments ('/' :: t)) = plain (segments t) := by
  rw [segments_slash, plain_cons_nil]

/-- `/etc` and what lies below it. -/
lemma within_etc_iff {p : List Char} (hup : dotdot ∉ segments p) :
    Within "/etc".toList (normpath p) ↔
      ∃ a r, Slack a ∧ Ended r ∧ p = '/' :: a ++ "etc".toList ++ r := by
  have hdir : segments "/etc".toList = [] :: "etc".toList :: [] := by decide
  rw [within_root_iff hup hdir (by decide), isAbsolute_eq_true]
  constructor
  · rintro ⟨⟨t, rfl⟩, hplain⟩
    rw [plain_slash, singleton_prefix_iff (by decide) (by decide) (by decide)] at hplain
    obtain ⟨a, r, ha, hr, rfl⟩ := hplain
    exact ⟨a, r, ha, hr, rfl⟩
  · rintro ⟨a, r, ha, hr, rfl⟩
    refine ⟨⟨_, rfl⟩, ?_⟩
    rw [List.cons_append, List.cons_append, plain_slash,
      singleton_prefix_iff (by decide) (by decide) (by decide)]
    exact ⟨a, r, ha, hr, rfl⟩

/-- `/var/run` and what lies below it. -/
lemma within_var_run_iff {p : List Char} (hup : dotdot ∉ segments p) :
    Within "/var/run".toList (normpath p) ↔
      ∃ a b r, Slack a ∧ Slack b ∧ Ended r ∧
        p = '/' :: a ++ "var/".toList ++ b ++ "run".toList ++ r := by
  have hdir : segments "/var/run".toList = [] :: "var".toList :: ["run".toList] := by decide
  have hvar : "var/".toList = "var".toList ++ ['/'] := by decide
  rw [within_root_iff hup hdir (by decide), isAbsolute_eq_true]
  constructor
  · rintro ⟨⟨t, rfl⟩, hplain⟩
    rw [plain_slash, cons_prefix_iff (by decide) (by decide) (by decide)] at hplain
    obtain ⟨a, t, ha, rfl, hrun⟩ := hplain
    obtain ⟨b, r, hb, hr, rfl⟩ :=
      (singleton_prefix_iff (by decide) (by decide) (by decide)).mp hrun
    exact ⟨a, b, r, ha, hb, hr, by simp [hvar]⟩
  · rintro ⟨a, b, r, ha, hb, hr, rfl⟩
    refine ⟨⟨a ++ "var/".toList ++ b ++ "run".toList ++ r, by simp⟩, ?_⟩
    have hrun : ["run".toList] <+: plain (segments (b ++ "run".toList ++ r)) :=
      (singleton_prefix_iff (by decide) (by decide) (by decide)).mpr ⟨b, r, hb, hr, rfl⟩
    have hplain : ["var".toList, "run".toList] <+:
        plain (segments (a ++ "var".toList ++ '/' :: (b ++ "run".toList ++ r))) :=
      (cons_prefix_iff (by decide) (by decide) (by decide)).mpr ⟨a, _, ha, rfl, hrun⟩
    have hp : '/' :: a ++ "var/".toList ++ b ++ "run".toList ++ r =
        '/' :: (a ++ "var".toList ++ '/' :: (b ++ "run".toList ++ r)) := by
      simp [hvar]
    rw [hp, plain_slash]
    exact hplain

/-- A home directory: an accepted path does not start with `~` itself. -/
lemma home_iff {p : List Char} (hup : dotdot ∉ segments p) (hhead : p.head? ≠ some '~') :
    (normpath p).head? = some '~' ↔ ∃ a r, Slack a ∧ p = "./".toList ++ a ++ '~' :: r := by
  rw [head_normpath_iff hup (by decide) (by decide), head_plain_iff (by decide) (by decide)]
  constructor
  · rintro ⟨habs, a, r, ha, rfl⟩
    cases ha with
    | nil => exact absurd rfl hhead
    | slash _ => exact absurd habs (by simp)
    | @dot a ha => exact ⟨a, r, ha, rfl⟩
  · rintro ⟨a, r, ha, rfl⟩
    exact ⟨rfl, "./".toList ++ a, r, Slack.dot ha, rfl⟩

/-- The normal form of a path without `..` is protected in the missed spellings. -/
lemma confined_iff_not_missed (h : isSafePath path = true) :
    Confined path ↔ ¬ Missed path.toList := by
  have hup := dotdot_notMem h
  have hhome := home_iff hup (head_ne_home h)
  constructor
  · intro hconf hmissed
    generalize hp : path.toList = p at hmissed
    cases hmissed with
    | etc ha hr => exact hconf.not_etc ((within_etc_iff hup).mpr ⟨_, _, ha, hr, hp⟩)
    | varRun ha hb hr =>
        exact hconf.not_var_run ((within_var_run_iff hup).mpr ⟨_, _, _, ha, hb, hr, hp⟩)
    | home ha => exact hconf.not_home (hhome.mpr ⟨_, _, ha, hp⟩)
  · intro hmissed
    refine ⟨fun hetc => ?_, fun hrun => ?_, fun hhead => ?_, not_within_dotdot hup⟩
    · obtain ⟨a, r, ha, hr, hp⟩ := (within_etc_iff hup).mp hetc
      exact hmissed (hp ▸ Missed.etc ha hr)
    · obtain ⟨a, b, r, ha, hb, hr, hp⟩ := (within_var_run_iff hup).mp hrun
      exact hmissed (hp ▸ Missed.varRun ha hb hr)
    · obtain ⟨a, r, ha, hp⟩ := hhome.mp hhead
      exact hmissed (hp ▸ Missed.home ha)

/-! ### The accepted paths -/

/-- **The accepted paths are confined** except in the missed spellings. -/
theorem confined_iff (h : rejectUnsafePaths paths = .ok accepted) :
    ∀ p ∈ accepted, (Confined p ↔ ¬ Missed p.toList) := by
  intro p hp
  obtain ⟨rfl, hsafe⟩ := rejectUnsafePaths_eq_ok.mp h
  exact confined_iff_not_missed (hsafe p hp)

/-- A path of a workspace, and one that leads to a home. -/
theorem confined_iff_sample : Confined "src/harness" ∧ ¬ Confined ".//~/.ssh" := by
  have haccepted : rejectUnsafePaths ["src/harness", ".//~/.ssh"] =
      .ok ["src/harness", ".//~/.ssh"] := by decide
  have hiff := confined_iff haccepted
  constructor
  · rw [hiff _ (by simp)]
    intro hmissed
    generalize hp : "src/harness".toList = p at hmissed
    cases hmissed with
    | etc => exact absurd (List.cons.inj hp).1 (by decide)
    | varRun => exact absurd (List.cons.inj hp).1 (by decide)
    | home => exact absurd (List.cons.inj hp).1 (by decide)
  · rw [hiff _ (by simp), not_not]
    show Missed ("./".toList ++ ['/'] ++ '~' :: "/.ssh".toList)
    exact Missed.home (Slack.slash Slack.nil)

/-- `/etc` itself and a spelling of `/etc/passwd` are accepted. -/
theorem not_confined :
    rejectUnsafePaths ["/etc", "//etc/passwd"] = .ok ["/etc", "//etc/passwd"] ∧
      ¬ Confined "/etc" ∧ ¬ Confined "//etc/passwd" := by
  refine ⟨by decide, fun h => h.not_etc (Or.inl ?_), fun h => h.not_etc (Or.inr ?_)⟩ <;> decide

end ControlHarness
