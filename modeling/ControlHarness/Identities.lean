import ControlHarness.Auth

/-!
The isolation of the identities.

`authenticate` compares the supplied token with the token files one after the
other, so the answer for one identity depends on the files of those before it.
The answer is the one of the identity that holds the token, or the refusal when
none does, exactly when the files before its own can be read and every text that
is compared is ASCII (`isolatedTotal_iff`); otherwise an error goes up that the
middleware does not handle. A missing file of the first identity thereby shuts
out the second (`not_isolatedTotal`).

* `TokenAuthorizer.carried`, `TokenAuthorizer.Holds`: the token of a header, and
  the principals whose file holds a token.
* `TokenAuthorizer.IsolatedTotal`: the law; `TokenAuthorizer.Unobstructed` its
  condition.
-/

namespace ControlHarness

open Text

/-- A text that `compare_digest` takes. -/
def isAscii (s : String) : Bool := s.toList.all (·.toNat < 128)

/-- An error of the authorizer that is no refusal: the middleware handles neither. -/
def AuthRaised.Internal : AuthRaised → Prop
  | authentication _ | authorization _ => False
  | runtime _ | unicode | typeError => True

lemma compareDigest_of_isAscii {a b : String} (ha : isAscii a = true) (hb : isAscii b = true) :
    compareDigest a b = .ok (a = b) := by
  have hboth : (a.toList.all (·.toNat < 128) && b.toList.all (·.toNat < 128)) = true := by
    rw [Bool.and_eq_true]
    exact ⟨ha, hb⟩
  rw [compareDigest, if_pos hboth]

lemma compareDigest_of_not_isAscii {a b : String} (h : ¬ (isAscii a = true ∧ isAscii b = true)) :
    compareDigest a b = .error .typeError := by
  have hboth : ¬ (a.toList.all (·.toNat < 128) && b.toList.all (·.toNat < 128)) = true := by
    rw [Bool.and_eq_true]
    exact h
  rw [compareDigest, if_neg hboth]

lemma readToken_internal {files : Files} {path : Option String} {e : AuthRaised}
    (h : readToken files path = .error e) : e.Internal := by
  rw [readToken.eq_def] at h
  split at h
  · obtain rfl := Except.error.inj h
    trivial
  · split at h
    · obtain rfl := Except.error.inj h
      trivial
    · obtain rfl := Except.error.inj h
      trivial
    · dsimp only at h
      split at h
      · obtain rfl := Except.error.inj h
        trivial
      · exact absurd h (by simp)

namespace TokenAuthorizer

variable {files : Files} {supplied token scope : String} {ps : List Principal} {p : Principal}

/-- The token that a header carries. -/
def carried (authorization : Option String) : Option String :=
  (authorization.filter (startsWith · "Bearer ")).map fun header =>
    strip isPySpace (removePrefix header "Bearer ")

/-- The file of the principal holds the token. -/
def Holds (files : Files) (token : String) (p : Principal) : Prop :=
  readToken files p.tokenFile = .ok token

instance (p : Principal) : Decidable (Holds files token p) :=
  decidable_of_iff ((readToken files p.tokenFile).toOption = some token) <| by
    cases h : readToken files p.tokenFile <;> simp [Holds, h, Except.toOption]

/-- The file of the principal holds a token that can be compared. -/
def Comparable (files : Files) (p : Principal) : Prop :=
  ∃ token, readToken files p.tokenFile = .ok token ∧ isAscii token = true

/-- What the holder of the token is told. -/
def verdict (scope : String) (p : Principal) : Except AuthRaised Principal :=
  if p.allows scope then .ok p
  else .error (.authorization ("principal " ++ p.name ++ " lacks scope " ++ scope))

/-- Nothing gets in the way of the token: it can be compared, and so can those of
the principals before its first holder. -/
def Unobstructed (files : Files) (token : String) (ps : List Principal) : Prop :=
  (ps ≠ [] → isAscii token = true) ∧
    ∀ p ∈ ps.takeWhile (¬ Holds files token ·), Comparable files p

lemma unobstructed_nil : Unobstructed files supplied [] :=
  ⟨fun h => absurd rfl h, fun _ hp => absurd hp List.not_mem_nil⟩

lemma unobstructed_cons_of_holds (h : Holds files supplied p) :
    Unobstructed files supplied (p :: ps) ↔ isAscii supplied = true := by
  simp [Unobstructed, h]

lemma unobstructed_cons_of_not_holds (h : ¬ Holds files supplied p) :
    Unobstructed files supplied (p :: ps) ↔
      isAscii supplied = true ∧ Comparable files p ∧ Unobstructed files supplied ps := by
  simp only [Unobstructed, List.takeWhile_cons, h, not_false_eq_true, decide_true, if_true,
    List.forall_mem_cons]
  constructor
  · rintro ⟨hascii, hp, hrest⟩
    have hs := hascii (List.cons_ne_nil _ _)
    exact ⟨hs, hp, fun _ => hs, hrest⟩
  · rintro ⟨hs, hp, -, hrest⟩
    exact ⟨fun _ => hs, hp, hrest⟩

lemma findPrincipal_cons_ok (h : readToken files p.tokenFile = .ok token)
    (hs : isAscii supplied = true) (ht : isAscii token = true) :
    findPrincipal files supplied scope (p :: ps) =
      if supplied = token then verdict scope p else findPrincipal files supplied scope ps := by
  rw [findPrincipal, h]
  simp only [bind, Except.bind, compareDigest_of_isAscii hs ht, verdict, pure, Except.pure]
  by_cases heq : supplied = token
  · rw [if_pos heq, if_pos (decide_eq_true heq)]
  · rw [if_neg heq, decide_eq_false heq, if_neg Bool.false_ne_true]

/-- **The loop, unobstructed**: the first holder of the token decides. -/
lemma findPrincipal_of_unobstructed (h : Unobstructed files supplied ps) :
    findPrincipal files supplied scope ps =
      match ps.find? (Holds files supplied ·) with
      | some p => verdict scope p
      | none => .error (.authentication "bearer token invalid or revoked") := by
  induction ps with
  | nil => rfl
  | cons p ps ih =>
      by_cases hp : Holds files supplied p
      · have hs := (unobstructed_cons_of_holds hp).mp h
        rw [findPrincipal_cons_ok hp hs hs, if_pos rfl]
        simp only [List.find?_cons, decide_eq_true hp]
      · obtain ⟨hs, ⟨token, htoken, ht⟩, hrest⟩ := (unobstructed_cons_of_not_holds hp).mp h
        have hne : supplied ≠ token := by
          rintro rfl
          exact hp htoken
        rw [findPrincipal_cons_ok htoken hs ht, if_neg hne, ih hrest]
        simp only [List.find?_cons, decide_eq_false hp]

/-- **The loop, obstructed**: an error that is no refusal goes up. -/
lemma findPrincipal_of_obstructed (scope : String) (h : ¬ Unobstructed files supplied ps) :
    ∃ e, findPrincipal files supplied scope ps = .error e ∧ e.Internal := by
  induction ps with
  | nil => exact absurd unobstructed_nil h
  | cons p ps ih =>
      cases hread : readToken files p.tokenFile with
      | error e =>
          refine ⟨e, ?_, readToken_internal hread⟩
          rw [findPrincipal, hread]
          rfl
      | ok token =>
          by_cases hboth : isAscii supplied = true ∧ isAscii token = true
          · obtain ⟨hs, ht⟩ := hboth
            have hp : ¬ Holds files supplied p := fun hp =>
              h ((unobstructed_cons_of_holds hp).mpr hs)
            have hne : supplied ≠ token := by
              rintro rfl
              exact hp hread
            rw [findPrincipal_cons_ok hread hs ht, if_neg hne]
            refine ih fun hrest => h ?_
            exact (unobstructed_cons_of_not_holds hp).mpr ⟨hs, ⟨token, hread, ht⟩, hrest⟩
          · refine ⟨.typeError, ?_, trivial⟩
            rw [findPrincipal, hread]
            simp only [bind, Except.bind, compareDigest_of_not_isAscii hboth]

/-! ### The law -/

/-- The only holder of the token of the header is told what its scopes allow, and
a header without a token that is held is refused. -/
def IsolatedTotal (ps : List Principal) (files : Files) (authorization : Option String)
    (scope : String) : Prop :=
  (∀ token p, carried authorization = some token → ps.filter (Holds files token ·) = [p] →
    authenticate ⟨ps, true⟩ files authorization scope = verdict scope p) ∧
  ((∀ token, carried authorization = some token → ps.filter (Holds files token ·) = []) →
    ∃ detail, authenticate ⟨ps, true⟩ files authorization scope = .error (.authentication detail))

lemma authenticate_of_carried {authorization : Option String}
    (h : carried authorization = some token) :
    authenticate ⟨ps, true⟩ files authorization scope = findPrincipal files token scope ps := by
  obtain ⟨header, hheader, rfl⟩ := Option.map_eq_some_iff.mp h
  obtain ⟨rfl, hbearer⟩ := Option.filter_eq_some_iff.mp hheader
  rw [authenticate, Bool.not_true, if_neg Bool.false_ne_true]
  exact if_pos hbearer

lemma authenticate_of_not_carried {authorization : Option String}
    (h : carried authorization = none) :
    authenticate ⟨ps, true⟩ files authorization scope =
      .error (.authentication "bearer token required") := by
  rw [authenticate.eq_def, Bool.not_true, if_neg Bool.false_ne_true]
  cases authorization with
  | none => rfl
  | some header =>
      refine if_neg fun hbearer => ?_
      simp [carried, Option.filter, hbearer] at h

/-- **The identities are isolated** exactly when the header carries no token, or
one that several principals share, or nothing gets in the way of its token. -/
theorem isolatedTotal_iff (ps : List Principal) (files : Files) (authorization : Option String)
    (scope : String) :
    IsolatedTotal ps files authorization scope ↔
      ∀ token, carried authorization = some token →
        1 < (ps.filter (Holds files token ·)).length ∨ Unobstructed files token ps := by
  constructor
  · rintro ⟨hheld, hnone⟩ token hcarried
    by_contra hnot
    rw [not_or, not_lt] at hnot
    obtain ⟨hcount, hobstructed⟩ := hnot
    obtain ⟨e, he, hinternal⟩ := findPrincipal_of_obstructed scope hobstructed
    rw [← authenticate_of_carried hcarried] at he
    cases hfilter : ps.filter (Holds files token ·) with
    | nil =>
        obtain ⟨detail, hdetail⟩ := hnone fun token' htoken' => by
          obtain rfl := Option.some.inj (hcarried.symm.trans htoken')
          exact hfilter
        obtain rfl := Except.error.inj (he.symm.trans hdetail)
        exact hinternal
    | cons p rest =>
        rw [hfilter, List.length_cons] at hcount
        obtain rfl : rest = [] := List.eq_nil_of_length_eq_zero (by omega)
        have hverdict := he.symm.trans (hheld token p hcarried hfilter)
        rw [verdict] at hverdict
        split at hverdict
        · exact absurd hverdict (by simp)
        · obtain rfl := Except.error.inj hverdict
          exact hinternal
  · intro h
    constructor
    · intro token p hcarried hfilter
      have hcount : ¬ 1 < (ps.filter (Holds files token ·)).length := by
        rw [hfilter, List.length_singleton]
        omega
      have hfind : ps.find? (Holds files token ·) = some p := by
        rw [← List.head?_filter, hfilter, List.head?_cons]
      rw [authenticate_of_carried hcarried,
        findPrincipal_of_unobstructed ((h token hcarried).resolve_left hcount), hfind]
    · intro hnone
      cases hcarried : carried authorization with
      | none => exact ⟨_, authenticate_of_not_carried hcarried⟩
      | some token =>
          have hfilter := hnone token hcarried
          have hcount : ¬ 1 < (ps.filter (Holds files token ·)).length := by
            rw [hfilter, List.length_nil]
            omega
          have hfind : ps.find? (Holds files token ·) = none := by
            rw [← List.head?_filter, hfilter, List.head?_nil]
          refine ⟨"bearer token invalid or revoked", ?_⟩
          rw [authenticate_of_carried hcarried,
            findPrincipal_of_unobstructed ((h token hcarried).resolve_left hcount), hfind]

/-- A missing file of the first identity shuts out the second. -/
theorem not_isolatedTotal :
    ¬ ∀ ps files authorization scope, IsolatedTotal ps files authorization scope := by
  intro h
  let first : Principal := ⟨"svc-panda-orchestrator", "orchestrator", ["tasks:read"], some "o"⟩
  let second : Principal := ⟨"svc-hermes-nas", "hermes_nas", nasScopes, some "n"⟩
  let token := "wwwwwwwwwwwwwwwwwwwwwwwwwwwwwwww"
  let files : Files := fun path => if path = "n" then .text token else .osError
  obtain ⟨hheld, -⟩ := h [first, second] files (some ("Bearer " ++ token)) "tasks:read"
  have hcarried : carried (some ("Bearer " ++ token)) = some token := by decide +kernel
  have hblocked : authenticate ⟨[first, second], true⟩ files (some ("Bearer " ++ token))
      "tasks:read" = .error (.runtime "cannot read token file o") := by decide +kernel
  have hfilter : [first, second].filter (Holds files token ·) = [second] := by decide +kernel
  exact absurd (hblocked.symm.trans (hheld token second hcarried hfilter)) (by decide +kernel)

end TokenAuthorizer

end ControlHarness
