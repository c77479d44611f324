import OrdersBackend.Accounts.Emails

/-!
# The request for a new password

`password_reset` answers a known email and an unknown one alike, so that nobody learns who has
an account.  It asks for the one user with the email: when several users have it the query
raises, and no clause catches that.

Whether several users can have an email is up to the registrations: to how they spell it, and to
which of them come in between the two steps of another one.  `passwordReset_same_iff` says between
which runs of registrations the answer tells no difference.
-/

namespace OrdersBackend

open Framework

/-! ## The view -/

/-- The exceptions of `objects.get`. -/
inductive QueryError
  | doesNotExist
  | multipleObjectsReturned
  deriving DecidableEq, Repr

/-- The body of an answer. -/
inductive PasswordResetAnswer
  | message (text : String)
  | invalid (errors : List String)
  deriving DecidableEq, Repr

def PasswordResetAnswer.status : PasswordResetAnswer → ℕ
  | message _ => 200
  | invalid _ => 400

def AccountsDb.usersWith (db : AccountsDb) (email : String) : List (ℕ × User) :=
  db.users.rows.filter fun r => r.2.email = email

/-- `User.objects.get(email=email)`. -/
def AccountsDb.getByEmail (db : AccountsDb) (email : String) : Except QueryError (ℕ × User) :=
  match db.usersWith email with
  | [] => .error .doesNotExist
  | [user] => .ok user
  | _ :: _ :: _ => .error .multipleObjectsReturned

namespace UserViewSet

def instructionsSent : PasswordResetAnswer :=
  .message "Инструкции по восстановлению пароля отправлены на ваш email"

/-- `password_reset`, for what `PasswordResetSerializer` makes of a request: the email, or the
messages of its field. -/
def passwordReset (db : AccountsDb) (body : Except (List String) String) :
    Except QueryError PasswordResetAnswer :=
  match body with
  | .error errors => .ok (.invalid errors)
  | .ok email =>
    match db.getByEmail email with
    | .ok _ => .ok instructionsSent
    | .error .doesNotExist => .ok instructionsSent
    | .error .multipleObjectsReturned => .error .multipleObjectsReturned

variable {normalizeUsername normalizeEmail : String → String} {db db' : AccountsDb}
  {email : String}

/-- The answer is the same one whenever there is one, and there is none when several users have
the email. -/
lemma passwordReset_eq_ok_iff {answer : PasswordResetAnswer} :
    passwordReset db (.ok email) = .ok answer ↔
      (db.usersWith email).length ≤ 1 ∧ answer = instructionsSent := by
  rw [passwordReset, AccountsDb.getByEmail]
  rcases db.usersWith email with _ | ⟨user, _ | ⟨user', users⟩⟩
  · simp [eq_comm]
  · simp [eq_comm]
  · simp

lemma passwordReset_same_iff_length :
    (∃ answer, passwordReset db (.ok email) = .ok answer ∧
      passwordReset db' (.ok email) = .ok answer) ↔
      (db.usersWith email).length ≤ 1 ∧ (db'.usersWith email).length ≤ 1 := by
  simp only [passwordReset_eq_ok_iff]
  constructor
  · rintro ⟨answer, ⟨h, -⟩, h', -⟩
    exact ⟨h, h'⟩
  · rintro ⟨h, h'⟩
    exact ⟨instructionsSent, ⟨h, rfl⟩, h', rfl⟩

/-! ## The users with an email -/

variable (normalizeUsername normalizeEmail)

/-- When a step completes a request with the email, that request keeps clear of its rivals. -/
def CompletesOnce (email : String) (s : Registrations) : RegistrationStep → Prop
  | .validate _ => True
  | .create request code₁ _ =>
    ∀ w, s.pending[request]? = some w → storedEmail normalizeEmail w.data = email →
      KeepsClear normalizeUsername normalizeEmail s code₁ w

variable {normalizeUsername normalizeEmail}

/-- Nobody has the email. -/
lemma usersWith_eq_nil_iff :
    db.usersWith email = [] ↔ ∀ r ∈ db.users.rows, r.2.email ≠ email := by
  simp [AccountsDb.usersWith, List.filter_eq_nil_iff]

/-- A creation adds its user at the end of the table, or nothing. -/
lemma usersWith_complete (code₁ code₂ : String) (data : ValidData) (db : AccountsDb)
    (email : String) :
    ((completeRegistration normalizeUsername normalizeEmail code₁ code₂ data.1 db).2.usersWith
      email).length = (db.usersWith email).length +
        if storedEmail normalizeEmail data = email ∧
          StoresUser normalizeUsername normalizeEmail db code₁ data then 1 else 0 := by
  by_cases hstores : StoresUser normalizeUsername normalizeEmail db code₁ data
  · obtain ⟨code, husers⟩ := users_completeRegistration normalizeUsername normalizeEmail code₁
      code₂ data.2 hstores
    rw [AccountsDb.usersWith, husers, Table.rows_insert, List.filter_append, List.length_append,
      List.filter_singleton]
    have hemail : (userOf normalizeUsername normalizeEmail code₁ data.1).email =
        storedEmail normalizeEmail data := rfl
    rw [hemail]
    by_cases hstored : storedEmail normalizeEmail data = email
    · rw [if_pos ⟨hstored, hstores⟩, decide_eq_true hstored]
      rfl
    · rw [if_neg fun h => hstored h.1, decide_eq_false hstored]
      rfl
  · rw [completeRegistration_of_not_fits normalizeUsername normalizeEmail code₁ code₂ data.2
      hstores, if_neg fun h => hstores h.2]
    rfl

/-- The number of users with an email never falls. -/
lemma usersWith_le_exec (step : RegistrationStep) (s : Registrations) (email : String) :
    (s.accounts.usersWith email).length ≤
      ((registrationExec normalizeUsername normalizeEmail step s).accounts.usersWith
        email).length := by
  rcases step with body | ⟨request, code₁, code₂⟩
  · exact Nat.le_refl _
  · unfold registrationExec
    rcases hpending : s.pending[request]? with _ | data
    · simp only [hpending]
      exact Nat.le_refl _
    · simp only [hpending, usersWith_complete]
      exact Nat.le_add_right _ _

lemma usersWith_le_run (steps : List RegistrationStep) (s : Registrations) (email : String) :
    (s.accounts.usersWith email).length ≤
      ((run (registrationExec normalizeUsername normalizeEmail) s steps).accounts.usersWith
        email).length :=
  run_invariant' (I := fun s' => (s.accounts.usersWith email).length ≤
    (s'.accounts.usersWith email).length)
    (fun s' step hle => hle.trans (usersWith_le_exec step s' email)) steps (Nat.le_refl _)

/-- One step keeps an email with one user at most exactly when it meets the condition. -/
lemma completesOnce_iff {s : Registrations} (htraced : Traced normalizeEmail s)
    (h : (s.accounts.usersWith email).length ≤ 1) (step : RegistrationStep) :
    CompletesOnce normalizeUsername normalizeEmail email s step ↔
      ((registrationExec normalizeUsername normalizeEmail step s).accounts.usersWith
        email).length ≤ 1 := by
  rcases step with body | ⟨request, code₁, code₂⟩
  · exact ⟨fun _ => h, fun _ => trivial⟩
  · unfold CompletesOnce registrationExec
    rcases hpending : s.pending[request]? with _ | w
    · simp only [hpending]
      exact ⟨fun _ => h, fun _ w hw => (nomatch hw)⟩
    · have hclear := rivals_clear_iff normalizeEmail htraced (List.mem_of_getElem? hpending)
      simp only [hpending, Option.some.injEq, forall_eq', KeepsClear, hclear, usersWith_complete]
      by_cases hstored : storedEmail normalizeEmail w.data = email
      · rw [forall_prop_of_true hstored, hstored, ← usersWith_eq_nil_iff,
          ← List.length_eq_zero_iff]
        split
        · next hstores =>
            rw [forall_prop_of_true hstores.2]
            omega
        · next hother =>
            refine iff_of_true (fun hstores => absurd ⟨rfl, hstores⟩ hother) ?_
            omega
      · rw [if_neg fun hstores => hstored hstores.1]
        exact iff_of_true (fun heq => absurd heq hstored) h

/-- In a run an email has one user at most in the end exactly when each creation meets the
condition. -/
lemma usersWith_run_le_one_iff (steps : List RegistrationStep) (email : String) :
    ((run (registrationExec normalizeUsername normalizeEmail) .empty
      steps).accounts.usersWith email).length ≤ 1 ↔
      Guarded (registrationExec normalizeUsername normalizeEmail)
        (CompletesOnce normalizeUsername normalizeEmail email) .empty steps := by
  rw [guarded_iff_invariant
    (I := fun s => Traced normalizeEmail s ∧ (s.accounts.usersWith email).length ≤ 1)
    (fun s step h => (completesOnce_iff h.1 h.2 step).trans
      (and_iff_right (traced_exec normalizeUsername normalizeEmail s step h.1)).symm)
    ⟨traced_empty normalizeEmail, Nat.zero_le 1⟩]
  constructor
  · rintro h earlier later rfl
    rw [run_append] at h
    exact ⟨traced_run normalizeUsername normalizeEmail earlier,
      (usersWith_le_run later _ email).trans h⟩
  · intro h
    exact (h steps [] (List.append_nil steps).symm).2

/-- **When the request for a new password reveals nothing.**  Between two runs of registrations,
in whatever order their steps come, an email gets the same answer, and no exception, exactly
when in both runs no creation that stores a user with the email has a rival with it: nobody has
stored the email since the validation, nor before it when the request spells it otherwise than it
is stored. -/
theorem passwordReset_same_iff (normalizeUsername normalizeEmail : String → String)
    (email : String) (steps steps' : List RegistrationStep) :
    (∃ answer,
      passwordReset (run (registrationExec normalizeUsername normalizeEmail)
        .empty steps).accounts (.ok email) = .ok answer ∧
      passwordReset (run (registrationExec normalizeUsername normalizeEmail)
        .empty steps').accounts (.ok email) = .ok answer) ↔
    Guarded (registrationExec normalizeUsername normalizeEmail)
        (CompletesOnce normalizeUsername normalizeEmail email) .empty steps ∧
      Guarded (registrationExec normalizeUsername normalizeEmail)
        (CompletesOnce normalizeUsername normalizeEmail email) .empty steps' := by
  rw [passwordReset_same_iff_length, usersWith_run_le_one_iff, usersWith_run_le_one_iff]

/-- Ann and Bob register with one address, with a capital in its domain, one after the other.
The address as it is stored is answered when nobody has registered, and raises after the two. -/
theorem not_passwordReset_same_twoUsers :
    passwordReset (run (registrationExec id OrdersBackend.normalizeEmail) .empty []).accounts
        (.ok "ann@example.com") = .ok instructionsSent ∧
    passwordReset (run (registrationExec id OrdersBackend.normalizeEmail) .empty
        [.validate (clientBody "ann" "ann@Example.com"), .create 0 "A" "B",
         .validate (clientBody "bob" "ann@Example.com"), .create 0 "C" "D"]).accounts
      (.ok "ann@example.com") = .error .multipleObjectsReturned := by
  decide +kernel

end UserViewSet

end OrdersBackend
