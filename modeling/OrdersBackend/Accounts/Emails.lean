import OrdersBackend.Accounts.Registration

/-!
# Emails of registered users

`validate` asks whether the submitted email is stored, and `create` stores it after Django has
normalised it; the column is not unique.  A request is these two steps, and the steps of other
requests may come in between.  The validation therefore protects an email only when it is
submitted as it is stored and nobody stores it before the second step.

`emailsIdentify_iff` says which requests keep the emails distinct, in terms of their spellings
and of the order of their steps; `emails_unique_register` is the case in which the two steps of a
request stay together.
-/

namespace OrdersBackend

open Framework Tx UserRegistrationSerializer

/-- `BaseUserManager.normalize_email`: the part after the last `@` in lower case. -/
def normalizeEmail (email : String) : String :=
  let backwards := (Python.strip email.toList).reverse
  if '@' ∈ backwards then
    let domain := (backwards.takeWhile (· ≠ '@')).reverse
    let name := ((backwards.dropWhile (· ≠ '@')).drop 1).reverse
    String.ofList (name ++ '@' :: Python.lower domain)
  else email

example : normalizeEmail "Ann@Mail@EXAMPLE.com" = "Ann@Mail@example.com" ∧
    normalizeEmail "ann" = "ann" := by decide

/-- The email of a user, as a key of the table. -/
def User.emailKey (u : User) : Option String := some u.email

namespace UserViewSet

variable (normalizeUsername normalizeEmail : String → String)

/-! ## The two steps of a request -/

/-- Validated data; the validation has read their email. -/
def ValidData : Type := { data : RegisterBody // data.email.isSome }

/-- The email as the request spells it, which the validation looks for. -/
def submittedEmail (data : ValidData) : String := data.1.email.getD ""

/-- The email a creation stores. -/
def storedEmail (data : ValidData) : String := normalizeEmail (submittedEmail data)

/-- A request between its two steps, with the number of requests that had stored their users when
it was validated. -/
structure Waiting where
  data : ValidData
  after : ℕ

/-- The users and profiles, the requests that are between their two steps, and the requests that
have stored their users, in this order. -/
structure Registrations where
  accounts : AccountsDb
  pending : List Waiting
  stored : List ValidData

def Registrations.empty : Registrations := ⟨AccountsDb.empty, [], []⟩

inductive RegistrationStep
  | validate (body : RegisterBody)
  | create (request : ℕ) (code₁ code₂ : String)

/-- The username and the code of the user are free, so that the request stores it. -/
def StoresUser (db : AccountsDb) (code₁ : String) (data : ValidData) : Prop :=
  db.UserFits db.users.nextId (userOf normalizeUsername normalizeEmail code₁ data.1)

instance (db : AccountsDb) (code₁ : String) (data : ValidData) :
    Decidable (StoresUser normalizeUsername normalizeEmail db code₁ data) :=
  inferInstanceAs (Decidable (db.UserFits _ _))

/-- The validated data of a request, when it is accepted. -/
def validated (db : AccountsDb) (body : RegisterBody) : Option ValidData :=
  match h : validate db body with
  | .ok (.ok data) => some ⟨data, (userOf_of_validate id id h "").1⟩
  | _ => none

/-- One step: a request is validated and waits, or one that waits is completed. -/
def registrationExec (step : RegistrationStep) (s : Registrations) : Registrations :=
  match step with
  | .validate body =>
    { s with
      pending := s.pending ++
        ((validated s.accounts body).map fun data => ⟨data, s.stored.length⟩).toList }
  | .create request code₁ code₂ =>
    match s.pending[request]? with
    | some w =>
      { accounts := (completeRegistration normalizeUsername normalizeEmail code₁ code₂ w.data.1
          s.accounts).2
        pending := s.pending.eraseIdx request
        stored := s.stored ++
          if StoresUser normalizeUsername normalizeEmail s.accounts code₁ w.data then [w.data]
          else [] }
    | none => s

lemma validated_of_validate {db : AccountsDb} {body data : RegisterBody}
    (h : validate db body = .ok (.ok data)) :
    ∃ hemail, validated db body = some ⟨data, hemail⟩ := by
  refine ⟨(userOf_of_validate id id h "").1, ?_⟩
  unfold validated
  split
  · next data' h' =>
      rw [h] at h'
      cases h'
      rfl
  · next hnot => exact absurd h (hnot data)

lemma validated_of_rejected {db : AccountsDb} {body : RegisterBody}
    (h : ∀ data, validate db body ≠ .ok (.ok data)) : validated db body = none := by
  unfold validated
  split
  · next data' h' => exact absurd h' (h data')
  · rfl

/-- A request whose two steps follow each other does what `register` does. -/
theorem accounts_run_request (code₁ code₂ : String) (body : RegisterBody) (db : AccountsDb)
    (stored : List ValidData) :
    (run (registrationExec normalizeUsername normalizeEmail) ⟨db, [], stored⟩
        [.validate body, .create 0 code₁ code₂]).accounts =
      (register normalizeUsername normalizeEmail code₁ code₂ body db).2 := by
  by_cases hvalid : ∃ data, validate db body = .ok (.ok data)
  · obtain ⟨data, hvalid⟩ := hvalid
    obtain ⟨hemail, hdata⟩ := validated_of_validate hvalid
    rw [register_eq_complete normalizeUsername normalizeEmail code₁ code₂ hvalid]
    simp only [run_cons, run_nil, registrationExec, hdata]
    rfl
  · push Not at hvalid
    rw [(register_of_rejected normalizeUsername normalizeEmail code₁ code₂ hvalid).1]
    simp only [run_cons, run_nil, registrationExec, validated_of_rejected hvalid]
    rfl

/-! ## What the validation has seen -/

/-- The check of `validate`: nobody has the email in the spelling of the request. -/
lemma email_free_of_validate {db : AccountsDb} {body data : RegisterBody}
    (h : validate db body = .ok (.ok data)) :
    ∀ r ∈ db.users.rows, r.2.email ≠ data.email.getD "" := by
  intro r hr heq
  obtain ⟨⟨email, hemail⟩, hdata, -⟩ := eq_of_validate h
  have hsubmitted : data.email.getD "" = email := by rw [hdata, hemail, Option.getD_some]
  have htaken : (db.users.rows.any fun r => r.2.email = email) = true :=
    List.any_eq_true.mpr ⟨r, hr, decide_eq_true (heq.trans hsubmitted)⟩
  unfold validate at h
  simp only [hemail, htaken, if_true] at h
  split at h
  · cases h
  · split at h <;> cases h

lemma email_free_of_validated {db : AccountsDb} {body : RegisterBody} {data : ValidData}
    (h : validated db body = some data) : ∀ r ∈ db.users.rows, r.2.email ≠ submittedEmail data := by
  unfold validated at h
  split at h
  · next data' hvalid =>
      cases h
      exact email_free_of_validate hvalid
  · cases h

/-- The users are those of the requests that have stored one, and a request that waits has its
email in a spelling under which nobody was stored when it was validated. -/
structure Traced (s : Registrations) : Prop where
  emails : (s.accounts.users.rows.map fun r => r.2.email) =
    s.stored.map (storedEmail normalizeEmail)
  unseen : ∀ w ∈ s.pending, w.after ≤ s.stored.length ∧
    ∀ earlier ∈ s.stored.take w.after, storedEmail normalizeEmail earlier ≠ submittedEmail w.data

lemma traced_empty : Traced normalizeEmail .empty := ⟨rfl, by simp [Registrations.empty]⟩

variable {normalizeUsername normalizeEmail} in
/-- The emails after a creation. -/
lemma emails_complete (code₁ code₂ : String) (data : ValidData) (db : AccountsDb) :
    ((completeRegistration normalizeUsername normalizeEmail code₁ code₂ data.1 db).2.users.rows.map
        fun r => r.2.email) = (db.users.rows.map fun r => r.2.email) ++
      (if StoresUser normalizeUsername normalizeEmail db code₁ data then [data] else []).map
        (storedEmail normalizeEmail) := by
  by_cases hstores : StoresUser normalizeUsername normalizeEmail db code₁ data
  · obtain ⟨code, husers⟩ := users_completeRegistration normalizeUsername normalizeEmail code₁
      code₂ data.2 hstores
    rw [husers, if_pos hstores, Table.rows_insert, List.map_append]
    rfl
  · rw [completeRegistration_of_not_fits normalizeUsername normalizeEmail code₁ code₂ data.2
      hstores, if_neg hstores]
    exact (List.append_nil _).symm

lemma traced_exec (s : Registrations) (step : RegistrationStep) (h : Traced normalizeEmail s) :
    Traced normalizeEmail (registrationExec normalizeUsername normalizeEmail step s) := by
  rcases step with body | ⟨request, code₁, code₂⟩
  · refine ⟨h.emails, fun w hw => ?_⟩
    rcases List.mem_append.mp hw with hw | hw
    · exact h.unseen w hw
    · -- the new request: its check has read the emails of all the users there are
      obtain ⟨data, hdata, rfl⟩ := Option.map_eq_some_iff.mp (Option.mem_toList.mp hw)
      refine ⟨Nat.le_refl _, ?_⟩
      have hfree : ∀ email ∈ s.accounts.users.rows.map fun r => r.2.email,
          email ≠ submittedEmail data :=
        List.forall_mem_map.mpr (email_free_of_validated hdata)
      rw [h.emails] at hfree
      intro earlier hearlier
      exact hfree _ (List.mem_map_of_mem (List.mem_of_mem_take hearlier))
  · -- a creation appends the email of its own request, and the others have seen the same users
    unfold registrationExec
    rcases hpending : s.pending[request]? with _ | w
    · simp only [hpending]
      exact h
    · simp only [hpending]
      refine ⟨?_, fun other hother => ?_⟩
      · rw [emails_complete, h.emails, List.map_append]
      · obtain ⟨hle, hunseen⟩ := h.unseen other (List.mem_of_mem_eraseIdx hother)
        refine ⟨by rw [List.length_append]; omega, ?_⟩
        rw [List.take_append_of_le_length hle]
        exact hunseen

lemma traced_run (steps : List RegistrationStep) :
    Traced normalizeEmail
      (run (registrationExec normalizeUsername normalizeEmail) .empty steps) :=
  run_invariant' (fun s step => traced_exec normalizeUsername normalizeEmail s step) steps
    (traced_empty normalizeEmail)

/-! ## Distinct emails -/

/-- The requests whose email a waiting one may clash with: those that have stored their users
since it was validated, and those before, unless its email is spelled as it is stored and the
validation has looked for it. -/
def rivals (s : Registrations) (w : Waiting) : List ValidData :=
  if storedEmail normalizeEmail w.data = submittedEmail w.data then s.stored.drop w.after
  else s.stored

/-- The request stores no user, or none of its rivals has its email. -/
def KeepsClear (s : Registrations) (code₁ : String) (w : Waiting) : Prop :=
  StoresUser normalizeUsername normalizeEmail s.accounts code₁ w.data →
    ∀ rival ∈ rivals normalizeEmail s w,
      storedEmail normalizeEmail rival ≠ storedEmail normalizeEmail w.data

/-- The request that a step completes, if any, keeps clear of its rivals. -/
def CompletesClear (s : Registrations) : RegistrationStep → Prop
  | .validate _ => True
  | .create request code₁ _ =>
    ∀ w, s.pending[request]? = some w → KeepsClear normalizeUsername normalizeEmail s code₁ w

/-- None of the rivals has the email exactly when nobody has it. -/
lemma rivals_clear_iff {s : Registrations} (h : Traced normalizeEmail s) {w : Waiting}
    (hw : w ∈ s.pending) :
    (∀ rival ∈ rivals normalizeEmail s w,
        storedEmail normalizeEmail rival ≠ storedEmail normalizeEmail w.data) ↔
      ∀ r ∈ s.accounts.users.rows, r.2.email ≠ storedEmail normalizeEmail w.data := by
  have hrows : (∀ r ∈ s.accounts.users.rows, r.2.email ≠ storedEmail normalizeEmail w.data) ↔
      ∀ other ∈ s.stored,
        storedEmail normalizeEmail other ≠ storedEmail normalizeEmail w.data := by
    have hemails := congrArg
      (fun emails => ∀ email ∈ emails, email ≠ storedEmail normalizeEmail w.data) h.emails
    simp only [List.forall_mem_map] at hemails
    exact iff_of_eq hemails
  rw [hrows, rivals]
  by_cases hspelled : storedEmail normalizeEmail w.data = submittedEmail w.data
  · rw [if_pos hspelled]
    refine ⟨fun hlater other hother => ?_, fun hall rival hrival =>
      hall rival (List.mem_of_mem_drop hrival)⟩
    rw [← List.take_append_drop w.after s.stored] at hother
    rcases List.mem_append.mp hother with hearlier | hother
    · -- the validation has looked for this spelling among the users stored before it
      rw [hspelled]
      exact (h.unseen w hw).2 other hearlier
    · exact hlater other hother
  · rw [if_neg hspelled]

/-- No two users have the same email. -/
def EmailsIdentify (db : AccountsDb) : Prop := db.users.Unique User.emailKey

lemma emailsIdentify_empty : EmailsIdentify AccountsDb.empty := Table.unique_empty _

lemma not_emailsIdentify_of_same {db : AccountsDb} (id id' : ℕ) (email : String)
    (h : (db.users.lookup id).map (·.email) = some email)
    (h' : (db.users.lookup id').map (·.email) = some email) (hne : id ≠ id') :
    ¬ EmailsIdentify db := by
  obtain ⟨u, hu, hemail⟩ := Option.map_eq_some_iff.mp h
  obtain ⟨u', hu', hemail'⟩ := Option.map_eq_some_iff.mp h'
  exact fun hunique =>
    hne (hunique id id' u u' hu hu' rfl (congrArg some (hemail.trans hemail'.symm)))

lemma free_emailKey_iff {users : Table User} {user : User} :
    users.Free User.emailKey users.nextId user ↔ ∀ r ∈ users.rows, r.2.email ≠ user.email := by
  constructor
  · intro h r hr heq
    have hlt := (users.ids r hr).2
    exact h r hr (by omega) rfl (congrArg some heq)
  · exact fun h r hr _ _ heq => h r hr (Option.some.inj heq)

/-- The emails stay distinct exactly when the one that is stored is new. -/
lemma emailsIdentify_complete_iff {db : AccountsDb} (h : EmailsIdentify db)
    (code₁ code₂ : String) (data : ValidData) :
    EmailsIdentify (completeRegistration normalizeUsername normalizeEmail code₁ code₂ data.1 db).2 ↔
      (StoresUser normalizeUsername normalizeEmail db code₁ data →
        ∀ r ∈ db.users.rows, r.2.email ≠ storedEmail normalizeEmail data) := by
  by_cases hstores : StoresUser normalizeUsername normalizeEmail db code₁ data
  · obtain ⟨code, husers⟩ := users_completeRegistration normalizeUsername normalizeEmail code₁
      code₂ data.2 hstores
    unfold EmailsIdentify
    rw [husers, Table.unique_insert_iff h, free_emailKey_iff]
    exact ⟨fun hnew _ => hnew, fun hnew => hnew hstores⟩
  · rw [completeRegistration_of_not_fits normalizeUsername normalizeEmail code₁ code₂ data.2
      hstores]
    exact ⟨fun _ hstores' => absurd hstores' hstores, fun _ => h⟩

lemma completesClear_iff {s : Registrations} (htraced : Traced normalizeEmail s)
    (h : EmailsIdentify s.accounts) (step : RegistrationStep) :
    CompletesClear normalizeUsername normalizeEmail s step ↔
      EmailsIdentify
        (registrationExec normalizeUsername normalizeEmail step s).accounts := by
  rcases step with body | ⟨request, code₁, code₂⟩
  · exact ⟨fun _ => h, fun _ => trivial⟩
  · unfold CompletesClear registrationExec
    rcases hpending : s.pending[request]? with _ | w
    · simp only [hpending]
      exact ⟨fun _ => h, fun _ w hw => (nomatch hw)⟩
    · have hclear := rivals_clear_iff normalizeEmail htraced (List.mem_of_getElem? hpending)
      simp only [hpending, Option.some.injEq, forall_eq', KeepsClear, hclear]
      exact (emailsIdentify_complete_iff normalizeUsername normalizeEmail h code₁ code₂ w.data).symm

/-- **When emails identify accounts.**  Whatever the order of the steps of the requests, the
emails are distinct in every state reached from empty tables exactly when no creation that stores
a user has a rival with its email: nobody has stored it since the validation, nor before it when
the request spells it otherwise than it is stored. -/
theorem emailsIdentify_iff (steps : List RegistrationStep) :
    (∀ earlier later, steps = earlier ++ later →
      EmailsIdentify (run (registrationExec normalizeUsername normalizeEmail)
        .empty earlier).accounts) ↔
      Guarded (registrationExec normalizeUsername normalizeEmail)
        (CompletesClear normalizeUsername normalizeEmail) .empty steps := by
  rw [guarded_iff_invariant
    (I := fun s => Traced normalizeEmail s ∧ EmailsIdentify s.accounts)
    (fun s step h => (completesClear_iff normalizeUsername normalizeEmail h.1 h.2 step).trans
      (and_iff_right (traced_exec normalizeUsername normalizeEmail s step h.1)).symm)
    ⟨traced_empty normalizeEmail, emailsIdentify_empty⟩]
  exact forall₂_congr fun earlier later => imp_congr_right fun _ =>
    (and_iff_right (traced_run normalizeUsername normalizeEmail earlier)).symm

/-- A request for a client. -/
def clientBody (username email : String) : RegisterBody :=
  { username, email := some email, password := "longsecret", passwordConfirm := "longsecret",
    firstName := none, lastName := none, userType := none, phone := none, companyName := none,
    address := none, taxNumber := none }

/-- Two visitors submit the same address, with a capital in its domain, one after the other:
the second validation finds nothing, as the first user is stored under the other spelling. -/
theorem not_emailsIdentify_sequential :
    ¬ EmailsIdentify (run (registrationExec id OrdersBackend.normalizeEmail) .empty
      [.validate (clientBody "ann" "ann@Example.com"), .create 0 "A" "B",
       .validate (clientBody "bob" "ann@Example.com"), .create 0 "C" "D"]).accounts :=
  not_emailsIdentify_of_same 1 2 "ann@example.com" (by decide +kernel) (by decide +kernel)
    (by decide)

/-- Two requests with one address in its stored spelling are both validated before either user
is stored. -/
theorem not_emailsIdentify_interleaved :
    ¬ EmailsIdentify (run (registrationExec id OrdersBackend.normalizeEmail) .empty
      [.validate (clientBody "ann" "ann@example.com"),
       .validate (clientBody "bob" "ann@example.com"), .create 0 "A" "B",
       .create 0 "C" "D"]).accounts :=
  not_emailsIdentify_of_same 1 2 "ann@example.com" (by decide +kernel) (by decide +kernel)
    (by decide)

/-- A request that is not interrupted, with an email in the form in which it is stored, keeps
the emails distinct. -/
theorem emails_unique_register {db : AccountsDb} (h : EmailsIdentify db) {body : RegisterBody}
    (hnormal : ∀ email, body.email = some email → normalizeEmail email = email)
    (code₁ code₂ : String) :
    EmailsIdentify (register normalizeUsername normalizeEmail code₁ code₂ body db).2 := by
  by_cases hvalid : ∃ data, validate db body = .ok (.ok data)
  · obtain ⟨data, hvalid⟩ := hvalid
    obtain ⟨⟨email, hemail⟩, hdata, -⟩ := eq_of_validate hvalid
    have hsome : data.email = some email := by rw [hdata, ← hemail]
    rw [register_eq_complete normalizeUsername normalizeEmail code₁ code₂ hvalid]
    refine (emailsIdentify_complete_iff normalizeUsername normalizeEmail h code₁ code₂
      ⟨data, by rw [hsome]; rfl⟩).mpr fun _ r hr heq => ?_
    have hstored : r.2.email = email := by
      rw [heq]
      show normalizeEmail (data.email.getD "") = email
      rw [hsome]
      exact hnormal email hemail
    refine email_free_of_validate hvalid r hr ?_
    rw [hstored, hsome, Option.getD_some]
  · push Not at hvalid
    rw [(register_of_rejected normalizeUsername normalizeEmail code₁ code₂ hvalid).1]
    exact h

end UserViewSet

end OrdersBackend
