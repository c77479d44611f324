import OrdersBackend.Accounts.State
import OrdersBackend.Accounts.TaxNumber
import OrdersBackend.Framework.Runs

/-!
# Registration

`UserViewSet.register` with its serializer.  No transaction is open around it, so every write
stays when a later one raises.  For a supplier there are four writes: the user, the user again
with a new supplier code, and the supplier's profile twice, once in the serializer and once in
the view, where the user has no tax number any more.  The last one is refused by the database
each time it is reached.

A `RegisterBody` holds the values of a request that have passed the fields of the serializer.
The random supplier codes are inputs, and `normalizeUsername` and `normalizeEmail` are the
functions of Django that `create_user` applies.
-/

namespace OrdersBackend

open Framework Tx

/-! ## Requests and answers -/

structure RegisterBody where
  username : String
  email : Option String
  password : String
  passwordConfirm : String
  firstName : Option String
  lastName : Option String
  userType : Option UserType
  phone : Option String
  companyName : Option String
  address : Option String
  taxNumber : Option String
  deriving DecidableEq, Repr

/-- The reasons for an answer `400`. -/
inductive RegistrationError
  | usernameTaken
  | passwordMismatch
  | emailTaken
  | taxNumberRequired
  | taxNumber (message : String)
  deriving DecidableEq, Repr

def RegistrationError.field : RegistrationError → String
  | usernameTaken => "username"
  | passwordMismatch => "password_confirm"
  | emailTaken => "email"
  | taxNumberRequired | taxNumber _ => "tax_number"

/-- The text of the error; that of a wrong tax number is the `str` of the exception. -/
def RegistrationError.text : RegistrationError → String
  | usernameTaken => "Пользователь с таким именем уже существует."
  | passwordMismatch => "Пароли не совпадают."
  | emailTaken => "Пользователь с таким email уже существует."
  | taxNumberRequired => "ИНН обязателен для поставщиков."
  | taxNumber message => "[ErrorDetail(string='" ++ message ++ "', code='invalid')]"

namespace UserRegistrationSerializer

/-! ## Validation -/

/-- `is_valid`: the unique validator of the username, then `validate`.  An answer `400` is the
inner error; the outer one is an exception, of a request without an email or with a digit of
another kind in its tax number. -/
def validate (db : AccountsDb) (data : RegisterBody) :
    Except PyErr (Except RegistrationError RegisterBody) :=
  if db.users.rows.any fun r => r.2.username = data.username then .ok (.error .usernameTaken)
  else if data.password ≠ data.passwordConfirm then .ok (.error .passwordMismatch)
  else
    match data.email with
    -- the field may be left out, and `data['email']` raises then
    | none => .error .keyError
    | some email =>
      if db.users.rows.any fun r => r.2.email = email then .ok (.error .emailTaken)
      else if data.userType = some .supplier then
        match data.taxNumber with
        | none | some "" => .ok (.error .taxNumberRequired)
        | some value =>
          match TaxNumber.validateTaxNumber value with
          | .ok cleaned => .ok (.ok { data with taxNumber := some cleaned })
          | .error e =>
            match e.message with
            | some message => .ok (.error (.taxNumber message))
            | none => .error .valueError
      else .ok (.ok data)

/-! ## Creation -/

variable (normalizeUsername normalizeEmail : String → String)

/-- The user `create_user` saves.  `User.save` gives a supplier its first code. -/
def newUser (code : String) (data : RegisterBody) (email : String) : User where
  username := normalizeUsername data.username
  email := normalizeEmail email
  firstName := data.firstName.getD ""
  lastName := data.lastName.getD ""
  userType := data.userType.getD .client
  phone := data.phone.getD ""
  companyName := data.companyName.getD ""
  address := data.address.getD ""
  supplierCode := if data.userType.getD .client = .supplier then some code else none

/-- `Supplier.objects.create` for a user, as the serializer and the view call it. -/
def createProfile (id : ℕ) (user : User) (taxNumber : Option String) : Tx AccountsDb PyErr ℕ :=
  AccountsDb.insertSupplier id user.companyName (user.firstName ++ " " ++ user.lastName)
    user.phone user.email user.address taxNumber

/-- `create`; the answer is the user and its id. -/
def create (code₁ code₂ : String) (data : RegisterBody) : Tx AccountsDb PyErr (ℕ × User) := do
  let email ← match data.email with
    | some email => pure email
    | none => throw .keyError
  let user := newUser normalizeUsername normalizeEmail code₁ data email
  let id ← AccountsDb.insertUser user
  if user.userType = .supplier then
    let user := user.withCode code₂
    AccountsDb.saveUser id user
    let _ ← createProfile id user data.taxNumber
    return (id, user)
  else return (id, user)

end UserRegistrationSerializer

namespace UserViewSet

open UserRegistrationSerializer

variable (normalizeUsername normalizeEmail : String → String)

/-- `register`: the id of the new user with `201`, or the error of an answer `400`.  The user
has no attribute `tax_number`, so the view passes on `None`. -/
def register (code₁ code₂ : String) (body : RegisterBody) :
    Tx AccountsDb PyErr (Except RegistrationError ℕ) := do
  let db ← get
  match ← lift (validate db body) with
  | .error e => return .error e
  | .ok data =>
    let (id, user) ← create normalizeUsername normalizeEmail code₁ code₂ data
    if user.userType = .supplier then
      let _ ← createProfile id user none
      return .ok id
    else return .ok id

/-! ## What a request does -/

/-- Validated data differ from the request in the tax number only. -/
lemma eq_of_validate {db : AccountsDb} {body data : RegisterBody}
    (h : validate db body = .ok (.ok data)) :
    (∃ email, body.email = some email) ∧ data = { body with taxNumber := data.taxNumber } ∧
      (body.userType = some .supplier → ∃ value cleaned, body.taxNumber = some value ∧
        TaxNumber.validateTaxNumber value = .ok cleaned ∧ data.taxNumber = some cleaned) := by
  unfold validate at h
  split at h
  · cases h
  · split at h
    · cases h
    · split at h
      · cases h
      · next email hemail =>
        split at h
        · cases h
        · split at h
          · -- a supplier goes through the check of the tax number
            next hsupplier =>
            split at h
            · cases h
            · cases h
            · next value hne hvalue =>
              split at h
              · next cleaned hcleaned =>
                have hdata := Except.ok.inj (Except.ok.inj h)
                rw [← hdata]
                exact ⟨⟨email, hemail⟩, rfl, fun _ => ⟨value, cleaned, hvalue, hcleaned, rfl⟩⟩
              · split at h
                · cases h
                · cases h
          · -- nobody else does, and the data are the request
            next hother =>
            have hdata := Except.ok.inj (Except.ok.inj h)
            rw [← hdata]
            exact ⟨⟨email, hemail⟩, rfl, fun hsupplier => absurd hsupplier hother⟩

variable (code₁ code₂ : String) {body : RegisterBody} {db : AccountsDb}

/-- A request the validation does not accept changes nothing. -/
lemma register_of_rejected (h : ∀ data, validate db body ≠ .ok (.ok data)) :
    (register normalizeUsername normalizeEmail code₁ code₂ body db).2 = db ∧
      ∀ id, (register normalizeUsername normalizeEmail code₁ code₂ body db).1 ≠ .ok (.ok id) := by
  unfold register
  rw [bind_of_ok (get_apply db)]
  rcases hvalid : validate db body with e | e | data
  · exact ⟨rfl, fun id heq => (nomatch heq)⟩
  · exact ⟨rfl, fun id heq => (nomatch heq)⟩
  · exact absurd hvalid (h data)

/-- The user a request creates, as far as the request is accepted. -/
def userOf (code : String) (body : RegisterBody) : User :=
  newUser normalizeUsername normalizeEmail code body (body.email.getD "")

/-- What follows the creation of a supplier's user. -/
def finishSupplier (user : User) (taxNumber : Option String) (id : ℕ) :
    Tx AccountsDb PyErr (Except RegistrationError ℕ) := do
  AccountsDb.saveUser id user
  let _ ← createProfile id user taxNumber
  let _ ← createProfile id user none
  return .ok id

/-- What is left of `register` once the serializer is valid. -/
def completeRegistration (code₁ code₂ : String) (data : RegisterBody) :
    Tx AccountsDb PyErr (Except RegistrationError ℕ) := do
  let (id, user) ← create normalizeUsername normalizeEmail code₁ code₂ data
  if user.userType = .supplier then
    -- the view creates the profile once more
    let _ ← createProfile id user none
    return .ok id
  else return .ok id

/-- An accepted request is its validation and the rest, in one state. -/
lemma register_eq_complete {data : RegisterBody} (h : validate db body = .ok (.ok data)) :
    register normalizeUsername normalizeEmail code₁ code₂ body db =
      completeRegistration normalizeUsername normalizeEmail code₁ code₂ data db := by
  unfold register
  rw [bind_of_ok (get_apply db), h, lift_ok, pure_bind]
  rfl

/-- The rest starts with the creation of the user. -/
lemma completeRegistration_eq {data : RegisterBody} (hemail : data.email.isSome) :
    completeRegistration normalizeUsername normalizeEmail code₁ code₂ data =
      (AccountsDb.insertUser (userOf normalizeUsername normalizeEmail code₁ data) >>= fun id =>
        if data.userType.getD .client = .supplier then
          finishSupplier ((userOf normalizeUsername normalizeEmail code₁ data).withCode code₂)
            data.taxNumber id
        else pure (.ok id)) := by
  obtain ⟨email, hemail⟩ := Option.isSome_iff_exists.mp hemail
  have huser : newUser normalizeUsername normalizeEmail code₁ data email =
      userOf normalizeUsername normalizeEmail code₁ data := by
    unfold userOf
    rw [hemail]
    rfl
  have htype : (userOf normalizeUsername normalizeEmail code₁ data).userType =
      data.userType.getD .client := rfl
  unfold completeRegistration create
  simp only [hemail, pure_bind, huser, bind_assoc, htype]
  by_cases hsupplier : data.userType.getD .client = .supplier
  · simp only [if_pos hsupplier, bind_assoc, pure_bind, User.userType_withCode, htype]
    rfl
  · simp only [if_neg hsupplier, pure_bind, htype]

/-- The validation keeps the columns of the user. -/
lemma userOf_of_validate {data : RegisterBody} (h : validate db body = .ok (.ok data))
    (code : String) :
    data.email.isSome ∧ data.userType = body.userType ∧
      userOf normalizeUsername normalizeEmail code data =
        userOf normalizeUsername normalizeEmail code body := by
  obtain ⟨⟨email, hemail⟩, hdata, -⟩ := eq_of_validate h
  rw [hdata]
  exact ⟨by rw [hemail]; rfl, rfl, rfl⟩

/-- An accepted request continues with the creation of its user. -/
lemma register_of_validate {data : RegisterBody} (h : validate db body = .ok (.ok data)) :
    register normalizeUsername normalizeEmail code₁ code₂ body db =
      (AccountsDb.insertUser (userOf normalizeUsername normalizeEmail code₁ body) >>= fun id =>
        if body.userType.getD .client = .supplier then
          finishSupplier ((userOf normalizeUsername normalizeEmail code₁ body).withCode code₂)
            data.taxNumber id
        else pure (.ok id)) db := by
  obtain ⟨hemail, htype, huser⟩ := userOf_of_validate normalizeUsername normalizeEmail h code₁
  rw [register_eq_complete normalizeUsername normalizeEmail code₁ code₂ h,
    completeRegistration_eq normalizeUsername normalizeEmail code₁ code₂ hemail, huser, htype]

/-! ## The users after a registration -/

/-- The two profiles of a supplier do not touch the users. -/
lemma users_finishSupplier (user : User) (taxNumber : Option String) (id : ℕ) (db : AccountsDb) :
    (finishSupplier user taxNumber id db).2.users =
      (AccountsDb.saveUser id user db).2.users := by
  unfold finishSupplier createProfile
  rcases hsave : AccountsDb.saveUser id user db with ⟨e | u, db₁⟩
  · rw [bind_of_error hsave]
  · rw [bind_of_ok hsave]
    have husers := AccountsDb.users_insertSupplier id user.companyName
      (user.firstName ++ " " ++ user.lastName) user.phone user.email user.address taxNumber db₁
    rcases hprofile : AccountsDb.insertSupplier id user.companyName
      (user.firstName ++ " " ++ user.lastName) user.phone user.email user.address taxNumber db₁
      with ⟨e | sid, db₂⟩ <;> rw [hprofile] at husers
    · rw [bind_of_error hprofile]
      exact husers
    · have hrefused := AccountsDb.insertSupplier_none id user.companyName
        (user.firstName ++ " " ++ user.lastName) user.phone user.email user.address db₂
      rw [bind_of_ok hprofile, bind_of_error hrefused]
      exact husers

/-- A user whose columns fit is stored, whatever happens afterwards; only the supplier code may
be another one. -/
lemma users_completeRegistration {data : RegisterBody} (hemail : data.email.isSome)
    (hfits : db.UserFits db.users.nextId (userOf normalizeUsername normalizeEmail code₁ data)) :
    ∃ code, (completeRegistration normalizeUsername normalizeEmail code₁ code₂ data db).2.users =
      db.users.insert { userOf normalizeUsername normalizeEmail code₁ data with
        supplierCode := code } := by
  set user := userOf normalizeUsername normalizeEmail code₁ data with huser
  rw [completeRegistration_eq normalizeUsername normalizeEmail code₁ code₂ hemail,
    bind_of_ok (AccountsDb.insertUser_of_fits hfits)]
  by_cases hsupplier : data.userType.getD .client = .supplier
  · rw [if_pos hsupplier, users_finishSupplier]
    unfold AccountsDb.saveUser
    by_cases hcode : (db.addUser user hfits).UserFits db.users.nextId (user.withCode code₂)
    · rw [dif_pos hcode]
      exact ⟨some code₂, Table.update_insert db.users user _⟩
    · rw [dif_neg hcode]
      exact ⟨user.supplierCode, rfl⟩
  · rw [if_neg hsupplier]
    exact ⟨user.supplierCode, rfl⟩

/-- A user whose columns do not fit is not stored. -/
lemma completeRegistration_of_not_fits {data : RegisterBody} (hemail : data.email.isSome)
    (hfits : ¬ db.UserFits db.users.nextId (userOf normalizeUsername normalizeEmail code₁ data)) :
    completeRegistration normalizeUsername normalizeEmail code₁ code₂ data db =
      (.error .integrityError, db) := by
  rw [completeRegistration_eq normalizeUsername normalizeEmail code₁ code₂ hemail]
  exact bind_of_error (AccountsDb.insertUser_of_not_fits hfits)

/-- The registration of a supplier never ends: the second profile is refused. -/
lemma finishSupplier_raises (user : User) (taxNumber : Option String) (id : ℕ)
    (db : AccountsDb) :
    ∃ e db', finishSupplier user taxNumber id db = (.error e, db') ∧
      db'.users.nextId = db.users.nextId := by
  have hids : (finishSupplier user taxNumber id db).2.users.nextId = db.users.nextId := by
    rw [users_finishSupplier, AccountsDb.nextId_saveUser]
  have hraises : ∃ e db', finishSupplier user taxNumber id db = (.error e, db') := by
    unfold finishSupplier createProfile
    rcases hsave : AccountsDb.saveUser id user db with ⟨e | u, db₁⟩
    · exact ⟨e, db₁, bind_of_error hsave⟩
    · rw [bind_of_ok hsave]
      rcases hprofile : AccountsDb.insertSupplier id user.companyName
        (user.firstName ++ " " ++ user.lastName) user.phone user.email user.address taxNumber db₁
        with ⟨e | sid, db₂⟩
      · exact ⟨e, db₂, bind_of_error hprofile⟩
      · rw [bind_of_ok hprofile]
        exact ⟨.integrityError, db₂, bind_of_error (AccountsDb.insertSupplier_none ..)⟩
  obtain ⟨e, db', hfinish⟩ := hraises
  rw [hfinish] at hids
  exact ⟨e, db', hfinish, hids⟩

end UserViewSet

end OrdersBackend
