import OrdersBackend.Accounts.Registration

/-!
# Is registration all or nothing?

`AllOrNothing` is what a registration should be: either it is answered `201` and has added one
user, with one profile when the user is a supplier, or it has added nothing.  The program
meets this exactly for the requests that create no supplier.  A request for a supplier that
gets past its first write raises later and leaves the user behind, and the profile as well
when its second write went through.

`EverySupplierHasProfile` is the invariant that follows for runs of such requests.
-/

namespace OrdersBackend

open Framework Tx

namespace UserViewSet

open UserRegistrationSerializer

variable (normalizeUsername normalizeEmail : String → String)

/-- The outcome of a registration is complete, or there is none. -/
def AllOrNothing (body : RegisterBody) (db : AccountsDb)
    (result : Except PyErr (Except RegistrationError ℕ) × AccountsDb) : Prop :=
  match result.1 with
  | .ok (.ok id) =>
    id = db.users.nextId ∧ ∃ user, result.2.users = db.users.insert user ∧
      user.userType = body.userType.getD .client ∧
      if user.userType = .supplier then
        ∃ profile value, result.2.suppliers = db.suppliers.insert profile ∧
          profile.user = id ∧ body.taxNumber = some value ∧
          TaxNumber.validateTaxNumber value = .ok profile.taxNumber
      else result.2.suppliers = db.suppliers
  | _ => result.2.users = db.users ∧ result.2.suppliers = db.suppliers

/-- The request creates no supplier: the validation does not accept it, it is for another
type of user, or `create_user` refuses a username or a supplier code that is taken. -/
def CreatesNoSupplier (code : String) (body : RegisterBody) (db : AccountsDb) : Prop :=
  (∀ data, validate db body ≠ .ok (.ok data)) ∨ body.userType.getD .client ≠ .supplier ∨
    ¬ db.UserFits db.users.nextId (userOf normalizeUsername normalizeEmail code body)

/-! ## One request -/

section

variable (code₁ code₂ : String) {body : RegisterBody} {db : AccountsDb}

/-- A user that is refused leaves nothing. -/
lemma register_of_not_fits {data : RegisterBody} (hvalid : validate db body = .ok (.ok data))
    (hfits : ¬ db.UserFits db.users.nextId (userOf normalizeUsername normalizeEmail code₁ body)) :
    register normalizeUsername normalizeEmail code₁ code₂ body db =
      (.error .integrityError, db) := by
  rw [register_of_validate normalizeUsername normalizeEmail code₁ code₂ hvalid]
  exact bind_of_error (AccountsDb.insertUser_of_not_fits hfits)

/-- The registration of a user who is no supplier. -/
lemma register_of_not_supplier {data : RegisterBody}
    (hvalid : validate db body = .ok (.ok data)) (hother : body.userType.getD .client ≠ .supplier)
    (hfits : db.UserFits db.users.nextId (userOf normalizeUsername normalizeEmail code₁ body)) :
    register normalizeUsername normalizeEmail code₁ code₂ body db =
      (.ok (.ok db.users.nextId), db.addUser _ hfits) := by
  rw [register_of_validate normalizeUsername normalizeEmail code₁ code₂ hvalid,
    bind_of_ok (AccountsDb.insertUser_of_fits hfits), if_neg hother]
  rfl

/-- The registration of a supplier raises, after the user is stored. -/
lemma register_of_supplier {data : RegisterBody}
    (hvalid : validate db body = .ok (.ok data))
    (hsupplier : body.userType.getD .client = .supplier)
    (hfits : db.UserFits db.users.nextId (userOf normalizeUsername normalizeEmail code₁ body)) :
    ∃ e db', register normalizeUsername normalizeEmail code₁ code₂ body db = (.error e, db') ∧
      db'.users.nextId = db.users.nextId + 1 := by
  obtain ⟨e, db', hfinish, hid⟩ := finishSupplier_raises
    ((userOf normalizeUsername normalizeEmail code₁ body).withCode code₂) data.taxNumber
    db.users.nextId (db.addUser _ hfits)
  refine ⟨e, db', ?_, hid⟩
  rw [register_of_validate normalizeUsername normalizeEmail code₁ code₂ hvalid,
    bind_of_ok (AccountsDb.insertUser_of_fits hfits), if_pos hsupplier]
  exact hfinish

/-- What a request that creates no supplier does: nothing, or it adds one user. -/
lemma register_of_createsNoSupplier
    (h : CreatesNoSupplier normalizeUsername normalizeEmail code₁ body db) :
    ((register normalizeUsername normalizeEmail code₁ code₂ body db).2 = db ∧
      ∀ id, (register normalizeUsername normalizeEmail code₁ code₂ body db).1 ≠ .ok (.ok id)) ∨
      ∃ user, ∃ hfits : db.UserFits db.users.nextId user,
        user.userType = body.userType.getD .client ∧ user.userType ≠ .supplier ∧
        register normalizeUsername normalizeEmail code₁ code₂ body db =
          (.ok (.ok db.users.nextId), db.addUser user hfits) := by
  by_cases hvalid : ∃ data, validate db body = .ok (.ok data)
  · obtain ⟨data, hvalid⟩ := hvalid
    by_cases hfits : db.UserFits db.users.nextId
        (userOf normalizeUsername normalizeEmail code₁ body)
    · have hother : body.userType.getD .client ≠ .supplier := by
        rcases h with hrejected | hother | hnot
        · exact absurd hvalid (hrejected data)
        · exact hother
        · exact absurd hfits hnot
      exact .inr ⟨_, hfits, rfl, hother,
        register_of_not_supplier normalizeUsername normalizeEmail code₁ code₂ hvalid hother hfits⟩
    · rw [register_of_not_fits normalizeUsername normalizeEmail code₁ code₂ hvalid hfits]
      exact .inl ⟨rfl, fun id heq => (nomatch heq)⟩
  · push Not at hvalid
    exact .inl (register_of_rejected normalizeUsername normalizeEmail code₁ code₂ hvalid)

lemma allOrNothing_iff :
    AllOrNothing body db (register normalizeUsername normalizeEmail code₁ code₂ body db) ↔
      CreatesNoSupplier normalizeUsername normalizeEmail code₁ body db := by
  constructor
  · -- a supplier whose user is stored stays without an answer
    intro h
    by_contra hnot
    unfold CreatesNoSupplier at hnot
    push Not at hnot
    obtain ⟨⟨data, hvalid⟩, hsupplier, hfits⟩ := hnot
    obtain ⟨e, db', hregister, hid⟩ := register_of_supplier normalizeUsername normalizeEmail
      code₁ code₂ hvalid hsupplier hfits
    rw [hregister] at h
    have husers : db'.users = db.users := h.1
    rw [husers] at hid
    omega
  · intro h
    unfold AllOrNothing
    rcases register_of_createsNoSupplier normalizeUsername normalizeEmail code₁ code₂ h with
      ⟨hdb, hnot⟩ | ⟨user, hfits, htype, hother, hregister⟩
    · rw [hdb]
      split
      · next id heq => exact absurd heq (hnot id)
      · exact ⟨rfl, rfl⟩
    · rw [hregister]
      refine ⟨rfl, user, rfl, htype, ?_⟩
      rw [if_neg hother]
      rfl

end

/-! ## Runs -/

/-- A request with the supplier codes that are drawn for it. -/
structure RegisterRequest where
  body : RegisterBody
  code₁ : String
  code₂ : String

/-- The tables after a request. -/
def registerExec (request : RegisterRequest) (db : AccountsDb) : AccountsDb :=
  (register normalizeUsername normalizeEmail request.code₁ request.code₂ request.body db).2

/-- Every user of the type supplier has exactly one profile. -/
def EverySupplierHasProfile (db : AccountsDb) : Prop :=
  ∀ id user, db.users.lookup id = some user → user.userType = .supplier →
    ∃! sid, ∃ profile, db.suppliers.lookup sid = some profile ∧ profile.user = id

lemma everySupplierHasProfile_addUser {db : AccountsDb} {user : User}
    (hfits : db.UserFits db.users.nextId user) (hother : user.userType ≠ .supplier)
    (h : EverySupplierHasProfile db) : EverySupplierHasProfile (db.addUser user hfits) := by
  intro id user' hlookup hsupplier
  have husers : (db.addUser user hfits).users = db.users.insert user := rfl
  rw [husers] at hlookup
  rcases eq_or_ne id db.users.nextId with rfl | hid
  · rw [Table.lookup_insert_self] at hlookup
    cases hlookup
    exact absurd hsupplier hother
  · rw [Table.lookup_insert_of_ne _ _ hid] at hlookup
    exact h id user' hlookup hsupplier

lemma everySupplierHasProfile_registerExec (db : AccountsDb) (request : RegisterRequest)
    (h : EverySupplierHasProfile db)
    (hguard : CreatesNoSupplier normalizeUsername normalizeEmail request.code₁ request.body db) :
    EverySupplierHasProfile (registerExec normalizeUsername normalizeEmail request db) := by
  unfold registerExec
  rcases register_of_createsNoSupplier normalizeUsername normalizeEmail request.code₁
    request.code₂ hguard with ⟨hdb, -⟩ | ⟨user, hfits, -, hother, hregister⟩
  · rw [hdb]
    exact h
  · rw [hregister]
    exact everySupplierHasProfile_addUser hfits hother h

/-- **When registration is all or nothing.**  A request meets it exactly when it creates no
supplier, and in a run of such requests every supplier keeps exactly one profile. -/
theorem register_allOrNothing :
    (∀ code₁ code₂ body db, AllOrNothing body db
        (register normalizeUsername normalizeEmail code₁ code₂ body db) ↔
      CreatesNoSupplier normalizeUsername normalizeEmail code₁ body db) ∧
    ∀ (requests : List RegisterRequest) (db : AccountsDb), EverySupplierHasProfile db →
      Guarded (registerExec normalizeUsername normalizeEmail) (fun db request =>
        CreatesNoSupplier normalizeUsername normalizeEmail request.code₁ request.body db)
        db requests →
      EverySupplierHasProfile (run (registerExec normalizeUsername normalizeEmail) db requests) :=
  ⟨fun code₁ code₂ _ _ => allOrNothing_iff normalizeUsername normalizeEmail code₁ code₂,
    fun _ _ h hguarded => run_invariant
      (everySupplierHasProfile_registerExec normalizeUsername normalizeEmail) hguarded h⟩

/-- The registration of a client, from empty tables. -/
theorem register_allOrNothing_client :
    let ann : RegisterBody :=
      { username := "ann", email := some "ann@example.com", password := "longsecret",
        passwordConfirm := "longsecret", firstName := some "Ann", lastName := none,
        userType := some .client, phone := none, companyName := none, address := none,
        taxNumber := none }
    AllOrNothing ann AccountsDb.empty (register id id "SUPA" "SUPB" ann AccountsDb.empty) ∧
      EverySupplierHasProfile
        (run (registerExec id id) AccountsDb.empty [⟨ann, "SUPA", "SUPB"⟩]) := by
  intro ann
  have hguard : CreatesNoSupplier id id "SUPA" ann AccountsDb.empty := .inr (.inl (by decide))
  refine ⟨((register_allOrNothing id id).1 "SUPA" "SUPB" ann AccountsDb.empty).mpr hguard,
    (register_allOrNothing id id).2 _ AccountsDb.empty ?_ ⟨hguard, trivial⟩⟩
  intro id user hlookup
  cases hlookup

/-- The registration of a supplier raises and leaves the user. -/
theorem not_allOrNothing_supplier :
    let firm : RegisterBody :=
      { username := "firm", email := some "firm@example.com", password := "longsecret",
        passwordConfirm := "longsecret", firstName := none, lastName := none,
        userType := some .supplier, phone := none, companyName := some "Firm", address := none,
        taxNumber := some "7707083893" }
    ¬ AllOrNothing firm AccountsDb.empty (register id id "SUPA" "SUPB" firm AccountsDb.empty) := by
  intro firm h
  have hraises : (register id id "SUPA" "SUPB" firm AccountsDb.empty).1 =
      .error .integrityError := by decide +kernel
  have husers : (register id id "SUPA" "SUPB" firm AccountsDb.empty).2.users.nextId = 2 := by
    decide +kernel
  unfold AllOrNothing at h
  rw [hraises] at h
  rw [h.1] at husers
  exact absurd husers (by decide)

end UserViewSet

end OrdersBackend
