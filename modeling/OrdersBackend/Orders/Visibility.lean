import OrdersBackend.Accounts.Completeness
import OrdersBackend.Orders.Requests

/-!
# Who sees an order

`get_queryset` filters the orders of a client and those of a supplier; a user of any other
type sees all of them.  The remaining type is `admin`, and `register` takes the type from the
visitor.  `visibleToParties_iff` says what this costs in one state; along a run the orders stay
with their parties as long as no registration stores a user of that type.
-/

namespace OrdersBackend

open Framework Tx UserViewSet UserRegistrationSerializer

namespace OrderViewSet

/-! ## Parties -/

/-- The user is the client of the order, or one of its items belongs to his profile. -/
def Party (db : OrdersDb) (user : ℕ) (r : ℕ × Order) : Prop :=
  r.2.client = user ∨
    ∃ supplier, db.accounts.profile user = some supplier ∧ hasItemOf db r.1 supplier

/-- Every order that the list or the retrieval returns to a user has him as a party. -/
def VisibleToParties (db : OrdersDb) : Prop :=
  ∀ user u, db.accounts.users.lookup user = some u →
    (∀ rows, getQueryset db user u.userType = .ok rows → ∀ r ∈ rows, Party db user r) ∧
      ∀ id order, getObject db user u.userType id = .ok (some order) → Party db user (id, order)

lemma party_of_client {db : OrdersDb} {user : ℕ} {rows : List (ℕ × Order)}
    (h : getQueryset db user .client = .ok rows) : ∀ r ∈ rows, Party db user r := by
  intro r hr
  rw [← Except.ok.inj h] at hr
  exact .inl (eq_of_beq (List.mem_filter.mp hr).2)

lemma party_of_supplier {db : OrdersDb} {user : ℕ} {rows : List (ℕ × Order)}
    (h : getQueryset db user .supplier = .ok rows) : ∀ r ∈ rows, Party db user r := by
  intro r hr
  unfold getQueryset at h
  rcases hprofile : db.accounts.profile user with _ | supplier
  · simp only [hprofile] at h
    cases h
  · simp only [hprofile] at h
    rw [← Except.ok.inj h] at hr
    exact .inr ⟨supplier, hprofile, (List.mem_filter.mp hr).2⟩

/-- An order that is retrieved is one of the list. -/
lemma mem_of_getObject {db : OrdersDb} {user id : ℕ} {userType : UserType} {order : Order}
    (h : getObject db user userType id = .ok (some order)) :
    ∃ rows, getQueryset db user userType = .ok rows ∧ (id, order) ∈ rows := by
  obtain ⟨rows, hrows, hlookup⟩ := except_bind_eq_ok.mp h
  have hsome : rows.lookup id = some order := Except.ok.inj hlookup
  obtain ⟨l₁, l₂, hsplit, -⟩ := List.lookup_eq_some_iff.mp hsome
  exact ⟨rows, hrows, by rw [hsplit]; simp⟩

/-- The orders are visible to their parties only, exactly when every user of the type `admin`
is a party to all of them. -/
lemma visibleToParties_iff (db : OrdersDb) :
    VisibleToParties db ↔ ∀ user u, db.accounts.users.lookup user = some u →
      u.userType = .admin → ∀ r ∈ db.orders.rows, Party db user r := by
  constructor
  · intro h user u hu htype
    refine (h user u hu).1 db.orders.rows ?_
    rw [htype]
    rfl
  · intro h user u hu
    have hlist : ∀ rows, getQueryset db user u.userType = .ok rows →
        ∀ r ∈ rows, Party db user r := by
      intro rows hrows
      rcases htype : u.userType with _ | _ | _ <;> rw [htype] at hrows
      · exact party_of_client hrows
      · exact party_of_supplier hrows
      · rw [← Except.ok.inj hrows]
        exact h user u hu htype
    refine ⟨hlist, fun id order hobject => ?_⟩
    obtain ⟨rows, hrows, hmem⟩ := mem_of_getObject hobject
    exact hlist rows hrows _ hmem

/-! ## Registrations and orders -/

/-- No user has the type `admin`. -/
def NoAdmin (accounts : AccountsDb) : Prop :=
  ∀ user u, accounts.users.lookup user = some u → u.userType ≠ .admin

/-- A request of a visitor who registers, or of a user who is registered. -/
inductive SiteEvent
  | register (request : RegisterRequest)
  | order (event : OrderEvent)

variable (normalizeUsername normalizeEmail : String → String)

/-- The state after a request. -/
def siteExec (event : SiteEvent) (db : OrdersDb) : OrdersDb :=
  match event with
  | .register request =>
    { db with accounts := registerExec normalizeUsername normalizeEmail request db.accounts }
  | .order event => exec event db

/-- A registration stores no user of the type `admin`: it does not ask for that type, or it is
not accepted, or the username or the supplier code is taken. -/
def StoresNoAdmin (db : OrdersDb) : SiteEvent → Prop
  | .register request =>
    request.body.userType ≠ some .admin ∨
      (∀ data, validate db.accounts request.body ≠ .ok (.ok data)) ∨
      ¬ db.accounts.UserFits db.accounts.users.nextId
        (userOf normalizeUsername normalizeEmail request.code₁ request.body)
  | .order _ => True

/-- A user of another type may be added. -/
lemma noAdmin_of_insert {accounts accounts' : AccountsDb} (h : NoAdmin accounts) {new : User}
    (husers : accounts'.users = accounts.users.insert new) (hother : new.userType ≠ .admin) :
    NoAdmin accounts' := by
  intro user u hu
  rw [husers] at hu
  rcases eq_or_ne user accounts.users.nextId with rfl | hne
  · rw [Table.lookup_insert_self] at hu
    rw [← Option.some.inj hu]
    exact hother
  · rw [Table.lookup_insert_of_ne _ _ hne] at hu
    exact h user u hu

lemma getD_client_ne_admin {userType : Option UserType} (h : userType ≠ some .admin) :
    userType.getD .client ≠ .admin := by
  rcases userType with _ | userType
  · simp
  · exact fun hadmin => h (congrArg some hadmin)

/-- A registration adds at most the user the request describes. -/
lemma noAdmin_registerExec {accounts : AccountsDb} (h : NoAdmin accounts)
    (request : RegisterRequest)
    (hstores : request.body.userType ≠ some .admin ∨
      (∀ data, validate accounts request.body ≠ .ok (.ok data)) ∨
      ¬ accounts.UserFits accounts.users.nextId
        (userOf normalizeUsername normalizeEmail request.code₁ request.body)) :
    NoAdmin (registerExec normalizeUsername normalizeEmail request accounts) := by
  obtain ⟨body, code₁, code₂⟩ := request
  show NoAdmin (register normalizeUsername normalizeEmail code₁ code₂ body accounts).2
  by_cases hvalid : ∃ data, validate accounts body = .ok (.ok data)
  · obtain ⟨data, hvalid⟩ := hvalid
    obtain ⟨hemail, htype, huser⟩ :=
      userOf_of_validate normalizeUsername normalizeEmail hvalid code₁
    rw [register_eq_complete normalizeUsername normalizeEmail code₁ code₂ hvalid]
    by_cases hfits : accounts.UserFits accounts.users.nextId
        (userOf normalizeUsername normalizeEmail code₁ body)
    · -- a user is stored, so it is the first alternative that holds
      have hother : body.userType ≠ some .admin := by
        rcases hstores with hother | hrefused | hnot
        · exact hother
        · exact absurd hvalid (hrefused data)
        · exact absurd hfits hnot
      rw [← huser] at hfits
      rw [← htype] at hother
      obtain ⟨code, husers⟩ := users_completeRegistration normalizeUsername normalizeEmail code₁
        code₂ hemail hfits
      exact noAdmin_of_insert h husers (getD_client_ne_admin hother)
    · rw [← huser] at hfits
      rw [completeRegistration_of_not_fits normalizeUsername normalizeEmail code₁ code₂ hemail
        hfits]
      exact h
  · push Not at hvalid
    rw [(register_of_rejected normalizeUsername normalizeEmail code₁ code₂ hvalid).1]
    exact h

lemma noAdmin_siteExec (db : OrdersDb) (event : SiteEvent) (h : NoAdmin db.accounts)
    (hstores : StoresNoAdmin normalizeUsername normalizeEmail db event) :
    NoAdmin (siteExec normalizeUsername normalizeEmail event db).accounts := by
  rcases event with request | event
  · exact noAdmin_registerExec normalizeUsername normalizeEmail h request hstores
  · show NoAdmin (exec event db).accounts
    rw [accounts_exec]
    exact h

/-- **When orders are visible to their parties only**: in a state exactly when the users of the
type `admin` are parties to every order, and along every run in which no visitor becomes one. -/
theorem visibleToParties_run :
    (∀ db, VisibleToParties db ↔ ∀ user u, db.accounts.users.lookup user = some u →
      u.userType = .admin → ∀ r ∈ db.orders.rows, Party db user r) ∧
    ∀ db events, NoAdmin db.accounts →
      Guarded (siteExec normalizeUsername normalizeEmail)
        (StoresNoAdmin normalizeUsername normalizeEmail) db events →
      ∀ earlier later, events = earlier ++ later →
        VisibleToParties (run (siteExec normalizeUsername normalizeEmail) db earlier) := by
  refine ⟨visibleToParties_iff, ?_⟩
  rintro db events hstart hguarded earlier later rfl
  have hnone : NoAdmin (run (siteExec normalizeUsername normalizeEmail) db earlier).accounts :=
    run_invariant (I := fun db => NoAdmin db.accounts)
      (noAdmin_siteExec normalizeUsername normalizeEmail) (guarded_append.mp hguarded).1 hstart
  rw [visibleToParties_iff]
  exact fun user u hu htype => absurd htype (hnone user u hu)

/-- A visitor who chooses the type `userType`. -/
def visitor (userType : UserType) : RegisterRequest :=
  { body :=
      { username := "eve", email := some "eve@example.com", password := "longsecret",
        passwordConfirm := "longsecret", firstName := none, lastName := none,
        userType := some userType, phone := none, companyName := none, address := none,
        taxNumber := none }
    code₁ := "SUPA"
    code₂ := "SUPB" }

lemma noAdmin_shop : NoAdmin shop.accounts := by
  intro user u hu
  have hrows : ∀ r ∈ shop.accounts.users.rows, r.2.userType ≠ .admin := by decide +kernel
  exact hrows (user, u) (Table.mem_rows_iff.mpr hu)

/-- A visitor who registers as a client sees no order of another one. -/
theorem visibleToParties_client :
    VisibleToParties (run (siteExec id id) shop [.register (visitor .client)]) :=
  (visibleToParties_run id id).2 shop [.register (visitor .client), .order (.cancel 1 1)]
    noAdmin_shop ⟨.inl (by decide), trivial, trivial⟩ _ _ rfl

/-- A visitor who registers as an `admin` sees the order of the client `1`. -/
theorem not_visibleToParties_admin :
    ¬ VisibleToParties (run (siteExec id id) shop [.register (visitor .admin)]) := by
  intro h
  set db := run (siteExec id id) shop [.register (visitor .admin)] with hdb
  have htype : (db.accounts.users.lookup 4).map (·.userType) = some .admin := by decide +kernel
  have hclients : db.orders.rows.map (·.2.client) = [1] := by decide +kernel
  have hprofile : db.accounts.profile 4 = none := by decide +kernel
  obtain ⟨u, hu, hadmin⟩ := Option.map_eq_some_iff.mp htype
  obtain ⟨r, hr, hclient⟩ : ∃ r ∈ db.orders.rows, r.2.client = 1 := by
    rw [← List.mem_map, hclients]
    exact List.mem_singleton_self 1
  rcases (visibleToParties_iff db).mp h 4 u hu hadmin r hr with hparty | ⟨supplier, hsome, -⟩
  · omega
  · rw [hprofile] at hsome
    cases hsome

end OrderViewSet

end OrdersBackend
