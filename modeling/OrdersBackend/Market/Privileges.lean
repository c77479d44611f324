import OrdersBackend.Market.Tasks

/-!
# What an account may do

The views look at two columns of an account: its type, and the flag of the staff.  Both are
written when the row is created, by a registration or by an administrator, and never again: the
serializers do not take them, and a task that saves an old copy of a row saves the columns that
the row still has.  `privileges_run` says so of every order of requests and tasks, and that
nobody joins the staff.
-/

namespace OrdersBackend

open Framework Tx Market

/-- The columns that the views look at. -/
structure Privileges where
  userType : UserType
  isStaff : Bool
  deriving DecidableEq, Repr

namespace Account

def privileges (row : Account) : Privileges := ⟨row.userType, row.isStaff⟩

@[simp] lemma privileges_saved (row : Account) (code : String) :
    (row.saved code).privileges = row.privileges := by
  unfold saved
  split <;> rfl

@[simp] lemma privileges_withData (row : Account) (data : UserData) :
    (row.withData data).privileges = row.privileges := rfl

@[simp] lemma privileges_withAvatar (row : Account) (name : String) :
    (row.withAvatar name).privileges = row.privileges := rfl

@[simp] lemma privileges_withoutAvatar (row : Account) :
    row.withoutAvatar.privileges = row.privileges := rfl

@[simp] lemma privileges_withThumbnails (row : Account) (made : Thumbnails) :
    (row.withThumbnails made).privileges = row.privileges := rfl

end Account

/-! ## Accounts since some state -/

namespace MarketDb

/-- The privileges that an account has had since `old`, or those of a new account. -/
def Granted (old : MarketDb) (pk : ℕ) (p : Privileges) : Prop :=
  (∃ row, old.users.lookup pk = some row ∧ row.privileges = p) ∨
    (old.users.nextId ≤ pk ∧ p.isStaff = false)

/-- Every account has the privileges that it was granted. -/
structure GrantedAll (old db : MarketDb) : Prop where
  grows : old.users.nextId ≤ db.users.nextId
  granted : ∀ pk row, db.users.lookup pk = some row → old.Granted pk row.privileges

variable {old db : MarketDb}

namespace GrantedAll

lemma refl (db : MarketDb) : GrantedAll db db :=
  ⟨le_rfl, fun _ row hrow => .inl ⟨row, hrow, rfl⟩⟩

/-- A write of the users that keeps the ids may take rows away, and gives none more privileges. -/
lemma of_users {db' : MarketDb} (h : GrantedAll old db)
    (hnext : db'.users.nextId = db.users.nextId)
    (hrows : ∀ pk row, db'.users.lookup pk = some row →
      ∃ before, db.users.lookup pk = some before ∧ before.privileges = row.privileges) :
    GrantedAll old db' := by
  refine ⟨hnext ▸ h.grows, fun pk row hrow => ?_⟩
  obtain ⟨before, hbefore, hsame⟩ := hrows pk row hrow
  rw [← hsame]
  exact h.granted pk before hbefore

lemma of_same {db' : MarketDb} (h : GrantedAll old db) (hsame : db'.users = db.users) :
    GrantedAll old db' :=
  h.of_users (by rw [hsame]) fun _ row hrow => ⟨row, by rwa [hsame] at hrow, rfl⟩

lemma setUser (h : GrantedAll old db) {pk : ℕ} {before row : Account}
    (hbefore : db.users.lookup pk = some before) (hsame : row.privileges = before.privileges)
    (hfits : db.UserFits pk row) : GrantedAll old (db.setUser pk row hfits) := by
  refine h.of_users rfl fun other r hr => ?_
  rcases Table.lookup_update_cases hr with ⟨rfl, rfl⟩ | ⟨-, hold⟩
  · exact ⟨before, hbefore, hsame.symm⟩
  · exact ⟨r, hold, rfl⟩

lemma erase (h : GrantedAll old db) {doomed : Doomed} (hfree : ¬ db.Protected doomed) :
    GrantedAll old (db.erase doomed hfree) :=
  h.of_users rfl fun _ row hrow => ⟨row, (Table.lookup_filter_eq_some.mp hrow).1, rfl⟩

/-- A new account is not of the staff. -/
lemma of_insert {db' : MarketDb} (h : GrantedAll old db) {row : Account}
    (hrow : row.isStaff = false) (husers : db'.users = db.users.insert row) :
    GrantedAll old db' := by
  refine ⟨?_, fun pk r hr => ?_⟩
  · rw [husers]
    exact h.grows.trans (Nat.le_succ _)
  · rw [husers] at hr
    rcases Table.lookup_insert_cases hr with ⟨rfl, rfl⟩ | ⟨-, hold⟩
    · exact .inr ⟨h.grows, hrow⟩
    · exact h.granted pk r hold

end GrantedAll

end MarketDb

open MarketDb

/-! ## Requests -/

section

variable {mayRetry : ℕ → Bool} {normalizeUsername normalizeEmail : String → String}
  {old db : MarketDb}

lemma grantedAll_users (h : GrantedAll old db) (user : ℕ) (query : UserQuery) (pk : ℕ)
    (action : UserAction) : GrantedAll old (Market.exec user (.users query pk action) db) := by
  refine (asUser_iff (P := GrantedAll old) h).mpr fun account _ => ?_
  rcases action with ⟨body, code⟩ | _ | ⟨file, code⟩ | code
  · exact (updateUser_iff (P := GrantedAll old) h query pk body code).mpr
      fun row hobject _ _ _ => h.setUser (lookup_of_filter hobject) (by simp)
  · exact (destroyUser_iff (P := GrantedAll old) h query pk).mpr fun _ _ => h.erase
  · exact (uploadAvatar_iff (P := GrantedAll old) h query pk file code).mpr
      fun row hobject _ _ _ => h.setUser (lookup_of_filter hobject) (by simp)
  · exact (deleteAvatar_iff (P := GrantedAll old) h query pk code).mpr
      fun row hobject _ _ => h.setUser (lookup_of_filter hobject) (by simp)

lemma grantedAll_suppliers (h : GrantedAll old db) (user : ℕ) (query : SupplierQuery) (pk : ℕ)
    (action : SupplierAction) :
    GrantedAll old (Market.exec user (.suppliers query pk action) db) := by
  refine (asUser_iff (P := GrantedAll old) h).mpr fun account _ => ?_
  rcases action with ⟨body, now⟩ | _ | now
  · exact (updateSupplier_iff (P := GrantedAll old) h query pk body now).mpr
      fun _ _ _ _ _ _ => h.of_same rfl
  · exact (destroySupplier_iff (P := GrantedAll old) h query pk).mpr fun _ _ => h.erase
  · exact (toggleAcceptOrders_iff (P := GrantedAll old) h query pk now).mpr
      fun _ _ _ => h.of_same rfl

lemma grantedAll_products (h : GrantedAll old db) (user : ℕ) (query : ProductQuery) (pk : ℕ)
    (action : ProductAction) :
    GrantedAll old (Market.exec user (.products query pk action) db) := by
  refine (asUser_iff (P := GrantedAll old) h).mpr fun account _ => ?_
  rcases action with ⟨body, now⟩ | _ | ⟨file, now⟩ | ⟨file, sortOrder⟩ | imageId
  · exact (updateProduct_iff (P := GrantedAll old) h query pk body now).mpr
      fun _ _ _ _ _ _ => h.of_same rfl
  · exact (destroyProduct_iff (P := GrantedAll old) h query pk).mpr fun _ _ => h.erase
  · exact (uploadImage_iff (P := GrantedAll old) h query pk file now).mpr
      fun _ _ _ _ _ _ => h.of_same rfl
  · exact (addAdditionalImage_iff (P := GrantedAll old) h query pk file sortOrder).mpr
      fun _ _ _ _ _ _ _ _ => h.of_same rfl
  · exact (removeAdditionalImage_iff (P := GrantedAll old) h query pk imageId).mpr
      fun _ _ _ _ _ _ _ => h.of_same rfl

/-- No request gives an account more than it was granted. -/
lemma grantedAll_execMarket (h : GrantedAll old db) (event : MemberEvent) :
    GrantedAll old (event.execMarket normalizeUsername normalizeEmail db) := by
  rcases event with ⟨request, salt, now⟩ | ⟨user, body⟩ | ⟨user, body, now⟩ | ⟨user, request⟩
  · rcases users_register normalizeUsername normalizeEmail request.code₁ request.code₂
      request.body now db with husers | ⟨new, husers⟩
    · exact h.of_same husers
    · exact h.of_insert rfl husers
  · refine (asUser_iff (P := GrantedAll old) h).mpr fun _ _ => ?_
    exact (UserViewSet.createUser_iff (P := GrantedAll old) h body).mpr
      fun _ _ _ _ => h.of_insert rfl rfl
  · refine (asUser_iff (P := GrantedAll old) h).mpr fun _ _ => ?_
    exact (create_iff (P := GrantedAll old) h body now).mpr fun _ _ _ _ => h.of_same rfl
  · rcases request with ⟨query, pk, action⟩ | ⟨query, pk, action⟩ | ⟨query, pk, action⟩
    · exact grantedAll_users h user query pk action
    · exact grantedAll_suppliers h user query pk action
    · exact grantedAll_products h user query pk action

/-! ## Tasks -/

/-- A copy with more privileges than its account was granted. -/
def Presumes (old : MarketDb) : (key : MediaTask) → key.Row → Prop
  | .userAvatar user => fun row : Account => ¬ old.Granted user row.privileges
  | .productImage _ => fun _ => False
  | .additionalImage _ => fun _ => False

/-- A task saves the privileges that it has read. -/
lemma keeps_grantedAll (old : MarketDb) :
    Jobs.Keeps (tasks mayRetry normalizeUsername normalizeEmail) (fun _ _ => True) (Presumes old)
      (GrantedAll old) where
  request := fun event _ h => iff_of_true trivial (grantedAll_execMarket h event)
  read := by
    rintro (user | product | image) db copy h hread hpresumes
    · have hcopy : db.users.lookup user = some copy := (Option.filter_eq_some_iff.mp hread).1
      exact hpresumes (h.granted user copy hcopy)
    · exact hpresumes
    · exact hpresumes
  save := by
    rintro (user | product | image) copy made db db' hsave h
    · obtain ⟨hfits, hdb⟩ := Option.dite_none_right_eq_some.mp hsave
      -- the task writes thumbnails, and the rest of the copy as it was read
      have hsame : Account.privileges
            ((Account.withThumbnails copy made.thumbnails).saved made.code) =
          Account.privileges copy := Account.privileges_saved _ _
      rw [← Option.some.inj hdb]
      refine not_not.trans ⟨fun hgranted => ⟨?_, fun pk row hrow => ?_⟩, fun hall => ?_⟩
      · exact h.grows.trans (Table.nextId_put (h := hfits.1)).ge
      · rcases Table.lookup_put_cases (h := hfits.1) hrow with ⟨rfl, rfl⟩ | ⟨-, hold⟩
        · exact hsame ▸ hgranted
        · exact h.granted pk row hold
      · exact hsame ▸ hall.granted user _ (Table.lookup_put_self (h := hfits.1))
    · obtain ⟨hfits, hdb⟩ := Option.dite_none_right_eq_some.mp hsave
      rw [← Option.some.inj hdb]
      exact iff_of_true not_false (h.of_same rfl)
    · obtain ⟨hfits, hdb⟩ := Option.dite_none_right_eq_some.mp hsave
      rw [← Option.some.inj hdb]
      exact iff_of_true not_false (h.of_same rfl)

/-- **What an account may do is settled when it is created.**  In every order of requests and
tasks each account either has been there from the start, with the same type and the same staff
flag, or is new and not of the staff. -/
theorem privileges_run {steps : List (JobStep MemberEvent Made)} {pk : ℕ} {row : Account}
    (hrow : (run (Jobs.exec (tasks mayRetry normalizeUsername normalizeEmail)) (MediaBroker.idle db)
      steps).store.users.lookup pk = some row) :
    (∃ before, db.users.lookup pk = some before ∧ before.userType = row.userType ∧
        before.isStaff = row.isStaff) ∨
      (db.users.nextId ≤ pk ∧ row.isStaff = false) := by
  have hfresh : Jobs.Fresh (Presumes db) (MediaBroker.idle db) := fun job hmem => by cases hmem
  have hall : GrantedAll db (run (Jobs.exec (tasks mayRetry normalizeUsername normalizeEmail))
      (MediaBroker.idle db) steps).store :=
    Jobs.run_kept_of_fresh (keeps_grantedAll db) (GrantedAll.refl db) hfresh
      (Jobs.guarded_requestsOk (fun _ _ => trivial) _ steps)
  rcases hall.granted pk row hrow with ⟨before, hbefore, hsame⟩ | hnew
  · exact .inl ⟨before, hbefore, congrArg Privileges.userType hsame,
      congrArg Privileges.isStaff hsame⟩
  · exact .inr hnew

/-- The account has been deleted and brought back by a task. -/
theorem privileges_run_ann :
    (∃ before, market.users.lookup 1 = some before ∧ before.userType = annBack.userType ∧
        before.isStaff = annBack.isStaff) ∨
      (market.users.nextId ≤ 1 ∧ annBack.isStaff = false) := by
  have hback : (run (Jobs.exec (tasks threeRetries id id)) (MediaBroker.idle market)
      [.request (.send 1 (.users ⟨none, none⟩ 1 (.uploadAvatar (some "avatars/ann.jpg") ""))),
       .start 0, .request (.send 1 (.users ⟨none, none⟩ 1 .destroy)),
       .save 0 annMade]).store.users.lookup 1 = some annBack := by
    decide +kernel
  exact privileges_run hback

end

end OrdersBackend
