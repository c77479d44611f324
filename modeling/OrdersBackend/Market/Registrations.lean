import OrdersBackend.Accounts.Completeness
import OrdersBackend.Market.Uploads

/-!
# Registrations in the market

A registration writes users and suppliers with the columns that it sets (`AccountsDb`); the
rows of the market have more of them.  `register` runs the registration on the view and puts
the users and suppliers back, new rows with the defaults of the other columns
(`toAccounts_register`).

They may be put back because a registration takes no row away and gives a profile only to a
user who is there (`extended_register`).
-/

namespace OrdersBackend

open Framework Tx

/-! ## What a registration leaves -/

/-- No row of `db` is gone, and every profile has its user. -/
structure AccountsDb.Extended (db db' : AccountsDb) : Prop where
  users : ∀ id, (db.users.lookup id).isSome → (db'.users.lookup id).isSome
  suppliers : ∀ id, (db.suppliers.lookup id).isSome → (db'.suppliers.lookup id).isSome
  profiles : db'.suppliers.References Supplier.user db'.users

namespace UserViewSet

open UserRegistrationSerializer

variable {db : AccountsDb}

lemma isSome_lookup_insert {ρ : Type} {t : Table ρ} {id : ℕ} (h : (t.lookup id).isSome)
    (row : ρ) : ((t.insert row).lookup id).isSome := by
  obtain ⟨r, hr⟩ := Option.isSome_iff_exists.mp h
  exact Option.isSome_of_eq_some (Table.lookup_insert_of_some hr row)

lemma extended_addUser {db' : AccountsDb} (h : db.Extended db') {user : User}
    (hfits : db'.UserFits db'.users.nextId user) : db.Extended (db'.addUser user hfits) where
  users := fun id hid => isSome_lookup_insert (h.users id hid) user
  suppliers := h.suppliers
  profiles := Table.references_insert_target h.profiles user

/-- The state between the creation of a user and that of his profiles. -/
def ExtendedWith (db : AccountsDb) (id : ℕ) (db' : AccountsDb) : Prop :=
  db.Extended db' ∧ (db'.users.lookup id).isSome

lemma keeps_saveUser (id : ℕ) (user : User) :
    Keeps (ExtendedWith db id) (AccountsDb.saveUser id user) := by
  refine keeps_dite fun db' hfits hdb' => ⟨⟨fun id' hid' => ?_, hdb'.1.suppliers, ?_⟩, ?_⟩
  · exact (Table.isSome_lookup_update db'.users id id' user).mpr (hdb'.1.users id' hid')
  · exact Table.references_update_target hdb'.1.profiles id user
  · exact (Table.isSome_lookup_update db'.users id id user).mpr hdb'.2

lemma keeps_createProfile (id : ℕ) (user : User) (taxNumber : Option String) :
    Keeps (ExtendedWith db id) (createProfile id user taxNumber) := by
  rcases taxNumber with _ | taxNumber
  · exact fun db' hdb' => hdb'
  · intro db' hdb'
    unfold createProfile AccountsDb.insertSupplier
    dsimp only
    split
    · refine ⟨⟨hdb'.1.users, fun id' hid' => ?_, ?_⟩, hdb'.2⟩
      · exact isSome_lookup_insert (hdb'.1.suppliers id' hid') _
      · exact Table.references_insert hdb'.1.profiles hdb'.2
    · exact hdb'

lemma keeps_finishSupplier (user : User) (taxNumber : Option String) (id : ℕ) :
    Keeps (ExtendedWith db id) (finishSupplier user taxNumber id) :=
  (keeps_saveUser id user).bind fun _ => (keeps_createProfile id user taxNumber).bind fun _ =>
    (keeps_createProfile id user none).bind fun _ => keeps_pure _

variable (normalizeUsername normalizeEmail : String → String)

/-- A registration extends the tables, also when it raises. -/
theorem extended_register (h : db.suppliers.References Supplier.user db.users)
    (code₁ code₂ : String) (body : RegisterBody) :
    db.Extended (register normalizeUsername normalizeEmail code₁ code₂ body db).2 := by
  have hself : db.Extended db := ⟨fun _ hid => hid, fun _ hid => hid, h⟩
  by_cases hvalid : ∃ data, validate db body = .ok (.ok data)
  · obtain ⟨data, hvalid⟩ := hvalid
    rw [register_of_validate normalizeUsername normalizeEmail code₁ code₂ hvalid]
    set user := userOf normalizeUsername normalizeEmail code₁ body
    by_cases hfits : db.UserFits db.users.nextId user
    · -- from the new user on every write extends the tables, the one that raises included
      have hadded : ExtendedWith db db.users.nextId (db.addUser user hfits) := by
        refine ⟨extended_addUser hself hfits, ?_⟩
        exact Option.isSome_of_eq_some (Table.lookup_insert_self db.users user)
      rw [bind_of_ok (AccountsDb.insertUser_of_fits hfits)]
      by_cases hsupplier : body.userType.getD .client = .supplier
      · rw [if_pos hsupplier]
        exact (keeps_finishSupplier _ _ _ _ hadded).1
      · rw [if_neg hsupplier]
        exact hadded.1
    · rw [bind_of_error (AccountsDb.insertUser_of_not_fits hfits)]
      exact hself
  · push Not at hvalid
    rw [(register_of_rejected normalizeUsername normalizeEmail code₁ code₂ hvalid).1]
    exact hself

/-- The users after a registration: those before it, or one more. -/
theorem users_register (code₁ code₂ : String) (body : RegisterBody) :
    (register normalizeUsername normalizeEmail code₁ code₂ body db).2.users = db.users ∨
      ∃ user, (register normalizeUsername normalizeEmail code₁ code₂ body db).2.users =
        db.users.insert user := by
  by_cases hvalid : ∃ data, validate db body = .ok (.ok data)
  · obtain ⟨data, hvalid⟩ := hvalid
    have hemail := (userOf_of_validate normalizeUsername normalizeEmail hvalid code₁).1
    rw [register_eq_complete normalizeUsername normalizeEmail code₁ code₂ hvalid]
    by_cases hfits : db.UserFits db.users.nextId
        (userOf normalizeUsername normalizeEmail code₁ data)
    · obtain ⟨code, husers⟩ := users_completeRegistration normalizeUsername normalizeEmail code₁
        code₂ hemail hfits
      exact .inr ⟨_, husers⟩
    · rw [completeRegistration_of_not_fits normalizeUsername normalizeEmail code₁ code₂ hemail
        hfits]
      exact .inl rfl
  · push Not at hvalid
    rw [(register_of_rejected normalizeUsername normalizeEmail code₁ code₂ hvalid).1]
    exact .inl rfl

end UserViewSet

/-! ## Rows that are put back -/

/-- The other columns of a user stay, and a new user gets their defaults. -/
def Account.ofUser (old : Option Account) (user : User) : Account :=
  match old with
  | some row => { row with toUser := user }
  | none =>
    { toUser := user, isStaff := false, isActive := true, acceptsOrders := true, avatar := none,
      avatarSmall := none, avatarMedium := none, avatarLarge := none }

def SupplierRow.ofSupplier (now : ℕ) (old : Option SupplierRow) (supplier : Supplier) :
    SupplierRow :=
  match old with
  | some row => { row with toSupplier := supplier }
  | none => { toSupplier := supplier, bankDetails := "", isActive := true, updatedAt := now }

@[simp] lemma Account.toUser_ofUser (old : Option Account) (user : User) :
    (Account.ofUser old user).toUser = user := by
  rcases old with _ | row <;> rfl

@[simp] lemma SupplierRow.toSupplier_ofSupplier (now : ℕ) (old : Option SupplierRow)
    (supplier : Supplier) : (SupplierRow.ofSupplier now old supplier).toSupplier = supplier := by
  rcases old with _ | row <;> rfl

namespace MarketDb

/-- Put the users and suppliers back. -/
def withAccounts (db : MarketDb) (now : ℕ) (view : AccountsDb) (h : db.toAccounts.Extended view) :
    MarketDb :=
  { db with
    users := db.users.overlay view.users Account.ofUser
    suppliers := db.suppliers.overlay view.suppliers (SupplierRow.ofSupplier now)
    usernames := Table.unique_overlay view.usernames Account.toUser_ofUser
    supplierCodes := Table.unique_overlay view.supplierCodes Account.toUser_ofUser
    profiles := Table.unique_overlay view.profiles (SupplierRow.toSupplier_ofSupplier now)
    taxNumbers := Table.unique_overlay view.taxNumbers (SupplierRow.toSupplier_ofSupplier now)
    supplierUsers := by
      have hview : ((db.suppliers.overlay view.suppliers (SupplierRow.ofSupplier now)).map
          SupplierRow.toSupplier).References Supplier.user
            ((db.users.overlay view.users Account.ofUser).map Account.toUser) := by
        rw [Table.map_overlay _ _ (SupplierRow.toSupplier_ofSupplier now),
          Table.map_overlay _ _ Account.toUser_ofUser]
        exact h.profiles
      exact Table.references_of_map ((Table.references_map_target Account.toUser).mp hview)
    productSuppliers := by
      refine Table.references_grow db.productSuppliers fun id hid => ?_
      rw [Table.lookup_overlay, Option.isSome_map]
      refine h.suppliers id ?_
      show ((db.suppliers.map SupplierRow.toSupplier).lookup id).isSome
      rw [Table.lookup_map, Option.isSome_map]
      exact hid
    orderClients := by
      refine Table.references_grow db.orderClients fun id hid => ?_
      rw [Table.lookup_overlay, Option.isSome_map]
      refine h.users id ?_
      show ((db.users.map Account.toUser).lookup id).isSome
      rw [Table.lookup_map, Option.isSome_map]
      exact hid
    itemSuppliers := by
      refine Table.references_grow db.itemSuppliers fun id hid => ?_
      rw [Table.lookup_overlay, Option.isSome_map]
      refine h.suppliers id ?_
      show ((db.suppliers.map SupplierRow.toSupplier).lookup id).isSome
      rw [Table.lookup_map, Option.isSome_map]
      exact hid }

/-- What has been put back is what the view shows. -/
lemma toAccounts_withAccounts {db : MarketDb} {view : AccountsDb}
    (h : db.toAccounts.Extended view) (now : ℕ) :
    (db.withAccounts now view h).toAccounts = view := by
  have husers := Table.map_overlay db.users view.users Account.toUser_ofUser
  have hsuppliers := Table.map_overlay db.suppliers view.suppliers
    (SupplierRow.toSupplier_ofSupplier now)
  cases view
  unfold toAccounts withAccounts
  simp only [AccountsDb.mk.injEq]
  exact ⟨husers, hsuppliers⟩

lemma profiles_toAccounts (db : MarketDb) :
    db.toAccounts.suppliers.References Supplier.user db.toAccounts.users :=
  Table.references_map ((Table.references_map_target Account.toUser).mpr db.supplierUsers)

end MarketDb

/-! ## New users -/

namespace Market

section

variable (normalizeUsername normalizeEmail : String → String)

/-- `UserViewSet.register`. -/
def register (code₁ code₂ : String) (body : RegisterBody) (now : ℕ) :
    Tx MarketDb PyErr (Except RegistrationError ℕ) := fun db =>
  ((UserViewSet.register normalizeUsername normalizeEmail code₁ code₂ body db.toAccounts).1,
    db.withAccounts now
      (UserViewSet.register normalizeUsername normalizeEmail code₁ code₂ body db.toAccounts).2
      (UserViewSet.extended_register normalizeUsername normalizeEmail db.profiles_toAccounts
        code₁ code₂ body))

/-- **The registration is the one in the tables of the accounts.** -/
theorem toAccounts_register (code₁ code₂ : String) (body : RegisterBody) (now : ℕ)
    (db : MarketDb) :
    (register normalizeUsername normalizeEmail code₁ code₂ body now db).1 =
        (UserViewSet.register normalizeUsername normalizeEmail code₁ code₂ body
          db.toAccounts).1 ∧
      (register normalizeUsername normalizeEmail code₁ code₂ body now db).2.toAccounts =
        (UserViewSet.register normalizeUsername normalizeEmail code₁ code₂ body
          db.toAccounts).2 :=
  ⟨rfl, MarketDb.toAccounts_withAccounts (UserViewSet.extended_register normalizeUsername
    normalizeEmail db.profiles_toAccounts code₁ code₂ body) now⟩

/-- A registration keeps the users as they are, or adds one. -/
theorem users_register (code₁ code₂ : String) (body : RegisterBody) (now : ℕ) (db : MarketDb) :
    (register normalizeUsername normalizeEmail code₁ code₂ body now db).2.users = db.users ∨
      ∃ user, (register normalizeUsername normalizeEmail code₁ code₂ body now db).2.users =
        db.users.insert (Account.ofUser none user) := by
  have hself : ∀ row : Account, Account.ofUser (some row) row.toUser = row := fun _ => rfl
  have hview : (register normalizeUsername normalizeEmail code₁ code₂ body now db).2.users =
      db.users.overlay (UserViewSet.register normalizeUsername normalizeEmail code₁ code₂ body
        db.toAccounts).2.users Account.ofUser := rfl
  rw [hview]
  rcases UserViewSet.users_register normalizeUsername normalizeEmail code₁ code₂ body with
    husers | ⟨user, husers⟩
  · left
    rw [husers]
    exact Table.overlay_map db.users Account.toUser hself
  · right
    refine ⟨user, ?_⟩
    rw [husers]
    exact Table.overlay_insert db.users Account.toUser hself user

end

end Market

/-- The validated data of a new user, which has a username. -/
def NewUser : Type := { data : UserData // data.username.isSome }

/-- `User()`. -/
def Account.blank : Account :=
  Account.ofUser none
    { username := "", email := "", firstName := "", lastName := "", userType := .client,
      phone := "", companyName := "", address := "", supplierCode := none }

namespace MarketDb

def addUser (db : MarketDb) (row : Account) (h : db.UserFits db.users.nextId row) : MarketDb :=
  { db with
    users := db.users.insert row
    usernames := Table.unique_insert db.usernames h.1
    supplierCodes := Table.unique_insert db.supplierCodes h.2
    supplierUsers := Table.references_insert_target db.supplierUsers row
    orderClients := Table.references_insert_target db.orderClients row }

/-- `User.objects.create`; the answer is the id. -/
def insertUser (row : Account) : Tx MarketDb PyErr ℕ := fun db =>
  if h : db.UserFits db.users.nextId row then (.ok db.users.nextId, db.addUser row h)
  else (.error .integrityError, db)

end MarketDb

open Market

/-- `create`, with the serializer of the endpoint, which knows no password. -/
def UserViewSet.createUser (body : Option NewUser) : Tx MarketDb PyErr MarketAnswer :=
  withData (fun db data => UserSerializer.errors db.users.nextId db data.1) body fun data => do
    let id ← MarketDb.insertUser (Account.blank.withData data.1)
    return .created id

lemma UserViewSet.createUser_iff {P : MarketDb → Prop} {db : MarketDb} (h : P db)
    (body : Option NewUser) :
    P (createUser body db).2 ↔
      ∀ data, body = some data → UserSerializer.errors db.users.nextId db data.1 = [] →
        ∀ hfits, P (db.addUser (Account.blank.withData data.1) hfits) := by
  refine (withData_iff h).trans (forall₂_congr fun data _ => forall_congr' fun _ => ?_)
  rw [snd_bind_pure]
  exact snd_dite_iff h

end OrdersBackend
