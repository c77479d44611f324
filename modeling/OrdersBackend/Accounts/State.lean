import OrdersBackend.Framework.Table
import OrdersBackend.Framework.Transaction
import OrdersBackend.Python.Text

/-!
# Users and suppliers

The tables `users` and `suppliers` with the constraints the database keeps: usernames and
supplier codes are unique among the users, the user and the tax number among the suppliers.
`AccountsDb` carries them as fields; a write that would break one raises `IntegrityError` and
leaves the tables alone.
-/

namespace OrdersBackend

open Framework

inductive UserType
  | client
  | supplier
  | admin
  deriving DecidableEq, Repr

/-- A row of `users`. -/
structure User where
  username : String
  email : String
  firstName : String
  lastName : String
  userType : UserType
  phone : String
  companyName : String
  address : String
  supplierCode : Option String
  deriving DecidableEq, Repr

/-- `user.supplier_code = code`. -/
def User.withCode (user : User) (code : String) : User := { user with supplierCode := some code }

@[simp] lemma User.userType_withCode (user : User) (code : String) :
    (user.withCode code).userType = user.userType := rfl

/-- A row of `suppliers`.  The user is its id. -/
structure Supplier where
  user : ℕ
  companyName : String
  contactPerson : String
  phone : String
  email : String
  address : String
  taxNumber : String
  deriving DecidableEq, Repr

/-- The unique columns of a user. -/
def User.usernameKey (u : User) : Option String := some u.username

/-- The unique columns of a supplier. -/
def Supplier.userKey (s : Supplier) : Option ℕ := some s.user

def Supplier.taxNumberKey (s : Supplier) : Option String := some s.taxNumber

structure AccountsDb where
  users : Table User
  suppliers : Table Supplier
  usernames : users.Unique User.usernameKey
  supplierCodes : users.Unique User.supplierCode
  profiles : suppliers.Unique Supplier.userKey
  taxNumbers : suppliers.Unique Supplier.taxNumberKey
  deriving DecidableEq

namespace AccountsDb

def empty : AccountsDb where
  users := Table.empty
  suppliers := Table.empty
  usernames := Table.unique_empty _
  supplierCodes := Table.unique_empty _
  profiles := Table.unique_empty _
  taxNumbers := Table.unique_empty _

/-- The user can be stored under `id`: no other one has the username or the supplier code. -/
def UserFits (db : AccountsDb) (id : ℕ) (user : User) : Prop :=
  db.users.Free User.usernameKey id user ∧ db.users.Free User.supplierCode id user

instance (db : AccountsDb) (id : ℕ) (user : User) : Decidable (db.UserFits id user) :=
  inferInstanceAs (Decidable (_ ∧ _))

/-- The supplier can be stored: no other one has the user or the tax number. -/
def SupplierFits (db : AccountsDb) (supplier : Supplier) : Prop :=
  db.suppliers.Free Supplier.userKey db.suppliers.nextId supplier ∧
    db.suppliers.Free Supplier.taxNumberKey db.suppliers.nextId supplier

instance (db : AccountsDb) (supplier : Supplier) : Decidable (db.SupplierFits supplier) :=
  inferInstanceAs (Decidable (_ ∧ _))

def addUser (db : AccountsDb) (user : User) (h : db.UserFits db.users.nextId user) :
    AccountsDb :=
  { db with
    users := db.users.insert user
    usernames := Table.unique_insert db.usernames h.1
    supplierCodes := Table.unique_insert db.supplierCodes h.2 }

def setUser (db : AccountsDb) (id : ℕ) (user : User) (h : db.UserFits id user) : AccountsDb :=
  { db with
    users := db.users.update id user
    usernames := Table.unique_update db.usernames h.1
    supplierCodes := Table.unique_update db.supplierCodes h.2 }

def addSupplier (db : AccountsDb) (supplier : Supplier) (h : db.SupplierFits supplier) :
    AccountsDb :=
  { db with
    suppliers := db.suppliers.insert supplier
    profiles := Table.unique_insert db.profiles h.1
    taxNumbers := Table.unique_insert db.taxNumbers h.2 }

/-! ## The writes of the program -/

/-- `INSERT` of a user; the answer is its id. -/
def insertUser (user : User) : Tx AccountsDb PyErr ℕ := fun db =>
  if h : db.UserFits db.users.nextId user then (.ok db.users.nextId, db.addUser user h)
  else (.error .integrityError, db)

/-- `UPDATE` of all columns of a user. -/
def saveUser (id : ℕ) (user : User) : Tx AccountsDb PyErr Unit := fun db =>
  if h : db.UserFits id user then (.ok (), db.setUser id user h)
  else (.error .integrityError, db)

/-- `INSERT` of a supplier, whose tax number may not be null. -/
def insertSupplier (user : ℕ) (companyName contactPerson phone email address : String)
    (taxNumber : Option String) : Tx AccountsDb PyErr ℕ := fun db =>
  match taxNumber with
  | none => (.error .integrityError, db)
  | some taxNumber =>
    let supplier : Supplier :=
      { user, companyName, contactPerson, phone, email, address, taxNumber }
    if h : db.SupplierFits supplier then (.ok db.suppliers.nextId, db.addSupplier supplier h)
    else (.error .integrityError, db)

lemma insertUser_of_fits {db : AccountsDb} {user : User} (h : db.UserFits db.users.nextId user) :
    insertUser user db = (.ok db.users.nextId, db.addUser user h) := dif_pos h

lemma insertUser_of_not_fits {db : AccountsDb} {user : User}
    (h : ¬ db.UserFits db.users.nextId user) :
    insertUser user db = (.error .integrityError, db) := dif_neg h

/-- Saving a user takes no id. -/
lemma nextId_saveUser (id : ℕ) (user : User) (db : AccountsDb) :
    (saveUser id user db).2.users.nextId = db.users.nextId := by
  unfold saveUser
  by_cases h : db.UserFits id user
  · rw [dif_pos h]
    rfl
  · rw [dif_neg h]

lemma users_insertSupplier (user : ℕ) (companyName contactPerson phone email address : String)
    (taxNumber : Option String) (db : AccountsDb) :
    (insertSupplier user companyName contactPerson phone email address taxNumber db).2.users =
      db.users := by
  unfold insertSupplier
  rcases taxNumber with _ | taxNumber
  · rfl
  · dsimp only
    split <;> rfl

/-- A supplier without a tax number is refused. -/
lemma insertSupplier_none (user : ℕ) (companyName contactPerson phone email address : String)
    (db : AccountsDb) :
    insertSupplier user companyName contactPerson phone email address none db =
      (.error .integrityError, db) := rfl

/-- The supplier's profile of a user, `user.supplier_profile`. -/
def profile (db : AccountsDb) (user : ℕ) : Option ℕ :=
  (db.suppliers.rows.find? fun r => r.2.user = user).map Prod.fst

end AccountsDb

end OrdersBackend
