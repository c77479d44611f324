import OrdersBackend.Framework.References
import OrdersBackend.Orders.State
import OrdersBackend.Products.Row

/-!
# The rows of users, suppliers and products

The tables that the endpoints of users, suppliers and products write, with all columns that
they set, and the orders and items that prevent a deletion.  `MarketDb` carries the unique
columns and the foreign keys.  `toAccounts` forgets what a registration does not set; a saved
user is the same to both (`toAccounts_saveUser`).
-/

namespace OrdersBackend

open Framework

/-! ## Rows -/

/-- A row of `users`.  A file column without a file is `none`. -/
structure Account extends User where
  isStaff : Bool
  isActive : Bool
  acceptsOrders : Bool
  avatar : Option String
  avatarSmall : Option String
  avatarMedium : Option String
  avatarLarge : Option String
  deriving DecidableEq, Repr

/-- A row of `suppliers`. -/
structure SupplierRow extends Supplier where
  bankDetails : String
  isActive : Bool
  updatedAt : ℕ
  deriving DecidableEq, Repr

/-- A row of `products`, with the time of its last save. -/
structure StoredProduct extends ProductRow Price where
  updatedAt : ℕ
  deriving DecidableEq, Repr

/-- A row of `product_images`. -/
structure ProductImage where
  product : ℕ
  image : Option String
  thumbnail : Option String
  small : Option String
  medium : Option String
  sortOrder : ℕ
  deriving DecidableEq, Repr

/-- The unique columns. -/
def Account.usernameKey (a : Account) : Option String := some a.username

def Account.codeKey (a : Account) : Option String := a.supplierCode

def SupplierRow.userKey (s : SupplierRow) : Option ℕ := some s.user

def SupplierRow.taxNumberKey (s : SupplierRow) : Option String := some s.taxNumber

def StoredProduct.skuKey (p : StoredProduct) : Option String := some p.sku

/-! ## Tables -/

/-- The tables.  Of the categories, which the endpoints only read, the names are enough. -/
structure MarketDb where
  users : Table Account
  suppliers : Table SupplierRow
  categories : List String
  products : Table StoredProduct
  images : Table ProductImage
  orders : Table Order
  items : Table OrderItem
  usernames : users.Unique Account.usernameKey
  supplierCodes : users.Unique Account.codeKey
  profiles : suppliers.Unique SupplierRow.userKey
  taxNumbers : suppliers.Unique SupplierRow.taxNumberKey
  skus : products.Unique StoredProduct.skuKey
  supplierUsers : suppliers.References (fun s => s.user) users
  productSuppliers : products.References (fun p => p.supplier) suppliers
  productCategories : ∀ id row, products.lookup id = some row → row.category ∈ categories
  imageProducts : images.References (fun i => i.product) products
  orderClients : orders.References (fun o => o.client) users
  itemOrders : items.References (fun i => i.order) orders
  itemProducts : items.References (fun i => i.product) products
  itemSuppliers : items.References (fun i => i.supplier) suppliers

namespace MarketDb

/-! ## Saves -/

def UserFits (db : MarketDb) (id : ℕ) (row : Account) : Prop :=
  db.users.Free Account.usernameKey id row ∧ db.users.Free Account.codeKey id row

instance (db : MarketDb) (id : ℕ) (row : Account) : Decidable (db.UserFits id row) :=
  inferInstanceAs (Decidable (_ ∧ _))

def SupplierFits (db : MarketDb) (id : ℕ) (row : SupplierRow) : Prop :=
  db.suppliers.Free SupplierRow.userKey id row ∧
    db.suppliers.Free SupplierRow.taxNumberKey id row ∧ (db.users.lookup row.user).isSome

instance (db : MarketDb) (id : ℕ) (row : SupplierRow) : Decidable (db.SupplierFits id row) :=
  inferInstanceAs (Decidable (_ ∧ _))

def ProductFits (db : MarketDb) (id : ℕ) (row : StoredProduct) : Prop :=
  db.products.Free StoredProduct.skuKey id row ∧ (db.suppliers.lookup row.supplier).isSome ∧
    row.category ∈ db.categories

instance (db : MarketDb) (id : ℕ) (row : StoredProduct) : Decidable (db.ProductFits id row) :=
  inferInstanceAs (Decidable (_ ∧ _))

def setUser (db : MarketDb) (id : ℕ) (row : Account) (h : db.UserFits id row) : MarketDb :=
  { db with
    users := db.users.update id row
    usernames := Table.unique_update db.usernames h.1
    supplierCodes := Table.unique_update db.supplierCodes h.2
    supplierUsers := Table.references_update_target db.supplierUsers id row
    orderClients := Table.references_update_target db.orderClients id row }

def setSupplier (db : MarketDb) (id : ℕ) (row : SupplierRow) (h : db.SupplierFits id row) :
    MarketDb :=
  { db with
    suppliers := db.suppliers.update id row
    profiles := Table.unique_update db.profiles h.1
    taxNumbers := Table.unique_update db.taxNumbers h.2.1
    supplierUsers := Table.references_update db.supplierUsers h.2.2
    productSuppliers := Table.references_update_target db.productSuppliers id row
    itemSuppliers := Table.references_update_target db.itemSuppliers id row }

def setProduct (db : MarketDb) (id : ℕ) (row : StoredProduct) (h : db.ProductFits id row) :
    MarketDb :=
  { db with
    products := db.products.update id row
    skus := Table.unique_update db.skus h.1
    productSuppliers := Table.references_update db.productSuppliers h.2.1
    productCategories := Table.all_update (p := fun p : StoredProduct => p.category ∈ db.categories)
      db.productCategories h.2.2
    imageProducts := Table.references_update_target db.imageProducts id row
    itemProducts := Table.references_update_target db.itemProducts id row }

def addProduct (db : MarketDb) (row : StoredProduct) (h : db.ProductFits db.products.nextId row) :
    MarketDb :=
  { db with
    products := db.products.insert row
    skus := Table.unique_insert db.skus h.1
    productSuppliers := Table.references_insert db.productSuppliers h.2.1
    productCategories := Table.all_insert (p := fun p : StoredProduct => p.category ∈ db.categories)
      db.productCategories h.2.2
    imageProducts := Table.references_insert_target db.imageProducts row
    itemProducts := Table.references_insert_target db.itemProducts row }

def addImage (db : MarketDb) (row : ProductImage) (h : (db.products.lookup row.product).isSome) :
    MarketDb :=
  { db with
    images := db.images.insert row
    imageProducts := Table.references_insert db.imageProducts h }

/-- `user.save()`: a row that would break a unique column raises. -/
def saveUser (id : ℕ) (row : Account) : Tx MarketDb PyErr Unit := fun db =>
  if h : db.UserFits id row then (.ok (), db.setUser id row h) else (.error .integrityError, db)

def saveSupplier (id : ℕ) (row : SupplierRow) : Tx MarketDb PyErr Unit := fun db =>
  if h : db.SupplierFits id row then (.ok (), db.setSupplier id row h)
  else (.error .integrityError, db)

def saveProduct (id : ℕ) (row : StoredProduct) : Tx MarketDb PyErr Unit := fun db =>
  if h : db.ProductFits id row then (.ok (), db.setProduct id row h)
  else (.error .integrityError, db)

/-- `Product.objects.create`; the answer is the id. -/
def insertProduct (row : StoredProduct) : Tx MarketDb PyErr ℕ := fun db =>
  if h : db.ProductFits db.products.nextId row then (.ok db.products.nextId, db.addProduct row h)
  else (.error .integrityError, db)

/-- `ProductImage.objects.create`; the answer is the id. -/
def insertImage (row : ProductImage) : Tx MarketDb PyErr ℕ := fun db =>
  if h : (db.products.lookup row.product).isSome then (.ok db.images.nextId, db.addImage row h)
  else (.error .integrityError, db)

lemma saveUser_of_fits {db : MarketDb} {id : ℕ} {row : Account} (h : db.UserFits id row) :
    saveUser id row db = (.ok (), db.setUser id row h) := dif_pos h

lemma saveUser_of_not_fits {db : MarketDb} {id : ℕ} {row : Account} (h : ¬ db.UserFits id row) :
    saveUser id row db = (.error .integrityError, db) := dif_neg h

/-! ## The tables of the registration -/

/-- The users and suppliers with the columns a registration sets. -/
def toAccounts (db : MarketDb) : AccountsDb where
  users := db.users.map Account.toUser
  suppliers := db.suppliers.map SupplierRow.toSupplier
  usernames := Table.unique_map db.usernames
  supplierCodes := Table.unique_map db.supplierCodes
  profiles := Table.unique_map db.profiles
  taxNumbers := Table.unique_map db.taxNumbers

/-- A user that is saved here is saved there. -/
theorem toAccounts_saveUser (db : MarketDb) (id : ℕ) (row : Account) :
    (saveUser id row db).1 = (AccountsDb.saveUser id row.toUser db.toAccounts).1 ∧
      (saveUser id row db).2.toAccounts =
        (AccountsDb.saveUser id row.toUser db.toAccounts).2 := by
  have hfits : db.toAccounts.UserFits id row.toUser ↔ db.UserFits id row :=
    and_congr Table.free_map_iff Table.free_map_iff
  by_cases h : db.UserFits id row
  · rw [saveUser_of_fits h, AccountsDb.saveUser, dif_pos (hfits.mpr h)]
    refine ⟨rfl, ?_⟩
    simp only [toAccounts, setUser, AccountsDb.setUser, Table.map_update]
  · rw [saveUser_of_not_fits h, AccountsDb.saveUser, dif_neg fun h' => h (hfits.mp h')]
    exact ⟨rfl, rfl⟩

end MarketDb

end OrdersBackend
