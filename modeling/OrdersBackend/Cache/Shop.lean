import OrdersBackend.Cache.Signals
import OrdersBackend.Orders.ViewSet
import OrdersBackend.Products.Row

/-!
# The rows behind the cached lists

The tables whose rows are saved and deleted: categories, products and orders, with the users,
suppliers and items they refer to.  The catalogue of an import knows a category by its name;
here a category may be renamed, so that a product points to it by its id.  The columns with
the times of creation and change are part of the row that is saved.

A delete follows the foreign keys: the subcategories of a category go with it, the items of an
order as well, and a row that others protect stays.
-/

namespace OrdersBackend

open Framework

/-- A row of `categories`. -/
structure CategoryRow where
  name : String
  description : String
  parent : Option ℕ
  createdAt : ℕ
  deriving DecidableEq, Repr

/-- A row of `products`, with the ids of its supplier and its category. -/
structure ListedProduct where
  supplier : ℕ
  category : ℕ
  name : String
  sku : String
  description : String
  price : DecimalField 10
  costPrice : Option (DecimalField 10)
  stockQuantity : ℕ
  minOrderQuantity : ℕ
  unit : String
  isActive : Bool
  image : Option String
  thumbnails : Thumbnails
  createdAt : ℕ
  updatedAt : ℕ
  deriving DecidableEq, Repr

/-- The unique columns. -/
def CategoryRow.nameKey (r : CategoryRow) : Option String := some r.name

def ListedProduct.skuKey (r : ListedProduct) : Option String := some r.sku

/-- The columns the orders read, with the name of the category. -/
def ListedProduct.toProduct (r : ListedProduct) (category : String) : Product Price where
  supplier := r.supplier
  category := category
  name := r.name
  description := r.description
  price := r.price
  stockQuantity := r.stockQuantity
  minOrderQuantity := r.minOrderQuantity
  unit := r.unit
  isActive := r.isActive
  costPrice := r.costPrice

structure ShopDb where
  accounts : AccountsDb
  categories : Table CategoryRow
  products : Table ListedProduct
  orders : Table Order
  items : Table OrderItem
  categoryNames : categories.Unique CategoryRow.nameKey
  skus : products.Unique ListedProduct.skuKey
  orderNumbers : orders.Unique Order.numberKey
  itemOrders : ∀ r ∈ items.rows, (orders.lookup r.2.order).isSome

namespace ShopDb

def ofAccounts (accounts : AccountsDb) : ShopDb where
  accounts := accounts
  categories := Table.empty
  products := Table.empty
  orders := Table.empty
  items := Table.empty
  categoryNames := Table.unique_empty _
  skus := Table.unique_empty _
  orderNumbers := Table.unique_empty _
  itemOrders := fun _ hr => absurd hr List.not_mem_nil

def categoryName (db : ShopDb) (category : ℕ) : String :=
  ((db.categories.lookup category).map CategoryRow.name).getD ""

/-- The tables as the order requests see them. -/
def toOrders (db : ShopDb) : OrdersDb where
  accounts := db.accounts
  products := db.products.map fun r => r.toProduct (db.categoryName r.category)
  orders := db.orders
  items := db.items
  orderNumbers := db.orderNumbers
  itemOrders := db.itemOrders

/-! ## Saves -/

/-- The row is new, or it is there. -/
def Known {ρ : Type} (t : Table ρ) (id : Option ℕ) : Prop := id.all fun id => (t.lookup id).isSome

instance {ρ : Type} (t : Table ρ) (id : Option ℕ) : Decidable (Known t id) :=
  inferInstanceAs (Decidable (_ = true))

/-- The category can be stored: no other one has its name, and its parent is there. -/
def CategoryFits (db : ShopDb) (id : Option ℕ) (row : CategoryRow) : Prop :=
  db.categories.Free CategoryRow.nameKey (db.categories.savedId id) row ∧
    Known db.categories id ∧ Known db.categories row.parent

instance (db : ShopDb) (id : Option ℕ) (row : CategoryRow) : Decidable (db.CategoryFits id row) :=
  inferInstanceAs (Decidable (_ ∧ _))

/-- The product can be stored: no other one has its SKU, its supplier and category are there. -/
def ProductFits (db : ShopDb) (id : Option ℕ) (row : ListedProduct) : Prop :=
  db.products.Free ListedProduct.skuKey (db.products.savedId id) row ∧ Known db.products id ∧
    Known db.accounts.suppliers (some row.supplier) ∧ Known db.categories (some row.category)

instance (db : ShopDb) (id : Option ℕ) (row : ListedProduct) : Decidable (db.ProductFits id row) :=
  inferInstanceAs (Decidable (_ ∧ _))

/-- The order can be stored: no other one has its number, and its client is there. -/
def OrderFits (db : ShopDb) (id : Option ℕ) (row : Order) : Prop :=
  db.orders.Free Order.numberKey (db.orders.savedId id) row ∧ Known db.orders id ∧
    Known db.accounts.users (some row.client)

instance (db : ShopDb) (id : Option ℕ) (row : Order) : Decidable (db.OrderFits id row) :=
  inferInstanceAs (Decidable (_ ∧ _))

/-- `category.save()`; the answer is the row the handler is called for. -/
def saveCategory (id : Option ℕ) (row : CategoryRow) : Tx ShopDb PyErr (List Instance) := fun db =>
  if h : db.CategoryFits id row then
    (.ok [.category (db.categories.savedId id)],
      { db with
        categories := db.categories.save id row
        categoryNames := Table.unique_save db.categoryNames h.1 })
  else (.error .integrityError, db)

def saveProduct (id : Option ℕ) (row : ListedProduct) : Tx ShopDb PyErr (List Instance) := fun db =>
  if h : db.ProductFits id row then
    (.ok [.product (db.products.savedId id)],
      { db with
        products := db.products.save id row
        skus := Table.unique_save db.skus h.1 })
  else (.error .integrityError, db)

def saveOrder (id : Option ℕ) (row : Order) : Tx ShopDb PyErr (List Instance) := fun db =>
  if h : db.OrderFits id row then
    (.ok [.order (db.orders.savedId id) row.client],
      { db with
        orders := db.orders.save id row
        orderNumbers := Table.unique_save db.orderNumbers h.1
        itemOrders := fun r hr => Table.isSome_lookup_save (db.itemOrders r hr) id row })
  else (.error .integrityError, db)

/-! ## Deletes -/

/-- The rows among `ids` and their children. -/
def withChildren (db : ShopDb) (ids : List ℕ) : List ℕ :=
  (db.categories.rows.filter fun r => r.1 ∈ ids || r.2.parent.any (· ∈ ids)).map Prod.fst

/-- The category with all its subcategories.  A path to one of them is no longer than the
table. -/
def family (db : ShopDb) (id : ℕ) : List ℕ :=
  (db.withChildren)^[db.categories.rows.length] [id]

/-- `category.delete()`: the subcategories go with it, unless one of them has products. -/
def deleteCategory (id : ℕ) : Tx ShopDb PyErr (List Instance) := fun db =>
  let family := db.family id
  if db.products.rows.any fun r => r.2.category ∈ family then (.error .integrityError, db)
  else
    (.ok (.category id :: (family.filter (· ≠ id)).map .category),
      { db with
        categories := db.categories.filter (· ∉ family)
        categoryNames := Table.unique_filter db.categoryNames _ })

/-- `product.delete()`, which the items of orders prevent. -/
def deleteProduct (id : ℕ) : Tx ShopDb PyErr (List Instance) := fun db =>
  if db.items.rows.any fun r => r.2.product = id then (.error .integrityError, db)
  else
    (.ok [.product id],
      { db with
        products := db.products.filter (· ≠ id)
        skus := Table.unique_filter db.skus _ })

/-- The items of the other orders. -/
def itemsWithout (db : ShopDb) (order : ℕ) : Table OrderItem :=
  db.items.filter fun id => (db.items.lookup id).all (·.order ≠ order)

lemma itemOrders_itemsWithout (db : ShopDb) (order : ℕ) :
    ∀ r ∈ (db.itemsWithout order).rows,
      ((db.orders.filter (· ≠ order)).lookup r.2.order).isSome := by
  intro r hr
  obtain ⟨hold, hkeep⟩ := List.mem_filter.mp hr
  obtain ⟨o, ho⟩ := Option.isSome_iff_exists.mp (db.itemOrders r hold)
  have hother : r.2.order ≠ order := by
    simpa [Table.mem_rows_iff.mp hold] using hkeep
  exact Option.isSome_of_eq_some (Table.lookup_filter_eq_some.mpr ⟨ho, by simp [hother]⟩)

/-- `order.delete()`, with its items. -/
def deleteOrder (id : ℕ) : Tx ShopDb PyErr (List Instance) := fun db =>
  (.ok [.order id (((db.orders.lookup id).map Order.client).getD 0)],
    { db with
      orders := db.orders.filter (· ≠ id)
      items := db.itemsWithout id
      orderNumbers := Table.unique_filter db.orderNumbers _
      itemOrders := db.itemOrders_itemsWithout id })

end ShopDb

/-- A save, of a new row when it has no id, or a delete. -/
inductive ShopWrite
  | saveCategory (id : Option ℕ) (row : CategoryRow)
  | deleteCategory (id : ℕ)
  | saveProduct (id : Option ℕ) (row : ListedProduct)
  | deleteProduct (id : ℕ)
  | saveOrder (id : Option ℕ) (row : Order)
  | deleteOrder (id : ℕ)

namespace ShopWrite

/-- The write to the tables, with the rows the handlers are called for. -/
def store : ShopWrite → Tx ShopDb PyErr (List Instance)
  | saveCategory id row => ShopDb.saveCategory id row
  | deleteCategory id => ShopDb.deleteCategory id
  | saveProduct id row => ShopDb.saveProduct id row
  | deleteProduct id => ShopDb.deleteProduct id
  | saveOrder id row => ShopDb.saveOrder id row
  | deleteOrder id => ShopDb.deleteOrder id

def isSave : ShopWrite → Bool
  | saveCategory _ _ | saveProduct _ _ | saveOrder _ _ => true
  | deleteCategory _ | deleteProduct _ | deleteOrder _ => false

/-- The database after the write, which a refused one leaves as it is. -/
def after (write : ShopWrite) (db : ShopDb) : ShopDb := (write.store db).2

/-- The rows whose handlers run: none when the write is refused. -/
def signalled (write : ShopWrite) (db : ShopDb) : List Instance :=
  match (write.store db).1 with
  | .ok instances => instances
  | .error _ => []

end ShopWrite

end OrdersBackend
