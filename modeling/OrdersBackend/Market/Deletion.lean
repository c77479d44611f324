import OrdersBackend.Market.State

/-!
# Deletions that follow the foreign keys

`instance.delete()` collects the rows that refer to the instance, those that refer to them, and
so on: a user takes his profile, its products with their images, and his orders with their
items.  The items of orders protect their product and their supplier: when one of them is
collected the delete raises, even if the item is about to go too.  `erase` is one definition for
the three kinds of instances, and the rows that are left refer to rows that are left.
-/

namespace OrdersBackend

open Framework

/-- The rows a delete starts from. -/
structure Doomed where
  users : ℕ → Bool
  suppliers : ℕ → Bool
  products : ℕ → Bool

namespace Doomed

def user (id : ℕ) : Doomed := ⟨(· = id), fun _ => false, fun _ => false⟩

def supplier (id : ℕ) : Doomed := ⟨fun _ => false, (· = id), fun _ => false⟩

def product (id : ℕ) : Doomed := ⟨fun _ => false, fun _ => false, (· = id)⟩

end Doomed

namespace MarketDb

/-! ## Collecting -/

def collectsSupplier (db : MarketDb) (doomed : Doomed) (id : ℕ) : Bool :=
  doomed.suppliers id || (db.suppliers.lookup id).any fun row => doomed.users row.user

def collectsProduct (db : MarketDb) (doomed : Doomed) (id : ℕ) : Bool :=
  doomed.products id ||
    (db.products.lookup id).any fun row => db.collectsSupplier doomed row.supplier

def collectsOrder (db : MarketDb) (doomed : Doomed) (id : ℕ) : Bool :=
  (db.orders.lookup id).any fun row => doomed.users row.client

/-- An item of an order refers to a product or a supplier that is collected. -/
def Protected (db : MarketDb) (doomed : Doomed) : Prop :=
  ∃ r ∈ db.items.rows,
    db.collectsSupplier doomed r.2.supplier ∨ db.collectsProduct doomed r.2.product

instance (db : MarketDb) (doomed : Doomed) : Decidable (db.Protected doomed) :=
  inferInstanceAs (Decidable (∃ r ∈ db.items.rows, _))

variable {db : MarketDb} {doomed : Doomed}

/-! ## What is left -/

lemma supplierUsers_erase (db : MarketDb) (doomed : Doomed) :
    (db.suppliers.filter fun id => !db.collectsSupplier doomed id).References (fun s => s.user)
      (db.users.filter fun id => !doomed.users id) := by
  refine Table.references_filter db.supplierUsers fun id row hrow hkept => ?_
  simp only [collectsSupplier, hrow, Option.any_some, Bool.not_or, Bool.and_eq_true] at hkept
  exact hkept.2

lemma productSuppliers_erase (db : MarketDb) (doomed : Doomed) :
    (db.products.filter fun id => !db.collectsProduct doomed id).References (fun p => p.supplier)
      (db.suppliers.filter fun id => !db.collectsSupplier doomed id) := by
  refine Table.references_filter db.productSuppliers fun id row hrow hkept => ?_
  simp only [collectsProduct, hrow, Option.any_some, Bool.not_or, Bool.and_eq_true] at hkept
  exact hkept.2

lemma orderClients_erase (db : MarketDb) (doomed : Doomed) :
    (db.orders.filter fun id => !db.collectsOrder doomed id).References (fun o => o.client)
      (db.users.filter fun id => !doomed.users id) := by
  refine Table.references_filter db.orderClients fun id row hrow hkept => ?_
  simpa only [collectsOrder, hrow, Option.any_some] using hkept

/-- No item refers to a supplier that goes. -/
lemma itemSuppliers_erase (h : ¬ db.Protected doomed) :
    (db.items.restrict fun i => !db.collectsOrder doomed i.order).References (fun i => i.supplier)
      (db.suppliers.filter fun id => !db.collectsSupplier doomed id) := by
  refine Table.references_restrict db.itemSuppliers fun id row hrow _ => ?_
  have hfree : ¬ db.collectsSupplier doomed row.supplier = true :=
    fun hcollected => h ⟨_, Table.mem_rows_iff.mpr hrow, .inl hcollected⟩
  simpa using hfree

lemma itemProducts_erase (h : ¬ db.Protected doomed) :
    (db.items.restrict fun i => !db.collectsOrder doomed i.order).References (fun i => i.product)
      (db.products.filter fun id => !db.collectsProduct doomed id) := by
  refine Table.references_restrict db.itemProducts fun id row hrow _ => ?_
  have hfree : ¬ db.collectsProduct doomed row.product = true :=
    fun hcollected => h ⟨_, Table.mem_rows_iff.mpr hrow, .inr hcollected⟩
  simpa using hfree

/-- The tables without the rows that are collected. -/
def erase (db : MarketDb) (doomed : Doomed) (h : ¬ db.Protected doomed) : MarketDb where
  users := db.users.filter fun id => !doomed.users id
  suppliers := db.suppliers.filter fun id => !db.collectsSupplier doomed id
  categories := db.categories
  products := db.products.filter fun id => !db.collectsProduct doomed id
  images := db.images.restrict fun i => !db.collectsProduct doomed i.product
  orders := db.orders.filter fun id => !db.collectsOrder doomed id
  items := db.items.restrict fun i => !db.collectsOrder doomed i.order
  usernames := Table.unique_filter db.usernames _
  supplierCodes := Table.unique_filter db.supplierCodes _
  profiles := Table.unique_filter db.profiles _
  taxNumbers := Table.unique_filter db.taxNumbers _
  skus := Table.unique_filter db.skus _
  supplierUsers := db.supplierUsers_erase doomed
  productSuppliers := db.productSuppliers_erase doomed
  productCategories := fun id row hrow =>
    db.productCategories id row (Table.lookup_filter_eq_some.mp hrow).1
  imageProducts := Table.references_restrict db.imageProducts fun _ _ _ hkept => hkept
  orderClients := db.orderClients_erase doomed
  itemOrders := Table.references_restrict db.itemOrders fun _ _ _ hkept => hkept
  itemProducts := itemProducts_erase h
  itemSuppliers := itemSuppliers_erase h

/-- `instance.delete()`: `ProtectedError` is an `IntegrityError`, raised before any row goes. -/
def delete (doomed : Doomed) : Tx MarketDb PyErr Unit := fun db =>
  if h : db.Protected doomed then (.error .integrityError, db) else (.ok (), db.erase doomed h)

/-- `image_obj.delete()`. -/
def deleteImage (id : ℕ) : Tx MarketDb PyErr Unit := fun db =>
  (.ok (), { db with
    images := db.images.filter (· ≠ id)
    imageProducts := fun id' row hrow =>
      db.imageProducts id' row (Table.lookup_filter_eq_some.mp hrow).1 })

lemma delete_of_protected (h : db.Protected doomed) :
    delete doomed db = (.error .integrityError, db) := dif_pos h

lemma delete_of_not_protected (h : ¬ db.Protected doomed) :
    delete doomed db = (.ok (), db.erase doomed h) := dif_neg h

end MarketDb

end OrdersBackend
