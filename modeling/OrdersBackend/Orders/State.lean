import OrdersBackend.Accounts.State
import OrdersBackend.Catalogue.State
import OrdersBackend.Framework.Table

/-!
# Orders and their items

The tables the order requests read and write.  `OrdersDb` carries the constraints the
database keeps: order numbers are unique, and an item belongs to an order that is there.
Products are rows of the catalogue under their ids.

An item is stored by `OrderItem.save`, which computes its subtotal and takes the supplier from
the product.  A client, a product or a supplier that has been deleted since it was looked up
raises before anything is written.

The amounts of orders and items are columns of twelve digits.  The model takes a save that raises
beyond them (`DecimalField.ofCents`), which is what the totals and the roll back of a creation
are stated for; what else a column may do with such a price is a matter of the catalogue's
`DecimalColumn`.
-/

namespace OrdersBackend

open Framework

inductive OrderStatus
  | pending
  | confirmed
  | processing
  | shipped
  | delivered
  | cancelled
  deriving DecidableEq, Repr

/-- A row of `orders`.  The client is the id of a user; times are counted in any unit. -/
structure Order where
  client : ℕ
  orderNumber : String
  status : OrderStatus
  totalAmount : DecimalField 12
  deliveryAddress : String
  contactPhone : String
  notes : String
  createdAt : ℕ
  confirmedAt : Option ℕ
  deriving DecidableEq, Repr

/-- A row of `order_items`; the order, the product and the supplier are ids. -/
structure OrderItem where
  order : ℕ
  product : ℕ
  supplier : ℕ
  quantity : ℕ
  price : DecimalField 10
  subtotal : DecimalField 12
  deriving DecidableEq, Repr

def Order.numberKey (o : Order) : Option String := some o.orderNumber

structure OrdersDb where
  accounts : AccountsDb
  products : Table (Product Price)
  orders : Table Order
  items : Table OrderItem
  orderNumbers : orders.Unique Order.numberKey
  itemOrders : ∀ r ∈ items.rows, (orders.lookup r.2.order).isSome
  deriving DecidableEq

namespace OrdersDb

def ofAccounts (accounts : AccountsDb) (products : Table (Product Price)) : OrdersDb where
  accounts := accounts
  products := products
  orders := Table.empty
  items := Table.empty
  orderNumbers := Table.unique_empty _
  itemOrders := by simp [Table.empty]

/-- The items of an order, `order.items.all()`. -/
def itemsOf (db : OrdersDb) (order : ℕ) : List OrderItem :=
  (db.items.rows.map Prod.snd).filter fun item => item.order = order

def addOrder (db : OrdersDb) (order : Order)
    (h : db.orders.Free Order.numberKey db.orders.nextId order) : OrdersDb :=
  { db with
    orders := db.orders.insert order
    orderNumbers := Table.unique_insert db.orderNumbers h
    itemOrders := by
      intro r hr
      obtain ⟨o, ho⟩ := Option.isSome_iff_exists.mp (db.itemOrders r hr)
      rw [Table.lookup_insert_of_some ho]
      rfl }

def setOrder (db : OrdersDb) (id : ℕ) (order : Order)
    (h : db.orders.Free Order.numberKey id order) : OrdersDb :=
  { db with
    orders := db.orders.update id order
    orderNumbers := Table.unique_update db.orderNumbers h
    itemOrders := by
      intro r hr
      exact (Table.isSome_lookup_update db.orders id r.2.order order).mpr (db.itemOrders r hr) }

def addItem (db : OrdersDb) (item : OrderItem) (h : (db.orders.lookup item.order).isSome) :
    OrdersDb :=
  { db with
    items := db.items.insert item
    itemOrders := by
      intro r hr
      rcases List.mem_append.mp hr with hr | hr
      · exact db.itemOrders r hr
      · rw [List.mem_singleton.mp hr]
        exact h }

/-! ## The writes of the program -/

/-- The order can be stored as a new one: its number is free, and its client is there. -/
def OrderFits (db : OrdersDb) (order : Order) : Prop :=
  db.orders.Free Order.numberKey db.orders.nextId order ∧
    (db.accounts.users.lookup order.client).isSome

instance (db : OrdersDb) (order : Order) : Decidable (db.OrderFits order) :=
  inferInstanceAs (Decidable (_ ∧ _))

/-- The order, the product and the supplier of the item are there. -/
def ItemFits (db : OrdersDb) (item : OrderItem) : Prop :=
  (db.orders.lookup item.order).isSome ∧ (db.products.lookup item.product).isSome ∧
    (db.accounts.suppliers.lookup item.supplier).isSome

instance (db : OrdersDb) (item : OrderItem) : Decidable (db.ItemFits item) :=
  inferInstanceAs (Decidable (_ ∧ _ ∧ _))

/-- `Order.objects.create`; the answer is the id. -/
def insertOrder (order : Order) : Tx OrdersDb PyErr ℕ := fun db =>
  if h : db.OrderFits order then (.ok db.orders.nextId, db.addOrder order h.1)
  else (.error .integrityError, db)

/-- `order.save()`: the whole row is written.  Its client is that of the stored row, or one that
the validation has found. -/
def saveOrder (id : ℕ) (order : Order) : Tx OrdersDb PyErr Unit := fun db =>
  if h : db.orders.Free Order.numberKey id order then (.ok (), db.setOrder id order h)
  else (.error .integrityError, db)

def insertItem (item : OrderItem) : Tx OrdersDb PyErr Unit := fun db =>
  if h : db.ItemFits item then (.ok (), db.addItem item h.1)
  else (.error .integrityError, db)

/-- `product.supplier`: the row of the supplier is fetched. -/
def fetchSupplier (supplier : ℕ) : Tx OrdersDb PyErr ℕ := fun db =>
  if (db.accounts.suppliers.lookup supplier).isSome then (.ok supplier, db)
  else (.error .doesNotExist, db)

end OrdersDb

/-- `quantity * price`, in hundredths. -/
def lineCents (quantity : ℕ) (price : DecimalField 10) : ℤ := quantity * price.cents

/-- `OrderItem.objects.create`, with `OrderItem.save`: the subtotal is computed, and the
supplier is that of the product.  The subtotal has to fit its column when the row is saved. -/
def OrderItem.create (order product : ℕ) (row : Product Price) (quantity : ℕ)
    (price : DecimalField 10) : Tx OrdersDb PyErr Unit := do
  let supplier ← OrdersDb.fetchSupplier row.supplier
  let subtotal ← Tx.lift (DecimalField.ofCents 12 (lineCents quantity price))
  OrdersDb.insertItem { order, product, supplier, quantity, price, subtotal }

/-- `order.calculate_total()`. -/
def Order.calculateTotal (id : ℕ) (order : Order) : Tx OrdersDb PyErr Unit := do
  let db ← Tx.get
  let total := ((db.itemsOf id).map fun item => lineCents item.quantity item.price).sum
  let totalAmount ← Tx.lift (DecimalField.ofCents 12 total)
  OrdersDb.saveOrder id { order with totalAmount }

/-! ## Lemmas about the writes -/

namespace OrdersDb

/-- An order may keep its number. -/
lemma free_of_same_number {db : OrdersDb} {id : ℕ} {order order' : Order}
    (h : db.orders.lookup id = some order) (hnumber : order'.orderNumber = order.orderNumber) :
    db.orders.Free Order.numberKey id order' := by
  intro r hr hne _ heq
  have hkey : Order.numberKey order = Order.numberKey r.2 := by
    rw [heq]
    unfold Order.numberKey
    rw [hnumber]
  exact hne (db.orderNumbers id r.1 order r.2 h (Table.mem_rows_iff.mp hr) rfl hkey).symm

lemma insertOrder_of_fits {db : OrdersDb} {order : Order} (h : db.OrderFits order) :
    insertOrder order db = (.ok db.orders.nextId, db.addOrder order h.1) := dif_pos h

lemma insertOrder_of_not_fits {db : OrdersDb} {order : Order} (h : ¬ db.OrderFits order) :
    insertOrder order db = (.error .integrityError, db) := dif_neg h

lemma saveOrder_of_free {db : OrdersDb} {id : ℕ} {order : Order}
    (h : db.orders.Free Order.numberKey id order) :
    saveOrder id order db = (.ok (), db.setOrder id order h) := dif_pos h

lemma insertItem_of_fits {db : OrdersDb} {item : OrderItem} (h : db.ItemFits item) :
    insertItem item db = (.ok (), db.addItem item h.1) := dif_pos h

lemma insertItem_of_not_fits {db : OrdersDb} {item : OrderItem} (h : ¬ db.ItemFits item) :
    insertItem item db = (.error .integrityError, db) := dif_neg h

lemma fetchSupplier_of_isSome {db : OrdersDb} {supplier : ℕ}
    (h : (db.accounts.suppliers.lookup supplier).isSome) :
    fetchSupplier supplier db = (.ok supplier, db) := if_pos h

lemma fetchSupplier_of_not_isSome {db : OrdersDb} {supplier : ℕ}
    (h : ¬ (db.accounts.suppliers.lookup supplier).isSome) :
    fetchSupplier supplier db = (.error .doesNotExist, db) := if_neg h

/-- An order that is not there has no items. -/
lemma itemsOf_nextId (db : OrdersDb) : db.itemsOf db.orders.nextId = [] := by
  unfold itemsOf
  rw [List.filter_eq_nil_iff]
  intro item hitem horder
  obtain ⟨r, hr, rfl⟩ := List.mem_map.mp hitem
  have hsome := db.itemOrders r hr
  rw [of_decide_eq_true horder, Table.lookup_nextId] at hsome
  cases hsome

lemma itemsOf_addItem (db : OrdersDb) (item : OrderItem)
    (h : (db.orders.lookup item.order).isSome) (order : ℕ) :
    (db.addItem item h).itemsOf order =
      db.itemsOf order ++ if item.order = order then [item] else [] := by
  have hrows : (db.addItem item h).items.rows = db.items.rows ++ [(db.items.nextId, item)] := rfl
  unfold itemsOf
  rw [hrows, List.map_append, List.filter_append]
  by_cases horder : item.order = order <;> simp [horder]

end OrdersDb

end OrdersBackend
