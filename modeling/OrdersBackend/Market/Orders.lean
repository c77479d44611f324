import OrdersBackend.Market.Isolation
import OrdersBackend.Orders.Charging

/-!
# Orders in the market

The requests of the other endpoints and the creation of orders, in one state.  `TradeDb` is the
market with unique order numbers.  `toOrders` shows the part of it that the order requests read
and write, and `placeOrder` runs the creation there and puts the orders and items back.

They may be put back because a creation keeps the foreign keys (`attached_createOrder`), which
the database checks at every insertion.  Here no row that the validation has found can be gone
before it is stored (`keysThere_of_validate`).
-/

namespace OrdersBackend

open Framework Tx

/-! ## Foreign keys of the orders -/

/-- The foreign keys of the orders, the items and the products. -/
structure OrdersDb.Sound (db : OrdersDb) : Prop where
  clients : db.orders.References (fun o => o.client) db.accounts.users
  itemProducts : db.items.References (fun i => i.product) db.products
  itemSuppliers : db.items.References (fun i => i.supplier) db.accounts.suppliers
  owners : db.products.References (fun p => p.supplier) db.accounts.suppliers

/-- The foreign keys hold, and the tables that a creation only reads are those of `db`. -/
structure OrdersDb.Attached (db db' : OrdersDb) : Prop where
  sound : db'.Sound
  accounts : db'.accounts = db.accounts
  products : db'.products = db.products

namespace OrderSerializer

variable {db : OrdersDb}

lemma keeps_insertOrder (order : Order) : Keeps db.Attached (OrdersDb.insertOrder order) := by
  refine keeps_dite fun db' hfits hdb' => ⟨?_, hdb'.accounts, hdb'.products⟩
  exact { hdb'.sound with clients := Table.references_insert hdb'.sound.clients hfits.2 }

lemma keeps_saveOrder {order : Order} (h : (db.accounts.users.lookup order.client).isSome)
    (id : ℕ) : Keeps db.Attached (OrdersDb.saveOrder id order) := by
  refine keeps_dite fun db' hfree hdb' => ⟨?_, hdb'.accounts, hdb'.products⟩
  have hclient : (db'.accounts.users.lookup order.client).isSome := hdb'.accounts ▸ h
  exact { hdb'.sound with clients := Table.references_update hdb'.sound.clients hclient }

lemma keeps_fetchSupplier {I : OrdersDb → Prop} (supplier : ℕ) :
    Keeps I (OrdersDb.fetchSupplier supplier) := by
  intro db' hdb'
  unfold OrdersDb.fetchSupplier
  split <;> exact hdb'

lemma keeps_createItem (order product : ℕ) (row : Product Price) (quantity : ℕ)
    (price : DecimalField 10) :
    Keeps db.Attached (OrderItem.create order product row quantity price) := by
  refine (keeps_fetchSupplier _).bind fun supplier => (keeps_lift _).bind fun subtotal => ?_
  refine keeps_dite fun db' hfits hdb' => ⟨?_, hdb'.accounts, hdb'.products⟩
  exact { hdb'.sound with
    itemProducts := Table.references_insert hdb'.sound.itemProducts hfits.2.1
    itemSuppliers := Table.references_insert hdb'.sound.itemSuppliers hfits.2.2 }

lemma keeps_createItems (order : ℕ) (items : List ItemData) (total : ℤ) :
    Keeps db.Attached (createItems order items total) := by
  induction items generalizing total with
  | nil => exact keeps_pure total
  | cons item items ih => exact (keeps_createItem _ _ _ _ _).bind fun _ => ih _

lemma keeps_create {client : ℕ} (hclient : (db.accounts.users.lookup client).isSome)
    (orderNumber : String) (now : ℕ) (data : OrderData) :
    Keeps db.Attached (create orderNumber now client data) := by
  unfold create
  exact (keeps_lift _).bind fun items => (keeps_insertOrder _).bind fun id =>
    (keeps_createItems id items 0).bind fun total => (keeps_lift _).bind fun totalAmount =>
      (keeps_saveOrder hclient id).bind fun _ => keeps_pure id

/-- What the validation has found is there when it is stored at once. -/
lemma keysThere_of_validate (hsound : db.Sound) {body : OrderBody} {data : OrderData}
    {items : List ItemData} (h : validate db false body = .ok data)
    (hitems : data.items = some items) :
    ∀ item ∈ items, item.KeysThere db := by
  intro item hitem
  obtain ⟨bodies, ds, -, hds, hchecked⟩ := checked_of_validate h
  obtain rfl := Option.some.inj (hds.symm.trans hitems)
  have hrow := row_of_mem hchecked hitem
  exact ⟨Option.isSome_of_eq_some hrow, hsound.owners _ _ hrow⟩

end OrderSerializer

/-- A creation keeps the foreign keys, also when it raises. -/
theorem OrderViewSet.attached_createOrder {db : OrdersDb} (h : db.Sound) (user : ℕ)
    (body : OrderBody) (orderNumber : String) (now : ℕ) :
    db.Attached (createOrder user body orderNumber now db).2 := by
  have hself : db.Attached db := ⟨h, rfl, rfl⟩
  unfold createOrder
  rw [bind_of_ok (get_apply db)]
  by_cases huser : (db.accounts.users.lookup user).isNone
  · rw [if_pos huser]
    exact hself
  · rw [if_neg huser]
    rcases hvalid : OrderSerializer.validate db false body with errors | data
    · exact hself
    · rw [Option.isNone_iff_eq_none, ← ne_eq, Option.ne_none_iff_isSome] at huser
      exact ((OrderSerializer.keeps_create huser orderNumber now data).bind fun id =>
        keeps_pure _) db hself

/-! ## The market with its orders -/

structure TradeDb extends MarketDb where
  orderNumbers : orders.Unique Order.numberKey

namespace TradeDb

/-- What the order requests read and write. -/
def toOrders (db : TradeDb) : OrdersDb where
  accounts := db.toAccounts
  products := db.products.map fun row => row.toProduct
  orders := db.orders
  items := db.items
  orderNumbers := db.orderNumbers
  itemOrders := fun r hr => db.itemOrders r.1 r.2 (Table.mem_rows_iff.mp hr)

lemma sound_toOrders (db : TradeDb) : db.toOrders.Sound where
  clients := (Table.references_map_target Account.toUser).mpr db.orderClients
  itemProducts := (Table.references_map_target _).mpr db.itemProducts
  itemSuppliers := (Table.references_map_target SupplierRow.toSupplier).mpr db.itemSuppliers
  owners := Table.references_map
    ((Table.references_map_target SupplierRow.toSupplier).mpr db.productSuppliers)

/-- Put the orders and items back. -/
def withOrders (db : TradeDb) (view : OrdersDb) (h : db.toOrders.Attached view) : TradeDb :=
  { db with
    orders := view.orders
    items := view.items
    orderNumbers := view.orderNumbers
    orderClients := by
      have hclients := h.sound.clients
      rw [h.accounts] at hclients
      exact (Table.references_map_target Account.toUser).mp hclients
    itemOrders := fun id row hrow => view.itemOrders (id, row) (Table.mem_rows_iff.mpr hrow)
    itemProducts := by
      have hproducts := h.sound.itemProducts
      rw [h.products] at hproducts
      exact (Table.references_map_target _).mp hproducts
    itemSuppliers := by
      have hsuppliers := h.sound.itemSuppliers
      rw [h.accounts] at hsuppliers
      exact (Table.references_map_target SupplierRow.toSupplier).mp hsuppliers }

/-- The orders and items are what has been put back. -/
lemma toOrders_withOrders {db : TradeDb} {view : OrdersDb} (h : db.toOrders.Attached view) :
    (db.withOrders view h).toOrders = view := by
  have haccounts : db.toOrders.accounts = view.accounts := h.accounts.symm
  have hproducts : db.toOrders.products = view.products := h.products.symm
  cases view
  unfold toOrders at haccounts hproducts
  unfold toOrders withOrders
  simp only [OrdersDb.mk.injEq, and_true]
  exact ⟨haccounts, hproducts⟩

/-- The order creation of a user who is logged in. -/
def placeOrder (user : ℕ) (body : OrderBody) (orderNumber : String) (now : ℕ) :
    Tx TradeDb PyErr OrderAnswer := fun db =>
  match Market.authenticate db.toMarketDb user with
  | none => (.ok .unauthorized, db)
  | some _ =>
    ((OrderViewSet.createOrder user body orderNumber now db.toOrders).1,
      db.withOrders (OrderViewSet.createOrder user body orderNumber now db.toOrders).2
        (OrderViewSet.attached_createOrder db.sound_toOrders user body orderNumber now))

/-- **Placing an order is the creation in the order tables.** -/
theorem toOrders_placeOrder {db : TradeDb} {user : ℕ} {account : Account}
    (h : Market.authenticate db.toMarketDb user = some account) (body : OrderBody)
    (orderNumber : String) (now : ℕ) :
    (placeOrder user body orderNumber now db).1 =
        (OrderViewSet.createOrder user body orderNumber now db.toOrders).1 ∧
      (placeOrder user body orderNumber now db).2.toOrders =
        (OrderViewSet.createOrder user body orderNumber now db.toOrders).2 := by
  unfold placeOrder
  rw [h]
  exact ⟨rfl, toOrders_withOrders
    (OrderViewSet.attached_createOrder db.sound_toOrders user body orderNumber now)⟩

/-! ## Runs -/

/-- The other requests keep the orders, or take some away. -/
lemma orders_exec (db : MarketDb) (user : ℕ) (request : MarketRequest) :
    (Market.exec user request db).orders = db.orders ∨
      ∃ keep, (Market.exec user request db).orders = db.orders.filter keep :=
  Market.exec_of_writes (P := fun db' => db'.orders = db.orders ∨
      ∃ keep, db'.orders = db.orders.filter keep) (.inl rfl)
    (fun _ _ _ => .inl rfl) (fun _ _ _ => .inl rfl) (fun _ _ _ => .inl rfl)
    (fun _ _ => .inl rfl) (fun doomed _ => .inr ⟨fun id => !db.collectsOrder doomed id, rfl⟩)
    (fun _ => .inl rfl) user request

lemma orderNumbers_exec (db : TradeDb) (user : ℕ) (request : MarketRequest) :
    (Market.exec user request db.toMarketDb).orders.Unique Order.numberKey := by
  rcases orders_exec db.toMarketDb user request with horders | ⟨keep, horders⟩
  · rw [horders]
    exact db.orderNumbers
  · rw [horders]
    exact Table.unique_filter db.orderNumbers keep

/-- A request of `user`, with what it draws and reads off the clock. -/
inductive TradeEvent
  | request (user : ℕ) (request : MarketRequest)
  | placeOrder (user : ℕ) (body : OrderBody) (orderNumber : String) (now : ℕ)

/-- The state after it. -/
def exec (event : TradeEvent) (db : TradeDb) : TradeDb :=
  match event with
  | .request user request =>
    ⟨Market.exec user request db.toMarketDb, db.orderNumbers_exec user request⟩
  | .placeOrder user body orderNumber now => (placeOrder user body orderNumber now db).2

end TradeDb

end OrdersBackend
