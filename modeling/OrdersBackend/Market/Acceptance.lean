import OrdersBackend.Market.Orders

/-!
# Which orders are accepted

Two questions about the creation of orders.  Can a client always place one?  The items of a
request have to name an order that is there, since `OrderItemSerializer` does not list the field
as read-only; so the first order can never be placed (`placeable_iff`).

Does switching orders off work?  `toggle_accept_orders` switches a flag of the supplier that the
validation of an order never reads, nor does it look whether a product is active;
`honoursSwitches_iff` says which runs are lawful all the same.
-/

namespace OrdersBackend

open Framework Tx

namespace TradeDb

/-! ## Orders that can be placed -/

/-- A request of the client for the product. -/
structure RequestFor (client product : ℕ) (body : OrderBody) : Prop where
  client : body.client = some client
  items : ∃ items, body.items = some items ∧ items ≠ [] ∧
    ∀ item ∈ items, item.product = some product

/-- A valid request names orders that are there. -/
lemma exists_order_of_validate {db : OrdersDb} {body : OrderBody} {data : OrderData}
    (h : OrderSerializer.validate db false body = .ok data) :
    ∃ id order, db.orders.lookup id = some order := by
  obtain ⟨items, ds, -, -, hnonempty, herrors, -⟩ := OrderSerializer.loop_of_validate h
  obtain ⟨item, hitem⟩ := List.exists_mem_of_ne_nil items hnonempty
  obtain ⟨id, -, hthere⟩ := OrderSerializer.order_of_no_errors herrors item hitem
  exact ⟨id, Option.isSome_iff_exists.mp hthere⟩

/-- A request for one piece of a product, as an item of the order `order`. -/
def requestFor (client order product : ℕ) (row : StoredProduct) : OrderBody where
  client := some client
  status := none
  deliveryAddress := some "Moscow"
  contactPhone := some "123"
  notes := none
  items := some [⟨some order, some product, some row.supplier, some 1, some row.price⟩]

lemma validate_requestFor {db : TradeDb} {client order product : ℕ} {account : Account}
    {row : StoredProduct} {o : Order} (hclient : db.users.lookup client = some account)
    (hproduct : db.products.lookup product = some row) (hstock : 0 < row.stockQuantity)
    (horder : db.orders.lookup order = some o) :
    ∃ data, OrderSerializer.validate db.toOrders false (requestFor client order product row) =
      .ok data := by
  have hclient' : (db.toOrders.accounts.users.lookup client).isSome := by
    show ((db.users.map Account.toUser).lookup client).isSome
    rw [Table.lookup_map, hclient]
    rfl
  have hsupplier : (db.toOrders.accounts.suppliers.lookup row.supplier).isSome := by
    show ((db.suppliers.map SupplierRow.toSupplier).lookup row.supplier).isSome
    rw [Table.lookup_map, Option.isSome_map]
    exact db.productSuppliers product row hproduct
  have hproduct' : db.toOrders.products.lookup product = some row.toProduct := by
    show (db.products.map fun row => row.toProduct).lookup product = _
    rw [Table.lookup_map, hproduct]
    rfl
  have horder' : (db.toOrders.orders.lookup order).isSome := Option.isSome_of_eq_some horder
  have hin_stock : ¬ row.stockQuantity < 1 := by omega
  unfold OrderSerializer.validate requestFor OrderSerializer.validateItemsField
    OrderSerializer.validateNested OrderSerializer.validateItems
  simp [OrderSerializer.itemErrors, OrderSerializer.keyErrors, OrderSerializer.requiredErrors,
    OrderSerializer.validateItemLoop, hclient', hsupplier, hproduct', horder', hin_stock]

/-- **When an order can be placed.**  A client has a valid request for a product in stock
exactly when there is an order already, of whatever client. -/
theorem placeable_iff {db : TradeDb} {client product : ℕ} {account : Account}
    {row : StoredProduct} (hclient : db.users.lookup client = some account)
    (hproduct : db.products.lookup product = some row) (hstock : 0 < row.stockQuantity) :
    (∃ body, RequestFor client product body ∧
      ∃ data, OrderSerializer.validate db.toOrders false body = .ok data) ↔
    ∃ id order, db.orders.lookup id = some order := by
  constructor
  · rintro ⟨body, -, data, hvalid⟩
    exact exists_order_of_validate hvalid
  · rintro ⟨id, order, horder⟩
    refine ⟨requestFor client id product row, ⟨rfl, ?_⟩,
      validate_requestFor hclient hproduct hstock horder⟩
    refine ⟨_, rfl, List.cons_ne_nil _ _, fun item hitem => ?_⟩
    rw [List.mem_singleton.mp hitem]

/-! ### A market without orders, and one with an order -/

/-- The client `1`, and the product `1` of the supplier `1`. -/
def newMarket : TradeDb := { Market.market with orderNumbers := Table.unique_empty _ }

/-- An old order of the client. -/
def oldOrder : Order :=
  ⟨1, "ORD1", .delivered, ⟨520, by decide⟩, "Moscow", "123", "", 0, some 1⟩

def openMarket : TradeDb :=
  { Market.market with
    orders := Table.empty.insert oldOrder
    orderClients := Table.references_insert (Table.references_empty _ _) (by decide)
    itemOrders := Table.references_empty _ _
    orderNumbers := Table.unique_insert (Table.unique_empty _) (by decide) }

/-- With an old order a new one can be placed. -/
theorem placeable_openMarket :
    ∃ body, RequestFor 1 1 body ∧
      ∃ data, OrderSerializer.validate openMarket.toOrders false body = .ok data := by
  have hann : openMarket.users.lookup 1 = some (Market.plainAccount "ann" .client) := by decide
  have hcup : openMarket.products.lookup 1 = some Market.firmCup := by decide
  exact (placeable_iff hann hcup (by decide)).mpr ⟨1, oldOrder, by decide⟩

/-- The first order cannot be placed. -/
theorem not_placeable_newMarket :
    newMarket.users.lookup 1 = some (Market.plainAccount "ann" .client) ∧
      newMarket.products.lookup 1 = some Market.firmCup ∧ 0 < Market.firmCup.stockQuantity ∧
      ¬ ∃ body, RequestFor 1 1 body ∧
        ∃ data, OrderSerializer.validate newMarket.toOrders false body = .ok data := by
  refine ⟨by decide, by decide, by decide, ?_⟩
  rintro ⟨body, -, data, hvalid⟩
  obtain ⟨id, order, horder⟩ := exists_order_of_validate hvalid
  cases horder

/-! ## Orders that are accepted -/

/-- The request names the product. -/
def Names (body : OrderBody) (product : ℕ) : Prop :=
  ∃ items, body.items = some items ∧ ∃ item ∈ items, item.product = some product

/-- The product is active, and its supplier takes orders. -/
def OnSale (db : TradeDb) (product : ℕ) : Prop :=
  ∀ row, db.products.lookup product = some row → row.isActive ∧
    ∀ supplier, db.suppliers.lookup row.supplier = some supplier → supplier.isActive

/-- The request is not accepted anyway: its user is not there or not active, the serializer
refuses it, the number that is drawn is taken, or its amounts do not fit. -/
def RefusedAnyway (db : TradeDb) (user : ℕ) (body : OrderBody) (orderNumber : String) : Prop :=
  Market.authenticate db.toMarketDb user = none ∨
    ∀ data, OrderSerializer.validate db.toOrders false body = .ok data →
      OrderSerializer.NumberTaken db.toOrders orderNumber ∨
        ∀ items, data.items = some items → ¬ AmountsFit items

/-- An order creation that is accepted names only products that are on sale at that moment. -/
def Honours (db : TradeDb) : TradeEvent → Prop
  | .request _ _ => True
  | .placeOrder user body orderNumber now =>
    ∀ id, (placeOrder user body orderNumber now db).1 = .ok (.created id) →
      ∀ product, Names body product → db.OnSale product

/-- An order creation names only products that are on sale, or is refused for another reason. -/
def Lawful (db : TradeDb) : TradeEvent → Prop
  | .request _ _ => True
  | .placeOrder user body orderNumber _ =>
    db.RefusedAnyway user body orderNumber ∨ ∀ product, Names body product → db.OnSale product

/-- A valid request whose number is free and whose amounts fit is accepted. -/
lemma created_of_fits {db : OrdersDb} {user : ℕ} {body : OrderBody} {orderNumber : String}
    {data : OrderData} {items : List ItemData} (hsound : db.Sound)
    (huser : (db.accounts.users.lookup user).isSome)
    (hvalid : OrderSerializer.validate db false body = .ok data) (hitems : data.items = some items)
    (hnumber : ¬ OrderSerializer.NumberTaken db orderNumber) (hfits : AmountsFit items) (now : ℕ) :
    (OrderViewSet.createOrder user body orderNumber now db).1 =
      .ok (.created db.orders.nextId) := by
  have hrow := (OrderSerializer.rowFits_iff db orderNumber now user data).mpr ⟨hnumber, huser⟩
  obtain ⟨db', hcreate, -⟩ := OrderSerializer.create_of_storable hitems hrow
    ⟨OrderSerializer.keysThere_of_validate hsound hvalid hitems, hfits⟩
  have hknown : ¬ (db.accounts.users.lookup user).isNone := by
    rw [Option.isNone_iff_eq_none]
    exact Option.isSome_iff_ne_none.mp huser
  unfold OrderViewSet.createOrder
  rw [bind_of_ok (get_apply db), if_neg hknown, hvalid]
  dsimp only
  rw [bind_of_ok hcreate]
  rfl

/-- Which requests are accepted. -/
lemma created_iff (db : TradeDb) (user : ℕ) (body : OrderBody) (orderNumber : String)
    (now : ℕ) :
    (∃ id, (placeOrder user body orderNumber now db).1 = .ok (.created id)) ↔
      ¬ db.RefusedAnyway user body orderNumber := by
  unfold RefusedAnyway placeOrder
  rcases hauthenticate : Market.authenticate db.toMarketDb user with _ | account
  · exact ⟨fun ⟨id, h⟩ => (nomatch h), fun h => absurd (.inl rfl) h⟩
  · rw [or_iff_right (by rintro ⟨⟩)]
    constructor
    · rintro ⟨id, h⟩ hrefused
      obtain ⟨data, hvalid, hcreate⟩ := OrderViewSet.create_of_created (Prod.ext h rfl)
      obtain ⟨items, hitems, hrow, hstorable⟩ :=
        OrderSerializer.storable_of_create (congrArg Prod.fst hcreate)
      -- an order that is created has a number of its own and amounts that fit
      rcases hrefused data hvalid with htaken | hmisfit
      · exact ((OrderSerializer.rowFits_iff db.toOrders orderNumber now user data).mp hrow).1 htaken
      · exact hmisfit items hitems hstorable.amounts
    · intro h
      push Not at h
      obtain ⟨data, hvalid, hnumber, items, hitems, hfits⟩ := h
      have huser : (db.toOrders.accounts.users.lookup user).isSome := by
        show ((db.users.map Account.toUser).lookup user).isSome
        rw [Table.lookup_map, Option.isSome_map]
        exact Option.isSome_of_eq_some (Option.filter_eq_some_iff.mp hauthenticate).1
      exact ⟨_, created_of_fits db.sound_toOrders huser hvalid hitems hnumber hfits now⟩

/-- The condition on a request is exact. -/
lemma lawful_iff (db : TradeDb) (event : TradeEvent) : db.Lawful event ↔ db.Honours event := by
  rcases event with ⟨user, request⟩ | ⟨user, body, orderNumber, now⟩
  · exact Iff.rfl
  · have hcreated := created_iff db user body orderNumber now
    unfold Lawful Honours
    constructor
    · rintro (hrefused | honsale) id h
      · exact absurd hrefused (hcreated.mp ⟨id, h⟩)
      · exact honsale
    · intro h
      by_cases hrefused : db.RefusedAnyway user body orderNumber
      · exact .inl hrefused
      · obtain ⟨id, hid⟩ := hcreated.mpr hrefused
        exact .inr (h id hid)

/-- **When switching orders off works.**  In a run of requests and order creations, every
creation that is accepted names only active products of suppliers who take orders at that moment
exactly when each creation does so or is refused for another reason. -/
theorem honoursSwitches_iff (db : TradeDb) (events : List TradeEvent) :
    (∀ earlier event later, events = earlier ++ event :: later →
      (run exec db earlier).Honours event) ↔ Guarded exec Lawful db events := by
  rw [guarded_iff_steps]
  simp only [lawful_iff]

/-- The supplier `1` is switched off, and then his product is ordered. -/
theorem not_honoursSwitches_cup :
    ¬ ∀ earlier event later,
      [TradeEvent.request 2 (.suppliers ⟨none⟩ 1 (.toggleAcceptOrders 1)),
        .placeOrder 1 (requestFor 1 1 1 Market.firmCup) "ORD2" 2] = earlier ++ event :: later →
      (run exec openMarket earlier).Honours event := by
  intro h
  have hhonours := h [.request 2 (.suppliers ⟨none⟩ 1 (.toggleAcceptOrders 1))]
    (.placeOrder 1 (requestFor 1 1 1 Market.firmCup) "ORD2" 2) [] rfl
  have hcreated : (placeOrder 1 (requestFor 1 1 1 Market.firmCup) "ORD2" 2
      (exec (.request 2 (.suppliers ⟨none⟩ 1 (.toggleAcceptOrders 1))) openMarket)).1 =
        .ok (.created 2) := by
    decide +kernel
  have hoff : ((exec (.request 2 (.suppliers ⟨none⟩ 1 (.toggleAcceptOrders 1)))
      openMarket).suppliers.lookup 1).map (·.isActive) = some false := by
    decide +kernel
  obtain ⟨supplier, hsupplier, hinactive⟩ := Option.map_eq_some_iff.mp hoff
  have hnames : Names (requestFor 1 1 1 Market.firmCup) 1 :=
    ⟨_, rfl, _, List.mem_singleton_self _, rfl⟩
  have hactive := (hhonours 2 hcreated 1 hnames Market.firmCup (by decide +kernel)).2 supplier
    hsupplier
  rw [hinactive] at hactive
  cases hactive

end TradeDb

end OrdersBackend
