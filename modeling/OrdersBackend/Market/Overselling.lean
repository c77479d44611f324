import Mathlib.Algebra.Order.BigOperators.Group.List
import OrdersBackend.Market.Site
import OrdersBackend.Orders.Stock

/-!
# Orders reserve nothing

`validate_items` compares the quantities of a request with the stock, and nothing takes an order
out of the stock again: `create`, `update`, `confirm` and `cancel` write no product.  So a request
that is accepted once is accepted again after every run of requests about orders, as often as a
free number is drawn for it (`acceptedAgain_iff`), and the pieces that are ordered pile up beyond
any stock (`oversold`).
-/

namespace OrdersBackend

open Framework Tx

/-! ## Validation reads what stays -/

/-- The second state has the accounts and products of the first, and its orders among others. -/
structure OrdersDb.Extends (db db' : OrdersDb) : Prop where
  accounts : db'.accounts = db.accounts
  products : db'.products = db.products
  orders : ∀ id, (db.orders.lookup id).isSome → (db'.orders.lookup id).isSome

namespace OrderSerializer

variable {db db' : OrdersDb}

lemma keyErrors_of_known {known known' : ℕ → Bool} (hknown : ∀ id, known id → known' id)
    {required missing : OrderError} {value : Option ℕ}
    (h : keyErrors false required missing known value = []) :
    keyErrors false required missing known' value = [] := by
  unfold keyErrors at h ⊢
  rcases value with _ | id
  · exact h
  · by_cases hid : known id
    · exact if_pos (hknown id hid)
    · simp [hid] at h

lemma itemErrors_of_extends (hextends : db.Extends db') {index : ℕ} {item : ItemBody}
    (h : itemErrors db false index item = []) : itemErrors db' false index item = [] := by
  unfold itemErrors at h ⊢
  simp only [List.append_eq_nil_iff] at h ⊢
  rw [hextends.accounts, hextends.products]
  obtain ⟨⟨⟨⟨horder, hproduct⟩, hsupplier⟩, hquantity⟩, hprice⟩ := h
  exact ⟨⟨⟨⟨keyErrors_of_known hextends.orders horder, hproduct⟩, hsupplier⟩, hquantity⟩, hprice⟩

lemma validateItemLoop_congr (h : db'.products = db.products) (items : List ItemBody) :
    validateItemLoop db' items = validateItemLoop db items := by
  induction items with
  | nil => rfl
  | cons item items ih =>
      rw [validateItemLoop, validateItemLoop]
      simp only [h, ih]

lemma validateNested_of_extends (hextends : db.Extends db') {items : List ItemBody}
    {ds : List ItemData} (h : validateNested db false items = .ok ds) :
    validateNested db' false items = .ok ds := by
  unfold validateNested validateItems at h ⊢
  dsimp only at h ⊢
  rw [validateItemLoop_congr hextends.products]
  by_cases herrors : (items.zipIdx.map fun item => itemErrors db false item.2 item.1).flatten = []
  · have herrors' :
        (items.zipIdx.map fun item => itemErrors db' false item.2 item.1).flatten = [] := by
      simp only [List.flatten_eq_nil_iff, List.forall_mem_map] at herrors ⊢
      exact fun item hitem => itemErrors_of_extends hextends (herrors item hitem)
    rw [if_neg (not_not.mpr herrors)] at h
    rw [if_neg (not_not.mpr herrors')]
    exact h
  · rw [if_pos herrors] at h
    cases h

/-- A valid creation stays valid, with the same data. -/
theorem validate_of_extends (hextends : db.Extends db') {body : OrderBody} {data : OrderData}
    (h : validate db false body = .ok data) : validate db' false body = .ok data := by
  unfold validate at h ⊢
  rw [hextends.accounts]
  rcases hfield : validateItemsField db false body.items with errors | validated
  · rw [hfield] at h
    cases h
  · have hfield' : validateItemsField db' false body.items = .ok validated := by
      unfold validateItemsField at hfield ⊢
      rcases hitems : body.items with _ | items
      · rw [hitems] at hfield
        cases hfield
      · rw [hitems] at hfield
        obtain ⟨ds, hnested, hds⟩ := except_bind_eq_ok.mp hfield
        exact except_bind_eq_ok.mpr ⟨ds, validateNested_of_extends hextends hnested, hds⟩
    rw [hfield] at h
    rw [hfield']
    exact h

/-! ## The items stay -/

/-- The item rows stay, each in its place. -/
def ItemsStay (db db' : OrdersDb) : Prop := db.items.rows <+: db'.items.rows

lemma keeps_itemsStay_createItem (order product : ℕ) (row : Product Price) (quantity : ℕ)
    (price : DecimalField 10) :
    Keeps (ItemsStay db) (OrderItem.create order product row quantity price) := by
  refine (keeps_fetchSupplier _).bind fun supplier => (keeps_lift _).bind fun subtotal => ?_
  refine keeps_dite fun db' hfits hdb' => ?_
  exact hdb'.trans (List.prefix_append _ _)

lemma keeps_itemsStay_createItems (order : ℕ) (items : List ItemData) (total : ℤ) :
    Keeps (ItemsStay db) (createItems order items total) := by
  induction items generalizing total with
  | nil => exact keeps_pure total
  | cons item items ih => exact (keeps_itemsStay_createItem _ _ _ _ _).bind fun _ => ih _

lemma keeps_itemsStay_create (orderNumber : String) (now client : ℕ) (data : OrderData) :
    Keeps (ItemsStay db) (create orderNumber now client data) := by
  have hinsert : ∀ order, Keeps (ItemsStay db) (OrdersDb.insertOrder order) := fun _ =>
    keeps_dite fun _ _ hdb' => hdb'
  have hsave : ∀ id order, Keeps (ItemsStay db) (OrdersDb.saveOrder id order) := fun _ _ =>
    keeps_dite fun _ _ hdb' => hdb'
  unfold create
  exact (keeps_lift _).bind fun items => (hinsert _).bind fun id =>
    (keeps_itemsStay_createItems id items 0).bind fun total => (keeps_lift _).bind fun _ =>
      (hsave id _).bind fun _ => keeps_pure id

end OrderSerializer

namespace OrderViewSet

open OrderSerializer (ItemsStay)

variable {db : OrdersDb}

lemma itemsStay_createOrder (db : OrdersDb) (user : ℕ) (body : OrderBody) (orderNumber : String)
    (now : ℕ) : ItemsStay db (createOrder user body orderNumber now db).2 := by
  have hself : ItemsStay db db := List.prefix_refl _
  unfold createOrder
  rw [bind_of_ok (get_apply db)]
  by_cases huser : (db.accounts.users.lookup user).isNone
  · rw [if_pos huser]
    exact hself
  · rw [if_neg huser]
    rcases OrderSerializer.validate db false body with errors | data
    · exact hself
    · exact ((OrderSerializer.keeps_itemsStay_create orderNumber now user data).bind fun id =>
        keeps_pure _) db hself

lemma itemsStay_of_savesChange {event : OrderEvent} {db' : OrdersDb}
    (h : SavesChange event db db') : ItemsStay db db' := by
  rcases h with rfl | ⟨_, _, _, _, _, _, rfl⟩ <;> exact List.prefix_refl _

/-- The requests about orders keep the items there are. -/
theorem itemsStay_exec (db : OrdersDb) (user : ℕ) (call : OrderCall) :
    ItemsStay db (exec (call.event user) db) := by
  rcases call with ⟨body, orderNumber, now⟩ | ⟨id, isPartial, body⟩ | ⟨id, now⟩ | id
  · exact itemsStay_createOrder db user body orderNumber now
  · exact itemsStay_of_savesChange (update_savesChange db user id isPartial body)
  · exact itemsStay_of_savesChange (confirm_savesChange db user id now)
  · exact itemsStay_of_savesChange (cancel_savesChange db user id)

end OrderViewSet

/-! ## Pieces -/

/-- The pieces of a product that are ordered in total. -/
def OrdersDb.piecesOrdered (db : OrdersDb) (product : ℕ) : ℕ :=
  askedOf product (db.items.rows.map fun r => r.2.line)

/-- The pieces of a product that a request asks for. -/
def OrderBody.pieces (body : OrderBody) (product : ℕ) : ℕ :=
  askedOf product ((body.items.getD []).map ItemBody.line)

lemma askedOf_le_of_sublist {lines lines' : List (Option ℕ × ℕ)} (h : lines.Sublist lines')
    (product : ℕ) : askedOf product lines ≤ askedOf product lines' :=
  ((h.filter _).map _).sum_le_sum fun _ _ => Nat.zero_le _

lemma askedOf_append (product : ℕ) (lines lines' : List (Option ℕ × ℕ)) :
    askedOf product (lines ++ lines') = askedOf product lines + askedOf product lines' := by
  unfold askedOf
  rw [List.filter_append, List.map_append, List.sum_append]

/-- A validated request asks for the lines of its body. -/
lemma lines_of_checked {db : OrdersDb} {items : List ItemBody} {ds : List ItemData}
    (h : List.Forall₂ (OrderSerializer.Checked db) items ds) :
    ds.map ItemData.line = items.map ItemBody.line := by
  induction h with
  | nil => rfl
  | cons hitem _ ih =>
      rw [List.map_cons, List.map_cons, ih, ItemData.line, ItemBody.line, hitem.product,
        hitem.quantity, Option.getD_some]

namespace OrdersDb

variable {db db' : OrdersDb}

lemma piecesOrdered_le (h : OrderSerializer.ItemsStay db db') (product : ℕ) :
    db.piecesOrdered product ≤ db'.piecesOrdered product :=
  askedOf_le_of_sublist (h.sublist.map _) product

/-- An accepted request adds the pieces it asks for. -/
lemma piecesOrdered_create {user : ℕ} {body : OrderBody} {orderNumber : String} {now : ℕ}
    (h : OrderViewSet.createOrder user body orderNumber now db =
      (.ok (.created db.orders.nextId), db')) (product : ℕ) :
    db.piecesOrdered product + body.pieces product ≤ db'.piecesOrdered product := by
  obtain ⟨items, ds, hbody, hchecked, hcolumns, -⟩ := OrderViewSet.stored_of_created h
  have hstay := OrderViewSet.itemsStay_createOrder db user body orderNumber now
  rw [h] at hstay
  obtain ⟨added, hadded⟩ := hstay
  -- the rows of the new order are all among those that were added
  have hnew : db'.itemsOf db.orders.nextId =
      (added.map Prod.snd).filter fun item => item.order = db.orders.nextId := by
    have hbefore := db.itemsOf_nextId
    unfold itemsOf at hbefore ⊢
    rw [← hadded, List.map_append, List.filter_append, hbefore, List.nil_append]
  have hlines : (items.map ItemBody.line).Sublist (added.map fun r => r.2.line) := by
    rw [← lines_of_checked hchecked, ← OrderSerializer.lines_of_columns hcolumns, hnew,
      ← Function.comp_def OrderItem.line Prod.snd, ← List.map_map]
    exact List.filter_sublist.map _
  unfold piecesOrdered OrderBody.pieces
  rw [← hadded, List.map_append, askedOf_append, hbody, Option.getD_some]
  exact Nat.add_le_add_left (askedOf_le_of_sublist hlines product) _

end OrdersDb

/-! ## Accepted again -/

namespace TradeDb

variable {db : TradeDb} {user : ℕ} {body : OrderBody}

/-- The second state has the users and products of the first, and its orders and items among
others. -/
structure Extends (db db' : TradeDb) : Prop where
  users : db'.users = db.users
  products : db'.products = db.products
  view : db.toOrders.Extends db'.toOrders
  items : OrderSerializer.ItemsStay db.toOrders db'.toOrders

lemma extends_callOrder (db : TradeDb) (user : ℕ) (call : OrderCall) :
    db.Extends (db.callOrder user call) := by
  unfold callOrder
  rcases Market.authenticate db.toMarketDb user with _ | account
  · exact ⟨rfl, rfl, ⟨rfl, rfl, fun _ h => h⟩, List.prefix_refl _⟩
  · have hattached := OrderViewSet.attached_exec db.sound_toOrders user call
    have hview := toOrders_withOrders hattached
    refine ⟨rfl, rfl, ?_, ?_⟩
    · rw [hview]
      refine ⟨hattached.accounts, hattached.products, fun id hid => ?_⟩
      obtain ⟨order, horder⟩ := Option.isSome_iff_exists.mp hid
      obtain ⟨-, order', horder', -⟩ := OrderViewSet.exec_evolves horder (call.event user)
      exact Option.isSome_of_eq_some horder'
    · rw [hview]
      exact OrderViewSet.itemsStay_exec db.toOrders user call

/-- The request is accepted when a free number is drawn for it. -/
def Acceptable (db : TradeDb) (user : ℕ) (body : OrderBody) : Prop :=
  (Market.authenticate db.toMarketDb user).isSome ∧
    ∃ data items, OrderSerializer.validate db.toOrders false body = .ok data ∧
      data.items = some items ∧ AmountsFit items

lemma not_refusedAnyway_iff (orderNumber : String) :
    ¬ db.RefusedAnyway user body orderNumber ↔
      db.Acceptable user body ∧ ¬ OrderSerializer.NumberTaken db.toOrders orderNumber := by
  unfold RefusedAnyway Acceptable
  rw [Option.isSome_iff_ne_none]
  push Not
  constructor
  · rintro ⟨huser, data, hvalid, hnumber, items, hitems, hfits⟩
    exact ⟨⟨huser, data, items, hvalid, hitems, hfits⟩, hnumber⟩
  · rintro ⟨⟨huser, data, items, hvalid, hitems, hfits⟩, hnumber⟩
    exact ⟨huser, data, hvalid, hnumber, items, hitems, hfits⟩

lemma acceptable_of_extends {db' : TradeDb} (hextends : db.Extends db')
    (h : db.Acceptable user body) : db'.Acceptable user body := by
  obtain ⟨huser, data, items, hvalid, hitems, hfits⟩ := h
  refine ⟨?_, data, items, OrderSerializer.validate_of_extends hextends.view hvalid, hitems, hfits⟩
  unfold Market.authenticate at huser ⊢
  rw [hextends.users]
  exact huser

lemma acceptable_of_created {orderNumber : String} {now id : ℕ}
    (h : (placeOrder user body orderNumber now db).1 = .ok (.created id)) :
    db.Acceptable user body :=
  ((not_refusedAnyway_iff orderNumber).mp
    ((created_iff db user body orderNumber now).mp ⟨id, h⟩)).1

/-- A request about orders, with the user who sends it. -/
def execOrder (request : ℕ × OrderCall) (db : TradeDb) : TradeDb := db.callOrder request.1 request.2

lemma acceptable_run (h : Acceptable db user body) (requests : List (ℕ × OrderCall)) :
    (run execOrder db requests).Acceptable user body := by
  have hstep : ∀ (db : TradeDb) (request : ℕ × OrderCall), db.Acceptable user body →
      (execOrder request db).Acceptable user body := fun db request =>
    acceptable_of_extends (extends_callOrder db request.1 request.2)
  exact run_invariant' (I := fun db : TradeDb => db.Acceptable user body) hstep requests h

/-- **Accepted once, accepted again.**  After every run of requests about orders a request that
was accepted is accepted again exactly when the number drawn for it is free. -/
theorem acceptedAgain_iff {orderNumber : String} {now id : ℕ}
    (h : (placeOrder user body orderNumber now db).1 = .ok (.created id))
    (requests : List (ℕ × OrderCall)) (orderNumber' : String) (now' : ℕ) :
    (∃ id', (placeOrder user body orderNumber' now' (run execOrder db requests)).1 =
        .ok (.created id')) ↔
      ¬ OrderSerializer.NumberTaken (run execOrder db requests).toOrders orderNumber' := by
  rw [created_iff, not_refusedAnyway_iff,
    and_iff_right (acceptable_run (acceptable_of_created h) requests)]

/-- The client orders a cup, and the supplier confirms the order. -/
theorem acceptedAgain_iff_cup :
    (∃ id, (placeOrder 1 (requestFor 1 1 1 Market.firmCup) "ORD3" 4 (run execOrder openMarket
      [(1, .place (requestFor 1 1 1 Market.firmCup) "ORD2" 2), (2, .confirm 2 3)])).1 =
        .ok (.created id)) ↔
      ¬ OrderSerializer.NumberTaken (run execOrder openMarket
        [(1, .place (requestFor 1 1 1 Market.firmCup) "ORD2" 2), (2, .confirm 2 3)]).toOrders
        "ORD3" := by
  have hcreated : (placeOrder 1 (requestFor 1 1 1 Market.firmCup) "ORD2" 2 openMarket).1 =
      .ok (.created 2) := by decide +kernel
  exact acceptedAgain_iff hcreated _ "ORD3" 4

/-! ## Beyond the stock -/

/-- The request is this one, with whatever number. -/
def isPlacing (user : ℕ) (body : OrderBody) : ℕ × OrderCall → Bool
  | (sender, .place sent _ _) => decide (sender = user ∧ sent = body)
  | (_, .update _ _ _) | (_, .confirm _ _) | (_, .cancel _) => false

/-- When it is this one, the number that is drawn for it is free. -/
def DrawsFree (user : ℕ) (body : OrderBody) (db : TradeDb) (request : ℕ × OrderCall) : Prop :=
  ∀ orderNumber now, request = (user, .place body orderNumber now) →
    ¬ OrderSerializer.NumberTaken db.toOrders orderNumber

lemma exists_of_isPlacing {request : ℕ × OrderCall} (h : isPlacing user body request) :
    ∃ orderNumber now, request = (user, .place body orderNumber now) := by
  rcases request with ⟨sender, ⟨sent, orderNumber, now⟩ | _ | _ | _⟩
  · obtain ⟨rfl, rfl⟩ := of_decide_eq_true h
    exact ⟨orderNumber, now, rfl⟩
  all_goals cases h

lemma user_of_authenticate {account : Account}
    (h : Market.authenticate db.toMarketDb user = some account) :
    (db.toOrders.accounts.users.lookup user).isSome := by
  show ((db.users.map Account.toUser).lookup user).isSome
  rw [Table.lookup_map, Option.isSome_map]
  exact Option.isSome_of_eq_some (Option.filter_eq_some_iff.mp h).1

lemma piecesOrdered_place {orderNumber : String} (h : db.Acceptable user body)
    (hnumber : ¬ OrderSerializer.NumberTaken db.toOrders orderNumber) (now product : ℕ) :
    db.toOrders.piecesOrdered product + body.pieces product ≤
      (db.callOrder user (.place body orderNumber now)).toOrders.piecesOrdered product := by
  obtain ⟨huser, data, items, hvalid, hitems, hfits⟩ := h
  obtain ⟨account, haccount⟩ := Option.isSome_iff_exists.mp huser
  have hcreated := created_of_fits db.sound_toOrders (user_of_authenticate haccount) hvalid hitems
    hnumber hfits now
  rw [callOrder_place, (toOrders_placeOrder haccount body orderNumber now).2]
  exact OrdersDb.piecesOrdered_create (Prod.ext hcreated rfl) product

lemma piecesOrdered_execOrder (h : db.Acceptable user body) {request : ℕ × OrderCall}
    (hdraws : DrawsFree user body db request) (product : ℕ) :
    db.toOrders.piecesOrdered product +
        (if isPlacing user body request then 1 else 0) * body.pieces product ≤
      (execOrder request db).toOrders.piecesOrdered product := by
  by_cases hplacing : isPlacing user body request
  · obtain ⟨orderNumber, now, rfl⟩ := exists_of_isPlacing hplacing
    rw [if_pos hplacing, Nat.one_mul]
    exact piecesOrdered_place h (hdraws orderNumber now rfl) now product
  · rw [if_neg hplacing, Nat.zero_mul]
    exact OrdersDb.piecesOrdered_le (extends_callOrder db request.1 request.2).items product

lemma piecesOrdered_run (h : db.Acceptable user body) {requests : List (ℕ × OrderCall)}
    (hdraws : Guarded execOrder (DrawsFree user body) db requests) (product : ℕ) :
    db.toOrders.piecesOrdered product +
        requests.countP (isPlacing user body) * body.pieces product ≤
      (run execOrder db requests).toOrders.piecesOrdered product := by
  induction requests generalizing db with
  | nil => simp
  | cons request requests ih =>
      have hnext := acceptable_of_extends (extends_callOrder db request.1 request.2) h
      have hfirst := piecesOrdered_execOrder h hdraws.1 product
      have hrest := ih hnext hdraws.2
      rw [run_cons, List.countP_cons, Nat.add_mul]
      unfold execOrder at hfirst hrest ⊢
      omega

/-- **The stock bounds no run.**  However often an accepted request is sent among others, each
time with a free number, all its pieces are ordered and the stock is what it was. -/
theorem oversold {orderNumber : String} {now id : ℕ}
    (h : (placeOrder user body orderNumber now db).1 = .ok (.created id))
    {requests : List (ℕ × OrderCall)}
    (hdraws : Guarded execOrder (DrawsFree user body) db requests) :
    (run execOrder db requests).products = db.products ∧ ∀ product,
      db.toOrders.piecesOrdered product +
          requests.countP (isPlacing user body) * body.pieces product ≤
        (run execOrder db requests).toOrders.piecesOrdered product := by
  have hproducts : (run execOrder db requests).products = db.products :=
    run_invariant' (I := fun db' : TradeDb => db'.products = db.products)
      (fun db' request hdb' => (extends_callOrder db' request.1 request.2).products.trans hdb')
      requests rfl
  exact ⟨hproducts, fun product => piecesOrdered_run (acceptable_of_created h) hdraws product⟩

/-- The client asks for all the cups there are. -/
def allCups : OrderBody :=
  { requestFor 1 1 1 Market.firmCup with
    items := some [⟨some 1, some 1, some 1, some Market.firmCup.stockQuantity,
      some Market.firmCup.price⟩] }

/-- And asks for them again. -/
theorem oversold_allCups :
    let requests : List (ℕ × OrderCall) :=
      [(1, .place allCups "ORD2" 2), (2, .confirm 2 3), (1, .place allCups "ORD3" 4)]
    (run execOrder openMarket requests).products = openMarket.products ∧ ∀ product,
      openMarket.toOrders.piecesOrdered product +
          requests.countP (isPlacing 1 allCups) * allCups.pieces product ≤
        (run execOrder openMarket requests).toOrders.piecesOrdered product := by
  intro requests
  have hcreated : (placeOrder 1 allCups "ORD2" 2 openMarket).1 = .ok (.created 2) := by
    decide +kernel
  have hdraws : Guarded execOrder (DrawsFree 1 allCups) openMarket requests := by
    refine ⟨?_, ?_, ?_, trivial⟩
    · intro orderNumber now heq
      cases heq
      unfold OrderSerializer.NumberTaken
      decide +kernel
    · intro orderNumber now heq
      cases heq
    · intro orderNumber now heq
      cases heq
      unfold OrderSerializer.NumberTaken
      decide +kernel
  exact oversold hcreated hdraws

/-- Six of the three cups are ordered. -/
example : allCups.pieces 1 = Market.firmCup.stockQuantity ∧
    (run execOrder openMarket [(1, .place allCups "ORD2" 2), (2, .confirm 2 3),
      (1, .place allCups "ORD3" 4)]).toOrders.piecesOrdered 1 = 6 := by
  decide +kernel

end TradeDb

end OrdersBackend
