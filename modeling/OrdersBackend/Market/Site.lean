import OrdersBackend.Market.Acceptance
import OrdersBackend.Market.Tasks
import OrdersBackend.Orders.Requests

/-!
# The whole site

The requests that write users, suppliers, products, images and orders, in one state, with the
tasks of the workers between them; only the import of price lists is not among them.

An order names its client, and its items name products and suppliers, which others may change
or delete.  `orderStands_iff` says what becomes of an order in every run: its number, its lines
and its amount stay, and the rows that the lines name are there, exactly as long as nobody who
sees the order deletes it and the account of its client is not deleted.
-/

namespace OrdersBackend

open Framework Tx Market

/-! ## Requests about orders -/

/-- A request of `OrderViewSet` that writes and leaves the order where it is. -/
inductive OrderCall
  | place (body : OrderBody) (orderNumber : String) (now : ℕ)
  | update (id : ℕ) (isPartial : Bool) (body : OrderBody)
  | confirm (id now : ℕ)
  | cancel (id : ℕ)

def OrderCall.event (user : ℕ) : OrderCall → OrderViewSet.OrderEvent
  | place body orderNumber now => .create user body orderNumber now
  | update id isPartial body => .update user id isPartial body
  | confirm id now => .confirm user id now
  | cancel id => .cancel user id

namespace OrderViewSet

variable {db : OrdersDb}

/-- A client that is named in a valid request is there. -/
lemma client_of_validate {isPartial : Bool} {body : OrderBody} {data : OrderData} {client : ℕ}
    (h : OrderSerializer.validate db isPartial body = .ok data)
    (hclient : data.client = some client) : (db.accounts.users.lookup client).isSome := by
  unfold OrderSerializer.validate at h
  rcases hitems : OrderSerializer.validateItemsField db isPartial body.items with errors | items
  · rw [hitems] at h
    cases h
  · rw [hitems] at h
    dsimp only at h
    split at h
    · cases h
    · next hothers =>
        rw [← Except.ok.inj h] at hclient
        simp only [ne_eq, List.append_eq_nil_iff, not_not] at hothers
        have hkey := hothers.1.1
        rw [show body.client = some client from hclient] at hkey
        unfold OrderSerializer.keyErrors at hkey
        by_contra hgone
        simp [hgone] at hkey

/-- A change leaves an order with a client who is there. -/
lemma client_of_change {event : OrderEvent} {id : ℕ} {order order' : Order}
    (h : Change db id order event order')
    (hclient : (db.accounts.users.lookup order.client).isSome) :
    (db.accounts.users.lookup order'.client).isSome := by
  cases h with
  | kept => exact hclient
  | updated user isPartial body u data hsees hvalid =>
      show (db.accounts.users.lookup (data.client.getD order.client)).isSome
      rcases hdata : data.client with _ | client
      · exact hclient
      · exact client_of_validate hvalid hdata
  | confirmed => exact hclient
  | cancelled => exact hclient

/-- No change touches these columns. -/
lemma columns_of_change {event : OrderEvent} {id : ℕ} {order order' : Order}
    (h : Change db id order event order') :
    order'.orderNumber = order.orderNumber ∧ order'.createdAt = order.createdAt ∧
      order'.totalAmount = order.totalAmount := by
  cases h <;> exact ⟨rfl, rfl, rfl⟩

lemma attached_of_savesChange (h : db.Sound) {event : OrderEvent} {db' : OrdersDb}
    (hsaves : SavesChange event db db') : db.Attached db' := by
  rcases hsaves with rfl | ⟨id, seen, saved, hfree, hseen, hchange, rfl⟩
  · exact ⟨h, rfl, rfl⟩
  · have hclient := client_of_change hchange (h.clients id seen hseen)
    exact ⟨{ h with clients := Table.references_update h.clients hclient }, rfl, rfl⟩

/-- The requests about orders keep the foreign keys. -/
theorem attached_exec (h : db.Sound) (user : ℕ) (call : OrderCall) :
    db.Attached (exec (call.event user) db) := by
  rcases call with ⟨body, orderNumber, now⟩ | ⟨id, isPartial, body⟩ | ⟨id, now⟩ | id
  · exact attached_createOrder h user body orderNumber now
  · exact attached_of_savesChange h (update_savesChange db user id isPartial body)
  · exact attached_of_savesChange h (confirm_savesChange db user id now)
  · exact attached_of_savesChange h (cancel_savesChange db user id)

end OrderViewSet

/-- The items of an order go with it. -/
def MarketDb.eraseOrder (id : ℕ) (db : MarketDb) : MarketDb :=
  { db with
    orders := db.orders.filter fun other => !decide (other = id)
    items := db.items.restrict fun item => !decide (item.order = id)
    orderClients := fun other order horder =>
      db.orderClients other order (Table.lookup_filter_eq_some.mp horder).1
    itemOrders := Table.references_restrict db.itemOrders fun _ _ _ hkept => hkept
    itemProducts := fun item row hrow =>
      db.itemProducts item row (Table.lookup_restrict_eq_some.mp hrow).1
    itemSuppliers := fun item row hrow =>
      db.itemSuppliers item row (Table.lookup_restrict_eq_some.mp hrow).1 }

namespace TradeDb

/-- A request about an order of a user who is logged in. -/
def callOrder (user : ℕ) (call : OrderCall) (db : TradeDb) : TradeDb :=
  match Market.authenticate db.toMarketDb user with
  | none => db
  | some _ =>
    db.withOrders (OrderViewSet.exec (call.event user) db.toOrders)
      (OrderViewSet.attached_exec db.sound_toOrders user call)

/-- `placeOrder` is one of them. -/
lemma callOrder_place (user : ℕ) (body : OrderBody) (orderNumber : String) (now : ℕ)
    (db : TradeDb) :
    db.callOrder user (.place body orderNumber now) =
      (placeOrder user body orderNumber now db).2 := by
  unfold callOrder placeOrder
  rcases Market.authenticate db.toMarketDb user with _ | account <;> rfl

/-- `order.delete()`. -/
def eraseOrder (id : ℕ) (db : TradeDb) : TradeDb :=
  ⟨db.toMarketDb.eraseOrder id, Table.unique_filter db.orderNumbers _⟩

/-- The user is logged in and sees the order. -/
def Sees (db : TradeDb) (user id : ℕ) : Prop :=
  ∃ account order, Market.authenticate db.toMarketDb user = some account ∧
    OrderViewSet.getObject db.toOrders user account.userType id = .ok (some order)

/-- `destroy`: whoever sees an order may delete it. -/
def destroyOrder (user id : ℕ) (db : TradeDb) : TradeDb :=
  match Market.authenticate db.toMarketDb user with
  | none => db
  | some account =>
    match OrderViewSet.getObject db.toOrders user account.userType id with
    | .ok (some _) => db.eraseOrder id
    | .ok none | .error _ => db

lemma destroyOrder_of_sees {db : TradeDb} {user id : ℕ} (h : db.Sees user id) :
    db.destroyOrder user id = db.eraseOrder id := by
  obtain ⟨account, order, haccount, horder⟩ := h
  unfold destroyOrder
  rw [haccount]
  dsimp only
  rw [horder]

lemma destroyOrder_of_not_sees {db : TradeDb} {user id : ℕ} (h : ¬ db.Sees user id) :
    db.destroyOrder user id = db := by
  unfold destroyOrder
  rcases haccount : Market.authenticate db.toMarketDb user with _ | account
  · rfl
  · dsimp only
    rcases horder : OrderViewSet.getObject db.toOrders user account.userType id with _ | _ | order
    · rfl
    · rfl
    · exact absurd ⟨account, order, haccount, horder⟩ h

end TradeDb

/-! ## What an order stands for -/

/-- What never changes of an order. -/
structure OrderRecord where
  number : String
  createdAt : ℕ
  total : DecimalField 12
  items : List OrderItem
  deriving DecidableEq

namespace MarketDb

/-- The record of an order that is there. -/
def record (db : MarketDb) (id : ℕ) : Option OrderRecord :=
  (db.orders.lookup id).map fun order =>
    ⟨order.orderNumber, order.createdAt, order.totalAmount,
      (db.items.rows.map Prod.snd).filter fun item => item.order = id⟩

variable {db : MarketDb} {id : ℕ} {order : Order}

lemma record_of_same {db' : MarketDb} (horders : db'.orders = db.orders)
    (hitems : db'.items = db.items) (id : ℕ) : db'.record id = db.record id := by
  unfold record
  rw [horders, hitems]

lemma record_eq_none {db : MarketDb} {id : ℕ} (h : db.orders.lookup id = none) :
    db.record id = none := by
  unfold record
  rw [h]
  rfl

/-- A deletion that spares the client of an order spares its record. -/
lemma record_erase {doomed : Doomed} (hfree : ¬ db.Protected doomed)
    (horder : db.orders.lookup id = some order) (hspared : ¬ doomed.users order.client) :
    (db.erase doomed hfree).record id = db.record id := by
  have hkept : db.collectsOrder doomed id = false := by
    unfold collectsOrder
    rw [horder]
    simpa using hspared
  have hlookup : (db.erase doomed hfree).orders.lookup id = some order := by
    refine Table.lookup_filter_eq_some.mpr ⟨horder, ?_⟩
    rw [hkept]
    rfl
  have hitems : ((db.erase doomed hfree).items.rows.map Prod.snd).filter
        (fun item => item.order = id) =
      (db.items.rows.map Prod.snd).filter fun item => item.order = id := by
    refine Table.filter_restrict fun item hitem => ?_
    rw [of_decide_eq_true hitem, hkept]
    rfl
  unfold record
  rw [hlookup, horder, hitems]

/-- A deletion that takes the client of an order takes the order. -/
lemma record_erase_eq_none {doomed : Doomed} (hfree : ¬ db.Protected doomed)
    (horder : db.orders.lookup id = some order) (hdoomed : doomed.users order.client) :
    (db.erase doomed hfree).record id = none := by
  refine record_eq_none (Option.eq_none_iff_forall_ne_some.mpr fun other hother => ?_)
  obtain ⟨hthere, hkept⟩ := Table.lookup_filter_eq_some.mp hother
  unfold collectsOrder at hkept
  rw [hthere] at hkept
  obtain rfl := Option.some.inj (horder.symm.trans hthere)
  simp [hdoomed] at hkept

end MarketDb

/-! ## Requests of the site -/

section

variable {normalizeUsername normalizeEmail : String → String}

/-- A request of the other endpoints leaves the orders, or deletes what follows from something. -/
lemma MemberEvent.orders_execMarket (event : MemberEvent) (db : MarketDb) :
    ((event.execMarket normalizeUsername normalizeEmail db).orders = db.orders ∧
        (event.execMarket normalizeUsername normalizeEmail db).items = db.items) ∨
      ∃ doomed hfree,
        event.execMarket normalizeUsername normalizeEmail db = db.erase doomed hfree := by
  set P : MarketDb → Prop := fun db' => (db'.orders = db.orders ∧ db'.items = db.items) ∨
    ∃ doomed hfree, db' = db.erase doomed hfree
  have hself : P db := .inl ⟨rfl, rfl⟩
  rcases event with ⟨request, salt, now⟩ | ⟨user, body⟩ | ⟨user, body, now⟩ | ⟨user, request⟩
  · exact .inl ⟨rfl, rfl⟩
  · refine (Market.asUser_iff (P := P) hself).mpr fun _ _ => ?_
    exact (UserViewSet.createUser_iff (P := P) hself body).mpr fun _ _ _ _ => .inl ⟨rfl, rfl⟩
  · refine (Market.asUser_iff (P := P) hself).mpr fun _ _ => ?_
    exact (create_iff (P := P) hself body now).mpr fun _ _ _ _ => .inl ⟨rfl, rfl⟩
  · exact Market.exec_of_writes (P := P) hself (fun _ _ _ => .inl ⟨rfl, rfl⟩)
      (fun _ _ _ => .inl ⟨rfl, rfl⟩) (fun _ _ _ => .inl ⟨rfl, rfl⟩) (fun _ _ => .inl ⟨rfl, rfl⟩)
      (fun doomed hfree => .inr ⟨doomed, hfree, rfl⟩) (fun _ => .inl ⟨rfl, rfl⟩) user request

/-- Such a request takes an order away exactly when it takes the account of the client. -/
lemma MemberEvent.record_execMarket (event : MemberEvent) {db : MarketDb} {id : ℕ} {order : Order}
    (horder : db.orders.lookup id = some order) :
    ((event.execMarket normalizeUsername normalizeEmail db).users.lookup order.client).isSome ↔
      (event.execMarket normalizeUsername normalizeEmail db).record id = db.record id := by
  have hrecord : db.record id ≠ none := by
    unfold MarketDb.record
    rw [horder]
    exact Option.some_ne_none _
  -- the request leaves the orders alone or erases rows with what hangs on them
  rcases event.orders_execMarket db with ⟨horders, hitems⟩ | ⟨doomed, hfree, herase⟩
  · refine iff_of_true ?_ (MarketDb.record_of_same horders hitems id)
    refine (event.execMarket normalizeUsername normalizeEmail db).orderClients id order ?_
    rw [horders]
    exact horder
  · rw [herase]
    by_cases hdoomed : doomed.users order.client
    · refine iff_of_false ?_ ?_
      · rw [Option.isSome_iff_exists]
        rintro ⟨row, hrow⟩
        have hkept := (Table.lookup_filter_eq_some.mp hrow).2
        simp [hdoomed] at hkept
      · rw [MarketDb.record_erase_eq_none hfree horder hdoomed]
        exact hrecord.symm
    · refine iff_of_true ?_ (MarketDb.record_erase hfree horder hdoomed)
      obtain ⟨row, hrow⟩ := Option.isSome_iff_exists.mp (db.orderClients id order horder)
      refine Option.isSome_of_eq_some (Table.lookup_filter_eq_some.mpr ⟨hrow, ?_⟩)
      simpa using hdoomed

end

/-! ### Requests about orders -/

namespace TradeDb

variable {db : TradeDb} {id : ℕ} {order : Order}

lemma record_eq (horder : db.orders.lookup id = some order) :
    db.record id = some ⟨order.orderNumber, order.createdAt, order.totalAmount,
      db.toOrders.itemsOf id⟩ := by
  unfold MarketDb.record
  rw [horder]
  rfl

/-- No change of an order touches what it stands for. -/
lemma record_callOrder (horder : db.orders.lookup id = some order) (user : ℕ) (call : OrderCall) :
    (db.callOrder user call).record id = db.record id := by
  unfold callOrder
  rcases Market.authenticate db.toMarketDb user with _ | account
  · rfl
  · have hthere : db.toOrders.orders.lookup id = some order := horder
    obtain ⟨hitems, order', hlookup, hchange⟩ :=
      OrderViewSet.exec_evolves hthere (call.event user)
    have hview := toOrders_withOrders
      (OrderViewSet.attached_exec db.sound_toOrders user call)
    have horder' : (db.withOrders _ (OrderViewSet.attached_exec db.sound_toOrders user
        call)).orders.lookup id = some order' := hlookup
    dsimp only
    obtain ⟨hnumber, hcreated, htotal⟩ := OrderViewSet.columns_of_change hchange
    rw [record_eq horder', record_eq horder, hview, hitems, hnumber, hcreated, htotal]

lemma record_eraseOrder (id : ℕ) : (db.eraseOrder id).record id = none := by
  refine MarketDb.record_eq_none (Option.eq_none_iff_forall_ne_some.mpr fun other hother => ?_)
  have hkept := (Table.lookup_filter_eq_some.mp hother).2
  simp at hkept

lemma record_eraseOrder_of_ne {other : ℕ} (hne : other ≠ id)
    (horder : db.orders.lookup id = some order) :
    (db.eraseOrder other).record id = db.record id := by
  have hlookup : (db.eraseOrder other).orders.lookup id = some order :=
    Table.lookup_filter_eq_some.mpr ⟨horder, by simpa using hne.symm⟩
  have hitems : (db.eraseOrder other).toOrders.itemsOf id = db.toOrders.itemsOf id := by
    refine Table.filter_restrict fun item hitem => ?_
    rw [of_decide_eq_true hitem]
    simpa using hne.symm
  rw [record_eq hlookup, record_eq horder, hitems]

/-- A deletion takes an order away exactly when it is of this order, by someone who sees it. -/
lemma record_destroyOrder (horder : db.orders.lookup id = some order) (user other : ℕ) :
    (other = id → ¬ db.Sees user id) ↔
      (db.destroyOrder user other).record id = db.record id := by
  by_cases hsees : db.Sees user other
  · rw [destroyOrder_of_sees hsees]
    rcases eq_or_ne other id with rfl | hne
    · refine iff_of_false (fun h => h rfl hsees) ?_
      rw [record_eraseOrder, record_eq horder]
      exact (Option.some_ne_none _).symm
    · exact iff_of_true (fun h => absurd h hne) (record_eraseOrder_of_ne hne horder)
  · rw [destroyOrder_of_not_sees hsees]
    refine iff_of_true ?_ rfl
    rintro rfl
    exact hsees

end TradeDb

/-! ## Runs -/

/-- A request to the site. -/
inductive SiteCall
  | member (event : MemberEvent)
  | order (user : ℕ) (call : OrderCall)
  | destroyOrder (user id : ℕ)

section

variable (mayRetry : ℕ → Bool) (normalizeUsername normalizeEmail : String → String)

def SiteCall.exec (event : SiteCall) (db : TradeDb) : TradeDb :=
  match event with
  | member event =>
    { event.execMarket normalizeUsername normalizeEmail db.toMarketDb with
      orderNumbers := by
        rcases event.orders_execMarket db.toMarketDb with ⟨horders, -⟩ | ⟨doomed, hfree, herase⟩
        · rw [horders]
          exact db.orderNumbers
        · rw [herase]
          exact Table.unique_filter db.orderNumbers _ }
  | order user call => db.callOrder user call
  | destroyOrder user id => db.destroyOrder user id

/-- The messages of a request. -/
def SiteCall.sent (event : SiteCall) (db : TradeDb) : List MediaTask :=
  match event with
  | member event => event.sent db.toMarketDb
  | order _ _ | destroyOrder _ _ => []

/-- A task writes no order. -/
lemma MediaTask.orders_of_save {task : MediaTask} {row : task.Row} {made : Made}
    {db db' : MarketDb} (h : task.save row made db = some db') :
    db'.orders = db.orders ∧ db'.items = db.items := by
  unfold save at h
  rcases task with _ | _ | _ <;>
  · obtain ⟨hfits, hdb⟩ := Option.dite_none_right_eq_some.mp h
    rw [← Option.some.inj hdb]
    exact ⟨rfl, rfl⟩

/-- The requests of the site and its tasks. -/
def siteJobs : Jobs TradeDb SiteCall MediaTask Made MediaTask.Row where
  request event db := (event.exec normalizeUsername normalizeEmail db, event.sent db)
  read task db := task.read db.toMarketDb
  save task row made db :=
    (task.save row made db.toMarketDb).attach.map fun saved =>
      { saved.1 with
        orderNumbers := by
          rw [(MediaTask.orders_of_save saved.2).1]
          exact db.orderNumbers }
  mayRetry := mayRetry

abbrev SiteBroker : Type := Broker TradeDb MediaTask MediaTask.Row

/-- The order stands for this, and the rows that its lines name are there. -/
structure OrderStands (id : ℕ) (stands : OrderRecord) (db : TradeDb) : Prop where
  record : db.record id = some stands
  products : ∀ item ∈ stands.items, (db.products.lookup item.product).isSome
  suppliers : ∀ item ∈ stands.items, (db.suppliers.lookup item.supplier).isSome

/-- A step that leaves the order: a request of the other endpoints leaves the account of its
client, and nobody who sees the order deletes it. -/
def LeavesOrder (id : ℕ) (s : SiteBroker) : JobStep SiteCall Made → Prop
  | .request (.member event) => ∀ order, s.store.orders.lookup id = some order →
      ((event.execMarket normalizeUsername normalizeEmail s.store.toMarketDb).users.lookup
        order.client).isSome
  | .request (.destroyOrder user other) => other = id → ¬ s.store.Sees user id
  | .request (.order _ _) | .start _ | .save _ _ | .raise _ => True

end

/-- The rows are always there. -/
lemma OrderStands.of_record {id : ℕ} {stands : OrderRecord} {db : TradeDb}
    (h : db.record id = some stands) : OrderStands id stands db := by
  obtain ⟨order, horder, hstands⟩ := Option.map_eq_some_iff.mp h
  have hitem : ∀ item ∈ stands.items, ∃ pk, db.items.lookup pk = some item := by
    intro item hmem
    rw [← hstands] at hmem
    obtain ⟨r, hr, rfl⟩ := List.mem_map.mp (List.mem_filter.mp hmem).1
    exact ⟨r.1, Table.mem_rows_iff.mp hr⟩
  refine ⟨h, fun item hmem => ?_, fun item hmem => ?_⟩
  · obtain ⟨pk, hpk⟩ := hitem item hmem
    exact db.itemProducts pk item hpk
  · obtain ⟨pk, hpk⟩ := hitem item hmem
    exact db.itemSuppliers pk item hpk

section

variable {mayRetry : ℕ → Bool} {normalizeUsername normalizeEmail : String → String} {id : ℕ}
  {stands : OrderRecord} {s : SiteBroker}

/-- What one step does to the record of an order. -/
lemma leavesOrder_iff (h : OrderStands id stands s.store) (step : JobStep SiteCall Made) :
    LeavesOrder normalizeUsername normalizeEmail id s step ↔
      OrderStands id stands
        (Jobs.exec (siteJobs mayRetry normalizeUsername normalizeEmail) step s).store := by
  have hstands : ∀ db, OrderStands id stands db ↔ db.record id = s.store.record id := by
    intro db
    rw [h.record]
    exact ⟨OrderStands.record, OrderStands.of_record⟩
  obtain ⟨order, horder, -⟩ := Option.map_eq_some_iff.mp h.record
  rw [hstands]
  rcases step with event | i | ⟨i, made⟩ | i
  · rcases event with event | ⟨user, call⟩ | ⟨user, other⟩
    · refine Iff.trans ?_ (event.record_execMarket horder)
      constructor
      · exact fun hleaves => hleaves order horder
      · intro hthere other hother
        obtain rfl := Option.some.inj (horder.symm.trans hother)
        exact hthere
    · exact iff_of_true trivial (TradeDb.record_callOrder horder user call)
    · exact TradeDb.record_destroyOrder horder user other
  · -- a task that starts has read only
    rw [Jobs.store_start]
    exact iff_of_true trivial rfl
  · -- a task that ends saves a row of another table
    refine iff_of_true trivial ?_
    rcases Jobs.store_save (siteJobs mayRetry normalizeUsername normalizeEmail) s i made with
      hstore | ⟨task, row, hsave⟩
    · rw [hstore]
    · obtain ⟨saved, -, hsaved⟩ := Option.map_eq_some_iff.mp hsave
      obtain ⟨horders, hitems⟩ := MediaTask.orders_of_save saved.2
      rw [← hsaved]
      exact MarketDb.record_of_same horders hitems id
  · rw [Jobs.store_raise]
    exact iff_of_true trivial rfl

/-- **What becomes of an order.**  In every run of requests and tasks an order stands, with its
number, its lines and its amount and with the rows that the lines name, exactly as long as every
step leaves it. -/
theorem orderStands_iff (h : OrderStands id stands s.store)
    (steps : List (JobStep SiteCall Made)) :
    (∀ earlier later, steps = earlier ++ later →
      OrderStands id stands
        (run (Jobs.exec (siteJobs mayRetry normalizeUsername normalizeEmail)) s earlier).store) ↔
    Guarded (Jobs.exec (siteJobs mayRetry normalizeUsername normalizeEmail))
      (LeavesOrder normalizeUsername normalizeEmail id) s steps :=
  (guarded_iff_invariant (I := fun s : SiteBroker => OrderStands id stands s.store)
    (fun _ step hs => leavesOrder_iff hs step) h steps).symm

end

/-- The client has ordered a cup, for the price of his old order. -/
def ordered : SiteBroker :=
  ⟨TradeDb.openMarket.callOrder 1
    (.place (TradeDb.requestFor 1 1 1 Market.firmCup) "ORD2" 7), [], []⟩

def orderedCup : OrderRecord :=
  ⟨"ORD2", 7, TradeDb.oldOrder.totalAmount,
    [⟨2, 1, 1, 1, Market.firmCup.price, TradeDb.oldOrder.totalAmount⟩]⟩

theorem orderStands_iff_ordered :
    let steps := [JobStep.request (.order 2 (.confirm 2 8)), .request (.destroyOrder 2 2)]
    (∀ earlier later, steps = earlier ++ later →
      OrderStands 2 orderedCup
        (run (Jobs.exec (siteJobs threeRetries id id)) ordered earlier).store) ↔
    Guarded (Jobs.exec (siteJobs threeRetries id id)) (LeavesOrder id id 2) ordered steps := by
  intro steps
  exact orderStands_iff (OrderStands.of_record (by decide +kernel)) steps

/-- The supplier deletes the order of the client. -/
example : (run (Jobs.exec (siteJobs threeRetries id id)) ordered
    [.request (.order 2 (.confirm 2 8)), .request (.destroyOrder 2 2)]).store.record 2 = none := by
  decide +kernel

end OrdersBackend
