import OrdersBackend.Orders.ViewSet

/-!
# The creation of an order

What `OrderSerializer.create` leaves in the tables.  Its loop stores the items one by one and
stops at the first subtotal that does not fit its column, or at the first item whose product or
supplier has gone since the validation; the accumulated total has to fit its own column.
`create_of_storable` and `create_of_not_storable` are the two ends: the order with all its items
and their sum, or an exception with the order row, and the items before the exception, left
behind.  In both cases nothing else changes (`SameBut`).
-/

namespace OrdersBackend

open Framework Tx

/-! ## Amounts -/

/-- The price an item is stored with: the one the request carries, or that of the product. -/
def ItemData.charged (item : ItemData) : DecimalField 10 := item.price.getD item.product.price

/-- The amount of an item, in hundredths. -/
def ItemData.cents (item : ItemData) : ℤ := lineCents item.quantity item.charged

/-- The amount of an order. -/
def totalCents (items : List ItemData) : ℤ := (items.map ItemData.cents).sum

/-- The amount fits a column of twelve digits. -/
def FitsTotal (cents : ℤ) : Prop := cents.natAbs < 10 ^ 12

instance (cents : ℤ) : Decidable (FitsTotal cents) := inferInstanceAs (Decidable (_ < _))

/-- Every subtotal of the items and their total fit their columns. -/
def AmountsFit (items : List ItemData) : Prop :=
  (∀ item ∈ items, FitsTotal item.cents) ∧ FitsTotal (totalCents items)

/-- The product of the item and its supplier are there. -/
def ItemData.KeysThere (db : OrdersDb) (item : ItemData) : Prop :=
  (db.products.lookup item.productId).isSome ∧
    (db.accounts.suppliers.lookup item.product.supplier).isSome

/-- What is stored after the row of the order can be stored. -/
structure Storable (db : OrdersDb) (items : List ItemData) : Prop where
  keys : ∀ item ∈ items, item.KeysThere db
  amounts : AmountsFit items

lemma totalCents_cons (item : ItemData) (items : List ItemData) :
    totalCents (item :: items) = item.cents + totalCents items := by
  simp [totalCents]

/-- The columns of an item row. -/
def OrderItem.columns (item : OrderItem) : ℕ × ℕ × ℕ × ℕ × DecimalField 10 × ℤ :=
  (item.order, item.product, item.supplier, item.quantity, item.price, item.subtotal.cents)

/-- The columns a validated item is stored with. -/
def ItemData.columns (order : ℕ) (item : ItemData) : ℕ × ℕ × ℕ × ℕ × DecimalField 10 × ℤ :=
  (order, item.productId, item.product.supplier, item.quantity, item.charged, item.cents)

/-! ## Frames -/

/-- The two states differ in the order `id` and its items at most. -/
structure SameBut (id : ℕ) (db db' : OrdersDb) : Prop where
  accounts : db'.accounts = db.accounts
  products : db'.products = db.products
  orders : ∀ other, other ≠ id → db'.orders.lookup other = db.orders.lookup other
  items : ∀ other, other ≠ id → db'.itemsOf other = db.itemsOf other

namespace SameBut

variable {id : ℕ} {db db₁ db₂ : OrdersDb}

lemma refl (id : ℕ) (db : OrdersDb) : SameBut id db db :=
  ⟨rfl, rfl, fun _ _ => rfl, fun _ _ => rfl⟩

lemma trans (h₁ : SameBut id db db₁) (h₂ : SameBut id db₁ db₂) : SameBut id db db₂ where
  accounts := h₂.accounts.trans h₁.accounts
  products := h₂.products.trans h₁.products
  orders other hne := (h₂.orders other hne).trans (h₁.orders other hne)
  items other hne := (h₂.items other hne).trans (h₁.items other hne)

lemma addOrder {order : Order} (h : db.orders.Free Order.numberKey db.orders.nextId order) :
    SameBut db.orders.nextId db (db.addOrder order h) where
  accounts := rfl
  products := rfl
  orders _ hne := Table.lookup_insert_of_ne _ _ hne
  items _ _ := rfl

lemma setOrder {order : Order} (h : db.orders.Free Order.numberKey id order) :
    SameBut id db (db.setOrder id order h) where
  accounts := rfl
  products := rfl
  orders _ hne := Table.lookup_update_of_ne _ _ hne
  items _ _ := rfl

lemma addItem {item : OrderItem} (h : (db.orders.lookup item.order).isSome)
    (horder : item.order = id) : SameBut id db (db.addItem item h) where
  accounts := rfl
  products := rfl
  orders _ _ := rfl
  items other hne := by
    rw [OrdersDb.itemsOf_addItem, horder, if_neg (Ne.symm hne), List.append_nil]

end SameBut

namespace OrderSerializer

variable {order : ℕ} {db : OrdersDb}

/-! ## The loop -/

/-- An item whose product and supplier are there and whose subtotal fits is stored. -/
lemma create_item_of_fits {item : ItemData} (horder : (db.orders.lookup order).isSome)
    (hkeys : item.KeysThere db) (hfits : FitsTotal item.cents) :
    ∃ row, ∃ h : (db.orders.lookup row.order).isSome,
      OrderItem.create order item.productId item.product item.quantity item.charged db =
        (.ok (), db.addItem row h) ∧ row.columns = item.columns order := by
  have hsubtotal : DecimalField.ofCents 12 (lineCents item.quantity item.charged) =
      .ok ⟨item.cents, hfits⟩ := DecimalField.ofCents_of_fits hfits
  refine ⟨⟨order, item.productId, item.product.supplier, item.quantity, item.charged,
    ⟨item.cents, hfits⟩⟩, horder, ?_, rfl⟩
  unfold OrderItem.create
  rw [bind_of_ok (OrdersDb.fetchSupplier_of_isSome hkeys.2), hsubtotal, lift_ok, pure_bind]
  exact OrdersDb.insertItem_of_fits ⟨horder, hkeys.1, hkeys.2⟩

/-- Any other item raises, and nothing of it is stored. -/
lemma create_item_of_not_fits {item : ItemData}
    (h : ¬ (item.KeysThere db ∧ FitsTotal item.cents)) :
    ∃ e, OrderItem.create order item.productId item.product item.quantity item.charged db =
      (.error e, db) := by
  unfold OrderItem.create
  by_cases hsupplier : (db.accounts.suppliers.lookup item.product.supplier).isSome
  · rw [bind_of_ok (OrdersDb.fetchSupplier_of_isSome hsupplier)]
    by_cases hfits : FitsTotal item.cents
    · have hsubtotal : DecimalField.ofCents 12 (lineCents item.quantity item.charged) =
          .ok ⟨item.cents, hfits⟩ := DecimalField.ofCents_of_fits hfits
      have hproduct : ¬ (db.products.lookup item.productId).isSome := fun hproduct =>
        h ⟨⟨hproduct, hsupplier⟩, hfits⟩
      rw [hsubtotal, lift_ok, pure_bind]
      exact ⟨_, OrdersDb.insertItem_of_not_fits fun hitem => hproduct hitem.2.1⟩
    · have hsubtotal : DecimalField.ofCents 12 (lineCents item.quantity item.charged) =
          .error .invalidOperation := DecimalField.ofCents_of_not_fits hfits
      rw [hsubtotal]
      exact ⟨_, rfl⟩
  · rw [bind_of_error (OrdersDb.fetchSupplier_of_not_isSome hsupplier)]
    exact ⟨_, rfl⟩

/-- The loop on items that can all be stored. -/
lemma createItems_of_fits {items : List ItemData} (horder : (db.orders.lookup order).isSome)
    (hfits : ∀ item ∈ items, item.KeysThere db ∧ FitsTotal item.cents) (total : ℤ) :
    ∃ db', createItems order items total db = (.ok (total + totalCents items), db') ∧
      SameBut order db db' ∧ db'.orders = db.orders ∧
      (db'.itemsOf order).map OrderItem.columns =
        (db.itemsOf order).map OrderItem.columns ++ items.map (ItemData.columns order) := by
  induction items generalizing total db with
  | nil => exact ⟨db, by simp [createItems, totalCents], SameBut.refl order db, rfl, by simp⟩
  | cons item items ih =>
      obtain ⟨hkeys, hhead⟩ := hfits item List.mem_cons_self
      obtain ⟨row, h, hcreate, hrow⟩ := create_item_of_fits horder hkeys hhead
      have hroworder : row.order = order := congrArg Prod.fst hrow
      have horder' : ((db.addItem row h).orders.lookup order).isSome := horder
      obtain ⟨db', hloop, hsame, horders, hitems⟩ := ih horder'
        (fun i hi => hfits i (List.mem_cons_of_mem _ hi)) (total + item.cents)
      refine ⟨db', ?_, (SameBut.addItem h hroworder).trans hsame, horders, ?_⟩
      · have hstep : createItems order (item :: items) total db =
            createItems order items (total + item.cents) (db.addItem row h) := bind_of_ok hcreate
        rw [hstep, hloop, totalCents_cons, Int.add_assoc]
      · rw [hitems, OrdersDb.itemsOf_addItem, if_pos hroworder, List.map_append, List.map_cons,
          List.map_cons, hrow]
        simp

/-- The loop stops at the first item that cannot be stored. -/
lemma createItems_of_not_fits {items : List ItemData} (horder : (db.orders.lookup order).isSome)
    (hfits : ¬ ∀ item ∈ items, item.KeysThere db ∧ FitsTotal item.cents) (total : ℤ) :
    ∃ e db', createItems order items total db = (.error e, db') ∧
      SameBut order db db' ∧ db'.orders = db.orders := by
  induction items generalizing total db with
  | nil => exact absurd (by simp) hfits
  | cons item items ih =>
      by_cases hhead : item.KeysThere db ∧ FitsTotal item.cents
      · obtain ⟨row, h, hcreate, hrow⟩ := create_item_of_fits horder hhead.1 hhead.2
        have hroworder : row.order = order := congrArg Prod.fst hrow
        -- the stored item leaves the products and suppliers that the next ones need
        have htail : ¬ ∀ i ∈ items, i.KeysThere (db.addItem row h) ∧ FitsTotal i.cents := by
          intro hall
          exact hfits (List.forall_mem_cons.mpr ⟨hhead, hall⟩)
        have horder' : ((db.addItem row h).orders.lookup order).isSome := horder
        obtain ⟨e, db', hloop, hsame, horders⟩ := ih horder' htail (total + item.cents)
        refine ⟨e, db', ?_, (SameBut.addItem h hroworder).trans hsame, horders⟩
        have hstep : createItems order (item :: items) total db =
          createItems order items (total + item.cents) (db.addItem row h) := bind_of_ok hcreate
        rw [hstep, hloop]
      · obtain ⟨e, hcreate⟩ := create_item_of_not_fits hhead
        exact ⟨e, db, bind_of_error hcreate, SameBut.refl order db, rfl⟩

/-! ## The whole creation -/

variable {orderNumber : String} {now client : ℕ} {data : OrderData} {items : List ItemData}

/-- The row of the order can be stored. -/
def RowFits (db : OrdersDb) (orderNumber : String) (now client : ℕ) (data : OrderData) : Prop :=
  db.OrderFits (newOrder orderNumber now client data)

/-- A creation whose items can be stored stores the order, its items and their sum. -/
theorem create_of_storable (hitems : data.items = some items)
    (hrow : RowFits db orderNumber now client data) (hstorable : Storable db items) :
    ∃ db', create orderNumber now client data db = (.ok db.orders.nextId, db') ∧
      SameBut db.orders.nextId db db' ∧
      db'.orders.lookup db.orders.nextId =
        some { newOrder orderNumber now client data with
          totalAmount := ⟨totalCents items, hstorable.amounts.2⟩ } ∧
      (db'.itemsOf db.orders.nextId).map OrderItem.columns =
        items.map (ItemData.columns db.orders.nextId) := by
  set id := db.orders.nextId with hid
  set row := newOrder orderNumber now client data
  set db₁ := db.addOrder row hrow.1 with hdb₁
  have hfits := hstorable.amounts
  have hlookup₁ : db₁.orders.lookup id = some row := Table.lookup_insert_self _ _
  -- the order is inserted, then its items, and last its total amount is saved
  obtain ⟨db₂, hloop, hsame₂, horders₂, hcolumns⟩ := createItems_of_fits
    (Option.isSome_of_eq_some hlookup₁)
    (fun item hitem => ⟨hstorable.keys item hitem, hfits.1 item hitem⟩) 0
  have hlookup₂ : db₂.orders.lookup id = some row := by rw [horders₂, hlookup₁]
  have hfree₂ : db₂.orders.Free Order.numberKey id
      { row with totalAmount := ⟨totalCents items, hfits.2⟩ } :=
    OrdersDb.free_of_same_number hlookup₂ rfl
  have hempty : db₁.itemsOf id = [] := db.itemsOf_nextId
  rw [Int.zero_add] at hloop
  refine ⟨db₂.setOrder id _ hfree₂, ?_, ?_, ?_, ?_⟩
  · unfold create
    rw [hitems]
    simp only [Option.elim_some, lift_ok, pure_bind]
    rw [bind_of_ok (OrdersDb.insertOrder_of_fits hrow), bind_of_ok hloop,
      DecimalField.ofCents_of_fits hfits.2, lift_ok, pure_bind,
      bind_of_ok (OrdersDb.saveOrder_of_free hfree₂)]
    rfl
  · exact (SameBut.addOrder hrow.1).trans (hsame₂.trans (SameBut.setOrder hfree₂))
  · exact Table.lookup_update_self hlookup₂ _
  · rw [hempty, List.map_nil, List.nil_append] at hcolumns
    exact hcolumns

/-- A creation whose items cannot be stored raises and leaves the order behind. -/
theorem create_of_not_storable (hitems : data.items = some items)
    (hrow : RowFits db orderNumber now client data) (hstorable : ¬ Storable db items) :
    ∃ e db', create orderNumber now client data db = (.error e, db') ∧
      SameBut db.orders.nextId db db' ∧ db'.orders.nextId = db.orders.nextId + 1 ∧
      db'.orders.lookup db.orders.nextId = some (newOrder orderNumber now client data) := by
  set id := db.orders.nextId with hid
  set row := newOrder orderNumber now client data
  set db₁ := db.addOrder row hrow.1 with hdb₁
  have hlookup₁ : db₁.orders.lookup id = some row := Table.lookup_insert_self _ _
  -- the row of the order is inserted before the loop starts
  have hstart : create orderNumber now client data db =
      (createItems id items 0 >>= fun total => do
        let totalAmount ← lift (DecimalField.ofCents 12 total)
        OrdersDb.saveOrder id { row with totalAmount }
        return id : Tx OrdersDb PyErr ℕ) db₁ := by
    unfold create
    rw [hitems]
    simp only [Option.elim_some, lift_ok, pure_bind]
    rw [bind_of_ok (OrdersDb.insertOrder_of_fits hrow)]
  by_cases hall : ∀ item ∈ items, item.KeysThere db₁ ∧ FitsTotal item.cents
  · -- every item is stored, and their sum does not fit
    have htotal : ¬ FitsTotal (totalCents items) := fun h =>
      hstorable ⟨fun item hitem => (hall item hitem).1, fun item hitem => (hall item hitem).2, h⟩
    obtain ⟨db₂, hloop, hsame₂, horders₂, -⟩ := createItems_of_fits
      (Option.isSome_of_eq_some hlookup₁) hall 0
    rw [Int.zero_add] at hloop
    refine ⟨.invalidOperation, db₂, ?_, (SameBut.addOrder hrow.1).trans hsame₂,
      by rw [horders₂]; rfl,
      by rw [horders₂, hlookup₁]⟩
    rw [hstart, bind_of_ok hloop, DecimalField.ofCents_of_not_fits htotal]
    rfl
  · -- an item is not stored, and the loop raises there
    obtain ⟨e, db₂, hloop, hsame₂, horders₂⟩ := createItems_of_not_fits
      (Option.isSome_of_eq_some hlookup₁) hall 0
    refine ⟨e, db₂, ?_, (SameBut.addOrder hrow.1).trans hsame₂, by rw [horders₂]; rfl,
      by rw [horders₂, hlookup₁]⟩
    rw [hstart, bind_of_error hloop]

lemma create_of_no_items (hitems : data.items = none) :
    create orderNumber now client data db = (.error .keyError, db) := by
  unfold create
  rw [hitems]
  rfl

lemma create_of_row_refused (hitems : data.items = some items)
    (hrow : ¬ RowFits db orderNumber now client data) :
    create orderNumber now client data db = (.error .integrityError, db) := by
  unfold create
  rw [hitems]
  simp only [Option.elim_some, lift_ok, pure_bind]
  exact bind_of_error (OrdersDb.insertOrder_of_not_fits hrow)

/-- What a creation can do: be refused before it writes, store the whole order, or stop after
the order row. -/
lemma create_cases (db : OrdersDb) (orderNumber : String) (now client : ℕ) (data : OrderData) :
    (∃ e, create orderNumber now client data db = (.error e, db) ∧
      (data.items = none ∨ ¬ RowFits db orderNumber now client data)) ∨
    ∃ items, data.items = some items ∧ RowFits db orderNumber now client data ∧
      ((Storable db items ∧ ∃ db', create orderNumber now client data db =
        (.ok db.orders.nextId, db') ∧ SameBut db.orders.nextId db db') ∨
      (¬ Storable db items ∧ ∃ e db', create orderNumber now client data db =
        (.error e, db') ∧ SameBut db.orders.nextId db db' ∧
          db'.orders.nextId = db.orders.nextId + 1)) := by
  rcases hitems : data.items with _ | items
  · exact .inl ⟨.keyError, create_of_no_items hitems, .inl rfl⟩
  · by_cases hrow : RowFits db orderNumber now client data
    · refine .inr ⟨items, rfl, hrow, ?_⟩
      by_cases hstorable : Storable db items
      · obtain ⟨db', hcreate, hsame, -⟩ := create_of_storable hitems hrow hstorable
        exact .inl ⟨hstorable, db', hcreate, hsame⟩
      · obtain ⟨e, db', hcreate, hsame, hid, -⟩ := create_of_not_storable hitems hrow hstorable
        exact .inr ⟨hstorable, e, db', hcreate, hsame, hid⟩
    · exact .inl ⟨.integrityError, create_of_row_refused hitems hrow, .inr hrow⟩

/-- A creation changes the new order at most, also when it raises. -/
lemma sameBut_create (db : OrdersDb) (orderNumber : String) (now client : ℕ) (data : OrderData) :
    SameBut db.orders.nextId db (create orderNumber now client data db).2 := by
  rcases create_cases db orderNumber now client data with
    ⟨e, hcreate, -⟩ | ⟨items, -, -, ⟨-, db', hcreate, hsame⟩ | ⟨-, e, db', hcreate, hsame, -⟩⟩
  · rw [hcreate]
    exact SameBut.refl _ db
  · rw [hcreate]
    exact hsame
  · rw [hcreate]
    exact hsame

/-- The row a creation leaves, whether it returns or raises, carries what the request gave; it
is not confirmed at any time. -/
lemma lookup_create (hitems : data.items = some items)
    (hrow : RowFits db orderNumber now client data) :
    ∃ order, (create orderNumber now client data db).2.orders.lookup db.orders.nextId =
        some order ∧
      order.client = client ∧ order.status = data.status.getD .pending ∧
      order.confirmedAt = none := by
  by_cases hstorable : Storable db items
  · obtain ⟨db', hcreate, -, hlookup, -⟩ := create_of_storable hitems hrow hstorable
    rw [hcreate]
    exact ⟨_, hlookup, rfl, rfl, rfl⟩
  · obtain ⟨e, db', hcreate, -, -, hlookup⟩ := create_of_not_storable hitems hrow hstorable
    rw [hcreate]
    exact ⟨_, hlookup, rfl, rfl, rfl⟩

/-- A creation that returns had items that can be stored. -/
lemma storable_of_create {db : OrdersDb} {id : ℕ}
    (h : (create orderNumber now client data db).1 = .ok id) :
    ∃ items, data.items = some items ∧ RowFits db orderNumber now client data ∧
      Storable db items := by
  rcases create_cases db orderNumber now client data with
    ⟨e, hcreate, -⟩ | ⟨items, hitems, hrow, ⟨hstorable, -⟩ | ⟨-, e, db', hcreate, -⟩⟩
  · rw [hcreate] at h
    cases h
  · exact ⟨items, hitems, hrow, hstorable⟩
  · rw [hcreate] at h
    cases h

/-! ## Is creation all or nothing? -/

/-- When the creation raises, the orders and the items are what they were. -/
def NothingLeft (db : OrdersDb) (result : Except PyErr ℕ × OrdersDb) : Prop :=
  ∀ e, result.1 = .error e → result.2.orders = db.orders ∧ result.2.items = db.items

/-- Another order has the number. -/
def NumberTaken (db : OrdersDb) (orderNumber : String) : Prop :=
  ∃ r ∈ db.orders.rows, r.2.orderNumber = orderNumber

lemma rowFits_iff (db : OrdersDb) (orderNumber : String) (now client : ℕ) (data : OrderData) :
    RowFits db orderNumber now client data ↔
      ¬ NumberTaken db orderNumber ∧ (db.accounts.users.lookup client).isSome := by
  refine and_congr ⟨?_, ?_⟩ Iff.rfl
  · rintro hfree ⟨r, hr, hnumber⟩
    have hne : r.1 ≠ db.orders.nextId := by
      have hlt := (db.orders.ids r hr).2
      omega
    exact hfree r hr hne rfl (congrArg some hnumber)
  · intro h r hr _ _ heq
    exact h ⟨r, hr, Option.some.inj heq⟩

/-- **When a creation is all or nothing.**  A creation that raises leaves nothing behind
exactly when it cannot raise after its first write: it has no items, its number is taken, its
client is not there, or the products and suppliers of its items are there and all its amounts
fit. -/
theorem nothingLeft_create_iff (orderNumber : String) (now client : ℕ) (data : OrderData)
    (db : OrdersDb) :
    NothingLeft db (create orderNumber now client data db) ↔
      NumberTaken db orderNumber ∨ (db.accounts.users.lookup client).isNone ∨
        ∀ items, data.items = some items →
          (∀ item ∈ items, item.KeysThere db) ∧ AmountsFit items := by
  have hrow_iff := rowFits_iff db orderNumber now client data
  rcases create_cases db orderNumber now client data with ⟨e, hcreate, hrefused⟩ |
    ⟨items, hitems, hrow, ⟨hstorable, db', hcreate, -⟩ | ⟨hstorable, e, db', hcreate, -, hid⟩⟩
  · -- the first write raises, or none is made
    rw [hcreate]
    refine ⟨fun _ => ?_, fun _ e _ => ⟨rfl, rfl⟩⟩
    rcases hrefused with hnone | hrow
    · refine .inr (.inr fun items hitems => ?_)
      rw [hnone] at hitems
      cases hitems
    · rw [hrow_iff, not_and_or, not_not, Option.not_isSome_iff_eq_none,
        ← Option.isNone_iff_eq_none] at hrow
      exact hrow.imp_right .inl
  · rw [hcreate]
    constructor
    · intro _
      refine .inr (.inr fun items' hitems' => ?_)
      rw [hitems] at hitems'
      cases hitems'
      exact ⟨hstorable.keys, hstorable.amounts⟩
    · intro _ e he
      cases he
  · -- the order is stored, and a later write raises
    obtain ⟨hnumber, hclient⟩ := hrow_iff.mp hrow
    have hthere : ¬ (db.accounts.users.lookup client).isNone := by
      rw [Option.isNone_iff_eq_none]
      exact Option.isSome_iff_ne_none.mp hclient
    rw [hcreate, or_iff_right hnumber, or_iff_right hthere]
    constructor
    · intro h
      have horders : db'.orders = db.orders := (h _ rfl).1
      rw [horders] at hid
      omega
    · intro h
      exact absurd ⟨(h items hitems).1, (h items hitems).2⟩ hstorable

open OrderViewSet in
/-- A request for two hundred of the dear product passes the validation; its subtotal does not
fit, and the order stays without items. -/
theorem not_nothingLeft_create :
    ∃ data, validate shop false
        ⟨some 1, none, some "Moscow", some "123", none,
          some [⟨some 1, some 2, some 1, some 200, some press.price⟩]⟩ = .ok data ∧
      ¬ NothingLeft shop (create "ORD2" 5 1 data shop) := by
  refine ⟨⟨some 1, none, some "Moscow", some "123", none,
    some [⟨2, press, 200, some press.price, by decide, by decide⟩]⟩, by decide +kernel, ?_⟩
  intro h
  have hraises : (create "ORD2" 5 1 ⟨some 1, none, some "Moscow", some "123", none,
      some [⟨2, press, 200, some press.price, by decide, by decide⟩]⟩ shop).1 =
      .error .invalidOperation := by decide +kernel
  have hid : (create "ORD2" 5 1 ⟨some 1, none, some "Moscow", some "123", none,
      some [⟨2, press, 200, some press.price, by decide, by decide⟩]⟩
      shop).2.orders.nextId = 3 := by
    decide +kernel
  rw [(h _ hraises).1] at hid
  exact absurd hid (by decide +kernel)

end OrderSerializer

end OrdersBackend
