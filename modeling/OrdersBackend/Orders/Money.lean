import OrdersBackend.Orders.Requests

/-!
# The amounts of an order agree

Three pieces of code compute what an order costs: the loop of `create`, the subtotal of
`OrderItem.save`, and `calculate_total`.  `AmountsAgree` is the invariant that ties them
together.  A creation that returns establishes it, and every later event keeps it: the
requests save rows with the amount they have read, the items are never written again, and no
amount depends on the products.
-/

namespace OrdersBackend

open Framework Tx

namespace OrderViewSet

/-- The order `id` is there; each of its items has the product of its quantity and its price
as subtotal, and its amount is the sum of the subtotals. -/
structure AmountsAgree (db : OrdersDb) (id : ℕ) (order : Order) : Prop where
  lookup : db.orders.lookup id = some order
  subtotals : ∀ item ∈ db.itemsOf id, item.subtotal.cents = lineCents item.quantity item.price
  total : order.totalAmount.cents = ((db.itemsOf id).map fun item => item.subtotal.cents).sum

/-! ## `calculate_total` -/

/-- Calculating the amount again writes the row that is there. -/
lemma calculateTotal_of_agree {db : OrdersDb} {id : ℕ} {order : Order}
    (h : AmountsAgree db id order) :
    ∃ db', Order.calculateTotal id order db = (.ok (), db') ∧
      db'.orders.lookup id = some order := by
  have hlines : ((db.itemsOf id).map fun item => lineCents item.quantity item.price).sum =
      order.totalAmount.cents := by
    rw [h.total]
    exact congrArg List.sum (List.map_congr_left fun item hitem => (h.subtotals item hitem).symm)
  have hfree : db.orders.Free Order.numberKey id order :=
    OrdersDb.free_of_same_number h.lookup rfl
  refine ⟨db.setOrder id order hfree, ?_, Table.lookup_update_self h.lookup order⟩
  unfold Order.calculateTotal
  rw [bind_of_ok (get_apply db), hlines, DecimalField.ofCents_cents, lift_ok, pure_bind]
  exact OrdersDb.saveOrder_of_free hfree

/-! ## The invariant -/

/-- A creation that returns makes the amounts agree. -/
lemma amountsAgree_create {orderNumber : String} {now client : ℕ} {data : OrderData}
    {db db₁ : OrdersDb} {id : ℕ}
    (h : OrderSerializer.create orderNumber now client data db = (.ok id, db₁)) :
    ∃ order, AmountsAgree db₁ id order := by
  obtain ⟨items, hitems, hrow, hstorable⟩ :=
    OrderSerializer.storable_of_create (congrArg Prod.fst h)
  obtain ⟨db', hcreate, -, hlookup, hcolumns⟩ :=
    OrderSerializer.create_of_storable hitems hrow hstorable
  rw [hcreate] at h
  obtain ⟨hid, rfl⟩ := Prod.mk.inj h
  cases hid
  refine ⟨_, hlookup, fun item hitem => ?_, ?_⟩
  · have hmem : item.columns ∈ items.map (ItemData.columns db.orders.nextId) := by
      rw [← hcolumns]
      exact List.mem_map_of_mem hitem
    obtain ⟨d, -, heq⟩ := List.mem_map.mp hmem
    simp only [OrderItem.columns, ItemData.columns, Prod.mk.injEq] at heq
    obtain ⟨-, -, -, hquantity, hprice, hsubtotal⟩ := heq
    rw [← hsubtotal, ← hquantity, ← hprice]
    rfl
  · have hcents := congrArg (List.map fun c => c.2.2.2.2.2) hcolumns
    simp only [List.map_map] at hcents
    exact congrArg List.sum hcents.symm

/-- No change of an order touches its amount. -/
lemma totalAmount_of_change {event : OrderEvent} {db : OrdersDb} {id : ℕ} {order order' : Order}
    (h : Change db id order event order') : order'.totalAmount = order.totalAmount := by
  cases h <;> rfl

lemma amountsAgree_exec {db : OrdersDb} {id : ℕ} (event : OrderEvent)
    (h : ∃ order, AmountsAgree db id order) : ∃ order, AmountsAgree (exec event db) id order := by
  obtain ⟨order, hagree⟩ := h
  obtain ⟨hitems, order', hlookup, hchange⟩ := exec_evolves hagree.lookup event
  refine ⟨order', hlookup, ?_, ?_⟩
  · rw [hitems]
    exact hagree.subtotals
  · rw [hitems, totalAmount_of_change hchange]
    exact hagree.total

/-- **The amounts of an order agree** from its creation on, whatever requests follow and
however the products change: subtotals, total, and what `calculate_total` makes of them. -/
theorem amountsAgree_run {orderNumber : String} {now client : ℕ} {data : OrderData}
    {db db₁ : OrdersDb} {id : ℕ}
    (h : OrderSerializer.create orderNumber now client data db = (.ok id, db₁))
    (events : List OrderEvent) :
    ∃ order, AmountsAgree (run exec db₁ events) id order ∧
      ∃ db', Order.calculateTotal id order (run exec db₁ events) = (.ok (), db') ∧
        db'.orders.lookup id = some order := by
  have hinvariant : ∃ order, AmountsAgree (run exec db₁ events) id order :=
    run_invariant' (I := fun db => ∃ order, AmountsAgree db id order)
      (fun _ event hagree => amountsAgree_exec event hagree) events (amountsAgree_create h)
  obtain ⟨order, hagree⟩ := hinvariant
  exact ⟨order, hagree, calculateTotal_of_agree hagree⟩

/-- The data of an order for three cups at a price of the client's own. -/
def threeCups : OrderData :=
  ⟨some 1, none, some "Moscow", some "123", none,
    some [⟨1, cup, 3, some ⟨450, by decide⟩, by decide, by decide⟩]⟩

/-- The order is created, the products go, and the supplier confirms it. -/
theorem amountsAgree_run_threeCups :
    ∃ order, AmountsAgree (run exec (OrderSerializer.create "ORD2" 5 1 threeCups shop).2
        [.products Table.empty, .confirm 2 2 9, .cancel 1 2]) 2 order ∧
      ∃ db', Order.calculateTotal 2 order
          (run exec (OrderSerializer.create "ORD2" 5 1 threeCups shop).2
            [.products Table.empty, .confirm 2 2 9, .cancel 1 2]) = (.ok (), db') ∧
        db'.orders.lookup 2 = some order := by
  have hcreated : (OrderSerializer.create "ORD2" 5 1 threeCups shop).1 = .ok 2 := by
    decide +kernel
  exact amountsAgree_run (Prod.ext hcreated rfl)
    [.products Table.empty, .confirm 2 2 9, .cancel 1 2]

end OrderViewSet

end OrdersBackend
