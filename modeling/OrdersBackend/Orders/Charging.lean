import OrdersBackend.Orders.Creation

/-!
# What an order charges

The price of an item is a field of the request, and a required one: `OrderItemSerializer` lists
only the subtotal and the two names as read-only.  So the price of the product, which `create`
falls back to, is never taken, and an accepted request is charged what it asks for.

The route: the loop of the validation pairs every item of the request with the data that are
stored (`Checked`), the creation stores these data, and reading both ends off gives
`chargesCatalogue_iff`.
-/

namespace OrdersBackend

open Framework Tx

/-! ## The amounts of the catalogue -/

/-- What the catalogue charges for a quantity of a product; nothing when it does not have it. -/
def catalogueCents (products : Table (Product Price)) (product quantity : ℕ) : ℤ :=
  (products.lookup product).elim 0 fun row => lineCents quantity row.price

lemma catalogueCents_of_lookup {products : Table (Product Price)} {product : ℕ}
    {row : Product Price}
    (h : products.lookup product = some row) (quantity : ℕ) :
    catalogueCents products product quantity = lineCents quantity row.price := by
  rw [catalogueCents, h, Option.elim_some]

/-- The items of the order `id` have the prices of the catalogue; its amount is what the
catalogue charges for them, and it is positive. -/
structure ChargesCatalogue (products : Table (Product Price)) (db : OrdersDb) (id : ℕ) : Prop where
  prices : ∀ item ∈ db.itemsOf id, ∃ row, products.lookup item.product = some row ∧
    item.price = row.price
  amount : ∃ order, db.orders.lookup id = some order ∧ order.totalAmount.cents =
    ((db.itemsOf id).map fun item => catalogueCents products item.product item.quantity).sum ∧
    0 < order.totalAmount.cents

/-- What the catalogue charges for an item of a request. -/
def ItemBody.catalogueCents (products : Table (Product Price)) (item : ItemBody) : ℤ :=
  OrdersBackend.catalogueCents products (item.product.getD 0) (item.quantity.getD 0)

/-- The request names the prices of the catalogue, and asks for something that is not free. -/
structure AsksCatalogue (products : Table (Product Price)) (items : List ItemBody) : Prop where
  prices : ∀ item ∈ items, item.price = (item.product.bind products.lookup).map (·.price)
  amount : 0 < (items.map (ItemBody.catalogueCents products)).sum

namespace OrderSerializer

variable {db : OrdersDb}

/-! ## The validated items -/

/-- An item of an accepted request is stored with the values it came with. -/
structure Checked (db : OrdersDb) (item : ItemBody) (data : ItemData) : Prop where
  product : item.product = some data.productId
  row : db.products.lookup data.productId = some data.product
  quantity : item.quantity = some data.quantity
  price : item.price = some data.charged

lemma errors_of_mem {items : List ItemBody}
    (h : (items.zipIdx.map fun item => itemErrors db false item.2 item.1).flatten = [])
    {item : ItemBody} (hitem : item ∈ items) : ∃ index, itemErrors db false index item = [] := by
  obtain ⟨index, hindex⟩ := List.getElem?_of_mem hitem
  have hmem : (item, index) ∈ items.zipIdx := List.mk_mem_zipIdx_iff_getElem?.mpr hindex
  exact ⟨index, List.flatten_eq_nil_iff.mp h _ (List.mem_map_of_mem hmem)⟩

/-- The field errors of a request that is not partial cover the price. -/
lemma price_of_no_errors {items : List ItemBody}
    (h : (items.zipIdx.map fun item => itemErrors db false item.2 item.1).flatten = []) :
    ∀ item ∈ items, item.price.isSome := by
  intro item hitem
  obtain ⟨index, hnone⟩ := errors_of_mem h hitem
  rcases hprice : item.price with _ | price
  · simp [itemErrors, requiredErrors, hprice] at hnone
  · rfl

/-- They cover the order, which has to be there. -/
lemma order_of_no_errors {items : List ItemBody}
    (h : (items.zipIdx.map fun item => itemErrors db false item.2 item.1).flatten = []) :
    ∀ item ∈ items, ∃ id, item.order = some id ∧ (db.orders.lookup id).isSome := by
  intro item hitem
  obtain ⟨index, hnone⟩ := errors_of_mem h hitem
  unfold itemErrors at hnone
  simp only [List.append_eq_nil_iff] at hnone
  obtain ⟨⟨⟨⟨hkey, -⟩, -⟩, -⟩, -⟩ := hnone
  rcases horder : item.order with _ | id
  · rw [horder] at hkey
    cases hkey
  · rw [horder] at hkey
    refine ⟨id, rfl, ?_⟩
    by_contra hmissing
    unfold keyErrors at hkey
    simp only [if_neg hmissing] at hkey
    cases hkey

lemma checked_of_loop {items : List ItemBody} {data : List ItemData}
    (hprices : ∀ item ∈ items, item.price.isSome) (h : validateItemLoop db items = .ok data) :
    List.Forall₂ (Checked db) items data := by
  induction items generalizing data with
  | nil =>
      have hdata : [] = data := Except.ok.inj h
      rw [← hdata]
      exact .nil
  | cons item items ih =>
      obtain ⟨hprice, hprices⟩ := List.forall_mem_cons.mp hprices
      unfold validateItemLoop at h
      rcases hfound : item.product.bind fun id => (db.products.lookup id).map (Prod.mk id) with
        _ | ⟨id, product⟩
      · simp only [hfound] at h
        cases h
      · simp only [hfound] at h
        obtain ⟨id', hproduct, hmap⟩ := Option.bind_eq_some_iff.mp hfound
        obtain ⟨row, hrow, hpair⟩ := Option.map_eq_some_iff.mp hmap
        obtain ⟨rfl, rfl⟩ := Prod.mk.inj hpair
        by_cases hpos : item.quantity.getD 0 = 0
        · rw [dif_pos hpos] at h
          cases h
        · rw [dif_neg hpos] at h
          by_cases hstock : row.stockQuantity < item.quantity.getD 0
          · rw [dif_pos hstock] at h
            cases h
          · rw [dif_neg hstock] at h
            obtain ⟨rest, hrest, hdata⟩ := except_bind_eq_ok.mp h
            -- a quantity that is not zero was given
            have hquantity : item.quantity = some (item.quantity.getD 0) := by
              rcases hq : item.quantity with _ | quantity
              · rw [hq] at hpos
                exact absurd rfl hpos
              · rfl
            -- the price is there, so the fallback to the price of the product is not taken
            obtain ⟨price, hprice⟩ := Option.isSome_iff_exists.mp hprice
            have hcharged : item.price = some (item.price.getD row.price) := by
              rw [hprice, Option.getD_some]
            rw [← Except.ok.inj hdata]
            exact .cons ⟨hproduct, hrow, hquantity, hcharged⟩ (ih hprices hrest)

/-- What an accepted request has passed: it has items, their fields have no errors, and the loop
has returned what is stored. -/
lemma loop_of_validate {body : OrderBody} {data : OrderData}
    (h : validate db false body = .ok data) :
    ∃ items ds, body.items = some items ∧ data.items = some ds ∧ items ≠ [] ∧
      (items.zipIdx.map fun item => itemErrors db false item.2 item.1).flatten = [] ∧
      validateItemLoop db items = .ok ds := by
  unfold validate at h
  rcases hfield : validateItemsField db false body.items with errors | validated
  · simp only [hfield] at h
    cases h
  · simp only [hfield] at h
    have hitems : data.items = validated := by
      split at h
      · cases h
      · rw [← Except.ok.inj h]
    -- the nested serializer has run before `validate_items`
    unfold validateItemsField at hfield
    rcases hbody : body.items with _ | items
    · simp [hbody] at hfield
    · simp only [hbody] at hfield
      obtain ⟨ds, hnested, hds⟩ := except_bind_eq_ok.mp hfield
      refine ⟨items, ds, rfl, hitems.trans (Except.ok.inj hds).symm, ?_⟩
      unfold validateNested validateItems at hnested
      simp only [ne_eq, ite_not] at hnested
      split at hnested
      next herrors =>
        split at hnested
        next ds' hloop =>
          split at hloop
          · cases hloop
          · next hnonempty =>
            rw [Except.ok.inj hnested] at hloop
            exact ⟨fun hnil => hnonempty (List.isEmpty_iff.mpr hnil), herrors, hloop⟩
        next => cases hnested
      next => cases hnested

/-- Every item of an accepted request is stored with the values it came with. -/
lemma checked_of_validate {body : OrderBody} {data : OrderData}
    (h : validate db false body = .ok data) :
    ∃ items ds, body.items = some items ∧ data.items = some ds ∧
      List.Forall₂ (Checked db) items ds := by
  obtain ⟨items, ds, hitems, hds, -, herrors, hloop⟩ := loop_of_validate h
  exact ⟨items, ds, hitems, hds, checked_of_loop (price_of_no_errors herrors) hloop⟩

/-! ## Reading the two ends off -/

section

variable {items : List ItemBody} {ds : List ItemData} (h : List.Forall₂ (Checked db) items ds)

include h

/-- The request names the prices of the catalogue when the stored data do. -/
lemma prices_iff :
    (∀ item ∈ items, item.price = (item.product.bind db.products.lookup).map (·.price)) ↔
      ∀ d ∈ ds, d.charged = d.product.price := by
  induction h with
  | nil => simp
  | cons hitem _ ih =>
      rw [List.forall_mem_cons, List.forall_mem_cons, ih, hitem.price, hitem.product,
        Option.bind_some, hitem.row, Option.map_some, Option.some.injEq]

/-- What the catalogue charges for the request is what it charges for the stored data. -/
lemma map_catalogueCents : items.map (ItemBody.catalogueCents db.products) =
    ds.map fun d => lineCents d.quantity d.product.price := by
  induction h with
  | nil => rfl
  | cons hitem _ ih =>
      rw [List.map_cons, List.map_cons, ih, ItemBody.catalogueCents, hitem.product,
        hitem.quantity, Option.getD_some, Option.getD_some, catalogueCents_of_lookup hitem.row]

lemma row_of_mem {d : ItemData} (hd : d ∈ ds) :
    db.products.lookup d.productId = some d.product := by
  induction h with
  | nil => cases hd
  | cons hitem _ ih =>
      rcases List.mem_cons.mp hd with rfl | hd
      · exact hitem.row
      · exact ih hd

end

/-! ## The stored items -/

section

variable {id : ℕ} {ds : List ItemData} {stored : List OrderItem}
  (hrows : ∀ d ∈ ds, db.products.lookup d.productId = some d.product)
  (hcolumns : stored.map OrderItem.columns = ds.map (ItemData.columns id))

include hrows hcolumns

/-- The stored items have the prices of the catalogue when the data do. -/
lemma stored_prices_iff :
    (∀ item ∈ stored, ∃ row, db.products.lookup item.product = some row ∧
      item.price = row.price) ↔ ∀ d ∈ ds, d.charged = d.product.price := by
  let Q : ℕ × ℕ × ℕ × ℕ × DecimalField 10 × ℤ → Prop := fun columns =>
    ∃ row, db.products.lookup columns.2.1 = some row ∧ columns.2.2.2.2.1 = row.price
  have hstored : (∀ item ∈ stored, Q item.columns) ↔ ∀ d ∈ ds, Q (d.columns id) := by
    rw [← List.forall_mem_map, hcolumns, List.forall_mem_map]
  refine hstored.trans (forall₂_congr fun d hd => ?_)
  constructor
  · rintro ⟨row, hrow, hprice⟩
    have hsame : d.product = row := Option.some.inj ((hrows d hd).symm.trans hrow)
    rw [hsame]
    exact hprice
  · exact fun hprice => ⟨d.product, hrows d hd, hprice⟩

/-- What the catalogue charges for the stored items is what it charges for the data. -/
lemma stored_catalogueCents :
    stored.map (fun item => catalogueCents db.products item.product item.quantity) =
      ds.map fun d => lineCents d.quantity d.product.price := by
  have hstored := congrArg (List.map fun columns => catalogueCents db.products columns.2.1
    columns.2.2.2.1) hcolumns
  rw [List.map_map, List.map_map] at hstored
  refine hstored.trans (List.map_congr_left fun d hd => ?_)
  exact catalogueCents_of_lookup (hrows d hd) d.quantity

end

end OrderSerializer

namespace OrderViewSet

open OrderSerializer

variable {user : ℕ} {body : OrderBody} {orderNumber : String} {now id : ℕ} {db db' : OrdersDb}

/-- An accepted request was valid, and its creation returned. -/
lemma create_of_created (h : createOrder user body orderNumber now db = (.ok (.created id), db')) :
    ∃ data, validate db false body = .ok data ∧
      OrderSerializer.create orderNumber now user data db = (.ok id, db') := by
  unfold createOrder at h
  rw [bind_of_ok (get_apply db)] at h
  by_cases huser : (db.accounts.users.lookup user).isNone
  · rw [if_pos huser] at h
    cases h
  · rw [if_neg huser] at h
    rcases hvalid : validate db false body with errors | data
    · rw [hvalid] at h
      cases h
    · rw [hvalid] at h
      dsimp only at h
      rcases hcreate : OrderSerializer.create orderNumber now user data db with ⟨e | new, db₁⟩
      · rw [bind_of_error hcreate] at h
        cases h
      · rw [bind_of_ok hcreate] at h
        cases h
        exact ⟨data, rfl, hcreate⟩

/-- What an accepted request stores: its items as they were checked, and their amount. -/
lemma stored_of_created (h : createOrder user body orderNumber now db = (.ok (.created id), db')) :
    ∃ items ds, body.items = some items ∧ List.Forall₂ (Checked db) items ds ∧
      (db'.itemsOf id).map OrderItem.columns = ds.map (ItemData.columns id) ∧
      ∃ order, db'.orders.lookup id = some order ∧ order.totalAmount.cents = totalCents ds := by
  obtain ⟨data, hvalid, hcreate⟩ := create_of_created h
  obtain ⟨items, ds, hitems, hds, hchecked⟩ := checked_of_validate hvalid
  obtain ⟨ds', hds', hrow, hstorable⟩ := storable_of_create (congrArg Prod.fst hcreate)
  rw [hds] at hds'
  cases hds'
  obtain ⟨db₁, hcreate₁, -, hlookup, hcolumns⟩ := create_of_storable hds hrow hstorable
  rw [hcreate₁] at hcreate
  cases hcreate
  exact ⟨items, ds, hitems, hchecked, hcolumns, _, hlookup, rfl⟩

/-- **When a buyer is charged the catalogue.**  An accepted request is charged the prices of
the catalogue, and a positive amount, exactly when it names these prices itself and what it
orders is not free. -/
theorem chargesCatalogue_iff
    (h : createOrder user body orderNumber now db = (.ok (.created id), db')) :
    ChargesCatalogue db.products db' id ↔ AsksCatalogue db.products (body.items.getD []) := by
  obtain ⟨items, ds, hitems, hchecked, hcolumns, order, hlookup, hamount⟩ := stored_of_created h
  have hrows : ∀ d ∈ ds, db.products.lookup d.productId = some d.product := fun _ hd =>
    row_of_mem hchecked hd
  -- the stored items are those of the request, with the products that were checked
  have hprices := prices_iff hchecked
  have hcents := map_catalogueCents hchecked
  have hstoredPrices := stored_prices_iff hrows hcolumns
  have hstoredCents := stored_catalogueCents hrows hcolumns
  rw [hitems, Option.getD_some]
  constructor
  · rintro ⟨hcharged, order', hlookup', hsum, hpos⟩
    refine ⟨hprices.mpr (hstoredPrices.mp hcharged), ?_⟩
    rw [hcents, ← hstoredCents, ← hsum]
    exact hpos
  · rintro ⟨hasked, hpos⟩
    have hcharged := hprices.mp hasked
    have htotal : order.totalAmount.cents =
        ((db'.itemsOf id).map fun item =>
          catalogueCents db.products item.product item.quantity).sum := by
      rw [hamount, hstoredCents]
      refine congrArg List.sum (List.map_congr_left fun d hd => ?_)
      rw [ItemData.cents, hcharged d hd]
    refine ⟨hstoredPrices.mpr hcharged, order, hlookup, htotal, ?_⟩
    rw [htotal, hstoredCents, ← hcents]
    exact hpos

/-- A request for two cups at the given price. -/
def twoCups (price : DecimalField 10) : OrderBody :=
  ⟨some 1, none, some "Moscow", some "123", none,
    some [⟨some 1, some 1, some 1, some 2, some price⟩]⟩

/-- At the price of the catalogue the cups are charged as they should. -/
theorem chargesCatalogue_twoCups : ChargesCatalogue shop.products
    (createOrder 1 (twoCups cup.price) "ORD2" 5 shop).2 2 := by
  have hcreated : (createOrder 1 (twoCups cup.price) "ORD2" 5 shop).1 = .ok (.created 2) := by
    decide +kernel
  refine (chargesCatalogue_iff (Prod.ext hcreated rfl)).mpr ⟨?_, by decide +kernel⟩
  intro item hitem
  rw [List.mem_singleton.mp hitem]
  decide +kernel

/-- The buyer asks for the price of one kopeck, and is charged two. -/
theorem not_chargesCatalogue_twoCups :
    (createOrder 1 (twoCups ⟨1, by decide⟩) "ORD2" 5 shop).1 = .ok (.created 2) ∧
      ¬ ChargesCatalogue shop.products
        (createOrder 1 (twoCups ⟨1, by decide⟩) "ORD2" 5 shop).2 2 := by
  refine ⟨by decide +kernel, ?_⟩
  rintro ⟨-, order, hlookup, hsum, -⟩
  have hcharged : ((createOrder 1 (twoCups ⟨1, by decide⟩) "ORD2" 5 shop).2.orders.lookup 2).map
      (·.totalAmount.cents) = some 2 := by decide +kernel
  have hcatalogue : (((createOrder 1 (twoCups ⟨1, by decide⟩) "ORD2" 5 shop).2.itemsOf 2).map
      fun item => catalogueCents shop.products item.product item.quantity).sum = 1000 := by
    decide +kernel
  rw [hlookup, Option.map_some, hsum, hcatalogue] at hcharged
  exact absurd hcharged (by decide)

end OrderViewSet

end OrdersBackend
