import OrdersBackend.Orders.Creation

/-!
# What is in stock

`validate_items` compares the quantity of each item with the stock, one item at a time.  A
product that is named by several items may be ordered beyond its stock, each item within it.

The route: the loop accepts a list exactly when it accepts every item, and hands the products
and quantities of the request on (`validateItems_cases`).  What a product is ordered of in total
is then at stake only where items share it (`withinStock_iff`).
-/

namespace OrdersBackend

open Framework Tx

/-- What a list of products and quantities asks of one product. -/
def askedOf (product : ℕ) (lines : List (Option ℕ × ℕ)) : ℕ :=
  ((lines.filter fun line => line.1 = some product).map Prod.snd).sum

/-- The product and the quantity of an item of a request; no quantity counts as zero. -/
def ItemBody.line (item : ItemBody) : Option ℕ × ℕ := (item.product, item.quantity.getD 0)

def ItemData.line (data : ItemData) : Option ℕ × ℕ := (some data.productId, data.quantity)

def OrderItem.line (item : OrderItem) : Option ℕ × ℕ := (some item.product, item.quantity)

/-- The items ask no more of any product than there is in stock. -/
def WithinStock (db : OrdersDb) (lines : List (Option ℕ × ℕ)) : Prop :=
  ∀ product row, db.products.lookup product = some row →
    askedOf product lines ≤ row.stockQuantity

/-- The products that several items name are in stock for all of them. -/
def SharedInStock (db : OrdersDb) (lines : List (Option ℕ × ℕ)) : Prop :=
  ∀ product row, db.products.lookup product = some row →
    2 ≤ lines.countP (fun line => line.1 = some product) →
      askedOf product lines ≤ row.stockQuantity

namespace OrderSerializer

variable {db : OrdersDb}

/-! ## The checks of one item -/

/-- The item passes the checks of the loop. -/
def ItemPasses (db : OrdersDb) (item : ItemBody) : Prop :=
  ∃ product row, item.product = some product ∧ db.products.lookup product = some row ∧
    item.quantity.getD 0 ≠ 0 ∧ item.quantity.getD 0 ≤ row.stockQuantity

/-- `validate_items` refuses the list: it is empty, or an item does not pass. -/
def Refused (db : OrdersDb) (items : List ItemBody) : Prop :=
  items = [] ∨ ∃ item ∈ items, ¬ ItemPasses db item

/-- An item that passes is handed on with its product and quantity. -/
lemma validateItemLoop_of_passes {item : ItemBody} (h : ItemPasses db item)
    (items : List ItemBody) : ∃ data : ItemData, data.line = item.line ∧
      validateItemLoop db (item :: items) = (validateItemLoop db items).map (data :: ·) := by
  obtain ⟨product, row, hproduct, hrow, hpos, hstock⟩ := h
  refine ⟨⟨product, row, item.quantity.getD 0, item.price, hpos, hstock⟩, ?_, ?_⟩
  · rw [ItemData.line, ItemBody.line, hproduct]
  · have hfound : (item.product.bind fun id => (db.products.lookup id).map (Prod.mk id)) =
        some (product, row) := by
      rw [hproduct, Option.bind_some, hrow, Option.map_some]
    rw [validateItemLoop]
    simp only [hfound]
    rw [dif_neg hpos, dif_neg (Nat.not_lt.mpr hstock)]
    cases validateItemLoop db items <;> rfl

/-- Any other item ends the loop. -/
lemma validateItemLoop_of_not_passes {item : ItemBody} (h : ¬ ItemPasses db item)
    (items : List ItemBody) : ∃ e, validateItemLoop db (item :: items) = .error e := by
  rw [validateItemLoop]
  rcases hfound : item.product.bind fun id => (db.products.lookup id).map (Prod.mk id) with
    _ | ⟨product, row⟩
  · exact ⟨_, rfl⟩
  · obtain ⟨product', hproduct, hmap⟩ := Option.bind_eq_some_iff.mp hfound
    obtain ⟨row', hrow, hpair⟩ := Option.map_eq_some_iff.mp hmap
    obtain ⟨rfl, rfl⟩ := Prod.mk.inj hpair
    dsimp only
    by_cases hpos : item.quantity.getD 0 = 0
    · exact ⟨_, dif_pos hpos⟩
    · by_cases hstock : row'.stockQuantity < item.quantity.getD 0
      · refine ⟨.notEnough row'.name row'.stockQuantity, ?_⟩
        rw [dif_neg hpos, dif_pos hstock]
      · exact absurd ⟨product', row', hproduct, hrow, hpos, Nat.not_lt.mp hstock⟩ h

/-- A list whose items all pass is handed on with its products and quantities. -/
lemma validateItemLoop_of_all {items : List ItemBody} (h : ∀ item ∈ items, ItemPasses db item) :
    ∃ data, validateItemLoop db items = .ok data ∧
      data.map ItemData.line = items.map ItemBody.line := by
  induction items with
  | nil => exact ⟨[], rfl, rfl⟩
  | cons item items ih =>
      obtain ⟨hfirst, hrest⟩ := List.forall_mem_cons.mp h
      obtain ⟨first, hline, hloop⟩ := validateItemLoop_of_passes hfirst items
      obtain ⟨rest, hok, hlines⟩ := ih hrest
      refine ⟨first :: rest, ?_, ?_⟩
      · rw [hloop, hok]
        rfl
      · rw [List.map_cons, List.map_cons, hline, hlines]

/-- One item that does not pass makes the whole list refused. -/
lemma validateItemLoop_of_exists {items : List ItemBody}
    (h : ∃ item ∈ items, ¬ ItemPasses db item) : ∃ e, validateItemLoop db items = .error e := by
  induction items with
  | nil =>
      obtain ⟨_, hmem, -⟩ := h
      cases hmem
  | cons item items ih =>
      by_cases hpasses : ItemPasses db item
      · obtain ⟨first, -, hloop⟩ := validateItemLoop_of_passes hpasses items
        obtain ⟨bad, hmem, hbad⟩ := h
        have hlater : bad ∈ items := by
          refine (List.mem_cons.mp hmem).resolve_left ?_
          rintro rfl
          exact hbad hpasses
        obtain ⟨e, he⟩ := ih ⟨bad, hlater, hbad⟩
        exact ⟨e, by rw [hloop, he]; rfl⟩
      · exact validateItemLoop_of_not_passes hpasses items

/-- `validate_items` refuses a list, or hands all its products and quantities on. -/
lemma validateItems_cases (db : OrdersDb) (items : List ItemBody) :
    (Refused db items ∧ ∃ e, validateItems db items = .error e) ∨
      (∀ item ∈ items, ItemPasses db item) ∧ ¬ Refused db items ∧ ∃ data,
        validateItems db items = .ok data ∧
          data.map ItemData.line = items.map ItemBody.line := by
  rcases items with _ | ⟨item, items⟩
  · exact .inl ⟨.inl rfl, .noItems, rfl⟩
  · by_cases hbad : ∃ bad ∈ item :: items, ¬ ItemPasses db bad
    · exact .inl ⟨.inr hbad, validateItemLoop_of_exists hbad⟩
    · have hall : ∀ good ∈ item :: items, ItemPasses db good := by
        push Not at hbad
        exact hbad
      refine .inr ⟨hall, ?_, validateItemLoop_of_all hall⟩
      rintro (hnil | hbad')
      · cases hnil
      · exact hbad hbad'

/-! ## One product -/

/-- A product that only one item names is asked for within its stock. -/
lemma askedOf_le_of_once {items : List ItemBody} (h : ∀ item ∈ items, ItemPasses db item)
    {product : ℕ} {row : Product Price} (hrow : db.products.lookup product = some row)
    (honce : (items.map ItemBody.line).countP (fun line => line.1 = some product) < 2) :
    askedOf product (items.map ItemBody.line) ≤ row.stockQuantity := by
  rw [List.countP_eq_length_filter] at honce
  rcases hnamed : (items.map ItemBody.line).filter fun line => line.1 = some product with
    _ | ⟨line, _ | ⟨line', lines⟩⟩
  · rw [askedOf, hnamed]
    exact Nat.zero_le _
  · have hmem : line ∈ (items.map ItemBody.line).filter fun line => line.1 = some product := by
      rw [hnamed]
      exact List.mem_cons_self
    obtain ⟨hline, hproduct⟩ := List.mem_filter.mp hmem
    obtain ⟨item, hitem, rfl⟩ := List.mem_map.mp hline
    obtain ⟨product', row', hproduct', hrow', -, hstock⟩ := h item hitem
    have hsame : item.product = some product := of_decide_eq_true hproduct
    obtain rfl : product' = product := Option.some.inj (hproduct'.symm.trans hsame)
    obtain rfl : row' = row := Option.some.inj (hrow'.symm.trans hrow)
    rw [askedOf, hnamed]
    exact hstock
  · rw [hnamed] at honce
    simp only [List.length_cons] at honce
    omega

/-- **When an accepted order is within the stock**: exactly when the products that several of
its items name are in stock for all of them. -/
theorem withinStock_iff (db : OrdersDb) (items : List ItemBody) :
    (∀ data, validateItems db items = .ok data → WithinStock db (data.map ItemData.line)) ↔
      Refused db items ∨ SharedInStock db (items.map ItemBody.line) := by
  rcases validateItems_cases db items with ⟨hrefused, e, herror⟩ | ⟨hall, hnot, data, hok, hlines⟩
  · refine iff_of_true (fun data hdata => ?_) (.inl hrefused)
    rw [herror] at hdata
    cases hdata
  · rw [or_iff_right hnot]
    constructor
    · intro h product row hrow _
      rw [← hlines]
      exact h data hok product row hrow
    · intro hshared data' hdata' product row hrow
      obtain rfl : data = data' := Except.ok.inj (hok.symm.trans hdata')
      rw [hlines]
      rcases lt_or_ge ((items.map ItemBody.line).countP fun line => line.1 = some product) 2
        with honce | htwice
      · exact askedOf_le_of_once hall hrow honce
      · exact hshared product row hrow htwice

/-- The client orders the cups twice: 150 and 100 of the 200 there are. -/
def cupsTwice : List ItemBody :=
  [⟨some 1, some 1, some 1, some 150, some OrderViewSet.cup.price⟩,
    ⟨some 1, some 1, some 1, some 100, some OrderViewSet.cup.price⟩]

/-- The validated items. -/
def cupsTwiceData : List ItemData :=
  [⟨1, OrderViewSet.cup, 150, some OrderViewSet.cup.price, by decide, by decide⟩,
    ⟨1, OrderViewSet.cup, 100, some OrderViewSet.cup.price, by decide, by decide⟩]

/-- Both items are accepted, and the order asks for 250 cups. -/
theorem not_withinStock_cupsTwice : ∃ data,
    validateItems OrderViewSet.shop cupsTwice = .ok data ∧
      ¬ WithinStock OrderViewSet.shop (data.map ItemData.line) := by
  have hcup : OrderViewSet.shop.products.lookup 1 = some OrderViewSet.cup := by decide +kernel
  have hasked : askedOf 1 (cupsTwiceData.map ItemData.line) = 250 := by decide
  refine ⟨cupsTwiceData, by decide +kernel, fun h => ?_⟩
  have hstock := h 1 OrderViewSet.cup hcup
  rw [hasked] at hstock
  exact absurd hstock (by decide)

/-! ## The stored order -/

/-- Items that are stored with their columns ask for the same. -/
lemma lines_of_columns {order : ℕ} {stored : List OrderItem} {items : List ItemData}
    (h : stored.map OrderItem.columns = items.map (ItemData.columns order)) :
    stored.map OrderItem.line = items.map ItemData.line := by
  have hlines := congrArg (List.map fun columns => (some columns.2.1, columns.2.2.2.1)) h
  rw [List.map_map, List.map_map] at hlines
  exact hlines

/-- The order that `create` stores is within the stock when the validated items are. -/
theorem create_withinStock {orderNumber : String} {now client : ℕ} {data : OrderData}
    {items : List ItemData} (hitems : data.items = some items)
    (hrow : RowFits db orderNumber now client data) (hstorable : Storable db items) :
    ∃ id db', create orderNumber now client data db = (.ok id, db') ∧
      (WithinStock db' ((db'.itemsOf id).map OrderItem.line) ↔
        WithinStock db (items.map ItemData.line)) := by
  obtain ⟨db', hcreate, hsame, -, hcolumns⟩ := create_of_storable hitems hrow hstorable
  refine ⟨_, db', hcreate, ?_⟩
  rw [lines_of_columns hcolumns, WithinStock, WithinStock, hsame.products]

end OrderSerializer

end OrdersBackend
