import OrdersBackend.Orders.State

/-!
# The order serializer

`OrderSerializer` with its nested `OrderItemSerializer`: the validation of a request, and the
methods `create` and `update` on the validated data.

A body holds the values of a request that have passed the fields of their types; a field the
request leaves out is `none`.  All fields of the two models that are not read-only are taken
from the request, which for an item are the order, the product, the supplier, the quantity and
the price, and for an order include the client and the status.  They are required unless the
request is a partial update or the field has a default.
-/

namespace OrdersBackend

open Framework Tx

/-! ## Requests -/

/-- One element of `items` in a request. -/
structure ItemBody where
  order : Option ℕ
  product : Option ℕ
  supplier : Option ℕ
  quantity : Option ℕ
  price : Option (DecimalField 10)
  deriving DecidableEq, Repr

structure OrderBody where
  client : Option ℕ
  status : Option OrderStatus
  deliveryAddress : Option String
  contactPhone : Option String
  notes : Option String
  items : Option (List ItemBody)
  deriving DecidableEq, Repr

/-- The errors of a request; those of the fields of an item carry its position. -/
inductive OrderError
  | required (field : String)
  | doesNotExist (field : String)
  | itemRequired (index : ℕ) (field : String)
  | itemDoesNotExist (index : ℕ) (field : String)
  | noItems
  | productRequired
  | quantityNotPositive
  | notEnough (name : String) (available : ℕ)
  deriving DecidableEq, Repr

/-- The path of the field an error is reported under. -/
def OrderError.path : OrderError → List String
  | required field | doesNotExist field => [field]
  | itemRequired index field | itemDoesNotExist index field => ["items", toString index, field]
  | noItems | productRequired | quantityNotPositive | notEnough _ _ => ["items"]

/-- The text of an error of `validate_items`. -/
def OrderError.text : OrderError → Option String
  | noItems => some "Заказ должен содержать хотя бы одну позицию."
  | productRequired => some "Товар обязателен для каждой позиции."
  | quantityNotPositive => some "Количество должно быть положительным."
  | notEnough name available =>
    some ("Недостаточно товара " ++ name ++ " на складе. Доступно: " ++ toString available)
  | _ => none

/-! ## Validated data -/

/-- An element of the validated `items`: the product is there, and the quantity is positive
and in stock. -/
structure ItemData where
  productId : ℕ
  product : Product Price
  quantity : ℕ
  price : Option (DecimalField 10)
  quantity_ne_zero : quantity ≠ 0
  in_stock : quantity ≤ product.stockQuantity
  deriving DecidableEq

/-- The dictionary `validated_data`; a key that is not there is `none`. -/
structure OrderData where
  client : Option ℕ
  status : Option OrderStatus
  deliveryAddress : Option String
  contactPhone : Option String
  notes : Option String
  items : Option (List ItemData)
  deriving DecidableEq

namespace OrderSerializer

/-! ## Validation -/

/-- A field that is required, unless the request is partial. -/
def requiredErrors {α : Type} (isPartial : Bool) (error : OrderError) (value : Option α) :
    List OrderError :=
  if value.isNone && !isPartial then [error] else []

/-- A foreign key that is required and has to exist. -/
def keyErrors (isPartial : Bool) (required missing : OrderError) (known : ℕ → Bool)
    (value : Option ℕ) : List OrderError :=
  match value with
  | some id => if known id then [] else [missing]
  | none => if isPartial then [] else [required]

/-- The errors of the fields of one item. -/
def itemErrors (db : OrdersDb) (isPartial : Bool) (index : ℕ) (item : ItemBody) :
    List OrderError :=
  let key := fun field => keyErrors isPartial (.itemRequired index field)
    (.itemDoesNotExist index field)
  key "order" (fun id => (db.orders.lookup id).isSome) item.order ++
    key "product" (fun id => (db.products.lookup id).isSome) item.product ++
    key "supplier" (fun id => (db.accounts.suppliers.lookup id).isSome) item.supplier ++
    requiredErrors isPartial (.itemRequired index "quantity") item.quantity ++
    requiredErrors isPartial (.itemRequired index "price") item.price

/-- The loop of `validate_items`. -/
def validateItemLoop (db : OrdersDb) : List ItemBody → Except OrderError (List ItemData)
  | [] => .ok []
  | item :: items =>
    match item.product.bind fun id => (db.products.lookup id).map (Prod.mk id) with
    | none => .error .productRequired
    | some (id, product) =>
      -- `item_data.get('quantity', 0)`, although `create` reads `item_data['quantity']`
      let quantity := item.quantity.getD 0
      if hpos : quantity = 0 then .error .quantityNotPositive
      else if hstock : product.stockQuantity < quantity then
        .error (.notEnough product.name product.stockQuantity)
      else do
        let rest ← validateItemLoop db items
        return { productId := id, product, quantity, price := item.price,
                 quantity_ne_zero := hpos,
                 in_stock := Nat.le_of_not_lt hstock } :: rest

def validateItems (db : OrdersDb) (items : List ItemBody) : Except OrderError (List ItemData) :=
  if items.isEmpty then .error .noItems else validateItemLoop db items

/-- The nested serializer on `items`: the fields of every item, then `validate_items`. -/
def validateNested (db : OrdersDb) (isPartial : Bool) (items : List ItemBody) :
    Except (List OrderError) (List ItemData) :=
  let errors := (items.zipIdx.map fun item => itemErrors db isPartial item.2 item.1).flatten
  if errors ≠ [] then .error errors
  else
    match validateItems db items with
    | .ok data => .ok data
    | .error e => .error [e]

/-- The value of the field `items`. -/
def validateItemsField (db : OrdersDb) (isPartial : Bool) (items : Option (List ItemBody)) :
    Except (List OrderError) (Option (List ItemData)) :=
  match items with
  | some items => do return some (← validateNested db isPartial items)
  | none => if isPartial then .ok none else .error [.required "items"]

/-- `is_valid`: the validated data, or the errors of all fields. -/
def validate (db : OrdersDb) (isPartial : Bool) (body : OrderBody) :
    Except (List OrderError) OrderData :=
  let others :=
    keyErrors isPartial (.required "client") (.doesNotExist "client")
        (fun id => (db.accounts.users.lookup id).isSome) body.client ++
      requiredErrors isPartial (.required "delivery_address") body.deliveryAddress ++
      requiredErrors isPartial (.required "contact_phone") body.contactPhone
  match validateItemsField db isPartial body.items with
  | .error errors => .error (errors ++ others)
  | .ok items =>
    if others ≠ [] then .error others
    else .ok { client := body.client, status := body.status,
               deliveryAddress := body.deliveryAddress, contactPhone := body.contactPhone,
               notes := body.notes, items }

/-! ## `create` and `update` -/

/-- The loop over the items; the answer is the accumulated amount. -/
def createItems (order : ℕ) : List ItemData → ℤ → Tx OrdersDb PyErr ℤ
  | [], total => return total
  | item :: items, total => do
    let price := item.price.getD item.product.price
    OrderItem.create order item.productId item.product item.quantity price
    createItems order items (total + lineCents item.quantity price)

/-- The row `Order.objects.create` stores first. -/
def newOrder (orderNumber : String) (now client : ℕ) (data : OrderData) : Order where
  client := client
  orderNumber := orderNumber
  status := data.status.getD .pending
  totalAmount := ⟨0, by decide⟩
  deliveryAddress := data.deliveryAddress.getD ""
  contactPhone := data.contactPhone.getD ""
  notes := data.notes.getD ""
  createdAt := now
  confirmedAt := none

/-- `create`, called with the client; the order number is drawn, and every save is its own
transaction. -/
def create (orderNumber : String) (now client : ℕ) (data : OrderData) :
    Tx OrdersDb PyErr ℕ := do
  let items ← lift (data.items.elim (.error .keyError) .ok)
  let order := newOrder orderNumber now client data
  -- no transaction is opened: each of these writes stays when a later one raises
  let id ← OrdersDb.insertOrder order
  let total ← createItems id items 0
  let totalAmount ← lift (DecimalField.ofCents 12 total)
  OrdersDb.saveOrder id { order with totalAmount }
  return id

/-- `update`: the validated fields are set, the items are dropped. -/
def update (id : ℕ) (order : Order) (data : OrderData) : Tx OrdersDb PyErr Unit :=
  OrdersDb.saveOrder id
    { order with
      client := data.client.getD order.client
      status := data.status.getD order.status
      deliveryAddress := data.deliveryAddress.getD order.deliveryAddress
      contactPhone := data.contactPhone.getD order.contactPhone
      notes := data.notes.getD order.notes }

end OrderSerializer

end OrdersBackend
