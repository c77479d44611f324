import OrdersBackend.Framework.Runs
import OrdersBackend.Orders.Serializer

/-!
# The order requests

`OrderViewSet`: which orders a user sees, and the requests that write them: creation, update
and partial update, confirmation by a supplier and cancellation by the client.  A user is the
id of the one who is logged in.  `exec` is the state after a request, or after a change of the
products made elsewhere; an exception keeps the writes made before it.
-/

namespace OrdersBackend

open Framework Tx

/-- The answer to a request. -/
inductive OrderAnswer
  | created (order : ℕ)
  | updated (order : ℕ)
  | message (text : String)
  | invalid (errors : List OrderError)
  | error (status : ℕ) (text : String)
  | notFound
  | unauthorized
  deriving DecidableEq, Repr

namespace OrderViewSet

/-! ## Visible orders -/

/-- The order has an item of the supplier, `order.items.filter(supplier=supplier).exists()`. -/
def hasItemOf (db : OrdersDb) (order supplier : ℕ) : Bool :=
  (db.itemsOf order).any fun item => item.supplier == supplier

/-- `get_queryset`.  A supplier without a profile raises. -/
def getQueryset (db : OrdersDb) (user : ℕ) (userType : UserType) :
    Except PyErr (List (ℕ × Order)) :=
  match userType with
  | .client => .ok (db.orders.rows.filter fun r => r.2.client == user)
  | .supplier =>
    match db.accounts.profile user with
    | some supplier => .ok (db.orders.rows.filter fun r => hasItemOf db r.1 supplier)
    | none => .error .attributeError
  | .admin => .ok db.orders.rows

/-- `get_object`: the order under `id` when the user sees it. -/
def getObject (db : OrdersDb) (user : ℕ) (userType : UserType) (id : ℕ) :
    Except PyErr (Option Order) := do
  return (← getQueryset db user userType).lookup id

/-! ## Requests -/

/-- `create`, with the client of `perform_create`. -/
def createOrder (user : ℕ) (body : OrderBody) (orderNumber : String) (now : ℕ) :
    Tx OrdersDb PyErr OrderAnswer := do
  let db ← get
  if (db.accounts.users.lookup user).isNone then return .unauthorized
  else
    match OrderSerializer.validate db false body with
    | .error errors => return .invalid errors
    | .ok data => do
      let id ← OrderSerializer.create orderNumber now user data
      return .created id

/-- The part a request with an order has in common: the user, and the order he sees. -/
def withObject (user id : ℕ) (action : UserType → Order → Tx OrdersDb PyErr OrderAnswer) :
    Tx OrdersDb PyErr OrderAnswer := do
  let db ← get
  match db.accounts.users.lookup user with
  | none => return .unauthorized
  | some u =>
    match ← lift (getObject db user u.userType id) with
    | none => return .notFound
    | some order => action u.userType order

/-- `update`, and `partial_update` with `isPartial`. -/
def updateOrder (user id : ℕ) (isPartial : Bool) (body : OrderBody) :
    Tx OrdersDb PyErr OrderAnswer :=
  withObject user id fun _ order => do
    let db ← get
    match OrderSerializer.validate db isPartial body with
    | .error errors => return .invalid errors
    | .ok data => do
      OrderSerializer.update id order data
      return .updated id

def confirm (user id now : ℕ) : Tx OrdersDb PyErr OrderAnswer :=
  withObject user id fun userType order => do
    let db ← get
    if userType ≠ .supplier then
      return .error 403 "Только поставщики могут подтверждать заказы"
    else
      match db.accounts.profile user with
      | none => throw .attributeError
      | some supplier =>
        if !hasItemOf db id supplier then
          return .error 400 "Этот заказ не содержит ваших товаров"
        else do
          OrdersDb.saveOrder id { order with status := .confirmed, confirmedAt := some now }
          return .message "Заказ подтвержден"

def cancel (user id : ℕ) : Tx OrdersDb PyErr OrderAnswer :=
  withObject user id fun _ order => do
    if order.client ≠ user then
      return .error 403 "Вы можете отменить только свои заказы"
    else if order.status = .shipped ∨ order.status = .delivered then
      return .error 400 "Нельзя отменить заказ, который уже отправлен или доставлен"
    else do
      OrdersDb.saveOrder id { order with status := .cancelled }
      return .message "Заказ отменен"

/-! ## Runs -/

/-- A request of the order API, with the values that are drawn or read off the clock, or a
change of the products: their prices, their owners, any of their columns. -/
inductive OrderEvent
  | create (user : ℕ) (body : OrderBody) (orderNumber : String) (now : ℕ)
  | update (user id : ℕ) (isPartial : Bool) (body : OrderBody)
  | confirm (user id now : ℕ)
  | cancel (user id : ℕ)
  | products (products : Table (Product Price))

/-- The state after an event. -/
def exec (event : OrderEvent) (db : OrdersDb) : OrdersDb :=
  match event with
  | .create user body orderNumber now => (createOrder user body orderNumber now db).2
  | .update user id isPartial body => (updateOrder user id isPartial body db).2
  | .confirm user id now => (confirm user id now db).2
  | .cancel user id => (cancel user id db).2
  | .products products => { db with products }

/-! ## A small shop

The state the concrete runs of the next files start from: the client `1`, the suppliers `2`
and `3` with the profiles `1` and `2`, a cheap and a dear product of the first supplier, and
an order of the client for two cups. -/

def shopAccounts : AccountsDb :=
  let user : String → UserType → User := fun username userType =>
    ⟨username, "", "", "", userType, "", "", "", none⟩
  let program : Tx AccountsDb PyErr Unit := do
    let _ ← AccountsDb.insertUser (user "ann" .client)
    let _ ← AccountsDb.insertUser (user "firm" .supplier)
    let _ ← AccountsDb.insertUser (user "mill" .supplier)
    let _ ← AccountsDb.insertSupplier 2 "Firm" "" "" "" "" (some "7707083893")
    let _ ← AccountsDb.insertSupplier 3 "Mill" "" "" "" "" (some "500100732259")
  (program AccountsDb.empty).2

def shopProduct (name : String) (price : DecimalField 10) : Product Price :=
  { supplier := 1, category := "Dishes", name, description := "", price, stockQuantity := 200,
    minOrderQuantity := 1, unit := "шт", isActive := true, costPrice := none }

def cup : Product Price := shopProduct "Cup" ⟨500, by decide⟩

def press : Product Price := shopProduct "Press" ⟨9999999999, by decide⟩

def shop : OrdersDb :=
  let order : Order :=
    ⟨1, "ORD1", .pending, ⟨1000, by decide⟩, "Moscow", "123", "", 0, none⟩
  let program : Tx OrdersDb PyErr Unit := do
    let _ ← OrdersDb.insertOrder order
    OrderItem.create 1 1 cup 2 cup.price
  (program (OrdersDb.ofAccounts shopAccounts ((Table.empty.insert cup).insert press))).2

/-- A partial update that sets the status. -/
def statusBody (status : OrderStatus) : OrderBody := ⟨none, some status, none, none, none, none⟩

end OrderViewSet

end OrdersBackend
