import OrdersBackend.Market.Deletion

/-!
# The requests of the user, supplier and product endpoints

`UserViewSet`, `SupplierViewSet` and `ProductViewSet`: update, partial update and deletion, as
the framework gives them, and the actions on avatars and images.  Creations and the import are
in other files.  `handle` answers a request of a user who is logged in; a row of another one is
found by every request, unless `get_queryset` leaves it out or the action looks at its owner.
-/

namespace OrdersBackend

open Framework Tx

/-! ## Validated data -/

/-- The validated data of `UserSerializer`; a key that is not there is `none`. -/
structure UserData where
  username : Option String
  email : Option String
  firstName : Option String
  lastName : Option String
  phone : Option String
  companyName : Option String
  address : Option String
  acceptsOrders : Option Bool
  isActive : Option Bool
  avatar : Option (Option String)
  deriving DecidableEq, Repr

/-- The validated data of `SupplierSerializer`. -/
structure SupplierData where
  companyName : Option String
  contactPerson : Option String
  phone : Option String
  email : Option String
  address : Option String
  taxNumber : Option String
  bankDetails : Option String
  isActive : Option Bool
  deriving DecidableEq, Repr

def UserData.empty : UserData := ⟨none, none, none, none, none, none, none, none, none, none⟩

namespace Account

def withData (row : Account) (data : UserData) : Account where
  username := data.username.getD row.username
  email := data.email.getD row.email
  firstName := data.firstName.getD row.firstName
  lastName := data.lastName.getD row.lastName
  userType := row.userType
  phone := data.phone.getD row.phone
  companyName := data.companyName.getD row.companyName
  address := data.address.getD row.address
  supplierCode := row.supplierCode
  isStaff := row.isStaff
  isActive := data.isActive.getD row.isActive
  acceptsOrders := data.acceptsOrders.getD row.acceptsOrders
  avatar := data.avatar.getD row.avatar
  avatarSmall := row.avatarSmall
  avatarMedium := row.avatarMedium
  avatarLarge := row.avatarLarge

def withAvatar (row : Account) (file : String) : Account := { row with avatar := some file }

def withoutAvatar (row : Account) : Account :=
  { row with avatar := none, avatarSmall := none, avatarMedium := none, avatarLarge := none }

/-- `User.save` gives a supplier without a code the code it has drawn. -/
def saved (row : Account) (code : String) : Account :=
  if row.userType = .supplier ∧ (row.supplierCode = none ∨ row.supplierCode = some "") then
    { row with toUser := row.toUser.withCode code }
  else row

end Account

def SupplierRow.withData (row : SupplierRow) (data : SupplierData) (now : ℕ) : SupplierRow where
  user := row.user
  companyName := data.companyName.getD row.companyName
  contactPerson := data.contactPerson.getD row.contactPerson
  phone := data.phone.getD row.phone
  email := data.email.getD row.email
  address := data.address.getD row.address
  taxNumber := data.taxNumber.getD row.taxNumber
  bankDetails := data.bankDetails.getD row.bankDetails
  isActive := data.isActive.getD row.isActive
  updatedAt := now

def SupplierRow.toggled (row : SupplierRow) (now : ℕ) : SupplierRow :=
  { row with isActive := !row.isActive, updatedAt := now }

def StoredProduct.withData (row : StoredProduct) (data : ProductData Price) (now : ℕ) :
    StoredProduct where
  toProductRow := row.toProductRow.withData data
  updatedAt := now

def StoredProduct.withImage (row : StoredProduct) (file : String) (now : ℕ) : StoredProduct where
  toProductRow := row.toProductRow.withImage file
  updatedAt := now

/-! ## Validation against the tables -/

/-- An error of a request: a field has refused its value, a value is taken, a row it names is
not there, or a message of the program. -/
inductive FieldError
  | unreadable
  | notUnique (field : String)
  | doesNotExist (field : String)
  | message (field text : String)
  deriving DecidableEq, Repr

/-- A body is valid when its fields accept their values, which makes it `some` data, and the
tables raise no error.  The fields also ask for what `PUT` requires. -/
def validated {δ : Type} (errors : δ → List FieldError) (body : Option δ) :
    Except (List FieldError) δ :=
  match body with
  | none => .error [.unreadable]
  | some data => if (errors data).isEmpty then .ok data else .error (errors data)

/-- `UniqueValidator`: another row has the value. -/
def uniqueErrors {ρ : Type} (field : String) (t : Table ρ) (column : ρ → String) (pk : ℕ)
    (value : Option String) : List FieldError :=
  if value.any (t.taken column pk) then [.notUnique field] else []

/-- `PrimaryKeyRelatedField`: there is no such row. -/
def relatedErrors {κ : Type} (field : String) (isThere : κ → Bool) (value : Option κ) :
    List FieldError :=
  if value.all isThere then [] else [.doesNotExist field]

namespace UserSerializer

/-- `validate_email`; the users who have the email include the one of the request. -/
def validateEmail (db : MarketDb) (email : String) : List FieldError :=
  if db.users.rows.any fun r => r.2.email = email then
    [.message "email" "Пользователь с таким email уже существует."]
  else []

def errors (pk : ℕ) (db : MarketDb) (data : UserData) : List FieldError :=
  uniqueErrors "username" db.users (fun row => row.username) pk data.username ++
    (data.email.map (validateEmail db)).getD []

end UserSerializer

namespace SupplierSerializer

def errors (pk : ℕ) (db : MarketDb) (data : SupplierData) : List FieldError :=
  uniqueErrors "tax_number" db.suppliers (fun row => row.taxNumber) pk data.taxNumber

end SupplierSerializer

namespace ProductSerializer

def errors (pk : ℕ) (db : MarketDb) (data : ProductData Price) : List FieldError :=
  uniqueErrors "sku" db.products (fun row => row.sku) pk data.sku ++
    relatedErrors "supplier" (fun id => (db.suppliers.lookup id).isSome) data.supplier ++
    relatedErrors "category" (fun name => decide (name ∈ db.categories)) data.category

end ProductSerializer

/-! ## Parts that requests have in common -/

inductive MarketAnswer
  | updated (pk : ℕ)
  | deleted
  | created (image : ℕ)
  | message (text : String)
  | uploaded (text file : String)
  | invalid (errors : List FieldError)
  | error (status : ℕ) (text : String)
  | notFound
  | unauthorized
  deriving DecidableEq, Repr

namespace Market

/-- The user of a token, when he is there and active. -/
def authenticate (db : MarketDb) (user : ℕ) : Option Account :=
  (db.users.lookup user).filter fun row => row.isActive

def asUser (user : ℕ) (action : Account → Tx MarketDb PyErr MarketAnswer) :
    Tx MarketDb PyErr MarketAnswer := do
  let db ← get
  match authenticate db user with
  | none => return .unauthorized
  | some account => action account

/-- Go on with the row of `get_object`. -/
def withObject {ρ : Type} (getObject : MarketDb → Option ρ)
    (action : ρ → Tx MarketDb PyErr MarketAnswer) : Tx MarketDb PyErr MarketAnswer := do
  let db ← get
  match getObject db with
  | none => return .notFound
  | some row => action row

/-- Go on with valid data. -/
def withData {δ : Type} (errors : MarketDb → δ → List FieldError) (body : Option δ)
    (action : δ → Tx MarketDb PyErr MarketAnswer) : Tx MarketDb PyErr MarketAnswer := do
  let db ← get
  match validated (errors db) body with
  | .error errors => return .invalid errors
  | .ok data => action data

/-- `destroy`. -/
def destroyDoomed (doomed : Doomed) : Tx MarketDb PyErr MarketAnswer := do
  MarketDb.delete doomed
  return .deleted

end Market

open Market

/-! ## The viewsets -/

/-- The query parameters that `filterset_fields` names narrow what a request finds. -/
structure UserQuery where
  userType : Option UserType
  isActive : Option Bool
  deriving DecidableEq, Repr

def UserQuery.admits (query : UserQuery) (row : Account) : Bool :=
  query.userType.all (· = row.userType) && query.isActive.all (· = row.isActive)

structure SupplierQuery where
  isActive : Option Bool
  deriving DecidableEq, Repr

def SupplierQuery.admits (query : SupplierQuery) (row : SupplierRow) : Bool :=
  query.isActive.all (· = row.isActive)

structure ProductQuery where
  supplier : Option ℕ
  category : Option String
  isActive : Option Bool
  deriving DecidableEq, Repr

def ProductQuery.admits (query : ProductQuery) (row : StoredProduct) : Bool :=
  query.supplier.all (· = row.supplier) && query.category.all (· = row.category) &&
    query.isActive.all (· = row.isActive)

namespace UserViewSet

def getObject (query : UserQuery) (pk : ℕ) (db : MarketDb) : Option Account :=
  (db.users.lookup pk).filter query.admits

/-- `update` and `partial_update`. -/
def update (query : UserQuery) (pk : ℕ) (body : Option UserData) (code : String) :
    Tx MarketDb PyErr MarketAnswer :=
  withObject (getObject query pk) fun row =>
    withData (UserSerializer.errors pk) body fun data => do
      MarketDb.saveUser pk ((row.withData data).saved code)
      return .updated pk

def destroy (query : UserQuery) (pk : ℕ) : Tx MarketDb PyErr MarketAnswer :=
  withObject (getObject query pk) fun _ => destroyDoomed (.user pk)

def uploadAvatar (user : ℕ) (account : Account) (query : UserQuery) (pk : ℕ)
    (file : Option String) (code : String) : Tx MarketDb PyErr MarketAnswer :=
  withObject (getObject query pk) fun row => do
    if pk ≠ user ∧ !account.isStaff then
      return .error 403 "Вы можете изменить только свой аватар"
    else
      match file with
      | none => return .error 400 "Файл аватара обязателен"
      | some file => do
        MarketDb.saveUser pk ((row.withAvatar file).saved code)
        return .uploaded "Аватар загружен. Идёт обработка миниатюр..." file

/-- `delete_avatar`.  The deletion of each file saves the row; the last save has all of them. -/
def deleteAvatar (user : ℕ) (account : Account) (query : UserQuery) (pk : ℕ) (code : String) :
    Tx MarketDb PyErr MarketAnswer :=
  withObject (getObject query pk) fun row => do
    if pk ≠ user ∧ !account.isStaff then
      return .error 403 "Вы можете удалить только свой аватар"
    else if row.avatar.isSome then do
      MarketDb.saveUser pk (row.withoutAvatar.saved code)
      return .message "Аватар удалён"
    else return .error 400 "У пользователя нет аватара"

end UserViewSet

namespace SupplierViewSet

def getObject (query : SupplierQuery) (pk : ℕ) (db : MarketDb) : Option SupplierRow :=
  (db.suppliers.lookup pk).filter query.admits

def update (query : SupplierQuery) (pk : ℕ) (body : Option SupplierData) (now : ℕ) :
    Tx MarketDb PyErr MarketAnswer :=
  withObject (getObject query pk) fun row =>
    withData (SupplierSerializer.errors pk) body fun data => do
      MarketDb.saveSupplier pk (row.withData data now)
      return .updated pk

def destroy (query : SupplierQuery) (pk : ℕ) : Tx MarketDb PyErr MarketAnswer :=
  withObject (getObject query pk) fun _ => destroyDoomed (.supplier pk)

def toggleAcceptOrders (query : SupplierQuery) (pk now : ℕ) : Tx MarketDb PyErr MarketAnswer :=
  withObject (getObject query pk) fun row => do
    MarketDb.saveSupplier pk (row.toggled now)
    return .message
      (if row.isActive then "Прием заказов выключен" else "Прием заказов включен")

end SupplierViewSet

/-- `product.supplier.user`. -/
def MarketDb.ownerOf (db : MarketDb) (row : StoredProduct) : Option ℕ :=
  (db.suppliers.lookup row.supplier).map fun supplier => supplier.user

namespace ProductViewSet

/-- `get_queryset`, row by row: a client sees what is on sale, a supplier his own products, and
any other user everything. -/
def shownTo (db : MarketDb) (user : ℕ) (userType : UserType) (row : StoredProduct) : Bool :=
  match userType with
  | .client => row.isActive && 0 < row.stockQuantity
  | .supplier => db.ownerOf row = some user
  | .admin => true

def getObject (user : ℕ) (account : Account) (query : ProductQuery) (pk : ℕ) (db : MarketDb) :
    Option StoredProduct :=
  (db.products.lookup pk).filter fun row =>
    shownTo db user account.userType row && query.admits row

def update (user : ℕ) (account : Account) (query : ProductQuery) (pk : ℕ)
    (body : Option (ProductData Price)) (now : ℕ) : Tx MarketDb PyErr MarketAnswer :=
  withObject (getObject user account query pk) fun row =>
    withData (ProductSerializer.errors pk) body fun data => do
      MarketDb.saveProduct pk (row.withData data now)
      return .updated pk

def destroy (user : ℕ) (account : Account) (query : ProductQuery) (pk : ℕ) :
    Tx MarketDb PyErr MarketAnswer :=
  withObject (getObject user account query pk) fun _ => destroyDoomed (.product pk)

def uploadImage (user : ℕ) (account : Account) (query : ProductQuery) (pk : ℕ)
    (file : Option String) (now : ℕ) : Tx MarketDb PyErr MarketAnswer :=
  withObject (getObject user account query pk) fun row => do
    let db ← get
    if db.ownerOf row ≠ some user ∧ !account.isStaff then
      return .error 403 "Вы можете изменить только изображения своих товаров"
    else
      match file with
      | none => return .error 400 "Файл изображения обязателен"
      | some file => do
        MarketDb.saveProduct pk (row.withImage file now)
        return .uploaded "Изображение загружено. Идёт обработка миниатюр..." file

/-- The column of `request.data.get('sort_order', 0)`. -/
def sortOrderColumn (sortOrder : Option String) : Except PyErr ℕ :=
  match sortOrder with
  | none => .ok 0
  | some text => do naturalColumn (← Python.intOfText text)

def addAdditionalImage (user : ℕ) (account : Account) (query : ProductQuery) (pk : ℕ)
    (file sortOrder : Option String) : Tx MarketDb PyErr MarketAnswer :=
  withObject (getObject user account query pk) fun row => do
    let db ← get
    if db.ownerOf row ≠ some user ∧ !account.isStaff then
      return .error 403 "Вы можете добавлять изображения только к своим товарам"
    else
      match file with
      | none => return .error 400 "Файл изображения обязателен"
      | some file => do
        let sortOrder ← lift (sortOrderColumn sortOrder)
        let id ← MarketDb.insertImage
          { product := pk, image := some file, thumbnail := none, small := none, medium := none,
            sortOrder }
        return .created id

/-- `ProductImage.objects.get(id=image_id, product=product)`: the id, when there is one. -/
def imageOf (db : MarketDb) (pk : ℕ) (imageId : String) : Except PyErr (Option ℕ) := do
  match ← Python.intOfText imageId with
  | .ofNat id =>
    return if (db.images.lookup id).any fun row => row.product = pk then some id else none
  | .negSucc _ => return none

/-- `remove_additional_image`, which deletes the files and then the row. -/
def removeAdditionalImage (user : ℕ) (account : Account) (query : ProductQuery) (pk : ℕ)
    (imageId : Option String) : Tx MarketDb PyErr MarketAnswer :=
  withObject (getObject user account query pk) fun _ => do
    let db ← get
    match imageId with
    | none | some "" => return .error 400 "Параметр image_id обязателен"
    | some imageId =>
      match ← lift (imageOf db pk imageId) with
      | some id => do
        MarketDb.deleteImage id
        return .message "Изображение удалено"
      | none => return .error 404 "Изображение не найдено"

end ProductViewSet

/-! ## Requests -/

/-- A request to a row of an endpoint, with what it draws or reads off the clock. -/
inductive UserAction
  | update (body : Option UserData) (code : String)
  | destroy
  | uploadAvatar (file : Option String) (code : String)
  | deleteAvatar (code : String)
  deriving DecidableEq, Repr

inductive SupplierAction
  | update (body : Option SupplierData) (now : ℕ)
  | destroy
  | toggleAcceptOrders (now : ℕ)
  deriving DecidableEq, Repr

inductive ProductAction
  | update (body : Option (ProductData Price)) (now : ℕ)
  | destroy
  | uploadImage (file : Option String) (now : ℕ)
  | addAdditionalImage (file sortOrder : Option String)
  | removeAdditionalImage (imageId : Option String)
  deriving DecidableEq, Repr

inductive MarketRequest
  | users (query : UserQuery) (pk : ℕ) (action : UserAction)
  | suppliers (query : SupplierQuery) (pk : ℕ) (action : SupplierAction)
  | products (query : ProductQuery) (pk : ℕ) (action : ProductAction)
  deriving DecidableEq, Repr

namespace Market

def handleUsers (user : ℕ) (account : Account) (query : UserQuery) (pk : ℕ) :
    UserAction → Tx MarketDb PyErr MarketAnswer
  | .update body code => UserViewSet.update query pk body code
  | .destroy => UserViewSet.destroy query pk
  | .uploadAvatar file code => UserViewSet.uploadAvatar user account query pk file code
  | .deleteAvatar code => UserViewSet.deleteAvatar user account query pk code

def handleSuppliers (query : SupplierQuery) (pk : ℕ) :
    SupplierAction → Tx MarketDb PyErr MarketAnswer
  | .update body now => SupplierViewSet.update query pk body now
  | .destroy => SupplierViewSet.destroy query pk
  | .toggleAcceptOrders now => SupplierViewSet.toggleAcceptOrders query pk now

def handleProducts (user : ℕ) (account : Account) (query : ProductQuery) (pk : ℕ) :
    ProductAction → Tx MarketDb PyErr MarketAnswer
  | .update body now => ProductViewSet.update user account query pk body now
  | .destroy => ProductViewSet.destroy user account query pk
  | .uploadImage file now => ProductViewSet.uploadImage user account query pk file now
  | .addAdditionalImage file sortOrder =>
    ProductViewSet.addAdditionalImage user account query pk file sortOrder
  | .removeAdditionalImage imageId =>
    ProductViewSet.removeAdditionalImage user account query pk imageId

/-- The answer to a request of `user`. -/
def handle (user : ℕ) (request : MarketRequest) : Tx MarketDb PyErr MarketAnswer :=
  asUser user fun account =>
    match request with
    | .users query pk action => handleUsers user account query pk action
    | .suppliers query pk action => handleSuppliers query pk action
    | .products query pk action => handleProducts user account query pk action

/-- The state after it; an exception keeps what has been written before. -/
def exec (user : ℕ) (request : MarketRequest) (db : MarketDb) : MarketDb :=
  (handle user request db).2

end Market

end OrdersBackend
