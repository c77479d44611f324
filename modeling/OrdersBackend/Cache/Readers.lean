import OrdersBackend.Cache.Shop
import OrdersBackend.Orders.Statistics

/-!
# The cached reads

Three views keep their answer in the cache: the list of the root categories, the list of the
products and the statistics of the orders.  Each looks its key up and computes and stores its
answer when there is none.  The first keeps the serialised categories and selects the rows with
their ids later on; the other two keep the answer itself.

With an entry the model notes who has filled it, which the program does not look at: an entry
is to be what that reader would compute.
-/

namespace OrdersBackend

open Framework Tx

/-! ## What is kept -/

/-- A category as `CategorySerializer` writes it. -/
inductive CategoryData
  | mk (id : ℕ) (row : CategoryRow) (children : List CategoryData)

/-- `c['id']`. -/
def CategoryData.id : CategoryData → ℕ
  | mk id _ _ => id

/-- A product of the list, with the rows `select_related` joins to it. -/
structure ProductEntry where
  id : ℕ
  row : ListedProduct
  supplier : Option Supplier
  category : Option CategoryRow
  deriving DecidableEq

inductive Content
  | categories (serialized : List CategoryData)
  | products (result : List ProductEntry)
  | statistics (stats : Statistics)

/-- `[c['id'] for c in cached]`: a product and the key of a dictionary raise. -/
def Content.ids : Content → Except PyErr (List ℕ)
  | categories serialized => .ok (serialized.map CategoryData.id)
  | products [] => .ok []
  | products (_ :: _) => .error .typeError
  | statistics _ => .error .typeError

/-! ## Querysets -/

namespace CategoryViewSet

/-- The order of `Meta.ordering`. -/
def byName (rows : List (ℕ × CategoryRow)) : List (ℕ × CategoryRow) :=
  rows.insertionSort fun r r' => r.2.name ≤ r'.2.name

/-- `Category.objects.filter(parent__isnull=True)`. -/
def roots (db : ShopDb) : List (ℕ × CategoryRow) :=
  byName (db.categories.rows.filter fun r => r.2.parent.isNone)

/-- `obj.children.all()`. -/
def childrenOf (db : ShopDb) (id : ℕ) : List (ℕ × CategoryRow) :=
  byName (db.categories.rows.filter fun r => r.2.parent = some id)

/-- `CategorySerializer(rows, many=True).data`, to a depth. -/
def serialize (db : ShopDb) : ℕ → List (ℕ × CategoryRow) → List CategoryData
  | 0, _ => []
  | depth + 1, rows => rows.map fun r => .mk r.1 r.2 (serialize db depth (childrenOf db r.1))

/-- The serialised roots.  No path from a root is longer than the table. -/
def serialized (db : ShopDb) : List CategoryData :=
  serialize db db.categories.rows.length (roots db)

end CategoryViewSet

namespace ProductViewSet

/-- The product is in the queryset of `get_queryset`. -/
def inQueryset (db : ShopDb) (user : ℕ) (userType : UserType) (row : ListedProduct) : Bool :=
  match userType with
  | .client => row.isActive && decide (0 < row.stockQuantity)
  | .supplier => (db.accounts.suppliers.lookup row.supplier).any fun s => s.user = user
  | .admin => true

/-- The queryset of `get_queryset`, in the order of `Meta.ordering`. -/
def querysetFor (db : ShopDb) (user : ℕ) (userType : UserType) : List (ℕ × ListedProduct) :=
  (db.products.rows.filter fun r => inQueryset db user userType r.2).insertionSort
    fun r r' => r.2.name ≤ r'.2.name

/-- `list(queryset)`. -/
def listed (db : ShopDb) (queryset : List (ℕ × ListedProduct)) : List ProductEntry :=
  queryset.map fun r =>
    { id := r.1
      row := r.2
      supplier := db.accounts.suppliers.lookup r.2.supplier
      category := db.categories.lookup r.2.category }

end ProductViewSet

/-! ## Readers -/

/-- A request that reads through the cache; the user of the last two is logged in. -/
inductive Reader
  | categoryList
  | productList (user : ℕ) (userType : UserType)
  | orderStatistics (user : ℕ) (userType : UserType)
  deriving DecidableEq, Repr

namespace Reader

variable (md5 : String → String)

def key : Reader → String
  | categoryList =>
      CacheKeyBuilder.modelList md5 "category" (some "\x7b\"parent__isnull\": true\x7d")
  | productList user userType =>
    CacheKeyBuilder.productCatalog md5 (if userType = .supplier then some user else none) none
      (if userType = .client then some true else none)
  | orderStatistics user userType =>
    if userType = .supplier then CacheKeyBuilder.orderStatistics md5 none
    else CacheKeyBuilder.orderStatistics md5 (some user)

/-- The seconds an entry lives. -/
def timeout : Reader → ℕ
  | categoryList => 60 * 60
  | productList _ _ => 60 * 10
  | orderStatistics _ _ => 60 * 2

/-- What the reader computes from the database. -/
def fresh (db : ShopDb) : Reader → Except PyErr Content
  | categoryList => .ok (.categories (CategoryViewSet.serialized db))
  | productList user userType =>
    .ok (.products (ProductViewSet.listed db (ProductViewSet.querysetFor db user userType)))
  | orderStatistics user userType => do
    let queryset ← OrderViewSet.getQueryset db.toOrders user userType
    return .statistics (OrderViewSet.statisticsOf db.toOrders queryset)

end Reader

/-- An entry's value, with the reader who has filled it. -/
structure Filled where
  reader : Reader
  content : Content

variable (md5 : String → String)

/-- What the three views share: the cached value when there is one, and otherwise nothing, but
the answer has been computed and kept. -/
def Reader.consult (reader : Reader) (db : ShopDb) (now : ℕ) :
    Tx (Cache String Filled) PyErr (Option Content) := do
  match ← CacheManager.get (reader.key md5) now with
  | some cached => return some cached.content
  | none => do
    let content ← lift (reader.fresh db)
    CacheManager.set (reader.key md5) ⟨reader, content⟩ reader.timeout now
    return none

/-- `CategoryViewSet.get_queryset`. -/
def CategoryViewSet.getQueryset (db : ShopDb) (now : ℕ) :
    Tx (Cache String Filled) PyErr (List (ℕ × CategoryRow)) := do
  match ← Reader.consult md5 .categoryList db now with
  | some cached => do
    let ids ← lift cached.ids
    return byName (db.categories.rows.filter fun r => r.1 ∈ ids)
  | none => return roots db

/-- `ProductViewSet.get_queryset` of the list, through `QuerySetCache.get_or_set`. -/
def ProductViewSet.getQueryset (db : ShopDb) (user : ℕ) (userType : UserType) (now : ℕ) :
    Tx (Cache String Filled) PyErr Content := do
  match ← Reader.consult md5 (.productList user userType) db now with
  | some cached => return cached
  | none => return .products (listed db (querysetFor db user userType))

/-- `OrderViewSet.statistics`. -/
def OrderViewSet.statisticsResponse (db : ShopDb) (user : ℕ) (userType : UserType) (now : ℕ) :
    Tx (Cache String Filled) PyErr Content := do
  match ← Reader.consult md5 (.orderStatistics user userType) db now with
  | some cached => return cached
  | none => lift (Reader.fresh db (.orderStatistics user userType))

namespace Reader

/-- The cache after the view of a reader. -/
def read (db : ShopDb) (now : ℕ) (c : Cache String Filled) : Reader → Cache String Filled
  | categoryList => (CategoryViewSet.getQueryset md5 db now c).2
  | productList user userType => (ProductViewSet.getQueryset md5 db user userType now c).2
  | orderStatistics user userType =>
    (OrderViewSet.statisticsResponse md5 db user userType now c).2

variable {md5}

lemma isDigest_key (hmd5 : ∀ text, CacheKeyBuilder.IsDigest (md5 text)) (reader : Reader) :
    CacheKeyBuilder.IsDigest (reader.key md5) := by
  rcases reader with _ | ⟨user, userType⟩ | ⟨user, userType⟩
  · exact hmd5 _
  · exact hmd5 _
  · by_cases htype : userType = .supplier
    · rw [key, if_pos htype]
      exact hmd5 _
    · rw [key, if_neg htype]
      exact hmd5 _

lemma get_apply (reader : Reader) (now : ℕ) (c : Cache String Filled) :
    (CacheManager.get (reader.key md5) now : Tx (Cache String Filled) PyErr (Option Filled)) c =
      (.ok (c.get (reader.key md5) now), c) := rfl

lemma consult_of_hit {reader : Reader} {db : ShopDb} {now : ℕ} {c : Cache String Filled}
    {cached : Filled} (h : c.get (reader.key md5) now = some cached) :
    reader.consult md5 db now c = (.ok (some cached.content), c) := by
  unfold consult
  rw [bind_of_ok (reader.get_apply now c), h]
  rfl

lemma consult_of_miss {reader : Reader} {db : ShopDb} {now : ℕ} {c : Cache String Filled}
    {content : Content} (h : c.get (reader.key md5) now = none)
    (hfresh : reader.fresh db = .ok content) : reader.consult md5 db now c =
      (.ok none, c.set (reader.key md5) ⟨reader, content⟩ (now + reader.timeout)) := by
  unfold consult
  rw [bind_of_ok (reader.get_apply now c), h, hfresh]
  rfl

/-- A view changes the cache only when its key has no live entry, and then it keeps what it
computes. -/
lemma consult_cases (reader : Reader) (db : ShopDb) (now : ℕ) (c : Cache String Filled) :
    (reader.consult md5 db now c).2 = c ∨
      ∃ content, reader.fresh db = .ok content ∧ (reader.consult md5 db now c).2 =
        c.set (reader.key md5) ⟨reader, content⟩ (now + reader.timeout) := by
  rcases hget : c.get (reader.key md5) now with _ | cached
  · rcases hfresh : reader.fresh db with e | content
    · refine .inl ?_
      unfold consult
      rw [bind_of_ok (reader.get_apply now c), hget, hfresh]
      rfl
    · exact .inr ⟨content, rfl, by rw [consult_of_miss hget hfresh]⟩
  · rw [consult_of_hit hget]
    exact .inl rfl

/-- What a view makes of the cached value does not touch the cache. -/
lemma snd_bind_of_keeps {α β : Type} (m : Tx (Cache String Filled) PyErr α)
    {f : α → Tx (Cache String Filled) PyErr β} (h : ∀ a c, (f a c).2 = c)
    (c : Cache String Filled) : ((m >>= f) c).2 = (m c).2 := by
  rcases hm : m c with ⟨e | a, c'⟩
  · rw [bind_of_error hm]
  · rw [bind_of_ok hm, h]

lemma read_eq_consult (reader : Reader) (db : ShopDb) (now : ℕ) (c : Cache String Filled) :
    reader.read md5 db now c = (reader.consult md5 db now c).2 := by
  rcases reader with _ | ⟨user, userType⟩ | ⟨user, userType⟩
  · refine snd_bind_of_keeps _ (fun cached c => ?_) c
    rcases cached with _ | content
    · rfl
    · exact snd_bind_of_keeps (lift content.ids) (fun _ _ => rfl) c
  · refine snd_bind_of_keeps _ (fun cached c => ?_) c
    cases cached <;> rfl
  · refine snd_bind_of_keeps _ (fun cached c => ?_) c
    cases cached <;> rfl

/-! ## What an answer is computed from -/

lemma serialize_congr {db db' : ShopDb} (h : db'.categories = db.categories) (depth : ℕ)
    (rows : List (ℕ × CategoryRow)) :
    CategoryViewSet.serialize db' depth rows = CategoryViewSet.serialize db depth rows := by
  induction depth generalizing rows with
  | zero => rfl
  | succ depth ih =>
      unfold CategoryViewSet.serialize CategoryViewSet.childrenOf
      rw [h]
      exact List.map_congr_left fun r _ => by rw [ih]

lemma fresh_categoryList_congr {db db' : ShopDb} (h : db'.categories = db.categories) :
    fresh db' .categoryList = fresh db .categoryList := by
  unfold fresh CategoryViewSet.serialized CategoryViewSet.roots
  rw [h, serialize_congr h]

lemma fresh_productList_congr {db db' : ShopDb} (haccounts : db'.accounts = db.accounts)
    (hproducts : db'.products = db.products) (hcategories : db'.categories = db.categories)
    (user : ℕ) (userType : UserType) :
    fresh db' (.productList user userType) = fresh db (.productList user userType) := by
  unfold fresh ProductViewSet.listed ProductViewSet.querysetFor ProductViewSet.inQueryset
  rw [haccounts, hproducts, hcategories]

/-- The statistics read the names of the products, and nothing else of them. -/
lemma statisticsOf_congr {db db' : OrdersDb} (haccounts : db'.accounts = db.accounts)
    (hitems : db'.items = db.items)
    (hnames : ∀ id, (db'.products.lookup id).map (fun p => p.name) =
      (db.products.lookup id).map (fun p => p.name)) (queryset : List (ℕ × Order)) :
    OrderViewSet.statisticsOf db' queryset = OrderViewSet.statisticsOf db queryset := by
  have hview : OrderSerializer.toRepresentation db' = OrderSerializer.toRepresentation db := by
    funext r
    unfold OrderSerializer.toRepresentation OrdersDb.itemsOf
    simp only [haccounts, hitems, hnames]
  unfold OrderViewSet.statisticsOf
  rw [hview]

lemma fresh_orderStatistics_congr {db db' : ShopDb} (haccounts : db'.accounts = db.accounts)
    (horders : db'.orders = db.orders) (hitems : db'.items = db.items)
    (hproducts : db'.products = db.products) (user : ℕ) (userType : UserType) :
    fresh db' (.orderStatistics user userType) = fresh db (.orderStatistics user userType) := by
  have hnames : ∀ id, (db'.toOrders.products.lookup id).map (fun p => p.name) =
      (db.toOrders.products.lookup id).map (fun p => p.name) := by
    intro id
    unfold ShopDb.toOrders
    simp only [Table.lookup_map, hproducts, Option.map_map]
    rfl
  have hqueryset : OrderViewSet.getQueryset db'.toOrders user userType =
      OrderViewSet.getQueryset db.toOrders user userType := by
    unfold OrderViewSet.getQueryset OrderViewSet.hasItemOf OrdersDb.itemsOf ShopDb.toOrders
    simp only [haccounts, horders, hitems]
  simp only [fresh, hqueryset]
  rcases OrderViewSet.getQueryset db.toOrders user userType with e | queryset
  · rfl
  · have hstats : OrderViewSet.statisticsOf db'.toOrders queryset =
        OrderViewSet.statisticsOf db.toOrders queryset :=
      statisticsOf_congr haccounts hitems hnames queryset
    exact congrArg (fun stats => Except.ok (Content.statistics stats)) hstats

end Reader

end OrdersBackend
